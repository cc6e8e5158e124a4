/-
**The progress of sector reads, writes and erasures.**

Over transfers that do not fail and a device that carries everything out, `writeLba`, `readLba` and
`eraseLba` on a range below the last sector fail only when a reading of the clock is past their
deadline (`writeLba_progress`, `readLba_progress`, `eraseLba_progress`). The number of readings they
make is bounded by their length, so they succeed under a clock that is not too fast (`Script.Brisk`,
`Prompt.succeeds`). Where a range goes on past the last sector, a write under a clock that stands
still stores everything that has an address (`writeLba_reaches`).
-/

import Rkusb.Lba

namespace Rkusb

open Interaction Bytes FlatStore

variable {script : Script} {bus : Bus}

/-- A later deadline is passed later. -/
theorem Prompt.sooner {deadline later : Instant} {readings : Nat} {before reached : Bus} {α : Type}
    {outcome : Except RkUsbError α} (here : Prompt script later readings before outcome reached)
    (le : deadline ≤ later) : Prompt script deadline readings before outcome reached := by
  refine ⟨here.1, fun error same => ?_⟩
  obtain ⟨timeout, tick, read, late⟩ := here.2 error same
  exact ⟨timeout, tick, read, le.trans late⟩

theorem Prompt.ok {deadline : Instant} {readings : Nat} {before reached : Bus} {α : Type} {value : α}
    (few : reached.ticks ≤ before.ticks + readings) :
    Prompt script deadline readings before (.ok value : Except RkUsbError α) reached :=
  ⟨few, fun error same => by cases same⟩

/-- The time that is left does not end before the deadline. -/
theorem remainingTimeout_progress (deadline : Instant) :
    Io.After (Bus.answer script) (remainingTimeout deadline) () bus fun outcome _ reached =>
      Prompt script deadline 1 bus outcome reached ∧ reached.target = bus.target ∧
        ∀ timeout, outcome = .ok timeout → deadline ≤ script.clock reached.ticks + timeout := by
  refine after_remainingTimeout.mpr ?_
  by_cases soon : script.clock bus.ticks < deadline
  · rw [if_pos soon]
    refine ⟨.ok le_rfl, rfl, fun timeout same => ?_⟩
    cases same
    calc deadline = script.clock bus.ticks + (deadline - script.clock bus.ticks) :=
          (Nat.add_sub_of_le soon.le).symm
      _ ≤ script.clock (bus.ticks + 1) + (deadline - script.clock bus.ticks) :=
          Nat.add_le_add_right (script.clock_mono (Nat.le_succ _)) _
  · rw [if_neg soon]
    refine ⟨⟨le_rfl, fun error same => ?_⟩, rfl, fun timeout same => by cases same⟩
    cases same
    exact ⟨rfl, bus.ticks, Nat.lt_succ_self _, Nat.le_of_not_lt soon⟩

/-! ### Raw commands -/

/-- A transaction, and a look at what it received. -/
theorem transact_pure_progress (healthy : script.Healthy) {command : Command}
    (issued : command.Issued) (idle : bus.Idle) (timeout : Duration) {α : Type}
    (view : Nat × List UInt8 → α) :
    Io.After (Bus.answer script) (command.transact timeout >>= fun received => pure (view received))
      () bus fun outcome _ reached =>
        Prompt script (script.clock bus.ticks + timeout) 5 bus outcome reached := by
  refine (transact_progress healthy issued idle timeout).bind
    (fun error own reached moved => moved.stop) fun received own reached moved => ?_
  exact Prompt.ok moved.1

theorem writeLbaRaw_progress (healthy : script.Healthy) (idle : bus.Idle) {data : List UInt8}
    (valid : Command.SectorLength data.length) (pos : UInt32) (subcode : UInt8)
    (timeout : Duration) :
    Io.After (Bus.answer script) (writeLbaRaw pos data subcode timeout) () bus
      fun outcome _ reached =>
        Prompt script (script.clock bus.ticks + timeout) 5 bus outcome reached := by
  rw [writeLbaRaw_eq valid]
  exact transact_pure_progress healthy (.writeLba pos data subcode valid) idle timeout fun _ => ()

theorem readLbaRaw_progress (healthy : script.Healthy) (idle : bus.Idle) {data : List UInt8}
    (valid : Command.SectorLength data.length) (pos : UInt32) (subcode : UInt8)
    (timeout : Duration) :
    Io.After (Bus.answer script) (readLbaRaw pos data subcode timeout) () bus
      fun outcome _ reached =>
        Prompt script (script.clock bus.ticks + timeout) 5 bus outcome reached := by
  rw [readLbaRaw_eq valid]
  exact transact_pure_progress healthy (.readLba pos data subcode valid) idle timeout Prod.snd

theorem eraseLbaRaw_progress (healthy : script.Healthy) (idle : bus.Idle) {sectorCount : UInt16}
    (some : sectorCount ≠ 0) (pos : UInt32) (timeout : Duration) :
    Io.After (Bus.answer script) (eraseLbaRaw pos sectorCount timeout) () bus
      fun outcome _ reached =>
        Prompt script (script.clock bus.ticks + timeout) 5 bus outcome reached := by
  rw [eraseLbaRaw_eq some]
  exact transact_pure_progress healthy (.eraseLba pos sectorCount) idle timeout fun _ => ()

/-! ### Batched commands -/

/-- A raw command that is prompt and leaves the bus idle. -/
def PromptRaw (script : Script)
    (raw : UInt32 → List UInt8 → Duration → UsbIo Unit RkUsbError (List UInt8)) : Prop :=
  ∀ (bus : Bus) pos chunk timeout, bus.Idle → Command.SectorLength (List.length chunk) →
    Io.After (Bus.answer script) (raw pos chunk timeout) () bus fun outcome _ reached =>
      Prompt script (script.clock bus.ticks + timeout) 5 bus outcome reached ∧
        ∀ filled, outcome = .ok filled → reached.Idle ∧ filled.length = chunk.length

theorem batch_progress {raw : UInt32 → List UInt8 → Duration → UsbIo Unit RkUsbError (List UInt8)}
    (prompt : PromptRaw script raw) (deadline : Instant) (pieces : List (List UInt8))
    (valid : ∀ chunk ∈ pieces, Command.SectorLength chunk.length) (pos : UInt32)
    (fits : STORAGE_SECTOR_SIZE * pos.toNat + pieces.flatten.length < STORAGE_SECTOR_SIZE * 2 ^ 32)
    (idle : bus.Idle) :
    Io.After (Bus.answer script) (batch raw deadline pieces pos) () bus fun outcome _ reached =>
      Prompt script deadline (6 * pieces.length) bus outcome reached := by
  induction pieces generalizing pos bus with
  | nil => exact Prompt.ok le_rfl
  | cons chunk rest ih =>
    obtain ⟨sectors, others⟩ := List.forall_mem_cons.mp valid
    rw [List.flatten_cons, List.length_append] at fits
    have whole := Nat.div_add_mod chunk.length STORAGE_SECTOR_SIZE
    have aligned := sectors.2.1
    have inside : pos.toNat + chunk.length / STORAGE_SECTOR_SIZE < 2 ^ 32 := by
      unfold STORAGE_SECTOR_SIZE at *
      omega
    have count : 6 * (chunk :: rest).length = 1 + (5 + 6 * rest.length) := by
      rw [List.length_cons]
      omega
    rw [count]
    refine (remainingTimeout_progress deadline).bind
      (fun error own reached waited => waited.1.stop.mono (by omega)) fun timeout own ready waited => ?_
    obtain ⟨waits, same, left⟩ := waited
    refine (prompt ready pos chunk timeout (idle.of_target same) sectors).bind
      (fun error own reached moved =>
        (waits.next (moved.1.sooner (left timeout rfl)).stop).mono (by omega))
      fun filled own middle moved => ?_
    obtain ⟨moves, done⟩ := moved
    obtain ⟨middleIdle, length⟩ := done filled rfl
    have soFar := waits.next (moves.sooner (left timeout rfl))
    obtain ⟨next, advances⟩ := advanceLbaByBytes_of_lt inside
    rw [length, advances]
    refine Io.after_ofExcept_bind.mpr ?_
    have position : STORAGE_SECTOR_SIZE * next.toNat + rest.flatten.length <
        STORAGE_SECTOR_SIZE * 2 ^ 32 := by
      rw [advanceLbaByBytes_ok advances, Nat.mul_add]
      omega
    refine (ih others next position middleIdle).bind (fun error own reached moved =>
      (soFar.next moved.stop).mono (by omega)) fun result own reached moved => ?_
    exact (soFar.next (Prompt.ok moved.1)).mono (by omega)

theorem writeLbaRaw_promptRaw (healthy : script.Healthy) (subcode : UInt8) :
    PromptRaw script (writeChunk subcode) := by
  intro bus pos chunk timeout idle valid
  refine ((writeLbaRaw_progress healthy idle valid pos subcode timeout).and
    (writeLbaRaw_effect idle valid pos subcode timeout)).bind
    (fun error own reached both => ⟨both.1.stop, fun filled same => by cases same⟩)
    fun _ own reached both => ?_
  refine ⟨Prompt.ok both.1.1, fun filled same => ?_⟩
  cases same
  exact ⟨both.2.written.2, rfl⟩

theorem readLbaRaw_promptRaw (healthy : script.Healthy) (subcode : UInt8) :
    PromptRaw script (readChunk subcode) := by
  intro bus pos chunk timeout idle valid
  refine ((readLbaRaw_progress healthy idle valid pos subcode timeout).and
    (readLbaRaw_effect idle valid pos subcode timeout)).imp fun outcome own reached both => ?_
  refine ⟨both.1, fun filled same => ?_⟩
  obtain ⟨reachedIdle, found⟩ := both.2.2 filled same
  exact ⟨reachedIdle, by rw [found, length_slice]⟩

/-- Reading one sector within the time that is left. -/
theorem readSector_progress (healthy : script.Healthy) (idle : bus.Idle) (pos : UInt32)
    (subcode : UInt8) (timeout : Duration) :
    Io.After (Bus.answer script)
      (readLbaRaw pos (List.replicate STORAGE_SECTOR_SIZE 0) subcode timeout) () bus
      fun outcome _ reached =>
        Prompt script (script.clock bus.ticks + timeout) 5 bus outcome reached :=
  readLbaRaw_progress healthy idle (by
    rw [List.length_replicate]
    decide) pos subcode timeout

theorem writeLbaTail_progress (healthy : script.Healthy) (deadline : Instant) (subcode : UInt8)
    (pos : UInt32) {tail : List UInt8} (short : tail.length ≤ STORAGE_SECTOR_SIZE)
    (idle : bus.Idle) :
    Io.After (Bus.answer script) (writeLbaTail deadline subcode pos tail) () bus
      fun outcome _ reached => Prompt script deadline 12 bus outcome reached := by
  unfold writeLbaTail
  by_cases empty : tail.length = 0
  · rw [if_pos empty]
    exact Prompt.ok (Nat.le_add_right _ _)
  rw [if_neg empty]
  refine (remainingTimeout_progress deadline).bind
    (fun error own reached waited => waited.1.stop.mono (by decide)) fun timeout own ready waited => ?_
  obtain ⟨waits, same, left⟩ := waited
  have readyIdle := idle.of_target same
  refine ((readSector_progress healthy readyIdle pos subcode timeout).and
    (readSector_effect readyIdle pos subcode timeout)).bind
    (fun error own reached both =>
      (waits.next (both.1.sooner (left timeout rfl)).stop).mono (by decide))
    fun sector own read both => ?_
  have soFar := waits.next (both.1.sooner (left timeout rfl))
  obtain ⟨readIdle, found⟩ := both.2.2 sector rfl
  refine (remainingTimeout_progress deadline).bind
    (fun error own reached waited => (soFar.next waited.1.stop).mono (by decide))
    fun timeout' own ready' waited => ?_
  obtain ⟨waits', same', left'⟩ := waited
  have length : (tail ++ sector.drop tail.length).length = STORAGE_SECTOR_SIZE := by
    rw [found, List.length_append, List.length_drop, length_slice]
    omega
  refine (writeLbaRaw_progress healthy (readIdle.of_target same') (by
    rw [length]
    decide) pos subcode timeout').imp fun outcome own reached moved => ?_
  exact soFar.next (waits'.next (moved.sooner (left' timeout' rfl)))

theorem readLbaTail_progress (healthy : script.Healthy) (deadline : Instant) (subcode : UInt8)
    (pos : UInt32) (tail : List UInt8) (idle : bus.Idle) :
    Io.After (Bus.answer script) (readLbaTail deadline subcode pos tail) () bus
      fun outcome _ reached => Prompt script deadline 6 bus outcome reached := by
  unfold readLbaTail
  by_cases empty : tail.length = 0
  · rw [if_pos empty]
    exact Prompt.ok (Nat.le_add_right _ _)
  rw [if_neg empty]
  refine (remainingTimeout_progress deadline).bind
    (fun error own reached waited => waited.1.stop.mono (by decide)) fun timeout own ready waited => ?_
  obtain ⟨waits, same, left⟩ := waited
  refine (readSector_progress healthy (idle.of_target same) pos subcode timeout).bind
    (fun error own reached moved => waits.next (moved.sooner (left timeout rfl)).stop)
    fun sector own read moved => ?_
  exact Prompt.ok (waits.next (moved.sooner (left timeout rfl))).1

/-- The number of times that a read or a write of a length may look at the clock. -/
def readings (length : Nat) : Nat := 6 * (length / MAX_LBA_TRANSFER_BYTES) + 19

theorem length_pieces_le (data : List UInt8) : 6 * (pieces data).length + 13 ≤ readings data.length := by
  have few := length_chunks MAX_LBA_TRANSFER_BYTES (by decide)
    (data.take (data.length - data.length % STORAGE_SECTOR_SIZE))
  have shorter : (data.take (data.length - data.length % STORAGE_SECTOR_SIZE)).length /
      MAX_LBA_TRANSFER_BYTES ≤ data.length / MAX_LBA_TRANSFER_BYTES :=
    Nat.div_le_div_right ((List.length_take_le _ _).trans (Nat.sub_le _ _))
  unfold readings pieces
  omega

theorem pieces_fit {pos : UInt32} {data : List UInt8}
    (fits : pos.toNat + data.length / STORAGE_SECTOR_SIZE < 2 ^ 32) :
    STORAGE_SECTOR_SIZE * pos.toNat + (pieces data).flatten.length < STORAGE_SECTOR_SIZE * 2 ^ 32 := by
  rw [length_pieces, ← Nat.mul_add]
  exact Nat.mul_lt_mul_of_pos_left fits (by decide)

/-- **`writeLba` on a range below the last sector fails only past its deadline.** -/
theorem writeLba_progress (healthy : script.Healthy) (idle : bus.Idle) (pos : UInt32)
    (data : List UInt8) (subcode : UInt8) (timeout : Duration)
    (fits : pos.toNat + data.length / STORAGE_SECTOR_SIZE < 2 ^ 32) :
    Io.After (Bus.answer script) (writeLba pos data subcode timeout) () bus
      fun outcome _ reached => Prompt script (script.clock bus.ticks + timeout)
        (readings data.length) bus outcome reached := by
  have few := length_pieces_le data
  unfold writeLba
  by_cases empty : data.length = 0
  · rw [if_pos empty]
    exact Prompt.ok (Nat.le_add_right _ _)
  rw [if_neg empty]
  have started : Prompt script (script.clock bus.ticks + timeout) 1 bus
      (.ok () : Except RkUsbError Unit) { bus with ticks := bus.ticks + 1 } := .ok le_rfl
  refine after_now.mpr ?_
  have body := @batch_progress script { bus with ticks := bus.ticks + 1 } _
    (writeLbaRaw_promptRaw healthy subcode) (script.clock bus.ticks + timeout) (pieces data)
    (pieces_valid data) pos (pieces_fit fits) idle
  have aligned : Io.After (Bus.answer script)
      (writeLbaChunks (script.clock bus.ticks + timeout) subcode (pieces data) pos) ()
      { bus with ticks := bus.ticks + 1 } fun outcome _ reached =>
        Prompt script (script.clock bus.ticks + timeout) (6 * (pieces data).length)
          { bus with ticks := bus.ticks + 1 } outcome reached := by
    rw [writeLbaChunks_eq]
    refine body.bind (fun error own reached moved => moved.stop) fun result own reached moved => ?_
    exact Prompt.ok moved.1
  refine (aligned.and (writeLbaChunks_effect _ subcode (pieces data) (pieces_valid data) pos idle)).bind
    (fun error own reached both => (started.next both.1.stop).mono (by omega))
    fun next own middle both => ?_
  refine (writeLbaTail_progress healthy _ subcode next (length_tailOf_le data)
    both.2.1.written.2).imp fun outcome own reached moved => ?_
  exact (started.next (both.1.next moved)).mono (by omega)

/-- **`readLba` on a range below the last sector fails only past its deadline.** -/
theorem readLba_progress (healthy : script.Healthy) (idle : bus.Idle) (pos : UInt32)
    (data : List UInt8) (subcode : UInt8) (timeout : Duration)
    (fits : pos.toNat + data.length / STORAGE_SECTOR_SIZE < 2 ^ 32) :
    Io.After (Bus.answer script) (readLba pos data subcode timeout) () bus
      fun outcome _ reached => Prompt script (script.clock bus.ticks + timeout)
        (readings data.length) bus outcome reached := by
  have few := length_pieces_le data
  unfold readLba
  by_cases empty : data.length = 0
  · rw [if_pos empty]
    exact Prompt.ok (Nat.le_add_right _ _)
  rw [if_neg empty]
  have started : Prompt script (script.clock bus.ticks + timeout) 1 bus
      (.ok () : Except RkUsbError Unit) { bus with ticks := bus.ticks + 1 } := .ok le_rfl
  refine after_now.mpr ?_
  have aligned := @batch_progress script { bus with ticks := bus.ticks + 1 } _
    (readLbaRaw_promptRaw healthy subcode) (script.clock bus.ticks + timeout) (pieces data)
    (pieces_valid data) pos (pieces_fit fits) idle
  rw [← readLbaChunks_eq] at aligned
  refine (aligned.and (readLbaChunks_effect _ subcode (pieces data) (pieces_valid data) pos idle)).bind
    (fun error own reached both => (started.next both.1.stop).mono (by omega))
    fun result own middle both => ?_
  refine (readLbaTail_progress healthy _ subcode result.2 (tailOf data)
    (both.2.2 result rfl).1).bind
    (fun error own reached moved => (started.next (both.1.next moved.stop)).mono (by omega))
    fun tail own reached moved => ?_
  exact (started.next (both.1.next (Prompt.ok moved.1))).mono (by omega)

/-! ### Erasures -/

theorem checkedAddSectors_of_lt {pos : UInt32} {sectors : Nat}
    (fits : pos.toNat + sectors < 2 ^ 32) : ∃ next, checkedAddSectors pos sectors = .ok next := by
  refine ⟨UInt32.ofNat (pos.toNat + sectors), ?_⟩
  rw [checkedAddSectors, if_pos fits]

theorem eraseLbaLoop_progress (healthy : script.Healthy) (deadline : Instant) (rounds : Nat)
    (pos : UInt32) (remaining : Nat) (enough : remaining ≤ rounds)
    (fits : pos.toNat + remaining < 2 ^ 32) (idle : bus.Idle) :
    Io.After (Bus.answer script) (eraseLbaLoop deadline rounds pos remaining) () bus
      fun outcome _ reached => Prompt script deadline (6 * rounds) bus outcome reached := by
  induction rounds generalizing pos remaining bus with
  | zero => exact Prompt.ok le_rfl
  | succ rounds ih =>
    unfold eraseLbaLoop
    by_cases none : remaining = 0
    · rw [if_pos none]
      exact Prompt.ok (Nat.le_add_right _ _)
    rw [if_neg none]
    have least : 0 < min remaining 65535 := by omega
    refine (remainingTimeout_progress deadline).bind
      (fun error own reached waited => waited.1.stop.mono (by omega)) fun timeout own ready waited => ?_
    obtain ⟨waits, same, left⟩ := waited
    have readyIdle := idle.of_target same
    refine ((eraseLbaRaw_progress healthy readyIdle (chunkSectors_ne_zero none) pos timeout).and
      (eraseLbaRaw_effect readyIdle (chunkSectors_ne_zero none) pos timeout)).bind
      (fun error own reached both =>
        (waits.next (both.1.sooner (left timeout rfl)).stop).mono (by omega))
      fun _ own erased both => ?_
    have soFar := waits.next (both.1.sooner (left timeout rfl))
    obtain ⟨next, advances⟩ := @checkedAddSectors_of_lt pos (min remaining 65535) (by omega)
    rw [advances]
    refine Io.after_ofExcept_bind.mpr ?_
    have position := checkedAddSectors_ok advances
    refine (ih next (remaining - min remaining 65535) (by omega) (by omega)
      both.2.wiped.2).imp fun outcome own reached moved => ?_
    exact (soFar.next moved).mono (by omega)

/-- **`eraseLba` on a range below the last sector fails only past its deadline.** -/
theorem eraseLba_progress (healthy : script.Healthy) (idle : bus.Idle) (pos count : UInt32)
    (timeout : Duration) (fits : pos.toNat + count.toNat < 2 ^ 32) :
    Io.After (Bus.answer script) (eraseLba pos count timeout) () bus
      fun outcome _ reached => Prompt script (script.clock bus.ticks + timeout)
        (6 * count.toNat + 1) bus outcome reached := by
  unfold eraseLba
  by_cases none : count = 0
  · rw [if_pos none]
    exact Prompt.ok (Nat.le_add_right _ _)
  rw [if_neg none]
  have started : Prompt script (script.clock bus.ticks + timeout) 1 bus
      (.ok () : Except RkUsbError Unit) { bus with ticks := bus.ticks + 1 } := .ok le_rfl
  refine after_now.mpr ?_
  refine (@eraseLbaLoop_progress script { bus with ticks := bus.ticks + 1 } healthy
    (script.clock bus.ticks + timeout) count.toNat pos count.toNat le_rfl fits idle).imp ?_
  intro outcome own reached moved
  exact (started.next moved).mono (by omega)

/-! ### Success in time -/

/-- A clock that makes a number of steps within a time, whenever it starts. -/
def Script.Brisk (script : Script) (steps : Nat) (timeout : Duration) : Prop :=
  ∀ tick, script.clock (tick + steps) < script.clock tick + timeout

theorem Script.Brisk.mono {steps fewer : Nat} {timeout : Duration}
    (brisk : script.Brisk steps timeout) (le : fewer ≤ steps) : script.Brisk fewer timeout :=
  fun tick => lt_of_le_of_lt (script.clock_mono (Nat.add_le_add_left le tick)) (brisk tick)

/-- A prompt computation under a brisk clock succeeds. -/
theorem Prompt.succeeds {steps : Nat} {timeout : Duration} (brisk : script.Brisk steps timeout)
    {reached : Bus} {α : Type} {outcome : Except RkUsbError α}
    (prompt : Prompt script (script.clock bus.ticks + timeout) steps bus outcome reached) :
    ∃ value, outcome = .ok value := by
  cases outcome with
  | ok value => exact ⟨value, rfl⟩
  | error error =>
    obtain ⟨-, tick, before, late⟩ := prompt.2 error rfl
    have early : script.clock tick ≤ script.clock (bus.ticks + steps) :=
      script.clock_mono (by have := prompt.1; omega)
    exact absurd (lt_of_le_of_lt early (brisk bus.ticks)) (Nat.not_lt.mpr late)

/-! ### A clock that stands still -/

/-- The device carries everything out, and no time passes. -/
structure Script.Still (script : Script) : Prop where
  healthy : script.Healthy
  still : ∀ tick, script.clock tick = script.clock 0

theorem Script.undisturbed_still : Script.undisturbed.Still :=
  ⟨Script.undisturbed_healthy, fun _ => rfl⟩

theorem Script.Still.brisk (still : script.Still) {timeout : Duration} (some : 0 < timeout)
    (steps : Nat) : script.Brisk steps timeout := by
  intro tick
  rw [still.still, still.still tick]
  exact Nat.lt_add_of_pos_right some

/-- One raw write under a clock that stands still. -/
theorem writeLbaRaw_reaches (still : script.Still) (idle : bus.Idle) {data : List UInt8}
    (valid : Command.SectorLength data.length) (pos : UInt32) (subcode : UInt8) {timeout : Duration}
    (some : 0 < timeout) :
    Io.After (Bus.answer script) (writeLbaRaw pos data subcode timeout) () bus
      fun outcome _ reached => outcome = .ok () ∧ reached.Idle ∧
        reached.target.disk = splice bus.target.disk (STORAGE_SECTOR_SIZE * pos.toNat) data := by
  refine ((writeLbaRaw_progress still.healthy idle valid pos subcode timeout).and
    (writeLbaRaw_effect idle valid pos subcode timeout)).imp fun outcome own reached both => ?_
  obtain ⟨value, rfl⟩ := both.1.succeeds (still.brisk some 5)
  exact ⟨rfl, both.2.written.2, both.2.written.1⟩

theorem writeLbaChunks_reaches (still : script.Still) {deadline : Instant}
    (soon : script.clock 0 < deadline) (subcode : UInt8) (pieces : List (List UInt8))
    (valid : ∀ chunk ∈ pieces, Command.SectorLength chunk.length) (pos : UInt32)
    (idle : bus.Idle) {place : Nat} (addressed : place < STORAGE_SECTOR_SIZE * 2 ^ 32) :
    Io.After (Bus.answer script) (writeLbaChunks deadline subcode pieces pos) () bus
      fun _ _ reached => reached.target.disk place =
        splice bus.target.disk (STORAGE_SECTOR_SIZE * pos.toNat) pieces.flatten place := by
  induction pieces generalizing pos bus with
  | nil => exact congrFun (splice_nil _ _).symm place
  | cons chunk rest ih =>
    obtain ⟨sectors, others⟩ := List.forall_mem_cons.mp valid
    rw [List.flatten_cons, splice_append]
    refine Io.after_bind.mpr (after_remainingTimeout.mpr ?_)
    rw [still.still bus.ticks, if_pos soon]
    have readyIdle : Bus.Idle { bus with ticks := bus.ticks + 1 } := idle
    refine (writeLbaRaw_reaches still readyIdle sectors pos subcode (Nat.sub_pos_of_lt soon)).bind
      (fun error own reached wrote => by cases wrote.1) fun _ own reached wrote => ?_
    obtain ⟨-, reachedIdle, disk⟩ := wrote
    refine Io.after_ofExcept_bind.mpr ?_
    have whole := Nat.div_add_mod chunk.length STORAGE_SECTOR_SIZE
    have aligned := sectors.2.1
    cases advances : advanceLbaByBytes pos chunk.length with
    | error error =>
      -- the loop ran out of positions: what is left of the data has no address
      have past : place < STORAGE_SECTOR_SIZE * pos.toNat + chunk.length := by
        refine Nat.lt_of_not_le fun le => ?_
        obtain ⟨next, found⟩ := @advanceLbaByBytes_of_lt pos chunk.length (by
          unfold STORAGE_SECTOR_SIZE at *
          omega)
        rw [found] at advances
        cases advances
      rw [splice_of_lt _ _ _ past]
      exact congrFun disk place
    | ok next =>
      have position : STORAGE_SECTOR_SIZE * next.toNat =
          STORAGE_SECTOR_SIZE * pos.toNat + chunk.length := by
        rw [advanceLbaByBytes_ok advances, Nat.mul_add]
        omega
      refine (ih others next reachedIdle).imp ?_
      intro _ _ last stored
      rw [stored, disk, position]

/-- **What has an address is stored**, whether the write returns `Ok` or runs out of positions. -/
theorem writeLba_reaches (still : script.Still) (idle : bus.Idle) (pos : UInt32)
    {data : List UInt8} (whole : data.length % STORAGE_SECTOR_SIZE = 0) (subcode : UInt8)
    {timeout : Duration} (some : 0 < timeout) {place : Nat}
    (addressed : place < STORAGE_SECTOR_SIZE * 2 ^ 32) :
    Io.After (Bus.answer script) (writeLba pos data subcode timeout) () bus
      fun _ _ reached => reached.target.disk place =
        splice bus.target.disk (STORAGE_SECTOR_SIZE * pos.toNat) data place := by
  unfold writeLba
  by_cases empty : data.length = 0
  · rw [if_pos empty, List.length_eq_zero_iff.mp empty]
    exact congrFun (splice_nil _ _).symm place
  rw [if_neg empty]
  refine after_now.mpr ?_
  have noTail : tailOf data = [] := by
    rw [← List.length_eq_zero_iff, length_tailOf, whole]
  have all : (pieces data).flatten = data := by
    have parts := pieces_append_tail data
    rwa [noTail, List.append_nil] at parts
  have body := @writeLbaChunks_reaches script { bus with ticks := bus.ticks + 1 } still
    (script.clock bus.ticks + timeout)
    (by rw [still.still bus.ticks]; exact Nat.lt_add_of_pos_right some) subcode (pieces data)
    (pieces_valid data) pos idle place addressed
  rw [all] at body
  refine body.bind (fun _ _ _ stored => stored) fun next _ reached stored => ?_
  show Io.After _ (writeLbaTail _ subcode next (tailOf data)) _ _ _
  rw [noTail]
  exact stored

end Rkusb
