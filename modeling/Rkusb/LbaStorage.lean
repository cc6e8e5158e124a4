/-
**The device as a flat byte storage, after any run of commands.**

What earlier commands left on the pipe is under their tags. A transaction that returns `Ok` finds
the bus idle all the same (`StartsIdle`), and so do `writeLba` and `readLba`, if they transfer
anything. `lba_flat_storage`: calls that return `Ok`, one after another, are the reads and writes
of a flat byte storage.
-/

import Rkusb.Lba

namespace Rkusb

open Interaction Bytes FlatStore

variable {script : Script} {bus : Bus}

/-! ### After a run -/

/-- The replies on the pipe, and the command that waits for data, are those of earlier commands, and
the next tag is none of theirs. -/
def Bus.Ready (script : Script) (bus : Bus) : Prop :=
  ∃ tags, bus.target.Known tags ∧ ¬tags (script.tags bus.draws)

theorem Bus.Idle.ready (idle : bus.Idle) : bus.Ready script :=
  ⟨fun _ => False, Target.Idle.known idle _, id⟩

theorem Run.ready {start : Bus} (idle : start.Idle) (run : Run script start bus)
    (fresh : ¬Run.drawn script start bus (script.tags bus.draws)) : bus.Ready script :=
  ⟨Run.drawn script start bus, run.known idle, fresh⟩

/-! ### The first command -/

/-- From a bus that is not idle the computation fails, and what it does to the storage is `effect`. -/
def FailsUnlessIdle (script : Script) (effect : (Nat → UInt8) → (Nat → UInt8) → Prop) {α : Type}
    (computation : UsbIo Unit RkUsbError α) : Prop :=
  ∀ bus : Bus, bus.Ready script → ¬bus.Idle →
    Io.After (Bus.answer script) computation () bus fun outcome _ reached =>
      (∀ value, outcome ≠ .ok value) ∧ effect bus.target.disk reached.target.disk

namespace FailsUnlessIdle

variable {α β : Type} {effect effect' : (Nat → UInt8) → (Nat → UInt8) → Prop}

theorem throw (error : RkUsbError) (refl : ∀ disk, effect disk disk) :
    FailsUnlessIdle script effect (Io.throw error : UsbIo Unit RkUsbError α) :=
  fun _ _ _ => ⟨fun _ fails => (by cases fails), refl _⟩

/-- What follows the command that fails is not reached. -/
theorem bind {first : UsbIo Unit RkUsbError α} (fails : FailsUnlessIdle script effect first)
    (next : α → UsbIo Unit RkUsbError β) : FailsUnlessIdle script effect (first >>= next) := by
  intro bus ready busy
  refine (fails bus ready busy).bind (fun error own reached failed => ?_)
    fun value own reached failed => absurd rfl (failed.1 value)
  exact ⟨fun _ same => (by cases same), failed.2⟩

theorem mono {computation : UsbIo Unit RkUsbError α}
    (fails : FailsUnlessIdle script effect computation)
    (weaker : ∀ disk disk', effect disk disk' → effect' disk disk') :
    FailsUnlessIdle script effect' computation := by
  intro bus ready busy
  refine (fails bus ready busy).imp ?_
  intro outcome own reached failed
  exact ⟨failed.1, weaker _ _ failed.2⟩

/-- The clock is read before. -/
theorem now_bind {next : Instant → UsbIo Unit RkUsbError α}
    (fails : ∀ time, FailsUnlessIdle script effect (next time)) :
    FailsUnlessIdle script effect (now >>= next) :=
  fun bus ready busy =>
    after_now.mpr (fails _ { bus with ticks := bus.ticks + 1 } ready busy)

theorem remainingTimeout_bind {deadline : Instant} {next : Duration → UsbIo Unit RkUsbError α}
    (refl : ∀ disk, effect disk disk)
    (fails : ∀ timeout, FailsUnlessIdle script effect (next timeout)) :
    FailsUnlessIdle script effect (remainingTimeout deadline >>= next) := by
  intro bus ready busy
  refine Io.after_bind.mpr (after_remainingTimeout.mpr ?_)
  by_cases soon : script.clock bus.ticks < deadline
  · rw [if_pos soon]
    exact fails _ { bus with ticks := bus.ticks + 1 } ready busy
  · rw [if_neg soon]
    exact ⟨fun _ same => (by cases same), refl _⟩

/-- **A transaction** is taken for done only on an idle bus. Else the device may carry it out all the
same. -/
theorem transact {command : Command} (issued : command.Issued) (timeout : Duration) :
    FailsUnlessIdle script (fun disk disk' => ¬WireCommand.Selects command.opcode →
      disk' = disk ∨ ∃ tag, disk' =
        (command.wire tag).stores script.erased (command.dataOut.getD []) disk)
      (command.transact timeout) := by
  rintro bus ⟨tags, known, fresh⟩ busy
  have tagged := (Cbw.initial_fields command.opcode (script.tags bus.draws)).2.1
  have unused : ¬tags (command.wrap (Cbw.initial command.opcode (script.tags bus.draws))).tag :=
    fun member => fresh (tagged ▸ member)
  have stages := issued.stages (script.tags bus.draws)
  refine after_transact.mpr (((cbwTransaction_ok script { bus with draws := bus.draws + 1 } stages
    known unused timeout).and (cbwTransaction_flash script { bus with draws := bus.draws + 1 } stages
      known timeout)).imp ?_)
  intro outcome _ reached both
  refine ⟨fun received ok => busy (both.1 received ok).1, ?_⟩
  exact fun stays => (Target.disk_of_flash stays both.2).imp_right fun done => ⟨_, done⟩

end FailsUnlessIdle

/-- A computation that succeeds only from an idle bus. -/
def StartsIdle {α : Type} (computation : UsbIo Unit RkUsbError α) : Prop :=
  ∀ (script : Script) (bus : Bus), bus.Ready script →
    Io.After (Bus.answer script) computation () bus fun outcome _ _ =>
      ∀ value, outcome = .ok value → bus.Idle

theorem FailsUnlessIdle.startsIdle {α : Type} {computation : UsbIo Unit RkUsbError α}
    {effect : Script → (Nat → UInt8) → (Nat → UInt8) → Prop}
    (fails : ∀ script, FailsUnlessIdle script (effect script) computation) :
    StartsIdle computation := by
  intro script bus ready value ok
  by_contra busy
  exact (fails script bus ready busy).1 value ok

/-- The storage is as before. -/
def Kept (disk disk' : Nat → UInt8) : Prop := disk' = disk

theorem Kept.refl (disk : Nat → UInt8) : Kept disk disk := rfl

/-- The storage has got the data, or is as before. -/
def Stored (start : Nat) (data : List UInt8) (disk disk' : Nat → UInt8) : Prop :=
  disk' = disk ∨ disk' = splice disk start data

/-- The storage has got a beginning of the data. -/
def Began (start : Nat) (data : List UInt8) (disk disk' : Nat → UInt8) : Prop :=
  ∃ count, count ≤ data.length ∧ disk' = splice disk start (data.take count)

theorem Began.refl (start : Nat) (data : List UInt8) (disk : Nat → UInt8) :
    Began start data disk disk :=
  ⟨0, Nat.zero_le _, (splice_nil _ _).symm⟩

/-- That is a write which stops. -/
theorem Began.torn {start : Nat} {data : List UInt8} {disk disk' : Nat → UInt8}
    (began : Began start data disk disk') : Torn [(start, data)] disk disk' := by
  obtain ⟨count, -, same⟩ := began
  exact same ▸ .within start count data [] disk

/-- The first part of the data. -/
theorem Stored.began {start : Nat} {first : List UInt8} (rest : List UInt8)
    {disk disk' : Nat → UInt8} (stored : Stored start first disk disk') :
    Began start (first ++ rest) disk disk' := by
  rcases stored with rfl | rfl
  · exact Began.refl _ _ _
  · refine ⟨first.length, ?_, by rw [List.take_left]⟩
    rw [List.length_append]
    exact Nat.le_add_right _ _

theorem writeLbaRaw_failsUnlessIdle {data : List UInt8} (some : data.length ≠ 0) (pos : UInt32)
    (subcode : UInt8) (timeout : Duration) :
    FailsUnlessIdle script (Stored (STORAGE_SECTOR_SIZE * pos.toNat) data)
      (writeLbaRaw pos data subcode timeout) := by
  by_cases valid : Command.SectorLength data.length
  · rw [writeLbaRaw_eq valid]
    refine ((FailsUnlessIdle.transact (.writeLba pos data subcode valid) timeout).mono ?_).bind _
    intro disk disk' moved
    rcases moved (by decide : ¬WireCommand.Selects 0x15) with same | ⟨tag, done⟩
    · exact .inl same
    · exact .inr done
  · rw [writeLbaRaw_of_not valid, if_neg some]
    exact .throw _ fun _ => .inl rfl

theorem readLbaRaw_failsUnlessIdle {data : List UInt8} (some : data.length ≠ 0) (pos : UInt32)
    (subcode : UInt8) (timeout : Duration) :
    FailsUnlessIdle script Kept
      (readLbaRaw pos data subcode timeout) := by
  by_cases valid : Command.SectorLength data.length
  · rw [readLbaRaw_eq valid]
    refine ((FailsUnlessIdle.transact (.readLba pos data subcode valid) timeout).mono ?_).bind _
    intro disk disk' moved
    rcases moved (by decide : ¬WireCommand.Selects 0x14) with same | ⟨tag, done⟩
    · exact same
    · exact done
  · rw [readLbaRaw_of_not valid, if_neg some]
    exact .throw _ Kept.refl

/-- A buffer without whole sectors is its last partial one. -/
theorem tailOf_of_pieces_nil {data : List UInt8} (none : pieces data = []) : tailOf data = data := by
  have parts := pieces_append_tail data
  rwa [none] at parts

/-- The first command of a write is a raw write of the first chunk, or the read of the sector that is
patched. -/
theorem writeLba_failsUnlessIdle {data : List UInt8} (some : data.length ≠ 0) (pos : UInt32)
    (subcode : UInt8) (timeout : Duration) :
    FailsUnlessIdle script (Began (STORAGE_SECTOR_SIZE * pos.toNat) data)
      (writeLba pos data subcode timeout) := by
  unfold writeLba
  rw [if_neg some]
  refine .now_bind fun start => ?_
  show FailsUnlessIdle script _ (writeLbaChunks _ subcode (pieces data) pos >>= fun nextPos =>
    writeLbaTail _ subcode nextPos (tailOf data))
  have refl := Began.refl (STORAGE_SECTOR_SIZE * pos.toNat) data
  cases cut : pieces data with
  | nil =>
    rw [tailOf_of_pieces_nil cut]
    show FailsUnlessIdle script _ (writeLbaTail _ subcode pos data)
    unfold writeLbaTail
    rw [if_neg some]
    refine .remainingTimeout_bind refl fun left => FailsUnlessIdle.bind ?_ _
    refine (readLbaRaw_failsUnlessIdle (by rw [List.length_replicate]; decide) pos subcode left).mono
      fun disk disk' same => ?_
    rw [show disk' = disk from same]
    exact refl disk
  | cons chunk rest =>
    have valid := pieces_valid data chunk (cut ▸ List.mem_cons_self)
    have first : data = chunk ++ (rest.flatten ++ tailOf data) := by
      rw [← List.append_assoc, ← List.flatten_cons, ← cut, pieces_append_tail]
    refine FailsUnlessIdle.bind (.remainingTimeout_bind refl fun left => FailsUnlessIdle.bind ?_ _) _
    refine (writeLbaRaw_failsUnlessIdle valid.1 pos subcode left).mono fun disk disk' stored => ?_
    have began := stored.began (rest.flatten ++ tailOf data)
    rwa [← first] at began

theorem readLba_failsUnlessIdle {data : List UInt8} (some : data.length ≠ 0) (pos : UInt32)
    (subcode : UInt8) (timeout : Duration) :
    FailsUnlessIdle script Kept (readLba pos data subcode timeout) := by
  unfold readLba
  rw [if_neg some]
  refine .now_bind fun start => ?_
  show FailsUnlessIdle script _ (readLbaChunks _ subcode (pieces data) pos >>= fun result =>
    readLbaTail _ subcode result.2 (tailOf data) >>= fun tail => pure (result.1 ++ tail))
  cases cut : pieces data with
  | nil =>
    rw [tailOf_of_pieces_nil cut]
    show FailsUnlessIdle script _ (readLbaTail _ subcode pos data >>= fun tail => pure ([] ++ tail))
    unfold readLbaTail
    rw [if_neg some]
    refine FailsUnlessIdle.bind (.remainingTimeout_bind Kept.refl fun left => ?_) _
    exact (readLbaRaw_failsUnlessIdle (by rw [List.length_replicate]; decide) pos subcode left).bind _
  | cons chunk rest =>
    have valid := pieces_valid data chunk (cut ▸ List.mem_cons_self)
    refine FailsUnlessIdle.bind (.remainingTimeout_bind Kept.refl fun left => ?_) _
    exact (readLbaRaw_failsUnlessIdle valid.1 pos subcode left).bind _

theorem writeLba_startsIdle {data : List UInt8} (some : data.length ≠ 0) (pos : UInt32)
    (subcode : UInt8) (timeout : Duration) : StartsIdle (writeLba pos data subcode timeout) :=
  FailsUnlessIdle.startsIdle fun _ => writeLba_failsUnlessIdle some pos subcode timeout

theorem readLba_startsIdle {data : List UInt8} (some : data.length ≠ 0) (pos : UInt32)
    (subcode : UInt8) (timeout : Duration) : StartsIdle (readLba pos data subcode timeout) :=
  FailsUnlessIdle.startsIdle fun _ => readLba_failsUnlessIdle some pos subcode timeout

/-! ### Sequences of calls -/

/-- What holds of an `Ok` from an idle bus holds of every `Ok`. -/
theorem StartsIdle.of_idle {α : Type} {computation : UsbIo Unit RkUsbError α}
    (starts : StartsIdle computation) (ready : bus.Ready script) {post : α → Bus → Prop}
    (fromIdle : bus.Idle → Io.After (Bus.answer script) computation () bus fun outcome _ reached =>
      ∀ value, outcome = .ok value → post value reached) :
    Io.After (Bus.answer script) computation () bus fun outcome _ reached =>
      ∀ value, outcome = .ok value → post value reached := by
  intro value ok
  exact fromIdle (starts script bus ready value ok) value ok

theorem writeLba_stores (ready : bus.Ready script) (pos : UInt32) (data : List UInt8)
    (subcode : UInt8) (timeout : Duration) :
    Io.After (Bus.answer script) (writeLba pos data subcode timeout) () bus
      fun outcome _ reached => ∀ value, outcome = .ok value → reached.Ready script ∧
        reached.target.disk = splice bus.target.disk (STORAGE_SECTOR_SIZE * pos.toNat) data := by
  cases data with
  | nil => exact fun _ _ => ⟨ready, (splice_nil _ _).symm⟩
  | cons byte rest =>
    refine (writeLba_startsIdle (List.cons_ne_nil byte rest ∘ List.length_eq_zero_iff.mp) pos subcode
      timeout).of_idle ready fun idle => ?_
    refine (writeLba_effect idle pos _ subcode timeout).imp ?_
    intro outcome own reached wrote
    rintro value rfl
    exact ⟨wrote.written.2.ready, wrote.written.1⟩

theorem readLba_reads (ready : bus.Ready script) (pos : UInt32) (buf : List UInt8)
    (subcode : UInt8) (timeout : Duration) :
    Io.After (Bus.answer script) (readLba pos buf subcode timeout) () bus
      fun outcome _ reached => ∀ bytes, outcome = .ok bytes → reached.Ready script ∧
        reached.target.disk = bus.target.disk ∧
        bytes = slice bus.target.disk (STORAGE_SECTOR_SIZE * pos.toNat) buf.length := by
  cases buf with
  | nil =>
    intro bytes same
    cases same
    exact ⟨ready, rfl, rfl⟩
  | cons byte rest =>
    refine (readLba_startsIdle (List.cons_ne_nil byte rest ∘ List.length_eq_zero_iff.mp) pos subcode
      timeout).of_idle ready fun idle => ?_
    refine (readLba_effect idle pos _ subcode timeout).imp ?_
    intro outcome own reached moved bytes ok
    exact ⟨(moved.2 bytes ok).1.ready, moved.1, (moved.2 bytes ok).2⟩

/-- A call of `writeLba` or `readLba`. -/
inductive LbaCall
  | write (pos : UInt32) (data : List UInt8) (subcode : UInt8) (timeout : Duration)
  | read (pos : UInt32) (buf : List UInt8) (subcode : UInt8) (timeout : Duration)

namespace LbaCall

/-- The call; a write returns nothing. -/
def run : LbaCall → UsbIo Unit RkUsbError (List UInt8)
  | .write pos data subcode timeout => do
      Rkusb.writeLba pos data subcode timeout
      pure []
  | .read pos buf subcode timeout => Rkusb.readLba pos buf subcode timeout

/-- The calls one after another, as long as they succeed. -/
def runAll : List LbaCall → UsbIo Unit RkUsbError (List (List UInt8))
  | [] => pure []
  | call :: rest => do
      let result ← call.run
      let results ← runAll rest
      pure (result :: results)

/-- What the call writes to a flat storage, and where. -/
def writes : LbaCall → List (Nat × List UInt8)
  | .write pos data _ _ => [(STORAGE_SECTOR_SIZE * pos.toNat, data)]
  | .read _ _ _ _ => []

/-- What the call returns over a flat storage. -/
def result (disk : Nat → UInt8) : LbaCall → List UInt8
  | .write _ _ _ _ => []
  | .read pos buf _ _ => slice disk (STORAGE_SECTOR_SIZE * pos.toNat) buf.length

theorem run_effect (ready : bus.Ready script) (call : LbaCall) :
    Io.After (Bus.answer script) call.run () bus fun outcome _ reached =>
      ∀ bytes, outcome = .ok bytes → reached.Ready script ∧
        reached.target.disk = spliceAll bus.target.disk call.writes ∧
        bytes = call.result bus.target.disk := by
  cases call with
  | write pos data subcode timeout =>
    refine (writeLba_stores ready pos data subcode timeout).bind
      (fun error own reached _ bytes fails => by cases fails) fun _ own reached wrote => ?_
    intro bytes same
    cases same
    exact ⟨(wrote () rfl).1, (wrote () rfl).2, rfl⟩
  | read pos buf subcode timeout => exact readLba_reads ready pos buf subcode timeout

/-- **Calls that all return `Ok`** leave the storage with their writes, and each returns what the
calls before it left. -/
theorem runAll_effect (ready : bus.Ready script) (calls : List LbaCall) :
    Io.After (Bus.answer script) (runAll calls) () bus fun outcome _ reached =>
      ∀ results, outcome = .ok results → reached.Ready script ∧
        reached.target.disk = spliceAll bus.target.disk (calls.flatMap writes) ∧
        ∀ earlier call later, calls = earlier ++ call :: later →
          results[earlier.length]? =
            some (call.result (spliceAll bus.target.disk (earlier.flatMap writes))) := by
  induction calls generalizing bus with
  | nil =>
    intro results same
    cases same
    refine ⟨ready, rfl, fun earlier call later same => ?_⟩
    cases earlier <;> cases same
  | cons first rest ih =>
    refine (run_effect ready first).bind (fun error own reached _ results fails => by cases fails)
      fun bytes own middle moved => ?_
    obtain ⟨middleReady, disk, found⟩ := moved bytes rfl
    refine (ih middleReady).bind (fun error own reached _ results fails => by cases fails)
      fun more own reached moved => ?_
    obtain ⟨lastReady, disk', sees⟩ := moved more rfl
    refine Io.after_pure.mpr fun results same => ?_
    cases same
    rw [disk] at disk' sees
    refine ⟨lastReady, ?_, fun earlier call later same => ?_⟩
    · rw [disk', ← spliceAll_append, List.flatMap_cons]
    · cases earlier with
      | nil =>
        obtain ⟨rfl, rfl⟩ := List.cons.inj same
        exact congrArg some found
      | cons head tail =>
        obtain ⟨rfl, split⟩ := List.cons.inj same
        have seen := sees tail call later split
        rw [← spliceAll_append] at seen
        rw [List.flatMap_cons, List.length_cons, List.getElem?_cons_succ]
        exact seen

end LbaCall

/-- **`write_lba` and `read_lba` are a flat byte storage**, at every point of every run of commands,
whatever became of those, if the next tag is a new one (at the beginning of a run any tag is). A write
that returns `Ok` stores its data and changes no other byte; a read that returns `Ok` returns what is
stored and changes nothing; and in a sequence of calls that return `Ok`, a read sees the last byte
written to each position. -/
theorem lba_flat_storage {start : Bus} (idle : start.Idle) (run : Run script start bus)
    (fresh : ¬Run.drawn script start bus (script.tags bus.draws)) :
    (∀ pos data subcode timeout,
      Io.After (Bus.answer script) (writeLba pos data subcode timeout) () bus
        fun outcome _ reached => outcome = .ok () →
          reached.target.disk =
            splice bus.target.disk (STORAGE_SECTOR_SIZE * pos.toNat) data) ∧
    (∀ pos buf subcode timeout,
      Io.After (Bus.answer script) (readLba pos buf subcode timeout) () bus
        fun outcome _ reached => ∀ bytes, outcome = .ok bytes →
          bytes = slice bus.target.disk (STORAGE_SECTOR_SIZE * pos.toNat) buf.length ∧
          reached.target.disk = bus.target.disk) ∧
    (∀ calls, Io.After (Bus.answer script) (LbaCall.runAll calls) () bus
      fun outcome _ _ => ∀ results, outcome = .ok results →
        ∀ earlier pos buf subcode timeout later,
          calls = earlier ++ LbaCall.read pos buf subcode timeout :: later →
          results[earlier.length]? = some ((List.range buf.length).map fun index =>
            (lastWritten (earlier.flatMap LbaCall.writes)
              (STORAGE_SECTOR_SIZE * pos.toNat + index)).getD
              (bus.target.disk (STORAGE_SECTOR_SIZE * pos.toNat + index)))) := by
  have ready : bus.Ready script := run.ready idle fresh
  refine ⟨fun pos data subcode timeout => ?_, fun pos buf subcode timeout => ?_, fun calls => ?_⟩
  · refine (writeLba_stores ready pos data subcode timeout).imp ?_
    intro outcome own reached stored
    exact fun ok => (stored () ok).2
  · refine (readLba_reads ready pos buf subcode timeout).imp ?_
    intro outcome own reached found bytes ok
    exact (found bytes ok).2.symm
  · refine (LbaCall.runAll_effect ready calls).imp ?_
    intro outcome own reached moved results ok earlier pos buf subcode timeout later same
    obtain ⟨-, -, sees⟩ := moved results ok
    rw [sees earlier _ later same]
    refine congrArg some (List.map_congr_left fun index _ => ?_)
    exact spliceAll_apply _ _ _

/-- After the failed reset, three bytes are written to sector 1, and two of them are read back. -/
theorem lba_flat_storage_writeRead :
    Io.After (Bus.answer Run.firstFails) (LbaCall.runAll
        [.write 1 [7, 8, 9] 0 1, .read 1 [0, 0] 0 1]) () Run.afterFailedReset
      fun outcome _ _ => ∃ results, outcome = .ok results ∧ results[1]? = some [7, 8] := by
  have returns : ((LbaCall.runAll [.write 1 [7, 8, 9] 0 1, .read 1 [0, 0] 0 1]).run
      (Bus.answer Run.firstFails) () Run.afterFailedReset).1.1 = .ok [[], [7, 8]] := by
    decide +kernel
  have run : Run Run.firstFails (Bus.fresh fun _ => 0) Run.afterFailedReset :=
    .command (Command.resetDevice 3) 1 .start (.resetDevice 3)
  have fresh : ¬Run.drawn Run.firstFails (Bus.fresh fun _ => 0) Run.afterFailedReset
      (Run.firstFails.tags Run.afterFailedReset.draws) := by
    rintro ⟨index, -, earlier, same⟩
    have first : index < 1 := earlier
    obtain rfl : index = 0 := by omega
    exact absurd same (by decide)
  exact ⟨_, returns, (lba_flat_storage (Bus.fresh_idle _) run fresh).2.2 _ _ returns
    [.write 1 [7, 8, 9] 0 1] 1 [0, 0] 0 1 [] rfl⟩

end Rkusb
