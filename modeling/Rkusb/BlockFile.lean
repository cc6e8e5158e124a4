/-
**Reads and writes of the block device.**

* `RkBlockDevice.read_effect`: on an idle bus a read that returns `Ok` returns the bytes at the
  cursor and moves it past them; whatever it returns, the storage stays, and the cursor moves on
  `Ok` only.
* `RkBlockDevice.write_effect` is the same for writes: a beginning of the buffer is written, and all
  of it on `Ok`.
-/

import Rkusb.BlockDevice
import Rkusb.Progress

namespace Rkusb

open Interaction Bytes FlatStore

variable {script : Script} {bus : Bus}

/-! ### Calls of the device handle -/

/-- The device carries everything out, and the clock leaves a read or a write of this length its
time. -/
structure Script.Serves (script : Script) (length : Nat) (timeout : Duration) : Prop where
  healthy : script.Healthy
  brisk : script.Brisk (readings length) timeout

theorem Script.Serves.mono {length shorter : Nat} {timeout : Duration}
    (serves : script.Serves length timeout) (le : shorter ≤ length) :
    script.Serves shorter timeout :=
  ⟨serves.healthy, serves.brisk.mono (by
    have := Nat.div_le_div_right (c := MAX_LBA_TRANSFER_BYTES) le
    unfold readings
    omega)⟩

/-- A single sector needs no more readings than any request. -/
theorem Script.Serves.sector {length : Nat} {timeout : Duration}
    (serves : script.Serves length timeout) : script.Serves SECTOR_SIZE timeout :=
  ⟨serves.healthy, serves.brisk.mono (by
    have : readings SECTOR_SIZE = 19 := rfl
    unfold readings at this ⊢
    omega)⟩

theorem Script.Still.serves (still : script.Still) {timeout : Duration} (some : 0 < timeout)
    (length : Nat) : script.Serves length timeout :=
  ⟨still.healthy, still.brisk some _⟩

namespace RkBlockDevice

theorem rkdev_readLba (idle : bus.Idle) (lba : UInt32) (buf : List UInt8) (subcode : UInt8)
    (timeout : Duration) (own : RkBlockDevice) :
    Io.After (Bus.answer script) (rkdev (readLba lba buf subcode timeout)) own bus
      fun outcome own' reached => own' = own ∧ reached.target.disk = bus.target.disk ∧
        (∀ bytes, outcome = .ok bytes → reached.Idle ∧
          bytes = slice bus.target.disk (SECTOR_SIZE * lba.toNat) buf.length ∧
          lba.toNat + buf.length / SECTOR_SIZE < 2 ^ 32) ∧
        (script.Serves buf.length timeout → lba.toNat + buf.length / SECTOR_SIZE < 2 ^ 32 →
          ∃ bytes, outcome = .ok bytes) := by
  refine Io.after_mapErr.mpr (Io.after_lift.mpr ?_)
  refine (((readLba_effect idle lba buf subcode timeout).and
    (readLba_returns lba buf subcode timeout)).and (Io.after_imp.mpr
      fun serves : script.Serves buf.length timeout => Io.after_imp.mpr
        fun fits => readLba_progress serves.healthy idle lba buf subcode timeout fits)).imp ?_
  intro outcome _ reached both
  obtain ⟨⟨⟨disk, found⟩, returns⟩, prompt⟩ := both
  refine ⟨rfl, disk, fun bytes same => ?_, fun serves fits => ?_⟩
  · cases outcome with
    | ok value =>
      obtain ⟨reachedIdle, filled⟩ := found bytes (by cases same; rfl)
      exact ⟨reachedIdle, filled, (returns value rfl).2⟩
    | error error => cases same
  · obtain ⟨bytes, rfl⟩ := (prompt serves fits).succeeds serves.brisk
    exact ⟨bytes, rfl⟩

theorem rkdev_writeLba (idle : bus.Idle) (lba : UInt32) (data : List UInt8) (subcode : UInt8)
    (timeout : Duration) (own : RkBlockDevice) :
    Io.After (Bus.answer script) (rkdev (writeLba lba data subcode timeout)) own bus
      fun outcome own' reached => own' = own ∧
        Wrote (SECTOR_SIZE * lba.toNat) data bus outcome reached ∧
        (∀ value, outcome = .ok value → lba.toNat + data.length / SECTOR_SIZE < 2 ^ 32) ∧
        (script.Serves data.length timeout → lba.toNat + data.length / SECTOR_SIZE < 2 ^ 32 →
          ∃ value, outcome = .ok value) := by
  refine Io.after_mapErr.mpr (Io.after_lift.mpr ?_)
  refine (((writeLba_effect idle lba data subcode timeout).and
    (writeLba_fits lba data subcode timeout)).and (Io.after_imp.mpr
      fun serves : script.Serves data.length timeout => Io.after_imp.mpr
        fun fits => writeLba_progress serves.healthy idle lba data subcode timeout fits)).imp ?_
  intro outcome _ reached both
  obtain ⟨⟨wrote, fits⟩, prompt⟩ := both
  refine ⟨rfl, ?_, fun value same => ?_, fun serves fits => ?_⟩
  · cases outcome with
    | ok value => exact .done wrote.written.1 wrote.written.2
    | error error => exact wrote.failed
  · cases outcome with
    | ok value => exact fits value rfl
    | error error => cases same
  · obtain ⟨bytes, rfl⟩ := (prompt serves fits).succeeds serves.brisk
    exact ⟨bytes, rfl⟩

theorem tryLba_ok {sector : Nat} {lba : UInt32} (found : tryLba sector = .ok lba) :
    lba.toNat = sector := by
  unfold tryLba at found
  split at found
  · rename_i small
    cases found
    exact UInt32.toNat_ofNat_of_lt' small
  · cases found

theorem tryLba_error {sector : Nat} {error : IoError} (lost : tryLba sector = .error error) :
    2 ^ 32 ≤ sector := by
  unfold tryLba at lost
  split at lost
  · cases lost
  · rename_i large
    exact Nat.le_of_not_lt large

theorem checkedAdd_ok {pos count next : Nat} {message : String}
    (sum : checkedAdd pos count message = .ok next) : next = pos + count := by
  unfold checkedAdd at sum
  split at sum
  · cases sum
    rfl
  · cases sum

theorem checkedAdd_of_lt {pos count : Nat} {message : String} (small : pos + count < 2 ^ 64) :
    checkedAdd pos count message = .ok (pos + count) := by
  rw [checkedAdd, if_pos small]

theorem checkedAdd_error {pos count : Nat} {message : String} {error : IoError}
    (lost : checkedAdd pos count message = .error error) : 2 ^ 64 ≤ pos + count := by
  by_contra small
  rw [checkedAdd_of_lt (Nat.lt_of_not_le small)] at lost
  cases lost

/-! ### Reads -/

/-- Where the last sector begins. Requests end there or before: a request for the last sector itself
runs out of positions. -/
def addressLimit : Nat := SECTOR_SIZE * (2 ^ 32 - 1)

/-- The range has addresses. -/
def Addressable (pos length : Nat) : Prop := pos + length ≤ addressLimit

/-- Its first sector has a number, and there are positions up to its end. -/
theorem Addressable.lt {pos length : Nat} (inside : Addressable pos length) :
    pos / SECTOR_SIZE < 2 ^ 32 ∧ pos + length < 2 ^ 64 := by
  unfold Addressable addressLimit SECTOR_SIZE at *
  omega

theorem Addressable.tryLba_ne {pos length : Nat} {error : IoError} (inside : Addressable pos length) :
    tryLba (pos / SECTOR_SIZE) ≠ .error error :=
  fun lost => absurd inside.lt.1 (Nat.not_lt.mpr (tryLba_error lost))

theorem Addressable.checkedAdd_ne {pos length count : Nat} {message : String} {error : IoError}
    (inside : Addressable pos length) (most : count ≤ length) :
    checkedAdd pos count message ≠ .error error := by
  intro lost
  have large := checkedAdd_error lost
  have small := inside.lt.2
  omega

/-- The head of a request ends at a sector, or it is all of the request. -/
theorem head_aligned (pos : Nat) (remaining : List UInt8) :
    remaining.drop (min (SECTOR_SIZE - pos % SECTOR_SIZE) remaining.length) = [] ∨
      (pos + min (SECTOR_SIZE - pos % SECTOR_SIZE) remaining.length) % SECTOR_SIZE = 0 := by
  rcases Nat.le_total remaining.length (SECTOR_SIZE - pos % SECTOR_SIZE) with short | long
  · refine .inl (List.drop_of_length_le ?_)
    rw [Nat.min_eq_right short]
  · refine .inr ?_
    rw [Nat.min_eq_left long]
    unfold SECTOR_SIZE
    omega

/-- What a phase of a read does: it fills the beginning of the buffer with the bytes at the
position, and leaves the rest, shorter than `limit`, for the next phase at the position after. -/
def ReadPhase (script : Script) (limit : Nat) (own : RkBlockDevice) (before : Bus) (pos : Nat)
    (remaining : List UInt8) (outcome : Except IoError (List UInt8 × Nat × List UInt8))
    (own' : RkBlockDevice) (reached : Bus) : Prop :=
  own' = own ∧ reached.target.disk = before.target.disk ∧
    (∀ filled next rest, outcome = .ok (filled, next, rest) → reached.Idle ∧
      filled = slice before.target.disk pos filled.length ∧ next = pos + filled.length ∧
      remaining.length = filled.length + rest.length ∧ rest.length < limit ∧
      (rest = [] ∨ next % SECTOR_SIZE = 0)) ∧
    (script.Serves remaining.length own.timeout → Addressable pos remaining.length →
      ∃ value, outcome = .ok value)

/-- A phase that fails leaves the storage alone, and does not fail over a device that serves. -/
theorem ReadPhase.fail {limit : Nat} {own own' : RkBlockDevice} {before reached : Bus} {pos : Nat}
    {remaining : List UInt8} {error : IoError} (same : own' = own)
    (disk : reached.target.disk = before.target.disk)
    (never : script.Serves remaining.length own.timeout → Addressable pos remaining.length → False) :
    ReadPhase script limit own before pos remaining (.error error) own' reached := by
  refine ⟨same, disk, fun filled next rest same => ?_, fun serves inside => ?_⟩
  · cases same
  · exact (never serves inside).elim

/-- Sectors are read from the one of a position on, or the request fails and the storage is left
alone. -/
theorem after_readSectors (idle : bus.Idle) (own : RkBlockDevice) (pos : Nat) (buf : List UInt8)
    {α : Type} {next : List UInt8 → UsbIo RkBlockDevice IoError α}
    {post : Except IoError α → RkBlockDevice → Bus → Prop}
    (lost : ∀ error reached, reached.target.disk = bus.target.disk →
      (script.Serves buf.length own.timeout →
        ¬ pos / SECTOR_SIZE + buf.length / SECTOR_SIZE < 2 ^ 32) → post (.error error) own reached)
    (found : ∀ reached, reached.Idle → reached.target.disk = bus.target.disk →
      Io.After (Bus.answer script)
        (next (slice bus.target.disk (SECTOR_SIZE * (pos / SECTOR_SIZE)) buf.length)) own reached
        post) :
    Io.After (Bus.answer script) (do
      let lba ← .ofExcept (tryLba (pos / SECTOR_SIZE))
      let bytes ← rkdev (readLba lba buf own.subcode own.timeout)
      next bytes) own bus post := by
  refine Io.after_ofExcept_bind.mpr ?_
  cases addressed : tryLba (pos / SECTOR_SIZE) with
  | error error =>
    refine lost error bus rfl fun _ => Nat.not_lt.mpr ?_
    exact (tryLba_error addressed).trans (Nat.le_add_right _ _)
  | ok lba =>
    have sector := tryLba_ok addressed
    refine (rkdev_readLba idle lba buf own.subcode own.timeout own).bind
      (fun error own' reached moved => ?_) fun bytes own' reached moved => ?_
    · obtain ⟨rfl, disk, -, succeeds⟩ := moved
      rw [sector] at succeeds
      refine lost error reached disk fun serves fits => ?_
      obtain ⟨bytes, fails⟩ := succeeds serves fits
      cases fails
    · obtain ⟨rfl, disk, read, -⟩ := moved
      obtain ⟨reachedIdle, bytes, -⟩ := read bytes rfl
      rw [sector] at bytes
      rw [bytes]
      exact found reached reachedIdle disk

/-- A buffer for a sector. -/
theorem length_sector : (List.replicate SECTOR_SIZE (0 : UInt8)).length = SECTOR_SIZE :=
  List.length_replicate

theorem readHead_effect (idle : bus.Idle) (own : RkBlockDevice) (pos : Nat) {remaining : List UInt8}
    (some : remaining ≠ []) :
    Io.After (Bus.answer script) (readHead pos remaining) own bus
      (ReadPhase script (remaining.length + 1) own bus pos remaining) := by
  have positive := List.length_pos_iff.mpr some
  unfold readHead
  refine Io.after_get_bind.mpr ?_
  dsimp only
  by_cases aligned : pos % SECTOR_SIZE = 0
  · rw [if_neg (not_not.mpr aligned)]
    refine ⟨rfl, rfl, fun filled next rest same => ?_, fun _ _ => ⟨_, rfl⟩⟩
    cases same
    exact ⟨idle, rfl, rfl, (Nat.zero_add _).symm, Nat.lt_succ_self _, .inr aligned⟩
  rw [if_pos aligned]
  refine after_readSectors idle own pos _ (fun error reached disk never => ?_)
    fun reached reachedIdle disk => ?_
  · rw [length_sector] at never
    refine .fail rfl disk fun serves inside => never serves.sector ?_
    unfold Addressable addressLimit SECTOR_SIZE at *
    omega
  rw [length_sector]
  refine Io.after_ofExcept_bind.mpr ?_
  cases advanced : checkedAdd pos (min (SECTOR_SIZE - pos % SECTOR_SIZE) remaining.length)
      "read position overflow" with
  | error error =>
    exact .fail rfl disk fun _ inside => inside.checkedAdd_ne (Nat.min_le_right _ _) advanced
  | ok next =>
    refine ⟨rfl, disk, fun filled next' rest same => ?_, fun _ _ => ⟨_, rfl⟩⟩
    have position := checkedAdd_ok advanced
    cases same
    have start : SECTOR_SIZE * (pos / SECTOR_SIZE) + pos % SECTOR_SIZE = pos :=
      Nat.div_add_mod _ _
    have inside := Nat.mod_lt pos (show 0 < SECTOR_SIZE by decide)
    rw [drop_slice _ _ _ _ inside.le, start, take_slice _ _ _ _ (Nat.min_le_left _ _), length_slice,
      List.length_drop]
    refine ⟨reachedIdle, rfl, position, by omega, by omega, ?_⟩
    rw [position]
    exact head_aligned pos remaining

theorem readMiddle_effect (idle : bus.Idle) (own : RkBlockDevice) {pos : Nat}
    {remaining : List UInt8} (aligned : remaining = [] ∨ pos % SECTOR_SIZE = 0) :
    Io.After (Bus.answer script) (readMiddle pos remaining) own bus
      (ReadPhase script SECTOR_SIZE own bus pos remaining) := by
  unfold readMiddle
  refine Io.after_get_bind.mpr ?_
  dsimp only
  by_cases small : remaining.length / SECTOR_SIZE * SECTOR_SIZE = 0
  · rw [if_neg (not_not.mpr small)]
    refine ⟨rfl, rfl, fun filled next rest same => ?_, fun _ _ => ⟨_, rfl⟩⟩
    cases same
    refine ⟨idle, rfl, rfl, (Nat.zero_add _).symm, ?_, aligned⟩
    unfold SECTOR_SIZE at *
    omega
  rw [if_pos small]
  have start : SECTOR_SIZE * (pos / SECTOR_SIZE) = pos := by
    rcases aligned with rfl | aligned
    · exact absurd rfl small
    · exact Nat.mul_div_cancel' (Nat.dvd_of_mod_eq_zero aligned)
  have most : remaining.length / SECTOR_SIZE * SECTOR_SIZE ≤ remaining.length :=
    Nat.div_mul_le_self _ _
  have length : (remaining.take (remaining.length / SECTOR_SIZE * SECTOR_SIZE)).length =
      remaining.length / SECTOR_SIZE * SECTOR_SIZE := by
    rw [List.length_take, Nat.min_eq_left most]
  refine after_readSectors idle own pos _ (fun error reached disk never => ?_)
    fun reached reachedIdle disk => ?_
  · rw [length] at never
    refine .fail rfl disk fun serves inside => never (serves.mono most) ?_
    unfold Addressable addressLimit SECTOR_SIZE at *
    omega
  rw [length, start]
  refine Io.after_ofExcept_bind.mpr ?_
  cases advanced : checkedAdd pos (remaining.length / SECTOR_SIZE * SECTOR_SIZE)
      "read position overflow" with
  | error error =>
    exact .fail rfl disk fun _ inside => inside.checkedAdd_ne most advanced
  | ok next =>
    refine ⟨rfl, disk, fun filled next' rest same => ?_, fun _ _ => ⟨_, rfl⟩⟩
    have position := checkedAdd_ok advanced
    cases same
    rw [length_slice, List.length_drop]
    refine ⟨reachedIdle, rfl, position, by omega, ?_, .inr ?_⟩
    · unfold SECTOR_SIZE
      omega
    · rw [position, ← start]
      unfold SECTOR_SIZE
      omega

theorem readTail_effect (idle : bus.Idle) (own : RkBlockDevice) {pos : Nat}
    {remaining : List UInt8} (aligned : remaining = [] ∨ pos % SECTOR_SIZE = 0)
    (short : remaining.length < SECTOR_SIZE) :
    Io.After (Bus.answer script) (readTail pos remaining) own bus fun outcome own' reached =>
      own' = own ∧ reached.target.disk = bus.target.disk ∧
        (∀ filled, outcome = .ok filled → reached.Idle ∧
          filled = slice bus.target.disk pos remaining.length) ∧
        (script.Serves remaining.length own.timeout → Addressable pos remaining.length →
          ∃ value, outcome = .ok value) := by
  unfold readTail
  refine Io.after_get_bind.mpr ?_
  by_cases empty : remaining = []
  · rw [if_neg (not_not.mpr empty), empty]
    refine ⟨rfl, rfl, fun filled same => ?_, fun _ _ => ⟨_, rfl⟩⟩
    cases same
    exact ⟨idle, rfl⟩
  rw [if_pos empty]
  have positive := List.length_pos_iff.mpr empty
  have start : SECTOR_SIZE * (pos / SECTOR_SIZE) = pos :=
    Nat.mul_div_cancel' (Nat.dvd_of_mod_eq_zero (aligned.resolve_left empty))
  refine after_readSectors idle own pos _ (fun error reached disk never => ?_)
    fun reached reachedIdle disk => ?_
  · rw [length_sector] at never
    refine ⟨rfl, disk, fun filled same => (by cases same), fun serves inside => ?_⟩
    refine (never serves.sector ?_).elim
    unfold Addressable addressLimit SECTOR_SIZE at *
    omega
  refine ⟨rfl, disk, fun filled same => ?_, fun _ _ => ⟨_, rfl⟩⟩
  cases same
  rw [length_sector, start, take_slice _ _ _ _ short.le]
  exact ⟨reachedIdle, rfl⟩

/-- **A read** leaves the storage alone; on `Ok` it returns the bytes at the cursor, which moves past
them, and else the cursor stays. Within the disk, a device that serves it in time lets it succeed. -/
theorem read_effect (idle : bus.Idle) (own : RkBlockDevice) (buf : List UInt8) :
    Io.After (Bus.answer script) (read buf) own bus fun outcome own' reached =>
      reached.target.disk = bus.target.disk ∧
        (∀ error, outcome = .error error → own' = own) ∧
        (∀ result, outcome = .ok result → reached.Idle ∧
          result = (buf.length, slice bus.target.disk own.pos buf.length) ∧
          own' = { own with pos := own.pos + buf.length }) ∧
        (script.Serves buf.length own.timeout → Addressable own.pos buf.length →
          ∃ value, outcome = .ok value) := by
  unfold read
  by_cases empty : buf = []
  · rw [if_pos empty, empty]
    refine ⟨rfl, fun error same => (by cases same), fun result same => ?_, fun _ _ => ⟨_, rfl⟩⟩
    cases same
    exact ⟨idle, rfl, rfl⟩
  rw [if_neg empty]
  refine Io.after_get_bind.mpr (Io.after_ofExcept_bind.mpr ?_)
  cases ended : checkedAdd own.pos buf.length "read position overflow" with
  | error error =>
    exact ⟨rfl, fun _ _ => rfl, fun result same => (by cases same),
      fun _ inside => absurd ended (inside.checkedAdd_ne le_rfl)⟩
  | ok endPos =>
    obtain rfl := checkedAdd_ok ended
    refine (readHead_effect idle own own.pos empty).bind
      (fun error own' reached moved => ⟨moved.2.1, fun _ _ => moved.1,
        fun result same => (by cases same), fun serves inside => ?_⟩) fun head own' reached moved => ?_
    · obtain ⟨value, fails⟩ := moved.2.2.2 serves inside
      cases fails
    obtain ⟨rfl, disk, found, -⟩ := moved
    obtain ⟨head, pos, remaining⟩ := head
    obtain ⟨headIdle, headBytes, rfl, headLength, -, headAligned⟩ := found _ _ _ rfl
    refine (readMiddle_effect headIdle own' headAligned).bind
      (fun error own'' reached moved => ⟨moved.2.1.trans disk, fun _ _ => moved.1,
        fun result same => (by cases same), fun serves inside => ?_⟩)
      fun middle own'' reached' moved => ?_
    · obtain ⟨value, fails⟩ := moved.2.2.2 (serves.mono (by omega)) (by
        unfold Addressable at *
        omega)
      cases fails
    obtain ⟨rfl, disk', found', -⟩ := moved
    obtain ⟨middle, pos, rest⟩ := middle
    obtain ⟨middleIdle, middleBytes, rfl, middleLength, short, middleAligned⟩ := found' _ _ _ rfl
    refine (readTail_effect middleIdle own'' middleAligned short).bind
      (fun error own''' reached moved => ⟨moved.2.1.trans (disk'.trans disk), fun _ _ => moved.1,
        fun result same => (by cases same), fun serves inside => ?_⟩)
      fun tail own''' last moved => ?_
    · obtain ⟨value, fails⟩ := moved.2.2.2 (serves.mono (by omega)) (by
        unfold Addressable at *
        omega)
      cases fails
    obtain ⟨rfl, disk'', found'', -⟩ := moved
    obtain ⟨lastIdle, tailBytes⟩ := found'' tail rfl
    refine Io.after_modify_bind.mpr ⟨disk''.trans (disk'.trans disk),
      fun error same => (by cases same), fun result same => ?_, fun _ _ => ⟨_, rfl⟩⟩
    cases same
    refine ⟨lastIdle, ?_, rfl⟩
    have total : buf.length = head.length + middle.length + rest.length := by omega
    rw [disk] at middleBytes
    rw [disk', disk] at tailBytes
    have bytes : head ++ middle ++ tail = slice bus.target.disk own'''.pos buf.length := by
      rw [total, slice_append, slice_append, ← headBytes, ← middleBytes, tailBytes,
        Nat.add_assoc own'''.pos]
    rw [bytes]

/-! ### Writes -/

/-- What is written has addresses. -/
def Addressed (pos : Nat) (chunk : List UInt8) : Prop := chunk = [] ∨ Addressable pos chunk.length

/-- All of the data that has an address is stored. -/
def Stored (pos : Nat) (data : List UInt8) (before reached : Bus) : Prop :=
  ∀ place < addressLimit, reached.target.disk place = splice before.target.disk pos data place

theorem Stored.of_eq {pos : Nat} {data : List UInt8} {before reached : Bus}
    (disk : reached.target.disk = splice before.target.disk pos data) :
    Stored pos data before reached :=
  fun place _ => congrFun disk place

/-- Nothing of what is written past the addresses is below them. -/
theorem Stored.of_limit_le {pos : Nat} {data : List UInt8} {before reached : Bus} {α ε : Type}
    {outcome : Except ε α} (past : addressLimit ≤ pos) (wrote : Wrote pos data before outcome reached) :
    Stored pos data before reached := by
  intro place below
  obtain ⟨count, -, disk, -⟩ := wrote
  rw [disk, splice_of_lt _ _ _ (by omega), splice_of_lt _ _ _ (by omega)]

/-- What comes after data that reach the limit has no address. -/
theorem Stored.stop {pos : Nat} {first second : List UInt8} {before reached : Bus}
    (stored : Stored pos first before reached) (past : addressLimit ≤ pos + first.length) :
    Stored pos (first ++ second) before reached := by
  intro place below
  rw [splice_append, splice_of_lt _ _ _ (by omega)]
  exact stored place below

theorem Stored.next {pos : Nat} {first second : List UInt8} {before middle reached : Bus}
    (disk : middle.target.disk = splice before.target.disk pos first)
    (stored : Stored (pos + first.length) second middle reached) :
    Stored pos (first ++ second) before reached := by
  intro place below
  rw [splice_append, ← disk]
  exact stored place below

/-- What writing a chunk of a request does. A device that serves it in time lets it succeed if it
has addresses, as it has if it succeeds; under a clock that stands still all that has an address is
stored. -/
structure Puts {ε α : Type} (script : Script) (length : Nat) (timeout : Duration) (before : Bus)
    (pos : Nat) (chunk : List UInt8) (outcome : Except ε α) (reached : Bus) : Prop where
  wrote : Wrote pos chunk before outcome reached
  addressed : ∀ value, outcome = .ok value → Addressed pos chunk
  succeeds : script.Serves length timeout → Addressed pos chunk → ∃ value, outcome = .ok value
  stored : script.Still → 0 < timeout → pos ≤ addressLimit → length < 2 ^ 63 →
    Stored pos chunk before reached

theorem Puts.nothing {ε α : Type} {value : α} {length : Nat} {timeout : Duration} {pos : Nat}
    (idle : bus.Idle) : Puts script length timeout bus pos [] (.ok value : Except ε α) bus where
  wrote := .done (splice_nil _ _).symm idle
  addressed _ _ := .inl rfl
  succeeds _ _ := ⟨_, rfl⟩
  stored _ _ _ _ := .of_eq (splice_nil _ _).symm

/-- A longer request leaves the chunk more time. -/
theorem Puts.longer {ε α : Type} {length longer : Nat} {timeout : Duration} {before reached : Bus}
    {pos : Nat} {chunk : List UInt8} {outcome : Except ε α}
    (puts : Puts script length timeout before pos chunk outcome reached) (le : length ≤ longer) :
    Puts script longer timeout before pos chunk outcome reached :=
  { puts with
    succeeds := fun serves => puts.succeeds (serves.mono le)
    stored := fun still some low short => puts.stored still some low (le.trans_lt short) }

/-- A chunk after one that is written. -/
theorem Puts.next {ε ε' α β : Type} {value : α} {outcome : Except ε' β} {length : Nat}
    {timeout : Duration} {before middle reached : Bus} {pos : Nat} {first second : List UInt8}
    (here : Puts script length timeout before pos first (.ok value : Except ε α) middle)
    (there : Puts script length timeout middle (pos + first.length) second outcome reached) :
    Puts script length timeout before pos (first ++ second) outcome reached where
  wrote := here.wrote.next there.wrote
  addressed value same := by
    rcases there.addressed value same with rfl | fits
    · rw [List.append_nil]
      exact here.addressed _ rfl
    · refine .inr ?_
      unfold Addressable at *
      rw [List.length_append]
      omega
  succeeds serves fits := by
    refine there.succeeds serves ?_
    rcases fits with empty | fits
    · exact .inl (List.append_eq_nil_iff.mp empty).2
    · refine .inr ?_
      unfold Addressable at *
      rw [List.length_append] at fits
      omega
  stored still some low short := by
    refine .next here.wrote.written.1 (there.stored still some ?_ short)
    rcases here.addressed _ rfl with rfl | fits
    · exact low
    · exact fits

/-- A chunk that is not written, before others. -/
theorem Puts.stop {ε ε' α β : Type} {error : ε} {error' : ε'} {length : Nat} {timeout : Duration}
    {before reached : Bus} {pos : Nat} {first : List UInt8} (second : List UInt8)
    (here : Puts script length timeout before pos first (.error error : Except ε α) reached) :
    Puts script length timeout before pos (first ++ second) (.error error' : Except ε' β)
      reached := by
  have never (serves : script.Serves length timeout) : ¬ Addressed pos first := by
    intro fits
    obtain ⟨value, fails⟩ := here.succeeds serves fits
    cases fails
  refine ⟨here.wrote.stop, fun _ fails => (by cases fails), fun serves fits => ?_,
    fun still some low short => ?_⟩
  · refine (never serves ?_).elim
    rcases fits with empty | fits
    · exact .inl (List.append_eq_nil_iff.mp empty).1
    · refine .inr ?_
      unfold Addressable at *
      rw [List.length_append] at fits
      omega
  · refine (here.stored still some low short).stop ?_
    have past := never (still.serves some length)
    unfold Addressed Addressable at past
    omega

/-- The error of a chunk is reported as another one. -/
theorem Puts.failed {ε ε' α β : Type} {error : ε} {error' : ε'} {length : Nat} {timeout : Duration}
    {before reached : Bus} {pos : Nat} {chunk : List UInt8}
    (here : Puts script length timeout before pos chunk (.error error : Except ε α) reached) :
    Puts script length timeout before pos chunk (.error error' : Except ε' β) reached := by
  have stopped : Puts script length timeout before pos (chunk ++ []) (.error error' : Except ε' β)
      reached := here.stop []
  rwa [List.append_nil] at stopped

/-- What a chunk that is written returns does not matter. -/
theorem Puts.returned {ε ε' α β : Type} {value : α} {value' : β} {length : Nat} {timeout : Duration}
    {before reached : Bus} {pos : Nat} {chunk : List UInt8}
    (here : Puts script length timeout before pos chunk (.ok value : Except ε α) reached) :
    Puts script length timeout before pos chunk (.ok value' : Except ε' β) reached where
  wrote := .done here.wrote.written.1 here.wrote.written.2
  addressed _ _ := here.addressed _ rfl
  succeeds _ _ := ⟨_, rfl⟩
  stored := here.stored

/-- The error of the chunk is wrapped in another one. -/
theorem Puts.mapError {ε ε' α : Type} {outcome : Except ε α} {translate : ε → ε'} {length : Nat}
    {timeout : Duration} {before reached : Bus} {pos : Nat} {chunk : List UInt8}
    (puts : Puts script length timeout before pos chunk outcome reached) :
    Puts script length timeout before pos chunk (outcome.mapError translate) reached := by
  cases outcome with
  | ok value => exact puts.returned
  | error error => exact puts.failed

/-- There is a position after a chunk that is written. -/
theorem Puts.advance {ε α : Type} {value : α} {length pos count : Nat} {timeout : Duration}
    {before reached : Bus} {chunk : List UInt8} {message : String}
    (puts : Puts script length timeout before pos chunk (.ok value : Except ε α) reached)
    (some : chunk ≠ [])
    (counted : chunk.length = count) :
    checkedAdd pos count message = .ok (pos + chunk.length) := by
  have inside := (puts.addressed _ rfl).resolve_left some
  rw [← counted]
  exact checkedAdd_of_lt inside.lt.2

/-- A sector whose number does not fit is not written. -/
theorem Puts.unaddressed {ε α : Type} {error : ε} {error' : IoError} {length pos : Nat}
    {timeout : Duration} {chunk : List UInt8} (some : chunk ≠ [])
    (lost : tryLba (pos / SECTOR_SIZE) = .error error') :
    Puts script length timeout bus pos chunk (.error error : Except ε α) bus := by
  have large := tryLba_error lost
  have kept : Wrote pos chunk bus (.error error : Except ε α) bus := .nothing rfl
  refine ⟨kept, fun _ fails => (by cases fails), fun _ inside => ?_,
    fun _ _ _ _ => .of_limit_le ?_ kept⟩
  · exact absurd lost (inside.resolve_left some).tryLba_ne
  · unfold addressLimit SECTOR_SIZE at *
    omega

/-- What a phase of a write does: it writes the beginning of the buffer at the position, and leaves
the rest, shorter than `limit`, for the next phase at the position after. -/
def WritePhase (script : Script) (limit : Nat) (own : RkBlockDevice) (before : Bus) (pos : Nat)
    (remaining : List UInt8) (outcome : Except IoError (Nat × List UInt8))
    (own' : RkBlockDevice) (reached : Bus) : Prop :=
  own' = own ∧ ∃ chunk rest, remaining = chunk ++ rest ∧
    Puts script remaining.length own.timeout before pos chunk outcome reached ∧
    ∀ result, outcome = .ok result → result = (pos + chunk.length, rest) ∧
      rest.length < limit ∧ (rest = [] ∨ (pos + chunk.length) % SECTOR_SIZE = 0)

/-- A phase that fails. -/
theorem WritePhase.fail {limit : Nat} {own own' : RkBlockDevice} {before reached : Bus} {pos : Nat}
    {remaining chunk rest : List UInt8} {error : IoError} (parts : chunk ++ rest = remaining)
    (same : own' = own) (puts : Puts script remaining.length own.timeout before pos chunk
      (.error error : Except IoError (Nat × List UInt8)) reached) :
    WritePhase script limit own before pos remaining (.error error) own' reached :=
  ⟨same, chunk, rest, parts.symm, puts, fun result fails => by cases fails⟩

/-- A phase that writes its chunk. -/
theorem WritePhase.done {limit : Nat} {own own' : RkBlockDevice} {before reached : Bus} {pos : Nat}
    {remaining chunk rest : List UInt8} (parts : chunk ++ rest = remaining) (same : own' = own)
    (puts : Puts script remaining.length own.timeout before pos chunk
      (.ok () : Except IoError Unit) reached)
    (short : rest.length < limit) (aligned : rest = [] ∨ (pos + chunk.length) % SECTOR_SIZE = 0) :
    WritePhase script limit own before pos remaining (.ok (pos + chunk.length, rest)) own'
      reached := by
  refine ⟨same, chunk, rest, parts.symm, puts.returned, fun result found => ?_⟩
  cases found
  exact ⟨rfl, short, aligned⟩

/-- An edge sector is read and written back with a chunk put at an offset of it. The request for it
fails for the last sector. -/
theorem patchSector_effect (idle : bus.Idle) (own : RkBlockDevice) {pos : Nat} {lba : UInt32}
    (sector : lba.toNat = pos / SECTOR_SIZE) {chunk : List UInt8} {count : Nat}
    (length : chunk.length = count) (within : pos % SECTOR_SIZE + count ≤ SECTOR_SIZE)
    (some : chunk ≠ []) (longest : Nat) :
    Io.After (Bus.answer script) (do
      let tmp ← rkdev (readLba lba (List.replicate SECTOR_SIZE 0) own.subcode own.timeout)
      rkdev (writeLba lba (tmp.take (pos % SECTOR_SIZE) ++ chunk ++
        tmp.drop (pos % SECTOR_SIZE + count)) own.subcode own.timeout)) own bus
      fun outcome own' reached =>
        own' = own ∧ Puts script longest own.timeout bus pos chunk outcome reached := by
  subst length
  have positive := List.length_pos_iff.mpr some
  have start : SECTOR_SIZE * lba.toNat + pos % SECTOR_SIZE = pos := by
    rw [sector]
    exact Nat.div_add_mod _ _
  have whole := length_sector
  have fits (inside : Addressed pos chunk) : lba.toNat + 1 < 2 ^ 32 := by
    have := inside.resolve_left some
    unfold Addressable addressLimit SECTOR_SIZE at *
    omega
  have past (lost : ¬ lba.toNat + 1 < 2 ^ 32) : addressLimit ≤ pos := by
    unfold addressLimit SECTOR_SIZE at *
    omega
  refine (rkdev_readLba idle lba _ own.subcode own.timeout own).bind
    (fun error own' reached moved => ⟨moved.1, ?_⟩) fun tmp own' read moved => ?_
  · have never (serves : script.Serves SECTOR_SIZE own.timeout) : ¬ lba.toNat + 1 < 2 ^ 32 := by
      intro fits
      obtain ⟨bytes, fails⟩ := moved.2.2.2 (by rw [whole]; exact serves) (by rw [whole]; exact fits)
      cases fails
    have kept : Wrote pos chunk bus (.error error : Except IoError Unit) reached :=
      .nothing moved.2.1
    exact ⟨kept, fun _ fails => (by cases fails),
      fun serves inside => (never serves.sector (fits inside)).elim,
      fun still some _ _ => .of_limit_le (past (never (still.serves some _))) kept⟩
  obtain ⟨rfl, disk, found, -⟩ := moved
  obtain ⟨readIdle, bytes, small⟩ := found tmp rfl
  rw [whole] at small
  rw [whole, ← disk] at bytes
  have patched : (tmp.take (pos % SECTOR_SIZE) ++ chunk ++
      tmp.drop (pos % SECTOR_SIZE + chunk.length)).length = SECTOR_SIZE := by
    rw [bytes, List.length_append, List.length_append, List.length_take, List.length_drop,
      length_slice]
    omega
  refine (rkdev_writeLba readIdle lba _ own'.subcode own'.timeout own').imp ?_
  intro outcome own'' reached moved
  obtain ⟨same, wrote, -, succeeds⟩ := moved
  rw [bytes] at wrote
  have wrote := (wrote.patchWithin within).of_disk disk
  rw [start] at wrote
  have served (serves : script.Serves SECTOR_SIZE own'.timeout) : ∃ value, outcome = .ok value :=
    succeeds (by rw [patched]; exact serves) (by rw [patched]; exact small)
  refine ⟨same, wrote, fun _ _ => .inr ?_, fun serves _ => served serves.sector,
    fun still some _ _ => ?_⟩
  · have here : lba.toNat + 1 < 2 ^ 32 := small
    unfold Addressable addressLimit SECTOR_SIZE at *
    omega
  · obtain ⟨value, rfl⟩ := served (still.serves some _)
    exact .of_eq wrote.written.1

theorem writeHead_effect (idle : bus.Idle) (own : RkBlockDevice) (pos : Nat)
    {remaining : List UInt8} (some : remaining ≠ []) :
    Io.After (Bus.answer script) (writeHead pos remaining) own bus
      (WritePhase script (remaining.length + 1) own bus pos remaining) := by
  have positive := List.length_pos_iff.mpr some
  unfold writeHead
  refine Io.after_get_bind.mpr ?_
  dsimp only
  by_cases aligned : pos % SECTOR_SIZE = 0
  · rw [if_neg (not_not.mpr aligned)]
    exact .done (List.nil_append _) rfl (.nothing idle) (Nat.lt_succ_self _) (.inr aligned)
  rw [if_pos aligned]
  have inside := Nat.mod_lt pos (show 0 < SECTOR_SIZE by decide)
  have parts := List.take_append_drop
    (min (SECTOR_SIZE - pos % SECTOR_SIZE) remaining.length) remaining
  have length : (remaining.take (min (SECTOR_SIZE - pos % SECTOR_SIZE) remaining.length)).length =
      min (SECTOR_SIZE - pos % SECTOR_SIZE) remaining.length := by
    rw [List.length_take, Nat.min_eq_left (Nat.min_le_right _ _)]
  have restAligned := head_aligned pos remaining
  have restShort : (remaining.drop (min (SECTOR_SIZE - pos % SECTOR_SIZE)
      remaining.length)).length < remaining.length + 1 := by
    rw [List.length_drop]
    omega
  generalize remaining.take (min (SECTOR_SIZE - pos % SECTOR_SIZE) remaining.length) = chunk at *
  generalize remaining.drop (min (SECTOR_SIZE - pos % SECTOR_SIZE) remaining.length) = rest at *
  have here : chunk ≠ [] := List.length_pos_iff.mp (by omega)
  refine Io.after_ofExcept_bind.mpr ?_
  cases addressed : tryLba (pos / SECTOR_SIZE) with
  | error error => exact .fail parts rfl (.unaddressed here addressed)
  | ok lba =>
    dsimp only
    rw [← bind_assoc]
    refine (patchSector_effect idle own (tryLba_ok addressed) length (by omega) here
      remaining.length).bind (fun error own' reached moved => ?_) fun _ own' reached moved => ?_
    · exact .fail parts moved.1 moved.2.failed
    obtain ⟨rfl, puts⟩ := moved
    refine Io.after_ofExcept_bind.mpr ?_
    rw [puts.advance here length]
    rw [← length] at restAligned
    exact .done parts rfl puts restShort restAligned

/-- The whole sectors of a request, written by the device handle. -/
theorem rkdev_writeLba_puts (idle : bus.Idle) (own : RkBlockDevice) {pos : Nat} {lba : UInt32}
    (sector : lba.toNat = pos / SECTOR_SIZE) (start : SECTOR_SIZE * (pos / SECTOR_SIZE) = pos)
    {chunk : List UInt8} (whole : chunk.length % SECTOR_SIZE = 0) (some : chunk ≠ []) :
    Io.After (Bus.answer script) (rkdev (writeLba lba chunk own.subcode own.timeout)) own bus
      fun outcome own' reached =>
        own' = own ∧ Puts script chunk.length own.timeout bus pos chunk outcome reached := by
  have positive := List.length_pos_iff.mpr some
  have stores : Io.After (Bus.answer script) (rkdev (writeLba lba chunk own.subcode own.timeout))
      own bus fun _ _ reached => script.Still → 0 < own.timeout →
        Stored pos chunk bus reached := by
    intro still some place below
    have addressed : place < STORAGE_SECTOR_SIZE * 2 ^ 32 := by
      unfold addressLimit SECTOR_SIZE at below
      unfold STORAGE_SECTOR_SIZE
      omega
    have reaches : Io.After (Bus.answer script)
        (rkdev (writeLba lba chunk own.subcode own.timeout)) own bus fun _ _ reached =>
          reached.target.disk place =
            splice bus.target.disk (STORAGE_SECTOR_SIZE * lba.toNat) chunk place :=
      Io.after_mapErr.mpr (Io.after_lift.mpr
        (writeLba_reaches still idle lba whole own.subcode some addressed))
    rw [show STORAGE_SECTOR_SIZE * lba.toNat = pos from sector ▸ start] at reaches
    exact reaches
  refine ((rkdev_writeLba idle lba chunk own.subcode own.timeout own).and stores).imp ?_
  intro outcome own' reached both
  obtain ⟨⟨same, wrote, fits, succeeds⟩, stored⟩ := both
  rw [sector, start] at wrote
  refine ⟨same, wrote, fun value ok => .inr ?_, fun serves inside => succeeds serves ?_,
    fun still some _ _ => stored still some⟩
  · have := fits value ok
    unfold Addressable addressLimit SECTOR_SIZE at *
    omega
  · have := inside.resolve_left some
    unfold Addressable addressLimit SECTOR_SIZE at *
    omega

theorem writeMiddle_effect (idle : bus.Idle) (own : RkBlockDevice) {pos : Nat}
    {remaining : List UInt8} (aligned : remaining = [] ∨ pos % SECTOR_SIZE = 0) :
    Io.After (Bus.answer script) (writeMiddle pos remaining) own bus
      (WritePhase script SECTOR_SIZE own bus pos remaining) := by
  unfold writeMiddle
  refine Io.after_get_bind.mpr ?_
  dsimp only
  by_cases small : remaining.length / SECTOR_SIZE * SECTOR_SIZE = 0
  · rw [if_neg (not_not.mpr small)]
    refine .done (List.nil_append _) rfl (.nothing idle) ?_ aligned
    unfold SECTOR_SIZE at *
    omega
  rw [if_pos small]
  have start : SECTOR_SIZE * (pos / SECTOR_SIZE) = pos := by
    rcases aligned with rfl | aligned
    · exact absurd rfl small
    · exact Nat.mul_div_cancel' (Nat.dvd_of_mod_eq_zero aligned)
  have most : remaining.length / SECTOR_SIZE * SECTOR_SIZE ≤ remaining.length :=
    Nat.div_mul_le_self _ _
  have length : (remaining.take (remaining.length / SECTOR_SIZE * SECTOR_SIZE)).length =
      remaining.length / SECTOR_SIZE * SECTOR_SIZE := by
    rw [List.length_take, Nat.min_eq_left most]
  have parts := List.take_append_drop (remaining.length / SECTOR_SIZE * SECTOR_SIZE) remaining
  have restShort : (remaining.drop (remaining.length / SECTOR_SIZE * SECTOR_SIZE)).length <
      SECTOR_SIZE := by
    rw [List.length_drop]
    unfold SECTOR_SIZE
    omega
  generalize remaining.take (remaining.length / SECTOR_SIZE * SECTOR_SIZE) = chunk at *
  generalize remaining.drop (remaining.length / SECTOR_SIZE * SECTOR_SIZE) = rest at *
  have here : chunk ≠ [] := List.length_pos_iff.mp (by omega)
  have whole : chunk.length % SECTOR_SIZE = 0 := by
    rw [length]
    exact Nat.mul_mod_left _ _
  have restAligned : (pos + chunk.length) % SECTOR_SIZE = 0 := by
    unfold SECTOR_SIZE at *
    omega
  refine Io.after_ofExcept_bind.mpr ?_
  cases addressed : tryLba (pos / SECTOR_SIZE) with
  | error error => exact .fail parts rfl (.unaddressed here addressed)
  | ok lba =>
    refine (rkdev_writeLba_puts idle own (tryLba_ok addressed) start whole here).bind
      (fun error own' reached moved => ?_) fun _ own' reached moved => ?_
    · exact .fail parts moved.1 (moved.2.longer (length.le.trans most)).failed
    obtain ⟨rfl, puts⟩ := moved
    refine Io.after_ofExcept_bind.mpr ?_
    rw [puts.advance here length]
    exact .done parts rfl (puts.longer (length.le.trans most)) restShort (.inr restAligned)

theorem writeTail_effect (idle : bus.Idle) (own : RkBlockDevice) {pos : Nat}
    {remaining : List UInt8} (aligned : remaining = [] ∨ pos % SECTOR_SIZE = 0)
    (short : remaining.length < SECTOR_SIZE) :
    Io.After (Bus.answer script) (writeTail pos remaining) own bus fun outcome own' reached =>
      own' = own ∧ Puts script remaining.length own.timeout bus pos remaining outcome reached := by
  unfold writeTail
  refine Io.after_get_bind.mpr ?_
  by_cases empty : remaining = []
  · rw [if_neg (not_not.mpr empty), empty]
    exact ⟨rfl, .nothing idle⟩
  rw [if_pos empty]
  refine Io.after_ofExcept_bind.mpr ?_
  cases addressed : tryLba (pos / SECTOR_SIZE) with
  | error error => exact ⟨rfl, .unaddressed empty addressed⟩
  | ok lba =>
    have whole := aligned.resolve_left empty
    have patched := @patchSector_effect script bus idle own pos lba (tryLba_ok addressed) remaining
      remaining.length rfl (by omega) empty remaining.length
    simpa only [whole, List.take_zero, List.nil_append, Nat.zero_add] using patched

/-- **A write** writes a beginning of the buffer at the cursor and nothing else. On `Ok` it is all of
the buffer and the cursor moves past it, and else the cursor stays. -/
theorem write_effect (idle : bus.Idle) (own : RkBlockDevice) (buf : List UInt8) :
    Io.After (Bus.answer script) (write buf) own bus fun outcome own' reached =>
      Puts script buf.length own.timeout bus own.pos buf outcome reached ∧
        (∀ error, outcome = .error error → own' = own) ∧
        (∀ result, outcome = .ok result → result = buf.length ∧
          own' = { own with pos := own.pos + buf.length }) := by
  unfold write
  by_cases empty : buf = []
  · rw [if_pos empty, empty]
    refine ⟨.nothing idle, fun error same => (by cases same), fun result same => ?_⟩
    cases same
    exact ⟨rfl, rfl⟩
  rw [if_neg empty]
  refine Io.after_get_bind.mpr (Io.after_ofExcept_bind.mpr ?_)
  cases ended : checkedAdd own.pos buf.length "write position overflow" with
  | error error =>
    have large := checkedAdd_error ended
    refine ⟨⟨.nothing rfl, fun _ fails => (by cases fails), fun _ fits => ?_,
      fun _ _ low short => absurd large ?_⟩, fun _ _ => rfl, fun result fails => (by cases fails)⟩
    · exact absurd ended ((fits.resolve_left empty).checkedAdd_ne le_rfl)
    · unfold addressLimit SECTOR_SIZE at low
      omega
  | ok endPos =>
    obtain rfl := checkedAdd_ok ended
    refine (writeHead_effect idle own own.pos empty).bind (fun error own' reached moved => ?_)
      fun result own' reached moved => ?_
    · obtain ⟨same, chunk, rest, parts, puts, -⟩ := moved
      rw [parts] at puts ⊢
      exact ⟨puts.stop rest, fun _ _ => same, fun result same => (by cases same)⟩
    obtain ⟨rfl, head, rest, rfl, putsHead, found⟩ := moved
    obtain ⟨rfl, -, aligned⟩ := found result rfl
    refine (writeMiddle_effect putsHead.wrote.written.2 own' aligned).bind
      (fun error own'' reached moved => ?_) fun result own'' reached moved => ?_
    · obtain ⟨same, chunk, tail, rfl, puts, -⟩ := moved
      refine ⟨putsHead.next ((puts.longer ?_).stop tail), fun _ _ => same,
        fun result same => (by cases same)⟩
      simp only [List.length_append]
      omega
    obtain ⟨rfl, middle, tail, rfl, putsMiddle, found⟩ := moved
    obtain ⟨rfl, short, aligned⟩ := found result rfl
    have longer : (middle ++ tail).length ≤ (head ++ (middle ++ tail)).length := by
      simp only [List.length_append]
      omega
    have longest : tail.length ≤ (head ++ (middle ++ tail)).length := by
      simp only [List.length_append]
      omega
    refine (writeTail_effect putsMiddle.wrote.written.2 own'' aligned short).bind
      (fun error last' reached moved => ?_) fun _ last' reached moved => ?_
    · exact ⟨putsHead.next ((putsMiddle.longer longer).next (moved.2.longer longest).failed),
        fun _ _ => moved.1, fun result same => (by cases same)⟩
    obtain ⟨rfl, putsTail⟩ := moved
    have puts := putsHead.next ((putsMiddle.longer longer).next (putsTail.longer longest))
    refine Io.after_modify_bind.mpr ⟨puts.returned, fun error same => (by cases same),
      fun result same => ?_⟩
    cases same
    refine ⟨rfl, ?_⟩
    rfl

/-! ### Seeking -/

/-- A seek moves the cursor to where it leads, if that is on the disk, and fails else. -/
theorem seek_effect (own : RkBlockDevice) (target : SeekFrom) :
    Io.After (Bus.answer script) (seek target) own bus fun outcome own' reached =>
      reached = bus ∧
        match (own.sought target).filter (· < own.diskSizeBytes) with
        | some newPos => outcome = .ok newPos ∧ own' = { own with pos := newPos }
        | none => outcome = .error (.new .invalidInput "out of range") ∧ own' = own := by
  unfold seek
  refine Io.after_get_bind.mpr (Io.after_ofExcept_bind.mpr ?_)
  cases (own.sought target).filter (· < own.diskSizeBytes) with
  | none => exact ⟨rfl, rfl, rfl⟩
  | some newPos => exact Io.after_modify_bind.mpr ⟨rfl, rfl, rfl⟩

end RkBlockDevice

end Rkusb
