/-
**The sectors that a block device addresses.**

A seek keeps the cursor below the end of the disk. A read or a write takes the cursor past its
buffer and does not look at the size of the disk, so it addresses sectors of the disk only if the
range it starts from the cursor lies on the disk.

* `sectorCommands`: the READ_LBA and WRITE_LBA commands among the transfers of the host.
* `commands_below_flashSize`: in a run of seeks, reads and writes whose reads and writes lie on the
  disk, every one of these commands is for sectors below the flash size, whatever the other end of
  the bus does.
* `read_beyond_flashSize`: two bytes read at the last byte of the disk address the sector after it.
-/

import Rkusb.ByteFile
import Rkusb.WireCommands

namespace Rkusb

open Interaction Bytes FlatStore

variable {script : Script} {bus : Bus}

/-! ### Sector commands on the wire -/

/-- The READ_LBA and WRITE_LBA commands among the transfers of the host. -/
def sectorCommands (transfers : List Transfer) : List WireCommand :=
  transfers.filterMap fun transfer =>
    match transfer with
    | .bulkOut bytes _ =>
        (WireCommand.decode bytes).filter fun command =>
          command.opcode = 0x14 ∨ command.opcode = 0x15
    | _ => none

/-- Transfers whose sector commands are for sectors below the limit. -/
def Confined (limit : Nat) : Language Transfer :=
  { sent | ∀ command ∈ sectorCommands sent, command.address + command.count ≤ limit }

theorem sectorCommands_append (first second : List Transfer) :
    sectorCommands (first ++ second) = sectorCommands first ++ sectorCommands second :=
  List.filterMap_append

theorem confined_append {limit : Nat} {first second : List Transfer} :
    first ++ second ∈ Confined limit ↔ first ∈ Confined limit ∧ second ∈ Confined limit := by
  unfold Confined
  show (∀ command ∈ sectorCommands (first ++ second), _) ↔ _
  rw [sectorCommands_append]
  exact List.forall_mem_append

theorem confined_nil (limit : Nat) : [] ∈ Confined limit := by
  intro command member
  cases member

/-- The sector commands are the commands with their opcodes. -/
theorem sectorCommands_eq_filter (transfers : List Transfer) :
    sectorCommands transfers = (wireCommands transfers).filter fun command =>
      command.opcode = 0x14 ∨ command.opcode = 0x15 := by
  unfold sectorCommands wireCommands
  rw [List.filter_filterMap]
  refine List.filterMap_congr fun transfer _ => ?_
  cases transfer <;> rfl

/-- Commands below the limit send transfers that are confined to it. -/
theorem Below.confined {limit : Nat} {commands : List Command} (below : Below limit commands)
    {sent : List Transfer} (planned : sent ∈ transfersOf commands) : sent ∈ Confined limit := by
  rw [← List.append_nil sent] at planned
  intro command member
  rw [sectorCommands_eq_filter] at member
  exact below.wireCommands planned command (List.mem_of_mem_filter member)

/-- The range of a request that ends at an address. -/
theorem fits_of_inside {limit : Nat} {pos : UInt32} {data : List UInt8}
    (inside : pos.toNat + sectorsOf data.length ≤ limit) (small : limit < 2 ^ 32) :
    pos.toNat + data.length / STORAGE_SECTOR_SIZE < 2 ^ 32 := by
  have := div_le_sectorsOf data.length
  omega

/-- The commands of a read are for the sectors of its range. -/
theorem readCommands_confined {limit : Nat} {pos : UInt32} {data : List UInt8} {subcode : UInt8}
    (inside : pos.toNat + sectorsOf data.length ≤ limit) (small : limit < 2 ^ 32)
    {sent : List Transfer} (planned : sent ∈ transfersOf (readCommands pos data subcode)) :
    sent ∈ Confined limit :=
  ((readCommands_inside (fits_of_inside inside small)).mono inside).confined planned

/-- The commands of a write are for the sectors of its range. -/
theorem writeCommands_confined {limit : Nat} {pos : UInt32} {data : List UInt8} {subcode : UInt8}
    (inside : pos.toNat + sectorsOf data.length ≤ limit) (small : limit < 2 ^ 32)
    {sent : List Transfer} (planned : sent ∈ transfersOf (writeCommands pos data subcode)) :
    sent ∈ Confined limit :=
  ((writeCommands_inside (fits_of_inside inside small)).mono inside).confined planned

/-! ### Phases -/

namespace RkBlockDevice

theorem rkdev_readLba_confined {limit : Nat} {lba : UInt32} {buf : List UInt8} {subcode : UInt8}
    {timeout : Duration} (inside : lba.toNat + sectorsOf buf.length ≤ limit)
    (small : limit < 2 ^ 32) :
    Emits script (Confined limit) (rkdev (readLba lba buf subcode timeout)) :=
  (((readLba_emits lba buf subcode timeout).mono fun _ =>
    readCommands_confined inside small).lift).mapErr

theorem rkdev_writeLba_confined {limit : Nat} {lba : UInt32} {data : List UInt8} {subcode : UInt8}
    {timeout : Duration} (inside : lba.toNat + sectorsOf data.length ≤ limit)
    (small : limit < 2 ^ 32) :
    Emits script (Confined limit) (rkdev (writeLba lba data subcode timeout)) :=
  (((writeLba_emits lba data subcode timeout).mono fun _ =>
    writeCommands_confined inside small).lift).mapErr

/-- Keeps the block device, sends sector commands below the limit only, and returns what is
`good`. -/
def Stays {α : Type} (limit : Nat) (good : α → Prop) (own : RkBlockDevice) (before : Bus)
    (outcome : Except IoError α) (own' : RkBlockDevice) (reached : Bus) : Prop :=
  own' = own ∧ (∃ sent ∈ Confined limit, reached.trace = before.trace ++ sent) ∧
    ∀ value, outcome = .ok value → good value

section Stays

variable {α β : Type} {limit : Nat} {good : α → Prop} {good' : β → Prop} {own : RkBlockDevice}

theorem Stays.still {value : α} (holds : good value) :
    Stays limit good own bus (.ok value) own bus := by
  refine ⟨rfl, ⟨[], confined_nil limit, (List.append_nil _).symm⟩, fun value' same => ?_⟩
  cases same
  exact holds

theorem Stays.fail {error : IoError} : Stays limit good own bus (.error error) own bus :=
  ⟨rfl, ⟨[], confined_nil limit, (List.append_nil _).symm⟩, fun value same => by cases same⟩

theorem Stays.trans {middle reached : Bus} {first : Except IoError α} {outcome : Except IoError β}
    {own' own'' : RkBlockDevice} (here : Stays limit good own bus first own' middle)
    (there : Stays limit good' own' middle outcome own'' reached) :
    Stays limit good' own bus outcome own'' reached := by
  obtain ⟨rfl, ⟨sent, below, logged⟩, -⟩ := here
  obtain ⟨rfl, ⟨sent', below', logged'⟩, holds⟩ := there
  refine ⟨rfl, ⟨sent ++ sent', confined_append.mpr ⟨below, below'⟩, ?_⟩, holds⟩
  rw [logged', logged, List.append_assoc]

theorem stays_bind {first : UsbIo RkBlockDevice IoError α}
    {next : α → UsbIo RkBlockDevice IoError β}
    (here : Io.After (Bus.answer script) first own bus (Stays limit good own bus))
    (there : ∀ value reached, good value →
      Io.After (Bus.answer script) (next value) own reached (Stays limit good' own reached)) :
    Io.After (Bus.answer script) (first >>= next) own bus (Stays limit good' own bus) := by
  refine here.bind (fun error own' reached stays => ?_) fun value own' reached stays => ?_
  · exact ⟨stays.1, stays.2.1, fun value same => by cases same⟩
  · obtain rfl := stays.1
    exact (there value reached (stays.2.2 value rfl)).imp fun _ _ _ => stays.trans

theorem stays_ofExcept_bind {result : Except IoError α}
    {next : α → UsbIo RkBlockDevice IoError β}
    (there : ∀ value, result = .ok value →
      Io.After (Bus.answer script) (next value) own bus (Stays limit good' own bus)) :
    Io.After (Bus.answer script) (Io.ofExcept result >>= next) own bus
      (Stays limit good' own bus) := by
  refine Io.after_ofExcept_bind.mpr ?_
  cases result with
  | ok value => exact there value rfl
  | error error => exact .fail

/-- A call of the device handle keeps the block device. -/
theorem stays_rkdev {call : UsbIo Unit RkUsbError α}
    (confined : Emits script (Confined limit) (rkdev call))
    (returns : Io.After (Bus.answer script) call () bus fun outcome _ _ =>
      ∀ value, outcome = .ok value → good value) :
    Io.After (Bus.answer script) (rkdev call) own bus (Stays limit good own bus) := by
  have kept : Io.After (Bus.answer script) (rkdev call) own bus fun outcome own' _ =>
      own' = own ∧ ∀ value, outcome = .ok value → good value := by
    refine Io.after_mapErr.mpr (Io.after_lift.mpr (returns.imp fun outcome _ _ holds => ?_))
    refine ⟨rfl, fun value same => holds value ?_⟩
    cases outcome with
    | ok found => cases same; rfl
    | error error => cases same
  refine ((confined own bus).and kept).imp ?_
  intro outcome own' reached both
  obtain ⟨⟨sent, rest, logged, planned, -⟩, same, holds⟩ := both
  exact ⟨same, ⟨sent, (confined_append.mp planned).1, logged⟩, holds⟩

theorem stays_rkdev_bind {call : UsbIo Unit RkUsbError α}
    {next : α → UsbIo RkBlockDevice IoError β}
    (confined : Emits script (Confined limit) (rkdev call))
    (there : ∀ value reached,
      Io.After (Bus.answer script) (next value) own reached (Stays limit good' own reached)) :
    Io.After (Bus.answer script) (rkdev call >>= next) own bus (Stays limit good' own bus) := by
  have anything : Io.After (Bus.answer script) call () bus fun outcome _ _ =>
      ∀ value, outcome = .ok value → True := fun _ _ => trivial
  exact stays_bind (stays_rkdev confined anything) fun value reached _ => there value reached

end Stays

/-- The position after a phase and what remains there. -/
def Advanced (pos length next : Nat) (rest : List UInt8) : Prop :=
  next + rest.length = pos + length ∧ (rest = [] ∨ next % SECTOR_SIZE = 0)

/-- The head of a request that does not start at a sector. -/
theorem advanced_head {pos next : Nat} {remaining : List UInt8} {message : String}
    (advances : checkedAdd pos (min (SECTOR_SIZE - pos % SECTOR_SIZE) remaining.length) message =
      .ok next) :
    Advanced pos remaining.length next
      (remaining.drop (min (SECTOR_SIZE - pos % SECTOR_SIZE) remaining.length)) := by
  obtain rfl := checkedAdd_ok advances
  exact ⟨by rw [List.length_drop]; omega, head_aligned pos remaining⟩

/-- The whole sectors of a request. -/
theorem advanced_middle {pos next : Nat} {remaining : List UInt8} {message : String}
    (aligned : remaining = [] ∨ pos % SECTOR_SIZE = 0)
    (advances : checkedAdd pos (remaining.length / SECTOR_SIZE * SECTOR_SIZE) message = .ok next) :
    Advanced pos remaining.length next
      (remaining.drop (remaining.length / SECTOR_SIZE * SECTOR_SIZE)) := by
  obtain rfl := checkedAdd_ok advances
  have most : remaining.length / SECTOR_SIZE * SECTOR_SIZE ≤ remaining.length :=
    Nat.div_mul_le_self _ _
  refine ⟨by rw [List.length_drop]; omega, aligned.imp (fun empty => by simp [empty]) fun even => ?_⟩
  unfold SECTOR_SIZE at *
  omega

variable {limit pos : Nat} {remaining : List UInt8}

/-- One sector at a byte of the range. -/
theorem sector_inside {length : Nat} (some : 0 < length) (inside : pos + length ≤ SECTOR_SIZE * limit) :
    pos / SECTOR_SIZE + sectorsOf (List.replicate SECTOR_SIZE (0 : UInt8)).length ≤ limit := by
  rw [List.length_replicate, show sectorsOf SECTOR_SIZE = 1 from rfl]
  unfold SECTOR_SIZE at *
  omega

/-- The whole sectors of the range. -/
theorem sectors_inside (aligned : remaining = [] ∨ pos % SECTOR_SIZE = 0)
    (whole : remaining.length / SECTOR_SIZE * SECTOR_SIZE ≠ 0)
    (inside : pos + remaining.length ≤ SECTOR_SIZE * limit) :
    pos / SECTOR_SIZE +
      sectorsOf (remaining.take (remaining.length / SECTOR_SIZE * SECTOR_SIZE)).length ≤ limit := by
  have start : pos % SECTOR_SIZE = 0 := aligned.resolve_left fun empty => by
    rw [empty] at whole
    exact whole rfl
  rw [List.length_take, Nat.min_eq_left (Nat.div_mul_le_self _ _)]
  unfold sectorsOf STORAGE_SECTOR_SIZE SECTOR_SIZE at *
  omega

theorem readHead_stays (small : limit < 2 ^ 32) (some : remaining ≠ [])
    (inside : pos + remaining.length ≤ SECTOR_SIZE * limit) (own : RkBlockDevice) :
    Io.After (Bus.answer script) (readHead pos remaining) own bus
      (Stays limit (fun result => Advanced pos remaining.length result.2.1 result.2.2) own bus) := by
  unfold readHead
  refine Io.after_get_bind.mpr ?_
  dsimp only
  by_cases aligned : pos % SECTOR_SIZE = 0
  · rw [if_neg (not_not.mpr aligned)]
    exact .still ⟨rfl, .inr aligned⟩
  rw [if_pos aligned]
  refine stays_ofExcept_bind fun lba addressed => ?_
  have below := sector_inside (List.length_pos_iff.mpr some) inside
  rw [← tryLba_ok addressed] at below
  refine stays_rkdev_bind (rkdev_readLba_confined below small) fun tmp reached => ?_
  exact stays_ofExcept_bind fun next advances => .still (advanced_head advances)

theorem readMiddle_stays (small : limit < 2 ^ 32)
    (aligned : remaining = [] ∨ pos % SECTOR_SIZE = 0)
    (inside : pos + remaining.length ≤ SECTOR_SIZE * limit) (own : RkBlockDevice) :
    Io.After (Bus.answer script) (readMiddle pos remaining) own bus
      (Stays limit (fun result => Advanced pos remaining.length result.2.1 result.2.2) own bus) := by
  unfold readMiddle
  refine Io.after_get_bind.mpr ?_
  dsimp only
  by_cases whole : remaining.length / SECTOR_SIZE * SECTOR_SIZE = 0
  · rw [if_neg (not_not.mpr whole)]
    exact .still ⟨rfl, aligned⟩
  rw [if_pos whole]
  refine stays_ofExcept_bind fun lba addressed => ?_
  have below := sectors_inside aligned whole inside
  rw [← tryLba_ok addressed] at below
  refine stays_rkdev_bind (rkdev_readLba_confined below small) fun filled reached => ?_
  exact stays_ofExcept_bind fun next advances => .still (advanced_middle aligned advances)

theorem readTail_stays (small : limit < 2 ^ 32)
    (inside : pos + remaining.length ≤ SECTOR_SIZE * limit) (own : RkBlockDevice) :
    Io.After (Bus.answer script) (readTail pos remaining) own bus
      (Stays limit (fun _ => True) own bus) := by
  unfold readTail
  refine Io.after_get_bind.mpr ?_
  by_cases empty : remaining = []
  · rw [if_neg (not_not.mpr empty)]
    exact .still trivial
  rw [if_pos empty]
  refine stays_ofExcept_bind fun lba addressed => ?_
  have below := sector_inside (List.length_pos_iff.mpr empty) inside
  rw [← tryLba_ok addressed] at below
  exact stays_rkdev_bind (rkdev_readLba_confined below small) fun tmp reached => .still trivial

/-- An edge sector is read and written back at its own place. -/
theorem patchSector_stays {offset count : Nat} {chunk : List UInt8} {lba : UInt32}
    (small : limit < 2 ^ 32) (length : chunk.length = count)
    (within : offset + count ≤ SECTOR_SIZE)
    (below : lba.toNat + sectorsOf (List.replicate SECTOR_SIZE (0 : UInt8)).length ≤ limit)
    (own : RkBlockDevice) :
    Io.After (Bus.answer script) (do
      let tmp ← rkdev (readLba lba (List.replicate SECTOR_SIZE 0) own.subcode own.timeout)
      rkdev (writeLba lba (tmp.take offset ++ chunk ++ tmp.drop (offset + count)) own.subcode
        own.timeout)) own bus (Stays limit (fun _ => True) own bus) := by
  refine stays_bind (stays_rkdev (rkdev_readLba_confined below small)
    ((readLba_returns lba _ own.subcode own.timeout).imp fun _ _ _ returns tmp same =>
      (returns tmp same).1)) fun tmp reached whole => ?_
  refine stays_rkdev (rkdev_writeLba_confined ?_ small) fun _ _ => trivial
  have patched : (tmp.take offset ++ chunk ++ tmp.drop (offset + count)).length =
      (List.replicate SECTOR_SIZE (0 : UInt8)).length := by
    rw [List.length_replicate] at whole ⊢
    rw [List.length_append, List.length_append, List.length_take, List.length_drop]
    omega
  rw [patched]
  exact below

theorem writeHead_stays (small : limit < 2 ^ 32) (some : remaining ≠ [])
    (inside : pos + remaining.length ≤ SECTOR_SIZE * limit) (own : RkBlockDevice) :
    Io.After (Bus.answer script) (writeHead pos remaining) own bus
      (Stays limit (fun result => Advanced pos remaining.length result.1 result.2) own bus) := by
  unfold writeHead
  refine Io.after_get_bind.mpr ?_
  dsimp only
  by_cases aligned : pos % SECTOR_SIZE = 0
  · rw [if_neg (not_not.mpr aligned)]
    exact .still ⟨rfl, .inr aligned⟩
  rw [if_pos aligned]
  refine stays_ofExcept_bind fun lba addressed => ?_
  have below := sector_inside (List.length_pos_iff.mpr some) inside
  rw [← tryLba_ok addressed] at below
  have inSector := Nat.mod_lt pos (show 0 < SECTOR_SIZE by decide)
  have length : (remaining.take (min (SECTOR_SIZE - pos % SECTOR_SIZE) remaining.length)).length =
      min (SECTOR_SIZE - pos % SECTOR_SIZE) remaining.length := by
    rw [List.length_take, Nat.min_eq_left (Nat.min_le_right _ _)]
  rw [← bind_assoc]
  refine stays_bind (patchSector_stays small length (by omega) below own) fun _ reached _ => ?_
  exact stays_ofExcept_bind fun next advances => .still (advanced_head advances)

theorem writeMiddle_stays (small : limit < 2 ^ 32)
    (aligned : remaining = [] ∨ pos % SECTOR_SIZE = 0)
    (inside : pos + remaining.length ≤ SECTOR_SIZE * limit) (own : RkBlockDevice) :
    Io.After (Bus.answer script) (writeMiddle pos remaining) own bus
      (Stays limit (fun result => Advanced pos remaining.length result.1 result.2 ∧
        result.2.length ≤ SECTOR_SIZE) own bus) := by
  unfold writeMiddle
  refine Io.after_get_bind.mpr ?_
  dsimp only
  by_cases whole : remaining.length / SECTOR_SIZE * SECTOR_SIZE = 0
  · rw [if_neg (not_not.mpr whole)]
    refine .still ⟨⟨rfl, aligned⟩, ?_⟩
    show remaining.length ≤ SECTOR_SIZE
    unfold SECTOR_SIZE at *
    omega
  rw [if_pos whole]
  refine stays_ofExcept_bind fun lba addressed => ?_
  have below := sectors_inside aligned whole inside
  rw [← tryLba_ok addressed] at below
  refine stays_rkdev_bind (rkdev_writeLba_confined below small) fun _ reached => ?_
  refine stays_ofExcept_bind fun next advances => .still ⟨advanced_middle aligned advances, ?_⟩
  rw [List.length_drop]
  unfold SECTOR_SIZE
  omega

theorem writeTail_stays (small : limit < 2 ^ 32) (short : remaining.length ≤ SECTOR_SIZE)
    (inside : pos + remaining.length ≤ SECTOR_SIZE * limit) (own : RkBlockDevice) :
    Io.After (Bus.answer script) (writeTail pos remaining) own bus
      (Stays limit (fun _ => True) own bus) := by
  unfold writeTail
  refine Io.after_get_bind.mpr ?_
  by_cases empty : remaining = []
  · rw [if_neg (not_not.mpr empty)]
    exact .still trivial
  rw [if_pos empty]
  refine stays_ofExcept_bind fun lba addressed => ?_
  have below := sector_inside (List.length_pos_iff.mpr empty) inside
  rw [← tryLba_ok addressed] at below
  have patched := @patchSector_stays script bus limit 0 remaining.length remaining lba small rfl
    (by omega) below own
  simpa only [List.take_zero, List.nil_append, Nat.zero_add] using patched

/-! ### Calls -/

/-- The disk of the device has the size that its flash info says. -/
def Sized (flashSize : UInt32) (own : RkBlockDevice) : Prop :=
  own.diskSizeBytes = flashSize.toNat * SECTOR_SIZE

/-- The range that a read or a write starts from the cursor lies on the disk, is empty, or ends at
no `u64` position. A seek has no range. -/
def Inside (own : RkBlockDevice) : BlockCall → Prop
  | .seek _ => True
  | .read buf | .write buf =>
      buf = [] ∨ own.pos + buf.length ≤ own.diskSizeBytes ∨ 2 ^ 64 ≤ own.pos + buf.length

instance (own : RkBlockDevice) (call : BlockCall) : Decidable (own.Inside call) :=
  match call with
  | .seek _ => inferInstanceAs (Decidable True)
  | .read buf => inferInstanceAs (Decidable (buf = [] ∨ _ ∨ _))
  | .write buf => inferInstanceAs (Decidable (buf = [] ∨ _ ∨ _))

/-- What a call leaves behind when its sector commands are below the limit. -/
def Kept (limit : Nat) (own : RkBlockDevice) (before : Bus) (own' : RkBlockDevice) (reached : Bus) :
    Prop :=
  own'.diskSizeBytes = own.diskSizeBytes ∧
    ∃ sent ∈ Confined limit, reached.trace = before.trace ++ sent

theorem Kept.still {own own' : RkBlockDevice} (size : own'.diskSizeBytes = own.diskSizeBytes) :
    Kept limit own bus own' bus :=
  ⟨size, [], confined_nil limit, (List.append_nil _).symm⟩

theorem Kept.trans {own own' own'' : RkBlockDevice} {middle reached : Bus}
    (here : Kept limit own bus own' middle) (there : Kept limit own' middle own'' reached) :
    Kept limit own bus own'' reached := by
  obtain ⟨size, sent, below, logged⟩ := here
  obtain ⟨size', sent', below', logged'⟩ := there
  refine ⟨size'.trans size, sent ++ sent', confined_append.mpr ⟨below, below'⟩, ?_⟩
  rw [logged', logged, List.append_assoc]

theorem Stays.kept {α : Type} {good : α → Prop} {own own' : RkBlockDevice} {reached : Bus}
    {outcome : Except IoError α} (stays : Stays limit good own bus outcome own' reached) :
    Kept limit own bus own' reached :=
  ⟨by rw [stays.1], stays.2.1⟩

theorem checkedAdd_of_le {pos count : Nat} {message : String} (large : 2 ^ 64 ≤ pos + count) :
    checkedAdd pos count message = .error (.new .invalidInput message) := by
  rw [checkedAdd, if_neg (Nat.not_lt.mpr large)]

/-- A range on the disk, where the end of the range fits into 64 bits. -/
theorem Inside.range {own : RkBlockDevice} {buf : List UInt8} {endPos : Nat} {message : String}
    (some : buf ≠ [])
    (inside : buf = [] ∨ own.pos + buf.length ≤ own.diskSizeBytes ∨ 2 ^ 64 ≤ own.pos + buf.length)
    (ended : checkedAdd own.pos buf.length message = .ok endPos) :
    own.pos + buf.length ≤ own.diskSizeBytes := by
  refine (inside.resolve_left some).resolve_right fun large => ?_
  rw [checkedAdd_of_le large] at ended
  cases ended

theorem read_kept {flashSize : UInt32} {own : RkBlockDevice} (sized : own.Sized flashSize)
    {buf : List UInt8} (inside : own.Inside (.read buf)) :
    Io.After (Bus.answer script) (read buf) own bus fun _ own' reached =>
      Kept flashSize.toNat own bus own' reached := by
  unfold read
  by_cases empty : buf = []
  · rw [if_pos empty]
    exact .still rfl
  rw [if_neg empty]
  refine Io.after_get_bind.mpr (Io.after_ofExcept_bind.mpr ?_)
  cases ended : checkedAdd own.pos buf.length "read position overflow" with
  | error error => exact .still rfl
  | ok endPos =>
    have range := Inside.range empty inside ended
    rw [sized, Nat.mul_comm] at range
    have small := flashSize.toNat_lt
    refine (readHead_stays small empty range own).bind (fun _ _ _ stays => stays.kept)
      fun head own' reached stays => ?_
    obtain ⟨rfl, -, advanced⟩ := id stays
    obtain ⟨filled, next, rest⟩ := head
    obtain ⟨sum, aligned⟩ := advanced _ rfl
    refine (readMiddle_stays small aligned (sum.le.trans range) own').bind
      (fun _ _ _ stays' => stays.kept.trans stays'.kept) fun middle own'' reached stays' => ?_
    obtain ⟨rfl, -, advanced⟩ := id stays'
    obtain ⟨filled', next', rest'⟩ := middle
    obtain ⟨sum', -⟩ := advanced _ rfl
    refine (readTail_stays small (sum'.le.trans (sum.le.trans range)) own'').bind
      (fun _ _ _ last => stays.kept.trans (stays'.kept.trans last.kept)) fun tail _ _ last => ?_
    refine Io.after_modify_bind.mpr ?_
    exact stays.kept.trans (stays'.kept.trans (last.kept.trans (.still rfl)))

theorem write_kept {flashSize : UInt32} {own : RkBlockDevice} (sized : own.Sized flashSize)
    {buf : List UInt8} (inside : own.Inside (.write buf)) :
    Io.After (Bus.answer script) (write buf) own bus fun _ own' reached =>
      Kept flashSize.toNat own bus own' reached := by
  unfold write
  by_cases empty : buf = []
  · rw [if_pos empty]
    exact .still rfl
  rw [if_neg empty]
  refine Io.after_get_bind.mpr (Io.after_ofExcept_bind.mpr ?_)
  cases ended : checkedAdd own.pos buf.length "write position overflow" with
  | error error => exact .still rfl
  | ok endPos =>
    have range := Inside.range empty inside ended
    rw [sized, Nat.mul_comm] at range
    have small := flashSize.toNat_lt
    refine (writeHead_stays small empty range own).bind (fun _ _ _ stays => stays.kept)
      fun head own' reached stays => ?_
    obtain ⟨rfl, -, advanced⟩ := id stays
    obtain ⟨next, rest⟩ := head
    obtain ⟨sum, aligned⟩ := advanced _ rfl
    refine (writeMiddle_stays small aligned (sum.le.trans range) own').bind
      (fun _ _ _ stays' => stays.kept.trans stays'.kept) fun middle own'' reached stays' => ?_
    obtain ⟨rfl, -, advanced⟩ := id stays'
    obtain ⟨next', rest'⟩ := middle
    obtain ⟨⟨sum', -⟩, short⟩ := advanced _ rfl
    refine (writeTail_stays small short (sum'.le.trans (sum.le.trans range)) own'').bind
      (fun _ _ _ last => stays.kept.trans (stays'.kept.trans last.kept)) fun _ _ _ last => ?_
    refine Io.after_modify_bind.mpr ?_
    exact stays.kept.trans (stays'.kept.trans (last.kept.trans (.still rfl)))

/-- **One call** within the disk sends sector commands for the disk only. -/
theorem call_kept {flashSize : UInt32} {own : RkBlockDevice} (sized : own.Sized flashSize)
    {call : BlockCall} (inside : own.Inside call) :
    Io.After (Bus.answer script) call.run own bus fun _ own' reached =>
      Kept flashSize.toNat own bus own' reached := by
  cases call with
  | seek target =>
    have moves : Io.After (Bus.answer script) (seek target) own bus fun _ own' reached =>
        Kept flashSize.toNat own bus own' reached := by
      refine (seek_effect own target).imp ?_
      intro outcome own' reached moved
      obtain ⟨rfl, found⟩ := moved
      split at found
      · rw [found.2]
        exact .still rfl
      · rw [found.2]
        exact .still rfl
    exact moves.bind (fun _ _ _ kept => kept) fun _ _ _ kept => kept
  | read buf => exact (read_kept sized inside).bind (fun _ _ _ kept => kept) fun _ _ _ kept => kept
  | write buf =>
    exact (write_kept sized inside).bind (fun _ _ _ kept => kept) fun _ _ _ kept => kept

/-! ### Runs -/

/-- What a caller can reach from a block device with calls that `allowed` admits, each going on from
what the one before it left, whatever it returned. -/
inductive BlockRun (script : Script) (allowed : RkBlockDevice → BlockCall → Prop)
    (opened : RkBlockDevice) (start : Bus) : RkBlockDevice → Bus → Prop
  | start : BlockRun script allowed opened start opened start
  | call {own : RkBlockDevice} {bus : Bus} (call : BlockCall)
      (reached : BlockRun script allowed opened start own bus) (admits : allowed own call) :
      BlockRun script allowed opened start (call.run.run (Bus.answer script) own bus).1.2
        (call.run.run (Bus.answer script) own bus).2

/-- **No command leaves the disk** in a run of seeks, reads and writes whose reads and writes lie on
the disk, whatever the other end of the bus does. -/
theorem commands_below_flashSize {flashSize : UInt32} {opened own : RkBlockDevice}
    {start bus : Bus} (sized : opened.Sized flashSize)
    (run : BlockRun script Inside opened start own bus) :
    ∃ sent, bus.trace = start.trace ++ sent ∧
      ∀ command ∈ sectorCommands sent, command.address + command.count ≤ flashSize.toNat := by
  suffices kept : Kept flashSize.toNat opened start own bus by
    obtain ⟨-, sent, below, logged⟩ := kept
    exact ⟨sent, logged, below⟩
  induction run with
  | start => exact .still rfl
  | call call reached admits ih => exact ih.trans (call_kept (ih.1.trans sized) admits)

/-- A seek and a read of one sector and a byte more, within a disk of two sectors. -/
theorem commands_below_flashSize_twoSectors :
    Io.After (Bus.answer Script.undisturbed) (BlockCall.run (.read (List.replicate 513 0)))
      ((BlockCall.run (.seek (.start 510))).run (Bus.answer Script.undisturbed)
        (new (2 * SECTOR_SIZE) 0 1) (Bus.fresh fun _ => 0)).1.2
      ((BlockCall.run (.seek (.start 510))).run (Bus.answer Script.undisturbed)
        (new (2 * SECTOR_SIZE) 0 1) (Bus.fresh fun _ => 0)).2
      fun _ _ bus => ∃ sent, bus.trace = [] ++ sent ∧
        ∀ command ∈ sectorCommands sent, command.address + command.count ≤ 2 :=
  @commands_below_flashSize Script.undisturbed 2 (new (2 * SECTOR_SIZE) 0 1) _
    (Bus.fresh fun _ => 0) _ rfl
    (.call _ (.call (.seek (.start 510)) .start trivial) (by decide +kernel))

/-- A device that reports a flash of one sector. -/
def oneSector : Script :=
  { Script.undisturbed with contents := fun _ index => if index = 0 then 1 else 0 }

/-- **A read leaves the disk.** The block device of a flash of one sector, two bytes read from its
last byte: the cursor is on the disk, and the device is asked for the sector after it. -/
theorem read_beyond_flashSize :
    (tryFrom.run (Bus.answer oneSector) () (Bus.fresh fun _ => 0)).1.1 =
        .ok (new (1 * SECTOR_SIZE) DEFAULT_LBA_SUBCODE DEFAULT_IO_TIMEOUT) ∧
      ∃ own bus, BlockRun oneSector (fun _ _ => True)
        (new (1 * SECTOR_SIZE) DEFAULT_LBA_SUBCODE DEFAULT_IO_TIMEOUT)
        (tryFrom.run (Bus.answer oneSector) () (Bus.fresh fun _ => 0)).2 own bus ∧
      ∃ command ∈ sectorCommands bus.trace, ¬ command.address + command.count ≤ 1 := by
  refine ⟨by decide +kernel, _, _,
    .call (.read [0, 0]) (.call (.seek (.start 511)) .start trivial) trivial, ?_⟩
  decide +kernel

end RkBlockDevice

end Rkusb
