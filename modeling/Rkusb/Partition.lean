/-
**GPT partitions, and their transfer to and from files** (`bin/rktools/subcommands/storage.rs`).

A partition is a range of logical blocks, of 512 or 4096 bytes. `read_lba` and `write_lba` count in
sectors of 512 bytes, and both commands give them the number of the first logical block.

* `exec_partition_correct_iff`: the two commands address the bytes of the partition if and only if
  the two units are the same, or the partition starts at the beginning of the storage, or it is
  refused.
* `exec_partition_write_misplaced`: one byte written to a partition of 4096-byte blocks.

The partition table itself (the `gpt` crate) and the files are parameters.
-/

import Rkusb.BlockFile

namespace Rkusb

open Interaction Bytes FlatStore

/-- `gpt::disk::LogicalBlockSize`. -/
inductive LogicalBlockSize
  | lb512 | lb4096
  deriving DecidableEq

def LogicalBlockSize.bytes : LogicalBlockSize → Nat
  | .lb512 => 512
  | .lb4096 => 4096

/-- The range of a `gpt::partition::Partition`, both ends included. -/
structure Partition where
  firstLba : UInt64
  lastLba : UInt64
  deriving DecidableEq

namespace Partition

/-- Where the partition starts, in bytes. -/
def start (part : Partition) (lb : LogicalBlockSize) : Nat := part.firstLba.toNat * lb.bytes

/-- How many bytes it has. -/
def length (part : Partition) (lb : LogicalBlockSize) : Nat :=
  (part.lastLba.toNat - part.firstLba.toNat + 1) * lb.bytes

theorem length_pos (part : Partition) (lb : LogicalBlockSize) : 0 < part.length lb := by
  refine Nat.mul_pos (Nat.succ_pos _) ?_
  cases lb <;> decide

end Partition

/-- The methods `bytes_start` and `bytes_len` of a partition. -/
structure Gpt where
  bytesStart : Partition → LogicalBlockSize → Except IoError UInt64
  bytesLen : Partition → LogicalBlockSize → Except IoError UInt64

/-- The two methods compute the range in bytes, where 64 bits hold it, and fail else. -/
structure Gpt.Lawful (gpt : Gpt) : Prop where
  start_of_fits : ∀ part lb, Partition.start part lb < 2 ^ 64 →
    ∃ start, gpt.bytesStart part lb = .ok start
  start_ok : ∀ part lb start, gpt.bytesStart part lb = .ok start →
    start.toNat = Partition.start part lb
  length_of_fits : ∀ part lb, part.firstLba ≤ part.lastLba → Partition.length part lb < 2 ^ 64 →
    ∃ length, gpt.bytesLen part lb = .ok length
  length_ok : ∀ part lb length, part.firstLba ≤ part.lastLba → gpt.bytesLen part lb = .ok length →
    length.toNat = Partition.length part lb

/-- Checked arithmetic. -/
def Gpt.checked : Gpt where
  bytesStart part lb :=
    if part.start lb < 2 ^ 64 then .ok (UInt64.ofNat (part.start lb))
    else .error (.new .invalidData "partition start overflow")
  bytesLen part lb :=
    if part.firstLba ≤ part.lastLba ∧ part.length lb < 2 ^ 64 then
      .ok (UInt64.ofNat (part.length lb))
    else .error (.new .invalidData "partition length overflow")

theorem Gpt.checked_lawful : Gpt.checked.Lawful where
  start_of_fits part lb fits := ⟨_, if_pos fits⟩
  start_ok part lb start found := by
    unfold checked at found
    dsimp only at found
    split at found
    · rename_i fits
      cases found
      exact UInt64.toNat_ofNat_of_lt' fits
    · cases found
  length_of_fits part lb ordered fits := ⟨_, if_pos ⟨ordered, fits⟩⟩
  length_ok part lb length _ found := by
    unfold checked at found
    dsimp only at found
    split at found
    · rename_i fits
      cases found
      exact UInt64.toNat_ofNat_of_lt' fits.2
    · cases found

/-- The first byte and the length of a partition, as its two methods give them. -/
def Gpt.byteRange (gpt : Gpt) (part : Partition) (lb : LogicalBlockSize) :
    Except IoError (Nat × Nat) := do
  let length ← gpt.bytesLen part lb
  let start ← gpt.bytesStart part lb
  pure (start.toNat, length.toNat)

/-! ### The commands -/

inductive PartitionTransferError
  | fileIo (error : IoError)
  | memoryMap (error : IoError)
  | sizeOverflow
  | lbaOverflow
  | deviceTransfer
  | inputTooLarge
  deriving DecidableEq

/-- The files, as the two commands use them. -/
structure Files where
  /-- `File::open`: the bytes of the file. -/
  openInput : String → Except IoError (List UInt8)
  mapInput : Except IoError Unit
  /-- `OpenOptions::open`, which creates or empties the file. -/
  openOutput : String → Except IoError Unit
  setLen : UInt64 → Except IoError Unit
  mapOutput : UInt64 → Except IoError Unit
  flush : Except IoError Unit

/-- `u32::try_from(part.first_lba)`. -/
def tryFirstLba (part : Partition) : Except PartitionTransferError UInt32 :=
  if part.firstLba.toNat < 2 ^ 32 then .ok (UInt32.ofNat part.firstLba.toNat)
  else .error .lbaOverflow

/-- Read a partition to a file: the bytes of the file after. A `u64` is a `usize` on the host, so
that `SizeOverflow` does not occur. -/
def execPartitionRead (gpt : Gpt) (files : Files) (lb : LogicalBlockSize) (part : Partition)
    (path : String) : UsbIo RkBlockDevice PartitionTransferError (List UInt8) := do
  let outputLen ← .ofExcept ((gpt.bytesLen part lb).mapError .fileIo)
  .ofExcept ((files.openOutput path).mapError .fileIo)
  .ofExcept ((files.setLen outputLen).mapError .fileIo)
  .ofExcept ((files.mapOutput outputLen).mapError .memoryMap)
  let pos ← .ofExcept (tryFirstLba part)
  let output ← Io.mapErr (fun _ => .deviceTransfer)
    (Io.lift (readLba pos (List.replicate outputLen.toNat 0) DEFAULT_LBA_SUBCODE DEFAULT_IO_TIMEOUT))
  .ofExcept (files.flush.mapError .fileIo)
  pure output

/-- Write a file to a partition. -/
def execPartitionWrite (gpt : Gpt) (files : Files) (lb : LogicalBlockSize) (part : Partition)
    (path : String) : UsbIo RkBlockDevice PartitionTransferError Unit := do
  let input ← .ofExcept ((files.openInput path).mapError .fileIo)
  .ofExcept (files.mapInput.mapError .memoryMap)
  let partitionBytes ← .ofExcept ((gpt.bytesLen part lb).mapError .fileIo)
  if partitionBytes.toNat < input.length then .throw .inputTooLarge
  else do
    let pos ← .ofExcept (tryFirstLba part)
    Io.mapErr (fun _ => .deviceTransfer)
      (Io.lift (writeLba pos input DEFAULT_LBA_SUBCODE DEFAULT_IO_TIMEOUT))

/-! ### What they address -/

theorem tryFirstLba_ok {part : Partition} {pos : UInt32} (found : tryFirstLba part = .ok pos) :
    part.firstLba.toNat < 2 ^ 32 ∧ pos.toNat = part.firstLba.toNat := by
  unfold tryFirstLba at found
  split at found
  · rename_i small
    cases found
    exact ⟨small, UInt32.toNat_ofNat_of_lt' small⟩
  · cases found

variable {script : Script} {bus : Bus} {gpt : Gpt} {files : Files} {lb : LogicalBlockSize}
  {part : Partition}

/-- What starts with the range of a partition is refused or goes on with it. -/
theorem Gpt.after_byteRange {ε α : Type} {translate : IoError → ε}
    {next : UInt64 → UInt64 → UsbIo RkBlockDevice ε α} {own : RkBlockDevice}
    {post : Except ε α → RkBlockDevice → Bus → Prop}
    (refused : ∀ error, gpt.byteRange part lb = .error error → post (.error (translate error)) own bus)
    (found : ∀ length start : UInt64, gpt.byteRange part lb = .ok (start.toNat, length.toNat) →
      Io.After (Bus.answer script) (next length start) own bus post) :
    Io.After (Bus.answer script) (do
      let length ← .ofExcept ((gpt.bytesLen part lb).mapError translate)
      let start ← .ofExcept ((gpt.bytesStart part lb).mapError translate)
      next length start) own bus post := by
  unfold byteRange at refused found
  refine Io.after_ofExcept_bind.mpr ?_
  cases measured : gpt.bytesLen part lb with
  | error error =>
    rw [measured] at refused
    exact refused error rfl
  | ok length =>
    refine Io.after_ofExcept_bind.mpr ?_
    cases begins : gpt.bytesStart part lb with
    | error error =>
      rw [measured, begins] at refused
      exact refused error rfl
    | ok start =>
      rw [measured, begins] at found
      exact found length start rfl

/-- A file that is written is found at the sector with the number of the first block. -/
theorem execPartitionWrite_effect (idle : bus.Idle) (path : String) (own : RkBlockDevice) :
    Io.After (Bus.answer script) (execPartitionWrite gpt files lb part path) own bus
      fun outcome _ reached => outcome = .ok () →
        part.firstLba.toNat < 2 ^ 32 ∧ (∃ length, gpt.bytesLen part lb = .ok length) ∧
          ∃ input, files.openInput path = .ok input ∧ reached.target.disk =
            splice bus.target.disk (SECTOR_SIZE * part.firstLba.toNat) input := by
  unfold execPartitionWrite
  refine .ofExcept_bind (fun error fails => by cases fails) fun input opened => ?_
  refine .ofExcept_bind (fun error fails => by cases fails) fun _ _ => ?_
  refine .ofExcept_bind (fun error fails => by cases fails) fun partitionBytes measured => ?_
  by_cases large : partitionBytes.toNat < input.length
  · rw [if_pos large]
    exact fun fails => by cases fails
  rw [if_neg large]
  refine .ofExcept_bind (fun error fails => by cases fails) fun pos addressed => ?_
  obtain ⟨small, same⟩ := tryFirstLba_ok addressed
  refine Io.after_mapErr.mpr (Io.after_lift.mpr ((writeLba_effect idle pos input _ _).imp
    fun outcome _ reached wrote ok => ?_))
  obtain rfl : outcome = .ok () := mapError_eq_ok_iff.mp ok
  refine ⟨small, ⟨partitionBytes, mapError_eq_ok_iff.mp measured⟩, input,
    mapError_eq_ok_iff.mp opened, ?_⟩
  rw [← same]
  exact wrote.written.1

/-- What is read is found at the sector with the number of the first block. -/
theorem execPartitionRead_effect (idle : bus.Idle) (path : String) (own : RkBlockDevice) :
    Io.After (Bus.answer script) (execPartitionRead gpt files lb part path) own bus
      fun outcome _ reached => ∀ output, outcome = .ok output →
        part.firstLba.toNat < 2 ^ 32 ∧ reached.target.disk = bus.target.disk ∧
          ∃ length, gpt.bytesLen part lb = .ok length ∧
            output = slice bus.target.disk (SECTOR_SIZE * part.firstLba.toNat) length.toNat := by
  unfold execPartitionRead
  refine .ofExcept_bind (fun error output fails => by cases fails) fun outputLen measured => ?_
  refine .ofExcept_bind (fun error output fails => by cases fails) fun _ _ => ?_
  refine .ofExcept_bind (fun error output fails => by cases fails) fun _ _ => ?_
  refine .ofExcept_bind (fun error output fails => by cases fails) fun _ _ => ?_
  refine .ofExcept_bind (fun error output fails => by cases fails) fun pos addressed => ?_
  obtain ⟨small, same⟩ := tryFirstLba_ok addressed
  have reads : Io.After (Bus.answer script) (Io.mapErr
      (fun _ => PartitionTransferError.deviceTransfer) (Io.lift (readLba pos
        (List.replicate outputLen.toNat 0) DEFAULT_LBA_SUBCODE DEFAULT_IO_TIMEOUT))) own bus
      fun outcome _ reached => reached.target.disk = bus.target.disk ∧
        ∀ output, outcome = .ok output → output =
          slice bus.target.disk (SECTOR_SIZE * part.firstLba.toNat) outputLen.toNat := by
    refine Io.after_mapErr.mpr (Io.after_lift.mpr ((readLba_effect idle pos _ _ _).imp
      fun outcome _ reached read => ⟨read.1, fun output ok => ?_⟩))
    rw [(read.2 output (mapError_eq_ok_iff.mp ok)).2, ← same, List.length_replicate]
    rfl
  refine reads.bind (fun error _ _ _ output fails => by cases fails) fun bytes _ reached read => ?_
  refine .ofExcept_bind (fun error output fails => by cases fails) fun _ _ => ?_
  intro output ok
  cases ok
  exact ⟨small, read.1, outputLen, mapError_eq_ok_iff.mp measured, read.2 _ rfl⟩

/-- Both commands address the bytes of the partition: a file that is written is found there and
nothing else is changed, and what is read is what is there. -/
def AddressesBytes (gpt : Gpt) (part : Partition) (lb : LogicalBlockSize) : Prop :=
  ∀ (script : Script) (bus : Bus) (files : Files) (path : String) (own : RkBlockDevice), bus.Idle →
    (Io.After (Bus.answer script) (execPartitionWrite gpt files lb part path) own bus
      fun outcome _ reached => outcome = .ok () → ∃ input, files.openInput path = .ok input ∧
        reached.target.disk = splice bus.target.disk (part.start lb) input) ∧
    Io.After (Bus.answer script) (execPartitionRead gpt files lb part path) own bus
      fun outcome _ reached => ∀ output, outcome = .ok output →
        reached.target.disk = bus.target.disk ∧
          output = slice bus.target.disk (part.start lb) (part.length lb)

/-- Files whose every operation succeeds, with the given bytes in each. -/
def Files.holding (input : List UInt8) : Files where
  openInput _ := .ok input
  mapInput := .ok ()
  openOutput _ := .ok ()
  setLen _ := .ok ()
  mapOutput _ := .ok ()
  flush := .ok ()

/-- A byte written to a partition that is not refused. -/
theorem execPartitionWrite_byte (lawful : gpt.Lawful) (ordered : part.firstLba ≤ part.lastLba)
    (small : part.firstLba.toNat < 2 ^ 32) (fits : part.length lb < 2 ^ 64) (byte : UInt8)
    (own : RkBlockDevice) :
    Io.After (Bus.answer Script.undisturbed)
      (execPartitionWrite gpt (.holding [byte]) lb part "") own (Bus.fresh fun _ => 0)
      fun outcome _ _ => outcome = .ok () := by
  obtain ⟨length, measured⟩ := lawful.length_of_fits part lb ordered fits
  have some : ¬ length.toNat < [byte].length := by
    rw [lawful.length_ok part lb length ordered measured]
    have := part.length_pos lb
    exact Nat.not_lt.mpr this
  have lba : (UInt32.ofNat part.firstLba.toNat).toNat = part.firstLba.toNat :=
    UInt32.toNat_ofNat_of_lt' small
  unfold execPartitionWrite
  refine Io.after_ofExcept_bind.mpr (Io.after_ofExcept_bind.mpr (Io.after_ofExcept_bind.mpr ?_))
  rw [measured]
  dsimp only [Except.mapError]
  rw [if_neg some]
  refine Io.after_ofExcept_bind.mpr ?_
  rw [tryFirstLba, if_pos small]
  refine Io.after_mapErr.mpr (Io.after_lift.mpr ?_)
  refine (writeLba_progress Script.undisturbed_healthy (Bus.fresh_idle _) _ [byte] _ _ ?_).imp
    fun outcome _ reached prompt => ?_
  · rw [lba]
    simpa [STORAGE_SECTOR_SIZE] using small
  · obtain ⟨value, rfl⟩ := prompt.succeeds fun _ => (by decide : 0 < 0 + DEFAULT_IO_TIMEOUT)
    rfl

/-- Where the blocks are larger than sectors, a partition is missed: a byte that is written to it is at
the sector of the number of its first block. -/
theorem not_addressesBytes (lawful : gpt.Lawful) (ordered : part.firstLba ≤ part.lastLba)
    (large : lb ≠ .lb512) (notFirst : part.firstLba ≠ 0) (small : part.firstLba.toNat < 2 ^ 32)
    (fits : part.length lb < 2 ^ 64) : ¬AddressesBytes gpt part lb := by
  intro addresses
  have first : 0 < part.firstLba.toNat := by
    refine Nat.pos_of_ne_zero fun zero => notFirst ?_
    exact UInt64.toNat_inj.mp zero
  have own := RkBlockDevice.new 0 0 0
  have idle := Bus.fresh_idle fun _ => 0
  have ok := execPartitionWrite_byte lawful ordered small fits 1 own
  obtain ⟨-, -, input, opened, here⟩ :=
    @execPartitionWrite_effect Script.undisturbed _ gpt (.holding [1]) lb part idle "" own ok
  obtain ⟨input', opened', there⟩ :=
    (addresses Script.undisturbed _ (.holding [1]) "" own idle).1 ok
  cases opened
  cases opened'
  -- the byte is at the sector, and the partition starts further on
  have same := congrFun (here.symm.trans there) (SECTOR_SIZE * part.firstLba.toNat)
  have blocks : lb.bytes = 4096 := by
    cases lb with
    | lb512 => exact absurd rfl large
    | lb4096 => rfl
  have written : splice (Bus.fresh fun _ => 0).target.disk (SECTOR_SIZE * part.firstLba.toNat) [1]
      (SECTOR_SIZE * part.firstLba.toNat) = 1 :=
    @splice_inside _ _ (SECTOR_SIZE * part.firstLba.toNat) [1] 0 Nat.zero_lt_one
  rw [written, splice_of_lt _ _ _ (by
    unfold Partition.start SECTOR_SIZE
    rw [blocks]
    omega)] at same
  have byte : (1 : UInt8) = 0 := same
  exact absurd byte (by decide)

/-- **The commands address the bytes of a partition** if and only if its blocks are sectors, or it
starts with the storage, or both commands refuse it. -/
theorem exec_partition_correct_iff (lawful : gpt.Lawful) (ordered : part.firstLba ≤ part.lastLba) :
    AddressesBytes gpt part lb ↔
      lb = .lb512 ∨ part.firstLba = 0 ∨ 2 ^ 32 ≤ part.firstLba.toNat ∨
        2 ^ 64 ≤ part.length lb := by
  constructor
  · intro addresses
    by_contra other
    push Not at other
    obtain ⟨large, notFirst, small, fits⟩ := other
    exact not_addressesBytes lawful ordered large notFirst small fits addresses
  · intro condition script bus files path own idle
    have start (small : part.firstLba.toNat < 2 ^ 32) {length : UInt64}
        (measured : gpt.bytesLen part lb = .ok length) :
        SECTOR_SIZE * part.firstLba.toNat = part.start lb := by
      rcases condition with rfl | first | large | long
      · exact Nat.mul_comm _ _
      · rw [Partition.start, first]
        exact (Nat.mul_zero _).trans (Nat.zero_mul _).symm
      · omega
      · have := lawful.length_ok part lb length ordered measured
        have := length.toNat_lt
        omega
    refine ⟨(execPartitionWrite_effect idle path own).imp fun outcome _ reached wrote ok => ?_,
      (execPartitionRead_effect idle path own).imp fun outcome _ reached read output ok => ?_⟩
    · obtain ⟨small, ⟨length, measured⟩, input, opened, disk⟩ := wrote ok
      exact ⟨input, opened, start small measured ▸ disk⟩
    · obtain ⟨small, disk, length, measured, bytes⟩ := read output ok
      refine ⟨disk, ?_⟩
      rw [bytes, start small measured, lawful.length_ok part lb length ordered measured]

/-- Partitions of either block size. -/
theorem exec_partition_correct_iff_blocks :
    AddressesBytes .checked ⟨34, 40⟩ .lb512 ∧ ¬ AddressesBytes .checked ⟨6, 7⟩ .lb4096 :=
  ⟨(exec_partition_correct_iff Gpt.checked_lawful (by decide)).mpr (.inl rfl),
    fun addresses => absurd
      ((exec_partition_correct_iff Gpt.checked_lawful (by decide)).mp addresses) (by decide)⟩

/-- **A partition is missed.** One byte is written to the partition of the second 4096-byte block: the
command returns `Ok`, the byte is at 512, and the partition, from 4096, is as it was. -/
theorem exec_partition_write_misplaced :
    let run := (execPartitionWrite .checked (.holding [1]) .lb4096 ⟨1, 1⟩ "").run
      (Bus.answer Script.undisturbed) (RkBlockDevice.new 8192 0 1) (Bus.fresh fun _ => 0)
    run.1.1 = .ok () ∧ run.2.target.disk 512 = 1 ∧
      run.2.target.disk (Partition.start ⟨1, 1⟩ .lb4096) = 0 := by
  decide +kernel

end Rkusb
