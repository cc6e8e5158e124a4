/-
**The upgrade command** (`exec` of `bin/rktools/subcommands/upgrade.rs`).

The command takes a firmware bundle apart, brings a device in Maskrom mode up with the boot image of the
bundle, looks for the parameter file, reads the partition table twice and writes the entries of the
firmware to the partitions.

* `UpgradeCommand.exec_updates`: wherever the command stops, and whatever becomes of its requests, the
  selected storage has got a beginning of what the entries ask for, by a table that is computed from the
  stored bytes. When the command says that it has written them, it has got all of it.
* `Upgraded.confined`: no byte of the disk outside of the partitions that entries name is changed.
* `Upgraded.redo`: what a failed upgrade left does not show once one with the same table succeeds.
-/

import Rkusb.DownloadTrace
import Rkusb.FindDevice
import Rkusb.FwImage
import Rkusb.PartitionTable
import Rkusb.UpgradeLoader
import Rkusb.UpgradeWrites

namespace Rkusb

open Interaction Bytes FlatStore
open UpgradeLoader (haltMap)

namespace UpgradeCommand

/-- `UpgradeError`; the errors of the write loop are those of `Rkusb.UpgradeError`. That of the `gpt`
crate is a parameter. -/
inductive Error (GptError : Type)
  | deviceSelection (error : DeviceSelectionError)
  | rkUsb (error : RkUsbError)
  | gpt (error : GptError)
  | image (error : ImageError)
  | unknownRkUsbType
  | parameterNotFound
  | parameterTooLarge (size : UInt64)
  | parameterTooShort (size : UInt64)
  | loop (error : UpgradeError)

/-- The file `parameter` of an update image: its size, and what is read of it to the end. -/
structure ParameterEntry where
  size : UInt64
  content : Except IoError (List UInt8)

/-- The firmware of a bundle, as an update image with its file `parameter`. -/
structure Archive extends UpdateImage where
  parameter : Except IoError (Option ParameterEntry)

/-- What is printed. -/
inductive Report
  | unsupportedLbaSize (sectors : Nat)
  | written
  deriving DecidableEq

section Exec

variable {GptError : Type}

/-- The parameter file, without its checksum. -/
def readParameter (fw : Archive) : Except (Halt (Error GptError)) (List UInt8) := do
  let found ← fw.parameter.mapError (.error ∘ .loop ∘ .io)
  match found with
  | none => .error (.error .parameterNotFound)
  | some param =>
      if 64 * 1024 < param.size.toNat then .error (.error (.parameterTooLarge param.size))
      else if param.size.toNat ≤ 2 then .error (.error (.parameterTooShort param.size))
      else do
        let content ← param.content.mapError (.error ∘ .loop ∘ .io)
        -- `split_last_chunk` finds no two bytes
        if content.length < 2 then .error (.panic .unwrapNone)
        else pure (content.take (content.length - 2))

variable (gpt : Gpt)
  (openFromDevice : Bool → LogicalBlockSize → DiskReader (Except GptError Partitions))

/-- From the table on. It is read as one that may be written, and then again. -/
def writeUpdate (lb : LogicalBlockSize) (fw : UpdateImage) :
    UsbIo RkBlockDevice (Halt (Error GptError)) Unit := do
  let opened ← (openFromDevice true lb).run
  let _ ← .ofExcept (opened.mapError (.error ∘ .gpt))
  let opened ← (openFromDevice false lb).run
  let partitions ← .ofExcept (opened.mapError (.error ∘ .gpt))
  Io.mapErr (haltMap .loop)
    (writePartitions gpt lb (partitions.entries.map fun entry => entry.2.toNamedPartition) fw)

/-- A device in Maskrom mode gets the boot image, and is found and opened again. -/
def enterLoader (deviceType : RkUsbType) (boot : RkBootImage)
    (reopen : Except (Error GptError) Unit) : UsbIo Unit (Halt (Error GptError)) Unit :=
  if deviceType = .maskrom then do
    Io.mapErr (haltMap .rkUsb) (downloadBoot boot)
    .ofExcept (reopen.mapError .error)
  else pure ()

/-- The check of the block size, and the update of a device that runs a loader. -/
def update (fw : UpdateImage) : UsbIo Unit (Halt (Error GptError)) Report := do
  let info ← Io.mapErr (.error ∘ .rkUsb) readStorageInfo
  match LogicalBlockSize.ofSectors info.lbaSize with
  | none => pure (.unsupportedLbaSize info.lbaSize)
  | some lb => do
      let device ← Io.mapErr (.error ∘ .loop ∘ .io) RkBlockDevice.tryFrom
      let _ ← Io.start (writeUpdate gpt openFromDevice lb fw) device
      pure .written

variable (format : RkFwFormat) (archive : List UInt8 → Archive)

/-- `upgrade::exec` on the device that is selected and opened. -/
def exec (files : Files) (path : String) (selected : UsbDevice)
    (reopen : Except (Error GptError) Unit) : UsbIo Unit (Halt (Error GptError)) Report := do
  let desc ← .ofExcept (selected.deviceDescriptor.mapError (.error ∘ .rkUsb ∘ .usb))
  match RkUsbType.detect desc with
  | none => .throw (.error .unknownRkUsbType)
  | some deviceType => do
      let mmap ← .ofExcept ((files.openInput path).mapError (.error ∘ .loop ∘ .io))
      .ofExcept (files.mapInput.mapError (.error ∘ .loop ∘ .io))
      let rkfw ← .ofExcept ((RkFwImage.new format mmap).mapError (.error ∘ .image))
      let boot ← .ofExcept ((rkfw.bootData format).mapError (haltMap .image))
      enterLoader deviceType boot reopen
      let data ← .ofExcept (rkfw.fwData.mapError (.error ∘ .image))
      let fw := archive data
      let _ ← .ofExcept (readParameter fw)
      update gpt openFromDevice fw.toUpdateImage

end Exec

/-! ### The download -/

variable {script : Script} {start bus : Bus}

/-- The transfers go past the pipes: no reply is left on them, and no command is issued. -/
def Aside {ε α : Type} (computation : UsbIo Unit ε α) : Prop :=
  ∀ (script : Script) (bus : Bus), Io.After (Bus.answer script) computation () bus
    fun _ _ reached => reached.target = bus.target ∧ reached.draws = bus.draws

namespace Aside

variable {ε ε' α β : Type} {first : UsbIo Unit ε α}

theorem bind {next : α → UsbIo Unit ε β} (here : Aside first) (there : ∀ value, Aside (next value)) :
    Aside (first >>= next) := fun script bus =>
  (here script bus).bind (fun _ _ _ same => same) fun value _ _ same =>
    (there value script _).imp fun _ _ _ later => ⟨later.1.trans same.1, later.2.trans same.2⟩

theorem pure (value : α) : Aside (Pure.pure value : UsbIo Unit ε α) := fun _ _ => ⟨rfl, rfl⟩

theorem ofExcept (result : Except ε α) : Aside (.ofExcept result : UsbIo Unit ε α) :=
  fun _ _ => Io.after_ofExcept.mpr ⟨rfl, rfl⟩

theorem mapErr (aside : Aside first) (translate : ε → ε') : Aside (Io.mapErr translate first) :=
  fun script bus => Io.after_mapErr.mpr (aside script bus)

/-- What is left on the pipes is as before, and so are the storages. -/
theorem moves (aside : Aside first) : Moves first where
  links script start bus own linked := by
    refine (aside script bus).imp fun _ _ reached same => ⟨same.2 ▸ linked.draws, ?_⟩
    rw [same.1]
    refine linked.known.mono fun tag drawn => ?_
    obtain ⟨index, after, before, tagged⟩ := drawn
    exact ⟨index, after, same.2 ▸ before, tagged⟩
  stays script bus own known := by
    refine (aside script bus).imp fun _ _ reached same => ?_
    rw [same.1]
    exact ⟨known, .refl _⟩

end Aside

theorem sendChunks_aside (dwRequest : UInt16) (chunks : List (List UInt8)) :
    Aside (sendChunks dwRequest chunks) := by
  induction chunks with
  | nil => exact .pure _
  | cons chunk rest ih =>
    refine .bind (fun script bus => after_writeControl.mpr ⟨rfl, rfl⟩) fun n script bus => ?_
    by_cases short : n ≠ chunk.length
    · rw [if_pos short]
      exact ⟨rfl, rfl⟩
    · rw [if_neg short]
      exact ih script bus

theorem downloadEntries_aside (dwRequest : UInt16)
    (entries : List (Except Panic RkBootImage.Yielded)) : Aside (downloadEntries dwRequest entries) := by
  induction entries with
  | nil => exact .pure _
  | cons entry rest ih =>
    exact .bind (.ofExcept _) fun _ => .bind ((sendChunks_aside _ _).mapErr _) fun _ => ih

theorem downloadBoot_aside (image : RkBootImage) : Aside (downloadBoot image) :=
  .bind (downloadEntries_aside _ _) fun _ => downloadEntries_aside _ _

theorem enterLoader_aside {GptError : Type} (deviceType : RkUsbType) (boot : RkBootImage)
    (reopen : Except (Error GptError) Unit) : Aside (enterLoader deviceType boot reopen) := by
  unfold enterLoader
  by_cases maskrom : deviceType = .maskrom
  · rw [if_pos maskrom]
    exact .bind ((downloadBoot_aside boot).mapErr _) fun _ => .ofExcept _
  · rw [if_neg maskrom]
    exact .pure _

/-! ### The update -/

variable {GptError : Type} {gpt : Gpt}
  {openFromDevice : Bool → LogicalBlockSize → DiskReader (Except GptError Partitions)}

/-- A partition table, with the sizes of its blocks and of the disk. -/
structure Table where
  lb : LogicalBlockSize
  flashSize : UInt32
  partitions : Partitions

namespace Table

/-- The size of the disk in bytes. -/
def size (table : Table) : Nat := table.flashSize.toNat * SECTOR_SIZE

def named (table : Table) : List NamedPartition :=
  table.partitions.entries.map fun entry => entry.2.toNamedPartition

/-- The table is computed from the stored bytes: it is found by the second reader, after the first one
has found a table as well. -/
def FoundOn (openFromDevice : Bool → LogicalBlockSize → DiskReader (Except GptError Partitions))
    (table : Table) (disk : Nat → UInt8) : Prop :=
  ∃ first own, (openFromDevice true table.lb).Finds disk (.opened table.flashSize) (.ok first) ∧
    params own = params (.opened table.flashSize) ∧
    (openFromDevice false table.lb).Finds disk own (.ok table.partitions)

/-- What an update image asks for. -/
def writes (gpt : Gpt) (table : Table) (fw : UpdateImage) : List (Nat × List UInt8) :=
  updateWrites gpt table.lb table.named table.size fw

end Table

/-- The update is written up to some point; all of it, and every entry by its plan, if it is done. -/
structure Upgraded (gpt : Gpt) (table : Table) (fw : UpdateImage) (disk : Nat → UInt8) (done : Prop)
    (disk' : Nat → UInt8) : Prop where
  torn : Torn (table.writes gpt fw) disk disk'
  whole : done → disk' = spliceAll disk (table.writes gpt fw)
  planned : done → ∃ len, fw.len = .ok len ∧ ∀ index < len,
    Planned gpt table.lb table.named table.size (fw.byIndex index)

theorem Upgraded.mono {table : Table} {fw : UpdateImage} {disk disk' : Nat → UInt8}
    {done done' : Prop} (upgraded : Upgraded gpt table fw disk done disk') (le : done' → done) :
    Upgraded gpt table fw disk done' disk' :=
  ⟨upgraded.torn, upgraded.whole ∘ le, upgraded.planned ∘ le⟩

/-- The storage is as it was, or the update is written by a table that is found. -/
def Writes (gpt : Gpt)
    (openFromDevice : Bool → LogicalBlockSize → DiskReader (Except GptError Partitions))
    (fw : UpdateImage) (disk : Nat → UInt8) (done : Prop) (disk' : Nat → UInt8) : Prop :=
  (disk' = disk ∧ ¬done) ∨ ∃ table : Table, table.FoundOn openFromDevice disk ∧
    Upgraded gpt table fw disk done disk'

theorem writeUpdate_writes (linked : Linked script start bus) (lb : LogicalBlockSize)
    (fw : UpdateImage) (flashSize : UInt32) :
    AfterDistinct script start (writeUpdate gpt openFromDevice lb fw) (.opened flashSize) bus
      fun outcome _ reached =>
        Writes gpt openFromDevice fw bus.target.disk (outcome = .ok ()) reached.target.disk := by
  unfold writeUpdate
  refine AfterDistinct.bind (DiskReader.run_runs _).links linked
    (DiskReader.run_finds linked _ (.opened flashSize)) ?_ ?_
  · exact fun error own' reached finds => .inl ⟨finds.1, fun fails => by cases fails⟩
  intro opened own middle later finds
  obtain ⟨same, kept, value, ok, finds⟩ := finds
  obtain rfl : opened = value := Except.ok.inj ok
  refine .ofExcept_bind (fun error => .inl ⟨same, fun fails => by cases fails⟩) fun first found => ?_
  obtain rfl : opened = .ok first := mapError_eq_ok_iff.mp found
  refine AfterDistinct.bind (DiskReader.run_runs _).links later
    (DiskReader.run_finds later (openFromDevice false lb) own) ?_ ?_
  · exact fun error own' reached finds => .inl ⟨finds.1.trans same, fun fails => by cases fails⟩
  intro opened own' last lasts again
  obtain ⟨same', kept', value, ok, again⟩ := again
  obtain rfl : opened = value := Except.ok.inj ok
  refine .ofExcept_bind (fun error => .inl ⟨same'.trans same, fun fails => by cases fails⟩)
    fun partitions found => ?_
  obtain rfl : opened = .ok partitions := mapError_eq_ok_iff.mp found
  have size : own'.diskSizeBytes = flashSize.toNat * SECTOR_SIZE :=
    (Prod.mk.inj (kept'.trans kept)).1
  refine .mapErr (.of_ready lasts fun ready => (writePartitions_carries ready fw).imp ?_)
  intro outcome _ reached carries
  rw [size] at carries
  obtain ⟨⟨torn, whole⟩, planned⟩ := carries
  rw [same'.trans same] at torn whole
  rw [same] at again
  refine .inr ⟨⟨lb, flashSize, partitions⟩, ⟨first, own, finds, kept, again⟩, torn, ?_, ?_⟩
  · exact fun ok => (whole () (mapError_eq_ok_iff.mp ok)).1
  · exact fun ok => planned () (mapError_eq_ok_iff.mp ok)

theorem update_writes (linked : Linked script start bus) (fw : UpdateImage) :
    AfterDistinct script start (update gpt openFromDevice fw) () bus fun outcome _ reached =>
      Writes gpt openFromDevice fw bus.target.disk (outcome = .ok .written) reached.target.disk := by
  unfold update
  have asked : AfterDistinct script start (Io.mapErr (Halt.error ∘ Error.rkUsb) readStorageInfo :
      UsbIo Unit (Halt (Error GptError)) _) () bus
      fun _ _ reached => reached.target.disk = bus.target.disk :=
    .mapErr (.of_ready linked fun ready =>
      (readStorageInfo_keeps ready).imp fun _ _ _ same => congrArg Banks.current same)
  refine AfterDistinct.bind readStorageInfo_runs.mapErr.links linked asked
    (fun error _ reached same => .inl ⟨same, fun fails => by cases fails⟩)
    fun info _ middle later same => ?_
  cases LogicalBlockSize.ofSectors info.lbaSize with
  | none => exact .pure (.inl ⟨same, fun fails => by cases fails⟩)
  | some lb =>
    have opens : AfterDistinct script start (Io.mapErr (Halt.error ∘ Error.loop ∘ UpgradeError.io)
        RkBlockDevice.tryFrom : UsbIo Unit (Halt (Error GptError)) _) () middle
        fun outcome _ reached => reached.target.disk = middle.target.disk ∧
          ∀ device, outcome = .ok device → ∃ flashSize, device = .opened flashSize :=
      .mapErr ((AfterDistinct.of_ready later fun ready => RkBlockDevice.tryFrom_opens ready).imp
        fun outcome _ reached opened =>
          ⟨opened.1, fun device ok => opened.2 device (mapError_eq_ok_iff.mp ok)⟩)
    refine AfterDistinct.bind RkBlockDevice.tryFrom_runs.mapErr.links later opens ?_ ?_
    · exact fun error _ reached opened => .inl ⟨opened.1.trans same, fun fails => by cases fails⟩
    intro device _ last lasts opened
    obtain ⟨kept, found⟩ := opened
    obtain ⟨flashSize, rfl⟩ := found device rfl
    have written := @writeUpdate_writes script start last _ gpt openFromDevice lasts lb fw flashSize
    rw [kept.trans same] at written
    refine Io.after_bind.mpr (Io.after_start.mpr (Io.After.imp written ?_))
    intro outcome _ reached writes
    cases outcome with
    | error error =>
      refine fun distinct => (writes distinct).imp (fun same => ⟨same.1, fun fails => by cases fails⟩) ?_
      rintro ⟨table, found, upgraded⟩
      exact ⟨table, found, upgraded.mono fun fails => by cases fails⟩
    | ok value =>
      refine fun distinct => (writes distinct).imp (fun same => absurd rfl same.2) ?_
      rintro ⟨table, found, upgraded⟩
      exact ⟨table, found, upgraded.mono fun _ => rfl⟩

/-! ### The command -/

theorem writeUpdate_runs (lb : LogicalBlockSize) (fw : UpdateImage) :
    Runs (writeUpdate gpt openFromDevice lb fw) :=
  (DiskReader.run_runs _).bind fun _ => (Runs.ofExcept _).bind fun _ =>
    (DiskReader.run_runs _).bind fun _ => (Runs.ofExcept _).bind fun _ =>
      (writePartitions_runs gpt lb _ fw).mapErr

theorem update_runs (fw : UpdateImage) : Runs (update gpt openFromDevice fw) := by
  refine readStorageInfo_runs.mapErr.bind fun info => ?_
  cases LogicalBlockSize.ofSectors info.lbaSize with
  | none => exact .pure _
  | some lb =>
    refine RkBlockDevice.tryFrom_runs.mapErr.bind fun device => ?_
    exact ((writeUpdate_runs lb fw).start _).bind fun _ => .pure _

section Command

variable {format : RkFwFormat} {archive : List UInt8 → Archive} {files : Files} {path : String}
  {selected : UsbDevice} {reopen : Except (Error GptError) Unit}

theorem exec_moves :
    Moves (exec gpt openFromDevice format archive files path selected reopen) := by
  refine .bind (.ofExcept _) fun desc => ?_
  cases RkUsbType.detect desc with
  | none => exact (Runs.throw _).moves
  | some deviceType =>
    refine .bind (.ofExcept _) fun mmap => .bind (.ofExcept _) fun _ => ?_
    refine .bind (.ofExcept _) fun rkfw => .bind (.ofExcept _) fun boot => ?_
    refine .bind (enterLoader_aside deviceType boot reopen).moves fun _ => ?_
    exact .bind (.ofExcept _) fun data => .bind (.ofExcept _) fun _ => (update_runs _).moves

/-- The firmware of the bundle in the file. -/
def Brings (format : RkFwFormat) (archive : List UInt8 → Archive) (files : Files) (path : String)
    (fw : UpdateImage) : Prop :=
  ∃ mmap image, files.openInput path = .ok mmap ∧ RkFwImage.new format mmap = .ok image ∧
    fw = (archive image.fw).toUpdateImage

/-- **The command**, whatever is left on the bus. -/
theorem exec_writes (linked : Linked script start bus) :
    AfterDistinct script start
      (exec gpt openFromDevice format archive files path selected reopen) () bus
      fun outcome _ reached =>
        (reached.target.disk = bus.target.disk ∧ outcome ≠ .ok .written) ∨
          ∃ fw, Brings format archive files path fw ∧ ∃ table : Table,
            table.FoundOn openFromDevice bus.target.disk ∧
            Upgraded gpt table fw bus.target.disk (outcome = .ok .written) reached.target.disk := by
  unfold exec
  refine .ofExcept_bind (fun error => .inl ⟨rfl, fun fails => by cases fails⟩) fun desc _ => ?_
  cases RkUsbType.detect desc with
  | none => exact .throw (.inl ⟨rfl, fun fails => by cases fails⟩)
  | some deviceType =>
    refine .ofExcept_bind (fun error => .inl ⟨rfl, fun fails => by cases fails⟩) fun mmap opened => ?_
    refine .ofExcept_bind (fun error => .inl ⟨rfl, fun fails => by cases fails⟩) fun _ _ => ?_
    refine .ofExcept_bind (fun error => .inl ⟨rfl, fun fails => by cases fails⟩) fun rkfw parsed => ?_
    refine .ofExcept_bind (fun error => .inl ⟨rfl, fun fails => by cases fails⟩) fun boot _ => ?_
    have aside := enterLoader_aside deviceType boot reopen
    have entered : AfterDistinct script start (enterLoader deviceType boot reopen) () bus
        fun _ _ reached => reached.target.disk = bus.target.disk :=
      (aside script bus).imp fun _ _ reached same _ => congrArg Target.disk same.1
    refine AfterDistinct.bind aside.moves.links linked entered
      (fun error _ reached same => .inl ⟨same, fun fails => by cases fails⟩)
      fun _ _ middle later same => ?_
    refine .ofExcept_bind (fun error => .inl ⟨same, fun fails => by cases fails⟩) fun data cut => ?_
    cases cut
    refine .ofExcept_bind (fun error => .inl ⟨same, fun fails => by cases fails⟩) fun _ _ => ?_
    have brings : Brings format archive files path (archive rkfw.fw).toUpdateImage :=
      ⟨mmap, rkfw, mapError_eq_ok_iff.mp opened, mapError_eq_ok_iff.mp parsed, rfl⟩
    refine (update_writes later _).imp fun outcome _ reached writes => ?_
    rw [same] at writes
    exact writes.imp_right fun found => ⟨_, brings, found⟩

end Command

/-- The firmware is written to the partition of that name; the parameter file has three bytes. -/
def bootArchive (data : List UInt8) : Archive where
  len := .ok 1
  byIndex _ := .ok (some ⟨some "boot", .ok data, EntryReader.behind data.length⟩)
  parameter := .ok (some ⟨3, .ok [0, 0, 0]⟩)

/-- The partition is the block with the number in the first byte. -/
def firstByteTable (_ : Bool) (_ : LogicalBlockSize) : DiskReader (Except Unit Partitions) :=
  .seek (.start 0) fun _ => .read [0] fun outcome => .done
    ((outcome.toOption.bind fun result => result.2.head?).elim (.error ()) fun byte =>
      .ok (.single 1 ⟨⟨"boot", ⟨byte.toUInt64, byte.toUInt64⟩⟩, ""⟩))

namespace Upgraded

variable {table : Table} {fw : UpdateImage} {disk disk' disk'' : Nat → UInt8} {done : Prop}

/-- **No byte of the disk outside of the partitions that entries name is changed**, if the sparse images
among them fit. -/
theorem confined (upgraded : Upgraded gpt table fw disk done disk') (lawful : gpt.Lawful)
    (ordered : ∀ partition ∈ table.named, partition.part.firstLba ≤ partition.part.lastLba)
    (fits : ∀ index entry, fw.byIndex index = .ok (some entry) →
      SparseFits table.lb table.named table.size entry)
    {place : Nat} (onDisk : place < table.size)
    (outside : ∀ index entry, fw.byIndex index = .ok (some entry) →
      ∀ partition ∈ table.named, entry.name = some partition.name →
        ¬partition.part.Contains table.lb place) : disk' place = disk place := by
  refine upgraded.torn.apply_of_outside fun write member covers => ?_
  obtain ⟨index, entry, found, asked⟩ := updateWrites_mem member
  obtain ⟨partition, among, named, inside⟩ :=
    entryWrites_within lawful ordered (fits index entry found) asked onDisk covers
  exact outside index entry found partition among named inside

/-- **What a failed upgrade left does not show** after one by the same table that is done. -/
theorem redo (failed : Upgraded gpt table fw disk done disk')
    (again : Upgraded gpt table fw disk' True disk'') :
    disk'' = spliceAll disk (table.writes gpt fw) :=
  (again.whole trivial).trans failed.torn.redo

end Upgraded

end UpgradeCommand

end Rkusb
