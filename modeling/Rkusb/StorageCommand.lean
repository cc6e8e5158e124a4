/-
**The storage subcommands** (`bin/rktools/subcommands/storage.rs`).

They select a storage, show its flash info, and list, read and write the partitions of its table.

* `StorageCommand.exec_effect`: of all of these only a write to a partition changes stored bytes, and
  only those of the selected storage. It writes the beginning of a file, all of it on `Ok`, from the
  sector on with the number of the first block of the partition, and this is the partition with the
  lowest index of those that are asked for, in a table computed from the stored bytes. A read that
  returns `Ok` finds what is stored there. Only a selection changes which storage is selected.
* `StorageCommand.Wrote.confined`: where blocks are sectors, no byte outside of the partition changes.
-/

import Rkusb.PartitionTable

namespace Rkusb

open Interaction Bytes FlatStore

namespace StorageCommand

inductive PartitionCommand
  | table
  | read (args : PartitionTransferArgs)
  | write (args : PartitionTransferArgs)

inductive Command
  | select (target : Option UInt8)
  | info
  | partition (command : PartitionCommand)

def storageName : UInt8 → String
  | 1 => "eMMC"
  | 2 => "SD"
  | 9 => "SPI NOR"
  | 11 => "NVMe"
  | _ => "Unknown"

/-- What is printed, with the bytes of the file that a read leaves. -/
inductive Report
  | selected (switched current : Option (UInt8 × String))
  | info (info : RkFlashInfo)
  | unsupportedLbaSize (sectors : Nat)
  | table (partitions : Partitions)
  | read (name : String) (output : List UInt8)
  | wrote (name : String)

/-- What is boxed as an error. That of the `gpt` crate is a parameter. -/
inductive Error (GptError : Type)
  | rkUsb (error : RkUsbError)
  | io (error : IoError)
  | gpt (error : GptError)
  | select (error : SelectPartitionError)
  | transfer (error : PartitionTransferError)

section Exec

variable {GptError : Type} (gpt : Gpt)
  (openFromDevice : LogicalBlockSize → DiskReader (Except GptError Partitions)) (files : Files)

/-- A partition command on the block device. -/
def execPartition (lb : LogicalBlockSize) (command : PartitionCommand) :
    UsbIo RkBlockDevice (Error GptError) Report := do
  let opened ← (openFromDevice lb).run
  let partitions ← .ofExcept (opened.mapError .gpt)
  match command with
  | .table => pure (.table partitions)
  | .read args => do
      let part ← .ofExcept ((selectPartition partitions args).mapError .select)
      let output ← Io.mapErr .transfer (execPartitionRead gpt files lb part.part args.path)
      pure (.read part.name output)
  | .write args => do
      let part ← .ofExcept ((selectPartition partitions args).mapError .select)
      Io.mapErr .transfer (execPartitionWrite gpt files lb part.part args.path)
      pure (.wrote part.name)

/-- The switch to another storage, if one is given. -/
def execSwitch : Option UInt8 → UsbIo Unit (Error GptError) Unit
  | some target => Io.mapErr .rkUsb (switchStorage target)
  | none => pure ()

/-- `storage::exec` on an open device. -/
def exec (command : Command) : UsbIo Unit (Error GptError) Report :=
  match command with
  | .select target => do
      execSwitch target
      let current ← Io.mapErr .rkUsb readStorage
      pure (.selected (target.map fun code => (code, storageName code))
        (current.map fun code => (code, storageName code)))
  | .info => do
      let info ← Io.mapErr .rkUsb readStorageInfo
      pure (.info info)
  | .partition command => do
      let info ← Io.mapErr .rkUsb readStorageInfo
      match LogicalBlockSize.ofSectors info.lbaSize with
      | none => pure (.unsupportedLbaSize info.lbaSize)
      | some lb => do
          let device ← Io.mapErr .io RkBlockDevice.tryFrom
          let (report, _) ← Io.start (execPartition gpt openFromDevice files lb command) device
          pure report

end Exec

/-! ### Transfers of a partition -/

variable {script : Script} {start bus : Bus} {gpt : Gpt} {files : Files} {lb : LogicalBlockSize}
  {part : Partition}

/-- A file is written from the sector on with the number of the first block, up to where it fails. -/
def Wrote (gpt : Gpt) (files : Files) (lb : LogicalBlockSize) (part : Partition) (path : String)
    (disk disk' : Nat → UInt8) (done : Prop) : Prop :=
  ∃ input, ∃ length, files.openInput path = .ok input ∧ gpt.bytesLen part lb = .ok length ∧
    input.length ≤ length.toNat ∧ part.firstLba.toNat < 2 ^ 32 ∧
    Began (SECTOR_SIZE * part.firstLba.toNat) input disk disk' ∧
    (done → disk' = splice disk (SECTOR_SIZE * part.firstLba.toNat) input)

/-- **A write to a partition**, whatever it finds on the bus. -/
theorem execPartitionWrite_leaves (ready : bus.Ready script) (path : String) (own : RkBlockDevice) :
    Io.After (Bus.answer script) (execPartitionWrite gpt files lb part path) own bus
      fun outcome _ reached =>
        (reached.target.disk = bus.target.disk ∧ outcome ≠ .ok ()) ∨
          Wrote gpt files lb part path bus.target.disk reached.target.disk (outcome = .ok ()) := by
  have refused : ∀ {error : PartitionTransferError},
      (bus.target.disk = bus.target.disk ∧ (Except.error error : Except _ Unit) ≠ .ok ()) ∨
        Wrote gpt files lb part path bus.target.disk bus.target.disk
          (Except.error error = .ok ()) := .inl ⟨rfl, fun fails => by cases fails⟩
  unfold execPartitionWrite
  refine .ofExcept_bind (fun error => refused) fun input opened => ?_
  refine .ofExcept_bind (fun error => refused) fun _ _ => ?_
  refine .ofExcept_bind (fun error => refused) fun partitionBytes measured => ?_
  split
  · exact refused
  rename_i large
  refine .ofExcept_bind (fun error => refused) fun pos addressed => ?_
  obtain ⟨small, same⟩ := tryFirstLba_ok addressed
  refine Io.after_mapErr.mpr (Io.after_lift.mpr ((writeLba_leaves ready pos input _ _).imp ?_))
  intro outcome _ reached left
  obtain ⟨count, most, disk, whole⟩ := left
  rw [same] at disk
  refine .inr ⟨input, partitionBytes, mapError_eq_ok_iff.mp opened, mapError_eq_ok_iff.mp measured,
    Nat.le_of_not_lt large, small, ⟨count, most, disk⟩, fun ok => ?_⟩
  rw [whole (mapError_eq_ok_iff.mp ok), List.take_length] at disk
  exact disk

/-- **A read of a partition**, whatever it finds on the bus. -/
theorem execPartitionRead_leaves (ready : bus.Ready script) (path : String) (own : RkBlockDevice) :
    Io.After (Bus.answer script) (execPartitionRead gpt files lb part path) own bus
      fun outcome _ reached => reached.target.disk = bus.target.disk ∧
        ∀ output, outcome = .ok output → ∃ length, gpt.bytesLen part lb = .ok length ∧
          output = slice bus.target.disk (SECTOR_SIZE * part.firstLba.toNat) length.toNat := by
  unfold execPartitionRead
  refine .ofExcept_bind (fun error => ⟨rfl, nofun⟩) fun outputLen measured => ?_
  refine .ofExcept_bind (fun error => ⟨rfl, nofun⟩) fun _ _ => ?_
  refine .ofExcept_bind (fun error => ⟨rfl, nofun⟩) fun _ _ => ?_
  refine .ofExcept_bind (fun error => ⟨rfl, nofun⟩) fun _ _ => ?_
  refine .ofExcept_bind (fun error => ⟨rfl, nofun⟩) fun pos addressed => ?_
  obtain ⟨small, same⟩ := tryFirstLba_ok addressed
  have read : Io.After (Bus.answer script)
      (readLba pos (List.replicate outputLen.toNat 0) DEFAULT_LBA_SUBCODE DEFAULT_IO_TIMEOUT) () bus
      fun outcome _ reached => reached.target.disk = bus.target.disk ∧ ∀ bytes, outcome = .ok bytes →
        bytes = slice bus.target.disk (STORAGE_SECTOR_SIZE * pos.toNat)
          (List.replicate outputLen.toNat (0 : UInt8)).length :=
    (LibraryCall.exec_leaves ready (.readLba pos (List.replicate outputLen.toNat 0)
      DEFAULT_LBA_SUBCODE DEFAULT_IO_TIMEOUT)).imp fun _ _ _ left =>
        ⟨congrArg Banks.current left.1, left.2⟩
  refine Io.after_bind.mpr (Io.after_mapErr.mpr (Io.after_lift.mpr (read.imp ?_)))
  intro outcome _ reached left
  obtain ⟨disk, found⟩ := left
  cases outcome with
  | error error => exact ⟨disk, nofun⟩
  | ok output =>
    refine .ofExcept_bind (fun error => ⟨disk, nofun⟩) fun _ _ => ⟨disk, fun output' ok => ?_⟩
    cases ok
    refine ⟨outputLen, mapError_eq_ok_iff.mp measured, ?_⟩
    rw [found output rfl, same, List.length_replicate]
    rfl

/-! ### Every command -/

section Effect

variable {GptError : Type} {openFromDevice : LogicalBlockSize → DiskReader (Except GptError Partitions)}

/-- A table of partitions that is computed from the stored bytes. -/
def Found (openFromDevice : LogicalBlockSize → DiskReader (Except GptError Partitions))
    (lb : LogicalBlockSize) (disk : Nat → UInt8) (partitions : Partitions) : Prop :=
  ∃ flashSize, (openFromDevice lb).Finds disk (.opened flashSize) (.ok partitions)

/-- What a partition command does, when the table is one of `Table`. -/
def PartitionCommand.Does (gpt : Gpt) (files : Files)
    (Table : LogicalBlockSize → Partitions → Prop) (disk : Nat → UInt8)
    (outcome : Except (Error GptError) Report) (disk' : Nat → UInt8) : PartitionCommand → Prop
  | .table => disk' = disk
  | .read args => disk' = disk ∧ ∀ name output, outcome = .ok (.read name output) →
      ∃ lb partitions part length, Table lb partitions ∧ partitions.Selects args part ∧
        name = part.name ∧ gpt.bytesLen part.part lb = .ok length ∧
        output = slice disk (SECTOR_SIZE * part.part.firstLba.toNat) length.toNat
  | .write args => (disk' = disk ∧ ∀ name, outcome ≠ .ok (.wrote name)) ∨
      ∃ lb partitions part, Table lb partitions ∧ partitions.Selects args part ∧
        Wrote gpt files lb part.part args.path disk disk' (∃ report, outcome = .ok report)

/-- What a command does to the storages. A selection that fails may have selected the storage. -/
def Command.Does (gpt : Gpt)
    (openFromDevice : LogicalBlockSize → DiskReader (Except GptError Partitions)) (files : Files)
    (flash : Flash) (outcome : Except (Error GptError) Report) (flash' : Flash) : Command → Prop
  | .select (some code) => flash.Switches code (∃ report, outcome = .ok report) flash'
  | .select none | .info => flash' = flash
  | .partition command => Banks.Beside flash flash' ∧ command.Does gpt files
      (fun lb partitions => Found openFromDevice lb flash.current partitions) flash.current outcome
      flash'.current

/-- A command that ends without a report of a transfer has left the storage alone. -/
theorem PartitionCommand.Does.of_same {Table : LogicalBlockSize → Partitions → Prop}
    {disk disk' : Nat → UInt8} {outcome : Except (Error GptError) Report} (same : disk' = disk)
    (read : ∀ name output, outcome ≠ .ok (.read name output))
    (wrote : ∀ name, outcome ≠ .ok (.wrote name)) (command : PartitionCommand) :
    command.Does gpt files Table disk outcome disk' := by
  cases command with
  | table => exact same
  | read args => exact ⟨same, fun name output ok => absurd ok (read name output)⟩
  | write args => exact .inl ⟨same, wrote⟩

theorem execPartition_effect (linked : Linked script start bus)
    (command : PartitionCommand) (own : RkBlockDevice) :
    AfterDistinct script start (execPartition gpt openFromDevice files lb command) own bus
      fun outcome _ reached => command.Does gpt files (fun lb' partitions => lb' = lb ∧
        (openFromDevice lb).Finds bus.target.disk own (.ok partitions)) bus.target.disk outcome
        reached.target.disk := by
  unfold execPartition
  refine AfterDistinct.bind (DiskReader.run_runs _).links linked
    (DiskReader.run_finds linked _ own) ?_ ?_
  · intro error own' reached finds
    exact .of_same finds.1 (fun _ _ fails => by cases fails) (fun _ fails => by cases fails) command
  intro opened own' reached later finds
  obtain ⟨same, -, value, ok, finds⟩ := finds
  obtain rfl : opened = value := Except.ok.inj ok
  refine .ofExcept_bind (fun error => .of_same same (fun _ _ fails => by cases fails)
    (fun _ fails => by cases fails) command) fun partitions found => ?_
  obtain rfl : opened = .ok partitions := mapError_eq_ok_iff.mp found
  cases command with
  | table => exact .pure same
  | read args =>
    refine .ofExcept_bind (fun error => ⟨same, nofun⟩) fun part selected => ?_
    have selects := selectPartition_eq_ok_iff.mp (mapError_eq_ok_iff.mp selected)
    refine .of_ready later fun ready => ?_
    refine Io.after_bind.mpr (Io.after_mapErr.mpr
      ((execPartitionRead_leaves ready args.path own').imp fun outcome _ last left => ?_))
    rw [same] at left
    cases outcome with
    | error error => exact ⟨left.1, nofun⟩
    | ok output =>
      refine ⟨left.1, fun name output' ok => ?_⟩
      cases ok
      obtain ⟨length, measured, returned⟩ := left.2 output rfl
      exact ⟨lb, partitions, part, length, ⟨rfl, finds⟩, selects, rfl, measured, returned⟩
  | write args =>
    refine .ofExcept_bind (fun error => .inl ⟨same, nofun⟩) fun part selected => ?_
    have selects := selectPartition_eq_ok_iff.mp (mapError_eq_ok_iff.mp selected)
    refine .of_ready later fun ready => ?_
    refine Io.after_bind.mpr (Io.after_mapErr.mpr
      ((execPartitionWrite_leaves ready args.path own').imp fun outcome _ last left => ?_))
    rw [same] at left
    cases outcome with
    | error error =>
      rcases left with ⟨kept, -⟩ | ⟨input, length, opened, measured, most, small, began, -⟩
      · exact .inl ⟨kept, nofun⟩
      · exact .inr ⟨lb, partitions, part, ⟨rfl, finds⟩, selects, input, length, opened, measured, most,
          small, began, nofun⟩
    | ok _ =>
      rcases left with ⟨-, fails⟩ | ⟨input, length, opened, measured, most, small, began, whole⟩
      · exact absurd rfl fails
      · exact .inr ⟨lb, partitions, part, ⟨rfl, finds⟩, selects, input, length, opened, measured, most,
          small, began, fun _ => whole rfl⟩

theorem PartitionCommand.Does.mono {Table Table' : LogicalBlockSize → Partitions → Prop}
    {disk disk' : Nat → UInt8} {outcome : Except (Error GptError) Report} {command : PartitionCommand}
    (does : command.Does gpt files Table disk outcome disk')
    (le : ∀ lb partitions, Table lb partitions → Table' lb partitions) :
    command.Does gpt files Table' disk outcome disk' := by
  cases command with
  | table => exact does
  | read args =>
    refine ⟨does.1, fun name output ok => ?_⟩
    obtain ⟨lb, partitions, part, length, table, rest⟩ := does.2 name output ok
    exact ⟨lb, partitions, part, length, le lb partitions table, rest⟩
  | write args =>
    rcases does with same | ⟨lb, partitions, part, table, rest⟩
    · exact .inl same
    · exact .inr ⟨lb, partitions, part, le lb partitions table, rest⟩

theorem execSwitch_links (target : Option UInt8) :
    Links (execSwitch target : UsbIo Unit (Error GptError) Unit) := by
  cases target with
  | none => exact (Runs.pure _).links
  | some target => exact (switchStorage_links target).mapErr _

theorem execPartition_runs (lb : LogicalBlockSize) (command : PartitionCommand) :
    Runs (execPartition gpt openFromDevice files lb command) := by
  refine (DiskReader.run_runs _).bind fun _ => (Runs.ofExcept _).bind fun partitions => ?_
  cases command with
  | table => exact .pure _
  | read args =>
    refine (Runs.ofExcept _).bind fun part => Runs.bind (Runs.mapErr ?_) fun _ => .pure _
    refine (Runs.ofExcept _).bind fun _ => (Runs.ofExcept _).bind fun _ => ?_
    refine (Runs.ofExcept _).bind fun _ => (Runs.ofExcept _).bind fun _ => ?_
    refine (Runs.ofExcept _).bind fun pos => (readLba_runs pos _ _ _).lift.mapErr.bind fun _ => ?_
    exact (Runs.ofExcept _).bind fun _ => .pure _
  | write args =>
    refine (Runs.ofExcept _).bind fun part => Runs.bind (Runs.mapErr ?_) fun _ => .pure _
    refine (Runs.ofExcept _).bind fun input => (Runs.ofExcept _).bind fun _ => ?_
    refine (Runs.ofExcept _).bind fun partitionBytes => ?_
    split
    · exact .throw _
    · exact (Runs.ofExcept _).bind fun pos => (writeLba_runs pos input _ _).lift.mapErr

theorem exec_partition_runs (command : PartitionCommand) :
    Runs (exec gpt openFromDevice files (.partition command)) := by
  refine readStorageInfo_runs.mapErr.bind fun info => ?_
  cases LogicalBlockSize.ofSectors info.lbaSize with
  | none => exact .pure _
  | some lb =>
    refine RkBlockDevice.tryFrom_runs.mapErr.bind fun device => ?_
    exact ((execPartition_runs lb command).start _).bind fun _ => .pure _

theorem exec_links (command : Command) : Links (exec gpt openFromDevice files command) := by
  cases command with
  | select target =>
    exact (execSwitch_links target).bind fun _ => (readStorage_runs.mapErr.bind fun _ => .pure _).links
  | info => exact (readStorageInfo_runs.mapErr.bind fun _ => .pure _).links
  | partition command => exact (exec_partition_runs command).links

/-- A write to a partition that returns `Ok` has written it, or has found no block size to support. -/
theorem exec_write_reports (args : PartitionTransferArgs) :
    Io.After (Bus.answer script) (exec gpt openFromDevice files (.partition (.write args))) () bus
      fun outcome _ _ => ∀ report, outcome = .ok report →
        (∃ name, report = .wrote name) ∨ ∃ sectors, report = .unsupportedLbaSize sectors := by
  have any {δ ε α : Type} {computation : UsbIo δ ε α} {own : δ} {bus : Bus} :
      Io.After (Bus.answer script) computation own bus fun _ _ _ => True := trivial
  have wrote (lb : LogicalBlockSize) (device : RkBlockDevice) (bus : Bus) :
      Io.After (Bus.answer script) (execPartition gpt openFromDevice files lb (.write args)) device bus
        fun outcome _ _ => ∀ report, outcome = .ok report → ∃ name, report = .wrote name := by
    refine any.bind (fun _ _ _ _ => nofun) fun opened _ _ _ => ?_
    refine .ofExcept_bind (fun _ => nofun) fun partitions _ => ?_
    refine .ofExcept_bind (fun _ => nofun) fun part _ => ?_
    refine any.bind (fun _ _ _ _ => nofun) fun _ _ _ _ report ok => ?_
    cases ok
    exact ⟨_, rfl⟩
  refine any.bind (fun _ _ _ _ => nofun) fun info _ _ _ => ?_
  cases LogicalBlockSize.ofSectors info.lbaSize with
  | none =>
    intro report ok
    cases ok
    exact .inr ⟨_, rfl⟩
  | some lb =>
    refine any.bind (fun _ _ _ _ => nofun) fun device _ bus _ => ?_
    refine Io.after_bind.mpr (Io.after_start.mpr ((wrote lb device bus).imp ?_))
    intro outcome _ _ reports
    cases outcome with
    | error error => exact nofun
    | ok report =>
      intro report' ok
      cases ok
      exact .inl (reports _ rfl)

/-- **A partition command**, on the selected storage. -/
theorem exec_partition_does (linked : Linked script start bus) (command : PartitionCommand) :
    AfterDistinct script start (exec gpt openFromDevice files (.partition command)) () bus
      fun outcome _ reached => command.Does gpt files
        (fun lb partitions => Found openFromDevice lb bus.target.disk partitions) bus.target.disk
        outcome reached.target.disk := by
  have ends : ∀ {error : Error GptError} {reached : Bus},
      reached.target.disk = bus.target.disk → command.Does gpt files
        (fun lb partitions => Found openFromDevice lb bus.target.disk partitions)
        bus.target.disk (.error error) reached.target.disk := fun same =>
    .of_same same (fun _ _ fails => by cases fails) (fun _ fails => by cases fails) command
  have asked : AfterDistinct script start
      (Io.mapErr Error.rkUsb readStorageInfo : UsbIo Unit (Error GptError) _) () bus
      fun _ _ reached => reached.target.disk = bus.target.disk :=
    .mapErr (.of_ready linked fun ready =>
      (readStorageInfo_keeps ready).imp fun _ _ _ same => congrArg Banks.current same)
  refine AfterDistinct.bind readStorageInfo_runs.mapErr.links linked asked
    (fun error _ reached same => ends same) fun info _ middle later same => ?_
  cases size : LogicalBlockSize.ofSectors info.lbaSize with
  | none =>
    exact .pure (.of_same same (fun _ _ fails => by cases fails) (fun _ fails => by cases fails)
      command)
  | some lb =>
    have opens : AfterDistinct script start
        (Io.mapErr Error.io RkBlockDevice.tryFrom : UsbIo Unit (Error GptError) _) () middle
        fun outcome _ reached => reached.target.disk = middle.target.disk ∧
          ∀ device, outcome = .ok device → ∃ flashSize, device = .opened flashSize :=
      .mapErr ((AfterDistinct.of_ready later fun ready =>
        RkBlockDevice.tryFrom_opens ready).imp fun outcome _ reached opened =>
          ⟨opened.1, fun device ok => opened.2 device (mapError_eq_ok_iff.mp ok)⟩)
    refine AfterDistinct.bind RkBlockDevice.tryFrom_runs.mapErr.links later opens
      (fun error _ reached opened => ends (opened.1.trans same)) fun device _ last lasts opened => ?_
    obtain ⟨kept, found⟩ := opened
    obtain ⟨flashSize, rfl⟩ := found device rfl
    have transferred := @execPartition_effect script start last gpt files lb _ openFromDevice
      lasts command (.opened flashSize)
    rw [kept.trans same] at transferred
    have computed : ∀ lb' partitions, (lb' = lb ∧ (openFromDevice lb).Finds bus.target.disk
        (.opened flashSize) (.ok partitions)) →
        Found openFromDevice lb' bus.target.disk partitions := by
      rintro lb' partitions ⟨rfl, finds⟩
      exact ⟨flashSize, finds⟩
    refine Io.after_bind.mpr (Io.after_start.mpr (Io.After.imp transferred ?_))
    intro outcome _ reached does
    cases outcome <;> exact fun distinct => (does distinct).mono computed

/-- **Every command**, whatever is left on the bus. -/
theorem exec_does (linked : Linked script start bus) (command : Command) :
    AfterDistinct script start (exec gpt openFromDevice files command) () bus
      fun outcome _ reached =>
        command.Does gpt openFromDevice files bus.target.flash outcome reached.target.flash := by
  cases command with
  | select target =>
    cases target with
    | none =>
      refine .of_ready linked fun ready => ?_
      show Io.After _ (Io.mapErr Error.rkUsb readStorage >>= _) _ _ _
      refine Io.after_bind.mpr (Io.after_mapErr.mpr ((readStorage_keeps ready).imp ?_))
      intro outcome _ reached kept
      cases outcome <;> exact kept
    | some code =>
      have switches : AfterDistinct script start
          (execSwitch (some code) : UsbIo Unit (Error GptError) Unit) () bus fun outcome _ reached =>
            bus.target.flash.Switches code (outcome = .ok ()) reached.target.flash :=
        .mapErr ((AfterDistinct.of_ready linked fun ready =>
          LibraryCall.switchStorage_switches ready code).imp fun _ _ _ switches =>
            switches.mono mapError_eq_ok_iff.mp)
      refine AfterDistinct.bind (execSwitch_links _) linked switches
        (fun _ _ _ switches => switches.mono nofun) fun _ _ middle later switches => ?_
      refine .of_ready later fun ready => ?_
      refine Io.after_bind.mpr (Io.after_mapErr.mpr ((readStorage_keeps ready).imp ?_))
      intro outcome _ reached kept
      rw [← kept] at switches
      cases outcome <;> exact switches.mono fun _ => rfl
  | info =>
    refine .of_ready linked fun ready => ?_
    refine Io.after_bind.mpr (Io.after_mapErr.mpr ((readStorageInfo_keeps ready).imp ?_))
    intro outcome _ reached kept
    cases outcome <;> exact kept
  | partition command =>
    refine Io.After.imp (Io.After.and ((exec_partition_runs command).stays.beside linked.known ())
      (exec_partition_does linked command)) ?_
    exact fun outcome _ reached both distinct => ⟨both.1, both.2 distinct⟩

end Effect

/-- **A write to a partition stays within it**, where blocks are sectors. -/
theorem Wrote.confined {path : String} {disk disk' : Nat → UInt8} {done : Prop}
    (lawful : gpt.Lawful) (ordered : part.firstLba ≤ part.lastLba)
    (wrote : Wrote gpt files .lb512 part path disk disk' done) {address : Nat}
    (outside : ¬(part.start .lb512 ≤ address ∧
      address < part.start .lb512 + part.length .lb512)) : disk' address = disk address := by
  obtain ⟨input, length, -, measured, most, -, ⟨count, fits, rfl⟩, -⟩ := wrote
  have range := lawful.length_ok part .lb512 length ordered measured
  have begins : SECTOR_SIZE * part.firstLba.toNat = part.start .lb512 := Nat.mul_comm _ _
  rw [begins]
  refine splice_of_outside _ _ _ fun inside => outside ⟨inside.1, inside.2.trans_le ?_⟩
  rw [List.length_take, Nat.min_eq_left fits, ← range]
  exact Nat.add_le_add_left (fits.trans most) _

end StorageCommand

end Rkusb
