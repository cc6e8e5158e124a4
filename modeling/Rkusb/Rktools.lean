/-
**The tool** (`bin/rktools/main.rs`): subcommands one after another.

The subcommands that open a device are given in any order, each with what it finds on the host, and
whatever became of those before it.

* `Rktools.session_history`: the storages go from one state to the next as the subcommands ask for
  (`Invocation.Leaves`): one that is done has all its writes carried out on the selected storage, one
  that fails a beginning of them, and a selection decides for those that follow. A region of the
  storages that no subcommand asks for is kept, if the tables that are found as long as it is kept do
  not lead there.
* `Rktools.session_rerun`: subcommands that are done leave what they would have left on the first
  storage, whatever was tried before them on the places that they write.
-/

import Rkusb.LbaCommand
import Rkusb.StorageCommand
import Rkusb.UpgradeCommand

namespace Rkusb

open Interaction Bytes FlatStore
open UpgradeLoader (haltMap)

namespace Rktools

/-- What the tool takes from other crates: the partition table, RC4 and the checksum of a loader, and
the formats of firmware. -/
structure Crates (GptError : Type) where
  gpt : Gpt
  openFromDevice : Bool → LogicalBlockSize → DiskReader (Except GptError Partitions)
  rc4 : List UInt8 → Nat → UInt8
  rkCrc : List UInt8 → UInt32
  format : RkFwFormat
  archive : List UInt8 → UpgradeCommand.Archive

/-- The subcommands that open a device. -/
inductive Commands
  | downloadBoot (path : String)
  | reset (subcode : UInt8)
  | lba (command : LbaCommand.Command) (timeout : Duration)
  | storage (command : StorageCommand.Command)
  | upgradeLoader (args : UpgradeLoader.Args)
  | upgrade (path : String)

/-- A subcommand with what it finds on the host: the files, and the device that is selected. -/
structure Invocation (GptError : Type) where
  command : Commands
  files : Files
  fileCalls : LbaCommand.FileCalls
  fileStore : LbaCommand.FileStore
  selected : UsbDevice
  /-- What comes of finding and opening the device again. -/
  reopen : Except (UpgradeCommand.Error GptError) Unit

/-- What is boxed as an error. -/
inductive Error (GptError : Type)
  | io (error : IoError)
  | image (error : ImageError)
  | rkUsb (error : RkUsbError)
  | lba (error : LbaCommand.Error)
  | storage (error : StorageCommand.Error GptError)
  | upgradeLoader (error : UpgradeLoader.Error)
  | upgrade (error : UpgradeCommand.Error GptError)

/-- A subcommand that returns `Ok` is done, or has complained about the size of the blocks. -/
inductive Report
  | done
  | unsupportedLbaSize (sectors : Nat)
  deriving DecidableEq

def Report.ofStorage : StorageCommand.Report → Report
  | .unsupportedLbaSize sectors => .unsupportedLbaSize sectors
  | _ => .done

def Report.ofUpgrade : UpgradeCommand.Report → Report
  | .unsupportedLbaSize sectors => .unsupportedLbaSize sectors
  | .written => .done

section Exec

variable {GptError : Type} (crates : Crates GptError)

/-- `download_boot::exec` on an open device. -/
def execDownloadBoot (files : Files) (path : String) : UsbIo Unit (Halt (Error GptError)) Unit := do
  let mmap ← .ofExcept ((files.openInput path).mapError (.error ∘ .io))
  .ofExcept (files.mapInput.mapError (.error ∘ .io))
  let image ← .ofExcept ((RkBootImage.new mmap).mapError (.error ∘ .image))
  Io.mapErr (haltMap .rkUsb) (downloadBoot image)

/-- `handle_command`, once the device is open. -/
def handleCommand (invocation : Invocation GptError) :
    UsbIo Unit (Halt (Error GptError)) Report :=
  match invocation.command with
  | .downloadBoot path => do
      execDownloadBoot invocation.files path
      pure .done
  | .reset subcode => do
      Io.mapErr (.error ∘ .rkUsb) (resetDevice subcode)
      pure .done
  | .lba command timeout => do
      let _ ← Io.mapErr (.error ∘ .lba)
        (Io.start (LbaCommand.exec invocation.fileCalls command timeout) invocation.fileStore)
      pure .done
  | .storage command => do
      let report ← Io.mapErr (.error ∘ .storage) (StorageCommand.exec crates.gpt
        (crates.openFromDevice false) invocation.files command)
      pure (.ofStorage report)
  | .upgradeLoader args => do
      Io.mapErr (haltMap .upgradeLoader)
        (UpgradeLoader.exec crates.rc4 crates.rkCrc invocation.files args)
      pure .done
  | .upgrade path => do
      let report ← Io.mapErr (haltMap .upgrade) (UpgradeCommand.exec crates.gpt
        crates.openFromDevice crates.format crates.archive invocation.files path invocation.selected
        invocation.reopen)
      pure (.ofUpgrade report)

/-- Subcommands one after another, whatever becomes of each. -/
def handleAll : List (Invocation GptError) →
    UsbIo Unit (Halt (Error GptError)) (List (Except (Halt (Error GptError)) Report))
  | [] => pure []
  | invocation :: rest => do
      let outcome ← Io.attempt (handleCommand crates invocation)
      let outcomes ← handleAll rest
      pure (outcome :: outcomes)

/-! ### What a subcommand asks for -/

/-- The writes that an `lba` command asks for. -/
def LbaAsks (erased : UInt8) (resolve : String → String) (files : LbaCommand.FileStore)
    (writes : List (Nat × List UInt8)) : LbaCommand.Command → Prop
  | .read _ => writes = []
  | .write args => ∃ contents, files (resolve args.path) = some contents ∧
      writes = [(STORAGE_SECTOR_SIZE * args.beginSector.toNat, contents)]
  | .erase args => writes = [(STORAGE_SECTOR_SIZE * args.beginSector.toNat,
      List.replicate (STORAGE_SECTOR_SIZE * args.sectorCount.toNat) erased)]

/-- The writes that a subcommand asks for on the selected storage. -/
def Invocation.Asks (erased : UInt8) (disk : Nat → UInt8) (writes : List (Nat × List UInt8))
    (invocation : Invocation GptError) : Prop :=
  match invocation.command with
  | .lba command _ =>
      LbaAsks erased invocation.fileCalls.resolve invocation.fileStore writes command
  | .storage (.partition (.write args)) => ∃ lb partitions part input length,
      StorageCommand.Found (crates.openFromDevice false) lb disk partitions ∧
      partitions.Selects args part ∧ invocation.files.openInput args.path = .ok input ∧
      crates.gpt.bytesLen part.part lb = .ok length ∧ input.length ≤ length.toNat ∧
      writes = [(SECTOR_SIZE * part.part.firstLba.toNat, input)]
  | .upgradeLoader args => ∃ mmap loader block, invocation.files.openInput args.path = .ok mmap ∧
      UpgradeLoader.Loader.Built crates.rc4 crates.rkCrc mmap loader block ∧
      writes = [(STORAGE_SECTOR_SIZE * args.lba.toNat, block)]
  | .upgrade path => ∃ fw table,
      UpgradeCommand.Brings crates.format crates.archive invocation.files path fw ∧
      UpgradeCommand.Table.FoundOn crates.openFromDevice table disk ∧
      writes = table.writes crates.gpt fw
  | _ => writes = []

/-- A subcommand on the selected storage: it is not done and changes nothing, or a beginning of what it
asks for is carried out, and all of it if it is done. -/
def Invocation.LeavesCurrent (erased : UInt8) (outcome : Except (Halt (Error GptError)) Report)
    (disk disk' : Nat → UInt8) (invocation : Invocation GptError) : Prop :=
  (disk' = disk ∧ outcome ≠ .ok .done) ∨ ∃ writes, invocation.Asks crates erased disk writes ∧
    Torn writes disk disk' ∧ (outcome = .ok .done → disk' = spliceAll disk writes)

/-- The storage that the subcommand selects, if it selects one: a selection, or a reset. -/
def Invocation.selects (restarts : UInt8 → Flash → UInt8) (flash : Flash)
    (invocation : Invocation GptError) : Option UInt8 :=
  match invocation.command with
  | .storage (.select (some code)) => some code
  | .reset subcode => some (restarts subcode flash)
  | _ => none

/-- A subcommand on flat storages of which one is selected. One that selects and fails may have selected
its storage all the same; every other subcommand leaves the storages alone that are not selected. -/
def Invocation.Leaves (erased : UInt8) (restarts : UInt8 → Flash → UInt8)
    (outcome : Except (Halt (Error GptError)) Report) (flash flash' : Flash)
    (invocation : Invocation GptError) : Prop :=
  match invocation.selects restarts flash with
  | some code => flash.Switches code (outcome = .ok .done) flash'
  | none => Banks.Beside flash flash' ∧
      invocation.LeavesCurrent crates erased outcome flash.current flash'.current

/-- Subcommands one after another on flat storages, with their outcomes. -/
inductive History (erased : UInt8) (restarts : UInt8 → Flash → UInt8) :
    List (Invocation GptError) → List (Except (Halt (Error GptError)) Report) → Flash → Flash → Prop
  | nil (flash : Flash) : History erased restarts [] [] flash flash
  | cons {invocation : Invocation GptError} {session : List (Invocation GptError)}
      {outcome : Except (Halt (Error GptError)) Report}
      {outcomes : List (Except (Halt (Error GptError)) Report)} {flash middle last : Flash} :
      invocation.Leaves crates erased restarts outcome flash middle →
      History erased restarts session outcomes middle last →
      History erased restarts (invocation :: session) (outcome :: outcomes) flash last

/-- On any storages that have the region as it is, and whichever of these is selected, the subcommand
selects no storage but these and asks for no write to the region. -/
structure Invocation.Spares (erased : UInt8) (restarts : UInt8 → Flash → UInt8) (codes : Set UInt8)
    (region : Set (UInt8 × Nat)) (flash : Flash) (invocation : Invocation GptError) : Prop where
  selects : ∀ flash' : Flash, flash'.selected ∈ codes → Set.EqOn flash'.cell flash.cell region →
    ∀ code ∈ invocation.selects restarts flash', code ∈ codes
  asks : ∀ flash' : Flash, flash'.selected ∈ codes → Set.EqOn flash'.cell flash.cell region →
    ∀ writes, invocation.Asks crates erased flash'.current writes → ∀ write ∈ writes,
      ∀ place, (flash'.selected, place) ∈ region → ¬Covers write place

end Exec

/-! ### One subcommand -/

variable {GptError : Type} {crates : Crates GptError} {script : Script} {start bus : Bus}
  {erased : UInt8} {restarts : UInt8 → Flash → UInt8}

/-- A write of which a beginning is carried out. -/
theorem torn_of_take {place count : Nat} {data : List UInt8} {disk disk' : Nat → UInt8} {done : Prop}
    (carried : disk' = splice disk place (data.take count)) (whole : done → count = data.length) :
    Torn [(place, data)] disk disk' ∧ (done → disk' = spliceAll disk [(place, data)]) := by
  refine ⟨carried ▸ .within place count data [] disk, fun ok => ?_⟩
  rw [carried, whole ok, List.take_length]
  rfl

/-- Whether a subcommand selects does not depend on the storages. -/
theorem Invocation.selects_none {invocation : Invocation GptError} {flash flash' : Flash}
    (still : invocation.selects restarts flash = none) :
    invocation.selects restarts flash' = none := by
  obtain ⟨command, files, calls, store, selected, reopen⟩ := invocation
  match command, still with
  | .storage (.select none), _ | .storage .info, _ | .storage (.partition _), _
  | .downloadBoot _, _ | .lba _ _, _ | .upgradeLoader _, _ | .upgrade _, _ => rfl

namespace Invocation.LeavesCurrent

variable {invocation : Invocation GptError} {disk disk' : Nat → UInt8}
  {outcome : Except (Halt (Error GptError)) Report}

/-- A subcommand that asks for nothing leaves the storage alone. -/
theorem of_same (same : disk' = disk) (asks : invocation.Asks crates erased disk []) :
    invocation.LeavesCurrent crates erased outcome disk disk' :=
  .inr ⟨[], asks, same ▸ .stops [] disk, fun _ => same⟩

theorem refused (same : disk' = disk) (fails : outcome ≠ .ok .done) :
    invocation.LeavesCurrent crates erased outcome disk disk' := .inl ⟨same, fails⟩

end Invocation.LeavesCurrent

theorem execRead_keeps (ready : bus.Ready script) (calls : LbaCommand.FileCalls)
    (files : LbaCommand.FileStore) (args : LbaCommand.ReadArgs) (timeout : Duration) :
    Io.After (Bus.answer script) (LbaCommand.execRead calls args timeout) files bus
      fun _ _ reached => reached.target.disk = bus.target.disk := by
  refine .ofExcept_bind (fun _ => rfl) fun _ _ => Io.after_modify_bind.mpr ?_
  refine .ofExcept_bind (fun _ => rfl) fun _ _ => Io.after_modify_bind.mpr ?_
  refine .ofExcept_bind (fun _ => rfl) fun _ _ => ?_
  refine Io.after_bind.mpr (Io.after_mapErr.mpr (Io.after_lift.mpr
    ((readLba_leaves ready args.beginSector _ args.subcode timeout).imp ?_)))
  intro outcome _ reached left
  cases outcome with
  | error error => exact left.1
  | ok bytes => exact Io.after_modify_bind.mpr (Io.after_ofExcept.mpr left.1)

/-- A file that is opened to be written to the storage. -/
theorem openMapped_found (calls : LbaCommand.FileCalls) (files : LbaCommand.FileStore)
    (path : String) :
    Io.After (Bus.answer script) (LbaCommand.openMapped calls path) files bus
      fun outcome _ reached => reached = bus ∧
        ∀ contents, outcome = .ok contents → files (calls.resolve path) = some contents := by
  refine Io.after_get_bind.mpr ?_
  cases found : files (calls.resolve path) with
  | none => exact ⟨rfl, nofun⟩
  | some contents =>
    refine .ofExcept_bind (fun _ => ⟨rfl, nofun⟩) fun _ _ => ?_
    exact .ofExcept_bind (fun _ => ⟨rfl, nofun⟩) fun _ _ => ⟨rfl, fun _ ok => by cases ok; rfl⟩

/-- **The `lba` commands**, whatever is on the bus. -/
theorem lba_leaves (ready : bus.Ready script) (calls : LbaCommand.FileCalls)
    (files : LbaCommand.FileStore) (command : LbaCommand.Command) (timeout : Duration) :
    Io.After (Bus.answer script) (LbaCommand.exec calls command timeout) files bus
      fun outcome _ reached => (reached.target.disk = bus.target.disk ∧ outcome ≠ .ok ()) ∨
        ∃ writes, LbaAsks script.erased calls.resolve files writes command ∧
          Torn writes bus.target.disk reached.target.disk ∧
          (outcome = .ok () → reached.target.disk = spliceAll bus.target.disk writes) := by
  cases command with
  | read args =>
    exact (execRead_keeps ready calls files args timeout).imp fun _ _ _ same =>
      .inr ⟨[], rfl, same ▸ .stops [] _, fun _ => same⟩
  | write args =>
    refine (openMapped_found calls files args.path).bind (fun error _ reached failed => ?_)
      fun contents _ reached found => ?_
    · exact .inl ⟨congrArg (Target.disk ∘ Bus.target) failed.1, nofun⟩
    obtain ⟨rfl, stored⟩ := found
    refine Io.after_mapErr.mpr (Io.after_lift.mpr ((writeLba_leaves ready args.beginSector contents
      args.subcode timeout).imp ?_))
    rintro outcome _ last ⟨count, -, disk, whole⟩
    exact .inr ⟨_, ⟨contents, stored _ rfl, rfl⟩,
      torn_of_take disk fun ok => whole (mapError_eq_ok_iff.mp ok)⟩
  | erase args =>
    refine Io.after_mapErr.mpr (Io.after_lift.mpr ((eraseLba_leaves ready args.beginSector
      args.sectorCount timeout).imp ?_))
    rintro outcome _ reached ⟨sectors, most, disk, whole⟩
    have bytes : STORAGE_SECTOR_SIZE * sectors ≤ STORAGE_SECTOR_SIZE * args.sectorCount.toNat :=
      Nat.mul_le_mul_left _ most
    rw [← Nat.min_eq_left bytes, ← List.take_replicate] at disk
    refine .inr ⟨_, rfl, torn_of_take disk fun ok => ?_⟩
    rw [whole (mapError_eq_ok_iff.mp ok), List.length_replicate]

theorem execDownloadBoot_aside (files : Files) (path : String) :
    UpgradeCommand.Aside (execDownloadBoot files path : UsbIo Unit (Halt (Error GptError)) Unit) :=
  .bind (.ofExcept _) fun _ => .bind (.ofExcept _) fun _ => .bind (.ofExcept _) fun image =>
    (UpgradeCommand.downloadBoot_aside image).mapErr _

/-- A subcommand that selects nothing. -/
theorem handleCommand_moves {invocation : Invocation GptError} {restarts : UInt8 → Flash → UInt8}
    {flash : Flash} (still : invocation.selects restarts flash = none) :
    Moves (handleCommand crates invocation) := by
  obtain ⟨command, files, calls, store, selected, reopen⟩ := invocation
  cases command with
  | downloadBoot path => exact .bind (execDownloadBoot_aside files path).moves fun _ => .pure _
  | reset subcode => cases still
  | lba command timeout =>
    exact .bind ((LbaCommand.exec_runs command timeout).start store).mapErr.moves fun _ => .pure _
  | storage command =>
    refine .bind (.mapErr ?_ _) fun _ => .pure _
    match command, still with
    | .select none, _ =>
      exact .bind (.pure _) fun _ => (readStorage_runs.mapErr.bind fun _ => .pure _).moves
    | .info, _ => exact (readStorageInfo_runs.mapErr.bind fun _ => .pure _).moves
    | .partition command, _ => exact (StorageCommand.exec_partition_runs command).moves
  | upgradeLoader args => exact .bind UpgradeLoader.exec_runs.mapErr.moves fun _ => .pure _
  | upgrade path => exact .bind (UpgradeCommand.exec_moves.mapErr _) fun _ => .pure _

theorem handleCommand_links (invocation : Invocation GptError) :
    Links (handleCommand crates invocation) := by
  cases selects : invocation.selects (fun _ _ => 0) (.const 0 fun _ => 0) with
  | none => exact (handleCommand_moves selects).links
  | some code =>
    obtain ⟨command, files, calls, store, selected, reopen⟩ := invocation
    match command, selects with
    | .reset subcode, _ =>
      exact ((resetDevice_links subcode).mapErr _).bind fun _ => (Runs.pure _).links
    | .storage command, _ =>
      exact ((StorageCommand.exec_links command).mapErr _).bind fun _ => (Runs.pure _).links

/-- **A subcommand that selects**, whatever is left on the bus. -/
theorem handleCommand_switches (linked : Linked script start bus)
    {invocation : Invocation GptError} {code : UInt8}
    (selects : invocation.selects script.restarts bus.target.flash = some code) :
    AfterDistinct script start (handleCommand crates invocation) () bus fun outcome _ reached =>
      bus.target.flash.Switches code (outcome = .ok .done) reached.target.flash := by
  obtain ⟨command, files, calls, store, selected, reopen⟩ := invocation
  match command, selects with
  | .reset subcode, rfl =>
    refine .of_ready linked fun ready => ?_
    refine Io.after_bind.mpr (Io.after_mapErr.mpr
      ((LibraryCall.resetDevice_switches ready subcode).imp ?_))
    intro outcome _ reached switches
    cases outcome with
    | error error => exact switches.mono nofun
    | ok value => exact switches.mono fun _ => rfl
  | .storage (.select (some _)), rfl =>
    have does := @StorageCommand.exec_does script start bus crates.gpt files _
      (crates.openFromDevice false) linked (.select (some code))
    refine Io.after_bind.mpr (Io.after_mapErr.mpr (Io.After.imp does ?_))
    intro outcome _ reached switches
    cases outcome with
    | error error => exact fun distinct => (switches distinct).mono nofun
    | ok report => exact fun distinct => (switches distinct).mono fun _ => ⟨report, rfl⟩

/-- A storage subcommand that asks for no writes and leaves the storage alone. -/
theorem storage_reads {invocation : Invocation GptError} {command : StorageCommand.Command}
    (given : invocation.command = .storage command)
    (same : AfterDistinct script start (StorageCommand.exec crates.gpt (crates.openFromDevice false)
      invocation.files command) () bus fun _ _ reached => reached.target.disk = bus.target.disk)
    (asks : invocation.Asks crates script.erased bus.target.disk []) :
    AfterDistinct script start (handleCommand crates invocation) () bus fun outcome _ reached =>
      invocation.LeavesCurrent crates script.erased outcome bus.target.disk reached.target.disk := by
  obtain ⟨_, files, calls, store, selected, reopen⟩ := invocation
  cases given
  refine Io.after_bind.mpr (Io.after_mapErr.mpr (Io.After.imp same ?_))
  intro outcome _ reached kept
  cases outcome <;> exact fun distinct => .of_same (kept distinct) asks

/-- **`storage partition write`**: the partition is written, or a beginning of it. -/
theorem partitionWrite_leaves (linked : Linked script start bus) {invocation : Invocation GptError}
    {args : PartitionTransferArgs}
    (given : invocation.command = .storage (.partition (.write args))) :
    AfterDistinct script start (handleCommand crates invocation) () bus fun outcome _ reached =>
      invocation.LeavesCurrent crates script.erased outcome bus.target.disk reached.target.disk := by
  obtain ⟨_, files, calls, store, selected, reopen⟩ := invocation
  cases given
  have does := @StorageCommand.exec_does script start bus crates.gpt files _
    (crates.openFromDevice false) linked (.partition (.write args))
  refine Io.after_bind.mpr (Io.after_mapErr.mpr ((Io.After.and does
    (StorageCommand.exec_write_reports args)).imp ?_))
  intro outcome _ reached both
  obtain ⟨writes, reports⟩ := both
  cases outcome with
  | error error =>
    intro distinct
    rcases (writes distinct).2 with ⟨same, -⟩ | ⟨lb, partitions, part, found, selects, input, length,
      opened, measured, most, -, began, -⟩
    · exact .refused same nofun
    · exact .inr ⟨_, ⟨lb, partitions, part, input, length, found, selects, opened, measured, most,
        rfl⟩, began.torn, nofun⟩
  | ok report =>
    intro distinct
    rcases (writes distinct).2 with ⟨same, fails⟩ | ⟨lb, partitions, part, found, selects, input,
      length, opened, measured, most, -, -, whole⟩
    · rcases reports report rfl with ⟨name, rfl⟩ | ⟨sectors, rfl⟩
      · exact absurd rfl (fails name)
      · exact .refused same nofun
    · have disk : reached.target.disk = spliceAll bus.target.disk
          [(SECTOR_SIZE * part.part.firstLba.toNat, input)] := whole ⟨report, rfl⟩
      exact .inr ⟨_, ⟨lb, partitions, part, input, length, found, selects, opened, measured, most,
        rfl⟩, disk ▸ .whole _ _, fun _ => disk⟩

/-- **The storage subcommands** that do not select, whatever is left on the bus. -/
theorem storage_leaves (linked : Linked script start bus) {invocation : Invocation GptError}
    {restarts : UInt8 → Flash → UInt8} {flash : Flash}
    (still : invocation.selects restarts flash = none) {command : StorageCommand.Command}
    (given : invocation.command = .storage command) :
    AfterDistinct script start (handleCommand crates invocation) () bus fun outcome _ reached =>
      invocation.LeavesCurrent crates script.erased outcome bus.target.disk reached.target.disk := by
  obtain ⟨_, files, calls, store, selected, reopen⟩ := invocation
  cases given
  have does : AfterDistinct script start (StorageCommand.exec crates.gpt
      (crates.openFromDevice false) files command) () bus fun outcome _ reached =>
        command.Does crates.gpt (crates.openFromDevice false) files bus.target.flash outcome
          reached.target.flash := StorageCommand.exec_does linked command
  match command, still with
  | .select none, _ | .info, _ =>
    exact storage_reads rfl (Io.After.imp does fun _ _ _ same distinct =>
      congrArg Banks.current (same distinct)) rfl
  | .partition .table, _ =>
    exact storage_reads rfl (Io.After.imp does fun _ _ _ does distinct => (does distinct).2) rfl
  | .partition (.read args), _ =>
    exact storage_reads rfl (Io.After.imp does fun _ _ _ does distinct => (does distinct).2.1) rfl
  | .partition (.write args), _ => exact partitionWrite_leaves linked rfl

/-- **`upgrade-loader`**: the block is written, or a beginning of it. -/
theorem upgradeLoader_leaves (linked : Linked script start bus) (invocation : Invocation GptError)
    {args : UpgradeLoader.Args} (given : invocation.command = .upgradeLoader args) :
    AfterDistinct script start (handleCommand crates invocation) () bus fun outcome _ reached =>
      invocation.LeavesCurrent crates script.erased outcome bus.target.disk reached.target.disk := by
  obtain ⟨_, files, calls, store, selected, reopen⟩ := invocation
  cases given
  refine .of_ready linked fun ready => ?_
  refine Io.after_bind.mpr (Io.after_mapErr.mpr ((UpgradeLoader.exec_attempted ready).imp ?_))
  intro outcome _ reached attempted
  rcases attempted with ⟨same, fails⟩ | ⟨mmap, loader, block, opened, built, began, whole⟩
  · cases outcome with
    | error error => exact .refused same nofun
    | ok value => exact absurd rfl fails
  · cases outcome with
    | error error => exact .inr ⟨_, ⟨mmap, loader, block, opened, built, rfl⟩, began.torn, nofun⟩
    | ok value =>
      exact .inr ⟨_, ⟨mmap, loader, block, opened, built, rfl⟩, began.torn, fun _ => (whole rfl).1⟩

/-- **`upgrade`**: the partitions of the update are written, or a beginning of them. -/
theorem upgrade_leaves (linked : Linked script start bus) (invocation : Invocation GptError)
    {path : String} (given : invocation.command = .upgrade path) :
    AfterDistinct script start (handleCommand crates invocation) () bus fun outcome _ reached =>
      invocation.LeavesCurrent crates script.erased outcome bus.target.disk reached.target.disk := by
  obtain ⟨_, files, calls, store, selected, reopen⟩ := invocation
  cases given
  refine Io.after_bind.mpr (Io.after_mapErr.mpr (Io.After.imp (UpgradeCommand.exec_writes linked) ?_))
  intro outcome _ reached writes
  cases outcome with
  | error error =>
    intro distinct
    rcases writes distinct with ⟨same, -⟩ | ⟨fw, brings, table, found, upgraded⟩
    · exact .refused same nofun
    · exact .inr ⟨_, ⟨fw, table, brings, found, rfl⟩, upgraded.torn, nofun⟩
  | ok report =>
    intro distinct
    rcases writes distinct with ⟨same, fails⟩ | ⟨fw, brings, table, found, upgraded⟩
    · cases report with
      | unsupportedLbaSize sectors => exact .refused same nofun
      | written => exact absurd rfl fails
    · refine .inr ⟨_, ⟨fw, table, brings, found, rfl⟩, upgraded.torn, fun ok => upgraded.whole ?_⟩
      cases report with
      | unsupportedLbaSize sectors => cases ok
      | written => rfl

/-- **A subcommand on the selected storage**, whatever is left on the bus. -/
theorem handleCommand_leavesCurrent (linked : Linked script start bus)
    {invocation : Invocation GptError} {restarts : UInt8 → Flash → UInt8} {flash : Flash}
    (still : invocation.selects restarts flash = none) :
    AfterDistinct script start (handleCommand crates invocation) () bus fun outcome _ reached =>
      invocation.LeavesCurrent crates script.erased outcome bus.target.disk reached.target.disk := by
  obtain ⟨command, files, calls, store, selected, reopen⟩ := invocation
  cases command with
  | downloadBoot path =>
    refine Io.After.bind (execDownloadBoot_aside files path script bus) ?_ ?_
    · exact fun error _ reached same _ => .of_same (congrArg Target.disk same.1) rfl
    · exact fun _ _ reached same _ => .of_same (congrArg Target.disk same.1) rfl
  | reset subcode => cases still
  | lba command timeout =>
    refine .of_ready linked fun ready => ?_
    refine Io.after_bind.mpr (Io.after_mapErr.mpr (Io.after_start.mpr
      ((lba_leaves ready calls store command timeout).imp ?_)))
    intro outcome files' reached left
    rcases left with ⟨same, fails⟩ | ⟨writes, asks, torn, whole⟩
    · cases outcome with
      | error error => exact .refused same nofun
      | ok value => exact absurd rfl fails
    · cases outcome with
      | error error => exact .inr ⟨writes, asks, torn, nofun⟩
      | ok value => exact .inr ⟨writes, asks, torn, fun _ => whole rfl⟩
  | storage command => exact storage_leaves linked still rfl
  | upgradeLoader args => exact upgradeLoader_leaves linked _ rfl
  | upgrade path => exact upgrade_leaves linked _ rfl

/-- **One subcommand**, whatever is left on the bus. -/
theorem handleCommand_leaves (linked : Linked script start bus) (invocation : Invocation GptError) :
    AfterDistinct script start (handleCommand crates invocation) () bus fun outcome _ reached =>
      invocation.Leaves crates script.erased script.restarts outcome bus.target.flash
        reached.target.flash := by
  unfold Invocation.Leaves
  cases selects : invocation.selects script.restarts bus.target.flash with
  | some code => exact handleCommand_switches linked selects
  | none =>
    refine (Io.After.and ((handleCommand_moves selects).stays.beside linked.known ())
      (handleCommand_leavesCurrent linked selects)).imp fun _ _ _ both distinct => ?_
    exact ⟨both.1, both.2 distinct⟩

/-! ### Sessions -/

/-- **A region that no subcommand asks for is kept**, whatever becomes of the subcommands. -/
theorem History.eqOn {codes : Set UInt8} {region : Set (UInt8 × Nat)}
    {session : List (Invocation GptError)}
    {outcomes : List (Except (Halt (Error GptError)) Report)} {first flash last : Flash}
    (history : History crates erased restarts session outcomes flash last)
    (selected : flash.selected ∈ codes) (agree : Set.EqOn flash.cell first.cell region)
    (spares : ∀ invocation ∈ session,
      invocation.Spares crates erased restarts codes region first) :
    last.selected ∈ codes ∧ Set.EqOn last.cell first.cell region := by
  induction history with
  | nil flash => exact ⟨selected, agree⟩
  | @cons invocation session outcome outcomes flash middle last leaves _ ih =>
    obtain ⟨here, later⟩ := List.forall_mem_cons.mp spares
    unfold Invocation.Leaves at leaves
    cases selects : invocation.selects restarts flash with
    | some code =>
      rw [selects] at leaves
      have among := here.selects flash selected agree code selects
      refine ih (leaves.selected.elim (· ▸ selected) (· ▸ among)) (fun place inside => ?_) later
      exact (congrFun (congrFun leaves.stores place.1) place.2).trans (agree inside)
    | none =>
      rw [selects] at leaves
      obtain ⟨beside, current⟩ := leaves
      refine ih (beside.selected ▸ selected) (fun place inside => ?_) later
      refine (beside.cell_eq fun same => ?_).trans (agree inside)
      rcases current with ⟨same, -⟩ | ⟨writes, asks, torn, -⟩
      · rw [same]
      · refine torn.apply_of_outside fun write member => ?_
        exact here.asks flash selected agree writes asks write member _ (same ▸ inside)

theorem handleAll_history (linked : Linked script start bus) (session : List (Invocation GptError)) :
    AfterDistinct script start (handleAll crates session) () bus fun outcome _ reached =>
      ∃ outcomes, outcome = .ok outcomes ∧
        History crates script.erased script.restarts session outcomes bus.target.flash
          reached.target.flash := by
  induction session generalizing bus with
  | nil => exact .pure ⟨[], rfl, .nil _⟩
  | cons invocation rest ih =>
    refine AfterDistinct.attempt_bind (handleCommand_links invocation) linked
      (handleCommand_leaves linked invocation) fun outcome _ middle later leaves => ?_
    refine Io.after_bind.mpr (Io.After.imp (ih later) fun results _ reached history => ?_)
    cases results with
    | error error =>
      intro distinct
      obtain ⟨outcomes, fails, -⟩ := history distinct
      cases fails
    | ok results =>
      intro distinct
      obtain ⟨outcomes, same, history⟩ := history distinct
      cases same
      exact ⟨_, rfl, .cons leaves history⟩

/-- **A session of the tool**, from any point of any run under distinct tags, with any subcommands in
any order, and whatever becomes of their transfers. Each subcommand does to the selected storage what it
asks for: all of it, if it is done; a beginning of it, or nothing, if it fails. So a region of the
storages is kept if no subcommand asks for it, whichever storage is selected that the session may
select, on storages on which it is kept. -/
theorem session_history (idle : start.Idle) (run : Run script start bus)
    (session : List (Invocation GptError)) :
    Io.After (Bus.answer script) (handleAll crates session) () bus fun outcome _ reached =>
      start.Distinct script reached → ∃ outcomes, outcome = .ok outcomes ∧
        History crates script.erased script.restarts session outcomes bus.target.flash
          reached.target.flash ∧
        ∀ (codes : Set UInt8) (region : Set (UInt8 × Nat)), bus.target.flash.selected ∈ codes →
          (∀ invocation ∈ session,
            invocation.Spares crates script.erased script.restarts codes region bus.target.flash) →
          Set.EqOn reached.target.flash.cell bus.target.flash.cell region := by
  refine (handleAll_history (run.linked idle) session).imp ?_
  intro outcome _ reached found
  obtain ⟨outcomes, ok, history⟩ := found
  refine ⟨outcomes, ok, history, fun codes region selected spares => ?_⟩
  exact (history.eqOn selected (Set.eqOn_refl _ _) spares).2

/-- A host without files. -/
def bareInvocation (command : Commands) : Invocation Unit where
  command := command
  files := .holding []
  fileCalls := LbaCommand.calmCalls
  fileStore _ := none
  selected := ⟨1, 2, .ok ⟨0x2207, 0x350b, 1⟩⟩
  reopen := .ok ()

/-- Crates that are not asked for anything. -/
def plainCrates : Crates Unit where
  gpt := .checked
  openFromDevice := UpgradeCommand.firstByteTable
  rc4 _ _ := 0
  rkCrc _ := 0
  format := rkfwFormat
  archive := UpgradeCommand.bootArchive

/-- A reset whose first transfer fails, a selection of the storage 2, and an erasure of the fifth
sector. -/
def resetSelectErase : List (Invocation Unit) :=
  [bareInvocation (.reset 0), bareInvocation (.storage (.select (some 2))),
    bareInvocation (.lba (.erase ⟨4, 1⟩) 1)]

/-- What the erasure cannot reach: other storages than the first one and the one that is selected, and
the sectors before the fifth. -/
def beforeErasure : Set (UInt8 × Nat) := {cell | cell.1 ∉ ({0, 2} : Set UInt8) ∨ cell.2 < 2048}

theorem session_history_resetSelectErase : ∃ outcomes,
    History plainCrates 0 (fun _ flash => flash.selected) resetSelectErase outcomes
      (.const 0 fun _ => 3)
      ((handleAll plainCrates resetSelectErase).run (Bus.answer Run.firstFails) ()
        (Bus.fresh fun _ => 3)).2.target.flash ∧
    Set.EqOn ((handleAll plainCrates resetSelectErase).run (Bus.answer Run.firstFails) ()
      (Bus.fresh fun _ => 3)).2.target.flash.cell (fun _ => 3) beforeErasure := by
  have few : ((handleAll plainCrates resetSelectErase).run (Bus.answer Run.firstFails) ()
      (Bus.fresh fun _ => 3)).2.draws < 2 ^ 32 := by decide +kernel
  obtain ⟨outcomes, -, history, kept⟩ := @session_history _ plainCrates Run.firstFails _ _
    (Bus.fresh_idle fun _ => 3) .start resetSelectErase (Run.distinct_of_counting (fun _ => rfl) few)
  refine ⟨outcomes, history, kept {0, 2} _ (.inl rfl) fun invocation member => ?_⟩
  simp only [resetSelectErase, List.mem_cons, List.not_mem_nil, or_false] at member
  rcases member with rfl | rfl | rfl
  · refine ⟨fun flash among _ code given => ?_, fun flash _ _ writes asks write member => ?_⟩
    · cases given
      exact among
    · obtain rfl : writes = [] := asks
      cases member
  · refine ⟨fun flash among _ code given => ?_, fun flash _ _ writes asks write member => ?_⟩
    · cases given
      exact .inr rfl
    · obtain rfl : writes = [] := asks
      cases member
  · refine ⟨fun _ _ _ code given => (by cases given), fun flash among _ writes asks write member => ?_⟩
    obtain rfl : writes = [(2048, List.replicate 512 0)] := asks
    obtain rfl := List.mem_singleton.mp member
    intro place inside covers
    rcases inside with other | below
    · exact other among
    · exact absurd covers.1 (Nat.not_le.mpr below)

/-! ### Subcommands that are given again -/

/-- The subcommand selects nothing, and asks for these writes on any storages that have the region as it
is. -/
structure Invocation.Plans (crates : Crates GptError) (erased : UInt8)
    (restarts : UInt8 → Flash → UInt8) (region : Set (UInt8 × Nat)) (flash : Flash)
    (plan : List (Nat × List UInt8)) (invocation : Invocation GptError) : Prop where
  still : invocation.selects restarts flash = none
  asks : ∀ flash' : Flash, flash'.selected = flash.selected →
    Set.EqOn flash'.cell flash.cell region → ∀ writes,
      invocation.Asks crates erased flash'.current writes → writes = plan

/-- The cells that writes to a storage spare: those of the other storages, and those between. -/
def sparedCells (selected : UInt8) (writes : List (Nat × List UInt8)) : Set (UInt8 × Nat) :=
  {cell | cell.1 = selected → cell.2 ∈ spared writes}

namespace History

variable {session later : List (Invocation GptError)}
  {outcomes : List (Except (Halt (Error GptError)) Report)} {first flash last : Flash}

theorem append (history : History crates erased restarts (session ++ later) outcomes flash last) :
    ∃ middle, History crates erased restarts session (outcomes.take session.length) flash middle ∧
      History crates erased restarts later (outcomes.drop session.length) middle last := by
  induction session generalizing outcomes flash with
  | nil => exact ⟨flash, .nil flash, history⟩
  | cons invocation rest ih =>
    cases history with
    | cons leaves others =>
      obtain ⟨middle, before, after⟩ := ih others
      exact ⟨middle, .cons leaves before, after⟩

/-- Subcommands that are all done write what they plan. -/
theorem done {region : Set (UInt8 × Nat)} {plan : Invocation GptError → List (Nat × List UInt8)}
    (history : History crates erased restarts session outcomes flash last)
    (finished : ∀ outcome ∈ outcomes, outcome = .ok .done) (selected : flash.selected = first.selected)
    (agree : Set.EqOn flash.cell first.cell region)
    (planned : ∀ invocation ∈ session,
      invocation.Plans crates erased restarts region first (plan invocation))
    (apart : region ⊆ sparedCells first.selected (session.flatMap plan)) :
    last = flash.put (spliceAll flash.current (session.flatMap plan)) := by
  induction history with
  | nil flash => exact (Banks.put_current flash).symm
  | @cons invocation session outcome outcomes flash middle last leaves _ ih =>
    obtain ⟨ok, others⟩ := List.forall_mem_cons.mp finished
    obtain ⟨here, rest⟩ := List.forall_mem_cons.mp planned
    rw [List.flatMap_cons] at apart ⊢
    unfold Invocation.Leaves at leaves
    rw [Invocation.selects_none here.still] at leaves
    obtain ⟨beside, current⟩ := leaves
    rcases current with ⟨-, fails⟩ | ⟨writes, asks, -, whole⟩
    · exact absurd ok fails
    obtain rfl := here.asks flash selected agree writes asks
    have written := whole ok
    have kept : Set.EqOn middle.cell first.cell region := fun place inside =>
      (beside.cell_eq fun same => written ▸ spliceAll_of_outside _ fun write member =>
        apart inside (same.trans selected) write (List.mem_append_left _ member)).trans (agree inside)
    rw [ih others (beside.selected.trans selected) kept rest fun place inside same write member =>
      apart inside same write (List.mem_append_right _ member), written, beside.eq_put written,
      Banks.put_put, spliceAll_append]

end History

/-- **A script of subcommands can be given again.** Where each of them asks for the same writes as long
as what they do not write is kept, and all are done, they leave what they would have left on the first
storages, whatever was tried before them on the places that they write: the same script up to where it
failed, any number of times, or another one. -/
theorem session_rerun (idle : start.Idle) (run : Run script start bus)
    (tries flashing : List (Invocation GptError))
    (plan : Invocation GptError → List (Nat × List UInt8))
    (planned : ∀ invocation ∈ flashing, invocation.Plans crates script.erased script.restarts
      (sparedCells bus.target.flash.selected (flashing.flatMap plan)) bus.target.flash
      (plan invocation))
    (within : ∀ invocation ∈ tries, invocation.Spares crates script.erased script.restarts
      {bus.target.flash.selected} (sparedCells bus.target.flash.selected (flashing.flatMap plan))
      bus.target.flash) :
    Io.After (Bus.answer script) (handleAll crates (tries ++ flashing)) () bus
      fun outcome _ reached => start.Distinct script reached → ∀ outcomes, outcome = .ok outcomes →
        (∀ result ∈ outcomes.drop tries.length, result = .ok .done) →
        reached.target.flash = bus.target.flash.put
          (spliceAll bus.target.flash.current (flashing.flatMap plan)) := by
  refine Io.After.imp (handleAll_history (run.linked idle) (tries ++ flashing)) ?_
  rintro outcome _ reached found distinct outcomes rfl finished
  obtain ⟨_, same, history⟩ := found distinct
  obtain rfl := Except.ok.inj same
  obtain ⟨middle, before, after⟩ := history.append
  obtain ⟨selected, kept⟩ := before.eqOn (Set.mem_singleton _) (Set.eqOn_refl _ _) within
  have selected : middle.selected = bus.target.flash.selected := selected
  -- what the tries may have changed is on the selected storage, where the script writes
  have others (index : UInt8) (other : index ≠ bus.target.flash.selected) :
      middle.stores index = bus.target.flash.stores index :=
    funext fun place => @kept (index, place) fun same => absurd same other
  have current : Set.EqOn middle.current bus.target.flash.current (spared (flashing.flatMap plan)) := by
    intro place inside
    have same := @kept (bus.target.flash.selected, place) fun _ => inside
    unfold Banks.current
    rw [selected]
    exact same
  rw [after.done finished selected kept planned subset_rfl, spliceAll_congr current]
  exact Banks.put_congr selected others _

/-- The second of the commands that an erasure of `65536` sectors takes does not come through. -/
def secondCommandFails : Script :=
  { Script.undisturbed with faults := fun index => if index = 2 then .error .pipe false else .none }

def eraseMany : Invocation Unit := bareInvocation (.lba (.erase ⟨4, 65536⟩) 1)

/-- The erasure stops at its last sector, and is given again. -/
theorem session_rerun_eraseMany :
    ((handleAll plainCrates [eraseMany, eraseMany]).run (Bus.answer secondCommandFails) ()
      (Bus.fresh fun _ => 3)).2.target.disk =
        splice (fun _ => 3) 2048 (List.replicate (512 * 65536) 0) := by
  have few : ((handleAll plainCrates [eraseMany, eraseMany]).run (Bus.answer secondCommandFails) ()
      (Bus.fresh fun _ => 3)).2.draws < 2 ^ 32 := by decide +kernel
  have returned : ((handleAll plainCrates [eraseMany, eraseMany]).run
      (Bus.answer secondCommandFails) () (Bus.fresh fun _ => 3)).1.1.toOption.map
        (List.map Except.toOption) = some [none, some .done] := by decide +kernel
  have law := @session_rerun _ plainCrates secondCommandFails _ _ (Bus.fresh_idle fun _ => 3) .start
    [eraseMany] [eraseMany] (fun _ => [(2048, List.replicate (512 * 65536) 0)])
    (fun invocation member => by
      obtain rfl := List.mem_singleton.mp member
      exact ⟨rfl, fun flash _ _ writes asks => asks⟩)
    (fun invocation member => by
      obtain rfl := List.mem_singleton.mp member
      refine ⟨fun _ _ _ code given => (by cases given),
        fun flash among _ writes asks write member => ?_⟩
      obtain rfl : writes = [(2048, List.replicate (512 * 65536) 0)] := asks
      exact fun place inside => inside among write member)
  unfold Io.After at law
  change _ → _ at law
  rw [List.singleton_append] at law
  generalize (handleAll _ _).run _ _ _ = ran at law returned few ⊢
  obtain ⟨⟨outcome, _⟩, reached⟩ := ran
  cases outcome with
  | error error => cases returned
  | ok outcomes =>
    suffices finished : ∀ result ∈ outcomes.drop 1, result = .ok .done by
      have written := law (Run.distinct_of_counting (fun _ => rfl) few) outcomes rfl finished
      exact (congrArg Banks.current written).trans (Banks.current_put _ _)
    intro result member
    have reported := List.mem_map_of_mem (f := Except.toOption) member
    rw [List.map_drop, Option.some.inj returned] at reported
    cases result with
    | error error => cases List.mem_singleton.mp reported
    | ok report => exact congrArg Except.ok (Option.some.inj (List.mem_singleton.mp reported))

end Rktools

end Rkusb
