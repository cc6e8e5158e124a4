/-
**The `lba` commands** (`bin/rktools/subcommands/lba.rs`).

Sectors are read to a file, written from a file, or erased. The files of the host are the local state
of the commands; which file a path leads to, and what a file call returns, are parameters.

* `LbaCommand.execAll_refines`: commands that return `Ok`, one after another, are the steps of a
  machine that has a flat storage and files and nothing else.
* `LbaCommand.backup_restores`: sectors that were read to a file, and are written back from it after
  any other commands, are what they were.
-/

import Rkusb.BlockDevice
import Rkusb.Interrupted

namespace Rkusb

open Interaction Bytes FlatStore

namespace LbaCommand

/-- The files of the host, each under the one name that stands for it. -/
abbrev FileStore := String → Option (List UInt8)

/-- A file gets the contents. -/
def FileStore.put (name : String) (contents : List UInt8) (files : FileStore) : FileStore :=
  fun other => if other = name then some contents else files other

/-- Which files the calls are about, and what they return. Any of them may fail. -/
structure FileCalls where
  /-- The name that stands for the file a path leads to, over whatever dots and links. -/
  resolve : String → String
  /-- The error of `File::open` where there is no file. -/
  notFound : IoError
  openInput : String → Except IoError Unit
  mapInput : Except IoError Unit
  /-- `OpenOptions::open`, which creates or empties the file. -/
  openOutput : String → Except IoError Unit
  setLen : Nat → Except IoError Unit
  mapOutput : Except IoError Unit
  flush : Except IoError Unit

structure ReadArgs where
  beginSector : UInt32
  sectorCount : UInt32
  path : String
  subcode : UInt8 := 0

structure WriteArgs where
  beginSector : UInt32
  path : String
  subcode : UInt8 := 0

structure EraseArgs where
  beginSector : UInt32
  sectorCount : UInt32

inductive Command
  | read (args : ReadArgs)
  | write (args : WriteArgs)
  | erase (args : EraseArgs)

/-- What is boxed as an error. -/
inductive Error
  | io (error : IoError)
  | rkUsb (error : RkUsbError)
  deriving DecidableEq

section Exec

variable (calls : FileCalls)

/-- Read sectors to a file. The file is mapped; what a failed read has left in it is not modelled. -/
def execRead (args : ReadArgs) (timeout : Duration) : UsbIo FileStore Error Unit := do
  let outputBytes := args.sectorCount.toNat * STORAGE_SECTOR_SIZE
  .ofExcept ((calls.openOutput args.path).mapError .io)
  Io.modify (FileStore.put (calls.resolve args.path) [])
  .ofExcept ((calls.setLen outputBytes).mapError .io)
  Io.modify (FileStore.put (calls.resolve args.path) (List.replicate outputBytes 0))
  .ofExcept (calls.mapOutput.mapError .io)
  let mmap ← Io.mapErr .rkUsb (Io.lift
    (readLba args.beginSector (List.replicate outputBytes 0) args.subcode timeout))
  Io.modify (FileStore.put (calls.resolve args.path) mmap)
  .ofExcept (calls.flush.mapError .io)

/-- `File::open` and the map of the whole file. -/
def openMapped (path : String) : UsbIo FileStore Error (List UInt8) := do
  let files ← Io.get
  match files (calls.resolve path) with
  | none => .throw (.io calls.notFound)
  | some contents => do
      .ofExcept ((calls.openInput path).mapError .io)
      .ofExcept (calls.mapInput.mapError .io)
      pure contents

/-- Write a file to sectors. -/
def execWrite (args : WriteArgs) (timeout : Duration) : UsbIo FileStore Error Unit := do
  let mmap ← openMapped calls args.path
  Io.mapErr .rkUsb (Io.lift (writeLba args.beginSector mmap args.subcode timeout))

/-- Erase sectors. -/
def execErase (args : EraseArgs) (timeout : Duration) : UsbIo FileStore Error Unit :=
  Io.mapErr .rkUsb (Io.lift (eraseLba args.beginSector args.sectorCount timeout))

/-- `lba::exec` on an open device. -/
def exec (command : Command) (timeout : Duration) : UsbIo FileStore Error Unit :=
  match command with
  | .read subArgs => execRead calls subArgs timeout
  | .write subArgs => execWrite calls subArgs timeout
  | .erase subArgs => execErase subArgs timeout

/-- Commands one after another, as long as they succeed. -/
def execAll : List (Command × Duration) → UsbIo FileStore Error Unit
  | [] => pure ()
  | (command, timeout) :: rest => do
      exec calls command timeout
      execAll rest

end Exec

/-! ### What the commands are for -/

/-- A storage and files. -/
@[ext] structure Machine where
  disk : Nat → UInt8
  files : FileStore

/-- A command as its user means it. -/
def Command.step (resolve : String → String) (erased : UInt8) (machine : Machine) : Command → Machine
  | .read args => { machine with
      files := machine.files.put (resolve args.path) (slice machine.disk
        (STORAGE_SECTOR_SIZE * args.beginSector.toNat)
        (STORAGE_SECTOR_SIZE * args.sectorCount.toNat)) }
  | .write args => { machine with
      disk := splice machine.disk (STORAGE_SECTOR_SIZE * args.beginSector.toNat)
        ((machine.files (resolve args.path)).getD []) }
  | .erase args => { machine with
      disk := splice machine.disk (STORAGE_SECTOR_SIZE * args.beginSector.toNat)
        (List.replicate (STORAGE_SECTOR_SIZE * args.sectorCount.toNat) erased) }

/-- Commands one after another. -/
def Machine.steps (resolve : String → String) (erased : UInt8) (machine : Machine)
    (commands : List (Command × Duration)) : Machine :=
  commands.foldl (fun machine command => command.1.step resolve erased machine) machine

/-! ### The commands do what they are for -/

variable {script : Script} {bus : Bus} {calls : FileCalls} {files : FileStore}

theorem eraseLba_erases (ready : bus.Ready script) (pos count : UInt32) (timeout : Duration) :
    Io.After (Bus.answer script) (eraseLba pos count timeout) () bus
      fun outcome _ reached => ∀ value, outcome = .ok value → reached.Ready script ∧
        reached.target.disk = splice bus.target.disk (STORAGE_SECTOR_SIZE * pos.toNat)
          (List.replicate (STORAGE_SECTOR_SIZE * count.toNat) script.erased) := by
  by_cases none : count = 0
  · rw [eraseLba, if_pos none, none]
    exact fun _ _ => ⟨ready, (splice_nil _ _).symm⟩
  · have starts : StartsIdle (eraseLba pos count timeout) :=
      FailsUnlessIdle.startsIdle fun _ => eraseLba_failsUnlessIdle pos none timeout
    refine starts.of_idle ready fun idle => ?_
    refine (eraseLba_effect idle pos count timeout).imp ?_
    intro outcome own reached wiped
    rintro value rfl
    exact ⟨wiped.wiped.2.ready, wiped.wiped.1⟩

theorem exec_runs (command : Command) (timeout : Duration) : Runs (exec calls command timeout) := by
  cases command with
  | read args =>
    refine (Runs.ofExcept _).bind fun _ => (Runs.modify _).bind fun _ => (Runs.ofExcept _).bind fun _ =>
      (Runs.modify _).bind fun _ => (Runs.ofExcept _).bind fun _ => ?_
    refine (readLba_runs args.beginSector _ _ timeout).lift.mapErr.bind fun mmap => ?_
    exact (Runs.modify _).bind fun _ => .ofExcept _
  | write args =>
    refine Runs.bind (Runs.get.bind fun files => ?_) fun mmap =>
      (writeLba_runs args.beginSector mmap _ timeout).lift.mapErr
    cases files (calls.resolve args.path) with
    | none => exact .throw _
    | some contents =>
      exact (Runs.ofExcept _).bind fun _ => (Runs.ofExcept _).bind fun _ => .pure _
  | erase args => exact (eraseLba_runs _ _ _).lift.mapErr

/-- A command that returns `Ok` has made its step. -/
def Stepped (calls : FileCalls) (script : Script) (machine : Machine) (command : Command)
    (outcome : Except Error Unit) (files' : FileStore) (reached : Bus) : Prop :=
  outcome = .ok () → reached.Ready script ∧
    Machine.mk reached.target.disk files' = command.step calls.resolve script.erased machine

theorem execRead_stepped (ready : bus.Ready script) (args : ReadArgs) (timeout : Duration) :
    Io.After (Bus.answer script) (execRead calls args timeout) files bus
      (Stepped calls script ⟨bus.target.disk, files⟩ (.read args)) := by
  unfold execRead
  refine .ofExcept_bind (fun error fails => by cases fails) fun _ _ => ?_
  refine Io.after_modify_bind.mpr ?_
  refine .ofExcept_bind (fun error fails => by cases fails) fun _ _ => ?_
  refine Io.after_modify_bind.mpr ?_
  refine .ofExcept_bind (fun error fails => by cases fails) fun _ _ => ?_
  refine Io.after_bind.mpr (Io.after_mapErr.mpr (Io.after_lift.mpr
    ((readLba_reads ready _ _ _ _).imp fun outcome _ reached found => ?_)))
  cases outcome with
  | error error => exact fun fails => by cases fails
  | ok mmap =>
    obtain ⟨left, disk, rfl⟩ := found mmap rfl
    refine Io.after_modify_bind.mpr (Io.after_ofExcept.mpr fun _ => ⟨left, ?_⟩)
    -- the file is created, extended and filled: only the last contents stay
    apply Machine.ext disk
    funext name
    by_cases same : name = calls.resolve args.path
    · simp [FileStore.put, Command.step, same, Nat.mul_comm]
    · simp [FileStore.put, Command.step, same]

theorem execWrite_stepped (ready : bus.Ready script) (args : WriteArgs) (timeout : Duration) :
    Io.After (Bus.answer script) (execWrite calls args timeout) files bus
      (Stepped calls script ⟨bus.target.disk, files⟩ (.write args)) := by
  unfold execWrite openMapped
  rw [bind_assoc]
  refine Io.after_get_bind.mpr ?_
  cases stored : files (calls.resolve args.path) with
  | none => exact fun fails => by cases fails
  | some contents =>
    dsimp only
    rw [bind_assoc]
    refine .ofExcept_bind (fun error fails => by cases fails) fun _ _ => ?_
    rw [bind_assoc]
    refine .ofExcept_bind (fun error fails => by cases fails) fun _ _ => ?_
    rw [pure_bind]
    refine Io.after_mapErr.mpr (Io.after_lift.mpr ((writeLba_stores ready _ _ _ _).imp
      fun outcome _ reached wrote ok => ?_))
    obtain ⟨left, disk⟩ := wrote () (mapError_eq_ok_iff.mp ok)
    exact ⟨left, by simp [Command.step, stored, disk]⟩

theorem execErase_stepped (ready : bus.Ready script) (args : EraseArgs) (timeout : Duration) :
    Io.After (Bus.answer script) (execErase args timeout) files bus
      (Stepped calls script ⟨bus.target.disk, files⟩ (.erase args)) := by
  refine Io.after_mapErr.mpr (Io.after_lift.mpr ((eraseLba_erases ready _ _ _).imp
    fun outcome _ reached wiped ok => ?_))
  obtain ⟨left, disk⟩ := wiped () (mapError_eq_ok_iff.mp ok)
  exact ⟨left, by simp [Command.step, disk]⟩

/-- **One command.** -/
theorem exec_stepped (ready : bus.Ready script) (command : Command) (timeout : Duration) :
    Io.After (Bus.answer script) (exec calls command timeout) files bus
      (Stepped calls script ⟨bus.target.disk, files⟩ command) := by
  cases command with
  | read args => exact execRead_stepped ready args timeout
  | write args => exact execWrite_stepped ready args timeout
  | erase args => exact execErase_stepped ready args timeout

theorem execAll_steps (ready : bus.Ready script) (commands : List (Command × Duration)) :
    Io.After (Bus.answer script) (execAll calls commands) files bus
      fun outcome files' reached => outcome = .ok () →
        Machine.mk reached.target.disk files' =
          Machine.steps calls.resolve script.erased ⟨bus.target.disk, files⟩ commands := by
  induction commands generalizing bus files with
  | nil => exact fun _ => rfl
  | cons head rest ih =>
    obtain ⟨command, timeout⟩ := head
    refine (exec_stepped ready command timeout).bind (fun error files' reached _ fails => ?_)
      fun _ files' middle stepped => ?_
    · cases fails
    obtain ⟨left, same⟩ := stepped rfl
    refine (ih left).imp fun outcome files'' reached steps ok => ?_
    rw [steps ok, same]
    rfl

/-- **The commands are what they are for.** At every point of every run of commands at which the next
tag is a new one: any of the commands that return `Ok`, one after another, leave the storage and the
files as their steps on a flat storage do. -/
theorem execAll_refines {start : Bus} (idle : start.Idle) (run : Run script start bus)
    (fresh : ¬Run.drawn script start bus (script.tags bus.draws))
    (commands : List (Command × Duration)) :
    Io.After (Bus.answer script) (execAll calls commands) files bus
      fun outcome files' reached => outcome = .ok () →
        Machine.mk reached.target.disk files' =
          Machine.steps calls.resolve script.erased ⟨bus.target.disk, files⟩ commands :=
  execAll_steps (run.ready idle fresh) commands

/-- File calls that do not fail, in a directory where a file is called by two paths. -/
def calmCalls : FileCalls where
  resolve path := if path = "./sector" then "sector" else path
  notFound := .new .invalidInput "not found"
  openInput _ := .ok ()
  mapInput := .ok ()
  openOutput _ := .ok ()
  setLen _ := .ok ()
  mapOutput := .ok ()
  flush := .ok ()

/-- Nothing was drawn on a device that was just opened. -/
theorem fresh_start (script : Script) (disk : Nat → UInt8) : ¬Run.drawn script (Bus.fresh disk)
    (Bus.fresh disk) (script.tags (Bus.fresh disk).draws) :=
  fun ⟨_, from_, below, _⟩ => absurd below (Nat.not_lt_of_le from_)

/-- A sector is copied to another place. -/
def copySector : List (Command × Duration) :=
  [(.read ⟨1, 1, "sector", 0⟩, 1), (.write ⟨5, "./sector", 0⟩, 1)]

theorem execAll_refines_copySector :
    ((execAll calmCalls copySector).run (Bus.answer Script.undisturbed) (fun _ => none)
        (Bus.fresh fun address => UInt8.ofNat address)).2.target.disk =
      splice (fun address => UInt8.ofNat address) 2560
        (slice (fun address => UInt8.ofNat address) 512 512) := by
  have returned : ((execAll calmCalls copySector).run (Bus.answer Script.undisturbed)
      (fun _ => none) (Bus.fresh fun address => UInt8.ofNat address)).1.1.toBool = true := by
    decide +kernel
  have law := @execAll_refines Script.undisturbed _ calmCalls (fun _ => none) _
    (Bus.fresh_idle fun address => UInt8.ofNat address) .start (fresh_start _ _) copySector
  unfold Io.After at law
  generalize (execAll calmCalls copySector).run _ _ _ = ran at law returned ⊢
  obtain ⟨⟨_ | _, files'⟩, reached⟩ := ran
  · cases returned
  have disk := congrArg Machine.disk (law rfl)
  simpa [copySector, calmCalls, Machine.steps, Command.step, FileStore.put, STORAGE_SECTOR_SIZE,
    Bus.fresh, Target.disk] using disk

/-! ### A backup -/

/-- The command does not write to the file, whatever path it is given. -/
def Command.Spares (resolve : String → String) (name : String) : Command → Prop
  | .read args => resolve args.path ≠ name
  | _ => True

theorem Machine.steps_files {resolve : String → String} {erased : UInt8} {name : String}
    (machine : Machine) {commands : List (Command × Duration)}
    (spares : ∀ command ∈ commands, command.1.Spares resolve name) :
    (machine.steps resolve erased commands).files name = machine.files name := by
  induction commands generalizing machine with
  | nil => rfl
  | cons head rest ih =>
    refine (ih _ fun command member => spares command (List.mem_cons_of_mem _ member)).trans ?_
    have spared := spares head List.mem_cons_self
    obtain ⟨command, timeout⟩ := head
    cases command with
    | read args => exact if_neg (Ne.symm spared)
    | write args => rfl
    | erase args => rfl

/-- **A backup can be restored.** Sectors are read to a file; any commands follow that do not write to
this file under any of its paths, whatever they do to the storage; the file is written back to the
same sectors. When all of this returns `Ok`, the sectors are what they were at first, and every other
byte is as the commands in between left it. -/
theorem backup_restores {start : Bus} (idle : start.Idle) (run : Run script start bus)
    (fresh : ¬Run.drawn script start bus (script.tags bus.draws)) (backup : ReadArgs)
    (restore : WriteArgs) (sameFile : calls.resolve restore.path = calls.resolve backup.path)
    (samePlace : restore.beginSector = backup.beginSector) {between : List (Command × Duration)}
    (spares : ∀ command ∈ between, command.1.Spares calls.resolve (calls.resolve backup.path))
    (first last : Duration) :
    Io.After (Bus.answer script)
      (execAll calls ((.read backup, first) :: (between ++ [(.write restore, last)]))) files bus
      fun outcome _ reached => outcome = .ok () →
        let place := STORAGE_SECTOR_SIZE * backup.beginSector.toNat
        let length := STORAGE_SECTOR_SIZE * backup.sectorCount.toNat
        slice reached.target.disk place length = slice bus.target.disk place length ∧
        ∀ address, ¬(place ≤ address ∧ address < place + length) →
          reached.target.disk address = (Machine.steps calls.resolve script.erased
            (Command.step calls.resolve script.erased ⟨bus.target.disk, files⟩ (.read backup))
              between).disk address := by
  refine (execAll_steps (run.ready idle fresh) _).imp fun outcome files' reached steps ok => ?_
  have disk := congrArg Machine.disk (steps ok)
  unfold Machine.steps at disk
  rw [List.foldl_cons, List.foldl_append] at disk
  have kept := @Machine.steps_files calls.resolve script.erased (calls.resolve backup.path)
    (Command.step calls.resolve script.erased ⟨bus.target.disk, files⟩ (.read backup)) between spares
  have saved : (Command.step calls.resolve script.erased ⟨bus.target.disk, files⟩
      (.read backup)).files (calls.resolve backup.path) =
        some (slice bus.target.disk (STORAGE_SECTOR_SIZE * backup.beginSector.toNat)
          (STORAGE_SECTOR_SIZE * backup.sectorCount.toNat)) := if_pos rfl
  have restored : reached.target.disk = splice
      (Machine.steps calls.resolve script.erased
        (Command.step calls.resolve script.erased ⟨bus.target.disk, files⟩ (.read backup))
          between).disk
      (STORAGE_SECTOR_SIZE * backup.beginSector.toNat)
      (slice bus.target.disk (STORAGE_SECTOR_SIZE * backup.beginSector.toNat)
        (STORAGE_SECTOR_SIZE * backup.sectorCount.toNat)) := by
    rw [saved] at kept
    refine disk.trans ?_
    show splice _ _ ((Machine.files _ (calls.resolve restore.path)).getD []) = _
    rw [sameFile, samePlace]
    exact congrArg (fun contents => splice _ _ (Option.getD contents [])) kept
  rw [restored]
  refine ⟨?_, fun address outside => ?_⟩
  · have found := slice_splice_self (Machine.steps calls.resolve script.erased
      (Command.step calls.resolve script.erased ⟨bus.target.disk, files⟩ (.read backup)) between).disk
      (STORAGE_SECTOR_SIZE * backup.beginSector.toNat)
      (slice bus.target.disk (STORAGE_SECTOR_SIZE * backup.beginSector.toNat)
        (STORAGE_SECTOR_SIZE * backup.sectorCount.toNat))
    rwa [length_slice] at found
  · exact splice_of_outside _ _ _ (by rwa [length_slice])

/-- A sector is saved, another one is read to another file, and the first is erased and restored from
its file under another path. -/
theorem backup_restores_erased :
    slice ((execAll calmCalls [(.read ⟨1, 1, "sector", 0⟩, 1), (.read ⟨7, 1, "other", 0⟩, 1),
        (.erase ⟨0, 2⟩, 1), (.write ⟨1, "./sector", 0⟩, 1)]).run (Bus.answer Script.undisturbed)
        (fun _ => none) (Bus.fresh fun address => UInt8.ofNat address)).2.target.disk 512 512 =
      slice (fun address => UInt8.ofNat address) 512 512 := by
  have returned : ((execAll calmCalls [(.read ⟨1, 1, "sector", 0⟩, 1),
      (.read ⟨7, 1, "other", 0⟩, 1), (.erase ⟨0, 2⟩, 1), (.write ⟨1, "./sector", 0⟩, 1)]).run
      (Bus.answer Script.undisturbed) (fun _ => none)
      (Bus.fresh fun address => UInt8.ofNat address)).1.1.toBool = true := by decide +kernel
  have law := @backup_restores Script.undisturbed _ calmCalls (fun _ => none) _
    (Bus.fresh_idle fun address => UInt8.ofNat address) .start (fresh_start _ _)
    ⟨1, 1, "sector", 0⟩ ⟨1, "./sector", 0⟩ (by decide +kernel) rfl
    [(.read ⟨7, 1, "other", 0⟩, 1), (.erase ⟨0, 2⟩, 1)] (List.forall_mem_cons.mpr
      ⟨(by decide +kernel : calmCalls.resolve "other" ≠ calmCalls.resolve "sector"),
        List.forall_mem_singleton.mpr trivial⟩) 1 1
  unfold Io.After at law
  rw [List.cons_append, List.singleton_append] at law
  generalize (execAll _ _).run _ _ _ = ran at law returned ⊢
  obtain ⟨⟨_ | _, files'⟩, reached⟩ := ran
  · cases returned
  exact (law rfl).1

end LbaCommand

end Rkusb
