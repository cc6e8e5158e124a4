/-
**What the device carries out, against what it was sent.**

Whatever becomes of the transfers, whatever the device refuses and wherever the clock cuts a command
off, no command is carried out twice, out of order or with data other than its own:

* `Attempts.serial`: along any run, the commands the device carried out are some of those issued, in
  their order, each at most once; those that returned `Ok` are all among them; and the storages, with
  the one that is selected, are what these commands make of the first ones, one after another.

`Run.attempts` gives the list of a run, so this holds between any calls of the library. For the calls
themselves, which issue several commands:

* `LibraryCall.storage_history`: any calls in any order, with any outcomes, are operations of flat byte
  storages on which a write or an erasure that fails is torn. They go to the storage that the last
  switch selected.
-/

import Rkusb.Failures

namespace Rkusb

open Interaction Bytes FlatStore

variable {script : Script} {bus : Bus}

/-! ### What was carried out -/

/-- The commands that the device has carried out, oldest first. -/
def Target.carried (target : Target) : List WireCommand :=
  (target.completed.filter fun completion => completion.status = 0).map Completion.command

@[simp] theorem Target.carried_dropReplies (target : Target) (count : Nat) :
    (target.dropReplies count).carried = target.carried := rfl

@[simp] theorem Target.flash_dropReplies (target : Target) (count : Nat) :
    (target.dropReplies count).flash = target.flash := rfl

theorem Target.carried_refuse {status : UInt8} (bad : status ≠ 0) (command : WireCommand)
    (target : Target) : (target.refuse command status).carried = target.carried := by
  unfold carried
  show ((target.completed ++ [Completion.mk command status none]).filter _).map _ = _
  rw [List.filter_append]
  simp [bad]

theorem Target.carried_perform (script : Script) (command : WireCommand) (data : List UInt8)
    (target : Target) :
    (target.perform script command data).carried = target.carried ++ [command] := by
  unfold carried
  show ((target.completed ++ [Completion.mk command 0 _]).filter _).map _ = _
  rw [List.filter_append, List.map_append]
  rfl

@[simp] theorem Target.carried_settled (target : Target) :
    target.settled.carried = target.carried := by
  unfold settled
  split
  · rfl
  · exact carried_refuse (by decide) _ target

/-- The command was carried out with its data, or nothing was. -/
def Target.Served (script : Script) (command : WireCommand) (data : List UInt8)
    (before after : Target) : Prop :=
  after.carried = before.carried ++ [command] ∧
    after.flash = command.effect script.erased script.restarts data before.flash

def Target.Spared (before after : Target) : Prop :=
  after.carried = before.carried ∧ after.flash = before.flash

theorem Target.complete_served (script : Script) (command : WireCommand) (data : List UInt8)
    (target : Target) :
    target.Served script command data (target.complete script command data) ∨
      target.Spared (target.complete script command data) := by
  rcases complete_cases script command data target with performed | ⟨status, bad, refused⟩
  · rw [performed]
    exact .inl ⟨carried_perform script command data target, rfl⟩
  · rw [refused]
    exact .inr ⟨carried_refuse bad command target, rfl⟩

/-- **A transaction has its command carried out once, or not at all**; once, if it returns `Ok`. -/
theorem cbwTransaction_served {cbw : Cbw} {command : WireCommand}
    {dataOut dataIn : Option (List UInt8)} {tags : UInt32 → Prop}
    (stages : Stages cbw command dataOut dataIn) (known : bus.target.Known tags)
    (timeout : Duration) :
    Io.After (Bus.answer script) (cbwTransaction cbw dataOut dataIn timeout) () bus
      fun outcome _ reached =>
        (bus.target.Served script command (dataOut.getD []) reached.target ∨
          bus.target.Spared reached.target) ∧
        (¬ tags cbw.tag → ∀ received, outcome = .ok received →
          bus.target.Served script command (dataOut.getD []) reached.target) := by
  have delivered : ∀ count,
      bus.target.Served script command (dataOut.getD [])
          ((bus.target.afterData script cbw dataOut).dropReplies count) ∨
        bus.target.Spared ((bus.target.afterData script cbw dataOut).dropReplies count) := by
    intro count
    rw [Target.afterData_eq stages known]
    have served := Target.complete_served script command (dataOut.getD []) bus.target.settled
    simpa [Target.Served, Target.Spared] using served
  have commanded : bus.target.Served script command (dataOut.getD [])
        (bus.target.afterCommand script cbw) ∨
      bus.target.Spared (bus.target.afterCommand script cbw) := by
    rw [Target.accept_command script stages known]
    split
    · exact .inr ⟨Target.carried_settled bus.target, Target.settled_flash bus.target⟩
    · rename_i noData
      cases dataOut with
      | some data => exact absurd (stages.out data rfl).1 noData
      | none =>
        have served := Target.complete_served script command [] bus.target.settled
        simpa [Target.Served, Target.Spared] using served
  have moved := @cbwTransaction_target script bus cbw dataOut dataIn timeout
  have some : Io.After (Bus.answer script) (cbwTransaction cbw dataOut dataIn timeout) () bus
      fun _ _ reached => bus.target.Served script command (dataOut.getD []) reached.target ∨
        bus.target.Spared reached.target := by
    refine moved.imp fun outcome own reached inverted => ?_
    cases outcome with
    | ok received =>
      rw [inverted.2.2]
      exact delivered _
    | error error =>
      obtain ⟨count, same | same | same⟩ := inverted
      · rw [same]
        exact .inr ⟨rfl, rfl⟩
      · rw [same]
        exact commanded
      · rw [same]
        exact delivered count
  refine some.and (Io.after_imp.mpr fun fresh => ?_)
  refine (cbwTransaction_ok script bus stages known fresh timeout).imp ?_
  intro outcome own reached answered received ok
  rw [(answered received ok).2.1]
  exact ⟨Target.carried_perform script command (dataOut.getD []) bus.target, rfl⟩

/-! ### The commands of a run -/

/-- A command that was issued, its tag, and whether its transaction returned `Ok`. -/
structure Attempt where
  command : Command
  tag : UInt32
  returned : Bool

/-- The command on the wire. -/
def Attempt.wire (attempt : Attempt) : WireCommand := attempt.command.wire attempt.tag

/-- What the command makes of the storages, with all of its own data. -/
def Attempt.effect (erased : UInt8) (restarts : UInt8 → Flash → UInt8) (flash : Flash)
    (attempt : Attempt) : Flash :=
  attempt.wire.effect erased restarts (attempt.command.dataOut.getD []) flash

/-- A run of library commands from `start`, with the list of the commands issued. -/
inductive Attempts (script : Script) (start : Bus) : List Attempt → Bus → Prop
  | start : Attempts script start [] start
  | now {attempts : List Attempt} {bus : Bus} : Attempts script start attempts bus →
      Attempts script start attempts { bus with ticks := bus.ticks + 1 }
  | command {attempts : List Attempt} {bus : Bus} (command : Command) (timeout : Duration) :
      Attempts script start attempts bus → command.Issued →
      Attempts script start
        (attempts ++ [⟨command, script.tags bus.draws,
          ((command.transact timeout).run (Bus.answer script) () bus).1.1.toBool⟩])
        ((command.transact timeout).run (Bus.answer script) () bus).2

/-- Every run has its list. -/
theorem Run.attempts {start : Bus} (run : Run script start bus) :
    ∃ attempts, Attempts script start attempts bus := by
  induction run with
  | start => exact ⟨[], .start⟩
  | now _ ih =>
    obtain ⟨attempts, so⟩ := ih
    exact ⟨attempts, .now so⟩
  | command command timeout _ issued ih =>
    obtain ⟨attempts, so⟩ := ih
    exact ⟨_, .command command timeout so issued⟩

namespace Attempts

variable {start : Bus} {attempts : List Attempt}

theorem run (so : Attempts script start attempts bus) : Run script start bus := by
  induction so with
  | start => exact .start
  | now _ ih => exact .now ih
  | command command timeout _ issued ih => exact .command command timeout ih issued

/-- **At most once, in order, whole.** Along any run from an idle bus under pairwise distinct tags,
whatever the faults, refusals and timeouts: the commands carried out are a sublist of those issued
with all that returned `Ok` in it, and the storages are theirs, applied one after another. -/
theorem serial (idle : start.Idle) (so : Attempts script start attempts bus)
    (distinct : ∀ first second, start.draws ≤ first → first < second → second < bus.draws →
      script.tags first ≠ script.tags second) :
    ∃ kept : List Attempt, kept.Sublist attempts ∧
      (attempts.filter Attempt.returned).Sublist kept ∧
      bus.target.carried = start.target.carried ++ kept.map Attempt.wire ∧
      bus.target.flash =
        kept.foldl (Attempt.effect script.erased script.restarts) start.target.flash := by
  induction so with
  | start => exact ⟨[], List.Sublist.refl _, List.Sublist.refl _, by simp, rfl⟩
  | now _ ih => exact ih distinct
  | @command attempts bus command timeout so issued ih =>
    have grown : Io.After (Bus.answer script) (command.transact timeout) () bus
        fun _ _ reached => bus.draws < reached.draws := after_transact.mpr
      ((@after_draws script { bus with draws := bus.draws + 1 } _ _ _ _ ()).imp
        fun _ _ _ both => both.1)
    obtain ⟨kept, some, all, carried, flash⟩ := ih fun first second after earlier before =>
      distinct first second after earlier (before.trans grown)
    have tagged := (Cbw.initial_fields command.opcode (script.tags bus.draws)).2.1
    have fresh : ¬ Run.drawn script start bus
        (command.wrap (Cbw.initial command.opcode (script.tags bus.draws))).tag := by
      rintro ⟨index, after, before, same⟩
      exact distinct index bus.draws after before grown (same.trans tagged)
    have known : Target.Known (Run.drawn script start bus) bus.target := so.run.known idle
    have law := after_transact.mpr (@cbwTransaction_served script
      { bus with draws := bus.draws + 1 } _ _ _ _ _ (issued.stages (script.tags bus.draws)) known
      timeout)
    unfold Io.After at law
    obtain ⟨served | spared, answered⟩ := law
    · refine ⟨kept ++ [_], some.append (List.Sublist.refl _), ?_, ?_, ?_⟩
      · rw [List.filter_append]
        exact all.append List.filter_sublist
      · rw [served.1, carried, List.map_append, List.append_assoc]
        rfl
      · rw [List.foldl_append, ← flash]
        exact served.2
    · -- nothing was carried out, so the transaction has not returned `Ok`
      cases outcome : ((command.transact timeout).run (Bus.answer script) () bus).1.1 with
      | ok received =>
        have longer := congrArg List.length
          (spared.1.symm.trans (answered fresh received outcome).1)
        rw [List.length_append, List.length_singleton] at longer
        exact absurd longer (Nat.ne_of_lt (Nat.lt_succ_self _))
      | error error =>
        refine ⟨kept, some.trans (List.sublist_append_left _ _), ?_, spared.1.trans carried,
          spared.2.trans flash⟩
        rw [List.filter_append]
        simpa [Except.toBool] using all

/-- A write whose command stage fails, a switch to the storage 2, and an erasure of the sector there. -/
def failedWrite : List Attempt :=
  [⟨Command.writeLba 8 (List.replicate 512 7) 0, 0, false⟩, ⟨Command.switchStorage 2, 1, true⟩,
    ⟨Command.eraseLba 8 1, 2, true⟩]

/-- The bus behind them. -/
def afterFailedWrite : Bus :=
  (((Command.eraseLba 8 1).transact 1).run (Bus.answer Run.firstFails) ()
    (((Command.switchStorage 2).transact 1).run (Bus.answer Run.firstFails) ()
      (((Command.writeLba 8 (List.replicate 512 7) 0).transact 1).run (Bus.answer Run.firstFails) ()
        (Bus.fresh fun _ => 5)).2).2).2

/-- The last two are carried out, so that the sector is erased on that storage. -/
theorem serial_failedWrite : ∃ kept : List Attempt,
    kept.Sublist failedWrite ∧ kept.length = 2 ∧
    afterFailedWrite.target.flash =
      kept.foldl (Attempt.effect 0 fun _ flash => flash.selected) (.const 0 fun _ => 5) := by
  have first := @Attempts.command Run.firstFails (Bus.fresh fun _ => 5) _ _
    (Command.writeLba 8 (List.replicate 512 7) 0) 1 .start (.writeLba 8 _ 0 (by
      rw [List.length_replicate]
      decide))
  have second := Attempts.command (Command.switchStorage 2) 1 first (.switchStorage 2)
  have third := Attempts.command (Command.eraseLba 8 1) 1 second (.eraseLba 8 1)
  obtain ⟨kept, some, -, carried, flash⟩ := serial (Bus.fresh_idle _) third
    (fun one two from_ earlier below => Run.distinct_of_counting (fun _ => rfl)
      (by decide +kernel) one two from_ earlier below.le)
  refine ⟨kept, some, ?_, flash⟩
  have length := congrArg List.length carried
  rw [List.length_append, List.length_map] at length
  exact (Nat.zero_add kept.length).symm.trans (length.symm.trans (by decide +kernel))

end Attempts

/-! ### The calls of a run -/

namespace LibraryCall

/-- The call on flat storages of which one is selected. One that fails leaves a beginning of its data,
or the first of its sectors erased; a read that returns finds what is stored; and a switch or a reset
that fails may have selected its storage all the same. -/
def Leaves (script : Script) (result : Except RkUsbError (List UInt8)) (flash flash' : Flash) :
    LibraryCall → Prop
  | .writeLba pos data _ _ => ∃ count, count ≤ data.length ∧
      flash' = flash.put (splice flash.current (STORAGE_SECTOR_SIZE * pos.toNat) (data.take count)) ∧
      (result.toBool → count = data.length)
  | .eraseLba pos count _ => ∃ sectors, sectors ≤ count.toNat ∧
      flash' = flash.put (splice flash.current (STORAGE_SECTOR_SIZE * pos.toNat)
        (List.replicate (STORAGE_SECTOR_SIZE * sectors) script.erased)) ∧
      (result.toBool → sectors = count.toNat)
  | .readLba pos buf _ _ => flash' = flash ∧ ∀ bytes, result = .ok bytes →
      bytes = slice flash.current (STORAGE_SECTOR_SIZE * pos.toNat) buf.length
  | .switchStorage storage => flash.Switches storage result.toBool flash'
  | .resetDevice subcode =>
      flash.Switches (script.restarts subcode flash) result.toBool flash'
  | _ => flash' = flash

/-- Calls one after another on flat storages, with their results. -/
inductive History (script : Script) :
    List LibraryCall → List (Except RkUsbError (List UInt8)) → Flash → Flash → Prop
  | nil (flash : Flash) : History script [] [] flash flash
  | cons {call : LibraryCall} {calls : List LibraryCall} {result : Except RkUsbError (List UInt8)}
      {results : List (Except RkUsbError (List UInt8))} {flash middle last : Flash} :
      call.Leaves script result flash middle → History script calls results middle last →
      History script (call :: calls) (result :: results) flash last

/-- The calls one after another, whatever becomes of each. -/
def execAll : List LibraryCall → UsbIo Unit RkUsbError (List (Except RkUsbError (List UInt8)))
  | [] => pure []
  | call :: rest => do
      let result ← Io.attempt call.exec
      let results ← execAll rest
      pure (result :: results)

theorem exec_links (call : LibraryCall) : Links call.exec := by
  cases call with
  | resetDevice subcode => exact (resetDevice_links subcode).bind fun _ => (Runs.pure _).links
  | readCapability timeout => exact (readCapability_runs timeout).links
  | readStorageInfo => exact (readStorageInfo_runs.bind fun _ => .pure _).links
  | readStorage => exact (readStorage_runs.bind fun _ => .pure _).links
  | switchStorage storage => exact (switchStorage_links storage).bind fun _ => (Runs.pure _).links
  | writeLba pos data subcode timeout =>
    exact ((writeLba_runs pos data subcode timeout).bind fun _ => .pure _).links
  | readLba pos buf subcode timeout => exact (readLba_runs pos buf subcode timeout).links
  | eraseLba pos count timeout =>
    exact ((eraseLba_runs pos count timeout).bind fun _ => .pure _).links

/-- A transaction for a command without an effect leaves the storages alone, whatever the pipe. -/
theorem transact_keeps (ready : bus.Ready script) {command : Command} (issued : command.Issued)
    (stays : ¬WireCommand.Selects command.opcode)
    (harmless : ∀ tag data disk, (command.wire tag).stores script.erased data disk = disk)
    (timeout : Duration) :
    Io.After (Bus.answer script) (command.transact timeout) () bus fun _ _ reached =>
      reached.target.flash = bus.target.flash := by
  obtain ⟨tags, known, -⟩ := ready
  refine after_transact.mpr ((cbwTransaction_flash script { bus with draws := bus.draws + 1 }
    (issued.stages (script.tags bus.draws)) known timeout).imp fun outcome own reached moved => ?_)
  rcases moved with same | done
  · exact same
  · rw [done, WireCommand.effect_of_stays _ _ _ _ stays, harmless, Banks.put_current]

/-- **A transaction for a command that selects**, whatever it finds on the bus. -/
theorem transact_switches (ready : bus.Ready script) {command : Command} (issued : command.Issued)
    {code : UInt8} (selects : ∀ tag, (command.wire tag).effect script.erased script.restarts
      (command.dataOut.getD []) bus.target.flash = bus.target.flash.select code) (timeout : Duration) :
    Io.After (Bus.answer script) (command.transact timeout >>= fun _ => pure ()) () bus
      fun outcome _ reached =>
        bus.target.flash.Switches code (outcome = .ok ()) reached.target.flash := by
  obtain ⟨tags, known, fresh⟩ := ready
  have tagged := (Cbw.initial_fields command.opcode (script.tags bus.draws)).2.1
  have stages := issued.stages (script.tags bus.draws)
  have answered := cbwTransaction_ok script { bus with draws := bus.draws + 1 } stages known
    (fun member => fresh (tagged ▸ member)) timeout
  have moved := cbwTransaction_flash script { bus with draws := bus.draws + 1 } stages known timeout
  rw [selects] at moved
  refine Io.After.bind (after_transact.mpr (answered.and moved)) (fun error _ reached both => ?_)
    fun received _ reached both => ?_
  · exact ⟨both.2, fun fails => by cases fails⟩
  · exact ⟨both.2, fun _ => (congrArg Target.flash (both.1 received rfl).2.1).trans (selects _)⟩

theorem switchStorage_switches (ready : bus.Ready script) (storage : UInt8) :
    Io.After (Bus.answer script) (Rkusb.switchStorage storage) () bus fun outcome _ reached =>
      bus.target.flash.Switches storage (outcome = .ok ()) reached.target.flash := by
  rw [switchStorage_eq]
  exact transact_switches ready (.switchStorage storage) (fun _ => rfl) _

theorem resetDevice_switches (ready : bus.Ready script) (subcode : UInt8) :
    Io.After (Bus.answer script) (Rkusb.resetDevice subcode) () bus fun outcome _ reached =>
      bus.target.flash.Switches (script.restarts subcode bus.target.flash)
        (outcome = .ok ()) reached.target.flash := by
  rw [resetDevice_eq]
  exact transact_switches ready (.resetDevice subcode) (fun _ => rfl) _

/-- What is made of an answer on the host leaves the storages as they are. -/
theorem ofExcept_keeps {α β : Type} {first : UsbIo Unit RkUsbError α} (next : α → Except RkUsbError β)
    (same : Io.After (Bus.answer script) first () bus fun _ _ reached =>
      reached.target.flash = bus.target.flash) :
    Io.After (Bus.answer script) (first >>= fun value => Io.ofExcept (next value)) () bus
      fun _ _ reached => reached.target.flash = bus.target.flash :=
  same.bind (fun _ _ _ same => same) fun _ _ _ same => Io.after_ofExcept.mpr same

/-- **One call**, whatever it finds on the bus. -/
theorem exec_leaves (ready : bus.Ready script) (call : LibraryCall) :
    Io.After (Bus.answer script) call.exec () bus fun outcome _ reached =>
      call.Leaves script outcome bus.target.flash reached.target.flash := by
  cases call with
  | resetDevice subcode =>
    exact (resetDevice_switches ready subcode).bind
      (fun _ _ _ switches => switches.mono fun fails => by cases fails)
      fun _ _ _ switches => switches.mono fun _ => rfl
  | readCapability timeout =>
    rw [exec, readCapability_eq]
    exact ofExcept_keeps (fun received => .ok received.2)
      (transact_keeps ready .readCapability (by decide) (fun _ _ _ => rfl) timeout)
  | readStorageInfo =>
    rw [exec, readStorageInfo_eq]
    exact ofExcept_keeps (fun _ => .ok []) (ofExcept_keeps flashInfoOf
      (transact_keeps ready .readStorageInfo (by decide) (fun _ _ _ => rfl) _))
  | readStorage =>
    rw [exec, readStorage_eq, bind_assoc]
    exact ofExcept_keeps (fun _ => .ok [])
      (transact_keeps ready .readStorage (by decide) (fun _ _ _ => rfl) _)
  | switchStorage storage =>
    exact (switchStorage_switches ready storage).bind
      (fun _ _ _ switches => switches.mono fun fails => by cases fails)
      fun _ _ _ switches => switches.mono fun _ => rfl
  | writeLba pos data subcode timeout =>
    refine ((writeLba_runs pos data subcode timeout).and_beside ready
      (writeLba_leaves ready pos data subcode timeout)).bind
      (fun error own reached both => ?_) fun _ own reached both => ?_
    · obtain ⟨⟨count, most, disk, -⟩, beside⟩ := both
      exact ⟨count, most, beside.eq_put disk, fun fails => by cases fails⟩
    · obtain ⟨⟨count, most, disk, whole⟩, beside⟩ := both
      exact ⟨count, most, beside.eq_put disk, fun _ => whole rfl⟩
  | eraseLba pos count timeout =>
    refine ((eraseLba_runs pos count timeout).and_beside ready
      (eraseLba_leaves ready pos count timeout)).bind
      (fun error own reached both => ?_) fun _ own reached both => ?_
    · obtain ⟨⟨sectors, most, disk, -⟩, beside⟩ := both
      exact ⟨sectors, most, beside.eq_put disk, fun fails => by cases fails⟩
    · obtain ⟨⟨sectors, most, disk, whole⟩, beside⟩ := both
      exact ⟨sectors, most, beside.eq_put disk, fun _ => whole rfl⟩
  | readLba pos buf subcode timeout =>
    refine ((readLba_runs pos buf subcode timeout).and_beside ready
      (readLba_leaves ready pos buf subcode timeout)).imp ?_
    intro outcome own reached both
    exact ⟨both.2.eq both.1.1, both.1.2⟩

/-- What no write or erasure of the list covers. -/
def Outside (address : Nat) : LibraryCall → Prop
  | .writeLba pos data _ _ => ¬ (STORAGE_SECTOR_SIZE * pos.toNat ≤ address ∧
      address < STORAGE_SECTOR_SIZE * pos.toNat + data.length)
  | .eraseLba pos count _ => ¬ (STORAGE_SECTOR_SIZE * pos.toNat ≤ address ∧
      address < STORAGE_SECTOR_SIZE * (pos.toNat + count.toNat))
  | _ => True

/-- The call may select the storage. -/
def MaySelect (script : Script) (flash : Flash) (storage : UInt8) : LibraryCall → Prop
  | .switchStorage code => code = storage
  | .resetDevice subcode => script.restarts subcode flash = storage
  | _ => False

/-- A place of the storages is not reached: no write or erasure covers its address, or its storage is
not the one that is selected and is never switched to. -/
def Unreached (script : Script) (calls : List LibraryCall) (flash : Flash) (storage : UInt8)
    (address : Nat) : Prop :=
  (∀ call ∈ calls, call.Outside address) ∨ storage ≠ flash.selected ∧
    ∀ call ∈ calls, ∀ other : Flash, other.selected ≠ storage → ¬call.MaySelect script other storage

/-- A call keeps what it does not cover, on every storage, and every storage that is not selected. -/
theorem Leaves.kept {call : LibraryCall} {result : Except RkUsbError (List UInt8)}
    {flash flash' : Flash} (leaves : call.Leaves script result flash flash') {storage : UInt8}
    {address : Nat} (apart : call.Outside address ∨ storage ≠ flash.selected) :
    flash'.stores storage address = flash.stores storage address := by
  have put {disk : Nat → UInt8} (same : call.Outside address →
      disk address = flash.current address) :
      (flash.put disk).stores storage address = flash.stores storage address := by
    by_cases other : storage = flash.selected
    · subst other
      exact (congrFun (flash.current_put disk) address).trans
        (same (apart.resolve_right (not_not.mpr rfl)))
    · exact congrFun (flash.stores_put_of_ne disk other) address
  cases call with
  | writeLba pos data subcode timeout =>
    obtain ⟨count, most, rfl, -⟩ := leaves
    refine put fun outside => splice_of_outside _ _ _ fun inside => outside ⟨inside.1, ?_⟩
    rw [List.length_take, Nat.min_eq_left most] at inside
    omega
  | eraseLba pos count timeout =>
    obtain ⟨sectors, most, rfl, -⟩ := leaves
    refine put fun outside => splice_of_outside _ _ _ fun inside => outside ⟨inside.1, ?_⟩
    rw [List.length_replicate] at inside
    have further := Nat.mul_le_mul_left STORAGE_SECTOR_SIZE most
    rw [Nat.mul_add]
    omega
  | readLba pos buf subcode timeout => rw [leaves.1]
  | switchStorage code => exact congrFun (congrFun leaves.stores storage) address
  | resetDevice subcode => exact congrFun (congrFun leaves.stores storage) address
  | readCapability | readStorageInfo | readStorage =>
    exact congrFun (congrFun (congrArg Banks.stores leaves) storage) address

/-- Only a switch or a reset selects. -/
theorem Leaves.selected {call : LibraryCall} {result : Except RkUsbError (List UInt8)}
    {flash flash' : Flash} (leaves : call.Leaves script result flash flash') :
    flash'.selected = flash.selected ∨ call.MaySelect script flash flash'.selected := by
  cases call with
  | writeLba pos data subcode timeout =>
    obtain ⟨count, -, rfl, -⟩ := leaves
    exact .inl rfl
  | eraseLba pos count timeout =>
    obtain ⟨sectors, -, rfl, -⟩ := leaves
    exact .inl rfl
  | readLba pos buf subcode timeout => exact .inl (congrArg Banks.selected leaves.1)
  | switchStorage code => exact (Banks.Switches.selected leaves).imp_right Eq.symm
  | resetDevice subcode => exact (Banks.Switches.selected leaves).imp_right Eq.symm
  | readCapability | readStorageInfo | readStorage => exact .inl (congrArg Banks.selected leaves)

theorem History.kept {calls : List LibraryCall}
    {results : List (Except RkUsbError (List UInt8))} {flash last : Flash}
    (history : History script calls results flash last) {storage : UInt8} {address : Nat}
    (unreached : Unreached script calls flash storage address) :
    last.stores storage address = flash.stores storage address := by
  induction history with
  | nil => rfl
  | @cons call calls result results flash middle last leaves _ ih =>
    rcases unreached with outside | ⟨other, never⟩
    · obtain ⟨here, later⟩ := List.forall_mem_cons.mp outside
      exact (ih (.inl later)).trans (leaves.kept (.inl here))
    · obtain ⟨here, later⟩ := List.forall_mem_cons.mp never
      refine (ih (.inr ⟨fun same => ?_, later⟩)).trans (leaves.kept (.inr other))
      rcases leaves.selected with stays | switched
      · exact other (same.trans stays)
      · exact here _ (Ne.symm other) (same ▸ switched)

theorem execAll_history {start : Bus} (linked : Linked script start bus) (calls : List LibraryCall) :
    AfterDistinct script start (execAll calls) () bus fun outcome _ reached =>
      ∃ results, outcome = .ok results ∧
        History script calls results bus.target.flash reached.target.flash := by
  induction calls generalizing bus with
  | nil => exact .pure ⟨[], rfl, .nil _⟩
  | cons call rest ih =>
    refine AfterDistinct.attempt_bind (exec_links call) linked
      (.of_ready linked fun ready => exec_leaves ready call) fun result _ middle later leaves => ?_
    refine Io.after_bind.mpr (Io.After.imp (ih later) fun outcome _ reached history => ?_)
    cases outcome with
    | error error =>
      intro distinct
      obtain ⟨results, fails, -⟩ := history distinct
      cases fails
    | ok results =>
      intro distinct
      obtain ⟨results, same, history⟩ := history distinct
      cases same
      exact ⟨_, rfl, .cons leaves history⟩

/-- **Any calls are operations of flat byte storages with torn writes**, whatever their order, their
outcomes and what happened before: each call does what it says on what the one before left, on the
storage that is selected; one that fails does a beginning of it; and a byte that is not reached is never
changed. -/
theorem storage_history {start : Bus} (idle : start.Idle) (run : Run script start bus)
    (calls : List LibraryCall) :
    Io.After (Bus.answer script) (execAll calls) () bus fun outcome _ reached =>
      start.Distinct script reached → ∃ results, outcome = .ok results ∧
        History script calls results bus.target.flash reached.target.flash ∧
        ∀ storage address, Unreached script calls bus.target.flash storage address →
          reached.target.flash.stores storage address =
            bus.target.flash.stores storage address := by
  refine (execAll_history (run.linked idle) calls).imp fun outcome own reached holds => ?_
  obtain ⟨results, ok, history⟩ := holds
  exact ⟨results, ok, history, fun storage address unreached => history.kept unreached⟩

/-- A write whose command stage fails, and an erasure and a read on another storage. -/
def tornCalls : List LibraryCall :=
  [.writeLba 1 [7, 8] 0 1, .switchStorage 2, .eraseLba 2 1 1, .readLba 1 [0, 0] 0 1]

theorem storage_history_tornCalls : ∃ results,
    ((execAll tornCalls).run (Bus.answer Run.firstFails) () (Bus.fresh fun _ => 5)).1.1 =
      .ok results ∧
    History Run.firstFails tornCalls results (.const 0 fun _ => 5)
      ((execAll tornCalls).run (Bus.answer Run.firstFails) () (Bus.fresh fun _ => 5)).2.target.flash ∧
    ∀ address, ((execAll tornCalls).run (Bus.answer Run.firstFails) ()
      (Bus.fresh fun _ => 5)).2.target.flash.stores 1 address = 5 := by
  have draws : ((execAll tornCalls).run (Bus.answer Run.firstFails) ()
      (Bus.fresh fun _ => 5)).2.draws = 4 := by decide +kernel
  have law := @storage_history Run.firstFails _ _ (Bus.fresh_idle fun _ => 5) .start tornCalls
  unfold Io.After at law
  obtain ⟨results, ok, history, kept⟩ := law (Run.distinct_of_counting (fun _ => rfl)
    (draws ▸ by decide))
  refine ⟨results, ok, history, fun address => kept 1 address (.inr ⟨?_, ?_⟩)⟩
  · show (1 : UInt8) ≠ 0
    decide
  · simp [tornCalls, MaySelect]

end LibraryCall

end Rkusb
