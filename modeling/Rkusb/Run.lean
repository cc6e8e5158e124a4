/-
**Runs of commands on one device.**

`Run` is any run of the library's commands, each with any outcome: the replies of a failed one may
stay on the pipe.

* `Run.transact_ok`: along a run every reply on the pipe carries the tag of an earlier command
  (`Run.known`), so under distinct tags a transaction that returns `Ok` was answered by the device
  for this very command.
* `Linked`: what is left on the bus is of commands since a state. Host code that issues commands of the
  library only keeps it so (`Links`).
* `Runs` holds of host code that moves the bus along such runs only and does not select a storage.
  Every function of the library but `switchStorage` does (`writeLba_runs`, `readLba_runs`,
  `eraseLba_runs` and their siblings), so what holds along a run holds between any calls of them.
-/

import Rkusb.Command

namespace Rkusb

open Interaction Bytes FlatStore

variable {script : Script} {bus : Bus}

/-! ### Runs -/

theorem after_transact {command : Command} {timeout : Duration}
    {post : Except RkUsbError (Nat × List UInt8) → Unit → Bus → Prop} :
    Io.After (Bus.answer script) (command.transact timeout) () bus post ↔
      Io.After (Bus.answer script) (cbwTransaction
          (command.wrap (Cbw.initial command.opcode (script.tags bus.draws))) command.dataOut
          command.dataIn timeout) () { bus with draws := bus.draws + 1 } post := by
  unfold Command.transact
  rw [Cbw.withOpcode_bind]
  exact Io.after_bind

/-- No run takes back a draw or a reading of the clock. -/
theorem after_draws {δ ε α : Type} (computation : UsbIo δ ε α) (own : δ) :
    Io.After (Bus.answer script) computation own bus fun _ _ reached =>
      bus.draws ≤ reached.draws ∧ bus.ticks ≤ reached.ticks := by
  refine Io.after_related (fun before after : Bus =>
      before.draws ≤ after.draws ∧ before.ticks ≤ after.ticks) (fun bus => ⟨le_rfl, le_rfl⟩)
    (fun first middle last one two => ⟨one.1.trans two.1, one.2.trans two.2⟩)
    (fun request bus => ?_) computation own bus
  cases request with
  | now => exact ⟨le_rfl, Nat.le_succ _⟩
  | random => exact ⟨Nat.le_succ _, le_rfl⟩
  | writeBulk bytes timeout => exact ⟨le_rfl, le_rfl⟩
  | readBulk capacity timeout => exact ⟨le_rfl, le_rfl⟩
  | writeControl => exact ⟨le_rfl, le_rfl⟩

/-- A run of library commands on one device, from `start`. Between two commands the host may read
the clock; a command may have any outcome. -/
inductive Run (script : Script) (start : Bus) : Bus → Prop
  | start : Run script start start
  | now {bus : Bus} : Run script start bus →
      Run script start { bus with ticks := bus.ticks + 1 }
  | command {bus : Bus} (command : Command) (timeout : Duration) :
      Run script start bus → command.Issued →
      Run script start ((command.transact timeout).run (Bus.answer script) () bus).2

namespace Run

variable {start : Bus}

/-- The tags drawn since `start`. -/
def drawn (script : Script) (start bus : Bus) (tag : UInt32) : Prop :=
  ∃ index, start.draws ≤ index ∧ index < bus.draws ∧ script.tags index = tag

theorem transact (run : Run script start bus) {command : Command} (issued : command.Issued)
    (timeout : Duration) :
    Io.After (Bus.answer script) (command.transact timeout) () bus fun _ _ reached =>
      Run script start reached := .command command timeout run issued

theorem draws_le (run : Run script start bus) : start.draws ≤ bus.draws := by
  induction run with
  | start => exact le_rfl
  | now _ ih => exact ih
  | command command timeout _ _ ih => exact ih.trans (after_draws (command.transact timeout) ()).1

/-- Along a run, what is added to the pipe carries the tags that are drawn. -/
theorem known_of {tags : UInt32 → Prop} (known : start.target.Known tags)
    (run : Run script start bus) :
    bus.target.Known fun tag => tags tag ∨ drawn script start bus tag := by
  induction run with
  | start => exact known.mono fun tag => .inl
  | now _ ih => exact ih
  | @command bus command timeout run issued ih =>
    have grown := @after_draws script { bus with draws := bus.draws + 1 } _ _ _
      (cbwTransaction (command.wrap (Cbw.initial command.opcode (script.tags bus.draws)))
        command.dataOut command.dataIn timeout) ()
    have widened : bus.target.Known fun tag =>
        (tags tag ∨ drawn script start bus tag) ∨ script.tags bus.draws = tag :=
      ih.mono fun tag => .inl
    have known := cbwTransaction_known script { bus with draws := bus.draws + 1 }
      (issued.stages (script.tags bus.draws)) widened
      (.inr (Cbw.initial_fields command.opcode (script.tags bus.draws)).2.1.symm) timeout
    have kept : Io.After (Bus.answer script) (command.transact timeout) () bus fun _ _ reached =>
        reached.target.Known fun tag => tags tag ∨ drawn script start reached tag := by
      refine after_transact.mpr ((grown.and known).imp fun outcome own reached both => ?_)
      refine both.2.mono fun tag tagged => ?_
      rcases tagged with (earlier | ⟨index, after, before, same⟩) | same
      · exact .inl earlier
      · exact .inr ⟨index, after, before.trans_le (Nat.le_of_succ_le both.1.1), same⟩
      · exact .inr ⟨bus.draws, run.draws_le, both.1.1, same⟩
    exact kept

/-- **The invariant of the pipe along a run**: every reply on it is one to an earlier command. -/
theorem known (idle : start.Idle) (run : Run script start bus) :
    bus.target.Known (drawn script start bus) :=
  (run.known_of (Target.Idle.known idle fun _ => False)).mono fun _ tagged => tagged.resolve_left id

/-- **A transaction that returns `Ok` was answered for this very command.** Over any run of library
commands under pairwise distinct tags, whatever became of the earlier ones: the device completed
exactly this command, with status 0, and the data in the caller's buffer are those it sent for it. -/
theorem transact_ok (idle : start.Idle) (run : Run script start bus)
    (distinct : ∀ first second, start.draws ≤ first → first < second → second ≤ bus.draws →
      script.tags first ≠ script.tags second)
    {command : Command} (issued : command.Issued) {timeout : Duration}
    {received : Nat × List UInt8} {reached : Bus}
    (returns : (command.transact timeout).run (Bus.answer script) () bus =
      ((.ok received, ()), reached)) :
    ∃ sent, reached.target.completed =
        bus.target.completed ++ [⟨command.wire (script.tags bus.draws), 0, sent⟩] ∧
      ∀ buf, command.dataIn = some buf →
        sent = some (received.2.take received.1) ∧ received.2.drop received.1 = buf.drop received.1
          := by
  have tagged := (Cbw.initial_fields command.opcode (script.tags bus.draws)).2.1
  have fresh : ¬ drawn script start bus
      (command.wrap (Cbw.initial command.opcode (script.tags bus.draws))).tag := by
    rintro ⟨index, after, before, same⟩
    exact distinct index bus.draws after before le_rfl (same.trans tagged)
  have stages := issued.stages (script.tags bus.draws)
  have known : Target.Known (drawn script start bus) bus.target := run.known idle
  have law := after_transact.mpr (cbwTransaction_ok script
    { bus with draws := bus.draws + 1 } stages known fresh timeout)
  unfold Io.After at law
  rw [returns] at law
  obtain ⟨-, moved, same⟩ := law received rfl
  refine ⟨_, congrArg Target.completed moved, fun buf reads => ?_⟩
  obtain ⟨sent, sends⟩ := stages.sends reads (script.contents bus.target.completed.length)
    bus.target.disk
  rw [same, reads, sends]
  exact ⟨by simp [receivedOf], by simp [receivedOf]⟩

/-- A script whose first transfer fails, and the bus after a reset whose command stage it was. -/
def firstFails : Script :=
  { Script.undisturbed with faults := fun index => if index = 0 then .error .pipe false else .none }

def afterFailedReset : Bus :=
  (((Command.resetDevice 3).transact 1).run (Bus.answer firstFails) () (Bus.fresh fun _ => 0)).2

/-- After the failed reset, the capability is read. -/
theorem transact_ok_readCapability : ∃ sent,
    ((Command.readCapability.transact 1).run (Bus.answer firstFails) ()
        afterFailedReset).2.target.completed =
      afterFailedReset.target.completed ++ [⟨Command.readCapability.wire 1, 0, sent⟩] ∧
    ∀ buf, Command.readCapability.dataIn = some buf →
      sent = some (List.replicate 8 0) ∧ [] = buf.drop 8 := by
  have returns : ((Command.readCapability.transact 1).run (Bus.answer firstFails) ()
      afterFailedReset).1.1 = .ok (8, List.replicate 8 0) := by decide +kernel
  have run : Run firstFails (Bus.fresh fun _ => 0) afterFailedReset :=
    .command (Command.resetDevice 3) 1 .start (.resetDevice 3)
  refine transact_ok (Bus.fresh_idle _) run (fun first second _ earlier most same => ?_)
    .readCapability (Prod.ext (Prod.ext returns rfl) rfl)
  have one : second ≤ 1 := most
  obtain ⟨rfl, rfl⟩ : first = 0 ∧ second = 1 := by omega
  exact absurd same (by decide)

end Run

/-! ### What is left on the bus -/

section Linked

/-- What is left on the bus is of commands under tags that were drawn since `start`. -/
structure Linked (script : Script) (start bus : Bus) : Prop where
  draws : start.draws ≤ bus.draws
  known : bus.target.Known (Run.drawn script start bus)

variable {start : Bus}

theorem Run.linked (idle : start.Idle) (run : Run script start bus) : Linked script start bus :=
  ⟨run.draws_le, run.known idle⟩

/-- A run goes on from what is left. -/
theorem Linked.run {reached : Bus} (linked : Linked script start bus) (run : Run script bus reached) :
    Linked script start reached := by
  refine ⟨linked.draws.trans run.draws_le, (run.known_of linked.known).mono fun tag tagged => ?_⟩
  rcases tagged with ⟨index, after, before, same⟩ | ⟨index, after, before, same⟩
  · exact ⟨index, after, before.trans_le run.draws_le, same⟩
  · exact ⟨index, linked.draws.trans after, before, same⟩

/-- The program leaves nothing on the bus but what is of commands since `start`. -/
def Links {δ ε α : Type} (computation : UsbIo δ ε α) : Prop :=
  ∀ (script : Script) (start bus : Bus) (own : δ), Linked script start bus →
    Io.After (Bus.answer script) computation own bus fun _ _ reached => Linked script start reached

namespace Links

variable {δ ε ε' α β : Type}

theorem bind {first : UsbIo δ ε α} {next : α → UsbIo δ ε β}
    (here : Links first) (there : ∀ value, Links (next value)) : Links (first >>= next) := by
  intro script start bus own linked
  refine (here script start bus own linked).bind (fun _ _ _ linked => linked) ?_
  intro value own reached later
  exact there value script start reached own later

theorem mapErr {computation : UsbIo δ ε α} (links : Links computation)
    (translate : ε → ε') : Links (Io.mapErr translate computation) := fun script start bus own linked =>
  Io.after_mapErr.mpr (links script start bus own linked)

theorem transact {command : Command} (issued : command.Issued) (timeout : Duration) :
    Links (command.transact timeout) :=
  fun _ _ _ _ linked =>
    (Run.start.transact issued timeout).imp fun _ _ _ run => linked.run run

end Links

end Linked

/-! ### What is not selected -/

/-- The program leaves every storage alone that is not selected, as long as no command waits for a
wrapper as its data; and then none does afterwards. -/
def Stays {δ ε α : Type} (computation : UsbIo δ ε α) : Prop :=
  ∀ (script : Script) (bus : Bus) (own : δ), (bus.target.Known fun _ => True) →
    Io.After (Bus.answer script) computation own bus fun _ _ reached =>
      (reached.target.Known fun _ => True) ∧
        Banks.Beside bus.target.flash reached.target.flash

namespace Stays

variable {δ ε ε' α β : Type}

theorem bind {first : UsbIo δ ε α} {next : α → UsbIo δ ε β}
    (here : Stays first) (there : ∀ value, Stays (next value)) : Stays (first >>= next) := by
  intro script bus own known
  refine (here script bus own known).bind (fun _ _ _ moved => moved) fun value own middle moved => ?_
  refine (there value script middle own moved.1).imp fun _ _ reached later => ?_
  exact ⟨later.1, moved.2.trans later.2⟩

theorem mapErr {computation : UsbIo δ ε α} (stays : Stays computation)
    (translate : ε → ε') : Stays (Io.mapErr translate computation) := fun script bus own known =>
  Io.after_mapErr.mpr (stays script bus own known)

theorem beside {computation : UsbIo δ ε α} (stays : Stays computation) {tags : UInt32 → Prop}
    (known : bus.target.Known tags) (own : δ) :
    Io.After (Bus.answer script) computation own bus fun _ _ reached =>
      Banks.Beside bus.target.flash reached.target.flash :=
  (stays script bus own (known.mono fun _ _ => trivial)).imp fun _ _ _ moved => moved.2

end Stays

/-! ### Host code moves the bus along runs -/

/-- The bus after the computation is on a run of library commands, if it was before, and the storages
that are not selected are as before, unless a command waits for a wrapper as its data. -/
def Runs {δ ε α : Type} (computation : UsbIo δ ε α) : Prop :=
  ∀ (script : Script) (start bus : Bus) (own : δ), Run script start bus →
    Io.After (Bus.answer script) computation own bus fun _ _ reached =>
      Run script start reached ∧ ((bus.target.Known fun _ => True) →
        Banks.Beside bus.target.flash reached.target.flash)

namespace Runs

variable {δ ε ε' α β : Type}

theorem pure (value : α) : Runs (Pure.pure value : UsbIo δ ε α) :=
  fun _ _ _ _ run => ⟨run, fun _ => .refl _⟩

theorem throw (error : ε) : Runs (Io.throw error : UsbIo δ ε α) :=
  fun _ _ _ _ run => ⟨run, fun _ => .refl _⟩

theorem ofExcept (result : Except ε α) : Runs (Io.ofExcept result : UsbIo δ ε α) :=
  fun _ _ _ _ run => Io.after_ofExcept.mpr ⟨run, fun _ => .refl _⟩

theorem get : Runs (Io.get : UsbIo δ ε δ) := fun _ _ _ _ run => ⟨run, fun _ => .refl _⟩

theorem modify (change : δ → δ) : Runs (Io.modify change : UsbIo δ ε Unit) :=
  fun _ _ _ _ run => ⟨run, fun _ => .refl _⟩

theorem now : Runs (Rkusb.now : UsbIo δ ε Instant) :=
  fun _ _ _ _ run => ⟨.now run, fun _ => .refl _⟩

theorem bind {first : UsbIo δ ε α} {next : α → UsbIo δ ε β} (here : Runs first)
    (there : ∀ value, Runs (next value)) : Runs (first >>= next) := by
  intro script start bus own run
  -- the run from `bus` on keeps what waits there from taking a wrapper for its data
  have moves := (here script start bus own run).and (here script bus bus own .start)
  refine moves.bind (fun _ _ _ moved => moved.1) fun value own middle moved => ?_
  refine (there value script start middle own moved.1.1).imp fun _ _ reached later => ?_
  refine ⟨later.1, fun known => (moved.1.2 known).trans (later.2 ?_)⟩
  exact (moved.2.1.known_of known).mono fun _ _ => trivial

/-- What is left on the bus is of commands since `start`. -/
theorem links {computation : UsbIo δ ε α} (runs : Runs computation) : Links computation :=
  fun script _ bus own linked =>
    (runs script bus bus own .start).imp fun _ _ _ moved => linked.run moved.1

theorem stays {computation : UsbIo δ ε α} (runs : Runs computation) : Stays computation :=
  fun script bus own known => (runs script bus bus own .start).imp fun _ _ _ moved =>
    ⟨(moved.1.known_of known).mono fun _ _ => trivial, moved.2 known⟩

theorem mapErr {translate : ε → ε'} {computation : UsbIo δ ε α} (runs : Runs computation) :
    Runs (Io.mapErr translate computation) :=
  fun script start bus own run => Io.after_mapErr.mpr (runs script start bus own run)

theorem lift {computation : UsbIo Unit ε α} (runs : Runs computation) :
    Runs (Io.lift computation : UsbIo δ ε α) :=
  fun script start bus _ run => Io.after_lift.mpr (runs script start bus () run)

theorem attempt {computation : UsbIo δ ε α} (runs : Runs computation) :
    Runs (Io.attempt computation : UsbIo δ ε' (Except ε α)) :=
  fun script start bus own run => Io.after_attempt.mpr (runs script start bus own run)

theorem start {γ : Type} {computation : UsbIo γ ε α} (runs : Runs computation)
    (inner : γ) : Runs (Io.start computation inner : UsbIo δ ε (α × γ)) :=
  fun script start bus _ run => Io.after_start.mpr (runs script start bus inner run)

theorem remainingTimeout (deadline : Instant) : Runs (Rkusb.remainingTimeout deadline) := by
  refine now.bind fun time => ?_
  split
  · exact pure _
  · exact throw _

theorem transact {command : Command} (issued : command.Issued)
    (stays : ¬WireCommand.Selects command.opcode) (timeout : Duration) :
    Runs (command.transact timeout) := by
  intro script start bus own run
  refine (run.transact issued timeout).and (Io.after_imp.mpr fun known => ?_)
  refine after_transact.mpr ((cbwTransaction_flash script { bus with draws := bus.draws + 1 }
    (issued.stages (script.tags bus.draws)) known timeout).imp fun _ _ reached moved => ?_)
  rcases moved with same | done
  · exact same ▸ .refl _
  · rw [done, WireCommand.effect_of_stays _ _ _ _ stays]
    exact .put _ _

end Runs

/-- The program leaves nothing of others on the bus, and what is not selected alone. -/
structure Moves {δ ε α : Type} (computation : UsbIo δ ε α) : Prop where
  links : Links computation
  stays : Stays computation

theorem Runs.moves {δ ε α : Type} {computation : UsbIo δ ε α} (runs : Runs computation) :
    Moves computation := ⟨runs.links, runs.stays⟩

namespace Moves

variable {δ ε ε' α β : Type} {first : UsbIo δ ε α}

theorem bind {next : α → UsbIo δ ε β} (here : Moves first) (there : ∀ value, Moves (next value)) :
    Moves (first >>= next) :=
  ⟨here.links.bind fun value => (there value).links, here.stays.bind fun value => (there value).stays⟩

theorem mapErr (moves : Moves first) (translate : ε → ε') : Moves (Io.mapErr translate first) :=
  ⟨moves.links.mapErr translate, moves.stays.mapErr translate⟩

theorem pure (value : α) : Moves (Pure.pure value : UsbIo δ ε α) := (Runs.pure value).moves

theorem ofExcept (result : Except ε α) : Moves (Io.ofExcept result : UsbIo δ ε α) :=
  (Runs.ofExcept result).moves

end Moves

/-! ### The functions of the library -/

theorem writeLbaRaw_runs (pos : UInt32) (data : List UInt8) (subcode : UInt8)
    (timeout : Duration) : Runs (writeLbaRaw pos data subcode timeout) := by
  by_cases valid : Command.SectorLength data.length
  · rw [writeLbaRaw_eq valid]
    exact (Runs.transact (.writeLba pos data subcode valid)
      (by decide : ¬WireCommand.Selects 0x15) timeout).bind fun _ => .pure _
  · rw [writeLbaRaw_of_not valid]
    split
    · exact .pure _
    · exact .throw _

theorem readLbaRaw_runs (pos : UInt32) (data : List UInt8) (subcode : UInt8)
    (timeout : Duration) : Runs (readLbaRaw pos data subcode timeout) := by
  by_cases valid : Command.SectorLength data.length
  · rw [readLbaRaw_eq valid]
    exact (Runs.transact (.readLba pos data subcode valid)
      (by decide : ¬WireCommand.Selects 0x14) timeout).bind fun _ => .pure _
  · rw [readLbaRaw_of_not valid]
    split
    · exact .pure _
    · exact .throw _

theorem eraseLbaRaw_runs (pos : UInt32) (sectorCount : UInt16) (timeout : Duration) :
    Runs (eraseLbaRaw pos sectorCount timeout) := by
  by_cases none : sectorCount = 0
  · rw [eraseLbaRaw, if_pos none]
    exact .pure _
  · rw [eraseLbaRaw_eq none]
    exact (Runs.transact (.eraseLba pos sectorCount)
      (by decide : ¬WireCommand.Selects 0x25) timeout).bind fun _ => .pure _

theorem resetDevice_links (subcode : UInt8) : Links (resetDevice subcode) := by
  rw [resetDevice_eq]
  exact (Links.transact (.resetDevice subcode) _).bind fun _ => (Runs.pure _).links

theorem readCapability_runs (timeout : Duration) : Runs (readCapability timeout) := by
  rw [readCapability_eq]
  exact (Runs.transact .readCapability (by decide) timeout).bind fun _ => .pure _

theorem readStorageInfo_runs : Runs readStorageInfo := by
  rw [readStorageInfo_eq]
  exact (Runs.transact .readStorageInfo (by decide) _).bind fun _ => .ofExcept _

theorem readStorage_runs : Runs readStorage := by
  rw [readStorage_eq]
  exact (Runs.transact .readStorage (by decide) _).bind fun _ => .pure _

theorem switchStorage_links (storage : UInt8) : Links (switchStorage storage) := by
  rw [switchStorage_eq]
  exact (Links.transact (.switchStorage storage) _).bind fun _ => (Runs.pure _).links

theorem writeLbaChunks_runs (deadline : Instant) (subcode : UInt8) (pieces : List (List UInt8))
    (pos : UInt32) : Runs (writeLbaChunks deadline subcode pieces pos) := by
  induction pieces generalizing pos with
  | nil => exact .pure _
  | cons chunk rest ih =>
    refine (Runs.remainingTimeout deadline).bind fun timeout => ?_
    refine (writeLbaRaw_runs pos chunk subcode timeout).bind fun _ => ?_
    exact (Runs.ofExcept _).bind fun next => ih next

theorem readLbaChunks_runs (deadline : Instant) (subcode : UInt8) (pieces : List (List UInt8))
    (pos : UInt32) : Runs (readLbaChunks deadline subcode pieces pos) := by
  induction pieces generalizing pos with
  | nil => exact .pure _
  | cons chunk rest ih =>
    refine (Runs.remainingTimeout deadline).bind fun timeout => ?_
    refine (readLbaRaw_runs pos chunk subcode timeout).bind fun filled => ?_
    refine (Runs.ofExcept _).bind fun next => ?_
    exact (ih next).bind fun _ => .pure _

theorem writeLba_runs (pos : UInt32) (data : List UInt8) (subcode : UInt8) (timeout : Duration) :
    Runs (writeLba pos data subcode timeout) := by
  unfold writeLba writeLbaTail
  split
  · exact .pure _
  refine Runs.now.bind fun start => (writeLbaChunks_runs _ subcode _ pos).bind fun next => ?_
  split
  · exact .pure _
  refine (Runs.remainingTimeout _).bind fun timeout => ?_
  refine (readLbaRaw_runs next _ subcode timeout).bind fun sector => ?_
  exact (Runs.remainingTimeout _).bind fun timeout => writeLbaRaw_runs next _ subcode timeout

theorem readLba_runs (pos : UInt32) (data : List UInt8) (subcode : UInt8) (timeout : Duration) :
    Runs (readLba pos data subcode timeout) := by
  unfold readLba readLbaTail
  split
  · exact .pure _
  refine Runs.now.bind fun start => (readLbaChunks_runs _ subcode _ pos).bind fun result => ?_
  refine Runs.bind ?_ fun _ => .pure _
  split
  · exact .pure _
  refine (Runs.remainingTimeout _).bind fun timeout => ?_
  exact (readLbaRaw_runs result.2 _ subcode timeout).bind fun _ => .pure _

theorem eraseLbaLoop_runs (deadline : Instant) (rounds : Nat) (pos : UInt32) (remaining : Nat) :
    Runs (eraseLbaLoop deadline rounds pos remaining) := by
  induction rounds generalizing pos remaining with
  | zero => exact .pure _
  | succ rounds ih =>
    unfold eraseLbaLoop
    split
    · exact .pure _
    refine (Runs.remainingTimeout deadline).bind fun timeout => ?_
    refine (eraseLbaRaw_runs pos _ timeout).bind fun _ => ?_
    exact (Runs.ofExcept _).bind fun next => ih next _

theorem eraseLba_runs (pos count : UInt32) (timeout : Duration) :
    Runs (eraseLba pos count timeout) := by
  unfold eraseLba
  split
  · exact .pure _
  exact Runs.now.bind fun start => eraseLbaLoop_runs _ _ pos _

end Rkusb
