/-
**What a failed transaction says, and what it leaves behind.**

A failed transaction may leave a reply on the pipe, and the library has no step that empties it.

* `cbwTransaction_failed` is the inversion of a failure: how far the command came, that the replies
  taken are no more than the stages read, and which reply a status error was read from.
* `Run.failures_truthful`: over any run of the library's commands, whatever became of the earlier
  ones, `CommandFailed` means that the device completed this very command with this very status and
  left its storage alone; and `TagMismatch` means that the host was out of step before the command.
* `Run.never_resynchronised`: a host that is out of step with a device that carries out what it is
  sent stays out of step, and every call that has a command to issue fails from then on, whatever
  becomes of the transfers.
-/

import Rkusb.Retry

namespace Rkusb

open Interaction Bytes FlatStore

variable {script : Script} {bus : Bus}

/-! ### The inversion of a failure -/

/-- The error comes from a transfer or from the clock. -/
def RkUsbError.OfTransfer (error : RkUsbError) : Prop := ∃ failure, error = .usb failure

/-- What a status error says of the reply it was read from. -/
def Tells (cbw : Cbw) (reply : List UInt8) : RkUsbError → Prop
  | .tagMismatch => ∃ csw, Csw.tryReadFromBytes reply = some csw ∧ csw.tag ≠ cbw.tag
  | .commandFailed status => status ≠ 0 ∧ ∃ csw, Csw.tryReadFromBytes reply = some csw ∧
      csw.tag = cbw.tag ∧ csw.status = status
  | error => error.OfTransfer ∨ error = .invalidCsw

theorem remainingTimeout_error (deadline : Instant) :
    Io.After (Bus.answer script) (remainingTimeout deadline) () bus fun outcome _ _ =>
      ∀ error, outcome = .error error → error.OfTransfer := by
  refine after_remainingTimeout.mpr ?_
  split
  · intro error fails
    cases fails
  · intro error fails
    cases fails
    exact ⟨_, rfl⟩

theorem ofTransfer_of_mapError {α : Type} {answer : Except UsbError α} {error : RkUsbError}
    (fails : answer.mapError RkUsbError.usb = .error error) : error.OfTransfer := by
  cases answer with
  | ok value => cases fails
  | error failure =>
    cases fails
    exact ⟨failure, rfl⟩

theorem sendExactly_error (bytes : List UInt8) (size : Nat) (deadline : Instant) :
    Io.After (Bus.answer script) (sendExactly bytes size deadline) () bus fun outcome _ _ =>
      ∀ error, outcome = .error error → error.OfTransfer := by
  refine (remainingTimeout_error deadline).bind (fun error own reached told => ?_)
    fun timeout own waited told => ?_
  · intro other fails
    cases fails
    exact told error rfl
  refine Io.After.bind (after_writeBulk.mpr (fun error fails => ofTransfer_of_mapError fails) :
    Io.After (Bus.answer script) (writeBulk bytes timeout) own waited fun outcome _ _ =>
      ∀ error, outcome = .error error → error.OfTransfer) (fun error own reached told => ?_)
    fun n own reached told => ?_
  · intro other fails
    cases fails
    exact told error rfl
  · split
    · intro error fails
      cases fails
    · intro error fails
      cases fails
      exact ⟨_, rfl⟩

/-- A read takes one reply at most. -/
theorem readBulk_taken (capacity : Nat) (timeout : Duration) :
    Io.After (Bus.answer script) (readBulk capacity timeout) () bus fun outcome _ reached =>
      (∃ count ≤ 1, reached.target = bus.target.dropReplies count) ∧
        ∀ error, outcome = .error error → error.OfTransfer := by
  refine after_readBulk.mpr ⟨?_, fun error fails => ofTransfer_of_mapError fails⟩
  unfold Bus.bulkIn
  cases bus.fault script with
  | error failure taken =>
    cases taken with
    | false => exact ⟨0, Nat.zero_le 1, rfl⟩
    | true => exact ⟨1, le_rfl, by simp [Bus.delivered, Target.dropReplies]⟩
  | none =>
    refine ⟨1, le_rfl, ?_⟩
    cases waiting : bus.target.replies with
    | nil => simp [Bus.delivered, Target.dropReplies, waiting]
    | cons reply rest => simp [Bus.delivered, Target.dropReplies, waiting]
  | short count =>
    refine ⟨1, le_rfl, ?_⟩
    cases waiting : bus.target.replies with
    | nil => simp [Bus.delivered, Target.dropReplies, waiting]
    | cons reply rest => simp [Bus.delivered, Target.dropReplies, waiting]

/-- The data-out stage, after the command. -/
theorem sendData_failed {cbw : Cbw} {target : Target} (dataOut : Option (List UInt8))
    (deadline : Instant) (commanded : bus.target = target.afterCommand script cbw) :
    Io.After (Bus.answer script) (sendData dataOut deadline) () bus fun outcome _ reached =>
      (∀ value, outcome = .ok value → reached.target = target.afterData script cbw dataOut) ∧
      ∀ error, outcome = .error error → error.OfTransfer ∧
        (reached.target = target.afterCommand script cbw ∨
          reached.target = target.afterData script cbw dataOut) := by
  cases dataOut with
  | none => exact ⟨fun _ _ => commanded, fun error fails => by cases fails⟩
  | some data =>
    refine ((sendExactly_target data _).and (sendExactly_error data _ _)).imp ?_
    intro outcome own reached both
    obtain ⟨moved, told⟩ := both
    rw [commanded] at moved
    cases outcome with
    | ok _ => exact ⟨fun _ _ => moved, fun error fails => by cases fails⟩
    | error error =>
      refine ⟨fun value fails => (by cases fails), fun other same => ?_⟩
      cases same
      exact ⟨told error rfl, moved⟩

theorem receiveData_failed (cbw : Cbw) (dataIn : Option (List UInt8)) (deadline : Instant) :
    Io.After (Bus.answer script) (receiveData cbw dataIn deadline) () bus fun outcome _ reached =>
      ∀ error, outcome = .error error → error.OfTransfer ∧
        ∃ count ≤ dataIn.toList.length, reached.target = bus.target.dropReplies count := by
  cases dataIn with
  | none =>
    intro error fails
    cases fails
  | some buf =>
    refine ((remainingTimeout_target deadline).and (remainingTimeout_error deadline)).bind
      (fun error own reached told => ?_) fun timeout own waited told => ?_
    · intro other fails
      cases fails
      exact ⟨told.2 error rfl, 0, Nat.zero_le _, told.1⟩
    refine (readBulk_taken buf.length timeout).bind (fun error own reached taken => ?_)
      fun bytes own reached taken => ?_
    · rw [told.1] at taken
      intro other fails
      cases fails
      exact ⟨taken.2 error rfl, taken.1⟩
    · rw [told.1] at taken
      split
      · intro error fails
        cases fails
        exact ⟨⟨_, rfl⟩, taken.1⟩
      · intro error fails
        cases fails

/-- A status error was read from the reply at the head of the pipe. -/
theorem receiveStatus_failed (cbw : Cbw) (deadline : Instant) :
    Io.After (Bus.answer script) (receiveStatus cbw deadline) () bus fun outcome _ reached =>
      ∀ error, outcome = .error error →
        (∃ count ≤ 1, reached.target = bus.target.dropReplies count) ∧
        (error.OfTransfer ∨ error = .invalidCsw ∨
          ∃ reply rest, bus.target.replies = reply :: rest ∧ Tells cbw reply error ∧
            reached.target = bus.target.dropReplies 1) := by
  refine ((remainingTimeout_target deadline).and (remainingTimeout_error deadline)).bind
    (fun error own reached told => ?_) fun timeout own waited told => ?_
  · intro other fails
    cases fails
    exact ⟨⟨0, Nat.zero_le 1, told.1⟩, .inl (told.2 error rfl)⟩
  refine ((readBulk_target Csw.size timeout).and (readBulk_taken Csw.size timeout)).bind
    (fun error own reached taken => ?_) fun bytes own reached taken => ?_
  · rw [told.1] at taken
    intro other fails
    cases fails
    exact ⟨taken.2.1, .inl (taken.2.2 error rfl)⟩
  rw [told.1] at taken
  obtain ⟨⟨reply, rest, waiting, fits, part, left⟩, few, -⟩ := taken
  cases parsed : Csw.tryReadFromBytes bytes with
  | none =>
    intro error fails
    cases fails
    exact ⟨few, .inr (.inl rfl)⟩
  | some csw =>
    have whole : bytes = reply := by
      have full : bytes.length = Csw.size := by
        by_contra other
        rw [Csw.tryReadFromBytes, if_neg other] at parsed
        cases parsed
      rcases part with same | ⟨short, -⟩
      · exact same
      · omega
    rw [whole] at parsed
    show Io.After _ (ite _ _ _) _ _ _
    split
    · intro error fails
      cases fails
      exact ⟨few, .inr (.inl rfl)⟩
    split
    · rename_i other
      intro error fails
      cases fails
      exact ⟨few, .inr (.inr ⟨reply, rest, waiting, ⟨csw, parsed, other⟩, left⟩)⟩
    split
    · rename_i same bad
      intro error fails
      cases fails
      rw [not_not] at same
      exact ⟨few, .inr (.inr ⟨reply, rest, waiting, ⟨bad, csw, parsed, same, rfl⟩, left⟩)⟩
    · intro error fails
      cases fails

/-- **The inversion of a failure.** Either the data-out stage was not finished and the pipe was not
read, or the device has all the stages and the host took no more replies than it reads for them. A
status error was read from the reply in the status position. -/
theorem cbwTransaction_failed (cbw : Cbw) (dataOut dataIn : Option (List UInt8))
    (timeout : Duration) :
    Io.After (Bus.answer script) (cbwTransaction cbw dataOut dataIn timeout) () bus
      fun outcome _ reached => ∀ error, outcome = .error error →
        (error.OfTransfer ∧ (reached.target = bus.target ∨
          reached.target = bus.target.afterCommand script cbw)) ∨
        ∃ count ≤ dataIn.toList.length + 1,
          reached.target = (bus.target.afterData script cbw dataOut).dropReplies count ∧
          (error.OfTransfer ∨ error = .invalidCsw ∨
            ∃ reply rest, ((bus.target.afterData script cbw dataOut).dropReplies
              dataIn.toList.length).replies = reply :: rest ∧ Tells cbw reply error ∧
              count = dataIn.toList.length + 1) := by
  refine after_now.mpr ?_
  have commandStage := @sendExactly_target script { bus with ticks := bus.ticks + 1 } cbw.asBytes
    (script.clock bus.ticks + timeout)
  rw [length_cbw_asBytes] at commandStage
  refine (commandStage.and (sendExactly_error _ _ _)).bind (fun error own reached moved => ?_)
    fun _ own commanded moved => ?_
  · intro other fails
    cases fails
    exact .inl ⟨moved.2 error rfl, moved.1⟩
  have moved := moved.1
  refine (sendData_failed dataOut _ moved).bind (fun error own reached moved' => ?_)
    fun _ own delivered moved' => ?_
  · intro other fails
    cases fails
    obtain ⟨told, kept | taken⟩ := moved'.2 error rfl
    · exact .inl ⟨told, .inr kept⟩
    · exact .inr ⟨0, Nat.zero_le _, taken, .inl told⟩
  have moved' := moved'.1 () rfl
  refine ((receiveData_target cbw dataIn _).and (receiveData_failed cbw dataIn _)).bind
    (fun error own reached lost => ?_) fun received own drained taken => ?_
  · intro other fails
    cases fails
    obtain ⟨told, count, few, left⟩ := lost.2 error rfl
    rw [moved'] at left
    exact .inr ⟨count, Nat.le_succ_of_le few, left, .inl told⟩
  have left := taken.1.2
  rw [moved'] at left
  refine (receiveStatus_failed cbw _).bind (fun error own reached lost => ?_)
    fun _ own reached acknowledged => ?_
  · intro other fails
    cases fails
    obtain ⟨⟨count, few, taken⟩, told⟩ := lost error rfl
    rw [left] at taken told
    rcases told with transfer | invalid | ⟨reply, rest, waiting, tells, exactly⟩
    · exact .inr ⟨_, Nat.add_le_add_left few _,
        taken.trans (Target.dropReplies_dropReplies _ _ _), .inl transfer⟩
    · exact .inr ⟨_, Nat.add_le_add_left few _,
        taken.trans (Target.dropReplies_dropReplies _ _ _), .inr (.inl invalid)⟩
    · exact .inr ⟨_, le_rfl, exactly.trans (Target.dropReplies_dropReplies _ _ _),
        .inr (.inr ⟨reply, rest, waiting, tells, rfl⟩)⟩
  · intro error fails
    cases fails

/-! ### What a status error means -/

theorem parsed_length {reply : List UInt8} {csw : Csw}
    (parsed : Csw.tryReadFromBytes reply = some csw) : reply.length = Csw.size := by
  by_contra other
  rw [Csw.tryReadFromBytes, if_neg other] at parsed
  cases parsed

/-- The replies to one command: its data and a good status, or a bad status alone. -/
theorem replies_complete (script : Script) (command : WireCommand) (data : List UInt8)
    (target : Target) : ∃ sent status,
      (target.complete script command data).replies =
        target.replies ++ sent ++ [Target.statusOf command status] ∧
      (∀ reply ∈ sent, reply.length = command.transferLength) ∧
      (status ≠ 0 → target.complete script command data = target.refuse command status) := by
  rcases Target.complete_cases script command data target with performed | ⟨status, bad, refused⟩
  · refine ⟨_, 0, congrArg Target.replies performed, fun reply member => ?_,
      fun bad => absurd rfl bad⟩
    exact WireCommand.length_of_dataIn (Option.mem_toList.mp member)
  · refine ⟨[], status, ?_, fun reply member => (by cases member), fun _ => refused⟩
    rw [refused, List.append_nil]
    rfl

/-- A status under a fresh tag is that of the command just completed. -/
theorem status_of_fresh {cbw : Cbw} {command : WireCommand} {dataOut dataIn : Option (List UInt8)}
    {tags : UInt32 → Prop} (stages : Stages cbw command dataOut dataIn)
    {target : Target} (known : target.Known tags) (fresh : ¬ tags cbw.tag) {data : List UInt8}
    {reply : List UInt8} {csw : Csw}
    (member : reply ∈ (target.complete script command data).replies)
    (parsed : Csw.tryReadFromBytes reply = some csw) (tagged : csw.tag = cbw.tag)
    (bad : csw.status ≠ 0) :
    target.complete script command data = target.refuse command csw.status := by
  obtain ⟨sent, status, replies, lengths, refused⟩ := replies_complete script command data target
  rw [replies] at member
  rcases List.mem_append.mp member with earlier | own
  · rcases List.mem_append.mp earlier with stale | inward
    · exact absurd (tagged ▸ known.replies reply stale csw parsed) fresh
    · exact absurd ((lengths reply inward).symm.trans (parsed_length parsed)) stages.notCsw
  · rw [List.mem_singleton.mp own, Target.tryReadFromBytes_statusOf, Option.some.injEq] at parsed
    rw [← parsed] at bad ⊢
    exact refused bad

namespace Run

variable {start : Bus}

theorem fresh_of_distinct (distinct : start.Distinct script bus) (command : Command) :
    ¬ drawn script start bus
      (command.wrap (Cbw.initial command.opcode (script.tags bus.draws))).tag := by
  have tagged := (Cbw.initial_fields command.opcode (script.tags bus.draws)).2.1
  rintro ⟨index, after, before, same⟩
  exact distinct index bus.draws after before le_rfl (same.trans tagged)

/-- **The errors of a transaction are truthful.** Over any run of library commands under pairwise
distinct tags, whatever became of the earlier ones: `CommandFailed` means that the device completed
this very command with this status, and its storage is as before; `TagMismatch` means that
something was left over from before the command. -/
theorem failures_truthful (idle : start.Idle) (run : Run script start bus)
    (distinct : start.Distinct script bus) {command : Command} (issued : command.Issued)
    {timeout : Duration} {error : RkUsbError} {reached : Bus}
    (fails : (command.transact timeout).run (Bus.answer script) () bus =
      ((.error error, ()), reached)) :
    (∀ status, error = .commandFailed status → status ≠ 0 ∧
      reached.target.completed = bus.target.settled.completed ++
        [⟨command.wire (script.tags bus.draws), status, none⟩] ∧
      reached.target.disk = bus.target.disk) ∧
    (error = .tagMismatch → ¬ bus.Idle) := by
  have stages := issued.stages (script.tags bus.draws)
  have known : Target.Known (drawn script start bus) bus.target := run.known idle
  have law := after_transact.mpr (@cbwTransaction_failed script
    { bus with draws := bus.draws + 1 }
    (command.wrap (Cbw.initial command.opcode (script.tags bus.draws))) command.dataOut
    command.dataIn timeout)
  unfold Io.After at law
  rw [fails] at law
  have inverted := law error rfl
  rw [Target.afterData_eq stages known] at inverted
  rcases inverted with ⟨⟨failure, rfl⟩, -⟩ | ⟨count, -, left, transfer | invalid | read⟩
  · exact ⟨fun status same => (by cases same), fun same => (by cases same)⟩
  · obtain ⟨failure, rfl⟩ := transfer
    exact ⟨fun status same => (by cases same), fun same => (by cases same)⟩
  · rw [invalid]
    exact ⟨fun status same => (by cases same), fun same => (by cases same)⟩
  obtain ⟨reply, rest, waiting, tells, -⟩ := read
  have member : reply ∈ (bus.target.settled.complete script (command.wire (script.tags bus.draws))
      (command.dataOut.getD [])).replies :=
    List.mem_of_mem_drop (waiting ▸ List.mem_cons_self)
  refine ⟨fun status same => ?_, fun same idle => ?_⟩
  · rw [same] at tells
    obtain ⟨bad, csw, parsed, tagged, rfl⟩ := tells
    have refused := status_of_fresh stages known.settled (fresh_of_distinct distinct command) member
      parsed tagged bad
    rw [refused] at left
    rw [left]
    exact ⟨bad, rfl, Target.settled_disk bus.target⟩
  · -- an idle device has the replies to this command alone, and the last of them is its status
    rw [same] at tells
    obtain ⟨csw, parsed, other⟩ := tells
    obtain ⟨sent, status, replies, lengths, -⟩ := replies_complete script
      (command.wire (script.tags bus.draws)) (command.dataOut.getD []) bus.target.settled
    rw [replies, Target.Idle.settled idle, idle.2, List.nil_append] at member
    rcases List.mem_append.mp member with inward | own
    · exact stages.notCsw ((lengths reply inward).symm.trans (parsed_length parsed))
    · rw [List.mem_singleton.mp own, Target.tryReadFromBytes_statusOf, Option.some.injEq] at parsed
      rw [← parsed] at other
      exact other stages.tag.symm

/-- A script under which the status of the first command cannot be read, and the bus after it: a
reset whose status stays on the pipe. -/
def firstStatusLost : Script :=
  { Script.undisturbed with
    faults := fun index => if index = 1 then .error .timeout false else .none }

def afterUnreadReset : Bus :=
  (((Command.resetDevice 3).transact 1).run (Bus.answer firstStatusLost) ()
    (Bus.fresh fun _ => 0)).2

theorem afterUnreadReset_run : Run firstStatusLost (Bus.fresh fun _ => 0) afterUnreadReset :=
  .command (Command.resetDevice 3) 1 .start (.resetDevice 3)

/-- Tags that count are distinct for a while. -/
theorem distinct_of_counting (counts : ∀ index, script.tags index = UInt32.ofNat index)
    {reached : Bus} (few : reached.draws < 2 ^ 32) : start.Distinct script reached := by
  intro first second _ earlier most same
  have numbers := congrArg UInt32.toNat same
  rw [counts first, counts second, UInt32.toNat_ofNat_of_lt' (show first < 2 ^ 32 by omega),
    UInt32.toNat_ofNat_of_lt' (show second < 2 ^ 32 by omega)] at numbers
  omega

theorem afterUnreadReset_distinct :
    (Bus.fresh fun _ => 0).Distinct firstStatusLost afterUnreadReset :=
  distinct_of_counting (fun _ => rfl) (by decide +kernel)

/-- A reset after that one finds the status of the first. -/
theorem failures_truthful_reset : ¬ afterUnreadReset.Idle := by
  have fails : (((Command.resetDevice 0).transact 1).run (Bus.answer firstStatusLost) ()
      afterUnreadReset).1.1 = .error .tagMismatch := by decide +kernel
  exact (failures_truthful (Bus.fresh_idle _) afterUnreadReset_run afterUnreadReset_distinct
    (.resetDevice 0) (Prod.ext (Prod.ext fails rfl) rfl)).2 rfl

end Run

/-! ### The device completes no command twice -/

theorem Target.complete_completed (script : Script) (command : WireCommand) (data : List UInt8)
    (target : Target) :
    target.completed <+: (target.complete script command data).completed := by
  rcases complete_cases script command data target with performed | ⟨status, -, refused⟩
  · rw [performed]
    exact List.prefix_append _ _
  · rw [refused]
    exact List.prefix_append _ _

theorem Target.command_completed (script : Script) (bytes : List UInt8) (target : Target) :
    target.completed <+: (target.command script bytes).completed := by
  unfold Target.command
  split
  · exact List.prefix_rfl
  split
  · exact List.prefix_rfl
  · exact complete_completed script _ _ target

theorem Target.accept_completed (script : Script) (bytes : List UInt8) (target : Target) :
    target.completed <+: (target.accept script bytes).completed := by
  unfold Target.accept
  split
  · exact command_completed script bytes target
  split
  · exact complete_completed script _ _ target
  · rename_i waiting _ _
    have given : target.completed <+: (target.refuse waiting 2).completed := List.prefix_append _ _
    exact given.trans (command_completed script bytes (target.refuse waiting 2))

/-- What the device has completed stays completed. -/
theorem after_completed {δ ε α : Type} (computation : UsbIo δ ε α) (own : δ) :
    Io.After (Bus.answer script) computation own bus fun _ _ reached =>
      bus.target.completed <+: reached.target.completed := by
  refine Io.after_related (fun before after : Bus =>
      before.target.completed <+: after.target.completed) (fun bus => List.prefix_rfl)
    (fun first middle last one two => one.trans two) (fun request bus => ?_) computation own bus
  cases request with
  | now => exact List.prefix_rfl
  | random => exact List.prefix_rfl
  | readBulk capacity timeout => exact List.prefix_rfl
  | writeControl => exact List.prefix_rfl
  | writeBulk bytes timeout =>
    show _ <+: (if _ then _ else _ : Target).completed
    split
    · exact Target.accept_completed script bytes bus.target
    · exact List.prefix_rfl

/-! ### Out of step -/

/-- Something of an earlier command is left over on a device that carries out all it is sent. -/
structure OutOfStep (script : Script) (start bus : Bus) : Prop where
  run : Run script start bus
  stale : ¬ bus.Idle
  obeyed : ∀ index, bus.target.completed.length ≤ index → script.verdicts index = 0

theorem Target.not_idle_of_replies {target : Target} (some : target.replies ≠ []) : ¬ target.Idle :=
  fun idle => some idle.2

/-- **The replies never run out**: the device adds as many to the stale ones as the host takes. -/
theorem cbwTransaction_stale {cbw : Cbw} {command : WireCommand}
    {dataOut dataIn : Option (List UInt8)} {tags : UInt32 → Prop}
    (stages : Stages cbw command dataOut dataIn) (consistent : command.consistent)
    (known : bus.target.Known tags) (stale : ¬ bus.target.Idle)
    (obeyed : ∀ index, bus.target.completed.length ≤ index → script.verdicts index = 0)
    (timeout : Duration) :
    Io.After (Bus.answer script) (cbwTransaction cbw dataOut dataIn timeout) () bus
      fun _ _ reached => ¬ reached.target.Idle := by
  have left : 0 < bus.target.settled.replies.length :=
    List.length_pos_iff.mpr fun empty => stale (Target.idle_of_settled empty)
  have settled : bus.target.completed.length ≤ bus.target.settled.completed.length := by
    unfold Target.settled
    split
    · exact le_rfl
    · exact (List.prefix_append _ _).length_le
  have performs : ∀ data, bus.target.settled.complete script command data =
      bus.target.settled.perform script command data := fun data => by
    rw [Target.complete, if_neg (not_not.mpr consistent), if_pos (obeyed _ settled)]
  have enough : ∀ count ≤ dataIn.toList.length + 1,
      ¬ ((bus.target.afterData script cbw dataOut).dropReplies count).Idle := by
    intro count few
    refine Target.not_idle_of_replies (List.length_pos_iff.mp ?_)
    rw [Target.afterData_eq stages known, performs]
    show 0 < (List.drop count (bus.target.settled.replies ++
      (command.dataIn (script.contents bus.target.settled.completed.length)
        bus.target.settled.disk).toList ++ [Target.statusOf command 0])).length
    rw [List.length_drop, List.length_append, List.length_append, stages.length_dataIn,
      List.length_singleton]
    omega
  have commanded : ¬ (bus.target.afterCommand script cbw).Idle := by
    rw [Target.accept_command script stages known]
    split
    · exact fun idle => by cases idle.1
    · rw [performs]
      exact Target.not_idle_of_replies (List.append_ne_nil_of_right_ne_nil _ (by simp))
  refine ((cbwTransaction_target cbw dataOut dataIn timeout).and
    (cbwTransaction_failed cbw dataOut dataIn timeout)).imp fun outcome own reached both => ?_
  cases outcome with
  | ok received =>
    rw [both.1.2.2]
    exact enough _ le_rfl
  | error error =>
    rcases both.2 error rfl with ⟨-, same | same⟩ | ⟨count, few, same, -⟩
    · rw [same]
      exact stale
    · rw [same]
      exact commanded
    · rw [same]
      exact enough count few

namespace OutOfStep

variable {start : Bus}

/-- A transaction keeps the host out of step. -/
theorem transact (idle : start.Idle) (out : OutOfStep script start bus) {command : Command}
    (issued : command.Issued) (timeout : Duration) :
    Io.After (Bus.answer script) (command.transact timeout) () bus fun _ _ reached =>
      OutOfStep script start reached := by
  have known : Target.Known (Run.drawn script start bus) bus.target := out.run.known idle
  have stale := after_transact.mpr (@cbwTransaction_stale script
    { bus with draws := bus.draws + 1 } _ _ _ _ _ (issued.stages (script.tags bus.draws))
    (issued.consistent _) known out.stale out.obeyed timeout)
  refine ((out.run.transact issued timeout).and
    (stale.and (after_completed (command.transact timeout) ()))).imp ?_
  intro outcome own reached both
  exact ⟨both.1, both.2.1, fun index most => out.obeyed index (both.2.2.length_le.trans most)⟩

/-- Reading the clock keeps the host out of step. -/
theorem tick (out : OutOfStep script start bus) :
    OutOfStep script start { bus with ticks := bus.ticks + 1 } :=
  ⟨.now out.run, out.stale, out.obeyed⟩

/-- A run keeps the host out of step. -/
theorem keep (idle : start.Idle) (out : OutOfStep script start bus) {reached : Bus}
    (later : Run script bus reached) : OutOfStep script start reached := by
  induction later with
  | start => exact out
  | now _ ih => exact ih.tick
  | command command timeout _ issued ih => exact ih.transact idle issued timeout

end OutOfStep

/-! ### The calls of the library -/

/-- The storages that have a name of their own. -/
inductive RkStorageType
  | emmc | sd0 | sd1 | nand | spiNand | spiNor | sata | pcie | ufs

def RkStorageType.code : RkStorageType → UInt8
  | .emmc => 1
  | .sd0 => 2
  | .sd1 => 3
  | .nand => 7
  | .spiNand => 8
  | .spiNor => 9
  | .sata => 10
  | .pcie => 11
  | .ufs => 12

/-- `RkDevice::switch_storage_type`. -/
def switchStorageType (storage : RkStorageType) : UsbIo Unit RkUsbError Unit :=
  switchStorage storage.code

/-- A call of the library that goes over the bulk pipes. A switch to a named storage is the switch to
its code. -/
inductive LibraryCall
  | resetDevice (subcode : UInt8)
  | readCapability (timeout : Duration)
  | readStorageInfo
  | readStorage
  | switchStorage (storage : UInt8)
  | writeLba (pos : UInt32) (data : List UInt8) (subcode : UInt8) (timeout : Duration)
  | readLba (pos : UInt32) (buf : List UInt8) (subcode : UInt8) (timeout : Duration)
  | eraseLba (pos count : UInt32) (timeout : Duration)

namespace LibraryCall

/-- The call, and the bytes it returns where it returns bytes. -/
def exec : LibraryCall → UsbIo Unit RkUsbError (List UInt8)
  | .resetDevice subcode => Rkusb.resetDevice subcode >>= fun _ => pure []
  | .readCapability timeout => Rkusb.readCapability timeout
  | .readStorageInfo => Rkusb.readStorageInfo >>= fun _ => pure []
  | .readStorage => Rkusb.readStorage >>= fun _ => pure []
  | .switchStorage storage => Rkusb.switchStorage storage >>= fun _ => pure []
  | .writeLba pos data subcode timeout =>
      Rkusb.writeLba pos data subcode timeout >>= fun _ => pure []
  | .readLba pos buf subcode timeout => Rkusb.readLba pos buf subcode timeout
  | .eraseLba pos count timeout => Rkusb.eraseLba pos count timeout >>= fun _ => pure []

/-- The call has a command to issue: a transfer of no bytes or no sectors has none. -/
def Issues : LibraryCall → Prop
  | .writeLba _ data _ _ => data.length ≠ 0
  | .readLba _ buf _ _ => buf.length ≠ 0
  | .eraseLba _ count _ => count ≠ 0
  | _ => True

/-- A call succeeds on an idle bus only. -/
theorem exec_failsUnlessIdle {call : LibraryCall} (issues : call.Issues) :
    ∃ effect, FailsUnlessIdle script effect call.exec := by
  cases call with
  | resetDevice subcode =>
    rw [exec, resetDevice_eq]
    exact ⟨_, ((FailsUnlessIdle.transact (.resetDevice subcode) _).bind _).bind _⟩
  | readCapability timeout =>
    rw [exec, readCapability_eq]
    exact ⟨_, (FailsUnlessIdle.transact .readCapability timeout).bind _⟩
  | readStorageInfo =>
    rw [exec, readStorageInfo_eq]
    exact ⟨_, ((FailsUnlessIdle.transact .readStorageInfo _).bind _).bind _⟩
  | readStorage =>
    rw [exec, readStorage_eq]
    exact ⟨_, ((FailsUnlessIdle.transact .readStorage _).bind _).bind _⟩
  | switchStorage storage =>
    rw [exec, switchStorage_eq]
    exact ⟨_, ((FailsUnlessIdle.transact (.switchStorage storage) _).bind _).bind _⟩
  | writeLba pos data subcode timeout =>
    exact ⟨_, (writeLba_failsUnlessIdle issues pos subcode timeout).bind _⟩
  | readLba pos buf subcode timeout =>
    exact ⟨_, readLba_failsUnlessIdle issues pos subcode timeout⟩
  | eraseLba pos count timeout =>
    exact ⟨_, (eraseLba_failsUnlessIdle pos issues timeout).bind _⟩

end LibraryCall

namespace Run

variable {start : Bus}

theorem ready_of_distinct (distinct : start.Distinct script bus) (idle : start.Idle)
    (run : Run script start bus) : bus.Ready script :=
  run.ready idle fun ⟨index, after, before, same⟩ => distinct index bus.draws after before le_rfl same

/-- **There is no way back in step.** Once something of an earlier command is left over on a device
that carries out all it is sent from then on, no further calls empty the pipe, and no call that has a
command to issue succeeds, whatever becomes of the transfers and however the calls are ordered. -/
theorem never_resynchronised (idle : start.Idle) (run : Run script start bus) (stale : ¬ bus.Idle)
    (obeyed : ∀ index, bus.target.completed.length ≤ index → script.verdicts index = 0)
    {reached : Bus} (later : Run script bus reached) (distinct : start.Distinct script reached) :
    ¬ reached.Idle ∧ ∀ call : LibraryCall, call.Issues → ∃ error,
      (call.exec.run (Bus.answer script) () reached).1.1 = .error error := by
  have out := OutOfStep.keep idle ⟨run, stale, obeyed⟩ later
  refine ⟨out.stale, fun call issues => ?_⟩
  obtain ⟨effect, fails⟩ := @LibraryCall.exec_failsUnlessIdle script call issues
  have refused := (fails reached (ready_of_distinct distinct idle out.run) out.stale).1
  cases outcome : (call.exec.run (Bus.answer script) () reached).1.1 with
  | ok value => exact absurd outcome (refused value)
  | error error => exact ⟨error, rfl⟩

/-- The capability is asked for after the reset whose status was not read. -/
def afterCapability : Bus :=
  ((Command.readCapability.transact 1).run (Bus.answer firstStatusLost) () afterUnreadReset).2

/-- After that the pipe is still not empty, and a sector cannot be written. -/
theorem never_resynchronised_writeLba : ¬afterCapability.Idle ∧ ∃ error,
    ((LibraryCall.writeLba 0 (List.replicate 512 7) 0 1).exec.run (Bus.answer firstStatusLost) ()
      afterCapability).1.1 = .error error := by
  have later : Run firstStatusLost afterUnreadReset afterCapability :=
    .command Command.readCapability 1 .start .readCapability
  obtain ⟨stale, fails⟩ := never_resynchronised (Bus.fresh_idle _) afterUnreadReset_run
    (fun idle => absurd idle.2 (by decide +kernel)) (fun _ _ => rfl) later
    (distinct_of_counting (fun _ => rfl) (by decide +kernel))
  have some : (List.replicate 512 (7 : UInt8)).length ≠ 0 := by
    rw [List.length_replicate]
    decide
  exact ⟨stale, fails (.writeLba 0 (List.replicate 512 7) 0 1) some⟩

end Run

end Rkusb
