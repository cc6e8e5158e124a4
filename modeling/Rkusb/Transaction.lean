/-
**What one transaction does.**

`cbwTransaction_target` is the inversion of `cbwTransaction`: which transfers reached the device and
which replies were taken off the pipe, for every outcome. Everything else about a transaction is read
off it.

* `Target.Known tags`: the replies on the pipe, and the command that waits for data, are those of
  earlier commands, with tags among `tags`. It is the invariant of the pipe
  (`cbwTransaction_known`).
* `cbwTransaction_ok`: under a fresh tag, a transaction that returns `Ok` found the pipe empty, the
  device carried out this very command, and what was read is what the device sent for it.
* `cbwTransaction_flash`: whatever it returns, the storages are as before or as the command leaves
  them.
-/

import Rkusb.Bus

namespace Rkusb

open Interaction Bytes FlatStore

variable {script : Script} {bus : Bus}

/-! ### Transfers -/

theorem after_now {δ ε α : Type} {own : δ} {next : Instant → UsbIo δ ε α}
    {post : Except ε α → δ → Bus → Prop} :
    Io.After (Bus.answer script) (now >>= next) own bus post ↔
      Io.After (Bus.answer script) (next (script.clock bus.ticks)) own
        { bus with ticks := bus.ticks + 1 } post :=
  Io.after_bind

theorem after_remainingTimeout {deadline : Instant}
    {post : Except RkUsbError Duration → Unit → Bus → Prop} :
    Io.After (Bus.answer script) (remainingTimeout deadline) () bus post ↔
      post (if script.clock bus.ticks < deadline then .ok (deadline - script.clock bus.ticks)
        else .error (.usb .timeout)) () { bus with ticks := bus.ticks + 1 } := by
  refine Io.after_bind.trans ?_
  show Io.After (Bus.answer script) (if script.clock bus.ticks < deadline then _ else _) _ _ _ ↔ _
  split <;> exact Iff.rfl

theorem after_writeBulk {bytes : List UInt8} {timeout : Duration}
    {post : Except RkUsbError Nat → Unit → Bus → Prop} :
    Io.After (Bus.answer script) (writeBulk bytes timeout) () bus post ↔
      post ((bus.bulkOut script bytes timeout).1.mapError .usb) ()
        (bus.bulkOut script bytes timeout).2 :=
  Io.after_bind.trans Io.after_ofExcept

theorem after_readBulk {capacity : Nat} {timeout : Duration}
    {post : Except RkUsbError (List UInt8) → Unit → Bus → Prop} :
    Io.After (Bus.answer script) (readBulk capacity timeout) () bus post ↔
      post ((bus.bulkIn script capacity timeout).1.mapError .usb) ()
        (bus.bulkIn script capacity timeout).2 :=
  Io.after_bind.trans Io.after_ofExcept

/-- The clock is read; nothing else moves. -/
theorem remainingTimeout_target (deadline : Instant) :
    Io.After (Bus.answer script) (remainingTimeout deadline) () bus fun _ _ reached =>
      reached.target = bus.target :=
  after_remainingTimeout.mpr rfl

/-- An outgoing transfer that is reported complete was taken by the device. -/
theorem writeBulk_target (bytes : List UInt8) (timeout : Duration) :
    Io.After (Bus.answer script) (writeBulk bytes timeout) () bus fun outcome _ reached =>
      match outcome with
      | .ok n => (n = bytes.length ∧ reached.target = bus.target.accept script bytes) ∨
          (n ≠ bytes.length ∧ reached.target = bus.target)
      | .error _ => reached.target = bus.target ∨
          reached.target = bus.target.accept script bytes := by
  refine after_writeBulk.mpr ?_
  unfold Bus.bulkOut
  cases bus.fault script with
  | none => exact .inl ⟨rfl, rfl⟩
  | error error taken => cases taken <;> simp [Bus.outcome, Except.mapError]
  | short count =>
    by_cases whole : bytes.length ≤ count
    · exact .inl ⟨Nat.min_eq_right whole, by simp [Bus.outcome, whole]⟩
    · refine .inr ⟨?_, by simp [Bus.outcome, whole]⟩
      show min count bytes.length ≠ bytes.length
      omega

/-- What a read gets of the reply at the head of the pipe: all of it, or a part that does not fill
the buffer. -/
def PartOf (capacity : Nat) (bytes reply : List UInt8) : Prop :=
  bytes = reply ∨ bytes.length < capacity ∧ bytes.length < reply.length

/-- A read that succeeds takes the reply at the head of the pipe; one that fails takes it or not. -/
theorem readBulk_target (capacity : Nat) (timeout : Duration) :
    Io.After (Bus.answer script) (readBulk capacity timeout) () bus fun outcome _ reached =>
      match outcome with
      | .ok bytes => ∃ reply rest, bus.target.replies = reply :: rest ∧
          bytes.length ≤ capacity ∧ PartOf capacity bytes reply ∧
          reached.target = bus.target.dropReplies 1
      | .error _ => ∃ count, reached.target = bus.target.dropReplies count := by
  refine after_readBulk.mpr ?_
  unfold Bus.bulkIn
  cases bus.fault script with
  | none =>
    cases waiting : bus.target.replies with
    | nil => exact ⟨1, by simp [Bus.delivered, Target.dropReplies, waiting]⟩
    | cons reply rest =>
      by_cases fits : reply.length ≤ capacity
      · simp only [Bus.delivered, if_pos fits]
        exact ⟨reply, rest, rfl, fits, .inl rfl, by simp [Target.dropReplies, waiting]⟩
      · simp only [Bus.delivered, if_neg fits]
        exact ⟨1, by simp [Target.dropReplies, waiting]⟩
  | error error taken =>
    cases taken with
    | false => exact ⟨0, rfl⟩
    | true => exact ⟨1, by simp [Bus.delivered, Target.dropReplies]⟩
  | short count =>
    cases waiting : bus.target.replies with
    | nil => exact ⟨1, by simp [Bus.delivered, Target.dropReplies, waiting]⟩
    | cons reply rest =>
      by_cases cut : count < capacity ∧ count < reply.length
      · have length : (reply.take count).length = count := by
          rw [List.length_take]
          omega
        simp only [Bus.delivered, if_pos cut]
        exact ⟨reply, rest, rfl, by omega, .inr (by rw [length]; exact cut),
          by simp [Target.dropReplies, waiting]⟩
      · by_cases fits : reply.length ≤ capacity
        · simp only [Bus.delivered, if_neg cut, if_pos fits]
          exact ⟨reply, rest, rfl, fits, .inl rfl, by simp [Target.dropReplies, waiting]⟩
        · simp only [Bus.delivered, if_neg cut, if_neg fits]
          exact ⟨1, by simp [Target.dropReplies, waiting]⟩

/-! ### Stages -/

theorem sendExactly_target (bytes : List UInt8) (deadline : Instant) :
    Io.After (Bus.answer script) (sendExactly bytes bytes.length deadline) () bus
      fun outcome _ reached =>
        match outcome with
        | .ok _ => reached.target = bus.target.accept script bytes
        | .error _ => reached.target = bus.target ∨
            reached.target = bus.target.accept script bytes := by
  refine (remainingTimeout_target deadline).bind (fun error own reached same => .inl same)
    fun timeout own waited same => ?_
  refine (writeBulk_target bytes timeout).bind (fun error own reached moved => same ▸ moved)
    fun n own reached moved => ?_
  rw [same] at moved
  rcases moved with ⟨rfl, taken⟩ | ⟨partly, kept⟩
  · rw [if_pos rfl]
    exact taken
  · rw [if_neg partly]
    exact .inl kept

/-- The device after the command stage, and after the data-out stage. -/
def Target.afterCommand (script : Script) (cbw : Cbw) (target : Target) : Target :=
  target.accept script cbw.asBytes

def Target.afterData (script : Script) (cbw : Cbw) (dataOut : Option (List UInt8))
    (target : Target) : Target :=
  match dataOut with
  | none => target.afterCommand script cbw
  | some data => (target.afterCommand script cbw).accept script data

/-- The data-in stage took `received` off the pipe. -/
def Received (cbw : Cbw) (dataIn : Option (List UInt8)) (replies : List (List UInt8))
    (received : Nat × List UInt8) : Prop :=
  match dataIn with
  | none => received = (0, [])
  | some buf => ∃ reply rest bytes, replies = reply :: rest ∧ PartOf buf.length bytes reply ∧
      cbw.dataTransferLength.toNat ≤ bytes.length ∧ bytes.length ≤ buf.length ∧
      received = (bytes.length, bytes ++ buf.drop bytes.length)

theorem receiveData_target (cbw : Cbw) (dataIn : Option (List UInt8)) (deadline : Instant) :
    Io.After (Bus.answer script) (receiveData cbw dataIn deadline) () bus fun outcome _ reached =>
      match outcome with
      | .ok received => Received cbw dataIn bus.target.replies received ∧
          reached.target = bus.target.dropReplies dataIn.toList.length
      | .error _ => ∃ count, reached.target = bus.target.dropReplies count := by
  cases dataIn with
  | none => exact ⟨rfl, rfl⟩
  | some buf =>
    refine (remainingTimeout_target deadline).bind
      (fun error own reached same => ⟨0, same⟩) fun timeout own waited same => ?_
    refine (readBulk_target buf.length timeout).bind
      (fun error own reached moved => same ▸ moved) fun bytes own reached moved => ?_
    rw [same] at moved
    obtain ⟨reply, rest, waiting, fits, part, left⟩ := moved
    by_cases bad : bytes.length < cbw.dataTransferLength.toNat ∨ buf.length < bytes.length
    · rw [if_pos bad]
      exact ⟨1, left⟩
    · rw [if_neg bad]
      rw [not_or] at bad
      exact ⟨⟨reply, rest, bytes, waiting, part, by omega, fits, rfl⟩, left⟩

/-- The reply is a good status for the command. -/
def Acknowledges (cbw : Cbw) (reply : List UInt8) : Prop :=
  ∃ csw, Csw.tryReadFromBytes reply = some csw ∧ csw.signature = CSW_SIGN ∧ csw.tag = cbw.tag ∧
    csw.status = 0

theorem receiveStatus_target (cbw : Cbw) (deadline : Instant) :
    Io.After (Bus.answer script) (receiveStatus cbw deadline) () bus fun outcome _ reached =>
      match outcome with
      | .ok _ => ∃ reply rest, bus.target.replies = reply :: rest ∧ Acknowledges cbw reply ∧
          reached.target = bus.target.dropReplies 1
      | .error _ => ∃ count, reached.target = bus.target.dropReplies count := by
  refine (remainingTimeout_target deadline).bind
    (fun error own reached same => ⟨0, same⟩) fun timeout own waited same => ?_
  refine (readBulk_target Csw.size timeout).bind
    (fun error own reached moved => same ▸ moved) fun bytes own reached moved => ?_
  rw [same] at moved
  obtain ⟨reply, rest, waiting, fits, part, left⟩ := moved
  cases parsed : Csw.tryReadFromBytes bytes with
  | none => exact ⟨1, left⟩
  | some csw =>
    -- 13 bytes were read, so the buffer is full and the reply was delivered whole
    have whole : bytes = reply := by
      have full : bytes.length = Csw.size := by
        by_contra other
        rw [Csw.tryReadFromBytes, if_neg other] at parsed
        cases parsed
      rcases part with same | ⟨short, _⟩
      · exact same
      · omega
    show Io.After _ (ite _ _ _) _ _ _
    split
    · exact ⟨1, left⟩
    · rename_i signed
      split
      · exact ⟨1, left⟩
      · rename_i tagged
        split
        · exact ⟨1, left⟩
        · rename_i good
          rw [not_not] at signed tagged good
          exact ⟨reply, rest, waiting, ⟨csw, whole ▸ parsed, signed, tagged, good⟩, left⟩

@[simp] theorem Target.dropReplies_dropReplies (target : Target) (first second : Nat) :
    (target.dropReplies first).dropReplies second = target.dropReplies (first + second) := by
  simp [Target.dropReplies, List.drop_drop]

/-- **The inversion of a transaction.** On success the command and its data reached the device, and
the data-in stage and the status stage took what they accepted off the pipe. On failure the device
got nothing, the command, or the command and its data, and some replies may be gone. -/
theorem cbwTransaction_target (cbw : Cbw) (dataOut dataIn : Option (List UInt8))
    (timeout : Duration) :
    Io.After (Bus.answer script) (cbwTransaction cbw dataOut dataIn timeout) () bus
      fun outcome _ reached =>
        match outcome with
        | .ok received =>
            Received cbw dataIn (bus.target.afterData script cbw dataOut).replies received ∧
            (∃ reply rest, ((bus.target.afterData script cbw dataOut).dropReplies
                dataIn.toList.length).replies = reply :: rest ∧ Acknowledges cbw reply) ∧
            reached.target =
              (bus.target.afterData script cbw dataOut).dropReplies (dataIn.toList.length + 1)
        | .error _ => ∃ count,
            reached.target = bus.target.dropReplies count ∨
            reached.target = (bus.target.afterCommand script cbw).dropReplies count ∨
            reached.target = (bus.target.afterData script cbw dataOut).dropReplies count := by
  refine after_now.mpr ?_
  have commandStage := @sendExactly_target script { bus with ticks := bus.ticks + 1 } cbw.asBytes
    (script.clock bus.ticks + timeout)
  rw [length_cbw_asBytes] at commandStage
  refine commandStage.bind (fun error own reached moved => ?_) fun _ own commanded moved => ?_
  · rcases moved with kept | taken
    · exact ⟨0, .inl kept⟩
    · exact ⟨0, .inr (.inl taken)⟩
  have dataStage : Io.After (Bus.answer script) (sendData dataOut (script.clock bus.ticks + timeout))
      () commanded fun outcome _ reached =>
        match outcome with
        | .ok _ => reached.target = bus.target.afterData script cbw dataOut
        | .error _ => reached.target = bus.target.afterCommand script cbw ∨
            reached.target = bus.target.afterData script cbw dataOut := by
    cases dataOut with
    | none => exact moved
    | some data =>
      refine (sendExactly_target data _).imp ?_
      intro outcome own reached moved'
      rw [moved] at moved'
      exact moved'
  refine dataStage.bind (fun error own reached moved' => ?_) fun _ own delivered moved' => ?_
  · rcases moved' with kept | taken
    · exact ⟨0, .inr (.inl kept)⟩
    · exact ⟨0, .inr (.inr taken)⟩
  refine (receiveData_target cbw dataIn _).bind (fun error own reached lost => ?_)
    fun received own drained taken => ?_
  · obtain ⟨count, lost⟩ := lost
    exact ⟨count, .inr (.inr (lost.trans (by rw [moved'])))⟩
  rw [moved'] at taken
  refine (receiveStatus_target cbw _).bind (fun error own reached lost => ?_)
    fun _ own reached acknowledged => ?_
  · obtain ⟨count, lost⟩ := lost
    exact ⟨_, .inr (.inr (lost.trans (by rw [taken.2, Target.dropReplies_dropReplies])))⟩
  · obtain ⟨reply, rest, waiting, good, left⟩ := acknowledged
    rw [taken.2] at waiting left
    exact ⟨taken.1, ⟨reply, rest, waiting, good⟩,
      left.trans (Target.dropReplies_dropReplies _ _ _)⟩

/-! ### What the device makes of a command -/

/-- How the stages of a transaction fit its command: the data-out stage is the one the device waits
for, and the data-in stage has room for the one the device sends. The lengths rule out that a data
transfer passes for a wrapper. -/
structure Stages (cbw : Cbw) (command : WireCommand) (dataOut dataIn : Option (List UInt8)) :
    Prop where
  decoded : WireCommand.decode cbw.asBytes = some command
  out : ∀ data, dataOut = some data → command.expectsData ∧ data.length = command.transferLength
  noOut : dataOut = none → ¬ command.expectsData
  inn : ∀ buf, dataIn = some buf → command.flags = DIRECTION_IN ∧ 0 < command.transferLength ∧
    command.transferLength ≤ buf.length
  noIn : dataIn = none → ¬ (command.flags = DIRECTION_IN ∧ 0 < command.transferLength)
  transferLength : cbw.dataTransferLength.toNat = command.transferLength
  tag : cbw.tag = command.tag
  notCsw : command.transferLength ≠ Csw.size
  notCbw : command.transferLength ≠ Cbw.size

/-- What the device sends for a command is as long as the command says. -/
theorem WireCommand.length_of_dataIn {command : WireCommand} {bytes disk : Nat → UInt8}
    {sent : List UInt8} (sends : command.dataIn bytes disk = some sent) :
    sent.length = command.transferLength := by
  unfold WireCommand.dataIn at sends
  split at sends
  · rw [Option.some.injEq] at sends
    rw [← sends]
    split <;> exact length_slice _ _ _
  · cases sends

namespace Target

/-- Every status wrapper on the pipe, and the command that waits for data, carries a tag of
`tags`. -/
structure Known (tags : UInt32 → Prop) (target : Target) : Prop where
  replies : ∀ reply ∈ target.replies, ∀ csw, Csw.tryReadFromBytes reply = some csw → tags csw.tag
  pending : ∀ command, target.pending = some command →
    tags command.tag ∧ command.transferLength ≠ Cbw.size

theorem Idle.known {target : Target} (idle : target.Idle) (tags : UInt32 → Prop) :
    target.Known tags where
  replies reply member := by
    rw [idle.2] at member
    cases member
  pending command waiting := by
    rw [idle.1] at waiting
    cases waiting

theorem Known.dropReplies {tags : UInt32 → Prop} {target : Target} (known : target.Known tags)
    (count : Nat) : (target.dropReplies count).Known tags where
  replies reply member := known.replies reply (List.mem_of_mem_drop member)
  pending := known.pending

theorem Known.mono {tags tags' : UInt32 → Prop} {target : Target} (known : target.Known tags)
    (wider : ∀ tag, tags tag → tags' tag) : target.Known tags' where
  replies reply member csw parsed := wider _ (known.replies reply member csw parsed)
  pending command waiting :=
    ⟨wider _ (known.pending command waiting).1, (known.pending command waiting).2⟩

theorem tryReadFromBytes_statusOf {command : WireCommand} {status : UInt8} :
    Csw.tryReadFromBytes (statusOf command status) =
      some { signature := CSW_SIGN, tag := command.tag, dataResidue := 0, status := status } :=
  csw_tryReadFromBytes_asBytes _

/-- Replies that are not status wrappers of other commands may join the pipe. -/
theorem Known.complete {tags : UInt32 → Prop} {target : Target} (known : target.Known tags)
    (script : Script) {command : WireCommand} (data : List UInt8) (tagged : tags command.tag)
    (notCsw : command.transferLength ≠ Csw.size) :
    (target.complete script command data).Known tags := by
  have refused : ∀ status, (target.refuse command status).Known tags := fun status => {
    replies := fun reply member csw parsed => by
      rcases List.mem_append.mp member with earlier | new
      · exact known.replies reply earlier csw parsed
      · rw [List.mem_singleton.mp new, tryReadFromBytes_statusOf, Option.some.injEq] at parsed
        rw [← parsed]
        exact tagged
    pending := fun command waiting => by cases waiting }
  unfold Target.complete
  split
  · exact refused _
  split
  · refine ⟨fun reply member csw parsed => ?_, fun command waiting => by cases waiting⟩
    rcases List.mem_append.mp member with earlier | new
    · rcases List.mem_append.mp earlier with old | sent
      · exact known.replies reply old csw parsed
      · -- a data transfer has not the length of a status wrapper
        exfalso
        have length : reply.length = command.transferLength :=
          WireCommand.length_of_dataIn (Option.mem_toList.mp sent)
        rw [Csw.tryReadFromBytes, if_neg (length ▸ notCsw)] at parsed
        cases parsed
    · rw [List.mem_singleton.mp new, tryReadFromBytes_statusOf, Option.some.injEq] at parsed
      rw [← parsed]
      exact tagged
  · exact refused _

/-- A completed command was carried out, or refused with a status that is not 0. -/
theorem complete_cases (script : Script) (command : WireCommand) (data : List UInt8)
    (target : Target) :
    target.complete script command data = target.perform script command data ∨
      ∃ status, status ≠ 0 ∧ target.complete script command data = target.refuse command status := by
  unfold complete
  split
  · exact .inr ⟨2, by decide, rfl⟩
  split
  · exact .inl rfl
  · rename_i bad
    exact .inr ⟨_, bad, rfl⟩

/-- The device as a command finds it: one that still waits for data gives up. -/
def settled (target : Target) : Target :=
  match target.pending with
  | none => target
  | some waiting => target.refuse waiting 2

@[simp] theorem settled_flash (target : Target) : target.settled.flash = target.flash := by
  unfold settled
  split <;> rfl

@[simp] theorem settled_disk (target : Target) : target.settled.disk = target.disk :=
  congrArg Banks.current target.settled_flash

/-- The replies of a storage that was waiting for a command are those to the command. -/
theorem Idle.replies_perform {target : Target} (idle : target.Idle) (script : Script)
    (command : WireCommand) (data : List UInt8) :
    (target.perform script command data).replies =
      (command.dataIn (script.contents target.completed.length) target.disk).toList ++
        [Target.statusOf command 0] := by
  show target.replies ++ _ ++ _ = _
  rw [idle.2, List.nil_append]

theorem Idle.settled {target : Target} (idle : target.Idle) : target.settled = target := by
  unfold Target.settled
  rw [idle.1]

theorem Known.settled {tags : UInt32 → Prop} {target : Target} (known : target.Known tags) :
    target.settled.Known tags := by
  unfold Target.settled
  split
  · exact known
  · rename_i waiting pending
    refine ⟨fun reply member csw parsed => ?_, fun command none => by cases none⟩
    rcases List.mem_append.mp member with earlier | new
    · exact known.replies reply earlier csw parsed
    · rw [List.mem_singleton.mp new, tryReadFromBytes_statusOf, Option.some.injEq] at parsed
      rw [← parsed]
      exact (known.pending waiting pending).1

/-- An empty pipe after settling was an idle device. -/
theorem idle_of_settled {target : Target} (empty : target.settled.replies = []) : target.Idle := by
  unfold settled at empty
  split at empty
  · rename_i pending
    exact ⟨pending, empty⟩
  · rename_i waiting pending
    simp [refuse] at empty

section Accepted

variable {cbw : Cbw} {command : WireCommand} {dataOut dataIn : Option (List UInt8)}
  {tags : UInt32 → Prop} {target : Target}

theorem accept_command (script : Script) (stages : Stages cbw command dataOut dataIn)
    (known : target.Known tags) :
    target.afterCommand script cbw =
      if command.expectsData then { target.settled with pending := some command }
      else target.settled.complete script command [] := by
  have received : ∀ target : Target, target.command script cbw.asBytes =
      if command.expectsData then { target with pending := some command }
      else target.complete script command [] := fun target => by
    unfold Target.command
    rw [stages.decoded]
  unfold afterCommand accept Target.settled
  cases pending : target.pending with
  | none => exact received target
  | some waiting =>
    have other : cbw.asBytes.length ≠ waiting.transferLength := fun same =>
      (known.pending waiting pending).2 (same.symm.trans (length_cbw_asBytes cbw))
    simp only [if_neg other]
    exact received _

/-- **Once all stages are out, the command is completed.** -/
theorem afterData_eq (stages : Stages cbw command dataOut dataIn) (known : target.Known tags) :
    target.afterData script cbw dataOut =
      target.settled.complete script command (dataOut.getD []) := by
  have commanded := accept_command script stages known
  cases dataOut with
  | none =>
    rw [if_neg (stages.noOut rfl)] at commanded
    exact commanded
  | some data =>
    obtain ⟨expects, length⟩ := stages.out data rfl
    rw [if_pos expects] at commanded
    show (target.afterCommand script cbw).accept script data = _
    rw [commanded]
    show (if data.length = command.transferLength then _ else _) = _
    rw [if_pos length]
    rfl

/-- The pipe stays one of earlier commands and this one. -/
theorem Known.after (script : Script) (known : target.Known tags)
    (stages : Stages cbw command dataOut dataIn) (tagged : tags command.tag) :
    (target.afterCommand script cbw).Known tags ∧
      (target.afterData script cbw dataOut).Known tags := by
  refine ⟨?_, ?_⟩
  · rw [accept_command script stages known]
    split
    · exact ⟨known.settled.replies, fun waiting same => by
        cases same
        exact ⟨tagged, stages.notCbw⟩⟩
    · exact known.settled.complete script [] tagged stages.notCsw
  · rw [afterData_eq stages known]
    exact known.settled.complete script _ tagged stages.notCsw

/-- The storages before the command, or after it. -/
theorem flash_complete (script : Script) (command : WireCommand) (target : Target)
    (data : List UInt8) :
    (target.complete script command data).flash = target.flash ∨
      (target.complete script command data).flash =
        command.effect script.erased script.restarts data target.flash := by
  rcases complete_cases script command data target with performed | ⟨status, -, refused⟩
  · rw [performed]
    exact .inr rfl
  · rw [refused]
    exact .inl rfl

end Accepted

/-- On the selected storage, a command that does not select another one stores its data, or not. -/
theorem disk_of_flash {command : WireCommand} (stays : ¬WireCommand.Selects command.opcode)
    {erased : UInt8} {restarts : UInt8 → Flash → UInt8} {data : List UInt8} {before after : Target}
    (moved : after.flash = before.flash ∨
      after.flash = command.effect erased restarts data before.flash) :
    after.disk = before.disk ∨ after.disk = command.stores erased data before.disk := by
  refine moved.imp (congrArg Banks.current) fun done => ?_
  unfold disk
  rw [done, WireCommand.current_effect _ _ _ _ stays]

end Target

/-! ### The laws of a transaction -/

section Laws

variable {cbw : Cbw} {command : WireCommand} {dataOut dataIn : Option (List UInt8)}
  {tags : UInt32 → Prop}

/-- A queued reply of another command is not taken for the status of this one. -/
theorem Target.Known.not_acknowledges {target : Target} (known : target.Known tags)
    (fresh : ¬ tags cbw.tag) {reply : List UInt8} (member : reply ∈ target.replies) :
    ¬ Acknowledges cbw reply := by
  rintro ⟨csw, parsed, -, tagged, -⟩
  exact fresh (tagged ▸ known.replies reply member csw parsed)

theorem Acknowledges.status {status : UInt8}
    (good : Acknowledges cbw (Target.statusOf command status)) : status = 0 := by
  obtain ⟨csw, parsed, -, -, zero⟩ := good
  rw [Target.tryReadFromBytes_statusOf, Option.some.injEq] at parsed
  rw [← parsed] at zero
  exact zero

theorem Acknowledges.length {reply : List UInt8} (good : Acknowledges cbw reply) :
    reply.length = Csw.size := by
  obtain ⟨csw, parsed, -⟩ := good
  by_contra other
  rw [Csw.tryReadFromBytes, if_neg other] at parsed
  cases parsed

/-- **The invariant of the pipe.** A transaction adds replies under its own tag only. -/
theorem cbwTransaction_known (script : Script) (bus : Bus)
    (stages : Stages cbw command dataOut dataIn)
    (known : bus.target.Known tags) (tagged : tags cbw.tag) (timeout : Duration) :
    Io.After (Bus.answer script) (cbwTransaction cbw dataOut dataIn timeout) () bus
      fun _ _ reached => reached.target.Known tags := by
  obtain ⟨commanded, delivered⟩ := known.after script stages (stages.tag ▸ tagged)
  refine (cbwTransaction_target cbw dataOut dataIn timeout).imp ?_
  intro outcome own reached moved
  cases outcome with
  | ok received =>
    rw [moved.2.2]
    exact delivered.dropReplies _
  | error error =>
    obtain ⟨count, same | same | same⟩ := moved
    · rw [same]
      exact known.dropReplies _
    · rw [same]
      exact commanded.dropReplies _
    · rw [same]
      exact delivered.dropReplies _

/-- **Whatever a transaction returns**, the storages are as before or as the command leaves them. -/
theorem cbwTransaction_flash (script : Script) (bus : Bus)
    (stages : Stages cbw command dataOut dataIn)
    (known : bus.target.Known tags) (timeout : Duration) :
    Io.After (Bus.answer script) (cbwTransaction cbw dataOut dataIn timeout) () bus
      fun _ _ reached => reached.target.flash = bus.target.flash ∨
        reached.target.flash =
          command.effect script.erased script.restarts (dataOut.getD []) bus.target.flash := by
  have delivered : (bus.target.afterData script cbw dataOut).flash = bus.target.flash ∨
      (bus.target.afterData script cbw dataOut).flash =
        command.effect script.erased script.restarts (dataOut.getD []) bus.target.flash := by
    rw [Target.afterData_eq stages known]
    have done := Target.flash_complete script command bus.target.settled
      (dataOut.getD [])
    rwa [Target.settled_flash] at done
  have commanded : (bus.target.afterCommand script cbw).flash = bus.target.flash ∨
      (bus.target.afterCommand script cbw).flash =
        command.effect script.erased script.restarts (dataOut.getD []) bus.target.flash := by
    rw [Target.accept_command script stages known]
    split
    · exact .inl (Target.settled_flash _)
    · rename_i noData
      cases dataOut with
      | some data => exact absurd (stages.out data rfl).1 noData
      | none =>
        have done := Target.flash_complete script command
          bus.target.settled []
        rwa [Target.settled_flash] at done
  refine (cbwTransaction_target cbw dataOut dataIn timeout).imp ?_
  intro outcome own reached moved
  cases outcome with
  | ok received =>
    rw [moved.2.2]
    exact delivered
  | error error =>
    obtain ⟨count, same | same | same⟩ := moved
    · rw [same]
      exact .inl rfl
    · rw [same]
      exact commanded
    · rw [same]
      exact delivered

/-- The device sends data for a command exactly where the host has a data-in stage. -/
theorem Stages.length_dataIn (stages : Stages cbw command dataOut dataIn) (bytes disk : Nat → UInt8) :
    (command.dataIn bytes disk).toList.length = dataIn.toList.length := by
  unfold WireCommand.dataIn
  cases dataIn with
  | none => rw [if_neg (stages.noIn rfl)]
  | some buf =>
    obtain ⟨inward, positive, -⟩ := stages.inn buf rfl
    rw [if_pos ⟨inward, positive⟩]
    rfl

theorem Stages.sends {buf : List UInt8} (stages : Stages cbw command dataOut dataIn)
    (reads : dataIn = some buf) (bytes disk : Nat → UInt8) :
    ∃ sent, command.dataIn bytes disk = some sent := by
  obtain ⟨inward, positive, -⟩ := stages.inn buf reads
  unfold WireCommand.dataIn
  rw [if_pos ⟨inward, positive⟩]
  exact ⟨_, rfl⟩

/-- **A good status is found only on an empty pipe**: the replies before it are as many as the
stages that read them, and none of them is stale. -/
theorem replies_of_acknowledged {reply : List UInt8} {rest : List (List UInt8)}
    (stages : Stages cbw command dataOut dataIn) (known : bus.target.Known tags)
    (fresh : ¬ tags cbw.tag)
    (waiting : ((bus.target.settled.perform script command (dataOut.getD [])).dropReplies
      dataIn.toList.length).replies = reply :: rest)
    (good : Acknowledges cbw reply) : bus.target.settled.replies = [] := by
  have sentLength := stages.length_dataIn
    (script.contents bus.target.settled.completed.length) bus.target.settled.disk
  have before : ∀ early ∈ bus.target.settled.replies ++
      (command.dataIn (script.contents bus.target.settled.completed.length)
        bus.target.settled.disk).toList, ¬ Acknowledges cbw early := fun early member => by
    rcases List.mem_append.mp member with stale | sent
    · exact known.settled.not_acknowledges fresh stale
    · intro acknowledged
      rw [Option.mem_toList] at sent
      exact stages.notCsw ((WireCommand.length_of_dataIn sent).symm.trans acknowledged.length)
  by_contra nonempty
  have positive := List.length_pos_iff.mpr nonempty
  have early : dataIn.toList.length < (bus.target.settled.replies ++
      (command.dataIn (script.contents bus.target.settled.completed.length)
        bus.target.settled.disk).toList).length := by
    rw [List.length_append]
    omega
  have found : reply = (bus.target.settled.replies ++
      (command.dataIn (script.contents bus.target.settled.completed.length)
        bus.target.settled.disk).toList)[dataIn.toList.length] := by
    have head := congrArg List.head? waiting
    change List.head? (List.drop _ (_ ++ [Target.statusOf command 0])) = some reply at head
    rw [List.head?_drop, List.getElem?_append_left early, List.getElem?_eq_getElem early] at head
    exact (Option.some.inj head).symm
  exact before reply (found ▸ List.getElem_mem early) good

/-- What the caller gets of the data the device sent. -/
def receivedOf (sent dataIn : Option (List UInt8)) : Nat × List UInt8 :=
  match dataIn with
  | none => (0, [])
  | some buf => ((sent.getD []).length, sent.getD [] ++ buf.drop (sent.getD []).length)

/-- Data of the full transfer length was not cut short. -/
theorem Received.received {bytes disk : Nat → UInt8} {rest : List (List UInt8)}
    {received : Nat × List UInt8} (stages : Stages cbw command dataOut dataIn)
    (taken : Received cbw dataIn ((command.dataIn bytes disk).toList ++ rest) received) :
    received = receivedOf (command.dataIn bytes disk) dataIn := by
  cases dataIn with
  | none => exact taken
  | some buf =>
    obtain ⟨sent, sends⟩ := stages.sends rfl bytes disk
    obtain ⟨reply, others, bytes, queued, part, enough, -, rfl⟩ := taken
    have length := WireCommand.length_of_dataIn sends
    rw [sends] at queued ⊢
    obtain ⟨rfl, -⟩ := List.cons.inj queued
    rcases part with rfl | ⟨-, short⟩
    · rfl
    · rw [stages.transferLength] at enough
      omega

/-- The device once a command was carried out and its replies were read. -/
def Target.carriedOut (script : Script) (command : WireCommand) (data : List UInt8)
    (target : Target) : Target :=
  { target.perform script command data with replies := [] }

theorem Target.disk_carriedOut (script : Script) {command : WireCommand}
    (stays : ¬WireCommand.Selects command.opcode) (data : List UInt8) (target : Target) :
    (target.carriedOut script command data).disk =
      command.stores script.erased data target.disk :=
  WireCommand.current_effect _ _ _ _ stays

/-- **A transaction that returns `Ok`** found the device idle; the device carried out this very
command, and the caller has what it sent for it. -/
theorem cbwTransaction_ok (script : Script) (bus : Bus)
    (stages : Stages cbw command dataOut dataIn)
    (known : bus.target.Known tags) (fresh : ¬ tags cbw.tag) (timeout : Duration) :
    Io.After (Bus.answer script) (cbwTransaction cbw dataOut dataIn timeout) () bus
      fun outcome _ reached => ∀ received, outcome = .ok received →
        bus.target.Idle ∧
        reached.target = bus.target.carriedOut script command (dataOut.getD []) ∧
        received = receivedOf (command.dataIn
          (script.contents bus.target.completed.length) bus.target.disk) dataIn := by
  refine (cbwTransaction_target cbw dataOut dataIn timeout).imp ?_
  intro outcome own reached moved received same
  subst same
  obtain ⟨taken, ⟨reply, rest, waiting, good⟩, left⟩ := moved
  rw [Target.afterData_eq stages known] at taken waiting left
  have member : reply ∈ (bus.target.settled.complete script command (dataOut.getD [])).replies :=
    List.mem_of_mem_drop (waiting ▸ List.mem_cons_self)
  rcases Target.complete_cases script command (dataOut.getD []) bus.target.settled with
    performed | ⟨status, bad, refused⟩
  · rw [performed] at taken waiting left
    have empty := replies_of_acknowledged stages known fresh waiting good
    have idle := Target.idle_of_settled empty
    rw [idle.settled] at taken waiting left
    have sentLength := stages.length_dataIn
      (script.contents bus.target.completed.length) bus.target.disk
    have replies := Target.Idle.replies_perform idle script command (dataOut.getD [])
    refine ⟨idle, ?_, ?_⟩
    · have drained : (bus.target.perform script command (dataOut.getD [])).replies.drop
          (dataIn.toList.length + 1) = [] := List.drop_of_length_le (by
        rw [replies, List.length_append, sentLength, List.length_singleton])
      rw [left, Target.dropReplies, drained]
      rfl
    · rw [replies] at taken
      exact taken.received stages
  · -- a refused command answers with its status alone, and that is not 0
    rw [refused] at member
    rcases List.mem_append.mp member with stale | own
    · exact absurd good (known.settled.not_acknowledges fresh stale)
    · rw [List.mem_singleton.mp own] at good
      exact absurd good.status bad

end Laws

end Rkusb
