/-
**The transfers and the progress of one transaction.**

* `transact_emits`: whatever the other end does, a transaction for a command makes the transfers of
  `Command.transfers` in this order and stops early only with an error: 31 bytes that decode to the
  command, its data stage, and 13 bytes in.
* `transact_progress`: over transfers that do not fail and a device that carries everything out, a
  transaction fails only when a reading of the clock is past its deadline.
-/

import Rkusb.Run

namespace Rkusb

open Interaction Bytes FlatStore

variable {script : Script} {bus : Bus}

/-! ### Transfers -/

/-- One bulk-out transfer of acceptable bytes. -/
def Transfer.outs (accepts : List UInt8 → Prop) : Language Transfer :=
  { sent | ∃ bytes timeout, accepts bytes ∧ sent = [.bulkOut bytes timeout] }

/-- One bulk-in transfer into a buffer of the given length. -/
def Transfer.ins (capacity : Nat) : Language Transfer :=
  { sent | ∃ timeout, sent = [.bulkIn capacity timeout] }

/-- The transfers of a computation are a word of the language, or begin one. -/
abbrev Emits (script : Script) (plan : Language Transfer) {δ ε α : Type}
    (computation : UsbIo δ ε α) : Prop :=
  Io.Emits (Bus.answer script) Bus.trace plan computation

/-- The stages of a transaction with the given wrapper, buffers being told by their lengths. -/
def stageTransfers (wrapper : List UInt8 → Prop) (dataOut dataIn : Option Nat) :
    Language Transfer :=
  Transfer.outs wrapper * (match dataOut with
    | none => 1
    | some length => Transfer.outs fun bytes => bytes.length = length) *
  (match dataIn with
    | none => 1
    | some capacity => Transfer.ins capacity) * Transfer.ins Csw.size

/-- **The transfers of a command**: 31 bytes that decode to it, its data stage, its status. -/
def Command.transfers (command : Command) : Language Transfer :=
  stageTransfers
    (fun bytes => bytes.length = Cbw.size ∧
      ∃ tag, WireCommand.decode bytes = some (command.wire tag))
    (command.dataOut.map List.length) (command.dataIn.map List.length)

theorem Transfer.outs_nonempty {accepts : List UInt8 → Prop} (bytes : List UInt8)
    (accepted : accepts bytes) : ∃ sent, sent ∈ Transfer.outs accepts :=
  ⟨_, bytes, 0, accepted, rfl⟩

theorem Transfer.ins_nonempty (capacity : Nat) : ∃ sent, sent ∈ Transfer.ins capacity :=
  ⟨_, 0, rfl⟩

theorem remainingTimeout_emits (deadline : Instant) :
    Emits script 1 (remainingTimeout deadline) :=
  .of_silent fun _ _ => after_remainingTimeout.mpr rfl

theorem writeBulk_emits (bytes : List UInt8) (timeout : Duration) :
    Emits script (Transfer.outs fun sent => sent = bytes) (writeBulk bytes timeout) := by
  intro own bus
  exact after_writeBulk.mpr
    ⟨[.bulkOut bytes timeout], [], rfl, ⟨bytes, timeout, rfl, rfl⟩, fun _ _ => rfl⟩

theorem readBulk_emits (capacity : Nat) (timeout : Duration) :
    Emits script (Transfer.ins capacity) (readBulk capacity timeout) := by
  intro own bus
  exact after_readBulk.mpr ⟨[.bulkIn capacity timeout], [], rfl, ⟨timeout, rfl⟩, fun _ _ => rfl⟩

theorem sendExactly_emits (bytes : List UInt8) (size : Nat) (deadline : Instant) :
    Emits script (Transfer.outs fun sent => sent = bytes) (sendExactly bytes size deadline) := by
  refine (remainingTimeout_emits deadline).bind_of_silent (fun timeout => ?_)
    (Transfer.outs_nonempty _ rfl)
  refine (writeBulk_emits bytes timeout).bind_silent fun n => ?_
  split
  · exact .pure _
  · exact .throw _ ⟨[], Language.nil_mem_one⟩

theorem receiveData_emits (cbw : Cbw) (dataIn : Option (List UInt8)) (deadline : Instant) :
    Emits script (match dataIn.map List.length with
      | none => 1
      | some capacity => Transfer.ins capacity) (receiveData cbw dataIn deadline) := by
  cases dataIn with
  | none => exact .pure _
  | some buf =>
    refine (remainingTimeout_emits deadline).bind_of_silent (fun timeout => ?_)
      (Transfer.ins_nonempty _)
    refine (readBulk_emits buf.length timeout).bind_silent fun bytes => ?_
    split
    · exact .throw _ ⟨[], Language.nil_mem_one⟩
    · exact .pure _

theorem receiveStatus_emits (cbw : Cbw) (deadline : Instant) :
    Emits script (Transfer.ins Csw.size) (receiveStatus cbw deadline) := by
  have possible : ∃ word, word ∈ (1 : Language Transfer) := ⟨[], Language.nil_mem_one⟩
  refine (remainingTimeout_emits deadline).bind_of_silent (fun timeout => ?_)
    (Transfer.ins_nonempty _)
  refine (readBulk_emits Csw.size timeout).bind_silent fun bytes => ?_
  cases Csw.tryReadFromBytes bytes with
  | none => exact .throw _ possible
  | some csw =>
    show Io.Emits _ _ _ (ite _ _ _)
    split
    · exact .throw _ possible
    split
    · exact .throw _ possible
    split
    · exact .throw _ possible
    · exact .pure _

/-- **A transaction makes the transfers of its stages in order**, and stops early only with an
error. -/
theorem cbwTransaction_emits (cbw : Cbw) (dataOut dataIn : Option (List UInt8))
    (timeout : Duration) :
    Emits script (stageTransfers (fun bytes => bytes = cbw.asBytes) (dataOut.map List.length)
      (dataIn.map List.length)) (cbwTransaction cbw dataOut dataIn timeout) := by
  have dataStage (deadline : Instant) : Emits script (match dataOut.map List.length with
      | none => 1
      | some length => Transfer.outs fun bytes => bytes.length = length)
      (sendData dataOut deadline) := by
    cases dataOut with
    | none => exact .pure _
    | some buf =>
      refine (sendExactly_emits buf buf.length deadline).mono fun full planned => ?_
      obtain ⟨bytes, timeout, rfl, same⟩ := planned
      exact ⟨bytes, timeout, rfl, same⟩
  have inPossible : ∃ word, word ∈ (match dataIn.map List.length with
      | none => (1 : Language Transfer)
      | some capacity => Transfer.ins capacity) := by
    cases dataIn with
    | none => exact ⟨[], Language.nil_mem_one⟩
    | some buf => exact Transfer.ins_nonempty _
  have outPossible : ∃ word, word ∈ (match dataOut.map List.length with
      | none => (1 : Language Transfer)
      | some length => Transfer.outs fun bytes => bytes.length = length) := by
    cases dataOut with
    | none => exact ⟨[], Language.nil_mem_one⟩
    | some buf => exact Transfer.outs_nonempty buf rfl
  have statusPossible := Transfer.ins_nonempty Csw.size
  unfold stageTransfers
  rw [mul_assoc, mul_assoc]
  have wrapperPossible : ∃ word, word ∈ Transfer.outs fun sent => sent = cbw.asBytes :=
    Transfer.outs_nonempty _ rfl
  have rest := Io.nonempty_mul outPossible (Io.nonempty_mul inPossible statusPossible)
  refine Io.Emits.bind_of_silent (.of_silent fun _ _ => rfl) (fun start => ?_)
    (Io.nonempty_mul wrapperPossible rest)
  refine (sendExactly_emits cbw.asBytes Cbw.size (start + timeout)).bind (fun _ => ?_) rest
  refine (dataStage _).bind (fun _ => ?_) (Io.nonempty_mul inPossible statusPossible)
  refine (receiveData_emits cbw dataIn _).bind (fun received => ?_) statusPossible
  exact (receiveStatus_emits cbw _).bind_silent fun _ => .pure _

theorem stageTransfers_mono {wrapper wrapper' : List UInt8 → Prop} {dataOut dataIn : Option Nat}
    (le : ∀ bytes, wrapper bytes → wrapper' bytes) {sent : List Transfer}
    (planned : sent ∈ stageTransfers wrapper dataOut dataIn) :
    sent ∈ stageTransfers wrapper' dataOut dataIn := by
  unfold stageTransfers at planned ⊢
  simp only [mul_assoc] at planned ⊢
  obtain ⟨first, ⟨bytes, timeout, accepted, rfl⟩, rest, mem, rfl⟩ := Language.mem_mul.mp planned
  exact Language.append_mem_mul ⟨bytes, timeout, le bytes accepted, rfl⟩ mem

/-- **The transfers of a transaction for a command.** -/
theorem transact_emits (command : Command) (timeout : Duration) :
    Emits script command.transfers (command.transact timeout) := by
  intro own bus
  refine after_transact.mpr ((cbwTransaction_emits _ command.dataOut command.dataIn timeout own _).imp
    fun outcome own reached moved => ?_)
  obtain ⟨sent, rest, logged, planned, whole⟩ := moved
  refine ⟨sent, rest, logged, stageTransfers_mono (fun bytes same => ?_) planned, whole⟩
  rw [same]
  exact ⟨length_cbw_asBytes _, _, command.decode_wrap _⟩

/-! ### Progress -/

/-- No transfer fails and every command is carried out. -/
structure Script.Healthy (script : Script) : Prop where
  faults : ∀ index, script.faults index = .none
  verdicts : ∀ index, script.verdicts index = 0

theorem Script.undisturbed_healthy : Script.undisturbed.Healthy := ⟨fun _ => rfl, fun _ => rfl⟩

/-- At most `readings` readings of the clock were made, and an error means that one of them was past
the deadline. -/
def Prompt (script : Script) (deadline : Instant) (readings : Nat) (before : Bus) {α : Type}
    (outcome : Except RkUsbError α) (reached : Bus) : Prop :=
  reached.ticks ≤ before.ticks + readings ∧
    ∀ error, outcome = .error error → error = .usb .timeout ∧
      ∃ tick, tick < reached.ticks ∧ deadline ≤ script.clock tick

theorem sendExactly_progress (healthy : script.Healthy) (bytes : List UInt8)
    (deadline : Instant) :
    Io.After (Bus.answer script) (sendExactly bytes bytes.length deadline) () bus
      fun outcome _ reached => Prompt script deadline 1 bus outcome reached ∧
        ∀ value, outcome = .ok value → reached.target = bus.target.accept script bytes := by
  refine Io.after_bind.mpr (after_remainingTimeout.mpr ?_)
  by_cases soon : script.clock bus.ticks < deadline
  · rw [if_pos soon]
    refine Io.after_bind.mpr (after_writeBulk.mpr ?_)
    have fine : (Bus.bulkOut script bytes (deadline - script.clock bus.ticks)
        { bus with ticks := bus.ticks + 1 }).1 = .ok bytes.length := by
      show (Bus.outcome bytes (script.faults _)).1 = _
      rw [healthy.faults]
      rfl
    rw [fine]
    show Io.After _ (if bytes.length = bytes.length then pure () else _) _ _ _
    rw [if_pos rfl]
    refine ⟨⟨le_rfl, fun error same => by cases same⟩, fun _ _ => ?_⟩
    show (if (Bus.outcome bytes (script.faults _)).2 then _ else _) = _
    rw [healthy.faults]
    rfl
  · rw [if_neg soon]
    refine ⟨⟨le_rfl, fun error same => ?_⟩, fun value same => by cases same⟩
    cases same
    exact ⟨rfl, bus.ticks, Nat.lt_succ_self _, Nat.le_of_not_lt soon⟩

/-- A read of a reply that fits the buffer. -/
theorem readBulk_progress (healthy : script.Healthy) {reply : List UInt8}
    {rest : List (List UInt8)} (waiting : bus.target.replies = reply :: rest) {capacity : Nat}
    (fits : reply.length ≤ capacity) (timeout : Duration) :
    Io.After (Bus.answer script) (readBulk capacity timeout) () bus fun outcome _ reached =>
      outcome = .ok reply ∧ reached.ticks = bus.ticks ∧
        reached.target = { bus.target with replies := rest } := by
  have got : Bus.delivered capacity bus.target.replies (bus.fault script) = (.ok reply, rest) := by
    unfold Bus.fault
    rw [healthy.faults, waiting]
    simp only [Bus.delivered, if_pos fits]
  refine after_readBulk.mpr ?_
  unfold Bus.bulkIn
  rw [got]
  exact ⟨rfl, rfl, rfl⟩

theorem receiveData_progress (healthy : script.Healthy) {cbw : Cbw}
    {dataIn sent : Option (List UInt8)} {rest : List (List UInt8)}
    (waiting : bus.target.replies = sent.toList ++ rest) (answered : sent.isSome = dataIn.isSome)
    (fits : ∀ reply buf, sent = some reply → dataIn = some buf →
      cbw.dataTransferLength.toNat ≤ reply.length ∧ reply.length ≤ buf.length)
    (deadline : Instant) :
    Io.After (Bus.answer script) (receiveData cbw dataIn deadline) () bus
      fun outcome _ reached => Prompt script deadline 1 bus outcome reached ∧
        ∀ value, outcome = .ok value → reached.target = { bus.target with replies := rest } := by
  cases dataIn with
  | none =>
    obtain rfl : sent = none := by simpa using answered
    refine ⟨⟨Nat.le_succ _, fun error same => by cases same⟩, fun _ _ => ?_⟩
    rw [← show bus.target.replies = rest from waiting]
    rfl
  | some buf =>
    obtain ⟨reply, rfl⟩ : ∃ reply, sent = some reply := Option.isSome_iff_exists.mp answered
    obtain ⟨enough, room⟩ := fits reply buf rfl rfl
    refine Io.after_bind.mpr (after_remainingTimeout.mpr ?_)
    by_cases soon : script.clock bus.ticks < deadline
    · rw [if_pos soon]
      refine (readBulk_progress healthy (by exact waiting) room _).bind_ok ?_
      intro outcome own reached moved
      obtain ⟨rfl, ticks, target⟩ := moved
      refine ⟨reply, rfl, ?_⟩
      rw [if_neg (by omega)]
      exact ⟨⟨ticks.le, fun error same => by cases same⟩, fun _ _ => target⟩
    · rw [if_neg soon]
      refine ⟨⟨le_rfl, fun error same => ?_⟩, fun value same => by cases same⟩
      cases same
      exact ⟨rfl, bus.ticks, Nat.lt_succ_self _, Nat.le_of_not_lt soon⟩

theorem receiveStatus_progress (healthy : script.Healthy) {cbw : Cbw} {command : WireCommand}
    (tag : cbw.tag = command.tag) {rest : List (List UInt8)}
    (waiting : bus.target.replies = Target.statusOf command 0 :: rest) (deadline : Instant) :
    Io.After (Bus.answer script) (receiveStatus cbw deadline) () bus
      fun outcome _ reached => Prompt script deadline 1 bus outcome reached := by
  refine Io.after_bind.mpr (after_remainingTimeout.mpr ?_)
  by_cases soon : script.clock bus.ticks < deadline
  · rw [if_pos soon]
    refine (readBulk_progress healthy (by exact waiting) (length_csw_asBytes _).le _).bind_ok ?_
    intro outcome own reached moved
    obtain ⟨rfl, ticks, target⟩ := moved
    refine ⟨_, rfl, ?_⟩
    rw [csw_tryReadFromBytes_asBytes]
    show Io.After _ (ite _ _ _) _ _ _
    rw [if_neg (not_not.mpr rfl), if_neg (not_not.mpr tag.symm), if_neg (not_not.mpr rfl)]
    exact ⟨ticks.le, fun error same => by cases same⟩
  · rw [if_neg soon]
    refine ⟨le_rfl, fun error same => ?_⟩
    cases same
    exact ⟨rfl, bus.ticks, Nat.lt_succ_self _, Nat.le_of_not_lt soon⟩

/-- A computation that is prompt after one that was. -/
theorem Prompt.next {deadline : Instant} {first second : Nat} {before middle reached : Bus}
    {α β : Type} {outcome : Except RkUsbError α} {last : Except RkUsbError β}
    (here : Prompt script deadline first before outcome middle)
    (there : Prompt script deadline second middle last reached) :
    Prompt script deadline (first + second) before last reached := by
  have := here.1
  have := there.1
  exact ⟨by omega, there.2⟩

/-- An error ends the computation. -/
theorem Prompt.stop {deadline : Instant} {readings : Nat} {before reached : Bus} {α β : Type}
    {error : RkUsbError}
    (here : Prompt script deadline readings before (.error error : Except RkUsbError α) reached) :
    Prompt script deadline readings before (.error error : Except RkUsbError β) reached := by
  refine ⟨here.1, fun error' same => ?_⟩
  cases same
  exact here.2 error rfl

theorem Prompt.mono {deadline : Instant} {readings more : Nat} {before reached : Bus} {α : Type}
    {outcome : Except RkUsbError α} (here : Prompt script deadline readings before outcome reached)
    (le : readings ≤ more) : Prompt script deadline more before outcome reached :=
  ⟨here.1.trans (by omega), here.2⟩

theorem isSome_of_length {α β : Type} {first : Option α} {second : Option β}
    (same : first.toList.length = second.toList.length) : first.isSome = second.isSome := by
  cases first with
  | none =>
    cases second with
    | none => rfl
    | some => cases same
  | some =>
    cases second with
    | none => cases same
    | some => rfl

/-- **A transaction on an idle bus that carries everything out** makes at most five readings of the
clock and fails only past its deadline. -/
theorem cbwTransaction_progress (healthy : script.Healthy) {cbw : Cbw} {command : WireCommand}
    {dataOut dataIn : Option (List UInt8)} (stages : Stages cbw command dataOut dataIn)
    (consistent : command.consistent) (idle : bus.Idle) (timeout : Duration) :
    Io.After (Bus.answer script) (cbwTransaction cbw dataOut dataIn timeout) () bus
      fun outcome _ reached =>
        Prompt script (script.clock bus.ticks + timeout) 5 bus outcome reached := by
  have known : bus.target.Known fun _ => False := Target.Idle.known idle _
  have performed : bus.target.afterData script cbw dataOut =
      bus.target.perform script command (dataOut.getD []) := by
    rw [Target.afterData_eq stages known, Target.Idle.settled idle, Target.complete,
      if_neg (not_not.mpr consistent), if_pos (healthy.verdicts _)]
  have replies := Target.Idle.replies_perform idle script command (dataOut.getD [])
  have answered := isSome_of_length (stages.length_dataIn
    (script.contents bus.target.completed.length) bus.target.disk)
  have started : Prompt script (script.clock bus.ticks + timeout) 1 bus
      (.ok () : Except RkUsbError Unit) { bus with ticks := bus.ticks + 1 } :=
    ⟨le_rfl, fun error same => by cases same⟩
  refine after_now.mpr ?_
  have commandStage := @sendExactly_progress script { bus with ticks := bus.ticks + 1 } healthy
    cbw.asBytes (script.clock bus.ticks + timeout)
  rw [length_cbw_asBytes] at commandStage
  refine commandStage.bind (fun error own reached moved => ?_) fun _ own commanded moved => ?_
  · exact (started.next moved.1.stop).mono (by decide)
  obtain ⟨prompt, taken⟩ := moved
  have dataStage : Io.After (Bus.answer script) (sendData dataOut (script.clock bus.ticks + timeout))
      () commanded fun outcome _ reached =>
        Prompt script (script.clock bus.ticks + timeout) 1 commanded outcome reached ∧
          ∀ value, outcome = .ok value → reached.target = bus.target.afterData script cbw dataOut := by
    cases dataOut with
    | none => exact ⟨⟨Nat.le_succ _, fun error same => by cases same⟩, fun _ _ => taken _ rfl⟩
    | some data =>
      refine (sendExactly_progress healthy data _).imp ?_
      intro outcome own reached moved
      refine ⟨moved.1, fun value same => ?_⟩
      rw [moved.2 value same, taken _ rfl]
      rfl
  refine dataStage.bind (fun error own reached moved => ?_) fun _ own delivered moved => ?_
  · exact (started.next (prompt.next moved.1.stop)).mono (by decide)
  obtain ⟨prompt', delivers⟩ := moved
  have waiting : delivered.target.replies =
      (command.dataIn (script.contents bus.target.completed.length) bus.target.disk).toList ++
        [Target.statusOf command 0] := by rw [delivers _ rfl, performed, replies]
  refine (receiveData_progress healthy waiting answered (fun reply buf sends reads => ?_) _).bind
    (fun error own reached moved => ?_) fun received own drained moved => ?_
  · obtain ⟨-, -, room⟩ := stages.inn buf reads
    rw [stages.transferLength, WireCommand.length_of_dataIn sends]
    exact ⟨le_rfl, room⟩
  · exact (started.next (prompt.next (prompt'.next moved.1.stop))).mono (by decide)
  obtain ⟨prompt'', left⟩ := moved
  have last : drained.target.replies = Target.statusOf command 0 :: [] := by rw [left _ rfl]
  refine (receiveStatus_progress healthy stages.tag last _).bind (fun error own reached moved => ?_)
    fun _ own reached moved => ?_
  · exact started.next (prompt.next (prompt'.next (prompt''.next moved.stop)))
  · have whole := started.next (prompt.next (prompt'.next (prompt''.next moved)))
    exact ⟨whole.1, fun error same => by cases same⟩

theorem Command.consistent_of_opcode {command : Command} (opcode : UInt8)
    (same : command.opcode = opcode) (other : ¬ (opcode = 0x14 ∨ opcode = 0x15)) (tag : UInt32) :
    (command.wire tag).consistent := by
  intro sectors
  subst same
  exact absurd sectors other

/-- Every command of the library is one the device does not refuse for its lengths. -/
theorem Command.Issued.consistent {command : Command} (issued : command.Issued) (tag : UInt32) :
    (command.wire tag).consistent := by
  cases issued with
  | writeLba pos data subcode valid => exact fun _ => valid.toNat_ofNat.trans valid.count.symm
  | readLba pos data subcode valid => exact fun _ => valid.toNat_ofNat.trans valid.count.symm
  | eraseLba pos sectorCount => exact consistent_of_opcode 0x25 rfl (by decide) tag
  | resetDevice subcode => exact consistent_of_opcode 0xff rfl (by decide) tag
  | readCapability => exact consistent_of_opcode 0xAA rfl (by decide) tag
  | readStorageInfo => exact consistent_of_opcode 0x1A rfl (by decide) tag
  | readStorage => exact consistent_of_opcode 0x2B rfl (by decide) tag
  | switchStorage storage => exact consistent_of_opcode 0x2A rfl (by decide) tag

/-- **The progress of a command.** -/
theorem transact_progress (healthy : script.Healthy) {command : Command} (issued : command.Issued)
    (idle : bus.Idle) (timeout : Duration) :
    Io.After (Bus.answer script) (command.transact timeout) () bus fun outcome _ reached =>
      Prompt script (script.clock bus.ticks + timeout) 5 bus outcome reached :=
  after_transact.mpr (cbwTransaction_progress healthy (issued.stages _) (issued.consistent _)
    (by exact idle) timeout)

end Rkusb
