/-
**The timeouts of the transfers.**

A transfer gets the time that is left until the deadline of its transaction, in nanoseconds, and
`rusb` hands the whole milliseconds of it to `libusb`, where 0 is no timeout.

* `Slot`: a transfer that a call may come to, with the reading of the clock that its timeout is taken
  from. The slots of a transaction and of a call (`transactionSlots`, `TimedCall.slots`) are read off
  the clock and the deadline.
* `Staged`, `transact_transacted`: a transaction starts the first of its transfers, each with the time
  that is left; over a device that carries everything out it stops only where no time is left.
* `round_timed`, `batch_timed`, `TimedCall.run_timed`: so does a call, transaction by transaction.
* `timeouts_limited_iff`: where the deadlines of a call fit an `Instant`, every transfer has a timeout,
  within the budget of its transaction, if and only if no slot before its deadline is a number of
  whole milliseconds before it that is a multiple of `2^32`.
-/

import Rkusb.Overflow

namespace Rkusb

open Interaction Bytes

variable {script : Script} {bus : Bus}

/-! ### Slots -/

/-- A transfer that a call may come to: the reading of the clock before it, and the deadline and the
budget of its transaction. -/
structure Slot where
  tick : Nat
  deadline : Instant
  budget : Duration

/-- The time that is left for the transfer. -/
def Slot.left (clock : Nat → Instant) (slot : Slot) : Duration := slot.deadline - clock slot.tick

/-- The slots of some stages that follow each other. -/
def stageSlots (deadline : Instant) (budget : Duration) : Nat → Nat → List Slot
  | 0, _ => []
  | stages + 1, tick => ⟨tick, deadline, budget⟩ :: stageSlots deadline budget stages (tick + 1)

/-- The slots of a transaction: the first reading is for its deadline. -/
def transactionSlots (clock : Nat → Instant) (budget : Duration) (stages tick : Nat) : List Slot :=
  stageSlots (clock tick + budget) budget stages (tick + 1)

/-- The slots of transactions that follow each other: each gets as its budget what is left until the
deadline of the whole. -/
def batchSlots (clock : Nat → Instant) (deadline : Instant) (stages : Nat) : Nat → Nat → List Slot
  | 0, _ => []
  | rounds + 1, tick =>
      transactionSlots clock (deadline - clock tick) stages (tick + 1) ++
        batchSlots clock deadline stages rounds (tick + stages + 2)

theorem stageSlots_add (deadline : Instant) (budget : Duration) (first second tick : Nat) :
    stageSlots deadline budget (first + second) tick =
      stageSlots deadline budget first tick ++ stageSlots deadline budget second (tick + first) := by
  induction first generalizing tick with
  | zero => rw [Nat.zero_add]; rfl
  | succ first ih =>
    rw [Nat.succ_add, stageSlots, ih, Nat.add_assoc tick, Nat.add_comm 1]
    rfl

theorem mem_stageSlots {deadline : Instant} {budget : Duration} {stages tick : Nat} {slot : Slot}
    (member : slot ∈ stageSlots deadline budget stages tick) :
    tick ≤ slot.tick ∧ slot.deadline = deadline ∧ slot.budget = budget := by
  induction stages generalizing tick with
  | zero => cases member
  | succ stages ih =>
    rcases List.mem_cons.mp member with rfl | later
    · exact ⟨le_rfl, rfl, rfl⟩
    · obtain ⟨reads, same⟩ := ih later
      exact ⟨Nat.le_of_succ_le reads, same⟩

section Clock

variable {clock : Nat → Instant} {deadline : Instant} {budget : Duration} {stages rounds tick : Nat}
  {slot : Slot}

/-- No transfer has more time left than the budget of its transaction. -/
theorem transactionSlots_left_le (mono : Monotone clock)
    (member : slot ∈ transactionSlots clock budget stages tick) : slot.left clock ≤ slot.budget := by
  obtain ⟨reads, deadline, same⟩ := mem_stageSlots member
  have later : clock tick ≤ clock slot.tick := mono (Nat.le_of_succ_le reads)
  unfold Slot.left
  rw [deadline, same]
  calc clock tick + budget - clock slot.tick ≤ clock tick + budget - clock tick :=
        Nat.sub_le_sub_left later _
    _ = budget := Nat.add_sub_cancel_left _ _

theorem batchSlots_left_le (mono : Monotone clock)
    (member : slot ∈ batchSlots clock deadline stages rounds tick) :
    slot.left clock ≤ slot.budget := by
  induction rounds generalizing tick with
  | zero => cases member
  | succ rounds ih =>
    rcases List.mem_append.mp member with here | later
    · exact transactionSlots_left_le mono here
    · exact ih later

/-- The deadline of a transaction is its budget after a reading of the clock. -/
theorem transactionSlots_deadline
    (member : slot ∈ transactionSlots clock budget stages tick) : slot.deadline = clock tick + budget :=
  (mem_stageSlots member).2.1

/-- Those of a call are no further from the readings of the clock than its own from the first. -/
theorem batchSlots_deadline (mono : Monotone clock) {start : Nat} {timeout : Duration}
    (own : deadline = clock start + timeout) (after : start ≤ tick)
    (member : slot ∈ batchSlots clock deadline stages rounds tick) :
    ∃ read, slot.deadline ≤ clock read + timeout := by
  induction rounds generalizing tick with
  | zero => cases member
  | succ rounds ih =>
    rcases List.mem_append.mp member with here | later
    · have budget : deadline - clock tick ≤ timeout :=
        calc deadline - clock tick ≤ deadline - clock start := Nat.sub_le_sub_left (mono after) _
          _ = timeout := own ▸ Nat.add_sub_cancel_left _ _
      exact ⟨tick + 1, transactionSlots_deadline here ▸ Nat.add_le_add_left budget _⟩
    · exact ih (by omega) later

/-- Past the deadline of a transaction there is no time left for its stages. -/
theorem stageSlots_late (mono : Monotone clock) {read : Nat} (late : deadline ≤ clock read)
    (before : read ≤ tick)
    (member : slot ∈ stageSlots deadline budget stages tick) : slot.left clock = 0 := by
  obtain ⟨reads, same, -⟩ := mem_stageSlots member
  unfold Slot.left
  rw [same]
  exact Nat.sub_eq_zero_of_le (late.trans (mono (before.trans reads)))

/-- Past the deadline of the whole there is none for what follows. -/
theorem batchSlots_late (mono : Monotone clock) {read : Nat} (late : deadline ≤ clock read)
    (before : read ≤ tick)
    (member : slot ∈ batchSlots clock deadline stages rounds tick) : slot.left clock = 0 := by
  induction rounds generalizing tick with
  | zero => cases member
  | succ rounds ih =>
    rcases List.mem_append.mp member with here | after
    · have nothing : deadline - clock tick = 0 := Nat.sub_eq_zero_of_le (late.trans (mono before))
      unfold transactionSlots at here
      rw [nothing] at here
      exact stageSlots_late mono le_rfl (Nat.le_succ _) here
    · exact ih (by omega) after

end Clock

/-! ### Transactions -/

/-- The timeout a transfer was started with. -/
def Transfer.timeout : Transfer → Duration
  | .bulkOut _ timeout => timeout
  | .bulkIn _ timeout => timeout
  | .control _ _ _ _ _ timeout => timeout

/-- The transfer was started for the slot, with the time that was left. -/
structure StartedIn (clock : Nat → Instant) (transfer : Transfer) (slot : Slot) : Prop where
  timeout : transfer.timeout = slot.left clock
  some : 0 < slot.left clock

/-- Stages that follow each other start transfers for their first slots, and for all of them when
they succeed. They do not read the clock again. -/
def Staged (script : Script) (deadline : Instant) (budget : Duration) (stages : Nat) (before : Bus)
    {ε α : Type} (outcome : Except ε α) (reached : Bus) : Prop :=
  ∃ count sent, count ≤ stages ∧ reached.trace = before.trace ++ sent ∧
    List.Forall₂ (StartedIn script.clock) sent (stageSlots deadline budget count before.ticks) ∧
    reached.ticks ≤ before.ticks + min (count + 1) stages ∧
    ∀ value, outcome = .ok value → count = stages ∧ reached.ticks = before.ticks + stages

namespace Staged

variable {deadline : Instant} {budget : Duration} {stages more : Nat} {before middle reached : Bus}
  {ε ε' α β : Type}

theorem none {value : α} : Staged script deadline budget 0 before (.ok value : Except ε α) before :=
  ⟨0, [], le_rfl, (List.append_nil _).symm, .nil, le_rfl, fun _ _ => ⟨rfl, rfl⟩⟩

/-- A stage after others. -/
theorem next {value : α} {outcome : Except ε' β}
    (here : Staged script deadline budget stages before (.ok value : Except ε α) middle)
    (there : Staged script deadline budget more middle outcome reached) :
    Staged script deadline budget (stages + more) before outcome reached := by
  obtain ⟨count, sent, -, logged, started, -, whole⟩ := here
  obtain ⟨rfl, ticks⟩ := whole value rfl
  obtain ⟨count', sent', few, logged', started', most, whole'⟩ := there
  rw [ticks] at started' most whole'
  refine ⟨count + count', sent ++ sent', Nat.add_le_add_left few _, ?_, ?_, ?_,
    fun value same => ?_⟩
  · rw [logged', logged, List.append_assoc]
  · rw [stageSlots_add]
    exact List.rel_append started started'
  · omega
  · obtain ⟨rfl, same⟩ := whole' value same
    exact ⟨rfl, by omega⟩

/-- A stage that fails ends the transaction. -/
theorem stop {error : ε} {error' : ε'}
    (here : Staged script deadline budget stages before (.error error : Except ε α) reached) :
    Staged script deadline budget (stages + more) before (.error error' : Except ε' β) reached := by
  obtain ⟨count, sent, few, logged, started, most, -⟩ := here
  exact ⟨count, sent, by omega, logged, started, by omega, fun value same => by cases same⟩

/-- The last stage fails. -/
theorem fail {error : ε} {error' : ε'}
    (here : Staged script deadline budget stages before (.error error : Except ε α) reached) :
    Staged script deadline budget stages before (.error error' : Except ε' β) reached :=
  show Staged script deadline budget (stages + 0) _ _ _ from here.stop

/-- The value matters by its being there only. -/
theorem done {value : α} {value' : β}
    (here : Staged script deadline budget stages before (.ok value : Except ε α) reached) :
    Staged script deadline budget stages before (.ok value' : Except ε' β) reached := by
  obtain ⟨count, sent, few, logged, started, most, whole⟩ := here
  exact ⟨count, sent, few, logged, started, most, fun _ _ => whole value rfl⟩

end Staged

/-- A computation that starts one transfer with a timeout, and does not read the clock. -/
def Starts (script : Script) {α : Type} (transfer : Duration → UsbIo Unit RkUsbError α) : Prop :=
  ∀ own bus timeout, Io.After (Bus.answer script) (transfer timeout) own bus fun _ _ reached =>
    ∃ started : Transfer, started.timeout = timeout ∧ reached.trace = bus.trace ++ [started] ∧
      reached.ticks = bus.ticks

/-- **One stage.** -/
theorem stage_staged {α : Type} {transfer : Duration → UsbIo Unit RkUsbError α}
    (starts : Starts script transfer) (deadline : Instant) (budget : Duration) :
    Io.After (Bus.answer script) (remainingTimeout deadline >>= transfer) () bus
      fun outcome _ reached => Staged script deadline budget 1 bus outcome reached := by
  refine Io.after_bind.mpr (after_remainingTimeout.mpr ?_)
  by_cases soon : script.clock bus.ticks < deadline
  · rw [if_pos soon]
    refine (starts _ _ _).imp fun outcome own reached started => ?_
    obtain ⟨transfer, timeout, logged, ticks⟩ := started
    exact ⟨1, [transfer], le_rfl, logged, .cons ⟨timeout, Nat.sub_pos_of_lt soon⟩ .nil, ticks.le,
      fun _ _ => ⟨rfl, ticks⟩⟩
  · rw [if_neg soon]
    exact ⟨0, [], Nat.zero_le _, (List.append_nil _).symm, .nil, le_rfl,
      fun _ same => by cases same⟩

/-- What asks nothing of the bus. -/
def Silent (script : Script) {α : Type} (computation : UsbIo Unit RkUsbError α) : Prop :=
  ∀ own bus, Io.After (Bus.answer script) computation own bus fun _ _ reached => reached = bus

namespace Silent

variable {α : Type}

theorem pure (value : α) : Silent script (Pure.pure value) := fun _ _ => rfl

theorem throw (error : RkUsbError) : Silent script (.throw error : UsbIo Unit RkUsbError α) :=
  fun _ _ => rfl

theorem ite {condition : Prop} [Decidable condition] {first second : UsbIo Unit RkUsbError α}
    (yes : Silent script first) (no : Silent script second) :
    Silent script (if condition then first else second) := by
  split
  · exact yes
  · exact no

end Silent

theorem starts_writeBulk {α : Type} {bytes : List UInt8} {next : Nat → UsbIo Unit RkUsbError α}
    (silent : ∀ n, Silent script (next n)) :
    Starts script fun timeout => writeBulk bytes timeout >>= next := by
  intro own bus timeout
  refine Io.after_bind.mpr (after_writeBulk.mpr ?_)
  cases (bus.bulkOut script bytes timeout).1.mapError RkUsbError.usb with
  | error error => exact ⟨.bulkOut bytes timeout, rfl, rfl, rfl⟩
  | ok n =>
    refine (silent n _ _).imp fun _ _ reached same => ?_
    subst same
    exact ⟨.bulkOut bytes timeout, rfl, rfl, rfl⟩

theorem starts_readBulk {α : Type} {capacity : Nat}
    {next : List UInt8 → UsbIo Unit RkUsbError α} (silent : ∀ bytes, Silent script (next bytes)) :
    Starts script fun timeout => readBulk capacity timeout >>= next := by
  intro own bus timeout
  refine Io.after_bind.mpr (after_readBulk.mpr ?_)
  cases (bus.bulkIn script capacity timeout).1.mapError RkUsbError.usb with
  | error error => exact ⟨.bulkIn capacity timeout, rfl, rfl, rfl⟩
  | ok bytes =>
    refine (silent bytes _ _).imp fun _ _ reached same => ?_
    subst same
    exact ⟨.bulkIn capacity timeout, rfl, rfl, rfl⟩

theorem sendExactly_staged (bytes : List UInt8) (size : Nat) (deadline : Instant)
    (budget : Duration) :
    Io.After (Bus.answer script) (sendExactly bytes size deadline) () bus fun outcome _ reached =>
      Staged script deadline budget 1 bus outcome reached :=
  stage_staged (starts_writeBulk fun _ => .ite (.pure _) (.throw _)) deadline budget

theorem sendData_staged (dataOut : Option (List UInt8)) (deadline : Instant) (budget : Duration) :
    Io.After (Bus.answer script) (sendData dataOut deadline) () bus fun outcome _ reached =>
      Staged script deadline budget dataOut.toList.length bus outcome reached := by
  cases dataOut with
  | none => exact .none
  | some buf => exact sendExactly_staged buf buf.length deadline budget

theorem receiveData_staged (cbw : Cbw) (dataIn : Option (List UInt8)) (deadline : Instant)
    (budget : Duration) :
    Io.After (Bus.answer script) (receiveData cbw dataIn deadline) () bus fun outcome _ reached =>
      Staged script deadline budget dataIn.toList.length bus outcome reached := by
  cases dataIn with
  | none => exact .none
  | some buf =>
    exact stage_staged (starts_readBulk fun _ => .ite (.throw _) (.pure _)) deadline budget

theorem receiveStatus_staged (cbw : Cbw) (deadline : Instant) (budget : Duration) :
    Io.After (Bus.answer script) (receiveStatus cbw deadline) () bus fun outcome _ reached =>
      Staged script deadline budget 1 bus outcome reached := by
  refine stage_staged (starts_readBulk fun bytes => ?_) deadline budget
  cases Csw.tryReadFromBytes bytes with
  | none => exact .throw _
  | some csw => exact .ite (.throw _) (.ite (.throw _) (.ite (.throw _) (.pure _)))

/-- The number of transfers of a command: wrapper, data and status. -/
def Command.stages (command : Command) : Nat :=
  1 + (command.dataOut.toList.length + (command.dataIn.toList.length + 1))

/-- What a transaction with a budget does: its stages follow the reading for its deadline. Over a
device that carries everything out it leaves the bus idle, and fails only past the deadline. -/
structure Transacted (script : Script) (budget : Duration) (stages : Nat) (before : Bus) {α : Type}
    (outcome : Except RkUsbError α) (reached : Bus) : Prop where
  staged : Staged script (script.clock before.ticks + budget) budget stages
    { before with ticks := before.ticks + 1 } outcome reached
  idle : script.Healthy → before.Idle → ∀ value, outcome = .ok value → reached.Idle
  late : script.Healthy → before.Idle → ∀ error, outcome = .error error →
    ∃ tick, tick < reached.ticks ∧ script.clock before.ticks + budget ≤ script.clock tick

/-- **A transaction.** -/
theorem transact_transacted {command : Command} (issued : command.Issued) (budget : Duration) :
    Io.After (Bus.answer script) (command.transact budget) () bus fun outcome _ reached =>
      Transacted script budget command.stages bus outcome reached := by
  have staged : Io.After (Bus.answer script) (command.transact budget) () bus
      fun outcome _ reached => Staged script (script.clock bus.ticks + budget) budget command.stages
        { bus with ticks := bus.ticks + 1 } outcome reached := by
    refine after_transact.mpr (after_now.mpr ?_)
    refine (sendExactly_staged _ _ _ budget).bind (fun error _ reached here => here.stop)
      fun _ _ commanded here => ?_
    refine (sendData_staged _ _ budget).bind (fun error _ reached data => here.next data.stop)
      fun _ _ delivered data => ?_
    refine (receiveData_staged _ _ _ budget).bind
      (fun error _ reached inn => here.next (data.next inn.stop)) fun _ _ drained inn => ?_
    refine (receiveStatus_staged _ _ budget).bind
      (fun error _ reached status => here.next (data.next (inn.next status.fail)))
      fun _ _ reached status => ?_
    exact here.next (data.next (inn.next status.done))
  have healthily : script.Healthy → bus.Idle → Io.After (Bus.answer script)
      (command.transact budget) () bus fun outcome _ reached =>
        Prompt script (script.clock bus.ticks + budget) 5 bus outcome reached ∧
          ∀ value, outcome = .ok value → reached.Idle := by
    intro healthy idle
    refine ((transact_progress healthy issued idle budget).and
      (transact_effect idle issued budget)).imp ?_
    intro outcome _ reached both
    refine ⟨both.1, fun value same => ?_⟩
    subst same
    exact idle_of_carriedOut both.2.1
  exact ⟨staged, fun healthy idle => (healthily healthy idle).2, fun healthy idle error same =>
    ((healthily healthy idle).1.2 error same).2⟩

/-- What is received may be looked at. -/
theorem transact_pure_transacted {α : Type} {command : Command} (issued : command.Issued)
    (budget : Duration) (view : Nat × List UInt8 → α) :
    Io.After (Bus.answer script) (command.transact budget >>= fun received => pure (view received))
      () bus fun outcome _ reached => Transacted script budget command.stages bus outcome reached := by
  refine (transact_transacted issued budget).bind (fun error _ reached here => ?_)
    fun received _ reached here => ?_
  · exact ⟨here.staged.fail, fun _ _ value same => (by cases same),
      fun healthy idle _ _ => here.late healthy idle error rfl⟩
  · exact ⟨here.staged.done, fun healthy idle _ _ => here.idle healthy idle received rfl,
      fun _ _ error same => (by cases same)⟩

/-! ### Calls -/

/-- A call starts transfers for the first of its slots, each with the time that is left. Over a device
that carries everything out it stops where no time is left for any other. -/
def Timed (script : Script) (slots : List Slot) (before reached : Bus) : Prop :=
  ∃ sent started rest, reached.trace = before.trace ++ sent ∧ slots = started ++ rest ∧
    List.Forall₂ (StartedIn script.clock) sent started ∧
    (script.Healthy → before.Idle → ∀ slot ∈ rest, slot.left script.clock = 0)

/-- A call is over. -/
theorem Timed.none : Timed script [] bus bus :=
  ⟨[], [], [], (List.append_nil _).symm, rfl, .nil, fun _ _ _ member => by cases member⟩

section Transactions

variable {budget : Duration} {stages : Nat} {before middle reached : Bus} {α : Type}
  {more : List Slot}

/-- A transaction that succeeds, and what comes after it. -/
theorem Transacted.next {value : α}
    (here : Transacted script budget stages before (.ok value) middle)
    (there : Timed script more middle reached) :
    Timed script (transactionSlots script.clock budget stages before.ticks ++ more) before
      reached := by
  obtain ⟨count, sent, -, logged, started, -, whole⟩ := here.staged
  obtain ⟨rfl, -⟩ := whole value rfl
  obtain ⟨sent', first, rest, logged', rfl, started', late⟩ := there
  refine ⟨sent ++ sent', _ ++ first, rest, ?_, (List.append_assoc _ _ _).symm,
    List.rel_append started started',
    fun healthy idle => late healthy (here.idle healthy idle _ rfl)⟩
  rw [logged', logged, List.append_assoc]

theorem Transacted.ticks {value : α}
    (here : Transacted script budget stages before (.ok value) middle) :
    middle.ticks = before.ticks + 1 + stages := by
  obtain ⟨count, sent, -, -, -, -, whole⟩ := here.staged
  exact (whole value rfl).2

/-- A transaction that fails: where this is for its deadline, there is no time left for its other
stages. -/
theorem Transacted.stop {error : RkUsbError}
    (here : Transacted script budget stages before (.error error : Except RkUsbError α) reached)
    (late : ∀ read, read ≤ before.ticks + stages →
      script.clock before.ticks + budget ≤ script.clock read →
        ∀ slot ∈ more, slot.left script.clock = 0) :
    Timed script (transactionSlots script.clock budget stages before.ticks ++ more) before
      reached := by
  obtain ⟨count, sent, few, logged, started, most, -⟩ := here.staged
  obtain ⟨others, rfl⟩ := Nat.exists_eq_add_of_le few
  refine ⟨sent, stageSlots (script.clock before.ticks + budget) budget count (before.ticks + 1),
    stageSlots (script.clock before.ticks + budget) budget others (before.ticks + 1 + count) ++ more,
    logged, ?_, started, fun healthy idle slot member => ?_⟩
  · unfold transactionSlots
    rw [stageSlots_add, List.append_assoc]
  · obtain ⟨read, early, past⟩ := here.late healthy idle error rfl
    dsimp only at most
    rcases List.mem_append.mp member with stage | after
    · exact stageSlots_late script.clock_mono past (by omega) stage
    · exact late read (by omega) past slot after

end Transactions

/-- **One round**: a transaction within the time that is left, and what comes after it. -/
theorem round_timed {deadline : Instant} {stages rounds : Nat} {α β : Type}
    {raw : Duration → UsbIo Unit RkUsbError α} {next : α → UsbIo Unit RkUsbError β}
    (good : α → Prop)
    (transacts : ∀ bus budget, Io.After (Bus.answer script) (raw budget) () bus
      fun outcome _ reached => Transacted script budget stages bus outcome reached ∧
        ∀ value, outcome = .ok value → good value)
    (goesOn : ∀ bus value, good value → Io.After (Bus.answer script) (next value) () bus
      fun _ _ reached =>
        Timed script (batchSlots script.clock deadline stages rounds bus.ticks) bus reached) :
    Io.After (Bus.answer script) (remainingTimeout deadline >>= fun budget => raw budget >>= next) ()
      bus fun _ _ reached =>
        Timed script (batchSlots script.clock deadline stages (rounds + 1) bus.ticks) bus
          reached := by
  refine Io.after_bind.mpr (after_remainingTimeout.mpr ?_)
  by_cases soon : script.clock bus.ticks < deadline
  · rw [if_pos soon]
    refine (transacts _ _).bind (fun error _ reached transacted => ?_)
      fun value _ middle transacted => ?_
    · refine transacted.1.stop fun read early past slot member => ?_
      have sooner : deadline ≤ script.clock (bus.ticks + 1) +
          (deadline - script.clock bus.ticks) :=
        calc deadline = script.clock bus.ticks + (deadline - script.clock bus.ticks) :=
              (Nat.add_sub_of_le soon.le).symm
          _ ≤ _ := Nat.add_le_add_right (script.clock_mono (Nat.le_succ _)) _
      have before : read ≤ bus.ticks + stages + 2 := by
        dsimp only at early
        omega
      exact batchSlots_late script.clock_mono (sooner.trans past) before member
    · have later := goesOn middle value (transacted.2 value rfl)
      have ticks : middle.ticks = bus.ticks + stages + 2 := by
        rw [transacted.1.ticks]
        dsimp only
        omega
      rw [ticks] at later
      exact later.imp fun _ _ reached timed => transacted.1.next timed
  · rw [if_neg soon]
    exact ⟨[], [], batchSlots script.clock deadline stages (rounds + 1) bus.ticks,
      (List.append_nil _).symm, rfl, .nil, fun _ _ _ member =>
        batchSlots_late script.clock_mono (Nat.le_of_not_lt soon) le_rfl member⟩

/-! ### Loops -/

/-- The number of transactions for chunks that follow each other, and `tail` after them. A position
that cannot be advanced ends the call behind its transaction. -/
def roundsOf (tail : Nat) : List (List UInt8) → UInt32 → Nat
  | [], _ => tail
  | chunk :: rest, pos =>
      (match advanceLbaByBytes pos chunk.length with
        | .error _ => 0
        | .ok next => roundsOf tail rest next) + 1

/-- The number of transactions of an erase loop. -/
def eraseRounds : Nat → UInt32 → Nat → Nat
  | 0, _, _ => 0
  | rounds + 1, pos, remaining =>
      if remaining = 0 then 0
      else
        (match checkedAddSectors pos (min remaining 65535) with
          | .error _ => 0
          | .ok next => eraseRounds rounds next (remaining - min remaining 65535)) + 1

/-- A raw command that is one transaction of three transfers. -/
def TimedRaw (script : Script)
    (raw : UInt32 → List UInt8 → Duration → UsbIo Unit RkUsbError (List UInt8)) : Prop :=
  ∀ (bus : Bus) pos chunk budget, Command.SectorLength (List.length chunk) →
    Io.After (Bus.answer script) (raw pos chunk budget) () bus fun outcome _ reached =>
      Transacted script budget 3 bus outcome reached ∧
        ∀ filled, outcome = .ok filled → filled.length = chunk.length

theorem readChunk_timed (subcode : UInt8) : TimedRaw script (readChunk subcode) := by
  intro bus pos chunk budget valid
  refine Io.After.and ?_ (readLbaRaw_length valid pos subcode budget)
  unfold readChunk
  rw [readLbaRaw_eq valid]
  exact transact_pure_transacted (.readLba pos chunk subcode valid) budget Prod.snd

theorem writeChunk_timed (subcode : UInt8) : TimedRaw script (writeChunk subcode) := by
  intro bus pos chunk budget valid
  refine Io.After.and ?_ (writeChunk_keepsLength subcode () bus pos chunk budget valid)
  unfold writeChunk
  rw [writeLbaRaw_eq valid, bind_assoc]
  exact transact_pure_transacted (.writeLba pos chunk subcode valid) budget fun _ => chunk

/-- **The loop of the batched commands**, and what comes after it. -/
theorem batch_timed {raw : UInt32 → List UInt8 → Duration → UsbIo Unit RkUsbError (List UInt8)}
    (timed : TimedRaw script raw) (deadline : Instant) (pieces : List (List UInt8))
    (valid : ∀ chunk ∈ pieces, Command.SectorLength chunk.length) (pos : UInt32) {tail : Nat}
    {α : Type} {next : List UInt8 × UInt32 → UsbIo Unit RkUsbError α}
    (goesOn : ∀ bus result, Io.After (Bus.answer script) (next result) () bus fun _ _ reached =>
      Timed script (batchSlots script.clock deadline 3 tail bus.ticks) bus reached) :
    Io.After (Bus.answer script) (batch raw deadline pieces pos >>= next) () bus fun _ _ reached =>
      Timed script (batchSlots script.clock deadline 3 (roundsOf tail pieces pos) bus.ticks) bus
        reached := by
  induction pieces generalizing pos bus next with
  | nil => exact goesOn bus ([], pos)
  | cons chunk rest ih =>
    obtain ⟨sectors, others⟩ := List.forall_mem_cons.mp valid
    unfold batch roundsOf
    simp only [bind_assoc]
    refine round_timed (fun filled => filled.length = chunk.length)
      (fun bus budget => timed bus pos chunk budget sectors) ?_
    intro bus filled length
    refine Io.after_ofExcept_bind.mpr ?_
    rw [length]
    cases advanceLbaByBytes pos chunk.length with
    | error error => exact .none
    | ok pos => exact ih others pos fun bus result => goesOn bus _

/-- The partial last sector of a read is one more transaction. -/
theorem readLbaTail_timed (deadline : Instant) (subcode : UInt8) (pos : UInt32)
    (tail : List UInt8) :
    Io.After (Bus.answer script) (readLbaTail deadline subcode pos tail) () bus fun _ _ reached =>
      Timed script (batchSlots script.clock deadline 3 (if tail.length = 0 then 0 else 1) bus.ticks)
        bus reached := by
  unfold readLbaTail
  split
  · exact .none
  · exact round_timed (fun sector => sector.length = sectorBuffer.length)
      (fun bus budget => readChunk_timed subcode bus pos sectorBuffer budget sectorBuffer_valid)
      fun bus sector _ => .none

/-- That of a write is two: it is read, and written back with the tail. -/
theorem writeLbaTail_timed (deadline : Instant) (subcode : UInt8) (pos : UInt32)
    {tail : List UInt8} (short : tail.length ≤ STORAGE_SECTOR_SIZE) :
    Io.After (Bus.answer script) (writeLbaTail deadline subcode pos tail) () bus fun _ _ reached =>
      Timed script (batchSlots script.clock deadline 3 (if tail.length = 0 then 0 else 2) bus.ticks)
        bus reached := by
  unfold writeLbaTail
  split
  · exact .none
  · refine round_timed (fun sector => sector.length = sectorBuffer.length)
      (fun bus budget => readChunk_timed subcode bus pos sectorBuffer budget sectorBuffer_valid)
      fun bus sector length => ?_
    have whole : (tail ++ sector.drop tail.length).length = STORAGE_SECTOR_SIZE := by
      rw [List.length_append, List.length_drop, length, sectorBuffer, List.length_replicate]
      omega
    have valid : Command.SectorLength (tail ++ sector.drop tail.length).length := by
      rw [whole]
      decide
    have written := @round_timed script bus deadline 3 0 _ _
      (fun budget => writeLbaRaw pos (tail ++ sector.drop tail.length) subcode budget) pure
      (fun _ => True) (fun bus budget => ?_) fun bus _ _ => .none
    · simpa only [bind_pure] using written
    · rw [writeLbaRaw_eq valid]
      exact (transact_pure_transacted (.writeLba pos _ subcode valid) budget fun _ => ()).imp
        fun _ _ _ here => ⟨here, fun _ _ => trivial⟩

theorem eraseLbaLoop_timed (deadline : Instant) (rounds : Nat) (pos : UInt32) (remaining : Nat) :
    Io.After (Bus.answer script) (eraseLbaLoop deadline rounds pos remaining) () bus
      fun _ _ reached => Timed script
        (batchSlots script.clock deadline 2 (eraseRounds rounds pos remaining) bus.ticks) bus
        reached := by
  induction rounds generalizing pos remaining bus with
  | zero => exact .none
  | succ rounds ih =>
    unfold eraseLbaLoop eraseRounds
    by_cases none : remaining = 0
    · rw [if_pos none, if_pos none]
      exact .none
    rw [if_neg none, if_neg none]
    refine round_timed (fun _ => True) ?_ ?_
    · intro bus budget
      rw [eraseLbaRaw_eq (chunkSectors_ne_zero none)]
      exact (transact_pure_transacted (.eraseLba pos _) budget fun _ => ()).imp
        fun _ _ _ here => ⟨here, fun _ _ => trivial⟩
    · intro bus _ _
      refine Io.after_ofExcept_bind.mpr ?_
      cases checkedAddSectors pos (min remaining 65535) with
      | error error => exact .none
      | ok next => exact ih next _

/-! ### Calls of the library -/

theorem writeLba_timed (pos : UInt32) (data : List UInt8) (subcode : UInt8) (timeout : Duration) :
    Io.After (Bus.answer script) (writeLba pos data subcode timeout) () bus fun _ _ reached =>
      Timed script (batchSlots script.clock (script.clock bus.ticks + timeout) 3
        (roundsOf (if (tailOf data).length = 0 then 0 else 2) (pieces data) pos) (bus.ticks + 1)) bus
        reached := by
  unfold writeLba
  by_cases empty : data.length = 0
  · obtain rfl := List.length_eq_zero_iff.mp empty
    exact .none
  rw [if_neg empty]
  refine after_now.mpr ?_
  dsimp only
  rw [writeLbaChunks_eq, bind_assoc]
  exact batch_timed (writeChunk_timed subcode) _ (pieces data) (pieces_valid data) pos
    fun bus result => writeLbaTail_timed _ subcode result.2 (length_tailOf_le data)

theorem readLba_timed (pos : UInt32) (data : List UInt8) (subcode : UInt8) (timeout : Duration) :
    Io.After (Bus.answer script) (readLba pos data subcode timeout) () bus fun _ _ reached =>
      Timed script (batchSlots script.clock (script.clock bus.ticks + timeout) 3
        (roundsOf (if (tailOf data).length = 0 then 0 else 1) (pieces data) pos) (bus.ticks + 1)) bus
        reached := by
  unfold readLba
  by_cases empty : data.length = 0
  · obtain rfl := List.length_eq_zero_iff.mp empty
    exact .none
  rw [if_neg empty]
  refine after_now.mpr ?_
  dsimp only
  rw [readLbaChunks_eq]
  refine batch_timed (readChunk_timed subcode) _ (pieces data) (pieces_valid data) pos ?_
  intro bus result
  exact (readLbaTail_timed _ subcode result.2 (tailOf data)).bind (fun _ _ _ timed => timed)
    fun _ _ _ timed => timed

theorem eraseLba_timed (pos count : UInt32) (timeout : Duration) :
    Io.After (Bus.answer script) (eraseLba pos count timeout) () bus fun _ _ reached =>
      Timed script (batchSlots script.clock (script.clock bus.ticks + timeout) 2
        (eraseRounds count.toNat pos count.toNat) (bus.ticks + 1)) bus reached := by
  unfold eraseLba
  by_cases none : count = 0
  · subst none
    exact .none
  rw [if_neg none]
  exact after_now.mpr (eraseLbaLoop_timed _ _ pos _)

theorem transact_timed {command : Command} (issued : command.Issued) (timeout : Duration) :
    Io.After (Bus.answer script) (command.transact timeout >>= fun _ => pure ()) () bus
      fun _ _ reached => Timed script
        (transactionSlots script.clock timeout command.stages bus.ticks) bus reached := by
  refine (transact_pure_transacted issued timeout fun _ => ()).imp fun outcome _ reached here => ?_
  rw [← List.append_nil (transactionSlots _ _ _ _)]
  cases outcome with
  | ok value => exact here.next .none
  | error error => exact here.stop fun _ _ _ _ member => by cases member

/-- A sector call, or a single command. Every other function of the library that sends a command is
the transaction of it, between pure steps (`writeLbaRaw_eq` and its siblings). -/
inductive TimedCall
  | writeLba (pos : UInt32) (data : List UInt8) (subcode : UInt8)
  | readLba (pos : UInt32) (data : List UInt8) (subcode : UInt8)
  | eraseLba (pos count : UInt32)
  | single (command : Command) (issued : command.Issued)

namespace TimedCall

def run (timeout : Duration) : TimedCall → UsbIo Unit RkUsbError Unit
  | writeLba pos data subcode => Rkusb.writeLba pos data subcode timeout
  | readLba pos data subcode => Rkusb.readLba pos data subcode timeout >>= fun _ => pure ()
  | eraseLba pos count => Rkusb.eraseLba pos count timeout
  | single command _ => command.transact timeout >>= fun _ => pure ()

/-- The slots of a call whose first reading of the clock is at a tick. -/
def slots (clock : Nat → Instant) (tick : Nat) (timeout : Duration) : TimedCall → List Slot
  | writeLba pos data _ => batchSlots clock (clock tick + timeout) 3
      (roundsOf (if (tailOf data).length = 0 then 0 else 2) (pieces data) pos) (tick + 1)
  | readLba pos data _ => batchSlots clock (clock tick + timeout) 3
      (roundsOf (if (tailOf data).length = 0 then 0 else 1) (pieces data) pos) (tick + 1)
  | eraseLba pos count => batchSlots clock (clock tick + timeout) 2
      (eraseRounds count.toNat pos count.toNat) (tick + 1)
  | single command _ => transactionSlots clock timeout command.stages tick

theorem slots_left_le {clock : Nat → Instant} (mono : Monotone clock) {tick : Nat}
    {timeout : Duration} {call : TimedCall} {slot : Slot}
    (member : slot ∈ call.slots clock tick timeout) : slot.left clock ≤ slot.budget := by
  cases call with
  | writeLba => exact batchSlots_left_le mono member
  | readLba => exact batchSlots_left_le mono member
  | eraseLba => exact batchSlots_left_le mono member
  | single => exact transactionSlots_left_le mono member

/-- The deadlines that the call may compute, its own and those of its transactions, fit an `Instant`,
so that none of them is a panic. -/
def Fits (clock : Nat → Instant) (tick : Nat) (timeout : Duration) (call : TimedCall) : Prop :=
  clock tick + timeout < INSTANT_END ∧
    ∀ slot ∈ call.slots clock tick timeout, slot.deadline < INSTANT_END

/-- They do where every reading of the clock is the timeout before the end of the instants. -/
theorem fits_of_readings {clock : Nat → Instant} (mono : Monotone clock) {timeout : Duration}
    (early : ∀ read, clock read + timeout < INSTANT_END) (tick : Nat) (call : TimedCall) :
    call.Fits clock tick timeout := by
  have batched {stages rounds : Nat} {slot : Slot}
      (member : slot ∈ batchSlots clock (clock tick + timeout) stages rounds (tick + 1)) :
      slot.deadline < INSTANT_END := by
    obtain ⟨read, before⟩ := batchSlots_deadline mono rfl (Nat.le_succ tick) member
    exact before.trans_lt (early read)
  refine ⟨early tick, fun slot member => ?_⟩
  cases call with
  | writeLba => exact batched member
  | readLba => exact batched member
  | eraseLba => exact batched member
  | single => exact transactionSlots_deadline member ▸ early tick

/-- **A call** starts transfers for the first of its slots. -/
theorem run_timed (call : TimedCall) (timeout : Duration) :
    Io.After (Bus.answer script) (call.run timeout) () bus fun _ _ reached =>
      Timed script (call.slots script.clock bus.ticks timeout) bus reached := by
  cases call with
  | writeLba pos data subcode => exact writeLba_timed pos data subcode timeout
  | readLba pos data subcode =>
    exact (readLba_timed pos data subcode timeout).bind (fun _ _ _ timed => timed)
      fun _ _ _ timed => timed
  | eraseLba pos count => exact eraseLba_timed pos count timeout
  | single command issued => exact transact_timed issued timeout

end TimedCall

/-! ### Timeouts that end -/

/-- `timeout.as_millis() as c_uint`, of which 0 is no timeout at all. -/
def libusbTimeout (timeout : Duration) : Nat := timeout / 10 ^ 6 % 2 ^ 32

/-- The transfer ends, and within the budget. -/
structure Limited (transfer : Transfer) (budget : Duration) : Prop where
  ends : libusbTimeout transfer.timeout ≠ 0
  within : libusbTimeout transfer.timeout * 10 ^ 6 ≤ budget

/-- Whatever the device does, every transfer of the call is limited by the budget of its
transaction. -/
def TimeoutsLimited (clock : Nat → Instant) (tick : Nat) (timeout : Duration) (call : TimedCall) :
    Prop :=
  ∀ (script : Script) (bus : Bus), script.clock = clock → bus.ticks = tick →
    Io.After (Bus.answer script) (call.run timeout) () bus fun _ _ reached =>
      ∃ sent started rest, reached.trace = bus.trace ++ sent ∧
        call.slots clock tick timeout = started ++ rest ∧
        List.Forall₂ (fun transfer slot => Limited transfer slot.budget) sent started

/-- A time is no timeout if its whole milliseconds are a multiple of `2^32`. -/
theorem libusbTimeout_eq_zero_iff {timeout : Duration} :
    libusbTimeout timeout = 0 ↔ 2 ^ 32 ∣ timeout / 10 ^ 6 := (Nat.dvd_iff_mod_eq_zero).symm

theorem libusbTimeout_le (timeout : Duration) : libusbTimeout timeout * 10 ^ 6 ≤ timeout :=
  calc timeout / 10 ^ 6 % 2 ^ 32 * 10 ^ 6 ≤ timeout / 10 ^ 6 * 10 ^ 6 :=
        Nat.mul_le_mul_right _ (Nat.mod_le _ _)
    _ ≤ timeout := Nat.div_mul_le_self _ _

/-- A transfer of a slot is limited as far as its time left is a timeout. -/
theorem StartedIn.limited_iff {clock : Nat → Instant} {transfer : Transfer} {slot : Slot}
    (started : StartedIn clock transfer slot) (within : slot.left clock ≤ slot.budget) :
    Limited transfer slot.budget ↔
      (0 < slot.left clock → libusbTimeout (slot.left clock) ≠ 0) := by
  rw [← started.timeout]
  refine ⟨fun limited _ => limited.ends, fun ends => ⟨ends (started.timeout ▸ started.some), ?_⟩⟩
  calc libusbTimeout transfer.timeout * 10 ^ 6 ≤ transfer.timeout := libusbTimeout_le _
    _ ≤ slot.budget := started.timeout ▸ within

theorem forall₂_limited_iff {clock : Nat → Instant} {sent : List Transfer} {started : List Slot}
    (starts : List.Forall₂ (StartedIn clock) sent started)
    (within : ∀ slot ∈ started, slot.left clock ≤ slot.budget) :
    List.Forall₂ (fun transfer slot => Limited transfer slot.budget) sent started ↔
      ∀ slot ∈ started, 0 < slot.left clock → libusbTimeout (slot.left clock) ≠ 0 := by
  induction starts with
  | nil => exact ⟨fun _ _ member => (by cases member), fun _ => .nil⟩
  | cons here _ ih =>
    obtain ⟨first, others⟩ := List.forall_mem_cons.mp within
    rw [List.forall₂_cons, List.forall_mem_cons, here.limited_iff first, ih others]

/-- The times left at the slots of a call are timeouts. -/
theorem timeoutsLimited_iff_left {clock : Nat → Instant} (mono : Monotone clock) (tick : Nat)
    (timeout : Duration) (call : TimedCall) :
    TimeoutsLimited clock tick timeout call ↔
      ∀ slot ∈ call.slots clock tick timeout,
        0 < slot.left clock → libusbTimeout (slot.left clock) ≠ 0 := by
  constructor
  · intro limited slot member some
    have timed := @TimedCall.run_timed { Script.undisturbed with clock, clock_mono := mono }
      { Bus.fresh (fun _ => 0) with ticks := tick } call timeout
    have limits := limited { Script.undisturbed with clock, clock_mono := mono }
      { Bus.fresh (fun _ => 0) with ticks := tick } rfl rfl
    obtain ⟨sent, started, rest, logged, slots, starts, late⟩ := timed
    obtain ⟨sent', started', rest', logged', slots', limits⟩ := limits
    obtain rfl := List.append_cancel_left (logged.symm.trans logged')
    -- both are the first slots, as many as there are transfers
    obtain ⟨rfl, rfl⟩ := List.append_inj (slots.symm.trans slots')
      (starts.length_eq.symm.trans limits.length_eq)
    rw [slots] at member
    rcases List.mem_append.mp member with first | other
    · refine (forall₂_limited_iff starts fun slot first => ?_).mp limits slot first some
      exact TimedCall.slots_left_le mono (slots ▸ List.mem_append_left _ first)
    · have none := late ⟨fun _ => rfl, fun _ => rfl⟩ (Bus.fresh_idle fun _ => 0) slot other
      exact absurd none some.ne'
  · intro ends script bus clocked ticked
    subst clocked ticked
    refine (call.run_timed timeout).imp fun _ _ reached timed => ?_
    obtain ⟨sent, started, rest, logged, slots, starts, -⟩ := timed
    have member {slot : Slot} (first : slot ∈ started) :
        slot ∈ call.slots script.clock bus.ticks timeout := slots ▸ List.mem_append_left _ first
    refine ⟨sent, started, rest, logged, slots, (forall₂_limited_iff starts fun slot first =>
      TimedCall.slots_left_le mono (member first)).mpr fun slot first => ends slot (member first)⟩

/-- **The timeouts of a call** whose deadlines fit an `Instant` are limited if and only if no transfer
that it may come to before its deadline has a multiple of `2^32` whole milliseconds left. -/
theorem timeouts_limited_iff {clock : Nat → Instant} (mono : Monotone clock) (tick : Nat)
    (timeout : Duration) (call : TimedCall) (_fits : call.Fits clock tick timeout) :
    TimeoutsLimited clock tick timeout call ↔
      ∀ slot ∈ call.slots clock tick timeout, clock slot.tick < slot.deadline →
        ¬2 ^ 32 ∣ (slot.deadline - clock slot.tick) / 10 ^ 6 := by
  refine (timeoutsLimited_iff_left mono tick timeout call).trans (forall₂_congr fun slot _ => ?_)
  exact imp_congr Nat.sub_pos_iff_lt (not_congr libusbTimeout_eq_zero_iff)

/-- A clock that is half a millisecond before the deadline of five seconds from its fourth reading
on. -/
def lateClock (tick : Nat) : Instant := if tick < 3 then 0 else 4999500000

theorem lateClock_mono : Monotone lateClock := by
  intro first second le
  unfold lateClock
  split
  · exact Nat.zero_le _
  · rw [if_neg (by omega)]

theorem lateClock_early (read : Nat) : lateClock read + USB_TIMEOUT < INSTANT_END := by
  unfold lateClock
  split <;> decide

/-- The erasure of a sector under a clock that stands still, and under the late one. -/
theorem timeouts_limited_iff_erase :
    TimeoutsLimited (fun _ => 0) 0 USB_TIMEOUT (.eraseLba 0 1) ∧
      ¬TimeoutsLimited lateClock 0 USB_TIMEOUT (.eraseLba 0 1) :=
  ⟨(timeouts_limited_iff (fun _ _ _ => le_rfl) 0 USB_TIMEOUT (.eraseLba 0 1)
      (TimedCall.fits_of_readings (fun _ _ _ => le_rfl) (fun _ => by decide) 0 _)).mpr
        (by decide +kernel),
    fun limited => absurd ((timeouts_limited_iff lateClock_mono 0 USB_TIMEOUT (.eraseLba 0 1)
      (TimedCall.fits_of_readings lateClock_mono lateClock_early 0 _)).mp limited)
        (by decide +kernel)⟩

/-- **A transfer without end.** Half a millisecond before the deadline the command of an erasure is
sent with the timeout 0, which is none. -/
theorem timeout_unlimited :
    ¬TimeoutsLimited lateClock 0 USB_TIMEOUT (.eraseLba 0 1) ∧
      (((eraseLba 0 1 USB_TIMEOUT).run (Bus.answer { Script.undisturbed with
          clock := lateClock, clock_mono := lateClock_mono }) () (Bus.fresh fun _ => 0)).2.trace.map
        fun transfer => (transfer.timeout, libusbTimeout transfer.timeout)) =
          [(500000, 0), (500000, 0)] := by
  have run : (((eraseLba 0 1 USB_TIMEOUT).run (Bus.answer { Script.undisturbed with
      clock := lateClock, clock_mono := lateClock_mono }) () (Bus.fresh fun _ => 0)).2.trace.map
        fun transfer => (transfer.timeout, libusbTimeout transfer.timeout)) =
          [(500000, 0), (500000, 0)] := by decide +kernel
  refine ⟨fun limited => ?_, run⟩
  obtain ⟨sent, started, rest, logged, -, limits⟩ := limited { Script.undisturbed with
    clock := lateClock, clock_mono := lateClock_mono } (Bus.fresh fun _ => 0) rfl rfl
  obtain rfl : _ = sent := logged
  have ends := ((List.forall₂_and_left _ _).mp
    (limits.imp fun _ _ limited => ⟨limited.ends, limited⟩)).1
  obtain ⟨transfer, member, same⟩ := List.mem_map.mp
    (run.symm ▸ List.mem_cons_self : ((500000, 0) : Duration × Nat) ∈ _)
  exact ends transfer member (congrArg Prod.snd same)

end Rkusb
