/-
**Overflows of the sector space.**

An overflow is found when the position is advanced, which is after the command of the round.

* `writeLba_noOverflow`, `eraseLba_noOverflow`: where there is a position after the range, nothing
  else is reported as an overflow.
* `writeLba_overflows`, `eraseLba_overflows`: where there is none, the overflow comes after a command
  that writes or erases.
* `overflow_harmless_iff`: so an overflow is harmless only where it does not occur.
-/

import Rkusb.WireCommands

namespace Rkusb

open Interaction Bytes FlatStore

variable {script : Script} {bus : Bus}

/-! ### Calls that do not overflow -/

/-- The computation does not report an overflow. -/
abbrev NoOverflow (script : Script) {α : Type} (computation : UsbIo Unit RkUsbError α) : Prop :=
  Io.Avoids (Bus.answer script) (fun error => error = .lbaOverflow) computation

theorem remainingTimeout_noOverflow (deadline : Instant) :
    NoOverflow script (remainingTimeout deadline) := by
  refine (Io.Avoids.ask _).bind fun (time : Instant) => ?_
  by_cases early : time < deadline
  · rw [if_pos early]
    exact .pure _
  · rw [if_neg early]
    exact .throw (by decide)

/-- The errors of a transfer are passed on. -/
theorem mapError_usb_noOverflow {α : Type} (answer : Except UsbError α) :
    NoOverflow script (Io.ofExcept (answer.mapError RkUsbError.usb) : UsbIo Unit RkUsbError α) := by
  refine .ofExcept fun error fails => ?_
  cases answer with
  | ok value => cases fails
  | error inner =>
    cases fails
    exact fun same => (by cases same)

theorem sendExactly_noOverflow (bytes : List UInt8) (size : Nat) (deadline : Instant) :
    NoOverflow script (sendExactly bytes size deadline) := by
  refine (remainingTimeout_noOverflow deadline).bind fun timeout => ?_
  refine Io.Avoids.bind ((Io.Avoids.ask _).bind mapError_usb_noOverflow) fun n => ?_
  by_cases whole : n = size
  · rw [if_pos whole]
    exact .pure ()
  · rw [if_neg whole]
    exact .throw (by decide)

theorem receiveData_noOverflow (cbw : Cbw) (dataIn : Option (List UInt8)) (deadline : Instant) :
    NoOverflow script (receiveData cbw dataIn deadline) := by
  cases dataIn with
  | none => exact .pure _
  | some buf =>
    refine (remainingTimeout_noOverflow deadline).bind fun timeout => ?_
    refine Io.Avoids.bind ((Io.Avoids.ask _).bind mapError_usb_noOverflow) fun bytes => ?_
    by_cases wrong : bytes.length < cbw.dataTransferLength.toNat ∨ buf.length < bytes.length
    · rw [if_pos wrong]
      exact .throw (by decide)
    · rw [if_neg wrong]
      exact .pure _

theorem receiveStatus_noOverflow (cbw : Cbw) (deadline : Instant) :
    NoOverflow script (receiveStatus cbw deadline) := by
  refine (remainingTimeout_noOverflow deadline).bind fun timeout => ?_
  refine Io.Avoids.bind ((Io.Avoids.ask _).bind mapError_usb_noOverflow) fun bytes => ?_
  cases Csw.tryReadFromBytes bytes with
  | none => exact .throw (by decide)
  | some csw =>
    dsimp only
    by_cases unsigned : csw.signature ≠ CSW_SIGN
    · rw [if_pos unsigned]
      exact .throw (by decide)
    rw [if_neg unsigned]
    by_cases other : csw.tag ≠ cbw.tag
    · rw [if_pos other]
      exact .throw (by decide)
    rw [if_neg other]
    by_cases failed : csw.status ≠ 0
    · rw [if_pos failed]
      exact .throw fun same => (by cases same)
    · rw [if_neg failed]
      exact .pure ()

/-- **No transaction reports an overflow.** -/
theorem transact_noOverflow (command : Command) (timeout : Duration) :
    NoOverflow script (command.transact timeout) := by
  refine Io.Avoids.bind ((Io.Avoids.ask _).bind fun _ => .pure _) fun cbw => ?_
  refine (Io.Avoids.ask _).bind fun (start : Instant) => ?_
  refine (sendExactly_noOverflow _ _ _).bind fun _ => ?_
  refine Io.Avoids.bind ?_ fun _ => (receiveData_noOverflow _ _ _).bind fun received =>
    (receiveStatus_noOverflow _ _).bind fun _ => .pure received
  cases command.dataOut with
  | none => exact .pure ()
  | some buf => exact sendExactly_noOverflow _ _ _

theorem writeLbaRaw_noOverflow {data : List UInt8} (valid : Command.SectorLength data.length)
    (pos : UInt32) (subcode : UInt8) (timeout : Duration) :
    NoOverflow script (writeLbaRaw pos data subcode timeout) := by
  rw [writeLbaRaw_eq valid]
  exact (transact_noOverflow _ timeout).bind fun _ => .pure ()

theorem eraseLbaRaw_noOverflow {sectorCount : UInt16} (some : sectorCount ≠ 0) (pos : UInt32)
    (timeout : Duration) : NoOverflow script (eraseLbaRaw pos sectorCount timeout) := by
  rw [eraseLbaRaw_eq some]
  exact (transact_noOverflow _ timeout).bind fun _ => .pure ()

theorem readSector_noOverflow (pos : UInt32) (subcode : UInt8) (timeout : Duration) :
    NoOverflow script
      (readLbaRaw pos (List.replicate STORAGE_SECTOR_SIZE 0) subcode timeout) := by
  show NoOverflow script (readLbaRaw pos sectorBuffer subcode timeout)
  rw [readLbaRaw_eq sectorBuffer_valid]
  exact (transact_noOverflow _ timeout).bind fun received => .pure received.2

/-- Chunks that end below the last position have a next one each. -/
theorem writeLbaChunks_noOverflow (deadline : Instant) (subcode : UInt8)
    (pieces : List (List UInt8)) (valid : ∀ chunk ∈ pieces, Command.SectorLength chunk.length)
    (pos : UInt32)
    (fits : STORAGE_SECTOR_SIZE * pos.toNat + pieces.flatten.length < STORAGE_SECTOR_SIZE * 2 ^ 32) :
    NoOverflow script (writeLbaChunks deadline subcode pieces pos) := by
  induction pieces generalizing pos with
  | nil => exact .pure pos
  | cons chunk rest ih =>
    obtain ⟨sectors, others⟩ := List.forall_mem_cons.mp valid
    have whole := Nat.div_add_mod chunk.length STORAGE_SECTOR_SIZE
    have aligned := sectors.2.1
    rw [List.flatten_cons, List.length_append] at fits
    obtain ⟨next, advances⟩ := @advanceLbaByBytes_of_lt pos chunk.length (by
      unfold STORAGE_SECTOR_SIZE at *
      omega)
    have position := advanceLbaByBytes_ok advances
    refine (remainingTimeout_noOverflow deadline).bind fun timeout => ?_
    refine (writeLbaRaw_noOverflow sectors pos subcode timeout).bind fun _ => ?_
    rw [advances]
    refine ih others next ?_
    unfold STORAGE_SECTOR_SIZE at *
    omega

theorem writeLbaTail_noOverflow (deadline : Instant) (subcode : UInt8) (pos : UInt32)
    {tail : List UInt8} (short : tail.length ≤ STORAGE_SECTOR_SIZE) :
    NoOverflow script (writeLbaTail deadline subcode pos tail) := by
  unfold writeLbaTail
  by_cases none : tail.length = 0
  · rw [if_pos none]
    exact .pure ()
  rw [if_neg none]
  refine (remainingTimeout_noOverflow deadline).bind fun timeout => ?_
  intro own state
  refine ((readSector_noOverflow pos subcode timeout own state).and
    (readLbaRaw_length sectorBuffer_valid pos subcode timeout)).bind
    (fun error own reached both error' same => ?_) fun sector own reached both => ?_
  · cases same
    exact both.1 error rfl
  · have length := both.2 sector rfl
    have whole : (tail ++ sector.drop tail.length).length = STORAGE_SECTOR_SIZE := by
      rw [List.length_append, List.length_drop, length, sectorBuffer, List.length_replicate]
      exact Nat.add_sub_cancel' short
    have valid : Command.SectorLength (tail ++ sector.drop tail.length).length := by
      rw [whole]
      decide
    refine Io.Avoids.bind (remainingTimeout_noOverflow deadline) (fun timeout => ?_) own reached
    exact writeLbaRaw_noOverflow valid pos subcode timeout

/-- **A write that ends below the last position reports no overflow.** -/
theorem writeLba_noOverflow (pos : UInt32) (data : List UInt8) (subcode : UInt8)
    (timeout : Duration) (fits : pos.toNat + data.length / STORAGE_SECTOR_SIZE < 2 ^ 32) :
    NoOverflow script (writeLba pos data subcode timeout) := by
  unfold writeLba
  by_cases empty : data.length = 0
  · rw [if_pos empty]
    exact .pure ()
  rw [if_neg empty]
  refine (Io.Avoids.ask _).bind fun (start : Instant) => ?_
  refine (writeLbaChunks_noOverflow _ subcode (pieces data) (pieces_valid data) pos
    (pieces_fit fits)).bind fun next => ?_
  exact writeLbaTail_noOverflow _ subcode next (length_tailOf_le data)

theorem eraseLbaLoop_noOverflow (deadline : Instant) (rounds : Nat) (pos : UInt32)
    (remaining : Nat) (fits : pos.toNat + remaining < 2 ^ 32) :
    NoOverflow script (eraseLbaLoop deadline rounds pos remaining) := by
  induction rounds generalizing pos remaining with
  | zero => exact .pure ()
  | succ rounds ih =>
    unfold eraseLbaLoop
    by_cases none : remaining = 0
    · rw [if_pos none]
      exact .pure ()
    rw [if_neg none]
    obtain ⟨next, advances⟩ := @checkedAddSectors_of_lt pos (min remaining 65535) (by omega)
    have position := checkedAddSectors_ok advances
    refine (remainingTimeout_noOverflow deadline).bind fun timeout => ?_
    refine (eraseLbaRaw_noOverflow (chunkSectors_ne_zero none) pos timeout).bind fun _ => ?_
    rw [advances]
    exact ih next _ (by omega)

/-- **An erasure that ends below the last position reports no overflow.** -/
theorem eraseLba_noOverflow (pos count : UInt32) (timeout : Duration)
    (fits : pos.toNat + count.toNat < 2 ^ 32) : NoOverflow script (eraseLba pos count timeout) := by
  unfold eraseLba
  by_cases none : count = 0
  · rw [if_pos none]
    exact .pure ()
  rw [if_neg none]
  exact (Io.Avoids.ask _).bind fun (start : Instant) => eraseLbaLoop_noOverflow _ _ pos _ fits

/-! ### Calls that overflow -/

/-- A command with the operation code was sent. -/
def Sent (opcode : UInt8) (before reached : Bus) : Prop :=
  ∃ sent, reached.trace = before.trace ++ sent ∧
    ∃ command ∈ wireCommands sent, command.opcode = opcode

/-- The overflow is reported after a command with the operation code. -/
def Overflowed (opcode : UInt8) (before : Bus) {α : Type} (outcome : Except RkUsbError α)
    (reached : Bus) : Prop :=
  outcome = .error .lbaOverflow ∧ Sent opcode before reached

/-- A raw command is carried out, and leaves the bus idle. -/
def Carried (opcode : UInt8) (before : Bus) (outcome : Except RkUsbError Unit) (reached : Bus) : Prop :=
  outcome = .ok () ∧ reached.Idle ∧ Sent opcode before reached

theorem Sent.later {opcode : UInt8} {before middle reached : Bus} {more : List Transfer}
    (sent : Sent opcode before middle) (later : reached.trace = middle.trace ++ more) :
    Sent opcode before reached := by
  obtain ⟨here, logged, command, member, code⟩ := sent
  refine ⟨here ++ more, ?_, command, ?_, code⟩
  · rw [later, logged, List.append_assoc]
  · rw [wireCommands_append]
    exact List.mem_append_left _ member

theorem checkedAddSectors_error {pos : UInt32} {sectors : Nat} {error : RkUsbError}
    (fails : checkedAddSectors pos sectors = .error error) : error = .lbaOverflow := by
  unfold checkedAddSectors at fails
  by_cases fits : pos.toNat + sectors < 2 ^ 32
  · rw [if_pos fits] at fails
    cases fails
  · rw [if_neg fits] at fails
    cases fails
    rfl

theorem advanceLbaByBytes_error {pos : UInt32} {bytes : Nat} {error : RkUsbError}
    (fails : advanceLbaByBytes pos bytes = .error error) : error = .lbaOverflow := by
  unfold advanceLbaByBytes at fails
  by_cases small : bytes / STORAGE_SECTOR_SIZE < 2 ^ 32
  · rw [if_pos small] at fails
    exact checkedAddSectors_error fails
  · rw [if_neg small] at fails
    cases fails
    rfl

/-- **A raw sector command under a clock that stands still.** -/
theorem raw_carried (still : script.Still) {opcode subcode : UInt8} {stage : DataStage} {most : Nat}
    {command : Command} (sector : SectorCommand opcode subcode stage most command)
    {raw : UsbIo Unit RkUsbError Unit} (emits : Emits script command.transfers raw)
    {timeout : Duration} (some : 0 < timeout)
    (prompt : Io.After (Bus.answer script) raw () bus fun outcome _ reached =>
      Prompt script (script.clock bus.ticks + timeout) 5 bus outcome reached)
    (leaves : Io.After (Bus.answer script) raw () bus fun outcome _ reached =>
      ∀ value, outcome = .ok value → reached.Idle) :
    Io.After (Bus.answer script) raw () bus fun outcome _ reached =>
      Carried opcode bus outcome reached := by
  refine ((prompt.and leaves).and (emits () bus)).imp ?_
  intro outcome own reached holds
  obtain ⟨⟨prompt, leaves⟩, sent, rest, logged, planned, whole⟩ := holds
  obtain ⟨value, rfl⟩ := prompt.succeeds (still.brisk some 5)
  obtain rfl := whole value rfl
  rw [List.append_nil] at planned
  obtain ⟨tag, itself⟩ := wireCommands_transfers sector planned
  refine ⟨rfl, leaves value rfl, sent, logged, command.wire tag, ?_, ?_⟩
  · rw [itself]
    exact List.mem_singleton_self _
  · exact congrArg WireCommand.opcode (sector.wire tag)

/-- **One round of a loop**: the command is carried out, whether or not there is a position after it. -/
theorem round_overflows (still : script.Still) {deadline : Instant}
    (soon : script.clock 0 < deadline) (idle : bus.Idle) {opcode : UInt8}
    {raw : Duration → UsbIo Unit RkUsbError Unit}
    (carries : ∀ (bus : Bus) (timeout : Duration), bus.Idle → 0 < timeout →
      Io.After (Bus.answer script) (raw timeout) () bus fun outcome _ reached =>
        Carried opcode bus outcome reached)
    {advance : Except RkUsbError UInt32}
    (only : ∀ error, advance = .error error → error = .lbaOverflow) {α : Type}
    {next : UInt32 → UsbIo Unit RkUsbError α}
    (goesOn : ∀ (bus : Bus) (pos : UInt32), bus.Idle → advance = .ok pos →
      Io.After (Bus.answer script) (next pos) () bus fun outcome _ reached =>
        Overflowed opcode bus outcome reached) :
    Io.After (Bus.answer script) (remainingTimeout deadline >>= fun timeout =>
      raw timeout >>= fun _ => Io.ofExcept advance >>= next) () bus fun outcome _ reached =>
        Overflowed opcode bus outcome reached := by
  refine Io.after_bind.mpr (after_remainingTimeout.mpr ?_)
  rw [still.still bus.ticks, if_pos soon]
  have readyIdle : Bus.Idle { bus with ticks := bus.ticks + 1 } := idle
  refine (carries _ _ readyIdle (Nat.sub_pos_of_lt soon)).bind
    (fun error own reached carried => by cases carried.1) fun _ own middle carried => ?_
  obtain ⟨-, idle', sent⟩ := carried
  refine Io.after_ofExcept_bind.mpr ?_
  cases advances : advance with
  | error error =>
    obtain rfl := only error advances
    exact ⟨rfl, sent⟩
  | ok pos =>
    refine (goesOn middle pos idle' advances).imp ?_
    intro outcome own reached overflowed
    obtain ⟨fails, more, later, -⟩ := overflowed
    exact ⟨fails, sent.later later⟩

theorem writeLbaChunks_overflows (still : script.Still) {deadline : Instant}
    (soon : script.clock 0 < deadline) (subcode : UInt8) (pieces : List (List UInt8))
    (valid : ∀ chunk ∈ pieces, Command.SectorLength chunk.length ∧
      chunk.length / STORAGE_SECTOR_SIZE ≤ MAX_LBA_TRANSFER_SECTORS) (pos : UInt32)
    (past : STORAGE_SECTOR_SIZE * 2 ^ 32 ≤ STORAGE_SECTOR_SIZE * pos.toNat + pieces.flatten.length)
    (idle : bus.Idle) :
    Io.After (Bus.answer script) (writeLbaChunks deadline subcode pieces pos) () bus
      fun outcome _ reached => Overflowed 0x15 bus outcome reached := by
  induction pieces generalizing pos bus with
  | nil =>
    have small := pos.toNat_lt
    rw [List.flatten_nil, List.length_nil] at past
    unfold STORAGE_SECTOR_SIZE at past
    omega
  | cons chunk rest ih =>
    obtain ⟨⟨sectors, few⟩, others⟩ := List.forall_mem_cons.mp valid
    have carries : ∀ (bus : Bus) (timeout : Duration), bus.Idle → 0 < timeout →
        Io.After (Bus.answer script) (writeLbaRaw pos chunk subcode timeout) () bus
          fun outcome _ reached => Carried 0x15 bus outcome reached := by
      intro bus timeout idle some
      refine raw_carried still (Command.writeLba_sector sectors few pos subcode)
        (writeLbaRaw_emits sectors pos subcode timeout) some
        (writeLbaRaw_progress still.healthy idle sectors pos subcode timeout) ?_
      refine (writeLbaRaw_effect idle sectors pos subcode timeout).imp ?_
      intro outcome own reached wrote value same
      obtain rfl := same
      exact wrote.written.2
    refine round_overflows still soon idle carries (fun _ => advanceLbaByBytes_error) ?_
    intro bus next idle advances
    refine ih others next ?_ idle
    have whole := Nat.div_add_mod chunk.length STORAGE_SECTOR_SIZE
    have aligned := sectors.2.1
    have position := advanceLbaByBytes_ok advances
    rw [List.flatten_cons, List.length_append] at past
    unfold STORAGE_SECTOR_SIZE at *
    omega

/-- **A write that goes to the last position overflows**, and not before it has written. -/
theorem writeLba_overflows (still : script.Still) (idle : bus.Idle) (pos : UInt32)
    (data : List UInt8) (subcode : UInt8) {timeout : Duration} (some : 0 < timeout)
    (past : 2 ^ 32 ≤ pos.toNat + data.length / STORAGE_SECTOR_SIZE) :
    Io.After (Bus.answer script) (writeLba pos data subcode timeout) () bus
      fun outcome _ reached => Overflowed 0x15 bus outcome reached := by
  have small := pos.toNat_lt
  have filled : data.length ≠ 0 := by
    unfold STORAGE_SECTOR_SIZE at past
    omega
  unfold writeLba
  rw [if_neg filled]
  refine after_now.mpr ?_
  have soon : script.clock 0 < script.clock bus.ticks + timeout := by
    rw [still.still bus.ticks]
    exact Nat.lt_add_of_pos_right some
  have chunks : Io.After (Bus.answer script) (writeLbaChunks (script.clock bus.ticks + timeout)
      subcode (pieces data) pos) () { bus with ticks := bus.ticks + 1 } fun outcome _ reached =>
        Overflowed 0x15 { bus with ticks := bus.ticks + 1 } outcome reached := by
    refine writeLbaChunks_overflows still soon subcode (pieces data)
      (fun _ => sectorLength_of_mem_pieces) pos ?_ idle
    rw [length_pieces, ← Nat.mul_add]
    exact Nat.mul_le_mul_left _ past
  refine chunks.bind (fun error own reached overflowed => ?_) fun next own reached overflowed => ?_
  · obtain ⟨same, sent⟩ := overflowed
    cases same
    exact ⟨rfl, sent⟩
  · cases overflowed.1

theorem eraseLbaLoop_overflows (still : script.Still) {deadline : Instant}
    (soon : script.clock 0 < deadline) (rounds : Nat) (pos : UInt32) (remaining : Nat)
    (enough : remaining ≤ rounds) (past : 2 ^ 32 ≤ pos.toNat + remaining) (idle : bus.Idle) :
    Io.After (Bus.answer script) (eraseLbaLoop deadline rounds pos remaining) () bus
      fun outcome _ reached => Overflowed 0x25 bus outcome reached := by
  have small := pos.toNat_lt
  have left : remaining ≠ 0 := by omega
  induction rounds generalizing pos remaining bus with
  | zero => exact absurd (Nat.le_zero.mp enough) left
  | succ rounds ih =>
    unfold eraseLbaLoop
    rw [if_neg left]
    have filled := chunkSectors_ne_zero left
    have carries : ∀ (bus : Bus) (timeout : Duration), bus.Idle → 0 < timeout →
        Io.After (Bus.answer script)
          (eraseLbaRaw pos (UInt16.ofNat (min remaining 65535)) timeout) () bus
          fun outcome _ reached => Carried 0x25 bus outcome reached := by
      intro bus timeout idle some
      refine raw_carried still (Command.eraseLba_sector left pos)
        (eraseLbaRaw_emits filled pos timeout) some
        (eraseLbaRaw_progress still.healthy idle filled pos timeout) ?_
      refine (eraseLbaRaw_effect idle filled pos timeout).imp ?_
      intro outcome own reached wiped value same
      obtain rfl := same
      exact wiped.wiped.2
    refine round_overflows still soon idle carries (fun _ => checkedAddSectors_error) ?_
    intro bus next idle advances
    have position := checkedAddSectors_ok advances
    have small := next.toNat_lt
    exact ih next _ (by omega) (by omega) idle small (by omega)

/-- **An erasure that goes to the last position overflows**, and not before it has erased. -/
theorem eraseLba_overflows (still : script.Still) (idle : bus.Idle) (pos count : UInt32)
    {timeout : Duration} (some : 0 < timeout) (past : 2 ^ 32 ≤ pos.toNat + count.toNat) :
    Io.After (Bus.answer script) (eraseLba pos count timeout) () bus
      fun outcome _ reached => Overflowed 0x25 bus outcome reached := by
  have filled : count ≠ 0 := by
    rintro rfl
    exact absurd pos.toNat_lt (Nat.not_lt_of_le past)
  unfold eraseLba
  rw [if_neg filled]
  refine after_now.mpr ?_
  have soon : script.clock 0 < script.clock bus.ticks + timeout := by
    rw [still.still bus.ticks]
    exact Nat.lt_add_of_pos_right some
  have ticked : Bus.Idle { bus with ticks := bus.ticks + 1 } := idle
  refine (eraseLbaLoop_overflows still soon count.toNat pos count.toNat le_rfl past ticked).imp ?_
  intro outcome own reached overflowed
  exact overflowed

/-! ### Overflows without harm -/

/-- An overflow is reported before any sector is written or erased, and no command reaches beyond the
last sector. -/
def Harmless (before : Bus) {α : Type} (outcome : Except RkUsbError α) (reached : Bus) : Prop :=
  ∃ sent, reached.trace = before.trace ++ sent ∧
    (outcome = .error .lbaOverflow →
      ∀ command ∈ wireCommands sent, command.opcode ≠ 0x15 ∧ command.opcode ≠ 0x25) ∧
    ∀ command ∈ wireCommands sent, command.address + command.count ≤ 2 ^ 32

/-- Every run of the call is harmless, from any state and whatever the other end does. -/
def HarmlessCall {α : Type} (call : Duration → UsbIo Unit RkUsbError α) : Prop :=
  ∀ (script : Script) (bus : Bus) (timeout : Duration),
    Io.After (Bus.answer script) (call timeout) () bus fun outcome _ reached =>
      Harmless bus outcome reached

/-- A call that does not overflow where its range fits, and else does so after its commands. -/
theorem harmlessCall_iff {α : Type} {call : Duration → UsbIo Unit RkUsbError α} {fits : Prop}
    {opcode : UInt8} (destroys : opcode = 0x15 ∨ opcode = 0x25) {commands : List Command}
    (below : fits → ∃ limit, limit ≤ 2 ^ 32 ∧ Below limit commands)
    (emits : ∀ script timeout, Emits script (transfersOf commands) (call timeout))
    (quiet : fits → ∀ script timeout, NoOverflow script (call timeout))
    (loud : ¬fits → Io.After (Bus.answer Script.undisturbed) (call 1) () (Bus.fresh fun _ => 0)
      fun outcome _ reached => Overflowed opcode (Bus.fresh fun _ => 0) outcome reached) :
    HarmlessCall call ↔ fits := by
  constructor
  · intro harmless
    by_contra past
    obtain ⟨sent, logged, spares, -⟩ := harmless Script.undisturbed (Bus.fresh fun _ => 0) 1
    obtain ⟨fails, sent', logged', command, member, code⟩ := loud past
    obtain rfl := List.append_cancel_left (logged.symm.trans logged')
    have spared := spares fails command member
    rw [code] at spared
    rcases destroys with rfl | rfl
    · exact spared.1 rfl
    · exact spared.2 rfl
  · intro holds script bus timeout
    obtain ⟨limit, most, within⟩ := below holds
    refine ((emits script timeout () bus).and (quiet holds script timeout () bus)).imp ?_
    intro outcome own reached both
    obtain ⟨⟨sent, rest, logged, planned, -⟩, never⟩ := both
    refine ⟨sent, logged, fun fails => absurd rfl (never _ fails), fun command member => ?_⟩
    exact (within.wireCommands planned command member).trans most

/-- **An overflow destroys nothing** exactly for the ranges with a position after their whole
sectors, for which it is not reported. -/
theorem overflow_harmless_iff (pos count : UInt32) (data : List UInt8) (subcode : UInt8) :
    (HarmlessCall (writeLba pos data subcode) ↔
      pos.toNat + data.length / STORAGE_SECTOR_SIZE < 2 ^ 32) ∧
    (HarmlessCall (eraseLba pos count) ↔ pos.toNat + count.toNat < 2 ^ 32) := by
  have idle := Bus.fresh_idle fun _ => 0
  refine ⟨harmlessCall_iff (.inl rfl) (fun fits => ⟨_, ?_, writeCommands_inside fits⟩)
      (fun script => writeLba_emits pos data subcode)
      (fun fits script timeout => writeLba_noOverflow pos data subcode timeout fits)
      fun past => writeLba_overflows Script.undisturbed_still idle pos data subcode Nat.zero_lt_one
        (Nat.le_of_not_lt past),
    harmlessCall_iff (.inr rfl) (fun fits => ⟨_, fits.le, eraseCommands_inside fits⟩)
      (fun script => eraseLba_emits pos count)
      (fun fits script timeout => eraseLba_noOverflow pos count timeout fits)
      fun past => eraseLba_overflows Script.undisturbed_still idle pos count Nat.zero_lt_one
        (Nat.le_of_not_lt past)⟩
  unfold sectorsOf STORAGE_SECTOR_SIZE at *
  omega

/-- **Two sectors from the last one on are erased, and reported as an overflow.** -/
theorem overflow_harmless_eraseLast :
    ¬HarmlessCall (eraseLba 4294967295 2) ∧
      let run := (eraseLba 4294967295 2 1).run (Bus.answer Script.undisturbed) ()
        (Bus.fresh fun _ => 0)
      run.1.1 = .error .lbaOverflow ∧
        (wireCommands run.2.trace).map (fun command =>
          (command.opcode, command.address, command.count)) = [(0x25, 4294967295, 2)] := by
  have run : ((eraseLba 4294967295 2 1).run (Bus.answer Script.undisturbed) ()
      (Bus.fresh fun _ => 0)).1.1 = .error .lbaOverflow ∧
        (wireCommands ((eraseLba 4294967295 2 1).run (Bus.answer Script.undisturbed) ()
          (Bus.fresh fun _ => 0)).2.trace).map (fun command =>
            (command.opcode, command.address, command.count)) = [(0x25, 4294967295, 2)] := by
    decide +kernel
  refine ⟨fun harmless => ?_, run⟩
  obtain ⟨sent, logged, -, inside⟩ := harmless Script.undisturbed (Bus.fresh fun _ => 0) 1
  obtain rfl : _ = sent := logged
  obtain ⟨command, member, same⟩ := List.mem_map.mp
    (run.2.symm ▸ List.mem_singleton_self (0x25, 4294967295, 2))
  obtain ⟨-, address, count⟩ : command.opcode = 0x25 ∧ command.address = 4294967295 ∧
      command.count = 2 := by simpa using same
  have reaches := inside command member
  omega

end Rkusb
