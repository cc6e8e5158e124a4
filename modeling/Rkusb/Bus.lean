/-
**The other end of the bus.**

The environment the host code runs against, made explicit. `Target` is the device with the replies
that wait on its bulk-in pipe, a FIFO of whole transfers; `Bus` adds what the host has used up of
the environment so far and the trace of its transfers. Everything that is not determined by what
the host sends is a `Script`: the clock, the random words, the fault of each transfer, the verdict
on each command, the contents of data-in transfers that are not sectors, the byte that erased sectors
hold and the storage that is selected after a reset.

The device takes a bulk-out transfer as the data stage of the command that waits for one, else as a
command. A command it accepts is completed once: with status 0 it is carried out, and an IN command
then answers with one data transfer before its status wrapper; otherwise it has no effect and the
status wrapper is the whole answer.

The device has a storage for every code, and one of them is selected. Sector commands go to that one;
CHANGE_STORAGE and a reset select another.
-/

import Rkusb.Device
import Rkusb.Lib.Banks
import Rkusb.Lib.FlatStore

namespace Rkusb

open Interaction Bytes FlatStore

/-! ### Commands on the wire -/

/-- A bulk-only command wrapper as the device reads it. -/
structure WireCommand where
  tag : UInt32
  transferLength : Nat
  flags : UInt8
  lun : UInt8
  cbLength : UInt8
  opcode : UInt8
  subcode : UInt8
  address : Nat
  count : Nat
  deriving DecidableEq

/-- 31 bytes under the signature: little-endian tag and transfer length, big-endian address at bytes
2–5 and count at bytes 7–8 of the command descriptor block. -/
def WireCommand.decode (bytes : List UInt8) : Option WireCommand :=
  if bytes.length = Cbw.size ∧ u32OfBytes (bytes.take 4) = CBW_SIGN then
    some {
      tag := u32OfBytes ((bytes.drop 4).take 4)
      transferLength := ofLittleEndian ((bytes.drop 8).take 4)
      flags := bytes[12]?.getD 0
      lun := bytes[13]?.getD 0
      cbLength := bytes[14]?.getD 0
      opcode := bytes[15]?.getD 0
      subcode := bytes[16]?.getD 0
      address := ofLittleEndian ((bytes.drop 17).take 4).reverse
      count := ofLittleEndian ((bytes.drop 22).take 2).reverse }
  else none

/-- The storages of a device by their codes, with the selected one. -/
abbrev Flash : Type := Banks UInt8 (Nat → UInt8)

namespace WireCommand

/-- The command is followed by a data-out stage. -/
def expectsData (command : WireCommand) : Prop :=
  command.flags = DIRECTION_OUT ∧ 0 < command.transferLength

instance (command : WireCommand) : Decidable command.expectsData :=
  inferInstanceAs (Decidable (_ ∧ _))

/-- A sector command whose transfer length is not that of its sectors is refused. -/
def consistent (command : WireCommand) : Prop :=
  command.opcode = 0x14 ∨ command.opcode = 0x15 →
    command.transferLength = STORAGE_SECTOR_SIZE * command.count

instance (command : WireCommand) : Decidable command.consistent :=
  inferInstanceAs (Decidable (_ → _))

/-- What the command does to the selected storage: WRITE_LBA stores its data, ERASE_LBA fills its
sectors. -/
def stores (command : WireCommand) (erased : UInt8) (data : List UInt8) (disk : Nat → UInt8) :
    Nat → UInt8 :=
  if command.opcode = 0x15 then splice disk (STORAGE_SECTOR_SIZE * command.address) data
  else if command.opcode = 0x25 then
    splice disk (STORAGE_SECTOR_SIZE * command.address)
      (List.replicate (STORAGE_SECTOR_SIZE * command.count) erased)
  else disk

/-- The commands that select a storage: CHANGE_STORAGE, and DEVICE_RESET, which restarts the device. -/
def Selects (opcode : UInt8) : Prop := opcode = 0x2A ∨ opcode = 0xff

instance (opcode : UInt8) : Decidable (Selects opcode) := inferInstanceAs (Decidable (_ ∨ _))

/-- What the command does to the storages: CHANGE_STORAGE selects the one with the code in its
subcode, and a reset the one that the device selects when it restarts. -/
def effect (command : WireCommand) (erased : UInt8) (restarts : UInt8 → Flash → UInt8)
    (data : List UInt8) (flash : Flash) : Flash :=
  if command.opcode = 0x2A then flash.select command.subcode
  else if command.opcode = 0xff then flash.select (restarts command.subcode flash)
  else flash.put (command.stores erased data flash.current)

section Effect

variable {command : WireCommand} (erased : UInt8) (restarts : UInt8 → Flash → UInt8)
  (data : List UInt8) (flash : Flash)

/-- Every other command acts on the selected storage. -/
theorem effect_of_stays (stays : ¬Selects command.opcode) :
    command.effect erased restarts data flash =
      flash.put (command.stores erased data flash.current) := by
  obtain ⟨change, reset⟩ := not_or.mp stays
  unfold effect
  rw [if_neg change, if_neg reset]

theorem current_effect (stays : ¬Selects command.opcode) :
    (command.effect erased restarts data flash).current =
      command.stores erased data flash.current := by
  rw [effect_of_stays erased restarts data flash stays, Banks.current_put]

end Effect

/-- The data-in transfer of a command that is carried out: the stated sectors for READ_LBA, bytes of
the device's choice for the others. -/
def dataIn (command : WireCommand) (bytes : Nat → UInt8) (disk : Nat → UInt8) :
    Option (List UInt8) :=
  if command.flags = DIRECTION_IN ∧ 0 < command.transferLength then
    some (if command.opcode = 0x14 then
        slice disk (STORAGE_SECTOR_SIZE * command.address) command.transferLength
      else slice bytes 0 command.transferLength)
  else none

end WireCommand

/-! ### The device -/

/-- What may happen to a transfer: nothing out of the ordinary, an error (`taken`: the device took
the outgoing bytes all the same, or the reply at the head of the pipe is lost), or fewer bytes. -/
inductive Fault
  | none
  | error (error : UsbError) (taken : Bool)
  | short (count : Nat)
  deriving DecidableEq

/-- Everything that the host's transfers do not determine. -/
structure Script where
  clock : Nat → Instant
  clock_mono : Monotone clock
  tags : Nat → UInt32
  faults : Nat → Fault
  verdicts : Nat → UInt8
  contents : Nat → Nat → UInt8
  erased : UInt8
  /-- The storage that is selected after a reset, by its subcode and what the storages hold. -/
  restarts : UInt8 → Flash → UInt8

/-- A device that carries everything out, over transfers that never fail and under a clock that
stands still. -/
def Script.undisturbed : Script where
  clock _ := 0
  clock_mono _ _ _ := le_rfl
  tags := UInt32.ofNat
  faults _ := .none
  verdicts _ := 0
  contents _ _ := 0
  erased := 0
  restarts _ flash := flash.selected

/-- A command the device has dealt with: its status and what it sent for it. -/
structure Completion where
  command : WireCommand
  status : UInt8
  sent : Option (List UInt8)
  deriving DecidableEq

/-- The device and its bulk-in pipe. -/
structure Target where
  flash : Flash
  /-- The command that waits for its data-out stage. -/
  pending : Option WireCommand
  /-- The replies on the bulk-in pipe, oldest first. -/
  replies : List (List UInt8)
  completed : List Completion

namespace Target

/-- The selected storage. -/
def disk (target : Target) : Nat → UInt8 := target.flash.current

/-- The status wrapper for a command. -/
def statusOf (command : WireCommand) (status : UInt8) : List UInt8 :=
  Csw.asBytes { signature := CSW_SIGN, tag := command.tag, dataResidue := 0, status := status }

/-- Complete a command without carrying it out. -/
def refuse (command : WireCommand) (status : UInt8) (target : Target) : Target :=
  { target with
    pending := none
    replies := target.replies ++ [statusOf command status]
    completed := target.completed ++ [⟨command, status, none⟩] }

/-- Carry a command out. -/
def perform (script : Script) (command : WireCommand) (data : List UInt8) (target : Target) :
    Target :=
  let sent := command.dataIn (script.contents target.completed.length) target.disk
  { flash := command.effect script.erased script.restarts data target.flash
    pending := none
    replies := target.replies ++ sent.toList ++ [statusOf command 0]
    completed := target.completed ++ [⟨command, 0, sent⟩] }

/-- Complete a command, as the verdict on it says. -/
def complete (script : Script) (command : WireCommand) (data : List UInt8) (target : Target) :
    Target :=
  if ¬ command.consistent then target.refuse command 2
  else if script.verdicts target.completed.length = 0 then target.perform script command data
  else target.refuse command (script.verdicts target.completed.length)

/-- A bulk-out transfer that is not a data stage; what is not a command is ignored. -/
def command (script : Script) (bytes : List UInt8) (target : Target) : Target :=
  match WireCommand.decode bytes with
  | none => target
  | some command =>
      if command.expectsData then { target with pending := some command }
      else target.complete script command []

/-- A bulk-out transfer reaches the device. A command that waits for data and gets a transfer of
another length gives up, and the transfer is taken for a command. -/
def accept (script : Script) (bytes : List UInt8) (target : Target) : Target :=
  match target.pending with
  | none => target.command script bytes
  | some waiting =>
      if bytes.length = waiting.transferLength then target.complete script waiting bytes
      else (target.refuse waiting 2).command script bytes

/-- The pipe without its `count` oldest replies. -/
def dropReplies (target : Target) (count : Nat) : Target :=
  { target with replies := target.replies.drop count }

/-- Nothing waits on either side. -/
def Idle (target : Target) : Prop := target.pending = none ∧ target.replies = []

end Target

/-! ### The bus -/

/-- A transfer as the host started it. -/
inductive Transfer
  | bulkOut (bytes : List UInt8) (timeout : Duration)
  | bulkIn (capacity : Nat) (timeout : Duration)
  | control (requestType request : UInt8) (value index : UInt16) (bytes : List UInt8)
      (timeout : Duration)
  deriving DecidableEq

/-- The device, what the host has drawn from the script so far, and its transfers so far. -/
structure Bus where
  ticks : Nat
  draws : Nat
  trace : List Transfer
  target : Target

namespace Bus

/-- The host starts a transfer. -/
def record (bus : Bus) (transfer : Transfer) : Bus :=
  { bus with trace := bus.trace ++ [transfer] }

/-- The fault of the next transfer. -/
def fault (script : Script) (bus : Bus) : Fault := script.faults bus.trace.length

/-- The outcome of an outgoing transfer of `bytes`, and whether the other side took it. -/
def outcome (bytes : List UInt8) : Fault → Except UsbError Nat × Bool
  | .none => (.ok bytes.length, true)
  | .error error taken => (.error error, taken)
  | .short count => (.ok (min count bytes.length), decide (bytes.length ≤ count))

def bulkOut (script : Script) (bytes : List UInt8) (timeout : Duration) (bus : Bus) :
    Except UsbError Nat × Bus :=
  let result := outcome bytes (bus.fault script)
  (result.1,
    { bus.record (.bulkOut bytes timeout) with
      target := if result.2 then bus.target.accept script bytes else bus.target })

/-- What a read of at most `capacity` bytes gets from the pipe. A reply is delivered whole; one that
does not fit the buffer is an overflow and lost. A read that is cut short ends before its buffer is
full, and the rest of the reply is lost. -/
def delivered (capacity : Nat) (replies : List (List UInt8)) :
    Fault → Except UsbError (List UInt8) × List (List UInt8)
  | .error error taken => (.error error, if taken then replies.tail else replies)
  | .none =>
      match replies with
      | [] => (.error .timeout, [])
      | reply :: rest => (if reply.length ≤ capacity then .ok reply else .error .overflow, rest)
  | .short count =>
      match replies with
      | [] => (.error .timeout, [])
      | reply :: rest =>
          (if count < capacity ∧ count < reply.length then .ok (reply.take count)
            else if reply.length ≤ capacity then .ok reply else .error .overflow, rest)

def bulkIn (script : Script) (capacity : Nat) (timeout : Duration) (bus : Bus) :
    Except UsbError (List UInt8) × Bus :=
  let result := delivered capacity bus.target.replies (bus.fault script)
  (result.1,
    { bus.record (.bulkIn capacity timeout) with
      target := { bus.target with replies := result.2 } })

/-- The environment as a handler. -/
def answer (script : Script) : Handler UsbRequest.Answer Bus
  | .now, bus => (script.clock bus.ticks, { bus with ticks := bus.ticks + 1 })
  | .random, bus => (script.tags bus.draws, { bus with draws := bus.draws + 1 })
  | .writeBulk bytes timeout, bus => bus.bulkOut script bytes timeout
  | .readBulk capacity timeout, bus => bus.bulkIn script capacity timeout
  | .writeControl requestType request value index bytes timeout, bus =>
      ((outcome bytes (bus.fault script)).1,
        bus.record (.control requestType request value index bytes timeout))

/-- The timeout after any reading of the clock so far fits an `Instant`: no deadline that was computed
is a panic. -/
def InstantsFit (script : Script) (timeout : Duration) (bus : Bus) : Prop :=
  ∀ tick, tick < bus.ticks → script.clock tick + timeout < INSTANT_END

/-- The host has nothing outstanding with the device. -/
def Idle (bus : Bus) : Prop := bus.target.Idle

/-- A device that was just opened, with the given contents in each storage. -/
def fresh (disk : Nat → UInt8) : Bus where
  ticks := 0
  draws := 0
  trace := []
  target := { flash := .const 0 disk, pending := none, replies := [], completed := [] }

theorem fresh_idle (disk : Nat → UInt8) : (fresh disk).Idle := ⟨rfl, rfl⟩

end Bus

/-! ### The wire format -/

theorem ofLittleEndian_u32Bytes (value : UInt32) : ofLittleEndian (u32Bytes value) = value.toNat :=
  ofLittleEndian_toLittleEndian_of_lt value.toNat_lt

theorem ofLittleEndian_u16Bytes (value : UInt16) : ofLittleEndian (u16Bytes value) = value.toNat :=
  ofLittleEndian_toLittleEndian_of_lt value.toNat_lt

/-- **The device reads the command that the host wrote**: the packed layout, with the address and
the count stored big-endian. -/
theorem decode_asBytes (cbw : Cbw) (signed : cbw.signature = CBW_SIGN) (address : UInt32)
    (count : UInt16) (toBe : cbw.cb.address = u32ToBe address) (toBe' : cbw.cb.length = u16ToBe count) :
    WireCommand.decode cbw.asBytes = some {
      tag := cbw.tag
      transferLength := cbw.dataTransferLength.toNat
      flags := cbw.flags
      lun := cbw.lun
      cbLength := cbw.cbLength
      opcode := cbw.cb.operCode
      subcode := cbw.cb.reserved
      address := address.toNat
      count := count.toNat } := by
  have addressBytes : u32Bytes cbw.cb.address = (u32Bytes address).reverse := by
    rw [toBe, u32Bytes_toBe]
  have countBytes : u16Bytes cbw.cb.length = (u16Bytes count).reverse := by
    rw [toBe', u16Bytes_toBe]
  have drop4 (value : UInt32) : ∀ n, 4 ≤ n → (u32Bytes value).drop n = [] := fun n le =>
    List.drop_of_length_le (by simpa using le)
  have past : (u32Bytes address).reverse.drop 5 = [] := List.drop_of_length_le (by simp)
  have signBytes : u32OfBytes ((cbw.asBytes).take 4) = CBW_SIGN := by
    simp [Cbw.asBytes, signed]
  rw [WireCommand.decode, if_pos ⟨length_cbw_asBytes cbw, signBytes⟩]
  simp [Cbw.asBytes, Cbwcb.asBytes, List.drop_append, drop4, past, addressBytes, countBytes,
    ofLittleEndian_u32Bytes, ofLittleEndian_u16Bytes]

end Rkusb
