/-
**The library's commands, one transaction each.**

`Command` is what a library function passes to `cbwTransaction`; `Command.Issued` lists the eight
forms the library issues, and every function of `lib.rs` that sends a command is one of these
transactions between pure steps (`writeLbaRaw_eq` and its siblings). Their wrappers decode to
`Command.wire` (`Command.decode_wrap`), and their stages fit them (`Command.Issued.stages`).
-/

import Rkusb.Transaction

namespace Rkusb

open Interaction Bytes FlatStore

variable {script : Script} {bus : Bus}

/-- A command with the stages of its transaction. -/
structure Command where
  opcode : UInt8
  subcode : UInt8 := 0
  address : UInt32 := 0
  count : UInt16 := 0
  transferLength : UInt32 := 0
  dataOut : Option (List UInt8) := none
  dataIn : Option (List UInt8) := none

namespace Command

/-- What the command functions set in a wrapper from `Cbw::with_opcode`. -/
def wrap (command : Command) (cbw : Cbw) : Cbw :=
  { cbw with
    dataTransferLength := command.transferLength
    cb := { cbw.cb with
      address := u32ToBe command.address
      length := u16ToBe command.count
      reserved := command.subcode } }

/-- One transaction for the command, under a fresh tag. -/
def transact (command : Command) (timeout : Duration) : UsbIo Unit RkUsbError (Nat × List UInt8) := do
  let cbw ← Cbw.withOpcode command.opcode
  cbwTransaction (command.wrap cbw) command.dataOut command.dataIn timeout

/-! ### The commands of the library -/

def writeLba (pos : UInt32) (data : List UInt8) (subcode : UInt8) : Command where
  opcode := 0x15
  subcode := subcode
  address := pos
  count := UInt16.ofNat (data.length / STORAGE_SECTOR_SIZE)
  transferLength := UInt32.ofNat data.length
  dataOut := some data

def readLba (pos : UInt32) (data : List UInt8) (subcode : UInt8) : Command where
  opcode := 0x14
  subcode := subcode
  address := pos
  count := UInt16.ofNat (data.length / STORAGE_SECTOR_SIZE)
  transferLength := UInt32.ofNat data.length
  dataIn := some data

def eraseLba (pos : UInt32) (sectorCount : UInt16) : Command where
  opcode := 0x25
  address := pos
  count := sectorCount

def resetDevice (subcode : UInt8) : Command where
  opcode := 0xff
  subcode := subcode

def readCapability : Command where
  opcode := 0xAA
  transferLength := 8
  dataIn := some (List.replicate 8 0)

def readStorageInfo : Command where
  opcode := 0x1A
  transferLength := UInt32.ofNat RkFlashInfo.size
  dataIn := some (List.replicate 512 0)

def readStorage : Command where
  opcode := 0x2B
  transferLength := 4
  dataIn := some (List.replicate 4 0)

def switchStorage (storage : UInt8) : Command where
  opcode := 0x2A
  subcode := storage

/-- The length of a sector transfer that passes the checks of the raw commands. -/
def SectorLength (length : Nat) : Prop :=
  length ≠ 0 ∧ length % STORAGE_SECTOR_SIZE = 0 ∧ length / STORAGE_SECTOR_SIZE < 2 ^ 16

instance (length : Nat) : Decidable (SectorLength length) := inferInstanceAs (Decidable (_ ∧ _))

/-- The commands that the library issues. -/
inductive Issued : Command → Prop
  | writeLba (pos : UInt32) (data : List UInt8) (subcode : UInt8) :
      SectorLength data.length → Issued (Command.writeLba pos data subcode)
  | readLba (pos : UInt32) (data : List UInt8) (subcode : UInt8) :
      SectorLength data.length → Issued (Command.readLba pos data subcode)
  | eraseLba (pos : UInt32) (sectorCount : UInt16) : Issued (Command.eraseLba pos sectorCount)
  | resetDevice (subcode : UInt8) : Issued (Command.resetDevice subcode)
  | readCapability : Issued Command.readCapability
  | readStorageInfo : Issued Command.readStorageInfo
  | readStorage : Issued Command.readStorage
  | switchStorage (storage : UInt8) : Issued (Command.switchStorage storage)

end Command

/-! ### The library functions are transactions of these commands -/

theorem transact_bind {α : Type} (command : Command) (timeout : Duration)
    (next : Nat × List UInt8 → UsbIo Unit RkUsbError α) :
    command.transact timeout >>= next = (do
      let cbw ← Cbw.withOpcode command.opcode
      let received ← cbwTransaction (command.wrap cbw) command.dataOut command.dataIn timeout
      next received) :=
  bind_assoc _ _ _

theorem writeLbaRaw_eq {data : List UInt8} (valid : Command.SectorLength data.length)
    (pos : UInt32) (subcode : UInt8) (timeout : Duration) :
    writeLbaRaw pos data subcode timeout =
      (Command.writeLba pos data subcode).transact timeout >>= fun _ => pure () := by
  rw [transact_bind, writeLbaRaw, if_neg valid.1, if_neg (not_not.mpr valid.2.1),
    if_neg (Nat.not_le.mpr valid.2.2)]
  rfl

theorem readLbaRaw_eq {data : List UInt8} (valid : Command.SectorLength data.length)
    (pos : UInt32) (subcode : UInt8) (timeout : Duration) :
    readLbaRaw pos data subcode timeout =
      (Command.readLba pos data subcode).transact timeout >>= fun received => pure received.2 := by
  rw [transact_bind, readLbaRaw, if_neg valid.1, if_neg (not_not.mpr valid.2.1),
    if_neg (Nat.not_le.mpr valid.2.2)]
  rfl

/-- The checks refuse every other length, unless there is nothing to transfer. -/
theorem checks_of_not_sectorLength {α : Type} {length : Nat} (invalid : ¬Command.SectorLength length)
    (empty accepted : UsbIo Unit RkUsbError α) :
    (if length = 0 then empty
      else if length % STORAGE_SECTOR_SIZE ≠ 0 then .throw (.usb .invalidParam)
      else if 2 ^ 16 ≤ length / STORAGE_SECTOR_SIZE then .throw (.usb .invalidParam)
      else accepted) = if length = 0 then empty else .throw (.usb .invalidParam) := by
  refine if_ctx_congr Iff.rfl (fun _ => rfl) fun some => ?_
  by_cases whole : length % STORAGE_SECTOR_SIZE = 0
  · have long : 2 ^ 16 ≤ length / STORAGE_SECTOR_SIZE :=
      Nat.le_of_not_lt fun short => invalid ⟨some, whole, short⟩
    rw [if_neg (not_not.mpr whole), if_pos long]
  · rw [if_pos whole]

theorem writeLbaRaw_of_not {data : List UInt8} (invalid : ¬Command.SectorLength data.length)
    (pos : UInt32) (subcode : UInt8) (timeout : Duration) :
    writeLbaRaw pos data subcode timeout =
      if data.length = 0 then pure () else .throw (.usb .invalidParam) :=
  checks_of_not_sectorLength invalid _ _

theorem readLbaRaw_of_not {data : List UInt8} (invalid : ¬Command.SectorLength data.length)
    (pos : UInt32) (subcode : UInt8) (timeout : Duration) :
    readLbaRaw pos data subcode timeout =
      if data.length = 0 then pure data else .throw (.usb .invalidParam) :=
  checks_of_not_sectorLength invalid _ _

/-- The wrapper that `Cbw::with_opcode` makes under a tag. -/
def Cbw.initial (opcode : UInt8) (tag : UInt32) : Cbw :=
  ({ signature := CBW_SIGN, tag := tag, dataTransferLength := 0, flags := DIRECTION_OUT, lun := 0,
     cbLength := UInt8.ofNat Cbwcb.size, cb := { operCode := opcode } } : Cbw).directed opcode

theorem Cbw.withOpcode_bind {δ ε α : Type} (opcode : UInt8) (next : Cbw → UsbIo δ ε α) :
    Cbw.withOpcode opcode >>= next = random >>= fun tag => next (Cbw.initial opcode tag) := by
  unfold Cbw.withOpcode Cbw.new
  simp only [bind_assoc, pure_bind]
  rfl

/-- The operation code decides the direction and the block length, and nothing else. -/
theorem Cbw.initial_fields (opcode : UInt8) (tag : UInt32) :
    (Cbw.initial opcode tag).signature = CBW_SIGN ∧ (Cbw.initial opcode tag).tag = tag ∧
      (Cbw.initial opcode tag).lun = 0 ∧ (Cbw.initial opcode tag).cb.operCode = opcode ∧
      (Cbw.initial opcode tag).dataTransferLength = 0 ∧ (Cbw.initial opcode tag).cb.address = 0 ∧
      (Cbw.initial opcode tag).cb.length = 0 := by
  unfold Cbw.initial Cbw.directed
  repeat' split
  all_goals exact ⟨rfl, rfl, rfl, rfl, rfl, rfl, rfl⟩

theorem eraseLbaRaw_eq {sectorCount : UInt16} (some : sectorCount ≠ 0) (pos : UInt32)
    (timeout : Duration) :
    eraseLbaRaw pos sectorCount timeout =
      (Command.eraseLba pos sectorCount).transact timeout >>= fun _ => pure () := by
  rw [transact_bind, eraseLbaRaw, if_neg some, Cbw.withOpcode_bind, Cbw.withOpcode_bind]
  rfl

/-- A command function that sets the subcode only leaves the other fields at their defaults. -/
theorem Command.wrap_subcode (command : Command) {tag : UInt32} (address : command.address = 0)
    (count : command.count = 0) (length : command.transferLength = 0) :
    command.wrap (Cbw.initial command.opcode tag) =
      { Cbw.initial command.opcode tag with
        cb := { (Cbw.initial command.opcode tag).cb with reserved := command.subcode } } := by
  have zero : u32ToBe 0 = 0 := by decide
  have zero' : u16ToBe 0 = 0 := by decide
  obtain ⟨-, -, -, -, length', address', count'⟩ := Cbw.initial_fields command.opcode tag
  simp only [Command.wrap, address, count, length, zero, zero', length', address', count']

theorem resetDevice_eq (subcode : UInt8) :
    resetDevice subcode =
      (Command.resetDevice subcode).transact USB_TIMEOUT >>= fun _ => pure () := by
  rw [transact_bind, resetDevice, Cbw.withOpcode_bind, Cbw.withOpcode_bind]
  simp only [Command.wrap_subcode (Command.resetDevice subcode) rfl rfl rfl]
  rfl

theorem readCapability_eq (timeout : Duration) :
    readCapability timeout =
      Command.readCapability.transact timeout >>= fun received => pure received.2 := by
  rw [transact_bind, readCapability, Cbw.withOpcode_bind, Cbw.withOpcode_bind]
  rfl

/-- `RkDevice::read_storage_info` after its transaction. -/
def flashInfoOf (received : Nat × List UInt8) : Except RkUsbError RkFlashInfo :=
  if received.2.length < received.1 then .error (.invalidFlashInfoLength received.1)
  else match RkFlashInfo.tryReadFromBytes (received.2.take received.1) with
    | none => .error (.invalidFlashInfoLength received.1)
    | some info => .ok info

theorem readStorageInfo_eq :
    readStorageInfo = Command.readStorageInfo.transact USB_TIMEOUT >>= fun received =>
      .ofExcept (flashInfoOf received) := by
  rw [transact_bind, readStorageInfo, Cbw.withOpcode_bind, Cbw.withOpcode_bind]
  refine congrArg (random >>= ·) (funext fun tag => congrArg (cbwTransaction _ _ _ _ >>= ·)
    (funext fun received => ?_))
  obtain ⟨infoLen, infoBuf⟩ := received
  show (if infoBuf.length < infoLen then _ else _) = _
  unfold flashInfoOf
  split
  · rfl
  · cases RkFlashInfo.tryReadFromBytes (infoBuf.take infoLen) <;> rfl

/-- `RkDevice::read_storage` after its transaction. -/
def storageOf (received : Nat × List UInt8) : Option UInt8 :=
  if u32OfBytes received.2 ≠ 0 then some (UInt8.ofNat (trailingZeros (u32OfBytes received.2)))
  else none

theorem readStorage_eq :
    readStorage = Command.readStorage.transact USB_TIMEOUT >>= fun received =>
      pure (storageOf received) := by
  rw [transact_bind, readStorage, Cbw.withOpcode_bind, Cbw.withOpcode_bind]
  rfl

theorem switchStorage_eq (storage : UInt8) :
    switchStorage storage =
      (Command.switchStorage storage).transact USB_TIMEOUT >>= fun _ => pure () := by
  rw [transact_bind, switchStorage, Cbw.withOpcode_bind, Cbw.withOpcode_bind]
  simp only [Command.wrap_subcode (Command.switchStorage storage) rfl rfl rfl]
  rfl

/-! ### The commands on the wire -/

/-- A bulk-only command wrapper as the device reads it. -/
def Command.wire (command : Command) (tag : UInt32) : WireCommand where
  tag := tag
  transferLength := command.transferLength.toNat
  flags := (Cbw.initial command.opcode tag).flags
  lun := 0
  cbLength := (Cbw.initial command.opcode tag).cbLength
  opcode := command.opcode
  subcode := command.subcode
  address := command.address.toNat
  count := command.count.toNat

theorem Command.decode_wrap (command : Command) (tag : UInt32) :
    WireCommand.decode (command.wrap (Cbw.initial command.opcode tag)).asBytes =
      some (command.wire tag) := by
  obtain ⟨signed, tagged, lun, opcode, -⟩ := Cbw.initial_fields command.opcode tag
  rw [decode_asBytes (command.wrap (Cbw.initial command.opcode tag)) signed command.address
    command.count rfl rfl]
  show some (WireCommand.mk (Cbw.initial command.opcode tag).tag _ _
    (Cbw.initial command.opcode tag).lun _ (Cbw.initial command.opcode tag).cb.operCode _ _ _) = _
  rw [tagged, lun, opcode]
  rfl

theorem Command.SectorLength.toNat_ofNat {length : Nat} (valid : Command.SectorLength length) :
    (UInt32.ofNat length).toNat = length :=
  UInt32.toNat_ofNat_of_lt' (by
    have := valid.2.2
    unfold STORAGE_SECTOR_SIZE at this
    show length < 2 ^ 32
    omega)

theorem Command.SectorLength.count {length : Nat} (valid : Command.SectorLength length) :
    STORAGE_SECTOR_SIZE * (UInt16.ofNat (length / STORAGE_SECTOR_SIZE)).toNat = length := by
  rw [UInt16.toNat_ofNat_of_lt' valid.2.2]
  exact Nat.mul_div_cancel' (Nat.dvd_of_mod_eq_zero valid.2.1)

/-- A command without a data stage. -/
theorem Command.stages_of_noData {command : Command} {tag : UInt32}
    (outward : (command.wire tag).flags ≠ DIRECTION_IN) (noOut : command.dataOut = none)
    (noIn : command.dataIn = none) (length : command.transferLength = 0) :
    Stages (command.wrap (Cbw.initial command.opcode tag)) (command.wire tag) command.dataOut
      command.dataIn where
  decoded := command.decode_wrap tag
  out data same := by
    rw [noOut] at same
    cases same
  noOut _ expects := by
    have positive : 0 < command.transferLength.toNat := expects.2
    rw [length] at positive
    exact absurd positive (by decide)
  inn buf same := by
    rw [noIn] at same
    cases same
  noIn _ inward := outward inward.1
  transferLength := rfl
  tag := (Cbw.initial_fields command.opcode tag).2.1
  notCsw := by
    show command.transferLength.toNat ≠ _
    rw [length]
    decide
  notCbw := by
    show command.transferLength.toNat ≠ _
    rw [length]
    decide

/-- A command with a data-in stage. -/
theorem Command.stages_of_dataIn {command : Command} {tag : UInt32} {buf : List UInt8}
    (inward : (command.wire tag).flags = DIRECTION_IN) (noOut : command.dataOut = none)
    (inn : command.dataIn = some buf) (positive : 0 < command.transferLength.toNat)
    (room : command.transferLength.toNat ≤ buf.length)
    (notCsw : command.transferLength.toNat ≠ Csw.size)
    (notCbw : command.transferLength.toNat ≠ Cbw.size) :
    Stages (command.wrap (Cbw.initial command.opcode tag)) (command.wire tag) command.dataOut
      command.dataIn where
  decoded := command.decode_wrap tag
  out data same := by
    rw [noOut] at same
    cases same
  noOut _ expects := absurd (inward.symm.trans expects.1) (by decide)
  inn buf' same := by
    rw [inn, Option.some.injEq] at same
    exact ⟨inward, positive, same ▸ room⟩
  noIn none := by
    rw [inn] at none
    cases none
  transferLength := rfl
  tag := (Cbw.initial_fields command.opcode tag).2.1
  notCsw := notCsw
  notCbw := notCbw

/-- **The stages of every command of the library fit it.** -/
theorem Command.Issued.stages {command : Command} (issued : command.Issued) (tag : UInt32) :
    Stages (command.wrap (Cbw.initial command.opcode tag)) (command.wire tag) command.dataOut
      command.dataIn := by
  have lengths (length : Nat) (valid : SectorLength length) : 0 < length ∧
      length ≠ Csw.size ∧ length ≠ Cbw.size := by
    have divides := valid.2.1
    have positive := valid.1
    unfold STORAGE_SECTOR_SIZE at divides
    unfold Csw.size Cbw.size
    omega
  have outward : DIRECTION_OUT ≠ DIRECTION_IN := by decide
  cases issued with
  | writeLba pos data subcode valid =>
    have length : ((Command.writeLba pos data subcode).wire tag).transferLength = data.length :=
      valid.toNat_ofNat
    obtain ⟨positive, notCsw, notCbw⟩ := lengths _ valid
    rw [← length] at positive notCsw notCbw
    exact {
      decoded := Command.decode_wrap _ tag
      out := fun data' same => by
        cases same
        exact ⟨⟨rfl, positive⟩, length.symm⟩
      noOut := fun none => by cases none
      inn := fun buf none => by cases none
      noIn := fun _ inward => outward inward.1
      transferLength := rfl
      tag := rfl
      notCsw := notCsw
      notCbw := notCbw }
  | readLba pos data subcode valid =>
    have length : ((Command.readLba pos data subcode).wire tag).transferLength = data.length :=
      valid.toNat_ofNat
    obtain ⟨positive, notCsw, notCbw⟩ := lengths _ valid
    rw [← length] at positive notCsw notCbw
    exact stages_of_dataIn rfl rfl rfl positive length.le notCsw notCbw
  | eraseLba pos sectorCount => exact stages_of_noData outward rfl rfl rfl
  | resetDevice subcode => exact stages_of_noData outward rfl rfl rfl
  | switchStorage storage => exact stages_of_noData outward rfl rfl rfl
  | readCapability =>
    exact stages_of_dataIn rfl rfl rfl (by decide) (by decide) (by decide) (by decide)
  | readStorageInfo =>
    exact stages_of_dataIn rfl rfl rfl (by decide) (by
      rw [List.length_replicate]
      decide) (by decide) (by decide)
  | readStorage =>
    exact stages_of_dataIn rfl rfl rfl (by decide) (by decide) (by decide) (by decide)

end Rkusb
