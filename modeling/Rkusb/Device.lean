/-
**The device handle** (`lib.rs`).

Every command goes through `cbwTransaction`: the command wrapper out, an optional data stage, the
status wrapper in. The raw commands build the wrapper; `writeLba`, `readLba` and `eraseLba` cut a
request into raw commands.

A buffer that the source fills in place is an argument with its old contents, and its new contents
are part of the result.
-/

import Rkusb.Usb

namespace Rkusb

open Interaction Bytes

/-- `RkUsbError`. -/
inductive RkUsbError
  | usb (error : UsbError)
  | lbaOverflow
  | duplicateBulkEndpoint
  | tagMismatch
  | commandFailed (status : UInt8)
  | invalidCsw
  | invalidFlashInfoLength (length : Nat)
  deriving DecidableEq

/-- Five seconds. -/
def USB_TIMEOUT : Duration := 5 * 10 ^ 9
def STORAGE_SECTOR_SIZE : Nat := 512
def MAX_LBA_TRANSFER_SECTORS : Nat := 128
def MAX_LBA_TRANSFER_BYTES : Nat := MAX_LBA_TRANSFER_SECTORS * STORAGE_SECTOR_SIZE

/-- What is left until the deadline; nothing left is a timeout. -/
def remainingTimeout (deadline : Instant) : UsbIo Unit RkUsbError Duration := do
  let time ← now
  if time < deadline then pure (deadline - time) else .throw (.usb .timeout)

/-- `u32::checked_add` on sector positions. -/
def checkedAddSectors (pos : UInt32) (sectors : Nat) : Except RkUsbError UInt32 :=
  if pos.toNat + sectors < 2 ^ 32 then .ok (UInt32.ofNat (pos.toNat + sectors))
  else .error .lbaOverflow

def advanceLbaByBytes (pos : UInt32) (bytes : Nat) : Except RkUsbError UInt32 :=
  if bytes / STORAGE_SECTOR_SIZE < 2 ^ 32 then checkedAddSectors pos (bytes / STORAGE_SECTOR_SIZE)
  else .error .lbaOverflow

/-! ### One transaction -/

def writeBulk (bytes : List UInt8) (timeout : Duration) : UsbIo Unit RkUsbError Nat := do
  let answer : Except UsbError Nat ← Io.ask (UsbRequest.writeBulk bytes timeout)
  .ofExcept (answer.mapError .usb)

def readBulk (capacity : Nat) (timeout : Duration) : UsbIo Unit RkUsbError (List UInt8) := do
  let answer : Except UsbError (List UInt8) ← Io.ask (UsbRequest.readBulk capacity timeout)
  .ofExcept (answer.mapError .usb)

/-- Write all of `bytes` before the deadline, or fail. -/
def sendExactly (bytes : List UInt8) (size : Nat) (deadline : Instant) :
    UsbIo Unit RkUsbError Unit := do
  let timeout ← remainingTimeout deadline
  let n ← writeBulk bytes timeout
  if n = size then pure () else .throw (.usb .io)

/-- The command stage. -/
def sendCommand (cbw : Cbw) (deadline : Instant) : UsbIo Unit RkUsbError Unit :=
  sendExactly cbw.asBytes Cbw.size deadline

/-- The data-out stage, where there is one. -/
def sendData (dataOut : Option (List UInt8)) (deadline : Instant) :
    UsbIo Unit RkUsbError Unit :=
  match dataOut with
  | none => pure ()
  | some buf => sendExactly buf buf.length deadline

/-- The data-in stage, where there is one: the number of bytes read, and the buffer after. -/
def receiveData (cbw : Cbw) (dataIn : Option (List UInt8)) (deadline : Instant) :
    UsbIo Unit RkUsbError (Nat × List UInt8) :=
  match dataIn with
  | none => pure (0, [])
  | some buf => do
      let timeout ← remainingTimeout deadline
      let bytes ← readBulk buf.length timeout
      if bytes.length < cbw.dataTransferLength.toNat ∨ buf.length < bytes.length then
        .throw (.usb .io)
      else pure (bytes.length, bytes ++ buf.drop bytes.length)

/-- The status stage. -/
def receiveStatus (cbw : Cbw) (deadline : Instant) : UsbIo Unit RkUsbError Unit := do
  let timeout ← remainingTimeout deadline
  let bytes ← readBulk Csw.size timeout
  match Csw.tryReadFromBytes bytes with
  | none => .throw .invalidCsw
  | some csw =>
      if csw.signature ≠ CSW_SIGN then .throw .invalidCsw
      else if csw.tag ≠ cbw.tag then .throw .tagMismatch
      else if csw.status ≠ 0 then .throw (.commandFailed csw.status)
      else pure ()

/-- One bulk-only transaction: the length of the data-in stage, and the caller's buffer after. -/
def cbwTransaction (cbw : Cbw) (dataOut dataIn : Option (List UInt8)) (timeout : Duration) :
    UsbIo Unit RkUsbError (Nat × List UInt8) := do
  let start ← now
  let deadline := start + timeout
  sendCommand cbw deadline
  sendData dataOut deadline
  let received ← receiveData cbw dataIn deadline
  receiveStatus cbw deadline
  pure received

/-! ### Raw commands -/

def writeLbaRaw (pos : UInt32) (data : List UInt8) (subcode : UInt8) (timeout : Duration) :
    UsbIo Unit RkUsbError Unit :=
  if data.length = 0 then pure ()
  else if data.length % STORAGE_SECTOR_SIZE ≠ 0 then .throw (.usb .invalidParam)
  else if 2 ^ 16 ≤ data.length / STORAGE_SECTOR_SIZE then .throw (.usb .invalidParam)
  else do
    let cbw ← Cbw.withOpcode 0x15 -- WRITE_LBA
    let _ ← cbwTransaction { cbw with
      dataTransferLength := UInt32.ofNat data.length
      cb := { cbw.cb with
        address := u32ToBe pos
        length := u16ToBe (UInt16.ofNat (data.length / STORAGE_SECTOR_SIZE))
        reserved := subcode } } (some data) none timeout
    pure ()

def readLbaRaw (pos : UInt32) (data : List UInt8) (subcode : UInt8) (timeout : Duration) :
    UsbIo Unit RkUsbError (List UInt8) :=
  if data.length = 0 then pure data
  else if data.length % STORAGE_SECTOR_SIZE ≠ 0 then .throw (.usb .invalidParam)
  else if 2 ^ 16 ≤ data.length / STORAGE_SECTOR_SIZE then .throw (.usb .invalidParam)
  else do
    let cbw ← Cbw.withOpcode 0x14 -- READ_LBA
    let (_, data) ← cbwTransaction { cbw with
      dataTransferLength := UInt32.ofNat data.length
      cb := { cbw.cb with
        address := u32ToBe pos
        length := u16ToBe (UInt16.ofNat (data.length / STORAGE_SECTOR_SIZE))
        reserved := subcode } } none (some data) timeout
    pure data

def eraseLbaRaw (pos : UInt32) (sectorCount : UInt16) (timeout : Duration) :
    UsbIo Unit RkUsbError Unit :=
  if sectorCount = 0 then pure ()
  else do
    let cbw ← Cbw.withOpcode 0x25 -- ERASE_LBA
    let _ ← cbwTransaction { cbw with
      cb := { cbw.cb with address := u32ToBe pos, length := u16ToBe sectorCount } } none none timeout
    pure ()

/-! ### Device commands -/

/-- Reset the connected device with a specific reset subcode. -/
def resetDevice (subcode : UInt8) : UsbIo Unit RkUsbError Unit := do
  let cbw ← Cbw.withOpcode 0xff -- DEVICE_RESET
  let _ ← cbwTransaction { cbw with cb := { cbw.cb with reserved := subcode } } none none USB_TIMEOUT
  pure ()

/-- Read device capability bytes. -/
def readCapability (timeout : Duration) : UsbIo Unit RkUsbError (List UInt8) := do
  let capability := List.replicate 8 0
  let cbw ← Cbw.withOpcode 0xAA -- READ_CAPABILITY
  let (_, capability) ←
    cbwTransaction { cbw with dataTransferLength := 8 } none (some capability) timeout
  pure capability

/-- `RkFlashInfo`, 11 packed bytes. -/
structure RkFlashInfo where
  flashSize : UInt32
  blockSize : UInt16
  pageSize : UInt8
  eccBits : UInt8
  accessTime : UInt8
  manufacture : UInt8
  flashMask : UInt8
  deriving DecidableEq

/-- `std::mem::size_of::<RkFlashInfo>()`. -/
def RkFlashInfo.size : Nat := 11

/-- `RkFlashInfo::try_read_from_bytes`. -/
def RkFlashInfo.tryReadFromBytes (bytes : List UInt8) : Option RkFlashInfo :=
  if bytes.length = RkFlashInfo.size then
    some {
      flashSize := u32OfBytes (bytes.take 4)
      blockSize := u16OfBytes ((bytes.drop 4).take 2)
      pageSize := bytes[6]?.getD 0
      eccBits := bytes[7]?.getD 0
      accessTime := bytes[8]?.getD 0
      manufacture := bytes[9]?.getD 0
      flashMask := bytes[10]?.getD 0 }
  else none

/-- Read storage information from the device. -/
def readStorageInfo : UsbIo Unit RkUsbError RkFlashInfo := do
  let cbw ← Cbw.withOpcode 0x1A -- READ_FLASH_INFO
  let infoBuf := List.replicate 512 0
  let (infoLen, infoBuf) ← cbwTransaction
    { cbw with dataTransferLength := UInt32.ofNat RkFlashInfo.size } none (some infoBuf) USB_TIMEOUT
  if infoBuf.length < infoLen then .throw (.invalidFlashInfoLength infoLen)
  else match RkFlashInfo.tryReadFromBytes (infoBuf.take infoLen) with
    | none => .throw (.invalidFlashInfoLength infoLen)
    | some info => pure info

/-- `u32::trailing_zeros`. -/
def trailingZeros (bits : UInt32) : Nat :=
  ((List.range 32).find? fun index => bits.toNat.testBit index).getD 32

/-- Read the current storage selection; `none` when no storage bit is set. -/
def readStorage : UsbIo Unit RkUsbError (Option UInt8) := do
  let cbw ← Cbw.withOpcode 0x2B -- READ_STORAGE
  let storageBitsBuf := List.replicate 4 0
  let (_, storageBitsBuf) ←
    cbwTransaction { cbw with dataTransferLength := 4 } none (some storageBitsBuf) USB_TIMEOUT
  let storageBits := u32OfBytes storageBitsBuf
  pure (if storageBits ≠ 0 then some (UInt8.ofNat (trailingZeros storageBits)) else none)

/-- Change device storage. -/
def switchStorage (storage : UInt8) : UsbIo Unit RkUsbError Unit := do
  let cbw ← Cbw.withOpcode 0x2A -- CHANGE_STORAGE
  let _ ← cbwTransaction { cbw with cb := { cbw.cb with reserved := storage } } none none USB_TIMEOUT
  pure ()

/-! ### Batched commands -/

/-- The loop over the aligned chunks of a write; the position after them. -/
def writeLbaChunks (deadline : Instant) (subcode : UInt8) :
    List (List UInt8) → UInt32 → UsbIo Unit RkUsbError UInt32
  | [], nextPos => pure nextPos
  | chunk :: rest, nextPos => do
      let timeout ← remainingTimeout deadline
      writeLbaRaw nextPos chunk subcode timeout
      let nextPos ← .ofExcept (advanceLbaByBytes nextPos chunk.length)
      writeLbaChunks deadline subcode rest nextPos

/-- The partial last sector of a write: read it, overlay the tail, write it back. -/
def writeLbaTail (deadline : Instant) (subcode : UInt8) (nextPos : UInt32) (tail : List UInt8) :
    UsbIo Unit RkUsbError Unit :=
  if tail.length = 0 then pure ()
  else do
    let timeout ← remainingTimeout deadline
    let sector ← readLbaRaw nextPos (List.replicate STORAGE_SECTOR_SIZE 0) subcode timeout
    let timeout ← remainingTimeout deadline
    writeLbaRaw nextPos (tail ++ sector.drop tail.length) subcode timeout

/-- Write bytes to storage starting at the given sector. -/
def writeLba (pos : UInt32) (data : List UInt8) (subcode : UInt8) (timeout : Duration) :
    UsbIo Unit RkUsbError Unit :=
  if data.length = 0 then pure ()
  else do
    let start ← now
    let deadline := start + timeout
    let alignedLen := data.length - data.length % STORAGE_SECTOR_SIZE
    let nextPos ← writeLbaChunks deadline subcode
      (chunks MAX_LBA_TRANSFER_BYTES (data.take alignedLen)) pos
    writeLbaTail deadline subcode nextPos (data.drop alignedLen)

/-- The loop over the aligned chunks of a read: the chunks filled, and the position after them. -/
def readLbaChunks (deadline : Instant) (subcode : UInt8) :
    List (List UInt8) → UInt32 → UsbIo Unit RkUsbError (List UInt8 × UInt32)
  | [], nextPos => pure ([], nextPos)
  | chunk :: rest, nextPos => do
      let timeout ← remainingTimeout deadline
      let chunk ← readLbaRaw nextPos chunk subcode timeout
      let nextPos ← .ofExcept (advanceLbaByBytes nextPos chunk.length)
      let (filled, nextPos) ← readLbaChunks deadline subcode rest nextPos
      pure (chunk ++ filled, nextPos)

/-- The partial last sector of a read. -/
def readLbaTail (deadline : Instant) (subcode : UInt8) (nextPos : UInt32) (tail : List UInt8) :
    UsbIo Unit RkUsbError (List UInt8) :=
  if tail.length = 0 then pure tail
  else do
    let timeout ← remainingTimeout deadline
    let sector ← readLbaRaw nextPos (List.replicate STORAGE_SECTOR_SIZE 0) subcode timeout
    pure (sector.take tail.length)

/-- Read bytes from storage starting at the given sector. -/
def readLba (pos : UInt32) (data : List UInt8) (subcode : UInt8) (timeout : Duration) :
    UsbIo Unit RkUsbError (List UInt8) :=
  if data.length = 0 then pure data
  else do
    let start ← now
    let deadline := start + timeout
    let alignedLen := data.length - data.length % STORAGE_SECTOR_SIZE
    let (aligned, nextPos) ← readLbaChunks deadline subcode
      (chunks MAX_LBA_TRANSFER_BYTES (data.take alignedLen)) pos
    let tail ← readLbaTail deadline subcode nextPos (data.drop alignedLen)
    pure (aligned ++ tail)

/-- The erase loop. Every round takes at least one sector off `remaining`, so `remaining` rounds are
enough. -/
def eraseLbaLoop (deadline : Instant) : Nat → UInt32 → Nat → UsbIo Unit RkUsbError Unit
  | 0, _, _ => pure ()
  | rounds + 1, nextPos, remaining =>
      if remaining = 0 then pure ()
      else do
        let chunkSectors := min remaining 65535
        let timeout ← remainingTimeout deadline
        eraseLbaRaw nextPos (UInt16.ofNat chunkSectors) timeout
        let nextPos ← .ofExcept (checkedAddSectors nextPos chunkSectors)
        eraseLbaLoop deadline rounds nextPos (remaining - chunkSectors)

/-- Erase sectors from storage starting at the given position. -/
def eraseLba (pos count : UInt32) (timeout : Duration) : UsbIo Unit RkUsbError Unit :=
  if count = 0 then pure ()
  else do
    let start ← now
    let deadline := start + timeout
    eraseLbaLoop deadline count.toNat pos count.toNat

end Rkusb
