/-
**The transport and the bulk-only wrappers** (`usb.rs`, and what `lib.rs` uses of `rusb`).

The host talks to its environment through five queries: it reads the clock, draws a random word,
and makes a bulk-out, a bulk-in or a control transfer. `Cbw` and `Csw` are the packed command and
status wrappers of the bulk-only protocol; `Cbw.asBytes` is the memory of a packed `Cbw` on a
little-endian host.
-/

import Rkusb.Lib.Program
import Rkusb.Lib.Layout

namespace Rkusb

open Interaction Bytes

/-- `std::time::Duration`, in nanoseconds. -/
abbrev Duration := Nat

/-- `std::time::Instant`, in nanoseconds from some origin. -/
abbrev Instant := Nat

/-- Where the instants end: their seconds are signed 64-bit numbers. The sum of an instant and a
duration that is not before it panics, so that what is said of a deadline is said of one before it. -/
def INSTANT_END : Instant := 2 ^ 63 * 10 ^ 9

/-- `rusb::Error`. -/
inductive UsbError
  | io | invalidParam | access | noDevice | notFound | busy | timeout | overflow | pipe
  | interrupted | noMem | notSupported | badDescriptor | other
  deriving DecidableEq

/-- What the host asks of its environment. -/
inductive UsbRequest
  /-- `Instant::now()`. -/
  | now
  /-- `rand::random::<u32>()`. -/
  | random
  /-- `write_bulk` on the bulk-out endpoint. -/
  | writeBulk (bytes : List UInt8) (timeout : Duration)
  /-- `read_bulk` into a buffer of `capacity` bytes on the bulk-in endpoint. -/
  | readBulk (capacity : Nat) (timeout : Duration)
  /-- `write_control`. -/
  | writeControl (requestType request : UInt8) (value index : UInt16) (bytes : List UInt8)
      (timeout : Duration)

/-- A transfer answers with the number of bytes written, with the bytes read, or with an error. -/
def UsbRequest.Answer : UsbRequest → Type
  | .now => Instant
  | .random => UInt32
  | .writeBulk _ _ => Except UsbError Nat
  | .readBulk _ _ => Except UsbError (List UInt8)
  | .writeControl _ _ _ _ _ _ => Except UsbError Nat

/-- Host code: local state `δ`, errors in `ε`. -/
abbrev UsbIo (δ ε α : Type) := Io UsbRequest.Answer δ ε α

/-- `Instant::now()`. -/
def now {δ ε : Type} : UsbIo δ ε Instant := Io.ask UsbRequest.now

/-- `rand::random::<u32>()`. -/
def random {δ ε : Type} : UsbIo δ ε UInt32 := Io.ask UsbRequest.random

/-! ### The command block wrapper -/

def DIRECTION_OUT : UInt8 := 0x00
def DIRECTION_IN : UInt8 := 0x80

/-- `"USBC"`. -/
def CBW_SIGN : UInt32 := 0x43425355

/-- `"USBS"`. -/
def CSW_SIGN : UInt32 := 0x53425355

/-- The Rockchip command descriptor block, 16 bytes. -/
structure Cbwcb where
  operCode : UInt8 := 0
  reserved : UInt8 := 0
  address : UInt32 := 0
  reserved2 : UInt8 := 0
  length : UInt16 := 0
  reserved3 : Vector UInt8 7 := Vector.replicate 7 0
  deriving DecidableEq

/-- The command block wrapper, 31 bytes. -/
structure Cbw where
  signature : UInt32
  tag : UInt32
  dataTransferLength : UInt32
  flags : UInt8
  lun : UInt8
  cbLength : UInt8
  cb : Cbwcb
  deriving DecidableEq

/-- `std::mem::size_of::<Cbwcb>()`. -/
def Cbwcb.size : Nat := 16

/-- `std::mem::size_of::<Cbw<Cbwcb>>()`. -/
def Cbw.size : Nat := 31

/-- The bytes of a packed word, half word on a little-endian host. -/
def u32Bytes (value : UInt32) : List UInt8 := toLittleEndian 4 value.toNat
def u16Bytes (value : UInt16) : List UInt8 := toLittleEndian 2 value.toNat

/-- `u32::from_le_bytes` and `u16::from_le_bytes`. -/
def u32OfBytes (bytes : List UInt8) : UInt32 := UInt32.ofNat (ofLittleEndian bytes)
def u16OfBytes (bytes : List UInt8) : UInt16 := UInt16.ofNat (ofLittleEndian bytes)

/-- A little-endian field at an offset. -/
def u32At (bytes : List UInt8) (offset : Nat) : UInt32 := u32OfBytes (field bytes offset 4)
def u16At (bytes : List UInt8) (offset : Nat) : UInt16 := u16OfBytes (field bytes offset 2)

/-- `to_be` on a little-endian host: the word whose bytes are the reversed ones. -/
def u32ToBe (value : UInt32) : UInt32 := u32OfBytes (u32Bytes value).reverse
def u16ToBe (value : UInt16) : UInt16 := u16OfBytes (u16Bytes value).reverse

def Cbwcb.asBytes (cb : Cbwcb) : List UInt8 :=
  cb.operCode :: cb.reserved :: u32Bytes cb.address ++ cb.reserved2 :: u16Bytes cb.length ++
    cb.reserved3.toList

def Cbw.asBytes (cbw : Cbw) : List UInt8 :=
  u32Bytes cbw.signature ++ u32Bytes cbw.tag ++ u32Bytes cbw.dataTransferLength ++
    cbw.flags :: cbw.lun :: cbw.cbLength :: cbw.cb.asBytes

/-- A new wrapper with defaults, under a random tag. -/
def Cbw.new {δ ε : Type} (cb : Cbwcb) : UsbIo δ ε Cbw := do
  let tag ← random
  pure {
    signature := CBW_SIGN
    tag := tag
    dataTransferLength := 0
    flags := DIRECTION_OUT
    lun := 0
    cbLength := UInt8.ofNat Cbwcb.size
    cb := cb }

/-- The direction flag and the command block length of an operation code; unknown codes keep the
defaults. -/
def Cbw.directed (cbw : Cbw) (opcode : UInt8) : Cbw :=
  -- IN only, 6-byte command block
  if opcode ∈ [0x00, 0x01, 0x1A, 0x1B, 0x20, 0xAA, 0x2B] then
    { cbw with flags := DIRECTION_IN, cbLength := 0x06 }
  -- OUT only, 6-byte command block
  else if opcode ∈ [0xFF, 0x16, 0x1E, 0x2A] then
    { cbw with flags := DIRECTION_OUT, cbLength := 0x06 }
  -- IN commands (10-byte CDB)
  else if opcode ∈ [0x03, 0x04, 0x14, 0x17, 0x21, 0x24] then
    { cbw with flags := DIRECTION_IN, cbLength := 0x0A }
  -- OUT commands (10-byte CDB)
  else if opcode ∈ [0x05, 0x15, 0x18, 0x19, 0x06, 0x0B, 0x1F, 0x22, 0x23, 0x25] then
    { cbw with flags := DIRECTION_OUT, cbLength := 0x0A }
  else cbw

/-- Initialize a wrapper based on the operation code. -/
def Cbw.withOpcode {δ ε : Type} (opcode : UInt8) : UsbIo δ ε Cbw := do
  let cbw ← Cbw.new { operCode := opcode }
  pure (cbw.directed opcode)

/-! ### The command status wrapper -/

/-- The command status wrapper, 13 bytes. -/
structure Csw where
  signature : UInt32
  tag : UInt32
  dataResidue : UInt32
  status : UInt8
  deriving DecidableEq

/-- `std::mem::size_of::<Csw>()`. -/
def Csw.size : Nat := 13

def Csw.asBytes (csw : Csw) : List UInt8 :=
  u32Bytes csw.signature ++ u32Bytes csw.tag ++ u32Bytes csw.dataResidue ++ [csw.status]

/-- `Csw::try_read_from_bytes`: 13 bytes, whatever they are. -/
def Csw.tryReadFromBytes (bytes : List UInt8) : Option Csw :=
  if bytes.length = Csw.size then
    some {
      signature := u32OfBytes (bytes.take 4)
      tag := u32OfBytes ((bytes.drop 4).take 4)
      dataResidue := u32OfBytes ((bytes.drop 8).take 4)
      status := bytes[12]?.getD 0 }
  else none

/-! ### Packed words and their bytes -/

@[simp] theorem length_u32Bytes (value : UInt32) : (u32Bytes value).length = 4 :=
  length_toLittleEndian _ _

@[simp] theorem length_u16Bytes (value : UInt16) : (u16Bytes value).length = 2 :=
  length_toLittleEndian _ _

@[simp] theorem u32OfBytes_u32Bytes (value : UInt32) : u32OfBytes (u32Bytes value) = value := by
  rw [u32OfBytes, u32Bytes, ofLittleEndian_toLittleEndian_of_lt value.toNat_lt, UInt32.ofNat_toNat]

@[simp] theorem u16OfBytes_u16Bytes (value : UInt16) : u16OfBytes (u16Bytes value) = value := by
  rw [u16OfBytes, u16Bytes, ofLittleEndian_toLittleEndian_of_lt value.toNat_lt, UInt16.ofNat_toNat]

theorem u32Bytes_u32OfBytes (bytes : List UInt8) (four : bytes.length = 4) :
    u32Bytes (u32OfBytes bytes) = bytes := by
  have small : ofLittleEndian bytes < 2 ^ 32 := by
    have := ofLittleEndian_lt bytes
    rwa [four] at this
  rw [u32Bytes, u32OfBytes, UInt32.toNat_ofNat_of_lt' small]
  exact four ▸ toLittleEndian_ofLittleEndian bytes

theorem u16Bytes_u16OfBytes (bytes : List UInt8) (two : bytes.length = 2) :
    u16Bytes (u16OfBytes bytes) = bytes := by
  have small : ofLittleEndian bytes < 2 ^ 16 := by
    have := ofLittleEndian_lt bytes
    rwa [two] at this
  rw [u16Bytes, u16OfBytes, UInt16.toNat_ofNat_of_lt' small]
  exact two ▸ toLittleEndian_ofLittleEndian bytes

/-- The memory of a big-endian word is its bytes, most significant first. -/
theorem u32Bytes_toBe (value : UInt32) : u32Bytes (u32ToBe value) = (u32Bytes value).reverse :=
  u32Bytes_u32OfBytes _ (by simp)

theorem u16Bytes_toBe (value : UInt16) : u16Bytes (u16ToBe value) = (u16Bytes value).reverse :=
  u16Bytes_u16OfBytes _ (by simp)

@[simp] theorem length_cbw_asBytes (cbw : Cbw) : cbw.asBytes.length = Cbw.size := by
  simp [Cbw.asBytes, Cbwcb.asBytes, Cbw.size]

@[simp] theorem length_csw_asBytes (csw : Csw) : csw.asBytes.length = Csw.size := by
  simp [Csw.asBytes, Csw.size]

/-- **A status wrapper is read back as it was sent.** -/
@[simp] theorem csw_tryReadFromBytes_asBytes (csw : Csw) :
    Csw.tryReadFromBytes csw.asBytes = some csw := by
  have past : (u32Bytes csw.signature).drop 8 = [] := List.drop_of_length_le (by simp)
  rw [Csw.tryReadFromBytes, if_pos (length_csw_asBytes csw)]
  simp [Csw.asBytes, List.drop_append, past]

end Rkusb
