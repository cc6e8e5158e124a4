/-
**The byte cursor over the sectors** (`bin/rktools/storage/mod.rs`).

`RkBlockDevice` reads and writes bytes at a cursor. A request is cut into the rest of an unaligned
first sector, whole sectors, and the beginning of a last sector; the two edge sectors are read,
patched and written back. The cursor moves only when a request is through.

The device handle that the source borrows is the environment; the local state is the cursor with the
parameters of the requests.
-/

import Rkusb.Device

namespace Rkusb

open Interaction Bytes

/-- `std::io::ErrorKind`, as far as the tools use it. -/
inductive IoErrorKind
  | invalidInput | invalidData | storageFull | unexpectedEof | writeZero
  deriving DecidableEq

/-- `std::io::Error`: one with a message, or one that wraps an error of the library. -/
inductive IoError
  | new (kind : IoErrorKind) (message : String)
  | other (error : RkUsbError)
  deriving DecidableEq

def SECTOR_SIZE : Nat := 512
def DEFAULT_LBA_SUBCODE : UInt8 := 0

/-- Thirty seconds. -/
def DEFAULT_IO_TIMEOUT : Duration := 30 * 10 ^ 9

/-- The cursor, in bytes, with the size of the disk and the parameters of every request. -/
structure RkBlockDevice where
  pos : Nat
  diskSizeBytes : Nat
  subcode : UInt8
  timeout : Duration
  deriving DecidableEq

/-- `std::io::SeekFrom`. -/
inductive SeekFrom
  | start (position : UInt64)
  | fromEnd (offset : Int64)
  | current (offset : Int64)

namespace RkBlockDevice

def new (diskSizeBytes : Nat) (subcode : UInt8) (timeout : Duration) : RkBlockDevice where
  pos := 0
  diskSizeBytes := diskSizeBytes
  subcode := subcode
  timeout := timeout

/-- A block device from the flash info of the device. -/
def tryFrom : UsbIo Unit IoError RkBlockDevice := do
  let info ← Io.mapErr .other readStorageInfo
  -- `u32::MAX * 512` fits into 64 bits
  if info.flashSize.toNat * SECTOR_SIZE < 2 ^ 64 then
    pure (new (info.flashSize.toNat * SECTOR_SIZE) DEFAULT_LBA_SUBCODE DEFAULT_IO_TIMEOUT)
  else .throw (.new .invalidData "disk size overflow")

/-- A call of the device handle, its error wrapped. -/
def rkdev {α : Type} (call : UsbIo Unit RkUsbError α) : UsbIo RkBlockDevice IoError α :=
  Io.mapErr .other (Io.lift call)

/-- `u64::checked_add` on byte positions. -/
def checkedAdd (pos count : Nat) (message : String) : Except IoError Nat :=
  if pos + count < 2 ^ 64 then .ok (pos + count) else .error (.new .invalidInput message)

/-- `u32::try_from` on a sector. -/
def tryLba (sector : Nat) : Except IoError UInt32 :=
  if sector < 2 ^ 32 then .ok (UInt32.ofNat sector)
  else .error (.new .invalidInput "LBA out of range")

/-! ### Read -/

/-- 1) The first unaligned sector: the bytes read, the position after, what remains. -/
def readHead (pos : Nat) (remaining : List UInt8) :
    UsbIo RkBlockDevice IoError (List UInt8 × Nat × List UInt8) := do
  let self ← Io.get
  let offsetInSector := pos % SECTOR_SIZE
  if offsetInSector ≠ 0 then do
    let lba ← .ofExcept (tryLba (pos / SECTOR_SIZE))
    let tmp ← rkdev (readLba lba (List.replicate SECTOR_SIZE 0) self.subcode self.timeout)
    let readable := min (SECTOR_SIZE - offsetInSector) remaining.length
    let pos ← .ofExcept (checkedAdd pos readable "read position overflow")
    pure ((tmp.drop offsetInSector).take readable, pos, remaining.drop readable)
  else pure ([], pos, remaining)

/-- 2) The middle full sectors. -/
def readMiddle (pos : Nat) (remaining : List UInt8) :
    UsbIo RkBlockDevice IoError (List UInt8 × Nat × List UInt8) := do
  let self ← Io.get
  let alignedLen := remaining.length / SECTOR_SIZE * SECTOR_SIZE
  if alignedLen ≠ 0 then do
    let lba ← .ofExcept (tryLba (pos / SECTOR_SIZE))
    let aligned ← rkdev (readLba lba (remaining.take alignedLen) self.subcode self.timeout)
    let pos ← .ofExcept (checkedAdd pos alignedLen "read position overflow")
    pure (aligned, pos, remaining.drop alignedLen)
  else pure ([], pos, remaining)

/-- 3) The last partial sector. -/
def readTail (pos : Nat) (remaining : List UInt8) : UsbIo RkBlockDevice IoError (List UInt8) := do
  let self ← Io.get
  if remaining ≠ [] then do
    let lba ← .ofExcept (tryLba (pos / SECTOR_SIZE))
    let tmp ← rkdev (readLba lba (List.replicate SECTOR_SIZE 0) self.subcode self.timeout)
    pure (tmp.take remaining.length)
  else pure []

/-- `Read::read`: the number of bytes read, and the buffer after. -/
def read (buf : List UInt8) : UsbIo RkBlockDevice IoError (Nat × List UInt8) := do
  if buf = [] then pure (0, [])
  else do
    let self ← Io.get
    let endPos ← .ofExcept (checkedAdd self.pos buf.length "read position overflow")
    let (head, pos, remaining) ← readHead self.pos buf
    let (middle, pos, remaining) ← readMiddle pos remaining
    let tail ← readTail pos remaining
    Io.modify fun self => { self with pos := endPos }
    pure (buf.length, head ++ middle ++ tail)

/-! ### Write -/

/-- 1) The first unaligned sector, read and written back: the position after, what remains. -/
def writeHead (pos : Nat) (remaining : List UInt8) :
    UsbIo RkBlockDevice IoError (Nat × List UInt8) := do
  let self ← Io.get
  let offsetInSector := pos % SECTOR_SIZE
  if offsetInSector ≠ 0 then do
    let lba ← .ofExcept (tryLba (pos / SECTOR_SIZE))
    let tmp ← rkdev (readLba lba (List.replicate SECTOR_SIZE 0) self.subcode self.timeout)
    let writable := min (SECTOR_SIZE - offsetInSector) remaining.length
    let tmp := tmp.take offsetInSector ++ remaining.take writable ++
      tmp.drop (offsetInSector + writable)
    rkdev (writeLba lba tmp self.subcode self.timeout)
    let pos ← .ofExcept (checkedAdd pos writable "write position overflow")
    pure (pos, remaining.drop writable)
  else pure (pos, remaining)

/-- 2) The middle full sectors. -/
def writeMiddle (pos : Nat) (remaining : List UInt8) :
    UsbIo RkBlockDevice IoError (Nat × List UInt8) := do
  let self ← Io.get
  let alignedLen := remaining.length / SECTOR_SIZE * SECTOR_SIZE
  if alignedLen ≠ 0 then do
    let lba ← .ofExcept (tryLba (pos / SECTOR_SIZE))
    rkdev (writeLba lba (remaining.take alignedLen) self.subcode self.timeout)
    let pos ← .ofExcept (checkedAdd pos alignedLen "write position overflow")
    pure (pos, remaining.drop alignedLen)
  else pure (pos, remaining)

/-- 3) The last partial sector, read and written back. -/
def writeTail (pos : Nat) (remaining : List UInt8) : UsbIo RkBlockDevice IoError Unit := do
  let self ← Io.get
  if remaining ≠ [] then do
    let lba ← .ofExcept (tryLba (pos / SECTOR_SIZE))
    let tmp ← rkdev (readLba lba (List.replicate SECTOR_SIZE 0) self.subcode self.timeout)
    let tmp := remaining ++ tmp.drop remaining.length
    rkdev (writeLba lba tmp self.subcode self.timeout)
  else pure ()

/-- `Write::write`. -/
def write (buf : List UInt8) : UsbIo RkBlockDevice IoError Nat := do
  if buf = [] then pure 0
  else do
    let self ← Io.get
    let endPos ← .ofExcept (checkedAdd self.pos buf.length "write position overflow")
    let (pos, remaining) ← writeHead self.pos buf
    let (pos, remaining) ← writeMiddle pos remaining
    writeTail pos remaining
    Io.modify fun self => { self with pos := endPos }
    pure buf.length

/-! ### Seek -/

/-- `u64::checked_add_signed`. -/
def checkedAddSigned (pos : Nat) (offset : Int64) : Option Nat :=
  let sum := (pos : Int) + offset.toInt
  if 0 ≤ sum ∧ sum < 2 ^ 64 then some sum.toNat else none

/-- The position that a seek asks for. -/
def sought (self : RkBlockDevice) : SeekFrom → Option Nat
  | .start position => some position.toNat
  | .fromEnd offset => checkedAddSigned self.diskSizeBytes offset
  | .current offset => checkedAddSigned self.pos offset

/-- `Seek::seek`: only positions below the end of the disk. -/
def seek (target : SeekFrom) : UsbIo RkBlockDevice IoError Nat := do
  let self ← Io.get
  let newPos ← .ofExcept (match (self.sought target).filter (· < self.diskSizeBytes) with
    | some newPos => .ok newPos
    | none => .error (.new .invalidInput "out of range"))
  Io.modify fun self => { self with pos := newPos }
  pure newPos

/-! ### What a phase leaves alone -/

section Keeps

variable {σ γ : Type} {handler : Handler UsbRequest.Answer σ} (view : RkBlockDevice → γ)

theorem rkdev_keeps {α : Type} (call : UsbIo Unit RkUsbError α) :
    Io.Keeps handler view (rkdev call) :=
  (Io.Keeps.lift call).mapErr IoError.other

theorem readHead_keeps (pos : Nat) (remaining : List UInt8) :
    Io.Keeps handler view (readHead pos remaining) :=
  .bind .get fun _ => .ite
    (.bind (.ofExcept _) fun _ => .bind (rkdev_keeps view _) fun _ =>
      .bind (.ofExcept _) fun _ => .pure _)
    (.pure _)

theorem readMiddle_keeps (pos : Nat) (remaining : List UInt8) :
    Io.Keeps handler view (readMiddle pos remaining) :=
  .bind .get fun _ => .ite
    (.bind (.ofExcept _) fun _ => .bind (rkdev_keeps view _) fun _ =>
      .bind (.ofExcept _) fun _ => .pure _)
    (.pure _)

theorem readTail_keeps (pos : Nat) (remaining : List UInt8) :
    Io.Keeps handler view (readTail pos remaining) :=
  .bind .get fun _ => .ite
    (.bind (.ofExcept _) fun _ => .bind (rkdev_keeps view _) fun _ => .pure _)
    (.pure _)

theorem writeHead_keeps (pos : Nat) (remaining : List UInt8) :
    Io.Keeps handler view (writeHead pos remaining) :=
  .bind .get fun _ => .ite
    (.bind (.ofExcept _) fun _ => .bind (rkdev_keeps view _) fun _ =>
      .bind (rkdev_keeps view _) fun _ => .bind (.ofExcept _) fun _ => .pure _)
    (.pure _)

theorem writeMiddle_keeps (pos : Nat) (remaining : List UInt8) :
    Io.Keeps handler view (writeMiddle pos remaining) :=
  .bind .get fun _ => .ite
    (.bind (.ofExcept _) fun _ => .bind (rkdev_keeps view _) fun _ =>
      .bind (.ofExcept _) fun _ => .pure _)
    (.pure _)

theorem writeTail_keeps (pos : Nat) (remaining : List UInt8) :
    Io.Keeps handler view (writeTail pos remaining) :=
  .bind .get fun _ => .ite
    (.bind (.ofExcept _) fun _ => .bind (rkdev_keeps view _) fun _ => rkdev_keeps view _)
    (.pure _)

variable {view}

/-- A write changes nothing but the cursor. -/
theorem write_keeps (cursor : ∀ own pos, view { own with pos := pos } = view own)
    (buf : List UInt8) : Io.Keeps handler view (write buf) :=
  .ite (.pure _) (.bind .get fun _ => .bind (.ofExcept _) fun _ =>
    .bind (writeHead_keeps view _ _) fun _ => .bind (writeMiddle_keeps view _ _) fun _ =>
      .bind (writeTail_keeps view _ _) fun _ =>
        .bind (.modify fun own => cursor own _) fun _ => .pure _)

/-- Nor does a seek. -/
theorem seek_keeps (cursor : ∀ own pos, view { own with pos := pos } = view own)
    (target : SeekFrom) : Io.Keeps handler view (seek target) :=
  .bind .get fun _ => .bind (.ofExcept _) fun _ =>
    .bind (.modify fun own => cursor own _) fun _ => .pure _

end Keeps

end RkBlockDevice

end Rkusb
