/-
**Boot images** (`image.rs`).

A boot image is a header and three tables of entries; an entry names a range of the image as its
payload. `RkBootImage.new` checks the tables against the image, and `iterEntries` cuts the payloads
out, which panics where a range is not in the image.
-/

import Mathlib.Data.List.DropRight
import Rkusb.Usb

namespace Rkusb

open Interaction Bytes

/-! ### Panics -/

/-- What the source panics for. -/
inductive Panic
  | sliceIndex | assertionFailed | arithmeticOverflow | unwrapNone
  deriving DecidableEq

/-- How a function that may panic fails. -/
inductive Halt (ε : Type)
  | error (error : ε)
  | panic (panic : Panic)
  deriving DecidableEq

/-- `&data[start..end]`. -/
def sliceAt (data : List UInt8) (start stop : Nat) : Except Panic (List UInt8) :=
  if start ≤ stop ∧ stop ≤ data.length then .ok ((data.drop start).take (stop - start))
  else .error .sliceIndex

/-! ### Names -/

/-- `String::from_utf16_lossy`, as characters: a surrogate without its partner is replaced. -/
def fromUtf16Lossy : List UInt16 → List Char
  | [] => []
  | unit :: rest =>
      if unit &&& 0xf800 ≠ 0xd800 then Char.ofNat unit.toNat :: fromUtf16Lossy rest
      else if 0xdc00 ≤ unit then '\uFFFD' :: fromUtf16Lossy rest
      else
        match rest with
        | [] => ['\uFFFD']
        | trail :: rest' =>
            if 0xdc00 ≤ trail ∧ trail ≤ 0xdfff then
              Char.ofNat ((unit &&& 0x3ff).toNat * 2 ^ 10 + (trail &&& 0x3ff).toNat + 0x10000) ::
                fromUtf16Lossy rest'
            else '\uFFFD' :: fromUtf16Lossy (trail :: rest')

/-- `trim_end_matches('\0')`. -/
def trimEndNul (name : List Char) : List Char := name.rdropWhile (· = '\x00')

/-! ### The formats -/

def RKBOOT_TAG : UInt32 := u32OfBytes [0x42, 0x4f, 0x4f, 0x54]
def RKLDR_TAG : UInt32 := u32OfBytes [0x4c, 0x44, 0x52, 0x20]

inductive RkBootEntryType
  | entry471 | entry472 | entryLoader
  deriving DecidableEq

/-- The header, as far as it is read. -/
structure RkBootHeader where
  tag : UInt32
  entry741Count : UInt8
  entry741Offset : UInt32
  entry741Size : UInt8
  entry742Count : UInt8
  entry742Offset : UInt32
  entry742Size : UInt8
  loaderEntryCount : UInt8
  loaderEntryOffset : UInt32
  loaderEntrySize : UInt8
  rc4Flag : UInt8
  deriving DecidableEq

/-- `std::mem::size_of::<RkBootHeader>()`. -/
def RkBootHeader.size : Nat := 102

/-- A field of one byte. -/
def u8At (bytes : List UInt8) (offset : Nat) : UInt8 := bytes.getD offset 0

/-- The fields of a packed header. -/
def RkBootHeader.ofBytes (bytes : List UInt8) : RkBootHeader where
  tag := u32At bytes 0
  entry741Count := u8At bytes 25
  entry741Offset := u32At bytes 26
  entry741Size := u8At bytes 30
  entry742Count := u8At bytes 31
  entry742Offset := u32At bytes 32
  entry742Size := u8At bytes 36
  loaderEntryCount := u8At bytes 37
  loaderEntryOffset := u32At bytes 38
  loaderEntrySize := u8At bytes 42
  rc4Flag := u8At bytes 44

structure RkBootEntry where
  size : UInt8
  type : UInt32
  /-- Twenty UTF-16 units. -/
  name : List UInt16
  dataOffset : UInt32
  dataSize : UInt32
  dataDelay : UInt32
  deriving DecidableEq

/-- `std::mem::size_of::<RkBootEntry>()`. -/
def RkBootEntry.sizeOf : Nat := 57

/-- The fields of a packed entry. -/
def RkBootEntry.ofBytes (bytes : List UInt8) : RkBootEntry where
  size := u8At bytes 0
  type := u32At bytes 1
  name := (List.range 20).map fun index => u16At bytes (5 + 2 * index)
  dataOffset := u32At bytes 45
  dataSize := u32At bytes 49
  dataDelay := u32At bytes 53

inductive ImageError
  | unknownTag | tooShort | bootEntryOutOfRange | bootEntryTooShort | fwOutOfRange | md5OutOfRange
  deriving DecidableEq

/-! ### Parsing -/

/-- `<RkBootEntry as FromBytes>::ref_from_bytes`: only of exactly as many bytes as an entry has. -/
def RkBootEntry.refFromBytes (bytes : List UInt8) : Except ImageError RkBootEntry :=
  if bytes.length = RkBootEntry.sizeOf then .ok (.ofBytes bytes) else .error .tooShort

/-- `slice::get` with a range. -/
def getRange (data : List UInt8) (start stop : Nat) : Option (List UInt8) :=
  if start ≤ stop ∧ stop ≤ data.length then some ((data.drop start).take (stop - start)) else none

/-- The entries of a table. A `u32` and the size of a table add up in a `usize`, so that the check for
an overflow does not fail. -/
def parseEntries (data : List UInt8) (offset : UInt32) (count size : UInt8) :
    Except ImageError (List RkBootEntry) := do
  if size.toNat < RkBootEntry.sizeOf then .error .bootEntryTooShort
  else
    let stop := size.toNat * count.toNat + offset.toNat
    match getRange data offset.toNat stop with
    | none => .error .bootEntryOutOfRange
    | some table => (chunksExact size.toNat table).mapM RkBootEntry.refFromBytes

structure RkBootImage where
  data : List UInt8
  entries471 : List RkBootEntry
  entries472 : List RkBootEntry
  entriesLoader : List RkBootEntry
  deriving DecidableEq

namespace RkBootImage

def new (data : List UInt8) : Except ImageError RkBootImage :=
  match getRange data 0 RkBootHeader.size with
  | none => .error .tooShort
  | some bytes => do
      let header := RkBootHeader.ofBytes bytes
      if ¬(header.tag = RKBOOT_TAG ∨ header.tag = RKLDR_TAG) then .error .unknownTag
      else
        let entries471 ← parseEntries data header.entry741Offset header.entry741Count
          header.entry741Size
        let entries472 ← parseEntries data header.entry742Offset header.entry742Count
          header.entry742Size
        let entriesLoader ← parseEntries data header.loaderEntryOffset header.loaderEntryCount
          header.loaderEntrySize
        pure ⟨data, entries471, entries472, entriesLoader⟩

/-- The header behind the pointer. -/
def bootHeaderPtr (self : RkBootImage) : Except Panic RkBootHeader :=
  if RkBootHeader.size < self.data.length then .ok (.ofBytes self.data)
  else .error .assertionFailed

/-! ### Iteration -/

/-- The table of a type. -/
def entries (self : RkBootImage) : RkBootEntryType → List RkBootEntry
  | .entry471 => self.entries471
  | .entry472 => self.entries472
  | .entryLoader => self.entriesLoader

/-- What the iterator yields for an entry: its name, its payload, its delay in milliseconds. -/
structure Yielded where
  name : List Char
  data : List UInt8
  delay : Nat
  deriving DecidableEq

def yield (self : RkBootImage) (entry : RkBootEntry) : Except Panic Yielded := do
  let name := trimEndNul (fromUtf16Lossy entry.name)
  let offset := entry.dataOffset.toNat
  let size := entry.dataSize.toNat
  let data ← sliceAt self.data offset (offset + size)
  pure ⟨name, data, entry.dataDelay.toNat⟩

/-- The iterator over a table. An entry is looked at, and its payload cut out, when it is asked for. -/
def iterEntries (self : RkBootImage) (type : RkBootEntryType) : List (Except Panic Yielded) :=
  (self.entries type).map self.yield

end RkBootImage

/-- What is accepted: the tables that the header states, over the data. -/
theorem RkBootImage.new_ok {data : List UInt8} {image : RkBootImage} (accepted : new data = .ok image) :
    ∃ header, (getRange data 0 RkBootHeader.size).map RkBootHeader.ofBytes = some header ∧
      (header.tag = RKBOOT_TAG ∨ header.tag = RKLDR_TAG) ∧ image.data = data ∧
      parseEntries data header.entry741Offset header.entry741Count header.entry741Size =
        .ok image.entries471 ∧
      parseEntries data header.entry742Offset header.entry742Count header.entry742Size =
        .ok image.entries472 ∧
      parseEntries data header.loaderEntryOffset header.loaderEntryCount header.loaderEntrySize =
        .ok image.entriesLoader := by
  unfold new at accepted
  cases found : getRange data 0 RkBootHeader.size with
  | none =>
    rw [found] at accepted
    cases accepted
  | some bytes =>
    rw [found] at accepted
    dsimp only at accepted
    refine ⟨_, rfl, ?_⟩
    by_cases tag : (RkBootHeader.ofBytes bytes).tag = RKBOOT_TAG ∨
      (RkBootHeader.ofBytes bytes).tag = RKLDR_TAG
    swap
    · rw [if_pos tag] at accepted
      cases accepted
    rw [if_neg (not_not.mpr tag)] at accepted
    obtain ⟨entries471, first, accepted⟩ := bind_eq_ok_iff.mp accepted
    obtain ⟨entries472, second, accepted⟩ := bind_eq_ok_iff.mp accepted
    obtain ⟨entriesLoader, third, accepted⟩ := bind_eq_ok_iff.mp accepted
    cases accepted
    exact ⟨tag, rfl, first, second, third⟩

/-- An image is accepted whose tables are. -/
theorem RkBootImage.new_of_parts {image : RkBootImage} {header : RkBootHeader}
    (found : (getRange image.data 0 RkBootHeader.size).map RkBootHeader.ofBytes = some header)
    (tag : header.tag = RKBOOT_TAG ∨ header.tag = RKLDR_TAG)
    (first : parseEntries image.data header.entry741Offset header.entry741Count
      header.entry741Size = .ok image.entries471)
    (second : parseEntries image.data header.entry742Offset header.entry742Count
      header.entry742Size = .ok image.entries472)
    (third : parseEntries image.data header.loaderEntryOffset header.loaderEntryCount
      header.loaderEntrySize = .ok image.entriesLoader) : new image.data = .ok image := by
  unfold new
  cases bytes : getRange image.data 0 RkBootHeader.size with
  | none =>
    rw [bytes] at found
    cases found
  | some bytes' =>
    rw [bytes] at found
    cases found
    dsimp only
    rw [if_neg (not_not.mpr tag), first, second, third]
    rfl

/-! ### Entries in range -/

namespace RkBootEntry

/-- The payload of the entry is in the image. -/
def InRange (entry : RkBootEntry) (data : List UInt8) : Prop :=
  entry.dataOffset.toNat + entry.dataSize.toNat ≤ data.length

instance (entry : RkBootEntry) (data : List UInt8) : Decidable (entry.InRange data) :=
  inferInstanceAs (Decidable (_ ≤ _))

/-- The name, as it is compared. -/
def trimmedName (entry : RkBootEntry) : List Char := trimEndNul (fromUtf16Lossy entry.name)

/-- The bytes of the payload. -/
def payload (entry : RkBootEntry) (data : List UInt8) : List UInt8 :=
  field data entry.dataOffset.toNat entry.dataSize.toNat

end RkBootEntry

namespace RkBootImage

/-- An entry is yielded if its payload is in the image, and panics else. -/
theorem yield_eq (image : RkBootImage) (entry : RkBootEntry) :
    image.yield entry =
      if entry.InRange image.data then
        .ok ⟨entry.trimmedName, entry.payload image.data, entry.dataDelay.toNat⟩
      else .error .sliceIndex := by
  unfold yield sliceAt
  dsimp only
  by_cases inside : entry.InRange image.data
  · rw [if_pos ⟨Nat.le_add_right _ _, inside⟩, if_pos inside, Nat.add_sub_cancel_left]
    rfl
  · rw [if_neg fun both => inside both.2, if_neg inside]
    rfl

/-- An image whose entries are in range yields all of them. -/
theorem iterEntries_of_inRange {image : RkBootImage} {type : RkBootEntryType}
    (inside : ∀ entry ∈ image.entries type, entry.InRange image.data) :
    image.iterEntries type = (image.entries type).map fun entry =>
      .ok ⟨entry.trimmedName, entry.payload image.data, entry.dataDelay.toNat⟩ := by
  refine List.map_congr_left fun entry member => ?_
  rw [yield_eq, if_pos (inside entry member)]

end RkBootImage

/-! ### Small images -/

/-- A header with the tag `BOOT`, and the offset, count and stride of its first table. -/
def headerBytes (offset count size : UInt8) : List UInt8 :=
  [0x42, 0x4f, 0x4f, 0x54] ++ List.replicate 21 0 ++ [count, offset, 0, 0, 0, size] ++
    [0, 0, 0, 0, 0, 57] ++ [0, 0, 0, 0, 0, 57] ++ List.replicate 59 0

/-- An entry without a name, whose payload starts with the image. -/
def entryBytes (dataSize : UInt8) : List UInt8 :=
  List.replicate 45 0 ++ [0, 0, 0, 0] ++ [dataSize, 0, 0, 0] ++ [0, 0, 0, 0]

end Rkusb
