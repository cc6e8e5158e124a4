/-
**RKNS images** (`RkNsImage` of `idblock/new.rs`).

`RkNsImage.new` checks the length of the data only. The debug output computes the offset of the hash
in 16 bits: where the build checks for overflows it may panic, elsewhere it wraps.
-/

import Rkusb.Image

namespace Rkusb

open Bytes

inductive RkNsHashType
  | none | sha256 | sha512
  | unknown (value : UInt32)
  deriving DecidableEq

inductive RkNsParseError
  | tooShort (expected actual : Nat)
  | invalidMagic (magic : UInt32)
  deriving DecidableEq

/-- The header, as far as it is read. -/
structure RkNsHeader where
  magic : UInt32
  /-- The offset of the header hash, in words of four bytes. -/
  nimage : UInt16
  imagesCount : UInt16
  bootFlag : UInt32
  deriving DecidableEq

/-- `std::mem::size_of::<RkNsHeader>()`. -/
def RkNsHeader.size : Nat := 2048

def RkNsHeader.ofBytes (bytes : List UInt8) : RkNsHeader where
  magic := u32At bytes 0
  nimage := u16At bytes 8
  imagesCount := u16At bytes 10
  bootFlag := u32At bytes 12

structure RkNsImage where
  data : List UInt8
  deriving DecidableEq

namespace RkNsImage

def new (data : List UInt8) : Except RkNsParseError RkNsImage :=
  if data.length < RkNsHeader.size then .error (.tooShort RkNsHeader.size data.length)
  else .ok ⟨data⟩

def hashType (self : RkNsImage) : Option RkNsHashType :=
  let header := RkNsHeader.ofBytes self.data
  match (header.bootFlag &&& 0b111).toNat with
  | 0 => none
  | 1 => some .sha256
  | 2 => some .sha512
  | _ => some (.unknown (header.bootFlag &&& 0b111))

/-- What the debug output shows. -/
structure Shown where
  magic : UInt32
  hashOffset : UInt16
  hashType : Option RkNsHashType
  imagesCount : UInt16
  bootFlag : UInt32
  deriving DecidableEq

/-- `fmt`. -/
def fmt (overflowChecks : Bool) (self : RkNsImage) : Except Panic Shown :=
  let header := RkNsHeader.ofBytes self.data
  if overflowChecks ∧ 2 ^ 16 ≤ header.nimage.toNat * 4 then .error .arithmeticOverflow
  else .ok ⟨header.magic, header.nimage * 4, self.hashType, header.imagesCount, header.bootFlag⟩

/-- The debug output of `RkNsImage::new`. -/
def debugNew (overflowChecks : Bool) (data : List UInt8) :
    Except Panic (Except RkNsParseError Shown) :=
  match new data with
  | .error error => .ok (.error error)
  | .ok image => (image.fmt overflowChecks).map .ok

/-- The offset of the hash does not fit where it is checked to. -/
def Overflows (overflowChecks : Bool) (data : List UInt8) : Prop :=
  overflowChecks ∧ RkNsHeader.size ≤ data.length ∧
    2 ^ 16 ≤ (RkNsHeader.ofBytes data).nimage.toNat * 4

instance (overflowChecks : Bool) (data : List UInt8) : Decidable (Overflows overflowChecks data) :=
  inferInstanceAs (Decidable (_ ∧ _ ∧ _))

/-- The output panics only for the overflow. -/
theorem debugNew_calm_iff (overflowChecks : Bool) (data : List UInt8) :
    (∃ shown, debugNew overflowChecks data = .ok shown) ↔ ¬Overflows overflowChecks data := by
  unfold debugNew new Overflows
  by_cases short : data.length < RkNsHeader.size
  · rw [if_pos short]
    exact ⟨fun _ both => absurd short (Nat.not_lt.mpr both.2.1), fun _ => ⟨_, rfl⟩⟩
  rw [if_neg short]
  have long := Nat.le_of_not_lt short
  dsimp only [fmt]
  by_cases overflows : overflowChecks ∧ 2 ^ 16 ≤ (RkNsHeader.ofBytes data).nimage.toNat * 4
  · rw [if_pos overflows]
    exact ⟨fun ⟨_, fails⟩ => (by cases fails),
      fun other => absurd ⟨overflows.1, long, overflows.2⟩ other⟩
  · rw [if_neg overflows]
    exact ⟨fun _ all => overflows ⟨all.1, all.2.2⟩, fun _ => ⟨_, rfl⟩⟩

end RkNsImage

end Rkusb
