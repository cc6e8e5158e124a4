/-
**RKNS headers and their documentation** (`idblock/new.rs`, `docs/rkns-header-format.md`).

The format says how the hash offset, the image count and the hash type are decoded, and which headers
a parser should reject. `RkNsImage::new` checks the length only; the output multiplies the hash offset
in 16 bits, and the hash type is taken from three bits where the format says four.

* `header_decoded_by_rules_iff`: which headers are decoded as documented.
* `rkns_parses_exactly_iff`: which byte strings are accepted or refused as documented, and when
  `dump_flash_head_idblock` presents structurally valid headers only.
-/

import Rkusb.FlashHead

namespace Rkusb

open Bytes

namespace RkNsImage

/-! ### The rules for decoding -/

/-- The hash types of the format: the number of one, and the other numbers. -/
def classify (value : UInt32) : Option RkNsHashType :=
  match value.toNat with
  | 0 => none
  | 1 => some .sha256
  | 2 => some .sha512
  | _ => some (.unknown value)

/-- The number of a hash type. -/
def hashNumber : Option RkNsHashType → UInt32
  | none | some .none => 0
  | some .sha256 => 1
  | some .sha512 => 2
  | some (.unknown value) => value

/-- Different numbers are different hash types. -/
theorem hashNumber_classify : Function.LeftInverse hashNumber classify := by
  intro value
  unfold classify
  split
  · rename_i zero
    exact UInt32.toNat_inj.mp zero.symm
  · rename_i one
    exact UInt32.toNat_inj.mp one.symm
  · rename_i two
    exact UInt32.toNat_inj.mp two.symm
  · rfl

/-- The hash type of a `boot_flag` by the format: its low nibble. -/
def documentedHashType (bootFlag : UInt32) : Option RkNsHashType := classify (bootFlag &&& 0x0f)

/-- The code looks at three bits of the nibble. -/
theorem hashType_eq_classify (image : RkNsImage) :
    image.hashType = classify ((RkNsHeader.ofBytes image.data).bootFlag &&& 0b111) := rfl

theorem hashType_documented_iff (image : RkNsImage) :
    image.hashType = documentedHashType (RkNsHeader.ofBytes image.data).bootFlag ↔
      (RkNsHeader.ofBytes image.data).bootFlag.toNat % 16 < 8 := by
  rw [hashType_eq_classify, documentedHashType, hashNumber_classify.injective.eq_iff,
    ← UInt32.toNat_inj, UInt32.toNat_and, UInt32.toNat_and]
  have three : (0b111 : UInt32).toNat = 2 ^ 3 - 1 := rfl
  have four : (0x0f : UInt32).toNat = 2 ^ 4 - 1 := rfl
  rw [three, four, Nat.and_two_pow_sub_one_eq_mod, Nat.and_two_pow_sub_one_eq_mod]
  omega

/-- What is accepted is decoded as documented, in every build: the offset of the hash is four times
the word at 8, the count is the word at 10, the hash type is the low nibble of the flags at 12. -/
def DecodedByRules (data : List UInt8) : Prop :=
  ∀ image, new data = .ok image → image.hashType = documentedHashType (u32At data 12) ∧
    ∀ overflowChecks, ∃ shown, image.fmt overflowChecks = .ok shown ∧
      shown.hashOffset.toNat = 4 * (u16At data 8).toNat ∧ shown.imagesCount = u16At data 10 ∧
      shown.hashType = documentedHashType (u32At data 12)

theorem new_eq_ok_iff {data : List UInt8} {image : RkNsImage} :
    new data = .ok image ↔ RkNsHeader.size ≤ data.length ∧ image = ⟨data⟩ := by
  unfold new
  by_cases short : data.length < RkNsHeader.size
  · rw [if_pos short]
    exact ⟨fun fails => (by cases fails), fun both => absurd short (Nat.not_lt.mpr both.1)⟩
  · rw [if_neg short]
    exact ⟨fun same => ⟨Nat.le_of_not_lt short, by cases same; rfl⟩, fun both => by rw [both.2]⟩

/-- A hash offset that fits is shown, in every build. -/
theorem fmt_of_small {data : List UInt8} (small : 4 * (u16At data 8).toNat < 2 ^ 16)
    (overflowChecks : Bool) :
    fmt overflowChecks ⟨data⟩ =
      .ok ⟨u32At data 0, u16At data 8 * 4, (⟨data⟩ : RkNsImage).hashType, u16At data 10,
        u32At data 12⟩ := by
  have fits : ¬(overflowChecks ∧ 2 ^ 16 ≤ (RkNsHeader.ofBytes data).nimage.toNat * 4) := by
    intro both
    have large : 2 ^ 16 ≤ (u16At data 8).toNat * 4 := both.2
    omega
  show (if _ then _ else _) = _
  rw [if_neg fits]
  rfl

/-- **Headers are decoded as documented** exactly if they are refused, or their hash offset fits into
16 bits and the highest bit of the nibble is clear. -/
theorem header_decoded_by_rules_iff (data : List UInt8) :
    DecodedByRules data ↔
      data.length < RkNsHeader.size ∨
        4 * (u16At data 8).toNat < 2 ^ 16 ∧ (u32At data 12).toNat % 16 < 8 := by
  constructor
  · intro decoded
    by_cases short : data.length < RkNsHeader.size
    · exact .inl short
    obtain ⟨type, shows⟩ := decoded ⟨data⟩ (new_eq_ok_iff.mpr ⟨Nat.le_of_not_lt short, rfl⟩)
    refine .inr ⟨?_, (hashType_documented_iff ⟨data⟩).mp type⟩
    obtain ⟨shown, -, offset, -⟩ := shows false
    rw [← offset]
    exact shown.hashOffset.toNat_lt
  · intro fine image accepted
    obtain ⟨long, rfl⟩ := new_eq_ok_iff.mp accepted
    rcases fine with short | ⟨small, flags⟩
    · exact absurd short (Nat.not_lt.mpr long)
    have type : (⟨data⟩ : RkNsImage).hashType = documentedHashType (u32At data 12) :=
      (hashType_documented_iff ⟨data⟩).mpr flags
    have offset : (u16At data 8 * 4).toNat = 4 * (u16At data 8).toNat := by
      rw [UInt16.toNat_mul]
      show (u16At data 8).toNat * 4 % 2 ^ 16 = _
      omega
    exact ⟨type, fun overflowChecks => ⟨_, fmt_of_small small overflowChecks, offset, rfl, type⟩⟩

/-- The beginning of a header with two images: the hash offset in words, and the low byte of the
flags. -/
def headBytes (words : UInt16) (flags : UInt8) : List UInt8 :=
  [0x52, 0x4b, 0x4e, 0x53, 0, 0, 0, 0] ++ u16Bytes words ++ [2, 0, flags, 0, 0, 0]

/-- **Two headers decoded against the rules**: a hash type of 9 is taken for SHA-256, and an offset
of 2¹⁴ words panics in one build and is shown as 0 in the other. -/
theorem header_decoded_against_rules :
    let nine := headBytes 0x180 9 ++ List.replicate 2032 0
    let far := headBytes 0x4000 1 ++ List.replicate 2032 0
    (¬DecodedByRules nine ∧ (⟨nine⟩ : RkNsImage).hashType = some .sha256 ∧
        documentedHashType (u32At nine 12) = some (.unknown 9)) ∧
      ¬DecodedByRules far ∧ (⟨far⟩ : RkNsImage).fmt true = .error .arithmeticOverflow ∧
        ((⟨far⟩ : RkNsImage).fmt false).map (·.hashOffset) = .ok 0 := by
  refine ⟨⟨fun decoded => ?_, by decide +kernel, by decide +kernel⟩, fun decoded => ?_,
    by decide +kernel, by decide +kernel⟩
  · obtain ⟨type, -⟩ := decoded _ (new_eq_ok_iff.mpr ⟨by decide +kernel, rfl⟩)
    exact absurd type (by decide +kernel)
  · obtain ⟨-, shows⟩ := decoded _ (new_eq_ok_iff.mpr ⟨by decide +kernel, rfl⟩)
    obtain ⟨shown, found, -⟩ := shows true
    have panics : fmt true ⟨headBytes 0x4000 1 ++ List.replicate 2032 0⟩ =
        .error .arithmeticOverflow := by decide +kernel
    cases panics.symm.trans found

/-! ### The rules for acceptance -/

def RKNS_TAG : UInt32 := 0x534E4B52

/-- A header that a parser should accept: it fits, it has the magic, and its hash begins in it. -/
def StructurallyValid (data : List UInt8) : Prop :=
  RkNsHeader.size ≤ data.length ∧ u32At data 0 = RKNS_TAG ∧
    4 * (u16At data 8).toNat ≤ RkNsHeader.size

instance (data : List UInt8) : Decidable (StructurallyValid data) :=
  inferInstanceAs (Decidable (_ ∧ _ ∧ _))

/-- Exactly the valid headers are accepted, and the others are refused for their first defect. -/
structure ParsesExactly (data : List UInt8) : Prop where
  accepts : (∃ image, new data = .ok image) ↔ StructurallyValid data
  short : data.length < RkNsHeader.size → new data = .error (.tooShort RkNsHeader.size data.length)
  magic : RkNsHeader.size ≤ data.length → u32At data 0 ≠ RKNS_TAG →
    new data = .error (.invalidMagic (u32At data 0))

/-- In no build is a buffer shown as a header that is not valid. -/
def PresentsValid (rc4 : List UInt8 → Nat → UInt8) (bootImg : RkBootImage) : Prop :=
  ∀ overflowChecks shown, dumpFlashHeadIdblock rc4 overflowChecks bootImg = .ok (some (.ok shown)) →
    ∀ buffer, flashHeadBuffer rc4 bootImg = .ok (some buffer) → StructurallyValid buffer

/-- The magic is never looked at. -/
theorem new_ne_invalidMagic (data : List UInt8) (magic : UInt32) :
    new data ≠ .error (.invalidMagic magic) := by
  unfold new
  by_cases short : data.length < RkNsHeader.size
  · rw [if_pos short]
    intro same
    cases same
  · rw [if_neg short]
    intro same
    cases same

/-- Without the check for overflows, whatever is long enough is shown. -/
theorem debugNew_of_long {buffer : List UInt8} (long : RkNsHeader.size ≤ buffer.length) :
    ∃ shown, debugNew false buffer = .ok (.ok shown) := by
  unfold debugNew
  rw [new_eq_ok_iff.mpr ⟨long, rfl⟩]
  exact ⟨_, rfl⟩

/-- What is shown is long enough. -/
theorem long_of_debugNew {overflowChecks : Bool} {buffer : List UInt8} {shown : Shown}
    (found : debugNew overflowChecks buffer = .ok (.ok shown)) :
    RkNsHeader.size ≤ buffer.length := by
  unfold debugNew at found
  cases parsed : new buffer with
  | error error =>
    rw [parsed] at found
    cases found
  | ok image => exact (new_eq_ok_iff.mp parsed).1

/-- A buffer is presented as `RkNsImage::new` returns it. -/
theorem dump_eq_of_buffer {rc4 : List UInt8 → Nat → UInt8} {bootImg : RkBootImage}
    {buffer : List UInt8} (found : flashHeadBuffer rc4 bootImg = .ok (some buffer))
    (overflowChecks : Bool) (shown : Shown) :
    dumpFlashHeadIdblock rc4 overflowChecks bootImg = .ok (some (.ok shown)) ↔
      debugNew overflowChecks buffer = .ok (.ok shown) := by
  rw [dumpFlashHeadIdblock_eq, found]
  show (debugNew overflowChecks buffer).map some = _ ↔ _
  cases debugNew overflowChecks buffer with
  | error panic => exact ⟨fun fails => (by cases fails), fun fails => (by cases fails)⟩
  | ok result => exact ⟨fun same => (by cases same; rfl), fun same => (by cases same; rfl)⟩

theorem parsesExactly_iff_valid (data : List UInt8) :
    ParsesExactly data ↔ data.length < RkNsHeader.size ∨ StructurallyValid data := by
  constructor
  · intro exactly
    by_cases short : data.length < RkNsHeader.size
    · exact .inl short
    · exact .inr (exactly.accepts.mp ⟨_, new_eq_ok_iff.mpr ⟨Nat.le_of_not_lt short, rfl⟩⟩)
  · rintro (short | valid)
    · refine ⟨⟨fun ⟨_, accepted⟩ => ?_, fun valid => ?_⟩, fun _ => if_pos short, fun long => ?_⟩
      · exact absurd (new_eq_ok_iff.mp accepted).1 (Nat.not_le.mpr short)
      · exact absurd valid.1 (Nat.not_le.mpr short)
      · exact absurd long (Nat.not_le.mpr short)
    · refine ⟨⟨fun _ => valid, fun _ => ⟨_, new_eq_ok_iff.mpr ⟨valid.1, rfl⟩⟩⟩, fun short => ?_,
        fun _ other => absurd valid.2.1 other⟩
      exact absurd valid.1 (Nat.not_le.mpr short)

theorem presentsValid_iff_valid (rc4 : List UInt8 → Nat → UInt8) (bootImg : RkBootImage) :
    PresentsValid rc4 bootImg ↔
      ∀ buffer, flashHeadBuffer rc4 bootImg = .ok (some buffer) →
        buffer.length < RkNsHeader.size ∨ StructurallyValid buffer := by
  constructor
  · intro presents buffer found
    by_cases short : buffer.length < RkNsHeader.size
    · exact .inl short
    obtain ⟨shown, shows⟩ := debugNew_of_long (Nat.le_of_not_lt short)
    exact .inr (presents false shown ((dump_eq_of_buffer found _ _).mpr shows) buffer found)
  · intro fine overflowChecks shown presented buffer found
    have long := long_of_debugNew ((dump_eq_of_buffer found _ _).mp presented)
    exact (fine buffer found).resolve_left (Nat.not_lt.mpr long)

/-- **Where parsing is exact.** A byte string is parsed as the format says exactly if it is too short
or valid, and `dump_flash_head_idblock` presents valid headers only, exactly if its buffer is. -/
theorem rkns_parses_exactly_iff (data : List UInt8) (rc4 : List UInt8 → Nat → UInt8)
    (bootImg : RkBootImage) :
    (ParsesExactly data ↔ data.length < RkNsHeader.size ∨ StructurallyValid data) ∧
      (PresentsValid rc4 bootImg ↔
        ∀ buffer, flashHeadBuffer rc4 bootImg = .ok (some buffer) →
          buffer.length < RkNsHeader.size ∨ StructurallyValid buffer) :=
  ⟨parsesExactly_iff_valid data, presentsValid_iff_valid rc4 bootImg⟩

/-- **Zeros are taken for a header**, as a byte string and, decrypted, as the `FlashHead` of a boot
image. -/
theorem rkns_parses_zeros :
    let zeros := List.replicate 2048 (0 : UInt8)
    new zeros = .ok ⟨zeros⟩ ∧ ¬ParsesExactly zeros ∧
      RkBootImage.new (encryptedHead zeros) = .ok (encryptedHeadImage zeros) ∧
      ¬PresentsValid Rc4.keystream (encryptedHeadImage zeros) := by
  refine ⟨by decide +kernel, fun exactly => ?_, by decide +kernel, fun presents => ?_⟩
  · rcases (parsesExactly_iff_valid _).mp exactly with short | valid
    · exact absurd short (by decide +kernel)
    · exact absurd valid (by decide +kernel)
  · have found : findByName ENTRY_FLASH_HEAD ((encryptedHeadImage (List.replicate 2048 0)).iterEntries
        .entryLoader) = .ok (some ⟨ENTRY_FLASH_HEAD, List.replicate 2048 0, 0⟩) := by decide +kernel
    have buffer := @flashHeadBuffer_of_flag Rc4.keystream _ _ (by decide +kernel) found
    rw [if_pos (by decide +kernel)] at buffer
    rcases (presentsValid_iff_valid _ _).mp presents _ buffer with short | valid
    · rw [length_applyKeystream, List.length_replicate] at short
      exact absurd short (by decide)
    · have magic := valid.2.1
      have split : List.replicate 2048 (0 : UInt8) = List.replicate 4 0 ++ List.replicate 2044 0 := by
        rw [List.replicate_append_replicate]
      rw [u32At, split, applyKeystream_append, field_append_left _ (by decide +kernel)] at magic
      exact absurd magic (by decide +kernel)

end RkNsImage

end Rkusb
