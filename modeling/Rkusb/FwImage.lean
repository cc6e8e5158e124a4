/-
**Firmware bundles** (`RkFwImage` of `image.rs`).

A bundle is a header, the firmware somewhere behind its beginning, 32 bytes of MD5 behind the
firmware, and what follows, which is a signature if it is long enough. The header type belongs to
another crate: its size, its tag and how its bytes are read are an `RkFwFormat`.

* `RkFwImage.new_eq_ok_iff`: what is accepted, and into which parts it is cut.
* `fw_image_exact_and_stable`: the conditions on the header are exact, the parts are adjacent, and
  bytes that follow a bundle change neither its firmware, nor its MD5, nor its boot image.
-/

import Rkusb.Image

namespace Rkusb

open Interaction Bytes

/-- The header of a bundle (`rkafp::rkfw::ImageHeader`), as far as it is read. `fwOffset` is what
`fw_offset()` makes of it. -/
structure RkFwHeader where
  tag : UInt32
  fwOffset : UInt64
  fwSize : UInt32
  bootOffset : UInt32
  bootSize : UInt32
  deriving DecidableEq

/-- The header type: its size, the tag it should have (`RKFW_TAG`), and how its bytes are read. -/
structure RkFwFormat where
  size : Nat
  tag : UInt32
  ofBytes : List UInt8 → RkFwHeader

structure RkFwImage where
  data : List UInt8
  fw : List UInt8
  md5 : List UInt8
  sign : Option (List UInt8)
  deriving DecidableEq

/-- `usize::checked_add`. -/
def usizeCheckedAdd (first second : Nat) : Option Nat :=
  if first + second < 2 ^ 64 then some (first + second) else none

/-- `Option::ok_or`. -/
def okOr {α : Type} (found : Option α) (error : ImageError) : Except ImageError α :=
  match found with
  | some value => .ok value
  | none => .error error

namespace RkFwImage

variable (format : RkFwFormat)

def new (data : List UInt8) : Except ImageError RkFwImage := do
  let header ← okOr (getRange data 0 format.size) .tooShort
  if (format.ofBytes header).tag ≠ format.tag then .error .unknownTag
  else
    let fwSize := (format.ofBytes header).fwSize.toNat
    let fwOffset := (format.ofBytes header).fwOffset.toNat
    let fwEnd ← okOr (usizeCheckedAdd fwOffset fwSize) .fwOutOfRange
    let fw ← okOr (getRange data fwOffset fwEnd) .fwOutOfRange
    let md5End ← okOr (usizeCheckedAdd fwEnd 32) .md5OutOfRange
    let md5 ← okOr (getRange data fwEnd md5End) .md5OutOfRange
    let sign := (getRange data md5End data.length).filter fun x => 128 ≤ x.length
    pure ⟨data, fw, md5, sign⟩

/-- The header behind the pointer. -/
def headerPtr (self : RkFwImage) : Except Panic RkFwHeader :=
  if format.size < self.data.length then .ok (format.ofBytes (self.data.take format.size))
  else .error .assertionFailed

/-- The boot image. Two values of 32 bits add up in a `usize`. -/
def bootData (self : RkFwImage) : Except (Halt ImageError) RkBootImage := do
  let header ← (self.headerPtr format).mapError .panic
  let offset := header.bootOffset.toNat
  let stop := offset + header.bootSize.toNat
  let boot ← (okOr (getRange self.data offset stop) .bootEntryOutOfRange).mapError .error
  (RkBootImage.new boot).mapError .error

def fwData (self : RkFwImage) : Except ImageError (List UInt8) := .ok self.fw

end RkFwImage

/-! ### Ranges -/

theorem okOr_eq_ok_iff {α : Type} {found : Option α} {error : ImageError} {value : α} :
    okOr found error = .ok value ↔ found = some value := by
  cases found with
  | none => exact ⟨fun fails => (by cases fails), fun fails => (by cases fails)⟩
  | some other => exact ⟨fun same => (by cases same; rfl), fun same => (by cases same; rfl)⟩

theorem usizeCheckedAdd_eq_some_iff {first second sum : Nat} :
    usizeCheckedAdd first second = some sum ↔ sum = first + second ∧ first + second < 2 ^ 64 := by
  unfold usizeCheckedAdd
  by_cases small : first + second < 2 ^ 64
  · rw [if_pos small, Option.some.injEq]
    exact ⟨fun same => ⟨same.symm, small⟩, fun both => both.1.symm⟩
  · rw [if_neg small]
    exact ⟨fun fails => (by cases fails), fun both => absurd both.2 small⟩

theorem getRange_eq_some_iff {data bytes : List UInt8} {start stop : Nat} :
    getRange data start stop = some bytes ↔
      start ≤ stop ∧ stop ≤ data.length ∧ bytes = field data start (stop - start) := by
  unfold getRange
  by_cases inside : start ≤ stop ∧ stop ≤ data.length
  · rw [if_pos inside, Option.some.injEq]
    exact ⟨fun same => ⟨inside.1, inside.2, same.symm⟩, fun all => all.2.2.symm⟩
  · rw [if_neg inside]
    exact ⟨fun fails => (by cases fails), fun all => absurd ⟨all.1, all.2.1⟩ inside⟩

/-- The ranges at the beginning and at the end. -/
theorem getRange_zero_eq_some_iff {data bytes : List UInt8} {stop : Nat} :
    getRange data 0 stop = some bytes ↔ stop ≤ data.length ∧ bytes = data.take stop := by
  rw [getRange_eq_some_iff]
  exact ⟨fun all => all.2, fun both => ⟨Nat.zero_le _, both⟩⟩

theorem getRange_to_length {data : List UInt8} {start : Nat} (inside : start ≤ data.length) :
    getRange data start data.length = some (data.drop start) := by
  refine getRange_eq_some_iff.mpr ⟨inside, le_rfl, ?_⟩
  rw [field, List.take_of_length_le (by rw [List.length_drop])]

/-- What follows the data is not in their ranges. -/
theorem getRange_append {data bytes : List UInt8} {start stop : Nat}
    (found : getRange data start stop = some bytes) (suffix : List UInt8) :
    getRange (data ++ suffix) start stop = some bytes := by
  obtain ⟨ordered, inside, rfl⟩ := getRange_eq_some_iff.mp found
  refine getRange_eq_some_iff.mpr ⟨ordered, ?_, ?_⟩
  · rw [List.length_append]
    omega
  · rw [field_append_left suffix (by omega)]

/-! ### What is accepted -/

namespace RkFwFormat

/-- The header at the beginning of the data. -/
def header (format : RkFwFormat) (data : List UInt8) : RkFwHeader :=
  format.ofBytes (data.take format.size)

/-- The conditions on a bundle: the header fits, the tag is right, and the firmware and the MD5 lie
in the data. -/
structure Accepts (format : RkFwFormat) (data : List UInt8) : Prop where
  header : format.size ≤ data.length
  tag : (format.header data).tag = format.tag
  range : (format.header data).fwOffset.toNat + (format.header data).fwSize.toNat + 32 ≤ data.length

/-- The parts of a bundle, one after the other: what is before the firmware, the firmware, the MD5,
and the rest, a signature if there are 128 bytes of it. -/
structure Parts (format : RkFwFormat) (data before rest : List UInt8) (image : RkFwImage) :
    Prop where
  whole : image.data = data
  split : data = before ++ image.fw ++ image.md5 ++ rest
  before : before.length = (format.header data).fwOffset.toNat
  fw : image.fw.length = (format.header data).fwSize.toNat
  md5 : image.md5.length = 32
  sign : image.sign = if 128 ≤ rest.length then some rest else none

end RkFwFormat

namespace RkFwImage

variable {format : RkFwFormat} {data : List UInt8} {image : RkFwImage}

/-- The parts that the header states. -/
def cut (format : RkFwFormat) (data : List UInt8) : RkFwImage :=
  let start := (format.header data).fwOffset.toNat
  let size := (format.header data).fwSize.toNat
  { data := data
    fw := field data start size
    md5 := field data (start + size) 32
    sign := (some (data.drop (start + size + 32))).filter fun x => 128 ≤ x.length }

/-- **A bundle is accepted** if it meets the conditions and its MD5 ends at a `usize`. -/
theorem new_eq_ok_iff :
    new format data = .ok image ↔
      format.Accepts data ∧
        (format.header data).fwOffset.toNat + (format.header data).fwSize.toNat + 32 < 2 ^ 64 ∧
        image = cut format data := by
  unfold new
  simp only [bind_eq_ok_iff, okOr_eq_ok_iff, getRange_zero_eq_some_iff]
  constructor
  · rintro ⟨bytes, ⟨header, rfl⟩, accepted⟩
    by_cases tag : (format.ofBytes (data.take format.size)).tag ≠ format.tag
    · rw [if_pos tag] at accepted
      cases accepted
    rw [if_neg tag] at accepted
    simp only [bind_eq_ok_iff, okOr_eq_ok_iff] at accepted
    obtain ⟨fwEnd, first, fw, inside, md5End, second, md5, inside', same⟩ := accepted
    obtain ⟨rfl, -⟩ := usizeCheckedAdd_eq_some_iff.mp first
    obtain ⟨rfl, small⟩ := usizeCheckedAdd_eq_some_iff.mp second
    obtain ⟨-, -, rfl⟩ := getRange_eq_some_iff.mp inside
    obtain ⟨-, range, rfl⟩ := getRange_eq_some_iff.mp inside'
    refine ⟨⟨header, not_not.mp tag, range⟩, small, ?_⟩
    rw [getRange_to_length range, Nat.add_sub_cancel_left, Nat.add_sub_cancel_left] at same
    cases same
    rfl
  · rintro ⟨⟨header, tag, range⟩, small, rfl⟩
    refine ⟨_, ⟨header, rfl⟩, ?_⟩
    have same : format.ofBytes (data.take format.size) = format.header data := rfl
    rw [same, if_neg (not_not.mpr tag)]
    simp only [bind_eq_ok_iff, okOr_eq_ok_iff]
    refine ⟨_, usizeCheckedAdd_eq_some_iff.mpr ⟨rfl, ?_⟩,
      _, getRange_eq_some_iff.mpr ⟨Nat.le_add_right _ _, ?_, rfl⟩,
      _, usizeCheckedAdd_eq_some_iff.mpr ⟨rfl, small⟩,
      _, getRange_eq_some_iff.mpr ⟨Nat.le_add_right _ _, range, rfl⟩, ?_⟩
    · omega
    · omega
    · rw [Nat.add_sub_cancel_left, Nat.add_sub_cancel_left]
      exact congrArg (fun found => Except.ok (RkFwImage.mk data _ _ (Option.filter _ found)))
        (getRange_to_length range)

/-- The parts lie one after the other. -/
theorem cut_parts (accepts : format.Accepts data) :
    ∃ before rest, format.Parts data before rest (cut format data) := by
  obtain ⟨-, -, range⟩ := accepts
  refine ⟨data.take (format.header data).fwOffset.toNat, data.drop
    ((format.header data).fwOffset.toNat + (format.header data).fwSize.toNat + 32), rfl, ?_, ?_, ?_,
    ?_, ?_⟩
  · show data = _ ++ field data _ _ ++ field data _ 32 ++ _
    unfold field
    rw [← List.take_add, ← List.take_add, List.take_append_drop]
  · rw [List.length_take]
    omega
  · exact length_field (by omega)
  · exact length_field (by omega)
  · show (some _).filter (fun x : List UInt8 => decide (128 ≤ x.length)) = _
    rw [Option.filter_some]
    exact if_congr decide_eq_true_iff rfl rfl

/-! ### What follows a bundle -/

theorem header_append (inside : format.size ≤ data.length) (suffix : List UInt8) :
    format.header (data ++ suffix) = format.header data := by
  rw [RkFwFormat.header, List.take_append_of_le_length inside]
  rfl

/-- The conditions, with more behind the bundle. -/
theorem accepts_append (accepts : format.Accepts data) (suffix : List UInt8) :
    format.Accepts (data ++ suffix) := by
  obtain ⟨header, tag, range⟩ := accepts
  have longer : data.length ≤ (data ++ suffix).length := by
    rw [List.length_append]
    omega
  refine ⟨header.trans longer, ?_, ?_⟩
  · rw [header_append header]
    exact tag
  · rw [header_append header]
    exact range.trans longer

/-- A bundle stays one, with its firmware and its MD5. -/
theorem new_append (accepted : new format data = .ok image) (suffix : List UInt8) :
    ∃ image', new format (data ++ suffix) = .ok image' ∧ image'.data = data ++ suffix ∧
      image'.fw = image.fw ∧ image'.md5 = image.md5 := by
  obtain ⟨accepts, small, rfl⟩ := new_eq_ok_iff.mp accepted
  have same := header_append accepts.header suffix
  have range := accepts.range
  refine ⟨_, new_eq_ok_iff.mpr ⟨accepts_append accepts suffix, by rwa [same], rfl⟩, rfl, ?_, ?_⟩
  · show field (data ++ suffix) _ _ = field data _ _
    rw [same, field_append_left suffix (by omega)]
  · show field (data ++ suffix) _ 32 = field data _ 32
    rw [same, field_append_left suffix (by omega)]

/-- What `boot_data` returns: the boot image in the range that the header states. -/
theorem bootData_eq_ok_iff {boot : RkBootImage} :
    image.bootData format = .ok boot ↔
      format.size < image.data.length ∧ ∃ area,
        getRange image.data (format.header image.data).bootOffset.toNat
            ((format.header image.data).bootOffset.toNat +
              (format.header image.data).bootSize.toNat) = some area ∧
          RkBootImage.new area = .ok boot := by
  unfold bootData headerPtr
  by_cases inside : format.size < image.data.length
  · rw [if_pos inside]
    have step : (Except.ok (format.ofBytes (image.data.take format.size)) :
        Except Panic RkFwHeader).mapError Halt.panic =
        (.ok (format.header image.data) : Except (Halt ImageError) RkFwHeader) := rfl
    rw [step]
    simp only [bind_eq_ok_iff, mapError_eq_ok_iff, okOr_eq_ok_iff]
    exact ⟨fun ⟨_, same, found⟩ => (by cases same; exact ⟨inside, found⟩),
      fun ⟨_, found⟩ => ⟨_, rfl, found⟩⟩
  · rw [if_neg inside]
    exact ⟨fun fails => (by cases fails), fun found => absurd found.1 inside⟩

/-- The boot image stays. -/
theorem bootData_append {image' : RkFwImage} {boot : RkBootImage} {suffix : List UInt8}
    (longer : image'.data = image.data ++ suffix) (found : image.bootData format = .ok boot) :
    image'.bootData format = .ok boot := by
  obtain ⟨inside, area, cut, parsed⟩ := bootData_eq_ok_iff.mp found
  refine bootData_eq_ok_iff.mpr ?_
  rw [longer, header_append inside.le]
  refine ⟨?_, area, getRange_append cut suffix, parsed⟩
  rw [List.length_append]
  omega

end RkFwImage

/-- **Bundles are parsed exactly, and their ends do not matter.** A byte string in memory is accepted
if it meets the conditions of the format, and cut into adjacent parts; whatever is appended to it, it
is accepted with the same firmware, the same MD5 and the same boot image. -/
theorem fw_image_exact_and_stable (format : RkFwFormat) {data : List UInt8}
    (inMemory : data.length < 2 ^ 64) :
    ((∃ image, RkFwImage.new format data = .ok image) ↔ format.Accepts data) ∧
      ∀ image, RkFwImage.new format data = .ok image →
        (∃ before rest, format.Parts data before rest image) ∧
          ∀ suffix, ∃ image', RkFwImage.new format (data ++ suffix) = .ok image' ∧
            image'.fw = image.fw ∧ image'.md5 = image.md5 ∧
            ∀ boot, image.bootData format = .ok boot → image'.bootData format = .ok boot := by
  refine ⟨⟨fun ⟨image, accepted⟩ => (RkFwImage.new_eq_ok_iff.mp accepted).1, fun accepts => ?_⟩,
    fun image accepted => ⟨?_, fun suffix => ?_⟩⟩
  · exact ⟨_, RkFwImage.new_eq_ok_iff.mpr ⟨accepts, accepts.range.trans_lt inMemory, rfl⟩⟩
  · obtain ⟨accepts, -, rfl⟩ := RkFwImage.new_eq_ok_iff.mp accepted
    exact RkFwImage.cut_parts accepts
  · obtain ⟨image', accepted', longer, fw, md5⟩ := RkFwImage.new_append accepted suffix
    refine ⟨image', accepted', fw, md5, fun boot found => ?_⟩
    have whole : image.data = data := by
      obtain ⟨-, -, rfl⟩ := RkFwImage.new_eq_ok_iff.mp accepted
      rfl
    exact RkFwImage.bootData_append (longer.trans (by rw [whole])) found

/-! ### Small bundles -/

/-- The header of RKFW files, where the size of the firmware fits into 32 bits. -/
def rkfwFormat : RkFwFormat where
  size := 102
  tag := u32OfBytes [0x52, 0x4b, 0x46, 0x57]
  ofBytes bytes :=
    { tag := u32At bytes 0
      bootOffset := u32At bytes 25
      bootSize := u32At bytes 29
      fwOffset := (u32At bytes 33).toUInt64
      fwSize := u32At bytes 37 }

/-- A header with the ranges of the boot image and of the firmware. -/
def bundleHeader (bootOffset bootSize fwOffset fwSize : UInt8) : List UInt8 :=
  [0x52, 0x4b, 0x46, 0x57] ++ List.replicate 21 0 ++ [bootOffset, 0, 0, 0, bootSize, 0, 0, 0] ++
    [fwOffset, 0, 0, 0, fwSize, 0, 0, 0] ++ List.replicate 61 0

/-- A boot image without entries, one byte of firmware, and an MD5. -/
def smallBundle : List UInt8 :=
  bundleHeader 102 102 204 1 ++ headerBytes 0 0 57 ++ [7] ++ List.replicate 32 1

/-- The small bundle, with one byte behind it. -/
theorem fw_image_exact_and_stable_small :
    ∃ image, RkFwImage.new rkfwFormat (smallBundle ++ [5]) = .ok image ∧ image.fw = [7] ∧
      image.bootData rkfwFormat = .ok ⟨headerBytes 0 0 57, [], [], []⟩ := by
  obtain ⟨image, accepted, fw, -, boot⟩ := ((fw_image_exact_and_stable rkfwFormat
    (by decide +kernel : smallBundle.length < 2 ^ 64)).2
      ⟨smallBundle, [7], List.replicate 32 1, none⟩ (by decide +kernel)).2 [5]
  exact ⟨image, accepted, fw, boot _ (by decide +kernel)⟩

end Rkusb
