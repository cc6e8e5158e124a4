/-
**What is read from an accepted image** (the accessors and the debug output of `image.rs`).

The constructors accept data that are exactly as long as their header; `boot_header_ptr` and
`header_ptr` assert that the data are longer.

* `accessors_calm_iff`: what an accessor does with accepted data is no panic exactly if the data, and
  the boot image in a bundle, are longer than their header.
* `get_entry_data_agrees_iff`: `get_entry_data` takes its size for the end of the range, and agrees
  with the iterator on entries at offset zero only.
-/

import Rkusb.FwImage
import Rkusb.DownloadBoot

namespace Rkusb

open Interaction Bytes

/-! ### Debug output -/

/-- A header as it is shown, with the fields that only the output reads. -/
structure RkBootHeader.Shown extends RkBootHeader where
  size : UInt16
  version : UInt32
  mergeVersion : UInt32
  releaseTime : String
  supportChip : UInt32
  signFlag : UInt8

/-- The fields that are shown. The text of an `RkTime`, of seven bytes, is `rkafp`'s. -/
def RkBootHeader.Shown.ofBytes (timeText : List UInt8 → String) (bytes : List UInt8) :
    RkBootHeader.Shown where
  toRkBootHeader := .ofBytes bytes
  size := u16At bytes 4
  version := u32At bytes 6
  mergeVersion := u32At bytes 10
  releaseTime := timeText (field bytes 14 7)
  supportChip := u32At bytes 21
  signFlag := u8At bytes 43

/-- An entry as it is shown. -/
structure RkBootEntry.Shown where
  name : List Char
  type : UInt32
  size : UInt8
  dataOffset : UInt32
  dataSize : UInt32
  dataDelay : UInt32

def RkBootEntry.shown (entry : RkBootEntry) : RkBootEntry.Shown where
  name := trimEndNul (fromUtf16Lossy entry.name)
  type := entry.type
  size := entry.size
  dataOffset := entry.dataOffset
  dataSize := entry.dataSize
  dataDelay := entry.dataDelay

/-! ### Accessors -/

namespace RkBootImage

variable (rkCrc : List UInt8 → UInt32) (timeText : List UInt8 → String)

def getEntryData (self : RkBootImage) (offset size : Nat) : Except Panic (List UInt8) :=
  sliceAt self.data offset size

/-- `split_last_chunk::<4>().unwrap()`. -/
def splitLastChunk (data : List UInt8) : Except Panic (List UInt8 × List UInt8) :=
  if 4 ≤ data.length then .ok (data.take (data.length - 4), data.drop (data.length - 4))
  else .error .unwrapNone

def getCrc32 (self : RkBootImage) : Except Panic UInt32 := do
  let (_, crcBytes) ← splitLastChunk self.data
  pure (u32At crcBytes 0)

def calculateCrc32 (self : RkBootImage) : Except Panic UInt32 := do
  let (content, _) ← splitLastChunk self.data
  pure (rkCrc content)

structure Shown where
  header : RkBootHeader.Shown
  entries : List RkBootEntry.Shown

/-- `fmt`. -/
def fmt (self : RkBootImage) : Except Panic Shown := do
  let _ ← self.bootHeaderPtr
  pure {
    header := .ofBytes timeText self.data
    entries := (self.entries471 ++ self.entries472 ++ self.entriesLoader).map RkBootEntry.shown }

end RkBootImage

namespace RkFwImage

/-- What the output shows; the MD5 and the signature as the bytes of their texts. -/
structure Shown where
  header : RkFwHeader
  fwLen : Nat
  md5 : List UInt8
  sign : Option (List UInt8)
  boot : Except ImageError RkBootImage.Shown

/-- The output for what `boot_data` returns. -/
def fmtBoot (timeText : List UInt8 → String) :
    Except (Halt ImageError) RkBootImage → Except Panic (Except ImageError RkBootImage.Shown)
  | .error (.panic panic) => .error panic
  | .error (.error error) => .ok (.error error)
  | .ok boot => (boot.fmt timeText).map .ok

/-- `fmt`. The boot image is parsed, and shown if it is one. -/
def fmt (format : RkFwFormat) (timeText : List UInt8 → String) (self : RkFwImage) :
    Except Panic Shown := do
  let header ← self.headerPtr format
  let boot ← fmtBoot timeText (self.bootData format)
  pure ⟨header, self.fw.length, self.md5, self.sign, boot⟩

end RkFwImage

/-! ### Panics -/

section Calm

variable {format : RkFwFormat} {rkCrc : List UInt8 → UInt32} {timeText : List UInt8 → String}
  {data : List UInt8}

/-- The range of the boot image in a bundle. -/
def RkFwFormat.bootArea (format : RkFwFormat) (data : List UInt8) : Option (List UInt8) :=
  let header := format.header data
  getRange data header.bootOffset.toNat (header.bootOffset.toNat + header.bootSize.toNat)

/-- No accessor of what the constructors accept panics. -/
structure AccessorsCalm (format : RkFwFormat) (rkCrc : List UInt8 → UInt32)
    (timeText : List UInt8 → String) (data : List UInt8) : Prop where
  boot : ∀ image, RkBootImage.new data = .ok image →
    (∃ header, image.bootHeaderPtr = .ok header) ∧ (∃ crc, image.getCrc32 = .ok crc) ∧
      ∃ crc, image.calculateCrc32 rkCrc = .ok crc
  fw : ∀ image, RkFwImage.new format data = .ok image →
    (∃ header, image.headerPtr format = .ok header) ∧ Halt.Calm (image.bootData format) ∧
      ∃ shown, image.fmt format timeText = .ok shown

namespace RkBootImage

/-- An accepted image has the length of a header at least. -/
theorem length_of_new {image : RkBootImage} (accepted : new data = .ok image) :
    image.data = data ∧ RkBootHeader.size ≤ data.length := by
  obtain ⟨header, found, -, same, -⟩ := new_ok accepted
  refine ⟨same, ?_⟩
  obtain ⟨bytes, range, -⟩ := Option.map_eq_some_iff.mp found
  exact (getRange_eq_some_iff.mp range).2.1

theorem bootHeaderPtr_ok_iff (image : RkBootImage) :
    (∃ header, image.bootHeaderPtr = .ok header) ↔ RkBootHeader.size < image.data.length := by
  unfold bootHeaderPtr
  by_cases longer : RkBootHeader.size < image.data.length
  · rw [if_pos longer]
    exact ⟨fun _ => longer, fun _ => ⟨_, rfl⟩⟩
  · rw [if_neg longer]
    exact ⟨fun ⟨_, fails⟩ => (by cases fails), fun other => absurd other longer⟩

theorem fmt_ok_iff (image : RkBootImage) :
    (∃ shown, image.fmt timeText = .ok shown) ↔ RkBootHeader.size < image.data.length := by
  rw [← bootHeaderPtr_ok_iff]
  unfold fmt
  simp only [bind_eq_ok_iff]
  exact ⟨fun ⟨_, header, found, _⟩ => ⟨header, found⟩, fun ⟨header, found⟩ => ⟨_, header, found, rfl⟩⟩

theorem splitLastChunk_ok (long : RkBootHeader.size ≤ data.length) :
    splitLastChunk data = .ok (data.take (data.length - 4), data.drop (data.length - 4)) := by
  unfold splitLastChunk
  unfold RkBootHeader.size at long
  rw [if_pos (by omega)]

end RkBootImage

namespace RkFwImage

theorem length_of_new {image : RkFwImage} (accepted : new format data = .ok image) :
    image.data = data ∧ format.size ≤ data.length := by
  obtain ⟨accepts, -, rfl⟩ := new_eq_ok_iff.mp accepted
  exact ⟨rfl, accepts.header⟩

theorem headerPtr_ok_iff (image : RkFwImage) :
    (∃ header, image.headerPtr format = .ok header) ↔ format.size < image.data.length := by
  unfold headerPtr
  by_cases longer : format.size < image.data.length
  · rw [if_pos longer]
    exact ⟨fun _ => longer, fun _ => ⟨_, rfl⟩⟩
  · rw [if_neg longer]
    exact ⟨fun ⟨_, fails⟩ => (by cases fails), fun other => absurd other longer⟩

/-- Behind the assertion nothing panics: the area is not in the data, is no image, or is one. -/
theorem bootData_of_longer {image : RkFwImage} (longer : format.size < image.data.length) :
    image.bootData format = (okOr (format.bootArea image.data) .bootEntryOutOfRange >>=
      RkBootImage.new).mapError Halt.error := by
  unfold bootData headerPtr
  rw [if_pos longer]
  show (okOr (format.bootArea image.data) _).mapError Halt.error >>= _ = _
  cases format.bootArea image.data with
  | none => rfl
  | some area => rfl

theorem bootData_calm {image : RkFwImage} (longer : format.size < image.data.length) :
    Halt.Calm (image.bootData format) := by
  rw [bootData_of_longer longer]
  intro panic fails
  cases parsed : okOr (format.bootArea image.data) .bootEntryOutOfRange >>= RkBootImage.new with
  | error error =>
    rw [parsed] at fails
    cases fails
  | ok boot =>
    rw [parsed] at fails
    cases fails

/-- The output of a boot area is there, if it is not an image as long as its header. -/
theorem fmtBoot_ok_iff (area : Option (List UInt8)) :
    (∃ shown, fmtBoot timeText ((okOr area .bootEntryOutOfRange >>=
        RkBootImage.new).mapError Halt.error) = .ok shown) ↔
      ∀ bytes, area = some bytes → ∀ boot, RkBootImage.new bytes = .ok boot →
        bytes.length ≠ RkBootHeader.size := by
  cases area with
  | none => exact ⟨fun _ _ other => (by cases other), fun _ => ⟨_, rfl⟩⟩
  | some bytes =>
    show (∃ shown, fmtBoot timeText ((RkBootImage.new bytes).mapError Halt.error) = .ok shown) ↔ _
    cases parsed : RkBootImage.new bytes with
    | error error =>
      refine ⟨fun _ other same boot accepted => ?_, fun _ => ⟨_, rfl⟩⟩
      cases same
      cases parsed.symm.trans accepted
    | ok boot =>
      obtain ⟨same, long⟩ := RkBootImage.length_of_new parsed
      have shows : (∃ shown, fmtBoot timeText (.ok boot) = .ok shown) ↔
          RkBootHeader.size < bytes.length := by
        rw [← same, ← @RkBootImage.fmt_ok_iff timeText]
        show (∃ shown, (boot.fmt timeText).map Except.ok = .ok shown) ↔ _
        cases boot.fmt timeText with
        | error panic => exact ⟨fun ⟨_, fails⟩ => (by cases fails), fun ⟨_, fails⟩ => (by cases fails)⟩
        | ok shown => exact ⟨fun _ => ⟨_, rfl⟩, fun _ => ⟨_, rfl⟩⟩
      refine shows.trans ⟨fun longer other equal _ _ => ?_, fun all => ?_⟩
      · cases equal
        exact longer.ne'
      · exact lt_of_le_of_ne long (all bytes rfl boot parsed).symm

/-- The output of a bundle is there if the bundle is longer than its header, and its boot image is. -/
theorem fmt_ok_iff (image : RkFwImage) :
    (∃ shown, image.fmt format timeText = .ok shown) ↔
      format.size < image.data.length ∧ ∀ area, format.bootArea image.data = some area →
        ∀ boot, RkBootImage.new area = .ok boot → area.length ≠ RkBootHeader.size := by
  unfold fmt
  simp only [bind_eq_ok_iff]
  constructor
  · rintro ⟨shown, header, found, boot, shows, -⟩
    have longer := (headerPtr_ok_iff image).mp ⟨header, found⟩
    rw [bootData_of_longer longer] at shows
    exact ⟨longer, (fmtBoot_ok_iff _).mp ⟨boot, shows⟩⟩
  · rintro ⟨longer, all⟩
    obtain ⟨header, found⟩ := (headerPtr_ok_iff image).mpr longer
    obtain ⟨boot, shows⟩ := (@fmtBoot_ok_iff timeText _).mpr all
    exact ⟨_, header, found, boot, by rw [bootData_of_longer longer]; exact shows, rfl⟩

end RkFwImage

end Calm

/-- **Accessors and the constructors.** No accessor panics on what the constructors accept exactly if
a boot image is not as long as its header, and a bundle neither as long as its header nor one with
such a boot image. -/
theorem accessors_calm_iff (format : RkFwFormat) (rkCrc : List UInt8 → UInt32)
    (timeText : List UInt8 → String) (data : List UInt8) :
    AccessorsCalm format rkCrc timeText data ↔
      (∀ image, RkBootImage.new data = .ok image → data.length ≠ RkBootHeader.size) ∧
        ∀ image, RkFwImage.new format data = .ok image → data.length ≠ format.size ∧
          ∀ area, format.bootArea data = some area → ∀ boot, RkBootImage.new area = .ok boot →
            area.length ≠ RkBootHeader.size := by
  constructor
  · intro calm
    refine ⟨fun image accepted => ?_, fun image accepted => ?_⟩
    · obtain ⟨same, -⟩ := RkBootImage.length_of_new accepted
      have longer := (RkBootImage.bootHeaderPtr_ok_iff image).mp (calm.boot image accepted).1
      rw [same] at longer
      exact longer.ne'
    · obtain ⟨same, -⟩ := RkFwImage.length_of_new accepted
      have shows := (RkFwImage.fmt_ok_iff image).mp (calm.fw image accepted).2.2
      rw [same] at shows
      exact ⟨shows.1.ne', shows.2⟩
  · rintro ⟨boot, fw⟩
    refine ⟨fun image accepted => ?_, fun image accepted => ?_⟩
    · obtain ⟨same, long⟩ := RkBootImage.length_of_new accepted
      have longer := lt_of_le_of_ne long (boot image accepted).symm
      refine ⟨(RkBootImage.bootHeaderPtr_ok_iff image).mpr (by rwa [same]), ?_, ?_⟩
      · unfold RkBootImage.getCrc32
        rw [same, RkBootImage.splitLastChunk_ok long]
        exact ⟨_, rfl⟩
      · unfold RkBootImage.calculateCrc32
        rw [same, RkBootImage.splitLastChunk_ok long]
        exact ⟨_, rfl⟩
    · obtain ⟨same, long⟩ := RkFwImage.length_of_new accepted
      obtain ⟨other, area⟩ := fw image accepted
      have longer := lt_of_le_of_ne long other.symm
      rw [← same] at longer area
      exact ⟨(RkFwImage.headerPtr_ok_iff image).mpr longer, RkFwImage.bootData_calm longer,
        (RkFwImage.fmt_ok_iff image).mpr ⟨longer, area⟩⟩

/-- **Accepted and refused.** A boot image that is its header, a bundle that is its header, whose MD5
overlaps it, and a bundle with such a boot image. -/
theorem accessors_panic :
    let calm := AccessorsCalm rkfwFormat (fun _ => 0) fun _ => ""
    ¬calm (headerBytes 0 0 57) ∧ ¬calm (bundleHeader 0 0 0 0) ∧ ¬calm smallBundle := by
  refine ⟨fun calm => ?_, fun calm => ?_, fun calm => ?_⟩
  · obtain ⟨longer, -⟩ := calm.boot ⟨headerBytes 0 0 57, [], [], []⟩ (by decide +kernel)
    exact absurd ((RkBootImage.bootHeaderPtr_ok_iff _).mp longer) (by decide +kernel)
  · obtain ⟨longer, -⟩ := calm.fw ⟨bundleHeader 0 0 0 0, [], (bundleHeader 0 0 0 0).take 32, none⟩
      (by decide +kernel)
    exact absurd ((RkFwImage.headerPtr_ok_iff _).mp longer) (by decide +kernel)
  · obtain ⟨-, -, shows⟩ := calm.fw ⟨smallBundle, [7], List.replicate 32 1, none⟩ (by decide +kernel)
    exact ((RkFwImage.fmt_ok_iff _).mp shows).2 (headerBytes 0 0 57) (by decide +kernel)
      ⟨headerBytes 0 0 57, [], [], []⟩ (by decide +kernel) (by decide +kernel)

/-! ### The data of an entry -/

/-- Both ways to the data of an entry lead to the same bytes. -/
theorem getEntryData_eq_iff (image : RkBootImage) {offset size : Nat}
    (inside : offset + size ≤ image.data.length) :
    image.getEntryData offset size = .ok (field image.data offset size) ↔ offset = 0 := by
  unfold RkBootImage.getEntryData sliceAt
  constructor
  · intro found
    by_cases range : offset ≤ size ∧ size ≤ image.data.length
    · rw [if_pos range] at found
      -- the range of the code ends `offset` bytes too early
      have length := congrArg List.length (Except.ok.inj found)
      rw [List.length_take, List.length_drop, length_field inside] at length
      omega
    · rw [if_neg range] at found
      cases found
  · rintro rfl
    rw [if_pos ⟨Nat.zero_le _, by omega⟩]
    rfl

/-- **`get_entry_data` and the iterator.** In an accepted image, the bytes of a range are returned
exactly if it starts at offset zero; so the two agree on an entry exactly if its payload does. -/
theorem get_entry_data_agrees_iff {data : List UInt8} {image : RkBootImage}
    (accepted : RkBootImage.new data = .ok image) :
    (∀ offset size, offset + size ≤ data.length →
      (image.getEntryData offset size = .ok (field data offset size) ↔ offset = 0)) ∧
      ∀ type, ∀ entry ∈ image.entries type, entry.InRange data →
        (image.getEntryData entry.dataOffset.toNat entry.dataSize.toNat =
          (image.yield entry).map (·.data) ↔ entry.dataOffset = 0) := by
  obtain ⟨rfl, -⟩ := RkBootImage.length_of_new accepted
  refine ⟨fun offset size inside => getEntryData_eq_iff image inside, fun type entry _ inside => ?_⟩
  rw [RkBootImage.yield_eq, if_pos inside]
  refine (getEntryData_eq_iff image inside).trans ?_
  rw [← UInt32.toNat_inj]
  rfl

/-- One entry, whose payload is the first four bytes. -/
def firstBytes : List UInt8 := headerBytes 102 1 57 ++ entryBytes 4

/-- The payload at the beginning of an image. -/
theorem get_entry_data_agrees_iff_firstBytes :
    (RkBootImage.mk firstBytes [.ofBytes (entryBytes 4)] [] []).getEntryData 0 4 =
      .ok [0x42, 0x4f, 0x4f, 0x54] :=
  ((get_entry_data_agrees_iff (by decide +kernel : RkBootImage.new firstBytes = .ok _)).1 0 4
    (by decide +kernel)).mpr rfl

/-- An entry of four bytes at offset four. -/
def fourAtFour : List UInt8 :=
  headerBytes 102 1 57 ++ List.replicate 45 0 ++ [4, 0, 0, 0] ++ [4, 0, 0, 0] ++ [0, 0, 0, 0]

def fourAtFourImage : RkBootImage := ⟨fourAtFour, [.ofBytes (fourAtFour.drop 102)], [], []⟩

/-- **The two ways differ.** The iterator yields the four bytes at offset four, `get_entry_data` none
of them, and for two bytes there it panics. -/
theorem get_entry_data_differs :
    RkBootImage.new fourAtFour = .ok fourAtFourImage ∧
      (fourAtFourImage.iterEntries .entry471).map (Except.map (·.data)) =
        [.ok (field fourAtFour 4 4)] ∧
      fourAtFourImage.getEntryData 4 4 = .ok [] ∧ field fourAtFour 4 4 ≠ [] ∧
      fourAtFourImage.getEntryData 4 2 = .error .sliceIndex := by
  refine ⟨?_, ?_, ?_, ?_, ?_⟩ <;> decide +kernel

end Rkusb
