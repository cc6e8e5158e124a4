/-
**The two readings of a `FlashHead`** (`info.rs`, `upgrade_loader.rs`).

The header of a loader is decrypted for display with one RC4 keystream over all of it, and encrypted
for the flash with a keystream that every sector restarts.

* `dumpFlashHeadIdblock_eq`: what is displayed is the buffer of `flashHeadBuffer`.
* `flash_head_readings_agree_iff`: it is what gets flashed if and only if it has no more than one
  sector.
-/

import Rkusb.IdblockNew
import Rkusb.ImageSafety
import Rkusb.Lib.Rc4

namespace Rkusb

open Bytes
open Idblock (RC4_KEY IDBLOCK_ALIGNMENT nextMultipleOf)
open RkBootImage (Yielded)

/-! ### What is displayed -/

/-- The buffer that `dump_flash_head_idblock` hands to `RkNsImage::new`, if there is a `FlashHead`. -/
def flashHeadBuffer (rc4 : List UInt8 → Nat → UInt8) (bootImg : RkBootImage) :
    Except Panic (Option (List UInt8)) := do
  let found ← findByName ENTRY_FLASH_HEAD (bootImg.iterEntries .entryLoader)
  match found with
  | none => pure none
  | some entry => do
      let header ← bootImg.bootHeaderPtr
      pure (some (if header.rc4Flag ≠ 0 then applyKeystream (rc4 RC4_KEY) entry.data else entry.data))

variable {rc4 : List UInt8 → Nat → UInt8} {image : RkBootImage}

theorem dumpFlashHeadIdblock_eq (rc4 : List UInt8 → Nat → UInt8) (overflowChecks : Bool)
    (bootImg : RkBootImage) :
    dumpFlashHeadIdblock rc4 overflowChecks bootImg =
      flashHeadBuffer rc4 bootImg >>= fun buffer =>
        match buffer with
        | none => pure none
        | some buffer => (RkNsImage.debugNew overflowChecks buffer).map some := by
  unfold dumpFlashHeadIdblock flashHeadBuffer
  cases findByName ENTRY_FLASH_HEAD (bootImg.iterEntries .entryLoader) with
  | error panic => rfl
  | ok found =>
    cases found with
    | none => rfl
    | some entry =>
      cases bootImg.bootHeaderPtr <;> rfl

/-! ### What is found -/

/-- What a search finds is one of the entries. -/
theorem mem_of_findByName {name : List Char} {entries : List (Except Panic Yielded)} {entry : Yielded}
    (found : findByName name entries = .ok (some entry)) : .ok entry ∈ entries := by
  induction entries with
  | nil => cases found
  | cons first rest ih =>
    cases first with
    | error panic => cases found
    | ok value =>
      have found : (if value.name = name then pure (some value) else findByName name rest) =
        .ok (some entry) := found
      by_cases same : value.name = name
      · rw [if_pos same] at found
        cases found
        exact List.mem_cons_self
      · rw [if_neg same] at found
        exact List.mem_cons_of_mem _ (ih found)

/-- A payload that is yielded lies in the image, and its size is a 32-bit number. -/
theorem length_of_findByName {name : List Char} {type : RkBootEntryType} {entry : Yielded}
    (found : findByName name (image.iterEntries type) = .ok (some entry)) :
    entry.data.length ≤ image.data.length ∧ entry.data.length < 2 ^ 32 := by
  obtain ⟨stored, -, yields⟩ := List.mem_map.mp (mem_of_findByName found)
  rw [RkBootImage.yield_eq] at yields
  by_cases inside : stored.InRange image.data
  · rw [if_pos inside] at yields
    cases yields
    have length : (stored.payload image.data).length = stored.dataSize.toNat := length_field inside
    rw [length]
    exact ⟨(Nat.le_add_left _ _).trans inside, stored.dataSize.toNat_lt⟩
  · rw [if_neg inside] at yields
    cases yields

theorem findLoaderEntry_eq_ok_iff {name : List Char} {payload : List UInt8} :
    findLoaderEntry image name = .ok payload ↔
      ∃ entry, findByName name (image.iterEntries .entryLoader) = .ok (some entry) ∧
        entry.data = payload := by
  unfold findLoaderEntry
  cases findByName name (image.iterEntries .entryLoader) with
  | error panic => exact ⟨fun fails => (by cases fails), fun ⟨_, fails, _⟩ => (by cases fails)⟩
  | ok found =>
    cases found with
    | none => exact ⟨fun fails => (by cases fails), fun ⟨_, fails, _⟩ => (by cases fails)⟩
    | some entry =>
      refine ⟨fun same => ⟨entry, rfl, ?_⟩, fun ⟨other, same, payloads⟩ => ?_⟩
      · cases same
        rfl
      · cases same
        cases payloads
        rfl

/-! ### What gets flashed -/

open Idblock.Old (padded crypted length_padded_sectors length_crypted le_nextMultipleOf)
open Idblock.New (totalLen buildIdblock_eq decrypted crypted_eq_decrypted sectorKeystream)

/-- The first bytes of a block are the loader header, encrypted sector by sector. -/
theorem take_of_buildIdblock {head ddr loader block : List UInt8}
    (built : Idblock.New.buildIdblock rc4 head ddr loader true = .ok block) :
    block.take head.length = applyKeystream (sectorKeystream rc4) head := by
  by_cases fits : totalLen head ddr loader < 2 ^ 64
  · rw [buildIdblock_eq head ddr loader fits] at built
    cases built
    have whole := length_padded_sectors head
    have shorter : head.length ≤ (crypted rc4 true (padded head)).length := by
      rw [length_crypted whole, padded, List.length_append]
      exact Nat.le_add_right _ _
    rw [List.take_append_of_le_length shorter, crypted_eq_decrypted whole]
    show (applyKeystream (sectorKeystream rc4) (head ++ _)).take head.length = _
    rw [applyKeystream_append, List.take_left' (length_applyKeystream _ _)]
  · rw [Idblock.New.buildIdblock_error fits] at built
    cases built

/-- What is displayed of the `FlashHead` is what gets flashed of it, whatever is flashed behind it. -/
def FlashHeadAgrees (rc4 : List UInt8 → Nat → UInt8) (image : RkBootImage) : Prop :=
  ∀ head, findLoaderEntry image ENTRY_FLASH_HEAD = .ok head →
    ∀ buffer, flashHeadBuffer rc4 image = .ok (some buffer) →
      ∀ ddr loader block, Idblock.New.buildIdblock rc4 head ddr loader true = .ok block →
        buffer = block.take head.length

/-- The header is displayed under the plain keystream. -/
theorem flashHeadBuffer_of_flag {entry : Yielded} (flag : (RkBootHeader.ofBytes image.data).rc4Flag ≠ 0)
    (found : findByName ENTRY_FLASH_HEAD (image.iterEntries .entryLoader) = .ok (some entry)) :
    flashHeadBuffer rc4 image =
      if RkBootHeader.size < image.data.length then
        .ok (some (applyKeystream (rc4 RC4_KEY) entry.data))
      else .error .assertionFailed := by
  unfold flashHeadBuffer RkBootImage.bootHeaderPtr
  rw [found]
  by_cases longer : RkBootHeader.size < image.data.length
  · rw [if_pos longer, if_pos longer]
    show Except.ok (some (if (RkBootHeader.ofBytes image.data).rc4Flag ≠ 0 then _ else _)) = _
    rw [if_pos flag]
  · rw [if_neg longer, if_neg longer]
    rfl

/-- The two keystreams agree on a sector, and at the first byte after it they do not. -/
theorem keystreams_agree_iff (moves : rc4 RC4_KEY Idblock.SECTOR_SIZE ≠ rc4 RC4_KEY 0)
    (head : List UInt8) :
    applyKeystream (rc4 RC4_KEY) head = applyKeystream (sectorKeystream rc4) head ↔
      head.length ≤ Idblock.SECTOR_SIZE := by
  rw [applyKeystream_eq_iff]
  constructor
  · intro same
    by_contra longer
    exact moves (same Idblock.SECTOR_SIZE (Nat.lt_of_not_le longer))
  · intro short index inside
    show rc4 RC4_KEY index = rc4 RC4_KEY (index % Idblock.SECTOR_SIZE)
    rw [Nat.mod_eq_of_lt (inside.trans_le short)]

/-- A header that is displayed as it gets flashed is short. -/
theorem FlashHeadAgrees.length_le (agrees : FlashHeadAgrees rc4 image)
    (moves : rc4 RC4_KEY Idblock.SECTOR_SIZE ≠ rc4 RC4_KEY 0)
    (flag : (RkBootHeader.ofBytes image.data).rc4Flag ≠ 0) {head : List UInt8}
    (finds : findLoaderEntry image ENTRY_FLASH_HEAD = .ok head) : head.length ≤ Idblock.SECTOR_SIZE := by
  obtain ⟨entry, found, rfl⟩ := findLoaderEntry_eq_ok_iff.mp finds
  obtain ⟨within, small⟩ := length_of_findByName found
  by_contra longer
  have header : RkBootHeader.size < image.data.length := by
    unfold Idblock.SECTOR_SIZE at longer
    unfold RkBootHeader.size
    omega
  have displayed := @flashHeadBuffer_of_flag rc4 image entry flag found
  rw [if_pos header] at displayed
  have fits : totalLen entry.data [] [] < 2 ^ 64 := by
    have padding : nextMultipleOf entry.data.length IDBLOCK_ALIGNMENT ≤
        entry.data.length + IDBLOCK_ALIGNMENT := by
      unfold nextMultipleOf
      split <;> omega
    show nextMultipleOf entry.data.length IDBLOCK_ALIGNMENT + 0 + 0 < 2 ^ 64
    unfold IDBLOCK_ALIGNMENT at *
    omega
  have built := @buildIdblock_eq rc4 true entry.data [] [] fits
  have same := agrees _ finds _ displayed [] [] _ built
  rw [take_of_buildIdblock built] at same
  exact longer ((keystreams_agree_iff moves entry.data).mp same)

/-- **The `FlashHead` of an encrypted image is displayed as it gets flashed** if and only if it is not
longer than a sector. The keystream of RC4 under the fixed key does not repeat its first byte at the
first byte after a sector. -/
theorem flash_head_readings_agree_iff (moves : rc4 RC4_KEY Idblock.SECTOR_SIZE ≠ rc4 RC4_KEY 0)
    (flag : (RkBootHeader.ofBytes image.data).rc4Flag ≠ 0) :
    FlashHeadAgrees rc4 image ↔
      ∀ head, findLoaderEntry image ENTRY_FLASH_HEAD = .ok head → head.length ≤ Idblock.SECTOR_SIZE := by
  refine ⟨fun agrees head finds => agrees.length_le moves flag finds, ?_⟩
  intro short head finds buffer displayed ddr loader block built
  obtain ⟨entry, found, rfl⟩ := findLoaderEntry_eq_ok_iff.mp finds
  rw [flashHeadBuffer_of_flag flag found] at displayed
  rw [take_of_buildIdblock built, ← (keystreams_agree_iff moves entry.data).mpr (short _ finds)]
  by_cases header : RkBootHeader.size < image.data.length
  · rw [if_pos header] at displayed
    cases displayed
    rfl
  · rw [if_neg header] at displayed
    cases displayed

/-- An entry named `FlashHead`, whose payload is at byte 159. -/
def flashHeadEntry (dataSize : UInt32) : List UInt8 :=
  [57, 4, 0, 0, 0] ++ [70, 0, 108, 0, 97, 0, 115, 0, 104, 0, 72, 0, 101, 0, 97, 0, 100, 0] ++
    List.replicate 22 0 ++ [159, 0, 0, 0] ++ u32Bytes dataSize ++ [0, 0, 0, 0]

/-- A boot image with the RC4 flag and this one entry. -/
def encryptedHead (payload : List UInt8) : List UInt8 :=
  [0x42, 0x4f, 0x4f, 0x54] ++ List.replicate 21 0 ++ [0, 0, 0, 0, 0, 57] ++ [0, 0, 0, 0, 0, 57] ++
    [1, 102, 0, 0, 0, 57] ++ [0, 1] ++ List.replicate 57 0 ++
    flashHeadEntry (UInt32.ofNat payload.length) ++ payload

/-- The image that is parsed from it. -/
def encryptedHeadImage (payload : List UInt8) : RkBootImage :=
  ⟨encryptedHead payload, [], [], [.ofBytes (flashHeadEntry (UInt32.ofNat payload.length))]⟩

/-- A header of four bytes. -/
theorem flash_head_readings_agree_iff_short :
    FlashHeadAgrees Rc4.keystream (encryptedHeadImage [1, 2, 3, 4]) := by
  refine (flash_head_readings_agree_iff (by decide +kernel) (by decide +kernel)).mpr ?_
  intro head finds
  have found : findLoaderEntry (encryptedHeadImage [1, 2, 3, 4]) ENTRY_FLASH_HEAD =
      .ok [1, 2, 3, 4] := by decide +kernel
  rw [found] at finds
  cases finds
  decide

/-- **A header of a sector and a byte is displayed wrongly**: its last byte is decrypted with byte 512
of the keystream, and gets encrypted with byte 0. -/
theorem flash_head_readings_differ :
    RkBootImage.new (encryptedHead (List.replicate 513 0)) =
        .ok (encryptedHeadImage (List.replicate 513 0)) ∧
      ¬FlashHeadAgrees Rc4.keystream (encryptedHeadImage (List.replicate 513 0)) ∧
      Rc4.keystream RC4_KEY 512 = 50 ∧ Rc4.keystream RC4_KEY 0 = 110 := by
  refine ⟨by decide +kernel, fun agrees => ?_, by decide +kernel, by decide +kernel⟩
  have finds : findLoaderEntry (encryptedHeadImage (List.replicate 513 0)) ENTRY_FLASH_HEAD =
      .ok (List.replicate 513 0) := by decide +kernel
  have short := agrees.length_le (by decide +kernel) (by decide +kernel) finds
  rw [List.length_replicate] at short
  exact absurd short (by decide)

end Rkusb
