/-
**What is done with the entries of a boot image** (`upgrade_loader.rs`, `info.rs`), **and when that
panics.**

* `boot_image_safe_iff`: an accepted image is iterated and used without a panic if and only if every
  payload lies in it, and its `FlashHead`, if it has one, is neither that of an image of 102 bytes
  nor one whose debug output overflows.
* `boot_image_panics`: an accepted image whose download panics after its first entry.
-/

import Rkusb.Bus
import Rkusb.DownloadBoot
import Rkusb.Idblock
import Rkusb.Rkns

namespace Rkusb

open Interaction Bytes
open RkBootImage (Yielded)

/-! ### Users of the iterator -/

inductive UpgradeLoaderError
  | missingEntry (name : List Char)
  deriving DecidableEq

def ENTRY_FLASH_HEAD : List Char := ['F', 'l', 'a', 's', 'h', 'H', 'e', 'a', 'd']

/-- A search by name, which asks the iterator for entries up to the first that matches. -/
def findByName (name : List Char) : List (Except Panic Yielded) → Except Panic (Option Yielded)
  | [] => .ok none
  | entry :: rest => do
      let entry ← entry
      if entry.name = name then pure (some entry) else findByName name rest

def findLoaderEntry (bootImg : RkBootImage) (name : List Char) :
    Except (Halt UpgradeLoaderError) (List UInt8) := do
  let found ← (findByName name (bootImg.iterEntries .entryLoader)).mapError .panic
  match found with
  | some entry => pure entry.data
  | none => .error (.error (.missingEntry name))

/-- The `FlashHead` as it is shown, if there is one. -/
def dumpFlashHeadIdblock (rc4 : List UInt8 → Nat → UInt8) (overflowChecks : Bool)
    (bootImg : RkBootImage) : Except Panic (Option (Except RkNsParseError RkNsImage.Shown)) := do
  let found ← findByName ENTRY_FLASH_HEAD (bootImg.iterEntries .entryLoader)
  match found with
  | none => pure none
  | some entry => do
      let header ← bootImg.bootHeaderPtr
      let flashHead :=
        if header.rc4Flag ≠ 0 then applyKeystream (rc4 Idblock.RC4_KEY) entry.data else entry.data
      let shown ← RkNsImage.debugNew overflowChecks flashHead
      pure (some shown)

/-! ### Searches -/

/-- A search among entries that are all yielded. -/
theorem findByName_map (name : List Char) (entries : List RkBootEntry)
    (yielded : RkBootEntry → Yielded) :
    findByName name (entries.map fun entry => .ok (yielded entry)) =
      .ok ((entries.find? fun entry => (yielded entry).name = name).map yielded) := by
  induction entries with
  | nil => rfl
  | cons entry rest ih =>
    show (if (yielded entry).name = name then _ else findByName name _) = _
    by_cases same : (yielded entry).name = name
    · rw [if_pos same, List.find?_cons, decide_eq_true same]
      rfl
    · rw [if_neg same, ih, List.find?_cons, decide_eq_false same]

namespace RkBootImage

/-- The payload of the first loader entry of the name. -/
def flashHead (image : RkBootImage) : Option (List UInt8) :=
  (image.entriesLoader.find? fun entry => entry.trimmedName = ENTRY_FLASH_HEAD).map
    fun entry => entry.payload image.data

/-- The `FlashHead` as it is taken for an RKNS image. -/
def decoded (rc4 : List UInt8 → Nat → UInt8) (image : RkBootImage) (head : List UInt8) :
    List UInt8 :=
  if (RkBootHeader.ofBytes image.data).rc4Flag ≠ 0 then applyKeystream (rc4 Idblock.RC4_KEY) head
  else head

variable {image : RkBootImage} {rc4 : List UInt8 → Nat → UInt8} {overflowChecks : Bool}

/-- A search among loader entries that are in range. -/
theorem findByName_loader (inside : ∀ entry ∈ image.entriesLoader, entry.InRange image.data)
    (name : List Char) :
    findByName name (image.iterEntries .entryLoader) =
      .ok ((image.entriesLoader.find? fun entry => entry.trimmedName = name).map fun entry =>
        ⟨entry.trimmedName, entry.payload image.data, entry.dataDelay.toNat⟩) := by
  rw [@iterEntries_of_inRange image .entryLoader inside, findByName_map]
  rfl

theorem findLoaderEntry_calm (inside : ∀ entry ∈ image.entriesLoader, entry.InRange image.data)
    (name : List Char) : Halt.Calm (findLoaderEntry image name) := by
  intro panic
  rw [findLoaderEntry, findByName_loader inside]
  generalize Option.map _ _ = found
  cases found with
  | none => exact fun fails => by cases fails
  | some entry => exact fun fails => by cases fails

/-- The `FlashHead` is shown, if the loader entries are in range, unless its image is no longer than
its header or the output overflows. -/
theorem dumpFlashHeadIdblock_calm_iff
    (inside : ∀ entry ∈ image.entriesLoader, entry.InRange image.data) :
    (∃ shown, dumpFlashHeadIdblock rc4 overflowChecks image = .ok shown) ↔
      ∀ head ∈ image.flashHead, RkBootHeader.size < image.data.length ∧
        ¬RkNsImage.Overflows overflowChecks (image.decoded rc4 head) := by
  rw [dumpFlashHeadIdblock, findByName_loader inside, flashHead]
  cases image.entriesLoader.find? fun entry => entry.trimmedName = ENTRY_FLASH_HEAD with
  | none => exact ⟨fun _ head none => absurd none (Option.not_mem_none head), fun _ => ⟨_, rfl⟩⟩
  | some entry =>
    rw [Option.map_some, Option.map_some]
    by_cases longer : RkBootHeader.size < image.data.length
    · have header : image.bootHeaderPtr = .ok (.ofBytes image.data) := if_pos longer
      show (∃ shown, (image.bootHeaderPtr >>= _) = _) ↔ _
      rw [header]
      show (∃ shown, (RkNsImage.debugNew overflowChecks
        (image.decoded rc4 (entry.payload image.data)) >>= _) = _) ↔ _
      have output := RkNsImage.debugNew_calm_iff overflowChecks
        (image.decoded rc4 (entry.payload image.data))
      cases debug : RkNsImage.debugNew overflowChecks
          (image.decoded rc4 (entry.payload image.data)) with
      | ok shown =>
        refine ⟨?_, fun _ => ⟨_, rfl⟩⟩
        rintro - head ⟨⟩
        exact ⟨longer, output.mp ⟨shown, debug⟩⟩
      | error panic =>
        refine ⟨fun ⟨_, fails⟩ => (by cases fails), fun all => ?_⟩
        obtain ⟨shown, ok⟩ := output.mpr (all _ rfl).2
        rw [debug] at ok
        cases ok
    · have header : image.bootHeaderPtr = .error .assertionFailed := if_neg longer
      show (∃ shown, (image.bootHeaderPtr >>= _) = _) ↔ _
      rw [header]
      exact ⟨fun ⟨_, fails⟩ => (by cases fails), fun all => absurd (all _ rfl).1 longer⟩

/-! ### The whole image -/

/-- An image is iterated and used safely: every table is yielded entry by entry, each with its payload
of the image, and nothing that is done with the image panics. -/
structure UsedSafely (rc4 : List UInt8 → Nat → UInt8) (overflowChecks : Bool) (image : RkBootImage) :
    Prop where
  iterEntries : ∀ type, image.iterEntries type = (image.entries type).map fun entry =>
    .ok ⟨entry.trimmedName, entry.payload image.data, entry.dataDelay.toNat⟩
  payloads : ∀ type, ∀ entry ∈ image.entries type,
    (entry.payload image.data).length = entry.dataSize.toNat
  /-- Whatever the environment makes of the transfers. -/
  downloadBoot : ∀ {σ : Type} (handler : Handler UsbRequest.Answer σ) (state : σ),
    Io.After handler (downloadBoot image) () state fun outcome _ _ => Halt.Calm outcome
  findLoaderEntry : ∀ name, Halt.Calm (findLoaderEntry image name)
  dumpFlashHeadIdblock : ∃ shown, dumpFlashHeadIdblock rc4 overflowChecks image = .ok shown

end RkBootImage

open RkBootImage

/-- **An accepted image is used safely** if and only if its payloads lie in it and its `FlashHead`, if
it has one, can be shown. -/
theorem boot_image_safe_iff (rc4 : List UInt8 → Nat → UInt8) (overflowChecks : Bool)
    {data : List UInt8} {image : RkBootImage} (accepted : RkBootImage.new data = .ok image) :
    image.UsedSafely rc4 overflowChecks ↔
      (∀ type, ∀ entry ∈ image.entries type, entry.InRange data) ∧
        ∀ head ∈ image.flashHead, RkBootHeader.size < data.length ∧
          ¬RkNsImage.Overflows overflowChecks (image.decoded rc4 head) := by
  obtain ⟨-, -, -, rfl, -⟩ := new_ok accepted
  constructor
  · intro safe
    have inside : ∀ type, ∀ entry ∈ image.entries type, entry.InRange image.data := by
      intro type entry member
      have yields := List.map_inj_left.mp (safe.iterEntries type) entry member
      by_contra outside
      rw [yield_eq, if_neg outside] at yields
      cases yields
    exact ⟨inside, (dumpFlashHeadIdblock_calm_iff (inside .entryLoader)).mp
      safe.dumpFlashHeadIdblock⟩
  · rintro ⟨inside, shown⟩
    refine ⟨fun type => iterEntries_of_inRange (inside type), fun type entry member => ?_,
      fun handler state => downloadBoot_calm fun type entry member => ?_,
      findLoaderEntry_calm (inside .entryLoader),
      (dumpFlashHeadIdblock_calm_iff (inside .entryLoader)).mpr shown⟩
    · exact length_field (inside type entry member)
    · rw [iterEntries_of_inRange (inside type)] at member
      obtain ⟨entry', -, rfl⟩ := List.mem_map.mp member
      exact ⟨_, rfl⟩

/-- A payload of four bytes, and one that is a byte longer than the image of 216 bytes. -/
def cutOff : List UInt8 := headerBytes 102 2 57 ++ entryBytes 4 ++ entryBytes 217

/-- The image that is parsed from it. -/
def cutOffImage : RkBootImage :=
  ⟨cutOff, [.ofBytes (entryBytes 4), .ofBytes (entryBytes 217)], [], []⟩

/-- An image without entries, and the one that is cut off. -/
theorem boot_image_safe_iff_cutOff :
    UsedSafely (fun _ _ => 0) true ⟨headerBytes 0 0 57, [], [], []⟩ ∧
      ¬UsedSafely (fun _ _ => 0) true cutOffImage :=
  ⟨(@boot_image_safe_iff (fun _ _ => 0) true (headerBytes 0 0 57) _ (by decide +kernel)).mpr
      ⟨fun type entry member => (by cases type <;> cases member), fun head member => (by cases member)⟩,
    fun safe => absurd (((@boot_image_safe_iff (fun _ _ => 0) true cutOff cutOffImage
      (by decide +kernel)).mp safe).1 .entry471 (.ofBytes (entryBytes 217))
        (List.mem_cons_of_mem _ List.mem_cons_self)) (by decide +kernel)⟩

/-- **An accepted image panics.** The first entry is downloaded, and the payload of the second is cut
out of the image behind its end. -/
theorem boot_image_panics :
    RkBootImage.new cutOff = .ok cutOffImage ∧
      let run := (downloadBoot cutOffImage).run (Bus.answer Script.undisturbed) ()
        (Bus.fresh fun _ => 0)
      run.1.1 = .error (.panic .sliceIndex) ∧ run.2.trace.length = 1 := by
  decide +kernel

end Rkusb
