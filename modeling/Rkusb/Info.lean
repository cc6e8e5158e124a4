/-
**Displaying a file** (`bin/rktools/subcommands/info.rs`).

The first four bytes of a file say what it is taken for: a boot image, with its `FlashHead`, a firmware
bundle or an RKNS image.

* `Info.exec_calm_iff`: which files are displayed, or refused with an error, and which make the command
  panic. A boot image panics too if a loader entry before its first `FlashHead` is cut off, and a cut
  off entry behind it is not noticed.
-/

import Rkusb.ImageAccessors
import Rkusb.RknsRules
import Rkusb.Sparse

namespace Rkusb

open Interaction Bytes
open RkBootImage (Yielded)
open RkNsImage (RKNS_TAG)

namespace Info

/-- What the calls on the file return. -/
structure InspectedFile where
  /-- `File::open`: the bytes of the file. -/
  opened : Except IoError (List UInt8)
  metadata : Except IoError Unit
  seek : Except IoError Unit
  /-- `Mmap::map`. -/
  map : Except IoError Unit

/-- What is boxed as an error. -/
inductive Error
  | io (error : IoError)
  | image (error : ImageError)
  | rkns (error : RkNsParseError)

inductive Printed
  | size (length : Nat)
  | boot (shown : RkBootImage.Shown)
  | flashHead (shown : Except RkNsParseError RkNsImage.Shown)
  | fw (shown : RkFwImage.Shown)
  | rkns (shown : RkNsImage.Shown)
  | unknownTag (tag : UInt32)

/-- The command, with what it has printed as its state. -/
abbrev Display := UsbIo (List Printed) (Halt Error)

section Exec

variable (rc4 : List UInt8 → Nat → UInt8) (overflowChecks : Bool) (format : RkFwFormat)
  (timeText : List UInt8 → String)

def println (line : Printed) : Display Unit := Io.modify (· ++ [line])

/-- A result of a call that may fail with an error. -/
def attempt {ε α : Type} (wrap : ε → Error) (result : Except ε α) : Display α :=
  .ofExcept (result.mapError (.error ∘ wrap))

/-- A result that may panic. -/
def unwrap {α : Type} (result : Except Panic α) : Display α := .ofExcept (result.mapError .panic)

def showBoot (mmap : List UInt8) : Display Unit := do
  let bootImg ← attempt .image (RkBootImage.new mmap)
  let shown ← unwrap (bootImg.fmt timeText)
  println (.boot shown)
  let flashHead ← unwrap (dumpFlashHeadIdblock rc4 overflowChecks bootImg)
  match flashHead with
  | none => pure ()
  | some shown => println (.flashHead shown)

def showFw (mmap : List UInt8) : Display Unit := do
  let fwImg ← attempt .image (RkFwImage.new format mmap)
  let shown ← unwrap (fwImg.fmt format timeText)
  println (.fw shown)

def showRkns (mmap : List UInt8) : Display Unit := do
  let rknsHeader ← attempt .rkns (RkNsImage.new mmap)
  let shown ← unwrap (rknsHeader.fmt overflowChecks)
  println (.rkns shown)

/-- The match on the tag. -/
def showTagged (tag : UInt32) (mmap : List UInt8) : Display Unit :=
  if tag = RKLDR_TAG ∨ tag = RKBOOT_TAG then showBoot rc4 overflowChecks timeText mmap
  else if tag = format.tag then showFw format timeText mmap
  else if tag = RKNS_TAG then showRkns overflowChecks mmap
  else println (.unknownTag tag)

def exec (file : InspectedFile) : Display Unit := do
  let contents ← attempt .io file.opened
  attempt .io file.metadata
  println (.size contents.length)
  attempt .io file.seek
  let (tag, _) ← attempt .io (readExact (Cursor.seek ⟨contents, 0⟩ 0) 4)
  attempt .io file.map
  showTagged rc4 overflowChecks format timeText (u32OfBytes tag) contents

/-- The calls on the file succeed, and the tag can be read. -/
structure InspectedFile.Reads (file : InspectedFile) (contents : List UInt8) : Prop where
  opened : file.opened = .ok contents
  metadata : file.metadata = .ok ()
  seek : file.seek = .ok ()
  map : file.map = .ok ()
  tag : 4 ≤ contents.length

/-- A boot image can be shown: it is longer than its header, the loader entries are in range up to its
first `FlashHead`, and this one can be shown. -/
structure BootShown (image : RkBootImage) : Prop where
  longer : RkBootHeader.size < image.data.length
  entries : ∀ before entry after, image.entriesLoader = before ++ entry :: after →
    (∀ earlier ∈ before, earlier.trimmedName ≠ ENTRY_FLASH_HEAD) → entry.InRange image.data
  flashHead : ∀ head ∈ image.flashHead, ¬RkNsImage.Overflows overflowChecks (image.decoded rc4 head)

/-- A bundle can be shown: it is longer than its header, and its boot image, if it is one, too. -/
structure FwShown (data : List UInt8) : Prop where
  longer : format.size < data.length
  boot : ∀ area, format.bootArea data = some area → ∀ boot, RkBootImage.new area = .ok boot →
    RkBootHeader.size < area.length

/-- What is accepted under the tag can be shown. -/
def TaggedShown (tag : UInt32) (data : List UInt8) : Prop :=
  if tag = RKLDR_TAG ∨ tag = RKBOOT_TAG then
    ∀ image, RkBootImage.new data = .ok image → BootShown rc4 overflowChecks image
  else if tag = format.tag then ∀ image, RkFwImage.new format data = .ok image → FwShown format data
  else if tag = RKNS_TAG then ¬RkNsImage.Overflows overflowChecks data
  else True

end Exec

/-! ### The `FlashHead` -/

section FlashHead

variable {rc4 : List UInt8 → Nat → UInt8} {overflowChecks : Bool} {image : RkBootImage}

/-- A search ends if no entry is cut off up to the first of the name. -/
theorem findByName_calm_iff (name : List Char) (entries : List RkBootEntry) :
    (∃ found, findByName name (entries.map image.yield) = .ok found) ↔
      ∀ before entry after, entries = before ++ entry :: after →
        (∀ earlier ∈ before, earlier.trimmedName ≠ name) → entry.InRange image.data := by
  induction entries with
  | nil =>
    refine ⟨fun _ before entry after split => ?_, fun _ => ⟨_, rfl⟩⟩
    cases before <;> cases split
  | cons first rest ih =>
    rw [List.map_cons, RkBootImage.yield_eq]
    by_cases inside : first.InRange image.data
    swap
    · rw [if_neg inside]
      exact ⟨fun ⟨_, fails⟩ => (by cases fails),
        fun all => absurd (all [] first rest rfl (fun _ none => by cases none)) inside⟩
    rw [if_pos inside]
    show (∃ found, (if first.trimmedName = name then _ else
      findByName name (rest.map image.yield)) = .ok found) ↔ _
    by_cases same : first.trimmedName = name
    · rw [if_pos same]
      refine ⟨fun _ before entry after split others => ?_, fun _ => ⟨_, rfl⟩⟩
      cases before with
      | nil =>
        cases split
        exact inside
      | cons head before =>
        cases split
        exact absurd same (others first List.mem_cons_self)
    · rw [if_neg same, ih]
      constructor
      · intro all before entry after split others
        cases before with
        | nil =>
          cases split
          exact inside
        | cons head before =>
          cases split
          exact all before entry after rfl fun earlier member =>
            others earlier (List.mem_cons_of_mem _ member)
      · intro all before entry after split others
        refine all (first :: before) entry after (by rw [split]; rfl) fun earlier member => ?_
        rcases List.mem_cons.mp member with rfl | member
        · exact same
        · exact others earlier member

/-- What is found is the first entry of the name. -/
theorem findByName_eq {name : List Char} {entries : List RkBootEntry} {found : Option Yielded}
    (finds : findByName name (entries.map image.yield) = .ok found) :
    found = (entries.find? fun entry => entry.trimmedName = name).map fun entry =>
      ⟨entry.trimmedName, entry.payload image.data, entry.dataDelay.toNat⟩ := by
  induction entries with
  | nil => exact (Except.ok.inj finds).symm
  | cons first rest ih =>
    rw [List.map_cons, RkBootImage.yield_eq] at finds
    by_cases inside : first.InRange image.data
    swap
    · rw [if_neg inside] at finds
      cases finds
    rw [if_pos inside] at finds
    replace finds : (if first.trimmedName = name then _ else
      findByName name (rest.map image.yield)) = .ok found := finds
    by_cases same : first.trimmedName = name
    · rw [if_pos same] at finds
      rw [List.find?_cons, decide_eq_true same]
      exact (Except.ok.inj finds).symm
    · rw [if_neg same] at finds
      rw [List.find?_cons, decide_eq_false same]
      exact ih finds

theorem dump_calm_iff (longer : RkBootHeader.size < image.data.length) :
    (∃ shown, dumpFlashHeadIdblock rc4 overflowChecks image = .ok shown) ↔
      (∃ found, findByName ENTRY_FLASH_HEAD (image.iterEntries .entryLoader) = .ok found) ∧
        ∀ head ∈ image.flashHead,
          ¬RkNsImage.Overflows overflowChecks (image.decoded rc4 head) := by
  have header : image.bootHeaderPtr = .ok (.ofBytes image.data) := if_pos longer
  unfold dumpFlashHeadIdblock
  cases finds : findByName ENTRY_FLASH_HEAD (image.iterEntries .entryLoader) with
  | error panic => exact ⟨fun ⟨_, fails⟩ => (by cases fails), fun ⟨⟨_, fails⟩, _⟩ => (by cases fails)⟩
  | ok found =>
    have first := findByName_eq finds
    unfold RkBootImage.flashHead
    rw [header]
    cases named : image.entriesLoader.find? fun entry => entry.trimmedName = ENTRY_FLASH_HEAD with
    | none =>
      obtain rfl : found = none := first.trans (congrArg (Option.map _) named)
      exact ⟨fun _ => ⟨⟨_, rfl⟩, fun head none => by cases none⟩, fun _ => ⟨_, rfl⟩⟩
    | some entry =>
      obtain rfl : found = some ⟨entry.trimmedName, entry.payload image.data,
        entry.dataDelay.toNat⟩ := first.trans (congrArg (Option.map _) named)
      have output := RkNsImage.debugNew_calm_iff overflowChecks
        (image.decoded rc4 (entry.payload image.data))
      show (∃ shown, (RkNsImage.debugNew overflowChecks
        (image.decoded rc4 (entry.payload image.data)) >>= _) = _) ↔ _
      simp only [bind_eq_ok_iff]
      constructor
      · rintro ⟨-, shown, shows, -⟩
        refine ⟨⟨_, rfl⟩, ?_⟩
        rintro head ⟨⟩
        exact output.mp ⟨shown, shows⟩
      · rintro ⟨-, fits⟩
        obtain ⟨shown, shows⟩ := output.mpr (fits _ rfl)
        exact ⟨_, shown, shows, rfl⟩

end FlashHead

/-! ### The command -/

section Calm

variable {σ : Type} {handler : Handler UsbRequest.Answer σ} {printed : List Printed} {state : σ}

/-- The command does not panic. -/
def Calm {α : Type} (handler : Handler UsbRequest.Answer σ) (display : Display α)
    (printed : List Printed) (state : σ) : Prop :=
  Io.After handler display printed state fun outcome _ _ => Halt.Calm outcome

/-- An error is no panic. -/
theorem calm_attempt_bind {ε α β : Type} {wrap : ε → Error} {result : Except ε α}
    {next : α → Display β} :
    Calm handler (attempt wrap result >>= next) printed state ↔
      ∀ value, result = .ok value → Calm handler (next value) printed state := by
  refine Io.after_ofExcept_bind.trans ?_
  cases result with
  | error error => exact ⟨fun _ _ fails => (by cases fails), fun _ panic fails => by cases fails⟩
  | ok value => exact ⟨fun calm _ same => (by cases same; exact calm), fun all => all value rfl⟩

theorem calm_unwrap_bind {α β : Type} {result : Except Panic α} {next : α → Display β} :
    Calm handler (unwrap result >>= next) printed state ↔
      ∃ value, result = .ok value ∧ Calm handler (next value) printed state := by
  refine Io.after_ofExcept_bind.trans ?_
  cases result with
  | error panic => exact ⟨fun calm => absurd rfl (calm panic), fun ⟨_, fails, _⟩ => by cases fails⟩
  | ok value => exact ⟨fun calm => ⟨value, rfl, calm⟩, fun ⟨_, same, calm⟩ => by cases same; exact calm⟩

theorem calm_println_bind {β : Type} {line : Printed} {next : Unit → Display β} :
    Calm handler (println line >>= next) printed state ↔
      Calm handler (next ()) (printed ++ [line]) state :=
  Io.after_modify_bind

theorem calm_println (line : Printed) : Calm handler (println line) printed state :=
  fun _ fails => by cases fails

variable {rc4 : List UInt8 → Nat → UInt8} {overflowChecks : Bool} {format : RkFwFormat}
  {timeText : List UInt8 → String} {mmap : List UInt8}

theorem showBoot_calm_iff :
    Calm handler (showBoot rc4 overflowChecks timeText mmap) printed state ↔
      ∀ image, RkBootImage.new mmap = .ok image → BootShown rc4 overflowChecks image := by
  refine calm_attempt_bind.trans (forall₂_congr fun image accepted => ?_)
  rw [calm_unwrap_bind]
  have finds := @findByName_calm_iff image ENTRY_FLASH_HEAD image.entriesLoader
  constructor
  · rintro ⟨shown, shows, calm⟩
    have longer := (RkBootImage.fmt_ok_iff image).mp ⟨shown, shows⟩
    obtain ⟨head, dumps, -⟩ := calm_unwrap_bind.mp (calm_println_bind.mp calm)
    obtain ⟨found, fits⟩ := (dump_calm_iff longer).mp ⟨head, dumps⟩
    exact ⟨longer, finds.mp found, fits⟩
  · rintro ⟨longer, entries, fits⟩
    obtain ⟨shown, shows⟩ := (@RkBootImage.fmt_ok_iff timeText image).mpr longer
    obtain ⟨head, dumps⟩ := (dump_calm_iff longer).mpr ⟨finds.mpr entries, fits⟩
    refine ⟨shown, shows, calm_println_bind.mpr (calm_unwrap_bind.mpr ⟨head, dumps, ?_⟩)⟩
    cases head with
    | none => exact fun _ fails => by cases fails
    | some head => exact calm_println _

theorem showFw_calm_iff :
    Calm handler (showFw format timeText mmap) printed state ↔
      ∀ image, RkFwImage.new format mmap = .ok image → FwShown format mmap := by
  refine calm_attempt_bind.trans (forall₂_congr fun image accepted => ?_)
  rw [calm_unwrap_bind]
  obtain ⟨same, -⟩ := RkFwImage.length_of_new accepted
  have shows := @RkFwImage.fmt_ok_iff format timeText image
  rw [same] at shows
  constructor
  · rintro ⟨shown, ok, -⟩
    obtain ⟨longer, boot⟩ := shows.mp ⟨shown, ok⟩
    refine ⟨longer, fun area inside image accepted => ?_⟩
    exact lt_of_le_of_ne (RkBootImage.length_of_new accepted).2
      (boot area inside image accepted).symm
  · rintro ⟨longer, boot⟩
    obtain ⟨shown, ok⟩ := shows.mpr ⟨longer, fun area inside image accepted =>
      (boot area inside image accepted).ne'⟩
    exact ⟨shown, ok, calm_println _⟩

theorem showRkns_calm_iff :
    Calm handler (showRkns overflowChecks mmap) printed state ↔
      ¬RkNsImage.Overflows overflowChecks mmap := by
  rw [← RkNsImage.debugNew_calm_iff]
  refine calm_attempt_bind.trans ?_
  unfold RkNsImage.debugNew
  cases RkNsImage.new mmap with
  | error error => exact ⟨fun _ => ⟨_, rfl⟩, fun _ _ fails => by cases fails⟩
  | ok image =>
    constructor
    · intro calm
      obtain ⟨shown, shows, -⟩ := calm_unwrap_bind.mp (calm image rfl)
      exact ⟨.ok shown, congrArg (Except.map Except.ok) shows⟩
    · rintro ⟨shown, shows⟩ other ⟨⟩
      refine calm_unwrap_bind.mpr ?_
      replace shows : (image.fmt overflowChecks).map Except.ok = .ok shown := shows
      cases fmt : image.fmt overflowChecks with
      | error panic =>
        rw [fmt] at shows
        cases shows
      | ok shown => exact ⟨shown, rfl, calm_println _⟩

theorem showTagged_calm_iff (tag : UInt32) :
    Calm handler (showTagged rc4 overflowChecks format timeText tag mmap) printed state ↔
      TaggedShown rc4 overflowChecks format tag mmap := by
  unfold showTagged TaggedShown
  by_cases boot : tag = RKLDR_TAG ∨ tag = RKBOOT_TAG
  · rw [if_pos boot, if_pos boot]
    exact showBoot_calm_iff
  rw [if_neg boot, if_neg boot]
  by_cases fw : tag = format.tag
  · rw [if_pos fw, if_pos fw]
    exact showFw_calm_iff
  rw [if_neg fw, if_neg fw]
  by_cases rkns : tag = RKNS_TAG
  · rw [if_pos rkns, if_pos rkns]
    exact showRkns_calm_iff
  rw [if_neg rkns, if_neg rkns]
  exact ⟨fun _ => trivial, fun _ => calm_println _⟩

/-- **Which files make the command panic**: those that are read, and accepted as what their first
bytes say, and cannot be shown. -/
theorem exec_calm_iff (handler : Handler UsbRequest.Answer σ) (state : σ)
    (rc4 : List UInt8 → Nat → UInt8) (overflowChecks : Bool) (format : RkFwFormat)
    (timeText : List UInt8 → String) (file : InspectedFile) :
    Io.After handler (exec rc4 overflowChecks format timeText file) [] state
        (fun outcome _ _ => Halt.Calm outcome) ↔
      ∀ contents, file.Reads contents →
        TaggedShown rc4 overflowChecks format (u32At contents 0) contents := by
  have tagged (contents : List UInt8) (enough : 4 ≤ contents.length) :
      readExact (Cursor.seek ⟨contents, 0⟩ 0) 4 = .ok (field contents 0 4, Cursor.mk contents 4) := by
    have length : ((contents.drop 0).take 4).length = 4 := by
      rw [List.drop_zero, List.length_take, Nat.min_eq_left enough]
    show (if ((contents.drop 0).take 4).length = 4 then
      Except.ok (_, Cursor.mk contents (0 + ((contents.drop 0).take 4).length)) else _) = _
    rw [if_pos length, length]
    rfl
  show Calm handler (exec rc4 overflowChecks format timeText file) [] state ↔ _
  unfold exec
  simp only [calm_attempt_bind, calm_println_bind, showTagged_calm_iff]
  constructor
  · rintro calm contents ⟨opened, metadata, seek, map, enough⟩
    exact calm contents opened () metadata () seek _ (tagged contents enough) () map
  · intro shown contents opened _ metadata _ seek read reads _ map
    have enough : 4 ≤ contents.length := by
      obtain ⟨bytes, length, -⟩ := Cursor.readExact_ok reads
      rw [bytes] at length
      exact length ▸ List.length_take_le' 4 contents
    rw [tagged contents enough] at reads
    cases reads
    exact shown contents ⟨opened, metadata, seek, map, enough⟩

end Calm

end Info

end Rkusb
