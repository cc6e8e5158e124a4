/-
**The grammar of boot images.**

`parse_entries` refuses strides below the size of an entry only, but then takes every stride for one
entry, whose size must be exact.

* `Grammar`: the images that the format allows, and `Table.decoded`: the entries of their tables.
* `boot_image_grammar_iff`: the parser is right about a byte string if and only if it is not an image
  of the grammar with a table of entries further apart than they are long.
* `boot_image_wide_stride`: an image that is refused.
-/

import Rkusb.Image

namespace Rkusb

open Interaction Bytes

/-! ### The format -/

/-- A table of entries, as the header states it. -/
structure Table where
  offset : UInt32
  count : UInt8
  stride : UInt8

def RkBootHeader.table (header : RkBootHeader) : RkBootEntryType → Table
  | .entry471 => ⟨header.entry741Offset, header.entry741Count, header.entry741Size⟩
  | .entry472 => ⟨header.entry742Offset, header.entry742Count, header.entry742Size⟩
  | .entryLoader => ⟨header.loaderEntryOffset, header.loaderEntryCount, header.loaderEntrySize⟩

namespace Table

/-- The entries have room in their strides, and the table in the data. -/
def Fits (table : Table) (data : List UInt8) : Prop :=
  RkBootEntry.sizeOf ≤ table.stride.toNat ∧
    table.offset.toNat + table.stride.toNat * table.count.toNat ≤ data.length

instance (table : Table) (data : List UInt8) : Decidable (table.Fits data) :=
  inferInstanceAs (Decidable (_ ∧ _))

/-- The entries: one at the beginning of each stride. -/
def decoded (table : Table) (data : List UInt8) : List RkBootEntry :=
  (List.range table.count.toNat).map fun index =>
    .ofBytes (field data (table.offset.toNat + index * table.stride.toNat) RkBootEntry.sizeOf)

/-- The entries fill their strides. -/
def Dense (table : Table) : Prop :=
  table.stride.toNat = RkBootEntry.sizeOf ∨ table.count = 0

end Table

/-- A boot image: the header, the tag, and three tables that fit. -/
structure Grammar (data : List UInt8) : Prop where
  header : RkBootHeader.size ≤ data.length
  tag : (RkBootHeader.ofBytes data).tag = RKBOOT_TAG ∨ (RkBootHeader.ofBytes data).tag = RKLDR_TAG
  table : ∀ type, ((RkBootHeader.ofBytes data).table type).Fits data

/-- The parser accepts the grammar, and decodes what it accepts. -/
structure ParsesGrammar (data : List UInt8) : Prop where
  accepts : (∃ image, RkBootImage.new data = .ok image) ↔ Grammar data
  decodes : ∀ image, RkBootImage.new data = .ok image →
    ∀ type, image.entries type = ((RkBootHeader.ofBytes data).table type).decoded data

/-! ### One table -/

theorem refFromBytes_eq_ok_iff {bytes : List UInt8} {entry : RkBootEntry} :
    RkBootEntry.refFromBytes bytes = .ok entry ↔
      bytes.length = RkBootEntry.sizeOf ∧ entry = .ofBytes bytes := by
  unfold RkBootEntry.refFromBytes
  by_cases exact_ : bytes.length = RkBootEntry.sizeOf
  · rw [if_pos exact_]
    refine ⟨fun ok => ⟨exact_, ?_⟩, fun both => congrArg Except.ok both.2.symm⟩
    cases ok
    rfl
  · rw [if_neg exact_]
    exact ⟨fun fails => (by cases fails), fun both => absurd both.1 exact_⟩

/-- All the chunks are decoded, or the table is refused. -/
theorem mapM_refFromBytes_eq_ok_iff {chunks : List (List UInt8)} {entries : List RkBootEntry} :
    chunks.mapM RkBootEntry.refFromBytes = .ok entries ↔
      (∀ chunk ∈ chunks, chunk.length = RkBootEntry.sizeOf) ∧
        entries = chunks.map RkBootEntry.ofBytes := by
  induction chunks generalizing entries with
  | nil =>
    refine ⟨fun ok => ⟨fun chunk member => (by cases member), ?_⟩, fun both => ?_⟩
    · cases ok
      rfl
    · rw [both.2]
      rfl
  | cons chunk rest ih =>
    rw [List.mapM_cons, List.forall_mem_cons]
    constructor
    · intro ok
      obtain ⟨entry, first, ok⟩ := bind_eq_ok_iff.mp ok
      obtain ⟨later, others, ok⟩ := bind_eq_ok_iff.mp ok
      obtain ⟨whole, rfl⟩ := refFromBytes_eq_ok_iff.mp first
      obtain ⟨wholes, rfl⟩ := ih.mp others
      cases ok
      exact ⟨⟨whole, wholes⟩, rfl⟩
    · rintro ⟨⟨whole, wholes⟩, rfl⟩
      refine bind_eq_ok_iff.mpr ⟨_, refFromBytes_eq_ok_iff.mpr ⟨whole, rfl⟩, ?_⟩
      exact bind_eq_ok_iff.mpr ⟨_, ih.mpr ⟨wholes, rfl⟩, rfl⟩

/-- The chunks of a table: its strides. -/
theorem chunksExact_table {table : Table} {data : List UInt8} (fits : table.Fits data) :
    chunksExact table.stride.toNat
        (field data table.offset.toNat (table.stride.toNat * table.count.toNat)) =
      (List.range table.count.toNat).map fun index =>
        field data (table.offset.toNat + index * table.stride.toNat) table.stride.toNat := by
  have positive : 0 < table.stride.toNat := Nat.lt_of_lt_of_le (by decide) fits.1
  rw [chunksExact, length_field fits.2, Nat.mul_div_cancel_left _ positive]
  refine List.map_congr_left fun index member => ?_
  rw [field_field, Nat.mul_comm]
  rw [← Nat.mul_succ]
  exact Nat.mul_le_mul_left _ (List.mem_range.mp member)

/-- The strides, as long as they should be. -/
theorem chunks_exact_iff {table : Table} {data : List UInt8} (fits : table.Fits data) :
    (∀ chunk ∈ (List.range table.count.toNat).map fun index =>
        field data (table.offset.toNat + index * table.stride.toNat) table.stride.toNat,
      chunk.length = RkBootEntry.sizeOf) ↔ table.Dense := by
  have width {index : Nat} (inside : index < table.count.toNat) :
      (field data (table.offset.toNat + index * table.stride.toNat) table.stride.toNat).length =
        table.stride.toNat := by
    have behind := Nat.mul_le_mul_right table.stride.toNat (Nat.succ_le_of_lt inside)
    rw [Nat.succ_mul, Nat.mul_comm table.count.toNat] at behind
    have room := fits.2
    exact length_field (by omega)
  constructor
  · intro whole
    by_cases none : table.count = 0
    · exact Or.inr none
    · have some_ : 0 < table.count.toNat := Nat.pos_of_ne_zero fun zero =>
        none (UInt8.toNat.inj zero)
      refine Or.inl ?_
      rw [← width some_]
      exact whole _ (List.mem_map_of_mem (List.mem_range.mpr some_))
  · rintro dense chunk member
    obtain ⟨index, inside, rfl⟩ := List.mem_map.mp member
    have inside := List.mem_range.mp inside
    rw [width inside]
    rcases dense with same | none
    · exact same
    · rw [none] at inside
      exact absurd inside (Nat.not_lt_zero _)

/-- The strides of a table that is dense are its entries. -/
theorem map_ofBytes_chunks {table : Table} {data : List UInt8} (dense : table.Dense) :
    ((List.range table.count.toNat).map fun index =>
        field data (table.offset.toNat + index * table.stride.toNat) table.stride.toNat).map
      RkBootEntry.ofBytes = table.decoded data := by
  rw [List.map_map, Table.decoded]
  rcases dense with same | none
  · rw [← same]
    rfl
  · rw [none]
    rfl

/-- **A table is parsed** if it fits and its entries fill their strides. -/
theorem parseEntries_eq_ok_iff (table : Table) (data : List UInt8) (entries : List RkBootEntry) :
    parseEntries data table.offset table.count table.stride = .ok entries ↔
      table.Fits data ∧ table.Dense ∧ entries = table.decoded data := by
  unfold parseEntries
  by_cases narrow : table.stride.toNat < RkBootEntry.sizeOf
  · rw [if_pos narrow]
    exact ⟨fun fails => (by cases fails), fun all => absurd all.1.1 (Nat.not_le_of_gt narrow)⟩
  rw [if_neg narrow]
  dsimp only
  by_cases room : table.offset.toNat + table.stride.toNat * table.count.toNat ≤ data.length
  swap
  · rw [getRange, if_neg fun both => room (by rw [Nat.add_comm]; exact both.2)]
    exact ⟨fun fails => (by cases fails), fun all => absurd all.1.2 room⟩
  have fits : table.Fits data := ⟨Nat.le_of_not_lt narrow, room⟩
  rw [getRange, if_pos ⟨Nat.le_add_left _ _, by rwa [Nat.add_comm]⟩, Nat.add_sub_cancel]
  change (chunksExact table.stride.toNat (field data _ _)).mapM _ = _ ↔ _
  rw [chunksExact_table fits, mapM_refFromBytes_eq_ok_iff, chunks_exact_iff fits]
  constructor
  · rintro ⟨dense, rfl⟩
    exact ⟨fits, dense, map_ofBytes_chunks dense⟩
  · rintro ⟨-, dense, rfl⟩
    exact ⟨dense, (map_ofBytes_chunks dense).symm⟩

/-! ### The image -/

/-- The header is read from the first bytes. -/
theorem ofBytes_take (data : List UInt8) :
    RkBootHeader.ofBytes (data.take RkBootHeader.size) = RkBootHeader.ofBytes data := by
  have u8 {offset : Nat} (inside : offset < RkBootHeader.size) :
      u8At (data.take RkBootHeader.size) offset = u8At data offset := by
    rw [u8At, u8At, List.getD_eq_getElem?_getD, List.getD_eq_getElem?_getD,
      List.getElem?_take_of_lt inside]
  have u32 {offset : Nat} (inside : offset + 4 ≤ RkBootHeader.size) :
      u32At (data.take RkBootHeader.size) offset = u32At data offset := by
    rw [u32At, u32At, field_take inside]
  unfold RkBootHeader.ofBytes
  rw [u32 (by decide), u8 (by decide), u32 (by decide), u8 (by decide), u8 (by decide),
    u32 (by decide), u8 (by decide), u8 (by decide), u32 (by decide), u8 (by decide),
    u8 (by decide)]

theorem getRange_header_eq_some_iff {data : List UInt8} {header : RkBootHeader} :
    (getRange data 0 RkBootHeader.size).map RkBootHeader.ofBytes = some header ↔
      RkBootHeader.size ≤ data.length ∧ header = .ofBytes data := by
  unfold getRange
  by_cases long : RkBootHeader.size ≤ data.length
  · rw [if_pos ⟨Nat.zero_le _, long⟩, List.drop_zero, Nat.sub_zero, Option.map_some, ofBytes_take]
    exact ⟨fun same => ⟨long, (Option.some.inj same).symm⟩, fun both => congrArg some both.2.symm⟩
  · rw [if_neg fun both => long both.2]
    exact ⟨fun none => (by cases none), fun both => absurd both.1 long⟩

/-- **An image is accepted** if it is one of the grammar and its tables are dense. Its entries are
those of the tables. -/
theorem new_eq_ok_iff (data : List UInt8) (image : RkBootImage) :
    RkBootImage.new data = .ok image ↔
      Grammar data ∧ (∀ type, ((RkBootHeader.ofBytes data).table type).Dense) ∧
        image.data = data ∧
        ∀ type, image.entries type = ((RkBootHeader.ofBytes data).table type).decoded data := by
  have parsed (type : RkBootEntryType) :=
    parseEntries_eq_ok_iff ((RkBootHeader.ofBytes data).table type) data
  constructor
  · intro accepted
    obtain ⟨header, found, tag, same, first, second, third⟩ := RkBootImage.new_ok accepted
    obtain ⟨long, rfl⟩ := getRange_header_eq_some_iff.mp found
    obtain ⟨fits471, dense471, entries471⟩ := (parsed .entry471 _).mp first
    obtain ⟨fits472, dense472, entries472⟩ := (parsed .entry472 _).mp second
    obtain ⟨fitsLoader, denseLoader, entriesLoader⟩ := (parsed .entryLoader _).mp third
    refine ⟨⟨long, tag, fun type => ?_⟩, fun type => ?_, same, fun type => ?_⟩
    · cases type with
      | entry471 => exact fits471
      | entry472 => exact fits472
      | entryLoader => exact fitsLoader
    · cases type with
      | entry471 => exact dense471
      | entry472 => exact dense472
      | entryLoader => exact denseLoader
    · cases type with
      | entry471 => exact entries471
      | entry472 => exact entries472
      | entryLoader => exact entriesLoader
  · rintro ⟨format, dense, rfl, entries⟩
    have table (type : RkBootEntryType) :=
      (parsed type (image.entries type)).mpr ⟨format.table type, dense type, entries type⟩
    refine RkBootImage.new_of_parts ?_ format.tag (table .entry471) (table .entry472)
      (table .entryLoader)
    exact getRange_header_eq_some_iff.mpr ⟨format.header, rfl⟩

/-- **The parser follows the grammar** except for tables with gaps between their entries. -/
theorem boot_image_grammar_iff (data : List UInt8) :
    ParsesGrammar data ↔
      (Grammar data → ∀ type, ((RkBootHeader.ofBytes data).table type).Dense) := by
  constructor
  · intro parses format
    obtain ⟨image, accepted⟩ := parses.accepts.mpr format
    exact ((new_eq_ok_iff data image).mp accepted).2.1
  · intro dense
    refine ⟨⟨?_, fun format => ?_⟩, fun image accepted => ((new_eq_ok_iff data image).mp accepted).2.2.2⟩
    · rintro ⟨image, accepted⟩
      exact ((new_eq_ok_iff data image).mp accepted).1
    · let table := (RkBootHeader.ofBytes data).table
      refine ⟨⟨data, (table .entry471).decoded data, (table .entry472).decoded data,
        (table .entryLoader).decoded data⟩, (new_eq_ok_iff data _).mpr
          ⟨format, dense format, rfl, fun type => ?_⟩⟩
      cases type <;> rfl

/-- A table with a stride of 58 bytes, and its one entry. -/
def wideStride : List UInt8 := headerBytes 102 1 58 ++ entryBytes 4 ++ [0]

/-- **A table with a gap** behind its entry is refused. -/
theorem boot_image_wide_stride :
    Grammar wideStride ∧ RkBootImage.new wideStride = .error .tooShort ∧
      ¬ParsesGrammar wideStride := by
  have format : Grammar wideStride :=
    ⟨by decide +kernel, by decide +kernel, fun type => by cases type <;> decide +kernel⟩
  have refused : RkBootImage.new wideStride = .error .tooShort := by decide +kernel
  refine ⟨format, refused, fun parses => ?_⟩
  obtain ⟨image, accepted⟩ := parses.accepts.mpr format
  rw [refused] at accepted
  cases accepted

end Rkusb
