/-
**The fill stream** (`sparse::Repeat` and `filling_chunk` in `bin/rktools/subcommands/upgrade.rs`).

A fill chunk is a pattern repeated over a length. `Repeat` keeps no phase: it gives whole patterns
only, as many as fit into the buffer. Where none fits it gives nothing, which is the end of the stream
to everyone who reads from it.

* `output_fillingChunk`: whatever the buffers are, the stream has given whole patterns so far.
* `filling_chunk_exact_iff`: it ends after the length, and not before, if and only if the length is one
  of whole patterns and every buffer before the end has room for one.
-/

import Rkusb.Lib.Reader
import Rkusb.Sparse

namespace Rkusb

open Interaction Bytes Reader

variable {pattern : List UInt8} {len : Nat} {sizes : Nat → Nat}

/-- `filling_chunk`. -/
def fillingChunk (data : List UInt8) (len : Nat) : Take (List UInt8) := ⟨data, len⟩

/-- Reading a fill chunk to its end gives as many bytes as its length says, the pattern over and over;
and a read comes to that end. -/
structure FillsExactly (pattern : List UInt8) (len : Nat) (sizes : Nat → Nat) : Prop where
  ends : ∃ round, piece (Take.read repeatRead) sizes (fillingChunk pattern len) round = []
  length : ∀ round, piece (Take.read repeatRead) sizes (fillingChunk pattern len) round = [] →
    (output (Take.read repeatRead) sizes (fillingChunk pattern len) round).length = len
  content : ∀ round, piece (Take.read repeatRead) sizes (fillingChunk pattern len) round = [] →
    ∀ index < len, (output (Take.read repeatRead) sizes (fillingChunk pattern len) round)[index]? =
      pattern[index % pattern.length]?

/-! ### Whole patterns -/

/-- The patterns that the stream has given before a round: a read gives those that fit into the buffer
and into what is left of the length. -/
def copies (patternLen len : Nat) (sizes : Nat → Nat) : Nat → Nat
  | 0 => 0
  | round + 1 =>
      copies patternLen len sizes round +
        min (len - copies patternLen len sizes round * patternLen) (sizes round) / patternLen

/-- The patterns that the buffers before a round have room for. -/
def room (patternLen : Nat) (sizes : Nat → Nat) : Nat → Nat
  | 0 => 0
  | round + 1 => room patternLen sizes round + sizes round / patternLen

section Rounds

variable (pattern len sizes) (round : Nat)

theorem state_fillingChunk :
    state (Take.read repeatRead) sizes (fillingChunk pattern len) round =
      ⟨pattern, len - copies pattern.length len sizes round * pattern.length⟩ := by
  induction round with
  | zero =>
    show Take.mk pattern len = _
    rw [copies, Nat.zero_mul, Nat.sub_zero]
  | succ round ih =>
    have length := length_flatten_replicate
      (min (len - copies pattern.length len sizes round * pattern.length) (sizes round) /
        pattern.length) pattern
    show (Take.read repeatRead (state (Take.read repeatRead) sizes (fillingChunk pattern len) round)
      (sizes round)).2 = _
    rw [ih, copies, Nat.add_mul, ← Nat.sub_sub, ← length]
    rfl

theorem piece_fillingChunk :
    piece (Take.read repeatRead) sizes (fillingChunk pattern len) round =
      (List.replicate (min (len - copies pattern.length len sizes round * pattern.length)
        (sizes round) / pattern.length) pattern).flatten := by
  unfold piece
  rw [state_fillingChunk]
  rfl

/-- **The stream gives whole patterns**, so that it needs no phase. -/
theorem output_fillingChunk :
    output (Take.read repeatRead) sizes (fillingChunk pattern len) round =
      (List.replicate (copies pattern.length len sizes round) pattern).flatten := by
  induction round with
  | zero => rfl
  | succ round ih =>
    rw [output_succ, ih, piece_fillingChunk, ← List.flatten_append, List.replicate_append_replicate,
      copies]

theorem length_output_fillingChunk :
    (output (Take.read repeatRead) sizes (fillingChunk pattern len) round).length =
      copies pattern.length len sizes round * pattern.length := by
  rw [output_fillingChunk, length_flatten_replicate]

end Rounds

theorem copies_mul_le (patternLen len : Nat) (sizes : Nat → Nat) (round : Nat) :
    copies patternLen len sizes round * patternLen ≤ len := by
  induction round with
  | zero =>
    rw [copies, Nat.zero_mul]
    exact Nat.zero_le _
  | succ round ih =>
    have fits := Nat.div_mul_le_self
      (min (len - copies patternLen len sizes round * patternLen) (sizes round)) patternLen
    rw [copies, Nat.add_mul]
    omega

theorem copies_le_room (patternLen len : Nat) (sizes : Nat → Nat) (round : Nat) :
    copies patternLen len sizes round ≤ room patternLen sizes round := by
  induction round with
  | zero => exact Nat.le_refl _
  | succ round ih =>
    exact Nat.add_le_add ih (Nat.div_le_div_right (Nat.min_le_right _ _))

/-- A length of whole patterns is filled as fast as the buffers allow. -/
theorem copies_of_whole {patternLen : Nat} (positive : 0 < patternLen) (total : Nat)
    (sizes : Nat → Nat) (round : Nat) :
    copies patternLen (total * patternLen) sizes round = min total (room patternLen sizes round) := by
  induction round with
  | zero => exact (Nat.min_zero _).symm
  | succ round ih =>
    have fits (left size : Nat) :
        min (left * patternLen) size / patternLen = min left (size / patternLen) := by
      rcases Nat.le_total (left * patternLen) size with all | some
      · rw [Nat.min_eq_left all, Nat.mul_div_cancel _ positive,
          Nat.min_eq_left ((Nat.le_div_iff_mul_le positive).mpr all)]
      · have less := Nat.div_le_div_right (c := patternLen) some
        rw [Nat.mul_div_cancel _ positive] at less
        rw [Nat.min_eq_right some, Nat.min_eq_right less]
    rw [copies, room, ih, ← Nat.sub_mul, fits]
    generalize sizes round / patternLen = more
    omega

/-- A read gives nothing where no pattern fits. -/
theorem piece_eq_nil_iff (some : pattern ≠ []) (round : Nat) :
    piece (Take.read repeatRead) sizes (fillingChunk pattern len) round = [] ↔
      min (len - copies pattern.length len sizes round * pattern.length) (sizes round) <
        pattern.length := by
  have positive := List.length_pos_iff.mpr some
  rw [piece_fillingChunk, ← List.length_eq_zero_iff, length_flatten_replicate, Nat.mul_eq_zero,
    or_iff_left positive.ne', Nat.div_eq_zero_iff, or_iff_right positive.ne']

/-! ### Exact streams -/

/-- The length is one of whole patterns, and as long as the buffers before it have no room for all of
them, every buffer has room for one. -/
def PatternsFit (patternLen len : Nat) (sizes : Nat → Nat) : Prop :=
  patternLen ∣ len ∧ ∀ round, room patternLen sizes round * patternLen < len →
    patternLen ≤ sizes round

/-- The stream comes to an end, whatever the buffers are. -/
theorem fillingChunk_ends (pattern : List UInt8) (len : Nat) (sizes : Nat → Nat) :
    ∃ round, piece (Take.read repeatRead) sizes (fillingChunk pattern len) round = [] := by
  refine @exists_end _ _ _ _ _ len fun round => ?_
  rw [length_output_fillingChunk]
  exact copies_mul_le _ _ _ _

theorem PatternsFit.fillsExactly (some : pattern ≠ [])
    (fit : PatternsFit pattern.length len sizes) : FillsExactly pattern len sizes := by
  have positive := List.length_pos_iff.mpr some
  obtain ⟨⟨total, whole⟩, buffers⟩ := fit
  rw [Nat.mul_comm] at whole
  subst whole
  -- a read that gives nothing before the last pattern would have had too small a buffer
  have all (round : Nat) (empty : piece (Take.read repeatRead) sizes
      (fillingChunk pattern (total * pattern.length)) round = []) :
      copies pattern.length (total * pattern.length) sizes round = total := by
    rw [piece_eq_nil_iff some] at empty
    rw [copies_of_whole positive] at empty ⊢
    refine Nat.min_eq_left (Nat.le_of_not_lt fun short => ?_)
    have large := buffers round (Nat.mul_lt_mul_of_pos_right short positive)
    rw [Nat.min_eq_right short.le, ← Nat.sub_mul] at empty
    have left : pattern.length ≤ (total - room pattern.length sizes round) * pattern.length :=
      Nat.le_mul_of_pos_left _ (Nat.sub_pos_of_lt short)
    omega
  refine ⟨fillingChunk_ends _ _ _, fun round empty => ?_, fun round empty index inside => ?_⟩
  · rw [length_output_fillingChunk, all round empty]
  · rw [output_fillingChunk, all round empty]
    exact getElem?_flatten_replicate inside

theorem FillsExactly.patternsFit (some : pattern ≠ []) (fills : FillsExactly pattern len sizes) :
    PatternsFit pattern.length len sizes := by
  have full (round : Nat)
      (empty : piece (Take.read repeatRead) sizes (fillingChunk pattern len) round = []) :
      copies pattern.length len sizes round * pattern.length = len := by
    rw [← length_output_fillingChunk]
    exact fills.length round empty
  refine ⟨?_, fun round short => ?_⟩
  · obtain ⟨round, empty⟩ := fills.ends
    exact Dvd.intro_left _ (full round empty)
  · by_contra small
    have empty := (@piece_eq_nil_iff _ len sizes some round).mpr
      ((Nat.min_le_right _ _).trans_lt (Nat.lt_of_not_le small))
    have less := Nat.mul_le_mul_right pattern.length (copies_le_room pattern.length len sizes round)
    rw [full round empty] at less
    omega

/-- **A fill chunk is filled exactly** if and only if whole patterns make up its length and fit into
the buffers. -/
theorem filling_chunk_exact_iff (some : pattern ≠ []) (len : Nat) (sizes : Nat → Nat) :
    FillsExactly pattern len sizes ↔ PatternsFit pattern.length len sizes :=
  ⟨FillsExactly.patternsFit some, PatternsFit.fillsExactly some⟩

/-- Six bytes of a pattern of two, in buffers of three. -/
theorem filling_chunk_exact_iff_pairs : FillsExactly [1, 2] 6 fun _ => 3 :=
  (filling_chunk_exact_iff (List.cons_ne_nil _ _) 6 _).mpr
    ⟨⟨3, rfl⟩, fun _ _ => Nat.le_succ 2⟩

/-- **The stream ends early**: after four bytes of six, although the buffers are large, and before the
first byte when they are smaller than the pattern. -/
theorem filling_chunk_stops_early :
    (¬FillsExactly [1, 2, 3, 4] 6 (fun _ => 8192) ∧
      output (Take.read repeatRead) (fun _ => 8192) (fillingChunk [1, 2, 3, 4] 6) 1 = [1, 2, 3, 4] ∧
      piece (Take.read repeatRead) (fun _ => 8192) (fillingChunk [1, 2, 3, 4] 6) 1 = []) ∧
    (¬FillsExactly [1, 2, 3, 4] 8 (fun _ => 3) ∧
      piece (Take.read repeatRead) (fun _ => 3) (fillingChunk [1, 2, 3, 4] 8) 0 = []) := by
  have large : piece (Take.read repeatRead) (fun _ => 8192) (fillingChunk [1, 2, 3, 4] 6) 1 = [] := by
    decide
  have small : piece (Take.read repeatRead) (fun _ => 3) (fillingChunk [1, 2, 3, 4] 8) 0 = [] := by
    decide
  refine ⟨⟨fun fills => ?_, by decide, large⟩, fun fills => ?_, small⟩
  · exact absurd (fills.length 1 large) (by decide)
  · exact absurd (fills.length 0 small) (by decide)

/-! ### The fill chunks of an image -/

/-- The copy of a fill chunk reads from the fill stream. -/
theorem writeSparseChunk_fill {header : ChunkHeader} (fill : header.chunkType = CHUNK_TYPE_FILL)
    (dataSize : Nat) (img : Cursor) :
    writeSparseChunk header dataSize img = (do
      let (buf, _) ← .ofExcept ((readExact img 4).mapError .io)
      Io.mapErr .io (copy (Take.read repeatRead) (dataSize + 1) (fillingChunk buf dataSize))) := by
  unfold writeSparseChunk fillingChunk
  rw [if_neg (by rw [fill]; decide), if_pos fill]

/-- In the buffers of a copy, the four bytes of a fill chunk are repeated exactly if and only if they
go into its size. Nothing in the file header makes them. -/
theorem fillsExactly_copy_iff (four : pattern.length = 4) (dataSize : Nat) :
    FillsExactly pattern dataSize (fun _ => DEFAULT_BUF_SIZE) ↔ dataSize % 4 = 0 := by
  have some : pattern ≠ [] := List.length_pos_iff.mp (by omega)
  rw [← Nat.dvd_iff_mod_eq_zero]
  constructor
  · intro fills
    exact four ▸ (fills.patternsFit some).1
  · intro whole
    refine PatternsFit.fillsExactly some ⟨four.symm ▸ whole, fun round _ => ?_⟩
    rw [four]
    show 4 ≤ DEFAULT_BUF_SIZE
    decide

/-- A copy delivers all of a fill chunk if and only if its stream is exact. -/
theorem length_delivered_fillingChunk_iff (four : pattern.length = 4) (dataSize : Nat) :
    (delivered (Take.read repeatRead) (dataSize + 1) (fillingChunk pattern dataSize)).length =
      dataSize ↔ FillsExactly pattern dataSize fun _ => DEFAULT_BUF_SIZE := by
  rw [fillsExactly_copy_iff four, fillingChunk, delivered_repeat four (Nat.lt_succ_self _),
    length_flatten_replicate, four]
  omega

end Rkusb
