/-
**Little-endian bytes and chunks of a byte string.**

`toLittleEndian width value` and `ofLittleEndian` convert between a natural number and its bytes,
least significant first. `chunks size data` cuts a list into pieces of `size`, the last one possibly
shorter.
-/

import Mathlib.Tactic.Ring
import Mathlib.Tactic.Linarith
import Mathlib.Data.List.Basic

namespace Bytes

/-! ### Little-endian numbers -/

/-- The low `width` bytes of a number, least significant first. -/
def toLittleEndian : Nat → Nat → List UInt8
  | 0, _ => []
  | width + 1, value => UInt8.ofNat (value % 256) :: toLittleEndian width (value / 256)

/-- The number with the given bytes, least significant first. -/
def ofLittleEndian : List UInt8 → Nat
  | [] => 0
  | byte :: rest => byte.toNat + 256 * ofLittleEndian rest

@[simp] theorem length_toLittleEndian (width value : Nat) :
    (toLittleEndian width value).length = width := by
  induction width generalizing value with
  | zero => rfl
  | succ width ih => rw [toLittleEndian, List.length_cons, ih]

theorem ofLittleEndian_toLittleEndian (width value : Nat) :
    ofLittleEndian (toLittleEndian width value) = value % 256 ^ width := by
  induction width generalizing value with
  | zero => simp [toLittleEndian, ofLittleEndian, Nat.mod_one]
  | succ width ih =>
    have low : (UInt8.ofNat (value % 256)).toNat = value % 256 := by
      rw [UInt8.toNat_ofNat']
      exact Nat.mod_eq_of_lt (Nat.mod_lt _ (by norm_num))
    rw [toLittleEndian, ofLittleEndian, ih, low, pow_succ', Nat.mod_mul]

theorem ofLittleEndian_toLittleEndian_of_lt {width value : Nat} (small : value < 256 ^ width) :
    ofLittleEndian (toLittleEndian width value) = value := by
  rw [ofLittleEndian_toLittleEndian, Nat.mod_eq_of_lt small]

theorem ofLittleEndian_lt (bytes : List UInt8) : ofLittleEndian bytes < 256 ^ bytes.length := by
  induction bytes with
  | nil => simp [ofLittleEndian]
  | cons byte rest ih =>
    have := byte.toNat_lt
    rw [ofLittleEndian, List.length_cons, pow_succ]
    omega

theorem toLittleEndian_ofLittleEndian (bytes : List UInt8) :
    toLittleEndian bytes.length (ofLittleEndian bytes) = bytes := by
  induction bytes with
  | nil => rfl
  | cons byte rest ih =>
    have small := byte.toNat_lt
    have low : (byte.toNat + 256 * ofLittleEndian rest) % 256 = byte.toNat := by omega
    have high : (byte.toNat + 256 * ofLittleEndian rest) / 256 = ofLittleEndian rest := by omega
    rw [List.length_cons, ofLittleEndian, toLittleEndian, low, high, ih, UInt8.ofNat_toNat]

/-! ### Chunks -/

variable {α : Type}

/-- `chunks` with a bound on the number of pieces. -/
def chunksWithin (size : Nat) : Nat → List α → List (List α)
  | 0, _ => []
  | _ + 1, [] => []
  | fuel + 1, item :: rest =>
      (item :: rest).take size :: chunksWithin size fuel ((item :: rest).drop size)

/-- The pieces of `size` items of a list, in order; the last one may be shorter. -/
def chunks (size : Nat) (data : List α) : List (List α) := chunksWithin size data.length data

theorem chunksWithin_flatten (size : Nat) (positive : 0 < size) (fuel : Nat) (data : List α)
    (enough : data.length ≤ fuel) : (chunksWithin size fuel data).flatten = data := by
  induction fuel generalizing data with
  | zero => simp_all [chunksWithin]
  | succ fuel ih =>
    cases data with
    | nil => rfl
    | cons item rest =>
      rw [chunksWithin, List.flatten_cons, ih _ (by
        rw [List.length_drop]
        simp only [List.length_cons] at enough ⊢
        omega), List.take_append_drop]

/-- The pieces put together are the list. -/
theorem chunks_flatten (size : Nat) (positive : 0 < size) (data : List α) :
    (chunks size data).flatten = data :=
  chunksWithin_flatten size positive _ data le_rfl

/-- Every piece starts at a multiple of `size` inside the list and is cut short only by its end. -/
theorem chunksWithin_mem (size fuel : Nat) (data piece : List α)
    (member : piece ∈ chunksWithin size fuel data) :
    ∃ start, piece = (data.drop (size * start)).take size ∧ size * start < data.length := by
  induction fuel generalizing data with
  | zero => simp [chunksWithin] at member
  | succ fuel ih =>
    cases data with
    | nil => simp [chunksWithin] at member
    | cons item rest =>
      rw [chunksWithin, List.mem_cons] at member
      rcases member with rfl | member
      · exact ⟨0, by simp, by simp⟩
      · obtain ⟨start, rfl, inside⟩ := ih _ member
        refine ⟨start + 1, ?_, ?_⟩
        · rw [List.drop_drop]
          congr 2
          ring
        · rw [List.length_drop] at inside
          have : size * (start + 1) = size * start + size := by ring
          omega

/-- A piece is not empty and has at most `size` items; where `unit` divides both `size` and the
length of the list, it divides the length of the piece. -/
theorem length_of_mem_chunks {size : Nat} (positive : 0 < size) {data piece : List α}
    (member : piece ∈ chunks size data) :
    0 < piece.length ∧ piece.length ≤ size ∧
      ∀ unit, unit ∣ size → unit ∣ data.length → unit ∣ piece.length := by
  obtain ⟨start, rfl, inside⟩ := chunksWithin_mem size _ data piece member
  rw [List.length_take, List.length_drop]
  refine ⟨by omega, by omega, fun unit dividesSize dividesLength => ?_⟩
  rcases Nat.le_total size (data.length - size * start) with short | long
  · rwa [Nat.min_eq_left short]
  · rw [Nat.min_eq_right long]
    exact Nat.dvd_sub dividesLength (dividesSize.mul_right start)

/-- Only the last piece may be cut short. -/
theorem length_of_mem_dropLast_chunksWithin {size : Nat} (fuel : Nat) (data : List α) {piece : List α}
    (member : piece ∈ (chunksWithin size fuel data).dropLast) : piece.length = size := by
  induction fuel generalizing data with
  | zero => cases member
  | succ fuel ih =>
    cases data with
    | nil => cases member
    | cons item rest =>
      rw [chunksWithin] at member
      cases further : chunksWithin size fuel ((item :: rest).drop size) with
      | nil =>
        rw [further] at member
        cases member
      | cons next later =>
        rw [further, List.dropLast_cons_of_ne_nil (List.cons_ne_nil _ _), ← further,
          List.mem_cons] at member
        rcases member with rfl | member
        · -- a piece follows, so that the data goes on behind this one
          have more : (item :: rest).drop size ≠ [] := by
            intro none
            rw [none] at further
            cases fuel <;> cases further
          have := List.length_pos_of_ne_nil more
          rw [List.length_drop] at this
          rw [List.length_take]
          omega
        · exact ih _ member

theorem length_of_mem_dropLast_chunks {size : Nat} {data piece : List α}
    (member : piece ∈ (chunks size data).dropLast) : piece.length = size :=
  length_of_mem_dropLast_chunksWithin _ data member

theorem chunksWithin_length (size : Nat) (positive : 0 < size) (fuel : Nat) (data : List α) :
    (chunksWithin size fuel data).length * size < data.length + size := by
  induction fuel generalizing data with
  | zero => simpa [chunksWithin] using Nat.add_pos_right _ positive
  | succ fuel ih =>
    cases data with
    | nil => simpa [chunksWithin] using positive
    | cons item rest =>
      have fewer := ih ((item :: rest).drop size)
      rw [List.length_drop] at fewer
      rw [chunksWithin, List.length_cons, Nat.succ_mul]
      rcases Nat.le_total size (item :: rest).length with long | short
      · omega
      · rw [Nat.sub_eq_zero_of_le short, Nat.zero_add] at fewer
        have none : (chunksWithin size fuel ((item :: rest).drop size)).length = 0 :=
          Nat.eq_zero_of_not_pos fun some =>
            absurd fewer (Nat.not_lt.mpr (Nat.le_mul_of_pos_left size some))
        rw [none, List.length_cons]
        omega

/-- There are no more pieces than it takes to cover the list. -/
theorem length_chunks (size : Nat) (positive : 0 < size) (data : List α) :
    (chunks size data).length ≤ data.length / size + 1 := by
  have fewer := chunksWithin_length size positive data.length data
  have bound : (chunks size data).length * size < (data.length / size + 2) * size := by
    have := Nat.div_add_mod data.length size
    have := Nat.mod_lt data.length positive
    have : (data.length / size + 2) * size = size * (data.length / size) + 2 * size := by ring
    unfold chunks
    omega
  exact Nat.le_of_lt_succ (Nat.lt_of_mul_lt_mul_right bound)

/-! ### Copies -/

theorem length_flatten_replicate (count : Nat) (pattern : List α) :
    (List.replicate count pattern).flatten.length = count * pattern.length := by
  rw [List.length_flatten, List.map_replicate, List.sum_replicate_nat]

/-- A repeated list has at an index what the list has at its remainder. -/
theorem getElem?_flatten_replicate {count index : Nat} {pattern : List α}
    (inside : index < count * pattern.length) :
    (List.replicate count pattern).flatten[index]? = pattern[index % pattern.length]? := by
  induction count generalizing index with
  | zero => omega
  | succ count ih =>
    rw [List.replicate_succ, List.flatten_cons]
    by_cases first : index < pattern.length
    · rw [List.getElem?_append_left first, Nat.mod_eq_of_lt first]
    · have past : pattern.length ≤ index := Nat.le_of_not_lt first
      rw [Nat.succ_mul] at inside
      rw [List.getElem?_append_right past, ih (by omega), Nat.mod_eq_sub_mod past]

end Bytes
