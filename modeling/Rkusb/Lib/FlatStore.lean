/-
**Flat stores.**

A flat store gives a cell to every position. `slice` reads a range of it and `splice` overwrites
one. The laws below are what a verification of block reads, block writes and read-modify-write
needs: how two adjacent ranges join (`slice_append`, `splice_append`), what a read sees of a write
elsewhere (`slice_splice_of_disjoint`), and that writing back what was read changes
nothing (`splice_slice_self`).

`spliceAll` is a sequence of writes. `lastWritten` is the other reading of it: the value of a cell is
the last one written to it (`spliceAll_apply`), so nothing shows of what was there before but in the
cells that are `spared` (`spliceAll_congr`). `Torn` is such a sequence that stops at some point; it
can be done again (`Torn.redo`). `overlay` writes a sequence of cells with gaps.
-/

import Mathlib.Tactic.Linarith
import Mathlib.Data.List.Induction
import Mathlib.Data.Set.Operations

namespace FlatStore

variable {α : Type}

/-- The `count` cells from `start` on. -/
def slice (store : Nat → α) (start count : Nat) : List α :=
  (List.range count).map fun index => store (start + index)

/-- The store with `data` written from `start` on. -/
def splice (store : Nat → α) (start : Nat) (data : List α) : Nat → α := fun position =>
  if start ≤ position then (data[position - start]?).getD (store position) else store position

/-! ### Reading -/

@[simp] theorem length_slice (store : Nat → α) (start count : Nat) :
    (slice store start count).length = count := by
  simp [slice]

/-- Two adjacent ranges are one. -/
theorem slice_append (store : Nat → α) (start first second : Nat) :
    slice store start (first + second) =
      slice store start first ++ slice store (start + first) second := by
  simp only [slice, List.range_add, List.map_append, List.map_map]
  congr 1
  refine List.map_congr_left fun index _ => ?_
  simp only [Function.comp_apply, Nat.add_assoc]

theorem take_slice (store : Nat → α) (start count kept : Nat) (within : kept ≤ count) :
    (slice store start count).take kept = slice store start kept := by
  obtain ⟨rest, rfl⟩ := Nat.exists_eq_add_of_le within
  rw [slice_append, List.take_append_of_le_length (by simp), List.take_of_length_le (by simp)]

theorem drop_slice (store : Nat → α) (start count dropped : Nat) (within : dropped ≤ count) :
    (slice store start count).drop dropped = slice store (start + dropped) (count - dropped) := by
  obtain ⟨rest, rfl⟩ := Nat.exists_eq_add_of_le within
  rw [slice_append, List.drop_append_of_le_length (by simp), List.drop_of_length_le (by simp),
    List.nil_append, Nat.add_sub_cancel_left]

/-- Stores that agree on a range read the same there. -/
theorem slice_congr {store store' : Nat → α} {start count : Nat}
    (agree : ∀ position, start ≤ position → position < start + count →
      store position = store' position) :
    slice store start count = slice store' start count := by
  refine List.map_congr_left fun index member => ?_
  have bound := List.mem_range.mp member
  exact agree _ (Nat.le_add_right _ _) (by omega)

/-! ### Writing -/

@[simp] theorem splice_nil (store : Nat → α) (start : Nat) : splice store start [] = store := by
  funext position
  simp [splice]

theorem splice_of_lt (store : Nat → α) (start : Nat) (data : List α) {position : Nat}
    (before : position < start) : splice store start data position = store position := by
  rw [splice, if_neg (by omega)]

theorem splice_of_ge (store : Nat → α) (start : Nat) (data : List α) {position : Nat}
    (after : start + data.length ≤ position) : splice store start data position = store position := by
  unfold splice
  split
  · rw [List.getElem?_eq_none (by omega), Option.getD_none]
  · rfl

/-- A write leaves every position outside its range alone. -/
theorem splice_of_outside (store : Nat → α) (start : Nat) (data : List α) {position : Nat}
    (outside : ¬ (start ≤ position ∧ position < start + data.length)) :
    splice store start data position = store position := by
  rcases Nat.lt_or_ge position start with before | after
  · exact splice_of_lt store start data before
  · exact splice_of_ge store start data (by omega)

theorem splice_inside (store : Nat → α) (start : Nat) (data : List α) {index : Nat}
    (inside : index < data.length) : splice store start data (start + index) = data[index] := by
  rw [splice, if_pos (Nat.le_add_right _ _), Nat.add_sub_cancel_left,
    List.getElem?_eq_getElem inside, Option.getD_some]

/-- Two adjacent writes are one. -/
theorem splice_append (store : Nat → α) (start : Nat) (first second : List α) :
    splice store start (first ++ second) =
      splice (splice store start first) (start + first.length) second := by
  funext position
  rcases Nat.lt_or_ge position start with before | after
  · rw [splice_of_lt _ _ _ before, splice_of_lt _ _ _ (by omega), splice_of_lt _ _ _ before]
  obtain ⟨index, rfl⟩ := Nat.exists_eq_add_of_le after
  rcases Nat.lt_or_ge index first.length with inFirst | pastFirst
  · rw [splice_of_lt _ (start + first.length) _ (by omega), splice_inside _ _ _ inFirst,
      splice_inside _ _ _ (by rw [List.length_append]; omega), List.getElem_append_left inFirst]
  obtain ⟨offset, rfl⟩ := Nat.exists_eq_add_of_le pastFirst
  rw [← Nat.add_assoc]
  rcases Nat.lt_or_ge offset second.length with inSecond | pastSecond
  · rw [splice_inside _ (start + first.length) _ inSecond, Nat.add_assoc,
      splice_inside _ _ _ (by rw [List.length_append]; omega),
      List.getElem_append_right (Nat.le_add_right _ _)]
    congr 1
    omega
  · rw [splice_of_ge _ (start + first.length) _ (by omega),
      splice_of_ge _ start first (by omega),
      splice_of_ge _ start (first ++ second) (by rw [List.length_append]; omega)]

/-- Two beginnings of the same data, one written over the other, are the longer one. -/
theorem splice_take_splice_take (store : Nat → α) (start first second : Nat) (data : List α) :
    splice (splice store start (data.take first)) start (data.take second) =
      splice store start (data.take (max first second)) := by
  funext position
  unfold splice
  by_cases inside : start ≤ position
  · simp only [if_pos inside, List.getElem?_take]
    by_cases short : position - start < second
    · rw [if_pos short, if_pos (lt_max_of_lt_right short)]
      cases data[position - start]? with
      | some value => rfl
      | none => simp only [Option.getD_none, ite_self]
    · rw [if_neg short, Option.getD_none]
      by_cases long : position - start < first
      · rw [if_pos long, if_pos (lt_max_of_lt_left long)]
      · rw [if_neg long, if_neg (by omega)]
  · simp only [if_neg inside]

@[simp] theorem splice_slice_self (store : Nat → α) (start count : Nat) :
    splice store start (slice store start count) = store := by
  funext position
  rcases Nat.lt_or_ge position start with before | after
  · exact splice_of_lt _ _ _ before
  obtain ⟨index, rfl⟩ := Nat.exists_eq_add_of_le after
  rcases Nat.lt_or_ge index count with inside | past
  · rw [splice_inside _ _ _ (by simpa using inside)]
    simp [slice]
  · exact splice_of_ge _ _ _ (by rw [length_slice]; omega)

/-- A write is read back. -/
@[simp] theorem slice_splice_self (store : Nat → α) (start : Nat) (data : List α) :
    slice (splice store start data) start data.length = data := by
  apply List.ext_getElem (length_slice _ _ _)
  intro index _ inside
  simp [slice, splice_inside store start data inside]

/-- A read beside a write does not see it. -/
theorem slice_splice_of_disjoint (store : Nat → α) (start count at_ : Nat) (data : List α)
    (disjoint : at_ + data.length ≤ start ∨ start + count ≤ at_) :
    slice (splice store at_ data) start count = slice store start count := by
  refine slice_congr fun position lower upper => ?_
  rcases disjoint with below | above
  · exact splice_of_ge _ _ _ (by omega)
  · exact splice_of_lt _ _ _ (by omega)

/-! ### Sequences of writes -/

/-- The store after a sequence of writes. -/
def spliceAll (store : Nat → α) (writes : List (Nat × List α)) : Nat → α :=
  writes.foldl (fun store write => splice store write.1 write.2) store

@[simp] theorem spliceAll_nil (store : Nat → α) : spliceAll store [] = store := rfl

theorem spliceAll_cons (store : Nat → α) (write : Nat × List α) (writes : List (Nat × List α)) :
    spliceAll store (write :: writes) = spliceAll (splice store write.1 write.2) writes := rfl

theorem spliceAll_append (store : Nat → α) (first second : List (Nat × List α)) :
    spliceAll store (first ++ second) = spliceAll (spliceAll store first) second :=
  List.foldl_append

/-- The last value that a sequence of writes puts at a position, if it puts one there. -/
def lastWritten (writes : List (Nat × List α)) (position : Nat) : Option α :=
  writes.reverse.findSome? fun write =>
    if write.1 ≤ position then write.2[position - write.1]? else none

/-- **A cell holds the last value written to it**, or what it held before. -/
theorem spliceAll_apply (store : Nat → α) (writes : List (Nat × List α)) (position : Nat) :
    spliceAll store writes position = (lastWritten writes position).getD (store position) := by
  induction writes using List.reverseRecOn with
  | nil => rfl
  | append_singleton earlier last ih =>
    rw [spliceAll_append, spliceAll_cons, spliceAll_nil, splice, ih]
    simp only [lastWritten, List.reverse_append, List.reverse_cons, List.reverse_nil,
      List.nil_append, List.cons_append, List.findSome?_cons]
    split
    · cases last.2[position - last.1]? <;> rfl
    · rfl

/-- The write covers the position. -/
def Covers (write : Nat × List α) (position : Nat) : Prop :=
  write.1 ≤ position ∧ position < write.1 + write.2.length

/-- A cell that no write covers is left alone. -/
theorem spliceAll_of_outside (store : Nat → α) {writes : List (Nat × List α)} {position : Nat}
    (outside : ∀ write ∈ writes, ¬ Covers write position) :
    spliceAll store writes position = store position := by
  induction writes generalizing store with
  | nil => rfl
  | cons write rest ih =>
    obtain ⟨here, later⟩ := List.forall_mem_cons.mp outside
    rw [spliceAll_cons, ih _ later, splice_of_outside _ _ _ here]

/-- A value is written where a write covers the position. -/
theorem lastWritten_of_covers {writes : List (Nat × List α)} {write : Nat × List α} {position : Nat}
    (member : write ∈ writes) (covers : Covers write position) :
    ∃ value, lastWritten writes position = some value := by
  obtain ⟨after, before⟩ := covers
  refine Option.isSome_iff_exists.mp ?_
  rw [lastWritten, List.findSome?_isSome_iff]
  refine ⟨write, List.mem_reverse.mpr member, ?_⟩
  rw [if_pos after, List.getElem?_eq_getElem (by omega)]
  rfl

/-- The positions that no write covers. -/
def spared (writes : List (Nat × List α)) : Set Nat :=
  {position | ∀ write ∈ writes, ¬Covers write position}

/-- **Writes leave the same** on stores that agree where no write covers. -/
theorem spliceAll_congr {store store' : Nat → α} {writes : List (Nat × List α)}
    (agree : Set.EqOn store store' (spared writes)) :
    spliceAll store writes = spliceAll store' writes := by
  funext position
  by_cases outside : ∀ write ∈ writes, ¬Covers write position
  · rw [spliceAll_of_outside _ outside, spliceAll_of_outside _ outside, agree outside]
  · push Not at outside
    obtain ⟨write, member, covers⟩ := outside
    obtain ⟨value, last⟩ := lastWritten_of_covers member covers
    rw [spliceAll_apply, spliceAll_apply, last]
    rfl

/-- Writes without data change nothing. -/
theorem spliceAll_of_empty (store : Nat → α) {writes : List (Nat × List α)}
    (empty : ∀ write ∈ writes, write.2 = []) : spliceAll store writes = store := by
  funext position
  refine spliceAll_of_outside store fun write member covers => ?_
  rw [Covers, empty write member] at covers
  exact absurd covers.2 (Nat.not_lt.mpr covers.1)

/-- **Writes that change no store** are those without data: else there is a store with another value
at the beginning of one. -/
theorem spliceAll_eq_self_iff [Nontrivial α] {writes : List (Nat × List α)} :
    (∀ store, spliceAll store writes = store) ↔ ∀ write ∈ writes, write.2 = [] := by
  refine ⟨fun same write member => ?_, fun empty store => spliceAll_of_empty store empty⟩
  by_contra some
  have covers : Covers write write.1 :=
    ⟨le_rfl, Nat.lt_add_of_pos_right (List.length_pos_iff.mpr some)⟩
  obtain ⟨value, last⟩ := lastWritten_of_covers member covers
  obtain ⟨other, differs⟩ := exists_ne value
  have written := spliceAll_apply (fun _ => other) writes write.1
  rw [last, same] at written
  exact differs written

/-! ### Sequences that stop -/

/-- A sequence of writes stops: before a write, or within it. -/
inductive Torn : List (Nat × List α) → (Nat → α) → (Nat → α) → Prop
  | stops (writes : List (Nat × List α)) (store : Nat → α) : Torn writes store store
  | within (start count : Nat) (data : List α) (rest : List (Nat × List α)) (store : Nat → α) :
      Torn ((start, data) :: rest) store (splice store start (data.take count))
  | next {start : Nat} {data : List α} {rest : List (Nat × List α)} {store store' : Nat → α} :
      Torn rest (splice store start data) store' → Torn ((start, data) :: rest) store store'

namespace Torn

variable {store store' : Nat → α} {writes first second : List (Nat × List α)}

/-- It may stop at its end. -/
theorem whole (store : Nat → α) (writes : List (Nat × List α)) :
    Torn writes store (spliceAll store writes) := by
  induction writes generalizing store with
  | nil => exact .stops [] store
  | cons write rest ih => exact .next (ih _)

theorem append_left (torn : Torn first store store') (second : List (Nat × List α)) :
    Torn (first ++ second) store store' := by
  induction torn with
  | stops writes store => exact .stops _ _
  | within start count data rest store => exact .within _ _ _ _ _
  | next _ ih => exact .next ih

theorem append_right (torn : Torn second (spliceAll store first) store') :
    Torn (first ++ second) store store' := by
  induction first generalizing store with
  | nil => exact torn
  | cons write rest ih => exact .next (ih torn)

/-- **A sequence that stops** changes no cell that its writes do not cover. -/
theorem apply_of_outside (torn : Torn writes store store') {position : Nat}
    (outside : ∀ write ∈ writes, ¬Covers write position) : store' position = store position := by
  induction torn with
  | stops writes store => rfl
  | within start count data rest store =>
    refine splice_of_outside _ _ _ fun inside => ?_
    refine outside _ List.mem_cons_self ⟨inside.1, inside.2.trans_le ?_⟩
    exact Nat.add_le_add_left (List.length_take_le' _ _) _
  | next _ ih =>
    obtain ⟨here, later⟩ := List.forall_mem_cons.mp outside
    rw [ih later]
    exact splice_of_outside _ _ _ here

/-- **A sequence that stopped can be done again**: what it left does not show. -/
theorem redo (torn : Torn writes store store') : spliceAll store' writes = spliceAll store writes :=
  spliceAll_congr fun _ outside => torn.apply_of_outside outside

end Torn

/-! ### Writes with gaps -/

/-- The store with the given cells from `start` on; a gap leaves a cell as it is. -/
def overlay (store : Nat → α) (start : Nat) (cells : List (Option α)) : Nat → α := fun position =>
  if start ≤ position then (cells[position - start]?.join).getD (store position) else store position

theorem overlay_some (store : Nat → α) (start : Nat) (data : List α) :
    overlay store start (data.map some) = splice store start data := by
  funext position
  rw [overlay, splice, List.getElem?_map]
  cases data[position - start]? <;> rfl

theorem overlay_none (store : Nat → α) (start count : Nat) :
    overlay store start (List.replicate count none) = store := by
  funext position
  rw [overlay, List.getElem?_replicate]
  split
  · split <;> rfl
  · rfl

/-- Cells that follow each other. -/
theorem overlay_append (store : Nat → α) (start : Nat) (first second : List (Option α)) :
    overlay store start (first ++ second) =
      overlay (overlay store start first) (start + first.length) second := by
  funext position
  by_cases before : start ≤ position
  · by_cases inFirst : position - start < first.length
    · rw [overlay, if_pos before, List.getElem?_append_left inFirst,
        overlay, if_neg (by omega), overlay, if_pos before]
    · rw [overlay, if_pos before, List.getElem?_append_right (by omega), overlay, if_pos (by omega),
        overlay, if_pos before, List.getElem?_eq_none (Nat.le_of_not_lt inFirst), Nat.sub_sub]
      rfl
  · rw [overlay, if_neg before, overlay, if_neg (by omega), overlay, if_neg before]

end FlatStore
