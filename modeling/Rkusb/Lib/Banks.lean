/-
**Banks of stores.**

A device may have several stores of which one is selected: an access is one to the selected store,
and a command of its own selects another. `Banks` are such stores by their index, with the index that
is selected. `Beside` is the frame of everything that does not select: all stores but the selected one
are as before. `Switches` is a selection, which may have been made even if it is not known to be.
-/

import Mathlib.Logic.Function.Basic

/-- Stores by their index, and the index of the selected one. -/
@[ext] structure Banks (ι σ : Type) where
  stores : ι → σ
  selected : ι

namespace Banks

variable {ι σ : Type} {banks banks' middle : Banks ι σ}

/-- The selected store. -/
def current (banks : Banks ι σ) : σ := banks.stores banks.selected

/-- Another index is selected. -/
def select (banks : Banks ι σ) (index : ι) : Banks ι σ := { banks with selected := index }

/-- An index is selected; or it may be, if it is not known that it is. -/
structure Switches (banks : Banks ι σ) (index : ι) (done : Prop) (banks' : Banks ι σ) : Prop where
  mayBe : banks' = banks ∨ banks' = banks.select index
  whole : done → banks' = banks.select index

namespace Switches

variable {index : ι} {done done' : Prop}

theorem mono (switches : banks.Switches index done banks') (le : done' → done) :
    banks.Switches index done' banks' := ⟨switches.mayBe, switches.whole ∘ le⟩

theorem stores (switches : banks.Switches index done banks') : banks'.stores = banks.stores := by
  rcases switches.mayBe with rfl | rfl <;> rfl

theorem selected (switches : banks.Switches index done banks') :
    banks'.selected = banks.selected ∨ banks'.selected = index := by
  rcases switches.mayBe with rfl | rfl
  · exact .inl rfl
  · exact .inr rfl

end Switches

/-- Every store is this one. -/
def const (index : ι) (store : σ) : Banks ι σ := ⟨fun _ => store, index⟩

@[simp] theorem current_const (index : ι) (store : σ) : (const index store).current = store := rfl

variable [DecidableEq ι]

/-- The selected store is replaced. -/
def put (banks : Banks ι σ) (store : σ) : Banks ι σ :=
  { banks with stores := Function.update banks.stores banks.selected store }

@[simp] theorem selected_put (banks : Banks ι σ) (store : σ) :
    (banks.put store).selected = banks.selected := rfl

@[simp] theorem current_put (banks : Banks ι σ) (store : σ) : (banks.put store).current = store :=
  Function.update_self _ _ _

@[simp] theorem put_current (banks : Banks ι σ) : banks.put banks.current = banks :=
  Banks.ext (Function.update_eq_self _ _) rfl

@[simp] theorem put_put (banks : Banks ι σ) (first second : σ) :
    (banks.put first).put second = banks.put second :=
  Banks.ext (Function.update_idem _ _ _) rfl

theorem stores_put_of_ne (banks : Banks ι σ) (store : σ) {index : ι}
    (other : index ≠ banks.selected) : (banks.put store).stores index = banks.stores index :=
  Function.update_of_ne other _ _

/-- The selected store does not matter to what replaces it. -/
theorem put_congr (selected : banks'.selected = banks.selected)
    (others : ∀ index, index ≠ banks.selected → banks'.stores index = banks.stores index) (store : σ) :
    banks'.put store = banks.put store := by
  refine Banks.ext (funext fun index => ?_) selected
  by_cases here : index = banks.selected
  · subst here
    show Function.update banks'.stores banks'.selected store banks.selected = (banks.put store).current
    rw [selected, Function.update_self, current_put]
  · rw [stores_put_of_ne _ _ here, stores_put_of_ne _ _ (selected ▸ here), others index here]

/-- The banks differ in the selected store at most. -/
def Beside (banks banks' : Banks ι σ) : Prop := banks' = banks.put banks'.current

namespace Beside

theorem refl (banks : Banks ι σ) : Beside banks banks := (put_current banks).symm

theorem put (banks : Banks ι σ) (store : σ) : Beside banks (banks.put store) := by
  unfold Beside
  rw [current_put]

theorem trans (first : Beside banks middle) (second : Beside middle banks') :
    Beside banks banks' := by
  unfold Beside at first second ⊢
  rw [first, put_put] at second
  exact second

theorem selected (beside : Beside banks banks') : banks'.selected = banks.selected := by
  have parts : banks' = banks.put banks'.current := beside
  rw [parts, selected_put]

/-- The selected store shows all of the difference. -/
theorem eq_put (beside : Beside banks banks') {store : σ} (current : banks'.current = store) :
    banks' = banks.put store := current ▸ beside

theorem eq (beside : Beside banks banks') (same : banks'.current = banks.current) :
    banks' = banks := by
  have parts : banks' = banks.put banks'.current := beside
  rwa [same, put_current] at parts

end Beside

/-! ### Cells -/

section Cells

variable {κ α : Type} {banks banks' : Banks ι (κ → α)}

omit [DecidableEq ι] in
/-- What is stored under a key in the store of an index. -/
def cell (banks : Banks ι (κ → α)) (place : ι × κ) : α := banks.stores place.1 place.2

/-- A cell is kept that is of another store, or kept in the selected one. -/
theorem Beside.cell_eq (beside : Beside banks banks') {place : ι × κ}
    (kept : place.1 = banks.selected → banks'.current place.2 = banks.current place.2) :
    banks'.cell place = banks.cell place := by
  by_cases here : place.1 = banks.selected
  · have same := kept here
    unfold current at same
    rw [beside.selected, ← here] at same
    exact same
  · have parts : banks' = banks.put banks'.current := beside
    unfold cell
    rw [parts, stores_put_of_ne _ _ here]

end Cells

end Banks
