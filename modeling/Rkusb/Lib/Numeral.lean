/-
**Positional numerals, and a bounded reader of them.**

`value radix digits` is the number that digits stand for, the most significant first. `accumulate`
reads digits from the left with a check against a bound at every step, as parsers of machine integers
do, and `none` stands for what is no digit.

* `accumulate_append`: over digits, the reader is at their value, or has overflowed if this is not
  below the bound. Since the value grows with every digit, an overflow on the way is one of the whole.
* `accumulate_eq_ok_iff`, `accumulate_overflow_iff`: when it returns a number, and when it overflows.
* `value_digitsOf`: every number is the value of its digits, with any zeroes before them.
-/

import Mathlib.Data.Nat.Digits.Defs

namespace Numeral

/-! ### Values -/

/-- The number reached from `total` over digits. -/
def extend (radix total : Nat) (digits : List Nat) : Nat :=
  digits.foldl (fun total digit => total * radix + digit) total

/-- The number that digits stand for. -/
def value (radix : Nat) (digits : List Nat) : Nat := extend radix 0 digits

@[simp] theorem extend_nil (radix total : Nat) : extend radix total [] = total := rfl

@[simp] theorem extend_cons (radix total digit : Nat) (digits : List Nat) :
    extend radix total (digit :: digits) = extend radix (total * radix + digit) digits := rfl

theorem extend_append (radix total : Nat) (first second : List Nat) :
    extend radix total (first ++ second) = extend radix (extend radix total first) second :=
  List.foldl_append

/-- More digits make a number no smaller. -/
theorem le_extend {radix : Nat} (positive : 0 < radix) (total : Nat) (digits : List Nat) :
    total ≤ extend radix total digits := by
  induction digits generalizing total with
  | nil => exact le_rfl
  | cons digit digits ih =>
    calc total ≤ total * radix := Nat.le_mul_of_pos_right total positive
      _ ≤ total * radix + digit := Nat.le_add_right _ _
      _ ≤ extend radix total (digit :: digits) := ih _

theorem extend_eq (radix total : Nat) (digits : List Nat) :
    extend radix total digits =
      total * radix ^ digits.length + Nat.ofDigits radix digits.reverse := by
  induction digits generalizing total with
  | nil => simp
  | cons digit digits ih =>
    rw [extend_cons, ih, List.reverse_cons, Nat.ofDigits_append, List.length_reverse,
      Nat.ofDigits_singleton, List.length_cons, pow_succ]
    ring

theorem value_eq_ofDigits (radix : Nat) (digits : List Nat) :
    value radix digits = Nat.ofDigits radix digits.reverse := by
  simp [value, extend_eq]

/-- Zeroes before the digits do not count. -/
theorem value_zeroes (radix zeroes : Nat) (digits : List Nat) :
    value radix (List.replicate zeroes 0 ++ digits) = value radix digits := by
  have nothing : extend radix 0 (List.replicate zeroes 0) = 0 := by
    induction zeroes with
    | zero => rfl
    | succ zeroes ih => simpa [List.replicate_succ] using ih
  rw [value, extend_append, nothing]
  rfl

/-- The digits of a number; zero has one. -/
def digitsOf (radix number : Nat) : List Nat :=
  if number = 0 then [0] else (Nat.digits radix number).reverse

theorem value_digitsOf (radix number : Nat) : value radix (digitsOf radix number) = number := by
  unfold digitsOf
  split
  · rename_i zero
    simp [value, zero]
  · rw [value_eq_ofDigits, List.reverse_reverse, Nat.ofDigits_digits]

theorem digitsOf_ne_nil (radix number : Nat) : digitsOf radix number ≠ [] := by
  unfold digitsOf
  split
  · simp
  · rename_i some
    simp [Nat.digits_ne_nil_iff_ne_zero.mpr some]

theorem lt_of_mem_digitsOf {radix number digit : Nat} (large : 1 < radix)
    (member : digit ∈ digitsOf radix number) : digit < radix := by
  unfold digitsOf at member
  split at member
  · rw [List.mem_singleton.mp member]
    exact Nat.zero_lt_of_lt large
  · exact Nat.digits_lt_base large (List.mem_reverse.mp member)

/-! ### The reader -/

inductive Failure
  | invalidDigit | overflow
  deriving DecidableEq

/-- Read digits below `bound`. A character that is no digit is found before the multiplication for it
is checked. -/
def accumulate (radix bound : Nat) : Nat → List (Option Nat) → Except Failure Nat
  | total, [] => .ok total
  | _, none :: _ => .error .invalidDigit
  | total, some digit :: rest =>
      if bound ≤ total * radix then .error .overflow
      else if bound ≤ total * radix + digit then .error .overflow
      else accumulate radix bound (total * radix + digit) rest

variable {radix bound : Nat}

/-- **Over digits**, the reader is at their value, or has overflowed. -/
theorem accumulate_append (positive : 0 < radix) {total : Nat} (below : total < bound)
    (digits : List Nat) (rest : List (Option Nat)) :
    accumulate radix bound total (digits.map some ++ rest) =
      if extend radix total digits < bound then
        accumulate radix bound (extend radix total digits) rest
      else .error .overflow := by
  induction digits generalizing total with
  | nil =>
    rw [extend_nil, if_pos below]
    rfl
  | cons digit digits ih =>
    show (if bound ≤ total * radix then _ else if bound ≤ total * radix + digit then _ else
      accumulate radix bound (total * radix + digit) (digits.map some ++ rest)) = _
    rw [extend_cons]
    by_cases fits : total * radix + digit < bound
    · rw [if_neg (by omega), if_neg (by omega), ih fits]
    · have large : ¬extend radix (total * radix + digit) digits < bound := fun fits' =>
        fits (lt_of_le_of_lt (le_extend positive _ digits) fits')
      rw [if_neg large]
      split
      · rfl
      · rw [if_pos (by omega)]

/-- A list of characters is one of digits, up to the first that is none. -/
theorem digits_or_invalid (characters : List (Option Nat)) :
    ∃ digits : List Nat, characters = digits.map some ∨
      ∃ rest, characters = digits.map some ++ none :: rest := by
  induction characters with
  | nil => exact ⟨[], .inl rfl⟩
  | cons first rest ih =>
    cases first with
    | none => exact ⟨[], .inr ⟨rest, rfl⟩⟩
    | some digit =>
      obtain ⟨digits, rfl | ⟨rest', rfl⟩⟩ := ih
      · exact ⟨digit :: digits, .inl rfl⟩
      · exact ⟨digit :: digits, .inr ⟨rest', rfl⟩⟩

/-- **A number is returned** for digits whose value is below the bound. -/
theorem accumulate_eq_ok_iff (positive : 0 < radix) (roomy : 0 < bound)
    {characters : List (Option Nat)} {number : Nat} :
    accumulate radix bound 0 characters = .ok number ↔
      ∃ digits : List Nat, characters = digits.map some ∧ value radix digits = number ∧
        number < bound := by
  constructor
  · intro reads
    obtain ⟨digits, rfl | ⟨rest, rfl⟩⟩ := digits_or_invalid characters
    · rw [← List.append_nil (digits.map some), accumulate_append positive roomy] at reads
      split at reads
      · rename_i fits
        cases reads
        exact ⟨digits, rfl, rfl, fits⟩
      · cases reads
    · rw [accumulate_append positive roomy] at reads
      split at reads <;> cases reads
  · rintro ⟨digits, rfl, rfl, fits⟩
    rw [← List.append_nil (digits.map some), accumulate_append positive roomy]
    exact if_pos fits

/-- **It overflows** where digits at the beginning have a value that is not below the bound. -/
theorem accumulate_overflow_iff (positive : 0 < radix) (roomy : 0 < bound)
    {characters : List (Option Nat)} :
    accumulate radix bound 0 characters = .error .overflow ↔
      ∃ (digits : List Nat) (rest : List (Option Nat)), characters = digits.map some ++ rest ∧
        bound ≤ value radix digits := by
  constructor
  · intro fails
    obtain ⟨digits, same | ⟨rest, rfl⟩⟩ := digits_or_invalid characters
    · rw [same, ← List.append_nil (digits.map some), accumulate_append positive roomy] at fails
      split at fails
      · cases fails
      · rename_i large
        exact ⟨digits, [], by rw [same, List.append_nil], Nat.le_of_not_lt large⟩
    · rw [accumulate_append positive roomy] at fails
      split at fails
      · cases fails
      · rename_i large
        exact ⟨digits, none :: rest, rfl, Nat.le_of_not_lt large⟩
  · rintro ⟨digits, rest, rfl, large⟩
    rw [accumulate_append positive roomy]
    exact if_neg (Nat.not_lt_of_le large)

end Numeral
