/-
**The numbers of the command line** (`bin/rktools/util.rs`).

Sectors, positions, subcodes and storage codes are given to the commands as texts. `parse_u8` and
`parse_u32` read them, in decimal or, after `0x` or `0X`, in hexadecimal.

* `numbers_read_exactly`: which texts are read, as what, and which error stands for which others. A
  text is called too large as soon as digits at its beginning are, whatever comes after.
* `parseUnsigned_render`: every number is read back from every way to write it.
-/

import Rkusb.Lib.Numeral
import Mathlib.Data.List.Infix
import Mathlib.Tactic.IntervalCases

namespace Rkusb.Util

open Numeral

/-! ### The parsers -/

/-- `core::num::IntErrorKind`, as far as unsigned integers give it. -/
inductive IntErrorKind
  | empty | invalidDigit | posOverflow
  deriving DecidableEq

def IntErrorKind.toText : IntErrorKind → String
  | .empty => "cannot parse integer from empty string"
  | .invalidDigit => "invalid digit found in string"
  | .posOverflow => "number too large to fit in target type"

/-- `char::to_digit`. -/
def toDigit (radix : Nat) (character : Char) : Option Nat :=
  let code := character.toNat
  let digit :=
    if '0'.toNat ≤ code ∧ code ≤ '9'.toNat then some (code - '0'.toNat)
    else if 'a'.toNat ≤ code ∧ code ≤ 'z'.toNat then some (code - 'a'.toNat + 10)
    else if 'A'.toNat ≤ code ∧ code ≤ 'Z'.toNat then some (code - 'A'.toNat + 10)
    else none
  digit.filter (· < radix)

def kindOf : Failure → IntErrorKind
  | .invalidDigit => .invalidDigit
  | .overflow => .posOverflow

/-- `src` after its sign; a minus stays, and is found as an invalid digit. -/
def unsigned (src : List Char) : List Char :=
  if src.head? = some '+' then src.tail else src

/-- `from_str_radix` of an unsigned integer type whose values are below `bound`. -/
def fromStrRadix (bound radix : Nat) (src : List Char) : Except IntErrorKind Nat :=
  if src = [] then .error .empty
  else if src = ['+'] ∨ src = ['-'] then .error .invalidDigit
  else (accumulate radix bound 0 ((unsigned src).map (toDigit radix))).mapError kindOf

def parseUnsigned (bound : Nat) (input : List Char) : Except String Nat :=
  let parsed :=
    match (input.dropPrefix? ['0', 'x']).or (input.dropPrefix? ['0', 'X']) with
    | some hex => fromStrRadix bound 16 hex
    | none => fromStrRadix bound 10 input
  parsed.mapError IntErrorKind.toText

def parseU32 (input : List Char) : Except String UInt32 :=
  (parseUnsigned (2 ^ 32) input).map UInt32.ofNat

def parseU8 (input : List Char) : Except String UInt8 :=
  (parseUnsigned (2 ^ 8) input).map UInt8.ofNat

/-! ### How numbers are written -/

/-- Characters and the digits they stand for. -/
def Spells (radix : Nat) (characters : List Char) (digits : List Nat) : Prop :=
  characters.map (toDigit radix) = digits.map some

/-- What may stand before the digits. -/
inductive Base
  | decimal | hex (capital : Bool)

def Base.radix : Base → Nat
  | .decimal => 10
  | .hex _ => 16

def Base.lead : Base → List Char
  | .decimal => []
  | .hex false => ['0', 'x']
  | .hex true => ['0', 'X']

def sign (plus : Bool) : List Char := if plus then ['+'] else []

/-- `input` begins with a number, which `rest` comes after. -/
def Writes (input : List Char) (number : Nat) (rest : List Char) : Prop :=
  ∃ (base : Base) (plus : Bool) (characters : List Char) (digits : List Nat),
    input = base.lead ++ (sign plus ++ (characters ++ rest)) ∧ characters ≠ [] ∧
      Spells base.radix characters digits ∧ value base.radix digits = number

theorem Base.one_lt_radix (base : Base) : 1 < base.radix := by
  cases base <;> simp [Base.radix]

theorem Base.radix_pos (base : Base) : 0 < base.radix := Nat.zero_lt_of_lt base.one_lt_radix

theorem Base.toDigit_plus (base : Base) : toDigit base.radix '+' = none := by
  cases base <;> rfl

theorem Base.toDigit_minus (base : Base) : toDigit base.radix '-' = none := by
  cases base <;> rfl

theorem Spells.cons {radix : Nat} {first : Char} {characters : List Char} {digits : List Nat}
    (spells : Spells radix (first :: characters) digits) :
    ∃ digit rest, digits = digit :: rest ∧ toDigit radix first = some digit ∧
      Spells radix characters rest := by
  cases digits with
  | nil => cases spells
  | cons digit rest =>
    obtain ⟨first, spells⟩ := List.cons.inj spells
    exact ⟨digit, rest, rfl, first, spells⟩

/-- A sign is no digit. -/
theorem Spells.unsigned {base : Base} {characters rest : List Char} {digits : List Nat}
    (spells : Spells base.radix characters digits) (more : characters ≠ []) (plus : Bool) :
    Util.unsigned (sign plus ++ (characters ++ rest)) = characters ++ rest := by
  cases plus with
  | true => rfl
  | false =>
    refine if_neg fun signed => ?_
    cases characters with
    | nil => exact more rfl
    | cons first characters =>
      obtain ⟨digit, -, -, first, -⟩ := spells.cons
      rw [Option.some.inj signed, base.toDigit_plus] at first
      cases first

theorem sign_unsigned (src : List Char) : ∃ plus, src = sign plus ++ unsigned src := by
  unfold unsigned
  split
  · rename_i signed
    cases src with
    | nil => cases signed
    | cons first rest => exact ⟨true, by rw [Option.some.inj signed]; rfl⟩
  · exact ⟨false, rfl⟩

/-! ### `from_str_radix` -/

variable {bound : Nat} {src : List Char} {base : Base}

theorem fromStrRadix_nil (radix : Nat) : fromStrRadix bound radix [] = .error .empty := rfl

/-- A sign alone is no number. -/
theorem fromStrRadix_sign (radix : Nat) (only : src = ['+'] ∨ src = ['-']) :
    fromStrRadix bound radix src = .error .invalidDigit := by
  obtain rfl | rfl := only <;> rfl

theorem fromStrRadix_digits (radix : Nat) (more : src ≠ []) (only : ¬(src = ['+'] ∨ src = ['-'])) :
    fromStrRadix bound radix src =
      (accumulate radix bound 0 ((unsigned src).map (toDigit radix))).mapError kindOf := by
  rw [fromStrRadix, if_neg more, if_neg only]

theorem fromStrRadix_eq_ok_iff (roomy : 0 < bound) {number : Nat} :
    fromStrRadix bound base.radix src = .ok number ↔
      number < bound ∧ unsigned src ≠ [] ∧
        ∃ digits, Spells base.radix (unsigned src) digits ∧ value base.radix digits = number := by
  by_cases none : src = []
  · subst none
    simp [fromStrRadix_nil, unsigned]
  by_cases only : src = ['+'] ∨ src = ['-']
  · rw [fromStrRadix_sign _ only]
    refine iff_of_false (by simp) ?_
    rintro ⟨-, more, digits, spells, -⟩
    obtain rfl | rfl := only
    · exact more rfl
    · obtain ⟨digit, -, -, first, -⟩ := spells.cons
      rw [base.toDigit_minus] at first
      cases first
  have more : unsigned src ≠ [] := by
    obtain ⟨plus, same⟩ := sign_unsigned src
    intro nothing
    rw [nothing, List.append_nil] at same
    cases plus with
    | true => exact only (.inl same)
    | false => exact none same
  rw [fromStrRadix_digits _ none only]
  constructor
  · intro reads
    cases outcome : accumulate base.radix bound 0 ((unsigned src).map (toDigit base.radix)) with
    | error failure =>
      rw [outcome] at reads
      cases reads
    | ok read =>
      rw [outcome] at reads
      cases reads
      obtain ⟨digits, spells, valued, fits⟩ :=
        (accumulate_eq_ok_iff base.radix_pos roomy).mp outcome
      exact ⟨fits, more, digits, spells, valued⟩
  · rintro ⟨fits, -, digits, spells, valued⟩
    rw [(accumulate_eq_ok_iff base.radix_pos roomy).mpr ⟨digits, spells, valued, fits⟩]
    rfl

theorem fromStrRadix_overflow_iff (roomy : 0 < bound) :
    fromStrRadix bound base.radix src = .error .posOverflow ↔
      ∃ characters rest digits, unsigned src = characters ++ rest ∧
        Spells base.radix characters digits ∧ bound ≤ value base.radix digits := by
  by_cases none : src = []
  · subst none
    rw [fromStrRadix_nil]
    refine iff_of_false (by simp) ?_
    rintro ⟨characters, rest, digits, same, spells, large⟩
    obtain ⟨rfl, -⟩ := List.append_eq_nil_iff.mp same.symm
    rw [List.map_eq_nil_iff.mp spells.symm] at large
    exact absurd large (Nat.not_le_of_lt roomy)
  by_cases only : src = ['+'] ∨ src = ['-']
  · rw [fromStrRadix_sign _ only]
    refine iff_of_false (by simp) ?_
    rintro ⟨characters, rest, digits, same, spells, large⟩
    have none : digits = [] := by
      cases characters with
      | nil => exact List.map_eq_nil_iff.mp spells.symm
      | cons first characters =>
        obtain ⟨digit, -, -, digit_, -⟩ := spells.cons
        obtain rfl | rfl := only
        · cases same
        · rw [← (List.cons.inj same).1, base.toDigit_minus] at digit_
          cases digit_
    rw [none] at large
    exact absurd large (Nat.not_le_of_lt roomy)
  rw [fromStrRadix_digits _ none only]
  constructor
  · intro fails
    have overflows : accumulate base.radix bound 0 ((unsigned src).map (toDigit base.radix)) =
        .error .overflow := by
      cases outcome : accumulate base.radix bound 0 ((unsigned src).map (toDigit base.radix)) with
      | ok read =>
        rw [outcome] at fails
        cases fails
      | error failure =>
        rw [outcome] at fails
        cases failure with
        | invalidDigit => cases fails
        | overflow => rfl
    obtain ⟨digits, rest, same, large⟩ := (accumulate_overflow_iff base.radix_pos roomy).mp overflows
    obtain ⟨characters, rest', split, spells, -⟩ := List.map_eq_append_iff.mp same
    exact ⟨characters, rest', digits, split, spells, large⟩
  · rintro ⟨characters, rest, digits, same, spells, large⟩
    rw [same, List.map_append, spells,
      (accumulate_overflow_iff base.radix_pos roomy).mpr ⟨digits, _, rfl, large⟩]
    rfl

theorem fromStrRadix_empty_iff (radix : Nat) :
    fromStrRadix bound radix src = .error .empty ↔ src = [] := by
  refine ⟨fun fails => ?_, fun none => by rw [none]; rfl⟩
  by_contra more
  by_cases only : src = ['+'] ∨ src = ['-']
  · rw [fromStrRadix_sign radix only] at fails
    cases fails
  rw [fromStrRadix_digits radix more only] at fails
  cases outcome : accumulate radix bound 0 ((unsigned src).map (toDigit radix)) with
  | ok read =>
    rw [outcome] at fails
    cases fails
  | error failure =>
    rw [outcome] at fails
    cases failure <;> cases fails

/-! ### The two bases -/

theorem parseUnsigned_hex (capital : Bool) (body : List Char) :
    parseUnsigned bound ((Base.hex capital).lead ++ body) =
      (fromStrRadix bound 16 body).mapError IntErrorKind.toText := by
  cases capital <;> simp [parseUnsigned, Base.lead, List.dropPrefix?]

theorem parseUnsigned_decimal {input : List Char}
    (plain : ∀ capital body, input ≠ (Base.hex capital).lead ++ body) :
    parseUnsigned bound input = (fromStrRadix bound 10 input).mapError IntErrorKind.toText := by
  have no : ∀ capital, input.dropPrefix? (Base.hex capital).lead = none := by
    intro capital
    cases found : input.dropPrefix? (Base.hex capital).lead with
    | none => rfl
    | some body =>
      obtain ⟨lead, same, equal⟩ := List.dropPrefix?_eq_some_iff.mp found
      exact absurd (by rw [same, eq_of_beq equal]) (plain capital body)
  rw [parseUnsigned, show input.dropPrefix? ['0', 'x'] = none from no false,
    show input.dropPrefix? ['0', 'X'] = none from no true]
  rfl

/-- Every input is read in one of the two bases. -/
theorem parseUnsigned_base (bound : Nat) (input : List Char) :
    ∃ (base : Base) (body : List Char), input = base.lead ++ body ∧
      parseUnsigned bound input = (fromStrRadix bound base.radix body).mapError
        IntErrorKind.toText := by
  by_cases plain : ∀ capital body, input ≠ (Base.hex capital).lead ++ body
  · exact ⟨.decimal, input, rfl, parseUnsigned_decimal plain⟩
  · push Not at plain
    obtain ⟨capital, body, rfl⟩ := plain
    exact ⟨.hex capital, body, rfl, parseUnsigned_hex capital body⟩

/-- What begins with `0x` begins with the decimal number zero, or with none. -/
theorem decimal_of_lead {capital plus : Bool} {body characters rest : List Char}
    {digits : List Nat} (spells : Spells 10 characters digits)
    (same : sign plus ++ (characters ++ rest) = (Base.hex capital).lead ++ body) :
    value 10 digits = 0 ∧ (characters = [] ∨ rest ≠ []) := by
  cases plus with
  | true => cases capital <;> cases same
  | false =>
    cases characters with
    | nil =>
      rw [List.map_eq_nil_iff.mp spells.symm]
      exact ⟨rfl, .inl rfl⟩
    | cons first characters =>
      obtain ⟨digit, others, rfl, found, spells⟩ := spells.cons
      have zero : first = '0' := by cases capital <;> exact (List.cons.inj same).1
      have tail : characters ++ rest = (Base.hex capital).lead.tail ++ body := by
        cases capital <;> exact (List.cons.inj same).2
      cases characters with
      | nil =>
        obtain rfl := List.map_eq_nil_iff.mp spells.symm
        rw [zero] at found
        obtain rfl : 0 = digit := Option.some.inj found
        refine ⟨rfl, .inr ?_⟩
        rintro rfl
        cases capital <;> cases tail
      | cons second characters =>
        obtain ⟨digit', -, -, found, -⟩ := spells.cons
        have letter : second = 'x' ∨ second = 'X' := by
          cases capital
          · exact .inl (List.cons.inj tail).1
          · exact .inr (List.cons.inj tail).1
        obtain rfl | rfl := letter <;> cases found

/-- A text that begins with a number is read in the base of the number. -/
theorem parseUnsigned_writes {plus : Bool} {characters rest : List Char} {digits : List Nat}
    (spells : Spells base.radix characters digits) (more : characters ≠ [])
    (last : rest = [] ∨ value base.radix digits ≠ 0) :
    parseUnsigned bound (base.lead ++ (sign plus ++ (characters ++ rest))) =
      (fromStrRadix bound base.radix (sign plus ++ (characters ++ rest))).mapError
        IntErrorKind.toText := by
  cases base with
  | hex capital => exact parseUnsigned_hex capital _
  | decimal =>
    refine parseUnsigned_decimal fun capital body same => ?_
    obtain ⟨zero, after⟩ := decimal_of_lead spells same
    obtain none | some := last
    · exact after.elim more (absurd none)
    · exact some zero

/-! ### What is read -/

/-- What parsing `input` gives, when numbers below `bound` are wanted. -/
structure Exact (bound : Nat) (input : List Char) (parsed : Except String Nat) : Prop where
  number : ∀ number, parsed = .ok number ↔ number < bound ∧ Writes input number []
  tooLarge : parsed = .error IntErrorKind.posOverflow.toText ↔
    ∃ number rest, bound ≤ number ∧ Writes input number rest
  empty : parsed = .error IntErrorKind.empty.toText ↔ ∃ base : Base, input = base.lead
  otherwise : ∀ text, parsed = .error text → ∃ kind : IntErrorKind, text = kind.toText

theorem IntErrorKind.toText_inj {kind kind' : IntErrorKind} (same : kind.toText = kind'.toText) :
    kind = kind' := by
  cases kind <;> cases kind' <;> first | rfl | exact absurd same (by decide)

theorem mapError_toText_eq_error_iff {parsed : Except IntErrorKind Nat} {kind : IntErrorKind} :
    parsed.mapError IntErrorKind.toText = .error kind.toText ↔ parsed = .error kind := by
  cases parsed with
  | ok number => exact iff_of_false nofun nofun
  | error kind' =>
    constructor
    · intro same
      rw [IntErrorKind.toText_inj (Except.error.inj same)]
    · intro same
      rw [Except.error.inj same]
      rfl

theorem mapError_eq_ok_iff {parsed : Except IntErrorKind Nat} {number : Nat} :
    parsed.mapError IntErrorKind.toText = .ok number ↔ parsed = .ok number := by
  cases parsed with
  | ok number' => exact Iff.rfl.trans (by simp [Except.mapError])
  | error kind => exact iff_of_false nofun nofun

theorem parseUnsigned_eq_ok_iff (roomy : 0 < bound) {input : List Char} {number : Nat} :
    parseUnsigned bound input = .ok number ↔ number < bound ∧ Writes input number [] := by
  constructor
  · intro reads
    obtain ⟨base, body, rfl, parses⟩ := parseUnsigned_base bound input
    rw [parses, mapError_eq_ok_iff] at reads
    obtain ⟨fits, more, digits, spells, valued⟩ := (fromStrRadix_eq_ok_iff roomy).mp reads
    obtain ⟨plus, same⟩ := sign_unsigned body
    refine ⟨fits, base, plus, unsigned body, digits, ?_, more, spells, valued⟩
    rw [List.append_nil, ← same]
  · rintro ⟨fits, base, plus, characters, digits, rfl, more, spells, valued⟩
    rw [parseUnsigned_writes spells more (.inl rfl), mapError_eq_ok_iff,
      fromStrRadix_eq_ok_iff roomy, spells.unsigned more, List.append_nil]
    exact ⟨fits, more, digits, spells, valued⟩

theorem parseUnsigned_too_large_iff (roomy : 0 < bound) {input : List Char} :
    parseUnsigned bound input = .error IntErrorKind.posOverflow.toText ↔
      ∃ number rest, bound ≤ number ∧ Writes input number rest := by
  constructor
  · intro fails
    obtain ⟨base, body, rfl, parses⟩ := parseUnsigned_base bound input
    rw [parses, mapError_toText_eq_error_iff, fromStrRadix_overflow_iff roomy] at fails
    obtain ⟨characters, rest, digits, split, spells, large⟩ := fails
    obtain ⟨plus, same⟩ := sign_unsigned body
    refine ⟨_, rest, large, base, plus, characters, digits, ?_, ?_, spells, rfl⟩
    · rw [← split, ← same]
    · rintro rfl
      rw [List.map_eq_nil_iff.mp spells.symm] at large
      exact absurd large (Nat.not_le_of_lt roomy)
  · rintro ⟨number, rest, large, base, plus, characters, digits, rfl, more, spells, rfl⟩
    rw [parseUnsigned_writes spells more (.inr (Nat.ne_of_gt (Nat.lt_of_lt_of_le roomy large))),
      mapError_toText_eq_error_iff, fromStrRadix_overflow_iff roomy, spells.unsigned more]
    exact ⟨characters, rest, digits, rfl, spells, large⟩

theorem parseUnsigned_empty_iff {input : List Char} :
    parseUnsigned bound input = .error IntErrorKind.empty.toText ↔
      ∃ base : Base, input = base.lead := by
  constructor
  · intro fails
    obtain ⟨base, body, rfl, parses⟩ := parseUnsigned_base bound input
    rw [parses, mapError_toText_eq_error_iff, fromStrRadix_empty_iff] at fails
    exact ⟨base, by rw [fails, List.append_nil]⟩
  · rintro ⟨base, rfl⟩
    cases base with
    | decimal => rfl
    | hex capital =>
      rw [← List.append_nil (Base.hex capital).lead, parseUnsigned_hex]
      rfl

theorem parseUnsigned_exact (roomy : 0 < bound) (input : List Char) :
    Exact bound input (parseUnsigned bound input) where
  number _ := parseUnsigned_eq_ok_iff roomy
  tooLarge := parseUnsigned_too_large_iff roomy
  empty := parseUnsigned_empty_iff
  otherwise text fails := by
    obtain ⟨base, body, rfl, parses⟩ := parseUnsigned_base bound input
    rw [parses] at fails
    cases outcome : fromStrRadix bound base.radix body with
    | ok number =>
      rw [outcome] at fails
      cases fails
    | error kind =>
      rw [outcome] at fails
      exact ⟨kind, (Except.error.inj fails).symm⟩

theorem parseUnsigned_below (roomy : 0 < bound) {input : List Char} {number : Nat}
    (reads : parseUnsigned bound input = .ok number) : number < bound :=
  ((parseUnsigned_eq_ok_iff roomy).mp reads).1

theorem parseU32_toNat (input : List Char) :
    (parseU32 input).map UInt32.toNat = parseUnsigned (2 ^ 32) input := by
  unfold parseU32
  cases outcome : parseUnsigned (2 ^ 32) input with
  | error text => rfl
  | ok number =>
    have fits := parseUnsigned_below (by decide) outcome
    exact congrArg Except.ok (UInt32.toNat_ofNat_of_lt' fits)

theorem parseU8_toNat (input : List Char) :
    (parseU8 input).map UInt8.toNat = parseUnsigned (2 ^ 8) input := by
  unfold parseU8
  cases outcome : parseUnsigned (2 ^ 8) input with
  | error text => rfl
  | ok number =>
    have fits := parseUnsigned_below (by decide) outcome
    exact congrArg Except.ok (UInt8.toNat_ofNat_of_lt' fits)

/-- **The numbers of the command line.** A text is read as a number where it is, whole, a way to
write it and the number fits; it is called too large where it begins with a number that does not fit,
whatever comes after; it is called empty where there is nothing, or nothing after `0x` or `0X`; and
every other text is called invalid. -/
theorem numbers_read_exactly (input : List Char) :
    Exact (2 ^ 32) input ((parseU32 input).map UInt32.toNat) ∧
      Exact (2 ^ 8) input ((parseU8 input).map UInt8.toNat) := by
  rw [parseU32_toNat, parseU8_toNat]
  exact ⟨parseUnsigned_exact (by decide) input, parseUnsigned_exact (by decide) input⟩

/-- A number is not spelled in two ways that mean different numbers. -/
theorem Writes.unique {input : List Char} {number number' : Nat} (writes : Writes input number [])
    (writes' : Writes input number' []) : number = number' := by
  have reads : parseUnsigned (max number number' + 1) input = .ok number :=
    (parseUnsigned_eq_ok_iff (by omega)).mpr ⟨by omega, writes⟩
  rw [(parseUnsigned_eq_ok_iff (by omega)).mpr ⟨by omega, writes'⟩] at reads
  exact (Except.ok.inj reads).symm

/-! ### Every way to write a number -/

/-- The character of a digit, in small or large letters. -/
def figure (large : Bool) (digit : Nat) : Char :=
  if large then digit.digitChar.toUpper else digit.digitChar

/-- A number as a text: zeroes may stand before its digits, and a plus before them. -/
def render (base : Base) (plus large : Bool) (zeroes number : Nat) : List Char :=
  base.lead ++ (sign plus ++
    (List.replicate zeroes 0 ++ digitsOf base.radix number).map (figure large))

theorem toDigit_figure (base : Base) (large : Bool) {digit : Nat} (small : digit < base.radix) :
    toDigit base.radix (figure large digit) = some digit := by
  cases base with
  | decimal =>
    have small : digit < 10 := small
    cases large <;> interval_cases digit <;> rfl
  | hex capital =>
    have small : digit < 16 := small
    cases large <;> interval_cases digit <;> rfl

/-- **Every way to write a number is read as the number.** -/
theorem parseUnsigned_render (base : Base) (plus large : Bool) (zeroes : Nat) {number : Nat}
    (fits : number < bound) :
    parseUnsigned bound (render base plus large zeroes number) = .ok number := by
  refine (parseUnsigned_eq_ok_iff (Nat.zero_lt_of_lt fits)).mpr ⟨fits, base, plus,
    (List.replicate zeroes 0 ++ digitsOf base.radix number).map (figure large),
    List.replicate zeroes 0 ++ digitsOf base.radix number, ?_, ?_, ?_, ?_⟩
  · rw [List.append_nil]
    rfl
  · simp [digitsOf_ne_nil]
  · rw [Spells, List.map_map]
    refine List.map_congr_left fun digit member => toDigit_figure base large ?_
    obtain zero | member := List.mem_append.mp member
    · rw [List.eq_of_mem_replicate zero]
      exact base.radix_pos
    · exact lt_of_mem_digitsOf base.one_lt_radix member
  · rw [value_zeroes, value_digitsOf]

/-- Sector 64, where the first loader begins. -/
example : parseU32 "0x40".toList = .ok 64 := by
  rfl

end Rkusb.Util
