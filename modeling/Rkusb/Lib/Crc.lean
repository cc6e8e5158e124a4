/-
**Cyclic redundancy checks**, on registers of any width.

A register takes bits in at its top, the first bit first, and is divided by a polynomial.

* `feed_ne_of_burst`: two streams that differ in a burst no longer than the register leave different
  registers, if the polynomial has a constant term.
* `feed_ne_of_odd`: so do two streams that differ in an odd number of bits, if the polynomial, with
  its leading term, has an even number of terms.
* `Disturbed.zipWith_xor`: neither kind of error is hidden or made by a cipher that adds a keystream.
-/

import Mathlib.Algebra.Ring.Parity
import Mathlib.Logic.Function.Iterate

namespace Crc

variable {width : Nat} (poly : BitVec width)

/-- One step of the division: the polynomial, if a bit leaves at the top. -/
def shift (register : BitVec width) : BitVec width :=
  if register.msb then register <<< 1 ^^^ poly else register <<< 1

/-- A bit at the top of a register. -/
def top (bit : Bool) : BitVec width := if bit then BitVec.intMin width else 0

def takeIn (register : BitVec width) (bit : Bool) : BitVec width := shift poly (register ^^^ top bit)

def feed (register : BitVec width) (bits : List Bool) : BitVec width :=
  bits.foldl (takeIn poly) register

@[simp] theorem feed_nil (register : BitVec width) : feed poly register [] = register := rfl

@[simp] theorem feed_cons (register : BitVec width) (bit : Bool) (bits : List Bool) :
    feed poly register (bit :: bits) = feed poly (takeIn poly register bit) bits := rfl

@[simp] theorem feed_append (register : BitVec width) (bits more : List Bool) :
    feed poly register (bits ++ more) = feed poly (feed poly register bits) more :=
  List.foldl_append

/-! ### Sums -/

theorem xor_xor_cancel (first second common : BitVec width) :
    first ^^^ common ^^^ (second ^^^ common) = first ^^^ second := by
  rw [BitVec.xor_assoc, BitVec.xor_comm second, ← BitVec.xor_assoc common, BitVec.xor_self,
    BitVec.zero_xor]

theorem shift_xor (first second : BitVec width) :
    shift poly (first ^^^ second) = shift poly first ^^^ shift poly second := by
  unfold shift
  rw [BitVec.msb_xor, BitVec.shiftLeft_xor_distrib]
  cases first.msb with
  | false =>
    cases second.msb with
    | false => rfl
    | true => exact BitVec.xor_assoc _ _ _
  | true =>
    cases second.msb with
    | false =>
      show _ ^^^ _ ^^^ poly = _ ^^^ poly ^^^ second <<< 1
      rw [BitVec.xor_assoc, BitVec.xor_comm _ poly, BitVec.xor_assoc]
    | true => exact (xor_xor_cancel _ _ poly).symm

theorem top_xor (first second : Bool) :
    (top (first ^^ second) : BitVec width) = top first ^^^ top second := by
  cases first <;> cases second <;> simp [top]

theorem takeIn_xor (first second : BitVec width) (bit other : Bool) :
    takeIn poly (first ^^^ second) (bit ^^ other) =
      takeIn poly first bit ^^^ takeIn poly second other := by
  rw [takeIn, takeIn, takeIn, ← shift_xor, top_xor]
  refine congrArg (shift poly) ?_
  ac_rfl

/-- The sum of two streams leaves the sum of the registers. -/
theorem feed_xor (first second : BitVec width) {bits others : List Bool}
    (same : bits.length = others.length) :
    feed poly (first ^^^ second) (List.zipWith xor bits others) =
      feed poly first bits ^^^ feed poly second others := by
  induction bits generalizing first second others with
  | nil =>
    cases others with
    | nil => rfl
    | cons => cases same
  | cons bit bits ih =>
    cases others with
    | nil => cases same
    | cons other others =>
      rw [List.zipWith_cons_cons, feed_cons, feed_cons, feed_cons, takeIn_xor]
      exact ih _ _ (Nat.succ.inj same)

/-! ### Several bits at once -/

/-- Bits at the top of a register, the first one highest. -/
def word : List Bool → BitVec width
  | [] => BitVec.ofNat width 0
  | bit :: bits => top bit ^^^ word bits >>> 1

theorem getMsbD_top (bit : Bool) {index : Nat} (inside : index < width) :
    (top bit : BitVec width).getMsbD index = (bit && decide (index = 0)) := by
  cases bit with
  | false => exact BitVec.getMsbD_zero
  | true =>
    rw [top, if_pos rfl, BitVec.getMsbD_intMin, decide_eq_true (Nat.zero_lt_of_lt inside)]

theorem getMsbD_word (bits : List Bool) {index : Nat} (inside : index < width) :
    (word bits : BitVec width).getMsbD index = bits[index]?.getD false := by
  induction bits generalizing index with
  | nil => exact BitVec.getMsbD_zero
  | cons bit bits ih =>
    rw [word, BitVec.getMsbD_xor, getMsbD_top bit inside, BitVec.getMsbD_ushiftRight,
      decide_eq_true inside]
    cases index with
    | zero => simp
    | succ index => simp [ih (Nat.lt_of_succ_lt inside)]

theorem shift_ushiftRight_word {bits : List Bool} (fits : bits.length < width) :
    shift poly (word bits >>> 1) = word bits := by
  have clear : (word bits >>> 1 : BitVec width).msb = false := by
    rw [BitVec.msb_ushiftRight]
    rfl
  rw [shift, clear, if_neg Bool.false_ne_true]
  refine BitVec.eq_of_getMsbD_eq fun index inside => ?_
  rw [BitVec.getMsbD_shiftLeft, BitVec.getMsbD_ushiftRight]
  by_cases last : index + 1 < width
  · simp [last]
  · rw [getMsbD_word bits inside, List.getElem?_eq_none (by omega), decide_eq_false last]
    rfl

/-- Bits that fit into the register are added to it before it is shifted. -/
theorem feed_eq (register : BitVec width) {bits : List Bool} (fits : bits.length ≤ width) :
    feed poly register bits = (shift poly)^[bits.length] (register ^^^ word bits) := by
  induction bits generalizing register with
  | nil => exact (BitVec.xor_zero).symm
  | cons bit bits ih =>
    rw [List.length_cons] at fits
    rw [feed_cons, ih _ (Nat.le_of_succ_le fits), List.length_cons, Function.iterate_succ_apply,
      word, ← BitVec.xor_assoc, shift_xor, shift_ushiftRight_word poly fits]
    rfl

/-- The bits of a number, the highest first. -/
def bitsOf {size : Nat} (value : BitVec size) : List Bool := (List.range size).map value.getMsbD

@[simp] theorem length_bitsOf {size : Nat} (value : BitVec size) :
    (bitsOf value).length = size := by
  simp [bitsOf]

theorem word_bitsOf {size : Nat} (value : BitVec size) (fits : size ≤ width) :
    word (bitsOf value) = value.setWidth width <<< (width - size) := by
  refine BitVec.eq_of_getMsbD_eq fun index inside => ?_
  rw [getMsbD_word _ inside, BitVec.getMsbD_shiftLeft, BitVec.getMsbD_setWidth,
    decide_eq_true (Nat.le_add_left _ _), Bool.true_and,
    show index + (width - size) + size - width = index by omega, bitsOf, List.getElem?_map]
  by_cases below : index < size
  · rw [List.getElem?_range below]
    rfl
  · rw [List.getElem?_eq_none (by simpa using below), BitVec.getMsbD_of_ge _ _ (by omega)]
    rfl

/-! ### Bursts -/

section Bursts

variable {poly}

/-- Some bit up to the index is set. -/
def SetUpTo (index : Nat) (register : BitVec width) : Prop :=
  ∃ place ≤ index, register.getLsbD place = true

theorem SetUpTo.ne_zero {index : Nat} {register : BitVec width} (set : SetUpTo index register) :
    register ≠ BitVec.ofNat width 0 := by
  rintro rfl
  obtain ⟨place, -, found⟩ := set
  rw [BitVec.getLsbD_zero] at found
  cases found

theorem getLsbD_top (bit : Bool) (index : Nat) :
    (top bit : BitVec width).getLsbD index = (bit && decide (index + 1 = width)) := by
  cases bit
  · exact BitVec.getLsbD_zero
  · exact BitVec.getLsbD_intMin width

/-- What leaves at the top comes in at the bottom with the constant term. -/
theorem getLsbD_shift_zero (constant : poly.getLsbD 0 = true) (register : BitVec width) :
    (shift poly register).getLsbD 0 = register.msb := by
  unfold shift
  cases register.msb with
  | false => simp [BitVec.getLsbD_shiftLeft]
  | true => rw [if_pos rfl, BitVec.getLsbD_xor, constant, BitVec.getLsbD_shiftLeft]; simp

theorem getLsbD_shift_succ {register : BitVec width} (stays : register.msb = false) {index : Nat}
    (inside : index + 1 < width) :
    (shift poly register).getLsbD (index + 1) = register.getLsbD index := by
  rw [shift, stays, if_neg Bool.false_ne_true, BitVec.getLsbD_shiftLeft, decide_eq_true inside]
  simp

/-- A bit below the top moves up by one, or the constant term comes in at the bottom. -/
theorem SetUpTo.takeIn {index : Nat} {register : BitVec width} (constant : poly.getLsbD 0 = true)
    (set : SetUpTo index register) (below : index + 1 < width) (bit : Bool) :
    SetUpTo (index + 1) (takeIn poly register bit) := by
  obtain ⟨place, within, found⟩ := set
  have kept : (register ^^^ top bit).getLsbD place = true := by
    rw [BitVec.getLsbD_xor, found, getLsbD_top, decide_eq_false (by omega), Bool.and_false,
      Bool.xor_false]
  cases leaves : (register ^^^ top bit).msb with
  | true => exact ⟨0, Nat.zero_le _, (getLsbD_shift_zero constant _).trans leaves⟩
  | false =>
    exact ⟨place + 1, Nat.succ_le_succ within, (getLsbD_shift_succ leaves (by omega)).trans kept⟩

theorem SetUpTo.feed {index : Nat} {register : BitVec width} (constant : poly.getLsbD 0 = true)
    (set : SetUpTo index register) {bits : List Bool} (fits : index + bits.length < width) :
    SetUpTo (index + bits.length) (feed poly register bits) := by
  induction bits generalizing index register with
  | nil => exact set
  | cons bit bits ih =>
    rw [List.length_cons] at fits ⊢
    have next := ih (set.takeIn constant (by omega) bit) (by omega)
    rwa [Nat.add_assoc, Nat.add_comm 1] at next

/-- Only the empty register is shifted to the empty one. -/
theorem shift_eq_zero {register : BitVec width} (constant : poly.getLsbD 0 = true)
    (zero : shift poly register = BitVec.ofNat width 0) : register = BitVec.ofNat width 0 := by
  have stays : register.msb = false := by
    rw [← getLsbD_shift_zero constant, zero, BitVec.getLsbD_zero]
  refine BitVec.eq_of_getLsbD_eq fun index inside => ?_
  rw [BitVec.getLsbD_zero]
  by_cases last : index + 1 = width
  · subst last
    rwa [BitVec.msb_eq_getLsbD_last] at stays
  · rw [← getLsbD_shift_succ stays (by omega), zero, BitVec.getLsbD_zero]

/-- No bits make different registers equal. -/
theorem feed_injective (constant : poly.getLsbD 0 = true) (bits : List Bool) :
    Function.Injective fun register => feed poly register bits := by
  intro first second same
  induction bits generalizing first second with
  | nil => exact same
  | cons bit bits ih =>
    have step : takeIn poly first bit = takeIn poly second bit := ih same
    have difference : shift poly (first ^^^ top bit ^^^ (second ^^^ top bit)) =
        BitVec.ofNat width 0 := by
      rw [shift_xor]
      exact BitVec.xor_eq_zero_iff.mpr step
    have none := shift_eq_zero constant difference
    rw [xor_xor_cancel] at none
    exact BitVec.xor_eq_zero_iff.mp none

/-- A single bit brings in the polynomial. -/
theorem takeIn_true (positive : 0 < width) : takeIn poly (BitVec.ofNat width 0) true = poly := by
  have leaves : (BitVec.intMin width).msb = true := by
    rw [BitVec.msb_intMin, decide_eq_true positive]
  have gone : BitVec.intMin width <<< 1 = BitVec.ofNat width 0 := by
    refine BitVec.eq_of_getLsbD_eq fun index inside => ?_
    rw [BitVec.getLsbD_shiftLeft, BitVec.getLsbD_intMin, BitVec.getLsbD_zero]
    cases index with
    | zero => simp
    | succ index => simp [show index + 1 ≠ width by omega]
  rw [takeIn, BitVec.zero_xor, top, if_pos rfl, shift, leaves, if_pos rfl, gone, BitVec.zero_xor]

/-- Runs of bits no longer than the register, of which the first differ. -/
theorem feed_cons_ne (constant : poly.getLsbD 0 = true) (register : BitVec width)
    {bit other : Bool} {bits others : List Bool} (differ : bit ≠ other)
    (same : bits.length = others.length) (fits : bits.length < width) :
    feed poly register (bit :: bits) ≠ feed poly register (other :: others) := by
  intro equal
  have set : (bit ^^ other) = true := by
    cases bit <;> cases other <;> first | rfl | exact absurd rfl differ
  have zero := feed_xor poly register register
    (show (bit :: bits).length = (other :: others).length from congrArg Nat.succ same)
  rw [equal, BitVec.xor_self, BitVec.xor_self, List.zipWith_cons_cons, set, feed_cons,
    takeIn_true (Nat.zero_lt_of_lt fits)] at zero
  have length : (List.zipWith xor bits others).length = bits.length := by
    rw [List.length_zipWith, same, Nat.min_self]
  have start : SetUpTo 0 poly := ⟨0, Nat.le_refl 0, constant⟩
  exact (start.feed constant (by omega)).ne_zero zero

/-- Two streams that differ in a burst: the same bits before and after runs of one length that
differ. -/
def Burst (length : Nat) (bits others : List Bool) : Prop :=
  ∃ before run other after, bits = before ++ run ++ after ∧ others = before ++ other ++ after ∧
    run.length = other.length ∧ run.length ≤ length ∧ run ≠ other

/-- **A burst is noticed.** -/
theorem feed_ne_of_burst (constant : poly.getLsbD 0 = true) (register : BitVec width)
    {bits others : List Bool} (burst : Burst width bits others) :
    feed poly register bits ≠ feed poly register others := by
  obtain ⟨before, run, other, after, rfl, rfl, same, fits, differ⟩ := burst
  intro equal
  rw [feed_append, feed_append, feed_append, feed_append] at equal
  have runs := feed_injective constant after equal
  generalize feed poly register before = register at runs
  clear equal
  -- the runs differ from some bit on
  induction run generalizing register other with
  | nil => exact differ (List.eq_nil_of_length_eq_zero same.symm).symm
  | cons bit run ih =>
    cases other with
    | nil => cases same
    | cons bit' other =>
      by_cases first : bit = bit'
      · subst first
        refine ih other (Nat.succ.inj same) (Nat.le_of_succ_le fits) (fun equal => ?_) _ runs
        exact differ (congrArg (bit :: ·) equal)
      · exact feed_cons_ne constant register first (Nat.succ.inj same) fits runs

end Bursts

/-! ### Parity -/

section Parity

variable {poly}

/-- The sum of the bits below the index. -/
def parityBelow (register : BitVec width) : Nat → Bool
  | 0 => false
  | index + 1 => parityBelow register index ^^ register.getLsbD index

def parity (register : BitVec width) : Bool := parityBelow register width

theorem parityBelow_xor (first second : BitVec width) (index : Nat) :
    parityBelow (first ^^^ second) index =
      (parityBelow first index ^^ parityBelow second index) := by
  induction index with
  | zero => rfl
  | succ index ih =>
    rw [parityBelow, ih, BitVec.getLsbD_xor, Bool.xor_assoc, Bool.xor_left_comm (parityBelow second _),
      ← Bool.xor_assoc]
    rfl

theorem parity_xor (first second : BitVec width) :
    parity (first ^^^ second) = (parity first ^^ parity second) := parityBelow_xor _ _ _

theorem parityBelow_shiftLeft (register : BitVec width) {index : Nat} (inside : index < width) :
    parityBelow (register <<< 1) (index + 1) = parityBelow register index := by
  induction index with
  | zero => simp [parityBelow]
  | succ index ih =>
    rw [parityBelow, ih (Nat.lt_of_succ_lt inside), parityBelow, BitVec.getLsbD_shiftLeft,
      decide_eq_true inside]
    simp

/-- What leaves at the top is what the terms of the polynomial bring in. -/
theorem parity_shift (even : parity poly = true) (register : BitVec width) :
    parity (shift poly register) = parity register := by
  cases width with
  | zero => rfl
  | succ width =>
    have moved : parity (register <<< 1) = parityBelow register width :=
      parityBelow_shiftLeft register width.lt_succ_self
    have split : parity register = (parityBelow register width ^^ register.msb) := by
      rw [BitVec.msb_eq_getLsbD_last]
      rfl
    rw [split, shift]
    cases register.msb with
    | false => rw [if_neg Bool.false_ne_true, moved, Bool.xor_false]
    | true => rw [if_pos rfl, parity_xor, moved, even]

theorem parityBelow_top (bit : Bool) {index : Nat} (below : index < width) :
    parityBelow (top bit : BitVec width) index = false := by
  induction index with
  | zero => rfl
  | succ index ih =>
    rw [parityBelow, ih (Nat.lt_of_succ_lt below), getLsbD_top, decide_eq_false (by omega),
      Bool.and_false]
    rfl

theorem parity_takeIn (even : parity poly = true) (register : BitVec width) (bit : Bool) :
    parity (takeIn poly register bit) = (parity register ^^ bit) := by
  rw [takeIn, parity_shift even, parity_xor]
  cases width with
  | zero => cases even
  | succ width =>
    refine congrArg (parity register ^^ ·) ?_
    rw [parity, parityBelow, parityBelow_top bit width.lt_succ_self, getLsbD_top,
      decide_eq_true rfl, Bool.and_true, Bool.false_xor]

theorem parity_feed (even : parity poly = true) (register : BitVec width) (bits : List Bool) :
    parity (feed poly register bits) = (parity register ^^ decide (Odd (bits.count true))) := by
  induction bits generalizing register with
  | nil => simp
  | cons bit bits ih =>
    rw [feed_cons, ih, parity_takeIn even, Bool.xor_assoc]
    cases bit with
    | false => simp
    | true =>
      rw [List.count_cons_self, Bool.true_xor, ← decide_not]
      exact congrArg (parity register ^^ ·) (decide_eq_decide.mpr Nat.odd_add_one.symm)

/-- Two streams of one length that differ in an odd number of bits. -/
def OddlyMany (bits others : List Bool) : Prop :=
  bits.length = others.length ∧ Odd ((List.zipWith xor bits others).count true)

/-- **An odd number of errors is noticed.** -/
theorem feed_ne_of_odd (even : parity poly = true) (register : BitVec width)
    {bits others : List Bool} (odd : OddlyMany bits others) :
    feed poly register bits ≠ feed poly register others := by
  intro equal
  have sum := feed_xor poly register register odd.1
  rw [equal, BitVec.xor_self, BitVec.xor_self] at sum
  have difference := parity_feed even (BitVec.ofNat width 0) (List.zipWith xor bits others)
  rw [sum, decide_eq_true odd.2, Bool.xor_true] at difference
  cases none : parity (BitVec.ofNat width 0) <;> rw [none] at difference <;> cases difference

end Parity

/-! ### Errors under a keystream -/

/-- Errors that a register notices. -/
def Disturbed (length : Nat) (bits others : List Bool) : Prop :=
  Burst length bits others ∨ OddlyMany bits others

theorem feed_ne_of_disturbed {poly : BitVec width} (constant : poly.getLsbD 0 = true)
    (even : parity poly = true) (register : BitVec width) {bits others : List Bool}
    (disturbed : Disturbed width bits others) :
    feed poly register bits ≠ feed poly register others := by
  rcases disturbed with burst | odd
  · exact feed_ne_of_burst constant register burst
  · exact feed_ne_of_odd even register odd

theorem Disturbed.length_eq {length : Nat} {bits others : List Bool}
    (disturbed : Disturbed length bits others) : bits.length = others.length := by
  rcases disturbed with ⟨before, run, other, after, rfl, rfl, same, -, -⟩ | odd
  · simp [same]
  · exact odd.1

/-- Adding the same bits to two streams keeps their sum. -/
theorem zipWith_xor_zipWith_xor {bits others : List Bool} (mask : List Bool)
    (same : bits.length = others.length) (covered : bits.length = mask.length) :
    List.zipWith xor (List.zipWith xor bits mask) (List.zipWith xor others mask) =
      List.zipWith xor bits others := by
  have cancels : ∀ first second common : Bool,
      ((first ^^ common) ^^ (second ^^ common)) = (first ^^ second) := by decide
  refine List.ext_getElem (by simp [← same, ← covered]) fun index _ inside => ?_
  simp only [List.getElem_zipWith]
  exact cancels _ _ _

theorem zipWith_xor_injective {bits others : List Bool} (mask : List Bool)
    (same : bits.length = others.length) (covered : bits.length = mask.length)
    (equal : List.zipWith xor bits mask = List.zipWith xor others mask) : bits = others := by
  refine List.ext_getElem same fun index inside _ => ?_
  have added := congrArg (·[index]?) equal
  have within : index < mask.length := covered ▸ inside
  simpa [List.getElem?_zipWith, inside, same ▸ inside, within] using added

theorem Burst.zipWith_xor {length : Nat} {bits others : List Bool} (mask : List Bool)
    (covered : bits.length = mask.length) (burst : Burst length bits others) :
    Burst length (List.zipWith xor bits mask) (List.zipWith xor others mask) := by
  obtain ⟨before, run, other, after, rfl, rfl, same, fits, differ⟩ := burst
  simp only [List.length_append] at covered
  -- the bits that are added to the run
  have added : mask = mask.take before.length ++ (mask.drop before.length).take run.length ++
      (mask.drop before.length).drop run.length := by
    rw [List.append_assoc, List.take_append_drop, List.take_append_drop]
  rw [added, List.zipWith_append (by simp; omega), List.zipWith_append (by simp; omega),
    List.zipWith_append (by simp; omega), List.zipWith_append (by simp; omega)]
  refine ⟨_, _, _, _, rfl, rfl, by simp [same], ?_, fun equal => differ ?_⟩
  · rw [List.length_zipWith]
    exact le_trans (Nat.min_le_left _ _) fits
  · exact zipWith_xor_injective _ same (by simp; omega) equal

/-- **A keystream that is added keeps the errors.** -/
theorem Disturbed.zipWith_xor {length : Nat} {bits others : List Bool} (mask : List Bool)
    (covered : bits.length = mask.length) (disturbed : Disturbed length bits others) :
    Disturbed length (List.zipWith xor bits mask) (List.zipWith xor others mask) := by
  have same := disturbed.length_eq
  rcases disturbed with burst | odd
  · exact .inl (burst.zipWith_xor mask covered)
  · refine .inr ⟨by simp [same], ?_⟩
    rw [zipWith_xor_zipWith_xor mask same covered]
    exact odd.2

end Crc
