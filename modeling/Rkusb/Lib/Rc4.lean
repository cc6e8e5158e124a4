/-
**The RC4 cipher.**

The state is a permutation of the bytes with two indices. The permutation is a number whose digits in
base 256 are its values, so that the kernel can run the cipher.
-/

import Mathlib.Algebra.Group.Nat.Defs

namespace Rc4

/-- The value of a permutation at an index. -/
def valueAt (permutation index : Nat) : Nat := permutation / 256 ^ index % 256

/-- The permutation with two of its values exchanged. -/
def swap (permutation i j : Nat) : Nat :=
  let x := valueAt permutation i
  let y := valueAt permutation j
  permutation + y * 256 ^ i + x * 256 ^ j - x * 256 ^ i - y * 256 ^ j

structure State where
  permutation : Nat
  i : Nat
  j : Nat

/-- The numbers below a bound, each at its own index. -/
def identity : Nat → Nat
  | 0 => 0
  | count + 1 => identity count + count * 256 ^ count

/-- The key schedule after a number of rounds. -/
def schedule (key : List UInt8) : Nat → State
  | 0 => ⟨identity 256, 0, 0⟩
  | rounds + 1 =>
      match schedule key rounds with
      | ⟨permutation, i, j⟩ =>
          let j := (j + valueAt permutation i + (key.getD (i % key.length) 0).toNat) % 256
          ⟨swap permutation i j, i + 1, j⟩

/-- The generator after a number of bytes. -/
def generate (key : List UInt8) : Nat → State
  | 0 => ⟨(schedule key 256).permutation, 0, 0⟩
  | count + 1 =>
      match generate key count with
      | ⟨permutation, i, j⟩ =>
          let i := (i + 1) % 256
          let j := (j + valueAt permutation i) % 256
          ⟨swap permutation i j, i, j⟩

/-- A byte of the keystream. -/
def keystream (key : List UInt8) (index : Nat) : UInt8 :=
  let state := generate key (index + 1)
  let sum := valueAt state.permutation state.i + valueAt state.permutation state.j
  UInt8.ofNat (valueAt state.permutation (sum % 256))

example : (List.range 4).map (keystream [0x4b, 0x65, 0x79]) = [0xeb, 0x9f, 0x77, 0x81] := by
  decide +kernel

end Rc4
