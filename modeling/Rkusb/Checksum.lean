/-
**Checksums** (`checksum.rs`, and what it uses of the `crc` crate).

`checksum_append_checksum`: a receiver that runs the checksum of 16 bits on over the checksum itself
ends at 0.
-/

import Mathlib.Algebra.Group.Nat.Defs
import Mathlib.Logic.Function.Iterate

namespace Rkusb

/-- `crc::Algorithm`, without the check values. -/
structure Algorithm (width : Nat) where
  poly : BitVec width
  init : BitVec width
  refin : Bool
  refout : Bool
  xorout : BitVec width

namespace Algorithm

variable {width : Nat} (algorithm : Algorithm width)

/-- One bit of the division by the polynomial. -/
def shift (register : BitVec width) : BitVec width :=
  if register.msb then register <<< 1 ^^^ algorithm.poly else register <<< 1

/-- One byte, its most significant bit first unless it is reflected. -/
def update (register : BitVec width) (byte : UInt8) : BitVec width :=
  let bits := if algorithm.refin then byte.toBitVec.reverse else byte.toBitVec
  algorithm.shift^[8] (register ^^^ bits.setWidth width <<< (width - 8))

def checksum (bytes : List UInt8) : BitVec width :=
  let register := bytes.foldl algorithm.update algorithm.init
  (if algorithm.refout then register.reverse else register) ^^^ algorithm.xorout

end Algorithm

def ROCKCHIP_CRC16 : Algorithm 16 where
  poly := 0x1021
  init := 0x0000
  refin := false
  refout := false
  xorout := 0x0000

/-- The digits from one to nine. -/
example : ROCKCHIP_CRC16.checksum [0x31, 0x32, 0x33, 0x34, 0x35, 0x36, 0x37, 0x38, 0x39] = 0x31c3 := by
  decide +kernel

/-- `crc::CRC_16_IBM_3740`. -/
def CRC_16_IBM_3740 : Algorithm 16 where
  poly := 0x1021
  init := 0xffff
  refin := false
  refout := false
  xorout := 0x0000

/-! ### The residue -/

namespace Algorithm

section Shifts

variable {width : Nat} (algorithm : Algorithm width)

/-- A register whose top bit is clear is only moved up. -/
theorem shift_of_lt {register : BitVec width} (small : 2 * register.toNat < 2 ^ width) :
    algorithm.shift register = register <<< 1 := by
  have clear : register.msb = false := by
    rw [BitVec.msb_eq_decide, decide_eq_false_iff_not]
    cases width with
    | zero => simp [BitVec.of_length_zero]
    | succ width =>
      rw [Nat.add_sub_cancel]
      rw [Nat.pow_succ] at small
      omega
  rw [shift, clear]
  rfl

/-- As long as nothing is shifted out, the polynomial is not added. -/
theorem iterate_shift_of_lt {register : BitVec width} {count : Nat}
    (small : 2 ^ count * register.toNat < 2 ^ width) :
    algorithm.shift^[count] register = register <<< count := by
  induction count with
  | zero => exact (BitVec.shiftLeft_zero register).symm
  | succ count ih =>
    rw [Nat.pow_succ, Nat.mul_comm _ 2, Nat.mul_assoc] at small
    have smaller : 2 ^ count * register.toNat < 2 ^ width :=
      Nat.lt_of_le_of_lt (Nat.le_mul_of_pos_left _ Nat.two_pos) small
    have moved : (register <<< count).toNat = 2 ^ count * register.toNat := by
      rw [BitVec.toNat_shiftLeft, Nat.shiftLeft_eq, Nat.mul_comm, Nat.mod_eq_of_lt smaller]
    rw [Function.iterate_succ_apply', ih smaller, algorithm.shift_of_lt (by rwa [moved]),
      BitVec.shiftLeft_add]

end Shifts

theorem high_toBitVec (crc16 : BitVec 16) :
    (UInt8.ofNat (crc16.toNat / 256)).toBitVec = (crc16 >>> 8).setWidth 8 := by
  have small := crc16.isLt
  refine BitVec.eq_of_toNat_eq ?_
  rw [BitVec.toNat_setWidth, BitVec.toNat_ushiftRight, Nat.shiftRight_eq_div_pow]
  exact UInt8.toNat_ofNat'

theorem low_toBitVec (crc16 : BitVec 16) :
    (UInt8.ofNat (crc16.toNat % 256)).toBitVec = crc16.setWidth 8 := by
  refine BitVec.eq_of_toNat_eq ?_
  rw [BitVec.toNat_setWidth]
  exact UInt8.toNat_ofNat'.trans (Nat.mod_mod _ _)

/-- The high byte of the register clears it, and leaves the low byte in its place. -/
theorem xor_high (register : BitVec 16) :
    register ^^^ ((register >>> 8).setWidth 8).setWidth 16 <<< 8 =
      (register.setWidth 8).setWidth 16 := by
  refine BitVec.eq_of_getLsbD_eq fun index inside => ?_
  rw [BitVec.getLsbD_xor, BitVec.getLsbD_shiftLeft]
  simp only [BitVec.getLsbD_setWidth, BitVec.getLsbD_ushiftRight]
  by_cases low : index < 8
  · simp [low, inside]
  · have above : 8 + (index - 8) = index := by omega
    simp [low, inside, above, show index - 8 < 16 by omega, show index - 8 < 8 by omega]

/-- One byte of an algorithm of 16 bits that is not reflected. -/
theorem update_eq {algorithm : Algorithm 16} (straight : algorithm.refin = false)
    (register : BitVec 16) (byte : UInt8) :
    algorithm.update register byte =
      algorithm.shift^[8] (register ^^^ byte.toBitVec.setWidth 16 <<< 8) := by
  unfold update
  rw [straight, if_neg Bool.false_ne_true]

/-- A register that is updated with its own two bytes, the high one first, is cleared. -/
theorem foldl_update_self {algorithm : Algorithm 16} (straight : algorithm.refin = false)
    (register : BitVec 16) :
    [UInt8.ofNat (register.toNat / 256), UInt8.ofNat (register.toNat % 256)].foldl
      algorithm.update register = 0 := by
  have lowByte : ((register.setWidth 8).setWidth 16).toNat < 2 ^ 8 := by
    rw [BitVec.toNat_setWidth_of_le (by decide)]
    exact (register.setWidth 8).isLt
  have first : algorithm.update register (UInt8.ofNat (register.toNat / 256)) =
      (register.setWidth 8).setWidth 16 <<< 8 := by
    rw [update_eq straight, high_toBitVec, xor_high, algorithm.iterate_shift_of_lt]
    exact Nat.mul_lt_mul_of_pos_left lowByte (by decide)
  rw [List.foldl_cons, List.foldl_cons, List.foldl_nil, first, update_eq straight, low_toBitVec,
    BitVec.xor_self, algorithm.iterate_shift_of_lt (by decide)]
  exact BitVec.zero_shiftLeft _

/-- **The residue**: data that is followed by its checksum has the checksum 0. -/
theorem checksum_append_checksum {algorithm : Algorithm 16} (straight : algorithm.refin = false)
    (unreflected : algorithm.refout = false) (plain : algorithm.xorout = 0) (data : List UInt8) :
    algorithm.checksum (data ++ [UInt8.ofNat ((algorithm.checksum data).toNat / 256),
      UInt8.ofNat ((algorithm.checksum data).toNat % 256)]) = 0 := by
  have register (bytes : List UInt8) :
      algorithm.checksum bytes = bytes.foldl algorithm.update algorithm.init := by
    unfold checksum
    dsimp only
    rw [unreflected, plain, if_neg Bool.false_ne_true]
    exact BitVec.xor_zero
  rw [register, register, List.foldl_append, foldl_update_self straight]

end Algorithm

end Rkusb
