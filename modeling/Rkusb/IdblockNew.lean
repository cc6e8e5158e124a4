/-
**The new IDBlock format** (`build_idblock` of `idblock/new.rs`, and of `idblock/mod.rs`).

Here the loader brings its own header. The block is this header, the DDR code and the loader, each
padded to a multiple of 2048 bytes, and all of its sectors may be encrypted.
`new_idblock_reversible`: the three files are recovered from the block, and its payload is the one
of the old format.
-/

import Rkusb.Idblock
import Rkusb.Lib.Rc4

namespace Rkusb.Idblock

open Bytes

namespace New

section Build

variable (rc4 : List UInt8 → Nat → UInt8)

def buildIdblock (loaderHead ddr loader : List UInt8) (rc4Enabled : Bool) :
    Except IdBlockError (List UInt8) := do
  let headLen := nextMultipleOf loaderHead.length IDBLOCK_ALIGNMENT
  let ddrLen := nextMultipleOf ddr.length IDBLOCK_ALIGNMENT
  let loaderLen := nextMultipleOf loader.length IDBLOCK_ALIGNMENT
  let totalLen ← checkedUsize (headLen + ddrLen)
  let totalLen ← checkedUsize (totalLen + loaderLen)
  let idblock := List.replicate totalLen 0
  let headArea := idblock.take headLen
  let payloadRest := idblock.drop headLen
  let ddrArea := payloadRest.take ddrLen
  let loaderArea := payloadRest.drop ddrLen
  let headArea := copyAt headArea 0 loaderHead
  let ddrArea := copyAt ddrArea 0 ddr
  let loaderArea := copyAt loaderArea 0 loader
  let areas := [headArea, ddrArea, loaderArea]
  let areas :=
    if rc4Enabled then
      areas.map fun sectors => mapChunks SECTOR_SIZE (applyKeystream (rc4 RC4_KEY)) sectors
    else areas
  pure areas.flatten

end Build

end New

/-- `build_idblock` of `idblock/mod.rs`: a loader with a header gets a block of the new format. -/
def buildIdblock (rc4 : List UInt8 → Nat → UInt8) (rkCrc : List UInt8 → UInt32)
    (loaderHead : Option (List UInt8)) (ddr loader : List UInt8) (rc4Enabled : Bool) :
    Except IdBlockError (List UInt8) :=
  match loaderHead with
  | some loaderHead => New.buildIdblock rc4 loaderHead ddr loader rc4Enabled
  | none => Old.buildIdblock rc4 rkCrc ddr loader rc4Enabled

namespace New

open Old (padded length_padded length_padded_sectors sectorCount crypted length_crypted
  crypted_append sectorSize_pos copyAt_zeroes payload_of_ok IDBLOCK_HEADER_SECTORS)

/-! ### The block that is built -/

/-- The length of the block. -/
def totalLen (loaderHead ddr loader : List UInt8) : Nat :=
  nextMultipleOf loaderHead.length IDBLOCK_ALIGNMENT + nextMultipleOf ddr.length IDBLOCK_ALIGNMENT +
    nextMultipleOf loader.length IDBLOCK_ALIGNMENT

variable {rc4 : List UInt8 → Nat → UInt8} {rc4Enabled : Bool}

/-- The areas, filled from their zeroes. -/
theorem areas_eq (loaderHead ddr loader : List UInt8) :
    let headLen := nextMultipleOf loaderHead.length IDBLOCK_ALIGNMENT
    let ddrLen := nextMultipleOf ddr.length IDBLOCK_ALIGNMENT
    let idblock := List.replicate (totalLen loaderHead ddr loader) (0 : UInt8)
    copyAt (idblock.take headLen) 0 loaderHead = padded loaderHead ∧
      copyAt ((idblock.drop headLen).take ddrLen) 0 ddr = padded ddr ∧
      copyAt ((idblock.drop headLen).drop ddrLen) 0 loader = padded loader := by
  intro headLen ddrLen idblock
  have loaderFirst : totalLen loaderHead ddr loader =
      headLen + (ddrLen + nextMultipleOf loader.length IDBLOCK_ALIGNMENT) := Nat.add_assoc _ _ _
  refine ⟨?_, ?_, ?_⟩
  · rw [List.take_replicate, loaderFirst, Nat.min_eq_left (Nat.le_add_right _ _)]
    exact copyAt_zeroes loaderHead
  · rw [List.drop_replicate, loaderFirst, Nat.add_sub_cancel_left, List.take_replicate,
      Nat.min_eq_left (Nat.le_add_right _ _)]
    exact copyAt_zeroes ddr
  · rw [List.drop_replicate, loaderFirst, Nat.add_sub_cancel_left, List.drop_replicate,
      Nat.add_sub_cancel_left]
    exact copyAt_zeroes loader

/-- **The result.** Each area is encrypted on its own. -/
theorem buildIdblock_eq (loaderHead ddr loader : List UInt8)
    (fits : totalLen loaderHead ddr loader < 2 ^ 64) :
    buildIdblock rc4 loaderHead ddr loader rc4Enabled =
      .ok (crypted rc4 rc4Enabled (padded loaderHead) ++
        (crypted rc4 rc4Enabled (padded ddr) ++ crypted rc4 rc4Enabled (padded loader))) := by
  obtain ⟨headArea, ddrArea, loaderArea⟩ := areas_eq loaderHead ddr loader
  have headFits : nextMultipleOf loaderHead.length IDBLOCK_ALIGNMENT +
      nextMultipleOf ddr.length IDBLOCK_ALIGNMENT < 2 ^ 64 :=
    Nat.lt_of_le_of_lt (Nat.le_add_right _ _) fits
  unfold totalLen at fits headArea ddrArea loaderArea
  unfold buildIdblock
  dsimp only
  rw [Old.checkedUsize_ok headFits]
  dsimp only [bind, Except.bind]
  rw [Old.checkedUsize_ok fits]
  dsimp only [pure, Except.pure]
  rw [headArea, ddrArea, loaderArea]
  cases rc4Enabled with
  | false => simp [crypted]
  | true => simp [crypted, Old.cryptSectors]

/-- The areas are encrypted together: the sectors of one do not reach into the next. -/
theorem buildIdblock_eq_crypted (loaderHead ddr loader : List UInt8)
    (fits : totalLen loaderHead ddr loader < 2 ^ 64) :
    buildIdblock rc4 loaderHead ddr loader rc4Enabled =
      .ok (crypted rc4 rc4Enabled (padded loaderHead ++ (padded ddr ++ padded loader))) := by
  rw [buildIdblock_eq loaderHead ddr loader fits,
    crypted_append _ (length_padded_sectors loaderHead), crypted_append _ (length_padded_sectors ddr)]

theorem length_areas (loaderHead ddr loader : List UInt8) :
    (padded loaderHead ++ (padded ddr ++ padded loader)).length = totalLen loaderHead ddr loader := by
  rw [List.length_append, List.length_append, length_padded, length_padded, length_padded, totalLen,
    Nat.add_assoc]

theorem length_areas_sectors (loaderHead ddr loader : List UInt8) :
    (padded loaderHead ++ (padded ddr ++ padded loader)).length =
      SECTOR_SIZE * (sectorCount loaderHead + (sectorCount ddr + sectorCount loader)) := by
  rw [List.length_append, List.length_append, length_padded_sectors, length_padded_sectors,
    length_padded_sectors, Nat.mul_add, Nat.mul_add]

/-! ### What a reader finds -/

/-- The RC4 keystream, restarted for every sector. -/
def sectorKeystream (rc4 : List UInt8 → Nat → UInt8) (index : Nat) : UInt8 :=
  rc4 RC4_KEY (index % SECTOR_SIZE)

/-- The block without its encryption. -/
def decrypted (rc4 : List UInt8 → Nat → UInt8) (rc4Enabled : Bool) (block : List UInt8) :
    List UInt8 :=
  if rc4Enabled then applyKeystream (sectorKeystream rc4) block else block

/-- Whole sectors are encrypted with the restarted keystream. -/
theorem crypted_eq_decrypted {area : List UInt8} {count : Nat}
    (whole : area.length = SECTOR_SIZE * count) :
    crypted rc4 rc4Enabled area = decrypted rc4 rc4Enabled area := by
  cases rc4Enabled with
  | false => rfl
  | true => exact mapChunks_applyKeystream sectorSize_pos (rc4 RC4_KEY) whole

theorem decrypted_twice (area : List UInt8) :
    decrypted rc4 rc4Enabled (decrypted rc4 rc4Enabled area) = area := by
  cases rc4Enabled with
  | false => rfl
  | true => exact applyKeystream_twice (sectorKeystream rc4) area

/-- The header is stored before the rest, and does not change how the rest is encrypted. -/
theorem drop_crypted (loaderHead rest : List UInt8) :
    (crypted rc4 rc4Enabled (padded loaderHead ++ rest)).drop
        (nextMultipleOf loaderHead.length IDBLOCK_ALIGNMENT) = crypted rc4 rc4Enabled rest := by
  have head := length_padded_sectors loaderHead
  rw [crypted_append _ head, List.drop_left']
  rw [length_crypted head, length_padded]

/-- A block that is too large for its length to be counted is refused. -/
theorem buildIdblock_error {loaderHead ddr loader : List UInt8}
    (large : ¬totalLen loaderHead ddr loader < 2 ^ 64) :
    buildIdblock rc4 loaderHead ddr loader rc4Enabled = .error .sizeOverflow := by
  unfold totalLen at large
  unfold buildIdblock
  dsimp only
  by_cases headFits : nextMultipleOf loaderHead.length IDBLOCK_ALIGNMENT +
      nextMultipleOf ddr.length IDBLOCK_ALIGNMENT < 2 ^ 64
  · rw [Old.checkedUsize_ok headFits]
    dsimp only [bind, Except.bind]
    rw [Old.checkedUsize_error large]
  · rw [Old.checkedUsize_error headFits]
    rfl

/-- **The new format is reversible.** The block holds the three files one behind the other, and its
payload is the one of the old format. -/
theorem new_idblock_reversible (rc4 : List UInt8 → Nat → UInt8) (rkCrc : List UInt8 → UInt32)
    (loaderHead ddr loader : List UInt8) (rc4Enabled : Bool)
    (fits : nextMultipleOf loaderHead.length IDBLOCK_ALIGNMENT +
      nextMultipleOf ddr.length IDBLOCK_ALIGNMENT +
      nextMultipleOf loader.length IDBLOCK_ALIGNMENT < 2 ^ 64) :
    ∃ block, buildIdblock rc4 loaderHead ddr loader rc4Enabled = .ok block ∧
      block.length = nextMultipleOf loaderHead.length IDBLOCK_ALIGNMENT +
        nextMultipleOf ddr.length IDBLOCK_ALIGNMENT +
        nextMultipleOf loader.length IDBLOCK_ALIGNMENT ∧
      decrypted rc4 rc4Enabled block = padded loaderHead ++ padded ddr ++ padded loader ∧
      (buildIdblock rc4 loaderHead ddr loader true).map (applyKeystream (sectorKeystream rc4)) =
        buildIdblock rc4 loaderHead ddr loader false ∧
      ∀ old, Old.buildIdblock rc4 rkCrc ddr loader rc4Enabled = .ok old →
        block.drop (nextMultipleOf loaderHead.length IDBLOCK_ALIGNMENT) =
          old.drop (SECTOR_SIZE * IDBLOCK_HEADER_SECTORS) := by
  have whole := length_areas_sectors loaderHead ddr loader
  refine ⟨_, buildIdblock_eq_crypted loaderHead ddr loader fits, ?_, ?_, ?_, fun old built => ?_⟩
  · exact (length_crypted whole).trans (length_areas loaderHead ddr loader)
  · rw [crypted_eq_decrypted whole, decrypted_twice, List.append_assoc]
  · rw [buildIdblock_eq_crypted loaderHead ddr loader fits,
      buildIdblock_eq_crypted loaderHead ddr loader fits, crypted_eq_decrypted whole]
    exact congrArg Except.ok (@decrypted_twice rc4 true _)
  · rw [drop_crypted, payload_of_ok built]

/-- Three files that do not fill a sector, encrypted. -/
theorem new_idblock_reversible_short :
    ∃ block, buildIdblock Rc4.keystream [0x52, 0x4b] [1, 2, 3] [4, 5] true = .ok block ∧
      block.length = 6144 ∧
      decrypted Rc4.keystream true block = padded [0x52, 0x4b] ++ padded [1, 2, 3] ++ padded [4, 5] ∧
      (buildIdblock Rc4.keystream [0x52, 0x4b] [1, 2, 3] [4, 5] true).map
          (applyKeystream (sectorKeystream Rc4.keystream)) =
        buildIdblock Rc4.keystream [0x52, 0x4b] [1, 2, 3] [4, 5] false ∧
      ∀ old, Old.buildIdblock Rc4.keystream (fun _ => 0) [1, 2, 3] [4, 5] true = .ok old →
        block.drop 2048 = old.drop 2048 :=
  new_idblock_reversible Rc4.keystream (fun _ => 0) [0x52, 0x4b] [1, 2, 3] [4, 5] true (by decide)

end New

/-! ### Both formats -/

/-- The length of the header of a block. -/
def headerLen : Option (List UInt8) → Nat
  | some loaderHead => nextMultipleOf loaderHead.length IDBLOCK_ALIGNMENT
  | none => SECTOR_SIZE * Old.IDBLOCK_HEADER_SECTORS

/-- **The payload does not depend on the format**: behind the header of any block that is built are
the DDR code and the loader. -/
theorem drop_headerLen_of_ok {rc4 : List UInt8 → Nat → UInt8} {rkCrc : List UInt8 → UInt32}
    {loaderHead : Option (List UInt8)} {ddr loader block : List UInt8} {rc4Enabled : Bool}
    (built : buildIdblock rc4 rkCrc loaderHead ddr loader rc4Enabled = .ok block) :
    block.drop (headerLen loaderHead) =
      Old.crypted rc4 rc4Enabled (Old.padded ddr ++ Old.padded loader) := by
  cases loaderHead with
  | none => exact Old.payload_of_ok built
  | some loaderHead =>
    have built : New.buildIdblock rc4 loaderHead ddr loader rc4Enabled = .ok block := built
    by_cases fits : New.totalLen loaderHead ddr loader < 2 ^ 64
    · rw [New.buildIdblock_eq_crypted loaderHead ddr loader fits] at built
      cases built
      exact New.drop_crypted loaderHead _
    · rw [New.buildIdblock_error fits] at built
      cases built

end Rkusb.Idblock
