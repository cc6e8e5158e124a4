/-
**The old IDBlock format** (`idblock/mod.rs`, `idblock/old.rs`).

An IDBlock is four header sectors, then the DDR code and the loader, each padded to a multiple of
2048 bytes. All sectors but the second may be encrypted, each with the keystream from its beginning.
`build_idblock_recovers`: what is built is exactly what a reader of the format expects to find.

The keystream of the `rc4` crate and the checksum `RK_CRC` of `rkafp` are parameters.
-/

import Rkusb.Checksum
import Rkusb.Usb

namespace Rkusb.Idblock

open Bytes

def SECTOR_SIZE : Nat := 512
def IDBLOCK_ALIGNMENT : Nat := 2048

def RC4_KEY : List UInt8 := [124, 78, 3, 4, 85, 5, 9, 7, 45, 44, 123, 56, 23, 13, 23, 17]

inductive IdBlockError
  | ddrTooLarge | loaderTooLarge | sizeOverflow
  deriving DecidableEq

/-- `usize::next_multiple_of`. -/
def nextMultipleOf (value unit : Nat) : Nat :=
  if value % unit = 0 then value else value + (unit - value % unit)

/-- `u16::try_from` on a `usize`. -/
def tryU16 (value : Nat) (error : IdBlockError) : Except IdBlockError UInt16 :=
  if value < 2 ^ 16 then .ok (UInt16.ofNat value) else .error error

/-- What a checked operation on a `usize` yields. -/
def checkedUsize (value : Nat) : Except IdBlockError Nat :=
  if value < 2 ^ 64 then .ok value else .error .sizeOverflow

/-- `u16::checked_add`. -/
def checkedAddU16 (a b : UInt16) : Except IdBlockError UInt16 :=
  if a.toNat + b.toNat < 2 ^ 16 then .ok (UInt16.ofNat (a.toNat + b.toNat))
  else .error .sizeOverflow

/-! ### The header sectors -/

namespace Old

def IDBLOCK_HEADER_SECTORS : Nat := 4
def IDBLOCK_TAG : UInt32 := 0x0FF0AA55
def IDBLOCK_CHIP_TAG : UInt32 := 0x38324B52
def IDBLOCK_SYS_RESERVED_BLOCK : UInt16 := 0x000C
def IDBLOCK_DISK0_SIZE : UInt16 := 0xFFFF

/-- `sector.fill(0)`. -/
def emptySector : List UInt8 := List.replicate SECTOR_SIZE 0

def buildSector0 (rc4Enabled : Bool) (bootDataSectors bootCodeSectors : UInt16) : List UInt8 :=
  let sector := emptySector
  let sector := copyAt sector 0 (u32Bytes IDBLOCK_TAG)
  let sector := copyAt sector 8 (u32Bytes (if rc4Enabled then 1 else 0))
  let sector := copyAt sector 12 (u16Bytes 0x0004)
  let sector := copyAt sector 14 (u16Bytes 0x0004)
  let sector := copyAt sector 500 (u16Bytes bootDataSectors)
  copyAt sector 502 (u16Bytes bootCodeSectors)

def buildSector1 : List UInt8 :=
  let sector := emptySector
  let sector := copyAt sector 0 (u16Bytes IDBLOCK_SYS_RESERVED_BLOCK)
  let sector := copyAt sector 2 (u16Bytes IDBLOCK_DISK0_SIZE)
  copyAt sector 8 (u32Bytes IDBLOCK_CHIP_TAG)

def buildSector2 (sec0Crc sec1Crc : UInt16) (bootCodeCrc : UInt32) (sec3Crc : UInt16) : List UInt8 :=
  let sector := emptySector
  let sector := copyAt sector 491 [0x56, 0x43, 0]
  let sector := copyAt sector 494 (u16Bytes sec0Crc)
  let sector := copyAt sector 496 (u16Bytes sec1Crc)
  let sector := copyAt sector 498 (u32Bytes bootCodeCrc)
  let sector := copyAt sector 504 [0x43, 0x52, 0x43, 0]
  copyAt sector 508 (u16Bytes sec3Crc)

def buildSector3 : List UInt8 := emptySector

/-! ### The block -/

section Build

variable (rc4 : List UInt8 → Nat → UInt8) (rkCrc : List UInt8 → UInt32)

/-- The sectors of an area, each with the keystream of a fresh cipher. -/
def cryptSectors (area : List UInt8) : List UInt8 :=
  mapChunks SECTOR_SIZE (applyKeystream (rc4 RC4_KEY)) area

/-- `ROCKCHIP_CRC16.checksum`. -/
def crc16 (sector : List UInt8) : UInt16 := ⟨ROCKCHIP_CRC16.checksum sector⟩

/-- The block, filled from its zeroes: the plain sectors 0, 1 and 3, the payload and its encryption,
sector 2 with the checksums, the encryption of the header. -/
def fillIdblock (ddr loader : List UInt8) (rc4Enabled : Bool) (ddrLen : Nat)
    (bootDataSectors bootCodeSectors : UInt16) (idblock : List UInt8) : List UInt8 :=
  let payload := idblock.drop (SECTOR_SIZE * IDBLOCK_HEADER_SECTORS)
  let ddrArea := payload.take ddrLen
  let loaderArea := payload.drop ddrLen
  let sector0 := buildSector0 rc4Enabled bootDataSectors bootCodeSectors
  let sector1 := buildSector1
  let sector3 := buildSector3
  let ddrArea := copyAt ddrArea 0 ddr
  let loaderArea := copyAt loaderArea 0 loader
  let ddrArea := if rc4Enabled then cryptSectors rc4 ddrArea else ddrArea
  let loaderArea := if rc4Enabled then cryptSectors rc4 loaderArea else loaderArea
  let sec0Crc := crc16 sector0
  let sec1Crc := crc16 sector1
  let sec3Crc := crc16 sector3
  let bootCodeCrc := rkCrc (ddrArea ++ loaderArea)
  let sector2 := buildSector2 sec0Crc sec1Crc bootCodeCrc sec3Crc
  let sector0 := if rc4Enabled then cryptSectors rc4 sector0 else sector0
  let sector2 := if rc4Enabled then cryptSectors rc4 sector2 else sector2
  let sector3 := if rc4Enabled then cryptSectors rc4 sector3 else sector3
  sector0 ++ sector1 ++ sector2 ++ sector3 ++ (ddrArea ++ loaderArea)

def buildIdblock (ddr loader : List UInt8) (rc4Enabled : Bool) :
    Except IdBlockError (List UInt8) := do
  let ddrLen := nextMultipleOf ddr.length IDBLOCK_ALIGNMENT
  let loaderLen := nextMultipleOf loader.length IDBLOCK_ALIGNMENT
  let ddrSectorCount := ddrLen / SECTOR_SIZE
  let loaderSectorCount := loaderLen / SECTOR_SIZE
  let ddrSectorCountU16 ← tryU16 ddrSectorCount .ddrTooLarge
  let loaderSectorCountU16 ← tryU16 loaderSectorCount .loaderTooLarge
  let totalSectors ← checkedUsize (IDBLOCK_HEADER_SECTORS + ddrSectorCount)
  let totalSectors ← checkedUsize (totalSectors + loaderSectorCount)
  let totalLen ← checkedUsize (totalSectors * SECTOR_SIZE)
  let idblock := List.replicate totalLen 0
  let bootCodeSectors ← checkedAddU16 ddrSectorCountU16 loaderSectorCountU16
  pure (fillIdblock rc4 rkCrc ddr loader rc4Enabled ddrLen ddrSectorCountU16 bootCodeSectors idblock)

/-! ### What a reader finds -/

/-- A file as the block holds it, padded with zeroes. -/
def padded (data : List UInt8) : List UInt8 :=
  data ++ List.replicate (nextMultipleOf data.length IDBLOCK_ALIGNMENT - data.length) 0

/-- A sector of a block as its reader sees it. The second one is never encrypted. -/
def plainSector (rc4Enabled : Bool) (block : List UInt8) (index : Nat) : List UInt8 :=
  let sector := field block (SECTOR_SIZE * index) SECTOR_SIZE
  if rc4Enabled ∧ index ≠ 1 then applyKeystream (rc4 RC4_KEY) sector else sector

/-- What the reader of a block of the two files finds. -/
structure Recovers (ddr loader : List UInt8) (rc4Enabled : Bool) (block : List UInt8) : Prop where
  tag : u32At (plainSector rc4 rc4Enabled block 0) 0 = IDBLOCK_TAG
  flag : u32At (plainSector rc4 rc4Enabled block 0) 8 = if rc4Enabled then 1 else 0
  bootDataSectors : SECTOR_SIZE * (u16At (plainSector rc4 rc4Enabled block 0) 500).toNat =
    (padded ddr).length
  bootCodeSectors : block.length = SECTOR_SIZE *
    (IDBLOCK_HEADER_SECTORS + (u16At (plainSector rc4 rc4Enabled block 0) 502).toNat)
  sec0Crc : u16At (plainSector rc4 rc4Enabled block 2) 494 =
    crc16 (plainSector rc4 rc4Enabled block 0)
  sec1Crc : u16At (plainSector rc4 rc4Enabled block 2) 496 =
    crc16 (plainSector rc4 rc4Enabled block 1)
  sec3Crc : u16At (plainSector rc4 rc4Enabled block 2) 508 =
    crc16 (plainSector rc4 rc4Enabled block 3)
  /-- The payload is summed as it is stored. -/
  bootCodeCrc : u32At (plainSector rc4 rc4Enabled block 2) 498 =
    rkCrc (block.drop (SECTOR_SIZE * IDBLOCK_HEADER_SECTORS))
  payload : (List.range (u16At (plainSector rc4 rc4Enabled block 0) 502).toNat).flatMap
      (fun index => plainSector rc4 rc4Enabled block (IDBLOCK_HEADER_SECTORS + index)) =
    padded ddr ++ padded loader

/-! ### Sizes -/

theorem dvd_nextMultipleOf (value : Nat) {unit : Nat} (positive : 0 < unit) :
    unit ∣ nextMultipleOf value unit := by
  unfold nextMultipleOf
  split
  · rename_i whole
    exact Nat.dvd_of_mod_eq_zero whole
  · have := Nat.mod_lt value positive
    have split_ := Nat.div_add_mod value unit
    refine ⟨value / unit + 1, ?_⟩
    rw [Nat.mul_succ]
    omega

theorem le_nextMultipleOf (value unit : Nat) : value ≤ nextMultipleOf value unit := by
  unfold nextMultipleOf
  split
  · exact le_rfl
  · exact Nat.le_add_right _ _

theorem length_padded (data : List UInt8) :
    (padded data).length = nextMultipleOf data.length IDBLOCK_ALIGNMENT := by
  have := le_nextMultipleOf data.length IDBLOCK_ALIGNMENT
  rw [padded, List.length_append, List.length_replicate]
  omega

/-- The sectors of a file, padded. -/
def sectorCount (data : List UInt8) : Nat :=
  nextMultipleOf data.length IDBLOCK_ALIGNMENT / SECTOR_SIZE

theorem length_padded_sectors (data : List UInt8) :
    (padded data).length = SECTOR_SIZE * sectorCount data := by
  have aligned := dvd_nextMultipleOf data.length (by decide : 0 < IDBLOCK_ALIGNMENT)
  have sectors : SECTOR_SIZE ∣ IDBLOCK_ALIGNMENT := by decide
  rw [length_padded, sectorCount, Nat.mul_div_cancel' (sectors.trans aligned)]

/-- A file copied over zeroes is padded with them. -/
theorem copyAt_zeroes (data : List UInt8) :
    copyAt (List.replicate (nextMultipleOf data.length IDBLOCK_ALIGNMENT) 0) 0 data =
      padded data := by
  rw [copyAt, List.take_zero, List.nil_append, List.drop_replicate, Nat.zero_add, padded]

/-! ### The header sectors and their fields -/

theorem length_emptySector : emptySector.length = 512 := List.length_replicate

@[simp] theorem length_buildSector0 (rc4Enabled : Bool) (bootDataSectors bootCodeSectors : UInt16) :
    (buildSector0 rc4Enabled bootDataSectors bootCodeSectors).length = SECTOR_SIZE := by
  simp [buildSector0, copyAt, length_emptySector, SECTOR_SIZE]

@[simp] theorem length_buildSector1 : buildSector1.length = SECTOR_SIZE := by
  simp [buildSector1, copyAt, length_emptySector, SECTOR_SIZE]

@[simp] theorem length_buildSector2 (sec0Crc sec1Crc : UInt16) (bootCodeCrc : UInt32)
    (sec3Crc : UInt16) :
    (buildSector2 sec0Crc sec1Crc bootCodeCrc sec3Crc).length = SECTOR_SIZE := by
  simp [buildSector2, copyAt, length_emptySector, SECTOR_SIZE]

@[simp] theorem length_buildSector3 : buildSector3.length = SECTOR_SIZE := length_emptySector

/-- The fields of sector 0. -/
theorem buildSector0_fields (rc4Enabled : Bool) (bootDataSectors bootCodeSectors : UInt16) :
    let sector := buildSector0 rc4Enabled bootDataSectors bootCodeSectors
    u32At sector 0 = IDBLOCK_TAG ∧ u32At sector 8 = (if rc4Enabled then 1 else 0) ∧
      u16At sector 500 = bootDataSectors ∧ u16At sector 502 = bootCodeSectors := by
  refine ⟨?_, ?_, ?_, ?_⟩ <;>
    simp (disch := simp [copyAt, length_emptySector]) [u32At, u16At, buildSector0,
      field_copyAt_of_disjoint, field_copyAt_self]

/-- The fields of sector 2. -/
theorem buildSector2_fields (sec0Crc sec1Crc : UInt16) (bootCodeCrc : UInt32) (sec3Crc : UInt16) :
    let sector := buildSector2 sec0Crc sec1Crc bootCodeCrc sec3Crc
    u16At sector 494 = sec0Crc ∧ u16At sector 496 = sec1Crc ∧ u32At sector 498 = bootCodeCrc ∧
      u16At sector 508 = sec3Crc := by
  refine ⟨?_, ?_, ?_, ?_⟩ <;>
    simp (disch := simp [copyAt, length_emptySector]) [u32At, u16At, buildSector2,
      field_copyAt_of_disjoint, field_copyAt_self]

/-! ### Encryption -/

theorem sectorSize_pos : 0 < SECTOR_SIZE := by decide

/-- An area as it is stored. -/
def crypted (rc4Enabled : Bool) (area : List UInt8) : List UInt8 :=
  if rc4Enabled then cryptSectors rc4 area else area

variable {rc4 : List UInt8 → Nat → UInt8} {rkCrc : List UInt8 → UInt32} {rc4Enabled : Bool}

theorem length_crypted {area : List UInt8} {count : Nat} (whole : area.length = SECTOR_SIZE * count) :
    (crypted rc4 rc4Enabled area).length = area.length := by
  cases rc4Enabled with
  | false => rfl
  | true => exact length_mapChunks sectorSize_pos (applyKeystream_keepsChunk _ _) whole

theorem crypted_append {first : List UInt8} (rest : List UInt8) {count : Nat}
    (whole : first.length = SECTOR_SIZE * count) :
    crypted rc4 rc4Enabled (first ++ rest) =
      crypted rc4 rc4Enabled first ++ crypted rc4 rc4Enabled rest := by
  cases rc4Enabled with
  | false => rfl
  | true => exact mapChunks_append_mul sectorSize_pos _ _ whole

/-- A stored sector is decrypted to what it was. -/
theorem decrypt_crypted {area : List UInt8} {index : Nat}
    (inside : SECTOR_SIZE * (index + 1) ≤ area.length) :
    (if rc4Enabled then
        applyKeystream (rc4 RC4_KEY)
          (field (crypted rc4 rc4Enabled area) (SECTOR_SIZE * index) SECTOR_SIZE)
      else field (crypted rc4 rc4Enabled area) (SECTOR_SIZE * index) SECTOR_SIZE) =
      field area (SECTOR_SIZE * index) SECTOR_SIZE := by
  cases rc4Enabled with
  | false => rfl
  | true =>
    show applyKeystream _ (field (mapChunks _ _ area) _ _) = _
    rw [field_mapChunks sectorSize_pos (applyKeystream_keepsChunk _ _) inside, applyKeystream_twice]

theorem length_crypted_sector {sector : List UInt8} (whole : sector.length = SECTOR_SIZE) :
    (crypted rc4 rc4Enabled sector).length = SECTOR_SIZE := by
  rw [@length_crypted _ _ _ 1 (by rw [whole, Nat.mul_one]), whole]

/-- Any sector but the second is decrypted by the reader. -/
theorem plainSector_of_ne {block area : List UInt8} {index at_ : Nat} (other : index ≠ 1)
    (stored : field block (SECTOR_SIZE * index) SECTOR_SIZE =
      field (crypted rc4 rc4Enabled area) (SECTOR_SIZE * at_) SECTOR_SIZE)
    (inside : SECTOR_SIZE * (at_ + 1) ≤ area.length) :
    plainSector rc4 rc4Enabled block index = field area (SECTOR_SIZE * at_) SECTOR_SIZE := by
  rw [← @decrypt_crypted rc4 rc4Enabled _ _ inside, plainSector, stored]
  simp only [other, ne_eq, not_false_eq_true, and_true]

/-! ### The block that is built -/

/-- The block of the two files, with these sector counts. -/
theorem fillIdblock_eq (ddr loader : List UInt8) (bootDataSectors bootCodeSectors : UInt16)
    {ddrSectorCount loaderSectorCount : Nat}
    (ddrSectors : (padded ddr).length = SECTOR_SIZE * ddrSectorCount)
    (loaderSectors : (padded loader).length = SECTOR_SIZE * loaderSectorCount) :
    let sector0 := buildSector0 rc4Enabled bootDataSectors bootCodeSectors
    let payload := crypted rc4 rc4Enabled (padded ddr ++ padded loader)
    let sector2 := buildSector2 (crc16 sector0) (crc16 buildSector1) (rkCrc payload)
      (crc16 buildSector3)
    fillIdblock rc4 rkCrc ddr loader rc4Enabled (nextMultipleOf ddr.length IDBLOCK_ALIGNMENT)
        bootDataSectors bootCodeSectors
        (List.replicate ((IDBLOCK_HEADER_SECTORS + ddrSectorCount + loaderSectorCount) * SECTOR_SIZE)
          0) =
      crypted rc4 rc4Enabled sector0 ++ (buildSector1 ++ (crypted rc4 rc4Enabled sector2 ++
        (crypted rc4 rc4Enabled buildSector3 ++ payload))) := by
  have ddrLen := ddrSectors.symm.trans (length_padded ddr)
  have loaderLen := loaderSectors.symm.trans (length_padded loader)
  have ddrArea : ((List.replicate ((IDBLOCK_HEADER_SECTORS + ddrSectorCount + loaderSectorCount) *
      SECTOR_SIZE) (0 : UInt8)).drop (SECTOR_SIZE * IDBLOCK_HEADER_SECTORS)).take
        (nextMultipleOf ddr.length IDBLOCK_ALIGNMENT) =
      List.replicate (nextMultipleOf ddr.length IDBLOCK_ALIGNMENT) 0 := by
    rw [List.drop_replicate, List.take_replicate, ← ddrLen]
    congr 1
    unfold SECTOR_SIZE IDBLOCK_HEADER_SECTORS
    omega
  have loaderArea : ((List.replicate ((IDBLOCK_HEADER_SECTORS + ddrSectorCount + loaderSectorCount) *
      SECTOR_SIZE) (0 : UInt8)).drop (SECTOR_SIZE * IDBLOCK_HEADER_SECTORS)).drop
        (nextMultipleOf ddr.length IDBLOCK_ALIGNMENT) =
      List.replicate (nextMultipleOf loader.length IDBLOCK_ALIGNMENT) 0 := by
    rw [List.drop_replicate, List.drop_replicate, ← ddrLen, ← loaderLen]
    congr 1
    unfold SECTOR_SIZE IDBLOCK_HEADER_SECTORS
    omega
  have payload : (crypted rc4 rc4Enabled (padded ddr) ++ crypted rc4 rc4Enabled (padded loader)) =
      crypted rc4 rc4Enabled (padded ddr ++ padded loader) := (crypted_append _ ddrSectors).symm
  dsimp only
  rw [← payload]
  unfold fillIdblock
  dsimp only
  rw [ddrArea, loaderArea, copyAt_zeroes, copyAt_zeroes]
  simp only [List.append_assoc]
  rfl

/-- What a reader sees: the four header sectors, and then those of the payload. -/
theorem plainSector_stored {sector0 sector1 sector2 sector3 payload : List UInt8}
    (whole0 : sector0.length = SECTOR_SIZE) (whole1 : sector1.length = SECTOR_SIZE)
    (whole2 : sector2.length = SECTOR_SIZE) (whole3 : sector3.length = SECTOR_SIZE) :
    let block := crypted rc4 rc4Enabled sector0 ++ (sector1 ++ (crypted rc4 rc4Enabled sector2 ++
      (crypted rc4 rc4Enabled sector3 ++ crypted rc4 rc4Enabled payload)))
    plainSector rc4 rc4Enabled block 0 = sector0 ∧ plainSector rc4 rc4Enabled block 1 = sector1 ∧
      plainSector rc4 rc4Enabled block 2 = sector2 ∧ plainSector rc4 rc4Enabled block 3 = sector3 ∧
      ∀ index, SECTOR_SIZE * (index + 1) ≤ payload.length →
        plainSector rc4 rc4Enabled block (IDBLOCK_HEADER_SECTORS + index) =
          field payload (SECTOR_SIZE * index) SECTOR_SIZE := by
  intro block
  have stored0 := @length_crypted_sector rc4 rc4Enabled _ whole0
  have stored2 := @length_crypted_sector rc4 rc4Enabled _ whole2
  have stored3 := @length_crypted_sector rc4 rc4Enabled _ whole3
  have single {sector : List UInt8} (whole : sector.length = SECTOR_SIZE) :
      field sector (SECTOR_SIZE * 0) SECTOR_SIZE = sector := by
    have alone := field_append_zero [] whole
    rwa [List.append_nil] at alone
  refine ⟨?_, ?_, ?_, ?_, fun index inside => ?_⟩
  · refine (plainSector_of_ne (by decide) ?_ whole0.ge).trans (single whole0)
    rw [field_append_zero _ stored0, single stored0]
  · rw [plainSector, if_neg fun both => both.2 rfl, field_append_succ _ 0 stored0,
      field_append_zero _ whole1]
  · refine (plainSector_of_ne (by decide) ?_ whole2.ge).trans (single whole2)
    rw [field_append_succ _ 1 stored0, field_append_succ _ 0 whole1, field_append_zero _ stored2,
      single stored2]
  · refine (plainSector_of_ne (by decide) ?_ whole3.ge).trans (single whole3)
    rw [field_append_succ _ 2 stored0, field_append_succ _ 1 whole1, field_append_succ _ 0 stored2,
      field_append_zero _ stored3, single stored3]
  · refine plainSector_of_ne (by unfold IDBLOCK_HEADER_SECTORS; omega) ?_ inside
    rw [IDBLOCK_HEADER_SECTORS, Nat.add_comm 4 index, field_append_succ _ (index + 3) stored0,
      field_append_succ _ (index + 2) whole1, field_append_succ _ (index + 1) stored2,
      field_append_succ _ index stored3]

/-- **A block that is stored in this way** is what its reader expects. -/
theorem recovers_of_counts (ddr loader : List UInt8) {bootDataSectors bootCodeSectors : UInt16}
    (ddrSectors : (padded ddr).length = SECTOR_SIZE * bootDataSectors.toNat)
    (sectors : (padded ddr ++ padded loader).length = SECTOR_SIZE * bootCodeSectors.toNat) :
    let sector0 := buildSector0 rc4Enabled bootDataSectors bootCodeSectors
    let payload := crypted rc4 rc4Enabled (padded ddr ++ padded loader)
    let sector2 := buildSector2 (crc16 sector0) (crc16 buildSector1) (rkCrc payload)
      (crc16 buildSector3)
    Recovers rc4 rkCrc ddr loader rc4Enabled (crypted rc4 rc4Enabled sector0 ++ (buildSector1 ++
      (crypted rc4 rc4Enabled sector2 ++ (crypted rc4 rc4Enabled buildSector3 ++ payload)))) := by
  intro sector0 payload sector2
  have whole0 : sector0.length = SECTOR_SIZE := length_buildSector0 _ _ _
  have whole2 : sector2.length = SECTOR_SIZE := length_buildSector2 _ _ _ _
  have stored0 := @length_crypted_sector rc4 rc4Enabled _ whole0
  have stored2 := @length_crypted_sector rc4 rc4Enabled _ whole2
  have stored3 := @length_crypted_sector rc4 rc4Enabled _ length_buildSector3
  have payloadLength : payload.length = SECTOR_SIZE * bootCodeSectors.toNat :=
    (length_crypted sectors).trans sectors
  obtain ⟨at0, at1, at2, at3, past⟩ := @plainSector_stored rc4 rc4Enabled sector0 buildSector1 sector2
    buildSector3 (padded ddr ++ padded loader) whole0 length_buildSector1 whole2 length_buildSector3
  obtain ⟨tag, flag, dataSectors, codeSectors⟩ :=
    buildSector0_fields rc4Enabled bootDataSectors bootCodeSectors
  obtain ⟨crc0, crc1, crcCode, crc3⟩ :=
    buildSector2_fields (crc16 sector0) (crc16 buildSector1) (rkCrc payload) (crc16 buildSector3)
  have counted : u16At sector0 502 = bootCodeSectors := codeSectors
  refine ⟨?_, ?_, ?_, ?_, ?_, ?_, ?_, ?_, ?_⟩
  · rw [at0]
    exact tag
  · rw [at0]
    exact flag
  · rw [at0, show u16At sector0 500 = bootDataSectors from dataSectors, ddrSectors]
  · rw [at0, counted]
    simp only [List.length_append, stored0, stored2, stored3, length_buildSector1, payloadLength]
    unfold SECTOR_SIZE IDBLOCK_HEADER_SECTORS
    omega
  · rw [at2, at0]
    exact crc0
  · rw [at2, at1]
    exact crc1
  · rw [at2, at3]
    exact crc3
  · have header : (crypted rc4 rc4Enabled sector0 ++ buildSector1 ++
        crypted rc4 rc4Enabled sector2 ++ crypted rc4 rc4Enabled buildSector3).length =
        SECTOR_SIZE * IDBLOCK_HEADER_SECTORS := by
      simp only [List.length_append, stored0, stored2, stored3, length_buildSector1]
      rfl
    rw [at2, ← header]
    simp only [← List.append_assoc]
    rw [List.drop_left]
    exact crcCode
  · rw [at0, counted]
    have fields : (List.range bootCodeSectors.toNat).flatMap (fun index =>
        plainSector rc4 rc4Enabled (crypted rc4 rc4Enabled sector0 ++ (buildSector1 ++
          (crypted rc4 rc4Enabled sector2 ++ (crypted rc4 rc4Enabled buildSector3 ++ payload))))
          (IDBLOCK_HEADER_SECTORS + index)) =
        (List.range bootCodeSectors.toNat).flatMap fun index =>
          field (padded ddr ++ padded loader) (SECTOR_SIZE * index) SECTOR_SIZE :=
      List.flatMap_congr fun index member => past index (by
        rw [sectors]
        exact Nat.mul_le_mul_left _ (List.mem_range.mp member))
    rw [fields, flatMap_field, ← sectors, List.take_length]

/-! ### When it is built -/

theorem tryU16_ok {count : Nat} {error : IdBlockError} (small : count < 2 ^ 16) :
    tryU16 count error = .ok (UInt16.ofNat count) := if_pos small

theorem tryU16_error {count : Nat} {error : IdBlockError} (large : ¬count < 2 ^ 16) :
    tryU16 count error = .error error := if_neg large

theorem checkedUsize_ok {value : Nat} (small : value < 2 ^ 64) : checkedUsize value = .ok value :=
  if_pos small

theorem checkedUsize_error {value : Nat} (large : ¬value < 2 ^ 64) :
    checkedUsize value = .error .sizeOverflow := if_neg large

theorem checkedAddU16_eq {a b : Nat} (aSmall : a < 2 ^ 16) (bSmall : b < 2 ^ 16) :
    checkedAddU16 (UInt16.ofNat a) (UInt16.ofNat b) =
      if a + b < 2 ^ 16 then .ok (UInt16.ofNat (a + b)) else .error .sizeOverflow := by
  rw [checkedAddU16, UInt16.toNat_ofNat_of_lt' aSmall, UInt16.toNat_ofNat_of_lt' bSmall]

/-- The result, if 16 bits count the sectors of each file. The sizes always fit then. -/
theorem buildIdblock_of_lt {ddr loader : List UInt8} (ddrSmall : sectorCount ddr < 2 ^ 16)
    (loaderSmall : sectorCount loader < 2 ^ 16) :
    buildIdblock rc4 rkCrc ddr loader rc4Enabled =
      if sectorCount ddr + sectorCount loader < 2 ^ 16 then
        .ok (fillIdblock rc4 rkCrc ddr loader rc4Enabled
          (nextMultipleOf ddr.length IDBLOCK_ALIGNMENT) (UInt16.ofNat (sectorCount ddr))
          (UInt16.ofNat (sectorCount ddr + sectorCount loader))
          (List.replicate
            ((IDBLOCK_HEADER_SECTORS + sectorCount ddr + sectorCount loader) * SECTOR_SIZE) 0))
      else .error .sizeOverflow := by
  unfold buildIdblock
  dsimp only
  change (tryU16 (sectorCount ddr) .ddrTooLarge >>= fun ddrSectorCountU16 =>
    tryU16 (sectorCount loader) .loaderTooLarge >>= fun loaderSectorCountU16 =>
      checkedUsize (IDBLOCK_HEADER_SECTORS + sectorCount ddr) >>= fun totalSectors =>
        checkedUsize (totalSectors + sectorCount loader) >>= _) = _
  rw [tryU16_ok ddrSmall, tryU16_ok loaderSmall]
  dsimp only [bind, Except.bind]
  rw [checkedUsize_ok (by unfold IDBLOCK_HEADER_SECTORS; omega)]
  dsimp only
  rw [checkedUsize_ok (by unfold IDBLOCK_HEADER_SECTORS; omega)]
  dsimp only
  rw [checkedUsize_ok (by unfold IDBLOCK_HEADER_SECTORS SECTOR_SIZE; omega),
    checkedAddU16_eq ddrSmall loaderSmall]
  dsimp only
  by_cases fits : sectorCount ddr + sectorCount loader < 2 ^ 16
  · rw [if_pos fits, if_pos fits]
    rfl
  · rw [if_neg fits, if_neg fits]

/-- A file with more sectors than 16 bits count is refused. -/
theorem buildIdblock_of_not_lt {ddr loader : List UInt8}
    (large : ¬(sectorCount ddr < 2 ^ 16 ∧ sectorCount loader < 2 ^ 16)) :
    ∃ error, buildIdblock rc4 rkCrc ddr loader rc4Enabled = .error error := by
  unfold buildIdblock
  dsimp only
  change ∃ error, (tryU16 (sectorCount ddr) .ddrTooLarge >>= fun ddrSectorCountU16 =>
    tryU16 (sectorCount loader) .loaderTooLarge >>= _) = _
  by_cases ddrSmall : sectorCount ddr < 2 ^ 16
  · rw [tryU16_ok ddrSmall, tryU16_error fun small => large ⟨ddrSmall, small⟩]
    exact ⟨_, rfl⟩
  · rw [tryU16_error ddrSmall]
    exact ⟨_, rfl⟩

/-- The block that is built, and that 16 bits count its sectors. -/
theorem fillIdblock_of_ok {ddr loader block : List UInt8}
    (built : buildIdblock rc4 rkCrc ddr loader rc4Enabled = .ok block) :
    sectorCount ddr + sectorCount loader < 2 ^ 16 ∧
      block = fillIdblock rc4 rkCrc ddr loader rc4Enabled
        (nextMultipleOf ddr.length IDBLOCK_ALIGNMENT) (UInt16.ofNat (sectorCount ddr))
        (UInt16.ofNat (sectorCount ddr + sectorCount loader)) (List.replicate
          ((IDBLOCK_HEADER_SECTORS + sectorCount ddr + sectorCount loader) * SECTOR_SIZE) 0) := by
  by_cases small : sectorCount ddr < 2 ^ 16 ∧ sectorCount loader < 2 ^ 16
  swap
  · obtain ⟨error, refused⟩ := @buildIdblock_of_not_lt rc4 rkCrc rc4Enabled ddr loader small
    rw [refused] at built
    cases built
  rw [buildIdblock_of_lt small.1 small.2] at built
  by_cases fits : sectorCount ddr + sectorCount loader < 2 ^ 16
  swap
  · rw [if_neg fits] at built
    cases built
  rw [if_pos fits] at built
  exact ⟨fits, (Except.ok.inj built).symm⟩

/-- A block that is built holds its files. -/
theorem recovers_of_ok {ddr loader block : List UInt8}
    (built : buildIdblock rc4 rkCrc ddr loader rc4Enabled = .ok block) :
    Recovers rc4 rkCrc ddr loader rc4Enabled block := by
  have ddrLength := length_padded_sectors ddr
  have loaderLength := length_padded_sectors loader
  obtain ⟨fits, rfl⟩ := fillIdblock_of_ok built
  rw [fillIdblock_eq ddr loader _ _ ddrLength loaderLength]
  refine recovers_of_counts ddr loader ?_ ?_
  · rw [UInt16.toNat_ofNat_of_lt' (show sectorCount ddr < 2 ^ 16 by omega), ddrLength]
  · rw [List.length_append, ddrLength, loaderLength, UInt16.toNat_ofNat_of_lt' fits, Nat.mul_add]

/-- The payload of a block, as it is stored. -/
theorem payload_of_ok {ddr loader block : List UInt8}
    (built : buildIdblock rc4 rkCrc ddr loader rc4Enabled = .ok block) :
    block.drop (SECTOR_SIZE * IDBLOCK_HEADER_SECTORS) =
      crypted rc4 rc4Enabled (padded ddr ++ padded loader) := by
  obtain ⟨-, rfl⟩ := fillIdblock_of_ok built
  rw [fillIdblock_eq ddr loader _ _ (length_padded_sectors ddr) (length_padded_sectors loader)]
  simp only [← List.append_assoc]
  rw [List.drop_left']
  simp only [List.length_append]
  rw [length_crypted_sector (length_buildSector0 _ _ _), length_buildSector1,
    length_crypted_sector (length_buildSector2 _ _ _ _), length_crypted_sector length_buildSector3]
  rfl

/-- **An IDBlock is built** exactly when the padded files have no more sectors than 16 bits count, and
its reader recovers them. -/
theorem build_idblock_recovers (rc4 : List UInt8 → Nat → UInt8) (rkCrc : List UInt8 → UInt32)
    (ddr loader : List UInt8) (rc4Enabled : Bool) :
    match buildIdblock rc4 rkCrc ddr loader rc4Enabled with
    | .ok block => (padded ddr).length / SECTOR_SIZE + (padded loader).length / SECTOR_SIZE ≤ 65535 ∧
        Recovers rc4 rkCrc ddr loader rc4Enabled block
    | .error _ =>
        ¬(padded ddr).length / SECTOR_SIZE + (padded loader).length / SECTOR_SIZE ≤ 65535 := by
  rw [length_padded_sectors, length_padded_sectors, Nat.mul_div_cancel_left _ sectorSize_pos,
    Nat.mul_div_cancel_left _ sectorSize_pos]
  cases built : buildIdblock rc4 rkCrc ddr loader rc4Enabled with
  | ok block => exact ⟨Nat.le_of_lt_succ (fillIdblock_of_ok built).1, recovers_of_ok built⟩
  | error error =>
    intro few
    rw [buildIdblock_of_lt (by omega) (by omega), if_pos (by omega)] at built
    cases built

end Build

end Old

end Rkusb.Idblock
