/-
**What the checksums notice** (`vendor_request` of `lib.rs`, `idblock/old.rs`).

A stream is disturbed if no more than 16 bits in a row have changed, or an odd number of bits
anywhere. Both checksums of the program are divisions by `x¹⁶ + x¹² + x⁵ + 1`, which notice that.

* `downloads_checked`: a receiver that checks its downloads takes exactly the payloads that arrived as
  they were sent.
* `Idblock.Old.damaged_header_rejected`: a header sector that is disturbed on the flash, encrypted as
  it is there, does not have the checksum that was recorded for it.
-/

import Rkusb.DownloadFraming
import Rkusb.Idblock
import Rkusb.Lib.Crc
import Rkusb.Lib.Rc4

namespace Rkusb

open Interaction Bytes Framing
open Crc (bitsOf Disturbed)

/-! ### Bits of a stream -/

/-- The bits of a stream, the highest bit of a byte first. -/
def streamBits (bytes : List UInt8) : List Bool := bytes.flatMap fun byte => bitsOf byte.toBitVec

@[simp] theorem streamBits_cons (byte : UInt8) (rest : List UInt8) :
    streamBits (byte :: rest) = bitsOf byte.toBitVec ++ streamBits rest := List.flatMap_cons

@[simp] theorem streamBits_append (bytes more : List UInt8) :
    streamBits (bytes ++ more) = streamBits bytes ++ streamBits more := List.flatMap_append

theorem length_streamBits (bytes : List UInt8) : (streamBits bytes).length = 8 * bytes.length := by
  induction bytes with
  | nil => rfl
  | cons byte rest ih =>
    rw [streamBits_cons, List.length_append, Crc.length_bitsOf, ih, List.length_cons, Nat.mul_succ,
      Nat.add_comm]

theorem streamBits_injective : Function.Injective streamBits := by
  intro bytes others equal
  induction bytes generalizing others with
  | nil =>
    cases others with
    | nil => rfl
    | cons => cases congrArg List.length equal
  | cons byte bytes ih =>
    cases others with
    | nil => cases congrArg List.length equal
    | cons other others =>
      rw [streamBits_cons, streamBits_cons] at equal
      obtain ⟨first, rest⟩ := List.append_inj equal (by simp)
      have bits (index : Nat) (inside : index < 8) :
          byte.toBitVec.getMsbD index = other.toBitVec.getMsbD index :=
        List.map_inj_left.mp first index (List.mem_range.mpr inside)
      rw [UInt8.toBitVec_inj.mp (BitVec.eq_of_getMsbD_eq bits), ih rest]

/-- Bytes in a row that have changed, no more than two of them. -/
theorem disturbed_of_bytes (before after : List UInt8) {bytes others : List UInt8}
    (same : bytes.length = others.length) (few : bytes.length ≤ 2) (differ : bytes ≠ others) :
    Disturbed 16 (streamBits (before ++ bytes ++ after)) (streamBits (before ++ others ++ after)) := by
  refine .inl ⟨streamBits before, streamBits bytes, streamBits others, streamBits after, by simp,
    by simp, ?_, ?_, fun equal => differ (streamBits_injective equal)⟩
  · rw [length_streamBits, length_streamBits, same]
  · rw [length_streamBits]
    omega

theorem length_of_disturbed {count : Nat} {bytes others : List UInt8}
    (disturbed : Disturbed count (streamBits bytes) (streamBits others)) :
    bytes.length = others.length := by
  have same := disturbed.length_eq
  rw [length_streamBits, length_streamBits] at same
  exact Nat.eq_of_mul_eq_mul_left (by decide) same

theorem bitsOf_xor {size : Nat} (first second : BitVec size) :
    bitsOf (first ^^^ second) = List.zipWith xor (bitsOf first) (bitsOf second) := by
  unfold bitsOf
  rw [List.zipWith_map, List.zipWith_self]
  exact List.map_congr_left fun index _ => BitVec.getMsbD_xor

/-- A keystream is added bit by bit. -/
theorem streamBits_applyKeystream (stream : Nat → UInt8) (bytes : List UInt8) :
    streamBits (applyKeystream stream bytes) =
      List.zipWith xor (streamBits bytes)
        (streamBits (bytes.mapIdx fun index _ => stream index)) := by
  induction bytes generalizing stream with
  | nil => rfl
  | cons byte rest ih =>
    have next := ih fun index => stream (index + 1)
    rw [applyKeystream, List.mapIdx_cons, List.mapIdx_cons, streamBits_cons, streamBits_cons,
      streamBits_cons, List.zipWith_append (by simp), UInt8.toBitVec_xor, bitsOf_xor]
    exact congrArg (List.zipWith xor _ _ ++ ·) next

/-- **A keystream that is added to both streams** keeps what disturbs one of them. -/
theorem disturbed_applyKeystream {count : Nat} {bytes others : List UInt8} (stream : Nat → UInt8)
    (disturbed : Disturbed count (streamBits bytes) (streamBits others)) :
    Disturbed count (streamBits (applyKeystream stream bytes))
      (streamBits (applyKeystream stream others)) := by
  have same := length_of_disturbed disturbed
  have keys : (bytes.mapIdx fun index _ => stream index) =
      others.mapIdx fun index _ => stream index := by
    refine List.ext_getElem (by simp [same]) fun index _ _ => ?_
    simp
  rw [streamBits_applyKeystream, streamBits_applyKeystream, ← keys]
  exact disturbed.zipWith_xor _ (by simp [length_streamBits])

/-! ### Checksums -/

namespace Algorithm

variable {width : Nat} {algorithm : Algorithm width}

/-- A byte is taken in bit by bit. -/
theorem update_eq_feed (straight : algorithm.refin = false) (wide : 8 ≤ width)
    (register : BitVec width) (byte : UInt8) :
    algorithm.update register byte = Crc.feed algorithm.poly register (bitsOf byte.toBitVec) := by
  unfold update
  rw [straight, if_neg Bool.false_ne_true, Crc.feed_eq _ _ (by simpa using wide),
    Crc.word_bitsOf _ wide, Crc.length_bitsOf]
  rfl

theorem foldl_update_eq_feed (straight : algorithm.refin = false) (wide : 8 ≤ width)
    (register : BitVec width) (bytes : List UInt8) :
    bytes.foldl algorithm.update register =
      Crc.feed algorithm.poly register (streamBits bytes) := by
  induction bytes generalizing register with
  | nil => rfl
  | cons byte rest ih =>
    rw [List.foldl_cons, ih, update_eq_feed straight wide, streamBits_cons, Crc.feed_append]

/-- **A disturbed stream has another checksum.** -/
theorem checksum_ne_of_disturbed (straight : algorithm.refin = false)
    (unreflected : algorithm.refout = false) (wide : 8 ≤ width)
    (constant : algorithm.poly.getLsbD 0 = true) (even : Crc.parity algorithm.poly = true)
    {bytes others : List UInt8} (disturbed : Disturbed width (streamBits bytes) (streamBits others)) :
    algorithm.checksum bytes ≠ algorithm.checksum others := by
  intro equal
  unfold checksum at equal
  dsimp only at equal
  rw [unreflected, if_neg Bool.false_ne_true, if_neg Bool.false_ne_true] at equal
  have registers := (BitVec.xor_left_inj _).mp equal
  rw [foldl_update_eq_feed straight wide, foldl_update_eq_feed straight wide] at registers
  exact Crc.feed_ne_of_disturbed constant even _ disturbed registers

end Algorithm

theorem crc_16_ibm_3740_ne {bytes others : List UInt8}
    (disturbed : Disturbed 16 (streamBits bytes) (streamBits others)) :
    CRC_16_IBM_3740.checksum bytes ≠ CRC_16_IBM_3740.checksum others :=
  Algorithm.checksum_ne_of_disturbed rfl rfl (by decide) (by decide) (by decide) disturbed

theorem rockchip_crc16_ne {bytes others : List UInt8}
    (disturbed : Disturbed 16 (streamBits bytes) (streamBits others)) :
    ROCKCHIP_CRC16.checksum bytes ≠ ROCKCHIP_CRC16.checksum others :=
  Algorithm.checksum_ne_of_disturbed rfl rfl (by decide) (by decide) (by decide) disturbed

/-! ### Downloads -/

section Downloads

variable {script : Script} {bus : Bus}

/-- The table of an image, once all of it is sent: none of its payloads lies behind the end. -/
theorem downloadEntries_sends (dwRequest : UInt16) (image : RkBootImage)
    (entries : List RkBootEntry) :
    Io.After (Bus.answer script) (downloadEntries dwRequest (entries.map image.yield)) () bus
      fun outcome _ reached => outcome = .ok () →
        reached.trace = bus.trace ++ tableTransfers dwRequest entries image.data := by
  induction entries generalizing bus with
  | nil => exact fun _ => (List.append_nil _).symm
  | cons entry rest ih =>
    rw [List.map_cons, RkBootImage.yield_eq]
    by_cases inside : entry.InRange image.data
    · rw [if_pos inside]
      refine Io.after_ofExcept_bind.mpr ?_
      have sends : Io.After (Bus.answer script)
          (Io.mapErr Halt.error (vendorRequest dwRequest (entry.payload image.data))) () bus
          fun outcome _ reached => outcome = .ok () → reached.trace = bus.trace ++
            (requestPieces (entry.payload image.data)).map (vendorTransfer dwRequest) :=
        (sendChunks_delivers dwRequest _).mapErr.of_ok () bus
      refine sends.bind (fun _ _ _ _ fails => by cases fails) fun _ _ reached logged => ?_
      refine (@ih reached).imp fun outcome _ last rests done => ?_
      rw [rests done, logged rfl, List.append_assoc]
      rfl
    · rw [if_neg inside]
      exact fun fails => by cases fails

theorem downloadBoot_sends (image : RkBootImage) :
    Io.After (Bus.answer script) (downloadBoot image) () bus fun outcome _ reached =>
      outcome = .ok () → reached.trace = bus.trace ++ image.transfers := by
  have first := @downloadEntries_sends script bus 0x0471 image image.entries471
  refine first.bind (fun _ _ _ _ fails => by cases fails) fun _ _ reached logged => ?_
  have second := @downloadEntries_sends script reached 0x0472 image image.entries472
  refine second.imp fun outcome _ last rests done => ?_
  rw [rests done, logged rfl, List.append_assoc]
  rfl

/-- The payloads that are downloaded, in order. -/
def RkBootImage.payloads (image : RkBootImage) : List (List UInt8) :=
  (image.entries471 ++ image.entries472).map fun entry => entry.payload image.data

theorem outgoing_transfers (image : RkBootImage) :
    image.transfers.map Transfer.outgoing =
      (image.payloads.map withChecksum).flatMap (chunks 4096) := by
  rw [RkBootImage.transfers, tableTransfers_eq, tableTransfers_eq, List.map_append,
    outgoing_requestTransfers, outgoing_requestTransfers, ← List.flatMap_append, ← List.map_append,
    ← List.map_append]
  rfl

/-- A download arrives as it was sent, or disturbed. -/
def Arrives (sent received : List UInt8) : Prop :=
  received = sent ∨ Disturbed 16 (streamBits sent) (streamBits received)

/-- The downloads that a receiver makes of its pieces. -/
def framed (pieces : List (List UInt8)) : List (List UInt8) := (receive 4096 [] pieces).1

/-- The downloads that have the checksum 0, without the two bytes of it. -/
def checkedDownloads (pieces : List (List UInt8)) : List (List UInt8) :=
  ((framed pieces).filter fun download => CRC_16_IBM_3740.checksum download = 0).map
    fun download => download.take (download.length - 2)

theorem checksum_withChecksum (payload : List UInt8) :
    CRC_16_IBM_3740.checksum (withChecksum payload) = 0 :=
  Algorithm.checksum_append_checksum rfl rfl rfl payload

/-- A disturbed download has another checksum than 0. -/
theorem checksum_eq_zero_iff {payload received : List UInt8}
    (arrived : Arrives (withChecksum payload) received) :
    CRC_16_IBM_3740.checksum received = 0 ↔ received = withChecksum payload := by
  constructor
  · intro passes
    rcases arrived with same | disturbed
    · exact same
    · exact absurd ((checksum_withChecksum payload).trans passes.symm) (crc_16_ibm_3740_ne disturbed)
  · rintro rfl
    exact checksum_withChecksum payload

/-- What is taken of the downloads that arrive. -/
theorem filter_arrived {payloads received : List (List UInt8)}
    (arrived : List.Forall₂ Arrives (payloads.map withChecksum) received) :
    (received.filter fun download => CRC_16_IBM_3740.checksum download = 0).map
        (fun download => download.take (download.length - 2)) =
      ((payloads.zip received).filter fun pair => pair.2 = withChecksum pair.1).map Prod.fst := by
  rw [List.forall₂_map_left_iff] at arrived
  induction arrived with
  | nil => rfl
  | @cons payload download payloads received one _ ih =>
    have passes := checksum_eq_zero_iff one
    rw [List.zip_cons_cons, List.filter_cons, List.filter_cons]
    by_cases same : download = withChecksum payload
    · rw [if_pos (decide_eq_true (passes.mpr same)), if_pos (decide_eq_true same), List.map_cons,
        List.map_cons, ih, same, take_withChecksum]
    · rw [if_neg (by simpa using fun zero => same (passes.mp zero)), if_neg (by simpa using same), ih]

/-- **A receiver that checks its downloads**: of an image that is sent, whatever disturbs the
downloads, it takes exactly the payloads that arrived as they were sent. -/
theorem downloads_checked (script : Script) (bus : Bus) {image : RkBootImage}
    (ends : ∀ payload ∈ image.payloads, payload.length % 4096 ≠ 4094) :
    Io.After (Bus.answer script) (downloadBoot image) () bus fun outcome _ reached =>
      outcome = .ok () → ∃ sent, reached.trace = bus.trace ++ sent ∧
        ∀ received, List.Forall₂ Arrives (framed (sent.map Transfer.outgoing)) (framed received) →
          checkedDownloads received =
            ((image.payloads.zip (framed received)).filter fun pair =>
              pair.2 = withChecksum pair.1).map Prod.fst := by
  refine downloadBoot_sends image |>.imp fun outcome _ reached logged done => ?_
  refine ⟨image.transfers, logged done, fun received arrived => filter_arrived ?_⟩
  have delimited : ∀ message ∈ image.payloads.map withChecksum, ¬4096 ∣ message.length := by
    rw [List.forall_mem_map]
    exact fun payload member => (dvd_length_withChecksum payload).not.mpr (ends payload member)
  rwa [framed, outgoing_transfers, receive_flatMap_chunks (by decide) delimited] at arrived

/-- The payloads of four bytes and of one byte, of which the second arrives with one bit changed. -/
theorem downloads_checked_twoEntries :
    checkedDownloads [withChecksum (twoEntries.take 4), [twoEntries.headD 0 ^^^ 1] ++
      (withChecksum (twoEntries.take 1)).drop 1] = [twoEntries.take 4] := by
  have law := @downloads_checked Script.undisturbed (Bus.fresh fun _ => 0) twoEntriesImage
    (by decide +kernel)
  obtain ⟨sent, logged, takes⟩ := law (by decide +kernel)
  have sends : framed (sent.map Transfer.outgoing) =
      [withChecksum (twoEntries.take 4), withChecksum (twoEntries.take 1)] := by
    rw [← List.nil_append sent, ← show _ = [] ++ sent from logged]
    decide +kernel
  have arrives : framed [withChecksum (twoEntries.take 4), [twoEntries.headD 0 ^^^ 1] ++
      (withChecksum (twoEntries.take 1)).drop 1] = [withChecksum (twoEntries.take 4),
        [twoEntries.headD 0 ^^^ 1] ++ (withChecksum (twoEntries.take 1)).drop 1] := by
    decide +kernel
  have flipped : Odd ((List.zipWith xor (streamBits (withChecksum (twoEntries.take 1)))
      (streamBits ([twoEntries.headD 0 ^^^ 1] ++ (withChecksum (twoEntries.take 1)).drop 1))).count
        true) := by
    decide +kernel
  refine (takes _ ?_).trans (by decide +kernel)
  rw [sends, arrives]
  exact .cons (.inl rfl) (.cons (.inr (.inr ⟨by decide +kernel, flipped⟩)) .nil)

end Downloads

/-! ### Header sectors -/

namespace Idblock.Old

variable {rc4 : List UInt8 → Nat → UInt8} {rkCrc : List UInt8 → UInt32} {rc4Enabled : Bool}
  {ddr loader block : List UInt8}

/-- The sectors that have a checksum, each with the place of it in sector 2. -/
def checksumPlaces : List (Nat × Nat) := [(0, 494), (1, 496), (3, 508)]

/-- A sector has the checksum that is recorded for it. -/
def SectorVerifies (rc4 : List UInt8 → Nat → UInt8) (rc4Enabled : Bool) (block : List UInt8)
    (pair : Nat × Nat) : Prop :=
  u16At (plainSector rc4 rc4Enabled block 2) pair.2 = crc16 (plainSector rc4 rc4Enabled block pair.1)

/-- The header sectors have the checksums that are recorded for them. -/
def HeaderVerifies (rc4 : List UInt8 → Nat → UInt8) (rc4Enabled : Bool) (block : List UInt8) : Prop :=
  ∀ pair ∈ checksumPlaces, SectorVerifies rc4 rc4Enabled block pair

theorem Recovers.headerVerifies (recovers : Recovers rc4 rkCrc ddr loader rc4Enabled block) :
    HeaderVerifies rc4 rc4Enabled block := by
  refine List.forall_mem_cons.mpr ⟨recovers.sec0Crc, ?_⟩
  exact List.forall_mem_cons.mpr ⟨recovers.sec1Crc, List.forall_mem_singleton.mpr recovers.sec3Crc⟩

/-- A sector that is disturbed as it is stored is disturbed for its reader. -/
theorem disturbed_plainSector {damaged : List UInt8} {index : Nat}
    (disturbed : Disturbed 16 (streamBits (field block (SECTOR_SIZE * index) SECTOR_SIZE))
      (streamBits (field damaged (SECTOR_SIZE * index) SECTOR_SIZE))) :
    Disturbed 16 (streamBits (plainSector rc4 rc4Enabled block index))
      (streamBits (plainSector rc4 rc4Enabled damaged index)) := by
  unfold plainSector
  by_cases encrypted : rc4Enabled = true ∧ index ≠ 1
  · rw [if_pos encrypted, if_pos encrypted]
    exact disturbed_applyKeystream _ disturbed
  · rw [if_neg encrypted, if_neg encrypted]
    exact disturbed

/-- **A damaged header is rejected**: if a sector is disturbed and the sector of the checksums is as it
was, the checksum of this sector is not the one that is recorded for it. -/
theorem damaged_header_rejected
    (built : buildIdblock rc4 rkCrc ddr loader rc4Enabled = .ok block) :
    HeaderVerifies rc4 rc4Enabled block ∧ ∀ (damaged : List UInt8), ∀ pair ∈ checksumPlaces,
      field damaged (SECTOR_SIZE * 2) SECTOR_SIZE = field block (SECTOR_SIZE * 2) SECTOR_SIZE →
      Disturbed 16 (streamBits (field block (SECTOR_SIZE * pair.1) SECTOR_SIZE))
        (streamBits (field damaged (SECTOR_SIZE * pair.1) SECTOR_SIZE)) →
      ¬SectorVerifies rc4 rc4Enabled damaged pair := by
  have verifies := (recovers_of_ok built).headerVerifies
  refine ⟨verifies, fun damaged pair listed recorded disturbed other => ?_⟩
  have same : plainSector rc4 rc4Enabled damaged 2 = plainSector rc4 rc4Enabled block 2 := by
    unfold plainSector
    rw [recorded]
  have checksums : crc16 (plainSector rc4 rc4Enabled block pair.1) =
      crc16 (plainSector rc4 rc4Enabled damaged pair.1) := by
    rw [← verifies pair listed, ← other, same]
  exact rockchip_crc16_ne (disturbed_plainSector disturbed) (congrArg UInt16.toBitVec checksums)

/-- A block with another first byte. -/
def damageFirst (block : List UInt8) : List UInt8 := (block.headD 0 ^^^ 1) :: block.tail

/-- The first sector of an encrypted block is damaged in one bit. -/
theorem damaged_header_rejected_firstByte :
    ∃ block, buildIdblock Rc4.keystream (fun _ => 0) [1, 2, 3] [4, 5] true = .ok block ∧
      HeaderVerifies Rc4.keystream true block ∧
      ¬SectorVerifies Rc4.keystream true (damageFirst block) (0, 494) := by
  obtain ⟨block, built⟩ : ∃ block, buildIdblock Rc4.keystream (fun _ => 0) [1, 2, 3] [4, 5] true =
      .ok block := by
    rw [buildIdblock_of_lt (by decide) (by decide), if_pos (by decide)]
    exact ⟨_, rfl⟩
  obtain ⟨verifies, rejected⟩ := damaged_header_rejected built
  have filled := (recovers_of_ok built).bootCodeSectors
  cases block with
  | nil =>
    have header : 0 < IDBLOCK_HEADER_SECTORS := by decide
    rw [List.length_nil, SECTOR_SIZE] at filled
    omega
  | cons byte rest =>
    have same : [byte].length = [byte ^^^ 1].length := rfl
    have changed : [byte] ≠ [byte ^^^ 1] := by
      intro equal
      have bit : byte ^^^ byte = byte ^^^ (byte ^^^ 1) :=
        congrArg (byte ^^^ ·) (List.singleton_inj.mp equal)
      rw [← UInt8.xor_assoc, UInt8.xor_self, UInt8.zero_xor] at bit
      exact absurd bit (by decide)
    exact ⟨_, built, verifies, rejected _ (0, 494) List.mem_cons_self rfl
      (disturbed_of_bytes [] (rest.take 511) same (Nat.le_succ 1) changed)⟩

end Idblock.Old

end Rkusb
