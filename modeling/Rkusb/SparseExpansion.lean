/-
**Well-formed sparse images, and what they expand to.**

`SparseChunk` is a chunk as the format means it, and `WellFormed` says that an image is made of such
chunks. `sparse_expands`: a device that carries every command out in time holds the expanded image on
the partition afterwards, with what it held before in the gaps and everywhere else.
-/

import Rkusb.SparseImage

namespace Rkusb

open Interaction Bytes FlatStore
open RkBlockDevice (Addressed addressLimit)

/-! ### The format -/

/-- A chunk of a sparse image: data, a pattern of four bytes, a gap, each of a number of blocks; or a
checksum. -/
inductive SparseChunk
  | raw (blocks : UInt32) (bytes : List UInt8)
  | fill (blocks : UInt32) (pattern : List UInt8)
  | dontCare (blocks : UInt32)
  | crc32 (checksum : List UInt8)
  deriving DecidableEq

namespace SparseChunk

def chunkType : SparseChunk → UInt16
  | raw _ _ => CHUNK_TYPE_RAW
  | fill _ _ => CHUNK_TYPE_FILL
  | dontCare _ => CHUNK_TYPE_DONT_CARE
  | crc32 _ => CHUNK_TYPE_CRC32

/-- How many blocks the chunk covers. -/
def blocks : SparseChunk → UInt32
  | raw blocks _ => blocks
  | fill blocks _ => blocks
  | dontCare blocks => blocks
  | crc32 _ => 0

/-- What follows the chunk header in the image. -/
def payload : SparseChunk → List UInt8
  | raw _ bytes => bytes
  | fill _ pattern => pattern
  | dontCare _ => []
  | crc32 checksum => checksum

/-- The payload has the size it needs. -/
def Sized (blockSize : Nat) : SparseChunk → Prop
  | raw blocks bytes => bytes.length = blockSize * blocks.toNat
  | fill _ pattern => pattern.length = 4
  | dontCare _ => True
  | crc32 checksum => checksum.length = 4

/-- What the blocks hold in the expanded image; nothing in a gap. -/
def cells (blockSize : Nat) : SparseChunk → List (Option UInt8)
  | raw _ bytes => bytes.map some
  | fill blocks pattern => (List.replicate (blockSize * blocks.toNat / 4) pattern).flatten.map some
  | dontCare blocks => List.replicate (blockSize * blocks.toNat) none
  | crc32 _ => []

end SparseChunk

/-- The expanded image. -/
def expanded (blockSize : Nat) (chunks : List SparseChunk) : List (Option UInt8) :=
  chunks.flatMap (SparseChunk.cells blockSize)

/-- The image has the chunk at a position: its header, and its payload behind as many bytes as the
file header states for a chunk header. -/
structure HasChunk (blockSize chunkHeaderSize : Nat) (image : List UInt8) (pos : Nat)
    (header : ChunkHeader) (chunk : SparseChunk) : Prop where
  sized : chunk.Sized blockSize
  within : pos + chunkHeaderSize + chunk.payload.length ≤ image.length
  read : header = .ofBytes ((image.drop pos).take ChunkHeader.size)
  chunkType : header.chunkType = chunk.chunkType
  chunkSz : header.chunkSz = chunk.blocks
  totalSz : header.totalSz.toNat = chunkHeaderSize + chunk.payload.length
  payload : (image.drop (pos + chunkHeaderSize)).take chunk.payload.length = chunk.payload

/-- The image has the chunks, one after another. -/
def HasChunks (blockSize chunkHeaderSize : Nat) (image : List UInt8) : Nat → List SparseChunk → Prop
  | _, [] => True
  | pos, chunk :: rest =>
      (∃ header, HasChunk blockSize chunkHeaderSize image pos header chunk) ∧
        HasChunks blockSize chunkHeaderSize image (pos + chunkHeaderSize + chunk.payload.length) rest

/-- An image of version 1.0 that is made of the chunks. -/
structure WellFormed (image : List UInt8) (header : SparseHeader) (chunks : List SparseChunk) :
    Prop where
  within : SparseHeader.size ≤ image.length
  read : header = .ofBytes (image.take SparseHeader.size)
  magic : header.magic = SPARSE_HEADER_MAGIC
  version : header.majorVersion = 1 ∧ header.minorVersion = 0
  fileHdrSz : SparseHeader.size ≤ header.fileHdrSz.toNat
  chunkHdrSz : ChunkHeader.size ≤ header.chunkHdrSz.toNat
  blkSz : 4 ∣ header.blkSz.toNat
  totalChunks : header.totalChunks.toNat = chunks.length
  totalBlks : header.totalBlks.toNat = (chunks.map fun chunk => chunk.blocks.toNat).sum
  hasChunks : HasChunks header.blkSz.toNat header.chunkHdrSz.toNat image header.fileHdrSz.toNat chunks

/-! ### The pieces of a well-formed image -/

namespace SparseChunk

/-- The piece that the walk makes of the chunk. -/
def piece (blockSize : Nat) : SparseChunk → Piece
  | raw _ bytes => .data bytes
  | fill blocks pattern => .data (List.replicate (blockSize * blocks.toNat / 4) pattern).flatten
  | dontCare blocks => .skip (UInt64.ofNat (blockSize * blocks.toNat)).toInt64
  | crc32 _ => .data []

theorem length_cells {blockSize : Nat} (four : 4 ∣ blockSize) {chunk : SparseChunk}
    (sized : chunk.Sized blockSize) :
    (chunk.cells blockSize).length = blockSize * chunk.blocks.toNat := by
  cases chunk with
  | raw blocks bytes => exact (List.length_map _).trans sized
  | fill blocks pattern =>
    have length : pattern.length = 4 := sized
    show ((List.replicate (blockSize * blocks.toNat / 4) pattern).flatten.map some).length =
      blockSize * blocks.toNat
    rw [List.length_map, length_flatten_replicate, length]
    exact Nat.div_mul_cancel (four.mul_right _)
  | dontCare blocks => exact List.length_replicate
  | crc32 checksum => exact (Nat.mul_zero _).symm

/-- The piece of a chunk moves the cursor by its cells. -/
theorem advance_piece {blockSize size cursor : Nat} {chunk : SparseChunk}
    (fits : cursor + (chunk.cells blockSize).length < size) (small : size ≤ addressLimit) :
    (chunk.piece blockSize).advance size cursor =
      some (cursor + (chunk.cells blockSize).length) := by
  have limit := addressLimit_lt
  have data (bytes : List UInt8) (same : (chunk.cells blockSize).length = bytes.length) :
      (Piece.data bytes).advance size cursor = some (cursor + (chunk.cells blockSize).length) := by
    rw [same] at fits ⊢
    exact advance_data (.inr (fits.le.trans small))
  cases chunk with
  | raw blocks bytes => exact data bytes (List.length_map _)
  | fill blocks pattern => exact data _ (List.length_map _)
  | dontCare blocks =>
    have length : ((dontCare blocks).cells blockSize).length = blockSize * blocks.toNat :=
      List.length_replicate
    rw [length] at fits ⊢
    have offset : (UInt64.ofNat (blockSize * blocks.toNat)).toInt64.toInt =
        (blockSize * blocks.toNat : Nat) := by
      rw [UInt64.toInt64_ofNat', Int64.toInt_ofNat_of_lt (by omega)]
    show (RkBlockDevice.checkedAddSigned cursor _).filter (· < size) = _
    rw [@RkBlockDevice.checkedAddSigned_of _ _ (cursor + blockSize * blocks.toNat) (by omega)
      (by rw [offset]; exact (Nat.cast_add _ _).symm), Option.filter_some,
      if_pos (decide_eq_true fits)]
  | crc32 checksum => exact data [] rfl

/-- The piece of a chunk writes its cells. -/
theorem splice_piece {blockSize cursor : Nat} {chunk : SparseChunk} (store : Nat → UInt8) :
    spliceAll store ((chunk.piece blockSize).writes cursor) =
      overlay store cursor (chunk.cells blockSize) := by
  cases chunk with
  | raw blocks bytes => exact (overlay_some _ _ _).symm
  | fill blocks pattern => exact (overlay_some _ _ _).symm
  | dontCare blocks => exact (overlay_none _ _ _).symm
  | crc32 checksum => exact (overlay_some _ _ []).symm

end SparseChunk

/-- The chunk header that is read where the image has a chunk. -/
theorem HasChunk.reads {blockSize chunkHeaderSize pos : Nat} {image : List UInt8}
    {header : ChunkHeader} {chunk : SparseChunk}
    (has : HasChunk blockSize chunkHeaderSize image pos header chunk)
    (room : ChunkHeader.size ≤ chunkHeaderSize) :
    ∃ img, ChunkHeader.readFromIo (Cursor.mk image pos) = .ok (header, img) := by
  obtain ⟨img, reads⟩ := @Cursor.readExact_of_le ⟨image, pos⟩ ChunkHeader.size (by
    have := has.within
    show pos + ChunkHeader.size ≤ image.length
    omega)
  refine ⟨img, ?_⟩
  rw [ChunkHeader.readFromIo, reads, has.read]
  rfl

theorem HasChunk.piece {blockSize chunkHeaderSize pos : Nat} {image : List UInt8}
    {header : ChunkHeader} {chunk : SparseChunk}
    (has : HasChunk blockSize chunkHeaderSize image pos header chunk) :
    header.piece (blockSize * header.chunkSz.toNat) ⟨image, pos + chunkHeaderSize⟩ =
      .ok (chunk.piece blockSize) := by
  obtain ⟨sized, within, -, type, count, -, payload⟩ := has
  rw [ChunkHeader.piece, type, count]
  cases chunk with
  | raw blocks bytes =>
    have length : bytes.length = blockSize * blocks.toNat := sized
    exact congrArg (fun bytes => Except.ok (Piece.data bytes))
      (show (image.drop (pos + chunkHeaderSize)).take (blockSize * blocks.toNat) = bytes from
        length ▸ payload)
  | fill blocks pattern =>
    have length : pattern.length = 4 := sized
    obtain ⟨img, reads⟩ := @Cursor.readExact_of_le ⟨image, pos + chunkHeaderSize⟩ 4 (by
      rw [← length]
      exact within)
    have found : (image.drop (pos + chunkHeaderSize)).take 4 = pattern := length ▸ payload
    rw [found] at reads
    refine (if_neg (show ¬CHUNK_TYPE_FILL = CHUNK_TYPE_RAW by decide)).trans ((if_pos rfl).trans ?_)
    rw [reads]
    rfl
  | dontCare blocks => rfl
  | crc32 checksum => rfl

/-- The pieces of the chunks that an image has. -/
theorem decode_hasChunks {blockSize chunkHeaderSize : Nat} {image : List UInt8}
    (room : ChunkHeader.size ≤ chunkHeaderSize) (pos : Nat) (chunks : List SparseChunk)
    (has : HasChunks blockSize chunkHeaderSize image pos chunks) :
    decode blockSize chunkHeaderSize image chunks.length pos =
      (chunks.map (SparseChunk.piece blockSize), true) := by
  induction chunks generalizing pos with
  | nil => rfl
  | cons chunk rest ih =>
    obtain ⟨⟨header, here⟩, later⟩ := has
    obtain ⟨img, reads⟩ := here.reads room
    have found : pieceAt blockSize chunkHeaderSize image pos =
        .ok (chunk.piece blockSize, pos + chunkHeaderSize + chunk.payload.length) := by
      rw [pieceAt, reads]
      dsimp only
      rw [here.piece, here.totalSz, Nat.add_assoc]
    rw [List.length_cons, decode, found]
    dsimp only
    rw [ih _ later]
    rfl

theorem HasChunks.sized {blockSize chunkHeaderSize pos : Nat} {image : List UInt8}
    {chunks : List SparseChunk} (has : HasChunks blockSize chunkHeaderSize image pos chunks) :
    ∀ chunk ∈ chunks, chunk.Sized blockSize := by
  induction chunks generalizing pos with
  | nil => exact fun chunk member => absurd member List.not_mem_nil
  | cons chunk rest ih =>
    obtain ⟨⟨header, here⟩, later⟩ := has
    exact List.forall_mem_cons.mpr ⟨here.sized, ih later⟩

theorem length_expanded {blockSize : Nat} (four : 4 ∣ blockSize) {chunks : List SparseChunk}
    (sized : ∀ chunk ∈ chunks, chunk.Sized blockSize) :
    (expanded blockSize chunks).length =
      blockSize * (chunks.map fun chunk => chunk.blocks.toNat).sum := by
  induction chunks with
  | nil => rfl
  | cons chunk rest ih =>
    obtain ⟨here, later⟩ := List.forall_mem_cons.mp sized
    rw [expanded, List.flatMap_cons, List.length_append, SparseChunk.length_cells four here,
      List.map_cons, List.sum_cons, Nat.mul_add]
    exact congrArg _ (ih later)

/-- **The pieces of chunks**, put one after another, lead nowhere astray and write the expanded image
with its gaps. -/
theorem pieces_expand {blockSize size : Nat} (small : size ≤ addressLimit)
    (chunks : List SparseChunk) (cursor : Nat)
    (fits : cursor + (expanded blockSize chunks).length < size) :
    Completes size (chunks.map (SparseChunk.piece blockSize)) cursor ∧
      ∀ store, spliceAll store (placed size (chunks.map (SparseChunk.piece blockSize)) cursor) =
        overlay store cursor (expanded blockSize chunks) := by
  induction chunks generalizing cursor with
  | nil => exact ⟨trivial, fun store => (overlay_none store cursor 0).symm⟩
  | cons chunk rest ih =>
    rw [expanded, List.flatMap_cons, List.length_append, ← Nat.add_assoc] at fits
    have advances := chunk.advance_piece ((Nat.le_add_right _ _).trans_lt fits) small
    obtain ⟨completes, writes⟩ := ih _ fits
    refine ⟨⟨_, advances, completes⟩, fun store => ?_⟩
    rw [List.map_cons, placed_cons_some advances, spliceAll_append, chunk.splice_piece, writes,
      ← overlay_append]
    rfl

/-! ### The whole image -/

variable {script : Script} {bus : Bus} {gpt : Gpt} {lb : LogicalBlockSize} {part : Partition}
  {image : List UInt8} {own : RkBlockDevice} {header : SparseHeader} {chunks : List SparseChunk}

/-- The file header of a well-formed image passes the checks if its blocks have room. -/
theorem WellFormed.accepted (formed : WellFormed image header chunks) {partSize : Nat}
    (room : header.blkSz.toNat * header.totalBlks.toNat ≤ partSize) :
    acceptedHeader partSize image = some header := by
  obtain ⟨img, reads⟩ := @Cursor.readExact_of_le ⟨image, 0⟩ SparseHeader.size
    ((Nat.zero_add _).le.trans formed.within)
  have found : SparseHeader.readFromIo (Cursor.mk image 0) = .ok (header, img) := by
    rw [SparseHeader.readFromIo, reads, formed.read]
    rfl
  have version : ¬(1 < header.majorVersion ∨ 0 < header.minorVersion) := by
    rw [formed.version.1, formed.version.2]
    decide
  rw [acceptedHeader, found]
  exact if_pos ⟨formed.magic, version, room⟩

theorem WellFormed.pieces (formed : WellFormed image header chunks) :
    header.pieces image = (chunks.map (SparseChunk.piece header.blkSz.toNat), true) := by
  rw [SparseHeader.pieces, formed.totalChunks]
  exact decode_hasChunks formed.chunkHdrSz _ _ formed.hasChunks

theorem WellFormed.length_expanded (formed : WellFormed image header chunks) :
    (expanded header.blkSz.toNat chunks).length =
      header.blkSz.toNat * header.totalBlks.toNat := by
  rw [Rkusb.length_expanded formed.blkSz formed.hasChunks.sized, formed.totalBlks]

/-- **A well-formed image is expanded onto its partition.** Over a device that carries every command
out in time, a byte of the partition is that of the expanded image, or what it was in a gap and
behind the end of the image; every other byte is what it was. -/
theorem sparse_expands (lawful : gpt.Lawful) {flashSize : UInt32}
    (sized : own.diskSizeBytes = SECTOR_SIZE * flashSize.toNat)
    (serves : script.Serves DEFAULT_BUF_SIZE own.timeout) (idle : bus.Idle)
    (ordered : part.firstLba ≤ part.lastLba)
    (ends : part.start lb + part.length lb < own.diskSizeBytes)
    (formed : WellFormed image header chunks)
    (room : header.blkSz.toNat * header.totalBlks.toNat ≤ part.length lb) :
    Io.After (Bus.answer script) (writeSparseImage gpt lb part (Cursor.mk image 0)) own bus
      fun outcome _ reached => outcome = .ok () ∧
        (∀ offset < part.length lb, reached.target.disk (part.start lb + offset) =
          ((expanded header.blkSz.toNat chunks)[offset]?.join).getD
            (bus.target.disk (part.start lb + offset))) ∧
        ∀ place, ¬(part.start lb ≤ place ∧ place < part.start lb + part.length lb) →
          reached.target.disk place = bus.target.disk place := by
  have small := size_le_addressLimit sized
  refine (writeSparseImage_effect lawful small ⟨ordered, ends.le⟩ idle).imp ?_
  intro outcome own' reached done
  rw [formed.accepted room] at done
  have walked : Walked script { own with pos := part.start lb } bus (header.pieces image).1
    (header.pieces image).2 outcome reached := done
  rw [formed.pieces] at walked
  have length := formed.length_expanded
  obtain ⟨completes, writes⟩ := pieces_expand small chunks (part.start lb)
    (show part.start lb + (expanded header.blkSz.toNat chunks).length < own.diskSizeBytes by omega)
  obtain ⟨ok, disk⟩ := walked.completes serves completes rfl
  rw [writes] at disk
  refine ⟨ok, fun offset inside => ?_, fun place outside => ?_⟩
  · rw [disk, overlay, if_pos (Nat.le_add_right _ _), Nat.add_sub_cancel_left]
  · rw [disk, overlay]
    split
    · rw [List.getElem?_eq_none (by omega)]
      rfl
    · rfl

/-- A block of data, a gap of two blocks, a checksum, and a block of a pattern. -/
def mixedChunks : List SparseChunk :=
  [.raw 1 [1, 2, 3, 4], .dontCare 2, .crc32 [0, 0, 0, 0], .fill 1 [5, 6, 7, 8]]

/-- The chunks as an image, with longer headers than needed. -/
def mixedImage : List UInt8 :=
  [0x3a, 0xff, 0x26, 0xed, 1, 0, 0, 0, 30, 0, 13, 0, 4, 0, 0, 0, 4, 0, 0, 0, 4, 0, 0, 0, 0, 0, 0, 0,
      0, 0] ++
    [0xc1, 0xca, 0, 0, 1, 0, 0, 0, 17, 0, 0, 0, 0, 1, 2, 3, 4] ++
    [0xc3, 0xca, 0, 0, 2, 0, 0, 0, 13, 0, 0, 0, 0] ++
    [0xc4, 0xca, 0, 0, 0, 0, 0, 0, 17, 0, 0, 0, 0, 0, 0, 0, 0] ++
    [0xc2, 0xca, 0, 0, 1, 0, 0, 0, 17, 0, 0, 0, 0, 5, 6, 7, 8]

theorem mixedImage_wellFormed :
    WellFormed mixedImage (.ofBytes (mixedImage.take SparseHeader.size)) mixedChunks where
  within := by decide
  read := rfl
  magic := by decide
  version := by decide
  fileHdrSz := by decide
  chunkHdrSz := by decide
  blkSz := by decide
  totalChunks := by decide
  totalBlks := by decide
  hasChunks :=
    ⟨⟨_, rfl, by decide, rfl, by decide, by decide, by decide, by decide⟩,
      ⟨_, trivial, by decide, rfl, by decide, by decide, by decide, by decide⟩,
      ⟨_, rfl, by decide, rfl, by decide, by decide, by decide, by decide⟩,
      ⟨_, rfl, by decide, rfl, by decide, by decide, by decide, by decide⟩, trivial⟩

/-- Bytes of the data, of the gap and of the pattern, on a disk of nines. -/
theorem sparse_expands_mixed :
    Io.After (Bus.answer Script.undisturbed)
      (writeSparseImage .checked .lb512 ⟨1, 1⟩ (Cursor.mk mixedImage 0)) (.new 2048 0 DEFAULT_IO_TIMEOUT)
      (Bus.fresh fun _ => 9) fun outcome _ reached => outcome = .ok () ∧
        reached.target.disk 512 = 1 ∧ reached.target.disk 516 = 9 ∧ reached.target.disk 527 = 8 := by
  refine (@sparse_expands Script.undisturbed (Bus.fresh fun _ => 9) .checked .lb512 ⟨1, 1⟩ mixedImage
    (.new 2048 0 DEFAULT_IO_TIMEOUT) _ mixedChunks Gpt.checked_lawful 4 rfl
    (Script.undisturbed_still.serves (by decide) _) (Bus.fresh_idle _) (by decide) (by decide)
    mixedImage_wellFormed (by decide)).imp fun outcome own' reached expands => ?_
  obtain ⟨ok, inside, -⟩ := expands
  exact ⟨ok, inside 0 (by decide), inside 4 (by decide), inside 15 (by decide)⟩

end Rkusb
