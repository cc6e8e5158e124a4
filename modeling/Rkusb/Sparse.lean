/-
**Sparse images onto a partition** (`bin/rktools/subcommands/upgrade.rs`).

`writeSparseImage` walks the chunks of an image with two cursors: one in the image, which follows the
sizes that the chunk headers state, and the one of the block device, which follows what was copied or
skipped. The pieces of the standard library that it goes through (`Cursor`, `Take`, `copy`,
`write_all`) are modelled as they are documented, `copy` with its buffer of 8192 bytes.

The reader of the image is any (`ReadSeek`). What is said of `Cursor.mk image 0` is said of an image in
memory, which can be moved to any position; a reader may as well refuse positions behind its end.
-/

import Rkusb.Partition

namespace Rkusb

open Interaction Bytes

/-! ### Readers -/

/-- `Read` and `Seek`. A buffer is filled as far as there are bytes, and a position may be refused. -/
class ReadSeek (ρ : Type) where
  read : ρ → Nat → List UInt8 × ρ
  seek : ρ → Nat → Except IoError ρ

/-- `Read::read_exact`. -/
def readExact {ρ : Type} [ReadSeek ρ] (img : ρ) (count : Nat) : Except IoError (List UInt8 × ρ) :=
  let (bytes, img) := ReadSeek.read img count
  if bytes.length = count then .ok (bytes, img)
  else .error (.new .unexpectedEof "failed to fill whole buffer")

/-- `std::io::Cursor` over the bytes of an image. -/
structure Cursor where
  bytes : List UInt8
  pos : Nat
  deriving DecidableEq

namespace Cursor

/-- `Seek::seek` from the start, at any position. -/
def seek (img : Cursor) (pos : Nat) : Cursor := { img with pos := pos }

def read (img : Cursor) (capacity : Nat) : List UInt8 × Cursor :=
  let bytes := (img.bytes.drop img.pos).take capacity
  (bytes, { img with pos := img.pos + bytes.length })

instance : ReadSeek Cursor where
  read := read
  seek img pos := .ok (img.seek pos)

end Cursor

/-- `std::io::Take`. -/
structure Take (ρ : Type) where
  inner : ρ
  limit : Nat

def Take.read {ρ : Type} (read : ρ → Nat → List UInt8 × ρ) (take : Take ρ) (capacity : Nat) :
    List UInt8 × Take ρ :=
  let (bytes, inner) := read take.inner (min take.limit capacity)
  (bytes, { inner := inner, limit := take.limit - bytes.length })

/-- `sparse::Repeat`: whole copies of the pattern, as many as fit. -/
def repeatRead (pattern : List UInt8) (capacity : Nat) : List UInt8 × List UInt8 :=
  ((List.replicate (capacity / pattern.length) pattern).flatten, pattern)

/-- The buffer of `std::io::copy`. -/
def DEFAULT_BUF_SIZE : Nat := 8192

/-- `Write::write_all` on the block device. Every round writes something, so that there are no more
rounds than bytes. -/
def writeAll : Nat → List UInt8 → UsbIo RkBlockDevice IoError Unit
  | 0, _ => pure ()
  | rounds + 1, buf =>
      if buf = [] then pure ()
      else do
        let n ← RkBlockDevice.write buf
        if n = 0 then .throw (.new .writeZero "failed to write whole buffer")
        else writeAll rounds (buf.drop n)

/-- `std::io::copy` to the block device, in as many rounds as the reader has buffers. -/
def copy {ρ : Type} (read : ρ → Nat → List UInt8 × ρ) :
    Nat → ρ → UsbIo RkBlockDevice IoError Unit
  | 0, _ => pure ()
  | rounds + 1, reader =>
      let (buf, reader) := read reader DEFAULT_BUF_SIZE
      if buf = [] then pure ()
      else do
        writeAll buf.length buf
        copy read rounds reader

/-! ### The image -/

def SPARSE_HEADER_MAGIC : UInt32 := 0xed26ff3a

def CHUNK_TYPE_RAW : UInt16 := 0xCAC1
def CHUNK_TYPE_FILL : UInt16 := 0xCAC2
def CHUNK_TYPE_DONT_CARE : UInt16 := 0xCAC3
def CHUNK_TYPE_CRC32 : UInt16 := 0xCAC4

/-- The file header, 28 bytes. -/
structure SparseHeader where
  magic : UInt32
  majorVersion : UInt16
  minorVersion : UInt16
  fileHdrSz : UInt16
  chunkHdrSz : UInt16
  blkSz : UInt32
  totalBlks : UInt32
  totalChunks : UInt32
  imageChecksum : UInt32
  deriving DecidableEq

/-- The header of a chunk, 12 bytes. -/
structure ChunkHeader where
  chunkType : UInt16
  reserved1 : UInt16
  chunkSz : UInt32
  totalSz : UInt32
  deriving DecidableEq

def SparseHeader.size : Nat := 28
def ChunkHeader.size : Nat := 12

/-- The fields of the file header. -/
def SparseHeader.ofBytes (bytes : List UInt8) : SparseHeader where
  magic := u32At bytes 0
  majorVersion := u16At bytes 4
  minorVersion := u16At bytes 6
  fileHdrSz := u16At bytes 8
  chunkHdrSz := u16At bytes 10
  blkSz := u32At bytes 12
  totalBlks := u32At bytes 16
  totalChunks := u32At bytes 20
  imageChecksum := u32At bytes 24

/-- The fields of a chunk header. -/
def ChunkHeader.ofBytes (bytes : List UInt8) : ChunkHeader where
  chunkType := u16At bytes 0
  reserved1 := u16At bytes 2
  chunkSz := u32At bytes 4
  totalSz := u32At bytes 8

/-- `read_from_io`. -/
def SparseHeader.readFromIo {ρ : Type} [ReadSeek ρ] (img : ρ) : Except IoError (SparseHeader × ρ) := do
  let (bytes, img) ← readExact img SparseHeader.size
  pure (.ofBytes bytes, img)

def ChunkHeader.readFromIo {ρ : Type} [ReadSeek ρ] (img : ρ) : Except IoError (ChunkHeader × ρ) := do
  let (bytes, img) ← readExact img ChunkHeader.size
  pure (.ofBytes bytes, img)

/-! ### The walk -/

inductive WriteSparseImageError
  | io (error : IoError)
  | invalidMagic
  | unsupportedVersion
  | unknownSparseChunkType
  | imageTooLarge (partSize totalSize : Nat)
  deriving DecidableEq

section Walk

variable {ρ : Type} [ReadSeek ρ]

/-- What a chunk asks of the block device, the reader standing at its payload. -/
def writeSparseChunk (header : ChunkHeader) (dataSize : Nat) (img : ρ) :
    UsbIo RkBlockDevice WriteSparseImageError Unit :=
  if header.chunkType = CHUNK_TYPE_RAW then
    Io.mapErr .io (copy (Take.read ReadSeek.read) (dataSize + 1) ⟨img, dataSize⟩)
  else if header.chunkType = CHUNK_TYPE_FILL then do
    let (buf, _) ← .ofExcept ((readExact img 4).mapError .io)
    Io.mapErr .io (copy (Take.read repeatRead) (dataSize + 1) ⟨buf, dataSize⟩)
  else if header.chunkType = CHUNK_TYPE_DONT_CARE then do
    -- the size is cast to a signed offset
    let _ ← Io.mapErr .io (RkBlockDevice.seek (.current (UInt64.ofNat dataSize).toInt64))
    pure ()
  else if header.chunkType = CHUNK_TYPE_CRC32 then pure ()
  else .throw .unknownSparseChunkType

/-- The loop over the chunks. Each round seeks before it reads, so that it does not matter where the
round before left the reader. -/
def writeSparseChunks (blockSize chunkHeaderSize : Nat) (img : ρ) :
    Nat → Nat → UsbIo RkBlockDevice WriteSparseImageError Unit
  | 0, _ => pure ()
  | chunks + 1, pos => do
      let img ← .ofExcept ((ReadSeek.seek img pos).mapError .io)
      let (chunkHeader, img) ← .ofExcept ((ChunkHeader.readFromIo img).mapError .io)
      let dataSize := blockSize * chunkHeader.chunkSz.toNat
      let img ← .ofExcept ((ReadSeek.seek img (pos + chunkHeaderSize)).mapError .io)
      writeSparseChunk chunkHeader dataSize img
      writeSparseChunks blockSize chunkHeaderSize img chunks (pos + chunkHeader.totalSz.toNat)

def writeSparseImage (gpt : Gpt) (lb : LogicalBlockSize) (part : Partition) (img : ρ) :
    UsbIo RkBlockDevice WriteSparseImageError Unit := do
  let (header, img) ← .ofExcept ((SparseHeader.readFromIo img).mapError .io)
  if header.magic ≠ SPARSE_HEADER_MAGIC then .throw .invalidMagic
  else if 1 < header.majorVersion ∨ 0 < header.minorVersion then .throw .unsupportedVersion
  else do
    let blockSize := header.blkSz.toNat
    let totalSize := blockSize * header.totalBlks.toNat
    let partSize ← .ofExcept ((gpt.bytesLen part lb).mapError .io)
    let partStart ← .ofExcept ((gpt.bytesStart part lb).mapError .io)
    if partSize.toNat < totalSize then .throw (.imageTooLarge partSize.toNat totalSize)
    else do
      let _ ← Io.mapErr .io (RkBlockDevice.seek (.start partStart))
      writeSparseChunks blockSize header.chunkHdrSz.toNat img header.totalChunks.toNat
        header.fileHdrSz.toNat

end Walk

/-! ### Reading headers -/

theorem Cursor.readExact_ok {img img' : Cursor} {count : Nat} {bytes : List UInt8}
    (reads : readExact img count = .ok (bytes, img')) :
    bytes = (img.bytes.drop img.pos).take count ∧ bytes.length = count ∧ img'.bytes = img.bytes := by
  unfold readExact at reads
  dsimp only at reads
  split at reads
  · rename_i length
    cases reads
    exact ⟨rfl, length, rfl⟩
  · cases reads

theorem Cursor.readExact_of_le {img : Cursor} {count : Nat}
    (there : img.pos + count ≤ img.bytes.length) :
    ∃ img', readExact img count = .ok ((img.bytes.drop img.pos).take count, img') := by
  refine ⟨_, if_pos ?_⟩
  show ((img.bytes.drop img.pos).take count).length = count
  rw [List.length_take, List.length_drop]
  omega

/-- Reading a header moves the cursor over the same bytes. -/
theorem Cursor.readExact_parsed {β : Type} {img img' : Cursor} {count : Nat} {value : β}
    {parse : List UInt8 → β}
    (reads : (readExact img count >>= fun result => pure (parse result.1, result.2)) =
      .ok (value, img')) : img'.bytes = img.bytes := by
  obtain ⟨result, found, same⟩ := bind_eq_ok_iff.mp reads
  cases same
  exact (Cursor.readExact_ok found).2.2

theorem ChunkHeader.readFromIo_bytes {img img' : Cursor} {header : ChunkHeader}
    (reads : readFromIo img = .ok (header, img')) : img'.bytes = img.bytes :=
  Cursor.readExact_parsed reads

/-- From where a header was read, the reader goes to any place of the image. -/
theorem ChunkHeader.readFromIo_seek {image : List UInt8} {pos : Nat} {header : ChunkHeader}
    {img : Cursor} (reads : readFromIo (Cursor.mk image pos) = .ok (header, img)) (place : Nat) :
    img.seek place = ⟨image, place⟩ :=
  congrArg (Cursor.mk · place) (readFromIo_bytes reads)

theorem SparseHeader.readFromIo_bytes {img img' : Cursor} {header : SparseHeader}
    (reads : readFromIo img = .ok (header, img')) : img'.bytes = img.bytes :=
  Cursor.readExact_parsed reads

/-- It does not matter where the reader of the loop stands. -/
theorem writeSparseChunks_bytes (blockSize chunkHeaderSize : Nat) {image : List UInt8} {img : Cursor}
    (bytes : img.bytes = image) (chunks pos : Nat) :
    writeSparseChunks blockSize chunkHeaderSize img chunks pos =
      writeSparseChunks blockSize chunkHeaderSize (Cursor.mk image 0) chunks pos := by
  subst bytes
  cases chunks with
  | zero => rfl
  | succ chunks => rfl

section Round

variable {blockSize chunkHeaderSize chunks pos : Nat} {image : List UInt8}

/-- A round whose chunk has no header. -/
theorem writeSparseChunks_of_unread {error : IoError}
    (reads : ChunkHeader.readFromIo (Cursor.mk image pos) = .error error) :
    writeSparseChunks blockSize chunkHeaderSize (Cursor.mk image 0) (chunks + 1) pos =
      .throw (.io error) := by
  show (Io.ofExcept ((ChunkHeader.readFromIo (Cursor.mk image pos)).mapError
    WriteSparseImageError.io) >>= _) = _
  rw [reads]
  rfl

/-- A round of the loop: the chunk is carried out, and the loop goes on. -/
theorem writeSparseChunks_of_read {header : ChunkHeader} {img : Cursor}
    (reads : ChunkHeader.readFromIo (Cursor.mk image pos) = .ok (header, img)) :
    writeSparseChunks blockSize chunkHeaderSize (Cursor.mk image 0) (chunks + 1) pos = (do
      writeSparseChunk header (blockSize * header.chunkSz.toNat)
        (Cursor.mk image (pos + chunkHeaderSize))
      writeSparseChunks blockSize chunkHeaderSize (Cursor.mk image 0) chunks
        (pos + header.totalSz.toNat)) := by
  show (Io.ofExcept ((ChunkHeader.readFromIo (Cursor.mk image pos)).mapError
    WriteSparseImageError.io) >>= _) = _
  rw [reads]
  show (writeSparseChunk _ _ (img.seek (pos + chunkHeaderSize)) >>= fun _ =>
    writeSparseChunks _ _ (img.seek (pos + chunkHeaderSize)) _ _) = _
  rw [ChunkHeader.readFromIo_seek reads, writeSparseChunks_bytes _ _ rfl]

end Round

/-! ### Copying -/

/-- The buffers that a reader fills until it has no more. -/
def delivered {ρ : Type} (read : ρ → Nat → List UInt8 × ρ) : Nat → ρ → List UInt8
  | 0, _ => []
  | rounds + 1, reader =>
      if (read reader DEFAULT_BUF_SIZE).1 = [] then []
      else (read reader DEFAULT_BUF_SIZE).1 ++ delivered read rounds (read reader DEFAULT_BUF_SIZE).2

/-- A `Take` of a cursor delivers what is there, up to its limit. -/
theorem delivered_cursor (img : Cursor) {limit rounds : Nat} (enough : limit < rounds) :
    delivered (Take.read Cursor.read) rounds ⟨img, limit⟩ = (img.bytes.drop img.pos).take limit := by
  induction rounds generalizing img limit with
  | zero => omega
  | succ rounds ih =>
    show (if (img.bytes.drop img.pos).take (min limit DEFAULT_BUF_SIZE) = [] then []
      else (img.bytes.drop img.pos).take (min limit DEFAULT_BUF_SIZE) ++
        delivered (Take.read Cursor.read) rounds
          ⟨⟨img.bytes, img.pos + ((img.bytes.drop img.pos).take (min limit DEFAULT_BUF_SIZE)).length⟩,
            limit - ((img.bytes.drop img.pos).take (min limit DEFAULT_BUF_SIZE)).length⟩) = _
    have length := @List.length_take _ (min limit DEFAULT_BUF_SIZE) (img.bytes.drop img.pos)
    by_cases empty : (img.bytes.drop img.pos).take (min limit DEFAULT_BUF_SIZE) = []
    · rw [if_pos empty]
      rw [empty, List.length_nil] at length
      refine (List.take_eq_nil_iff.mpr ?_).symm
      rw [← List.length_eq_zero_iff]
      unfold DEFAULT_BUF_SIZE at length
      omega
    · rw [if_neg empty]
      have positive := List.length_pos_iff.mpr empty
      rw [ih _ (by omega)]
      have same : (img.bytes.drop img.pos).take (min limit DEFAULT_BUF_SIZE) =
          (img.bytes.drop img.pos).take
            ((img.bytes.drop img.pos).take (min limit DEFAULT_BUF_SIZE)).length :=
        List.take_eq_take_iff.mpr (by omega)
      generalize ((img.bytes.drop img.pos).take (min limit DEFAULT_BUF_SIZE)).length = count at *
      rw [same, ← List.drop_drop, ← List.take_add, Nat.add_sub_cancel' (by omega)]

/-- A `Take` of a repeated pattern of four bytes delivers it as often as it fits into the limit. -/
theorem delivered_repeat {pattern : List UInt8} (four : pattern.length = 4) {limit rounds : Nat}
    (enough : limit < rounds) :
    delivered (Take.read repeatRead) rounds ⟨pattern, limit⟩ =
      (List.replicate (limit / 4) pattern).flatten := by
  induction rounds generalizing limit with
  | zero => omega
  | succ rounds ih =>
    have buffer : (repeatRead pattern (min limit DEFAULT_BUF_SIZE)).1 =
        (List.replicate (min limit DEFAULT_BUF_SIZE / 4) pattern).flatten := by
      rw [repeatRead, four]
    show (if (repeatRead pattern (min limit DEFAULT_BUF_SIZE)).1 = [] then []
      else (repeatRead pattern (min limit DEFAULT_BUF_SIZE)).1 ++
        delivered (Take.read repeatRead) rounds
          ⟨pattern, limit - (repeatRead pattern (min limit DEFAULT_BUF_SIZE)).1.length⟩) = _
    rw [buffer]
    have length := length_flatten_replicate (min limit DEFAULT_BUF_SIZE / 4) pattern
    rw [four] at length
    by_cases empty : (List.replicate (min limit DEFAULT_BUF_SIZE / 4) pattern).flatten = []
    · rw [if_pos empty]
      rw [empty, List.length_nil] at length
      have none : limit / 4 = 0 := by
        unfold DEFAULT_BUF_SIZE at length
        omega
      rw [none]
      rfl
    · rw [if_neg empty]
      have positive := List.length_pos_iff.mpr empty
      rw [ih (by omega), length, ← List.flatten_append, List.replicate_append_replicate]
      refine congrArg (fun count => (List.replicate count pattern).flatten) ?_
      unfold DEFAULT_BUF_SIZE at *
      omega

end Rkusb
