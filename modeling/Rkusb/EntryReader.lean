/-
**The reader of an entry** (`entry.reader()`, which the upgrade hands to `write_sparse_image` and to
`write_regular_image`).

The reader gives the bytes of its entry and is moved like a cursor, but it may refuse a position, as an
`io::Take` refuses what is behind its end. Which positions it refuses, and with what error, is a
parameter.

* `writeRegularImage_entry`: a plain image is written like one in memory.
* `writeSparseChunks_entry`: the walk over the chunks is that over the bytes, up to the first position
  that is refused (`refusal`).
-/

import Rkusb.RegularImage

namespace Rkusb

open Interaction Bytes

/-! ### The reader -/

/-- A reader over the bytes of an entry, and the positions that it refuses. -/
structure EntryReader where
  img : Cursor
  refuses : Nat → Option IoError

namespace EntryReader

def seek (reader : EntryReader) (pos : Nat) : Except IoError EntryReader :=
  match reader.refuses pos with
  | some error => .error error
  | none => .ok { reader with img := reader.img.seek pos }

def read (reader : EntryReader) (capacity : Nat) : List UInt8 × EntryReader :=
  let (bytes, img) := reader.img.read capacity
  (bytes, { reader with img := img })

instance : ReadSeek EntryReader where
  read := read
  seek := seek

/-- The positions that an `io::Take` of a length refuses: those behind its end. -/
def behind (length : Nat) (pos : Nat) : Option IoError :=
  if length < pos then some (.new .invalidInput "invalid input parameter") else none

end EntryReader

/-- The first position that the walk over the chunks is refused: the number of chunks before it, and
the error. A chunk without a header ends the walk before. -/
def refusal (refuses : Nat → Option IoError) (chunkHeaderSize : Nat) (image : List UInt8) :
    Nat → Nat → Option (Nat × IoError)
  | 0, _ => none
  | chunks + 1, pos =>
      match refuses pos with
      | some error => some (0, error)
      | none =>
          match ChunkHeader.readFromIo (Cursor.mk image pos) with
          | .error _ => none
          | .ok (header, _) =>
              match refuses (pos + chunkHeaderSize) with
              | some error => some (0, error)
              | none =>
                  (refusal refuses chunkHeaderSize image chunks (pos + header.totalSz.toNat)).map
                    fun (before, error) => (before + 1, error)

/-- The first position that is refused of an image with this header. -/
def SparseHeader.refusal (header : SparseHeader) (refuses : Nat → Option IoError)
    (image : List UInt8) : Option (Nat × IoError) :=
  Rkusb.refusal refuses header.chunkHdrSz.toNat image header.totalChunks.toNat header.fileHdrSz.toNat

/-- The walk over the bytes of an image, up to a position that is refused. -/
def walkUpTo (blockSize chunkHeaderSize : Nat) (image : List UInt8) (chunks pos : Nat) :
    Option (Nat × IoError) → UsbIo RkBlockDevice WriteSparseImageError Unit
  | none => writeSparseChunks blockSize chunkHeaderSize (Cursor.mk image 0) chunks pos
  | some (before, error) => do
      writeSparseChunks blockSize chunkHeaderSize (Cursor.mk image 0) before pos
      .throw (.io error)

def SparseHeader.walkUpTo (header : SparseHeader) (image : List UInt8) :
    Option (Nat × IoError) → UsbIo RkBlockDevice WriteSparseImageError Unit :=
  Rkusb.walkUpTo header.blkSz.toNat header.chunkHdrSz.toNat image header.totalChunks.toNat
    header.fileHdrSz.toNat

/-! ### What it gives -/

section Reads

variable (img : Cursor) (refuses : Nat → Option IoError)

theorem readExact_entry (count : Nat) :
    readExact (EntryReader.mk img refuses) count =
      (readExact img count).map fun result => (result.1, .mk result.2 refuses) := by
  show (if (img.read count).1.length = count then _ else _) =
    Except.map _ (if (img.read count).1.length = count then _ else _)
  by_cases length : (img.read count).1.length = count
  · rw [if_pos length, if_pos length]
    rfl
  · rw [if_neg length, if_neg length]
    rfl

theorem SparseHeader.readFromIo_entry :
    SparseHeader.readFromIo (EntryReader.mk img refuses) =
      (SparseHeader.readFromIo img).map fun result => (result.1, .mk result.2 refuses) := by
  unfold readFromIo
  rw [readExact_entry]
  cases readExact img SparseHeader.size <;> rfl

theorem ChunkHeader.readFromIo_entry :
    ChunkHeader.readFromIo (EntryReader.mk img refuses) =
      (ChunkHeader.readFromIo img).map fun result => (result.1, .mk result.2 refuses) := by
  unfold readFromIo
  rw [readExact_entry]
  cases readExact img ChunkHeader.size <;> rfl

/-- A copy of what is left of the entry. -/
theorem copy_entry (rounds limit : Nat) :
    copy (Take.read ReadSeek.read) rounds ⟨EntryReader.mk img refuses, limit⟩ =
      copy (Take.read ReadSeek.read) rounds ⟨img, limit⟩ := by
  induction rounds generalizing img limit with
  | zero => rfl
  | succ rounds ih =>
    show (if (img.read (min limit DEFAULT_BUF_SIZE)).1 = [] then _ else writeAll _ _ >>= fun _ =>
      copy (Take.read ReadSeek.read) rounds
        (Take.mk (EntryReader.mk (img.read (min limit DEFAULT_BUF_SIZE)).2 refuses) _)) = _
    rw [ih]
    rfl

/-- A chunk is read without a move of the reader. -/
theorem writeSparseChunk_entry (header : ChunkHeader) (dataSize : Nat) :
    writeSparseChunk header dataSize (EntryReader.mk img refuses) =
      writeSparseChunk header dataSize img := by
  unfold writeSparseChunk
  rw [copy_entry, readExact_entry]
  cases readExact img 4 <;> rfl

/-- **A plain image** is read without a move of the reader. -/
theorem writeRegularImage_entry (gpt : Gpt) (lb : LogicalBlockSize) (part : Partition) :
    writeRegularImage gpt lb part (EntryReader.mk img refuses) = writeRegularImage gpt lb part img := by
  unfold writeRegularImage
  simp only [copy_entry]

/-- The reader begins with the bytes of its entry. -/
theorem beginsWith_entry (image : List UInt8) :
    BeginsWith (EntryReader.mk (Cursor.mk image 0) refuses) image := by
  unfold BeginsWith
  rw [SparseHeader.readFromIo_entry]
  cases SparseHeader.readFromIo (Cursor.mk image 0) <;> rfl

end Reads

/-! ### The walk -/

section Walk

variable {refuses : Nat → Option IoError} {blockSize chunkHeaderSize chunks pos : Nat}
  {image : List UInt8}

/-- Fewer chunks are walked over than there are. -/
theorem refusal_lt {before : Nat} {error : IoError}
    (refused : refusal refuses chunkHeaderSize image chunks pos = some (before, error)) :
    before < chunks := by
  induction chunks generalizing pos before with
  | zero => cases refused
  | succ chunks ih =>
    unfold refusal at refused
    split at refused
    · cases refused
      exact Nat.succ_pos _
    split at refused
    · cases refused
    split at refused
    · cases refused
      exact Nat.succ_pos _
    obtain ⟨rest, later, same⟩ := Option.map_eq_some_iff.mp refused
    cases same
    exact Nat.succ_lt_succ (ih later)

/-- A chunk is walked over, and the chunks before the position are then one less. -/
theorem walkUpTo_succ {header : ChunkHeader} {img : Cursor}
    (reads : ChunkHeader.readFromIo (Cursor.mk image pos) = .ok (header, img))
    (refused : Option (Nat × IoError)) :
    walkUpTo blockSize chunkHeaderSize image (chunks + 1) pos
        (refused.map fun (before, error) => (before + 1, error)) = (do
      writeSparseChunk header (blockSize * header.chunkSz.toNat)
        (Cursor.mk image (pos + chunkHeaderSize))
      walkUpTo blockSize chunkHeaderSize image chunks (pos + header.totalSz.toNat) refused) := by
  cases refused with
  | none => exact writeSparseChunks_of_read reads
  | some refused =>
    show (writeSparseChunks _ _ _ (refused.1 + 1) _ >>= fun _ => Io.throw _) = _
    rw [writeSparseChunks_of_read reads, bind_assoc]
    rfl

/-- **The walk over the chunks of an entry** is that over its bytes. If a position is refused, it is
the walk over the chunks before, and ends with the error of the reader. -/
theorem writeSparseChunks_entry (img : Cursor) (bytes : img.bytes = image) :
    writeSparseChunks blockSize chunkHeaderSize (EntryReader.mk img refuses) chunks pos =
      walkUpTo blockSize chunkHeaderSize image chunks pos
        (refusal refuses chunkHeaderSize image chunks pos) := by
  induction chunks generalizing img pos with
  | zero => rfl
  | succ chunks ih =>
    subst bytes
    unfold refusal
    show (Io.ofExcept (((EntryReader.mk img refuses).seek pos).mapError
      WriteSparseImageError.io) >>= _) = _
    unfold EntryReader.seek
    dsimp only
    cases refuses pos with
    | some error => rfl
    | none =>
      dsimp only
      show (Io.ofExcept ((ChunkHeader.readFromIo (EntryReader.mk (Cursor.mk img.bytes pos)
        refuses)).mapError WriteSparseImageError.io) >>= _) = _
      rw [ChunkHeader.readFromIo_entry]
      cases reads : ChunkHeader.readFromIo (Cursor.mk img.bytes pos) with
      | error error => exact (writeSparseChunks_of_unread reads).symm
      | ok result =>
        obtain ⟨header, img'⟩ := result
        show (Io.ofExcept (((EntryReader.mk img' refuses).seek (pos + chunkHeaderSize)).mapError
          WriteSparseImageError.io) >>= _) = _
        unfold EntryReader.seek
        dsimp only
        cases refuses (pos + chunkHeaderSize) with
        | some error => rfl
        | none =>
          show (writeSparseChunk _ _ (EntryReader.mk (img'.seek (pos + chunkHeaderSize)) refuses) >>=
            fun _ => writeSparseChunks _ _ (EntryReader.mk (img'.seek (pos + chunkHeaderSize)) refuses)
              _ _) = _
          rw [writeSparseChunk_entry, ChunkHeader.readFromIo_seek reads,
            ih (Cursor.mk img.bytes (pos + chunkHeaderSize)) rfl]
          exact (walkUpTo_succ reads _).symm

/-- A write of an entry is refused, or it is the walk over its chunks. -/
theorem after_writeSparseImage_entry {script : Script} {bus : Bus} {gpt : Gpt}
    {lb : LogicalBlockSize} {part : Partition} {own : RkBlockDevice}
    {post : Except WriteSparseImageError Unit → RkBlockDevice → Bus → Prop}
    (refused : gpt.walk part lb own.diskSizeBytes image = none →
      ∀ error, post (.error error) own bus)
    (walks : ∀ start header, gpt.walk part lb own.diskSizeBytes image = some (start, header) →
      Io.After (Bus.answer script) (header.walkUpTo image (header.refusal refuses image))
        { own with pos := start } bus post) :
    Io.After (Bus.answer script)
      (writeSparseImage gpt lb part (EntryReader.mk (Cursor.mk image 0) refuses)) own bus post := by
  refine after_writeSparseImage_of (beginsWith_entry refuses image) refused ?_
  intro start header walk reader reads
  rw [SparseHeader.readFromIo_entry] at reads
  cases found : SparseHeader.readFromIo (Cursor.mk image 0) with
  | error error =>
    rw [found] at reads
    cases reads
  | ok result =>
    rw [found] at reads
    cases reads
    rw [writeSparseChunks_entry _ (SparseHeader.readFromIo_bytes found)]
    exact walks start _ walk

end Walk

end Rkusb
