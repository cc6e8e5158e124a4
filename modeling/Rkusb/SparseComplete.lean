/-
**Sparse images that are written completely.**

`Processed` takes a run that returns `Ok` apart into its chunks, with the cursor of the block device
and the storage before and after each of them. A chunk delivers its data if all of them, as many as
its header states, are put behind the blocks of the chunks before it.

`sparse_complete_iff`: every run that returns `Ok` does so with all its chunks, and these have as many
blocks as the file header states, if and only if the headers agree, the image has the data of every
chunk, and the patterns fit their sizes. None of this is checked.

The image is one in memory, whose reader can be moved behind the end of its bytes.
-/

import Rkusb.SparseExpansion

namespace Rkusb

open Interaction Bytes FlatStore
open RkBlockDevice (Addressed addressLimit)

variable {script : Script} {bus : Bus} {gpt : Gpt} {lb : LogicalBlockSize} {part : Partition}
  {image : List UInt8} {own : RkBlockDevice}

/-! ### The chunks of a run -/

namespace ChunkHeader

/-- The chunk has data to deliver. -/
def HasData (header : ChunkHeader) : Prop :=
  header.chunkType = CHUNK_TYPE_RAW ∨ header.chunkType = CHUNK_TYPE_FILL

instance (header : ChunkHeader) : Decidable header.HasData := inferInstanceAs (Decidable (_ ∨ _))

/-- The blocks of the image that the chunk stands for. A checksum stands for none. -/
def blocks (header : ChunkHeader) : Nat :=
  if header.chunkType = CHUNK_TYPE_CRC32 then 0 else header.chunkSz.toNat

/-- The data of the chunk, its payload being at a position of the image: bytes of the image, or four
of them repeated and cut to the size. -/
def content (header : ChunkHeader) (dataSize : Nat) (image : List UInt8) (payload : Nat) : List UInt8 :=
  if header.chunkType = CHUNK_TYPE_RAW then (image.drop payload).take dataSize
  else (List.replicate (dataSize / 4 + 1) ((image.drop payload).take 4)).flatten.take dataSize

end ChunkHeader

/-- A chunk that a run has processed: where its payload is in the image, and the cursor of the block
device and the storage before and after it. -/
structure ChunkStep where
  header : ChunkHeader
  payload : Nat
  cursor : Nat
  cursor' : Nat
  disk : Nat → UInt8
  disk' : Nat → UInt8

/-- The header of a step, and where its payload is. -/
def ChunkStep.chunk (step : ChunkStep) : ChunkHeader × Nat := (step.header, step.payload)

/-- A run of the loop over the chunks that returns `Ok`, chunk by chunk. -/
inductive Processed (script : Script) (blockSize chunkHeaderSize : Nat) (image : List UInt8) :
    Nat → Nat → RkBlockDevice → Bus → List ChunkStep → RkBlockDevice → Bus → Prop
  | done {pos : Nat} {own : RkBlockDevice} {bus : Bus} :
      Processed script blockSize chunkHeaderSize image 0 pos own bus [] own bus
  | step {chunks pos : Nat} {header : ChunkHeader} {img : Cursor} {own own' last : RkBlockDevice}
      {bus bus' reached : Bus} {steps : List ChunkStep} :
      ChunkHeader.readFromIo (Cursor.mk image pos) = .ok (header, img) →
      (writeSparseChunk header (blockSize * header.chunkSz.toNat)
        (Cursor.mk image (pos + chunkHeaderSize))).run (Bus.answer script) own bus =
          ((.ok (), own'), bus') →
      Processed script blockSize chunkHeaderSize image chunks (pos + header.totalSz.toNat) own' bus'
        steps last reached →
      Processed script blockSize chunkHeaderSize image (chunks + 1) pos own bus
        ({ header := header, payload := pos + chunkHeaderSize, cursor := own.pos,
           cursor' := own'.pos, disk := bus.target.disk, disk' := bus'.target.disk } :: steps)
        last reached

theorem writeSparseChunks_processed (blockSize chunkHeaderSize : Nat) {img : Cursor}
    (bytes : img.bytes = image) (chunks pos : Nat) (own : RkBlockDevice) :
    Io.After (Bus.answer script) (writeSparseChunks blockSize chunkHeaderSize img chunks pos) own bus
      fun outcome last reached => outcome = .ok () → ∃ steps,
        Processed script blockSize chunkHeaderSize image chunks pos own bus steps last reached := by
  rw [writeSparseChunks_bytes _ _ bytes]
  induction chunks generalizing pos bus own with
  | zero => exact fun _ => ⟨[], .done⟩
  | succ chunks ih =>
    refine after_writeSparseChunks (fun error _ fails => by cases fails) fun header img reads => ?_
    refine Io.after_bind.mpr ?_
    unfold Io.After
    rcases ran : (writeSparseChunk header (blockSize * header.chunkSz.toNat)
      (Cursor.mk image (pos + chunkHeaderSize))).run (Bus.answer script) own bus with
      ⟨⟨error | ⟨⟨⟩⟩, own'⟩, bus'⟩
    · exact fun fails => by cases fails
    · show Io.After (Bus.answer script) (writeSparseChunks blockSize chunkHeaderSize
        (Cursor.mk image 0) chunks (pos + header.totalSz.toNat)) own' bus'
        fun outcome last reached => outcome = .ok () →
          ∃ steps, Processed script blockSize chunkHeaderSize image (chunks + 1) pos own bus steps
            last reached
      refine (ih (pos + header.totalSz.toNat) own').imp ?_
      intro outcome last reached later ok
      obtain ⟨steps, processed⟩ := later ok
      exact ⟨_, .step reads ran processed⟩

/-! ### What a step does -/

/-- The steps follow each other from a cursor, and each of them does what the piece of its chunk asks
for. -/
def Sound (blockSize size : Nat) (image : List UInt8) : Nat → List ChunkStep → Prop
  | _, [] => True
  | cursor, step :: rest =>
      step.cursor = cursor ∧
        (∃ piece, step.header.piece (blockSize * step.header.chunkSz.toNat) ⟨image, step.payload⟩ =
            .ok piece ∧ piece.advance size cursor = some step.cursor' ∧
          step.disk' = spliceAll step.disk (piece.writes cursor)) ∧
        Sound blockSize size image step.cursor' rest

/-- The headers of the chunks of an image, each with the position of its payload. -/
def chunkHeaders (chunkHeaderSize : Nat) (image : List UInt8) : Nat → Nat → List (ChunkHeader × Nat)
  | 0, _ => []
  | chunks + 1, pos =>
      match ChunkHeader.readFromIo (Cursor.mk image pos) with
      | .error _ => []
      | .ok (header, _) =>
          (header, pos + chunkHeaderSize) ::
            chunkHeaders chunkHeaderSize image chunks (pos + header.totalSz.toNat)

theorem Processed.sound {blockSize chunkHeaderSize chunks pos : Nat} {own last : RkBlockDevice}
    {bus reached : Bus} {steps : List ChunkStep}
    (processed : Processed script blockSize chunkHeaderSize image chunks pos own bus steps last reached)
    (idle : bus.Idle) :
    Sound blockSize own.diskSizeBytes image own.pos steps ∧
      steps.map ChunkStep.chunk = chunkHeaders chunkHeaderSize image chunks pos ∧
      (decode blockSize chunkHeaderSize image chunks pos).2 = true ∧
      Completes own.diskSizeBytes (decode blockSize chunkHeaderSize image chunks pos).1 own.pos := by
  induction processed with
  | done => exact ⟨trivial, rfl, rfl, trivial⟩
  | @step chunks pos header img own own' last bus bus' reached steps reads ran _ ih =>
    obtain ⟨piece, next, read, advances, rfl, disk, idle'⟩ := writeSparseChunk_ok idle ran
    obtain ⟨sound, headers, readable, completes⟩ := ih idle'
    have found := pieceAt_eq_ok_iff.mpr ⟨header, img, reads, read, rfl⟩
    refine ⟨⟨rfl, ⟨piece, read, advances, disk⟩, sound⟩, ?_, ?_, ?_⟩
    · unfold chunkHeaders
      rw [reads]
      exact congrArg (_ :: ·) headers
    · unfold decode
      rw [found]
      exact readable
    · unfold decode
      rw [found]
      exact ⟨next, advances, completes⟩

/-! ### Complete runs -/

/-- The data of the chunk, as many as its header states, are put at the position. -/
def ChunkStep.Delivers (blockSize : Nat) (image : List UInt8) (position : Nat) (step : ChunkStep) :
    Prop :=
  let dataSize := blockSize * step.header.chunkSz.toNat
  let content := step.header.content dataSize image step.payload
  step.cursor = position ∧ step.cursor' = position + dataSize ∧ content.length = dataSize ∧
    step.disk' = splice step.disk position content

/-- Every chunk with data delivers them behind the blocks of the chunks before it. The first chunk is
at the position. -/
def Delivered (blockSize : Nat) (image : List UInt8) : Nat → List ChunkStep → Prop
  | _, [] => True
  | position, step :: rest =>
      (step.header.HasData → blockSize * step.header.chunkSz.toNat = 0 ∨
        step.Delivers blockSize image position) ∧
      Delivered blockSize image (position + blockSize * step.header.blocks) rest

/-- The image has all the data of a chunk, or the size of the chunk is one of whole patterns. -/
def Whole (blockSize : Nat) (image : List UInt8) (chunk : ChunkHeader × Nat) : Prop :=
  if chunk.1.chunkType = CHUNK_TYPE_RAW then
    blockSize * chunk.1.chunkSz.toNat = 0 ∨
      chunk.2 + blockSize * chunk.1.chunkSz.toNat ≤ image.length
  else if chunk.1.chunkType = CHUNK_TYPE_FILL then blockSize * chunk.1.chunkSz.toNat % 4 = 0
  else True

/-- The chunk has no data. -/
def Blank (blockSize : Nat) (chunk : ChunkHeader × Nat) : Prop :=
  chunk.1.HasData → blockSize * chunk.1.chunkSz.toNat = 0

/-- No data come after a gap of 2^63 bytes, which is taken for a move backwards. -/
def GapsSmall (blockSize : Nat) : List (ChunkHeader × Nat) → Prop
  | [] => True
  | chunk :: rest =>
      (chunk.1.chunkType = CHUNK_TYPE_DONT_CARE → blockSize * chunk.1.chunkSz.toNat < 2 ^ 63 ∨
        ∀ later ∈ rest, Blank blockSize later) ∧
      GapsSmall blockSize rest

/-- The headers of the chunks agree with the file header, with each other and with the image. -/
structure ChunksComplete (blockSize totalBlks : Nat) (image : List UInt8)
    (chunks : List (ChunkHeader × Nat)) : Prop where
  blocks : (chunks.map fun chunk => chunk.1.blocks).sum = totalBlks
  whole : ∀ chunk ∈ chunks, Whole blockSize image chunk
  gaps : GapsSmall blockSize chunks

instance (blockSize : Nat) (image : List UInt8) (chunk : ChunkHeader × Nat) :
    Decidable (Whole blockSize image chunk) :=
  inferInstanceAs (Decidable (if chunk.1.chunkType = CHUNK_TYPE_RAW then
      blockSize * chunk.1.chunkSz.toNat = 0 ∨
        chunk.2 + blockSize * chunk.1.chunkSz.toNat ≤ image.length
    else if chunk.1.chunkType = CHUNK_TYPE_FILL then blockSize * chunk.1.chunkSz.toNat % 4 = 0
    else True))

instance (blockSize : Nat) (chunk : ChunkHeader × Nat) : Decidable (Blank blockSize chunk) :=
  inferInstanceAs (Decidable (_ → _))

instance decidableGapsSmall (blockSize : Nat) :
    (chunks : List (ChunkHeader × Nat)) → Decidable (GapsSmall blockSize chunks)
  | [] => inferInstanceAs (Decidable True)
  | _ :: rest =>
      have := decidableGapsSmall blockSize rest
      inferInstanceAs (Decidable ((_ → _ ∨ ∀ later ∈ rest, Blank blockSize later) ∧ _))

/-! ### The pieces of the chunks -/

section Pieces

variable {header : ChunkHeader} {dataSize blockSize payload size cursor next : Nat} {piece : Piece}

/-- The four types of chunks, and their pieces. -/
theorem piece_cases (read : header.piece dataSize ⟨image, payload⟩ = .ok piece) :
    (header.chunkType = CHUNK_TYPE_RAW ∧ piece = .data ((image.drop payload).take dataSize)) ∨
    (header.chunkType = CHUNK_TYPE_FILL ∧ ((image.drop payload).take 4).length = 4 ∧
      piece = .data (List.replicate (dataSize / 4) ((image.drop payload).take 4)).flatten) ∨
    (header.chunkType = CHUNK_TYPE_DONT_CARE ∧ piece = .skip (UInt64.ofNat dataSize).toInt64) ∨
    (header.chunkType = CHUNK_TYPE_CRC32 ∧ piece = .data []) := by
  unfold ChunkHeader.piece at read
  by_cases raw : header.chunkType = CHUNK_TYPE_RAW
  · rw [if_pos raw] at read
    cases read
    exact .inl ⟨raw, rfl⟩
  rw [if_neg raw] at read
  by_cases fill : header.chunkType = CHUNK_TYPE_FILL
  · rw [if_pos fill] at read
    cases pattern : readExact (Cursor.mk image payload) 4 with
    | error error =>
      rw [pattern] at read
      cases read
    | ok result =>
      obtain ⟨bytes, four, -⟩ := Cursor.readExact_ok pattern
      rw [pattern] at read
      cases read
      rw [bytes] at four ⊢
      exact .inr (.inl ⟨fill, four, rfl⟩)
  rw [if_neg fill] at read
  by_cases gap : header.chunkType = CHUNK_TYPE_DONT_CARE
  · rw [if_pos gap] at read
    cases read
    exact .inr (.inr (.inl ⟨gap, rfl⟩))
  rw [if_neg gap] at read
  by_cases checksum : header.chunkType = CHUNK_TYPE_CRC32
  · rw [if_pos checksum] at read
    cases read
    exact .inr (.inr (.inr ⟨checksum, rfl⟩))
  · rw [if_neg checksum] at read
    cases read

/-- The piece of a chunk with data has all of them if and only if the chunk is whole, and these are
its content then. -/
theorem piece_data (hasData : header.HasData)
    (read : header.piece (blockSize * header.chunkSz.toNat) ⟨image, payload⟩ = .ok piece) :
    ∃ bytes, piece = .data bytes ∧
      (bytes.length = blockSize * header.chunkSz.toNat ↔ Whole blockSize image (header, payload)) ∧
      (bytes.length = blockSize * header.chunkSz.toNat →
        bytes = header.content (blockSize * header.chunkSz.toNat) image payload) := by
  unfold Whole ChunkHeader.content
  dsimp only
  rcases piece_cases read with ⟨raw, rfl⟩ | ⟨fill, four, rfl⟩ | ⟨gap, -⟩ | ⟨checksum, -⟩
  · rw [if_pos raw, if_pos raw]
    refine ⟨_, rfl, ?_, fun _ => rfl⟩
    rw [List.length_take, List.length_drop]
    omega
  · have other : header.chunkType ≠ CHUNK_TYPE_RAW := by
      rw [fill]
      decide
    rw [if_neg other, if_pos fill, if_neg other]
    refine ⟨_, rfl, ?_, fun whole => ?_⟩
    · rw [length_flatten_replicate, four]
      omega
    · rw [length_flatten_replicate, four] at whole
      rw [List.replicate_succ', List.flatten_append, List.take_left']
      rw [length_flatten_replicate, four, whole]
  · unfold ChunkHeader.HasData at hasData
    rw [gap] at hasData
    exact absurd hasData (by decide)
  · unfold ChunkHeader.HasData at hasData
    rw [checksum] at hasData
    exact absurd hasData (by decide)

theorem ChunkHeader.blocks_of_hasData (hasData : header.HasData) :
    header.blocks = header.chunkSz.toNat := by
  unfold blocks
  rcases hasData with raw | fill
  · rw [raw, if_neg (by decide)]
  · rw [fill, if_neg (by decide)]

theorem ChunkHeader.blocks_of_gap (gap : header.chunkType = CHUNK_TYPE_DONT_CARE) :
    header.blocks = header.chunkSz.toNat := by
  unfold blocks
  rw [gap, if_neg (by decide)]

/-- What a chunk without data needs. -/
theorem whole_of_blank (blank : Blank blockSize (header, payload)) :
    Whole blockSize image (header, payload) := by
  unfold Whole
  by_cases raw : header.chunkType = CHUNK_TYPE_RAW
  · rw [if_pos raw]
    exact .inl (blank (.inl raw))
  rw [if_neg raw]
  by_cases fill : header.chunkType = CHUNK_TYPE_FILL
  · rw [if_pos fill, blank (.inr fill)]
  · rw [if_neg fill]
    trivial

/-- A gap of less than 2^63 bytes moves the cursor by its size. -/
theorem advance_gap (small : dataSize < 2 ^ 63)
    (advances : (Piece.skip (UInt64.ofNat dataSize).toInt64).advance size cursor = some next) :
    next = cursor + dataSize := by
  have offset : (UInt64.ofNat dataSize).toInt64.toInt = dataSize := by
    rw [UInt64.toInt64_ofNat', Int64.toInt_ofNat_of_lt small]
  obtain ⟨found, -⟩ := Option.filter_eq_some_iff.mp advances
  unfold RkBlockDevice.checkedAddSigned at found
  rw [offset] at found
  dsimp only at found
  by_cases inside : 0 ≤ (cursor : Int) + dataSize ∧ (cursor : Int) + dataSize < 2 ^ 64
  · rw [if_pos inside] at found
    cases found
    omega
  · rw [if_neg inside] at found
    cases found

/-- Data that have addresses move the cursor by their length. -/
theorem advance_bytes {bytes : List UInt8}
    (advances : (Piece.data bytes).advance size cursor = some next) :
    Addressed cursor bytes ∧ next = cursor + bytes.length := by
  by_cases addressed : Addressed cursor bytes
  · rw [advance_data addressed] at advances
    cases advances
    exact ⟨addressed, rfl⟩
  · rw [advance_data_none addressed] at advances
    cases advances

end Pieces

/-! ### Complete headers make complete runs -/

section Steps

variable {blockSize size : Nat}

theorem delivered_of_blank (position : Nat) (steps : List ChunkStep)
    (blank : ∀ step ∈ steps, Blank blockSize step.chunk) : Delivered blockSize image position steps := by
  induction steps generalizing position with
  | nil => trivial
  | cons step rest ih =>
    obtain ⟨here, later⟩ := List.forall_mem_cons.mp blank
    exact ⟨fun hasData => .inl (here hasData), ih _ later⟩

/-- Chunks that are whole are delivered one after another, as long as the gaps are small. -/
theorem delivered_of_whole (position : Nat) (steps : List ChunkStep)
    (sound : Sound blockSize size image position steps)
    (whole : ∀ step ∈ steps, Whole blockSize image step.chunk)
    (gaps : GapsSmall blockSize (steps.map ChunkStep.chunk)) :
    Delivered blockSize image position steps := by
  induction steps generalizing position with
  | nil => trivial
  | cons step rest ih =>
    obtain ⟨here, ⟨piece, read, advances, disk⟩, later⟩ := sound
    obtain ⟨wholeHere, wholeLater⟩ := List.forall_mem_cons.mp whole
    obtain ⟨gap, gapsLater⟩ := gaps
    have goesOn (moves : step.cursor' = position + blockSize * step.header.blocks) :
        Delivered blockSize image (position + blockSize * step.header.blocks) rest := by
      rw [← moves]
      exact ih _ later wholeLater gapsLater
    by_cases hasData : step.header.HasData
    · obtain ⟨bytes, rfl, length, content⟩ := piece_data hasData read
      have full := length.mpr wholeHere
      obtain ⟨-, moves⟩ := advance_bytes advances
      rw [full] at moves
      refine ⟨fun _ => .inr ⟨here, moves, ?_, ?_⟩, goesOn ?_⟩
      · rw [← content full, full]
      · rw [← content full]
        exact disk
      · rw [moves, ChunkHeader.blocks_of_hasData hasData]
    · refine ⟨fun data => absurd data hasData, ?_⟩
      rcases piece_cases read with ⟨raw, -⟩ | ⟨fill, -⟩ | ⟨skips, rfl⟩ | ⟨checksum, rfl⟩
      · exact absurd (.inl raw) hasData
      · exact absurd (.inr fill) hasData
      · rcases gap skips with small | blank
        · refine goesOn ?_
          rw [ChunkHeader.blocks_of_gap skips]
          exact advance_gap small advances
        · refine delivered_of_blank _ rest fun later member => ?_
          exact blank _ (List.mem_map_of_mem member)
      · refine goesOn ?_
        rw [(advance_bytes advances).2, ChunkHeader.blocks, if_pos checksum]
        rfl

/-- Nothing is delivered where there are no addresses. -/
theorem blank_of_far {position : Nat} (far : addressLimit < position) (steps : List ChunkStep)
    {cursor : Nat} (sound : Sound blockSize size image cursor steps)
    (delivered : Delivered blockSize image position steps) :
    ∀ step ∈ steps, Blank blockSize step.chunk := by
  induction steps generalizing position cursor with
  | nil => exact List.forall_mem_nil _
  | cons step rest ih =>
    obtain ⟨here, ⟨piece, read, advances, -⟩, later⟩ := sound
    obtain ⟨delivers, deliversLater⟩ := delivered
    refine List.forall_mem_cons.mpr ⟨fun hasData => ?_, ih (by omega) later deliversLater⟩
    rcases delivers hasData with none | ⟨at_, moves, -, -⟩
    · exact none
    · obtain ⟨bytes, rfl, -, -⟩ := piece_data hasData read
      obtain ⟨addressed, next⟩ := advance_bytes advances
      show blockSize * step.header.chunkSz.toNat = 0
      rcases addressed with rfl | within
      · rw [List.length_nil] at next
        omega
      · unfold RkBlockDevice.Addressable at within
        omega

/-- Chunks that are delivered one after another are whole, and the gaps before them small. -/
theorem whole_of_delivered (position : Nat) (steps : List ChunkStep) {cursor : Nat}
    (sound : Sound blockSize size image cursor steps)
    (delivered : Delivered blockSize image position steps) :
    (∀ step ∈ steps, Whole blockSize image step.chunk) ∧
      GapsSmall blockSize (steps.map ChunkStep.chunk) := by
  induction steps generalizing position cursor with
  | nil => exact ⟨List.forall_mem_nil _, trivial⟩
  | cons step rest ih =>
    obtain ⟨here, ⟨piece, read, advances, -⟩, later⟩ := sound
    obtain ⟨delivers, deliversLater⟩ := delivered
    obtain ⟨whole, gaps⟩ := ih _ later deliversLater
    refine ⟨List.forall_mem_cons.mpr ⟨?_, whole⟩, fun skips => ?_, gaps⟩
    · by_cases hasData : step.header.HasData
      · rcases delivers hasData with none | ⟨at_, moves, -, -⟩
        · exact whole_of_blank fun _ => none
        · obtain ⟨bytes, rfl, length, -⟩ := piece_data hasData read
          have next := (advance_bytes advances).2
          exact length.mp (by omega)
      · exact whole_of_blank fun data => absurd data hasData
    · refine Classical.or_iff_not_imp_left.mpr fun large => ?_
      have limit := addressLimit_lt
      have covers : step.header.blocks = step.header.chunkSz.toNat := ChunkHeader.blocks_of_gap skips
      have large' : 2 ^ 63 ≤ blockSize * step.header.chunkSz.toNat := Nat.le_of_not_lt large
      rw [covers] at deliversLater
      refine List.forall_mem_map.mpr ?_
      exact blank_of_far (by omega) rest later deliversLater

end Steps

/-! ### Whole images -/

/-- The chunks of an image, as many as its file header states. -/
def SparseHeader.chunks (header : SparseHeader) (image : List UInt8) : List (ChunkHeader × Nat) :=
  chunkHeaders header.chunkHdrSz.toNat image header.totalChunks.toNat header.fileHdrSz.toNat

/-- Whenever the command returns `Ok`, the chunks that it has processed have as many blocks as the
file header states, and each of them has delivered all of its data behind the blocks of the chunks
before it. -/
def WritesComplete (gpt : Gpt) (lb : LogicalBlockSize) (part : Partition) (image : List UInt8)
    (own : RkBlockDevice) : Prop :=
  ∀ (script : Script) (bus : Bus), bus.Idle →
    Io.After (Bus.answer script) (writeSparseImage gpt lb part (Cursor.mk image 0)) own bus
      fun outcome last reached => outcome = .ok () → ∃ start header steps,
        gpt.walk part lb own.diskSizeBytes image = some (start, header) ∧
        Processed script header.blkSz.toNat header.chunkHdrSz.toNat image header.totalChunks.toNat
          header.fileHdrSz.toNat { own with pos := start } bus steps last reached ∧
        (steps.map fun step => step.header.blocks).sum = header.totalBlks.toNat ∧
        Delivered header.blkSz.toNat image start steps

/-- The write can return `Ok`: the header is accepted, the header of every chunk is read, and no chunk
leads off the disk or has data without an address. -/
def CanComplete (gpt : Gpt) (lb : LogicalBlockSize) (part : Partition) (image : List UInt8)
    (size start : Nat) (header : SparseHeader) : Prop :=
  gpt.walk part lb size image = some (start, header) ∧ (header.pieces image).2 = true ∧
    Completes size (header.pieces image).1 start

/-- **An image is written completely**, whenever the command returns `Ok`, if and only if its headers
agree and the image has the data of every chunk, or the command cannot return `Ok`. -/
theorem sparse_complete_iff (timed : own.timeout = DEFAULT_IO_TIMEOUT) :
    WritesComplete gpt lb part image own ↔
      ∀ start header, CanComplete gpt lb part image own.diskSizeBytes start header →
        ChunksComplete header.blkSz.toNat header.totalBlks.toNat image (header.chunks image) := by
  constructor
  · rintro complete start header ⟨walk, readable, completes⟩
    -- over a device that carries everything out, the write returns `Ok`
    have idle := Bus.fresh_idle fun _ => 0
    have ok : Io.After (Bus.answer Script.undisturbed)
        (writeSparseImage gpt lb part (Cursor.mk image 0)) own (Bus.fresh fun _ => 0)
        fun outcome _ _ => outcome = .ok () := by
      refine after_writeSparseImage (fun refused => ?_) fun start' header' walk' img bytes => ?_
      · rw [refused] at walk
        cases walk
      · rw [walk] at walk'
        cases walk'
        refine (writeSparseChunks_effect _ _ bytes _ _ idle _).imp ?_
        intro outcome last reached walked
        exact (walked.completes (Script.undisturbed_still.serves (timed ▸ by decide) _) completes
          readable).1
    obtain ⟨start', header', steps, walk', processed, blocks, delivered⟩ :=
      complete Script.undisturbed _ idle ok
    rw [walk] at walk'
    cases walk'
    obtain ⟨sound, headers, -⟩ := processed.sound idle
    have chunks : header.chunks image = steps.map ChunkStep.chunk := headers.symm
    obtain ⟨whole, gaps⟩ := whole_of_delivered start steps sound delivered
    rw [chunks]
    refine ⟨?_, List.forall_mem_map.mpr whole, gaps⟩
    rw [← blocks, List.map_map]
    rfl
  · intro agrees script bus idle
    refine after_writeSparseImage (fun _ error fails => by cases fails)
      fun start header walk img bytes => ?_
    refine (writeSparseChunks_processed header.blkSz.toNat header.chunkHdrSz.toNat bytes
      header.totalChunks.toNat header.fileHdrSz.toNat { own with pos := start }).imp ?_
    intro outcome last reached processes ok
    obtain ⟨steps, processed⟩ := processes ok
    obtain ⟨sound, headers, readable, completes⟩ := processed.sound idle
    obtain ⟨blocks, whole, gaps⟩ := agrees start header ⟨walk, readable, completes⟩
    have chunks : header.chunks image = steps.map ChunkStep.chunk := headers.symm
    rw [chunks] at blocks whole gaps
    refine ⟨start, header, steps, walk, processed, ?_, ?_⟩
    · rw [← blocks, List.map_map]
      rfl
    · exact delivered_of_whole start steps sound (List.forall_mem_map.mp whole) gaps

/-- The image of the four kinds of chunks. -/
theorem sparse_complete_iff_mixed :
    WritesComplete .checked .lb512 ⟨1, 1⟩ mixedImage (.new 2048 0 DEFAULT_IO_TIMEOUT) := by
  refine (sparse_complete_iff rfl).mpr fun start header can => ?_
  have found : Gpt.checked.walk ⟨1, 1⟩ .lb512 2048 mixedImage =
      some (512, .ofBytes (mixedImage.take SparseHeader.size)) := by decide +kernel
  cases can.1.symm.trans found
  exact ⟨by decide +kernel, by decide +kernel, by decide +kernel⟩

/-- An image of one block of four bytes that ends after two of them. -/
def cutImage : List UInt8 :=
  [0x3a, 0xff, 0x26, 0xed, 1, 0, 0, 0, 28, 0, 12, 0, 4, 0, 0, 0, 1, 0, 0, 0, 1, 0, 0, 0, 0, 0, 0, 0] ++
    [0xc1, 0xca, 0, 0, 1, 0, 0, 0, 16, 0, 0, 0, 1, 2]

/-- **A chunk is cut short.** The command returns `Ok` after the two bytes that there are. -/
theorem sparse_cut_short :
    ¬WritesComplete .checked .lb512 ⟨1, 1⟩ cutImage (.new 2048 0 DEFAULT_IO_TIMEOUT) ∧
      let run := (writeSparseImage .checked .lb512 ⟨1, 1⟩ (Cursor.mk cutImage 0)).run
        (Bus.answer Script.undisturbed) (.new 2048 0 DEFAULT_IO_TIMEOUT) (Bus.fresh fun _ => 9)
      run.1.1 = .ok () ∧ run.2.target.disk 513 = 2 ∧ run.2.target.disk 514 = 9 := by
  have ok : ((writeSparseImage .checked .lb512 ⟨1, 1⟩ (Cursor.mk cutImage 0)).run
      (Bus.answer Script.undisturbed) (.new 2048 0 DEFAULT_IO_TIMEOUT)
      (Bus.fresh fun _ => 9)).1.1 = .ok () := by decide +kernel
  refine ⟨fun complete => ?_, ok, by decide +kernel⟩
  have idle := Bus.fresh_idle fun _ => 9
  obtain ⟨start, header, steps, walk, processed, -, delivered⟩ := complete _ _ idle ok
  have found : Gpt.checked.walk ⟨1, 1⟩ .lb512 2048 cutImage =
      some (512, .ofBytes (cutImage.take SparseHeader.size)) := by decide +kernel
  cases walk.symm.trans found
  obtain ⟨sound, headers, -⟩ := processed.sound idle
  have whole := List.forall_mem_map.mpr (whole_of_delivered _ steps sound delivered).1
  rw [headers] at whole
  revert whole
  decide +kernel

end Rkusb
