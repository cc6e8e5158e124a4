/-
**The numbers of a walk over a sparse image** (`write_sparse_image` in
`bin/rktools/subcommands/upgrade.rs`).

The code calculates in 64 bits, from header fields of 16 and 32 bits, and casts the size of a gap to a
signed offset. Here the walk is written with these numbers, and `Round` takes it apart into its rounds.

* `writeSparseImage64_eq`: no sum and no product wraps, for any image behind any reader, so that the
  walk is the one with natural numbers.
* `Reached.after`, `walk_ok_iff`: the states that the rounds lead to are those that the walk goes
  through, and it returns `Ok` where they lead to its end.
* `sparse_arithmetic_exact_iff`: the offset of every gap that a run comes to is the size of the gap if
  and only if all these sizes are below 2^63.

The runs are those over an image in memory, whose reader can be moved behind the end of its bytes.
-/

import Rkusb.SparseComplete

namespace Rkusb

open Interaction Bytes
open RkBlockDevice (Addressed)

variable {script : Script} {gpt : Gpt} {lb : LogicalBlockSize} {part : Partition}
  {image : List UInt8} {own : RkBlockDevice} {ρ : Type} [ReadSeek ρ]

/-! ### The walk in 64 bits -/

/-- The loop over the chunks. Sums and products wrap. -/
def writeSparseChunks64 (blockSize chunkHeaderSize : UInt64) (img : ρ) :
    Nat → UInt64 → UsbIo RkBlockDevice WriteSparseImageError Unit
  | 0, _ => pure ()
  | chunks + 1, pos => do
      let img ← .ofExcept ((ReadSeek.seek img pos.toNat).mapError .io)
      let (chunkHeader, img) ← .ofExcept ((ChunkHeader.readFromIo img).mapError .io)
      let dataSize := blockSize * chunkHeader.chunkSz.toUInt64
      let img ← .ofExcept ((ReadSeek.seek img (pos + chunkHeaderSize).toNat).mapError .io)
      writeSparseChunk chunkHeader dataSize.toNat img
      writeSparseChunks64 blockSize chunkHeaderSize img chunks (pos + chunkHeader.totalSz.toUInt64)

def writeSparseImage64 (gpt : Gpt) (lb : LogicalBlockSize) (part : Partition) (img : ρ) :
    UsbIo RkBlockDevice WriteSparseImageError Unit := do
  let (header, img) ← .ofExcept ((SparseHeader.readFromIo img).mapError .io)
  if header.magic ≠ SPARSE_HEADER_MAGIC then .throw .invalidMagic
  else if 1 < header.majorVersion ∨ 0 < header.minorVersion then .throw .unsupportedVersion
  else do
    let blockSize := header.blkSz.toUInt64
    let totalSize := blockSize * header.totalBlks.toUInt64
    let partSize ← .ofExcept ((gpt.bytesLen part lb).mapError .io)
    let partStart ← .ofExcept ((gpt.bytesStart part lb).mapError .io)
    if partSize < totalSize then .throw (.imageTooLarge partSize.toNat totalSize.toNat)
    else do
      let _ ← Io.mapErr .io (RkBlockDevice.seek (.start partStart))
      writeSparseChunks64 blockSize header.chunkHdrSz.toUInt64 img header.totalChunks.toNat
        header.fileHdrSz.toUInt64

/-! ### Sums and products -/

/-- Two numbers of 32 bits have a product of 64. -/
theorem toNat_mul_of_32 (left right : UInt32) :
    (left.toUInt64 * right.toUInt64).toNat = left.toNat * right.toNat := by
  rw [UInt64.toNat_mul, UInt32.toNat_toUInt64, UInt32.toNat_toUInt64]
  refine Nat.mod_eq_of_lt ?_
  calc left.toNat * right.toNat < 2 ^ 32 * 2 ^ 32 := Nat.mul_lt_mul'' left.toNat_lt right.toNat_lt
    _ = 2 ^ 64 := by decide

/-- The position in the image leaves room for the sizes of the chunks that are left: what the file
header and all the chunks can take up is far enough below 2^64. -/
def Roomy (chunks : Nat) (pos : UInt64) : Prop :=
  pos.toNat + chunks * (2 ^ 32 - 1) ≤ 2 ^ 16 + (2 ^ 32 - 1) * (2 ^ 32 - 1)

theorem roomy_start (header : SparseHeader) :
    Roomy header.totalChunks.toNat header.fileHdrSz.toUInt64 := by
  have offset := header.fileHdrSz.toNat_lt
  have chunks := header.totalChunks.toNat_lt
  unfold Roomy
  rw [UInt16.toNat_toUInt64]
  omega

section Roomy

variable {chunks : Nat} {pos : UInt64}

theorem Roomy.toNat_payload (roomy : Roomy (chunks + 1) pos) (chunkHeaderSize : UInt16) :
    (pos + chunkHeaderSize.toUInt64).toNat = pos.toNat + chunkHeaderSize.toNat := by
  have small := chunkHeaderSize.toNat_lt
  unfold Roomy at roomy
  rw [UInt64.toNat_add, UInt16.toNat_toUInt64]
  exact Nat.mod_eq_of_lt (by omega)

theorem Roomy.toNat_next (roomy : Roomy (chunks + 1) pos) (totalSz : UInt32) :
    (pos + totalSz.toUInt64).toNat = pos.toNat + totalSz.toNat := by
  have small := totalSz.toNat_lt
  unfold Roomy at roomy
  rw [UInt64.toNat_add, UInt32.toNat_toUInt64]
  exact Nat.mod_eq_of_lt (by omega)

/-- A chunk takes up its own room only. -/
theorem Roomy.step (roomy : Roomy (chunks + 1) pos) (totalSz : UInt32) :
    Roomy chunks (pos + totalSz.toUInt64) := by
  have small := totalSz.toNat_lt
  unfold Roomy
  rw [roomy.toNat_next]
  unfold Roomy at roomy
  omega

end Roomy

/-! ### The two walks -/

theorem writeSparseChunks64_eq (header : SparseHeader) (img : ρ) (chunks : Nat) (pos : UInt64)
    (roomy : Roomy chunks pos) :
    writeSparseChunks64 header.blkSz.toUInt64 header.chunkHdrSz.toUInt64 img chunks pos =
      writeSparseChunks header.blkSz.toNat header.chunkHdrSz.toNat img chunks pos.toNat := by
  induction chunks generalizing img pos with
  | zero => rfl
  | succ chunks ih =>
    unfold writeSparseChunks64 writeSparseChunks
    refine bind_congr fun img => bind_congr fun read => ?_
    obtain ⟨chunkHeader, img⟩ := read
    dsimp only
    simp only [toNat_mul_of_32, roomy.toNat_payload, ih _ _ (roomy.step _), roomy.toNat_next]

/-- **The walk does not wrap**, whatever the image is. -/
theorem writeSparseImage64_eq (gpt : Gpt) (lb : LogicalBlockSize) (part : Partition) (img : ρ) :
    writeSparseImage64 gpt lb part img = writeSparseImage gpt lb part img := by
  unfold writeSparseImage64 writeSparseImage
  refine bind_congr fun read => ?_
  obtain ⟨header, img⟩ := read
  dsimp only
  simp only [UInt64.lt_iff_toNat_lt, toNat_mul_of_32,
    writeSparseChunks64_eq header img _ _ (roomy_start header), UInt16.toNat_toUInt64]

/-! ### Rounds -/

/-- Where the loop begins a round: the chunks that are left, the position in the image, the block
device and the bus. -/
structure WalkState where
  chunks : Nat
  pos : UInt64
  own : RkBlockDevice
  bus : Bus

/-- Where the loop begins. -/
def SparseHeader.begin (header : SparseHeader) (own : RkBlockDevice) (bus : Bus) : WalkState where
  chunks := header.totalChunks.toNat
  pos := header.fileHdrSz.toUInt64
  own := own
  bus := bus

/-- A round of the loop that is followed by the next one. -/
inductive Round (script : Script) (header : SparseHeader) (image : List UInt8) :
    WalkState → WalkState → Prop
  | mk {chunks : Nat} {pos : UInt64} {chunkHeader : ChunkHeader} {img : Cursor}
      {own own' : RkBlockDevice} {bus bus' : Bus} :
      ChunkHeader.readFromIo (Cursor.mk image pos.toNat) = .ok (chunkHeader, img) →
      (writeSparseChunk chunkHeader (header.blkSz.toUInt64 * chunkHeader.chunkSz.toUInt64).toNat
        (Cursor.mk image (pos + header.chunkHdrSz.toUInt64).toNat)).run (Bus.answer script) own bus =
          ((.ok (), own'), bus') →
      Round script header image { chunks := chunks + 1, pos := pos, own := own, bus := bus }
        { chunks := chunks, pos := pos + chunkHeader.totalSz.toUInt64, own := own', bus := bus' }

/-- A state that the loop comes to from another one. -/
abbrev Reached (script : Script) (header : SparseHeader) (image : List UInt8) :
    WalkState → WalkState → Prop :=
  Relation.ReflTransGen (Round script header image)

variable {header : SparseHeader} {state state' : WalkState}

/-- What the loop does from a state on. It does not matter where the reader stands. -/
def WalkState.walk (header : SparseHeader) (image : List UInt8) (state : WalkState) :
    UsbIo RkBlockDevice WriteSparseImageError Unit :=
  writeSparseChunks64 header.blkSz.toUInt64 header.chunkHdrSz.toUInt64 (Cursor.mk image 0)
    state.chunks state.pos

theorem writeSparseChunks64_bytes (blockSize chunkHeaderSize : UInt64) {img : Cursor}
    (bytes : img.bytes = image) (chunks : Nat) (pos : UInt64) :
    writeSparseChunks64 blockSize chunkHeaderSize img chunks pos =
      writeSparseChunks64 blockSize chunkHeaderSize (Cursor.mk image 0) chunks pos := by
  subst bytes
  cases chunks with
  | zero => rfl
  | succ chunks => rfl

/-- A round: the header of the chunk is read, the chunk carried out, and the loop goes on. -/
theorem after_walk {chunks : Nat} {pos : UInt64} {own : RkBlockDevice} {bus : Bus}
    {post : Except WriteSparseImageError Unit → RkBlockDevice → Bus → Prop} :
    Io.After (Bus.answer script) (WalkState.walk header image ⟨chunks + 1, pos, own, bus⟩) own bus
        post ↔
      match ChunkHeader.readFromIo (Cursor.mk image pos.toNat) with
      | .error error => post (.error (.io error)) own bus
      | .ok (chunkHeader, _) =>
          Io.After (Bus.answer script)
            (writeSparseChunk chunkHeader
              (header.blkSz.toUInt64 * chunkHeader.chunkSz.toUInt64).toNat
              (Cursor.mk image (pos + header.chunkHdrSz.toUInt64).toNat)) own bus
            fun outcome own' bus' =>
            match outcome with
            | .ok _ => Io.After (Bus.answer script)
                (WalkState.walk header image ⟨chunks, pos + chunkHeader.totalSz.toUInt64, own', bus'⟩)
                own' bus' post
            | .error error => post (.error error) own' bus' := by
  refine Io.after_ofExcept_bind.trans (Io.after_ofExcept_bind.trans ?_)
  have sought : Cursor.seek ⟨image, 0⟩ pos.toNat = ⟨image, pos.toNat⟩ := rfl
  rw [sought]
  cases reads : ChunkHeader.readFromIo (Cursor.mk image pos.toNat) with
  | error error => exact Iff.rfl
  | ok result =>
    obtain ⟨chunkHeader, img⟩ := result
    refine Io.after_ofExcept_bind.trans ?_
    show Io.After _ (writeSparseChunk _ _ (img.seek (pos + header.chunkHdrSz.toUInt64).toNat) >>=
      fun _ => writeSparseChunks64 _ _ (img.seek (pos + header.chunkHdrSz.toUInt64).toNat) _ _)
        _ _ _ ↔ _
    rw [ChunkHeader.readFromIo_seek reads, writeSparseChunks64_bytes _ _ rfl]
    refine Io.after_bind.trans (Iff.of_eq (congrArg (Io.After _ _ own bus) ?_))
    funext outcome own' bus'
    cases outcome with
    | ok value => rfl
    | error error => rfl

theorem Round.after (round : Round script header image state state')
    {post : Except WriteSparseImageError Unit → RkBlockDevice → Bus → Prop} :
    Io.After (Bus.answer script) (state.walk header image) state.own state.bus post ↔
      Io.After (Bus.answer script) (state'.walk header image) state'.own state'.bus post := by
  cases round with
  | mk reads ran =>
    refine after_walk.trans ?_
    rw [reads]
    dsimp only
    unfold Io.After
    rw [ran]

/-- **The states of the rounds are those of the walk**: it goes on from each of them as it does from
the first. -/
theorem Reached.after (reached : Reached script header image state state')
    {post : Except WriteSparseImageError Unit → RkBlockDevice → Bus → Prop} :
    Io.After (Bus.answer script) (state.walk header image) state.own state.bus post ↔
      Io.After (Bus.answer script) (state'.walk header image) state'.own state'.bus post := by
  induction reached with
  | refl => exact Iff.rfl
  | tail _ round ih => exact ih.trans round.after

/-- The walk returns `Ok` where the rounds lead to the end, and nowhere else. -/
theorem walk_ok_iff (state : WalkState) :
    (Io.After (Bus.answer script) (state.walk header image) state.own state.bus
      fun outcome _ _ => outcome = .ok ()) ↔
      ∃ last, Reached script header image state last ∧ last.chunks = 0 := by
  constructor
  · obtain ⟨chunks, pos, own, bus⟩ := state
    induction chunks generalizing pos own bus with
    | zero => exact fun _ => ⟨_, .refl, rfl⟩
    | succ chunks ih =>
      intro ok
      have round := after_walk.mp ok
      cases reads : ChunkHeader.readFromIo (Cursor.mk image pos.toNat) with
      | error error =>
        rw [reads] at round
        cases round
      | ok result =>
        obtain ⟨chunkHeader, img⟩ := result
        rw [reads] at round
        dsimp only at round
        unfold Io.After at round
        rcases ran : (writeSparseChunk chunkHeader
          (header.blkSz.toUInt64 * chunkHeader.chunkSz.toUInt64).toNat
          (Cursor.mk image (pos + header.chunkHdrSz.toUInt64).toNat)).run (Bus.answer script) own
          bus with ⟨⟨error | ⟨⟨⟩⟩, own'⟩, bus'⟩
        · rw [ran] at round
          cases round
        · rw [ran] at round
          obtain ⟨last, reached, ends⟩ := ih _ own' bus' round
          exact ⟨last, .head (.mk reads ran) reached, ends⟩
  · rintro ⟨⟨chunks, pos, own, bus⟩, reached, rfl⟩
    exact reached.after.mpr rfl

/-- A write is refused, or it is the walk from where the loop begins. -/
theorem after_writeSparseImage64 {bus : Bus}
    {post : Except WriteSparseImageError Unit → RkBlockDevice → Bus → Prop}
    (refused : gpt.walk part lb own.diskSizeBytes image = none →
      ∀ error, post (.error error) own bus)
    (walks : ∀ start header, gpt.walk part lb own.diskSizeBytes image = some (start, header) →
      Io.After (Bus.answer script)
        ((header.begin { own with pos := start } bus).walk header image) { own with pos := start } bus
        post) :
    Io.After (Bus.answer script) (writeSparseImage64 gpt lb part (Cursor.mk image 0)) own bus post := by
  rw [writeSparseImage64_eq]
  refine after_writeSparseImage refused fun start header walk img bytes => ?_
  have same := writeSparseChunks64_eq header img _ _ (roomy_start header)
  rw [UInt16.toNat_toUInt64] at same
  rw [← same, writeSparseChunks64_bytes _ _ bytes]
  exact walks start header walk

/-! ### Exact arithmetic -/

/-- The numbers of a round are exact: the size of its data, the positions of the payload and of the
next chunk, and the offset of a gap, which does not move the block device backwards. -/
structure RoundExact (script : Script) (header : SparseHeader) (image : List UInt8)
    (state : WalkState) (chunkHeader : ChunkHeader) : Prop where
  dataSize : (header.blkSz.toUInt64 * chunkHeader.chunkSz.toUInt64).toNat =
    header.blkSz.toNat * chunkHeader.chunkSz.toNat
  payload : (state.pos + header.chunkHdrSz.toUInt64).toNat =
    state.pos.toNat + header.chunkHdrSz.toNat
  next : (state.pos + chunkHeader.totalSz.toUInt64).toNat =
    state.pos.toNat + chunkHeader.totalSz.toNat
  offset : chunkHeader.chunkType = CHUNK_TYPE_DONT_CARE →
    (header.blkSz.toUInt64 * chunkHeader.chunkSz.toUInt64).toInt64.toInt =
      header.blkSz.toNat * chunkHeader.chunkSz.toNat
  forward : chunkHeader.chunkType = CHUNK_TYPE_DONT_CARE → ∀ state',
    Round script header image state state' → state.own.pos ≤ state'.own.pos

/-- The arithmetic of a write is exact: the size of the image, and the numbers of each round that a
run over any device comes to. -/
structure ArithmeticExact (gpt : Gpt) (lb : LogicalBlockSize) (part : Partition)
    (image : List UInt8) (own : RkBlockDevice) : Prop where
  totalSize : ∀ header img, SparseHeader.readFromIo (Cursor.mk image 0) = .ok (header, img) →
    (header.blkSz.toUInt64 * header.totalBlks.toUInt64).toNat =
      header.blkSz.toNat * header.totalBlks.toNat
  rounds : ∀ (script : Script) (bus : Bus), bus.Idle → ∀ start header,
    gpt.walk part lb own.diskSizeBytes image = some (start, header) → ∀ state,
      Reached script header image (header.begin { own with pos := start } bus) state →
        0 < state.chunks → ∀ chunkHeader img,
          ChunkHeader.readFromIo (Cursor.mk image state.pos.toNat) = .ok (chunkHeader, img) →
            RoundExact script header image state chunkHeader

/-- The gaps that the walk can come to are smaller than 2^63 bytes. The cursor of the block device
says which chunks these are: it goes on from a chunk only if that does not lead astray. -/
def GapsFit (blockSize chunkHeaderSize size : Nat) (image : List UInt8) : Nat → Nat → Nat → Prop
  | 0, _, _ => True
  | chunks + 1, pos, cursor =>
      (∀ chunkHeader img, ChunkHeader.readFromIo (Cursor.mk image pos) = .ok (chunkHeader, img) →
        chunkHeader.chunkType = CHUNK_TYPE_DONT_CARE →
          blockSize * chunkHeader.chunkSz.toNat < 2 ^ 63) ∧
      ∀ piece next cursor', pieceAt blockSize chunkHeaderSize image pos = .ok (piece, next) →
        piece.advance size cursor = some cursor' →
          GapsFit blockSize chunkHeaderSize size image chunks next cursor'

/-- Blocks of less than 2 GiB make all gaps fit. -/
theorem gapsFit_of_blockSize {blockSize : Nat} (small : blockSize < 2 ^ 31)
    (chunkHeaderSize size : Nat) (image : List UInt8) (chunks pos cursor : Nat) :
    GapsFit blockSize chunkHeaderSize size image chunks pos cursor := by
  induction chunks generalizing pos cursor with
  | zero => trivial
  | succ chunks ih =>
    refine ⟨fun chunkHeader img _ _ => ?_, fun piece next cursor' _ _ => ih next cursor'⟩
    calc blockSize * chunkHeader.chunkSz.toNat < 2 ^ 31 * 2 ^ 32 :=
          Nat.mul_lt_mul'' small chunkHeader.chunkSz.toNat_lt
      _ = 2 ^ 63 := by decide

/-- A device that serves every request in time carries out a piece that does not lead astray. -/
theorem PieceDone.succeeds {own own' : RkBlockDevice} {before reached : Bus} {piece : Piece}
    {outcome : Except WriteSparseImageError Unit} {next : Nat}
    (serves : script.Serves DEFAULT_BUF_SIZE own.timeout)
    (advances : piece.advance own.diskSizeBytes own.pos = some next)
    (done : PieceDone script own before piece outcome own' reached) : outcome = .ok () := by
  cases piece with
  | data bytes =>
    obtain ⟨_, ok⟩ := done.1.succeeds serves (advance_bytes advances).1
    exact ok
  | skip offset =>
    obtain ⟨-, moved⟩ := done
    rw [advances] at moved
    exact moved.1

/-! ### What a round does -/

/-- A round carries out the piece of its chunk. -/
theorem Round.effect (round : Round script header image state state')
    (roomy : Roomy state.chunks state.pos) (idle : state.bus.Idle) :
    ∃ chunkHeader img piece next,
      ChunkHeader.readFromIo (Cursor.mk image state.pos.toNat) = .ok (chunkHeader, img) ∧
      chunkHeader.piece (header.blkSz.toNat * chunkHeader.chunkSz.toNat)
        ⟨image, state.pos.toNat + header.chunkHdrSz.toNat⟩ = .ok piece ∧
      piece.advance state.own.diskSizeBytes state.own.pos = some next ∧
      state.chunks = state'.chunks + 1 ∧
      state'.pos = state.pos + chunkHeader.totalSz.toUInt64 ∧
      state'.own = { state.own with pos := next } ∧ state'.bus.Idle := by
  cases round with
  | @mk chunks pos chunkHeader img own own' bus bus' reads ran =>
    rw [toNat_mul_of_32, roomy.toNat_payload] at ran
    obtain ⟨piece, next, read, advances, moved, -, idle'⟩ := writeSparseChunk_ok idle ran
    exact ⟨chunkHeader, img, piece, next, reads, read, advances, rfl, rfl, moved, idle'⟩

/-- Over a device that serves every request in time, there is a round for a piece that does not lead
astray. -/
theorem Round.exists {chunks next cursor' : Nat} {pos : UInt64} {own : RkBlockDevice} {bus : Bus}
    {piece : Piece} (serves : script.Serves DEFAULT_BUF_SIZE own.timeout) (idle : bus.Idle)
    (roomy : Roomy (chunks + 1) pos)
    (found : pieceAt header.blkSz.toNat header.chunkHdrSz.toNat image pos.toNat = .ok (piece, next))
    (advances : piece.advance own.diskSizeBytes own.pos = some cursor') :
    ∃ pos' bus', pos'.toNat = next ∧ bus'.Idle ∧ Roomy chunks pos' ∧
      Round script header image ⟨chunks + 1, pos, own, bus⟩
        ⟨chunks, pos', { own with pos := cursor' }, bus'⟩ := by
  obtain ⟨chunkHeader, img, reads, read, rfl⟩ := pieceAt_eq_ok_iff.mp found
  have chunk := @writeSparseChunk_effect script bus idle own chunkHeader
    (header.blkSz.toNat * chunkHeader.chunkSz.toNat)
    (Cursor.mk image (pos.toNat + header.chunkHdrSz.toNat))
  rw [read] at chunk
  unfold Io.After at chunk
  rcases ran : (writeSparseChunk chunkHeader (header.blkSz.toNat * chunkHeader.chunkSz.toNat)
    (Cursor.mk image (pos.toNat + header.chunkHdrSz.toNat))).run (Bus.answer script) own bus with
    ⟨⟨outcome, own'⟩, bus'⟩
  rw [ran] at chunk
  obtain rfl := PieceDone.succeeds serves advances chunk
  obtain ⟨next, leads, moved, -⟩ := PieceDone.ok chunk
  rw [advances] at leads
  cases leads
  obtain rfl : own' = _ := moved
  rw [← toNat_mul_of_32, ← roomy.toNat_payload] at ran
  exact ⟨_, bus', roomy.toNat_next _, PieceDone.idle chunk idle, roomy.step _, .mk reads ran⟩

/-! ### Gaps that fit -/

/-- What holds wherever the loop begins a round, if the gaps fit. -/
structure WalkInvariant (header : SparseHeader) (image : List UInt8) (state : WalkState) : Prop where
  idle : state.bus.Idle
  roomy : Roomy state.chunks state.pos
  gaps : GapsFit header.blkSz.toNat header.chunkHdrSz.toNat state.own.diskSizeBytes image state.chunks
    state.pos.toNat state.own.pos

theorem WalkInvariant.step (holds : WalkInvariant header image state)
    (round : Round script header image state state') : WalkInvariant header image state' := by
  obtain ⟨idle, roomy, gaps⟩ := holds
  obtain ⟨chunkHeader, img, piece, next, reads, read, advances, left, pos, own, idle'⟩ :=
    round.effect roomy idle
  rw [left] at roomy gaps
  refine ⟨idle', ?_, ?_⟩
  · rw [pos]
    exact roomy.step _
  · rw [pos, own, roomy.toNat_next]
    exact gaps.2 piece _ next (pieceAt_eq_ok_iff.mpr ⟨chunkHeader, img, reads, read, rfl⟩) advances

theorem WalkInvariant.run (holds : WalkInvariant header image state)
    (reached : Reached script header image state state') : WalkInvariant header image state' := by
  induction reached with
  | refl => exact holds
  | tail _ round ih => exact ih.step round

/-- The size of a gap and its offset. -/
theorem toInt_toInt64_iff (size : UInt64) : size.toInt64.toInt = size.toNat ↔ size.toNat < 2 ^ 63 := by
  constructor
  · intro same
    have most := size.toInt64.toInt_lt
    omega
  · intro small
    rw [← UInt64.ofNat_toNat (x := size), UInt64.toInt64_ofNat', Int64.toInt_ofNat_of_lt small,
      UInt64.ofNat_toNat]

theorem WalkInvariant.exact (holds : WalkInvariant header image state) (some : 0 < state.chunks)
    {chunkHeader : ChunkHeader} {img : Cursor}
    (reads : ChunkHeader.readFromIo (Cursor.mk image state.pos.toNat) = .ok (chunkHeader, img)) :
    RoundExact script header image state chunkHeader := by
  obtain ⟨idle, roomy, gaps⟩ := holds
  obtain ⟨chunks, left⟩ := Nat.exists_eq_add_of_lt some
  rw [Nat.zero_add] at left
  have roomy' := left ▸ roomy
  rw [left] at gaps
  have small := gaps.1 chunkHeader img reads
  refine ⟨toNat_mul_of_32 _ _, roomy'.toNat_payload _, roomy'.toNat_next _, fun gap => ?_,
    fun gap state' round => ?_⟩
  · rw [(toInt_toInt64_iff _).mpr, toNat_mul_of_32, Nat.cast_mul]
    rw [toNat_mul_of_32]
    exact small gap
  · obtain ⟨chunkHeader', img', piece, next, reads', read, advances, -, -, own, -⟩ :=
      round.effect roomy idle
    cases reads.symm.trans reads'
    rcases piece_cases read with ⟨raw, -⟩ | ⟨fill, -⟩ | ⟨-, rfl⟩ | ⟨checksum, -⟩
    · exact absurd (gap.symm.trans raw) (by decide)
    · exact absurd (gap.symm.trans fill) (by decide)
    · rw [own, advance_gap (small gap) advances]
      exact Nat.le_add_right _ _
    · exact absurd (gap.symm.trans checksum) (by decide)

/-- If the offsets are the sizes wherever a device that serves every request in time leads to, the gaps
fit. -/
theorem gapsFit_of_offsets {chunks : Nat} {pos : UInt64} {own : RkBlockDevice} {bus : Bus}
    (serves : script.Serves DEFAULT_BUF_SIZE own.timeout) (idle : bus.Idle) (roomy : Roomy chunks pos)
    (offsets : ∀ state, Reached script header image ⟨chunks, pos, own, bus⟩ state → 0 < state.chunks →
      ∀ chunkHeader img,
        ChunkHeader.readFromIo (Cursor.mk image state.pos.toNat) = .ok (chunkHeader, img) →
        chunkHeader.chunkType = CHUNK_TYPE_DONT_CARE →
          (header.blkSz.toUInt64 * chunkHeader.chunkSz.toUInt64).toInt64.toInt =
            header.blkSz.toNat * chunkHeader.chunkSz.toNat) :
    GapsFit header.blkSz.toNat header.chunkHdrSz.toNat own.diskSizeBytes image chunks pos.toNat
      own.pos := by
  induction chunks generalizing pos own bus with
  | zero => trivial
  | succ chunks ih =>
    refine ⟨fun chunkHeader img reads gap => ?_, fun piece next cursor' found advances => ?_⟩
    · have offset := offsets _ .refl (Nat.succ_pos _) chunkHeader img reads gap
      rw [← Nat.cast_mul, ← toNat_mul_of_32] at offset
      rw [← toNat_mul_of_32]
      exact (toInt_toInt64_iff _).mp offset
    · obtain ⟨pos', bus', rfl, idle', roomy', round⟩ :=
        Round.exists serves idle roomy found advances
      exact @ih pos' { own with pos := cursor' } bus' serves idle' roomy' fun state reached =>
        offsets state (.head round reached)

/-- **The arithmetic of a write is exact** if and only if the gaps fit that the walk can come to. -/
theorem sparse_arithmetic_exact_iff (timed : own.timeout = DEFAULT_IO_TIMEOUT) :
    ArithmeticExact gpt lb part image own ↔
      ∀ start header, gpt.walk part lb own.diskSizeBytes image = some (start, header) →
        GapsFit header.blkSz.toNat header.chunkHdrSz.toNat own.diskSizeBytes image
          header.totalChunks.toNat header.fileHdrSz.toNat start := by
  constructor
  · intro exact start header walk
    have serves : Script.undisturbed.Serves DEFAULT_BUF_SIZE own.timeout :=
      Script.undisturbed_still.serves (timed ▸ by decide) _
    have idle := Bus.fresh_idle fun _ => 0
    have gaps := @gapsFit_of_offsets Script.undisturbed image header header.totalChunks.toNat
      header.fileHdrSz.toUInt64 { own with pos := start } _ serves idle (roomy_start header)
      fun state reached some chunkHeader img reads =>
        (exact.rounds _ _ idle start header walk state reached some chunkHeader img reads).offset
    rw [UInt16.toNat_toUInt64] at gaps
    exact gaps
  · intro fits
    refine ⟨fun header img _ => toNat_mul_of_32 _ _, ?_⟩
    intro script bus idle start header walk state reached some chunkHeader img reads
    have begins : WalkInvariant header image (header.begin { own with pos := start } bus) := by
      refine ⟨idle, roomy_start header, ?_⟩
      have gaps := fits start header walk
      rw [← UInt16.toNat_toUInt64] at gaps
      exact gaps
    exact (begins.run reached).exact some reads

/-- The image of the four kinds of chunks, in blocks of four bytes. -/
theorem sparse_arithmetic_exact_iff_mixed :
    ArithmeticExact .checked .lb512 ⟨1, 1⟩ mixedImage (.new 2048 0 DEFAULT_IO_TIMEOUT) := by
  refine (sparse_arithmetic_exact_iff rfl).mpr fun start header walk => ?_
  have found : Gpt.checked.walk ⟨1, 1⟩ .lb512 2048 mixedImage =
      some (512, .ofBytes (mixedImage.take SparseHeader.size)) := by decide +kernel
  cases walk.symm.trans found
  exact gapsFit_of_blockSize (by decide +kernel) _ _ _ _ _ _

/-- An image of one gap, of 2^32 - 1 blocks of as many bytes. The file header states no blocks. -/
def wideImage : List UInt8 :=
  [0x3a, 0xff, 0x26, 0xed, 1, 0, 0, 0, 28, 0, 12, 0, 0xff, 0xff, 0xff, 0xff, 0, 0, 0, 0, 1, 0, 0, 0,
    0, 0, 0, 0] ++
    [0xc3, 0xca, 0, 0, 0xff, 0xff, 0xff, 0xff, 12, 0, 0, 0]

/-- **A gap moves the cursor backwards.** The partition begins at 8 GiB on a disk of 16. The gap of
(2^32 - 1)^2 bytes leads from there to the second byte of the disk, and the command returns `Ok`. -/
theorem sparse_gap_backwards :
    ¬ArithmeticExact .checked .lb512 ⟨16777216, 16777216⟩ wideImage
        (.new 17179869184 0 DEFAULT_IO_TIMEOUT) ∧
      let run := (writeSparseImage64 .checked .lb512 ⟨16777216, 16777216⟩ (Cursor.mk wideImage 0)).run
        (Bus.answer Script.undisturbed) (.new 17179869184 0 DEFAULT_IO_TIMEOUT)
        (Bus.fresh fun _ => 0)
      run.1.1 = .ok () ∧ run.1.2.pos = 1 := by
  refine ⟨fun exact => ?_, ?_⟩
  · have found : Gpt.checked.walk ⟨16777216, 16777216⟩ .lb512 17179869184 wideImage =
        some (8589934592, .ofBytes (wideImage.take SparseHeader.size)) := by decide +kernel
    have offset := (exact.rounds Script.undisturbed _ (Bus.fresh_idle fun _ => 0) _ _ found _ .refl
      (by decide +kernel) (.ofBytes (wideImage.drop 28)) ⟨wideImage, 40⟩
      (by decide +kernel)).offset (by decide +kernel)
    revert offset
    decide +kernel
  · decide +kernel

end Rkusb
