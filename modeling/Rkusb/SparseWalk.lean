/-
**What the walk over a sparse image writes.**

The chunk headers of an image ask for pieces: bytes at the cursor, or a move of the cursor.
`decode` reads the pieces off the image, and `placed` puts them at the positions where a device
that carries everything out gets them. `writeSparseChunks_effect` relates the walk to them:

* whatever the device does, nothing else than the placed bytes is written;
* under a clock that stands still all of them are that have an address;
* a device that serves every request in time gets all of them if no piece leads astray.
-/

import Rkusb.ByteFile
import Rkusb.Sparse

namespace Rkusb

open Interaction Bytes FlatStore
open RkBlockDevice (Puts Addressed Stored addressLimit)

variable {script : Script} {bus : Bus}

/-! ### Copying -/

theorem writeAll_nil (rounds : Nat) : writeAll rounds [] = pure () := by
  cases rounds with
  | zero => rfl
  | succ rounds => exact if_pos rfl

theorem writeAll_effect (idle : bus.Idle) (own : RkBlockDevice) (buf : List UInt8) :
    Io.After (Bus.answer script) (writeAll buf.length buf) own bus fun outcome own' reached =>
      Puts script buf.length own.timeout bus own.pos buf outcome reached ∧
        ∀ value, outcome = .ok value → own' = { own with pos := own.pos + buf.length } := by
  cases buf with
  | nil => exact ⟨.nothing idle, fun value _ => rfl⟩
  | cons byte rest =>
    show Io.After _ (if byte :: rest = [] then _ else _) _ _ _
    rw [if_neg (List.cons_ne_nil _ _)]
    refine (RkBlockDevice.write_effect idle own (byte :: rest)).bind
      (fun error own' reached moved => ⟨moved.1.failed, fun value fails => by cases fails⟩)
      fun n own' reached moved => ?_
    obtain ⟨puts, -, written⟩ := moved
    obtain ⟨rfl, rfl⟩ := written n rfl
    rw [if_neg (show (byte :: rest).length ≠ 0 from Nat.succ_ne_zero _), List.drop_length,
      writeAll_nil]
    exact ⟨puts.returned, fun value _ => rfl⟩

/-- A reader that does not overrun the buffer of the copy. -/
def Bounded {ρ : Type} (read : ρ → Nat → List UInt8 × ρ) : Prop :=
  ∀ reader, (read reader DEFAULT_BUF_SIZE).1.length ≤ DEFAULT_BUF_SIZE

theorem cursor_bounded : Bounded (Take.read Cursor.read) := by
  intro reader
  show ((reader.inner.bytes.drop reader.inner.pos).take (min reader.limit DEFAULT_BUF_SIZE)).length ≤ _
  rw [List.length_take]
  omega

theorem repeat_bounded : Bounded (Take.read repeatRead) := by
  intro reader
  show (List.replicate (min reader.limit DEFAULT_BUF_SIZE / reader.inner.length)
    reader.inner).flatten.length ≤ _
  rw [length_flatten_replicate]
  exact (Nat.div_mul_le_self _ _).trans (Nat.min_le_right _ _)

/-- **A copy** writes what the reader delivers, one buffer after another. -/
theorem copy_effect {ρ : Type} {read : ρ → Nat → List UInt8 × ρ} (bounded : Bounded read)
    (rounds : Nat) (reader : ρ) (idle : bus.Idle) (own : RkBlockDevice) :
    Io.After (Bus.answer script) (copy read rounds reader) own bus fun outcome own' reached =>
      Puts script DEFAULT_BUF_SIZE own.timeout bus own.pos (delivered read rounds reader) outcome
          reached ∧
        ∀ value, outcome = .ok value →
          own' = { own with pos := own.pos + (delivered read rounds reader).length } := by
  induction rounds generalizing reader own bus with
  | zero => exact ⟨.nothing idle, fun value _ => rfl⟩
  | succ rounds ih =>
    unfold copy delivered
    by_cases empty : (read reader DEFAULT_BUF_SIZE).1 = []
    · rw [if_pos empty]
      show Io.After _ (if (read reader DEFAULT_BUF_SIZE).1 = [] then _ else _) _ _ _
      rw [if_pos empty]
      exact ⟨.nothing idle, fun value _ => rfl⟩
    rw [if_neg empty]
    show Io.After _ (if (read reader DEFAULT_BUF_SIZE).1 = [] then _ else _) _ _ _
    rw [if_neg empty]
    refine (writeAll_effect idle own _).bind (fun error own' reached moved =>
      ⟨(moved.1.longer (bounded reader)).stop _, fun value fails => by cases fails⟩)
      fun _ own' reached moved => ?_
    have puts := moved.1.longer (bounded reader)
    obtain rfl := moved.2 _ rfl
    refine (ih (read reader DEFAULT_BUF_SIZE).2 puts.wrote.written.2 _).imp ?_
    intro outcome own'' last rest
    refine ⟨puts.next rest.1, fun value ok => ?_⟩
    rw [rest.2 value ok, List.length_append, Nat.add_assoc]

/-- A seek from the start leads to positions on the disk only. -/
theorem seekStart_effect (own : RkBlockDevice) (start : UInt64) {ε : Type} (translate : IoError → ε) :
    Io.After (Bus.answer script) (Io.mapErr translate (RkBlockDevice.seek (.start start))) own bus
      fun outcome own' reached =>
        if start.toNat < own.diskSizeBytes then
          outcome = .ok start.toNat ∧ own' = { own with pos := start.toNat } ∧ reached = bus
        else (∃ error, outcome = .error error) ∧ own' = own ∧ reached = bus := by
  refine Io.after_mapErr.mpr ((RkBlockDevice.seek_effect own (.start start)).imp
    fun outcome own' reached moved => ?_)
  have sought : (own.sought (.start start)).filter (· < own.diskSizeBytes) =
      if start.toNat < own.diskSizeBytes then some start.toNat else none := by
    show (some start.toNat).filter (· < own.diskSizeBytes) = _
    rw [Option.filter_some]
    simp only [decide_eq_true_eq]
  rw [sought] at moved
  by_cases onDisk : start.toNat < own.diskSizeBytes
  · rw [if_pos onDisk] at moved ⊢
    obtain ⟨rfl, rfl, rfl⟩ := moved
    exact ⟨rfl, rfl, rfl⟩
  · rw [if_neg onDisk] at moved ⊢
    obtain ⟨rfl, rfl, rfl⟩ := moved
    exact ⟨⟨_, rfl⟩, rfl, rfl⟩

/-- What starts with such a seek fails, or goes on from there. -/
theorem after_seekStart {own : RkBlockDevice} {start : UInt64} {ε α : Type} {translate : IoError → ε}
    {next : Nat → UsbIo RkBlockDevice ε α} {post : Except ε α → RkBlockDevice → Bus → Prop}
    (off : ¬start.toNat < own.diskSizeBytes → ∀ error, post (.error error) own bus)
    (on : start.toNat < own.diskSizeBytes →
      Io.After (Bus.answer script) (next start.toNat) { own with pos := start.toNat } bus post) :
    Io.After (Bus.answer script) (Io.mapErr translate (RkBlockDevice.seek (.start start)) >>= next)
      own bus post := by
  by_cases onDisk : start.toNat < own.diskSizeBytes
  · refine (seekStart_effect own start translate).bind_ok ?_
    intro outcome own' reached moved
    rw [if_pos onDisk] at moved
    obtain ⟨rfl, rfl, rfl⟩ := moved
    exact ⟨_, rfl, on onDisk⟩
  · refine (seekStart_effect own start translate).bind (fun error own' reached moved => ?_)
      fun _ own' reached moved => ?_
    · rw [if_neg onDisk] at moved
      obtain ⟨-, rfl, rfl⟩ := moved
      exact off onDisk error
    · rw [if_neg onDisk] at moved
      obtain ⟨⟨error, fails⟩, -⟩ := moved
      cases fails

/-! ### Pieces -/

/-- What a chunk asks for: bytes at the cursor, or a move of the cursor. -/
inductive Piece
  | data (bytes : List UInt8)
  | skip (offset : Int64)
  deriving DecidableEq

/-- The piece of a chunk, the reader standing at its payload. -/
def ChunkHeader.piece (header : ChunkHeader) (dataSize : Nat) (img : Cursor) :
    Except WriteSparseImageError Piece :=
  if header.chunkType = CHUNK_TYPE_RAW then .ok (.data ((img.bytes.drop img.pos).take dataSize))
  else if header.chunkType = CHUNK_TYPE_FILL then
    match readExact img 4 with
    | .ok (pattern, _) => .ok (.data (List.replicate (dataSize / 4) pattern).flatten)
    | .error error => .error (.io error)
  else if header.chunkType = CHUNK_TYPE_DONT_CARE then .ok (.skip (UInt64.ofNat dataSize).toInt64)
  else if header.chunkType = CHUNK_TYPE_CRC32 then .ok (.data [])
  else .error .unknownSparseChunkType

namespace Piece

/-- What the piece writes at the cursor. -/
def writes (cursor : Nat) : Piece → List (Nat × List UInt8)
  | .data bytes => [(cursor, bytes)]
  | .skip _ => []

/-- Where the cursor is after the piece, on a device that carries everything out; nowhere when the
bytes have no address, or the move leads off the disk. -/
def advance (size cursor : Nat) : Piece → Option Nat
  | .data bytes =>
      if bytes = [] ∨ cursor + bytes.length ≤ addressLimit then
        some (cursor + bytes.length)
      else none
  | .skip offset => (RkBlockDevice.checkedAddSigned cursor offset).filter (· < size)

end Piece

/-- The bytes of the pieces, where they are put. -/
def placed (size : Nat) : List Piece → Nat → List (Nat × List UInt8)
  | [], _ => []
  | piece :: rest, cursor =>
      piece.writes cursor ++
        match piece.advance size cursor with
        | some next => placed size rest next
        | none => []

/-- No piece leads astray. -/
def Completes (size : Nat) : List Piece → Nat → Prop
  | [], _ => True
  | piece :: rest, cursor => ∃ next, piece.advance size cursor = some next ∧ Completes size rest next

/-- The piece of the chunk at a position of the image, and the position of the next chunk. -/
def pieceAt (blockSize chunkHeaderSize : Nat) (image : List UInt8) (pos : Nat) :
    Except WriteSparseImageError (Piece × Nat) :=
  match ChunkHeader.readFromIo (Cursor.mk image pos) with
  | .error error => .error (.io error)
  | .ok (header, _) =>
      match header.piece (blockSize * header.chunkSz.toNat) ⟨image, pos + chunkHeaderSize⟩ with
      | .error error => .error error
      | .ok piece => .ok (piece, pos + header.totalSz.toNat)

/-- What can be read of a chunk, when its piece can be. -/
theorem pieceAt_eq_ok_iff {blockSize chunkHeaderSize pos next : Nat} {image : List UInt8}
    {piece : Piece} :
    pieceAt blockSize chunkHeaderSize image pos = .ok (piece, next) ↔
      ∃ chunkHeader img, ChunkHeader.readFromIo (Cursor.mk image pos) = .ok (chunkHeader, img) ∧
        chunkHeader.piece (blockSize * chunkHeader.chunkSz.toNat) ⟨image, pos + chunkHeaderSize⟩ =
          .ok piece ∧ next = pos + chunkHeader.totalSz.toNat := by
  unfold pieceAt
  constructor
  · intro found
    cases reads : ChunkHeader.readFromIo (Cursor.mk image pos) with
    | error error =>
      rw [reads] at found
      cases found
    | ok result =>
      rw [reads] at found
      dsimp only at found
      cases read : result.1.piece (blockSize * result.1.chunkSz.toNat)
        ⟨image, pos + chunkHeaderSize⟩ with
      | error error =>
        rw [read] at found
        cases found
      | ok piece' =>
        rw [read] at found
        cases found
        exact ⟨result.1, result.2, rfl, read, rfl⟩
  · rintro ⟨chunkHeader, img, reads, read, rfl⟩
    rw [reads]
    dsimp only
    rw [read]

/-- The pieces of the chunks from a position on, up to one that cannot be read; and whether all of
them could. -/
def decode (blockSize chunkHeaderSize : Nat) (image : List UInt8) : Nat → Nat → List Piece × Bool
  | 0, _ => ([], true)
  | chunks + 1, pos =>
      match pieceAt blockSize chunkHeaderSize image pos with
      | .error _ => ([], false)
      | .ok (piece, next) =>
          let rest := decode blockSize chunkHeaderSize image chunks next
          (piece :: rest.1, rest.2)

/-! ### One chunk -/

/-- What a device does with a piece. -/
def PieceDone (script : Script) (own : RkBlockDevice) (before : Bus) (piece : Piece)
    (outcome : Except WriteSparseImageError Unit) (own' : RkBlockDevice) (reached : Bus) : Prop :=
  match piece with
  | .data bytes =>
      Puts script DEFAULT_BUF_SIZE own.timeout before own.pos bytes outcome reached ∧
        ∀ value, outcome = .ok value → own' = { own with pos := own.pos + bytes.length }
  | .skip _ =>
      reached = before ∧
        match piece.advance own.diskSizeBytes own.pos with
        | some next => outcome = .ok () ∧ own' = { own with pos := next }
        | none => ∃ error, outcome = .error error

/-- The copy of a chunk. -/
theorem copy_pieceDone {ρ : Type} {read : ρ → Nat → List UInt8 × ρ} (bounded : Bounded read)
    {rounds : Nat} {reader : ρ} {bytes : List UInt8} (delivers : delivered read rounds reader = bytes)
    (idle : bus.Idle) (own : RkBlockDevice) :
    Io.After (Bus.answer script) (Io.mapErr WriteSparseImageError.io (copy read rounds reader)) own
      bus (PieceDone script own bus (.data bytes)) := by
  refine Io.after_mapErr.mpr ((copy_effect bounded rounds reader idle own).imp
    fun outcome own' reached moved => ?_)
  rw [delivers] at moved
  exact ⟨moved.1.mapError, fun value ok => moved.2 value (mapError_eq_ok_iff.mp ok)⟩

/-- The move of a chunk. -/
theorem seek_pieceDone (own : RkBlockDevice) (offset : Int64) :
    Io.After (Bus.answer script) (do
      let _ ← Io.mapErr WriteSparseImageError.io (RkBlockDevice.seek (.current offset))
      pure ()) own bus (PieceDone script own bus (.skip offset)) := by
  have seeks : Io.After (Bus.answer script)
      (Io.mapErr WriteSparseImageError.io (RkBlockDevice.seek (.current offset))) own bus
      fun outcome own' reached => reached = bus ∧
        match (Piece.skip offset).advance own.diskSizeBytes own.pos with
        | some next => outcome = .ok next ∧ own' = { own with pos := next }
        | none => ∃ error, outcome = .error error := by
    refine Io.after_mapErr.mpr ((RkBlockDevice.seek_effect own (.current offset)).imp
      fun outcome own' reached moved => ?_)
    obtain ⟨same, moved⟩ := moved
    refine ⟨same, ?_⟩
    show match (own.sought (.current offset)).filter (· < own.diskSizeBytes) with
      | some next => _
      | none => _
    cases found : (own.sought (.current offset)).filter (· < own.diskSizeBytes) with
    | some next =>
      rw [found] at moved
      obtain ⟨rfl, rfl⟩ := moved
      exact ⟨rfl, rfl⟩
    | none =>
      rw [found] at moved
      obtain ⟨rfl, -⟩ := moved
      exact ⟨_, rfl⟩
  refine seeks.bind (fun error own' reached moved => ⟨moved.1, ?_⟩)
    fun next own' reached moved => ⟨moved.1, ?_⟩
  · obtain ⟨-, moved⟩ := moved
    split at moved
    · cases moved.1
    · exact ⟨_, rfl⟩
  · obtain ⟨-, moved⟩ := moved
    split at moved
    · exact ⟨rfl, moved.2⟩
    · obtain ⟨error, fails⟩ := moved
      cases fails

theorem writeSparseChunk_effect (idle : bus.Idle) (own : RkBlockDevice) (header : ChunkHeader)
    (dataSize : Nat) (img : Cursor) :
    Io.After (Bus.answer script) (writeSparseChunk header dataSize img) own bus
      fun outcome own' reached =>
        match header.piece dataSize img with
        | .error error => outcome = .error error ∧ reached = bus
        | .ok piece => PieceDone script own bus piece outcome own' reached := by
  unfold writeSparseChunk ChunkHeader.piece
  by_cases raw : header.chunkType = CHUNK_TYPE_RAW
  · rw [if_pos raw, if_pos raw]
    exact copy_pieceDone cursor_bounded (delivered_cursor img (Nat.lt_succ_self _)) idle own
  rw [if_neg raw, if_neg raw]
  by_cases fill : header.chunkType = CHUNK_TYPE_FILL
  · rw [if_pos fill, if_pos fill]
    refine Io.after_ofExcept_bind.mpr ?_
    cases found : readExact img 4 with
    | error error => exact ⟨rfl, rfl⟩
    | ok result =>
      obtain ⟨pattern, img'⟩ := result
      have four := (Cursor.readExact_ok found).2.1
      exact copy_pieceDone repeat_bounded (delivered_repeat four (Nat.lt_succ_self _)) idle own
  rw [if_neg fill, if_neg fill]
  by_cases dontCare : header.chunkType = CHUNK_TYPE_DONT_CARE
  · rw [if_pos dontCare, if_pos dontCare]
    exact seek_pieceDone own _
  rw [if_neg dontCare, if_neg dontCare]
  by_cases crc : header.chunkType = CHUNK_TYPE_CRC32
  · rw [if_pos crc, if_pos crc]
    exact ⟨.nothing idle, fun _ _ => rfl⟩
  · rw [if_neg crc, if_neg crc]
    exact ⟨rfl, rfl⟩

/-! ### The loop over the chunks -/

/-- How a walk over pieces leaves the storage. -/
structure Walked (script : Script) (own : RkBlockDevice) (before : Bus) (pieces : List Piece)
    (all : Bool) (outcome : Except WriteSparseImageError Unit) (reached : Bus) : Prop where
  /-- Whatever the device does, nothing else than the placed bytes is written. -/
  frame : ∀ place, (∀ write ∈ placed own.diskSizeBytes pieces own.pos, ¬ Covers write place) →
    reached.target.disk place = before.target.disk place
  /-- Under a clock that stands still, all of them are written that have an address. -/
  stored : script.Still → 0 < own.timeout → own.pos ≤ addressLimit →
    own.diskSizeBytes ≤ addressLimit → ∀ place < addressLimit, reached.target.disk place =
      spliceAll before.target.disk (placed own.diskSizeBytes pieces own.pos) place
  /-- A device that serves every request in time gets all of them. -/
  completes : script.Serves DEFAULT_BUF_SIZE own.timeout →
    Completes own.diskSizeBytes pieces own.pos → all = true → outcome = .ok () ∧
      reached.target.disk =
        spliceAll before.target.disk (placed own.diskSizeBytes pieces own.pos)

/-- A position outside the data is left alone, however much of them is written. -/
theorem Wrote.outside {ε α : Type} {start : Nat} {data : List UInt8} {before reached : Bus}
    {outcome : Except ε α} (wrote : Wrote start data before outcome reached) {place : Nat}
    (outside : ¬ Covers (start, data) place) :
    reached.target.disk place = before.target.disk place := by
  obtain ⟨count, most, disk, -⟩ := wrote
  rw [disk]
  refine splice_of_outside _ _ _ fun inside => outside ⟨inside.1, inside.2.trans_le ?_⟩
  rw [List.length_take]
  exact Nat.add_le_add_left (Nat.min_le_right _ _) _

/-- The bytes of a piece are placed before those of the next ones. -/
theorem placed_cons_some {size cursor next : Nat} {piece : Piece} {rest : List Piece}
    (advances : piece.advance size cursor = some next) :
    placed size (piece :: rest) cursor = piece.writes cursor ++ placed size rest next := by
  rw [placed, advances]

theorem placed_cons_none {size cursor : Nat} {piece : Piece} {rest : List Piece}
    (astray : piece.advance size cursor = none) :
    placed size (piece :: rest) cursor = piece.writes cursor := by
  rw [placed, astray, List.append_nil]

theorem advance_data {size cursor : Nat} {bytes : List UInt8} (addressed : Addressed cursor bytes) :
    (Piece.data bytes).advance size cursor = some (cursor + bytes.length) :=
  if_pos addressed

theorem advance_data_none {size cursor : Nat} {bytes : List UInt8}
    (lost : ¬ Addressed cursor bytes) : (Piece.data bytes).advance size cursor = none :=
  if_neg lost

theorem writes_subset (size : Nat) (piece : Piece) (rest : List Piece) (cursor : Nat) :
    ∀ write ∈ piece.writes cursor, write ∈ placed size (piece :: rest) cursor :=
  fun _ member => List.mem_append_left _ member

/-- The walk stops at a piece that the device does not get. -/
theorem Walked.of_error {own own' : RkBlockDevice} {before reached : Bus} {piece : Piece}
    {rest : List Piece} {all : Bool} {error : WriteSparseImageError}
    (done : PieceDone script own before piece (.error error) own' reached) :
    Walked script own before (piece :: rest) all (.error error) reached := by
  cases piece with
  | data bytes =>
    obtain ⟨puts, -⟩ := done
    have never (serves : script.Serves DEFAULT_BUF_SIZE own.timeout) : ¬ Addressed own.pos bytes := by
      intro fits
      obtain ⟨value, fails⟩ := puts.succeeds serves fits
      cases fails
    refine ⟨fun place outside => ?_, fun still some low _ place addressed => ?_,
      fun serves completes _ => ?_⟩
    · exact puts.wrote.outside (outside _ (writes_subset _ _ _ _ _ List.mem_cons_self))
    · rw [placed_cons_none (advance_data_none (never (still.serves some _)))]
      exact puts.stored still some low (by decide) place addressed
    · obtain ⟨next, advances, -⟩ := completes
      rw [advance_data_none (never serves)] at advances
      cases advances
  | skip offset =>
    obtain ⟨rfl, moved⟩ := done
    cases advances : (Piece.skip offset).advance own.diskSizeBytes own.pos with
    | some next =>
      rw [advances] at moved
      cases moved.1
    | none =>
      refine ⟨fun _ _ => rfl, fun _ _ _ _ place _ => ?_, fun _ completes _ => ?_⟩
      · rw [placed_cons_none advances]
        rfl
      · obtain ⟨next, leads, -⟩ := completes
        rw [advances] at leads
        cases leads

/-- What it means that the device got a piece. -/
theorem PieceDone.ok {own own' : RkBlockDevice} {before reached : Bus} {piece : Piece}
    (done : PieceDone script own before piece (.ok ()) own' reached) :
    ∃ next, piece.advance own.diskSizeBytes own.pos = some next ∧ own' = { own with pos := next } ∧
      reached.target.disk = spliceAll before.target.disk (piece.writes own.pos) ∧
      (own.pos ≤ addressLimit → own.diskSizeBytes ≤ addressLimit → next ≤ addressLimit) := by
  cases piece with
  | data bytes =>
    obtain ⟨puts, moved⟩ := done
    have addressed := puts.addressed _ rfl
    refine ⟨_, advance_data addressed, moved () rfl, puts.wrote.written.1, fun low _ => ?_⟩
    rcases addressed with rfl | fits
    · exact low
    · exact fits
  | skip offset =>
    obtain ⟨rfl, moved⟩ := done
    cases advances : (Piece.skip offset).advance own.diskSizeBytes own.pos with
    | some next =>
      rw [advances] at moved
      refine ⟨next, rfl, moved.2, rfl, fun _ small => ?_⟩
      have inside := (Option.filter_eq_some_iff.mp advances).2
      exact (of_decide_eq_true inside).le.trans small
    | none =>
      rw [advances] at moved
      obtain ⟨error, fails⟩ := moved
      cases fails

/-- The device that got a piece is ready for the next one. -/
theorem PieceDone.idle {own own' : RkBlockDevice} {before reached : Bus} {piece : Piece}
    (done : PieceDone script own before piece (.ok ()) own' reached) (idle : before.Idle) :
    reached.Idle := by
  cases piece with
  | data bytes => exact done.1.wrote.written.2
  | skip offset => exact done.1 ▸ idle

/-- **A chunk that is carried out** has a piece, which does not lead astray. -/
theorem writeSparseChunk_ok {header : ChunkHeader} {dataSize : Nat} {img : Cursor}
    {own own' : RkBlockDevice} {bus' : Bus} (idle : bus.Idle)
    (ran : (writeSparseChunk header dataSize img).run (Bus.answer script) own bus =
      ((.ok (), own'), bus')) :
    ∃ piece next, header.piece dataSize img = .ok piece ∧
      piece.advance own.diskSizeBytes own.pos = some next ∧ own' = { own with pos := next } ∧
      bus'.target.disk = spliceAll bus.target.disk (piece.writes own.pos) ∧ bus'.Idle := by
  have chunk := @writeSparseChunk_effect script bus idle own header dataSize img
  unfold Io.After at chunk
  rw [ran] at chunk
  cases read : header.piece dataSize img with
  | error error =>
    rw [read] at chunk
    cases chunk.1
  | ok piece =>
    rw [read] at chunk
    obtain ⟨next, advances, moved, disk, -⟩ := PieceDone.ok chunk
    exact ⟨piece, next, rfl, advances, moved, disk, PieceDone.idle chunk idle⟩

/-- The walk goes on after a piece that the device got. -/
theorem Walked.of_ok {own own' : RkBlockDevice} {before middle reached : Bus} {piece : Piece}
    {rest : List Piece} {all : Bool} {outcome : Except WriteSparseImageError Unit}
    (done : PieceDone script own before piece (.ok ()) own' middle)
    (later : Walked script own' middle rest all outcome reached) :
    Walked script own before (piece :: rest) all outcome reached := by
  obtain ⟨next, advances, rfl, disk, stays⟩ := done.ok
  refine ⟨fun place outside => ?_, fun still some low small place addressed => ?_,
    fun serves completes whole => ?_⟩
  · rw [placed_cons_some advances, List.forall_mem_append] at outside
    rw [later.frame place outside.2, disk, spliceAll_of_outside _ outside.1]
  · rw [later.stored still some (stays low small) small place addressed, disk,
      placed_cons_some advances, spliceAll_append]
  · obtain ⟨next', leads, rest⟩ := completes
    rw [advances] at leads
    cases leads
    obtain ⟨ok, all⟩ := later.completes serves rest whole
    refine ⟨ok, ?_⟩
    rw [all, disk, placed_cons_some advances, spliceAll_append]

/-- A walk that ends at a chunk that cannot be read. -/
theorem Walked.unread {own : RkBlockDevice} {error : WriteSparseImageError} :
    Walked script own bus [] false (.error error) bus :=
  ⟨fun _ _ => rfl, fun _ _ _ _ _ _ => rfl, fun _ _ all => by cases all⟩

/-- A round of the loop: the header of the chunk is read, the chunk is carried out, and the loop goes
on. -/
theorem after_writeSparseChunks {blockSize chunkHeaderSize chunks pos : Nat} {image : List UInt8}
    {own : RkBlockDevice} {post : Except WriteSparseImageError Unit → RkBlockDevice → Bus → Prop}
    (unread : ∀ error, ChunkHeader.readFromIo (Cursor.mk image pos) = .error error →
      post (.error (.io error)) own bus)
    (reads : ∀ header img, ChunkHeader.readFromIo (Cursor.mk image pos) = .ok (header, img) →
      Io.After (Bus.answer script) (do
        writeSparseChunk header (blockSize * header.chunkSz.toNat)
          (Cursor.mk image (pos + chunkHeaderSize))
        writeSparseChunks blockSize chunkHeaderSize (Cursor.mk image 0) chunks
          (pos + header.totalSz.toNat)) own bus post) :
    Io.After (Bus.answer script)
      (writeSparseChunks blockSize chunkHeaderSize (Cursor.mk image 0) (chunks + 1) pos) own bus
      post := by
  cases found : ChunkHeader.readFromIo (Cursor.mk image pos) with
  | error error =>
    rw [writeSparseChunks_of_unread found]
    exact unread error found
  | ok result =>
    rw [writeSparseChunks_of_read found]
    exact reads result.1 result.2 found

/-- **The walk** over the chunks does with the storage what their pieces say. -/
theorem writeSparseChunks_effect (blockSize chunkHeaderSize : Nat) {image : List UInt8} {img : Cursor}
    (bytes : img.bytes = image) (chunks pos : Nat) (idle : bus.Idle) (own : RkBlockDevice) :
    Io.After (Bus.answer script) (writeSparseChunks blockSize chunkHeaderSize img chunks pos) own bus
      fun outcome _ reached =>
        Walked script own bus (decode blockSize chunkHeaderSize image chunks pos).1
          (decode blockSize chunkHeaderSize image chunks pos).2 outcome reached := by
  rw [writeSparseChunks_bytes _ _ bytes]
  induction chunks generalizing pos bus own with
  | zero => exact ⟨fun _ _ => rfl, fun _ _ _ _ _ _ => rfl, fun _ _ _ => ⟨rfl, rfl⟩⟩
  | succ chunks ih =>
    unfold decode pieceAt
    refine after_writeSparseChunks (fun error reads => ?_) fun header img reads => ?_
    · rw [reads]
      exact .unread
    rw [reads]
    dsimp only
    have chunk := @writeSparseChunk_effect script bus idle own header
      (blockSize * header.chunkSz.toNat) (Cursor.mk image (pos + chunkHeaderSize))
    cases read : header.piece (blockSize * header.chunkSz.toNat) ⟨image, pos + chunkHeaderSize⟩ with
    | error error =>
      rw [read] at chunk
      refine chunk.bind (fun error own' reached moved => ?_) fun _ own' reached moved => ?_
      · obtain ⟨-, rfl⟩ := moved
        exact .unread
      · cases moved.1
    | ok piece =>
      rw [read] at chunk
      refine chunk.bind (fun error own' reached moved => .of_error moved)
        fun _ own' reached moved => ?_
      exact (ih _ (moved.idle idle) own').imp fun outcome own'' last walked =>
        .of_ok moved walked

end Rkusb
