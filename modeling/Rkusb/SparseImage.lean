/-
**A sparse image and its partition.**

* `sparse_confined_iff`: an image changes nothing outside its partition, on every device, if and only
  if its file header is refused or the data of its chunks, put one after another from the start of
  the partition, lie in the partition. The size that is checked is the one in the file header; the
  sizes in the chunk headers are not.
* `sparse_escapes`: an image of no blocks that writes behind the partition.
-/

import Rkusb.SparseWalk

namespace Rkusb

open Interaction Bytes FlatStore
open RkBlockDevice (Addressed addressLimit)

variable {script : Script} {bus : Bus} {gpt : Gpt} {lb : LogicalBlockSize} {part : Partition}
  {image : List UInt8} {own : RkBlockDevice}

/-! ### The file header -/

namespace SparseHeader

/-- The checks of the file header, against the size of the partition. -/
def Accepted (header : SparseHeader) (partSize : Nat) : Prop :=
  header.magic = SPARSE_HEADER_MAGIC ∧ ¬(1 < header.majorVersion ∨ 0 < header.minorVersion) ∧
    header.blkSz.toNat * header.totalBlks.toNat ≤ partSize

instance (header : SparseHeader) (partSize : Nat) : Decidable (header.Accepted partSize) :=
  inferInstanceAs (Decidable (_ ∧ _ ∧ _))

/-- The pieces of the image, up to a chunk that cannot be read; and whether all could. -/
def pieces (header : SparseHeader) (image : List UInt8) : List Piece × Bool :=
  decode header.blkSz.toNat header.chunkHdrSz.toNat image header.totalChunks.toNat
    header.fileHdrSz.toNat

end SparseHeader

/-- The file header of an image, if it passes the checks. -/
def acceptedHeader (partSize : Nat) (image : List UInt8) : Option SparseHeader :=
  match SparseHeader.readFromIo (Cursor.mk image 0) with
  | .error _ => none
  | .ok (header, _) => if header.Accepted partSize then some header else none

/-- What becomes of an image: it is refused, or its pieces are walked over from the start of the
partition. -/
def ImageDone (script : Script) (own : RkBlockDevice) (before : Bus) (start : Nat)
    (image : List UInt8) (accepted : Option SparseHeader)
    (outcome : Except WriteSparseImageError Unit) (reached : Bus) : Prop :=
  match accepted with
  | none => reached = before
  | some header =>
      Walked script { own with pos := start } before (header.pieces image).1 (header.pieces image).2
        outcome reached

/-- The partition is a range on a disk of this size. -/
structure Partition.Within (part : Partition) (lb : LogicalBlockSize) (size : Nat) : Prop where
  ordered : part.firstLba ≤ part.lastLba
  ends : part.start lb + part.length lb ≤ size

theorem addressLimit_lt : addressLimit < 2 ^ 63 := by decide

/-- The size of a disk has an address. -/
theorem size_le_addressLimit {flashSize : UInt32} {size : Nat}
    (sized : size = SECTOR_SIZE * flashSize.toNat) : size ≤ addressLimit := by
  rw [sized]
  exact Nat.mul_le_mul_left _ (Nat.le_pred_of_lt flashSize.toNat_lt)

/-- A partition on the disk is where its two methods say. -/
theorem Gpt.Lawful.range (lawful : gpt.Lawful) {size : Nat} (within : part.Within lb size)
    (small : size ≤ addressLimit) :
    gpt.byteRange part lb = .ok (part.start lb, part.length lb) := by
  have ends := within.ends
  have limit := addressLimit_lt
  obtain ⟨length, measured⟩ := lawful.length_of_fits part lb within.ordered (by omega)
  obtain ⟨start, found⟩ := lawful.start_of_fits part lb (by omega)
  have length_eq := lawful.length_ok _ _ _ within.ordered measured
  have start_eq := lawful.start_ok _ _ _ found
  unfold byteRange
  rw [measured, found, ← length_eq, ← start_eq]
  rfl

/-- Where the walk over an image starts, and its file header; nothing where it is refused. -/
def Gpt.walk (gpt : Gpt) (part : Partition) (lb : LogicalBlockSize) (size : Nat)
    (image : List UInt8) : Option (Nat × SparseHeader) :=
  match gpt.byteRange part lb with
  | .error _ => none
  | .ok (start, length) =>
      if start < size then (acceptedHeader length image).map fun header => (start, header) else none

theorem Gpt.walk_of_error {size : Nat} {error : IoError}
    (refused : gpt.byteRange part lb = .error error) :
    gpt.walk part lb size image = none := by
  unfold walk
  rw [refused]

theorem Gpt.walk_of_ok {size start length : Nat} (range : gpt.byteRange part lb = .ok (start, length)) :
    gpt.walk part lb size image =
      if start < size then (acceptedHeader length image).map fun header => (start, header)
      else none := by
  unfold walk
  rw [range]

theorem Gpt.walk_of_none {size : Nat} (none : ∀ length, acceptedHeader length image = none) :
    gpt.walk part lb size image = .none := by
  cases range : gpt.byteRange part lb with
  | error error => exact walk_of_error range
  | ok place =>
    rw [walk_of_ok range, none, Option.map_none, ite_self]

/-- A reader begins with the bytes of an image: it gives the same file header, or none. -/
def BeginsWith {ρ : Type} [ReadSeek ρ] (img : ρ) (image : List UInt8) : Prop :=
  (SparseHeader.readFromIo img).map (·.1) = (SparseHeader.readFromIo (Cursor.mk image 0)).map (·.1)

theorem BeginsWith.acceptedHeader {ρ : Type} [ReadSeek ρ] {img : ρ} (begins : BeginsWith img image)
    (length : Nat) : acceptedHeader length image =
      match SparseHeader.readFromIo img with
      | .error _ => none
      | .ok (header, _) => if header.Accepted length then some header else none := by
  have headed : Rkusb.acceptedHeader length image =
      match SparseHeader.readFromIo (Cursor.mk image 0) with
      | .error _ => none
      | .ok (header, _) => if header.Accepted length then some header else none := rfl
  rw [headed]
  unfold BeginsWith at begins
  cases reads : SparseHeader.readFromIo img with
  | error error =>
    rw [reads] at begins
    cases there : SparseHeader.readFromIo (Cursor.mk image 0) with
    | error error => rfl
    | ok result =>
      rw [there] at begins
      cases begins
  | ok result =>
    rw [reads] at begins
    cases there : SparseHeader.readFromIo (Cursor.mk image 0) with
    | error error =>
      rw [there] at begins
      cases begins
    | ok result' =>
      obtain ⟨header, img⟩ := result
      obtain ⟨header', img'⟩ := result'
      rw [there] at begins
      cases begins
      rfl

/-- A write is refused, or it is the loop over the chunks from the start of the partition. -/
theorem after_writeSparseImage_of {ρ : Type} [ReadSeek ρ] {img : ρ}
    {post : Except WriteSparseImageError Unit → RkBlockDevice → Bus → Prop}
    (begins : BeginsWith img image)
    (refused : gpt.walk part lb own.diskSizeBytes image = none →
      ∀ error, post (.error error) own bus)
    (walks : ∀ start header, gpt.walk part lb own.diskSizeBytes image = some (start, header) →
      ∀ img', SparseHeader.readFromIo img = .ok (header, img') → Io.After (Bus.answer script)
        (writeSparseChunks header.blkSz.toNat header.chunkHdrSz.toNat img' header.totalChunks.toNat
          header.fileHdrSz.toNat) { own with pos := start } bus post) :
    Io.After (Bus.answer script) (writeSparseImage gpt lb part img) own bus post := by
  unfold writeSparseImage
  refine Io.after_ofExcept_bind.mpr ?_
  have headed := begins.acceptedHeader
  cases reads : SparseHeader.readFromIo img with
  | error error =>
    refine refused (Gpt.walk_of_none fun length => ?_) _
    rw [headed, reads]
  | ok result =>
    obtain ⟨header, img'⟩ := result
    have accepts {length : Nat} : acceptedHeader length image =
        if header.Accepted length then some header else none := by rw [headed, reads]
    dsimp only [Except.mapError]
    by_cases magic : header.magic = SPARSE_HEADER_MAGIC
    swap
    · rw [if_pos magic]
      refine refused (Gpt.walk_of_none fun length => ?_) _
      rw [accepts, if_neg fun accepted => magic accepted.1]
    rw [if_neg (not_not.mpr magic)]
    by_cases version : 1 < header.majorVersion ∨ 0 < header.minorVersion
    · rw [if_pos version]
      refine refused (Gpt.walk_of_none fun length => ?_) _
      rw [accepts, if_neg fun accepted => accepted.2.1 version]
    rw [if_neg version]
    refine Gpt.after_byteRange (fun error fails => refused (Gpt.walk_of_error fails) _) ?_
    intro length start range
    have walk := @Gpt.walk_of_ok gpt lb part image own.diskSizeBytes _ _ range
    by_cases large : length.toNat < header.blkSz.toNat * header.totalBlks.toNat
    · have fails : ¬header.Accepted length.toNat :=
        fun accepted => Nat.not_lt.mpr accepted.2.2 large
      rw [if_pos large]
      refine refused ?_ _
      rw [walk, accepts, if_neg fails, Option.map_none, ite_self]
    have accepted : header.Accepted length.toNat := ⟨magic, version, Nat.le_of_not_lt large⟩
    rw [if_neg large]
    rw [accepts, if_pos accepted] at walk
    refine after_seekStart (fun offDisk => refused (walk.trans (if_neg offDisk))) fun onDisk => ?_
    exact walks start.toNat header (walk.trans (if_pos onDisk)) img' reads

/-- The same of an image in memory. -/
theorem after_writeSparseImage {post : Except WriteSparseImageError Unit → RkBlockDevice → Bus → Prop}
    (refused : gpt.walk part lb own.diskSizeBytes image = none →
      ∀ error, post (.error error) own bus)
    (walks : ∀ start header, gpt.walk part lb own.diskSizeBytes image = some (start, header) →
      ∀ img : Cursor, img.bytes = image → Io.After (Bus.answer script)
        (writeSparseChunks header.blkSz.toNat header.chunkHdrSz.toNat img header.totalChunks.toNat
          header.fileHdrSz.toNat) { own with pos := start } bus post) :
    Io.After (Bus.answer script) (writeSparseImage gpt lb part (Cursor.mk image 0)) own bus post :=
  after_writeSparseImage_of rfl refused fun start header walk img reads =>
    walks start header walk img (SparseHeader.readFromIo_bytes reads)

/-- **An image** is refused or walked over. -/
theorem writeSparseImage_effect (lawful : gpt.Lawful) (small : own.diskSizeBytes ≤ addressLimit)
    (within : part.Within lb own.diskSizeBytes) (idle : bus.Idle) :
    Io.After (Bus.answer script) (writeSparseImage gpt lb part (Cursor.mk image 0)) own bus
      fun outcome _ reached => ImageDone script own bus (part.start lb) image
        (acceptedHeader (part.length lb) image) outcome reached := by
  have range := lawful.range within small
  have onDisk : part.start lb < own.diskSizeBytes := by
    have := within.ends
    have := part.length_pos lb
    omega
  have walk := @Gpt.walk_of_ok gpt lb part image own.diskSizeBytes _ _ range
  rw [if_pos onDisk] at walk
  refine after_writeSparseImage (fun refused error => ?_) fun start header walk' img bytes => ?_
  · rw [Option.map_eq_none_iff.mp (walk.symm.trans refused)]
    exact rfl
  · obtain ⟨header', accepted, same⟩ := Option.map_eq_some_iff.mp (walk.symm.trans walk')
    cases same
    rw [accepted]
    exact writeSparseChunks_effect _ _ bytes _ _ idle _

/-! ### Confinement -/

/-- The data of a piece at the cursor lie in the range, as far as they lie on the disk. -/
def Piece.Fits (size first last cursor : Nat) : Piece → Prop
  | .data bytes =>
      bytes = [] ∨ size ≤ cursor ∨ first ≤ cursor ∧ min (cursor + bytes.length) size ≤ last
  | .skip _ => True

/-- The data of all pieces do, one after another, up to a piece that leads astray. -/
def PiecesFit (size first last : Nat) : List Piece → Nat → Prop
  | [], _ => True
  | piece :: rest, cursor =>
      piece.Fits size first last cursor ∧
        ∀ next ∈ piece.advance size cursor, PiecesFit size first last rest next

/-- The file header is refused, or the data of the chunks lie in the partition. -/
def ImageFits (size : Nat) (lb : LogicalBlockSize) (part : Partition) (image : List UInt8) : Prop :=
  ∀ header ∈ acceptedHeader (part.length lb) image,
    PiecesFit size (part.start lb) (part.start lb + part.length lb) (header.pieces image).1
      (part.start lb)

instance (size first last cursor : Nat) (piece : Piece) :
    Decidable (piece.Fits size first last cursor) :=
  match piece with
  | .data _ => inferInstanceAs (Decidable (_ ∨ _))
  | .skip _ => inferInstanceAs (Decidable True)

instance decidablePiecesFit (size first last : Nat) :
    (pieces : List Piece) → (cursor : Nat) → Decidable (PiecesFit size first last pieces cursor)
  | [], _ => inferInstanceAs (Decidable True)
  | piece :: rest, cursor =>
      have := decidablePiecesFit size first last rest
      inferInstanceAs (Decidable (piece.Fits size first last cursor ∧
        ∀ next ∈ piece.advance size cursor, PiecesFit size first last rest next))

instance (size : Nat) (lb : LogicalBlockSize) (part : Partition) (image : List UInt8) :
    Decidable (ImageFits size lb part image) :=
  inferInstanceAs (Decidable (∀ header ∈ acceptedHeader (part.length lb) image, _))

theorem Piece.fits_iff {size first last cursor : Nat} {piece : Piece} :
    piece.Fits size first last cursor ↔ ∀ write ∈ piece.writes cursor, ∀ place < size,
      Covers write place → first ≤ place ∧ place < last := by
  cases piece with
  | skip offset => exact ⟨fun _ write member => absurd member List.not_mem_nil, fun _ => trivial⟩
  | data bytes =>
    constructor
    · rintro fits write member place onDisk ⟨after, before⟩
      obtain rfl := List.mem_singleton.mp member
      dsimp only at after before
      rcases fits with rfl | beyond | ⟨from_, upTo⟩
      · exact absurd before (Nat.not_lt.mpr after)
      · omega
      · omega
    · intro covered
      have inside := covered _ List.mem_cons_self
      by_cases empty : bytes = []
      · exact .inl empty
      by_cases beyond : size ≤ cursor
      · exact .inr (.inl beyond)
      have positive := List.length_pos_iff.mpr empty
      -- the first byte, and the last one on the disk
      have lowest := inside cursor (by omega) ⟨Nat.le_refl _, by dsimp only; omega⟩
      have highest := inside (min (cursor + bytes.length) size - 1) (by omega)
        ⟨by dsimp only; omega, by dsimp only; omega⟩
      exact .inr (.inr ⟨lowest.1, by omega⟩)

theorem piecesFit_iff {size first last : Nat} {pieces : List Piece} {cursor : Nat} :
    PiecesFit size first last pieces cursor ↔ ∀ write ∈ placed size pieces cursor, ∀ place < size,
      Covers write place → first ≤ place ∧ place < last := by
  induction pieces generalizing cursor with
  | nil => exact ⟨fun _ write member => absurd member List.not_mem_nil, fun _ => trivial⟩
  | cons piece rest ih =>
    rw [PiecesFit, Piece.fits_iff]
    cases advances : piece.advance size cursor with
    | none =>
      rw [placed_cons_none advances]
      exact ⟨And.left, fun here => ⟨here, fun next leads => by cases leads⟩⟩
    | some next =>
      rw [placed_cons_some advances, List.forall_mem_append, ← ih]
      refine and_congr_right fun _ => ⟨fun later => later next rfl, ?_⟩
      rintro later _ ⟨⟩
      exact later

/-- An image changes nothing outside its partition, whatever the device does. The storage ends at
`diskSizeBytes`, so that the places behind it, which the storage of a `Bus` has as well, are no bytes
that could be changed. -/
def ImageConfined (gpt : Gpt) (lb : LogicalBlockSize) (part : Partition) (image : List UInt8)
    (own : RkBlockDevice) : Prop :=
  ∀ (script : Script) (bus : Bus), bus.Idle →
    Io.After (Bus.answer script) (writeSparseImage gpt lb part (Cursor.mk image 0)) own bus
      fun _ _ reached => ∀ place < own.diskSizeBytes,
        ¬(part.start lb ≤ place ∧ place < part.start lb + part.length lb) →
          reached.target.disk place = bus.target.disk place

/-- **An image is confined to its partition** if and only if its file header is refused or the data of
its chunks lie there. -/
theorem sparse_confined_iff (lawful : gpt.Lawful) {flashSize : UInt32}
    (sized : own.diskSizeBytes = SECTOR_SIZE * flashSize.toNat)
    (timed : own.timeout = DEFAULT_IO_TIMEOUT) (within : part.Within lb own.diskSizeBytes) :
    ImageConfined gpt lb part image own ↔ ImageFits own.diskSizeBytes lb part image := by
  have small := size_le_addressLimit sized
  constructor
  · intro confined header accepted
    refine piecesFit_iff.mpr fun write member place onDisk covers => ?_
    obtain ⟨value, written⟩ := lastWritten_of_covers member covers
    -- a device that holds another value there, and carries everything out at once
    have idle := Bus.fresh_idle fun _ => value + 1
    have done := @writeSparseImage_effect Script.undisturbed _ gpt lb part image own lawful small
      within idle
    rw [accepted] at done
    have ends := within.ends
    have stored := Walked.stored done Script.undisturbed_still (timed ▸ by decide)
      (show part.start lb ≤ addressLimit by omega) small place (by omega)
    rw [spliceAll_apply, written] at stored
    by_contra outside
    have kept := confined Script.undisturbed _ idle place onDisk outside
    have same : value = value + 1 := stored.symm.trans kept
    exact absurd same (by simp)
  · intro fits script bus idle
    refine (writeSparseImage_effect lawful small within idle).imp ?_
    intro outcome own' reached done place onDisk outside
    cases accepted : acceptedHeader (part.length lb) image with
    | none =>
      rw [accepted] at done
      exact congrArg (fun bus : Bus => bus.target.disk place) done
    | some header =>
      rw [accepted] at done
      refine Walked.frame done place fun write member covers => ?_
      exact outside (piecesFit_iff.mp (fits header accepted) write member place onDisk covers)

/-- An image of no blocks of four bytes: a gap of a sector and a block of data, as its chunks state
them. -/
def strayImage : List UInt8 :=
  [0x3a, 0xff, 0x26, 0xed, 1, 0, 0, 0, 28, 0, 12, 0, 4, 0, 0, 0, 0, 0, 0, 0, 2, 0, 0, 0, 0, 0, 0, 0] ++
    [0xc3, 0xca, 0, 0, 128, 0, 0, 0, 12, 0, 0, 0] ++
    [0xc1, 0xca, 0, 0, 1, 0, 0, 0, 16, 0, 0, 0, 1, 2, 3, 4]

/-- The image on a partition of one sector, and on one of two. -/
theorem sparse_confined_iff_stray :
    ¬ImageConfined .checked .lb512 ⟨1, 1⟩ strayImage (.new 2048 0 DEFAULT_IO_TIMEOUT) ∧
      ImageConfined .checked .lb512 ⟨1, 2⟩ strayImage (.new 2048 0 DEFAULT_IO_TIMEOUT) :=
  ⟨fun confined => absurd ((@sparse_confined_iff .checked .lb512 ⟨1, 1⟩ strayImage
      (.new 2048 0 DEFAULT_IO_TIMEOUT) Gpt.checked_lawful 4 rfl rfl ⟨by decide, by decide⟩).mp confined)
      (by decide +kernel),
    (@sparse_confined_iff .checked .lb512 ⟨1, 2⟩ strayImage (.new 2048 0 DEFAULT_IO_TIMEOUT)
      Gpt.checked_lawful 4 rfl rfl ⟨by decide, by decide⟩).mpr (by decide +kernel)⟩

/-- **An image escapes.** Its header states no blocks, and the command returns `Ok`: its data are
behind the partition. -/
theorem sparse_escapes :
    let run := (writeSparseImage .checked .lb512 ⟨1, 1⟩ (Cursor.mk strayImage 0)).run
      (Bus.answer Script.undisturbed) (.new 2048 0 DEFAULT_IO_TIMEOUT) (Bus.fresh fun _ => 0)
    run.1.1 = .ok () ∧ Partition.start ⟨1, 1⟩ .lb512 + Partition.length ⟨1, 1⟩ .lb512 = 1024 ∧
      slice run.2.target.disk 1024 4 = [1, 2, 3, 4] := by
  decide +kernel

end Rkusb
