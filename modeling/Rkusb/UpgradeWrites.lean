/-
**What an upgrade writes, wherever it stops** (`bin/rktools/subcommands/upgrade.rs`).

`upgrade_writes_nothing_iff` is about a bus that is idle. Here the bus is any that earlier commands
leave, and the loop ends in any way.

* `writeEntry_carries`: an entry asks for a sequence of writes (`entryWrites`). Its transfer carries out
  a beginning of them, and all of them if it returns `Ok`; it does so only by a plan.
* `writePartitions_carries`: the same of the loop, and of the writes of the entries one after another.
-/

import Rkusb.PartitionTable

namespace Rkusb

open Interaction Bytes FlatStore
open RkBlockDevice (Addressed addressLimit)

variable {script : Script} {bus : Bus}

/-! ### Writes that are carried out -/

/-- How writes are carried out one after another: a beginning of them; and if all of them are, the next
reply is told apart. -/
structure Carries {ε α : Type} (script : Script) (before : Bus) (writes : List (Nat × List UInt8))
    (outcome : Except ε α) (reached : Bus) : Prop where
  torn : Torn writes before.target.disk reached.target.disk
  whole : ∀ value, outcome = .ok value →
    reached.target.disk = spliceAll before.target.disk writes ∧ reached.Ready script

namespace Carries

variable {ε ε' α β : Type} {before middle reached : Bus} {writes first : List (Nat × List UInt8)}

/-- None of them is. -/
theorem refused (error : ε) (writes : List (Nat × List UInt8)) :
    Carries script bus writes (.error error : Except ε α) bus :=
  ⟨.stops _ _, fun _ fails => by cases fails⟩

theorem nothing (ready : bus.Ready script) (value : α) :
    Carries script bus [] (.ok value : Except ε α) bus :=
  ⟨.stops _ _, fun _ _ => ⟨rfl, ready⟩⟩

/-- They end there. -/
theorem stop {error : ε} (here : Carries script before first (.error error : Except ε α) reached)
    (error' : ε') (second : List (Nat × List UInt8)) :
    Carries script before (first ++ second) (.error error' : Except ε' β) reached :=
  ⟨here.torn.append_left second, fun _ fails => by cases fails⟩

theorem next {value : α} {outcome : Except ε' β} {second : List (Nat × List UInt8)}
    (here : Carries script before first (.ok value : Except ε α) middle)
    (there : Carries script middle second outcome reached) :
    Carries script before (first ++ second) outcome reached := by
  obtain ⟨disk, -⟩ := here.whole value rfl
  refine ⟨.append_right (disk ▸ there.torn), fun value ok => ?_⟩
  rw [spliceAll_append, ← disk]
  exact there.whole value ok

theorem mapError {outcome : Except ε α} (translate : ε → ε')
    (carries : Carries script before writes outcome reached) :
    Carries script before writes (outcome.mapError translate) reached :=
  ⟨carries.torn, fun value ok => carries.whole value (mapError_eq_ok_iff.mp ok)⟩

/-- A write of which a beginning is. -/
theorem of_began {start : Nat} {data : List UInt8} {error : ε}
    (began : Began start data before.target.disk reached.target.disk) :
    Carries script before [(start, data)] (.error error : Except ε α) reached :=
  ⟨began.torn, fun _ fails => by cases fails⟩

/-- What is put on an idle bus. -/
theorem of_wrote {start : Nat} {data : List UInt8} {outcome : Except ε α}
    (wrote : Wrote start data before outcome reached) :
    Carries script before [(start, data)] outcome reached := by
  refine ⟨?_, fun value ok => ?_⟩
  · obtain ⟨count, -, disk, -⟩ := wrote
    exact disk ▸ .within _ _ _ _ _
  · subst ok
    exact ⟨wrote.written.1, wrote.written.2.ready⟩

end Carries

/-! ### Copies -/

section Copies

variable {ρ : Type} {read : ρ → Nat → List UInt8 × ρ}

/-- A copy to a bus that is not idle has nothing to write, or fails in its first request. -/
theorem copy_busy (ready : bus.Ready script) (busy : ¬bus.Idle) (rounds : Nat) (reader : ρ)
    (own : RkBlockDevice) :
    Io.After (Bus.answer script) (copy read rounds reader) own bus fun outcome own' reached =>
      (delivered read rounds reader = [] ∧ own' = own ∧ reached = bus) ∨
        ((∃ error, outcome = .error error) ∧
          Began own.pos (delivered read rounds reader) bus.target.disk reached.target.disk) := by
  cases rounds with
  | zero => exact .inl ⟨rfl, rfl, rfl⟩
  | succ rounds =>
    unfold copy delivered
    by_cases empty : (read reader DEFAULT_BUF_SIZE).1 = []
    · rw [if_pos empty]
      show Io.After _ (if (read reader DEFAULT_BUF_SIZE).1 = [] then _ else _) _ _ _
      rw [if_pos empty]
      exact .inl ⟨rfl, rfl, rfl⟩
    rw [if_neg empty]
    show Io.After _ (if (read reader DEFAULT_BUF_SIZE).1 = [] then _ else _) _ _ _
    rw [if_neg empty]
    have fails : Io.After (Bus.answer script)
        (writeAll (read reader DEFAULT_BUF_SIZE).1.length (read reader DEFAULT_BUF_SIZE).1) own bus
        fun outcome _ reached => (∃ error, outcome = .error error) ∧
          Began own.pos (read reader DEFAULT_BUF_SIZE).1 bus.target.disk reached.target.disk := by
      cases buf : (read reader DEFAULT_BUF_SIZE).1 with
      | nil => exact absurd buf empty
      | cons byte rest =>
        show Io.After _ (if byte :: rest = [] then _ else _) _ _ _
        rw [if_neg (List.cons_ne_nil _ _)]
        refine (RkBlockDevice.write_busy ready busy own (List.cons_ne_nil byte rest)).bind
          (fun error _ reached failed => ⟨⟨error, rfl⟩, failed.2.2⟩) fun _ _ _ failed => ?_
        obtain ⟨⟨error, same⟩, -⟩ := failed
        cases same
    refine fails.bind (fun error _ reached failed => .inr ⟨⟨error, rfl⟩, ?_⟩) fun _ _ _ failed => ?_
    · obtain ⟨-, count, most, disk⟩ := failed
      refine ⟨count, ?_, by rw [List.take_append_of_le_length most, disk]⟩
      rw [List.length_append]
      exact Nat.le_add_right_of_le most
    · obtain ⟨⟨error, same⟩, -⟩ := failed
      cases same

/-- **A copy**, whatever it finds on the bus. -/
theorem copy_carries (bounded : Bounded read) (rounds : Nat) (reader : ρ) {bytes : List UInt8}
    (delivers : delivered read rounds reader = bytes) (ready : bus.Ready script)
    (own : RkBlockDevice) :
    Io.After (Bus.answer script) (copy read rounds reader) own bus fun outcome own' reached =>
      Carries script bus [(own.pos, bytes)] outcome reached ∧
        ∀ value, outcome = .ok value → Addressed own.pos bytes ∧
          own' = { own with pos := own.pos + bytes.length } := by
  subst delivers
  by_cases idle : bus.Idle
  · refine (copy_effect bounded rounds reader idle own).imp fun outcome own' reached copied => ?_
    exact ⟨.of_wrote copied.1.wrote, fun value ok => ⟨copied.1.addressed value ok, copied.2 value ok⟩⟩
  · refine (copy_busy ready idle rounds reader own).imp fun outcome own' reached copied => ?_
    rcases copied with ⟨empty, rfl, rfl⟩ | ⟨⟨error, rfl⟩, began⟩
    · rw [empty]
      refine ⟨⟨.stops _ _, fun _ _ => ⟨(splice_nil _ _).symm, ready⟩⟩, fun _ _ => ⟨.inl rfl, rfl⟩⟩
    · exact ⟨.of_began began, fun _ fails => by cases fails⟩

end Copies

/-! ### Sparse images -/

/-- A piece is carried out, and the cursor is where it leads. -/
structure PieceCarried (script : Script) (own : RkBlockDevice) (before : Bus) (piece : Piece)
    (outcome : Except WriteSparseImageError Unit) (own' : RkBlockDevice) (reached : Bus) : Prop where
  carries : Carries script before (piece.writes own.pos) outcome reached
  leads : ∀ value, outcome = .ok value → ∃ next,
    piece.advance own.diskSizeBytes own.pos = some next ∧ own' = { own with pos := next }

/-- The copy of a chunk. -/
theorem copy_pieceCarried {ρ : Type} {read : ρ → Nat → List UInt8 × ρ} (bounded : Bounded read)
    {rounds : Nat} {reader : ρ} {bytes : List UInt8} (delivers : delivered read rounds reader = bytes)
    (ready : bus.Ready script) (own : RkBlockDevice) :
    Io.After (Bus.answer script) (Io.mapErr WriteSparseImageError.io (copy read rounds reader)) own
      bus (PieceCarried script own bus (.data bytes)) := by
  refine Io.after_mapErr.mpr ((copy_carries bounded rounds reader delivers ready own).imp
    fun outcome own' reached copied => ⟨copied.1.mapError _, fun value ok => ?_⟩)
  obtain ⟨addressed, moved⟩ := copied.2 value (mapError_eq_ok_iff.mp ok)
  exact ⟨_, advance_data addressed, moved⟩

/-- The move of a chunk. -/
theorem PieceCarried.of_skip {own own' : RkBlockDevice} {offset : Int64}
    {outcome : Except WriteSparseImageError Unit} {reached : Bus} (ready : bus.Ready script)
    (done : PieceDone script own bus (.skip offset) outcome own' reached) :
    PieceCarried script own bus (.skip offset) outcome own' reached := by
  cases outcome with
  | error error =>
    obtain ⟨rfl, -⟩ := done
    exact ⟨.refused _ _, fun _ fails => by cases fails⟩
  | ok value =>
    obtain ⟨next, advances, moved, -⟩ := done.ok
    obtain ⟨rfl, -⟩ := done
    exact ⟨.nothing ready _, fun _ _ => ⟨next, advances, moved⟩⟩

theorem writeSparseChunk_carries (ready : bus.Ready script) (own : RkBlockDevice)
    (header : ChunkHeader) (dataSize : Nat) (img : Cursor) :
    Io.After (Bus.answer script) (writeSparseChunk header dataSize img) own bus
      fun outcome own' reached =>
        (∀ error, header.piece dataSize img = .error error →
          outcome = .error error ∧ reached = bus) ∧
        ∀ piece, header.piece dataSize img = .ok piece →
          PieceCarried script own bus piece outcome own' reached := by
  have found : ∀ {piece : Piece} {outcome : Except WriteSparseImageError Unit}
      {own' : RkBlockDevice} {reached : Bus},
      PieceCarried script own bus piece outcome own' reached →
      (∀ error, (Except.ok piece : Except WriteSparseImageError Piece) = .error error →
        outcome = .error error ∧ reached = bus) ∧
      ∀ piece', (Except.ok piece : Except WriteSparseImageError Piece) = .ok piece' →
        PieceCarried script own bus piece' outcome own' reached := by
    intro piece outcome own' reached carried
    exact ⟨fun _ fails => (by cases fails), fun _ same => (by cases same; exact carried)⟩
  unfold writeSparseChunk ChunkHeader.piece
  by_cases raw : header.chunkType = CHUNK_TYPE_RAW
  · simp only [if_pos raw]
    exact (copy_pieceCarried cursor_bounded (delivered_cursor img (Nat.lt_succ_self _)) ready own).imp
      fun _ _ _ carried => found carried
  simp only [if_neg raw]
  by_cases fill : header.chunkType = CHUNK_TYPE_FILL
  · simp only [if_pos fill]
    refine Io.after_ofExcept_bind.mpr ?_
    cases exact : readExact img 4 with
    | error error =>
      exact ⟨fun _ same => (by cases same; exact ⟨rfl, rfl⟩), fun _ fails => by cases fails⟩
    | ok result =>
      obtain ⟨pattern, img'⟩ := result
      have four := (Cursor.readExact_ok exact).2.1
      exact (copy_pieceCarried repeat_bounded (delivered_repeat four (Nat.lt_succ_self _)) ready
        own).imp fun _ _ _ carried => found carried
  simp only [if_neg fill]
  by_cases dontCare : header.chunkType = CHUNK_TYPE_DONT_CARE
  · simp only [if_pos dontCare]
    exact (seek_pieceDone own _).imp fun _ _ _ done => found (.of_skip ready done)
  simp only [if_neg dontCare]
  by_cases crc : header.chunkType = CHUNK_TYPE_CRC32
  · simp only [if_pos crc]
    refine found ⟨⟨.stops _ _, fun _ _ => ⟨(splice_nil _ _).symm, ready⟩⟩, fun _ _ => ?_⟩
    exact ⟨own.pos, advance_data (.inl rfl), rfl⟩
  · simp only [if_neg crc]
    exact ⟨fun _ same => (by cases same; exact ⟨rfl, rfl⟩), fun _ fails => by cases fails⟩

/-- **The walk** over the chunks carries out what their pieces place. -/
theorem writeSparseChunks_carries (blockSize chunkHeaderSize : Nat) {image : List UInt8}
    {img : Cursor} (bytes : img.bytes = image) (chunks pos : Nat) (ready : bus.Ready script)
    (own : RkBlockDevice) :
    Io.After (Bus.answer script) (writeSparseChunks blockSize chunkHeaderSize img chunks pos) own bus
      fun outcome _ reached =>
        Carries script bus (placed own.diskSizeBytes
          (decode blockSize chunkHeaderSize image chunks pos).1 own.pos) outcome reached ∧
        ∀ value, outcome = .ok value →
          (decode blockSize chunkHeaderSize image chunks pos).2 = true ∧
            Completes own.diskSizeBytes (decode blockSize chunkHeaderSize image chunks pos).1
              own.pos := by
  rw [writeSparseChunks_bytes _ _ bytes]
  induction chunks generalizing pos bus own with
  | zero => exact ⟨.nothing ready _, fun _ _ => ⟨rfl, trivial⟩⟩
  | succ chunks ih =>
    unfold decode pieceAt
    refine after_writeSparseChunks (fun error reads => ?_) fun header img reads => ?_
    · rw [reads]
      exact ⟨.refused _ _, fun _ fails => by cases fails⟩
    rw [reads]
    dsimp only
    have chunk := @writeSparseChunk_carries script bus ready own header
      (blockSize * header.chunkSz.toNat) ⟨image, pos + chunkHeaderSize⟩
    cases read : header.piece (blockSize * header.chunkSz.toNat) ⟨image, pos + chunkHeaderSize⟩ with
    | error error =>
      refine chunk.bind (fun error' own' reached moved => ?_) fun _ own' reached moved => ?_
      · obtain ⟨-, rfl⟩ := moved.1 error read
        exact ⟨.refused _ _, fun _ fails => by cases fails⟩
      · cases (moved.1 error read).1
    | ok piece =>
      refine chunk.bind (fun error own' reached moved => ?_) fun value own' reached moved => ?_
      · exact ⟨(moved.2 piece read).carries.stop error _, fun _ fails => by cases fails⟩
      obtain ⟨next, advances, rfl⟩ := (moved.2 piece read).leads value rfl
      have here := (moved.2 piece read).carries
      refine (ih _ (here.whole value rfl).2 _).imp fun outcome own'' last later => ?_
      refine ⟨?_, fun value' ok => ⟨(later.2 value' ok).1, next, advances, (later.2 value' ok).2⟩⟩
      dsimp only
      rw [placed_cons_some advances]
      exact here.next later.1

/-- Fewer chunks have a beginning of the pieces. -/
theorem decode_of_le {blockSize chunkHeaderSize : Nat} {image : List UInt8} {chunks chunks' pos : Nat}
    (fewer : chunks ≤ chunks') :
    (decode blockSize chunkHeaderSize image chunks pos).1 <+:
      (decode blockSize chunkHeaderSize image chunks' pos).1 := by
  induction chunks generalizing chunks' pos with
  | zero => exact ⟨_, rfl⟩
  | succ chunks ih =>
    obtain ⟨rest, rfl⟩ := Nat.exists_eq_succ_of_ne_zero (Nat.ne_zero_of_lt fewer)
    unfold decode
    cases pieceAt blockSize chunkHeaderSize image pos with
    | error error => exact ⟨[], rfl⟩
    | ok found =>
      obtain ⟨later, all⟩ := @ih rest found.2 (Nat.le_of_succ_le_succ fewer)
      exact ⟨later, congrArg (found.1 :: ·) all⟩

/-- A beginning of the pieces places a beginning of the bytes. -/
theorem placed_of_beginning (size cursor : Nat) {pieces pieces' : List Piece}
    (beginning : pieces <+: pieces') :
    ∃ rest, placed size pieces' cursor = placed size pieces cursor ++ rest := by
  obtain ⟨later, rfl⟩ := beginning
  induction pieces generalizing cursor with
  | nil => exact ⟨_, rfl⟩
  | cons piece pieces ih =>
    show ∃ rest, placed size (piece :: (pieces ++ later)) cursor = _
    cases advances : piece.advance size cursor with
    | none =>
      unfold placed
      rw [advances]
      exact ⟨[], (List.append_nil _).symm⟩
    | some next =>
      obtain ⟨rest, all⟩ := ih next
      exact ⟨rest, by rw [placed_cons_some advances, placed_cons_some advances, all,
        List.append_assoc]⟩

/-! ### Entries -/

section Writes

variable (gpt : Gpt) (lb : LogicalBlockSize) (partitions : List NamedPartition) (size : Nat)

/-- What a plain image asks for. -/
def regularWrites (part : Partition) (image : List UInt8) : List (Nat × List UInt8) :=
  match gpt.byteRange part lb with
  | .error _ => []
  | .ok (start, length) => if start < size then [(start, image.take length)] else []

/-- What a sparse image asks for. -/
def sparseWrites (part : Partition) (image : List UInt8) : List (Nat × List UInt8) :=
  match gpt.walk part lb size image with
  | none => []
  | some (start, header) => placed size (header.pieces image).1 start

/-- What an entry asks for. -/
def entryWrites (entry : UpdateEntry) : List (Nat × List UInt8) :=
  match entry.name with
  | none => []
  | some name =>
      if name = "package-file" ∨ name = "parameter" then []
      else
        match findPartition partitions name, entry.reader with
        | some part, .ok image =>
            if name = "super" then sparseWrites gpt lb size part image
            else regularWrites gpt lb size part image
        | _, _ => []

/-- What the entries ask for, up to one that is not found or cannot be written. -/
def entriesWrites : List (Except IoError (Option UpdateEntry)) → List (Nat × List UInt8)
  | .ok (some entry) :: rest =>
      match planEntry gpt lb partitions size entry with
      | .tries (some writes) => writes ++ entriesWrites rest
      | _ => entryWrites gpt lb partitions size entry
  | _ => []

/-- The entry is found, and there is a plan for it. -/
def Planned (found : Except IoError (Option UpdateEntry)) : Prop :=
  ∃ entry writes, found = .ok (some entry) ∧
    planEntry gpt lb partitions size entry = .tries (some writes)

end Writes

section Entry

variable {gpt : Gpt} {lb : LogicalBlockSize} {partitions : List NamedPartition} {part : Partition}
  {image : List UInt8} {own : RkBlockDevice}

theorem writeRegularImage_carries (ready : bus.Ready script) :
    Io.After (Bus.answer script) (writeRegularImage gpt lb part (Cursor.mk image 0)) own bus
      fun outcome _ reached =>
        Carries script bus (regularWrites gpt lb own.diskSizeBytes part image) outcome reached ∧
        ∀ value, outcome = .ok value → regularPlan gpt lb own.diskSizeBytes part image =
          some (regularWrites gpt lb own.diskSizeBytes part image) := by
  unfold writeRegularImage
  refine Gpt.after_byteRange (fun error refused => ?_) fun partSize partStart range => ?_
  · exact ⟨.refused _ _, fun _ fails => by cases fails⟩
  refine after_seekStart (fun offDisk error => ?_) fun onDisk => ?_
  · exact ⟨.refused _ _, fun _ fails => by cases fails⟩
  refine Io.after_mapErr.mpr ((copy_carries cursor_bounded _ _
    (delivered_cursor _ (Nat.lt_succ_self _)) ready _).imp ?_)
  intro outcome own' reached copied
  unfold regularWrites regularPlan
  rw [range]
  dsimp only
  rw [if_pos onDisk]
  refine ⟨copied.1.mapError _, fun value ok => ?_⟩
  exact if_pos ⟨onDisk, (copied.2 value (mapError_eq_ok_iff.mp ok)).1⟩

theorem writeSparseImage_carries (refuses : Nat → Option IoError) (ready : bus.Ready script) :
    Io.After (Bus.answer script)
      (writeSparseImage gpt lb part (EntryReader.mk (Cursor.mk image 0) refuses)) own bus
      fun outcome _ reached =>
        Carries script bus (sparseWrites gpt lb own.diskSizeBytes part image) outcome reached ∧
        ∀ value, outcome = .ok value → sparsePlan gpt lb own.diskSizeBytes part refuses image =
          some (sparseWrites gpt lb own.diskSizeBytes part image) := by
  refine after_writeSparseImage_entry (fun refused error => ?_) fun start header walk => ?_
  · exact ⟨.refused _ _, fun _ fails => by cases fails⟩
  unfold sparseWrites sparsePlan
  rw [walk]
  dsimp only
  have walked (chunks : Nat) := @writeSparseChunks_carries script bus header.blkSz.toNat
    header.chunkHdrSz.toNat image (Cursor.mk image 0) rfl chunks header.fileHdrSz.toNat ready
    { own with pos := start }
  cases found : header.refusal refuses image with
  | none =>
    refine (walked _).imp fun outcome own' reached carried => ?_
    exact ⟨carried.1, fun value ok => if_pos ⟨rfl, carried.2 value ok⟩⟩
  | some refused =>
    -- what the chunks before the refused position place comes first
    have before := (refusal_lt found).le
    have stops : ∀ {ε ε' : Type} {outcome : Except ε Unit} {reached : Bus} (error : ε'),
        Carries script bus (placed own.diskSizeBytes (decode header.blkSz.toNat
          header.chunkHdrSz.toNat image refused.1 header.fileHdrSz.toNat).1 start) outcome reached →
        Carries script bus (placed own.diskSizeBytes (header.pieces image).1 start)
          (.error error : Except ε' Unit) reached := by
      intro ε ε' outcome reached error carried
      obtain ⟨rest, all⟩ := placed_of_beginning own.diskSizeBytes start (decode_of_le before)
      exact ⟨all ▸ carried.torn.append_left rest, fun _ fails => by cases fails⟩
    exact (walked refused.1).bind
      (fun error _ _ carried => ⟨stops error carried.1, fun _ fails => by cases fails⟩)
      fun _ _ _ carried => ⟨stops _ carried.1, fun _ fails => by cases fails⟩

theorem regularWrites_of_plan {size : Nat} {writes : List (Nat × List UInt8)}
    (plan : regularPlan gpt lb size part image = some writes) :
    regularWrites gpt lb size part image = writes := by
  unfold regularPlan at plan
  unfold regularWrites
  cases range : gpt.byteRange part lb with
  | error error =>
    rw [range] at plan
    cases plan
  | ok place =>
    rw [range] at plan
    dsimp only at plan ⊢
    split at plan
    · rename_i fits
      cases plan
      exact if_pos fits.1
    · cases plan

theorem sparseWrites_of_plan {size : Nat} {refuses : Nat → Option IoError}
    {writes : List (Nat × List UInt8)}
    (plan : sparsePlan gpt lb size part refuses image = some writes) :
    sparseWrites gpt lb size part image = writes := by
  unfold sparsePlan at plan
  unfold sparseWrites
  cases walk : gpt.walk part lb size image with
  | none =>
    rw [walk] at plan
    cases plan
  | some found =>
    rw [walk] at plan
    dsimp only at plan ⊢
    split at plan
    · cases plan
      rfl
    · cases plan

/-- The plan of an entry is what it asks for. -/
theorem entryWrites_of_plan {size : Nat} {entry : UpdateEntry} {writes : List (Nat × List UInt8)}
    (plan : planEntry gpt lb partitions size entry = .tries (some writes)) :
    entryWrites gpt lb partitions size entry = writes := by
  unfold planEntry at plan
  unfold entryWrites
  cases named : entry.name with
  | none =>
    rw [named] at plan
    cases plan
  | some name =>
    rw [named] at plan
    dsimp only at plan ⊢
    by_cases skipped : name = "package-file" ∨ name = "parameter"
    · rw [if_pos skipped] at plan ⊢
      cases plan
      rfl
    rw [if_neg skipped] at plan ⊢
    cases found : findPartition partitions name with
    | none =>
      rw [found] at plan
      cases plan
    | some part =>
      rw [found] at plan
      dsimp only at plan
      cases reads : entry.reader with
      | error error =>
        rw [reads] at plan
        cases plan
      | ok image =>
        rw [reads] at plan
        dsimp only at plan ⊢
        by_cases sparse : name = "super"
        · rw [if_pos sparse] at plan ⊢
          exact sparseWrites_of_plan (EntryPlan.tries.inj plan)
        · rw [if_neg sparse] at plan ⊢
          exact regularWrites_of_plan (EntryPlan.tries.inj plan)

/-- **An entry**, whatever its transfer finds on the bus. -/
theorem writeEntry_carries (ready : bus.Ready script) (entry : UpdateEntry) :
    Io.After (Bus.answer script) (writeEntry gpt lb partitions entry) own bus
      fun outcome _ reached =>
        Carries script bus (entryWrites gpt lb partitions own.diskSizeBytes entry) outcome reached ∧
        ∀ value, outcome = .ok value → planEntry gpt lb partitions own.diskSizeBytes entry =
          .tries (some (entryWrites gpt lb partitions own.diskSizeBytes entry)) := by
  unfold writeEntry planEntry entryWrites
  cases entry.name with
  | none => exact ⟨.refused _ _, fun _ fails => by cases fails⟩
  | some name =>
    dsimp only
    by_cases skipped : name = "package-file" ∨ name = "parameter"
    · rw [if_pos skipped, if_pos skipped, if_pos skipped]
      exact ⟨.nothing ready _, fun _ _ => rfl⟩
    rw [if_neg skipped, if_neg skipped, if_neg skipped]
    cases findPartition partitions name with
    | none => exact ⟨.refused _ _, fun _ fails => by cases fails⟩
    | some part =>
      dsimp only
      refine Io.after_ofExcept_bind.mpr ?_
      cases entry.reader with
      | error error => exact ⟨.refused _ _, fun _ fails => by cases fails⟩
      | ok image =>
        dsimp only [Except.mapError]
        by_cases sparse : name = "super"
        · rw [if_pos sparse, if_pos sparse, if_pos sparse]
          refine Io.after_mapErr.mpr ((writeSparseImage_carries _ ready).imp ?_)
          intro outcome _ reached carries
          refine ⟨carries.1.mapError _, fun value ok => congrArg EntryPlan.tries ?_⟩
          exact carries.2 value (mapError_eq_ok_iff.mp ok)
        · rw [if_neg sparse, if_neg sparse, if_neg sparse, writeRegularImage_entry]
          refine (writeRegularImage_carries ready).imp fun outcome _ reached carries => ?_
          exact ⟨carries.1, fun value ok => congrArg EntryPlan.tries (carries.2 value ok)⟩

theorem writeSparseImage_keeps {ρ : Type} [ReadSeek ρ] (img : ρ) :
    Io.Keeps (Bus.answer script) params (writeSparseImage gpt lb part img) := by
  unfold writeSparseImage
  refine .bind (.ofExcept _) fun _ => .ite (.throw _) (.ite (.throw _) ?_)
  refine .bind (.ofExcept _) fun _ => .bind (.ofExcept _) fun _ => .ite (.throw _) ?_
  exact .bind ((RkBlockDevice.seek_keeps (fun _ _ => rfl) _).mapErr _) fun _ =>
    writeSparseChunks_keeps _ _ _ _ _

theorem writeEntry_keeps (entry : UpdateEntry) :
    Io.Keeps (Bus.answer script) params (writeEntry gpt lb partitions entry) := by
  unfold writeEntry
  split
  · exact .throw _
  · refine .ite (.pure _) ?_
    split
    · exact .throw _
    · exact .bind (.ofExcept _) fun _ => .ite ((writeSparseImage_keeps _).mapErr _)
        (writeRegularImage_keeps _ _ _ _)

/-- **The entries**, whatever their transfers find on the bus: a beginning of what they ask for is
written; on `Ok` all of it, and all of them by their plans. -/
theorem writeEntries_carries (ready : bus.Ready script)
    (entries : List (Except IoError (Option UpdateEntry))) :
    Io.After (Bus.answer script) (writeEntries gpt lb partitions entries) own bus
      fun outcome _ reached =>
        Carries script bus (entriesWrites gpt lb partitions own.diskSizeBytes entries) outcome
          reached ∧
        ∀ value, outcome = .ok value →
          ∀ found ∈ entries, Planned gpt lb partitions own.diskSizeBytes found := by
  induction entries generalizing own bus with
  | nil => exact ⟨.nothing ready _, fun _ _ _ none => by cases none⟩
  | cons found rest ih =>
    refine Io.after_ofExcept_bind.mpr ?_
    cases found with
    | error error => exact ⟨.refused _ _, fun _ fails => by cases fails⟩
    | ok found =>
      cases found with
      | none => exact ⟨.refused _ _, fun _ fails => by cases fails⟩
      | some entry =>
        unfold entriesWrites
        refine Io.after_bind.mpr (Io.after_mapErr.mpr (((writeEntry_carries ready entry).and
          (writeEntry_keeps entry own bus)).imp ?_))
        intro outcome own' reached both
        obtain ⟨⟨carries, planned⟩, kept⟩ := both
        have size : own'.diskSizeBytes = own.diskSizeBytes := (Prod.mk.inj kept).1
        cases outcome with
        | error error =>
          refine ⟨?_, fun _ fails => by cases fails⟩
          cases plan : planEntry gpt lb partitions own.diskSizeBytes entry with
          | missing => exact carries.mapError _
          | tries plan' =>
            cases plan' with
            | none => exact carries.mapError _
            | some writes =>
              rw [entryWrites_of_plan plan] at carries
              exact carries.stop _ _
        | ok value =>
          have plan := planned value rfl
          rw [plan]
          refine (ih (carries.whole value rfl).2).imp fun outcome own'' last later => ?_
          rw [size] at later
          refine ⟨carries.next later.1, fun value' ok found member => ?_⟩
          obtain rfl | member := List.mem_cons.mp member
          · exact ⟨entry, _, rfl, plan⟩
          · exact later.2 value' ok found member

/-- What an update image asks for. -/
def updateWrites (gpt : Gpt) (lb : LogicalBlockSize) (partitions : List NamedPartition) (size : Nat)
    (fw : UpdateImage) : List (Nat × List UInt8) :=
  match fw.len with
  | .error _ => []
  | .ok len => entriesWrites gpt lb partitions size ((List.range len).map fw.byIndex)

/-- **The loop** carries out what the update image asks for. -/
theorem writePartitions_carries (ready : bus.Ready script) (fw : UpdateImage) :
    Io.After (Bus.answer script) (writePartitions gpt lb partitions fw) own bus
      fun outcome _ reached =>
        Carries script bus (updateWrites gpt lb partitions own.diskSizeBytes fw) outcome reached ∧
        ∀ value, outcome = .ok value → ∃ len, fw.len = .ok len ∧ ∀ index < len,
          Planned gpt lb partitions own.diskSizeBytes (fw.byIndex index) := by
  refine Io.after_ofExcept_bind.mpr ?_
  unfold updateWrites
  cases fw.len with
  | error error => exact ⟨.refused _ _, fun _ fails => by cases fails⟩
  | ok len =>
    refine (writeEntries_carries ready _).imp fun outcome _ reached carries => ?_
    refine ⟨carries.1, fun value ok => ⟨len, rfl, fun index below => carries.2 value ok _ ?_⟩⟩
    exact List.mem_map_of_mem (List.mem_range.mpr below)

end Entry

/-! ### The commands of the loop -/

section Runs

theorem writeAll_runs (rounds : Nat) (buf : List UInt8) : Runs (writeAll rounds buf) := by
  induction rounds generalizing buf with
  | zero => exact .pure _
  | succ rounds ih =>
    unfold writeAll
    by_cases empty : buf = []
    · rw [if_pos empty]
      exact .pure _
    rw [if_neg empty]
    refine (RkBlockDevice.write_runs buf).bind fun n => ?_
    by_cases none : n = 0
    · rw [if_pos none]
      exact .throw _
    · rw [if_neg none]
      exact ih _

theorem copy_runs {ρ : Type} (read : ρ → Nat → List UInt8 × ρ) (rounds : Nat) (reader : ρ) :
    Runs (copy read rounds reader) := by
  induction rounds generalizing reader with
  | zero => exact .pure _
  | succ rounds ih =>
    unfold copy
    by_cases empty : (read reader DEFAULT_BUF_SIZE).1 = []
    · simp only [if_pos empty]
      exact .pure _
    · simp only [if_neg empty]
      exact (writeAll_runs _ _).bind fun _ => ih _

variable {ρ : Type} [ReadSeek ρ]

theorem writeSparseChunk_runs (header : ChunkHeader) (dataSize : Nat) (img : ρ) :
    Runs (writeSparseChunk header dataSize img) := by
  unfold writeSparseChunk
  by_cases raw : header.chunkType = CHUNK_TYPE_RAW
  · rw [if_pos raw]
    exact (copy_runs _ _ _).mapErr
  rw [if_neg raw]
  by_cases fill : header.chunkType = CHUNK_TYPE_FILL
  · rw [if_pos fill]
    exact (Runs.ofExcept _).bind fun _ => (copy_runs _ _ _).mapErr
  rw [if_neg fill]
  by_cases dontCare : header.chunkType = CHUNK_TYPE_DONT_CARE
  · rw [if_pos dontCare]
    exact (RkBlockDevice.seek_runs _).mapErr.bind fun _ => .pure _
  rw [if_neg dontCare]
  by_cases crc : header.chunkType = CHUNK_TYPE_CRC32
  · rw [if_pos crc]
    exact .pure _
  · rw [if_neg crc]
    exact .throw _

theorem writeSparseChunks_runs (blockSize chunkHeaderSize : Nat) (img : ρ) (chunks pos : Nat) :
    Runs (writeSparseChunks blockSize chunkHeaderSize img chunks pos) := by
  induction chunks generalizing img pos with
  | zero => exact .pure _
  | succ chunks ih =>
    exact (Runs.ofExcept _).bind fun _ => (Runs.ofExcept _).bind fun _ =>
      (Runs.ofExcept _).bind fun _ => (writeSparseChunk_runs _ _ _).bind fun _ => ih _ _

variable (gpt : Gpt) (lb : LogicalBlockSize) (partitions : List NamedPartition)

theorem writeSparseImage_runs (part : Partition) (img : ρ) :
    Runs (writeSparseImage gpt lb part img) := by
  unfold writeSparseImage
  refine (Runs.ofExcept _).bind fun result => ?_
  obtain ⟨header, img⟩ := result
  by_cases magic : header.magic = SPARSE_HEADER_MAGIC
  swap
  · simp only [if_pos magic]
    exact .throw _
  simp only [if_neg (not_not.mpr magic)]
  by_cases version : 1 < header.majorVersion ∨ 0 < header.minorVersion
  · simp only [if_pos version]
    exact .throw _
  simp only [if_neg version]
  refine (Runs.ofExcept _).bind fun partSize => (Runs.ofExcept _).bind fun partStart => ?_
  split
  · exact .throw _
  exact (RkBlockDevice.seek_runs _).mapErr.bind fun _ => writeSparseChunks_runs _ _ _ _ _

theorem writeRegularImage_runs (part : Partition) (img : ρ) :
    Runs (writeRegularImage gpt lb part img) :=
  (Runs.ofExcept _).bind fun _ => (Runs.ofExcept _).bind fun _ =>
    (RkBlockDevice.seek_runs _).mapErr.bind fun _ => (copy_runs _ _ _).mapErr

theorem writeEntry_runs (entry : UpdateEntry) : Runs (writeEntry gpt lb partitions entry) := by
  unfold writeEntry
  split
  · exact .throw _
  split
  · exact .pure _
  split
  · exact .throw _
  refine (Runs.ofExcept _).bind fun img => ?_
  split
  · exact (writeSparseImage_runs gpt lb _ _).mapErr
  · exact writeRegularImage_runs gpt lb _ _

theorem writePartitions_runs (fw : UpdateImage) :
    Runs (writePartitions gpt lb partitions fw) := by
  refine (Runs.ofExcept _).bind fun len => ?_
  induction (List.range len).map fw.byIndex with
  | nil => exact .pure _
  | cons found rest ih =>
    refine (Runs.ofExcept _).bind fun entry => ?_
    cases entry with
    | none => exact .throw _
    | some entry => exact (writeEntry_runs gpt lb partitions entry).mapErr.bind fun _ => ih

end Runs

/-! ### Where the writes are -/

section Where

variable {gpt : Gpt} {lb : LogicalBlockSize} {partitions : List NamedPartition} {size : Nat}

/-- The place is one of the partition. -/
def Partition.Contains (part : Partition) (lb : LogicalBlockSize) (place : Nat) : Prop :=
  part.start lb ≤ place ∧ place < part.start lb + part.length lb

/-- A sparse image among the entries fits its partition. -/
def SparseFits (lb : LogicalBlockSize) (partitions : List NamedPartition) (size : Nat)
    (entry : UpdateEntry) : Prop :=
  ∀ part image, entry.name = some "super" → findPartition partitions "super" = some part →
    entry.reader = .ok image → ImageFits size lb part image

theorem Gpt.Lawful.byteRange_ok (lawful : gpt.Lawful) {part : Partition} {start length : Nat}
    (ordered : part.firstLba ≤ part.lastLba) (range : gpt.byteRange part lb = .ok (start, length)) :
    start = part.start lb ∧ length = part.length lb := by
  unfold Gpt.byteRange at range
  cases measured : gpt.bytesLen part lb with
  | error error =>
    rw [measured] at range
    cases range
  | ok bytes =>
    cases begins : gpt.bytesStart part lb with
    | error error =>
      rw [measured, begins] at range
      cases range
    | ok first =>
      rw [measured, begins] at range
      cases range
      exact ⟨lawful.start_ok _ _ _ begins, lawful.length_ok _ _ _ ordered measured⟩

theorem regularWrites_within (lawful : gpt.Lawful) {part : Partition} {image : List UInt8}
    (ordered : part.firstLba ≤ part.lastLba) {write : Nat × List UInt8}
    (member : write ∈ regularWrites gpt lb size part image) {place : Nat}
    (covers : Covers write place) : part.Contains lb place := by
  unfold regularWrites at member
  cases range : gpt.byteRange part lb with
  | error error =>
    rw [range] at member
    cases member
  | ok found =>
    obtain ⟨start, length⟩ := found
    rw [range] at member
    dsimp only at member
    split at member
    · obtain rfl := List.mem_singleton.mp member
      obtain ⟨rfl, rfl⟩ := lawful.byteRange_ok ordered range
      refine ⟨covers.1, covers.2.trans_le (Nat.add_le_add_left ?_ _)⟩
      exact List.length_take_le _ _
    · cases member

theorem sparseWrites_within (lawful : gpt.Lawful) {part : Partition} {image : List UInt8}
    (ordered : part.firstLba ≤ part.lastLba) (fits : ImageFits size lb part image)
    {write : Nat × List UInt8} (member : write ∈ sparseWrites gpt lb size part image) {place : Nat}
    (onDisk : place < size) (covers : Covers write place) : part.Contains lb place := by
  unfold sparseWrites at member
  cases walk : gpt.walk part lb size image with
  | none =>
    rw [walk] at member
    cases member
  | some found =>
    obtain ⟨start, header⟩ := found
    rw [walk] at member
    cases range : gpt.byteRange part lb with
    | error error =>
      rw [Gpt.walk_of_error range] at walk
      cases walk
    | ok found =>
      obtain ⟨start', length⟩ := found
      obtain ⟨rfl, rfl⟩ := lawful.byteRange_ok ordered range
      rw [Gpt.walk_of_ok range] at walk
      split at walk
      · obtain ⟨header', accepted, same⟩ := Option.map_eq_some_iff.mp walk
        cases same
        exact piecesFit_iff.mp (fits header accepted) write member place onDisk covers
      · cases walk

theorem findPartition_mem {name : String} {part : Partition}
    (found : findPartition partitions name = some part) :
    ∃ partition ∈ partitions, partition.name = name ∧ partition.part = part := by
  obtain ⟨partition, first, rfl⟩ := Option.map_eq_some_iff.mp found
  have named := List.find?_some first
  exact ⟨partition, List.mem_of_find?_eq_some first, of_decide_eq_true named, rfl⟩

/-- **An entry asks for no byte of the disk outside of the partition that it names.** -/
theorem entryWrites_within (lawful : gpt.Lawful)
    (ordered : ∀ partition ∈ partitions, partition.part.firstLba ≤ partition.part.lastLba)
    {entry : UpdateEntry} (fits : SparseFits lb partitions size entry) {write : Nat × List UInt8}
    (member : write ∈ entryWrites gpt lb partitions size entry) {place : Nat} (onDisk : place < size)
    (covers : Covers write place) :
    ∃ partition ∈ partitions, entry.name = some partition.name ∧
      partition.part.Contains lb place := by
  unfold entryWrites at member
  cases named : entry.name with
  | none =>
    rw [named] at member
    cases member
  | some name =>
    rw [named] at member
    dsimp only at member
    split at member
    · cases member
    cases found : findPartition partitions name with
    | none =>
      rw [found] at member
      cases member
    | some part =>
      cases reads : entry.reader with
      | error error =>
        rw [found, reads] at member
        cases member
      | ok image =>
        rw [found, reads] at member
        dsimp only at member
        obtain ⟨partition, among, rfl, rfl⟩ := findPartition_mem found
        refine ⟨partition, among, rfl, ?_⟩
        by_cases sparse : partition.name = "super"
        · rw [if_pos sparse] at member
          rw [sparse] at found named
          exact sparseWrites_within lawful (ordered _ among) (fits _ _ named found reads) member
            onDisk covers
        · rw [if_neg sparse] at member
          exact regularWrites_within lawful (ordered _ among) member covers

/-- What all entries ask for is what one of them asks for. -/
theorem entriesWrites_mem {entries : List (Except IoError (Option UpdateEntry))}
    {write : Nat × List UInt8} (member : write ∈ entriesWrites gpt lb partitions size entries) :
    ∃ entry, .ok (some entry) ∈ entries ∧ write ∈ entryWrites gpt lb partitions size entry := by
  induction entries with
  | nil => cases member
  | cons found rest ih =>
    match found, member with
    | .ok (some entry), member =>
      unfold entriesWrites at member
      cases plan : planEntry gpt lb partitions size entry with
      | missing =>
        rw [plan] at member
        exact ⟨entry, List.mem_cons_self, member⟩
      | tries plan' =>
        rw [plan] at member
        cases plan' with
        | none => exact ⟨entry, List.mem_cons_self, member⟩
        | some writes =>
          obtain here | later := List.mem_append.mp member
          · exact ⟨entry, List.mem_cons_self, (entryWrites_of_plan plan).symm ▸ here⟩
          · obtain ⟨entry', among, asked⟩ := ih later
            exact ⟨entry', List.mem_cons_of_mem _ among, asked⟩

theorem updateWrites_mem {fw : UpdateImage} {write : Nat × List UInt8}
    (member : write ∈ updateWrites gpt lb partitions size fw) :
    ∃ index entry, fw.byIndex index = .ok (some entry) ∧
      write ∈ entryWrites gpt lb partitions size entry := by
  unfold updateWrites at member
  cases counted : fw.len with
  | error error =>
    rw [counted] at member
    cases member
  | ok len =>
    rw [counted] at member
    obtain ⟨entry, among, asked⟩ := entriesWrites_mem member
    obtain ⟨index, -, found⟩ := List.mem_map.mp among
    exact ⟨index, entry, found, asked⟩

end Where

end Rkusb
