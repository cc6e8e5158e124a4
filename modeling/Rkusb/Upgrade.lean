/-
**The write loop of an upgrade** (`exec` of `bin/rktools/subcommands/upgrade.rs`).

The loop looks up the partition of an entry when it is about to write it, so that an entry without a
partition ends the upgrade behind the entries that are already written.

* `writeEntry_effect`, `writeEntries_effect`: what an entry and a list of entries do to the storage,
  by a plan that is read off the image (`planEntry`, `planned`).
* `upgrade_writes_nothing_iff`: an upgrade that returns `PartitionNotFound` has left the storage alone
  if and only if the entries before the missing name have no bytes for their partitions, or one of
  them cannot be written.

The update image (its number of entries, the entry at an index, and the positions that the reader of
an entry refuses) and the partition table are parameters.
-/

import Rkusb.EntryReader
import Rkusb.Image
import Rkusb.SparseComplete

namespace Rkusb

open Interaction Bytes FlatStore
open RkBlockDevice (Puts Addressed addressLimit)

variable {script : Script} {bus : Bus}

/-! ### The loop -/

/-- An entry of the update image: its name, if it has a valid one, the bytes behind its reader, and
the positions that its reader refuses. -/
structure UpdateEntry where
  name : Option String
  reader : Except IoError (List UInt8)
  refuses : Nat → Option IoError

/-- The update image (`rkafp::rkaf::Image`). -/
structure UpdateImage where
  len : Except IoError Nat
  byIndex : Nat → Except IoError (Option UpdateEntry)

/-- A partition of the table, with its name. -/
structure NamedPartition where
  name : String
  part : Partition

section Loop

variable (gpt : Gpt) (lb : LogicalBlockSize) (partitions : List NamedPartition)

/-- `partitions.iter().find(|(_, p)| p.name == x)`. -/
def findPartition (name : String) : Option Partition :=
  (partitions.find? fun partition => partition.name = name).map (·.part)

/-- One entry. The two names that are skipped are those of descriptions. -/
def writeEntry (entry : UpdateEntry) : UsbIo RkBlockDevice UpgradeError Unit :=
  match entry.name with
  | none => .throw .invalidPartitionName
  | some name =>
      if name = "package-file" ∨ name = "parameter" then pure ()
      else
        match findPartition partitions name with
        | none => .throw .partitionNotFound
        | some part => do
            let image ← .ofExcept (entry.reader.mapError .io)
            let img := EntryReader.mk (Cursor.mk image 0) entry.refuses
            if name = "super" then
              Io.mapErr .writeSparseImageError (writeSparseImage gpt lb part img)
            else writeRegularImage gpt lb part img

/-- The entries, as they are found. That an entry is missing is a panic. -/
def writeEntries : List (Except IoError (Option UpdateEntry)) →
    UsbIo RkBlockDevice (Halt UpgradeError) Unit
  | [] => pure ()
  | found :: rest => do
      let entry ← .ofExcept (found.mapError fun error => .error (.io error))
      match entry with
      | none => .throw (.panic .unwrapNone)
      | some entry => do
          Io.mapErr .error (writeEntry gpt lb partitions entry)
          writeEntries rest

/-- The loop `for i in 0..fw.len()?`. -/
def writePartitions (fw : UpdateImage) : UsbIo RkBlockDevice (Halt UpgradeError) Unit := do
  let len ← .ofExcept (fw.len.mapError fun error => .error (.io error))
  writeEntries gpt lb partitions ((List.range len).map fw.byIndex)

end Loop

/-! ### Plans -/

/-- Writes to the storage, if a transfer of them can succeed. -/
abbrev Plan : Type := Option (List (Nat × List UInt8))

instance (pos : Nat) (chunk : List UInt8) : Decidable (Addressed pos chunk) :=
  inferInstanceAs (Decidable (chunk = [] ∨ pos + chunk.length ≤ addressLimit))

instance decidableCompletes (size : Nat) :
    (pieces : List Piece) → (cursor : Nat) → Decidable (Completes size pieces cursor)
  | [], _ => .isTrue trivial
  | piece :: rest, cursor =>
      match advances : piece.advance size cursor with
      | none => .isFalse fun ⟨_, leads, _⟩ => by cases advances.symm.trans leads
      | some next =>
          have := decidableCompletes size rest next
          decidable_of_iff (Completes size rest next)
            ⟨fun completes => ⟨next, advances, completes⟩, fun ⟨_, leads, completes⟩ => by
              cases advances.symm.trans leads
              exact completes⟩

section Plans

variable (gpt : Gpt) (lb : LogicalBlockSize) (partitions : List NamedPartition) (size : Nat)

/-- A plain image: as much of it as the partition has room for. -/
def regularPlan (part : Partition) (image : List UInt8) : Plan :=
  match gpt.byteRange part lb with
  | .error _ => none
  | .ok (start, length) =>
      if start < size ∧ Addressed start (image.take length) then some [(start, image.take length)]
      else none

/-- A sparse image: what its pieces put, if the reader refuses none of their positions, all of them can
be read and none leads astray. -/
def sparsePlan (part : Partition) (refuses : Nat → Option IoError) (image : List UInt8) : Plan :=
  match gpt.walk part lb size image with
  | none => none
  | some (start, header) =>
      if header.refusal refuses image = none ∧ (header.pieces image).2 = true ∧
          Completes size (header.pieces image).1 start then
        some (placed size (header.pieces image).1 start)
      else none

/-- What the loop makes of an entry: its partition is missing, or there is a plan. -/
inductive EntryPlan
  | missing
  | tries (plan : Plan)

def planEntry (entry : UpdateEntry) : EntryPlan :=
  match entry.name with
  | none => .tries none
  | some name =>
      if name = "package-file" ∨ name = "parameter" then .tries (some [])
      else
        match findPartition partitions name with
        | none => .missing
        | some part =>
            match entry.reader with
            | .error _ => .tries none
            | .ok image =>
                .tries (if name = "super" then sparsePlan gpt lb size part entry.refuses image
                  else regularPlan gpt lb size part image)

/-- What is put on the storage before an entry whose partition is missing, if one is reached: the
writes of all entries before it. -/
def planned : List (Except IoError (Option UpdateEntry)) → Plan
  | .ok (some entry) :: rest =>
      match planEntry gpt lb partitions size entry with
      | .missing => some []
      | .tries plan => plan.bind fun writes => (planned rest).map (writes ++ ·)
  | _ => none

end Plans

/-! ### One entry -/

/-- What a transfer does by its plan. -/
structure Follows {ε : Type} (script : Script) (own : RkBlockDevice) (before : Bus) (plan : Plan)
    (outcome : Except ε Unit) (own' : RkBlockDevice) (reached : Bus) : Prop where
  fails : plan = none → outcome ≠ .ok ()
  puts : ∀ writes, plan = some writes → outcome = .ok () →
    reached.target.disk = spliceAll before.target.disk writes ∧ reached.Idle
  keeps : own'.diskSizeBytes = own.diskSizeBytes ∧ own'.timeout = own.timeout
  succeeds : ∀ writes, plan = some writes → script.Serves DEFAULT_BUF_SIZE own.timeout →
    outcome = .ok ()

theorem Follows.mapError {ε ε' : Type} {own own' : RkBlockDevice} {before reached : Bus}
    {plan : Plan} {outcome : Except ε Unit} (translate : ε → ε')
    (follows : Follows script own before plan outcome own' reached) :
    Follows script own before plan (outcome.mapError translate) own' reached where
  fails none ok := follows.fails none (mapError_eq_ok_iff.mp ok)
  puts writes planned ok := follows.puts writes planned (mapError_eq_ok_iff.mp ok)
  keeps := follows.keeps
  succeeds writes planned serves :=
    mapError_eq_ok_iff.mpr (follows.succeeds writes planned serves)

/-- A transfer that cannot succeed. -/
theorem Follows.refused {ε : Type} {own own' : RkBlockDevice} {before reached : Bus}
    {outcome : Except ε Unit} (fails : outcome ≠ .ok ())
    (keeps : own'.diskSizeBytes = own.diskSizeBytes ∧ own'.timeout = own.timeout) :
    Follows script own before none outcome own' reached :=
  ⟨fun _ => fails, fun _ writes => (by cases writes), keeps, fun _ writes => (by cases writes)⟩

/-- The parameters that no transfer changes. -/
def params (own : RkBlockDevice) : Nat × Duration := (own.diskSizeBytes, own.timeout)

theorem writeAll_keeps (rounds : Nat) (buf : List UInt8) :
    Io.Keeps (Bus.answer script) params (writeAll rounds buf) := by
  induction rounds generalizing buf with
  | zero => exact .pure _
  | succ rounds ih =>
    exact .ite (.pure _) (.bind (RkBlockDevice.write_keeps (fun _ _ => rfl) _) fun n =>
      .ite (.throw _) (ih _))

theorem copy_keeps {ρ : Type} (read : ρ → Nat → List UInt8 × ρ) (rounds : Nat) (reader : ρ) :
    Io.Keeps (Bus.answer script) params (copy read rounds reader) := by
  induction rounds generalizing reader with
  | zero => exact .pure _
  | succ rounds ih => exact .ite (.pure _) (.bind (writeAll_keeps _ _) fun _ => ih _)

section Keeps

variable {ρ : Type} [ReadSeek ρ]

theorem writeRegularImage_keeps (gpt : Gpt) (lb : LogicalBlockSize) (part : Partition) (img : ρ) :
    Io.Keeps (Bus.answer script) params (writeRegularImage gpt lb part img) :=
  .bind (.ofExcept _) fun _ => .bind (.ofExcept _) fun _ =>
    .bind ((RkBlockDevice.seek_keeps (fun _ _ => rfl) _).mapErr _) fun _ =>
      (copy_keeps _ _ _).mapErr _

theorem writeSparseChunk_keeps (header : ChunkHeader) (dataSize : Nat) (img : ρ) :
    Io.Keeps (Bus.answer script) params (writeSparseChunk header dataSize img) :=
  .ite ((copy_keeps _ _ _).mapErr _) (.ite
    (.bind (.ofExcept _) fun _ => (copy_keeps _ _ _).mapErr _) (.ite
      (.bind ((RkBlockDevice.seek_keeps (fun _ _ => rfl) _).mapErr _) fun _ => .pure _)
      (.ite (.pure _) (.throw _))))

theorem writeSparseChunks_keeps (blockSize chunkHeaderSize : Nat) (img : ρ) (chunks pos : Nat) :
    Io.Keeps (Bus.answer script) params
      (writeSparseChunks blockSize chunkHeaderSize img chunks pos) := by
  induction chunks generalizing img pos with
  | zero => exact .pure _
  | succ chunks ih =>
    exact .bind (.ofExcept _) fun _ => .bind (.ofExcept _) fun _ => .bind (.ofExcept _) fun _ =>
      .bind (writeSparseChunk_keeps _ _ _) fun _ => ih _ _

end Keeps

/-- What is processed has all the bytes of its pieces put where they belong. -/
theorem Processed.written {blockSize chunkHeaderSize chunks pos : Nat} {image : List UInt8}
    {own last : RkBlockDevice} {bus reached : Bus} {steps : List ChunkStep}
    (processed : Processed script blockSize chunkHeaderSize image chunks pos own bus steps last
      reached) (idle : bus.Idle) :
    reached.Idle ∧ reached.target.disk = spliceAll bus.target.disk
      (placed own.diskSizeBytes (decode blockSize chunkHeaderSize image chunks pos).1 own.pos) := by
  induction processed with
  | done => exact ⟨idle, rfl⟩
  | @step chunks pos header img own own' last bus bus' reached steps reads ran _ ih =>
    obtain ⟨piece, next, read, advances, rfl, disk, idle'⟩ := writeSparseChunk_ok idle ran
    obtain ⟨reachedIdle, later⟩ := ih idle'
    refine ⟨reachedIdle, ?_⟩
    unfold decode
    rw [pieceAt_eq_ok_iff.mpr ⟨header, img, reads, read, rfl⟩, later, disk]
    dsimp only
    rw [placed_cons_some advances, spliceAll_append]

section Entry

variable {gpt : Gpt} {lb : LogicalBlockSize} {partitions : List NamedPartition} {part : Partition}
  {image : List UInt8} {own : RkBlockDevice}

theorem writeRegularImage_follows (idle : bus.Idle) :
    Io.After (Bus.answer script) (writeRegularImage gpt lb part (Cursor.mk image 0)) own bus
      (Follows script own bus (regularPlan gpt lb own.diskSizeBytes part image)) := by
  refine ((writeRegularImage_effect idle).and
    (writeRegularImage_keeps gpt lb part (Cursor.mk image 0) own bus)).imp ?_
  intro outcome own' reached both
  obtain ⟨done, kept⟩ := both
  have keeps := Prod.mk.inj kept
  unfold regularPlan
  cases range : gpt.byteRange part lb with
  | error error =>
    rw [range] at done
    obtain ⟨error', rfl⟩ := done
    exact .refused (fun ok => by cases ok) keeps
  | ok place =>
    obtain ⟨start, length⟩ := place
    rw [range] at done
    unfold RegularDone at done
    dsimp only at done ⊢
    by_cases fits : start < own.diskSizeBytes ∧ Addressed start (image.take length)
    · rw [if_pos fits]
      rw [if_pos fits.1] at done
      refine ⟨fun fails => (by cases fails), fun writes same ok => ?_, keeps,
        fun writes _ serves => ?_⟩
      · cases same
        subst ok
        exact done.wrote.written
      · obtain ⟨⟨⟩, ok⟩ := done.succeeds serves fits.2
        exact ok
    · rw [if_neg fits]
      refine .refused (fun ok => fits ?_) keeps
      subst ok
      by_cases onDisk : start < own.diskSizeBytes
      · rw [if_pos onDisk] at done
        exact ⟨onDisk, done.addressed () rfl⟩
      · rw [if_neg onDisk] at done
        obtain ⟨error, fails⟩ := done
        cases fails

theorem writeSparseImage_follows (refuses : Nat → Option IoError) (idle : bus.Idle) :
    Io.After (Bus.answer script)
      (writeSparseImage gpt lb part (EntryReader.mk (Cursor.mk image 0) refuses)) own bus
      (Follows script own bus (sparsePlan gpt lb own.diskSizeBytes part refuses image)) := by
  refine after_writeSparseImage_entry (fun refused error => ?_) fun start header walk => ?_
  · rw [sparsePlan, refused]
    exact .refused (fun ok => by cases ok) ⟨rfl, rfl⟩
  rw [sparsePlan, walk]
  dsimp only
  have started (chunks : Nat) := @writeSparseChunks_keeps script _ _ header.blkSz.toNat
    header.chunkHdrSz.toNat (Cursor.mk image 0) chunks header.fileHdrSz.toNat
    { own with pos := start } bus
  cases header.refusal refuses image with
  | some refused =>
    -- the walk stops at the refused position, wherever that is
    rw [if_neg fun fits => by cases fits.1]
    exact (started refused.1).bind
      (fun _ _ _ kept => .refused (fun ok => by cases ok) (Prod.mk.inj kept))
      fun _ _ _ kept => .refused (fun ok => by cases ok) (Prod.mk.inj kept)
  | none =>
    refine (((writeSparseChunks_effect _ _ rfl _ _ idle _).and
      (writeSparseChunks_processed _ _ rfl _ _ _)).and (started _)).imp ?_
    intro outcome own' reached all
    obtain ⟨⟨walked, processes⟩, kept⟩ := all
    have keeps : own'.diskSizeBytes = own.diskSizeBytes ∧ own'.timeout = own.timeout :=
      Prod.mk.inj kept
    by_cases fits : (header.pieces image).2 = true ∧
      Completes own.diskSizeBytes (header.pieces image).1 start
    · rw [if_pos ⟨rfl, fits⟩]
      refine ⟨fun fails => (by cases fails), fun writes same ok => ?_, keeps,
        fun writes _ serves => (walked.completes serves fits.2 fits.1).1⟩
      cases same
      obtain ⟨steps, processed⟩ := processes ok
      exact (processed.written idle).symm
    · rw [if_neg fun all => fits all.2]
      refine .refused (fun ok => fits ?_) keeps
      obtain ⟨steps, processed⟩ := processes ok
      obtain ⟨-, -, readable, completes⟩ := processed.sound idle
      exact ⟨readable, completes⟩

/-- Only the search for a partition fails for lack of one. -/
theorem writeImage_avoids {ρ : Type} [ReadSeek ρ] (name : String) (img : ρ) :
    Io.Avoids (Bus.answer script) (· = UpgradeError.partitionNotFound)
      (if name = "super" then
        Io.mapErr .writeSparseImageError (writeSparseImage gpt lb part img)
      else writeRegularImage gpt lb part img) := by
  by_cases sparse : name = "super"
  · rw [if_pos sparse]
    exact .mapErr (fun error same => by cases same) _
  · rw [if_neg sparse]
    have io {α : Type} (result : Except IoError α) : Io.Avoids (Bus.answer script)
        (· = UpgradeError.partitionNotFound) (.ofExcept (result.mapError .io) :
          UsbIo RkBlockDevice UpgradeError α) := by
      refine .ofExcept fun error fails same => ?_
      subst same
      cases result <;> cases fails
    exact .bind (io _) fun _ => .bind (io _) fun _ =>
      .bind (.mapErr (fun error same => by cases same) _) fun _ =>
        .mapErr (fun error same => by cases same) _

/-- What the loop does with an entry. -/
def EntryDone (script : Script) (own : RkBlockDevice) (before : Bus) (plan : EntryPlan)
    (outcome : Except UpgradeError Unit) (own' : RkBlockDevice) (reached : Bus) : Prop :=
  match plan with
  | .missing => outcome = .error .partitionNotFound ∧ reached = before
  | .tries plan => Follows script own before plan outcome own' reached ∧
      outcome ≠ .error .partitionNotFound

/-- An entry that is refused before its first transfer. -/
theorem EntryDone.refused {error : UpgradeError} (other : error ≠ .partitionNotFound) :
    EntryDone script own bus (.tries none) (.error error) own bus :=
  ⟨.refused (fun ok => by cases ok) ⟨rfl, rfl⟩, fun same => other (by cases same; rfl)⟩

/-- **An entry** is missing, or written by its plan. -/
theorem writeEntry_effect (idle : bus.Idle) (entry : UpdateEntry) :
    Io.After (Bus.answer script) (writeEntry gpt lb partitions entry) own bus
      (EntryDone script own bus (planEntry gpt lb partitions own.diskSizeBytes entry)) := by
  unfold writeEntry planEntry
  cases entry.name with
  | none => exact .refused fun same => by cases same
  | some name =>
    dsimp only
    by_cases skipped : name = "package-file" ∨ name = "parameter"
    · rw [if_pos skipped, if_pos skipped]
      refine ⟨⟨fun fails => (by cases fails), fun writes same _ => ?_, ⟨rfl, rfl⟩,
        fun _ _ _ => rfl⟩, fun fails => by cases fails⟩
      cases same
      exact ⟨rfl, idle⟩
    rw [if_neg skipped, if_neg skipped]
    cases findPartition partitions name with
    | none => exact ⟨rfl, rfl⟩
    | some part =>
      dsimp only
      refine Io.after_ofExcept_bind.mpr ?_
      cases entry.reader with
      | error error => exact .refused fun same => by cases same
      | ok image =>
        dsimp only [Except.mapError]
        have avoids := @writeImage_avoids script gpt lb part _ _ name
          (EntryReader.mk (Cursor.mk image 0) entry.refuses) own bus
        by_cases sparse : name = "super"
        · rw [if_pos sparse] at avoids ⊢
          rw [if_pos sparse]
          refine ((Io.after_mapErr.mpr ((writeSparseImage_follows _ idle).imp
            fun _ _ _ follows => follows.mapError _)).and avoids).imp ?_
          exact fun _ _ _ both => ⟨both.1, fun fails => both.2 _ fails rfl⟩
        · rw [if_neg sparse, writeRegularImage_entry] at avoids ⊢
          rw [if_neg sparse]
          refine ((writeRegularImage_follows idle).and avoids).imp ?_
          exact fun _ _ _ both => ⟨both.1, fun fails => both.2 _ fails rfl⟩

/-! ### The entries -/

/-- What the loop does before it returns `PartitionNotFound`, if it does. -/
structure EndsMissing (script : Script) (own : RkBlockDevice) (before : Bus) (plan : Plan)
    (outcome : Except (Halt UpgradeError) Unit) (reached : Bus) : Prop where
  never : plan = none → outcome ≠ .error (.error .partitionNotFound)
  puts : ∀ writes, plan = some writes → outcome = .error (.error .partitionNotFound) →
    reached.target.disk = spliceAll before.target.disk writes
  reaches : ∀ writes, plan = some writes → script.Serves DEFAULT_BUF_SIZE own.timeout →
    outcome = .error (.error .partitionNotFound)

/-- The loop ends otherwise. -/
theorem EndsMissing.otherwise {before reached : Bus} {outcome : Except (Halt UpgradeError) Unit}
    (other : outcome ≠ .error (.error .partitionNotFound)) :
    EndsMissing script own before none outcome reached :=
  ⟨fun _ => other, fun _ fails => (by cases fails), fun _ fails => (by cases fails)⟩

/-- The entry at hand is missing. -/
theorem EndsMissing.here :
    EndsMissing script own bus (some []) (.error (.error .partitionNotFound)) bus :=
  ⟨fun fails => (by cases fails), fun _ same _ => (by cases same; rfl), fun _ _ _ => rfl⟩

/-- A transfer by its plan that ends the loop. -/
theorem Follows.stops {error : UpgradeError} {own' : RkBlockDevice} {reached : Bus}
    {plan rest : Plan}
    (follows : Follows script own bus plan (.error error) own' reached)
    (other : error ≠ .partitionNotFound) :
    EndsMissing script own bus (plan.bind fun writes => rest.map (writes ++ ·))
      (.error (.error error)) reached := by
  have ends : (Except.error (.error error) : Except (Halt UpgradeError) Unit) ≠
      .error (.error .partitionNotFound) := fun same => other (by cases same; rfl)
  cases plan with
  | none => exact .otherwise ends
  | some writes =>
    refine ⟨fun _ => ends, fun _ _ same => (ends same).elim, fun _ _ serves => ?_⟩
    cases follows.succeeds writes rfl serves

/-- An entry that is written, and then the others. -/
theorem EndsMissing.after {own' : RkBlockDevice} {reached last : Bus} {rest : Plan}
    {writes : List (Nat × List UInt8)} {outcome : Except (Halt UpgradeError) Unit}
    (ends : EndsMissing script own' reached rest outcome last)
    (disk : reached.target.disk = spliceAll bus.target.disk writes)
    (timeout : own'.timeout = own.timeout) :
    EndsMissing script own bus (rest.map (writes ++ ·)) outcome last := by
  refine ⟨fun none => ends.never (Option.map_eq_none_iff.mp none), fun all planned missing => ?_,
    fun all planned serves => ?_⟩
  · obtain ⟨later, rfl, rfl⟩ := Option.map_eq_some_iff.mp planned
    rw [ends.puts later rfl missing, disk, spliceAll_append]
  · obtain ⟨later, rfl, rfl⟩ := Option.map_eq_some_iff.mp planned
    exact ends.reaches later rfl (timeout ▸ serves)

/-- **The entries** are written by their plans up to one that is missing. -/
theorem writeEntries_effect (idle : bus.Idle)
    (entries : List (Except IoError (Option UpdateEntry))) :
    Io.After (Bus.answer script) (writeEntries gpt lb partitions entries) own bus
      fun outcome _ reached => EndsMissing script own bus
        (planned gpt lb partitions own.diskSizeBytes entries) outcome reached := by
  induction entries generalizing own bus with
  | nil => exact .otherwise fun fails => by cases fails
  | cons found rest ih =>
    refine Io.after_ofExcept_bind.mpr ?_
    cases found with
    | error error => exact .otherwise fun fails => by cases fails
    | ok found =>
      cases found with
      | none => exact .otherwise fun fails => by cases fails
      | some entry =>
        have done := @writeEntry_effect script bus gpt lb partitions own idle entry
        refine Io.after_bind.mpr (Io.after_mapErr.mpr (done.imp ?_))
        intro outcome own' reached entryDone
        unfold planned
        generalize planEntry gpt lb partitions own.diskSizeBytes entry = plan at entryDone ⊢
        cases plan with
        | missing =>
          obtain ⟨rfl, rfl⟩ := entryDone
          exact .here
        | tries plan =>
          obtain ⟨follows, other⟩ := entryDone
          cases outcome with
          | error error => exact follows.stops fun same => other (by cases same; rfl)
          | ok value =>
            cases plan with
            | none => exact (follows.fails rfl rfl).elim
            | some writes =>
              obtain ⟨disk, reachedIdle⟩ := follows.puts writes rfl rfl
              refine (ih reachedIdle).imp fun outcome own'' last ends => ?_
              rw [follows.keeps.1] at ends
              exact ends.after disk follows.keeps.2

/-- **The loop** writes nothing but the planned writes before it returns `PartitionNotFound`. -/
theorem writePartitions_effect (idle : bus.Idle) (fw : UpdateImage) :
    Io.After (Bus.answer script) (writePartitions gpt lb partitions fw) own bus
      fun outcome _ reached =>
        match fw.len with
        | .error _ => outcome ≠ .error (.error .partitionNotFound)
        | .ok len => EndsMissing script own bus (planned gpt lb partitions own.diskSizeBytes
            ((List.range len).map fw.byIndex)) outcome reached := by
  refine Io.after_ofExcept_bind.mpr ?_
  cases fw.len with
  | error error => exact fun same => by cases same
  | ok len => exact writeEntries_effect idle _

/-- An upgrade that ends for lack of a partition has left the storage as it was. -/
def WritesNothing (gpt : Gpt) (lb : LogicalBlockSize) (partitions : List NamedPartition)
    (fw : UpdateImage) (own : RkBlockDevice) : Prop :=
  ∀ script bus, bus.Idle →
    Io.After (Bus.answer script) (writePartitions gpt lb partitions fw) own bus
      fun outcome _ reached => outcome = .error (.error .partitionNotFound) →
        reached.target.disk = bus.target.disk

/-- **An upgrade without a partition** writes nothing if and only if no entry before the one whose
partition is missing has bytes to write, or the writing of these entries ends with another error. -/
theorem upgrade_writes_nothing_iff {fw : UpdateImage} (timed : own.timeout = DEFAULT_IO_TIMEOUT) :
    WritesNothing gpt lb partitions fw own ↔
      ∀ len, fw.len = .ok len → ∀ writes,
        planned gpt lb partitions own.diskSizeBytes ((List.range len).map fw.byIndex) = some writes →
          ∀ write ∈ writes, write.2 = [] := by
  constructor
  · intro nothing len counted writes plan
    have : Nontrivial UInt8 := ⟨0, 1, by decide⟩
    refine spliceAll_eq_self_iff.mp fun disk => ?_
    have effect := @writePartitions_effect Script.undisturbed (Bus.fresh disk) gpt lb partitions own
      (Bus.fresh_idle disk) fw
    unfold Io.After at effect
    rw [counted] at effect
    dsimp only at effect
    rw [plan] at effect
    have reaches := effect.reaches writes rfl
      (Script.undisturbed_still.serves (timed ▸ by decide) _)
    exact (effect.puts writes rfl reaches).symm.trans (nothing _ _ (Bus.fresh_idle disk) reaches)
  · intro empty script bus idle
    refine (writePartitions_effect idle fw).imp fun outcome _ reached effect missing => ?_
    cases counted : fw.len with
    | error error =>
      rw [counted] at effect
      exact (effect missing).elim
    | ok len =>
      rw [counted] at effect
      dsimp only at effect
      cases plan : planned gpt lb partitions own.diskSizeBytes ((List.range len).map fw.byIndex) with
      | none => exact (effect.never plan missing).elim
      | some writes =>
        rw [effect.puts writes plan missing]
        exact spliceAll_of_empty _ (empty len counted writes plan)

end Entry

/-- An update image with these entries, whose readers refuse what is behind their ends. -/
def updateOf (entries : List (String × List UInt8)) : UpdateImage where
  len := .ok entries.length
  byIndex index := .ok (entries[index]?.map fun (name, image) =>
    ⟨some name, .ok image, EntryReader.behind image.length⟩)

def twoNames (first second : String) : UpdateImage :=
  updateOf [(first, [7]), (second, [7])]

/-- A sparse image of one empty chunk, whose data are behind the end of the image. -/
def emptyBehind : List UInt8 :=
  [0x3a, 0xff, 0x26, 0xed, 1, 0, 0, 0, 28, 0, 100, 0, 4, 0, 0, 0, 0, 0, 0, 0, 1, 0, 0, 0, 0, 0, 0, 0] ++
    [0xc1, 0xca, 0, 0, 0, 0, 0, 0, 12, 0, 0, 0]

/-- The name that is missing is the first or the second; or it is the third, behind an entry whose
reader refuses a position. -/
theorem upgrade_writes_nothing_iff_twoNames :
    WritesNothing .checked .lb512 [⟨"boot", 1, 1⟩] (twoNames "trust" "boot")
        (.new 2048 0 DEFAULT_IO_TIMEOUT) ∧
      ¬WritesNothing .checked .lb512 [⟨"boot", 1, 1⟩] (twoNames "boot" "trust")
        (.new 2048 0 DEFAULT_IO_TIMEOUT) ∧
      WritesNothing .checked .lb512 [⟨"boot", 1, 1⟩, ⟨"super", 2, 2⟩]
        (updateOf [("boot", [7]), ("super", emptyBehind), ("trust", [7])])
        (.new 2048 0 DEFAULT_IO_TIMEOUT) := by
  refine ⟨(upgrade_writes_nothing_iff rfl).mpr fun len counted writes plan => ?_, fun nothing => ?_,
    (upgrade_writes_nothing_iff rfl).mpr fun len counted writes plan => ?_⟩
  · cases counted
    cases plan
    decide
  · have empty := (upgrade_writes_nothing_iff rfl).mp nothing 2 rfl [(512, [7])] (by decide +kernel)
    cases empty (512, [7]) List.mem_cons_self
  · cases counted
    have none : planned .checked .lb512 [⟨"boot", 1, 1⟩, ⟨"super", 2, 2⟩] 2048
        ((List.range 3).map
          (updateOf [("boot", [7]), ("super", emptyBehind), ("trust", [7])]).byIndex) = none := by
      decide +kernel
    cases none.symm.trans plan

/-- **An upgrade stops halfway.** The second entry has no partition: the command returns
`PartitionNotFound` with the first one written. -/
theorem upgrade_stops_halfway :
    ¬WritesNothing .checked .lb512 [⟨"boot", 1, 1⟩] (twoNames "boot" "trust")
        (.new 2048 0 DEFAULT_IO_TIMEOUT) ∧
      let run := (writePartitions .checked .lb512 [⟨"boot", 1, 1⟩] (twoNames "boot" "trust")).run
        (Bus.answer Script.undisturbed) (.new 2048 0 DEFAULT_IO_TIMEOUT) (Bus.fresh fun _ => 0)
      run.1.1 = .error (.error .partitionNotFound) ∧ run.2.target.disk 512 = 7 := by
  have missing : ((writePartitions .checked .lb512 [⟨"boot", 1, 1⟩] (twoNames "boot" "trust")).run
      (Bus.answer Script.undisturbed) (.new 2048 0 DEFAULT_IO_TIMEOUT)
      (Bus.fresh fun _ => 0)).1.1 = .error (.error .partitionNotFound) := by decide +kernel
  have written : ((writePartitions .checked .lb512 [⟨"boot", 1, 1⟩] (twoNames "boot" "trust")).run
      (Bus.answer Script.undisturbed) (.new 2048 0 DEFAULT_IO_TIMEOUT)
      (Bus.fresh fun _ => 0)).2.target.disk 512 = 7 := by decide +kernel
  refine ⟨fun nothing => ?_, missing, written⟩
  have same := congrFun (nothing _ _ (Bus.fresh_idle fun _ => 0) missing) 512
  exact absurd (written.symm.trans same) (by decide)

end Rkusb
