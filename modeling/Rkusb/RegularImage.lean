/-
**Plain images onto a partition** (`bin/rktools/subcommands/upgrade.rs`).

`write_regular_image` copies no more of an image than the partition has room for, and does not look
whether the image ends there.

* `regular_image_whole_iff`: what it writes before an `Ok` is the whole image if and only if the image
  is not longer than the partition, or the copy cannot succeed.
* `execPartitionWrite_tooLarge`, `writeSparseImage_tooLarge`: the two other commands that fill a
  partition refuse an image that is longer, before their first transfer.
-/

import Rkusb.SparseImage

namespace Rkusb

open Interaction Bytes FlatStore
open RkBlockDevice (Puts Addressed addressLimit)

variable {script : Script} {bus : Bus} {gpt : Gpt} {lb : LogicalBlockSize} {part : Partition}
  {image : List UInt8} {own : RkBlockDevice}

/-- `UpgradeError`, as far as the write loop makes use of it. -/
inductive UpgradeError
  | io (error : IoError)
  | partitionNotFound
  | invalidPartitionName
  | writeSparseImageError (error : WriteSparseImageError)
  deriving DecidableEq

def writeRegularImage {ρ : Type} [ReadSeek ρ] (gpt : Gpt) (lb : LogicalBlockSize)
    (part : Partition) (img : ρ) : UsbIo RkBlockDevice UpgradeError Unit := do
  let partSize ← .ofExcept ((gpt.bytesLen part lb).mapError .io)
  let partStart ← .ofExcept ((gpt.bytesStart part lb).mapError .io)
  let _ ← Io.mapErr .io (RkBlockDevice.seek (.start partStart))
  Io.mapErr .io (copy (Take.read ReadSeek.read) (partSize.toNat + 1) ⟨img, partSize.toNat⟩)

/-! ### What it writes -/

/-- What becomes of the image: the partition is refused, or its part of the image is put there. -/
def RegularDone (script : Script) (own : RkBlockDevice) (before : Bus) (image : List UInt8)
    (range : Except IoError (Nat × Nat)) (outcome : Except UpgradeError Unit) (reached : Bus) : Prop :=
  match range with
  | .error _ => ∃ error, outcome = .error error
  | .ok (start, length) =>
      if start < own.diskSizeBytes then
        Puts script DEFAULT_BUF_SIZE own.timeout before start (image.take length) outcome reached
      else ∃ error, outcome = .error error

theorem writeRegularImage_effect (idle : bus.Idle) :
    Io.After (Bus.answer script) (writeRegularImage gpt lb part (Cursor.mk image 0)) own bus
      fun outcome _ reached =>
        RegularDone script own bus image (gpt.byteRange part lb) outcome reached := by
  unfold writeRegularImage
  refine Gpt.after_byteRange (fun error refused => ?_) fun partSize partStart range => ?_
  · rw [refused]
    exact ⟨_, rfl⟩
  rw [range]
  show Io.After _ _ _ _ fun outcome _ reached =>
    if partStart.toNat < own.diskSizeBytes then _ else _
  refine after_seekStart (fun offDisk error => ?_) fun onDisk => ?_
  · rw [if_neg offDisk]
    exact ⟨error, rfl⟩
  · simp only [if_pos onDisk]
    refine Io.after_mapErr.mpr ((copy_effect cursor_bounded _ _ idle _).imp ?_)
    intro outcome own' reached copied
    rw [delivered_cursor _ (Nat.lt_succ_self _)] at copied
    exact copied.1.mapError

/-! ### Whole images -/

/-- Whenever the command returns `Ok`, the partition has room for the image and starts with it, and
every other byte of the storage is what it was. -/
def WritesWhole (gpt : Gpt) (lb : LogicalBlockSize) (part : Partition) (image : List UInt8)
    (own : RkBlockDevice) : Prop :=
  ∀ (script : Script) (bus : Bus), bus.Idle →
    Io.After (Bus.answer script) (writeRegularImage gpt lb part (Cursor.mk image 0)) own bus
      fun outcome _ reached => outcome = .ok () →
        ∃ start length, gpt.byteRange part lb = .ok (start, length) ∧ image.length ≤ length ∧
          reached.target.disk = splice bus.target.disk start image

/-- **An image is written whole, or not taken for written**, if and only if it is not longer than the
partition, or the copy cannot succeed: the partition is refused, starts behind the disk, or has no
addresses for what is copied. -/
theorem regular_image_whole_iff (timed : own.timeout = DEFAULT_IO_TIMEOUT) :
    WritesWhole gpt lb part image own ↔
      ∀ start length, gpt.byteRange part lb = .ok (start, length) → start < own.diskSizeBytes →
        Addressed start (image.take length) → image.length ≤ length := by
  constructor
  · intro whole start length range onDisk addressed
    -- over a device that carries everything out, the copy succeeds
    have idle := Bus.fresh_idle fun _ => 0
    have done := @writeRegularImage_effect Script.undisturbed _ gpt lb part image own idle
    have after := whole Script.undisturbed _ idle
    unfold Io.After at done after
    rw [range] at done
    simp only [RegularDone, if_pos onDisk] at done
    obtain ⟨value, ok⟩ := done.succeeds
      (Script.undisturbed_still.serves (timed ▸ by decide) _) addressed
    obtain ⟨start', length', range', fits, -⟩ := after ok
    rw [range] at range'
    cases range'
    exact fits
  · intro fits script bus idle
    refine (writeRegularImage_effect idle).imp ?_
    intro outcome own' reached done ok
    cases range : gpt.byteRange part lb with
    | error error =>
      rw [range] at done
      obtain ⟨error', fails⟩ := done
      rw [ok] at fails
      cases fails
    | ok place =>
      obtain ⟨start, length⟩ := place
      rw [range, ok] at done
      unfold RegularDone at done
      dsimp only at done
      by_cases onDisk : start < own.diskSizeBytes
      · rw [if_pos onDisk] at done
        have short := fits start length range onDisk (done.addressed () rfl)
        have written := done.wrote.written.1
        rw [List.take_of_length_le short] at written
        exact ⟨start, length, rfl, short, written⟩
      · rw [if_neg onDisk] at done
        obtain ⟨error, fails⟩ := done
        cases fails

/-- Images of a sector for a partition of a sector, and of two sectors for one that starts behind the
disk. -/
theorem regular_image_whole_iff_fits :
    WritesWhole .checked .lb512 ⟨1, 1⟩ (List.replicate 512 7) (.new 2048 0 DEFAULT_IO_TIMEOUT) ∧
      WritesWhole .checked .lb512 ⟨4, 4⟩ (List.replicate 1024 7) (.new 2048 0 DEFAULT_IO_TIMEOUT) := by
  constructor
  · refine (regular_image_whole_iff rfl).mpr fun start length range _ _ => ?_
    obtain ⟨rfl, rfl⟩ : 512 = start ∧ 512 = length := by
      have found : Gpt.checked.byteRange ⟨1, 1⟩ .lb512 = .ok (512, 512) := by rfl
      rw [found] at range
      cases range
      exact ⟨rfl, rfl⟩
    exact le_of_eq List.length_replicate
  · refine (regular_image_whole_iff rfl).mpr fun start length range onDisk _ => ?_
    have found : Gpt.checked.byteRange ⟨4, 4⟩ .lb512 = .ok (2048, 512) := by rfl
    rw [found] at range
    cases range
    exact absurd onDisk (by decide)

/-- **The end of an image is dropped.** An image of a sector and a byte is written to a partition of a
sector: the command returns `Ok`, and the byte is nowhere. -/
theorem regular_image_cut :
    ¬WritesWhole .checked .lb512 ⟨1, 1⟩ (List.replicate 513 7) (.new 2048 0 DEFAULT_IO_TIMEOUT) ∧
      let run := (writeRegularImage .checked .lb512 ⟨1, 1⟩ (Cursor.mk (List.replicate 513 7) 0)).run
        (Bus.answer Script.undisturbed) (.new 2048 0 DEFAULT_IO_TIMEOUT) (Bus.fresh fun _ => 0)
      run.1.1 = .ok () ∧ run.2.target.disk 1023 = 7 ∧ run.2.target.disk 1024 = 0 := by
  have run : ((writeRegularImage .checked .lb512 ⟨1, 1⟩ (Cursor.mk (List.replicate 513 7) 0)).run
      (Bus.answer Script.undisturbed) (.new 2048 0 DEFAULT_IO_TIMEOUT)
      (Bus.fresh fun _ => 0)).1.1 = .ok () := by decide +kernel
  refine ⟨fun whole => ?_, run, by decide +kernel⟩
  obtain ⟨start, length, range, fits, -⟩ := whole Script.undisturbed _ (Bus.fresh_idle _) run
  have found : Gpt.checked.byteRange ⟨1, 1⟩ .lb512 = .ok (512, 512) := by rfl
  rw [found] at range
  cases range
  revert fits
  decide +kernel

/-! ### The other commands -/

/-- A file that is longer than the partition is refused. -/
theorem execPartitionWrite_tooLarge {files : Files} {path : String} {length : UInt64}
    (opened : files.openInput path = .ok image) (mapped : files.mapInput = .ok ())
    (measured : gpt.bytesLen part lb = .ok length) (large : length.toNat < image.length) :
    Io.After (Bus.answer script) (execPartitionWrite gpt files lb part path) own bus
      fun outcome _ reached => outcome = .error .inputTooLarge ∧ reached = bus := by
  unfold execPartitionWrite
  rw [opened, mapped, measured]
  refine Io.after_ofExcept_bind.mpr (Io.after_ofExcept_bind.mpr (Io.after_ofExcept_bind.mpr ?_))
  show Io.After _ (if length.toNat < image.length then _ else _) _ _ _
  rw [if_pos large]
  exact ⟨rfl, rfl⟩

/-- A sparse image whose header states more than the partition is refused. -/
theorem writeSparseImage_tooLarge {img : Cursor} {header : SparseHeader} {length start : UInt64}
    (read : SparseHeader.readFromIo (Cursor.mk image 0) = .ok (header, img))
    (magic : header.magic = SPARSE_HEADER_MAGIC)
    (version : ¬(1 < header.majorVersion ∨ 0 < header.minorVersion))
    (measured : gpt.bytesLen part lb = .ok length) (found : gpt.bytesStart part lb = .ok start)
    (large : length.toNat < header.blkSz.toNat * header.totalBlks.toNat) :
    Io.After (Bus.answer script) (writeSparseImage gpt lb part (Cursor.mk image 0)) own bus
      fun outcome _ reached => outcome = .error (.imageTooLarge length.toNat
        (header.blkSz.toNat * header.totalBlks.toNat)) ∧ reached = bus := by
  unfold writeSparseImage
  rw [read, measured, found]
  refine Io.after_ofExcept_bind.mpr ?_
  show Io.After _ (if header.magic ≠ SPARSE_HEADER_MAGIC then _ else _) _ _ _
  rw [if_neg (not_not.mpr magic), if_neg version]
  refine Io.after_ofExcept_bind.mpr (Io.after_ofExcept_bind.mpr ?_)
  show Io.After _ (if length.toNat < header.blkSz.toNat * header.totalBlks.toNat then _ else _) _ _ _
  rw [if_pos large]
  exact ⟨rfl, rfl⟩

end Rkusb
