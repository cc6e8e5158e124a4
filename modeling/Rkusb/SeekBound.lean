/-
**The positions that a seek accepts.**

A read or a write up to the end of the disk leaves the cursor at its end. A seek refuses that
position: `filter(|x| *x < disk_size_bytes)` keeps positions below it only.

* `BlockRun.onDisk`: in a run of calls within the disk the cursor never passes the end.
* `seek_agrees_below_end`: in every state of such a run a seek agrees with the cursor exactly if it does
  not lead to the end of the disk. Where the cursor is there, not even `Current(0)` returns its
  position, and `End(0)` never returns the size.
-/

import Rkusb.DiskBound

namespace Rkusb

open Interaction

variable {script : Script} {bus : Bus}

namespace RkBlockDevice

/-! ### The cursor after a call -/

/-- What a read or a write of a length does to the block device: nothing, or the cursor moves past
its bytes, the end of which is a `u64` position. -/
def Passed (own : RkBlockDevice) (length : Nat) (own' : RkBlockDevice) : Prop :=
  own' = own ∨ own.pos + length < 2 ^ 64 ∧ own' = { own with pos := own.pos + length }

theorem passed_of_checkedAdd {own : RkBlockDevice} {length endPos : Nat} {message : String}
    (ended : checkedAdd own.pos length message = .ok endPos) :
    own.pos + length < 2 ^ 64 ∧ { own with pos := endPos } = { own with pos := own.pos + length } := by
  refine ⟨?_, by rw [checkedAdd_ok ended]⟩
  by_contra large
  rw [checkedAdd_of_le (by omega)] at ended
  cases ended

theorem read_passed (own : RkBlockDevice) {buf : List UInt8} (some : buf ≠ []) :
    Io.After (Bus.answer script) (read buf) own bus fun _ own' _ => own.Passed buf.length own' := by
  unfold read
  rw [if_neg some]
  refine Io.after_get_bind.mpr ?_
  refine .ofExcept_bind (fun _ => .inl rfl) fun endPos ended => ?_
  refine (readHead_keeps id own.pos buf own bus).bind (fun _ _ _ same => .inl same)
    fun head own' reached same => ?_
  refine (readMiddle_keeps id head.2.1 head.2.2 own' reached).bind
    (fun _ _ _ same' => .inl (same'.trans same)) fun middle own'' reached' same' => ?_
  refine (readTail_keeps id middle.2.1 middle.2.2 own'' reached').bind
    (fun _ _ _ last => .inl (last.trans (same'.trans same))) fun tail own₃ reached₃ last => ?_
  refine Io.after_modify_bind.mpr ?_
  obtain rfl : own₃ = own := last.trans (same'.trans same)
  exact .inr (passed_of_checkedAdd ended)

theorem write_passed (own : RkBlockDevice) {buf : List UInt8} (some : buf ≠ []) :
    Io.After (Bus.answer script) (write buf) own bus fun _ own' _ => own.Passed buf.length own' := by
  unfold write
  rw [if_neg some]
  refine Io.after_get_bind.mpr ?_
  refine .ofExcept_bind (fun _ => .inl rfl) fun endPos ended => ?_
  refine (writeHead_keeps id own.pos buf own bus).bind (fun _ _ _ same => .inl same)
    fun head own' reached same => ?_
  refine (writeMiddle_keeps id head.1 head.2 own' reached).bind
    (fun _ _ _ same' => .inl (same'.trans same)) fun middle own'' reached' same' => ?_
  refine (writeTail_keeps id middle.1 middle.2 own'' reached').bind
    (fun _ _ _ last => .inl (last.trans (same'.trans same))) fun tail own₃ reached₃ last => ?_
  refine Io.after_modify_bind.mpr ?_
  obtain rfl : own₃ = own := last.trans (same'.trans same)
  exact .inr (passed_of_checkedAdd ended)

/-! ### The cursor in a run -/

/-- The cursor is on the disk or at its end. -/
def OnDisk (size : Nat) (own : RkBlockDevice) : Prop :=
  own.diskSizeBytes = size ∧ own.pos ≤ size

/-- A read or a write of a range of the disk ends on the disk or at its end. -/
theorem OnDisk.passed {size : Nat} {own own' : RkBlockDevice} (onDisk : own.OnDisk size)
    {buf : List UInt8} (some : buf ≠ [])
    (inside : buf = [] ∨ own.pos + buf.length ≤ own.diskSizeBytes ∨ 2 ^ 64 ≤ own.pos + buf.length)
    (passed : own.Passed buf.length own') : own'.OnDisk size := by
  obtain ⟨sized, -⟩ := id onDisk
  rcases passed with rfl | ⟨fits, rfl⟩
  · exact onDisk
  · rcases inside with empty | inside | large
    · exact absurd empty some
    · exact ⟨sized, sized ▸ inside⟩
    · omega

theorem call_onDisk {size : Nat} {own : RkBlockDevice} (onDisk : own.OnDisk size)
    {call : BlockCall} (inside : own.Inside call) :
    Io.After (Bus.answer script) call.run own bus fun _ own' _ => own'.OnDisk size := by
  cases call with
  | seek target =>
    have moves : Io.After (Bus.answer script) (seek target) own bus fun _ own' _ =>
        own'.OnDisk size := by
      refine (seek_effect own target).imp ?_
      intro outcome own' reached moved
      obtain ⟨-, found⟩ := moved
      cases kept : (own.sought target).filter (· < own.diskSizeBytes) with
      | none =>
        rw [kept] at found
        rw [found.2]
        exact onDisk
      | some newPos =>
        rw [kept] at found
        have below := (Option.filter_eq_some_iff.mp kept).2
        rw [found.2]
        exact ⟨onDisk.1, onDisk.1 ▸ (of_decide_eq_true below).le⟩
    exact moves.bind (fun _ _ _ done => done) fun _ _ _ done => done
  | read buf =>
    have moves : Io.After (Bus.answer script) (read buf) own bus fun _ own' _ =>
        own'.OnDisk size := by
      by_cases empty : buf = []
      · subst empty
        exact onDisk
      · exact (read_passed own empty).imp fun _ _ _ => onDisk.passed empty inside
    exact moves.bind (fun _ _ _ done => done) fun _ _ _ done => done
  | write buf =>
    have moves : Io.After (Bus.answer script) (write buf) own bus fun _ own' _ =>
        own'.OnDisk size := by
      by_cases empty : buf = []
      · subst empty
        exact onDisk
      · exact (write_passed own empty).imp fun _ _ _ => onDisk.passed empty inside
    exact moves.bind (fun _ _ _ done => done) fun _ _ _ done => done

/-- **The cursor never passes the end of the disk** in a run of calls within the disk. -/
theorem BlockRun.onDisk {size : Nat} {opened own : RkBlockDevice} {start : Bus}
    (onDisk : opened.OnDisk size) (run : BlockRun script Inside opened start own bus) :
    own.OnDisk size := by
  induction run with
  | start => exact onDisk
  | call call reached admits ih => exact call_onDisk ih admits

/-! ### Seeks -/

/-- The position that a seek asks for, as `Seek` understands its target. -/
def asked (own : RkBlockDevice) : SeekFrom → Int
  | .start position => position.toNat
  | .fromEnd offset => own.diskSizeBytes + offset.toInt
  | .current offset => own.pos + offset.toInt

/-- A seek agrees with the cursor: a position from the start of the disk up to its end is reached
and returned, any other is refused with the cursor where it was. Neither asks the device for
anything. -/
def SeekAgrees (own : RkBlockDevice) (target : SeekFrom) : Prop :=
  ∀ script bus, Io.After (Bus.answer script) (seek target) own bus fun outcome own' reached =>
    reached = bus ∧
      if 0 ≤ own.asked target ∧ own.asked target ≤ own.diskSizeBytes then
        outcome = .ok (own.asked target).toNat ∧ own' = { own with pos := (own.asked target).toNat }
      else (∃ error, outcome = .error error) ∧ own' = own

/-- A seek looks for the position asked for, if that is a `u64`. -/
theorem sought_eq_some_iff {own : RkBlockDevice} {target : SeekFrom} {newPos : Nat}
    (small : newPos < 2 ^ 64) : own.sought target = some newPos ↔ own.asked target = newPos := by
  have signed (pos : Nat) (offset : Int64) :
      checkedAddSigned pos offset = some newPos ↔ (pos : Int) + offset.toInt = newPos := by
    refine ⟨fun found => ?_, checkedAddSigned_of small⟩
    unfold checkedAddSigned at found
    by_cases bounds : 0 ≤ (pos : Int) + offset.toInt ∧ (pos : Int) + offset.toInt < 2 ^ 64
    · rw [if_pos bounds, Option.some.injEq] at found
      omega
    · rw [if_neg bounds] at found
      cases found
  cases target with
  | start position =>
    show some position.toNat = some newPos ↔ (position.toNat : Int) = newPos
    rw [Option.some.injEq]
    omega
  | fromEnd offset => exact signed _ _
  | current offset => exact signed _ _

/-- The position that a seek accepts is one below the end of the disk. -/
theorem accepted_eq_some_iff {own : RkBlockDevice} {target : SeekFrom} {newPos : Nat}
    (fits : own.diskSizeBytes < 2 ^ 64) :
    (own.sought target).filter (· < own.diskSizeBytes) = some newPos ↔
      own.asked target = newPos ∧ newPos < own.diskSizeBytes := by
  rw [Option.filter_eq_some_iff, decide_eq_true_iff]
  refine and_congr_left fun below => ?_
  exact sought_eq_some_iff (by omega)

/-- **A seek agrees with the cursor** exactly if it does not lead to the end of the disk. -/
theorem seekAgrees_iff {own : RkBlockDevice} (fits : own.diskSizeBytes < 2 ^ 64)
    (target : SeekFrom) : own.SeekAgrees target ↔ own.asked target ≠ own.diskSizeBytes := by
  constructor
  · intro agrees atEnd
    have reached := (agrees Script.undisturbed (Bus.fresh fun _ => 0)).and (seek_effect own target)
    have refused : (own.sought target).filter (· < own.diskSizeBytes) = none := by
      refine Option.eq_none_iff_forall_not_mem.mpr fun newPos found => ?_
      have := (accepted_eq_some_iff fits).mp found
      omega
    obtain ⟨⟨-, agrees⟩, -, effect⟩ := reached
    rw [if_pos (by omega)] at agrees
    rw [refused] at effect
    cases agrees.1.symm.trans effect.1
  · intro before script bus
    refine (seek_effect own target).imp ?_
    intro outcome own' reached moved
    obtain ⟨rfl, found⟩ := moved
    refine ⟨rfl, ?_⟩
    by_cases onDisk : 0 ≤ own.asked target ∧ own.asked target ≤ own.diskSizeBytes
    · rw [if_pos onDisk]
      have accepted : (own.sought target).filter (· < own.diskSizeBytes) =
          some (own.asked target).toNat := (accepted_eq_some_iff fits).mpr (by omega)
      rw [accepted] at found
      exact found
    · rw [if_neg onDisk]
      have refused : (own.sought target).filter (· < own.diskSizeBytes) = none := by
        refine Option.eq_none_iff_forall_not_mem.mpr fun newPos accepted => ?_
        have := (accepted_eq_some_iff fits).mp accepted
        omega
      rw [refused] at found
      exact ⟨⟨_, found.1⟩, found.2⟩

/-- **Where seeks agree with the cursor.** In every state that calls within the disk reach from a
new block device, the cursor is at most at the end of the disk, and a seek agrees with it exactly if
it does not lead there: `Current(0)` where the cursor is below the end, and `End(0)` never. -/
theorem seek_agrees_below_end {size : Nat} (fits : size < 2 ^ 64) {subcode : UInt8}
    {timeout : Duration} {own : RkBlockDevice} {start : Bus}
    (run : BlockRun script Inside (new size subcode timeout) start own bus) :
    own.pos ≤ size ∧ (∀ target, own.SeekAgrees target ↔ own.asked target ≠ size) ∧
      (own.SeekAgrees (.current 0) ↔ own.pos < size) ∧ ¬own.SeekAgrees (.fromEnd 0) := by
  have onDisk : own.OnDisk size := BlockRun.onDisk ⟨rfl, Nat.zero_le size⟩ run
  obtain ⟨sized, within⟩ := onDisk
  have agrees (target : SeekFrom) : own.SeekAgrees target ↔ own.asked target ≠ size := by
    rw [seekAgrees_iff (by omega), sized]
  refine ⟨within, agrees, (agrees _).trans ?_, fun atEnd => (agrees _).mp atEnd ?_⟩
  · show (own.pos : Int) + 0 ≠ size ↔ own.pos < size
    omega
  · show (own.diskSizeBytes : Int) + 0 = size
    omega

/-- A disk of one sector, of which one byte is read. -/
theorem seek_agrees_below_end_oneByte :
    SeekAgrees ((BlockCall.run (.read [0])).run (Bus.answer Script.undisturbed)
      (new 512 0 1) (Bus.fresh fun _ => 0)).1.2 (.current 0) :=
  (@seek_agrees_below_end Script.undisturbed _ 512 (by decide) 0 1 _ (Bus.fresh fun _ => 0)
    (.call (.read [0]) .start (by decide))).2.2.1.mpr (by decide +kernel)

/-- **The end of the disk cannot be sought.** A disk of one sector, read to its end: the cursor is
there, and neither `Current(0)` nor `End(0)` returns the position. -/
theorem seek_refuses_end :
    ∃ own bus, BlockRun Script.undisturbed Inside (new 512 0 1) (Bus.fresh fun _ => 0) own bus ∧
      own.pos = 512 ∧ ¬own.SeekAgrees (.current 0) ∧ ¬own.SeekAgrees (.fromEnd 0) ∧
      ((seek (.current 0)).run (Bus.answer Script.undisturbed) own bus).1.1 =
        .error (.new .invalidInput "out of range") ∧
      ((seek (.fromEnd 0)).run (Bus.answer Script.undisturbed) own bus).1.1 =
        .error (.new .invalidInput "out of range") := by
  refine ⟨_, _, .call (.read (List.replicate 512 0)) .start (by decide +kernel), ?_⟩
  refine ⟨by decide +kernel, ?_, ?_, by decide +kernel, by decide +kernel⟩
  · exact (seekAgrees_iff (by decide +kernel) _).not.mpr (not_not_intro (by decide +kernel))
  · exact (seekAgrees_iff (by decide +kernel) _).not.mpr (not_not_intro (by decide +kernel))

end RkBlockDevice

end Rkusb
