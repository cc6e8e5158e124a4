/-
**The end of the sector space.**

The loops of `write_lba`, `read_lba` and `erase_lba` advance their position after every command, also
after the last one, so that they need a position that nothing is transferred at. A range whose whole
sectors end at sector 2^32 - 1 is transferred and then reported as an overflow; every other range that
fits is usable (`sector_space_usable_iff`).
-/

import Rkusb.Tiling

namespace Rkusb

open Interaction Bytes FlatStore

variable {script : Script} {bus : Bus}

/-! ### Usable ranges -/

/-- No reading of the clock so far is past the deadline. -/
def InTime (script : Script) (deadline : Instant) (reached : Bus) : Prop :=
  ∀ tick, tick < reached.ticks → script.clock tick < deadline

/-- Over a device that carries everything out, before the deadline, and if no deadline is a panic, the
call returns `Ok`. -/
def Usable {α : Type} (call : Duration → UsbIo Unit RkUsbError α) : Prop :=
  ∀ (script : Script) (bus : Bus) (timeout : Duration), script.Healthy → bus.Idle →
    Io.After (Bus.answer script) (call timeout) () bus fun outcome _ reached =>
      InTime script (script.clock bus.ticks + timeout) reached →
        reached.InstantsFit script timeout → ∃ value, outcome = .ok value

/-- A usable call returns `Ok` under a clock that stands still. -/
theorem Usable.undisturbed {α : Type} {call : Duration → UsbIo Unit RkUsbError α}
    (usable : Usable call) (disk : Nat → UInt8) :
    Io.After (Bus.answer Script.undisturbed) (call 1) () (Bus.fresh disk) fun outcome _ _ =>
      ∃ value, outcome = .ok value :=
  (usable Script.undisturbed (Bus.fresh disk) 1 Script.undisturbed_healthy
    (Bus.fresh_idle disk)).imp fun _ _ _ returns =>
      returns (fun _ _ => Nat.zero_lt_one) fun _ _ => (by decide : 0 + 1 < INSTANT_END)

/-- A call that is usable where it is prompt, and not where it cannot return `Ok`. -/
theorem usable_iff {α : Type} {call : Duration → UsbIo Unit RkUsbError α} {fits : Prop}
    (prompt : fits → ∀ (script : Script) (bus : Bus) (timeout : Duration), script.Healthy → bus.Idle →
      ∃ readings, Io.After (Bus.answer script) (call timeout) () bus fun outcome _ reached =>
        Prompt script (script.clock bus.ticks + timeout) readings bus outcome reached)
    (needs : ∀ (script : Script) (bus : Bus) (timeout : Duration),
      Io.After (Bus.answer script) (call timeout) () bus fun outcome _ _ =>
        ∀ value, outcome = .ok value → fits) : Usable call ↔ fits := by
  constructor
  · intro usable
    obtain ⟨value, ok⟩ := usable.undisturbed fun _ => 0
    exact needs _ _ _ value ok
  · intro holds script bus timeout healthy idle
    obtain ⟨readings, promptly⟩ := prompt holds script bus timeout healthy idle
    refine promptly.imp ?_
    intro outcome own reached prompt inTime _
    cases outcome with
    | ok value => exact ⟨value, rfl⟩
    | error error =>
      obtain ⟨-, tick, read, late⟩ := prompt.2 error rfl
      exact absurd (inTime tick read) (Nat.not_lt_of_le late)

/-- The erase loop returns `Ok` only where there is a position after its last sector. -/
theorem eraseLbaLoop_fits (deadline : Instant) (rounds : Nat) (pos : UInt32) (remaining : Nat)
    (enough : remaining ≤ rounds) :
    Io.After (Bus.answer script) (eraseLbaLoop deadline rounds pos remaining) () bus
      fun outcome _ _ => ∀ value, outcome = .ok value → pos.toNat + remaining < 2 ^ 32 := by
  induction rounds generalizing pos remaining bus with
  | zero =>
    obtain rfl : remaining = 0 := by omega
    exact fun _ _ => pos.toNat_lt
  | succ rounds ih =>
    unfold eraseLbaLoop
    by_cases none : remaining = 0
    · rw [if_pos none, none]
      exact fun _ _ => pos.toNat_lt
    rw [if_neg none]
    refine (remainingTimeout_target deadline).bind (fun _ _ _ _ _ fails => (by cases fails))
      fun timeout own waited _ => ?_
    have sends : Io.After (Bus.answer script)
        (eraseLbaRaw pos (UInt16.ofNat (min remaining 65535)) timeout) own waited
        fun _ _ _ => True := trivial
    refine sends.bind (fun _ _ _ _ _ fails => (by cases fails)) fun _ own erased _ => ?_
    refine Io.After.ofExcept_bind (fun _ _ fails => (by cases fails)) fun next advances => ?_
    refine (ih next (remaining - min remaining 65535) (by omega)).imp ?_
    intro outcome own reached fits value ok
    have position := checkedAddSectors_ok advances
    have := fits value ok
    omega

theorem eraseLba_fits (pos count : UInt32) (timeout : Duration) :
    Io.After (Bus.answer script) (eraseLba pos count timeout) () bus fun outcome _ _ =>
      ∀ value, outcome = .ok value → pos.toNat + count.toNat < 2 ^ 32 := by
  unfold eraseLba
  by_cases none : count = 0
  · rw [if_pos none, none]
    exact fun _ _ => pos.toNat_lt
  rw [if_neg none]
  exact after_now.mpr (eraseLbaLoop_fits _ count.toNat pos count.toNat le_rfl)

/-- **A range is usable** if there is a position after its whole sectors. The ranges that fit and are
not usable are those whose last whole sector is the last one of all. -/
theorem sector_space_usable_iff (pos count : UInt32) (data : List UInt8) (subcode : UInt8) :
    (pos.toNat + sectorsOf data.length ≤ 2 ^ 32 →
      (Usable (writeLba pos data subcode) ↔
        pos.toNat + data.length / STORAGE_SECTOR_SIZE < 2 ^ 32) ∧
      (Usable (readLba pos data subcode) ↔
        pos.toNat + data.length / STORAGE_SECTOR_SIZE < 2 ^ 32)) ∧
    (pos.toNat + count.toNat ≤ 2 ^ 32 →
      (Usable (eraseLba pos count) ↔ pos.toNat + count.toNat < 2 ^ 32)) := by
  refine ⟨fun _ => ⟨usable_iff (fun fits script bus timeout healthy idle => ?_)
      fun script bus timeout => writeLba_fits pos data subcode timeout,
    usable_iff (fun fits script bus timeout healthy idle => ?_)
      fun script bus timeout => (readLba_returns pos data subcode timeout).imp ?_⟩,
    fun _ => usable_iff (fun fits script bus timeout healthy idle => ?_)
      fun script bus timeout => eraseLba_fits pos count timeout⟩
  · exact ⟨_, writeLba_progress healthy idle pos data subcode timeout fits⟩
  · exact ⟨_, readLba_progress healthy idle pos data subcode timeout fits⟩
  · intro outcome own reached returns value ok
    exact (returns value ok).2
  · exact ⟨_, eraseLba_progress healthy idle pos count timeout fits⟩

/-- A range that leaves a partial sector at the end of the space, and an erasure of the sector before
the last one. -/
theorem sector_space_usable_last :
    Usable (readLba 4294967295 (List.replicate 511 0) 0) ∧ Usable (eraseLba 4294967294 1) :=
  ⟨((sector_space_usable_iff 4294967295 0 (List.replicate 511 0) 0).1
      (by decide +kernel)).2.mpr (by decide +kernel),
    ((sector_space_usable_iff 4294967294 1 [] 0).2 (by decide +kernel)).mpr (by decide +kernel)⟩

/-- **The last sector is written, and reported as an overflow.** -/
theorem sector_space_last_overflows :
    (4294967295 : UInt32).toNat + sectorsOf (List.replicate 512 (7 : UInt8)).length ≤ 2 ^ 32 ∧
      ¬Usable (writeLba 4294967295 (List.replicate 512 7) 0) ∧
      let run := (writeLba 4294967295 (List.replicate 512 7) 0 1).run (Bus.answer Script.undisturbed)
        () (Bus.fresh fun _ => 0)
      run.1.1 = .error .lbaOverflow ∧ run.2.target.disk (512 * 4294967295) = 7 := by
  refine ⟨by decide +kernel, fun usable => ?_, by decide +kernel⟩
  obtain ⟨value, ok⟩ := usable.undisturbed fun _ => 0
  have fits := @writeLba_fits Script.undisturbed (Bus.fresh fun _ => 0) 4294967295
    (List.replicate 512 7) 0 1 value ok
  revert fits
  decide +kernel

end Rkusb
