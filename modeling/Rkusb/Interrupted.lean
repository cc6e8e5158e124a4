/-
**Writes and erasures that are interrupted.**

Whatever fails, and wherever: a command is carried out or not, and no command follows one that was
not acknowledged. So `write_lba` leaves a beginning of its data, and `erase_lba` the first of its
sectors (`lba_interrupted`), also on a bus where earlier commands left replies behind.
-/

import Rkusb.LbaStorage

namespace Rkusb

open Interaction Bytes FlatStore

variable {script : Script} {bus : Bus}

/-! ### Erasures on a bus that is not idle -/

/-- The first of the sectors are erased. -/
def BeganErase (script : Script) (pos sectors : Nat) (disk disk' : Nat → UInt8) : Prop :=
  ∃ count, count ≤ sectors ∧ disk' = splice disk (STORAGE_SECTOR_SIZE * pos)
    (List.replicate (STORAGE_SECTOR_SIZE * count) script.erased)

theorem BeganErase.refl (pos sectors : Nat) (disk : Nat → UInt8) :
    BeganErase script pos sectors disk disk :=
  ⟨0, Nat.zero_le _, (splice_nil _ _).symm⟩

theorem eraseLbaRaw_failsUnlessIdle {sectorCount : UInt16} (some : sectorCount ≠ 0) (pos : UInt32)
    (timeout : Duration) :
    FailsUnlessIdle script (BeganErase script pos.toNat sectorCount.toNat)
      (eraseLbaRaw pos sectorCount timeout) := by
  rw [eraseLbaRaw_eq some]
  refine ((FailsUnlessIdle.transact (.eraseLba pos sectorCount) timeout).mono ?_).bind _
  intro disk disk' moved
  rcases moved (by decide : ¬WireCommand.Selects 0x25) with rfl | ⟨tag, wiped⟩
  · exact BeganErase.refl _ _ _
  · exact ⟨sectorCount.toNat, le_rfl, wiped⟩

/-- The first command of an erasure is a raw one. -/
theorem eraseLba_failsUnlessIdle (pos : UInt32) {count : UInt32} (some : count ≠ 0)
    (timeout : Duration) :
    FailsUnlessIdle script (BeganErase script pos.toNat count.toNat) (eraseLba pos count timeout) := by
  unfold eraseLba
  rw [if_neg some]
  refine .now_bind fun start => ?_
  have positive : count.toNat ≠ 0 := fun zero => some (UInt32.toNat.inj zero)
  cases rounds : count.toNat with
  | zero => exact absurd rounds positive
  | succ rest =>
    rw [rounds] at positive
    unfold eraseLbaLoop
    rw [if_neg positive]
    refine .remainingTimeout_bind (BeganErase.refl _ _) fun left => FailsUnlessIdle.bind ?_ _
    refine (eraseLbaRaw_failsUnlessIdle (chunkSectors_ne_zero positive) pos left).mono ?_
    rintro disk disk' ⟨erased, most, wiped⟩
    rw [chunkSectors_toNat] at most
    exact ⟨erased, most.trans (Nat.min_le_left _ _), wiped⟩

/-! ### What is left behind -/

/-- What holds from an idle bus, and of a first command that fails, holds from every bus that is
ready. -/
theorem FailsUnlessIdle.after_ready {effect : (Nat → UInt8) → (Nat → UInt8) → Prop} {α : Type}
    {computation : UsbIo Unit RkUsbError α} (fails : FailsUnlessIdle script effect computation)
    (ready : bus.Ready script) {post : Except RkUsbError α → Unit → Bus → Prop}
    (fromIdle : bus.Idle → Io.After (Bus.answer script) computation () bus post)
    (failed : ∀ error own reached, effect bus.target.disk reached.target.disk →
      post (.error error) own reached) :
    Io.After (Bus.answer script) computation () bus post := by
  by_cases idle : bus.Idle
  · exact fromIdle idle
  · refine (fails bus ready idle).imp ?_
    intro outcome own reached moved
    cases outcome with
    | ok value => exact absurd rfl (moved.1 value)
    | error error => exact failed error own reached moved.2

/-- What a program does to the selected storage, with the frame of the others. -/
theorem Runs.and_beside {δ ε α : Type} {computation : UsbIo δ ε α} (runs : Runs computation)
    (ready : bus.Ready script) {own : δ} {post : Except ε α → δ → Bus → Prop}
    (after : Io.After (Bus.answer script) computation own bus post) :
    Io.After (Bus.answer script) computation own bus fun outcome own reached =>
      post outcome own reached ∧ Banks.Beside bus.target.flash reached.target.flash := by
  obtain ⟨tags, known, -⟩ := ready
  exact after.and (runs.stays.beside known own)

theorem writeLba_leaves (ready : bus.Ready script) (pos : UInt32) (data : List UInt8)
    (subcode : UInt8) (timeout : Duration) :
    Io.After (Bus.answer script) (writeLba pos data subcode timeout) () bus
      fun outcome _ reached => ∃ count, count ≤ data.length ∧
        reached.target.disk =
          splice bus.target.disk (STORAGE_SECTOR_SIZE * pos.toNat) (data.take count) ∧
        (outcome = .ok () → count = data.length) := by
  cases data with
  | nil => exact ⟨0, le_rfl, (splice_nil _ _).symm, fun _ => rfl⟩
  | cons byte rest =>
    have some : (byte :: rest).length ≠ 0 := Nat.succ_ne_zero _
    refine (writeLba_failsUnlessIdle some pos subcode timeout).after_ready ready (fun idle => ?_)
      fun error own reached began => ?_
    · refine (writeLba_effect idle pos (byte :: rest) subcode timeout).imp ?_
      rintro outcome own reached ⟨count, most, disk, whole⟩
      exact ⟨count, most, disk, fun ok => (whole () ok).1⟩
    · obtain ⟨count, most, disk⟩ := began
      exact ⟨count, most, disk, fun fails => by cases fails⟩

theorem eraseLba_leaves (ready : bus.Ready script) (pos count : UInt32) (timeout : Duration) :
    Io.After (Bus.answer script) (eraseLba pos count timeout) () bus
      fun outcome _ reached => ∃ sectors, sectors ≤ count.toNat ∧
        reached.target.disk = splice bus.target.disk (STORAGE_SECTOR_SIZE * pos.toNat)
          (List.replicate (STORAGE_SECTOR_SIZE * sectors) script.erased) ∧
        (outcome = .ok () → sectors = count.toNat) := by
  by_cases none : count = 0
  · unfold eraseLba
    rw [if_pos none, none]
    exact ⟨0, le_rfl, (splice_nil _ _).symm, fun _ => rfl⟩
  · refine (eraseLba_failsUnlessIdle pos none timeout).after_ready ready (fun idle => ?_)
      fun error own reached began => ?_
    · refine (eraseLba_effect idle pos count timeout).imp ?_
      rintro outcome own reached ⟨sectors, most, disk, whole⟩
      exact ⟨sectors, most, disk, fun ok => (whole () ok).1⟩
    · obtain ⟨sectors, most, disk⟩ := began
      exact ⟨sectors, most, disk, fun fails => by cases fails⟩

/-- A read changes nothing, and one that returns has found what is stored. -/
theorem readLba_leaves (ready : bus.Ready script) (pos : UInt32) (buf : List UInt8)
    (subcode : UInt8) (timeout : Duration) :
    Io.After (Bus.answer script) (readLba pos buf subcode timeout) () bus
      fun outcome _ reached => reached.target.disk = bus.target.disk ∧
        ∀ bytes, outcome = .ok bytes →
          bytes = slice bus.target.disk (STORAGE_SECTOR_SIZE * pos.toNat) buf.length := by
  cases buf with
  | nil => exact ⟨rfl, fun bytes same => by cases same; rfl⟩
  | cons byte rest =>
    have some : (byte :: rest).length ≠ 0 := Nat.succ_ne_zero _
    refine (readLba_failsUnlessIdle some pos subcode timeout).after_ready ready (fun idle => ?_)
      fun error own reached same => ⟨same, fun bytes fails => by cases fails⟩
    refine (readLba_effect idle pos (byte :: rest) subcode timeout).imp ?_
    intro outcome own reached moved
    exact ⟨moved.1, fun bytes ok => (moved.2 bytes ok).2⟩

/-- **Interrupted transfers leave a beginning**, at every point of every run of commands at which the
next tag is a new one (at the beginning of a run any tag is). Whatever becomes of the transfers, the
commands and the clock: `write_lba` leaves the first bytes of its data and `erase_lba` the first of
its sectors erased, and all of them when they return `Ok`. -/
theorem lba_interrupted {start : Bus} (idle : start.Idle) (run : Run script start bus)
    (fresh : ¬Run.drawn script start bus (script.tags bus.draws)) :
    (∀ pos data subcode timeout,
      Io.After (Bus.answer script) (writeLba pos data subcode timeout) () bus
        fun outcome _ reached => ∃ count, count ≤ data.length ∧
          reached.target.disk =
            splice bus.target.disk (STORAGE_SECTOR_SIZE * pos.toNat) (data.take count) ∧
          (outcome = .ok () → count = data.length)) ∧
    (∀ pos count timeout,
      Io.After (Bus.answer script) (eraseLba pos count timeout) () bus
        fun outcome _ reached => ∃ sectors, sectors ≤ count.toNat ∧
          reached.target.disk = splice bus.target.disk (STORAGE_SECTOR_SIZE * pos.toNat)
            (List.replicate (STORAGE_SECTOR_SIZE * sectors) script.erased) ∧
          (outcome = .ok () → sectors = count.toNat)) :=
  ⟨writeLba_leaves (run.ready idle fresh), eraseLba_leaves (run.ready idle fresh)⟩

/-- The seventh transfer fails, and the device does not get it. -/
def writeBackFails : Script :=
  { Script.undisturbed with faults := fun index => if index = 6 then .error .pipe false else .none }

/-- A sector and a byte are written to a new device. The command that writes the second sector back
does not reach it, so that the first 512 bytes are left. -/
theorem lba_interrupted_writeBack :
    Io.After (Bus.answer writeBackFails) (writeLba 0 (List.replicate 513 7) 0 1) ()
      (Bus.fresh fun _ => 0) fun outcome _ reached => outcome = .error (.usb .pipe) ∧
        reached.target.disk = splice (fun _ => 0) 0 (List.replicate 512 7) := by
  have start := (@lba_interrupted writeBackFails _ _ (Bus.fresh_idle fun _ => 0) .start
    fun ⟨index, from_, below, _⟩ => absurd below (Nat.not_lt_of_le from_)).1
      0 (List.replicate 513 7) 0 1
  have fails : ((writeLba 0 (List.replicate 513 7) 0 1).run (Bus.answer writeBackFails) ()
      (Bus.fresh fun _ => 0)).1.1 = .error (.usb .pipe) := by decide +kernel
  have ends : ((writeLba 0 (List.replicate 513 7) 0 1).run (Bus.answer writeBackFails) ()
      (Bus.fresh fun _ => 0)).2.target.disk 511 = 7 ∧
        ((writeLba 0 (List.replicate 513 7) 0 1).run (Bus.answer writeBackFails) ()
          (Bus.fresh fun _ => 0)).2.target.disk 512 = 0 := by decide +kernel
  obtain ⟨count, most, disk, -⟩ := start
  rw [List.length_replicate] at most
  rw [List.take_replicate, Nat.min_eq_left most] at disk
  have length : (List.replicate count (7 : UInt8)).length = count := List.length_replicate
  obtain rfl : count = 512 := by
    rw [disk] at ends
    refine le_antisymm (Nat.le_of_not_lt fun more => ?_) (Nat.le_of_not_lt fun fewer => ?_)
    · have stored := @splice_inside UInt8 (fun _ => 0) 0 (List.replicate count 7) 512
        (by rw [length]; exact more)
      rw [List.getElem_replicate] at stored
      exact absurd (stored.symm.trans ends.2) (by decide)
    · have clear := @splice_of_ge UInt8 (fun _ => 0) 0 (List.replicate count 7) 511
        (by rw [length]; omega)
      exact absurd (clear.symm.trans ends.1) (by decide)
  exact ⟨fails, disk⟩

end Rkusb
