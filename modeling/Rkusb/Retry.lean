/-
**Writes of the block device that are retried.**

* `RkBlockDevice.write_leaves`: whatever a write returns, the storage has got a beginning of the
  buffer at the cursor, and the cursor moves on `Ok` only. This also holds on a bus where a failed
  command left replies behind, as the first command of a request fails there (`write_busy`).
* `writeUntilOk_leaves`: so a write over what a failed one left is a write over the storage before it,
  and retries add up to one write (`failed_requests_repeatable`).
-/

import Rkusb.Interrupted
import Rkusb.BlockFile

namespace Rkusb

open Interaction Bytes FlatStore

variable {script : Script} {bus : Bus}

/-! ### Tags that are distinct -/

/-- The tags drawn between the two states, and the next one, are pairwise distinct. -/
def Bus.Distinct (script : Script) (start reached : Bus) : Prop :=
  ∀ first second, start.draws ≤ first → first < second → second ≤ reached.draws →
    script.tags first ≠ script.tags second

section AfterDistinct

variable {δ ε ε' α β : Type} {start : Bus}

/-- `post` holds after the program, if no tag was drawn twice. -/
def AfterDistinct (script : Script) (start : Bus) (computation : UsbIo δ ε α) (own : δ) (bus : Bus)
    (post : Except ε α → δ → Bus → Prop) : Prop :=
  Io.After (Bus.answer script) computation own bus fun outcome own' reached =>
    start.Distinct script reached → post outcome own' reached

variable {computation : UsbIo δ ε α} {own : δ} {post post' : Except ε α → δ → Bus → Prop}

/-- Under distinct tags, whatever is on the pipe is told apart from the next reply. -/
theorem AfterDistinct.of_linked (linked : Linked script start bus)
    (holds : bus.Ready script → AfterDistinct script start computation own bus post) :
    AfterDistinct script start computation own bus post := by
  by_cases fresh : Run.drawn script start bus (script.tags bus.draws)
  · refine (after_draws computation own).imp fun outcome own' reached later distinct => ?_
    obtain ⟨index, after, before, same⟩ := fresh
    exact absurd same (distinct index bus.draws after before later.1)
  · exact holds ⟨_, linked.known, fresh⟩

theorem AfterDistinct.of_ready (linked : Linked script start bus)
    (holds : bus.Ready script → Io.After (Bus.answer script) computation own bus post) :
    AfterDistinct script start computation own bus post :=
  .of_linked linked fun ready => (holds ready).imp fun _ _ _ holds _ => holds

theorem Run.after_distinct (idle : start.Idle) (run : Run script start bus)
    (holds : bus.Ready script → AfterDistinct script start computation own bus post) :
    AfterDistinct script start computation own bus post := .of_linked (run.linked idle) holds

theorem AfterDistinct.imp (holds : AfterDistinct script start computation own bus post)
    (weaker : ∀ outcome own' reached, post outcome own' reached → post' outcome own' reached) :
    AfterDistinct script start computation own bus post' :=
  Io.After.imp holds fun outcome own' reached holds distinct =>
    weaker outcome own' reached (holds distinct)

/-- A program that reaches a bus under tags that are not distinct has gone on under such tags. -/
theorem AfterDistinct.of_not_distinct (repeated : ¬start.Distinct script bus) :
    AfterDistinct script start computation own bus post :=
  (after_draws computation own).imp fun _ _ _ later distinct =>
    absurd (fun first second after before most =>
      distinct first second after before (most.trans later.1)) repeated

/-- **Sequencing under distinct tags.** -/
theorem AfterDistinct.bind {next : α → UsbIo δ ε β} {middle : Except ε α → δ → Bus → Prop}
    {post : Except ε β → δ → Bus → Prop} (links : Links computation)
    (linked : Linked script start bus)
    (holds : AfterDistinct script start computation own bus middle)
    (failed : ∀ error own' reached, middle (.error error) own' reached →
      post (.error error) own' reached)
    (succeeded : ∀ value own' reached, Linked script start reached → middle (.ok value) own' reached →
      AfterDistinct script start (next value) own' reached post) :
    AfterDistinct script start (computation >>= next) own bus post := by
  refine Io.After.bind (Io.After.and holds (links script start bus own linked)) ?_ ?_
  · intro error own' reached both distinct
    exact failed error own' reached (both.1 distinct)
  · intro value own' reached both
    by_cases distinct : start.Distinct script reached
    · exact succeeded value own' reached both.2 (both.1 distinct)
    · exact AfterDistinct.of_not_distinct distinct

/-- Whatever the outcome of a request, the program that asked for it goes on. -/
theorem AfterDistinct.attempt_bind {next : Except ε α → UsbIo δ ε' β}
    {middle : Except ε α → δ → Bus → Prop} {post : Except ε' β → δ → Bus → Prop}
    (links : Links computation)
    (linked : Linked script start bus)
    (holds : AfterDistinct script start computation own bus middle)
    (goes : ∀ outcome own' reached, Linked script start reached → middle outcome own' reached →
      AfterDistinct script start (next outcome) own' reached post) :
    AfterDistinct script start (Io.attempt computation >>= next) own bus post := by
  refine Io.after_bind.mpr (Io.after_attempt.mpr ?_)
  refine (Io.After.and holds (links script start bus own linked)).imp fun outcome own' reached both => ?_
  by_cases distinct : start.Distinct script reached
  · exact goes outcome own' reached both.2 (both.1 distinct)
  · exact AfterDistinct.of_not_distinct distinct

theorem AfterDistinct.ofExcept_bind {result : Except ε α} {next : α → UsbIo δ ε β}
    {post : Except ε β → δ → Bus → Prop} (failed : ∀ error, post (.error error) own bus)
    (succeeded : ∀ value, result = .ok value →
      AfterDistinct script start (next value) own bus post) :
    AfterDistinct script start (Io.ofExcept result >>= next) own bus post :=
  Io.After.ofExcept_bind (fun error _ => failed error) succeeded

theorem AfterDistinct.pure {value : α} (holds : post (.ok value) own bus) :
    AfterDistinct script start (Pure.pure value) own bus post := fun _ => holds

theorem AfterDistinct.throw {error : ε} (holds : post (.error error) own bus) :
    AfterDistinct script start (Io.throw error) own bus post := fun _ => holds

theorem AfterDistinct.mapErr {translate : ε → ε'} {post : Except ε' α → δ → Bus → Prop}
    (holds : AfterDistinct script start computation own bus fun outcome own' reached =>
      post (outcome.mapError translate) own' reached) :
    AfterDistinct script start (Io.mapErr translate computation) own bus post :=
  Io.after_mapErr.mpr holds

theorem AfterDistinct.lift {computation : UsbIo Unit ε α} {own : δ}
    (holds : AfterDistinct script start computation () bus fun outcome _ reached =>
      post outcome own reached) :
    AfterDistinct script start (Io.lift computation) own bus post :=
  Io.after_lift.mpr holds

theorem AfterDistinct.inside {γ : Type} {computation : UsbIo γ ε α} {inner : γ} {own : δ}
    {post : Except ε (α × γ) → δ → Bus → Prop}
    (holds : AfterDistinct script start computation inner bus fun outcome inner reached =>
      post (outcome.map fun value => (value, inner)) own reached) :
    AfterDistinct script start (Io.start computation inner) own bus post :=
  Io.after_start.mpr holds

end AfterDistinct

namespace RkBlockDevice

/-! ### Requests on a bus that is not idle -/

/-- The request fails and keeps the cursor, and what it does to the storage is `effect`. -/
def Fails (effect : (Nat → UInt8) → (Nat → UInt8) → Prop) (own : RkBlockDevice) (before : Bus)
    {α : Type} (outcome : Except IoError α) (own' : RkBlockDevice) (reached : Bus) : Prop :=
  (∃ error, outcome = .error error) ∧ own' = own ∧ effect before.target.disk reached.target.disk

variable {effect : (Nat → UInt8) → (Nat → UInt8) → Prop} {own : RkBlockDevice} {α β : Type}

/-- What follows is not reached. -/
theorem Fails.bind {first : UsbIo RkBlockDevice IoError α} {next : α → UsbIo RkBlockDevice IoError β}
    (fails : Io.After (Bus.answer script) first own bus (Fails effect own bus)) :
    Io.After (Bus.answer script) (first >>= next) own bus (Fails effect own bus) := by
  refine Io.After.bind fails (fun error own' reached failed => ?_) fun value own' reached failed => ?_
  · exact ⟨⟨error, rfl⟩, failed.2⟩
  · obtain ⟨⟨error, same⟩, -⟩ := failed
    cases same

/-- The first command of a phase, for the sector at a position. -/
theorem sector_fails (ready : bus.Ready script) (busy : ¬bus.Idle) {sector : Nat}
    {call : UInt32 → UsbIo Unit RkUsbError α} {next : UInt32 → α → UsbIo RkBlockDevice IoError β}
    (refl : ∀ disk, effect disk disk)
    (fails : ∀ lba, lba.toNat = sector → FailsUnlessIdle script effect (call lba)) :
    Io.After (Bus.answer script) (Io.ofExcept (tryLba sector) >>= fun lba =>
      rkdev (call lba) >>= next lba) own bus (Fails effect own bus) := by
  refine Io.After.ofExcept_bind (fun error => ⟨⟨error, rfl⟩, rfl, refl _⟩) fun lba found => ?_
  refine Fails.bind (Io.after_mapErr.mpr (Io.after_lift.mpr ?_))
  refine (fails lba (tryLba_ok found) bus ready busy).imp ?_
  intro outcome _ reached failed
  cases outcome with
  | ok value => exact absurd rfl (failed.1 value)
  | error error => exact ⟨⟨_, rfl⟩, rfl, failed.2⟩

/-- The read of an edge sector. -/
theorem readSector_fails (refl : ∀ disk, effect disk disk) (lba : UInt32) (subcode : UInt8)
    (timeout : Duration) : FailsUnlessIdle script effect
      (readLba lba (List.replicate SECTOR_SIZE 0) subcode timeout) := by
  have some : (List.replicate SECTOR_SIZE (0 : UInt8)).length ≠ 0 := by
    rw [List.length_replicate]
    decide
  refine (readLba_failsUnlessIdle some lba subcode timeout).mono fun disk disk' kept => ?_
  rw [show disk' = disk from kept]
  exact refl disk

/-- The phase has nothing to do, or it fails. -/
def Skips (effect : (Nat → UInt8) → (Nat → UInt8) → Prop) (own : RkBlockDevice) (before : Bus)
    (nothing : Prop) (skipped : α) (outcome : Except IoError α) (own' : RkBlockDevice)
    (reached : Bus) : Prop :=
  Fails effect own before outcome own' reached ∨
    nothing ∧ outcome = .ok skipped ∧ own' = own ∧ reached = before

theorem phase_skips {acts : Prop} [Decidable acts]
    {body : RkBlockDevice → UsbIo RkBlockDevice IoError α} {skipped : α}
    (fails : acts → Io.After (Bus.answer script) (body own) own bus (Fails effect own bus)) :
    Io.After (Bus.answer script) (Io.get >>= fun self => if acts then body self else pure skipped)
      own bus (Skips effect own bus (¬acts) skipped) := by
  refine Io.after_get_bind.mpr ?_
  by_cases some : acts
  · rw [if_pos some]
    exact (fails some).imp fun _ _ _ failed => .inl failed
  · rw [if_neg some]
    exact Io.after_pure.mpr (.inr ⟨some, rfl, rfl, rfl⟩)

/-- What follows a phase that has nothing to do. -/
theorem Skips.bind {nothing : Prop} {skipped : α} {first : UsbIo RkBlockDevice IoError α}
    {next : α → UsbIo RkBlockDevice IoError β}
    (skips : Io.After (Bus.answer script) first own bus (Skips effect own bus nothing skipped))
    (fails : nothing →
      Io.After (Bus.answer script) (next skipped) own bus (Fails effect own bus)) :
    Io.After (Bus.answer script) (first >>= next) own bus (Fails effect own bus) := by
  refine Io.After.bind skips (fun error own' reached skips => ?_) fun value own' reached skips => ?_
  · rcases skips with failed | ⟨-, same, -⟩
    · exact ⟨⟨error, rfl⟩, failed.2⟩
    · cases same
  · rcases skips with ⟨⟨error, same⟩, -⟩ | ⟨nothing, same, rfl, rfl⟩
    · cases same
    · cases same
      exact fails nothing

theorem length_whole (buf : List UInt8) :
    (buf.take (buf.length / SECTOR_SIZE * SECTOR_SIZE)).length =
      buf.length / SECTOR_SIZE * SECTOR_SIZE := by
  rw [List.length_take, Nat.min_eq_left (Nat.div_mul_le_self _ _)]

/-- **A read** on a bus that is not idle. -/
theorem read_busy (ready : bus.Ready script) (busy : ¬bus.Idle) (own : RkBlockDevice)
    {buf : List UInt8} (some : buf ≠ []) :
    Io.After (Bus.answer script) (read buf) own bus (Fails Rkusb.Kept own bus) := by
  have refl := Rkusb.Kept.refl
  unfold read
  rw [if_neg some]
  refine Io.after_get_bind.mpr ?_
  refine Io.After.ofExcept_bind (fun error => ⟨⟨error, rfl⟩, rfl, rfl⟩) fun endPos _ => ?_
  refine Skips.bind (phase_skips fun unaligned => ?_) fun aligned => ?_
  · exact sector_fails ready busy refl fun lba _ => readSector_fails refl lba _ _
  refine Skips.bind (phase_skips fun whole => ?_) fun partly => ?_
  · refine sector_fails ready busy refl fun lba _ => readLba_failsUnlessIdle ?_ lba _ _
    rw [length_whole]
    exact whole
  refine Skips.bind (phase_skips fun _ => ?_) fun none => absurd some none
  exact sector_fails ready busy refl fun lba _ => readSector_fails refl lba _ _

/-- **A write** on a bus that is not idle. -/
theorem write_busy (ready : bus.Ready script) (busy : ¬bus.Idle) (own : RkBlockDevice)
    {buf : List UInt8} (some : buf ≠ []) :
    Io.After (Bus.answer script) (write buf) own bus (Fails (Began own.pos buf) own bus) := by
  have refl := Began.refl own.pos buf
  unfold write
  rw [if_neg some]
  refine Io.after_get_bind.mpr ?_
  refine Io.After.ofExcept_bind (fun error => ⟨⟨error, rfl⟩, rfl, refl _⟩) fun endPos _ => ?_
  refine Skips.bind (phase_skips fun unaligned => ?_) fun aligned => ?_
  · exact sector_fails ready busy refl fun lba _ => readSector_fails refl lba _ _
  refine Skips.bind (phase_skips fun whole => ?_) fun partly => ?_
  · refine sector_fails ready busy refl fun lba sector => ?_
    have start : STORAGE_SECTOR_SIZE * lba.toNat = own.pos := by
      have split := Nat.div_add_mod own.pos SECTOR_SIZE
      rw [not_not.mp aligned, Nat.add_zero] at split
      rw [sector]
      exact split
    have fails := @writeLba_failsUnlessIdle script
      (buf.take (buf.length / SECTOR_SIZE * SECTOR_SIZE)) (by
        rw [length_whole]
        exact whole) lba own.subcode own.timeout
    rw [start] at fails
    refine fails.mono fun disk disk' began => ?_
    obtain ⟨count, most, same⟩ := began
    rw [length_whole] at most
    refine ⟨count, most.trans (Nat.div_mul_le_self _ _), ?_⟩
    rw [same, List.take_take, Nat.min_eq_left most]
  refine Skips.bind (phase_skips fun _ => ?_) fun none => absurd some none
  exact sector_fails ready busy refl fun lba _ => readSector_fails refl lba _ _

/-! ### One request -/

/-- A beginning of the buffer is written at the cursor. On `Ok` it is all of the buffer and the cursor
moves past it, and else the cursor stays. -/
def Leaves (own : RkBlockDevice) (buf : List UInt8) (before : Bus) (outcome : Except IoError Nat)
    (own' : RkBlockDevice) (reached : Bus) : Prop :=
  Began own.pos buf before.target.disk reached.target.disk ∧
    (∀ error, outcome = .error error → own' = own) ∧
    ∀ result, outcome = .ok result → result = buf.length ∧
      own' = { own with pos := own.pos + buf.length } ∧
      reached.target.disk = splice before.target.disk own.pos buf

/-- **A write**, whatever it finds on the bus. -/
theorem write_leaves (ready : bus.Ready script) (own : RkBlockDevice) (buf : List UInt8) :
    Io.After (Bus.answer script) (write buf) own bus (Leaves own buf bus) := by
  by_cases idle : bus.Idle
  · refine (write_effect idle own buf).imp ?_
    intro outcome own' reached holds
    obtain ⟨puts, stays, moves⟩ := holds
    refine ⟨?_, stays, fun result same => ⟨(moves result same).1, (moves result same).2, ?_⟩⟩
    · obtain ⟨count, most, disk, -⟩ := puts.wrote
      exact ⟨count, most, disk⟩
    · rw [same] at puts
      exact puts.wrote.written.1
  · by_cases empty : buf = []
    · rw [empty, write, if_pos rfl]
      refine ⟨.refl _ _ _, fun _ _ => rfl, fun result same => ?_⟩
      cases same
      exact ⟨rfl, rfl, (splice_nil _ _).symm⟩
    · refine (write_busy ready idle own empty).imp ?_
      intro outcome own' reached failed
      obtain ⟨⟨error, rfl⟩, same, began⟩ := failed
      exact ⟨began, fun _ _ => same, fun _ fails => (by cases fails)⟩

/-- **A read**, whatever it finds on the bus. -/
theorem read_leaves (ready : bus.Ready script) (own : RkBlockDevice) (buf : List UInt8) :
    Io.After (Bus.answer script) (read buf) own bus fun outcome own' reached =>
      reached.target.disk = bus.target.disk ∧ ∀ error, outcome = .error error → own' = own := by
  by_cases idle : bus.Idle
  · refine (read_effect idle own buf).imp ?_
    intro outcome own' reached holds
    exact ⟨holds.1, holds.2.1⟩
  · by_cases empty : buf = []
    · rw [empty, read, if_pos rfl]
      exact ⟨rfl, fun _ _ => rfl⟩
    · refine (read_busy ready idle own empty).imp ?_
      intro outcome own' reached failed
      exact ⟨failed.2.2, fun _ _ => failed.2.1⟩

/-! ### Repeated requests -/

theorem rkdev_runs {call : UsbIo Unit RkUsbError α} (runs : Runs call) : Runs (rkdev call) :=
  runs.lift.mapErr

/-- A phase that transfers something or nothing. -/
theorem phase_runs {acts : Prop} [Decidable acts]
    {body : RkBlockDevice → UsbIo RkBlockDevice IoError α} {skipped : α}
    (runs : ∀ self, Runs (body self)) :
    Runs (Io.get >>= fun self => if acts then body self else pure skipped) := by
  refine Runs.get.bind fun self => ?_
  by_cases some : acts
  · rw [if_pos some]
    exact runs self
  · rw [if_neg some]
    exact .pure _

theorem write_runs (buf : List UInt8) : Runs (write buf) := by
  unfold write
  by_cases empty : buf = []
  · rw [if_pos empty]
    exact .pure _
  rw [if_neg empty]
  refine Runs.get.bind fun self => (Runs.ofExcept _).bind fun endPos => ?_
  refine Runs.bind (phase_runs fun self => (Runs.ofExcept _).bind fun lba => ?_) fun head => ?_
  · refine (rkdev_runs (readLba_runs lba _ _ _)).bind fun tmp => ?_
    refine (rkdev_runs (writeLba_runs lba _ _ _)).bind fun _ => ?_
    exact (Runs.ofExcept _).bind fun pos => .pure _
  refine Runs.bind (phase_runs fun self => (Runs.ofExcept _).bind fun lba => ?_) fun middle => ?_
  · refine (rkdev_runs (writeLba_runs lba _ _ _)).bind fun _ => ?_
    exact (Runs.ofExcept _).bind fun pos => .pure _
  refine Runs.bind (phase_runs fun self => (Runs.ofExcept _).bind fun lba => ?_)
    fun _ => (Runs.modify _).bind fun _ => .pure _
  exact (rkdev_runs (readLba_runs lba _ _ _)).bind fun tmp => rkdev_runs (writeLba_runs lba _ _ _)

/-- A write that is repeated while it fails, a number of times at most. -/
def writeUntilOk (buf : List UInt8) : Nat → UsbIo RkBlockDevice IoError Nat
  | 0 => write buf
  | retries + 1 => do
      let outcome ← Io.attempt (write buf)
      match outcome with
      | .ok count => pure count
      | .error _ => writeUntilOk buf retries

/-- A write over a beginning of it that was left there. -/
theorem Leaves.after {own own' : RkBlockDevice} {buf : List UInt8} {before middle reached : Bus}
    {outcome : Except IoError Nat} (began : Began own.pos buf before.target.disk middle.target.disk)
    (leaves : Leaves own buf middle outcome own' reached) :
    Leaves own buf before outcome own' reached := by
  obtain ⟨count, most, disk⟩ := began
  obtain ⟨⟨count', most', disk'⟩, stays, moves⟩ := leaves
  refine ⟨⟨max count count', Nat.max_le.mpr ⟨most, most'⟩, ?_⟩, stays, fun result same => ?_⟩
  · rw [disk', disk, splice_take_splice_take]
  · obtain ⟨counted, moved, written⟩ := moves result same
    refine ⟨counted, moved, ?_⟩
    have whole := splice_take_splice_take before.target.disk own.pos count buf.length buf
    rw [Nat.max_eq_right most, List.take_length] at whole
    rw [written, disk, whole]

/-- **Retries add up to one write.** -/
theorem writeUntilOk_leaves {start : Bus} (idle : start.Idle) (run : Run script start bus)
    (own : RkBlockDevice) (buf : List UInt8) (retries : Nat) :
    Io.After (Bus.answer script) (writeUntilOk buf retries) own bus fun outcome own' reached =>
      start.Distinct script reached → Leaves own buf bus outcome own' reached := by
  induction retries generalizing bus with
  | zero =>
    refine run.after_distinct idle fun ready => ?_
    exact (write_leaves ready own buf).imp fun _ _ _ leaves _ => leaves
  | succ retries ih =>
    refine run.after_distinct idle fun ready => ?_
    refine Io.after_bind.mpr (Io.after_attempt.mpr ?_)
    refine ((write_leaves ready own buf).and (write_runs buf script start bus own run)).imp ?_
    intro outcome own' middle both
    obtain ⟨leaves, later, -⟩ := both
    cases outcome with
    | ok count => exact Io.after_pure.mpr fun _ => leaves
    | error error =>
      obtain ⟨began, stays, -⟩ := leaves
      rw [stays error rfl]
      refine (ih later).imp ?_
      intro outcome own' reached repeats distinct
      exact (repeats distinct).after began

/-- **Failed requests can be repeated**, at every point of every run of commands, under distinct tags
and whatever becomes of the commands. A write that returns `Err` keeps the cursor and every byte
outside its range. Repeated until it returns `Ok`, it leaves what a single write that returns `Ok`
leaves: the buffer at the cursor, and the cursor past it. A read or a seek that returns `Err` keeps
the cursor and the storage. -/
theorem failed_requests_repeatable {start : Bus} (idle : start.Idle) (run : Run script start bus)
    (own : RkBlockDevice) :
    (∀ buf, Io.After (Bus.answer script) (write buf) own bus fun outcome own' reached =>
      start.Distinct script reached →
        (∀ error, outcome = .error error → own' = own ∧
          ∀ place, ¬(own.pos ≤ place ∧ place < own.pos + buf.length) →
            reached.target.disk place = bus.target.disk place) ∧
        ∀ result, outcome = .ok result → own' = { own with pos := own.pos + buf.length } ∧
          reached.target.disk = splice bus.target.disk own.pos buf) ∧
    (∀ buf retries,
      Io.After (Bus.answer script) (writeUntilOk buf retries) own bus fun outcome own' reached =>
        start.Distinct script reached →
          ∀ result, outcome = .ok result → own' = { own with pos := own.pos + buf.length } ∧
            reached.target.disk = splice bus.target.disk own.pos buf) ∧
    (∀ buf, Io.After (Bus.answer script) (read buf) own bus fun outcome own' reached =>
      start.Distinct script reached → ∀ error, outcome = .error error →
        own' = own ∧ reached.target.disk = bus.target.disk) ∧
    ∀ target, Io.After (Bus.answer script) (seek target) own bus fun outcome own' reached =>
      ∀ error, outcome = .error error → own' = own ∧ reached.target.disk = bus.target.disk := by
  refine ⟨fun buf => run.after_distinct idle fun ready => ?_, fun buf retries => ?_,
    fun buf => run.after_distinct idle fun ready => ?_, fun target => ?_⟩
  · refine (write_leaves ready own buf).imp ?_
    intro outcome own' reached leaves _
    obtain ⟨⟨count, most, disk⟩, stays, moves⟩ := leaves
    refine ⟨fun error same => ⟨stays error same, fun place outside => ?_⟩,
      fun result same => (moves result same).2⟩
    rw [disk]
    refine splice_of_outside _ _ _ fun inside => outside ⟨inside.1, inside.2.trans_le ?_⟩
    rw [List.length_take, Nat.min_eq_left most]
    exact Nat.add_le_add_left most _
  · refine (writeUntilOk_leaves idle run own buf retries).imp ?_
    intro outcome own' reached leaves distinct result same
    exact ((leaves distinct).2.2 result same).2
  · refine (read_leaves ready own buf).imp ?_
    intro outcome own' reached leaves _ error same
    exact ⟨leaves.2 error same, leaves.1⟩
  · refine (seek_effect own target).imp ?_
    intro outcome own' reached moved error fails
    obtain ⟨rfl, moved⟩ := moved
    cases found : (own.sought target).filter (· < own.diskSizeBytes) with
    | none =>
      rw [found] at moved
      exact ⟨moved.2, rfl⟩
    | some newPos =>
      rw [found, fails] at moved
      cases moved.1

/-- The status of the second command is lost. -/
def statusLost : Script :=
  { Script.undisturbed with faults := fun index => if index = 5 then .error .timeout true else .none }

/-- The tags of a script that counts are distinct for a while. -/
theorem statusLost_distinct {start reached : Bus} (few : reached.draws < 2 ^ 32) :
    start.Distinct statusLost reached := by
  intro first second _ earlier most same
  have counted : ∀ index, index < 2 ^ 32 → (statusLost.tags index).toNat = index :=
    fun index small => UInt32.toNat_ofNat_of_lt' small
  have numbers := congrArg UInt32.toNat same
  rw [counted first (by omega), counted second (by omega)] at numbers
  omega

/-- A byte is written into sector 0 of a new device. The write back of the sector is carried out and
reported as failed, and a second write returns `Ok`. -/
theorem failed_requests_repeatable_statusLost :
    Io.After (Bus.answer statusLost) (writeUntilOk [7] 1) ⟨100, 1024, 0, 1⟩ (Bus.fresh fun _ => 0)
      fun outcome own' reached => outcome = .ok 1 ∧ own'.pos = 101 ∧
        reached.target.disk = splice (fun _ => 0) 100 [7] := by
  have repeats := (failed_requests_repeatable (Bus.fresh_idle _)
    (Run.start : Run statusLost (Bus.fresh fun _ => 0) (Bus.fresh fun _ => 0))
    ⟨100, 1024, 0, 1⟩).2.1 [7] 1
  obtain ⟨returns, few⟩ : ((writeUntilOk [7] 1).run (Bus.answer statusLost) ⟨100, 1024, 0, 1⟩
        (Bus.fresh fun _ => 0)).1.1 = .ok 1 ∧
      ((writeUntilOk [7] 1).run (Bus.answer statusLost) ⟨100, 1024, 0, 1⟩
        (Bus.fresh fun _ => 0)).2.draws = 4 := by decide +kernel
  have left := repeats (statusLost_distinct (few ▸ by decide)) 1 returns
  exact ⟨returns, congrArg RkBlockDevice.pos left.1, left.2⟩

end RkBlockDevice

end Rkusb
