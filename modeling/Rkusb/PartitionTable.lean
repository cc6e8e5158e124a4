/-
**Partition tables that are read off the device** (the `gpt` crate, as the tools use it).

The tools open a partition table over a `RkBlockDevice` and never let the crate write. What the crate
does is a parameter: a `DiskReader`, which seeks, reads and computes, and nothing else.

* `DiskReader.run_finds`: under distinct tags, and whatever becomes of its requests, a reader leaves
  the storage alone, and what it returns is computed from bytes that are stored (`DiskReader.Finds`).
* `selectPartition_eq_ok_iff`: a partition is selected when it has the lowest index of those that match.
-/

import Rkusb.Serial
import Rkusb.Upgrade

namespace Rkusb

open Interaction Bytes FlatStore

variable {script : Script} {start bus : Bus}

/-! ### Requests that do not concern the storage -/

/-- What is made of a result does not matter to the bus. -/
theorem after_of_bind_pure {δ ε α β : Type} {first : UsbIo δ ε α} {next : α → β} {own : δ}
    {holds : Bus → Prop} (after : Io.After (Bus.answer script) (first >>= fun value => pure (next value))
      own bus fun _ _ reached => holds reached) :
    Io.After (Bus.answer script) first own bus fun _ _ reached => holds reached := by
  refine (Io.after_bind.mp after).imp fun outcome own' reached holds => ?_
  cases outcome <;> exact holds

theorem readStorageInfo_keeps (ready : bus.Ready script) :
    Io.After (Bus.answer script) readStorageInfo () bus fun _ _ reached =>
      reached.target.flash = bus.target.flash :=
  after_of_bind_pure (LibraryCall.exec_leaves ready .readStorageInfo)

theorem readStorage_keeps (ready : bus.Ready script) :
    Io.After (Bus.answer script) readStorage () bus fun _ _ reached =>
      reached.target.flash = bus.target.flash :=
  after_of_bind_pure (LibraryCall.exec_leaves ready .readStorage)

namespace RkBlockDevice

/-- A device that starts at the beginning of the storage. -/
def opened (flashSize : UInt32) : RkBlockDevice :=
  new (flashSize.toNat * SECTOR_SIZE) DEFAULT_LBA_SUBCODE DEFAULT_IO_TIMEOUT

theorem tryFrom_runs : Runs tryFrom := by
  unfold tryFrom
  refine readStorageInfo_runs.mapErr.bind fun info => ?_
  split
  · exact .pure _
  · exact .throw _

theorem tryFrom_opens (ready : bus.Ready script) :
    Io.After (Bus.answer script) tryFrom () bus fun outcome _ reached =>
      reached.target.disk = bus.target.disk ∧
        ∀ device, outcome = .ok device → ∃ flashSize, device = opened flashSize := by
  unfold tryFrom
  refine Io.after_bind.mpr (Io.after_mapErr.mpr ((readStorageInfo_keeps ready).imp ?_))
  intro outcome _ reached kept
  have same : reached.target.disk = bus.target.disk := congrArg Banks.current kept
  cases outcome with
  | error error => exact ⟨same, nofun⟩
  | ok info =>
    show Io.After _ (ite _ _ _) _ _ _
    split
    · refine ⟨same, fun device ok => ⟨info.flashSize, ?_⟩⟩
      cases ok
      rfl
    · exact ⟨same, nofun⟩

end RkBlockDevice

/-! ### Readers of a disk -/

/-- A program over the device that seeks and reads, and goes on whatever comes of it. -/
inductive DiskReader (α : Type)
  | done (value : α)
  | seek (target : SeekFrom) (next : Except IoError Nat → DiskReader α)
  | read (buf : List UInt8) (next : Except IoError (Nat × List UInt8) → DiskReader α)

namespace DiskReader

variable {ε α : Type}

def run : DiskReader α → UsbIo RkBlockDevice ε α
  | .done value => pure value
  | .seek target next => do
      let outcome ← Io.attempt (RkBlockDevice.seek target)
      (next outcome).run
  | .read buf next => do
      let outcome ← Io.attempt (RkBlockDevice.read buf)
      (next outcome).run

/-- The reader returns the value over the device: every seek leads where it asks to, and every read
returns the bytes at the cursor, or fails. -/
inductive Finds (disk : Nat → UInt8) : RkBlockDevice → DiskReader α → α → Prop
  | done {own : RkBlockDevice} (value : α) : Finds disk own (.done value) value
  | seek {own : RkBlockDevice} {target : SeekFrom} {next : Except IoError Nat → DiskReader α}
      {pos : Nat} {value : α} : own.sought target = some pos → pos < own.diskSizeBytes →
      Finds disk { own with pos := pos } (next (.ok pos)) value →
      Finds disk own (.seek target next) value
  | seekFailed {own : RkBlockDevice} {target : SeekFrom}
      {next : Except IoError Nat → DiskReader α} {value : α} (error : IoError) :
      Finds disk own (next (.error error)) value → Finds disk own (.seek target next) value
  | read {own : RkBlockDevice} {buf : List UInt8}
      {next : Except IoError (Nat × List UInt8) → DiskReader α} {value : α} :
      Finds disk { own with pos := own.pos + buf.length }
        (next (.ok (buf.length, slice disk own.pos buf.length))) value →
      Finds disk own (.read buf next) value
  | readFailed {own : RkBlockDevice} {buf : List UInt8}
      {next : Except IoError (Nat × List UInt8) → DiskReader α} {value : α} (error : IoError) :
      Finds disk own (next (.error error)) value → Finds disk own (.read buf next) value

end DiskReader

namespace RkBlockDevice

theorem read_runs (buf : List UInt8) : Runs (read buf) := by
  unfold read
  split
  · exact .pure _
  refine Runs.get.bind fun self => (Runs.ofExcept _).bind fun endPos => ?_
  refine Runs.bind (phase_runs fun self => (Runs.ofExcept _).bind fun lba => ?_) fun head => ?_
  · refine (rkdev_runs (readLba_runs lba _ _ _)).bind fun tmp => ?_
    exact (Runs.ofExcept _).bind fun pos => .pure _
  refine Runs.bind (phase_runs fun self => (Runs.ofExcept _).bind fun lba => ?_) fun middle => ?_
  · refine (rkdev_runs (readLba_runs lba _ _ _)).bind fun aligned => ?_
    exact (Runs.ofExcept _).bind fun pos => .pure _
  refine Runs.bind (phase_runs fun self => (Runs.ofExcept _).bind fun lba => ?_)
    fun tail => (Runs.modify _).bind fun _ => .pure _
  exact (rkdev_runs (readLba_runs lba _ _ _)).bind fun tmp => .pure _

theorem seek_runs (target : SeekFrom) : Runs (seek target) :=
  Runs.get.bind fun _ => (Runs.ofExcept _).bind fun _ => (Runs.modify _).bind fun _ => .pure _

/-- **A read**, whatever it finds on the bus: it fails and keeps the cursor, or it returns the bytes at
the cursor. -/
theorem read_returns (ready : bus.Ready script) (own : RkBlockDevice) (buf : List UInt8) :
    Io.After (Bus.answer script) (read buf) own bus fun outcome own' reached =>
      reached.target.disk = bus.target.disk ∧ (∀ error, outcome = .error error → own' = own) ∧
        ∀ result, outcome = .ok result →
          result = (buf.length, slice bus.target.disk own.pos buf.length) ∧
            own' = { own with pos := own.pos + buf.length } := by
  by_cases idle : bus.Idle
  · refine (read_effect idle own buf).imp fun outcome own' reached holds => ?_
    exact ⟨holds.1, holds.2.1, fun result same => (holds.2.2.1 result same).2⟩
  · by_cases empty : buf = []
    · rw [empty, read, if_pos rfl]
      refine ⟨rfl, fun _ _ => rfl, fun result same => ?_⟩
      cases same
      exact ⟨rfl, rfl⟩
    · refine (read_busy ready idle own empty).imp fun outcome own' reached failed => ?_
      obtain ⟨⟨error, rfl⟩, same, kept⟩ := failed
      exact ⟨kept, fun _ _ => same, fun _ fails => (by cases fails)⟩

/-- **A seek** fails and keeps the cursor, or it leads onto the disk. -/
theorem seek_leads (own : RkBlockDevice) (target : SeekFrom) :
    Io.After (Bus.answer script) (seek target) own bus fun outcome own' reached =>
      reached = bus ∧ (∀ error, outcome = .error error → own' = own) ∧
        ∀ pos, outcome = .ok pos → own.sought target = some pos ∧ pos < own.diskSizeBytes ∧
          own' = { own with pos := pos } := by
  unfold seek
  refine Io.after_get_bind.mpr ?_
  refine Io.After.ofExcept_bind (fun error => ⟨rfl, fun _ _ => rfl, fun _ fails => by cases fails⟩)
    fun pos found => ⟨rfl, fun _ fails => (by cases fails), fun pos' same => ?_⟩
  cases same
  split at found
  · rename_i pos' onto
    cases found
    obtain ⟨sought, inside⟩ := Option.filter_eq_some_iff.mp onto
    exact ⟨sought, of_decide_eq_true inside, rfl⟩
  · cases found

end RkBlockDevice

namespace DiskReader

variable {ε α : Type}

theorem run_runs (reader : DiskReader α) : Runs (reader.run : UsbIo RkBlockDevice ε α) := by
  induction reader with
  | done value => exact .pure value
  | seek target next ih => exact (RkBlockDevice.seek_runs target).attempt.bind ih
  | read buf next ih => exact (RkBlockDevice.read_runs buf).attempt.bind ih

/-- **Readers leave the storage alone**, and what they return comes from what is stored. -/
theorem run_finds (linked : Linked script start bus) (reader : DiskReader α) (own : RkBlockDevice) :
    AfterDistinct script start (reader.run : UsbIo RkBlockDevice ε α) own bus
      fun outcome own' reached => reached.target.disk = bus.target.disk ∧
        params own' = params own ∧
        ∃ value, outcome = .ok value ∧ Finds bus.target.disk own reader value := by
  induction reader generalizing own bus with
  | done value => exact .pure ⟨rfl, rfl, value, rfl, .done value⟩
  | seek target next ih =>
    refine AfterDistinct.attempt_bind (RkBlockDevice.seek_runs target).links linked
      (.of_ready linked fun _ => RkBlockDevice.seek_leads own target) ?_
    intro outcome own' reached later led
    obtain ⟨rfl, stays, leads⟩ := led
    cases outcome with
    | error error =>
      obtain rfl := stays error rfl
      refine (ih _ later _).imp ?_
      rintro outcome own'' reached' ⟨same, kept, value, rfl, finds⟩
      exact ⟨same, kept, value, rfl, .seekFailed error finds⟩
    | ok pos =>
      obtain ⟨sought, inside, rfl⟩ := leads pos rfl
      refine (ih _ later _).imp ?_
      rintro outcome own'' reached' ⟨same, kept, value, rfl, finds⟩
      exact ⟨same, kept, value, rfl, .seek sought inside finds⟩
  | read buf next ih =>
    refine AfterDistinct.attempt_bind (RkBlockDevice.read_runs buf).links linked
      (.of_ready linked fun ready => RkBlockDevice.read_returns ready own buf) ?_
    intro outcome own' reached later returned
    obtain ⟨disk, stays, returns⟩ := returned
    cases outcome with
    | error error =>
      obtain rfl := stays error rfl
      refine (ih _ later _).imp ?_
      rintro outcome own'' reached' ⟨same, kept, value, rfl, finds⟩
      rw [disk] at same finds
      exact ⟨same, kept, value, rfl, .readFailed error finds⟩
    | ok result =>
      obtain ⟨rfl, rfl⟩ := returns result rfl
      refine (ih _ later _).imp ?_
      rintro outcome own'' reached' ⟨same, kept, value, rfl, finds⟩
      rw [disk] at same finds
      exact ⟨same, kept, value, rfl, .read finds⟩

end DiskReader

/-! ### Block sizes -/

/-- The size of a logical block in sectors. -/
def RkFlashInfo.lbaSize (info : RkFlashInfo) : Nat :=
  if info.manufacture ≤ 200 then 1 else info.manufacture.toNat - 200

/-- The block sizes that the tools support. -/
def LogicalBlockSize.ofSectors : Nat → Option LogicalBlockSize
  | 1 => some .lb512
  | 8 => some .lb4096
  | _ => none

/-! ### Tables -/

/-- A `gpt::partition::Partition`, with its GUID as it is printed. -/
structure GptPartition extends NamedPartition where
  partGuid : String

/-- The partitions of a disk by their indexes, as a `BTreeMap` has them: in ascending order. -/
structure Partitions where
  entries : List (UInt32 × GptPartition)
  ascending : entries.Pairwise fun first second => first.1 < second.1

/-- A table with one partition. -/
def Partitions.single (id : UInt32) (part : GptPartition) : Partitions :=
  ⟨[(id, part)], List.pairwise_singleton _ _⟩

/-- The options of a transfer. One of the first three is given. -/
structure PartitionTransferArgs where
  name : Option String
  guid : Option String
  index : Option UInt32
  path : String

inductive SelectPartitionError
  | nameNotFound (name : String)
  | guidNotFound (guid : String)
  | indexNotFound (index : UInt32)
  | unreachableSelectorState
  deriving DecidableEq

/-- `str::to_ascii_lowercase`. -/
def toAsciiLowercase (text : String) : String := text.map Char.toLower

/-- The first of the partitions that match. -/
def Partitions.find (partitions : Partitions) (matching : UInt32 × GptPartition → Bool)
    (error : SelectPartitionError) : Except SelectPartitionError GptPartition :=
  match partitions.entries.find? matching with
  | some entry => .ok entry.2
  | none => .error error

def selectPartition (partitions : Partitions) (selector : PartitionTransferArgs) :
    Except SelectPartitionError GptPartition :=
  match selector.name with
  | some name => partitions.find (fun (_, part) => part.name = name) (.nameNotFound name)
  | none =>
    match selector.guid with
    | some guid => partitions.find
        (fun (_, part) => toAsciiLowercase part.partGuid = toAsciiLowercase guid) (.guidNotFound guid)
    | none =>
      match selector.index with
      | some index => partitions.find (fun (id, _) => id = index) (.indexNotFound index)
      | none => .error .unreachableSelectorState

/-- The partition is one that the options ask for. A name is asked for before a GUID, and a GUID before
an index. -/
def PartitionTransferArgs.AsksFor (selector : PartitionTransferArgs) (id : UInt32)
    (part : GptPartition) : Prop :=
  match selector.name, selector.guid, selector.index with
  | some name, _, _ => part.name = name
  | none, some guid, _ => toAsciiLowercase part.partGuid = toAsciiLowercase guid
  | none, none, some index => id = index
  | none, none, none => False

/-- The partition has the lowest index of those that are asked for. -/
def Partitions.Selects (partitions : Partitions) (selector : PartitionTransferArgs)
    (part : GptPartition) : Prop :=
  ∃ id, (id, part) ∈ partitions.entries ∧ selector.AsksFor id part ∧
    ∀ entry ∈ partitions.entries, entry.1 < id → ¬selector.AsksFor entry.1 entry.2

/-- What is found first in ascending order has the lowest index. -/
theorem find?_eq_some_iff_lowest {entries : List (UInt32 × GptPartition)}
    (ascending : entries.Pairwise fun first second => first.1 < second.1)
    {matching : UInt32 × GptPartition → Bool} {found : UInt32 × GptPartition} :
    entries.find? matching = some found ↔ found ∈ entries ∧ matching found ∧
      ∀ entry ∈ entries, entry.1 < found.1 → ¬matching entry := by
  induction entries with
  | nil => simp
  | cons first rest ih =>
    obtain ⟨before, ascending⟩ := List.pairwise_cons.mp ascending
    by_cases here : matching first
    · rw [List.find?_cons_of_pos here]
      constructor
      · intro same
        cases same
        refine ⟨List.mem_cons_self, here, fun entry member lower => ?_⟩
        obtain rfl | member := List.mem_cons.mp member
        · exact absurd lower (UInt32.lt_irrefl _)
        · exact absurd (before entry member) (UInt32.lt_asymm lower)
      · rintro ⟨member, matched, lowest⟩
        obtain rfl | member := List.mem_cons.mp member
        · rfl
        · exact absurd here (lowest first List.mem_cons_self (before _ member))
    · rw [List.find?_cons_of_neg here, ih ascending]
      constructor
      · rintro ⟨member, matched, lowest⟩
        refine ⟨List.mem_cons_of_mem _ member, matched, fun entry member lower => ?_⟩
        obtain rfl | member := List.mem_cons.mp member
        · exact here
        · exact lowest entry member lower
      · rintro ⟨member, matched, lowest⟩
        obtain rfl | member := List.mem_cons.mp member
        · exact absurd matched here
        · exact ⟨member, matched, fun entry member lower =>
            lowest entry (List.mem_cons_of_mem _ member) lower⟩

theorem Partitions.find_eq_ok_iff {partitions : Partitions}
    {matching : UInt32 × GptPartition → Bool} {error : SelectPartitionError} {part : GptPartition}
    {asked : UInt32 → GptPartition → Prop} (same : ∀ entry, matching entry ↔ asked entry.1 entry.2) :
    partitions.find matching error = .ok part ↔ ∃ id, (id, part) ∈ partitions.entries ∧
      asked id part ∧ ∀ entry ∈ partitions.entries, entry.1 < id → ¬asked entry.1 entry.2 := by
  have lowest : ∀ id part, partitions.entries.find? matching = some (id, part) ↔
      (id, part) ∈ partitions.entries ∧ asked id part ∧
        ∀ entry ∈ partitions.entries, entry.1 < id → ¬asked entry.1 entry.2 := fun id part =>
    (find?_eq_some_iff_lowest partitions.ascending).trans (by simp only [same])
  unfold find
  constructor
  · intro found
    split at found
    · rename_i entry first
      cases found
      exact ⟨entry.1, (lowest _ _).mp first⟩
    · cases found
  · rintro ⟨id, selected⟩
    rw [(lowest _ _).mpr selected]

/-- **What is selected** is what has the lowest index of all that is asked for. -/
theorem selectPartition_eq_ok_iff {partitions : Partitions} {selector : PartitionTransferArgs}
    {part : GptPartition} :
    selectPartition partitions selector = .ok part ↔ partitions.Selects selector part := by
  obtain ⟨name, guid, index, path⟩ := selector
  cases name with
  | some name => exact Partitions.find_eq_ok_iff fun entry => decide_eq_true_iff
  | none =>
    cases guid with
    | some guid => exact Partitions.find_eq_ok_iff fun entry => decide_eq_true_iff
    | none =>
      cases index with
      | some index => exact Partitions.find_eq_ok_iff fun entry => decide_eq_true_iff
      | none => exact iff_of_false nofun fun ⟨_, _, asked, _⟩ => asked

end Rkusb
