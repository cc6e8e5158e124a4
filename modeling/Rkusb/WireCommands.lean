/-
**The commands among the transfers of the host.**

* `wireCommands`: what the bulk-out transfers of the host decode to. The transfers of a sector command
  carry this command and no other (`wireCommands_transfers`), as data of sectors is no wrapper.
* `readCommands_inside`, `writeCommands_inside`, `eraseCommands_inside`: the commands of a call lie in
  the range of its request.
-/

import Rkusb.Tiling

namespace Rkusb

open Interaction Bytes

/-! ### Commands on the wire -/

/-- The commands among the transfers of the host. -/
def wireCommands (transfers : List Transfer) : List WireCommand :=
  transfers.filterMap fun transfer =>
    match transfer with
    | .bulkOut bytes _ => WireCommand.decode bytes
    | _ => none

theorem wireCommands_append (first second : List Transfer) :
    wireCommands (first ++ second) = wireCommands first ++ wireCommands second :=
  List.filterMap_append

theorem wireCommands_bulkOut (bytes : List UInt8) (timeout : Duration) :
    wireCommands [.bulkOut bytes timeout] = (WireCommand.decode bytes).toList := by
  cases decoded : WireCommand.decode bytes <;> simp [wireCommands, decoded]

theorem wireCommands_ins {capacity : Nat} {sent : List Transfer}
    (planned : sent ∈ Transfer.ins capacity) : wireCommands sent = [] := by
  obtain ⟨timeout, rfl⟩ := planned
  rfl

/-- Data of sectors is no command wrapper. -/
theorem wireCommands_data {length : Nat} (data : length ≠ Cbw.size) {sent : List Transfer}
    (planned : sent ∈ Transfer.outs fun bytes => bytes.length = length) :
    wireCommands sent = [] := by
  obtain ⟨bytes, timeout, rfl, rfl⟩ := planned
  rw [wireCommands_bulkOut, WireCommand.decode, if_neg fun both => data both.1]
  rfl

/-- **The transfers of a sector command** carry it alone. -/
theorem wireCommands_transfers {opcode subcode : UInt8} {stage : DataStage} {most : Nat}
    {command : Command} (sector : SectorCommand opcode subcode stage most command)
    {sent : List Transfer} (planned : sent ∈ command.transfers) :
    ∃ tag, wireCommands sent = [command.wire tag] := by
  unfold Command.transfers stageTransfers at planned
  obtain ⟨stages, others, status, last, rfl⟩ := Language.mem_mul.mp planned
  obtain ⟨outward, sends, inn, received, rfl⟩ := Language.mem_mul.mp others
  obtain ⟨wrapper, wraps, out, data, rfl⟩ := Language.mem_mul.mp sends
  have silentIn : wireCommands inn = [] := by
    cases stages : command.dataIn.map List.length with
    | none =>
      rw [stages] at received
      rw [(Language.mem_one _).mp received]
      rfl
    | some capacity =>
      rw [stages] at received
      exact wireCommands_ins received
  have silentOut : wireCommands out = [] := by
    cases stages : command.dataOut.map List.length with
    | none =>
      rw [stages] at data
      rw [(Language.mem_one _).mp data]
      rfl
    | some length =>
      rw [stages] at data
      have whole := stages.symm.trans sector.dataOut
      refine wireCommands_data ?_ data
      by_cases outgoing : stage = .out
      · rw [if_pos outgoing] at whole
        cases whole
        unfold STORAGE_SECTOR_SIZE Cbw.size
        omega
      · rw [if_neg outgoing] at whole
        cases whole
  obtain ⟨bytes, timeout, ⟨-, tag, decoded⟩, rfl⟩ := wraps
  have itself : wireCommands [.bulkOut bytes timeout] = [command.wire tag] := by
    rw [wireCommands_bulkOut, decoded]
    rfl
  refine ⟨tag, ?_⟩
  rw [wireCommands_append, wireCommands_append, wireCommands_append, itself, silentOut, silentIn,
    wireCommands_ins last]
  rfl

/-- Commands of the library as they are sent: each of them is one of the list. -/
theorem wireCommands_transfersOf {commands : List Command}
    (sector : ∀ command ∈ commands, ∃ opcode subcode stage most,
      SectorCommand opcode subcode stage most command)
    {sent : List Transfer} (planned : sent ∈ transfersOf commands) :
    ∀ other ∈ wireCommands sent, ∃ command ∈ commands, ∃ tag, other = command.wire tag := by
  induction commands generalizing sent with
  | nil =>
    rw [(Language.mem_one _).mp planned]
    intro other member
    cases member
  | cons command rest ih =>
    obtain ⟨⟨opcode, subcode, stage, most, here⟩, others⟩ := List.forall_mem_cons.mp sector
    rw [transfersOf_cons] at planned
    obtain ⟨first, now, second, later, rfl⟩ := Language.mem_mul.mp planned
    intro other member
    rw [wireCommands_append] at member
    rcases List.mem_append.mp member with member | member
    · obtain ⟨tag, itself⟩ := wireCommands_transfers here now
      rw [itself] at member
      exact ⟨command, List.mem_cons_self, tag, List.mem_singleton.mp member⟩
    · obtain ⟨command', inside, tag, same⟩ := ih others later other member
      exact ⟨command', List.mem_cons_of_mem _ inside, tag, same⟩

/-! ### Commands in the range of the request -/

/-- The commands are sector commands, for sectors below the limit. -/
def Below (limit : Nat) (commands : List Command) : Prop :=
  ∀ command ∈ commands, (∃ opcode subcode stage most,
    SectorCommand opcode subcode stage most command) ∧
      command.address.toNat + command.count.toNat ≤ limit

theorem Below.append {limit : Nat} {first second : List Command} (here : Below limit first)
    (there : Below limit second) : Below limit (first ++ second) :=
  List.forall_mem_append.mpr ⟨here, there⟩

theorem Below.mono {limit limit' : Nat} {commands : List Command} (below : Below limit commands)
    (le : limit ≤ limit') : Below limit' commands :=
  fun command member => ⟨(below command member).1, (below command member).2.trans le⟩

/-- The commands of transfers that begin those of such commands. -/
theorem Below.wireCommands {limit : Nat} {commands : List Command} (below : Below limit commands)
    {sent rest : List Transfer} (planned : sent ++ rest ∈ transfersOf commands) :
    ∀ command ∈ wireCommands sent, command.address + command.count ≤ limit := by
  intro other member
  obtain ⟨command, inside, tag, rfl⟩ := wireCommands_transfersOf
    (fun command inside => (below command inside).1) planned other (by
      rw [wireCommands_append]
      exact List.mem_append_left _ member)
  exact (below command inside).2

/-- Commands that tile a range lie in it. -/
theorem Tiles.bounds {commands : List Command} {start stop : Nat} (tiles : Tiles commands start stop) :
    start ≤ stop ∧ ∀ command ∈ commands, command.address.toNat + command.count.toNat ≤ stop := by
  induction commands generalizing start with
  | nil =>
    refine ⟨le_of_eq tiles, fun command member => ?_⟩
    cases member
  | cons command rest ih =>
    obtain ⟨address, later⟩ := tiles
    obtain ⟨le, inside⟩ := ih later
    refine ⟨by omega, List.forall_mem_cons.mpr ⟨by omega, inside⟩⟩

theorem div_add_one_le_sectorsOf {length : Nat} (partly : length % STORAGE_SECTOR_SIZE ≠ 0) :
    length / STORAGE_SECTOR_SIZE + 1 ≤ sectorsOf length := by
  unfold sectorsOf STORAGE_SECTOR_SIZE at *
  omega

section Requests

variable {pos : UInt32} {data : List UInt8} {subcode : UInt8}

/-- The chunks of a request, at the positions of its sectors. -/
theorem tiled_inside {make : UInt32 → List UInt8 → Command} {opcode : UInt8} {stage : DataStage}
    (sector : ∀ pos chunk, Command.SectorLength (List.length chunk) →
      chunk.length / STORAGE_SECTOR_SIZE ≤ MAX_LBA_TRANSFER_SECTORS →
        SectorCommand opcode subcode stage MAX_LBA_TRANSFER_SECTORS (make pos chunk))
    (addressed : ∀ pos chunk, Command.SectorLength (List.length chunk) →
      (make pos chunk).address = pos ∧
        (make pos chunk).count.toNat = chunk.length / STORAGE_SECTOR_SIZE)
    (fits : pos.toNat + data.length / STORAGE_SECTOR_SIZE < 2 ^ 32) :
    Below (pos.toNat + data.length / STORAGE_SECTOR_SIZE) (tiled make (pieces data) pos) ∧
      (positionAfter (pieces data) pos).toNat = pos.toNat + data.length / STORAGE_SECTOR_SIZE := by
  obtain ⟨sectors, tiles, position⟩ := tiled_pieces sector addressed fits
  refine ⟨fun command member => ⟨?_, tiles.bounds.2 command member⟩, position⟩
  exact ⟨_, _, _, _, sectors command member⟩

/-- The one sector of a partial tail. -/
theorem below_singleton {opcode : UInt8} {stage : DataStage} {command : Command} {start : Nat}
    (sector : SectorCommand opcode subcode stage 1 command) (tiles : Tiles [command] start (start + 1)) :
    Below (start + 1) [command] :=
  List.forall_mem_singleton.mpr
    ⟨⟨_, _, _, _, sector⟩, tiles.bounds.2 command List.mem_cons_self⟩

/-- The commands of a read are for the sectors of its range. -/
theorem readCommands_inside (fits : pos.toNat + data.length / STORAGE_SECTOR_SIZE < 2 ^ 32) :
    Below (pos.toNat + sectorsOf data.length) (readCommands pos data subcode) := by
  obtain ⟨body, position⟩ := tiled_inside (fun pos chunk valid few =>
    Command.readLba_sector valid few pos subcode) (readLba_addressed subcode) fits
  refine (body.mono (Nat.add_le_add_left (div_le_sectorsOf _) _)).append ?_
  by_cases whole : data.length % STORAGE_SECTOR_SIZE = 0
  · rw [if_pos whole]
    exact List.forall_mem_nil _
  · rw [if_neg whole]
    obtain ⟨reads, tiles⟩ := readSector_command (positionAfter (pieces data) pos) subcode
    refine (below_singleton reads tiles).mono ?_
    rw [position, Nat.add_assoc]
    exact Nat.add_le_add_left (div_add_one_le_sectorsOf whole) _

/-- The commands of a write are for the sectors of its range. -/
theorem writeCommands_inside (fits : pos.toNat + data.length / STORAGE_SECTOR_SIZE < 2 ^ 32) :
    Below (pos.toNat + sectorsOf data.length) (writeCommands pos data subcode) := by
  obtain ⟨body, position⟩ := tiled_inside (fun pos chunk valid few =>
    Command.writeLba_sector valid few pos subcode) (writeLba_addressed subcode) fits
  refine (body.mono (Nat.add_le_add_left (div_le_sectorsOf _) _)).append ?_
  by_cases whole : data.length % STORAGE_SECTOR_SIZE = 0
  · rw [if_pos whole]
    exact List.forall_mem_nil _
  · rw [if_neg whole]
    obtain ⟨reads, readTiles⟩ := readSector_command (positionAfter (pieces data) pos) subcode
    obtain ⟨writes, writeTiles⟩ := writeSector_command (positionAfter (pieces data) pos) subcode
    refine ((below_singleton reads readTiles).append (below_singleton writes writeTiles)).mono ?_
    rw [position, Nat.add_assoc]
    exact Nat.add_le_add_left (div_add_one_le_sectorsOf whole) _

/-- The commands of an erasure are for the sectors of its range. -/
theorem eraseCommands_inside {count : UInt32} (fits : pos.toNat + count.toNat < 2 ^ 32) :
    Below (pos.toNat + count.toNat) (eraseCommands count.toNat pos count.toNat) := by
  have tiles := eraseCommands_tiles count.toNat pos count.toNat le_rfl fits
  intro command member
  exact ⟨⟨_, _, _, _, eraseCommands_sector member⟩, tiles.bounds.2 command member⟩

end Requests

end Rkusb
