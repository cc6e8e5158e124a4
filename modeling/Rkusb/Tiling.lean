/-
**The commands on the wire tile the request.**

* `writeLba_emits`, `readLba_emits` and `eraseLba_emits`: whatever the other end does, the transfers
  of a call are those of a list of commands, in order, up to the point where it fails.
* `Tiles`: these commands take the sectors of the request one after another, each once.
* `lba_commands_tile`: over a device that acknowledges everything, all of them are sent, unless the
  deadline passes.
-/

import Rkusb.Progress

namespace Rkusb

open Interaction Bytes FlatStore

variable {script : Script} {bus : Bus}

/-! ### Lists of commands -/

/-- The transfers of the commands, one after another. -/
def transfersOf (commands : List Command) : Language Transfer :=
  (commands.map Command.transfers).prod

/-- The commands take the sectors from `start` up to `stop` in order, without gap or overlap. -/
def Tiles : List Command → Nat → Nat → Prop
  | [], start, stop => start = stop
  | command :: rest, start, stop =>
      command.address.toNat = start ∧ Tiles rest (start + command.count.toNat) stop

/-- The data stage of a command. -/
inductive DataStage
  | nothing | out | inn
  deriving DecidableEq

/-- **A well-formed sector command**: the wrapper it decodes to, whatever its tag, and the data stage
the host performs. -/
structure SectorCommand (opcode subcode : UInt8) (stage : DataStage) (most : Nat)
    (command : Command) : Prop where
  wire : ∀ tag, command.wire tag = {
    tag := tag
    transferLength := if stage = .nothing then 0 else STORAGE_SECTOR_SIZE * command.count.toNat
    flags := if stage = .inn then DIRECTION_IN else DIRECTION_OUT
    lun := 0
    cbLength := 10
    opcode := opcode
    subcode := subcode
    address := command.address.toNat
    count := command.count.toNat }
  dataOut : command.dataOut.map List.length =
    if stage = .out then some (STORAGE_SECTOR_SIZE * command.count.toNat) else none
  dataIn : command.dataIn.map List.length =
    if stage = .inn then some (STORAGE_SECTOR_SIZE * command.count.toNat) else none
  positive : 1 ≤ command.count.toNat
  most : command.count.toNat ≤ most

theorem transfersOf_nil : transfersOf [] = 1 := rfl

theorem transfersOf_cons (command : Command) (rest : List Command) :
    transfersOf (command :: rest) = command.transfers * transfersOf rest :=
  List.prod_cons

theorem transfersOf_append (first second : List Command) :
    transfersOf (first ++ second) = transfersOf first * transfersOf second := by
  unfold transfersOf
  rw [List.map_append, List.prod_append]

theorem stageTransfers_nonempty {wrapper : List UInt8 → Prop} {bytes : List UInt8}
    (wraps : wrapper bytes) (dataOut dataIn : Option Nat) :
    ∃ sent, sent ∈ stageTransfers wrapper dataOut dataIn := by
  unfold stageTransfers
  refine Io.nonempty_mul (Io.nonempty_mul (Io.nonempty_mul (Transfer.outs_nonempty bytes wraps) ?_)
    ?_) (Transfer.ins_nonempty _)
  · cases dataOut with
    | none => exact ⟨[], Language.nil_mem_one⟩
    | some length => exact Transfer.outs_nonempty (List.replicate length 0) List.length_replicate
  · cases dataIn with
    | none => exact ⟨[], Language.nil_mem_one⟩
    | some capacity => exact Transfer.ins_nonempty capacity

theorem transfersOf_nonempty (commands : List Command) : ∃ sent, sent ∈ transfersOf commands := by
  induction commands with
  | nil => exact ⟨[], Language.nil_mem_one⟩
  | cons command rest ih =>
    rw [transfersOf_cons]
    exact Io.nonempty_mul (stageTransfers_nonempty
      ⟨length_cbw_asBytes _, 0, command.decode_wrap 0⟩ _ _) ih

/-! ### Raw commands -/

theorem writeLbaRaw_emits {data : List UInt8} (valid : Command.SectorLength data.length)
    (pos : UInt32) (subcode : UInt8) (timeout : Duration) :
    Emits script (Command.writeLba pos data subcode).transfers
      (writeLbaRaw pos data subcode timeout) := by
  rw [writeLbaRaw_eq valid]
  exact (transact_emits _ timeout).bind_silent fun _ => .pure _

theorem readLbaRaw_emits {data : List UInt8} (valid : Command.SectorLength data.length)
    (pos : UInt32) (subcode : UInt8) (timeout : Duration) :
    Emits script (Command.readLba pos data subcode).transfers
      (readLbaRaw pos data subcode timeout) := by
  rw [readLbaRaw_eq valid]
  exact (transact_emits _ timeout).bind_silent fun _ => .pure _

theorem eraseLbaRaw_emits {sectorCount : UInt16} (some : sectorCount ≠ 0) (pos : UInt32)
    (timeout : Duration) :
    Emits script (Command.eraseLba pos sectorCount).transfers
      (eraseLbaRaw pos sectorCount timeout) := by
  rw [eraseLbaRaw_eq some]
  exact (transact_emits _ timeout).bind_silent fun _ => .pure _

/-! ### Batched commands -/

/-- The commands for the chunks, at positions that follow each other. -/
def tiled (make : UInt32 → List UInt8 → Command) : List (List UInt8) → UInt32 → List Command
  | [], _ => []
  | chunk :: rest, pos =>
      make pos chunk ::
        tiled make rest (UInt32.ofNat (pos.toNat + chunk.length / STORAGE_SECTOR_SIZE))

/-- The position after the chunks. -/
def positionAfter : List (List UInt8) → UInt32 → UInt32
  | [], pos => pos
  | chunk :: rest, pos =>
      positionAfter rest (UInt32.ofNat (pos.toNat + chunk.length / STORAGE_SECTOR_SIZE))

theorem positionAfter_toNat (pieces : List (List UInt8))
    (valid : ∀ chunk ∈ pieces, Command.SectorLength chunk.length) (pos : UInt32)
    (fits : STORAGE_SECTOR_SIZE * pos.toNat + pieces.flatten.length <
      STORAGE_SECTOR_SIZE * 2 ^ 32) :
    (positionAfter pieces pos).toNat = pos.toNat + pieces.flatten.length / STORAGE_SECTOR_SIZE := by
  induction pieces generalizing pos with
  | nil => rfl
  | cons chunk rest ih =>
    obtain ⟨sectors, others⟩ := List.forall_mem_cons.mp valid
    have aligned := sectors.2.1
    rw [List.flatten_cons, List.length_append] at fits ⊢
    unfold STORAGE_SECTOR_SIZE at *
    have next : (UInt32.ofNat (pos.toNat + chunk.length / 512)).toNat =
        pos.toNat + chunk.length / 512 := UInt32.toNat_ofNat_of_lt' (by
      show _ < 2 ^ 32
      omega)
    rw [positionAfter, STORAGE_SECTOR_SIZE, ih others _ (by omega), next]
    omega

theorem advanceLbaByBytes_eq {pos next : UInt32} {bytes : Nat}
    (advances : advanceLbaByBytes pos bytes = .ok next) :
    next = UInt32.ofNat (pos.toNat + bytes / STORAGE_SECTOR_SIZE) := by
  rw [← advanceLbaByBytes_ok advances, UInt32.ofNat_toNat]

/-- A raw command that sends what `make` says and keeps the length of its chunk. -/
structure RawEmits (script : Script)
    (raw : UInt32 → List UInt8 → Duration → UsbIo Unit RkUsbError (List UInt8))
    (make : UInt32 → List UInt8 → Command) : Prop where
  emits : ∀ pos chunk timeout, Command.SectorLength (List.length chunk) →
    Emits script (make pos chunk).transfers (raw pos chunk timeout)
  length : KeepsLength script raw

theorem batch_emits {raw : UInt32 → List UInt8 → Duration → UsbIo Unit RkUsbError (List UInt8)}
    {make : UInt32 → List UInt8 → Command} (sends : RawEmits script raw make) (deadline : Instant)
    (pieces : List (List UInt8)) (valid : ∀ chunk ∈ pieces, Command.SectorLength chunk.length)
    (pos : UInt32) :
    Emits script (transfersOf (tiled make pieces pos)) (batch raw deadline pieces pos) := by
  induction pieces generalizing pos with
  | nil => exact .pure _
  | cons chunk rest ih =>
    obtain ⟨sectors, others⟩ := List.forall_mem_cons.mp valid
    have possible := transfersOf_nonempty (tiled make (chunk :: rest) pos)
    have later := transfersOf_nonempty
      (tiled make rest (UInt32.ofNat (pos.toNat + chunk.length / STORAGE_SECTOR_SIZE)))
    refine (remainingTimeout_emits deadline).bind_of_silent (fun timeout => ?_) possible
    unfold tiled
    rw [transfersOf_cons]
    refine (sends.emits pos chunk timeout sectors).bind_where
      (fun own bus => sends.length own bus pos chunk timeout sectors) (fun filled length => ?_) later
    rw [length]
    cases advances : advanceLbaByBytes pos chunk.length with
    | error error => exact .throw _ later
    | ok next =>
      obtain rfl := advanceLbaByBytes_eq advances
      exact (ih others _).bind_silent fun _ => .pure _

/-- Where the loop stops, unless it runs out of positions. -/
theorem batch_position {raw : UInt32 → List UInt8 → Duration → UsbIo Unit RkUsbError (List UInt8)}
    (keeps : KeepsLength script raw) (deadline : Instant) (pieces : List (List UInt8))
    (valid : ∀ chunk ∈ pieces, Command.SectorLength chunk.length) (pos : UInt32) (own : Unit) :
    Io.After (Bus.answer script) (batch raw deadline pieces pos) own bus fun outcome _ _ =>
      ∀ result, outcome = .ok result → result.2 = positionAfter pieces pos := by
  refine (batch_returns keeps deadline pieces valid pos own).imp ?_
  intro outcome _ _ returns result same
  obtain ⟨-, position⟩ := returns result same
  have small := result.2.toNat_lt
  refine UInt32.toNat_inj.mp ?_
  rw [positionAfter_toNat pieces valid pos (by
    unfold STORAGE_SECTOR_SIZE at *
    omega)]
  unfold STORAGE_SECTOR_SIZE at *
  omega

theorem writeChunk_emits (subcode : UInt8) :
    RawEmits script (writeChunk subcode) fun pos chunk => Command.writeLba pos chunk subcode where
  emits pos _ timeout valid :=
    (writeLbaRaw_emits valid pos subcode timeout).bind_silent fun _ => .pure _
  length := writeChunk_keepsLength subcode

theorem readChunk_emits (subcode : UInt8) :
    RawEmits script (readChunk subcode) fun pos chunk => Command.readLba pos chunk subcode where
  emits pos _ timeout valid := readLbaRaw_emits valid pos subcode timeout
  length := readChunk_keepsLength subcode

/-! ### Whole calls -/

/-- A buffer of one sector. -/
def sectorBuffer : List UInt8 := List.replicate STORAGE_SECTOR_SIZE 0

theorem sectorBuffer_valid : Command.SectorLength sectorBuffer.length := by
  rw [sectorBuffer, List.length_replicate]
  decide

/-- The commands of a write. -/
def writeCommands (pos : UInt32) (data : List UInt8) (subcode : UInt8) : List Command :=
  tiled (fun pos chunk => Command.writeLba pos chunk subcode) (pieces data) pos ++
    if data.length % STORAGE_SECTOR_SIZE = 0 then []
    else [Command.readLba (positionAfter (pieces data) pos) sectorBuffer subcode,
      Command.writeLba (positionAfter (pieces data) pos) sectorBuffer subcode]

/-- The commands of a read. -/
def readCommands (pos : UInt32) (data : List UInt8) (subcode : UInt8) : List Command :=
  tiled (fun pos chunk => Command.readLba pos chunk subcode) (pieces data) pos ++
    if data.length % STORAGE_SECTOR_SIZE = 0 then []
    else [Command.readLba (positionAfter (pieces data) pos) sectorBuffer subcode]

/-- Buffers are told by their lengths. -/
theorem transfers_writeLba_congr {pos : UInt32} {data data' : List UInt8} {subcode : UInt8}
    (same : data.length = data'.length) :
    (Command.writeLba pos data subcode).transfers = (Command.writeLba pos data' subcode).transfers := by
  unfold Command.transfers Command.wire Command.writeLba
  simp only [Option.map_some, same]

theorem writeLbaTail_emits (deadline : Instant) (subcode : UInt8) (pos : UInt32)
    (tail : List UInt8) (short : tail.length ≤ STORAGE_SECTOR_SIZE) :
    Emits script (transfersOf (if tail.length = 0 then [] else
      [Command.readLba pos sectorBuffer subcode, Command.writeLba pos sectorBuffer subcode]))
      (writeLbaTail deadline subcode pos tail) := by
  unfold writeLbaTail
  by_cases empty : tail.length = 0
  · rw [if_pos empty, if_pos empty]
    exact .pure _
  rw [if_neg empty, if_neg empty]
  have possible := transfersOf_nonempty
    [Command.readLba pos sectorBuffer subcode, Command.writeLba pos sectorBuffer subcode]
  have later := transfersOf_nonempty [Command.writeLba pos sectorBuffer subcode]
  refine (remainingTimeout_emits deadline).bind_of_silent (fun timeout => ?_) possible
  rw [transfersOf_cons]
  refine (readLbaRaw_emits sectorBuffer_valid pos subcode timeout).bind_where
    (fun own bus => readLbaRaw_length sectorBuffer_valid pos subcode timeout)
    (fun sector length => ?_) later
  refine (remainingTimeout_emits deadline).bind_of_silent (fun timeout => ?_) later
  have filled : (tail ++ sector.drop tail.length).length = sectorBuffer.length := by
    rw [List.length_append, List.length_drop, length, sectorBuffer, List.length_replicate]
    omega
  rw [transfersOf_cons, transfersOf_nil, mul_one, ← transfers_writeLba_congr filled]
  exact writeLbaRaw_emits (by
    rw [filled]
    exact sectorBuffer_valid) pos subcode timeout

theorem readLbaTail_emits (deadline : Instant) (subcode : UInt8) (pos : UInt32)
    (tail : List UInt8) :
    Emits script (transfersOf (if tail.length = 0 then [] else
      [Command.readLba pos sectorBuffer subcode])) (readLbaTail deadline subcode pos tail) := by
  unfold readLbaTail
  by_cases empty : tail.length = 0
  · rw [if_pos empty, if_pos empty]
    exact .pure _
  rw [if_neg empty, if_neg empty]
  refine (remainingTimeout_emits deadline).bind_of_silent (fun timeout => ?_)
    (transfersOf_nonempty _)
  rw [transfersOf_cons, transfersOf_nil, mul_one]
  exact (readLbaRaw_emits sectorBuffer_valid pos subcode timeout).bind_silent fun _ => .pure _

/-- **The transfers of a write.** -/
theorem writeLba_emits (pos : UInt32) (data : List UInt8) (subcode : UInt8) (timeout : Duration) :
    Emits script (transfersOf (writeCommands pos data subcode))
      (writeLba pos data subcode timeout) := by
  unfold writeLba
  by_cases empty : data.length = 0
  · rw [if_pos empty, List.length_eq_zero_iff.mp empty]
    exact .pure _
  rw [if_neg empty]
  refine Io.Emits.bind_of_silent (.of_silent fun _ _ => rfl) (fun start => ?_)
    (transfersOf_nonempty _)
  have body := @batch_emits script _ _ (writeChunk_emits subcode) (start + timeout) (pieces data)
    (pieces_valid data) pos
  show Emits script _ (writeLbaChunks (start + timeout) subcode (pieces data) pos >>= fun nextPos =>
    writeLbaTail (start + timeout) subcode nextPos (tailOf data))
  unfold writeCommands
  rw [transfersOf_append, ← length_tailOf, writeLbaChunks_eq, bind_assoc]
  refine body.bind_where (fun own bus => batch_position (writeChunk_keepsLength subcode) _
    (pieces data) (pieces_valid data) pos own) (fun result position => ?_) (transfersOf_nonempty _)
  rw [pure_bind, position]
  exact writeLbaTail_emits _ subcode _ _ (length_tailOf_le data)

/-- **The transfers of a read.** -/
theorem readLba_emits (pos : UInt32) (data : List UInt8) (subcode : UInt8) (timeout : Duration) :
    Emits script (transfersOf (readCommands pos data subcode))
      (readLba pos data subcode timeout) := by
  unfold readLba
  by_cases empty : data.length = 0
  · rw [if_pos empty, List.length_eq_zero_iff.mp empty]
    exact .pure _
  rw [if_neg empty]
  refine Io.Emits.bind_of_silent (.of_silent fun _ _ => rfl) (fun start => ?_)
    (transfersOf_nonempty _)
  have body := @batch_emits script _ _ (readChunk_emits subcode) (start + timeout) (pieces data)
    (pieces_valid data) pos
  show Emits script _ (readLbaChunks (start + timeout) subcode (pieces data) pos >>= fun result =>
    readLbaTail (start + timeout) subcode result.2 (tailOf data) >>= fun tail =>
      pure (result.1 ++ tail))
  unfold readCommands
  rw [transfersOf_append, ← length_tailOf, readLbaChunks_eq]
  refine body.bind_where (fun own bus => batch_position (readChunk_keepsLength subcode) _
    (pieces data) (pieces_valid data) pos own) (fun result position => ?_) (transfersOf_nonempty _)
  rw [position]
  exact (readLbaTail_emits _ subcode _ _).bind_silent fun _ => .pure _

/-- The commands of an erasure. -/
def eraseCommands : Nat → UInt32 → Nat → List Command
  | 0, _, _ => []
  | rounds + 1, pos, remaining =>
      if remaining = 0 then []
      else Command.eraseLba pos (UInt16.ofNat (min remaining 65535)) ::
        eraseCommands rounds (UInt32.ofNat (pos.toNat + min remaining 65535))
          (remaining - min remaining 65535)

theorem eraseLbaLoop_emits (deadline : Instant) (rounds : Nat) (pos : UInt32) (remaining : Nat) :
    Emits script (transfersOf (eraseCommands rounds pos remaining))
      (eraseLbaLoop deadline rounds pos remaining) := by
  induction rounds generalizing pos remaining with
  | zero => exact .pure _
  | succ rounds ih =>
    unfold eraseLbaLoop eraseCommands
    by_cases none : remaining = 0
    · rw [if_pos none, if_pos none]
      exact .pure _
    rw [if_neg none, if_neg none]
    have later := transfersOf_nonempty (eraseCommands rounds
      (UInt32.ofNat (pos.toNat + min remaining 65535)) (remaining - min remaining 65535))
    refine (remainingTimeout_emits deadline).bind_of_silent (fun timeout => ?_)
      (transfersOf_nonempty _)
    rw [transfersOf_cons]
    refine (eraseLbaRaw_emits (chunkSectors_ne_zero none) pos timeout).bind (fun _ => ?_) later
    cases advances : checkedAddSectors pos (min remaining 65535) with
    | error error => exact .throw _ later
    | ok next =>
      have position := checkedAddSectors_ok advances
      have same : next = UInt32.ofNat (pos.toNat + min remaining 65535) := by
        rw [← position, UInt32.ofNat_toNat]
      rw [← same]
      exact ih next _

/-- **The transfers of an erasure.** -/
theorem eraseLba_emits (pos count : UInt32) (timeout : Duration) :
    Emits script (transfersOf (eraseCommands count.toNat pos count.toNat))
      (eraseLba pos count timeout) := by
  unfold eraseLba
  by_cases none : count = 0
  · rw [if_pos none, none]
    exact .pure _
  rw [if_neg none]
  refine Io.Emits.bind_of_silent (.of_silent fun _ _ => rfl) (fun start => ?_)
    (transfersOf_nonempty _)
  exact eraseLbaLoop_emits _ _ pos _

/-! ### The commands tile the request -/

theorem Command.writeLba_sector {data : List UInt8} (valid : SectorLength data.length)
    (few : data.length / STORAGE_SECTOR_SIZE ≤ MAX_LBA_TRANSFER_SECTORS) (pos : UInt32)
    (subcode : UInt8) :
    SectorCommand 0x15 subcode .out MAX_LBA_TRANSFER_SECTORS (Command.writeLba pos data subcode) := by
  have sectors := valid.count
  have length : (Command.writeLba pos data subcode).transferLength.toNat =
      STORAGE_SECTOR_SIZE * (Command.writeLba pos data subcode).count.toNat :=
    valid.toNat_ofNat.trans sectors.symm
  refine ⟨fun tag => ?_, congrArg some sectors.symm, rfl, Nat.pos_of_ne_zero fun zero => ?_, ?_⟩
  · unfold Command.wire
    rw [length]
    rfl
  · rw [show (UInt16.ofNat (data.length / STORAGE_SECTOR_SIZE)).toNat = 0 from zero,
      Nat.mul_zero] at sectors
    exact valid.1 sectors.symm
  · exact (UInt16.toNat_ofNat_of_lt' valid.2.2).trans_le few

theorem Command.readLba_sector {data : List UInt8} (valid : SectorLength data.length)
    (few : data.length / STORAGE_SECTOR_SIZE ≤ MAX_LBA_TRANSFER_SECTORS) (pos : UInt32)
    (subcode : UInt8) :
    SectorCommand 0x14 subcode .inn MAX_LBA_TRANSFER_SECTORS (Command.readLba pos data subcode) := by
  have sectors := valid.count
  have length : (Command.readLba pos data subcode).transferLength.toNat =
      STORAGE_SECTOR_SIZE * (Command.readLba pos data subcode).count.toNat :=
    valid.toNat_ofNat.trans sectors.symm
  refine ⟨fun tag => ?_, rfl, congrArg some sectors.symm, Nat.pos_of_ne_zero fun zero => ?_, ?_⟩
  · unfold Command.wire
    rw [length]
    rfl
  · rw [show (UInt16.ofNat (data.length / STORAGE_SECTOR_SIZE)).toNat = 0 from zero,
      Nat.mul_zero] at sectors
    exact valid.1 sectors.symm
  · exact (UInt16.toNat_ofNat_of_lt' valid.2.2).trans_le few

theorem Command.eraseLba_sector {remaining : Nat} (some : remaining ≠ 0) (pos : UInt32) :
    SectorCommand 0x25 0 .nothing 65535
      (Command.eraseLba pos (UInt16.ofNat (min remaining 65535))) := by
  have count := chunkSectors_toNat remaining
  refine ⟨fun tag => rfl, rfl, rfl, ?_, ?_⟩
  · show 1 ≤ (UInt16.ofNat (min remaining 65535)).toNat
    omega
  · show (UInt16.ofNat (min remaining 65535)).toNat ≤ 65535
    omega

/-- The commands for chunks take the sectors of the chunks. -/
theorem tiled_tiles {make : UInt32 → List UInt8 → Command}
    (addressed : ∀ pos chunk, Command.SectorLength (List.length chunk) →
      (make pos chunk).address = pos ∧
        (make pos chunk).count.toNat = chunk.length / STORAGE_SECTOR_SIZE)
    (pieces : List (List UInt8)) (valid : ∀ chunk ∈ pieces, Command.SectorLength chunk.length)
    (pos : UInt32)
    (fits : STORAGE_SECTOR_SIZE * pos.toNat + pieces.flatten.length <
      STORAGE_SECTOR_SIZE * 2 ^ 32) :
    Tiles (tiled make pieces pos) pos.toNat
      (pos.toNat + pieces.flatten.length / STORAGE_SECTOR_SIZE) := by
  induction pieces generalizing pos with
  | nil => rfl
  | cons chunk rest ih =>
    obtain ⟨sectors, others⟩ := List.forall_mem_cons.mp valid
    obtain ⟨address, count⟩ := addressed pos chunk sectors
    have aligned := sectors.2.1
    rw [List.flatten_cons, List.length_append] at fits ⊢
    unfold STORAGE_SECTOR_SIZE at *
    have next : (UInt32.ofNat (pos.toNat + chunk.length / 512)).toNat =
        pos.toNat + chunk.length / 512 := UInt32.toNat_ofNat_of_lt' (by
      show _ < 2 ^ 32
      omega)
    have tiles := ih others (UInt32.ofNat (pos.toNat + chunk.length / 512)) (by omega)
    have total : pos.toNat + (chunk.length + rest.flatten.length) / 512 =
        pos.toNat + chunk.length / 512 + rest.flatten.length / 512 := by omega
    rw [next] at tiles
    refine ⟨congrArg UInt32.toNat address, ?_⟩
    rw [count, total]
    exact tiles

theorem mem_tiled {make : UInt32 → List UInt8 → Command} {pieces : List (List UInt8)}
    {pos : UInt32} {command : Command} (member : command ∈ tiled make pieces pos) :
    ∃ pos chunk, chunk ∈ pieces ∧ command = make pos chunk := by
  induction pieces generalizing pos with
  | nil => cases member
  | cons chunk rest ih =>
    rcases List.mem_cons.mp member with rfl | later
    · exact ⟨pos, chunk, List.mem_cons_self, rfl⟩
    · obtain ⟨pos, chunk, inside, same⟩ := ih later
      exact ⟨pos, chunk, List.mem_cons_of_mem _ inside, same⟩

/-- The commands for the chunks of a request are sector commands and tile its whole sectors. -/
theorem tiled_pieces {make : UInt32 → List UInt8 → Command} {opcode subcode : UInt8}
    {stage : DataStage} {pos : UInt32} {data : List UInt8}
    (sector : ∀ pos chunk, Command.SectorLength (List.length chunk) →
      chunk.length / STORAGE_SECTOR_SIZE ≤ MAX_LBA_TRANSFER_SECTORS →
        SectorCommand opcode subcode stage MAX_LBA_TRANSFER_SECTORS (make pos chunk))
    (addressed : ∀ pos chunk, Command.SectorLength (List.length chunk) →
      (make pos chunk).address = pos ∧
        (make pos chunk).count.toNat = chunk.length / STORAGE_SECTOR_SIZE)
    (fits : pos.toNat + data.length / STORAGE_SECTOR_SIZE < 2 ^ 32) :
    (∀ command ∈ tiled make (pieces data) pos,
      SectorCommand opcode subcode stage MAX_LBA_TRANSFER_SECTORS command) ∧
    Tiles (tiled make (pieces data) pos) pos.toNat
      (pos.toNat + data.length / STORAGE_SECTOR_SIZE) ∧
    (positionAfter (pieces data) pos).toNat = pos.toNat + data.length / STORAGE_SECTOR_SIZE := by
  have tiles := tiled_tiles addressed (pieces data) (pieces_valid data) pos (pieces_fit fits)
  have position := positionAfter_toNat (pieces data) (pieces_valid data) pos (pieces_fit fits)
  rw [length_pieces, Nat.mul_div_cancel_left _ (by decide)] at tiles position
  refine ⟨fun command member => ?_, tiles, position⟩
  obtain ⟨pos, chunk, inside, rfl⟩ := mem_tiled member
  obtain ⟨valid, few⟩ := sectorLength_of_mem_pieces inside
  exact sector pos chunk valid few

theorem eraseCommands_tiles (rounds : Nat) (pos : UInt32) (remaining : Nat)
    (enough : remaining ≤ rounds) (fits : pos.toNat + remaining < 2 ^ 32) :
    Tiles (eraseCommands rounds pos remaining) pos.toNat (pos.toNat + remaining) := by
  induction rounds generalizing pos remaining with
  | zero =>
    obtain rfl : remaining = 0 := by omega
    rfl
  | succ rounds ih =>
    unfold eraseCommands
    by_cases none : remaining = 0
    · rw [if_pos none, none]
      rfl
    rw [if_neg none]
    have next : (UInt32.ofNat (pos.toNat + min remaining 65535)).toNat =
        pos.toNat + min remaining 65535 := UInt32.toNat_ofNat_of_lt' (by
      show _ < 2 ^ 32
      omega)
    have later := ih (UInt32.ofNat (pos.toNat + min remaining 65535))
      (remaining - min remaining 65535) (by omega) (by omega)
    have total : pos.toNat + min remaining 65535 + (remaining - min remaining 65535) =
        pos.toNat + remaining := by omega
    rw [next, total] at later
    refine ⟨rfl, ?_⟩
    show Tiles _ (pos.toNat + (UInt16.ofNat (min remaining 65535)).toNat) _
    rw [chunkSectors_toNat]
    exact later

theorem eraseCommands_sector {rounds : Nat} {pos : UInt32} {remaining : Nat} {command : Command}
    (member : command ∈ eraseCommands rounds pos remaining) :
    SectorCommand 0x25 0 .nothing 65535 command := by
  induction rounds generalizing pos remaining with
  | zero => cases member
  | succ rounds ih =>
    unfold eraseCommands at member
    by_cases none : remaining = 0
    · rw [if_pos none] at member
      cases member
    rw [if_neg none] at member
    rcases List.mem_cons.mp member with rfl | later
    · exact Command.eraseLba_sector none pos
    · exact ih later

/-- The sectors that a number of bytes takes, a partial last one included. -/
def sectorsOf (length : Nat) : Nat := (length + (STORAGE_SECTOR_SIZE - 1)) / STORAGE_SECTOR_SIZE

theorem div_le_sectorsOf (length : Nat) : length / STORAGE_SECTOR_SIZE ≤ sectorsOf length :=
  Nat.div_le_div_right (Nat.le_add_right _ _)

/-- The host performed the commands and returned `Ok`, or it performed a beginning of them because
its deadline had passed. -/
def Performed (script : Script) (deadline : Instant) (commands : List Command) (before : Bus)
    {α : Type} (outcome : Except RkUsbError α) (reached : Bus) : Prop :=
  ∃ sent rest, reached.trace = before.trace ++ sent ∧ sent ++ rest ∈ transfersOf commands ∧
    ((∃ value, outcome = .ok value ∧ rest = []) ∨
      outcome = .error (.usb .timeout) ∧ ∃ tick, tick < reached.ticks ∧ deadline ≤ script.clock tick)

theorem Performed.of_emits {deadline : Instant} {commands : List Command} {readings : Nat}
    {α : Type} {computation : UsbIo Unit RkUsbError α}
    (emits : Emits script (transfersOf commands) computation)
    (prompt : Io.After (Bus.answer script) computation () bus fun outcome _ reached =>
      Prompt script deadline readings bus outcome reached) :
    Io.After (Bus.answer script) computation () bus fun outcome _ reached =>
      Performed script deadline commands bus outcome reached := by
  refine ((emits () bus).and prompt).imp ?_
  intro outcome own reached both
  obtain ⟨⟨sent, rest, logged, planned, whole⟩, -, late⟩ := both
  refine ⟨sent, rest, logged, planned, ?_⟩
  cases outcome with
  | ok value => exact .inl ⟨value, rfl, whole value rfl⟩
  | error error =>
    obtain ⟨rfl, past⟩ := late error rfl
    exact .inr ⟨rfl, past⟩

/-- The single sector of a partial tail, read and for a write also written. -/
inductive LastSector (subcode : UInt8) (sector : Nat) : List DataStage → List Command → Prop
  | none : LastSector subcode sector [] []
  | read {reads : Command} : SectorCommand 0x14 subcode .inn 1 reads →
      Tiles [reads] sector (sector + 1) → LastSector subcode sector [.inn] [reads]
  | readWrite {reads writes : Command} : SectorCommand 0x14 subcode .inn 1 reads →
      Tiles [reads] sector (sector + 1) → SectorCommand 0x15 subcode .out 1 writes →
      Tiles [writes] sector (sector + 1) → LastSector subcode sector [.inn, .out] [reads, writes]

theorem writeLba_addressed (subcode : UInt8) (pos : UInt32) (chunk : List UInt8)
    (valid : Command.SectorLength chunk.length) :
    (Command.writeLba pos chunk subcode).address = pos ∧
      (Command.writeLba pos chunk subcode).count.toNat = chunk.length / STORAGE_SECTOR_SIZE :=
  ⟨rfl, UInt16.toNat_ofNat_of_lt' valid.2.2⟩

theorem readLba_addressed (subcode : UInt8) (pos : UInt32) (chunk : List UInt8)
    (valid : Command.SectorLength chunk.length) :
    (Command.readLba pos chunk subcode).address = pos ∧
      (Command.readLba pos chunk subcode).count.toNat = chunk.length / STORAGE_SECTOR_SIZE :=
  ⟨rfl, UInt16.toNat_ofNat_of_lt' valid.2.2⟩

theorem SectorCommand.one {opcode subcode : UInt8} {stage : DataStage} {most : Nat}
    {command : Command} (sector : SectorCommand opcode subcode stage most command)
    (one : command.count.toNat = 1) : SectorCommand opcode subcode stage 1 command :=
  { sector with most := one.le }

/-- The read and the write of the sector buffer are of the one sector. -/
theorem readSector_command (pos : UInt32) (subcode : UInt8) :
    SectorCommand 0x14 subcode .inn 1 (Command.readLba pos sectorBuffer subcode) ∧
      Tiles [Command.readLba pos sectorBuffer subcode] pos.toNat (pos.toNat + 1) := by
  have one : (Command.readLba pos sectorBuffer subcode).count.toNat = 1 := by
    rw [(readLba_addressed subcode pos sectorBuffer sectorBuffer_valid).2, sectorBuffer,
      List.length_replicate]
    rfl
  have few : sectorBuffer.length / STORAGE_SECTOR_SIZE ≤ MAX_LBA_TRANSFER_SECTORS := by
    rw [sectorBuffer, List.length_replicate]
    decide
  refine ⟨(Command.readLba_sector sectorBuffer_valid few pos subcode).one one, rfl, ?_⟩
  rw [one]
  rfl

theorem writeSector_command (pos : UInt32) (subcode : UInt8) :
    SectorCommand 0x15 subcode .out 1 (Command.writeLba pos sectorBuffer subcode) ∧
      Tiles [Command.writeLba pos sectorBuffer subcode] pos.toNat (pos.toNat + 1) := by
  have one : (Command.writeLba pos sectorBuffer subcode).count.toNat = 1 := by
    rw [(writeLba_addressed subcode pos sectorBuffer sectorBuffer_valid).2, sectorBuffer,
      List.length_replicate]
    rfl
  have few : sectorBuffer.length / STORAGE_SECTOR_SIZE ≤ MAX_LBA_TRANSFER_SECTORS := by
    rw [sectorBuffer, List.length_replicate]
    decide
  refine ⟨(Command.writeLba_sector sectorBuffer_valid few pos subcode).one one, rfl, ?_⟩
  rw [one]
  rfl

/-- The commands for the partial tail of a write: the sector is read and written back. -/
theorem lastSector_write (pos : UInt32) (subcode : UInt8) (tail : Nat) :
    LastSector subcode pos.toNat (if tail = 0 then [] else [.inn, .out])
      (if tail = 0 then []
        else [Command.readLba pos sectorBuffer subcode, Command.writeLba pos sectorBuffer subcode]) := by
  by_cases whole : tail = 0
  · rw [if_pos whole, if_pos whole]
    exact .none
  · rw [if_neg whole, if_neg whole]
    obtain ⟨reads, readTiles⟩ := readSector_command pos subcode
    obtain ⟨writes, writeTiles⟩ := writeSector_command pos subcode
    exact .readWrite reads readTiles writes writeTiles

/-- The command for the partial tail of a read. -/
theorem lastSector_read (pos : UInt32) (subcode : UInt8) (tail : Nat) :
    LastSector subcode pos.toNat (if tail = 0 then [] else [.inn])
      (if tail = 0 then [] else [Command.readLba pos sectorBuffer subcode]) := by
  by_cases whole : tail = 0
  · rw [if_pos whole, if_pos whole]
    exact .none
  · rw [if_neg whole, if_neg whole]
    obtain ⟨reads, readTiles⟩ := readSector_command pos subcode
    exact .read reads readTiles

/-- **Commands on the wire are well formed and tile the request.** Over a device that acknowledges
everything, a write, a read or an erasure of a range that ends below the last sector performs
commands whose wrappers and data stages agree and whose sectors are those of the request, in order
and each once, then for a partial tail the single next sector. It stops short of that only when its
deadline has passed. (A deadline that does not fit an `Instant` would be a panic.) -/
theorem lba_commands_tile (healthy : script.Healthy) (idle : bus.Idle) :
    (∀ pos data subcode timeout, pos.toNat + sectorsOf (List.length data) < 2 ^ 32 →
      Io.After (Bus.answer script) (writeLba pos data subcode timeout) () bus
        fun outcome _ reached => reached.InstantsFit script timeout → ∃ body last,
          (∀ command ∈ body,
            SectorCommand 0x15 subcode .out MAX_LBA_TRANSFER_SECTORS command) ∧
          Tiles body pos.toNat (pos.toNat + data.length / STORAGE_SECTOR_SIZE) ∧
          LastSector subcode (pos.toNat + data.length / STORAGE_SECTOR_SIZE)
            (if data.length % STORAGE_SECTOR_SIZE = 0 then [] else [.inn, .out]) last ∧
          Performed script (script.clock bus.ticks + timeout) (body ++ last) bus outcome reached) ∧
    (∀ pos data subcode timeout, pos.toNat + sectorsOf (List.length data) < 2 ^ 32 →
      Io.After (Bus.answer script) (readLba pos data subcode timeout) () bus
        fun outcome _ reached => reached.InstantsFit script timeout → ∃ body last,
          (∀ command ∈ body,
            SectorCommand 0x14 subcode .inn MAX_LBA_TRANSFER_SECTORS command) ∧
          Tiles body pos.toNat (pos.toNat + data.length / STORAGE_SECTOR_SIZE) ∧
          LastSector subcode (pos.toNat + data.length / STORAGE_SECTOR_SIZE)
            (if data.length % STORAGE_SECTOR_SIZE = 0 then [] else [.inn]) last ∧
          Performed script (script.clock bus.ticks + timeout) (body ++ last) bus outcome reached) ∧
    (∀ pos count timeout, pos.toNat + UInt32.toNat count < 2 ^ 32 →
      Io.After (Bus.answer script) (eraseLba pos count timeout) () bus
        fun outcome _ reached => reached.InstantsFit script timeout → ∃ body,
          (∀ command ∈ body, SectorCommand 0x25 0 .nothing 65535 command) ∧
          Tiles body pos.toNat (pos.toNat + count.toNat) ∧
          Performed script (script.clock bus.ticks + timeout) body bus outcome reached) := by
  refine ⟨fun pos data subcode timeout fits => ?_, fun pos data subcode timeout fits => ?_,
    fun pos count timeout fits => ?_⟩
  · have inside : pos.toNat + data.length / STORAGE_SECTOR_SIZE < 2 ^ 32 :=
      lt_of_le_of_lt (Nat.add_le_add_left (div_le_sectorsOf _) _) fits
    obtain ⟨sectors, tiles, position⟩ := tiled_pieces
      (fun pos chunk valid few => Command.writeLba_sector valid few pos subcode)
      (writeLba_addressed subcode) inside
    refine (Performed.of_emits (writeLba_emits pos data subcode timeout)
      (writeLba_progress healthy idle pos data subcode timeout inside)).imp ?_
    intro outcome own reached performed _
    refine ⟨_, _, sectors, tiles, ?_, performed⟩
    rw [← position]
    exact lastSector_write _ subcode _
  · have inside : pos.toNat + data.length / STORAGE_SECTOR_SIZE < 2 ^ 32 :=
      lt_of_le_of_lt (Nat.add_le_add_left (div_le_sectorsOf _) _) fits
    obtain ⟨sectors, tiles, position⟩ := tiled_pieces
      (fun pos chunk valid few => Command.readLba_sector valid few pos subcode)
      (readLba_addressed subcode) inside
    refine (Performed.of_emits (readLba_emits pos data subcode timeout)
      (readLba_progress healthy idle pos data subcode timeout inside)).imp ?_
    intro outcome own reached performed _
    refine ⟨_, _, sectors, tiles, ?_, performed⟩
    rw [← position]
    exact lastSector_read _ subcode _
  · refine (Performed.of_emits (eraseLba_emits pos count timeout)
      (eraseLba_progress healthy idle pos count timeout fits)).imp ?_
    intro outcome own reached performed _
    exact ⟨_, fun command member => eraseCommands_sector member,
      eraseCommands_tiles count.toNat pos count.toNat le_rfl fits, performed⟩

/-- A write of a sector and a byte at sector 5: one command for the sector, two for the byte. -/
theorem lba_commands_tile_partial :
    Io.After (Bus.answer Script.undisturbed) (writeLba 5 (List.replicate 513 1) 0 1) ()
      (Bus.fresh fun _ => 0) fun outcome _ reached => ∃ body last,
        (∀ command ∈ body, SectorCommand 0x15 0 .out MAX_LBA_TRANSFER_SECTORS command) ∧
        Tiles body 5 6 ∧ LastSector 0 6 [.inn, .out] last ∧
        Performed Script.undisturbed 1 (body ++ last) (Bus.fresh fun _ => 0) outcome reached := by
  have length : (List.replicate 513 (1 : UInt8)).length = 513 := List.length_replicate
  have tiled := (lba_commands_tile Script.undisturbed_healthy (Bus.fresh_idle fun _ => 0)).1 5
    (List.replicate 513 1) 0 1 (by
      rw [length]
      decide)
  rw [length] at tiled
  exact tiled.imp fun _ _ _ performed => performed fun _ _ => (by decide : 0 + 1 < INSTANT_END)

end Rkusb
