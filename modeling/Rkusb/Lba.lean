/-
**Sector reads, writes and erasures on an idle bus.**

* `writeLba_effect`: whatever `writeLba` returns, the storage has got a beginning of the data at the
  position, and all of it when it returns `Ok`. The partial last sector is read, patched and written
  back, which changes the bytes of the tail only (`Wrote.patchWithin`).
* `readLba_effect`: `readLba` leaves the storage alone, and what it returns is the storage there.
* `eraseLba_effect`: `eraseLba` erases the first of the sectors.
-/

import Rkusb.Exchange

namespace Rkusb

open Interaction Bytes FlatStore

variable {script : Script} {bus : Bus}

/-! ### Raw commands -/

/-- **A command on an idle bus.** -/
theorem transact_effect (idle : bus.Idle) {command : Command} (issued : command.Issued)
    (timeout : Duration) :
    Io.After (Bus.answer script) (command.transact timeout) () bus fun outcome _ reached =>
      match outcome with
      | .ok received =>
          reached.target = bus.target.carriedOut script (command.wire (script.tags bus.draws))
            (command.dataOut.getD []) ∧
          received = receivedOf ((command.wire (script.tags bus.draws)).dataIn
            (script.contents bus.target.completed.length) bus.target.disk) command.dataIn
      | .error _ =>
          reached.target.flash = bus.target.flash ∨
          reached.target.flash = (command.wire (script.tags bus.draws)).effect script.erased
            script.restarts (command.dataOut.getD []) bus.target.flash := by
  have known : bus.target.Known fun _ => False := Target.Idle.known idle _
  have stages := issued.stages (script.tags bus.draws)
  have done := (cbwTransaction_ok script { bus with draws := bus.draws + 1 } stages known id
    timeout).and (cbwTransaction_flash script { bus with draws := bus.draws + 1 } stages known
    timeout)
  refine after_transact.mpr (done.imp fun outcome own reached both => ?_)
  cases outcome with
  | ok received => exact (both.1 received rfl).2
  | error error => exact both.2

theorem Bus.Idle.of_target {reached : Bus} (idle : bus.Idle)
    (same : reached.target = bus.target) : reached.Idle := by
  unfold Bus.Idle
  rw [same]
  exact idle

/-- Nothing is outstanding once a command was carried out and its replies were read. -/
theorem idle_of_carriedOut {reached : Bus} {command : WireCommand} {data : List UInt8}
    (moved : reached.target = bus.target.carriedOut script command data) : reached.Idle := by
  unfold Bus.Idle
  rw [moved]
  exact ⟨rfl, rfl⟩

/-- A beginning of the data was written, and all of it when the outcome is `Ok`. -/
def Wrote (start : Nat) (data : List UInt8) (before : Bus) {ε α : Type}
    (outcome : Except ε α) (reached : Bus) : Prop :=
  ∃ count, count ≤ data.length ∧
    reached.target.disk = splice before.target.disk start (data.take count) ∧
    ∀ value, outcome = .ok value → count = data.length ∧ reached.Idle

namespace Wrote

variable {start : Nat} {before middle reached : Bus} {ε ε' α β : Type}

theorem nothing {data : List UInt8} {error : ε}
    (same : reached.target.disk = before.target.disk) :
    Wrote start data before (.error error : Except ε α) reached := by
  refine ⟨0, Nat.zero_le _, ?_, fun value fails => by cases fails⟩
  rw [same, List.take_zero, splice_nil]

theorem everything {data : List UInt8} {error : ε}
    (written : reached.target.disk = splice before.target.disk start data) :
    Wrote start data before (.error error : Except ε α) reached := by
  refine ⟨data.length, le_rfl, ?_, fun value fails => by cases fails⟩
  rw [written, List.take_length]

theorem done {data : List UInt8} {value : α}
    (written : reached.target.disk = splice before.target.disk start data) (idle : reached.Idle) :
    Wrote start data before (.ok value : Except ε α) reached := by
  refine ⟨data.length, le_rfl, ?_, fun _ _ => ⟨rfl, idle⟩⟩
  rw [written, List.take_length]

/-- After `Ok`, all of the data is written. -/
theorem written {data : List UInt8} {value : α}
    (wrote : Wrote start data before (.ok value : Except ε α) reached) :
    reached.target.disk = splice before.target.disk start data ∧ reached.Idle := by
  obtain ⟨count, -, disk, whole⟩ := wrote
  obtain ⟨rfl, idle⟩ := whole value rfl
  rw [List.take_length] at disk
  exact ⟨disk, idle⟩

/-- A write that goes on where one left off. -/
theorem next {first second : List UInt8} {value : α} {outcome : Except ε' β}
    (here : Wrote start first before (.ok value : Except ε α) middle)
    (there : Wrote (start + first.length) second middle outcome reached) :
    Wrote start (first ++ second) before outcome reached := by
  obtain ⟨disk, -⟩ := here.written
  obtain ⟨count, most, disk', whole⟩ := there
  refine ⟨first.length + count, ?_, ?_, fun value same => ?_⟩
  · rw [List.length_append]
    omega
  · rw [disk', disk, List.take_length_add_append, splice_append]
  · obtain ⟨rfl, idle⟩ := whole value same
    exact ⟨List.length_append.symm, idle⟩

/-- An error is reported as another one. -/
theorem failed {data : List UInt8} {error : ε} {error' : ε'}
    (here : Wrote start data before (.error error : Except ε α) reached) :
    Wrote start data before (.error error' : Except ε' β) reached := by
  obtain ⟨count, most, disk, -⟩ := here
  exact ⟨count, most, disk, fun value same => by cases same⟩

/-- A write that stops before the rest. -/
theorem stop {first second : List UInt8} {error : ε} {error' : ε'}
    (here : Wrote start first before (.error error : Except ε α) reached) :
    Wrote start (first ++ second) before (.error error' : Except ε' β) reached := by
  obtain ⟨count, most, disk, -⟩ := here
  refine ⟨count, ?_, ?_, fun value same => by cases same⟩
  · rw [List.length_append]
    omega
  · rw [disk, List.take_append_of_le_length most]

/-- A write that is done, before something that fails. -/
theorem halt {first second : List UInt8} {value : α} {error : ε'}
    (here : Wrote start first before (.ok value : Except ε α) reached) :
    Wrote start (first ++ second) before (.error error : Except ε' β) reached := by
  obtain ⟨disk, -⟩ := here.written
  refine ⟨first.length, ?_, ?_, fun value same => by cases same⟩
  · rw [List.length_append]
    omega
  · rw [disk, List.take_left']
    rfl

/-- The bus the write started from matters by its storage only. -/
theorem of_disk {data : List UInt8} {outcome : Except ε α}
    (wrote : Wrote start data middle outcome reached)
    (same : middle.target.disk = before.target.disk) : Wrote start data before outcome reached := by
  unfold Wrote
  rw [← same]
  exact wrote

theorem of_target {data : List UInt8} {outcome : Except ε α}
    (wrote : Wrote start data middle outcome reached) (same : middle.target = before.target) :
    Wrote start data before outcome reached :=
  wrote.of_disk (congrArg Target.disk same)

/-- Data that go on with what is there already are written without it. -/
theorem patch {data : List UInt8} {more : Nat} {outcome : Except ε α}
    (wrote : Wrote start (data ++ slice before.target.disk (start + data.length) more) before outcome
      reached) : Wrote start data before outcome reached := by
  obtain ⟨count, most, disk, whole⟩ := wrote
  rw [List.length_append, length_slice] at most whole
  rcases Nat.le_total count data.length with short | long
  · refine ⟨count, short, ?_, fun value same => ?_⟩
    · rw [disk, List.take_append_of_le_length short]
    · obtain ⟨full, idle⟩ := whole value same
      exact ⟨by omega, idle⟩
  · obtain ⟨extra, rfl⟩ := Nat.exists_eq_add_of_le long
    refine ⟨data.length, le_rfl, ?_, fun value same => ⟨rfl, (whole value same).2⟩⟩
    have unseen : slice before.target.disk (start + data.length) extra =
        slice (splice before.target.disk start data) (start + data.length) extra :=
      (slice_splice_of_disjoint _ _ _ _ _ (.inl le_rfl)).symm
    rw [disk, List.take_length, List.take_length_add_append, take_slice _ _ _ _ (by omega),
      splice_append, unseen, splice_slice_self]

/-- Data that come after what is there already are written without it. -/
theorem skip {data : List UInt8} {offset : Nat} {outcome : Except ε α}
    (wrote : Wrote start (slice before.target.disk start offset ++ data) before outcome reached) :
    Wrote (start + offset) data before outcome reached := by
  obtain ⟨count, most, disk, whole⟩ := wrote
  rw [List.length_append, length_slice] at most whole
  rcases Nat.le_total count offset with short | long
  · refine ⟨0, Nat.zero_le _, ?_, fun value same => ?_⟩
    · rw [disk, List.take_append_of_le_length (by rw [length_slice]; exact short),
        take_slice _ _ _ _ short, splice_slice_self, List.take_zero, splice_nil]
    · obtain ⟨full, idle⟩ := whole value same
      exact ⟨by omega, idle⟩
  · obtain ⟨extra, rfl⟩ := Nat.exists_eq_add_of_le long
    refine ⟨extra, by omega, ?_, fun value same => ?_⟩
    · have length : (slice before.target.disk start offset).length = offset := length_slice _ _ _
      have parts : (slice before.target.disk start offset ++ data).take (offset + extra) =
          slice before.target.disk start offset ++ data.take extra := by
        have taken : (slice before.target.disk start offset ++ data).take
            ((slice before.target.disk start offset).length + extra) =
              slice before.target.disk start offset ++ data.take extra :=
          List.take_length_add_append extra
        rwa [length] at taken
      rw [disk, parts, splice_append, splice_slice_self, length]
    · obtain ⟨full, idle⟩ := whole value same
      exact ⟨by omega, idle⟩

/-- **Read-modify-write.** A range that was read is written back with `data` put at `offset` of it. -/
theorem patchWithin {data : List UInt8} {offset count : Nat} {outcome : Except ε α}
    (within : offset + data.length ≤ count)
    (wrote : Wrote start ((slice before.target.disk start count).take offset ++ data ++
      (slice before.target.disk start count).drop (offset + data.length)) before outcome reached) :
    Wrote (start + offset) data before outcome reached := by
  rw [take_slice _ _ _ _ (by omega), drop_slice _ _ _ _ within, List.append_assoc] at wrote
  have skipped := wrote.skip
  rw [← Nat.add_assoc] at skipped
  exact skipped.patch

end Wrote

theorem writeLbaRaw_effect (idle : bus.Idle) {data : List UInt8}
    (valid : Command.SectorLength data.length) (pos : UInt32) (subcode : UInt8)
    (timeout : Duration) :
    Io.After (Bus.answer script) (writeLbaRaw pos data subcode timeout) () bus
      fun outcome _ reached => Wrote (STORAGE_SECTOR_SIZE * pos.toNat) data bus outcome reached := by
  rw [writeLbaRaw_eq valid]
  refine (transact_effect idle (.writeLba pos data subcode valid) timeout).bind
    (fun error own reached moved => ?_) fun received own reached moved => ?_
  · rcases Target.disk_of_flash (by decide : ¬WireCommand.Selects 0x15) moved with same | written
    · exact .nothing same
    · exact .everything written
  · have idle' : reached.Idle := idle_of_carriedOut moved.1
    have disk : reached.target.disk =
        splice bus.target.disk (STORAGE_SECTOR_SIZE * pos.toNat) data := by
      rw [moved.1]
      exact Target.disk_carriedOut script (by decide : ¬WireCommand.Selects 0x15) data bus.target
    exact Wrote.done disk idle'

theorem readLbaRaw_effect (idle : bus.Idle) {data : List UInt8}
    (valid : Command.SectorLength data.length) (pos : UInt32) (subcode : UInt8)
    (timeout : Duration) :
    Io.After (Bus.answer script) (readLbaRaw pos data subcode timeout) () bus
      fun outcome _ reached => reached.target.disk = bus.target.disk ∧
        ∀ bytes, outcome = .ok bytes → reached.Idle ∧
          bytes = slice bus.target.disk (STORAGE_SECTOR_SIZE * pos.toNat) data.length := by
  rw [readLbaRaw_eq valid]
  refine (transact_effect idle (.readLba pos data subcode valid) timeout).bind
    (fun error own reached moved => ?_) fun received own reached moved => ?_
  · refine ⟨?_, fun bytes same => by cases same⟩
    rcases Target.disk_of_flash (by decide : ¬WireCommand.Selects 0x14) moved with same | same
    · exact same
    · exact same
  · obtain ⟨reaches, rfl⟩ := moved
    have disk : reached.target.disk = bus.target.disk := by
      rw [reaches]
      exact Target.disk_carriedOut script (by decide : ¬WireCommand.Selects 0x14) [] bus.target
    have idle' : reached.Idle := idle_of_carriedOut reaches
    refine Io.after_pure.mpr ⟨disk, fun bytes same => ⟨idle', ?_⟩⟩
    have length : (UInt32.ofNat data.length).toNat = data.length := valid.toNat_ofNat
    have sent : ((Command.readLba pos data subcode).wire (script.tags bus.draws)).dataIn
        (script.contents bus.target.completed.length) bus.target.disk =
          some (slice bus.target.disk (STORAGE_SECTOR_SIZE * pos.toNat) data.length) := by
      show (if DIRECTION_IN = DIRECTION_IN ∧ 0 < (UInt32.ofNat data.length).toNat then
        some (slice bus.target.disk (STORAGE_SECTOR_SIZE * pos.toNat)
          (UInt32.ofNat data.length).toNat) else none) = _
      rw [length, if_pos ⟨rfl, Nat.pos_of_ne_zero valid.1⟩]
    rw [sent] at same
    cases same
    show slice _ _ _ ++ data.drop (slice _ _ _).length = _
    rw [length_slice, List.drop_length, List.append_nil]

/-! ### Positions -/

/-- The next position is the one after the bytes, unless there is none. -/
theorem advanceLbaByBytes_ok {pos next : UInt32} {bytes : Nat}
    (advances : advanceLbaByBytes pos bytes = .ok next) :
    next.toNat = pos.toNat + bytes / STORAGE_SECTOR_SIZE := by
  unfold advanceLbaByBytes checkedAddSectors at advances
  split at advances
  · split at advances
    · rename_i fits
      cases advances
      exact UInt32.toNat_ofNat_of_lt' fits
    · cases advances
  · cases advances

theorem advanceLbaByBytes_of_lt {pos : UInt32} {bytes : Nat}
    (fits : pos.toNat + bytes / STORAGE_SECTOR_SIZE < 2 ^ 32) :
    ∃ next, advanceLbaByBytes pos bytes = .ok next := by
  refine ⟨UInt32.ofNat (pos.toNat + bytes / STORAGE_SECTOR_SIZE), ?_⟩
  rw [advanceLbaByBytes, if_pos (by omega), checkedAddSectors, if_pos fits]

theorem checkedAddSectors_ok {pos next : UInt32} {sectors : Nat}
    (advances : checkedAddSectors pos sectors = .ok next) :
    next.toNat = pos.toNat + sectors := by
  unfold checkedAddSectors at advances
  split at advances
  · rename_i fits
    cases advances
    exact UInt32.toNat_ofNat_of_lt' fits
  · cases advances

/-! ### How a buffer is cut -/

/-- The chunks of the whole sectors of a buffer. -/
def pieces (data : List UInt8) : List (List UInt8) :=
  chunks MAX_LBA_TRANSFER_BYTES (data.take (data.length - data.length % STORAGE_SECTOR_SIZE))

/-- What is left of the buffer after its whole sectors. -/
def tailOf (data : List UInt8) : List UInt8 :=
  data.drop (data.length - data.length % STORAGE_SECTOR_SIZE)

@[simp] theorem pieces_append_tail (data : List UInt8) :
    (pieces data).flatten ++ tailOf data = data := by
  unfold pieces tailOf
  rw [chunks_flatten _ (by decide), List.take_append_drop]

theorem length_pieces (data : List UInt8) :
    (pieces data).flatten.length = STORAGE_SECTOR_SIZE * (data.length / STORAGE_SECTOR_SIZE) := by
  unfold pieces STORAGE_SECTOR_SIZE
  rw [chunks_flatten _ (by decide), List.length_take]
  omega

theorem length_tailOf (data : List UInt8) :
    (tailOf data).length = data.length % STORAGE_SECTOR_SIZE := by
  unfold tailOf
  have := Nat.mod_le data.length STORAGE_SECTOR_SIZE
  rw [List.length_drop]
  omega

theorem length_tailOf_le (data : List UInt8) : (tailOf data).length ≤ STORAGE_SECTOR_SIZE := by
  rw [length_tailOf]
  exact (Nat.mod_lt _ (by decide)).le

/-- Every chunk is a sector transfer that the raw commands accept, of at most 128 sectors. -/
theorem sectorLength_of_mem_pieces {data chunk : List UInt8} (member : chunk ∈ pieces data) :
    Command.SectorLength chunk.length ∧
      chunk.length / STORAGE_SECTOR_SIZE ≤ MAX_LBA_TRANSFER_SECTORS := by
  have whole : (data.take (data.length - data.length % STORAGE_SECTOR_SIZE)).length %
      STORAGE_SECTOR_SIZE = 0 := by
    unfold STORAGE_SECTOR_SIZE
    rw [List.length_take]
    omega
  obtain ⟨positive, most, divides⟩ := length_of_mem_chunks (by decide) member
  have sectors := Nat.mod_eq_zero_of_dvd
    (divides STORAGE_SECTOR_SIZE (by decide) (Nat.dvd_of_mod_eq_zero whole))
  have most' : chunk.length ≤ 65536 := most
  unfold STORAGE_SECTOR_SIZE at sectors
  refine ⟨⟨by omega, sectors, ?_⟩, ?_⟩
  · unfold STORAGE_SECTOR_SIZE
    omega
  · unfold STORAGE_SECTOR_SIZE MAX_LBA_TRANSFER_SECTORS
    omega

theorem pieces_valid (data : List UInt8) :
    ∀ chunk ∈ pieces data, Command.SectorLength chunk.length :=
  fun _ member => (sectorLength_of_mem_pieces member).1

/-! ### The loop of the batched commands -/

/-- What the chunk loops of reads and writes share: a raw command for each chunk, at positions that
follow each other. -/
def batch (raw : UInt32 → List UInt8 → Duration → UsbIo Unit RkUsbError (List UInt8))
    (deadline : Instant) :
    List (List UInt8) → UInt32 → UsbIo Unit RkUsbError (List UInt8 × UInt32)
  | [], nextPos => pure ([], nextPos)
  | chunk :: rest, nextPos => do
      let timeout ← remainingTimeout deadline
      let chunk ← raw nextPos chunk timeout
      let nextPos ← .ofExcept (advanceLbaByBytes nextPos chunk.length)
      let (filled, nextPos) ← batch raw deadline rest nextPos
      pure (chunk ++ filled, nextPos)

/-- The raw commands of the two loops, as the loop calls them. -/
def writeChunk (subcode : UInt8) (pos : UInt32) (chunk : List UInt8) (timeout : Duration) :
    UsbIo Unit RkUsbError (List UInt8) := do
  writeLbaRaw pos chunk subcode timeout
  pure chunk

def readChunk (subcode : UInt8) (pos : UInt32) (chunk : List UInt8) (timeout : Duration) :
    UsbIo Unit RkUsbError (List UInt8) :=
  readLbaRaw pos chunk subcode timeout

theorem readLbaChunks_eq (deadline : Instant) (subcode : UInt8) (pieces : List (List UInt8))
    (pos : UInt32) : readLbaChunks deadline subcode pieces pos =
      batch (readChunk subcode) deadline pieces pos := by
  induction pieces generalizing pos with
  | nil => rfl
  | cons chunk rest ih =>
    unfold readLbaChunks batch
    simp only [ih, readChunk]

theorem writeLbaChunks_eq (deadline : Instant) (subcode : UInt8) (pieces : List (List UInt8))
    (pos : UInt32) : writeLbaChunks deadline subcode pieces pos =
      batch (writeChunk subcode) deadline pieces pos >>= fun result => pure result.2 := by
  induction pieces generalizing pos with
  | nil => rfl
  | cons chunk rest ih =>
    unfold writeLbaChunks batch
    simp only [ih, writeChunk, bind_assoc, pure_bind]

/-- The buffer of a read keeps its length, whatever the device sends. -/
theorem readLbaRaw_length {data : List UInt8} (valid : Command.SectorLength data.length)
    (pos : UInt32) (subcode : UInt8) (timeout : Duration) :
    Io.After (Bus.answer script) (readLbaRaw pos data subcode timeout) () bus
      fun outcome _ _ => ∀ filled, outcome = .ok filled → filled.length = data.length := by
  rw [readLbaRaw_eq valid]
  refine Io.After.bind (after_transact.mpr (cbwTransaction_target _ none (some data) timeout))
    (fun error own reached _ filled same => by cases same) fun received own reached moved => ?_
  obtain ⟨⟨reply, rest, bytes, -, -, -, room, rfl⟩, -⟩ := moved
  refine Io.after_pure.mpr fun filled same => ?_
  cases same
  rw [List.length_append, List.length_drop]
  omega

/-- A raw command that returns as many bytes as it is given. -/
def KeepsLength (script : Script)
    (raw : UInt32 → List UInt8 → Duration → UsbIo Unit RkUsbError (List UInt8)) : Prop :=
  ∀ own bus pos chunk timeout, Command.SectorLength (List.length chunk) →
    Io.After (Bus.answer script) (raw pos chunk timeout) own bus fun outcome _ _ =>
      ∀ filled, outcome = .ok filled → filled.length = chunk.length

theorem readChunk_keepsLength (subcode : UInt8) : KeepsLength script (readChunk subcode) :=
  fun _ _ pos _ timeout valid => readLbaRaw_length valid pos subcode timeout

theorem writeChunk_keepsLength (subcode : UInt8) : KeepsLength script (writeChunk subcode) := by
  intro own bus pos chunk timeout valid
  have anything : Io.After (Bus.answer script) (writeLbaRaw pos chunk subcode timeout) own bus
      fun _ _ _ => True := trivial
  refine anything.bind (fun error own reached _ filled fails => by cases fails)
    fun _ own reached _ filled same => ?_
  cases same
  rfl

/-- What the loop returns: its buffer, filled, and the position after it. -/
theorem batch_returns {raw : UInt32 → List UInt8 → Duration → UsbIo Unit RkUsbError (List UInt8)}
    (keeps : KeepsLength script raw) (deadline : Instant) (pieces : List (List UInt8))
    (valid : ∀ chunk ∈ pieces, Command.SectorLength chunk.length) (pos : UInt32) (own : Unit) :
    Io.After (Bus.answer script) (batch raw deadline pieces pos) own bus fun outcome _ _ =>
      ∀ result, outcome = .ok result → result.1.length = pieces.flatten.length ∧
        STORAGE_SECTOR_SIZE * result.2.toNat =
          STORAGE_SECTOR_SIZE * pos.toNat + pieces.flatten.length := by
  induction pieces generalizing pos bus own with
  | nil =>
    intro result same
    cases same
    exact ⟨rfl, rfl⟩
  | cons chunk rest ih =>
    obtain ⟨sectors, others⟩ := List.forall_mem_cons.mp valid
    refine (remainingTimeout_target deadline).bind
      (fun error own reached _ result fails => by cases fails) fun timeout own waited _ => ?_
    refine (keeps own waited pos chunk timeout sectors).bind
      (fun error own reached _ result fails => by cases fails) fun filled own reached length => ?_
    have same := length filled rfl
    refine Io.after_ofExcept_bind.mpr ?_
    cases advances : advanceLbaByBytes pos filled.length with
    | error error =>
      intro result fails
      cases fails
    | ok next =>
      have whole := Nat.div_add_mod chunk.length STORAGE_SECTOR_SIZE
      have aligned := sectors.2.1
      have here := advanceLbaByBytes_ok advances
      refine (ih others next own).bind
        (fun error own reached _ result fails => by cases fails) fun result own reached moved => ?_
      obtain ⟨later, position⟩ := moved result rfl
      intro result' same'
      cases same'
      rw [List.flatten_cons, List.length_append, List.length_append, later, position, here, same]
      unfold STORAGE_SECTOR_SIZE at *
      omega

/-- A write that returns `Ok` ends below the last position. -/
theorem writeLba_fits (pos : UInt32) (data : List UInt8) (subcode : UInt8) (timeout : Duration) :
    Io.After (Bus.answer script) (writeLba pos data subcode timeout) () bus fun outcome _ _ =>
      ∀ value, outcome = .ok value → pos.toNat + data.length / STORAGE_SECTOR_SIZE < 2 ^ 32 := by
  unfold writeLba
  by_cases empty : data.length = 0
  · rw [if_pos empty]
    intro _ _
    have := pos.toNat_lt
    rw [empty]
    unfold STORAGE_SECTOR_SIZE
    omega
  rw [if_neg empty]
  refine after_now.mpr ?_
  dsimp only
  rw [writeLbaChunks_eq, bind_assoc]
  refine (batch_returns (writeChunk_keepsLength subcode) _ (pieces data) (pieces_valid data) pos
    ()).bind (fun error own reached _ value fails => by cases fails) fun result own reached returns => ?_
  obtain ⟨-, position⟩ := returns result rfl
  have small := result.2.toNat_lt
  have anything : Io.After (Bus.answer script) (pure result.2 >>= fun nextPos =>
      writeLbaTail (script.clock bus.ticks + timeout) subcode nextPos (tailOf data)) own reached
      fun _ _ _ => True := trivial
  refine anything.imp ?_
  intro _ _ _ _ _ _
  rw [length_pieces] at position
  unfold STORAGE_SECTOR_SIZE at *
  omega

theorem readLbaTail_length (deadline : Instant) (subcode : UInt8) (pos : UInt32)
    {tail : List UInt8} (short : tail.length ≤ STORAGE_SECTOR_SIZE) :
    Io.After (Bus.answer script) (readLbaTail deadline subcode pos tail) () bus
      fun outcome _ _ => ∀ filled, outcome = .ok filled → filled.length = tail.length := by
  unfold readLbaTail
  by_cases none : tail.length = 0
  · rw [if_pos none]
    intro filled same
    cases same
    rfl
  rw [if_neg none]
  have whole : (List.replicate STORAGE_SECTOR_SIZE (0 : UInt8)).length = STORAGE_SECTOR_SIZE :=
    List.length_replicate
  refine (remainingTimeout_target _).bind
    (fun error own reached _ filled fails => by cases fails) fun left own waited _ => ?_
  refine (readLbaRaw_length (by
    rw [whole]
    decide) pos subcode left).bind
    (fun error own reached _ filled fails => by cases fails) fun sector own reached length => ?_
  intro filled same
  cases same
  rw [List.length_take, length sector rfl, whole, Nat.min_eq_left short]

/-- A read that returns `Ok` fills the buffer it is given, and ends below the last position. -/
theorem readLba_returns (pos : UInt32) (data : List UInt8) (subcode : UInt8) (timeout : Duration) :
    Io.After (Bus.answer script) (readLba pos data subcode timeout) () bus fun outcome _ _ =>
      ∀ filled, outcome = .ok filled → filled.length = data.length ∧
        pos.toNat + data.length / STORAGE_SECTOR_SIZE < 2 ^ 32 := by
  unfold readLba
  by_cases empty : data.length = 0
  · rw [if_pos empty]
    intro filled same
    cases same
    have := pos.toNat_lt
    refine ⟨rfl, ?_⟩
    rw [empty]
    unfold STORAGE_SECTOR_SIZE
    omega
  rw [if_neg empty]
  refine after_now.mpr ?_
  dsimp only
  rw [readLbaChunks_eq]
  refine (batch_returns (readChunk_keepsLength subcode) _ (pieces data) (pieces_valid data) pos
    ()).bind (fun error own reached _ value fails => by cases fails) fun result own reached returns => ?_
  obtain ⟨body, position⟩ := returns result rfl
  have small := result.2.toNat_lt
  refine (readLbaTail_length (script.clock bus.ticks + timeout) subcode result.2
    (length_tailOf_le data)).bind (fun error own reached _ filled fails => by cases fails)
    fun tail own reached last => ?_
  intro filled same
  cases same
  refine ⟨?_, ?_⟩
  · rw [List.length_append, last tail rfl, body, ← List.length_append, pieces_append_tail]
  · rw [length_pieces] at position
    unfold STORAGE_SECTOR_SIZE at *
    omega

/-! ### Batched writes -/

theorem writeLbaChunks_effect (deadline : Instant) (subcode : UInt8) (pieces : List (List UInt8))
    (valid : ∀ chunk ∈ pieces, Command.SectorLength chunk.length) (pos : UInt32)
    (idle : bus.Idle) :
    Io.After (Bus.answer script) (writeLbaChunks deadline subcode pieces pos) () bus
      fun outcome _ reached =>
        Wrote (STORAGE_SECTOR_SIZE * pos.toNat) pieces.flatten bus outcome reached ∧
        ∀ next, outcome = .ok next → STORAGE_SECTOR_SIZE * next.toNat =
          STORAGE_SECTOR_SIZE * pos.toNat + pieces.flatten.length := by
  induction pieces generalizing pos bus with
  | nil => exact ⟨.done (splice_nil _ _).symm idle, fun next same => by cases same; rfl⟩
  | cons chunk rest ih =>
    obtain ⟨sectors, others⟩ := List.forall_mem_cons.mp valid
    refine (remainingTimeout_target deadline).bind
      (fun error own reached same => ⟨.nothing (congrArg Target.disk same),
        fun next fails => by cases fails⟩) fun timeout own waited same => ?_
    have idle' := idle.of_target same
    refine (writeLbaRaw_effect idle' sectors pos subcode timeout).bind
      (fun error own reached wrote => ⟨(wrote.of_target same).stop,
        fun next fails => by cases fails⟩) fun _ own reached wrote => ?_
    have here := wrote.of_target same
    refine Io.after_ofExcept_bind.mpr ?_
    cases advances : advanceLbaByBytes pos chunk.length with
    | error error =>
      exact ⟨here.halt, fun next fails => by cases fails⟩
    | ok next =>
      have whole := Nat.div_add_mod chunk.length STORAGE_SECTOR_SIZE
      have position : STORAGE_SECTOR_SIZE * next.toNat =
          STORAGE_SECTOR_SIZE * pos.toNat + chunk.length := by
        rw [advanceLbaByBytes_ok advances, Nat.mul_add]
        have := sectors.2.1
        omega
      refine (ih others next here.written.2).imp ?_
      intro outcome own last moved
      rw [position] at moved
      refine ⟨here.next moved.1, fun final same => ?_⟩
      rw [moved.2 final same, List.flatten_cons, List.length_append]
      omega

/-- One sector is read. -/
theorem readSector_effect (idle : bus.Idle) (pos : UInt32) (subcode : UInt8) (timeout : Duration) :
    Io.After (Bus.answer script)
      (readLbaRaw pos (List.replicate STORAGE_SECTOR_SIZE 0) subcode timeout) () bus
      fun outcome _ reached => reached.target.disk = bus.target.disk ∧
        ∀ sector, outcome = .ok sector → reached.Idle ∧
          sector = slice bus.target.disk (STORAGE_SECTOR_SIZE * pos.toNat) STORAGE_SECTOR_SIZE := by
  have length : (List.replicate STORAGE_SECTOR_SIZE (0 : UInt8)).length = STORAGE_SECTOR_SIZE :=
    List.length_replicate
  have valid : Command.SectorLength (List.replicate STORAGE_SECTOR_SIZE (0 : UInt8)).length := by
    rw [length]
    decide
  refine (readLbaRaw_effect idle valid pos subcode timeout).imp ?_
  intro outcome own reached moved
  rw [length] at moved
  exact moved

/-- The partial last sector: read, patched and written back. -/
theorem writeLbaTail_effect (deadline : Instant) (subcode : UInt8) (pos : UInt32)
    {tail : List UInt8} (short : tail.length ≤ STORAGE_SECTOR_SIZE) (idle : bus.Idle) :
    Io.After (Bus.answer script) (writeLbaTail deadline subcode pos tail) () bus
      fun outcome _ reached => Wrote (STORAGE_SECTOR_SIZE * pos.toNat) tail bus outcome reached := by
  unfold writeLbaTail
  by_cases empty : tail.length = 0
  · rw [if_pos empty]
    obtain rfl := List.length_eq_zero_iff.mp empty
    exact .done (splice_nil _ _).symm idle
  rw [if_neg empty]
  refine (remainingTimeout_target deadline).bind
    (fun error own reached same => .nothing (congrArg Target.disk same))
    fun timeout own waited same => ?_
  refine (readSector_effect (idle.of_target same) pos subcode timeout).bind
    (fun error own reached reads => .nothing (reads.1.trans (congrArg Target.disk same)))
    fun sector own read reads => ?_
  obtain ⟨readIdle, found⟩ := reads.2 sector rfl
  have kept : read.target.disk = bus.target.disk := reads.1.trans (congrArg Target.disk same)
  refine (remainingTimeout_target deadline).bind
    (fun error own reached same' => .nothing ((congrArg Target.disk same').trans kept))
    fun timeout' own ready same' => ?_
  have kept' : ready.target.disk = bus.target.disk := (congrArg Target.disk same').trans kept
  have rest : sector.drop tail.length = slice bus.target.disk
      (STORAGE_SECTOR_SIZE * pos.toNat + tail.length) (STORAGE_SECTOR_SIZE - tail.length) := by
    rw [found, same, drop_slice _ _ _ _ short]
  rw [rest]
  have length : (tail ++ slice bus.target.disk (STORAGE_SECTOR_SIZE * pos.toNat + tail.length)
      (STORAGE_SECTOR_SIZE - tail.length)).length = STORAGE_SECTOR_SIZE := by
    rw [List.length_append, length_slice]
    omega
  refine (writeLbaRaw_effect (readIdle.of_target same') (by
    rw [length]
    decide) pos subcode timeout').imp fun outcome own reached wrote => ?_
  rw [← kept'] at wrote
  exact wrote.patch.of_disk kept'

/-- **`writeLba` writes a beginning of the data**, and all of it when it returns `Ok`. -/
theorem writeLba_effect (idle : bus.Idle) (pos : UInt32) (data : List UInt8) (subcode : UInt8)
    (timeout : Duration) :
    Io.After (Bus.answer script) (writeLba pos data subcode timeout) () bus
      fun outcome _ reached => Wrote (STORAGE_SECTOR_SIZE * pos.toNat) data bus outcome reached := by
  unfold writeLba
  by_cases empty : data.length = 0
  · rw [if_pos empty]
    obtain rfl := List.length_eq_zero_iff.mp empty
    exact .done (splice_nil _ _).symm idle
  rw [if_neg empty]
  refine after_now.mpr ?_
  have body := @writeLbaChunks_effect script { bus with ticks := bus.ticks + 1 }
    (script.clock bus.ticks + timeout) subcode (pieces data) (pieces_valid data) pos idle
  have parts := pieces_append_tail data
  refine body.bind (fun error own reached moved => ?_) fun next own reached moved => ?_
  · rw [← parts]
    exact moved.1.stop
  · obtain ⟨wrote, position⟩ := moved
    refine (writeLbaTail_effect _ subcode next (length_tailOf_le data) wrote.written.2).imp ?_
    intro outcome own last wrote'
    rw [position next rfl] at wrote'
    have both := wrote.next wrote'
    rw [parts] at both
    exact both

/-! ### Batched reads -/

theorem readLbaChunks_effect (deadline : Instant) (subcode : UInt8) (pieces : List (List UInt8))
    (valid : ∀ chunk ∈ pieces, Command.SectorLength chunk.length) (pos : UInt32)
    (idle : bus.Idle) :
    Io.After (Bus.answer script) (readLbaChunks deadline subcode pieces pos) () bus
      fun outcome _ reached => reached.target.disk = bus.target.disk ∧
        ∀ result, outcome = .ok result → reached.Idle ∧
          result.1 = slice bus.target.disk (STORAGE_SECTOR_SIZE * pos.toNat)
            pieces.flatten.length ∧
          STORAGE_SECTOR_SIZE * result.2.toNat =
            STORAGE_SECTOR_SIZE * pos.toNat + pieces.flatten.length := by
  induction pieces generalizing pos bus with
  | nil =>
    refine ⟨rfl, fun result same => ?_⟩
    cases same
    exact ⟨idle, rfl, rfl⟩
  | cons chunk rest ih =>
    obtain ⟨sectors, others⟩ := List.forall_mem_cons.mp valid
    refine (remainingTimeout_target deadline).bind
      (fun error own reached same => ⟨congrArg Target.disk same, fun result fails => by cases fails⟩)
      fun timeout own waited same => ?_
    refine (readLbaRaw_effect (idle.of_target same) sectors pos subcode timeout).bind
      (fun error own reached reads => ⟨reads.1.trans (congrArg Target.disk same),
        fun result fails => by cases fails⟩) fun filled own read reads => ?_
    obtain ⟨readIdle, found⟩ := reads.2 filled rfl
    have kept : read.target.disk = bus.target.disk := reads.1.trans (congrArg Target.disk same)
    have length : filled.length = chunk.length := by rw [found, length_slice]
    refine Io.after_ofExcept_bind.mpr ?_
    cases advances : advanceLbaByBytes pos filled.length with
    | error error => exact ⟨kept, fun result fails => by cases fails⟩
    | ok next =>
      have whole := Nat.div_add_mod chunk.length STORAGE_SECTOR_SIZE
      have position : STORAGE_SECTOR_SIZE * next.toNat =
          STORAGE_SECTOR_SIZE * pos.toNat + chunk.length := by
        rw [advanceLbaByBytes_ok advances, Nat.mul_add, length]
        have := sectors.2.1
        omega
      refine (ih others next readIdle).bind (fun error own reached moved =>
        ⟨moved.1.trans kept, fun result fails => by cases fails⟩) fun result own reached moved => ?_
      obtain ⟨lastIdle, bytes, final⟩ := moved.2 result rfl
      refine ⟨moved.1.trans kept, fun result' same' => ?_⟩
      cases same'
      refine ⟨lastIdle, ?_, ?_⟩
      · rw [found, bytes, kept, position, same, List.flatten_cons, List.length_append, slice_append]
      · rw [final, position, List.flatten_cons, List.length_append]
        omega

theorem readLbaTail_effect (deadline : Instant) (subcode : UInt8) (pos : UInt32)
    {tail : List UInt8} (short : tail.length ≤ STORAGE_SECTOR_SIZE) (idle : bus.Idle) :
    Io.After (Bus.answer script) (readLbaTail deadline subcode pos tail) () bus
      fun outcome _ reached => reached.target.disk = bus.target.disk ∧
        ∀ bytes, outcome = .ok bytes → reached.Idle ∧
          bytes = slice bus.target.disk (STORAGE_SECTOR_SIZE * pos.toNat) tail.length := by
  unfold readLbaTail
  by_cases empty : tail.length = 0
  · rw [if_pos empty]
    refine ⟨rfl, fun bytes same => ?_⟩
    cases same
    exact ⟨idle, by rw [empty, List.length_eq_zero_iff.mp empty]; rfl⟩
  rw [if_neg empty]
  refine (remainingTimeout_target deadline).bind
    (fun error own reached same => ⟨congrArg Target.disk same, fun result fails => by cases fails⟩)
    fun timeout own waited same => ?_
  refine (readSector_effect (idle.of_target same) pos subcode timeout).bind
    (fun error own reached reads => ⟨reads.1.trans (congrArg Target.disk same),
      fun result fails => by cases fails⟩) fun sector own read reads => ?_
  obtain ⟨readIdle, found⟩ := reads.2 sector rfl
  refine ⟨reads.1.trans (congrArg Target.disk same), fun bytes same' => ?_⟩
  cases same'
  refine ⟨readIdle, ?_⟩
  rw [found, same, take_slice _ _ _ _ short]

/-- **`readLba` reads the storage** and leaves it alone. -/
theorem readLba_effect (idle : bus.Idle) (pos : UInt32) (data : List UInt8) (subcode : UInt8)
    (timeout : Duration) :
    Io.After (Bus.answer script) (readLba pos data subcode timeout) () bus
      fun outcome _ reached => reached.target.disk = bus.target.disk ∧
        ∀ bytes, outcome = .ok bytes → reached.Idle ∧
          bytes = slice bus.target.disk (STORAGE_SECTOR_SIZE * pos.toNat) data.length := by
  unfold readLba
  by_cases empty : data.length = 0
  · rw [if_pos empty]
    refine ⟨rfl, fun bytes same => ?_⟩
    cases same
    exact ⟨idle, by rw [empty, List.length_eq_zero_iff.mp empty]; rfl⟩
  rw [if_neg empty]
  refine after_now.mpr ?_
  have body := @readLbaChunks_effect script { bus with ticks := bus.ticks + 1 }
    (script.clock bus.ticks + timeout) subcode (pieces data) (pieces_valid data) pos idle
  refine body.bind (fun error own reached moved => ⟨moved.1, fun result fails => by cases fails⟩)
    fun result own aligned moved => ?_
  obtain ⟨alignedIdle, bytes, position⟩ := moved.2 result rfl
  refine (readLbaTail_effect _ subcode result.2 (length_tailOf_le data) alignedIdle).bind
    (fun error own reached moved' => ⟨moved'.1.trans moved.1, fun result fails => by cases fails⟩)
    fun tail own reached moved' => ?_
  obtain ⟨lastIdle, tailBytes⟩ := moved'.2 tail rfl
  refine ⟨moved'.1.trans moved.1, fun all same => ?_⟩
  cases same
  refine ⟨lastIdle, ?_⟩
  rw [bytes, tailBytes, position, moved.1, ← slice_append, ← List.length_append,
    pieces_append_tail]

/-! ### Erasures -/

theorem chunkSectors_toNat (remaining : Nat) :
    (UInt16.ofNat (min remaining 65535)).toNat = min remaining 65535 :=
  UInt16.toNat_ofNat_of_lt' (by
    show min remaining 65535 < 2 ^ 16
    omega)

theorem chunkSectors_ne_zero {remaining : Nat} (some : remaining ≠ 0) :
    UInt16.ofNat (min remaining 65535) ≠ 0 := by
  intro zero
  have same := chunkSectors_toNat remaining
  rw [zero] at same
  have : (0 : UInt16).toNat = 0 := rfl
  omega

/-- The first sectors of a range were erased, and all of them when the outcome is `Ok`. -/
def Wiped (script : Script) (pos sectors : Nat) (before : Bus) {ε α : Type} (outcome : Except ε α)
    (reached : Bus) : Prop :=
  ∃ count, count ≤ sectors ∧
    reached.target.disk = splice before.target.disk (STORAGE_SECTOR_SIZE * pos)
      (List.replicate (STORAGE_SECTOR_SIZE * count) script.erased) ∧
    ∀ value, outcome = .ok value → count = sectors ∧ reached.Idle

namespace Wiped

variable {pos : Nat} {before middle reached : Bus} {ε ε' α β : Type}

theorem nothing {sectors : Nat} {error : ε} (same : reached.target.disk = before.target.disk) :
    Wiped script pos sectors before (.error error : Except ε α) reached := by
  refine ⟨0, Nat.zero_le _, ?_, fun value fails => by cases fails⟩
  rw [same]
  exact (splice_nil _ _).symm

theorem none {value : α} (same : reached.target = before.target) (idle : reached.Idle) :
    Wiped script pos 0 before (.ok value : Except ε α) reached := by
  refine ⟨0, le_rfl, ?_, fun _ _ => ⟨rfl, idle⟩⟩
  rw [same]
  exact (splice_nil _ _).symm

theorem everything {sectors : Nat} {error : ε}
    (wiped : reached.target.disk = splice before.target.disk (STORAGE_SECTOR_SIZE * pos)
      (List.replicate (STORAGE_SECTOR_SIZE * sectors) script.erased)) :
    Wiped script pos sectors before (.error error : Except ε α) reached :=
  ⟨sectors, le_rfl, wiped, fun value fails => by cases fails⟩

/-- After `Ok`, all of the sectors are erased. -/
theorem wiped {sectors : Nat} {value : α}
    (here : Wiped script pos sectors before (.ok value : Except ε α) reached) :
    reached.target.disk = splice before.target.disk (STORAGE_SECTOR_SIZE * pos)
      (List.replicate (STORAGE_SECTOR_SIZE * sectors) script.erased) ∧ reached.Idle := by
  obtain ⟨count, -, disk, whole⟩ := here
  obtain ⟨rfl, idle⟩ := whole value rfl
  exact ⟨disk, idle⟩

/-- An erasure that goes on where one left off. -/
theorem next {first second sectors : Nat} (sum : first + second = sectors) {value : α}
    {outcome : Except ε' β} (here : Wiped script pos first before (.ok value : Except ε α) middle)
    (there : Wiped script (pos + first) second middle outcome reached) :
    Wiped script pos sectors before outcome reached := by
  subst sum
  obtain ⟨disk, -⟩ := here.wiped
  obtain ⟨count, most, disk', whole⟩ := there
  refine ⟨first + count, Nat.add_le_add_left most _, ?_, fun value same => ?_⟩
  · have behind : STORAGE_SECTOR_SIZE * (pos + first) = STORAGE_SECTOR_SIZE * pos +
        (List.replicate (STORAGE_SECTOR_SIZE * first) script.erased).length := by
      rw [List.length_replicate, Nat.mul_add]
    rw [disk', disk, behind, ← splice_append, List.replicate_append_replicate, ← Nat.mul_add]
  · obtain ⟨rfl, idle⟩ := whole value same
    exact ⟨rfl, idle⟩

/-- An erasure that stops before the rest. -/
theorem stop {first sectors : Nat} (part : first ≤ sectors) {outcome : Except ε α} {error : ε'}
    (here : Wiped script pos first before outcome reached) :
    Wiped script pos sectors before (.error error : Except ε' β) reached := by
  obtain ⟨count, most, disk, -⟩ := here
  exact ⟨count, most.trans part, disk, fun value fails => by cases fails⟩

theorem of_target {sectors : Nat} {outcome : Except ε α}
    (here : Wiped script pos sectors middle outcome reached)
    (same : middle.target = before.target) : Wiped script pos sectors before outcome reached := by
  unfold Wiped
  rw [← same]
  exact here

end Wiped

theorem eraseLbaRaw_effect (idle : bus.Idle) {sectorCount : UInt16} (some : sectorCount ≠ 0)
    (pos : UInt32) (timeout : Duration) :
    Io.After (Bus.answer script) (eraseLbaRaw pos sectorCount timeout) () bus
      fun outcome _ reached =>
        Wiped script pos.toNat sectorCount.toNat bus outcome reached := by
  rw [eraseLbaRaw_eq some]
  refine (transact_effect idle (.eraseLba pos sectorCount) timeout).bind
    (fun error own reached moved => ?_) fun received own reached moved => ?_
  · rcases Target.disk_of_flash (by decide : ¬WireCommand.Selects 0x25) moved with same | wiped
    · exact .nothing same
    · exact .everything wiped
  · refine Io.after_pure.mpr ⟨sectorCount.toNat, le_rfl, ?_,
      fun _ _ => ⟨rfl, idle_of_carriedOut moved.1⟩⟩
    rw [moved.1]
    exact Target.disk_carriedOut script (by decide : ¬WireCommand.Selects 0x25) [] bus.target

theorem eraseLbaLoop_effect (deadline : Instant) (rounds : Nat) (pos : UInt32) (remaining : Nat)
    (enough : remaining ≤ rounds) (idle : bus.Idle) :
    Io.After (Bus.answer script) (eraseLbaLoop deadline rounds pos remaining) () bus
      fun outcome _ reached => Wiped script pos.toNat remaining bus outcome reached := by
  induction rounds generalizing pos remaining bus with
  | zero =>
    obtain rfl : remaining = 0 := by omega
    exact .none rfl idle
  | succ rounds ih =>
    unfold eraseLbaLoop
    by_cases none : remaining = 0
    · rw [if_pos none, none]
      exact .none rfl idle
    rw [if_neg none]
    have part : min remaining 65535 ≤ remaining := Nat.min_le_left _ _
    refine (remainingTimeout_target deadline).bind
      (fun error own reached same => .nothing (congrArg Target.disk same))
      fun timeout own waited same => ?_
    have command := @eraseLbaRaw_effect script waited (idle.of_target same) _
      (chunkSectors_ne_zero none) pos timeout
    rw [chunkSectors_toNat] at command
    refine command.bind (fun error own reached wiped => (wiped.of_target same).stop part)
      fun _ own erased wiped => ?_
    have here := wiped.of_target same
    refine Io.after_ofExcept_bind.mpr ?_
    cases advances : checkedAddSectors pos (min remaining 65535) with
    | error error => exact here.stop part
    | ok next =>
      refine (ih next (remaining - min remaining 65535) (by omega) here.wiped.2).imp ?_
      intro outcome own reached moved
      rw [checkedAddSectors_ok advances] at moved
      exact here.next (Nat.add_sub_cancel' part) moved

/-- **`eraseLba` erases the first sectors**, and all of them when it returns `Ok`. -/
theorem eraseLba_effect (idle : bus.Idle) (pos count : UInt32) (timeout : Duration) :
    Io.After (Bus.answer script) (eraseLba pos count timeout) () bus
      fun outcome _ reached => Wiped script pos.toNat count.toNat bus outcome reached := by
  unfold eraseLba
  by_cases none : count = 0
  · rw [if_pos none, none]
    exact .none rfl idle
  rw [if_neg none]
  refine after_now.mpr ?_
  refine (@eraseLbaLoop_effect script { bus with ticks := bus.ticks + 1 }
    (script.clock bus.ticks + timeout) count.toNat pos count.toNat le_rfl idle).imp ?_
  intro outcome own reached wiped
  exact wiped.of_target rfl

end Rkusb
