/-
**A block device within its disk is a cursor over a flat byte file.**

`ByteFile` is what the component is for: a file of bytes with a cursor, where a read returns the
bytes at the cursor, a write replaces them, and both move it. `step_refines` is the simulation for
one call and `calls_refine_byteFile` for any sequence of calls: over a device that serves every call
in time, calls within the disk all succeed and return what they return on the file.
-/

import Rkusb.BlockFile

namespace Rkusb

open Interaction Bytes FlatStore

variable {script : Script} {bus : Bus}

/-- A call of `Seek`, `Read` or `Write`. -/
inductive BlockCall
  | seek (target : SeekFrom)
  | read (buf : List UInt8)
  | write (buf : List UInt8)

/-- What a call returns. -/
inductive BlockResult
  | sought (pos : Nat)
  | filled (count : Nat) (buf : List UInt8)
  | wrote (count : Nat)
  deriving DecidableEq

namespace BlockCall

def run : BlockCall → UsbIo RkBlockDevice IoError BlockResult
  | .seek target => do
      let pos ← RkBlockDevice.seek target
      pure (.sought pos)
  | .read buf => do
      let (count, buf) ← RkBlockDevice.read buf
      pure (.filled count buf)
  | .write buf => do
      let count ← RkBlockDevice.write buf
      pure (.wrote count)

/-- The calls one after another, as long as they succeed. -/
def runAll : List BlockCall → UsbIo RkBlockDevice IoError (List BlockResult)
  | [] => pure []
  | call :: rest => do
      let result ← call.run
      let results ← runAll rest
      pure (result :: results)

/-- The device serves the requests of the call in time. -/
def Served (script : Script) (timeout : Duration) : BlockCall → Prop
  | .seek _ => True
  | .read buf => script.Serves buf.length timeout
  | .write buf => script.Serves buf.length timeout

end BlockCall

/-! ### The file -/

/-- A flat file of bytes with a cursor. -/
structure ByteFile where
  bytes : Nat → UInt8
  pos : Nat

namespace ByteFile

/-- Where a seek leads in a file of a size. -/
def target (size : Nat) (file : ByteFile) : SeekFrom → Int
  | .start position => position.toNat
  | .fromEnd offset => size + offset.toInt
  | .current offset => file.pos + offset.toInt

/-- One call on the file. -/
def step (size : Nat) (file : ByteFile) : BlockCall → BlockResult × ByteFile
  | .seek target =>
      (.sought (file.target size target).toNat, { file with pos := (file.target size target).toNat })
  | .read buf =>
      (.filled buf.length (slice file.bytes file.pos buf.length),
        { file with pos := file.pos + buf.length })
  | .write buf =>
      (.wrote buf.length,
        { bytes := splice file.bytes file.pos buf, pos := file.pos + buf.length })

/-- The call stays within the file: a seek leads below its end, and a read or a write does not go
past it. -/
def Allows (size : Nat) (file : ByteFile) : BlockCall → Prop
  | .seek target => 0 ≤ file.target size target ∧ file.target size target < size
  | .read buf => file.pos + buf.length ≤ size
  | .write buf => file.pos + buf.length ≤ size

instance (size : Nat) (file : ByteFile) (call : BlockCall) : Decidable (file.Allows size call) :=
  match call with
  | .seek _ => inferInstanceAs (Decidable (_ ∧ _))
  | .read buf => inferInstanceAs (Decidable (file.pos + buf.length ≤ size))
  | .write buf => inferInstanceAs (Decidable (file.pos + buf.length ≤ size))

/-- The calls on the file, one after another. -/
def run (size : Nat) (file : ByteFile) : List BlockCall → List BlockResult × ByteFile
  | [] => ([], file)
  | call :: rest =>
      ((file.step size call).1 :: (run size (file.step size call).2 rest).1,
        (run size (file.step size call).2 rest).2)

/-- Every call stays within the file as the calls before it leave it. -/
def AllowsAll (size : Nat) (file : ByteFile) : List BlockCall → Prop
  | [] => True
  | call :: rest => file.Allows size call ∧ AllowsAll size (file.step size call).2 rest

instance decidableAllowsAll (size : Nat) (file : ByteFile) :
    (calls : List BlockCall) → Decidable (file.AllowsAll size calls)
  | [] => inferInstanceAs (Decidable True)
  | call :: rest =>
      have := decidableAllowsAll size (file.step size call).2 rest
      inferInstanceAs (Decidable (file.Allows size call ∧ AllowsAll size _ rest))

end ByteFile

/-! ### The refinement -/

namespace RkBlockDevice

/-- The block device on its bus stands for the file. -/
structure Refines (own : RkBlockDevice) (bus : Bus) (file : ByteFile) : Prop where
  bytes : bus.target.disk = file.bytes
  pos : own.pos = file.pos
  idle : bus.Idle

theorem checkedAddSigned_of {pos : Nat} {offset : Int64} {sum : Nat}
    (small : sum < 2 ^ 64) (same : (pos : Int) + offset.toInt = sum) :
    checkedAddSigned pos offset = some sum := by
  unfold checkedAddSigned
  rw [same]
  have bounds : 0 ≤ (sum : Int) ∧ (sum : Int) < 2 ^ 64 := by omega
  rw [if_pos bounds, Int.toNat_natCast]

/-- A seek that leads onto the disk succeeds. -/
theorem sought_of_allows {own : RkBlockDevice} {file : ByteFile} {target : SeekFrom}
    (pos : own.pos = file.pos) (small : own.diskSizeBytes < 2 ^ 64)
    (allows : file.Allows own.diskSizeBytes (.seek target)) :
    (own.sought target).filter (· < own.diskSizeBytes) =
      some (file.target own.diskSizeBytes target).toNat := by
  obtain ⟨lower, upper⟩ := allows
  obtain ⟨sum, same⟩ := Int.eq_ofNat_of_zero_le lower
  rw [same] at upper
  have below : sum < own.diskSizeBytes := by omega
  have found : own.sought target = some sum := by
    cases target with
    | start position =>
      have : position.toNat = sum := by
        have whole : (position.toNat : Int) = sum := same
        omega
      exact congrArg some this
    | fromEnd offset => exact checkedAddSigned_of (by omega) same
    | current offset => exact checkedAddSigned_of (by omega) (pos ▸ same)
  rw [found, same, Int.toNat_natCast]
  simp [Option.filter, below]

theorem addressable_of_le {flashSize : UInt32} {pos length size : Nat}
    (sized : size = SECTOR_SIZE * flashSize.toNat) (inside : pos + length ≤ size) :
    Addressable pos length := by
  have := flashSize.toNat_lt
  unfold Addressable addressLimit SECTOR_SIZE at *
  omega

/-- **One call refines the file.** -/
theorem step_refines {flashSize : UInt32} {own : RkBlockDevice} {file : ByteFile}
    (refines : own.Refines bus file)
    (sized : own.diskSizeBytes = SECTOR_SIZE * flashSize.toNat) {call : BlockCall}
    (served : call.Served script own.timeout) (allows : file.Allows own.diskSizeBytes call) :
    Io.After (Bus.answer script) call.run own bus fun outcome own' reached =>
      outcome = .ok (file.step own.diskSizeBytes call).1 ∧
        own'.Refines reached (file.step own.diskSizeBytes call).2 ∧
        own'.diskSizeBytes = own.diskSizeBytes ∧ own'.timeout = own.timeout := by
  obtain ⟨bytes, pos, idle⟩ := refines
  have small : own.diskSizeBytes < 2 ^ 64 := by
    have := flashSize.toNat_lt
    unfold SECTOR_SIZE at sized
    omega
  cases call with
  | seek target =>
    have found := sought_of_allows pos small allows
    refine (seek_effect own target).bind (fun error own' reached moved => ?_)
      fun newPos own' reached moved => ?_
    · rw [found] at moved
      cases moved.2.1
    · rw [found] at moved
      obtain ⟨rfl, same, rfl⟩ := moved
      cases same
      exact ⟨rfl, ⟨bytes, rfl, idle⟩, rfl, rfl⟩
  | read buf =>
    have within : own.pos + buf.length ≤ own.diskSizeBytes := by
      rw [pos]
      exact allows
    refine (read_effect idle own buf).bind (fun error own' reached moved => ?_)
      fun result own' reached moved => ?_
    · obtain ⟨value, fails⟩ := moved.2.2.2 served (addressable_of_le sized within)
      cases fails
    · obtain ⟨disk, -, found, -⟩ := moved
      obtain ⟨reachedIdle, rfl, rfl⟩ := found result rfl
      rw [bytes] at disk
      rw [bytes, pos]
      exact ⟨rfl, ⟨disk, rfl, reachedIdle⟩, rfl, rfl⟩
  | write buf =>
    have within : own.pos + buf.length ≤ own.diskSizeBytes := by
      rw [pos]
      exact allows
    refine (write_effect idle own buf).bind (fun error own' reached moved => ?_)
      fun result own' reached moved => ?_
    · obtain ⟨value, fails⟩ := moved.1.succeeds served (.inr (addressable_of_le sized within))
      cases fails
    · obtain ⟨puts, -, found⟩ := moved
      obtain ⟨rfl, rfl⟩ := found result rfl
      obtain ⟨disk, reachedIdle⟩ := puts.wrote.written
      rw [bytes, pos] at disk
      rw [pos]
      exact ⟨rfl, ⟨disk, rfl, reachedIdle⟩, rfl, rfl⟩

/-- **Sequences of calls refine the file.** Over a device that serves every call in time, a sequence
of seeks, reads and writes within the disk succeeds; every call returns what it returns on the flat
file, and the cursor and the storage are those of the file after it. -/
theorem calls_refine_byteFile {flashSize : UInt32} {own : RkBlockDevice} {file : ByteFile}
    (refines : own.Refines bus file)
    (sized : own.diskSizeBytes = SECTOR_SIZE * flashSize.toNat) (calls : List BlockCall)
    (served : ∀ call ∈ calls, call.Served script own.timeout)
    (allows : file.AllowsAll own.diskSizeBytes calls) :
    Io.After (Bus.answer script) (BlockCall.runAll calls) own bus fun outcome own' reached =>
      outcome = .ok (file.run own.diskSizeBytes calls).1 ∧
        own'.Refines reached (file.run own.diskSizeBytes calls).2 := by
  induction calls generalizing own bus file with
  | nil => exact ⟨rfl, refines⟩
  | cons call rest ih =>
    obtain ⟨now, later⟩ := List.forall_mem_cons.mp served
    refine (step_refines refines sized now allows.1).bind_ok ?_
    intro outcome own' reached moved
    obtain ⟨rfl, stepped, size, timeout⟩ := moved
    refine ⟨_, rfl, ?_⟩
    refine (ih stepped (size.trans sized) (by rw [timeout]; exact later)
      (by rw [size]; exact allows.2)).bind_ok fun outcome own'' last moved => ?_
    rw [size] at moved
    obtain ⟨rfl, whole⟩ := moved
    exact ⟨_, rfl, rfl, whole⟩

/-- Four bytes over the end of the first of two sectors, and two of them read back. -/
theorem calls_refine_byteFile_edge :
    Io.After (Bus.answer Script.undisturbed) (BlockCall.runAll
        [.seek (.start 510), .write [1, 2, 3, 4], .seek (.fromEnd (-513)), .read [0, 0]])
      (new 1024 0 1) (Bus.fresh fun _ => 0) fun outcome own' _ =>
        outcome = .ok [.sought 510, .wrote 4, .sought 511, .filled 2 [2, 3]] ∧ own'.pos = 513 := by
  have serves (length : Nat) : Script.undisturbed.Serves length 1 :=
    ⟨Script.undisturbed_healthy, fun tick => Nat.zero_lt_one⟩
  refine (@calls_refine_byteFile Script.undisturbed (Bus.fresh fun _ => 0) 2 (new 1024 0 1)
    ⟨fun _ => 0, 0⟩ ⟨rfl, rfl, Bus.fresh_idle _⟩ rfl
    [.seek (.start 510), .write [1, 2, 3, 4], .seek (.fromEnd (-513)), .read [0, 0]] ?_ ?_).imp
    fun outcome own' reached both => ?_
  · intro call _
    cases call with
    | seek target => trivial
    | read buf => exact serves _
    | write buf => exact serves _
  · decide
  · exact ⟨both.1.trans (by decide), both.2.pos.trans (by decide)⟩

end RkBlockDevice

end Rkusb
