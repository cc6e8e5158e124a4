/-
**What a download sends.**

`download_boot_sends`: the entries of an accepted image are sent in the order of their tables, each
as its payload with the checksum, cut into transfers of 4096 bytes; the first transfer that fails or
falls short is the last one.
-/

import Rkusb.Bus
import Rkusb.DownloadBoot
import Rkusb.Lib.Delivery

namespace Rkusb

open Interaction Bytes

/-! ### The plan -/

/-- The transfer of a chunk. -/
def vendorTransfer (dwRequest : UInt16) (chunk : List UInt8) : Transfer :=
  .control 0x40 0xC 0 dwRequest chunk USB_TIMEOUT

/-- The bytes that a transfer takes to the device. -/
def Transfer.outgoing : Transfer → List UInt8
  | .bulkOut bytes _ => bytes
  | .bulkIn _ _ => []
  | .control _ _ _ _ bytes _ => bytes

/-- What goes wrong with an outgoing transfer, if anything does: its error, or that not all bytes
were sent. -/
def Script.failure (script : Script) (index : Nat) (transfer : Transfer) : Option RkUsbError :=
  match (Bus.outcome transfer.outgoing (script.faults index)).1 with
  | .ok n => if n ≠ transfer.outgoing.length then some (.usb .io) else none
  | .error error => some (.usb error)

/-- The pieces in which a payload is sent. -/
def requestPieces (payload : List UInt8) : List (List UInt8) := chunks 4096 (withChecksum payload)

/-- The transfers of the entries of a table. -/
def tableTransfers (dwRequest : UInt16) (entries : List RkBootEntry) (data : List UInt8) :
    List Transfer :=
  entries.flatMap fun entry => (requestPieces (entry.payload data)).map (vendorTransfer dwRequest)

/-- All transfers of an image: each entry once, table after table. -/
def RkBootImage.transfers (image : RkBootImage) : List Transfer :=
  tableTransfers 0x0471 image.entries471 image.data ++
    tableTransfers 0x0472 image.entries472 image.data

/-- What the pieces of a payload are to the receiver. -/
structure Reassembles (payload : List UInt8) (pieces : List (List UInt8)) : Prop where
  stream : pieces.flatten = payload ++
    [UInt8.ofNat ((CRC_16_IBM_3740.checksum payload).toNat / 256),
      UInt8.ofNat ((CRC_16_IBM_3740.checksum payload).toNat % 256)]
  sizes : ∀ piece ∈ pieces, 1 ≤ piece.length ∧ piece.length ≤ 4096
  full : ∀ piece ∈ pieces.dropLast, piece.length = 4096
  residue : CRC_16_IBM_3740.checksum pieces.flatten = 0

theorem requestPieces_reassembles (payload : List UInt8) :
    Reassembles payload (requestPieces payload) := by
  have stream : (requestPieces payload).flatten = withChecksum payload :=
    chunks_flatten 4096 (by decide) _
  refine ⟨stream, fun piece member => ?_, fun piece member => ?_, ?_⟩
  · obtain ⟨nonempty, small, -⟩ := length_of_mem_chunks (by decide) member
    exact ⟨nonempty, small⟩
  · exact length_of_mem_dropLast_chunks member
  · rw [stream]
    exact Algorithm.checksum_append_checksum rfl rfl rfl payload

/-! ### The transfers -/

section Transfers

variable {script : Script}

/-- One chunk of a request. -/
def sendChunk (dwRequest : UInt16) (chunk : List UInt8) : UsbIo Unit RkUsbError Unit := do
  let n ← writeControl 0x40 0xC 0 dwRequest chunk USB_TIMEOUT
  if n ≠ chunk.length then .throw (.usb .io) else pure ()

theorem sendChunks_cons (dwRequest : UInt16) (chunk : List UInt8) (rest : List (List UInt8)) :
    sendChunks dwRequest (chunk :: rest) =
      sendChunk dwRequest chunk >>= fun _ => sendChunks dwRequest rest := by
  rw [sendChunk, bind_assoc]
  refine congrArg (writeControl 0x40 0xC 0 dwRequest chunk USB_TIMEOUT >>= ·) (funext fun n => ?_)
  by_cases short : n ≠ chunk.length
  · rw [if_pos short, if_pos short]
    rfl
  · rw [if_neg short, if_neg short, pure_bind]

/-- What becomes of a transfer. -/
theorem after_writeControl {requestType request : UInt8} {value index : UInt16} {bytes : List UInt8}
    {timeout : Duration} {own : Unit} {bus : Bus}
    {post : Except RkUsbError Nat → Unit → Bus → Prop} :
    Io.After (Bus.answer script) (writeControl requestType request value index bytes timeout) own bus
        post ↔
      post ((Bus.outcome bytes (script.faults bus.trace.length)).1.mapError .usb) own
        (bus.record (.control requestType request value index bytes timeout)) :=
  Io.after_bind.trans (Io.after_ask.trans Io.after_ofExcept)

/-- A transfer is recorded, and fails as the environment decides. -/
theorem sendChunk_delivers (dwRequest : UInt16) (chunk : List UInt8) :
    Io.Delivers (Bus.answer script) Bus.trace script.failure [vendorTransfer dwRequest chunk]
      (sendChunk dwRequest chunk) := by
  intro own bus
  refine Io.after_bind.mpr (after_writeControl.mpr ?_)
  have verdict : script.failure bus.trace.length (vendorTransfer dwRequest chunk) =
      match (Bus.outcome chunk (script.faults bus.trace.length)).1 with
      | .ok n => if n ≠ chunk.length then some (.usb .io) else none
      | .error error => some (.usb error) := rfl
  cases answered : (Bus.outcome chunk (script.faults bus.trace.length)).1 with
  | error error =>
    rw [answered] at verdict
    exact ⟨_, rfl, .single_error verdict⟩
  | ok n =>
    rw [answered] at verdict
    show Io.After _ (if n ≠ chunk.length then _ else _) _ _ _
    by_cases short : n ≠ chunk.length
    · rw [if_pos short]
      exact Io.after_throw.mpr ⟨_, rfl, .single_error (verdict.trans (if_pos short))⟩
    · rw [if_neg short]
      exact Io.after_pure.mpr ⟨_, rfl, .single_ok (verdict.trans (if_neg short))⟩

theorem sendChunks_delivers (dwRequest : UInt16) (pieces : List (List UInt8)) :
    Io.Delivers (Bus.answer script) Bus.trace script.failure
      (pieces.map (vendorTransfer dwRequest)) (sendChunks dwRequest pieces) := by
  induction pieces with
  | nil => exact .pure
  | cons chunk rest ih =>
    rw [sendChunks_cons]
    exact (sendChunk_delivers dwRequest chunk).bind ih

/-- The requests of a table of entries in range. -/
theorem downloadEntries_delivers (dwRequest : UInt16) (entries : List RkBootEntry)
    (data : List UInt8) :
    Io.Delivers (Bus.answer script) Bus.trace
      (fun index transfer => (script.failure index transfer).map Halt.error)
      (tableTransfers dwRequest entries data)
      (downloadEntries dwRequest (entries.map fun entry =>
        .ok ⟨entry.trimmedName, entry.payload data, entry.dataDelay.toNat⟩)) := by
  induction entries with
  | nil => exact .pure
  | cons entry rest ih => exact (sendChunks_delivers dwRequest _).mapErr.bind ih

end Transfers

/-- **A boot image is downloaded in order, up to the first failure.** -/
theorem download_boot_sends (script : Script) (bus : Bus) {data : List UInt8} {image : RkBootImage}
    (accepted : RkBootImage.new data = .ok image)
    (inside : ∀ entry ∈ image.entries471 ++ image.entries472, entry.InRange data) :
    (∃ sent, ((downloadBoot image).run (Bus.answer script) () bus).2.trace = bus.trace ++ sent ∧
      Ends (fun index transfer => (script.failure index transfer).map Halt.error) bus.trace.length
        image.transfers sent ((downloadBoot image).run (Bus.answer script) () bus).1.1) ∧
      ∀ entry ∈ image.entries471 ++ image.entries472,
        Reassembles (entry.payload data) (requestPieces (entry.payload data)) := by
  obtain ⟨_, _, _, same, _, _, _⟩ := RkBootImage.new_ok accepted
  have yielded (type : RkBootEntryType) (member : ∀ entry ∈ image.entries type,
      entry ∈ image.entries471 ++ image.entries472) :=
    @RkBootImage.iterEntries_of_inRange image type fun entry listed => by
      rw [same]
      exact inside entry (member entry listed)
  refine ⟨?_, fun entry _ => requestPieces_reassembles (entry.payload data)⟩
  have first := yielded .entry471 fun entry listed => List.mem_append_left _ listed
  have second := yielded .entry472 fun entry listed => List.mem_append_right _ listed
  have delivers : Io.Delivers (Bus.answer script) Bus.trace
      (fun index transfer => (script.failure index transfer).map Halt.error)
      image.transfers (downloadBoot image) := by
    unfold downloadBoot
    rw [first, second]
    exact (downloadEntries_delivers 0x0471 image.entries471 image.data).bind
      (downloadEntries_delivers 0x0472 image.entries472 image.data)
  exact delivers () bus

/-- Two entries with payloads of four bytes and of one byte. -/
def twoEntries : List UInt8 := headerBytes 102 2 57 ++ entryBytes 4 ++ entryBytes 1

def twoEntriesImage : RkBootImage :=
  ⟨twoEntries, [.ofBytes (entryBytes 4), .ofBytes (entryBytes 1)], [], []⟩

/-- The second transfer falls short. -/
def secondShort : Script :=
  { Script.undisturbed with faults := fun index => if index = 1 then .short 2 else .none }

/-- Two entries, over a bus whose second transfer falls short. -/
theorem download_boot_sends_twoEntries :
    let run := (downloadBoot twoEntriesImage).run (Bus.answer secondShort) ()
      (Bus.fresh fun _ => 0)
    (∃ sent, run.2.trace = [] ++ sent ∧
      Ends (fun index transfer => (secondShort.failure index transfer).map Halt.error) 0
        twoEntriesImage.transfers sent run.1.1) ∧ run.1.1 = .error (.error (.usb .io)) :=
  ⟨(@download_boot_sends secondShort (Bus.fresh fun _ => 0) twoEntries twoEntriesImage
    (by decide +kernel) (by decide +kernel)).1, by decide +kernel⟩

end Rkusb
