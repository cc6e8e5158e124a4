/-
**Where a download ends on the wire.**

A receiver takes a transfer shorter than 4096 bytes as the end of a download. `vendor_request` sends
no such transfer where the payload with its two bytes of checksum fills its transfers.

* `vendorRequests_delivers`: payloads sent one after another are the pieces of each in turn.
* `downloads_recovered_iff`: the receiver recovers the payloads exactly if the length of none is 4094
  modulo 4096, that is, if every request ends with a transfer shorter than 4096 bytes.
-/

import Rkusb.DownloadTrace
import Rkusb.Lib.Framing

namespace Rkusb

open Interaction Bytes Framing

variable {script : Script}

/-! ### Requests one after another -/

/-- The payloads of one request code, one after another. -/
def vendorRequests (dwRequest : UInt16) : List (List UInt8) → UsbIo Unit RkUsbError Unit
  | [] => pure ()
  | data :: rest => do
      vendorRequest dwRequest data
      vendorRequests dwRequest rest

/-- The transfers of the payloads. -/
def requestTransfers (dwRequest : UInt16) (payloads : List (List UInt8)) : List Transfer :=
  payloads.flatMap fun payload => (requestPieces payload).map (vendorTransfer dwRequest)

/-- The transfers of a table are those of the payloads of its entries. -/
theorem tableTransfers_eq (dwRequest : UInt16) (entries : List RkBootEntry) (data : List UInt8) :
    tableTransfers dwRequest entries data =
      requestTransfers dwRequest (entries.map fun entry => entry.payload data) := by
  rw [tableTransfers, requestTransfers, List.flatMap_map]

theorem vendorRequests_delivers (dwRequest : UInt16) (payloads : List (List UInt8)) :
    Io.Delivers (Bus.answer script) Bus.trace script.failure (requestTransfers dwRequest payloads)
      (vendorRequests dwRequest payloads) := by
  induction payloads with
  | nil => exact .pure
  | cons payload rest ih => exact (sendChunks_delivers dwRequest _).bind ih

theorem undisturbed_failure (index : Nat) (transfer : Transfer) :
    Script.undisturbed.failure index transfer = none :=
  if_neg (not_not_intro rfl)

/-! ### The receiver -/

/-- The downloads that a receiver makes of the transfers, each without its checksum. -/
def downloads (transfers : List Transfer) : List (List UInt8) :=
  (receive 4096 [] (transfers.map Transfer.outgoing)).1.map fun download =>
    download.take (download.length - 2)

/-- What the receiver has of a download that has not ended. -/
def pendingDownload (transfers : List Transfer) : List UInt8 :=
  (receive 4096 [] (transfers.map Transfer.outgoing)).2

theorem outgoing_requestTransfers (dwRequest : UInt16) (payloads : List (List UInt8)) :
    (requestTransfers dwRequest payloads).map Transfer.outgoing =
      (payloads.map withChecksum).flatMap (chunks 4096) := by
  rw [requestTransfers, List.map_flatMap, List.flatMap_map]
  refine congrArg (List.flatMap · payloads) (funext fun payload => ?_)
  rw [List.map_map]
  exact List.map_id _

theorem length_withChecksum (payload : List UInt8) :
    (withChecksum payload).length = payload.length + 2 := List.length_append

theorem dvd_length_withChecksum (payload : List UInt8) :
    4096 ∣ (withChecksum payload).length ↔ payload.length % 4096 = 4094 := by
  rw [length_withChecksum]
  omega

theorem take_withChecksum (payload : List UInt8) :
    (withChecksum payload).take ((withChecksum payload).length - 2) = payload := by
  rw [length_withChecksum, Nat.add_sub_cancel]
  exact List.take_left

/-! ### Recovery -/

/-- In every run that sends all of the payloads, the receiver recovers them and waits for nothing. -/
def Recovered (dwRequest : UInt16) (payloads : List (List UInt8)) : Prop :=
  ∀ (script : Script) (bus : Bus),
    Io.After (Bus.answer script) (vendorRequests dwRequest payloads) () bus fun outcome _ reached =>
      outcome = .ok () → ∃ sent, reached.trace = bus.trace ++ sent ∧
        downloads sent = payloads ∧ pendingDownload sent = []

/-- In every run that sends all of the payload, the last transfer is shorter than the unit. -/
def EndsShort (dwRequest : UInt16) (payload : List UInt8) : Prop :=
  ∀ (script : Script) (bus : Bus),
    Io.After (Bus.answer script) (vendorRequest dwRequest payload) () bus fun outcome _ reached =>
      outcome = .ok () → ∃ last, reached.trace.getLast? = some last ∧ last.outgoing.length < 4096

/-- **Recovery.** -/
theorem recovered_iff_lengths (dwRequest : UInt16) (payloads : List (List UInt8)) :
    Recovered dwRequest payloads ↔ ∀ payload ∈ payloads, payload.length % 4096 ≠ 4094 := by
  have residues : (∀ payload ∈ payloads, payload.length % 4096 ≠ 4094) ↔
      ∀ message ∈ payloads.map withChecksum, ¬4096 ∣ message.length := by
    rw [List.forall_mem_map]
    exact forall₂_congr fun payload _ => (dvd_length_withChecksum payload).not.symm
  rw [residues]
  constructor
  · intro recovered
    have delivers := @vendorRequests_delivers Script.undisturbed dwRequest payloads
    have success := delivers.completes undisturbed_failure () (Bus.fresh fun _ => 0)
    have logged := delivers.of_ok () (Bus.fresh fun _ => 0) success
    obtain ⟨sent, logged', found, -⟩ := recovered _ _ success
    obtain rfl := List.append_cancel_left (logged'.symm.trans logged)
    have count := congrArg List.length found
    rw [downloads, List.length_map, outgoing_requestTransfers] at count
    refine (length_receive_eq_iff (by decide) _).mp (count.trans ?_)
    rw [List.length_map]
  · intro ends script bus
    refine (Io.Delivers.of_ok (vendorRequests_delivers dwRequest payloads) () bus).imp ?_
    intro outcome _ reached logged success
    have received := receive_flatMap_chunks (by decide : 0 < 4096) ends
    refine ⟨_, logged success, ?_, ?_⟩
    · rw [downloads, outgoing_requestTransfers, received, List.map_map]
      refine (List.map_congr_left fun payload _ => ?_).trans (List.map_id _)
      exact take_withChecksum payload
    · rw [pendingDownload, outgoing_requestTransfers, received]

theorem endsShort_iff_length (dwRequest : UInt16) (payload : List UInt8) :
    EndsShort dwRequest payload ↔ payload.length % 4096 ≠ 4094 := by
  have some : requestPieces payload ≠ [] := by
    intro none
    have whole := chunks_flatten 4096 (by decide) (withChecksum payload)
    rw [← requestPieces, none] at whole
    have length := congrArg List.length whole
    rw [length_withChecksum] at length
    cases length
  obtain ⟨last, ended⟩ : ∃ last, (requestPieces payload).getLast? = Option.some last :=
    ⟨_, List.getLast?_eq_some_getLast some⟩
  have short : last.length < 4096 ↔ payload.length % 4096 ≠ 4094 :=
    (getLast_chunks_short_iff (by decide) ended).trans (dvd_length_withChecksum payload).not
  have final (before : List Transfer) :
      (before ++ (requestPieces payload).map (vendorTransfer dwRequest)).getLast? =
        Option.some (vendorTransfer dwRequest last) := by
    rw [List.getLast?_append, List.getLast?_map, ended]
    rfl
  have delivers (script : Script) := @sendChunks_delivers script dwRequest (requestPieces payload)
  rw [← short]
  constructor
  · intro endsShort
    have success := (delivers _).completes undisturbed_failure () (Bus.fresh fun _ => 0)
    have logged := (delivers _).of_ok () (Bus.fresh fun _ => 0) success
    obtain ⟨found, same, below⟩ := endsShort _ _ success
    have both := same.symm.trans ((congrArg List.getLast? logged).trans (final _))
    cases both
    exact below
  · intro below script bus
    refine ((delivers script).of_ok () bus).imp ?_
    intro outcome _ reached logged success
    exact ⟨_, (congrArg List.getLast? (logged success)).trans (final _), below⟩

/-- **Where the framing delimits itself.** The receiver recovers the payloads of a sequence of
requests exactly if the length of none of them is 4094 modulo 4096; and that is where every request
ends with a transfer shorter than 4096 bytes. -/
theorem downloads_recovered_iff (dwRequest : UInt16) (payloads : List (List UInt8)) :
    (Recovered dwRequest payloads ↔ ∀ payload ∈ payloads, payload.length % 4096 ≠ 4094) ∧
      ∀ payload : List UInt8, EndsShort dwRequest payload ↔ payload.length % 4096 ≠ 4094 :=
  ⟨recovered_iff_lengths dwRequest payloads, endsShort_iff_length dwRequest⟩

/-- **Two downloads run together.** A payload of 4094 bytes is sent in one full transfer, so that
the receiver takes the next request for its rest. -/
theorem full_download_not_recovered :
    ¬Recovered 0x0471 [List.replicate 4094 0, [1]] ∧
      ¬EndsShort 0x0471 (List.replicate 4094 0) := by
  have full : (List.replicate 4094 (0 : UInt8)).length % 4096 = 4094 := by
    rw [List.length_replicate]
  refine ⟨fun recovered => ?_, fun ends => ?_⟩
  · exact (recovered_iff_lengths _ _).mp recovered _ List.mem_cons_self full
  · exact (endsShort_iff_length _ _).mp ends full

end Rkusb
