/-
**Downloading a boot image** (`vendor_request` and `download_boot` of `lib.rs`).

Each payload is sent with its checksum in control transfers of at most 4096 bytes. What the code
sleeps between the entries is left to the clock of the environment.
-/

import Rkusb.Checksum
import Rkusb.Device
import Rkusb.Image

namespace Rkusb

open Interaction Bytes

def writeControl (requestType request : UInt8) (value index : UInt16) (bytes : List UInt8)
    (timeout : Duration) : UsbIo Unit RkUsbError Nat := do
  let answer : Except UsbError Nat ←
    Io.ask (UsbRequest.writeControl requestType request value index bytes timeout)
  .ofExcept (answer.mapError .usb)

/-- The transfers of a request, one for each chunk. -/
def sendChunks (dwRequest : UInt16) : List (List UInt8) → UsbIo Unit RkUsbError Unit
  | [] => pure ()
  | chunk :: rest => do
      let n ← writeControl 0x40 0xC 0 dwRequest chunk USB_TIMEOUT
      if n ≠ chunk.length then .throw (.usb .io) else sendChunks dwRequest rest

/-- The data with its checksum, the high byte first. -/
def withChecksum (data : List UInt8) : List UInt8 :=
  let crc16 := (CRC_16_IBM_3740.checksum data).toNat
  data ++ [UInt8.ofNat (crc16 / 256), UInt8.ofNat (crc16 % 256)]

def vendorRequest (dwRequest : UInt16) (data : List UInt8) : UsbIo Unit RkUsbError Unit :=
  sendChunks dwRequest (chunks 4096 (withChecksum data))

/-- The entries that an iterator yields, one request for each. -/
def downloadEntries (dwRequest : UInt16) :
    List (Except Panic RkBootImage.Yielded) → UsbIo Unit (Halt RkUsbError) Unit
  | [] => pure ()
  | entry :: rest => do
      let entry ← .ofExcept (entry.mapError .panic)
      Io.mapErr .error (vendorRequest dwRequest entry.data)
      downloadEntries dwRequest rest

def downloadBoot (bootImg : RkBootImage) : UsbIo Unit (Halt RkUsbError) Unit := do
  downloadEntries 0x0471 (bootImg.iterEntries .entry471)
  downloadEntries 0x0472 (bootImg.iterEntries .entry472)

/-! ### Panics -/

/-- The outcome is none of a panic. -/
def Halt.Calm {ε α : Type} (outcome : Except (Halt ε) α) : Prop :=
  ∀ panic, outcome ≠ .error (.panic panic)

variable {σ : Type} {handler : Handler UsbRequest.Answer σ} {own : Unit} {state : σ}

/-- The download of entries that are all yielded does not panic, whatever becomes of the transfers. -/
theorem downloadEntries_calm (dwRequest : UInt16) {entries : List (Except Panic RkBootImage.Yielded)}
    (yielded : ∀ entry ∈ entries, ∃ value, entry = .ok value) :
    Io.After handler (downloadEntries dwRequest entries) own state
      fun outcome _ _ => Halt.Calm outcome := by
  induction entries generalizing state with
  | nil => exact fun panic fails => by cases fails
  | cons entry rest ih =>
    obtain ⟨⟨value, rfl⟩, later⟩ := List.forall_mem_cons.mp yielded
    refine Io.after_ofExcept_bind.mpr ?_
    have sends : Io.After handler (Io.mapErr Halt.error (vendorRequest dwRequest value.data)) own
        state fun outcome _ _ => Halt.Calm outcome := by
      refine Io.after_mapErr.mpr ?_
      show Halt.Calm (Except.mapError Halt.error _)
      generalize ((vendorRequest dwRequest value.data).run handler own state).1.1 = outcome
      intro panic fails
      cases outcome <;> cases fails
    refine sends.bind (fun error _ _ calm panic fails => ?_) fun _ _ _ _ => ih later
    refine calm panic ?_
    cases fails
    rfl

/-- An image that yields all its entries is downloaded without a panic. -/
theorem downloadBoot_calm {image : RkBootImage}
    (yielded : ∀ type, ∀ entry ∈ image.iterEntries type, ∃ value, entry = .ok value) :
    Io.After handler (downloadBoot image) own state fun outcome _ _ => Halt.Calm outcome :=
  (downloadEntries_calm 0x0471 (yielded _)).bind
    (fun _ _ _ calm => calm) fun _ _ _ _ => downloadEntries_calm 0x0472 (yielded _)

end Rkusb
