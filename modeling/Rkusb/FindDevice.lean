/-
**Finding a device** (`common.rs` of `rktools`, and the detection of devices in `lib.rs`).

A device is looked for among those that are connected, and waited for, with hotplug events or by
polling, if there is none. Of a wait, the readings of the clock, the lists of devices and the batches
of arrivals are given; a list of them that ends before the wait does leaves it undecided. A failed
assertion of the hotplug callback does not end the wait: `rusb` catches the panic and drops the
callback, so that later arrivals are not reported.

* `find_device_requested_iff`: which arrivals the hotplug wait is right about. It does not check that
  a device is one of Rockchip's, and it asserts the filter instead of applying it.
* `find_device_accepts_any`: a wait that returns some other device, and one that misses the device
  that is asked for.
-/

import Rkusb.Image

namespace Rkusb

open Interaction

/-! ### Devices -/

/-- `rusb::DeviceDescriptor`, as far as it is read. -/
structure DeviceDescriptor where
  vendorId : UInt16
  productId : UInt16
  /-- `usb_version().sub_minor()`. -/
  usbSubMinor : UInt8
  deriving DecidableEq

/-- `rusb::Device`. -/
structure UsbDevice where
  busNumber : UInt8
  address : UInt8
  /-- `device_descriptor()`. -/
  deviceDescriptor : Except UsbError DeviceDescriptor
  deriving DecidableEq

inductive RkDeviceType
  | rkNone | rk27 | rkCayman | rk28 | rk281x | rkPanda | rkNano | rkSmart | rkCrown | rk29 | rk292x
  | rk30 | rk30b | rk31 | rk32
  deriving DecidableEq

def RkDeviceType.fromPidVid (pid vid : UInt16) : Option RkDeviceType :=
  [((0x3201, 0x071B), rk27), ((0x3228, 0x071B), rk28), ((0x3226, 0x071B), rkNano),
    ((0x261A, 0x2207), rkCrown), ((0x281A, 0x2207), rk281x), ((0x273A, 0x2207), rkCayman),
    ((0x290A, 0x2207), rk29), ((0x282B, 0x2207), rkPanda), ((0x262C, 0x2207), rkSmart),
    ((0x292A, 0x2207), rk292x), ((0x300A, 0x2207), rk30), ((0x300B, 0x2207), rk30b),
    ((0x310B, 0x2207), rk31), ((0x310C, 0x2207), rk31), ((0x320A, 0x2207), rk32)].lookup (pid, vid)

def isMscDevice (pid vid : UInt16) : Bool :=
  [((0x3203 : UInt16), (0x071B : UInt16)), (0x3205, 0x071B), (0x2910, 0x0BB4), (0x0000, 0x2207),
    (0x0010, 0x2207)].contains (pid, vid)

inductive RkUsbType
  | unknown | maskrom | loader | msc
  deriving DecidableEq

def RkUsbType.detect (desc : DeviceDescriptor) : Option RkUsbType :=
  let pid := desc.productId
  let vid := desc.vendorId
  if (RkDeviceType.fromPidVid pid vid).isSome then
    if desc.usbSubMinor &&& 0x01 = 0 then some maskrom else some loader
  else if vid = 0x2207 ∧ pid >>> 8 > 0 then
    if desc.usbSubMinor &&& 0x01 = 0 then some maskrom
    else if desc.usbSubMinor &&& 0x01 = 1 then some loader
    else some unknown
  else if isMscDevice pid vid then some msc
  else none

/-! ### The search -/

inductive DeviceSelectionError
  | noDeviceFound | multipleDevicesFound
  | usb (error : UsbError)
  deriving DecidableEq

/-- `wanted.is_none_or(|wanted| value == wanted)`. -/
def isNoneOr (wanted : Option UInt8) (value : UInt8) : Bool := wanted.all fun wanted => value == wanted

def isDeviceMatching (dev : UsbDevice) (bus addr : Option UInt8) (rkusbType : Option RkUsbType) :
    Bool :=
  match dev.deviceDescriptor with
  | .error _ => false
  | .ok desc =>
      match RkUsbType.detect desc with
      | none => false
      | some typ =>
          rkusbType.all (fun t => t = typ) && isNoneOr bus dev.busNumber && isNoneOr addr dev.address

/-- `assert!`. -/
def assertThat (condition : Bool) : Except Panic Unit :=
  if condition then .ok () else .error .assertionFailed

structure DeviceFinder where
  bus : Option UInt8
  addr : Option UInt8
  usbType : Option RkUsbType

/-- The device that is found, once another one has arrived. -/
def DeviceFinder.deviceArrived (self : DeviceFinder) (found : Option UsbDevice) (device : UsbDevice) :
    Except Panic (Option UsbDevice) :=
  match device.deviceDescriptor with
  | .error _ => .ok found
  | .ok desc =>
      if self.usbType.isSome ∧ RkUsbType.detect desc ≠ self.usbType then .ok found
      else do
        assertThat (isNoneOr self.bus device.busNumber)
        assertThat (isNoneOr self.addr device.address)
        pure (some device)

/-- A round of the hotplug wait: what the clock says before it, and what arrives in it. -/
structure HotplugRound where
  elapsed : Duration
  arrivals : List UsbDevice
  deriving DecidableEq

/-- The registered callback: what it has found, and the assertion for which it was dropped. -/
structure Callback where
  found : Option UsbDevice := none
  dropped : Option Panic := none
  deriving DecidableEq

/-- An arrival is reported: `rusb` catches a panic of the callback and drops it. -/
def Callback.report (finder : DeviceFinder) (self : Callback) (device : UsbDevice) : Callback :=
  match self.dropped with
  | some _ => self
  | none =>
      match finder.deviceArrived self.found device with
      | .ok found => { self with found := found }
      | .error panic => { self with dropped := some panic }

/-- What comes of a search: its outcome, once it is decided, and the assertion that failed in it. -/
structure Search where
  outcome : Option (Except DeviceSelectionError UsbDevice)
  failed : Option Panic := none
  deriving DecidableEq

/-- The hotplug wait, over the rounds it may take. -/
def hotplugLoop (finder : DeviceFinder) (timeout : Duration) : Callback → List HotplugRound → Search
  | callback, [] => ⟨none, callback.dropped⟩
  | callback, round :: rest =>
      if round.elapsed ≥ timeout then ⟨some (.error (.usb .timeout)), callback.dropped⟩
      else
        let reported := round.arrivals.foldl (Callback.report finder) callback
        match reported.found with
        | some device => ⟨some (.ok device), reported.dropped⟩
        | none => hotplugLoop finder timeout reported rest

/-- A round of the polling wait: the devices, and what the clock says after it. -/
structure PollRound where
  devices : Except UsbError (List UsbDevice)
  elapsed : Duration

/-- The devices of a list that are asked for. -/
def candidates (devices : List UsbDevice) (bus addr : Option UInt8) : List UsbDevice :=
  devices.filter fun dev => isDeviceMatching dev bus addr none

def findDevicePolling (bus addr : Option UInt8) (timeout : Duration) :
    List PollRound → Option (Except DeviceSelectionError UsbDevice)
  | [] => none
  | round :: rest =>
      match round.devices with
      | .error error => some (.error (.usb error))
      | .ok devices =>
          match candidates devices bus addr with
          | [] =>
              if round.elapsed ≥ timeout then some (.error (.usb .timeout))
              else findDevicePolling bus addr timeout rest
          | [device] => some (.ok device)
          | _ => some (.error .multipleDevicesFound)

/-- What a search meets: the devices that are connected when it starts, and those of its wait. -/
structure UsbContext where
  devices : Except UsbError (List UsbDevice)
  hasHotplug : Bool
  /-- `HotplugBuilder::register`. -/
  register : Except UsbError Unit
  hotplug : List HotplugRound
  polls : List PollRound

def findDeviceHotplug (usbCtx : UsbContext) (bus addr : Option UInt8) (usbType : Option RkUsbType)
    (timeout : Duration) : Search :=
  match usbCtx.register with
  | .error error => { outcome := some (.error (.usb error)) }
  | .ok () => hotplugLoop ⟨bus, addr, usbType⟩ timeout {} usbCtx.hotplug

def findDevice (usbCtx : UsbContext) (bus addr : Option UInt8) (timeout : Option Duration) : Search :=
  match usbCtx.devices with
  | .error error => { outcome := some (.error (.usb error)) }
  | .ok devices =>
      match candidates devices bus addr with
      | [device] => { outcome := some (.ok device) }
      | [] =>
          match timeout with
          | none => { outcome := some (.error .noDeviceFound) }
          | some timeout =>
              if usbCtx.hasHotplug then findDeviceHotplug usbCtx bus addr none timeout
              else { outcome := findDevicePolling bus addr timeout usbCtx.polls }
      | _ => { outcome := some (.error .multipleDevicesFound) }

/-! ### What is asked for -/

/-- A search, and what it is if only devices that are asked for arrive: the search is right if it
returns none but these, no assertion fails in it, and no other arrival stops or changes it. -/
structure Requested (bus addr : Option UInt8) (search selected : Search) : Prop where
  matching : ∀ device, search.outcome = some (.ok device) → isDeviceMatching device bus addr none
  calm : search.failed = none
  ignores : search = selected

def HotplugRound.select (bus addr : Option UInt8) (round : HotplugRound) : HotplugRound :=
  { round with arrivals := candidates round.arrivals bus addr }

/-- The search, where only devices that are asked for arrive. -/
def UsbContext.select (bus addr : Option UInt8) (usbCtx : UsbContext) : UsbContext :=
  { usbCtx with hotplug := usbCtx.hotplug.map (HotplugRound.select bus addr) }

/-- The device passes the filter. -/
def UsbDevice.Passes (device : UsbDevice) (bus addr : Option UInt8) : Prop :=
  isNoneOr bus device.busNumber ∧ isNoneOr addr device.address

instance (device : UsbDevice) (bus addr : Option UInt8) : Decidable (device.Passes bus addr) :=
  inferInstanceAs (Decidable (_ ∧ _))

/-- The device is one of Rockchip's. -/
def UsbDevice.isRockchip (device : UsbDevice) : Bool :=
  match device.deviceDescriptor with
  | .error _ => false
  | .ok desc => (RkUsbType.detect desc).isSome

/-- The descriptor of the device can be read. -/
def UsbDevice.isReadable (device : UsbDevice) : Bool := device.deviceDescriptor.isOk

def readable (arrivals : List UsbDevice) : List UsbDevice := arrivals.filter UsbDevice.isReadable

/-- The batch that decides a wait: the first one before the deadline with a readable device. -/
def decisive (timeout : Duration) : List HotplugRound → List UsbDevice
  | [] => []
  | round :: rest =>
      if round.elapsed ≥ timeout then []
      else if readable round.arrivals = [] then decisive timeout rest
      else readable round.arrivals

/-- The devices of a batch pass the filter, and the last one is Rockchip's. -/
def Acceptable (bus addr : Option UInt8) (batch : List UsbDevice) : Prop :=
  (∀ device ∈ batch, device.Passes bus addr) ∧ ∀ device ∈ batch.getLast?, device.isRockchip

/-- The search comes to wait for hotplug events. -/
def UsbContext.AwaitsHotplug (usbCtx : UsbContext) (bus addr : Option UInt8) : Prop :=
  usbCtx.hasHotplug ∧ usbCtx.register = .ok () ∧
    ∃ devices, usbCtx.devices = .ok devices ∧ candidates devices bus addr = []

theorem isDeviceMatching_iff {device : UsbDevice} {bus addr : Option UInt8} :
    isDeviceMatching device bus addr none ↔ device.isRockchip ∧ device.Passes bus addr := by
  unfold isDeviceMatching UsbDevice.isRockchip UsbDevice.Passes
  cases device.deviceDescriptor with
  | error error => simp
  | ok desc =>
    dsimp only
    cases RkUsbType.detect desc with
    | none => simp
    | some typ => simp

theorem isReadable_of_isRockchip {device : UsbDevice} (rockchip : device.isRockchip) :
    device.isReadable := by
  unfold UsbDevice.isRockchip at rockchip
  unfold UsbDevice.isReadable
  cases read : device.deviceDescriptor with
  | error error =>
    rw [read] at rockchip
    cases rockchip
  | ok desc => rfl

/-! ### Arrivals -/

section Arrivals

variable {bus addr : Option UInt8}

/-- One arrival. -/
theorem deviceArrived_eq (found : Option UsbDevice) (device : UsbDevice) :
    DeviceFinder.deviceArrived ⟨bus, addr, none⟩ found device =
      if device.isReadable then
        if device.Passes bus addr then .ok (some device) else .error .assertionFailed
      else .ok found := by
  unfold DeviceFinder.deviceArrived UsbDevice.isReadable
  cases device.deviceDescriptor with
  | error error => rfl
  | ok desc =>
    show (assertThat (isNoneOr bus device.busNumber) >>= fun _ =>
      assertThat (isNoneOr addr device.address) >>= fun _ => Except.ok (some device)) =
        if device.Passes bus addr then _ else _
    by_cases passes : device.Passes bus addr
    · rw [if_pos passes, assertThat, if_pos passes.1, assertThat, if_pos passes.2]
      rfl
    · rw [if_neg passes]
      by_cases onBus : isNoneOr bus device.busNumber
      · rw [assertThat, if_pos onBus, assertThat, if_neg fun atAddr => passes ⟨onBus, atAddr⟩]
        rfl
      · rw [assertThat, if_neg onBus]
        rfl

/-- A dropped callback hears of no arrival. -/
theorem foldl_report_dropped (finder : DeviceFinder) {callback : Callback} {panic : Panic}
    (dropped : callback.dropped = some panic) (arrivals : List UsbDevice) :
    arrivals.foldl (Callback.report finder) callback = callback := by
  induction arrivals with
  | nil => rfl
  | cons device rest ih =>
    have unheard : callback.report finder device = callback := by
      unfold Callback.report
      rw [dropped]
    rw [List.foldl_cons, unheard]
    exact ih

/-- One arrival is reported. -/
theorem report_eq (found : Option UsbDevice) (device : UsbDevice) :
    Callback.report ⟨bus, addr, none⟩ ⟨found, none⟩ device =
      if device.isReadable then
        if device.Passes bus addr then ⟨some device, none⟩ else ⟨found, some .assertionFailed⟩
      else ⟨found, none⟩ := by
  unfold Callback.report
  dsimp only
  rw [deviceArrived_eq]
  by_cases read : device.isReadable
  · by_cases passes : device.Passes bus addr
    · rw [if_pos read, if_pos passes, if_pos read, if_pos passes]
    · rw [if_pos read, if_neg passes, if_pos read, if_neg passes]
  · rw [if_neg read, if_neg read]

/-- **A batch of arrivals** that pass: the last one that can be read is found. -/
theorem foldl_report_of_passes {arrivals : List UsbDevice}
    (all : ∀ device ∈ readable arrivals, device.Passes bus addr) (found : Option UsbDevice) :
    arrivals.foldl (Callback.report ⟨bus, addr, none⟩) ⟨found, none⟩ =
      ⟨(readable arrivals).getLast?.or found, none⟩ := by
  induction arrivals generalizing found with
  | nil => rfl
  | cons device rest ih =>
    rw [List.foldl_cons, report_eq]
    by_cases read : device.isReadable
    · have first : readable (device :: rest) = device :: readable rest :=
        List.filter_cons_of_pos read
      rw [first, List.forall_mem_cons] at all
      rw [if_pos read, if_pos all.1, ih all.2, first, List.getLast?_cons]
      cases (readable rest).getLast? <;> rfl
    · have skipped : readable (device :: rest) = readable rest := List.filter_cons_of_neg read
      rw [skipped] at all
      rw [if_neg read, skipped]
      exact ih all found

/-- A batch with an arrival that does not pass: the callback is dropped. -/
theorem dropped_foldl_report {arrivals : List UsbDevice}
    (refused : ¬∀ device ∈ readable arrivals, device.Passes bus addr) (found : Option UsbDevice) :
    (arrivals.foldl (Callback.report ⟨bus, addr, none⟩) ⟨found, none⟩).dropped =
      some .assertionFailed := by
  induction arrivals generalizing found with
  | nil => exact absurd (fun _ member => by cases member) refused
  | cons device rest ih =>
    rw [List.foldl_cons, report_eq]
    by_cases read : device.isReadable
    · have first : readable (device :: rest) = device :: readable rest :=
        List.filter_cons_of_pos read
      rw [if_pos read]
      by_cases passes : device.Passes bus addr
      · rw [first, List.forall_mem_cons, and_iff_right passes] at refused
        rw [if_pos passes]
        exact ih refused _
      · rw [if_neg passes, foldl_report_dropped _ rfl]
    · have skipped : readable (device :: rest) = readable rest := List.filter_cons_of_neg read
      rw [skipped] at refused
      rw [if_neg read]
      exact ih refused _

/-- The devices that are asked for can be read, and pass. -/
theorem readable_candidates (arrivals : List UsbDevice) :
    readable (candidates arrivals bus addr) = candidates arrivals bus addr :=
  List.filter_eq_self.mpr fun _ member =>
    isReadable_of_isRockchip (isDeviceMatching_iff.mp (List.mem_filter.mp member).2).1

theorem passes_of_mem_candidates {arrivals : List UsbDevice} {device : UsbDevice}
    (member : device ∈ candidates arrivals bus addr) : device.Passes bus addr :=
  (isDeviceMatching_iff.mp (List.mem_filter.mp member).2).2

/-- Where only devices that are asked for arrive, the last one is found. -/
theorem foldl_report_candidates (arrivals : List UsbDevice) :
    (candidates arrivals bus addr).foldl (Callback.report ⟨bus, addr, none⟩) {} =
      ⟨(candidates arrivals bus addr).getLast?, none⟩ := by
  refine (foldl_report_of_passes (fun device member => ?_) none).trans ?_
  · rw [readable_candidates] at member
    exact passes_of_mem_candidates member
  · rw [readable_candidates, Option.or_none]

/-- The devices that are asked for are among the readable ones. -/
theorem candidates_readable (arrivals : List UsbDevice) :
    candidates (readable arrivals) bus addr = candidates arrivals bus addr := by
  unfold candidates readable
  rw [List.filter_filter]
  refine List.filter_congr fun device _ => ?_
  cases matching : isDeviceMatching device bus addr none with
  | false => rfl
  | true => exact isReadable_of_isRockchip (isDeviceMatching_iff.mp matching).1

/-- A device that is the only candidate. -/
theorem matching_of_candidates {devices : List UsbDevice} {device : UsbDevice}
    (asked : candidates devices bus addr = [device]) : isDeviceMatching device bus addr none := by
  have member : device ∈ candidates devices bus addr := by
    rw [asked]
    exact List.mem_cons_self
  exact (List.mem_filter.mp member).2

/-- The last device of a batch, if it is asked for, is the last one that is. -/
theorem getLast?_candidates {arrivals : List UsbDevice} {last : UsbDevice}
    (found : (readable arrivals).getLast? = some last)
    (matching : isDeviceMatching last bus addr none) :
    (candidates arrivals bus addr).getLast? = some last := by
  obtain ⟨before, split⟩ := List.getLast?_eq_some_iff.mp found
  have kept : candidates [last] bus addr = [last] := List.filter_cons_of_pos matching
  rw [← candidates_readable, split]
  unfold candidates at kept ⊢
  rw [List.filter_append, kept, List.getLast?_concat]

end Arrivals

/-! ### The waits -/

/-- A search that is right whatever arrives. -/
theorem Requested.refl {bus addr : Option UInt8}
    {outcome : Option (Except DeviceSelectionError UsbDevice)}
    (matching : ∀ device, outcome = some (.ok device) → isDeviceMatching device bus addr none) :
    Requested bus addr { outcome } { outcome } := ⟨matching, rfl, rfl⟩

theorem Requested.error {bus addr : Option UInt8} (error : DeviceSelectionError) :
    Requested bus addr { outcome := some (.error error) } { outcome := some (.error error) } :=
  .refl fun _ same => by cases same

section Waits

variable {bus addr : Option UInt8} {timeout : Duration}

/-- A dropped callback stays dropped. -/
theorem failed_hotplugLoop (finder : DeviceFinder) {callback : Callback} {panic : Panic}
    (dropped : callback.dropped = some panic) (rounds : List HotplugRound) :
    (hotplugLoop finder timeout callback rounds).failed = some panic := by
  induction rounds with
  | nil => exact dropped
  | cons round rest ih =>
    rw [hotplugLoop, foldl_report_dropped finder dropped]
    by_cases late : round.elapsed ≥ timeout
    · rw [if_pos late]
      exact dropped
    · rw [if_neg late]
      dsimp only
      cases callback.found with
      | some device => exact dropped
      | none => exact ih

/-- An assertion that fails in a batch before the deadline is one that fails in the search. -/
theorem failed_of_refused {round : HotplugRound} (rest : List HotplugRound)
    (early : ¬round.elapsed ≥ timeout)
    (refused : ¬∀ device ∈ readable round.arrivals, device.Passes bus addr) :
    (hotplugLoop ⟨bus, addr, none⟩ timeout {} (round :: rest)).failed = some .assertionFailed := by
  have dropped := dropped_foldl_report refused none
  rw [hotplugLoop, if_neg early]
  dsimp only
  cases (round.arrivals.foldl (Callback.report ⟨bus, addr, none⟩) {}).found with
  | some device => exact dropped
  | none => exact failed_hotplugLoop _ dropped rest

theorem acceptable_nil : Acceptable bus addr [] :=
  ⟨fun _ member => (by cases member), fun _ member => (by cases member)⟩

/-- **The hotplug wait** is right if the batch that decides it is acceptable. -/
theorem hotplugLoop_requested_iff (rounds : List HotplugRound) :
    Requested bus addr (hotplugLoop ⟨bus, addr, none⟩ timeout {} rounds)
        (hotplugLoop ⟨bus, addr, none⟩ timeout {} (rounds.map (HotplugRound.select bus addr))) ↔
      Acceptable bus addr (decisive timeout rounds) := by
  induction rounds with
  | nil => exact iff_of_true (.refl fun _ same => by cases same) acceptable_nil
  | cons round rest ih =>
    by_cases refused : ¬round.elapsed ≥ timeout ∧
        ¬∀ device ∈ readable round.arrivals, device.Passes bus addr
    · -- the callback is dropped, whether or not a device was found before
      obtain ⟨early, refused⟩ := refused
      refine iff_of_false (fun requested => ?_) fun acceptable => refused ?_
      · cases (failed_of_refused rest early refused).symm.trans requested.calm
      · have unread : readable round.arrivals ≠ [] := fun none => refused fun device member => by
          rw [none] at member
          cases member
        rw [decisive, if_neg early, if_neg unread] at acceptable
        exact acceptable.1
    rw [List.map_cons, hotplugLoop, hotplugLoop, decisive]
    by_cases late : round.elapsed ≥ timeout
    · have late' : (round.select bus addr).elapsed ≥ timeout := late
      rw [if_pos late, if_pos late', if_pos late]
      exact iff_of_true (.error _) acceptable_nil
    have early : ¬(round.select bus addr).elapsed ≥ timeout := late
    have all := not_not.mp (not_and.mp refused late)
    have selected : (round.select bus addr).arrivals = candidates round.arrivals bus addr := rfl
    rw [if_neg late, if_neg early, if_neg late, selected, foldl_report_candidates,
      foldl_report_of_passes all, Option.or_none]
    cases found : (readable round.arrivals).getLast? with
    | none =>
      -- nothing can be read, so that the wait goes on in both
      have unread : readable round.arrivals = [] := List.getLast?_eq_none_iff.mp found
      have unasked : candidates round.arrivals bus addr = [] := by
        rw [← candidates_readable, unread]
        rfl
      rw [unasked, if_pos unread]
      exact ih
    | some last =>
      have unread : readable round.arrivals ≠ [] := fun none => by
        rw [none] at found
        cases found
      rw [if_neg unread]
      constructor
      · intro requested
        refine ⟨all, fun device member => ?_⟩
        obtain rfl := Option.some.inj (found.symm.trans member)
        exact (isDeviceMatching_iff.mp (requested.matching _ rfl)).1
      · intro acceptable
        have matching : isDeviceMatching last bus addr none :=
          isDeviceMatching_iff.mpr ⟨acceptable.2 last found, all last (List.mem_of_getLast? found)⟩
        rw [getLast?_candidates found matching]
        refine ⟨fun device same => ?_, rfl, rfl⟩
        cases same
        exact matching

/-- The polling wait returns only a device that is asked for. -/
theorem matching_of_findDevicePolling {rounds : List PollRound} {device : UsbDevice}
    (found : findDevicePolling bus addr timeout rounds = some (.ok device)) :
    isDeviceMatching device bus addr none := by
  induction rounds with
  | nil => cases found
  | cons round rest ih =>
    unfold findDevicePolling at found
    cases listed : round.devices with
    | error error =>
      rw [listed] at found
      cases found
    | ok devices =>
      rw [listed] at found
      dsimp only at found
      cases asked : candidates devices bus addr with
      | nil =>
        rw [asked] at found
        dsimp only at found
        by_cases late : round.elapsed ≥ timeout
        · rw [if_pos late] at found
          cases found
        · rw [if_neg late] at found
          exact ih found
      | cons first others =>
        rw [asked] at found
        cases others with
        | cons second others => cases found
        | nil =>
          cases found
          exact matching_of_candidates asked

end Waits

/-- Without a hotplug wait, arrivals do not matter at all. -/
theorem findDevice_of_not_awaits {usbCtx : UsbContext} {bus addr : Option UInt8}
    {timeout : Option Duration} (waits : timeout ≠ none → ¬usbCtx.AwaitsHotplug bus addr) :
    Requested bus addr (findDevice usbCtx bus addr timeout)
      (findDevice (usbCtx.select bus addr) bus addr timeout) := by
  have same : (usbCtx.select bus addr).devices = usbCtx.devices := rfl
  unfold findDevice
  rw [same]
  cases listed : usbCtx.devices with
  | error error => exact .error _
  | ok devices =>
    dsimp only
    cases asked : candidates devices bus addr with
    | cons first others =>
      cases others with
      | cons second others => exact .error _
      | nil =>
        refine .refl fun device same => ?_
        cases same
        exact matching_of_candidates asked
    | nil =>
      cases timeout with
      | none => exact .error _
      | some limit =>
        dsimp only
        have never := waits (Option.some_ne_none limit)
        have same : (usbCtx.select bus addr).hasHotplug = usbCtx.hasHotplug := rfl
        rw [same]
        by_cases hotplug : usbCtx.hasHotplug
        · rw [if_pos hotplug, if_pos hotplug]
          have same : (usbCtx.select bus addr).register = usbCtx.register := rfl
          unfold findDeviceHotplug
          rw [same]
          cases registered : usbCtx.register with
          | error error => exact .error _
          | ok done => exact absurd ⟨hotplug, registered, devices, listed, asked⟩ never
        · rw [if_neg hotplug, if_neg hotplug]
          exact .refl fun device found => matching_of_findDevicePolling found

/-- The hotplug wait, once it is reached. -/
theorem findDevice_of_awaits {usbCtx : UsbContext} {bus addr : Option UInt8}
    (awaits : usbCtx.AwaitsHotplug bus addr) (limit : Duration) :
    findDevice usbCtx bus addr (some limit) =
      hotplugLoop ⟨bus, addr, none⟩ limit {} usbCtx.hotplug := by
  obtain ⟨hotplug, registered, devices, listed, asked⟩ := awaits
  unfold findDevice
  rw [listed]
  dsimp only
  rw [asked]
  dsimp only
  rw [if_pos hotplug, findDeviceHotplug, registered]

/-- **Finding a device**: the device that is returned is one that is asked for, no assertion fails
and no other arrival matters, if and only if the batch that decides a hotplug wait is acceptable. -/
theorem find_device_requested_iff (usbCtx : UsbContext) (bus addr : Option UInt8)
    (timeout : Option Duration) :
    Requested bus addr (findDevice usbCtx bus addr timeout)
        (findDevice (usbCtx.select bus addr) bus addr timeout) ↔
      ∀ limit, timeout = some limit → usbCtx.AwaitsHotplug bus addr →
        Acceptable bus addr (decisive limit usbCtx.hotplug) := by
  by_cases waits : timeout ≠ none ∧ usbCtx.AwaitsHotplug bus addr
  · obtain ⟨some_, awaits⟩ := waits
    obtain ⟨limit, rfl⟩ := Option.ne_none_iff_exists'.mp some_
    have awaits' : (usbCtx.select bus addr).AwaitsHotplug bus addr := awaits
    rw [findDevice_of_awaits awaits, findDevice_of_awaits awaits']
    refine (hotplugLoop_requested_iff usbCtx.hotplug).trans ⟨fun acceptable limit' same _ => ?_,
      fun acceptable => acceptable limit rfl awaits⟩
    cases same
    exact acceptable
  · have never := fun some_ awaits => waits ⟨some_, awaits⟩
    refine ⟨fun _ limit same awaits => ?_, fun _ => findDevice_of_not_awaits never⟩
    exact absurd awaits (never (by rw [same]; exact Option.some_ne_none limit))

/-- A keyboard. -/
def keyboard : UsbDevice := ⟨1, 9, .ok ⟨0x046d, 0xc31c, 0⟩⟩

/-- A device of Rockchip's on another bus. -/
def onAnotherBus : UsbDevice := ⟨2, 9, .ok ⟨0x2207, 0x350a, 0⟩⟩

/-- A loader on the first bus. -/
def onFirstBus : UsbDevice := ⟨1, 9, .ok ⟨0x2207, 0x350b, 1⟩⟩

/-- A host without devices, on which a device arrives in the first round of the wait. -/
def arriving (device : UsbDevice) : UsbContext := ⟨.ok [], true, .ok (), [⟨0, [device]⟩], []⟩

/-- A host without devices, on which two devices arrive one after the other. -/
def arrivingInTurn (first second : UsbDevice) : UsbContext :=
  ⟨.ok [], true, .ok (), [⟨0, [first]⟩, ⟨2, [second]⟩, ⟨5, []⟩], []⟩

/-- **Any device is accepted** that arrives. One that does not pass the filter fails an assertion,
and then the one that is asked for is not found when it arrives. -/
theorem find_device_accepts_any :
    findDevice (arriving keyboard) none none (some 1) = ⟨some (.ok keyboard), none⟩ ∧
      ¬isDeviceMatching keyboard none none none ∧
      findDevice (arrivingInTurn onAnotherBus onFirstBus) (some 1) none (some 5) =
        ⟨some (.error (.usb .timeout)), some .assertionFailed⟩ ∧
      findDevice ((arrivingInTurn onAnotherBus onFirstBus).select (some 1) none) (some 1) none
          (some 5) = ⟨some (.ok onFirstBus), none⟩ ∧
      ¬Requested none none (findDevice (arriving keyboard) none none (some 1))
        (findDevice ((arriving keyboard).select none none) none none (some 1)) := by
  have returned : findDevice (arriving keyboard) none none (some 1) = ⟨some (.ok keyboard), none⟩ := by
    decide +kernel
  have other : ¬isDeviceMatching keyboard none none none := by decide +kernel
  exact ⟨returned, other, by decide +kernel, by decide +kernel, fun requested =>
    other (requested.matching keyboard (congrArg Search.outcome returned))⟩

end Rkusb
