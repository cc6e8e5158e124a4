/-
**Listing, selecting and opening devices** (`RkDevice::open` of `lib.rs`, `list.rs` and `wait.rs` of
`rktools`).

A device is opened with the first descriptor of its first interface, which has to have one bulk
endpoint for each direction. What the calls on a device and its handle return is given.

* `RkDevice.openDevice_eq_ok_iff`: which devices can be opened, and with which endpoints.
* `connects_iff_listed`: without a wait, a subcommand that is given a bus and an address connects to
  the device that is listed with them, if it can be opened, and to no other.
-/

import Rkusb.Device
import Rkusb.FindDevice

namespace Rkusb

open Interaction

/-! ### Endpoints -/

/-- `rusb::TransferType`. -/
inductive TransferType
  | control | isochronous | bulk | interrupt
  deriving DecidableEq

/-- `rusb::Direction`. -/
inductive Direction
  | input | output
  deriving DecidableEq

/-- `EndpointDescriptor::direction`. -/
def directionOf (address : UInt8) : Direction := if address &&& 0x80 = 0 then .output else .input

structure EndpointDescriptor where
  address : UInt8
  transferType : TransferType

structure InterfaceDescriptor where
  interfaceNumber : UInt8
  endpointDescriptors : List EndpointDescriptor

/-- `ConfigDescriptor`, with the descriptors of each interface. -/
structure ConfigDescriptor where
  number : UInt8
  interfaces : List (List InterfaceDescriptor)

/-- What the calls on a device and its handle return. -/
structure DevicePort where
  /-- `Device::open`. -/
  opened : Except UsbError Unit
  activeConfigDescriptor : Except UsbError ConfigDescriptor
  setActiveConfiguration : UInt8 → Except UsbError Unit
  claimInterface : UInt8 → Except UsbError Unit

/-- The address of an endpoint for one direction. -/
abbrev EndpointAddress (direction : Direction) := { address : UInt8 // directionOf address = direction }

/-- An open device: its endpoints. -/
structure RkDevice where
  bulkIn : EndpointAddress .input
  bulkOut : EndpointAddress .output
  deriving DecidableEq

/-- The cells of the endpoints that have been found. -/
structure BulkCells where
  bulkIn : Option (EndpointAddress .input) := none
  bulkOut : Option (EndpointAddress .output) := none

/-- `OnceCell::set`. -/
def setOnce {α : Type} (cell : Option α) (value : α) : Except RkUsbError (Option α) :=
  if cell.isSome then .error .duplicateBulkEndpoint else .ok (some value)

def BulkCells.set (cells : BulkCells) (address : UInt8) : Except RkUsbError BulkCells :=
  if inward : directionOf address = .input then do
    let bulkIn ← setOnce cells.bulkIn ⟨address, inward⟩
    pure { cells with bulkIn := bulkIn }
  else do
    let bulkOut ← setOnce cells.bulkOut ⟨address, by
      cases same : directionOf address with
      | input => exact absurd same inward
      | output => rfl⟩
    pure { cells with bulkOut := bulkOut }

/-- `ok_or(RkUsbError::Usb(rusb::Error::NotFound))`. -/
def orNotFound {α : Type} : Option α → Except RkUsbError α
  | none => .error (.usb .notFound)
  | some value => .ok value

/-- The addresses of the bulk endpoints. -/
def InterfaceDescriptor.bulkAddresses (interface : InterfaceDescriptor) : List UInt8 :=
  (interface.endpointDescriptors.filter fun endpoint => endpoint.transferType = .bulk).map
    EndpointDescriptor.address

namespace RkDevice

/-- `RkDevice::open`. -/
def openDevice (port : DevicePort) : Except RkUsbError RkDevice := do
  port.opened.mapError .usb
  let config ← port.activeConfigDescriptor.mapError .usb
  let interface ← orNotFound config.interfaces.head?
  let interfaceDesc ← orNotFound interface.head?
  (port.setActiveConfiguration config.number).mapError .usb
  (port.claimInterface interfaceDesc.interfaceNumber).mapError .usb
  let cells ← interfaceDesc.bulkAddresses.foldlM BulkCells.set {}
  let bulkIn ← orNotFound cells.bulkIn
  let bulkOut ← orNotFound cells.bulkOut
  pure ⟨bulkIn, bulkOut⟩

/-- The device can be opened, and its interface has these bulk endpoints and no others. -/
structure Opens (port : DevicePort) (device : RkDevice) (config : ConfigDescriptor)
    (interfaceDesc : InterfaceDescriptor) : Prop where
  opened : port.opened = .ok ()
  configured : port.activeConfigDescriptor = .ok config
  first : ∃ others rest, config.interfaces = (interfaceDesc :: others) :: rest
  activated : port.setActiveConfiguration config.number = .ok ()
  claimed : port.claimInterface interfaceDesc.interfaceNumber = .ok ()
  endpoints : interfaceDesc.bulkAddresses = [device.bulkIn.1, device.bulkOut.1] ∨
    interfaceDesc.bulkAddresses = [device.bulkOut.1, device.bulkIn.1]

end RkDevice

namespace BulkCells

/-- The addresses in the cells, for each direction. -/
def addresses (cells : BulkCells) : Direction → List UInt8
  | .input => cells.bulkIn.toList.map Subtype.val
  | .output => cells.bulkOut.toList.map Subtype.val

theorem setOnce_eq_ok_iff {α : Type} {cell cell' : Option α} {value : α} :
    setOnce cell value = .ok cell' ↔ cell'.toList = cell.toList ++ [value] := by
  cases cell with
  | none =>
    refine ⟨fun same => (by cases same; rfl), fun same => ?_⟩
    cases cell' with
    | none => cases same
    | some other =>
      cases same
      rfl
  | some other =>
    refine ⟨fun fails => (by cases fails), fun same => ?_⟩
    cases cell' <;> cases same

theorem toList_injective {α : Type} : Function.Injective (@Option.toList α) := by
  intro first second same
  cases first <;> cases second <;> cases same <;> rfl

/-- The cells are known from the addresses in them. -/
theorem ext_addresses {cells cells' : BulkCells}
    (same : ∀ direction, cells.addresses direction = cells'.addresses direction) :
    cells = cells' := by
  obtain ⟨bulkIn, bulkOut⟩ := cells
  obtain ⟨bulkIn', bulkOut'⟩ := cells'
  obtain rfl := toList_injective (List.map_injective_iff.mpr Subtype.val_injective (same .input))
  obtain rfl := toList_injective (List.map_injective_iff.mpr Subtype.val_injective (same .output))
  rfl

/-- An endpoint is put into the cell of its direction, if this one is empty. -/
theorem set_eq_ok_iff {cells cells' : BulkCells} {address : UInt8} :
    cells.set address = .ok cells' ↔ ∀ direction, cells'.addresses direction =
      cells.addresses direction ++ [address].filter (directionOf · = direction) := by
  unfold set
  by_cases inward : directionOf address = .input
  · rw [dif_pos inward]
    simp only [bind_eq_ok_iff, setOnce_eq_ok_iff]
    constructor
    · rintro ⟨bulkIn, found, ⟨⟩⟩ direction
      cases direction with
      | input => simp [addresses, found, inward]
      | output => simp [addresses, inward]
    · intro all
      refine ⟨cells'.bulkIn, ?_, congrArg Except.ok (ext_addresses fun direction => ?_)⟩
      · refine List.map_injective_iff.mpr Subtype.val_injective ((all .input).trans ?_)
        simp [addresses, inward]
      · cases direction with
        | input => rfl
        | output =>
          show cells.addresses .output = _
          simpa [inward] using (all .output).symm
  · have outward : directionOf address = .output := by
      cases same : directionOf address with
      | input => exact absurd same inward
      | output => rfl
    rw [dif_neg inward]
    simp only [bind_eq_ok_iff, setOnce_eq_ok_iff]
    constructor
    · rintro ⟨bulkOut, found, ⟨⟩⟩ direction
      cases direction with
      | input => simp [addresses, outward]
      | output => simp [addresses, found, outward]
    · intro all
      refine ⟨cells'.bulkOut, ?_, congrArg Except.ok (ext_addresses fun direction => ?_)⟩
      · refine List.map_injective_iff.mpr Subtype.val_injective ((all .output).trans ?_)
        simp [addresses, outward]
      · cases direction with
        | input =>
          show cells.addresses .input = _
          simpa [outward] using (all .input).symm
        | output => rfl

theorem length_addresses (cells : BulkCells) (direction : Direction) :
    (cells.addresses direction).length ≤ 1 := by
  obtain ⟨bulkIn, bulkOut⟩ := cells
  cases direction with
  | input => cases bulkIn <;> simp [addresses]
  | output => cases bulkOut <;> simp [addresses]

/-- An endpoint is refused only where its cell has another. -/
theorem exists_set {cells : BulkCells} {address : UInt8}
    (empty : cells.addresses (directionOf address) = []) : ∃ cells', cells.set address = .ok cells' := by
  obtain ⟨bulkIn, bulkOut⟩ := cells
  unfold set
  by_cases inward : directionOf address = .input
  · rw [inward] at empty
    obtain rfl : bulkIn = none := by cases bulkIn <;> [rfl; cases empty]
    rw [dif_pos inward]
    exact ⟨_, rfl⟩
  · have outward : directionOf address = .output := by
      cases same : directionOf address with
      | input => exact absurd same inward
      | output => rfl
    rw [outward] at empty
    obtain rfl : bulkOut = none := by cases bulkOut <;> [rfl; cases empty]
    rw [dif_neg inward]
    exact ⟨_, rfl⟩

/-- **The endpoints that are found**, each kept for its direction. -/
theorem foldlM_set_eq_ok_iff {addresses : List UInt8} {cells cells' : BulkCells} :
    addresses.foldlM set cells = .ok cells' ↔ ∀ direction, cells'.addresses direction =
      cells.addresses direction ++ addresses.filter (directionOf · = direction) := by
  induction addresses generalizing cells with
  | nil =>
    simp only [List.filter_nil, List.append_nil]
    refine ⟨fun same => ?_, fun all => congrArg Except.ok (ext_addresses fun direction => ?_)⟩
    · cases same
      exact fun _ => rfl
    · exact (all direction).symm
  | cons address rest ih =>
    rw [List.foldlM_cons]
    simp only [bind_eq_ok_iff, set_eq_ok_iff, ih]
    constructor
    · rintro ⟨cells'', first, later⟩ direction
      rw [later, first, List.append_assoc, ← List.filter_append]
      rfl
    · intro all
      have empty : cells.addresses (directionOf address) = [] := by
        have most := length_addresses cells' (directionOf address)
        rw [all, List.filter_cons, if_pos (decide_eq_true rfl), List.length_append,
          List.length_cons] at most
        exact List.eq_nil_of_length_eq_zero (by omega)
      obtain ⟨cells'', first⟩ := exists_set empty
      refine ⟨cells'', set_eq_ok_iff.mp first, fun direction => ?_⟩
      rw [all, set_eq_ok_iff.mp first, List.append_assoc, ← List.filter_append]
      rfl

end BulkCells

namespace RkDevice

theorem orNotFound_eq_ok_iff {α : Type} {found : Option α} {value : α} :
    orNotFound found = .ok value ↔ found = some value := by
  cases found with
  | none => exact ⟨fun fails => (by cases fails), fun fails => (by cases fails)⟩
  | some other => exact ⟨fun same => (by cases same; rfl), fun same => (by cases same; rfl)⟩

theorem directionOf_bulkIn (device : RkDevice) : directionOf device.bulkIn.1 = .input :=
  device.bulkIn.2

theorem directionOf_bulkOut (device : RkDevice) : directionOf device.bulkOut.1 = .output :=
  device.bulkOut.2

/-- One address for each direction, in either order. -/
theorem both_filters_iff {addresses : List UInt8} (device : RkDevice) :
    addresses.filter (directionOf · = .input) = [device.bulkIn.1] ∧
        addresses.filter (directionOf · = .output) = [device.bulkOut.1] ↔
      addresses = [device.bulkIn.1, device.bulkOut.1] ∨
        addresses = [device.bulkOut.1, device.bulkIn.1] := by
  have inward := device.directionOf_bulkIn
  have outward := device.directionOf_bulkOut
  constructor
  · rintro ⟨ins, outs⟩
    have others : (addresses.filter fun address => !decide (directionOf address = .input)) =
        addresses.filter (directionOf · = .output) := by
      refine List.filter_congr fun address _ => ?_
      cases directionOf address <;> rfl
    have two : addresses.length = 2 := by
      rw [List.length_eq_length_filter_add (directionOf · = .input), others, ins, outs]
      rfl
    obtain ⟨first, second, rfl⟩ := List.length_eq_two.mp two
    cases toward : directionOf first <;> cases toward' : directionOf second <;>
      simp [toward, toward'] at ins outs
    · exact .inl (by rw [ins, outs])
    · exact .inr (by rw [ins, outs])
  · rintro (rfl | rfl) <;> simp [inward, outward]

/-- The endpoints are found if there are two of them, one for each direction. -/
theorem endpoints_eq_ok_iff {addresses : List UInt8} {device : RkDevice} :
    (do
      let cells ← addresses.foldlM BulkCells.set {}
      let bulkIn ← orNotFound cells.bulkIn
      let bulkOut ← orNotFound cells.bulkOut
      pure ⟨bulkIn, bulkOut⟩ : Except RkUsbError RkDevice) = .ok device ↔
      addresses = [device.bulkIn.1, device.bulkOut.1] ∨
        addresses = [device.bulkOut.1, device.bulkIn.1] := by
  rw [← both_filters_iff]
  simp only [bind_eq_ok_iff, BulkCells.foldlM_set_eq_ok_iff, orNotFound_eq_ok_iff]
  constructor
  · rintro ⟨⟨_, _⟩, found, bulkIn, rfl, bulkOut, rfl, ⟨⟩⟩
    exact ⟨(found .input).symm, (found .output).symm⟩
  · rintro ⟨ins, outs⟩
    refine ⟨⟨some device.bulkIn, some device.bulkOut⟩, fun direction => ?_, _, rfl, _, rfl, rfl⟩
    cases direction with
    | input => exact ins.symm
    | output => exact outs.symm

/-- **Which devices can be opened.** -/
theorem openDevice_eq_ok_iff {port : DevicePort} {device : RkDevice} :
    openDevice port = .ok device ↔ ∃ config interfaceDesc, Opens port device config interfaceDesc := by
  unfold openDevice
  simp only [bind_eq_ok_iff, mapError_eq_ok_iff, orNotFound_eq_ok_iff]
  constructor
  · rintro ⟨_, opened, config, configured, interface, first, interfaceDesc, descriptor, _, activated,
      _, claimed, found⟩
    obtain ⟨rest, interfaces⟩ := List.head?_eq_some_iff.mp first
    obtain ⟨others, descriptors⟩ := List.head?_eq_some_iff.mp descriptor
    exact ⟨config, interfaceDesc, opened, configured, ⟨others, rest, by rw [interfaces, descriptors]⟩,
      activated, claimed, endpoints_eq_ok_iff.mp (by
        simpa only [bind_eq_ok_iff, orNotFound_eq_ok_iff] using found)⟩
  · rintro ⟨config, interfaceDesc, opened, configured, ⟨others, rest, interfaces⟩, activated, claimed,
      endpoints⟩
    refine ⟨(), opened, config, configured, _, by rw [interfaces]; rfl, interfaceDesc, rfl, (),
      activated, (), claimed, ?_⟩
    simpa only [bind_eq_ok_iff, orNotFound_eq_ok_iff] using endpoints_eq_ok_iff.mpr endpoints

end RkDevice

/-! ### Device types -/

/-- `RkDeviceType::to_pid_vid`. -/
def RkDeviceType.toPidVid : RkDeviceType → Option (UInt16 × UInt16)
  | .rkNone => none
  | .rk27 => some (0x3201, 0x071B)
  | .rk28 => some (0x3228, 0x071B)
  | .rkNano => some (0x3226, 0x071B)
  | .rkCrown => some (0x261A, 0x2207)
  | .rk281x => some (0x281A, 0x2207)
  | .rkCayman => some (0x273A, 0x2207)
  | .rk29 => some (0x290A, 0x2207)
  | .rkPanda => some (0x282B, 0x2207)
  | .rkSmart => some (0x262C, 0x2207)
  | .rk292x => some (0x292A, 0x2207)
  | .rk30 => some (0x300A, 0x2207)
  | .rk30b => some (0x300B, 0x2207)
  | .rk31 => some (0x310B, 0x2207)
  | .rk32 => some (0x320A, 0x2207)

/-! ### Listing -/

/-- The modes that are asked for. -/
structure ListArgs where
  maskrom : Bool := false
  loader : Bool := false
  msc : Bool := false

def ListArgs.shows (args : ListArgs) (rkusbType : RkUsbType) : Bool :=
  (rkusbType = .maskrom && args.maskrom) || (rkusbType = .loader && args.loader) ||
    (rkusbType = .msc && args.msc) || !(args.maskrom || args.loader || args.msc)

inductive ListLine
  | failed (device : UsbDevice) (error : UsbError)
  | shown (busNumber address : UInt8) (mode : RkUsbType)
  deriving DecidableEq

/-- What is printed for a device. -/
def listLine (args : ListArgs) (device : UsbDevice) : Option ListLine :=
  match device.deviceDescriptor with
  | .error error => some (.failed device error)
  | .ok desc =>
      match RkUsbType.detect desc with
      | none => none
      | some rkusbType =>
          if args.shows rkusbType then some (.shown device.busNumber device.address rkusbType) else none

/-- `list::exec`. -/
def execList (usbCtx : UsbContext) (args : ListArgs) : Except UsbError (List ListLine) := do
  let devices ← usbCtx.devices
  pure (devices.filterMap (listLine args))

/-- `Duration::MAX`. -/
def DURATION_MAX : Duration := (2 ^ 64 - 1) * 10 ^ 9 + 999999999

/-- `wait::exec`. -/
def execWait (usbCtx : UsbContext) (bus addr : Option UInt8) (timeout : Option Duration) : Search :=
  findDevice usbCtx bus addr (timeout.or (some DURATION_MAX))

/-! ### Connecting -/

inductive ConnectError
  | selection (error : DeviceSelectionError)
  | rkUsb (error : RkUsbError)

/-- How a subcommand begins: the device is found and opened. -/
def connect (ports : UsbDevice → DevicePort) (usbCtx : UsbContext) (bus addr : Option UInt8)
    (wait : Option Duration) : Option (Except ConnectError (UsbDevice × RkDevice)) :=
  (findDevice usbCtx bus addr wait).outcome.map fun found => do
    let selectedDevice ← found.mapError .selection
    let rkdev ← (RkDevice.openDevice (ports selectedDevice)).mapError .rkUsb
    pure (selectedDevice, rkdev)

def UsbDevice.place (device : UsbDevice) : UInt8 × UInt8 := (device.busNumber, device.address)

/-- A line of a list without arguments is that of a device of Rockchip's. -/
theorem listLine_eq_shown_iff {device : UsbDevice} {busNumber address : UInt8} :
    (∃ mode, listLine {} device = some (.shown busNumber address mode)) ↔
      device.isRockchip ∧ device.place = (busNumber, address) := by
  unfold listLine UsbDevice.isRockchip UsbDevice.place
  cases device.deviceDescriptor with
  | error error => simp
  | ok desc =>
    dsimp only
    cases RkUsbType.detect desc with
    | none => simp
    | some mode => simp [ListArgs.shows]

theorem isDeviceMatching_place_iff {device : UsbDevice} {bus addr : UInt8} :
    isDeviceMatching device (some bus) (some addr) none ↔
      device.isRockchip ∧ device.place = (bus, addr) := by
  rw [isDeviceMatching_iff]
  simp [UsbDevice.Passes, isNoneOr, UsbDevice.place]

/-- Where no two devices have one place, a place selects the device there. -/
theorem candidates_eq_singleton_iff {devices : List UsbDevice} {device : UsbDevice}
    {bus addr : UInt8} (distinct : (devices.map UsbDevice.place).Nodup) :
    candidates devices (some bus) (some addr) = [device] ↔
      device ∈ devices ∧ device.isRockchip ∧ device.place = (bus, addr) := by
  have member (other : UsbDevice) : other ∈ candidates devices (some bus) (some addr) ↔
      other ∈ devices ∧ other.isRockchip ∧ other.place = (bus, addr) := by
    rw [candidates, List.mem_filter, isDeviceMatching_place_iff]
  constructor
  · intro only
    exact (member device).mp (only ▸ List.mem_cons_self)
  · intro placed
    have found := (member device).mpr placed
    have places : ((candidates devices (some bus) (some addr)).map UsbDevice.place).Nodup :=
      distinct.sublist (List.filter_sublist.map _)
    -- two of them would have one place
    match many : candidates devices (some bus) (some addr) with
    | [] =>
      rw [many] at found
      cases found
    | [other] =>
      rw [many] at found
      rw [List.mem_singleton.mp found]
    | first :: second :: rest =>
      have one := ((member first).mp (many ▸ List.mem_cons_self)).2.2
      have two := ((member second).mp (many ▸ List.mem_cons_of_mem _ List.mem_cons_self)).2.2
      rw [many, List.map_cons, List.map_cons, one, two] at places
      exact absurd List.mem_cons_self (List.nodup_cons.mp places).1

/-- A place is listed if a device of Rockchip's is there. -/
theorem listed_iff {usbCtx : UsbContext} {devices : List UsbDevice}
    (connected : usbCtx.devices = .ok devices) {bus addr : UInt8} :
    (∃ lines mode, execList usbCtx {} = .ok lines ∧ .shown bus addr mode ∈ lines) ↔
      ∃ device ∈ devices, device.isRockchip ∧ device.place = (bus, addr) := by
  unfold execList
  rw [connected]
  constructor
  · rintro ⟨lines, mode, listed, member⟩
    cases listed
    obtain ⟨device, among, line⟩ := List.mem_filterMap.mp member
    exact ⟨device, among, listLine_eq_shown_iff.mp ⟨mode, line⟩⟩
  · rintro ⟨device, among, placed⟩
    obtain ⟨mode, line⟩ := listLine_eq_shown_iff.mpr placed
    exact ⟨_, mode, rfl, List.mem_filterMap.mpr ⟨device, among, line⟩⟩

/-- Without a wait, the only candidate is found. -/
theorem findDevice_eq_ok_iff {usbCtx : UsbContext} {devices : List UsbDevice} {device : UsbDevice}
    (connected : usbCtx.devices = .ok devices) {bus addr : Option UInt8} :
    (findDevice usbCtx bus addr none).outcome = some (.ok device) ↔
      candidates devices bus addr = [device] := by
  unfold findDevice
  rw [connected]
  dsimp only
  match candidates devices bus addr with
  | [] => exact ⟨fun fails => (by cases fails), fun fails => (by cases fails)⟩
  | [other] => exact ⟨fun same => (by cases same; rfl), fun same => (by cases same; rfl)⟩
  | _ :: _ :: _ => exact ⟨fun fails => (by cases fails), fun fails => (by cases fails)⟩

theorem connect_eq_ok_iff {ports : UsbDevice → DevicePort} {usbCtx : UsbContext}
    {bus addr : Option UInt8} {wait : Option Duration} {device : UsbDevice} {rkdev : RkDevice} :
    connect ports usbCtx bus addr wait = some (.ok (device, rkdev)) ↔
      (findDevice usbCtx bus addr wait).outcome = some (.ok device) ∧
        RkDevice.openDevice (ports device) = .ok rkdev := by
  unfold connect
  cases (findDevice usbCtx bus addr wait).outcome with
  | none => exact ⟨fun fails => (by cases fails), fun ⟨fails, _⟩ => (by cases fails)⟩
  | some found =>
    rw [Option.map_some, Option.some.injEq, Option.some.injEq]
    simp only [bind_eq_ok_iff, mapError_eq_ok_iff]
    constructor
    · rintro ⟨selected, rfl, opened, opens, ⟨⟩⟩
      exact ⟨rfl, opens⟩
    · rintro ⟨rfl, opens⟩
      exact ⟨device, rfl, rkdev, opens, rfl⟩

/-- A device that is found at once is not waited for. -/
theorem findDevice_wait {usbCtx : UsbContext} {devices : List UsbDevice} {device : UsbDevice}
    (connected : usbCtx.devices = .ok devices) {bus addr : Option UInt8}
    (only : candidates devices bus addr = [device]) (wait : Option Duration) :
    findDevice usbCtx bus addr wait = { outcome := some (.ok device) } := by
  unfold findDevice
  rw [connected]
  dsimp only
  rw [only]

/-- **What is listed can be selected, and nothing else**: on a host where no two devices have one
place, a subcommand that is given a place, and does not wait, connects to a device exactly if it is
there, `list` shows the place, and the first interface has one bulk endpoint for each direction. If
`list` shows the place, nothing is waited for. -/
theorem connects_iff_listed (ports : UsbDevice → DevicePort) {usbCtx : UsbContext}
    {devices : List UsbDevice} (connected : usbCtx.devices = .ok devices)
    (distinct : (devices.map UsbDevice.place).Nodup) (bus addr : UInt8) :
    (∀ device rkdev, connect ports usbCtx (some bus) (some addr) none = some (.ok (device, rkdev)) ↔
      (∃ lines mode, execList usbCtx {} = .ok lines ∧ .shown bus addr mode ∈ lines) ∧
        device ∈ devices ∧ device.place = (bus, addr) ∧
        ∃ config interfaceDesc, RkDevice.Opens (ports device) rkdev config interfaceDesc) ∧
      ((∃ lines mode, execList usbCtx {} = .ok lines ∧ .shown bus addr mode ∈ lines) →
        ∀ wait, connect ports usbCtx (some bus) (some addr) wait =
            connect ports usbCtx (some bus) (some addr) none ∧
          execWait usbCtx (some bus) (some addr) wait =
            findDevice usbCtx (some bus) (some addr) none) := by
  rw [listed_iff connected]
  constructor
  · intro device rkdev
    rw [connect_eq_ok_iff, findDevice_eq_ok_iff connected, candidates_eq_singleton_iff distinct,
      RkDevice.openDevice_eq_ok_iff]
    constructor
    · rintro ⟨⟨among, rockchip, placed⟩, opens⟩
      exact ⟨⟨device, among, rockchip, placed⟩, among, placed, opens⟩
    · rintro ⟨⟨other, among', rockchip, placed'⟩, among, placed, opens⟩
      have same : other = device :=
        List.inj_on_of_nodup_map distinct among' among (placed'.trans placed.symm)
      exact ⟨⟨among, same ▸ rockchip, placed⟩, opens⟩
  · rintro ⟨device, placed⟩ wait
    have only := (candidates_eq_singleton_iff distinct).mpr placed
    unfold connect execWait
    rw [findDevice_wait connected only wait, findDevice_wait connected only none]
    exact ⟨rfl, findDevice_wait connected only _⟩

/-- A device that is none of Rockchip's, and a loader. -/
def twoDevices : UsbContext :=
  { devices := .ok [⟨1, 2, .ok ⟨0x046D, 0xC077, 0⟩⟩, ⟨1, 5, .ok ⟨0x2207, 0x350B, 1⟩⟩]
    hasHotplug := true
    register := .ok ()
    hotplug := []
    polls := [] }

/-- An interface with an interrupt endpoint and two bulk endpoints. -/
def loaderInterface : InterfaceDescriptor := ⟨0, [⟨0x83, .interrupt⟩, ⟨0x02, .bulk⟩, ⟨0x81, .bulk⟩]⟩

def loaderPort : DevicePort :=
  { opened := .ok ()
    activeConfigDescriptor := .ok ⟨1, [[loaderInterface]]⟩
    setActiveConfiguration := fun _ => .ok ()
    claimInterface := fun _ => .ok () }

/-- The loader is listed, and connected to. -/
theorem connects_iff_listed_twoDevices :
    connect (fun _ => loaderPort) twoDevices (some 1) (some 5) none =
      some (.ok (⟨1, 5, .ok ⟨0x2207, 0x350B, 1⟩⟩, ⟨⟨0x81, rfl⟩, ⟨0x02, rfl⟩⟩)) := by
  refine ((connects_iff_listed (fun _ => loaderPort) rfl (by decide) 1 5).1 _ _).mpr ?_
  refine ⟨⟨_, .loader, rfl, by decide⟩, by decide, rfl, _, loaderInterface, rfl, rfl, ⟨[], [], rfl⟩, rfl,
    rfl, .inr rfl⟩

end Rkusb
