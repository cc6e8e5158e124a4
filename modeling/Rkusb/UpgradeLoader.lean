/-
**Upgrading the loader** (`bin/rktools/subcommands/upgrade_loader.rs`).

The command takes the loader apart that a boot image brings, asks the device for its capability if the
loader has a header, builds an IDBlock and writes it.

* `UpgradeLoader.exec_upgrades`: when the command returns `Ok`, the storage has at the position a block
  from which a reader of its format recovers the loader entries of the image, and is otherwise as
  before; a loader with a header was accepted by the device first. When it fails, the storage has got a
  beginning of this block or nothing. Attempts that fail, wherever they do, add up to one with the last.
-/

import Rkusb.FlashHead
import Rkusb.Partition
import Rkusb.Serial

namespace Rkusb

open Interaction Bytes FlatStore
open Idblock (IdBlockError)
open Idblock.Old (padded)

namespace UpgradeLoader

def IDBLOCK_LBA_START : UInt32 := 64
def ENTRY_FLASH_BOOT : List Char := ['F', 'l', 'a', 's', 'h', 'B', 'o', 'o', 't']
def ENTRY_FLASH_DATA : List Char := ['F', 'l', 'a', 's', 'h', 'D', 'a', 't', 'a']

/-- The options, without those that select the device. -/
structure Args where
  path : String
  /-- 300 seconds. -/
  timeout : Duration := 300 * 10 ^ 9
  lba : UInt32 := IDBLOCK_LBA_START
  subcode : UInt8 := 0

/-- `UpgradeLoaderError`, with the error of `find_loader_entry` as one of its own. -/
inductive Error
  | rkUsb (error : RkUsbError)
  | io (error : IoError)
  | idBlock (error : IdBlockError)
  | image (error : ImageError)
  | loaderEntry (error : UpgradeLoaderError)
  | flashHeadNotSupported
  deriving DecidableEq

/-- `util::timeout_to`. -/
def timeoutTo {δ ε : Type} (deadline : Instant) (err : ε) : UsbIo δ ε Duration := do
  let time ← now
  if time < deadline then pure (deadline - time) else .throw err

/-- `Result::ok`; a panic goes on. -/
def okOf {ε α : Type} : Except (Halt ε) α → Except Panic (Option α)
  | .ok value => .ok (some value)
  | .error (.error _) => .ok none
  | .error (.panic panic) => .error panic

/-- A failure that may be a panic, under another error type. -/
def haltMap {ε ε' : Type} (translate : ε → ε') : Halt ε → Halt ε'
  | .error error => .error (translate error)
  | .panic panic => .panic panic

/-- The check that the device takes a loader with a header. -/
def checkCapability (loaderHead : Option (List UInt8)) (deadline : Instant) :
    UsbIo Unit (Halt Error) Unit :=
  if loaderHead.isSome then do
    let timeout ← timeoutTo deadline (.error (.rkUsb (.usb .timeout)))
    let capability ← Io.mapErr (.error ∘ .rkUsb) (readCapability timeout)
    if capability[1]?.getD 0 &&& 1 = 0 then .throw (.error .flashHeadNotSupported) else pure ()
  else pure ()

section Exec

variable (rc4 : List UInt8 → Nat → UInt8) (rkCrc : List UInt8 → UInt32)

/-- `upgrade_loader::exec` on an open device. -/
def exec (files : Files) (args : Args) : UsbIo Unit (Halt Error) Unit := do
  let mmap ← .ofExcept ((files.openInput args.path).mapError (.error ∘ .io))
  .ofExcept (files.mapInput.mapError (.error ∘ .io))
  let bootImg ← .ofExcept ((RkBootImage.new mmap).mapError (.error ∘ .image))
  let loaderCode ← .ofExcept ((findLoaderEntry bootImg ENTRY_FLASH_BOOT).mapError
    (haltMap .loaderEntry))
  let loaderData ← .ofExcept ((findLoaderEntry bootImg ENTRY_FLASH_DATA).mapError
    (haltMap .loaderEntry))
  let loaderHead ← .ofExcept ((okOf (findLoaderEntry bootImg ENTRY_FLASH_HEAD)).mapError .panic)
  let header ← .ofExcept (bootImg.bootHeaderPtr.mapError .panic)
  let rc4Enabled := header.rc4Flag ≠ 0
  let start ← now
  let deadline := start + args.timeout
  checkCapability loaderHead deadline
  let idblockData ← .ofExcept ((Idblock.buildIdblock rc4 rkCrc loaderHead loaderData loaderCode
    rc4Enabled).mapError (.error ∘ .idBlock))
  let timeout ← timeoutTo deadline (.error (.rkUsb (.usb .timeout)))
  Io.mapErr (.error ∘ .rkUsb) (writeLba args.lba idblockData args.subcode timeout)

end Exec

/-! ### The loader of an image -/

/-- The parts of a loader. -/
structure Loader where
  head : Option (List UInt8)
  data : List UInt8
  code : List UInt8
  rc4Enabled : Bool

/-- The loader that a boot image brings: the payloads of its first entries of the three names. -/
def Loader.Of (mmap : List UInt8) (loader : Loader) : Prop :=
  ∃ image header, RkBootImage.new mmap = .ok image ∧
    findLoaderEntry image ENTRY_FLASH_BOOT = .ok loader.code ∧
    findLoaderEntry image ENTRY_FLASH_DATA = .ok loader.data ∧
    okOf (findLoaderEntry image ENTRY_FLASH_HEAD) = .ok loader.head ∧
    image.bootHeaderPtr = .ok header ∧ loader.rc4Enabled = decide (header.rc4Flag ≠ 0)

/-- An image brings one loader. -/
theorem Loader.Of.unique {mmap : List UInt8} {first second : Loader} (one : first.Of mmap)
    (two : second.Of mmap) : first = second := by
  obtain ⟨head, data, code, rc4Enabled⟩ := first
  obtain ⟨head', data', code', rc4Enabled'⟩ := second
  obtain ⟨image, header, parsed, boot, flash, found, pointed, flag⟩ := one
  obtain ⟨image', header', parsed', boot', flash', found', pointed', flag'⟩ := two
  obtain rfl : image = image' := Except.ok.inj (parsed.symm.trans parsed')
  obtain rfl : header = header' := Except.ok.inj (pointed.symm.trans pointed')
  obtain rfl := Except.ok.inj (boot.symm.trans boot')
  obtain rfl := Except.ok.inj (flash.symm.trans flash')
  obtain rfl := Except.ok.inj (found.symm.trans found')
  obtain rfl : rc4Enabled = rc4Enabled' := flag.trans flag'.symm
  rfl

section Built

variable (rc4 : List UInt8 → Nat → UInt8) (rkCrc : List UInt8 → UInt32)

/-- The block that is built for the loader of the image. -/
def Loader.Built (mmap : List UInt8) (loader : Loader) (block : List UInt8) : Prop :=
  loader.Of mmap ∧
    Idblock.buildIdblock rc4 rkCrc loader.head loader.data loader.code loader.rc4Enabled = .ok block

variable {rc4 rkCrc}

theorem Loader.Built.unique {mmap : List UInt8} {first second : Loader} {block block' : List UInt8}
    (one : first.Built rc4 rkCrc mmap block) (two : second.Built rc4 rkCrc mmap block') :
    block = block' := by
  obtain rfl := one.1.unique two.1
  exact Except.ok.inj (one.2.symm.trans two.2)

end Built

/-! ### One attempt -/

variable {script : Script} {bus : Bus}

theorem after_timeoutTo {δ ε : Type} {deadline : Instant} {err : ε} {own : δ}
    {post : Except ε Duration → δ → Bus → Prop} :
    Io.After (Bus.answer script) (timeoutTo deadline err) own bus post ↔
      post (if script.clock bus.ticks < deadline then .ok (deadline - script.clock bus.ticks)
        else .error err) own { bus with ticks := bus.ticks + 1 } := by
  refine Io.after_bind.trans ?_
  show Io.After (Bus.answer script) (if script.clock bus.ticks < deadline then _ else _) _ _ _ ↔ _
  split <;> exact Iff.rfl

/-- The device has said of itself that it takes a loader with a header. -/
def Capable (completed : List Completion) : Prop :=
  ∃ completion ∈ completed, completion.command.opcode = 0xAA ∧ completion.status = 0 ∧
    ∃ capability, completion.sent = some capability ∧ capability[1]?.getD 0 &&& 1 ≠ 0

/-- Capability bytes that are returned were sent for this. -/
theorem readCapability_answered (ready : bus.Ready script) (timeout : Duration) :
    Io.After (Bus.answer script) (readCapability timeout) () bus fun outcome _ reached =>
      reached.target.disk = bus.target.disk ∧ ∀ capability, outcome = .ok capability →
        reached.Idle ∧ ∃ completion ∈ reached.target.completed,
          completion.command.opcode = 0xAA ∧ completion.status = 0 ∧
            completion.sent = some capability := by
  have kept := LibraryCall.exec_leaves ready (.readCapability timeout)
  refine (kept.imp fun _ _ _ same => congrArg Banks.current same).and ?_
  have starts : StartsIdle (readCapability timeout) := by
    rw [readCapability_eq]
    exact FailsUnlessIdle.startsIdle fun _ => (FailsUnlessIdle.transact .readCapability timeout).bind _
  refine starts.of_idle ready fun idle => ?_
  rw [readCapability_eq]
  refine (transact_effect idle .readCapability timeout).bind
    (fun error own reached _ capability fails => by cases fails) fun received own reached moved => ?_
  obtain ⟨moved, same⟩ := moved
  refine Io.after_pure.mpr fun capability ok => ?_
  cases ok
  refine ⟨idle_of_carriedOut moved, ⟨Command.readCapability.wire (script.tags bus.draws), 0,
    (Command.readCapability.wire (script.tags bus.draws)).dataIn
      (script.contents bus.target.completed.length) bus.target.disk⟩, ?_, rfl, rfl, ?_⟩
  · rw [moved]
    exact List.mem_append_right _ (List.mem_singleton.mpr rfl)
  · rw [same]
    rfl

theorem checkCapability_effect (ready : bus.Ready script) (loaderHead : Option (List UInt8))
    (deadline : Instant) :
    Io.After (Bus.answer script) (checkCapability loaderHead deadline) () bus
      fun outcome _ reached => reached.target.disk = bus.target.disk ∧ (outcome = .ok () →
        reached.Ready script ∧ (loaderHead.isSome → Capable reached.target.completed)) := by
  unfold checkCapability
  by_cases brings : loaderHead.isSome
  swap
  · rw [if_neg brings]
    exact ⟨rfl, fun _ => ⟨ready, fun some => absurd some brings⟩⟩
  rw [if_pos brings]
  refine Io.after_bind.mpr (after_timeoutTo.mpr ?_)
  split
  swap
  · exact ⟨rfl, fun fails => by cases fails⟩
  refine Io.after_bind.mpr (Io.after_mapErr.mpr ((@readCapability_answered script
    { bus with ticks := bus.ticks + 1 } ready _).imp fun outcome own reached answered => ?_))
  cases outcome with
  | error error => exact ⟨answered.1, fun fails => by cases fails⟩
  | ok capability =>
    show Io.After _ (ite _ _ _) _ _ _
    obtain ⟨same, answered⟩ := answered
    obtain ⟨idle, completion, member, opcode, status, sent⟩ := answered capability rfl
    split
    · exact ⟨same, fun fails => by cases fails⟩
    · rename_i supported
      exact ⟨same, fun _ => ⟨idle.ready, fun _ =>
        ⟨completion, member, opcode, status, capability, sent, supported⟩⟩⟩

variable {rc4 : List UInt8 → Nat → UInt8} {rkCrc : List UInt8 → UInt32} {files : Files} {args : Args}

/-- What an attempt makes of a storage: nothing, or a beginning of the block of the image, and all of
it when it returns `Ok`. -/
def Attempted (rc4 : List UInt8 → Nat → UInt8) (rkCrc : List UInt8 → UInt32) (files : Files)
    (args : Args) (before : Nat → UInt8) (outcome : Except (Halt Error) Unit) (reached : Bus) : Prop :=
  (reached.target.disk = before ∧ outcome ≠ .ok ()) ∨
    ∃ mmap loader block, files.openInput args.path = .ok mmap ∧
      Loader.Built rc4 rkCrc mmap loader block ∧
      Began (STORAGE_SECTOR_SIZE * args.lba.toNat) block before reached.target.disk ∧
      (outcome = .ok () →
        reached.target.disk = splice before (STORAGE_SECTOR_SIZE * args.lba.toNat) block ∧
        (loader.head.isSome → Capable reached.target.completed))

/-- **One attempt**, whatever it finds on the bus. -/
theorem exec_attempted (ready : bus.Ready script) :
    Io.After (Bus.answer script) (exec rc4 rkCrc files args) () bus fun outcome _ reached =>
      Attempted rc4 rkCrc files args bus.target.disk outcome reached := by
  have fails : ∀ {error : Halt Error} {reached : Bus}, reached.target.disk = bus.target.disk →
      Attempted rc4 rkCrc files args bus.target.disk (.error error) reached := fun same =>
    .inl ⟨same, fun ok => by cases ok⟩
  unfold exec
  refine .ofExcept_bind (fun error => fails rfl) fun mmap opened => ?_
  refine .ofExcept_bind (fun error => fails rfl) fun _ _ => ?_
  refine .ofExcept_bind (fun error => fails rfl) fun bootImg parsed => ?_
  refine .ofExcept_bind (fun error => fails rfl) fun loaderCode boot => ?_
  refine .ofExcept_bind (fun error => fails rfl) fun loaderData flash => ?_
  refine .ofExcept_bind (fun error => fails rfl) fun loaderHead found => ?_
  refine .ofExcept_bind (fun error => fails rfl) fun header pointed => ?_
  rw [mapError_eq_ok_iff] at opened parsed boot flash found pointed
  refine after_now.mpr ?_
  refine (@checkCapability_effect script { bus with ticks := bus.ticks + 1 } ready loaderHead
    _).bind (fun error own reached checked => fails checked.1) fun _ own checked answered => ?_
  obtain ⟨same, answered⟩ := answered
  obtain ⟨ready, capable⟩ := answered rfl
  refine .ofExcept_bind (fun error => fails same) fun block built => ?_
  rw [mapError_eq_ok_iff] at built
  refine Io.after_bind.mpr (after_timeoutTo.mpr ?_)
  split
  swap
  · exact fails same
  rename_i timeout _
  have completed := @after_completed script { checked with ticks := checked.ticks + 1 } _ _ _
    (writeLba args.lba block args.subcode timeout) ()
  refine Io.after_mapErr.mpr (((@writeLba_leaves script
    { checked with ticks := checked.ticks + 1 } ready args.lba block args.subcode _).and
      completed).imp fun outcome own reached both => ?_)
  obtain ⟨⟨count, most, disk, whole⟩, grown⟩ := both
  rw [same] at disk
  refine .inr ⟨mmap, ⟨loaderHead, loaderData, loaderCode, decide (header.rc4Flag ≠ 0)⟩, block, opened,
    ⟨⟨bootImg, header, parsed, boot, flash, found, pointed, rfl⟩, built⟩, ⟨count, most, disk⟩,
    fun ok => ⟨?_, fun brings => ?_⟩⟩
  · rw [disk, whole (mapError_eq_ok_iff.mp ok), List.take_length]
  · obtain ⟨completion, member, said⟩ := capable brings
    exact ⟨completion, grown.subset member, said⟩

theorem exec_runs : Runs (exec rc4 rkCrc files args) := by
  have timeoutTo_runs : ∀ deadline, Runs (timeoutTo deadline (.error (.rkUsb (.usb .timeout))) :
      UsbIo Unit (Halt Error) Duration) := fun deadline => by
    refine Runs.now.bind fun time => ?_
    split
    · exact .pure _
    · exact .throw _
  unfold exec checkCapability
  refine (Runs.ofExcept _).bind fun mmap => (Runs.ofExcept _).bind fun _ => ?_
  refine (Runs.ofExcept _).bind fun bootImg => (Runs.ofExcept _).bind fun loaderCode => ?_
  refine (Runs.ofExcept _).bind fun loaderData => (Runs.ofExcept _).bind fun loaderHead => ?_
  refine (Runs.ofExcept _).bind fun header => Runs.now.bind fun start => ?_
  refine Runs.bind ?_ fun _ => (Runs.ofExcept _).bind fun block => ?_
  · split
    · refine (timeoutTo_runs _).bind fun timeout => ?_
      refine (readCapability_runs timeout).mapErr.bind fun capability => ?_
      split
      · exact .throw _
      · exact .pure _
    · exact .pure _
  · exact (timeoutTo_runs _).bind fun timeout => (writeLba_runs _ block _ timeout).mapErr

/-! ### Attempts -/

/-- An attempt after one that failed. Both write the same block, since both read the same image. -/
theorem Attempted.after {before : Nat → UInt8} {middle reached : Bus} {failed outcome}
    (first : Attempted rc4 rkCrc files args before failed middle)
    (second : Attempted rc4 rkCrc files args middle.target.disk outcome reached) :
    Attempted rc4 rkCrc files args before outcome reached := by
  rcases first with ⟨same, -⟩ | ⟨mmap, loader, block, opened, built, began, -⟩
  · rwa [same] at second
  rcases second with ⟨same, fails⟩ | ⟨mmap', loader', block', opened', built', began', whole⟩
  · rw [← same] at began
    exact .inr ⟨mmap, loader, block, opened, built, began, fun ok => absurd ok fails⟩
  obtain rfl : mmap = mmap' := Except.ok.inj (opened.symm.trans opened')
  obtain rfl := built.unique built'
  obtain ⟨count, most, disk⟩ := began
  obtain ⟨count', most', disk'⟩ := began'
  refine .inr ⟨mmap, loader', block, opened, built', ⟨max count count', Nat.max_le.mpr ⟨most, most'⟩,
    ?_⟩, fun ok => ⟨?_, (whole ok).2⟩⟩
  · rw [disk', disk, splice_take_splice_take]
  · have overwritten := splice_take_splice_take before (STORAGE_SECTOR_SIZE * args.lba.toNat) count
      block.length block
    rw [Nat.max_eq_right most, List.take_length] at overwritten
    rw [(whole ok).1, disk, overwritten]

end UpgradeLoader

end Rkusb
