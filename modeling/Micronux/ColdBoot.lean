/-
The loader built to relinquish a cold display, from `app_main` to the jump: the
magic word of the display contract behind the cache, the readiness flags, the
writes on the I2C bus and every way to fail.  What the loader puts elsewhere is
modelled by where it goes; the bytes themselves are in the payload's model.
-/
import Micronux.Backlight
import Micronux.PayloadRuns
import Micronux.TotalProg
import Micronux.WriteBackCache

namespace Micronux.ColdBoot

open Concurrent WriteBackCache

/-- `MICRONUX_DISPLAY_HANDOFF_ADDRESS` -/
def handoffAddress : Nat := 0x49f00000

/-- `MICRONUX_DISPLAY_HANDOFF_MAGIC` -/
def handoffMagic : Word := 0x4d4e5844#32

/-- `MICRONUX_COLD_FRAME_SIZE` -/
def frameSize : Nat := 2048000

/-- `MICRONUX_COLD_DESCRIPTOR_BACKING_SIZE`, the size of a page -/
def descriptorBackingSize : Nat := 4096

/-- The size of the `dtb` partition in the partition table -/
def dtbPartitionSize : Nat := 0x200000

/-- The size of the `linux` partition in the partition table -/
def linuxPartitionSize : Nat := 0x600000

/-- The steps on the way to a published contract -/
inductive Milestone where
  | earlyDark
  | prepare
  | handoff
  | dmaPms
  | pmp
  | stage
deriving DecidableEq

inductive Event where
  /-- `s_cold_external_sequence_started` is set. -/
  | started
  /-- The invalidation in `micronux_mipi_dsi_cold_early_dark` has ended. -/
  | invalidated
  /-- A writeback of the contract failed. -/
  | writebackLost
  | passed (milestone : Milestone)
  | bus (created : Bool)
  | device (created : Bool)
  | pwm (value : Byte) (acked : Bool)
  | control (command : Byte) (acked : Bool)
  | failed (reason : String)
  | aborted
  | committed
deriving DecidableEq

/-- The magic word of the contract, the static variables of the loader, and the
events so far, newest first. -/
structure Loader where
  contract : Cell Word
  externalSequenceStarted : Bool := false
  externalCommandSequenceReady : Bool := false
  quiescenceReady : Bool := false
  dmaPolicyReady : Bool := false
  handoffReady : Bool := false
  contractStaged : Bool := false
  log : List Event := []

/-- The answers of the environment: whether a call succeeds, what the allocator
returns, and what the metadata partition holds.  The word is what a write over
the contract would leave there. -/
structure Input where
  ok : Bool := true
  address : Option Nat := none
  metadata : Option (List Byte) := none
  word : Word := 0#32

abbrev BootProg (α : Type) := Prog Loader Input α

/-- Code that may call `fail` with a reason. -/
abbrev Boot (α : Type) := Attempt Loader Input String α

def answer : BootProg Bool := Prog.ask Input.ok

def note (event : Event) : BootProg Unit :=
  Prog.store fun loader => { loader with log := event :: loader.log }

def observe (event : Bool → Event) : BootProg Bool :=
  Prog.total fun input loader =>
    ({ loader with log := event input.ok :: loader.log }, input.ok)

/-- The range meets the magic word of the contract. -/
def Covers (base size : Nat) : Prop :=
  0 < size ∧ base < handoffAddress + 4 ∧ handoffAddress < base + size

instance (base size : Nat) : Decidable (Covers base size) :=
  inferInstanceAs (Decidable (_ ∧ _ ∧ _))

def write (base size : Nat) : BootProg Unit :=
  Prog.total fun input loader =>
    (if Covers base size then
      { loader with contract := loader.contract.write input.word }
    else loader, ())

/-- `cold_cache_writeback` of the contract -/
def cacheWriteback : BootProg Bool :=
  Prog.total fun input loader =>
    (if input.ok then { loader with contract := loader.contract.writeback }
    else { loader with log := .writebackLost :: loader.log }, input.ok)

/-- `cold_cache_writeback_invalidate` of the contract -/
def cacheWritebackInvalidate : BootProg Bool :=
  Prog.total fun input loader =>
    (if input.ok then
      { loader with contract := loader.contract.writeback.invalidate }
    else { loader with log := .writebackLost :: loader.log }, input.ok)

def clearMagic : BootProg Unit :=
  Prog.store fun loader =>
    { loader with contract := loader.contract.write 0#32 }

/-- `cold_invalidate_contract` -/
def invalidateContract : BootProg Bool := do
  clearMagic
  cacheWriteback

/-- The writes of `cold_execute_external_command_sequence`; after a failure the
panel is darkened and reset again. -/
def externalWrites : BootProg Bool := do
  let commanded ← Prog.allOf [observe (.pwm 0),
    observe (.control resetPrepareCommand),
    observe (.control resetAssertCommand)]
  if commanded then pure true
  else do
    let _ ← observe (.pwm 0)
    let _ ← observe (.control resetAssertCommand)
    pure false

/-- `cold_execute_external_command_sequence`; the last answers are those of
`cold_release_i2c`. -/
def executeExternalCommandSequence : BootProg Bool := do
  if ← observe .bus then
    if ← observe .device then do
      let commanded ← externalWrites
      let released ← Prog.allOf [answer, answer]
      pure (commanded && released)
    else pure false
  else pure false

/-- `micronux_mipi_dsi_cold_early_dark` -/
def earlyDark : BootProg Bool := do
  if ← invalidateContract then do
    note .invalidated
    if ← executeExternalCommandSequence then do
      Prog.store fun loader =>
        { loader with externalCommandSequenceReady := true }
      pure true
    else pure false
  else pure false

/-- `micronux_mipi_dsi_cold_fail_cleanup` -/
def failCleanup : BootProg Unit := do
  let _ ← invalidateContract
  let _ ← executeExternalCommandSequence
  pure ()

/-- How an execution of `app_main` ends; the cache has no end of its own. -/
inductive Outcome where
  | aborted
  | jumped
  | moved
deriving DecidableEq

/-- `fail` -/
def fail (reason : String) : BootProg Outcome := do
  note (.failed reason)
  if ← Prog.load Loader.externalSequenceStarted then do
    failCleanup
    note .aborted
    pure .aborted
  else do
    note .aborted
    pure .aborted

/-- The range checks of `cold_reserve_dma_memory`, on bus addresses -/
def DmaPlaced (front descriptors : Nat) : Prop :=
  0x48000000 ≤ front ∧ front + frameSize ≤ 0x48400000 ∧
    0x4ff00000 ≤ descriptors ∧
    descriptors + descriptorBackingSize ≤ 0x4ffc0000 ∧
    ¬ (descriptors < 0x4ff82000 ∧
      0x4ff80000 < descriptors + descriptorBackingSize) ∧
    front % 4096 = 0 ∧ descriptors % 4096 = 0

instance (front descriptors : Nat) : Decidable (DmaPlaced front descriptors) :=
  inferInstanceAs (Decidable (_ ∧ _))

/-- `cold_reserve_dma_memory` from the range checks on; the answers are those of
the two writebacks and of `cold_descriptors_are_zero`. -/
def clearDmaMemory (front descriptors : Nat) : BootProg Bool := do
  if DmaPlaced front descriptors then do
    write front frameSize
    write descriptors descriptorBackingSize
    if ← Prog.allOf [answer, answer, answer] then do
      Prog.store fun loader => { loader with dmaPolicyReady := true }
      pure true
    else pure false
  else pure false

/-- `cold_reserve_dma_memory` -/
def reserveDmaMemory : BootProg Bool := do
  let front ← Prog.ask Input.address
  let descriptors ← Prog.ask Input.address
  match front, descriptors with
  | some front, some descriptors => clearDmaMemory front descriptors
  | some _, none | none, _ => pure false

/-- `micronux_mipi_dsi_cold_prepare`; the answers are those of
`cold_quiesce_gdma`, `cold_quiesce_dsi`, `cold_disable_dphy_ldo` and
`cold_reset_and_clock_state_matches`. -/
def prepare : BootProg Bool := do
  if ← Prog.allOf [Prog.load Loader.externalCommandSequenceReady,
      reserveDmaMemory, answer, answer, answer, answer] then do
    Prog.store fun loader => { loader with quiescenceReady := true }
    pure true
  else pure false

/-- `micronux_mipi_dsi_cold_handoff`; the answers are those of
`cold_reset_and_clock_state_matches` and `cold_descriptors_are_zero`. -/
def handoff : BootProg Bool := do
  if ← Prog.allOf [Prog.load fun loader =>
      loader.externalCommandSequenceReady && loader.quiescenceReady &&
        loader.dmaPolicyReady, answer, answer] then do
    Prog.store fun loader => { loader with handoffReady := true }
    pure true
  else pure false

/-- `micronux_mipi_dsi_cold_stage`, as far as the magic word goes; the answers
are those of `cold_reset_and_clock_state_matches`, `cold_descriptors_are_zero`
and the check of the interrupt route. -/
def stage : BootProg Bool := do
  if ← Prog.allOf [Prog.load fun loader =>
      loader.handoffReady && loader.dmaPolicyReady, answer, answer, answer]
  then do
    clearMagic
    if ← cacheWritebackInvalidate then do
      Prog.store fun loader => { loader with contractStaged := true }
      pure true
    else pure false
  else pure false

/-- `micronux_mipi_dsi_cold_commit` -/
def commit : BootProg Unit :=
  Prog.store fun loader => { loader with
    contract := loader.contract.writeUncached handoffMagic
    log := .committed :: loader.log }

/-- A step that `app_main` has seen to succeed. -/
def milestone (step : Milestone) (prog : BootProg Bool) : BootProg Bool := do
  if ← prog then do
    note (.passed step)
    pure true
  else pure false

/-- The text that `fail` is called with. -/
def reasonOf : LoadFailure → String
  | .metadataPartition => "metadata-partition"
  | .metadataRead => "metadata-read"
  | .metadataValidation => "metadata-validation"
  | .metadataContract => "metadata-contract"
  | .kernelMemorySpan => "kernel-memory-span"
  | .linuxPartition => "linux-partition"
  | .dtbPartition => "dtb-partition"
  | .dtbBufferAllocation => "dtb-buffer-allocation"
  | .dtbRead => "dtb-read"
  | .dtbMagic => "dtb-magic"
  | .payloadSha256 => "payload-sha256"
  | .kernelBufferAllocation => "kernel-buffer-allocation"
  | .kernelLoadAddress => "kernel-load-address"
  | .kernelAllocationSpan => "kernel-allocation-span"
  | .psramIntegrity => "psram-integrity"
  | .kernelRead => "kernel-read"
  | .mmuTranslation => "kernel-mmu-translation"
  | .psramMapContract => "psram-map-contract"
  | .handoff => "mipi-dsi-handoff"

/-- What `validate_manifest` guarantees of the payload's place. -/
structure Placed (payload : PayloadManifest) : Prop where
  load : payload.kernelLoadVaddr.toNat = kernelVaddr
  memory : payload.kernelFileSize.toNat ≤ payload.kernelMemorySize.toNat
  span : kernelVaddr + payload.kernelMemorySize.toNat ≤ displayPoolVaddr

theorem placed_of_validateManifest {digests : Digests} {input : LoaderInput}
    {payload : PayloadManifest}
    (hvalid : validateManifest digests true input = .ok payload) :
    Placed payload := by
  cases hmetadata : input.metadata with
  | none =>
    rw [validateManifest, hmetadata] at hvalid
    cases hvalid
  | some metadata =>
    have hmanifest := validateManifest_ok hmetadata hvalid
    exact ⟨hmanifest.load, hmanifest.memory, hmanifest.span⟩

/-- The contents of `s_payload` behind `validate_manifest` -/
structure Payload where
  manifest : PayloadManifest
  placed : Placed manifest

/-- The partition as `validate_manifest` finds it -/
def metadataInput (metadata : Option (List Byte)) (read : Bool) :
    LoaderInput where
  metadata := metadata
  linux := none
  dtb := none
  readMetadata := read
  dtbAlloc := none
  kernelAlloc := none

/-- `validate_manifest` -/
def readManifest (digests : Digests) : Boot Payload := do
  let metadata ← Attempt.lift (Prog.ask Input.metadata)
  let read ← Attempt.lift answer
  match hvalid : validateManifest digests true (metadataInput metadata read) with
  | .error failure => throw (reasonOf failure)
  | .ok manifest => pure ⟨manifest, placed_of_validateManifest hvalid⟩

def checks : List String → Boot Unit
  | [] => pure ()
  | reason :: rest => do
    Attempt.check reason answer
    checks rest

/-- `app_main`, the buffer of the device tree -/
def loadDtb (payload : PayloadManifest) : Boot Unit := do
  let size := payload.dtbSize
  let allocation := alignUp size cacheAlignment
  if dtbPartitionSize < size.toNat then throw "dtb-partition"
  else do
    match ← Attempt.lift (Prog.ask Input.address) with
    | none => throw "dtb-buffer-allocation"
    | some dtb =>
      if kernelVaddr ≤ dtb then throw "dtb-buffer-allocation"
      else do
        Attempt.lift (write dtb size.toNat)
        Attempt.check "dtb-read" answer
        Attempt.lift (write (dtb + size.toNat) (allocation - size).toNat)
        checks ["dtb-magic", "payload-sha256"]

/-- The offsets that `load_kernel` reads at -/
def kernelOffsets (size : Nat) : List Nat :=
  (List.range ((size + kernelReadChunk - 1) / kernelReadChunk)).map
    (· * kernelReadChunk)

/-- `load_kernel` -/
def loadKernel (kernel size : Nat) : List Nat → Boot Unit
  | [] => pure ()
  | offset :: rest => do
    Attempt.lift (write (kernel + offset) (min (size - offset) kernelReadChunk))
    Attempt.check "kernel-read" answer
    loadKernel kernel size rest

/-- `app_main`, the buffer of the kernel from its address on -/
def fillKernel (payload : PayloadManifest) (kernel : Nat) : Boot Unit := do
  let size := payload.kernelFileSize
  let allocation := alignUp payload.kernelMemorySize cacheAlignment
  if kernel ≠ payload.kernelLoadVaddr.toNat then throw "kernel-load-address"
  else if displayPoolVaddr < kernel + allocation.toNat then
    throw "kernel-allocation-span"
  else do
    Attempt.lift (write kernel (allocation.toNat / 4 * 4))
    Attempt.check "psram-integrity" answer
    loadKernel kernel size.toNat (kernelOffsets size.toNat)
    Attempt.lift (write (kernel + size.toNat) (allocation - size).toNat)
    Attempt.check "payload-sha256" answer

/-- `app_main`, the buffer of the kernel -/
def loadKernelPayload (payload : PayloadManifest) : Boot Unit := do
  match ← Attempt.lift (Prog.ask Input.address) with
  | none => throw "kernel-buffer-allocation"
  | some kernel => fillKernel payload kernel

/-- The configuration of the loader -/
structure Profile where
  c6Sdio : Bool
  dualSlot : Bool

/-- `configure_c6_sdio_pin` -/
def c6PinChecks : List String :=
  ["c6-gpio-reset", "c6-gpio-direction", "c6-gpio-pulldown", "c6-gpio-pullup",
    "c6-drive-capability"]

/-- `prepare_microsd_electrical_state` -/
def microsdChecks : List String :=
  "sd-ldo" :: List.replicate 6 "sd-drive-capability"

/-- `prepare_c6_sdio_electrical_state` -/
def c6SdioChecks : List String :=
  (List.replicate 6 c6PinChecks).flatten ++
    ["c6-reset-config", "c6-reset-release", "c6-reset-assert",
      "c6-reset-release"]

/-- `prepare_sdmmc_electrical_state` -/
def sdmmcElectricalChecks (profile : Profile) : List String :=
  "sd-controller" ::
    (if !profile.c6Sdio || profile.dualSlot then microsdChecks else []) ++
    (if profile.c6Sdio then c6SdioChecks else [])

/-- `app_main` from the clock to the last of the cache writebacks -/
def loadPayload (digests : Digests) (profile : Profile) : Boot Unit := do
  checks (sdmmcElectricalChecks profile)
  Attempt.check "psram-capacity" answer
  let payload ← readManifest digests
  if linuxPartitionSize < payload.manifest.kernelFileSize.toNat then
    throw "linux-partition"
  else do
    checks ["linux-partition", "dtb-partition"]
    loadDtb payload.manifest
    loadKernelPayload payload.manifest
    checks ["kernel-mmu-translation", "dtb-mmu-translation",
      "psram-map-contract", "kernel-cache-writeback",
      "kernel-cache-invalidate", "dtb-cache-writeback"]

/-- `prepare_pmp_for_linux`: the audits of the sixteen entries before and after
the window is installed -/
def pmpChecks : List String :=
  List.replicate 16 "m7-pmp-audit" ++ "linux-pmp-window" ::
    List.replicate 16 "m7-pmp-audit"

/-- `s_cold_external_sequence_started = true` -/
def beginSequence : BootProg Unit :=
  Prog.store fun loader => { loader with
    externalSequenceStarted := true, log := .started :: loader.log }

/-- `app_main` up to the point where nothing fails any more -/
def bootLinux (digests : Digests) (profile : Profile) : Boot Unit := do
  Attempt.check "unsupported-silicon-revision" answer
  Attempt.lift beginSequence
  Attempt.check "mipi-dsi-early-dark" (milestone .earlyDark earlyDark)
  Attempt.check "mipi-dsi-prepare" (milestone .prepare prepare)
  loadPayload digests profile
  Attempt.check "mipi-dsi-handoff" (milestone .handoff handoff)
  checks ["gdma-route", "sdmmc-route"]
  Attempt.check "dma-pms" (milestone .dmaPms answer)
  checks pmpChecks
  Attempt.lift (note (.passed .pmp))
  Attempt.check "usb-serial-jtag-route" answer
  Attempt.check "mipi-dsi-cold-stage" (milestone .stage stage)
  Attempt.check "mipi-dsi-cold-stage-invariant"
    (Prog.load Loader.contractStaged)

/-- The end of `app_main` -/
def conclude : Except String Unit → BootProg Outcome
  | .error reason => fail reason
  | .ok () => do
    commit
    pure .jumped

/-- `app_main` -/
def appMain (digests : Digests) (profile : Profile) : BootProg Outcome :=
  (bootLinux digests profile).run.bind conclude

/-- What the cache does on its own. -/
inductive CacheMove where
  | evict
  | fill

def moveCache : CacheMove → BootProg Outcome
  | .evict => do
    Prog.store fun loader => { loader with contract := loader.contract.evict }
    pure .moved
  | .fill => do
    Prog.store fun loader => { loader with contract := loader.contract.fill }
    pure .moved

end Micronux.ColdBoot
