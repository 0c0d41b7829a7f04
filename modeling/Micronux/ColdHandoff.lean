/-
The contract of the cold display: how the loader stages and publishes it, and
how the kernel's driver validates it.  Both sides have the same structure of 48
words, in which the second holds the ABI version and the size.
-/
import Micronux.PayloadPack
import Micronux.DmaPmsAccess

namespace Micronux

/-- `micronux_display_handoff_v3` -/
structure ColdHandoff where
  magic : Word
  version : Word
  flags : Word
  bootMode : Word
  ownershipState : Word
  siliconRevision : Word
  panelProfileId : Word
  width : Word
  height : Word
  stride : Word
  pixelFormat : Word
  pixelClockHz : Word
  laneBitRateMbps : Word
  dataLanes : Word
  bufferCount : Word
  hsyncPulseWidth : Word
  hsyncBackPorch : Word
  hsyncFrontPorch : Word
  vsyncPulseWidth : Word
  vsyncBackPorch : Word
  vsyncFrontPorch : Word
  framebuffer0 : Word
  framebuffer1 : Word
  framebuffer2 : Word
  framebufferSize : Word
  dmaDescriptorAddress : Word
  dmaDescriptorSize : Word
  dmaDescriptorCount : Word
  dmaChannel : Word
  dsiFifoAddress : Word
  gdmaIrqSource : Word
  gdmaClicIrq : Word
  i2cPort : Word
  i2cSdaGpio : Word
  i2cSclGpio : Word
  i2cRateHz : Word
  i2cAddress : Word
  displayControlRegister : Word
  backlightRegister : Word
  resetAssertCommand : Word
  resetPrepareCommand : Word
  revealCommand : Word
  backlightBrightness : Word
  resetHoldMs : Word
  pwmZeroSettleMs : Word
  panelPayloadCrc32 : Word
  quiesceSequenceId : Word
  crc32 : Word
deriving DecidableEq

def ColdHandoff.words (handoff : ColdHandoff) : List Word :=
  [handoff.magic, handoff.version, handoff.flags, handoff.bootMode,
   handoff.ownershipState, handoff.siliconRevision, handoff.panelProfileId,
   handoff.width, handoff.height, handoff.stride, handoff.pixelFormat,
   handoff.pixelClockHz, handoff.laneBitRateMbps, handoff.dataLanes,
   handoff.bufferCount, handoff.hsyncPulseWidth, handoff.hsyncBackPorch,
   handoff.hsyncFrontPorch, handoff.vsyncPulseWidth, handoff.vsyncBackPorch,
   handoff.vsyncFrontPorch, handoff.framebuffer0, handoff.framebuffer1,
   handoff.framebuffer2, handoff.framebufferSize,
   handoff.dmaDescriptorAddress, handoff.dmaDescriptorSize,
   handoff.dmaDescriptorCount, handoff.dmaChannel, handoff.dsiFifoAddress,
   handoff.gdmaIrqSource, handoff.gdmaClicIrq, handoff.i2cPort,
   handoff.i2cSdaGpio, handoff.i2cSclGpio, handoff.i2cRateHz,
   handoff.i2cAddress, handoff.displayControlRegister,
   handoff.backlightRegister, handoff.resetAssertCommand,
   handoff.resetPrepareCommand, handoff.revealCommand,
   handoff.backlightBrightness, handoff.resetHoldMs, handoff.pwmZeroSettleMs,
   handoff.panelPayloadCrc32, handoff.quiesceSequenceId, handoff.crc32]

def ColdHandoff.encode (handoff : ColdHandoff) : List Byte :=
  handoff.words.flatMap le32

def ColdHandoff.ofWords (word : Nat → Word) : ColdHandoff where
  magic := word 0
  version := word 1
  flags := word 2
  bootMode := word 3
  ownershipState := word 4
  siliconRevision := word 5
  panelProfileId := word 6
  width := word 7
  height := word 8
  stride := word 9
  pixelFormat := word 10
  pixelClockHz := word 11
  laneBitRateMbps := word 12
  dataLanes := word 13
  bufferCount := word 14
  hsyncPulseWidth := word 15
  hsyncBackPorch := word 16
  hsyncFrontPorch := word 17
  vsyncPulseWidth := word 18
  vsyncBackPorch := word 19
  vsyncFrontPorch := word 20
  framebuffer0 := word 21
  framebuffer1 := word 22
  framebuffer2 := word 23
  framebufferSize := word 24
  dmaDescriptorAddress := word 25
  dmaDescriptorSize := word 26
  dmaDescriptorCount := word 27
  dmaChannel := word 28
  dsiFifoAddress := word 29
  gdmaIrqSource := word 30
  gdmaClicIrq := word 31
  i2cPort := word 32
  i2cSdaGpio := word 33
  i2cSclGpio := word 34
  i2cRateHz := word 35
  i2cAddress := word 36
  displayControlRegister := word 37
  backlightRegister := word 38
  resetAssertCommand := word 39
  resetPrepareCommand := word 40
  revealCommand := word 41
  backlightBrightness := word 42
  resetHoldMs := word 43
  pwmZeroSettleMs := word 44
  panelPayloadCrc32 := word 45
  quiesceSequenceId := word 46
  crc32 := word 47

def decodeColdHandoff (bytes : List Byte) : ColdHandoff :=
  .ofWords fun index => wordAt bytes (4 * index)

def ColdHandoff.abiVersion (handoff : ColdHandoff) : BitVec 16 :=
  handoff.version.setWidth 16

def ColdHandoff.structSize (handoff : ColdHandoff) : BitVec 16 :=
  (handoff.version >>> 16).setWidth 16

/-- `offsetof(micronux_display_handoff_v3, crc32)` -/
def coldCrcOffset : Nat := 0xbc

/-- The contract that `micronux_mipi_dsi_cold_stage` fills in, without its
checksum. -/
def coldContractBody (front descriptors : Word) : ColdHandoff where
  magic := 0x4d4e5844#32
  version := 0x00c00003#32
  flags := 0x00003fff#32
  bootMode := 1#32
  ownershipState := 1#32
  siliconRevision := 103#32
  panelProfileId := 1#32
  width := 800#32
  height := 1280#32
  stride := 1600#32
  pixelFormat := 1#32
  pixelClockHz := 60000000#32
  laneBitRateMbps := 1000#32
  dataLanes := 2#32
  bufferCount := 3#32
  hsyncPulseWidth := 20#32
  hsyncBackPorch := 20#32
  hsyncFrontPorch := 40#32
  vsyncPulseWidth := 4#32
  vsyncBackPorch := 10#32
  vsyncFrontPorch := 30#32
  framebuffer0 := front
  framebuffer1 := backbufferAddress
  framebuffer2 := sparebufferAddress
  framebufferSize := coldFrameSize
  dmaDescriptorAddress := descriptors
  dmaDescriptorSize := 192#32
  dmaDescriptorCount := 3#32
  dmaChannel := 0#32
  dsiFifoAddress := 0x50105000#32
  gdmaIrqSource := 24#32
  gdmaClicIrq := 18#32
  i2cPort := 0#32
  i2cSdaGpio := 7#32
  i2cSclGpio := 8#32
  i2cRateHz := 100000#32
  i2cAddress := 0x45#32
  displayControlRegister := 0x95#32
  backlightRegister := 0x96#32
  resetAssertCommand := 0x11#32
  resetPrepareCommand := 0x13#32
  revealCommand := 0x17#32
  backlightBrightness := 63#32
  resetHoldMs := 10#32
  pwmZeroSettleMs := 100#32
  panelPayloadCrc32 := 0xcea07f9b#32
  quiesceSequenceId := 1#32
  crc32 := 0#32

def coldContract (crc32 : List Byte → Word) (front descriptors : Word) :
    ColdHandoff :=
  { coldContractBody front descriptors with
    crc32 := crc32
      ((coldContractBody front descriptors).encode.take coldCrcOffset) }

/-- What the loader and the kernel read of the hardware: the reset and clock
registers, the LDO, the route of the DMA interrupt, the fuses, the permission
registers and memory by bus address. -/
structure ColdHardware where
  hpRstEn0 : Word
  socClkCtrl0 : Word
  socClkCtrl1 : Word
  socClkCtrl2 : Word
  periClkCtrl03 : Word
  extLdo : Word
  gdmaRoute : Word
  efuseMacSys2 : Word
  pms : PmsRegisters
  memory : Nat → Byte

/-- The bits of the reset and clock registers, by the kernel's names.  The
loader's names for them are those of a header of its system. -/
def gdmaReset : Word := 1#32 <<< 21
def dsiBridgeReset : Word := 1#32 <<< 26
def gdmaCpuClkEn : Word := 1#32 <<< 13
def gdmaSysClkEn : Word := 1#32 <<< 5
def dsiSysClkEn : Word := 1#32 <<< 12
def i2c0ApbClkEn : Word := 1#32 <<< 12
def dsiDphyCfgClkEn : Word := 1#32
def dsiDphyPllRefclkEn : Word := 1#32 <<< 1
def dsiDpiClkEn : Word := 1#32 <<< 7
def extLdoXpd : Word := 1#32 <<< 8

/-- `cold_reset_and_clock_state_matches` -/
def coldResetAndClockStateMatches (hardware : ColdHardware) : Bool :=
  hardware.hpRstEn0 &&& dsiBridgeReset != 0#32 &&
    hardware.hpRstEn0 &&& gdmaReset != 0#32 &&
    hardware.socClkCtrl0 &&& gdmaCpuClkEn == 0#32 &&
    hardware.socClkCtrl1 &&& (gdmaSysClkEn ||| dsiSysClkEn) == 0#32 &&
    hardware.periClkCtrl03 &&&
      (dsiDpiClkEn ||| dsiDphyCfgClkEn ||| dsiDphyPllRefclkEn) == 0#32 &&
    hardware.extLdo &&& extLdoXpd == 0#32

/-- `cold_descriptors_are_zero`, and the kernel's loop over the page -/
def descriptorPageZero (hardware : ColdHardware) (descriptors : Word) : Bool :=
  (ByteMemory.load hardware.memory descriptors.toNat coldPageSize.toNat).all
    fun byte => byte == 0#8

/-- The loader's `s_cold` variables that the stage reads. -/
structure ColdLoader where
  frontbuffer : Word
  descriptorPool : Word
  dmaPolicyReady : Bool
  handoffReady : Bool

/-- `micronux_mipi_dsi_cold_stage`: the bytes at the handoff address, with no
magic yet. -/
def coldStage (crc32 : List Byte → Word) (hardware : ColdHardware)
    (loader : ColdLoader) : Option (List Byte) :=
  let front := dmaBusAddress loader.frontbuffer
  let descriptors := dmaBusAddress loader.descriptorPool
  if !(loader.handoffReady && loader.dmaPolicyReady) then none
  else if !coldResetAndClockStateMatches hardware then none
  else if !descriptorPageZero hardware descriptors then none
  else if hardware.gdmaRoute &&& 0x3f#32 ≠ 18#32 then none
  else some (le32 0#32 ++ (coldContract crc32 front descriptors).encode.drop 4)

/-- `micronux_mipi_dsi_cold_commit` -/
def coldCommit (staged : List Byte) : List Byte :=
  le32 0x4d4e5844#32 ++ staged.drop 4

/-- The reasons of `micronux_cold_reject`. -/
inductive ColdReject where
  | magic
  | abiVersion
  | structureSize
  | crc32
  | flags
  | panelProfile
  | frameSizeOverflow
  | frameSize
  | framebufferBounds
  | loaderFrontBounds
  | displayPoolLayout
  | displayPoolBounds
  | framebufferOverlap
  | descriptorOverflow
  | descriptorBounds
  | descriptorSdDmaOverlap
  | gdmaLinuxIrqData
  | gdmaLinuxHwirq
  | peripheralContract
  | siliconReadback
  | displayResetClockState
  | dphyLdoEnabled
  | i2cNotReleased
  | gdmaIrqRoute
  | dmaPmsPolicy
  | descriptorStorageNotZero
deriving DecidableEq

/-- What the driver takes from the device tree: the two required numbers, and
the hardware number of its interrupt, if Linux has data for it. -/
structure ColdDevice where
  requiredHandoffAbi : Nat
  requiredSiliconRevision : Nat
  hwirq : Option Nat

/-- `micronux_cold_silicon_revision` -/
def coldSiliconRevision (efuse : Word) : Nat :=
  let minor := (efuse &&& 0xf#32).toNat
  let low := ((efuse &&& 0x30#32) >>> 4).toNat
  let major := if efuse &&& (1#32 <<< 23) ≠ 0#32 then low ||| 4 else low
  major * 100 + minor

/-- The head of `micronux_validate_handoff_v3`, up to the panel. -/
def validateColdHead (crc32 : List Byte → Word) (device : ColdDevice)
    (bytes : List Byte) (handoff : ColdHandoff) : Except ColdReject Unit :=
  if handoff.magic ≠ 0x4d4e5844#32 then .error .magic
  else if handoff.abiVersion ≠ 3#16 ∨
      handoff.abiVersion.toNat ≠ device.requiredHandoffAbi then
    .error .abiVersion
  else if handoff.structSize ≠ 0xc0#16 then .error .structureSize
  else if crc32 (bytes.take coldCrcOffset) ≠ handoff.crc32 then .error .crc32
  else if handoff.flags ≠ 0x00003fff#32 then .error .flags
  else if handoff.bootMode ≠ 1#32 ∨ handoff.ownershipState ≠ 1#32 ∨
      handoff.siliconRevision.toNat ≠ device.requiredSiliconRevision ∨
      handoff.panelProfileId ≠ 1#32 ∨ handoff.width ≠ 800#32 ∨
      handoff.height ≠ 1280#32 ∨ handoff.stride ≠ 1600#32 ∨
      handoff.pixelFormat ≠ 1#32 ∨ handoff.pixelClockHz ≠ 60000000#32 ∨
      handoff.laneBitRateMbps ≠ 1000#32 ∨ handoff.dataLanes ≠ 2#32 ∨
      handoff.bufferCount ≠ 3#32 ∨ handoff.hsyncPulseWidth ≠ 20#32 ∨
      handoff.hsyncBackPorch ≠ 20#32 ∨ handoff.hsyncFrontPorch ≠ 40#32 ∨
      handoff.vsyncPulseWidth ≠ 4#32 ∨ handoff.vsyncBackPorch ≠ 10#32 ∨
      handoff.vsyncFrontPorch ≠ 30#32 then .error .panelProfile
  else .ok ()

/-- `IS_ALIGNED` to a page -/
def pageAligned (address : Word) : Bool := address &&& 0xfff#32 == 0#32

def bufferEnd (handoff : ColdHandoff) (address : Word) : Nat :=
  address.toNat + handoff.framebufferSize.toNat

def buffersOverlap (handoff : ColdHandoff) (first second : Word) : Bool :=
  decide (first.toNat < bufferEnd handoff second) &&
    decide (second.toNat < bufferEnd handoff first)

/-- The framebuffers in `micronux_validate_handoff_v3`. -/
def validateColdBuffers (handoff : ColdHandoff) : Except ColdReject Unit :=
  let buffers := [handoff.framebuffer0, handoff.framebuffer1,
    handoff.framebuffer2]
  let pool := [handoff.framebuffer1, handoff.framebuffer2]
  if 0xffffffff / handoff.stride.toNat < handoff.height.toNat then
    .error .frameSizeOverflow
  else if handoff.height * handoff.stride ≠ 2048000#32 ∨
      handoff.framebufferSize ≠ handoff.height * handoff.stride then
    .error .frameSize
  else if buffers.any fun address =>
      decide (0xffffffff < bufferEnd handoff address) ||
        !pageAligned address then .error .framebufferBounds
  else if handoff.framebuffer0 < loaderPsramStart ∨
      loaderPsramEnd.toNat < bufferEnd handoff handoff.framebuffer0 then
    .error .loaderFrontBounds
  else if handoff.framebuffer1 ≠ backbufferAddress ∨
      handoff.framebuffer2 ≠ sparebufferAddress then
    .error .displayPoolLayout
  else if pool.any fun address =>
      decide (address < backbufferPoolStart) ||
        decide (backbufferPoolEnd.toNat < bufferEnd handoff address) ||
        decide ((address + 0x00200000#32).toNat <
          bufferEnd handoff address) then .error .displayPoolBounds
  else if buffersOverlap handoff handoff.framebuffer0 handoff.framebuffer1 ||
      buffersOverlap handoff handoff.framebuffer0 handoff.framebuffer2 ||
      buffersOverlap handoff handoff.framebuffer1 handoff.framebuffer2 then
    .error .framebufferOverlap
  else .ok ()

/-- The descriptors in `micronux_validate_handoff_v3`. -/
def validateColdDescriptors (handoff : ColdHandoff) : Except ColdReject Unit :=
  let pageEnd := handoff.dmaDescriptorAddress.toNat + coldPageSize.toNat
  if 0xffffffff < pageEnd then .error .descriptorOverflow
  else if handoff.dmaDescriptorAddress < internalSramStart ∨
      internalSramEnd.toNat < pageEnd ∨
      pageAligned handoff.dmaDescriptorAddress = false ∨
      handoff.dmaDescriptorSize ≠ 192#32 ∨
      handoff.dmaDescriptorCount ≠ 3#32 then .error .descriptorBounds
  else if handoff.dmaDescriptorAddress < dmaWindowEnd ∧
      dmaWindowStart.toNat < pageEnd then .error .descriptorSdDmaOverlap
  else .ok ()

/-- The interrupt in `micronux_validate_handoff_v3`. -/
def validateColdIrq (device : ColdDevice) (handoff : ColdHandoff) :
    Except ColdReject Unit :=
  match device.hwirq with
  | none => .error .gdmaLinuxIrqData
  | some hwirq =>
    if hwirq ≠ handoff.gdmaClicIrq.toNat then .error .gdmaLinuxHwirq
    else .ok ()

/-- The peripherals in `micronux_validate_handoff_v3`. -/
def validateColdPeripherals (handoff : ColdHandoff) : Except ColdReject Unit :=
  if handoff.dmaChannel ≠ 0#32 ∨ handoff.dsiFifoAddress ≠ 0x50105000#32 ∨
      handoff.gdmaIrqSource ≠ 24#32 ∨ handoff.gdmaClicIrq ≠ 18#32 ∨
      handoff.i2cPort ≠ 0#32 ∨ handoff.i2cSdaGpio ≠ 7#32 ∨
      handoff.i2cSclGpio ≠ 8#32 ∨
      handoff.i2cRateHz ≠ 100000#32 ∨ handoff.i2cAddress ≠ 0x45#32 ∨
      handoff.displayControlRegister ≠ 0x95#32 ∨
      handoff.backlightRegister ≠ 0x96#32 ∨
      handoff.resetAssertCommand ≠ 0x11#32 ∨
      handoff.resetPrepareCommand ≠ 0x13#32 ∨
      handoff.revealCommand ≠ 0x17#32 ∨
      handoff.backlightBrightness ≠ 63#32 ∨ handoff.resetHoldMs ≠ 10#32 ∨
      handoff.pwmZeroSettleMs ≠ 100#32 ∨
      handoff.panelPayloadCrc32 ≠ 0xcea07f9b#32 ∨
      handoff.quiesceSequenceId ≠ 1#32 then .error .peripheralContract
  else .ok ()

/-- `micronux_validate_cold_hardware` -/
def validateColdHardware (device : ColdDevice) (handoff : ColdHandoff)
    (hardware : ColdHardware) : Except ColdReject Unit :=
  let frontEnd := handoff.framebuffer0 + handoff.framebufferSize
  let descriptorEnd := handoff.dmaDescriptorAddress + coldPageSize
  if coldSiliconRevision hardware.efuseMacSys2 ≠
      device.requiredSiliconRevision then .error .siliconReadback
  else if hardware.hpRstEn0 &&& (gdmaReset ||| dsiBridgeReset) ≠
        gdmaReset ||| dsiBridgeReset ∨
      hardware.socClkCtrl0 &&& gdmaCpuClkEn ≠ 0#32 ∨
      hardware.socClkCtrl1 &&& (gdmaSysClkEn ||| dsiSysClkEn) ≠ 0#32 ∨
      hardware.periClkCtrl03 &&&
        (dsiDphyCfgClkEn ||| dsiDphyPllRefclkEn ||| dsiDpiClkEn) ≠ 0#32 then
    .error .displayResetClockState
  else if hardware.extLdo &&& extLdoXpd ≠ 0#32 then .error .dphyLdoEnabled
  else if hardware.socClkCtrl2 &&& i2c0ApbClkEn ≠ 0#32 then
    .error .i2cNotReleased
  else if hardware.gdmaRoute &&& 0x3f#32 ≠ handoff.gdmaClicIrq then
    .error .gdmaIrqRoute
  else if !(regionMatches hardware.pms 1 (handoff.framebuffer0, frontEnd) &&
      regionMatches hardware.pms 2 (backbufferPoolStart, backbufferPoolEnd) &&
      regionMatches hardware.pms 3
        (handoff.dmaDescriptorAddress, descriptorEnd) &&
      regionMatches hardware.pms 4 (dsiFifoWindowStart, dsiFifoWindowEnd) &&
      hardware.pms (.permission (.gdma 0) .read) == gdmaReadMask &&
      hardware.pms (.permission (.gdma 0) .write) == gdmaWriteMask) then
    .error .dmaPmsPolicy
  else if !descriptorPageZero hardware handoff.dmaDescriptorAddress then
    .error .descriptorStorageNotZero
  else .ok ()

/-- `micronux_validate_handoff_v3`, on the bytes at the handoff address. -/
def validateHandoffV3 (crc32 : List Byte → Word) (device : ColdDevice)
    (hardware : ColdHardware) (bytes : List Byte) :
    Except ColdReject Unit := do
  let handoff := decodeColdHandoff bytes
  validateColdHead crc32 device bytes handoff
  validateColdBuffers handoff
  validateColdDescriptors handoff
  validateColdIrq device handoff
  validateColdPeripherals handoff
  validateColdHardware device handoff hardware

end Micronux
