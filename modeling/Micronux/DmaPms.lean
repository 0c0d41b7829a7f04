/-
The permission registers of the DMA masters: the policy that the loader makes
for the display, the registers that it programs and reads back, and what a
master may then touch.  What the hardware makes of a write is arbitrary: only
the values read back count.
-/
import Micronux.Pmp
import Micronux.PayloadRuns

namespace Micronux

/-- The masters of `s_permission_registers`. -/
inductive DmaMaster where
  | gdma (channel : Fin 4)
  | ahbAdc
  | ahbI2s0
  | ahbI2s1
  | ahbI2s2
  | ahbI3cMst
  | ahbUhci0
  | ahbRmt
  | axiLcdcam
  | axiGpspi2
  | axiGpspi3
  | axiParlio
  | axiAes
  | axiSha
  | dma2dJpeg
  | usb
  | gmac
  | sdmmc
  | usbotg11
  | trace0
  | trace1
  | l2memMon
  | spmMon
  | h264
  | dma2dPpa
  | dma2dDummy
  | ahbDummy
  | axiDummy
deriving DecidableEq

inductive DmaAccess where
  | read
  | write
deriving DecidableEq

/-- `MICRONUX_DMA_REGION_COUNT` -/
abbrev dmaRegionCount : Nat := 32

inductive PmsRegister where
  | low (region : Fin dmaRegionCount)
  | high (region : Fin dmaRegionCount)
  | permission (master : DmaMaster) (access : DmaAccess)
deriving DecidableEq

abbrev PmsRegisters := PmsRegister → Word

def listedMasters : List DmaMaster :=
  (List.finRange 4).map .gdma ++
    [.ahbAdc, .ahbI2s0, .ahbI2s1, .ahbI2s2, .ahbI3cMst, .ahbUhci0, .ahbRmt,
      .axiLcdcam, .axiGpspi2, .axiGpspi3, .axiParlio, .axiAes, .axiSha,
      .dma2dJpeg, .usb, .gmac, .sdmmc, .usbotg11, .trace0, .trace1, .l2memMon,
      .spmMon, .h264, .dma2dPpa, .dma2dDummy, .ahbDummy, .axiDummy]

/-- `s_permission_registers` -/
def permissionRegisters : List (DmaMaster × DmaAccess) :=
  listedMasters.flatMap fun master => [(master, .read), (master, .write)]

/-- `PMS_DMA_REGION0_LOW_M`: the bits above a page, as the kernel's
`DMA_PMS_REGION_ADDRESS_MASK` has them. -/
def dmaAddrMask : Word := 0xfffff000#32

def dmaWindowStart : Word := 0x4ff80000#32
def dmaWindowEnd : Word := 0x4ff82000#32
def dmaEmptyLow : Word := 0xfffff000#32
def dmaEmptyHigh : Word := 0#32

/-- `MICRONUX_DMA_REGION*_MASK` -/
def sdmmcMask : Word := 1#32
def gdmaReadMask : Word := 0b1110#32
def gdmaWriteMask : Word := 0b11000#32

/-- `micronux_display_dma_policy_t` -/
structure DisplayDmaPolicy where
  frontbufferStart : Word
  frontbufferEnd : Word
  backbufferPoolStart : Word
  backbufferPoolEnd : Word
  descriptorStart : Word
  descriptorEnd : Word
  fifoStart : Word
  fifoEnd : Word
  dmaChannel : Word
deriving DecidableEq

def backbufferPoolStart : Word := 0x49300000#32
def backbufferAddress : Word := 0x49300000#32
def sparebufferAddress : Word := 0x49500000#32
def backbufferPoolEnd : Word := 0x49700000#32
def dsiFifoWindowStart : Word := 0x50105000#32
def dsiFifoWindowEnd : Word := 0x50106000#32
def loaderPsramStart : Word := 0x48000000#32
def loaderPsramEnd : Word := 0x48400000#32
def internalSramStart : Word := 0x4ff00000#32
def internalSramEnd : Word := 0x4ffc0000#32
def noncacheOffset : Word := 0x40000000#32

/-- `cold_dma_bus_address` and `dma_bus_address` -/
def dmaBusAddress (address : Word) : Word :=
  if 0x80000000#32 ≤ address then address - noncacheOffset else address

/-- `cold_align_down_4k` and `align_down_4k` -/
def alignDown4k (address : Word) : Word := address &&& ~~~0xfff#32

/-- `cold_align_up_4k` and `align_up_4k` -/
def alignUp4k (address : Word) : Word :=
  (address + 0xfff#32) &&& ~~~0xfff#32

def displayPolicy (front frontEnd descriptors descriptorsEnd channel : Word) :
    DisplayDmaPolicy where
  frontbufferStart := alignDown4k front
  frontbufferEnd := alignUp4k frontEnd
  backbufferPoolStart := backbufferPoolStart
  backbufferPoolEnd := backbufferPoolEnd
  descriptorStart := alignDown4k descriptors
  descriptorEnd := alignUp4k descriptorsEnd
  fifoStart := dsiFifoWindowStart
  fifoEnd := dsiFifoWindowEnd
  dmaChannel := channel

/-- `MICRONUX_COLD_FRAME_SIZE` -/
def coldFrameSize : Word := 2048000#32

/-- `MICRONUX_COLD_DESCRIPTOR_BACKING_SIZE`, and both alignments -/
def coldPageSize : Word := 4096#32

/-- The checks of `cold_reserve_dma_memory`, on the addresses that the
allocator returned; the policy that it makes. -/
def coldReserveDmaMemory (frontbuffer descriptorPool : Word) :
    Option DisplayDmaPolicy :=
  let front := dmaBusAddress frontbuffer
  let frontEnd := front + coldFrameSize
  let descriptors := dmaBusAddress descriptorPool
  let descriptorsEnd := descriptors + coldPageSize
  let backEnd := backbufferAddress + coldFrameSize
  let spareEnd := sparebufferAddress + coldFrameSize
  if frontbuffer = 0#32 ∨ descriptorPool = 0#32 then none
  else if frontEnd < front ∨ front < loaderPsramStart ∨
      loaderPsramEnd < frontEnd ∨
      front &&& (coldPageSize - 1#32) ≠ 0#32 ∨
      descriptorsEnd < descriptors ∨ descriptors < internalSramStart ∨
      internalSramEnd < descriptorsEnd ∨
      (descriptors < dmaWindowEnd ∧ dmaWindowStart < descriptorsEnd) ∨
      descriptors &&& (coldPageSize - 1#32) ≠ 0#32 ∨
      sparebufferAddress < backEnd ∨ backbufferPoolEnd < spareEnd then none
  else some (displayPolicy front frontEnd descriptors descriptorsEnd 0#32)

/-- `esp_lcd_dpi_panel_handoff_t` -/
structure DpiPanelHandoff where
  frameBuffer : Word
  frameBufferSize : Word
  dmaDescriptor : Word
  dmaDescriptorSize : Word
  dmaDescriptorCount : Word
  dmaChannel : Int

/-- The checks of `micronux_mipi_dsi_handoff`, on what the panel handed over
and the loader's own framebuffer; the policy that it makes. -/
def mipiDsiHandoff (handoff : DpiPanelHandoff)
    (framebuffer framebufferSize : Word) : Option DisplayDmaPolicy :=
  let front := dmaBusAddress handoff.frameBuffer
  let frontEnd := front + handoff.frameBufferSize
  let descriptors := dmaBusAddress handoff.dmaDescriptor
  let descriptorsEnd := descriptors + handoff.dmaDescriptorSize
  let backEnd := backbufferAddress + framebufferSize
  let spareEnd := sparebufferAddress + framebufferSize
  if frontEnd < front ∨ front < loaderPsramStart ∨
      loaderPsramEnd < frontEnd ∨ front &&& 7#32 ≠ 0#32 ∨
      descriptorsEnd < descriptors ∨ descriptors < internalSramStart ∨
      internalSramEnd < descriptorsEnd ∨ descriptors &&& 63#32 ≠ 0#32 ∨
      handoff.dmaDescriptorSize ≠ 192#32 ∨ handoff.dmaDescriptorCount ≠ 3#32 ∨
      handoff.dmaChannel < 0 ∨ 3 < handoff.dmaChannel then none
  else if handoff.frameBuffer ≠ framebuffer ∨
      handoff.frameBufferSize ≠ framebufferSize then none
  else if backEnd < backbufferAddress ∨ sparebufferAddress < backEnd ∨
      spareEnd < sparebufferAddress ∨ backbufferPoolEnd < spareEnd then none
  else some (displayPolicy front frontEnd descriptors descriptorsEnd
    (BitVec.ofInt 32 handoff.dmaChannel))

/-- The low and high ends that `micronux_dma_pms_prepare` gives a region. -/
def regionBounds (display : Option DisplayDmaPolicy)
    (region : Fin dmaRegionCount) : Word × Word :=
  match display, region.val with
  | _, 0 => (dmaWindowStart, dmaWindowEnd)
  | some policy, 1 => (policy.frontbufferStart, policy.frontbufferEnd)
  | some policy, 2 => (policy.backbufferPoolStart, policy.backbufferPoolEnd)
  | some policy, 3 => (policy.descriptorStart, policy.descriptorEnd)
  | some policy, 4 => (policy.fifoStart, policy.fifoEnd)
  | _, _ => (dmaEmptyLow, dmaEmptyHigh)

/-- The permissions that `micronux_dma_pms_prepare` expects of a master. -/
def expectedPermission (display : Option DisplayDmaPolicy)
    (master : DmaMaster) (access : DmaAccess) : Word :=
  match master, access, display with
  | .sdmmc, _, _ => sdmmcMask
  | .gdma channel, .read, some policy =>
    if policy.dmaChannel.toNat = channel.val then gdmaReadMask else 0#32
  | .gdma channel, .write, some policy =>
    if policy.dmaChannel.toNat = channel.val then gdmaWriteMask else 0#32
  | _, _, _ => 0#32

/-- `region_matches` -/
def regionMatches (registers : PmsRegisters) (region : Fin dmaRegionCount)
    (bounds : Word × Word) : Bool :=
  registers (.low region) == bounds.1 &&& dmaAddrMask &&
    registers (.high region) == bounds.2 &&& dmaAddrMask

/-- The writes of `micronux_dma_pms_prepare`, in order. -/
def pmsWrites (display : Option DisplayDmaPolicy) : List (PmsRegister × Word) :=
  permissionRegisters.map (fun entry => (.permission entry.1 entry.2, 0#32)) ++
    (List.finRange dmaRegionCount).flatMap (fun region =>
      [(.low region, (regionBounds display region).1 &&& dmaAddrMask),
        (.high region, (regionBounds display region).2 &&& dmaAddrMask)]) ++
    [(.permission .sdmmc .read, sdmmcMask),
      (.permission .sdmmc .write, sdmmcMask)] ++
    match display with
    | none => []
    | some policy =>
      (List.finRange 4).flatMap fun channel =>
        if policy.dmaChannel.toNat = channel.val then
          [(.permission (.gdma channel) .read, gdmaReadMask),
            (.permission (.gdma channel) .write, gdmaWriteMask)]
        else []

/-- `micronux_dma_pms_prepare`: the registers after the writes, if it returns
`ESP_OK`.  Without `CONFIG_MICRONUX_M7_EARLY_UMODE_DENY` it does so at once. -/
def dmaPmsPrepare (earlyUmodeDeny : Bool)
    (write : PmsRegisters → PmsRegister → Word → PmsRegisters)
    (display : Option DisplayDmaPolicy) (registers : PmsRegisters) :
    Option PmsRegisters :=
  if !earlyUmodeDeny then some registers else
  let channelInvalid := match display with
    | none => false
    | some policy => decide (4 ≤ policy.dmaChannel.toNat)
  let written := (pmsWrites display).foldl
    (fun registers entry => write registers entry.1 entry.2) registers
  if channelInvalid then none
  else if (List.finRange dmaRegionCount).all (fun region =>
      regionMatches written region (regionBounds display region)) &&
    permissionRegisters.all (fun entry =>
      written (.permission entry.1 entry.2) ==
        expectedPermission display entry.1 entry.2) then some written
  else none

def MayAccess (registers : PmsRegisters) (master : DmaMaster)
    (access : DmaAccess) (address : Word) : Prop :=
  ∃ region : Fin dmaRegionCount,
    (registers (.permission master access)).getLsbD region.val = true ∧
      registers (.low region) ≤ address ∧ address < registers (.high region)

end Micronux
