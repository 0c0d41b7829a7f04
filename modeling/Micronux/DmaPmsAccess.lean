/-
What the DMA masters may touch once `micronux_dma_pms_prepare` has returned
`ESP_OK`: it follows from the values read back alone.
-/
import Micronux.DmaPms

namespace Micronux

theorem and_not_page (word : Word) :
    word &&& ~~~0xfff#32 = (word >>> 12) <<< 12 := by
  apply BitVec.eq_of_getLsbD_eq
  intro index hindex
  interval_cases index <;> simp

theorem alignDown4k_toNat (address : Word) :
    (alignDown4k address).toNat = address.toNat / 4096 * 4096 := by
  have hbound := address.isLt
  unfold alignDown4k
  rw [and_not_page, BitVec.toNat_shiftLeft, BitVec.toNat_ushiftRight]
  simp only [Nat.shiftRight_eq_div_pow, Nat.shiftLeft_eq]
  omega

theorem alignUp4k_toNat {address : Word}
    (haddress : address.toNat + 4095 < 2 ^ 32) :
    (alignUp4k address).toNat = (address.toNat + 4095) / 4096 * 4096 := by
  have hdown := alignDown4k_toNat (address + 0xfff#32)
  have hsum : (address + 0xfff#32).toNat = address.toNat + 4095 := by
    rw [BitVec.toNat_add]
    exact Nat.mod_eq_of_lt haddress
  rw [hsum] at hdown
  exact hdown

/-- The mask of a region's ends leaves a rounded address alone. -/
theorem alignDown4k_mask (address : Word) :
    alignDown4k address &&& dmaAddrMask = alignDown4k address := by
  have hmask : dmaAddrMask = ~~~0xfff#32 := rfl
  rw [hmask, alignDown4k, BitVec.and_assoc, BitVec.and_self]

theorem alignUp4k_mask (address : Word) :
    alignUp4k address &&& dmaAddrMask = alignUp4k address :=
  alignDown4k_mask (address + 0xfff#32)

/-- What holds of the ends of a display's buffers. -/
structure DisplayPolicyOf (policy : DisplayDmaPolicy)
    (front frontEnd descriptors descriptorsEnd : Word) : Prop where
  made : policy = displayPolicy front frontEnd descriptors descriptorsEnd
    policy.dmaChannel
  channel : policy.dmaChannel.toNat < 4
  frontLow : loaderPsramStart ≤ front
  frontHigh : frontEnd ≤ loaderPsramEnd
  descriptorLow : internalSramStart ≤ descriptors
  descriptorHigh : descriptorsEnd ≤ internalSramEnd

variable {policy : DisplayDmaPolicy}

theorem coldReserveDmaMemory_policy {frontbuffer descriptorPool : Word}
    (hreserve : coldReserveDmaMemory frontbuffer descriptorPool = some policy) :
    ∃ front frontEnd descriptors descriptorsEnd,
      DisplayPolicyOf policy front frontEnd descriptors descriptorsEnd := by
  unfold coldReserveDmaMemory at hreserve
  dsimp only at hreserve
  split_ifs at hreserve with hnull hbounds
  cases hreserve
  simp only [not_or, BitVec.not_lt] at hbounds
  obtain ⟨-, hlow, hhigh, -, -, hdlow, hdhigh, -⟩ := hbounds
  have hchannel : (0#32).toNat < 4 := by decide
  exact ⟨_, _, _, _, rfl, hchannel, hlow, hhigh, hdlow, hdhigh⟩

theorem mipiDsiHandoff_policy {handoff : DpiPanelHandoff}
    {framebuffer framebufferSize : Word}
    (hhandoff : mipiDsiHandoff handoff framebuffer framebufferSize =
      some policy) :
    ∃ front frontEnd descriptors descriptorsEnd,
      DisplayPolicyOf policy front frontEnd descriptors descriptorsEnd := by
  unfold mipiDsiHandoff at hhandoff
  dsimp only at hhandoff
  split_ifs at hhandoff with hbounds hchanged htriple
  cases hhandoff
  simp only [not_or, BitVec.not_lt, Int.not_lt] at hbounds
  obtain ⟨-, hlow, hhigh, -, -, hdlow, hdhigh, -, -, -, hzero, hthree⟩ :=
    hbounds
  refine ⟨_, _, _, _, rfl, ?_, hlow, hhigh, hdlow, hdhigh⟩
  show (BitVec.ofInt 32 handoff.dmaChannel).toNat < 4
  rw [BitVec.toNat_ofInt]
  omega

/-- The display policies that the loader can have made. -/
def MadePolicy (policy : DisplayDmaPolicy) : Prop :=
  (∃ frontbuffer descriptorPool,
    coldReserveDmaMemory frontbuffer descriptorPool = some policy) ∨
  ∃ handoff framebuffer framebufferSize,
    mipiDsiHandoff handoff framebuffer framebufferSize = some policy

theorem MadePolicy.ends (hmade : MadePolicy policy) :
    ∃ front frontEnd descriptors descriptorsEnd,
      DisplayPolicyOf policy front frontEnd descriptors descriptorsEnd := by
  rcases hmade with ⟨_, _, hreserve⟩ | ⟨_, _, _, hhandoff⟩
  · exact coldReserveDmaMemory_policy hreserve
  · exact mipiDsiHandoff_policy hhandoff

/-- Every master is listed. -/
theorem mem_permissionRegisters (master : DmaMaster) (access : DmaAccess) :
    (master, access) ∈ permissionRegisters := by
  have hmaster : master ∈ listedMasters := by
    cases master with
    | gdma channel =>
      exact List.mem_append_left _
        (List.mem_map_of_mem (List.mem_finRange channel))
    | _ => decide
  refine List.mem_flatMap.mpr ⟨master, hmaster, ?_⟩
  cases access <;> simp

/-- What the read-back of `micronux_dma_pms_prepare` has verified. -/
structure PmsVerified (display : Option DisplayDmaPolicy)
    (registers : PmsRegisters) : Prop where
  low : ∀ region, registers (.low region) =
    (regionBounds display region).1 &&& dmaAddrMask
  high : ∀ region, registers (.high region) =
    (regionBounds display region).2 &&& dmaAddrMask
  permission : ∀ master access, registers (.permission master access) =
    expectedPermission display master access

theorem dmaPmsPrepare_verified
    {write : PmsRegisters → PmsRegister → Word → PmsRegisters}
    {display : Option DisplayDmaPolicy} {before registers : PmsRegisters}
    (hprepare : dmaPmsPrepare true write display before = some registers) :
    PmsVerified display registers := by
  unfold dmaPmsPrepare at hprepare
  rw [if_neg (by decide)] at hprepare
  dsimp only at hprepare
  generalize (pmsWrites display).foldl
    (fun registers entry => write registers entry.1 entry.2) before =
      written at hprepare
  split_ifs at hprepare with hchannel hverified
  cases hprepare
  rw [Bool.and_eq_true, List.all_eq_true, List.all_eq_true] at hverified
  obtain ⟨hregions, hpermissions⟩ := hverified
  have hmatch : ∀ region, registers (.low region) =
      (regionBounds display region).1 &&& dmaAddrMask ∧
      registers (.high region) =
        (regionBounds display region).2 &&& dmaAddrMask := by
    intro region
    have hregion := hregions region (List.mem_finRange region)
    unfold regionMatches at hregion
    rw [Bool.and_eq_true] at hregion
    exact ⟨eq_of_beq hregion.1, eq_of_beq hregion.2⟩
  exact ⟨fun region => (hmatch region).1, fun region => (hmatch region).2,
    fun master access => eq_of_beq
      (hpermissions _ (mem_permissionRegisters master access))⟩

def InRegion (bounds : Word × Word) (address : Word) : Prop :=
  bounds.1 ≤ address ∧ address < bounds.2

/-- The ends of a region of a policy are on page boundaries. -/
theorem regionBounds_mask {display : Option DisplayDmaPolicy}
    (hmade : ∀ policy, display = some policy → MadePolicy policy)
    (region : Fin dmaRegionCount) :
    (regionBounds display region).1 &&& dmaAddrMask =
        (regionBounds display region).1 ∧
      (regionBounds display region).2 &&& dmaAddrMask =
        (regionBounds display region).2 := by
  have hpool : backbufferPoolStart &&& dmaAddrMask = backbufferPoolStart ∧
      backbufferPoolEnd &&& dmaAddrMask = backbufferPoolEnd := by decide
  have hfifo : dsiFifoWindowStart &&& dmaAddrMask = dsiFifoWindowStart ∧
      dsiFifoWindowEnd &&& dmaAddrMask = dsiFifoWindowEnd := by decide
  unfold regionBounds
  split
  · decide
  · obtain ⟨_, _, _, _, hends⟩ := (hmade _ rfl).ends
    rw [hends.made]
    exact ⟨alignDown4k_mask _, alignUp4k_mask _⟩
  · obtain ⟨_, _, _, _, hends⟩ := (hmade _ rfl).ends
    rw [hends.made]
    exact hpool
  · obtain ⟨_, _, _, _, hends⟩ := (hmade _ rfl).ends
    rw [hends.made]
    exact ⟨alignDown4k_mask _, alignUp4k_mask _⟩
  · obtain ⟨_, _, _, _, hends⟩ := (hmade _ rfl).ends
    rw [hends.made]
    exact hfifo
  · decide

/-- A master may touch what its expected permissions and the regions allow. -/
theorem PmsVerified.mayAccess_iff {display : Option DisplayDmaPolicy}
    {registers : PmsRegisters} (hverified : PmsVerified display registers)
    (hmade : ∀ policy, display = some policy → MadePolicy policy)
    (master : DmaMaster) (access : DmaAccess) (address : Word) :
    MayAccess registers master access address ↔ ∃ region : Fin dmaRegionCount,
        (expectedPermission display master access).getLsbD region.val = true ∧
          InRegion (regionBounds display region) address := by
  unfold MayAccess InRegion
  simp only [hverified.low, hverified.high, hverified.permission,
    (regionBounds_mask hmade _).1, (regionBounds_mask hmade _).2]

theorem sdmmcMask_bits : ∀ region : Fin dmaRegionCount,
    sdmmcMask.getLsbD region.val = true ↔ region = 0 := by
  decide

theorem gdmaReadMask_bits : ∀ region : Fin dmaRegionCount,
    gdmaReadMask.getLsbD region.val = true ↔
      region = 1 ∨ region = 2 ∨ region = 3 := by
  decide

theorem gdmaWriteMask_bits : ∀ region : Fin dmaRegionCount,
    gdmaWriteMask.getLsbD region.val = true ↔ region = 3 ∨ region = 4 := by
  decide

/-- The parts of memory that no DMA master may reach: the kernel's and the
user pool. -/
def Guarded (address : Word) : Prop :=
  (0x48400000#32 ≤ address ∧ address < 0x49300000#32) ∨
    (0x49700000#32 ≤ address ∧ address < 0x49f00000#32)

/-- No region that a display policy opens meets the guarded memory. -/
theorem MadePolicy.guarded (hmade : MadePolicy policy) {address : Word}
    (hguarded : Guarded address) :
    ¬ InRegion (policy.frontbufferStart, policy.frontbufferEnd) address ∧
    ¬ InRegion (policy.backbufferPoolStart, policy.backbufferPoolEnd) address ∧
    ¬ InRegion (policy.descriptorStart, policy.descriptorEnd) address ∧
    ¬ InRegion (policy.fifoStart, policy.fifoEnd) address := by
  obtain ⟨front, frontEnd, descriptors, descriptorsEnd, hends⟩ := hmade.ends
  have hfrontHigh := BitVec.le_def.mp hends.frontHigh
  have hdescriptorLow := BitVec.le_def.mp hends.descriptorLow
  have hdescriptorHigh := BitVec.le_def.mp hends.descriptorHigh
  have hpsram : loaderPsramEnd.toNat = 0x48400000 := rfl
  have hsramLow : internalSramStart.toNat = 0x4ff00000 := rfl
  have hsramHigh : internalSramEnd.toNat = 0x4ffc0000 := rfl
  have hfront := alignUp4k_toNat (show frontEnd.toNat + 4095 < 2 ^ 32 by omega)
  have hdescriptors := alignDown4k_toNat descriptors
  rw [hends.made]
  unfold Guarded at hguarded
  unfold InRegion
  dsimp only [displayPolicy]
  simp only [BitVec.le_def, BitVec.lt_def, hfront, hdescriptors] at hguarded ⊢
  have hpool : backbufferPoolStart.toNat = 0x49300000 := rfl
  have hpoolEnd : backbufferPoolEnd.toNat = 0x49700000 := rfl
  have hfifo : dsiFifoWindowStart.toNat = 0x50105000 := rfl
  simp only [BitVec.toNat_ofNat] at hguarded
  refine ⟨?_, ?_, ?_, ?_⟩ <;> omega

section Access

variable {display : Option DisplayDmaPolicy} {registers : PmsRegisters}
  (hverified : PmsVerified display registers)
  (hmade : ∀ policy, display = some policy → MadePolicy policy)
  (address : Word)

include hverified hmade

/-- The SD host has its window. -/
theorem sdmmc_mayAccess_iff (access : DmaAccess) :
    MayAccess registers .sdmmc access address ↔
      dmaWindowStart ≤ address ∧ address < dmaWindowEnd := by
  rw [hverified.mayAccess_iff hmade]
  constructor
  · rintro ⟨region, hbit, hin⟩
    obtain rfl := (sdmmcMask_bits region).mp hbit
    exact hin
  · intro hin
    exact ⟨0, (sdmmcMask_bits 0).mpr rfl, hin⟩

variable {channel : Fin 4}

/-- The display's channel reads its buffers and its descriptors. -/
theorem gdma_mayRead_iff (hdisplay : display = some policy)
    (hchannel : policy.dmaChannel.toNat = channel.val) :
    MayAccess registers (.gdma channel) .read address ↔
      InRegion (policy.frontbufferStart, policy.frontbufferEnd) address ∨
      InRegion (policy.backbufferPoolStart, policy.backbufferPoolEnd) address ∨
      InRegion (policy.descriptorStart, policy.descriptorEnd) address := by
  have hexpected : expectedPermission display (.gdma channel) .read =
      gdmaReadMask := by
    rw [hdisplay]
    exact if_pos hchannel
  rw [hverified.mayAccess_iff hmade, hexpected]
  subst hdisplay
  constructor
  · rintro ⟨region, hbit, hin⟩
    rcases (gdmaReadMask_bits region).mp hbit with rfl | rfl | rfl
    · exact .inl hin
    · exact .inr (.inl hin)
    · exact .inr (.inr hin)
  · rintro (hin | hin | hin)
    · exact ⟨1, (gdmaReadMask_bits 1).mpr (.inl rfl), hin⟩
    · exact ⟨2, (gdmaReadMask_bits 2).mpr (.inr (.inl rfl)), hin⟩
    · exact ⟨3, (gdmaReadMask_bits 3).mpr (.inr (.inr rfl)), hin⟩

/-- The display's channel writes its descriptors and the FIFO. -/
theorem gdma_mayWrite_iff (hdisplay : display = some policy)
    (hchannel : policy.dmaChannel.toNat = channel.val) :
    MayAccess registers (.gdma channel) .write address ↔
      InRegion (policy.descriptorStart, policy.descriptorEnd) address ∨
      InRegion (policy.fifoStart, policy.fifoEnd) address := by
  have hexpected : expectedPermission display (.gdma channel) .write =
      gdmaWriteMask := by
    rw [hdisplay]
    exact if_pos hchannel
  rw [hverified.mayAccess_iff hmade, hexpected]
  subst hdisplay
  constructor
  · rintro ⟨region, hbit, hin⟩
    rcases (gdmaWriteMask_bits region).mp hbit with rfl | rfl
    · exact .inl hin
    · exact .inr hin
  · rintro (hin | hin)
    · exact ⟨3, (gdmaWriteMask_bits 3).mpr (.inl rfl), hin⟩
    · exact ⟨4, (gdmaWriteMask_bits 4).mpr (.inr rfl), hin⟩

/-- A master that is neither the SD host nor the display's channel. -/
def Unlisted (display : Option DisplayDmaPolicy) (master : DmaMaster) : Prop :=
  master ≠ .sdmmc ∧ ∀ policy channel, display = some policy →
    policy.dmaChannel.toNat = channel.val → master ≠ .gdma channel

/-- Any other master may touch nothing. -/
theorem other_mayAccess {master : DmaMaster} (access : DmaAccess)
    (hother : Unlisted display master) :
    ¬ MayAccess registers master access address := by
  have hexpected : expectedPermission display master access = 0#32 := by
    unfold expectedPermission
    split
    · exact absurd rfl hother.1
    iterate 2 · exact if_neg fun hchannel => hother.2 _ _ rfl hchannel rfl
    · rfl
  rw [hverified.mayAccess_iff hmade, hexpected]
  rintro ⟨region, hbit, -⟩
  rw [BitVec.getLsbD_zero] at hbit
  cases hbit

/-- The display's channel in the constants of the two fixed windows. -/
theorem gdma_mayAccess_iff (hdisplay : display = some policy)
    (hnumber : policy.dmaChannel.toNat = channel.val) :
    (MayAccess registers (.gdma channel) .read address ↔
      InRegion (policy.frontbufferStart, policy.frontbufferEnd) address ∨
      InRegion (backbufferPoolStart, backbufferPoolEnd) address ∨
      InRegion (policy.descriptorStart, policy.descriptorEnd) address) ∧
    (MayAccess registers (.gdma channel) .write address ↔
      InRegion (policy.descriptorStart, policy.descriptorEnd) address ∨
      InRegion (dsiFifoWindowStart, dsiFifoWindowEnd) address) := by
  obtain ⟨_, _, _, _, hends⟩ := (hmade policy hdisplay).ends
  have hpool : policy.backbufferPoolStart = backbufferPoolStart ∧
      policy.backbufferPoolEnd = backbufferPoolEnd := by
    rw [hends.made]
    exact ⟨rfl, rfl⟩
  have hfifo : policy.fifoStart = dsiFifoWindowStart ∧
      policy.fifoEnd = dsiFifoWindowEnd := by
    rw [hends.made]
    exact ⟨rfl, rfl⟩
  have hread := gdma_mayRead_iff hverified hmade address hdisplay hnumber
  have hwrite := gdma_mayWrite_iff hverified hmade address hdisplay hnumber
  rw [hpool.1, hpool.2] at hread
  rw [hfifo.1, hfifo.2] at hwrite
  exact ⟨hread, hwrite⟩

/-- No master may touch the kernel or the user pool. -/
theorem guarded_mayAccess (hguarded : Guarded address) (master : DmaMaster)
    (access : DmaAccess) : ¬ MayAccess registers master access address := by
  by_cases hsdmmc : master = .sdmmc
  · subst master
    rw [sdmmc_mayAccess_iff hverified hmade]
    unfold Guarded at hguarded
    simp only [BitVec.le_def, BitVec.lt_def, BitVec.toNat_ofNat] at hguarded ⊢
    have hwindow : dmaWindowStart.toNat = 0x4ff80000 := rfl
    omega
  · by_cases hlisted : ∃ policy channel, display = some policy ∧
        policy.dmaChannel.toNat = channel.val ∧ master = .gdma channel
    · obtain ⟨policy, channel, hdisplay, hnumber, rfl⟩ := hlisted
      obtain ⟨hfront, hpool, hdescriptors, hfifo⟩ :=
        (hmade policy hdisplay).guarded hguarded
      cases access with
      | read =>
        rw [gdma_mayRead_iff hverified hmade address hdisplay hnumber]
        rintro (hin | hin | hin)
        · exact hfront hin
        · exact hpool hin
        · exact hdescriptors hin
      | write =>
        rw [gdma_mayWrite_iff hverified hmade address hdisplay hnumber]
        rintro (hin | hin)
        · exact hdescriptors hin
        · exact hfifo hin
    · exact other_mayAccess hverified hmade address access ⟨hsdmmc,
        fun policy channel hdisplay hnumber hmaster =>
          hlisted ⟨policy, channel, hdisplay, hnumber, hmaster⟩⟩

end Access

/-- After `micronux_dma_pms_prepare` has returned `ESP_OK` in a build with
`CONFIG_MICRONUX_M7_EARLY_UMODE_DENY`, for every policy of the display and
whatever the hardware made of the writes: the SD host may touch its window, the
display's channel its buffers, descriptors and FIFO, no other master anything,
and none the kernel or the user pool. -/
theorem dmaPmsPrepare_access
    (write : PmsRegisters → PmsRegister → Word → PmsRegisters)
    (display : Option DisplayDmaPolicy) (before registers : PmsRegisters)
    (hmade : ∀ policy, display = some policy → MadePolicy policy)
    (hprepare : dmaPmsPrepare true write display before = some registers)
    (address : Word) :
    (∀ access, MayAccess registers .sdmmc access address ↔
      dmaWindowStart ≤ address ∧ address < dmaWindowEnd) ∧
    (∀ policy channel, display = some policy →
      policy.dmaChannel.toNat = channel.val →
      (MayAccess registers (.gdma channel) .read address ↔
        InRegion (policy.frontbufferStart, policy.frontbufferEnd) address ∨
        InRegion (backbufferPoolStart, backbufferPoolEnd) address ∨
        InRegion (policy.descriptorStart, policy.descriptorEnd) address) ∧
      (MayAccess registers (.gdma channel) .write address ↔
        InRegion (policy.descriptorStart, policy.descriptorEnd) address ∨
        InRegion (dsiFifoWindowStart, dsiFifoWindowEnd) address)) ∧
    (∀ master access, Unlisted display master →
      ¬ MayAccess registers master access address) ∧
    (Guarded address → ∀ master access,
      ¬ MayAccess registers master access address) := by
  have hverified := dmaPmsPrepare_verified hprepare
  exact ⟨sdmmc_mayAccess_iff hverified hmade address,
    fun policy channel => gdma_mayAccess_iff hverified hmade address,
    fun master access => other_mayAccess hverified hmade address access,
    guarded_mayAccess hverified hmade address⟩

def keepWrites (registers : PmsRegisters) (register : PmsRegister)
    (value : Word) : PmsRegisters :=
  Function.update registers register value

def coldPolicy : DisplayDmaPolicy :=
  displayPolicy 0x48100000#32 0x482f4000#32 0x4ff10000#32 0x4ff11000#32 0#32

theorem coldPolicy_made : MadePolicy coldPolicy :=
  .inl ⟨0x48100000#32, 0x4ff10000#32, by decide⟩

theorem coldPolicy_prepared :
    (dmaPmsPrepare true keepWrites (some coldPolicy) fun _ => 0#32).isSome := by
  decide +kernel

/-- The display reads its front buffer and no master reaches the kernel. -/
theorem coldPolicy_access : ∃ registers,
    dmaPmsPrepare true keepWrites (some coldPolicy) (fun _ => 0#32) =
        some registers ∧
      MayAccess registers (.gdma 0) .read 0x48100000#32 ∧
      ∀ master access, ¬ MayAccess registers master access 0x48400000#32 := by
  obtain ⟨registers, hprepare⟩ := Option.isSome_iff_exists.mp
    coldPolicy_prepared
  have hmade : ∀ policy, some coldPolicy = some policy → MadePolicy policy := by
    rintro policy ⟨⟩
    exact coldPolicy_made
  have hfront := dmaPmsPrepare_access keepWrites (some coldPolicy)
    (fun _ => 0#32) registers hmade hprepare 0x48100000#32
  have hkernel := dmaPmsPrepare_access keepWrites (some coldPolicy)
    (fun _ => 0#32) registers hmade hprepare 0x48400000#32
  refine ⟨registers, hprepare, ?_, hkernel.2.2.2 (.inl (by decide))⟩
  exact (hfront.2.1 coldPolicy 0 rfl rfl).1.mpr (.inl ⟨by decide, by decide⟩)

/-- Registers that leave every master all of the memory. -/
def openRegisters : PmsRegisters
  | .low _ => 0#32
  | .high _ => dmaAddrMask
  | .permission _ _ => 0xffffffff#32

/-- Without the option nothing is written, and `ESP_OK` returned over registers
by which every master reaches the kernel. -/
theorem dmaPmsPrepare_disabled :
    dmaPmsPrepare false keepWrites none openRegisters = some openRegisters ∧
      Guarded 0x48400000#32 ∧
      ∀ master access, MayAccess openRegisters master access 0x48400000#32 := by
  have hbit : (0xffffffff#32).getLsbD 0 = true := by decide
  exact ⟨rfl, .inl (by decide), fun _ _ => ⟨0, hbit, by decide, by decide⟩⟩

end Micronux
