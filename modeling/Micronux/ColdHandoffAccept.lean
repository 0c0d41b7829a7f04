/-
The kernel accepts the contract that the loader publishes, and accepts none
whose buffers or descriptors are out of place.
-/
import Micronux.Checksum
import Micronux.ColdHandoff
import Micronux.Fallible

namespace Micronux

/-- The words of a contract are read where they were written. -/
theorem wordAt_words (words : List Word) (index : Nat)
    (hindex : index < words.length) :
    wordAt (words.flatMap le32) (4 * index) = words[index] := by
  have hsplit : words = words.take index ++
      words[index] :: words.drop (index + 1) := by
    rw [← List.drop_eq_getElem_cons hindex, List.take_append_drop]
  have hlength : (words.take index).length = index :=
    List.length_take_of_le hindex.le
  have hword := wordAt_flatMap (words.take index) words[index]
    (words.drop (index + 1)) []
  rw [hlength, ← hsplit, List.append_nil] at hword
  exact hword

theorem ColdHandoff.ofWords_congr {first second : Nat → Word}
    (heq : ∀ index < 48, first index = second index) :
    ColdHandoff.ofWords first = ColdHandoff.ofWords second := by
  unfold ColdHandoff.ofWords
  congr 1
  all_goals exact heq _ (by decide)

theorem decodeColdHandoff_encode (handoff : ColdHandoff) :
    decodeColdHandoff handoff.encode = handoff := by
  have hwords : decodeColdHandoff handoff.encode =
      .ofWords fun index => handoff.words.getD index 0#32 := by
    apply ColdHandoff.ofWords_congr
    intro index hindex
    have hword := wordAt_words handoff.words index hindex
    rw [List.getD_eq_getElem?_getD, List.getElem?_eq_getElem hindex]
    exact hword
  rw [hwords]
  rfl

/-- The checksum is of the words before it. -/
theorem take_encode_crc32 (handoff : ColdHandoff) (crc : Word) :
    ({ handoff with crc32 := crc }).encode.take coldCrcOffset =
      handoff.encode.take coldCrcOffset := by
  have hencode : ∀ handoff : ColdHandoff, handoff.encode =
      (handoff.words.take 47).flatMap le32 ++ le32 handoff.crc32 := by
    intro handoff
    have hwords : handoff.words = handoff.words.take 47 ++ [handoff.crc32] :=
      rfl
    unfold ColdHandoff.encode
    conv_lhs => rw [hwords]
    rw [List.flatMap_append, List.flatMap_singleton]
  have hlength : ((handoff.words.take 47).flatMap le32).length =
      coldCrcOffset := by
    rw [length_flatMap_le32]
    rfl
  rw [hencode, hencode handoff]
  exact (List.take_left' hlength).trans (List.take_left' hlength).symm

/-- The commit completes what was staged. -/
theorem coldCommit_staged (handoff : ColdHandoff)
    (hmagic : handoff.magic = 0x4d4e5844#32) :
    coldCommit (le32 0#32 ++ handoff.encode.drop 4) = handoff.encode := by
  have hencode : handoff.encode =
      le32 handoff.magic ++ handoff.words.tail.flatMap le32 := by
    have hwords : handoff.words = handoff.magic :: handoff.words.tail := rfl
    unfold ColdHandoff.encode
    conv_lhs => rw [hwords]
    rw [List.flatMap_cons]
  unfold coldCommit
  rw [hencode, hmagic, List.drop_left' (le32_length _),
    List.drop_left' (le32_length _)]

/-- What `cold_reserve_dma_memory` has checked of the bus addresses. -/
structure ColdReserved (front descriptors : Word) : Prop where
  frontLow : 0x48000000 ≤ front.toNat
  frontHigh : front.toNat + 2048000 ≤ 0x48400000
  frontAligned : front &&& 0xfff#32 = 0#32
  descriptorLow : 0x4ff00000 ≤ descriptors.toNat
  descriptorHigh : descriptors.toNat + 4096 ≤ 0x4ffc0000
  descriptorAligned : descriptors &&& 0xfff#32 = 0#32
  apart : 0x4ff82000 ≤ descriptors.toNat ∨ descriptors.toNat + 4096 ≤ 0x4ff80000

variable {policy : DisplayDmaPolicy}

theorem coldReserveDmaMemory_reserved {frontbuffer descriptorPool : Word}
    (hreserve : coldReserveDmaMemory frontbuffer descriptorPool = some policy) :
    ColdReserved (dmaBusAddress frontbuffer) (dmaBusAddress descriptorPool) ∧
      policy = displayPolicy (dmaBusAddress frontbuffer)
        (dmaBusAddress frontbuffer + coldFrameSize)
        (dmaBusAddress descriptorPool)
        (dmaBusAddress descriptorPool + coldPageSize) 0#32 := by
  unfold coldReserveDmaMemory at hreserve
  dsimp only at hreserve
  generalize dmaBusAddress frontbuffer = front at hreserve ⊢
  generalize dmaBusAddress descriptorPool = descriptors at hreserve ⊢
  split_ifs at hreserve with hnull hbounds
  cases hreserve
  refine ⟨?_, rfl⟩
  have hframe : coldFrameSize.toNat = 2048000 := rfl
  have hpage : coldPageSize.toNat = 4096 := rfl
  have hmask : coldPageSize - 1#32 = 0xfff#32 := rfl
  have hpsram : loaderPsramStart.toNat = 0x48000000 := rfl
  have hpsramEnd : loaderPsramEnd.toNat = 0x48400000 := rfl
  have hsram : internalSramStart.toNat = 0x4ff00000 := rfl
  have hsramEnd : internalSramEnd.toNat = 0x4ffc0000 := rfl
  have hwindow : dmaWindowStart.toNat = 0x4ff80000 := rfl
  have hwindowEnd : dmaWindowEnd.toNat = 0x4ff82000 := rfl
  have hfront := front.isLt
  have hdescriptors := descriptors.isLt
  simp only [not_or, not_not, not_and] at hbounds
  obtain ⟨hover, hlow, hhigh, halign, hdover, hdlow, hdhigh, hapart, hdalign,
    -, -⟩ := hbounds
  rw [BitVec.lt_def, BitVec.toNat_add, hframe] at hover
  rw [BitVec.lt_def, hpsram] at hlow
  rw [BitVec.lt_def, BitVec.toNat_add, hframe, hpsramEnd] at hhigh
  rw [BitVec.lt_def, BitVec.toNat_add, hpage] at hdover
  rw [BitVec.lt_def, hsram] at hdlow
  rw [BitVec.lt_def, BitVec.toNat_add, hpage, hsramEnd] at hdhigh
  rw [BitVec.lt_def, BitVec.lt_def, BitVec.toNat_add, hpage, hwindow,
    hwindowEnd] at hapart
  have hsum : front.toNat + 2048000 < 2 ^ 32 := by omega
  have hdsum : descriptors.toNat + 4096 < 2 ^ 32 := by omega
  rw [Nat.mod_eq_of_lt hsum] at hhigh
  rw [Nat.mod_eq_of_lt hdsum] at hdhigh hapart
  refine ⟨?_, ?_, halign, ?_, ?_, hdalign, ?_⟩
  all_goals omega

/-- What the kernel takes of the hardware that the loader leaves to its system:
the revision that `esp_chip_info` reported is that of the fuses, and
`i2c_del_master_bus` stopped the clock of the I2C controller. -/
structure ColdReleased (hardware : ColdHardware) : Prop where
  revision : coldSiliconRevision hardware.efuseMacSys2 = 103
  i2c : hardware.socClkCtrl2 &&& i2c0ApbClkEn = 0#32

/-- The device tree asks for the cold contract, the supported revision and the
interrupt of the display's DMA channel. -/
structure ColdDeviceMatches (device : ColdDevice) : Prop where
  abi : device.requiredHandoffAbi = 3
  revision : device.requiredSiliconRevision = 103
  hwirq : device.hwirq = some 18

section Published

variable {crc32 : List Byte → Word} {front descriptors : Word}
  {device : ColdDevice} {hardware : ColdHardware}

theorem validateColdHead_contract (hdevice : ColdDeviceMatches device) :
    validateColdHead crc32 device (coldContract crc32 front descriptors).encode
      (coldContract crc32 front descriptors) = .ok () := by
  have hcrc : crc32 ((coldContract crc32 front descriptors).encode.take
      coldCrcOffset) = (coldContract crc32 front descriptors).crc32 := by
    unfold coldContract
    rw [take_encode_crc32]
  unfold validateColdHead
  rw [hcrc, hdevice.abi, hdevice.revision]
  simp [coldContract, coldContractBody, ColdHandoff.abiVersion,
    ColdHandoff.structSize]

theorem bufferEnd_contract (address : Word) :
    bufferEnd (coldContract crc32 front descriptors) address =
      address.toNat + 2048000 := by
  have hsize : (coldContract crc32 front descriptors).framebufferSize.toNat =
      2048000 := rfl
  rw [bufferEnd, hsize]

theorem validateColdBuffers_contract
    (hreserved : ColdReserved front descriptors) :
    validateColdBuffers (coldContract crc32 front descriptors) = .ok () := by
  obtain ⟨hlow, hhigh, halign, -, -, -, -⟩ := hreserved
  have hback : backbufferAddress.toNat = 0x49300000 := rfl
  have hspare : sparebufferAddress.toNat = 0x49500000 := rfl
  have hpsram : loaderPsramStart.toNat = 0x48000000 := rfl
  have hpsramEnd : loaderPsramEnd.toNat = 0x48400000 := rfl
  have hpool : backbufferPoolEnd.toNat = 0x49700000 := rfl
  have hpages : pageAligned front = true ∧
      pageAligned backbufferAddress = true ∧
      pageAligned sparebufferAddress = true := by
    refine ⟨?_, rfl, rfl⟩
    unfold pageAligned
    rw [halign]
    rfl
  have hfront : (coldContract crc32 front descriptors).framebuffer0 = front :=
    rfl
  have hsecond : (coldContract crc32 front descriptors).framebuffer1 =
      backbufferAddress := rfl
  have hthird : (coldContract crc32 front descriptors).framebuffer2 =
      sparebufferAddress := rfl
  have hheight : (coldContract crc32 front descriptors).height = 1280#32 := rfl
  have hstride : (coldContract crc32 front descriptors).stride = 1600#32 := rfl
  have hsize : (coldContract crc32 front descriptors).framebufferSize =
      coldFrameSize := rfl
  have hslots : (backbufferAddress + 0x00200000#32).toNat = 0x49500000 ∧
      (sparebufferAddress + 0x00200000#32).toNat = 0x49700000 := ⟨rfl, rfl⟩
  have hpoolStart : backbufferPoolStart.toNat = 0x49300000 := rfl
  unfold validateColdBuffers buffersOverlap
  simp only [hfront, hsecond, hthird, hheight, hstride, hsize, hpages.1,
    hpages.2.1, hpages.2.2, hslots.1, hslots.2, bufferEnd_contract,
    BitVec.lt_def, hback, hspare, hpsram, hpsramEnd, hpool, hpoolStart,
    List.any_cons, List.any_nil, Bool.not_true, Bool.or_false,
    Bool.or_eq_true, Bool.and_eq_true, decide_eq_true_eq]
  rw [if_neg (by decide), if_neg (by decide), if_neg (by omega),
    if_neg (by omega), if_neg (by decide), if_neg (by omega),
    if_neg (by omega)]

theorem validateColdDescriptors_contract
    (hreserved : ColdReserved front descriptors) :
    validateColdDescriptors (coldContract crc32 front descriptors) =
      .ok () := by
  obtain ⟨-, -, -, hlow, hhigh, halign, hapart⟩ := hreserved
  have hpage : coldPageSize.toNat = 4096 := rfl
  have hsram : internalSramStart.toNat = 0x4ff00000 := rfl
  have hsramEnd : internalSramEnd.toNat = 0x4ffc0000 := rfl
  have hwindow : dmaWindowStart.toNat = 0x4ff80000 := rfl
  have hwindowEnd : dmaWindowEnd.toNat = 0x4ff82000 := rfl
  have haddress : (coldContract crc32 front descriptors).dmaDescriptorAddress =
      descriptors := rfl
  have hsize : (coldContract crc32 front descriptors).dmaDescriptorSize =
      192#32 := rfl
  have hcount : (coldContract crc32 front descriptors).dmaDescriptorCount =
      3#32 := rfl
  have haligned : pageAligned descriptors = true := by
    unfold pageAligned
    rw [halign]
    rfl
  unfold validateColdDescriptors
  simp only [haddress, hsize, hcount, haligned, hpage, BitVec.lt_def, hsram,
    hsramEnd, hwindow, hwindowEnd, ne_eq, not_true_eq_false, or_false,
    Bool.true_eq_false]
  rw [if_neg (by omega), if_neg (by omega), if_neg (by omega)]

theorem validateColdIrq_contract (hdevice : ColdDeviceMatches device) :
    validateColdIrq device (coldContract crc32 front descriptors) = .ok () := by
  unfold validateColdIrq
  rw [hdevice.hwirq]
  rfl

theorem validateColdPeripherals_contract :
    validateColdPeripherals (coldContract crc32 front descriptors) = .ok () :=
  rfl

theorem mod_of_page_mask {word : Word} (hmask : word &&& 0xfff#32 = 0#32) :
    word.toNat % 4096 = 0 := by
  have hand := congrArg BitVec.toNat hmask
  rw [BitVec.toNat_and] at hand
  have hmod := Nat.and_two_pow_sub_one_eq_mod word.toNat 12
  exact hmod.symm.trans hand

/-- An end on a page boundary is not rounded. -/
theorem alignUp4k_of_mod {word : Word} (hmod : word.toNat % 4096 = 0)
    (hbound : word.toNat + 4095 < 2 ^ 32) :
    alignUp4k word = alignDown4k word := by
  apply BitVec.eq_of_toNat_eq
  rw [alignUp4k_toNat hbound, alignDown4k_toNat]
  omega

variable {registers : PmsRegisters}

theorem regionMatches_verified {display : Option DisplayDmaPolicy}
    (hverified : PmsVerified display registers) (region : Fin dmaRegionCount) :
    regionMatches registers region (regionBounds display region) = true := by
  unfold regionMatches
  rw [hverified.low, hverified.high, Bool.and_eq_true]
  exact ⟨beq_self_eq_true _, beq_self_eq_true _⟩

/-- A region whose ends are rounded is the region of the ends. -/
theorem regionMatches_aligned {region : Fin dmaRegionCount}
    {start finish : Word} (hmod : finish.toNat % 4096 = 0)
    (hbound : finish.toNat + 4095 < 2 ^ 32)
    (hlow : registers (.low region) = alignDown4k start &&& dmaAddrMask)
    (hhigh : registers (.high region) = alignUp4k finish &&& dmaAddrMask) :
    regionMatches registers region (start, finish) = true := by
  rw [alignDown4k_mask] at hlow
  rw [alignUp4k_of_mod hmod hbound, alignDown4k_mask] at hhigh
  unfold regionMatches
  rw [hlow, hhigh, Bool.and_eq_true]
  exact ⟨beq_self_eq_true _, beq_self_eq_true _⟩

/-- The regions that the kernel expects are those that the loader verified. -/
theorem pms_contract (hreserved : ColdReserved front descriptors)
    (hpolicy : policy = displayPolicy front (front + coldFrameSize)
      descriptors (descriptors + coldPageSize) 0#32)
    (hverified : PmsVerified (some policy) hardware.pms) :
    regionMatches hardware.pms 1 (front, front + coldFrameSize) = true ∧
      regionMatches hardware.pms 2 (backbufferPoolStart, backbufferPoolEnd) =
        true ∧
      regionMatches hardware.pms 3 (descriptors, descriptors + coldPageSize) =
        true ∧
      regionMatches hardware.pms 4 (dsiFifoWindowStart, dsiFifoWindowEnd) =
        true := by
  obtain ⟨-, hhigh, halign, -, hdhigh, hdalign, -⟩ := hreserved
  have hmod := mod_of_page_mask halign
  have hdmod := mod_of_page_mask hdalign
  have hsum : (front + coldFrameSize).toNat = front.toNat + 2048000 := by
    rw [BitVec.toNat_add]
    exact Nat.mod_eq_of_lt (by change front.toNat + 2048000 < 2 ^ 32; omega)
  have hdsum : (descriptors + coldPageSize).toNat =
      descriptors.toNat + 4096 := by
    rw [BitVec.toNat_add]
    exact Nat.mod_eq_of_lt (by change descriptors.toNat + 4096 < 2 ^ 32; omega)
  subst hpolicy
  refine ⟨regionMatches_aligned ?_ ?_ (hverified.low 1) (hverified.high 1),
    ?_, regionMatches_aligned ?_ ?_ (hverified.low 3) (hverified.high 3), ?_⟩
  · omega
  · omega
  · exact regionMatches_verified hverified 2
  · omega
  · omega
  · exact regionMatches_verified hverified 4

/-- A register in which a bit is not clear has the bit. -/
theorem and_bit_of_ne_zero {word : Word} {position : Nat}
    (hset : word &&& (1#32 <<< position) ≠ 0#32) :
    word &&& (1#32 <<< position) = 1#32 <<< position := by
  have hother : ∀ index ≠ position,
      (1#32 <<< position).getLsbD index = false := by
    intro index hne
    simp only [BitVec.getLsbD_shiftLeft, BitVec.getLsbD_one,
      Bool.and_eq_false_imp]
    simp
    omega
  have hbit : word.getLsbD position = true := by
    by_contra hclear
    apply hset
    apply BitVec.eq_of_getLsbD_eq
    intro index hindex
    rw [BitVec.getLsbD_and]
    by_cases heq : index = position
    · subst heq
      simp [hclear]
    · rw [hother index heq, Bool.and_false, BitVec.getLsbD_zero]
  apply BitVec.eq_of_getLsbD_eq
  intro index hindex
  rw [BitVec.getLsbD_and]
  by_cases heq : index = position
  · subst heq
    rw [hbit, Bool.true_and]
  · rw [hother index heq, Bool.and_false]

theorem validateColdHardware_contract (hdevice : ColdDeviceMatches device)
    (hreleased : ColdReleased hardware)
    (hreserved : ColdReserved front descriptors)
    (hpolicy : policy = displayPolicy front (front + coldFrameSize)
      descriptors (descriptors + coldPageSize) 0#32)
    (hverified : PmsVerified (some policy) hardware.pms)
    (hstate : coldResetAndClockStateMatches hardware = true)
    (hzero : descriptorPageZero hardware descriptors = true)
    (hroute : hardware.gdmaRoute &&& 0x3f#32 = 18#32) :
    validateColdHardware device (coldContract crc32 front descriptors)
      hardware = .ok () := by
  obtain ⟨hfirst, hsecond, hthird, hfourth⟩ :=
    pms_contract hreserved hpolicy hverified
  have hread : hardware.pms (.permission (.gdma 0) .read) = gdmaReadMask := by
    rw [hverified.permission, hpolicy]
    rfl
  have hwrite : hardware.pms (.permission (.gdma 0) .write) =
      gdmaWriteMask := by
    rw [hverified.permission, hpolicy]
    rfl
  have hfront : (coldContract crc32 front descriptors).framebuffer0 = front :=
    rfl
  have hsize : (coldContract crc32 front descriptors).framebufferSize =
      coldFrameSize := rfl
  have haddress : (coldContract crc32 front descriptors).dmaDescriptorAddress =
      descriptors := rfl
  have hclic : (coldContract crc32 front descriptors).gdmaClicIrq = 18#32 :=
    rfl
  unfold coldResetAndClockStateMatches at hstate
  simp only [Bool.and_eq_true, bne_iff_ne, beq_iff_eq] at hstate
  obtain ⟨⟨⟨⟨⟨hbridge, hgdma⟩, hcpu⟩, hsys⟩, hperi⟩, hldo⟩ := hstate
  have hreset : hardware.hpRstEn0 &&& (gdmaReset ||| dsiBridgeReset) =
      gdmaReset ||| dsiBridgeReset := by
    rw [BitVec.and_or_distrib_left, gdmaReset, dsiBridgeReset,
      and_bit_of_ne_zero hgdma, and_bit_of_ne_zero hbridge]
  have hclocks : hardware.periClkCtrl03 &&&
      (dsiDphyCfgClkEn ||| dsiDphyPllRefclkEn ||| dsiDpiClkEn) = 0#32 := hperi
  unfold validateColdHardware
  simp only [hfront, hsize, haddress, hclic, hreleased.revision,
    hdevice.revision, hreset, hcpu, hsys, hclocks, hldo, hreleased.i2c,
    hroute, hfirst, hsecond, hthird, hfourth, hread, hwrite, hzero, ne_eq,
    not_true_eq_false, or_self, if_false, beq_self_eq_true, Bool.and_self,
    Bool.not_true, Bool.false_eq_true]

end Published

def InBuffer (handoff : ColdHandoff) (start : Word) (address : Nat) : Prop :=
  start.toNat ≤ address ∧ address < bufferEnd handoff start

def InDescriptorPage (handoff : ColdHandoff) (address : Nat) : Prop :=
  handoff.dmaDescriptorAddress.toNat ≤ address ∧
    address < handoff.dmaDescriptorAddress.toNat + coldPageSize.toNat

/-- The three buffers do not meet and are in their pools, and the page of the
descriptors is in internal SRAM apart from the window of the SD host. -/
structure ColdPlaced (handoff : ColdHandoff) : Prop where
  size : handoff.framebufferSize = coldFrameSize
  apart : [handoff.framebuffer0, handoff.framebuffer1,
      handoff.framebuffer2].Pairwise fun first second =>
    ∀ address, ¬ (InBuffer handoff first address ∧
      InBuffer handoff second address)
  front : ∀ address, InBuffer handoff handoff.framebuffer0 address →
    loaderPsramStart.toNat ≤ address ∧ address < loaderPsramEnd.toNat
  pool : ∀ start ∈ [handoff.framebuffer1, handoff.framebuffer2],
    ∀ address, InBuffer handoff start address →
      backbufferPoolStart.toNat ≤ address ∧ address < backbufferPoolEnd.toNat
  sram : ∀ address, InDescriptorPage handoff address →
    internalSramStart.toNat ≤ address ∧ address < internalSramEnd.toNat
  window : ∀ address, InDescriptorPage handoff address →
    ¬ (dmaWindowStart.toNat ≤ address ∧ address < dmaWindowEnd.toNat)


/-- A check passes before the checks after it. -/
theorem validateHandoffV3_parts {crc32 : List Byte → Word}
    {device : ColdDevice} {hardware : ColdHardware} {bytes : List Byte}
    (hvalid : validateHandoffV3 crc32 device hardware bytes = .ok ()) :
    validateColdBuffers (decodeColdHandoff bytes) = .ok () ∧
      validateColdDescriptors (decodeColdHandoff bytes) = .ok () := by
  unfold validateHandoffV3 at hvalid
  obtain ⟨_, -, hvalid⟩ := Fallible.bind_eq_ok.mp hvalid
  obtain ⟨_, hbuffers, hvalid⟩ := Fallible.bind_eq_ok.mp hvalid
  obtain ⟨_, hdescriptors, -⟩ := Fallible.bind_eq_ok.mp hvalid
  exact ⟨hbuffers, hdescriptors⟩

theorem ColdPlaced.of_validate {handoff : ColdHandoff}
    (hbuffers : validateColdBuffers handoff = .ok ())
    (hdescriptors : validateColdDescriptors handoff = .ok ()) :
    ColdPlaced handoff := by
  unfold validateColdBuffers at hbuffers
  unfold validateColdDescriptors at hdescriptors
  dsimp only at hbuffers hdescriptors
  split_ifs at hbuffers with hover hsize hbounds hfront hlayout hpool hoverlap
  split_ifs at hdescriptors with hdover hdbounds hwindow
  simp only [not_or, not_not, BitVec.lt_def, Nat.not_lt] at hsize hfront
  simp only [List.any_cons, List.any_nil, Bool.or_false, Bool.or_eq_true,
    decide_eq_true_eq, not_or, BitVec.lt_def, Nat.not_lt] at hpool
  simp only [buffersOverlap, Bool.or_eq_true, Bool.and_eq_true,
    decide_eq_true_eq, not_or, not_and, Nat.not_lt] at hoverlap
  simp only [not_or, not_not, BitVec.lt_def, Nat.not_lt] at hdbounds
  simp only [not_and, BitVec.lt_def, Nat.not_lt] at hwindow
  obtain ⟨⟨hfirst, hsecond⟩, hthird⟩ := hoverlap
  refine ⟨hsize.2.trans hsize.1, ?_, ?_, ?_, ?_, ?_⟩
  · have hapart : ∀ first second : Word,
        (first.toNat < bufferEnd handoff second →
          bufferEnd handoff first ≤ second.toNat) →
        ∀ address, ¬ (InBuffer handoff first address ∧
          InBuffer handoff second address) := by
      rintro first second hends address ⟨⟨hlow, hhigh⟩, hlow', hhigh'⟩
      have hmeet := hends (hlow.trans_lt hhigh')
      omega
    rw [List.pairwise_cons, List.pairwise_cons, List.forall_mem_cons,
      List.forall_mem_singleton, List.forall_mem_singleton]
    exact ⟨⟨hapart _ _ hfirst, hapart _ _ hsecond⟩, hapart _ _ hthird,
      List.pairwise_singleton _ _⟩
  · rintro address ⟨hstart, hend⟩
    omega
  · intro start hstart address haddress
    unfold InBuffer at haddress
    simp only [List.mem_cons, List.not_mem_nil, or_false] at hstart
    rcases hstart with rfl | rfl
    · omega
    · omega
  · rintro address ⟨hstart, hend⟩
    omega
  · rintro address ⟨hstart, hend⟩
    omega

/-- The kernel accepts the contract that the loader publishes, for every front
buffer and descriptor page that the loader reserved and the permissions that it
verified.  It accepts no bytes whose buffers meet or leave their pools, or whose
descriptor page leaves internal SRAM or meets the window of the SD host. -/
theorem validateHandoffV3_published (espRomCrc32Le crc32Le : List Byte → Word)
    (hcrc : ∀ bytes, espRomCrc32Le bytes = crc32Le bytes) :
    (∀ (loader : ColdLoader) (policy : DisplayDmaPolicy)
      (write : PmsRegisters → PmsRegister → Word → PmsRegisters)
      (before : PmsRegisters) (hardware : ColdHardware) (device : ColdDevice)
      (staged : List Byte),
      coldReserveDmaMemory loader.frontbuffer loader.descriptorPool =
        some policy →
      dmaPmsPrepare true write (some policy) before = some hardware.pms →
      coldStage espRomCrc32Le hardware loader = some staged →
      ColdDeviceMatches device → ColdReleased hardware →
      validateHandoffV3 crc32Le device hardware (coldCommit staged) = .ok ()) ∧
    ∀ (hardware : ColdHardware) (device : ColdDevice) (bytes : List Byte),
      validateHandoffV3 crc32Le device hardware bytes = .ok () →
        ColdPlaced (decodeColdHandoff bytes) := by
  obtain rfl : espRomCrc32Le = crc32Le := funext hcrc
  constructor
  · intro loader policy write before hardware device staged hreserve hprepare
      hstage hdevice hreleased
    obtain ⟨hreserved, hpolicy⟩ := coldReserveDmaMemory_reserved hreserve
    have hverified := dmaPmsPrepare_verified hprepare
    unfold coldStage at hstage
    dsimp only at hstage
    split_ifs at hstage with hready hstate hzero hroute
    cases hstage
    rw [coldCommit_staged _ rfl]
    unfold validateHandoffV3
    dsimp only
    rw [decodeColdHandoff_encode, validateColdHead_contract hdevice,
      validateColdBuffers_contract hreserved,
      validateColdDescriptors_contract hreserved,
      validateColdIrq_contract hdevice, validateColdPeripherals_contract,
      validateColdHardware_contract hdevice hreleased hreserved hpolicy
        hverified (by simpa using hstate) (by simpa using hzero)
        (by simpa using hroute)]
    rfl
  · intro hardware device bytes hvalid
    obtain ⟨hbuffers, hdescriptors⟩ := validateHandoffV3_parts hvalid
    exact .of_validate hbuffers hdescriptors

def quiescedHardware (registers : PmsRegisters) : ColdHardware where
  hpRstEn0 := gdmaReset ||| dsiBridgeReset
  socClkCtrl0 := 0#32
  socClkCtrl1 := 0#32
  socClkCtrl2 := 0#32
  periClkCtrl03 := 0#32
  extLdo := 0#32
  gdmaRoute := 18#32
  efuseMacSys2 := 0x13#32
  pms := registers
  memory := fun _ => 0#8

/-- The loader after it has reserved the buffers of `coldPolicy`. -/
def readyLoader : ColdLoader where
  frontbuffer := 0x48100000#32
  descriptorPool := 0x4ff10000#32
  dmaPolicyReady := true
  handoffReady := true

theorem readyLoader_stage (crc32 : List Byte → Word)
    (registers : PmsRegisters) :
    ∃ staged, coldStage crc32 (quiescedHardware registers) readyLoader =
      some staged := by
  have hstate : coldResetAndClockStateMatches (quiescedHardware registers) =
      true := by
    dsimp only [coldResetAndClockStateMatches, quiescedHardware]
    decide
  have hroute : (quiescedHardware registers).gdmaRoute &&& 0x3f#32 = 18#32 := by
    dsimp only [quiescedHardware]
    decide
  have hzero : ∀ descriptors,
      descriptorPageZero (quiescedHardware registers) descriptors = true := by
    intro descriptors
    unfold descriptorPageZero ByteMemory.load
    rw [List.all_eq_true]
    intro byte hbyte
    obtain ⟨_, -, rfl⟩ := List.mem_map.mp hbyte
    rfl
  unfold coldStage
  dsimp only
  rw [hstate, hzero, hroute, if_neg (by decide), if_neg (by decide),
    if_neg (by decide), if_neg (not_not_intro rfl)]
  exact ⟨_, rfl⟩

/-- A contract that is published and accepted. -/
theorem readyLoader_published : ∃ registers staged,
    dmaPmsPrepare true keepWrites (some coldPolicy) (fun _ => 0#32) =
        some registers ∧
      coldStage Checksum.crc32 (quiescedHardware registers) readyLoader =
        some staged ∧
      validateHandoffV3 Checksum.crc32 ⟨3, 103, some 18⟩
        (quiescedHardware registers) (coldCommit staged) = .ok () := by
  obtain ⟨registers, hprepare⟩ := Option.isSome_iff_exists.mp
    coldPolicy_prepared
  obtain ⟨staged, hstaged⟩ := readyLoader_stage Checksum.crc32 registers
  have hreserve : coldReserveDmaMemory readyLoader.frontbuffer
      readyLoader.descriptorPool = some coldPolicy := by decide
  have hrevision : coldSiliconRevision 0x13#32 = 103 := by decide
  have hpublished := validateHandoffV3_published Checksum.crc32
    Checksum.crc32 (fun _ => rfl)
  exact ⟨registers, staged, hprepare, hstaged,
    hpublished.1 readyLoader coldPolicy keepWrites (fun _ => 0#32)
      (quiescedHardware registers) ⟨3, 103, some 18⟩ staged hreserve hprepare
      hstaged ⟨rfl, rfl, rfl⟩ ⟨hrevision, BitVec.zero_and⟩⟩

end Micronux
