/-
What is in memory when the loader jumps to the kernel, for every contents of
the partitions and every layout of the heap.
-/
import Micronux.PayloadPack

namespace Micronux

open ByteMemory

/-- The partitions, with the sizes of the partition table. -/
structure Flashed (input : LoaderInput) (metadata linux dtb : List Byte) :
    Prop where
  hasMetadata : input.metadata = some metadata
  hasLinux : input.linux = some linux
  hasDtb : input.dtb = some dtb
  metadataSize : metadata.length = 0x10000
  linuxSize : linux.length = 0x600000
  dtbSize : dtb.length = 0x200000

def Apart (first second : Nat × Nat) : Prop :=
  first.1 + first.2 ≤ second.1 ∨ second.1 + second.2 ≤ first.1

def InBlock (place : Nat) (block : Nat × Nat) : Prop :=
  block.1 ≤ place ∧ place < block.1 + block.2

/-- The blocks of the heap are apart: the device tree's, the kernel's and the
framebuffer's, on which the progress is drawn.  The display handoff writes to
the framebuffer and to the region of the contract. -/
structure HeapApart (input : LoaderInput) (loaded : LoadedPayload)
    (frame : Nat × Nat) : Prop where
  kernelDtb : Apart (loaded.dtb, loaded.dtbAllocation)
    (kernelVaddr, loaded.kernelAllocation)
  frameDtb : Apart frame (loaded.dtb, loaded.dtbAllocation)
  frameKernel : Apart frame (kernelVaddr, loaded.kernelAllocation)
  draws : ∀ percent, ∀ cell ∈ input.draws percent, InBlock cell.1 frame
  handoff : ∀ cells, input.handoff = some cells → ∀ cell ∈ cells,
    InBlock cell.1 frame ∨ InBlock cell.1 (commsVaddr, psramEnd - commsVaddr)

variable {block frame : Nat × Nat} {memory : LoaderMemory}
  {loaded : LoadedPayload} {digests : Digests} {input : LoaderInput}

/-- A cell of a block misses the blocks apart from it. -/
theorem Apart.miss {place : Nat} (hapart : Apart frame block)
    (hplace : InBlock place frame) :
    place < block.1 ∨ block.1 + block.2 ≤ place := by
  unfold Apart at hapart
  unfold InBlock at hplace
  omega

theorem Apart.clear {cells : List (Nat × Byte)} (hapart : Apart frame block)
    (hcells : ∀ cell ∈ cells, InBlock cell.1 frame) :
    Clear block.1 block.2 cells :=
  fun cell hcell => hapart.miss (hcells cell hcell)

theorem loadPayload_ok {earlyDeny : Bool} {metadata linux dtb : List Byte}
    (hflashed : Flashed input metadata linux dtb)
    (hload : loadPayload digests earlyDeny input memory = .ok loaded) :
    ValidManifest digests earlyDeny metadata loaded.payload ∧
      loaded.payload.kernelFileSize.toNat ≤ linux.length ∧
      loaded.payload.dtbSize.toNat ≤ dtb.length ∧
      ∃ loading, loadDtb digests input loaded.payload dtb
          (scatter memory (input.draws 10)) =
            .ok (loaded.dtb, loaded.dtbAllocation, loading) ∧
        loadKernelPayload digests earlyDeny input loaded.payload linux loading =
          .ok (loaded.kernelAllocation, loaded.loading) := by
  unfold loadPayload at hload
  cases hvalid : validateManifest digests earlyDeny input with
  | error failure =>
    rw [hvalid] at hload
    cases hload
  | ok payload =>
    rw [hvalid, hflashed.hasLinux, hflashed.hasDtb] at hload
    simp only [bind, Except.bind] at hload
    split_ifs at hload with hlinux hdtb
    cases htree : loadDtb digests input payload dtb
        (scatter memory (input.draws 10)) with
    | error failure =>
      rw [htree] at hload
      cases hload
    | ok tree =>
      obtain ⟨place, allocation, loading⟩ := tree
      rw [htree] at hload
      dsimp only at hload
      cases hkernel : loadKernelPayload digests earlyDeny input payload
          linux loading with
      | error failure =>
        rw [hkernel] at hload
        cases hload
      | ok kernel =>
        rw [hkernel] at hload
        cases hload
        exact ⟨validateManifest_ok hflashed.hasMetadata hvalid,
          Nat.not_lt.mp hlinux, Nat.not_lt.mp hdtb, loading, htree,
          hkernel⟩

/-- After the payload is checked, the loader only draws and writes the handoff. -/
theorem appMain_ok {earlyDeny : Bool}
    (hmain : appMain digests earlyDeny input memory = .ok loaded) :
    ∃ checked cells, loadPayload digests earlyDeny input memory =
        .ok checked ∧ input.handoff = some cells ∧
      loaded = { checked with loading := ((checked.loading.draw
        (input.draws 92)).draw (input.draws 100)).draw cells } := by
  unfold appMain at hmain
  cases hload : loadPayload digests earlyDeny input memory with
  | error failure =>
    rw [hload] at hmain
    cases hmain
  | ok checked =>
    rw [hload] at hmain
    simp only [bind, Except.bind] at hmain
    split at hmain
    · cases hmain
    · split_ifs at hmain
      split at hmain
      · cases hmain
      · rename_i cells hcells
        cases hmain
        exact ⟨checked, cells, rfl, hcells, rfl⟩

/-- Whenever the loader jumps, the writes through the pointer to the kernel were
below the display pool, the kernel and the device tree in memory are those of
the partitions with the hashes of the manifest, the device tree is below the
kernel, and the manifest has its checksum. -/
theorem appMain_jumps_loaded (digests : Digests) (input : LoaderInput)
    (memory : LoaderMemory) (loaded : LoadedPayload)
    (metadata linux dtb : List Byte) (frame : Nat × Nat)
    (hflashed : Flashed input metadata linux dtb)
    (hmain : appMain digests true input memory = .ok loaded)
    (hheap : HeapApart input loaded frame) :
    (∀ write ∈ loaded.loading.kernelWrites,
      kernelVaddr ≤ write.1 ∧ write.1 + write.2 ≤ displayPoolVaddr) ∧
    load loaded.loading.memory kernelVaddr
        loaded.payload.kernelMemorySize.toNat =
      linux.take loaded.payload.kernelFileSize.toNat ++ List.replicate
        (loaded.payload.kernelMemorySize.toNat -
          loaded.payload.kernelFileSize.toNat) 0#8 ∧
    digests.sha256 (linux.take loaded.payload.kernelFileSize.toNat) =
      loaded.payload.kernelSha256 ∧
    loaded.dtb + loaded.dtbAllocation ≤ kernelVaddr ∧
    loaded.dtbAllocation = (loaded.payload.dtbSize.toNat + 127) / 128 * 128 ∧
    load loaded.loading.memory loaded.dtb loaded.dtbAllocation =
      dtb.take loaded.payload.dtbSize.toNat ++ List.replicate
        (loaded.dtbAllocation - loaded.payload.dtbSize.toNat) 0#8 ∧
    (dtb.take loaded.payload.dtbSize.toNat).take 4 = fdtMagic ∧
    digests.sha256 (dtb.take loaded.payload.dtbSize.toNat) =
      loaded.payload.dtbSha256 ∧
    loaded.payload = decodeManifest (metadata.take payloadSize) ∧
    loaded.payload.crc32 = digests.crc32 (metadata.take payloadCrcOffset) := by
  obtain ⟨checked, cells, hload, hcells, rfl⟩ := appMain_ok hmain
  obtain ⟨hvalid, hlinux, hdtb, loading, htree, hkernel⟩ :=
    loadPayload_ok hflashed hload
  have hspan : kernelVaddr + checked.payload.kernelMemorySize.toNat ≤
      displayPoolVaddr := hvalid.span
  have hsize : checked.payload.dtbSize.toNat + 127 < 2 ^ 32 := by
    have hpartition := hflashed.dtbSize
    omega
  have hdtbDraws := fun percent => hheap.frameDtb.clear (hheap.draws percent)
  have hkernelDraws :=
    fun percent => hheap.frameKernel.clear (hheap.draws percent)
  obtain ⟨-, hbelow, hallocation, hwrites⟩ := loadDtb_place htree
  have htreeLoaded :=
    loadDtb_ok hsize hvalid.dtb hdtb (hdtbDraws 20) htree
  have hround := alignUp_cache hsize
  -- the device tree starts below the kernel, so it ends below it too
  have hend : checked.dtb + checked.dtbAllocation ≤ kernelVaddr := by
    rcases hheap.kernelDtb with hbefore | hafter
    · exact hbefore
    · exact absurd (Nat.le_trans (Nat.le_add_right _ _) hafter)
        (Nat.not_le.mpr hbelow)
  obtain ⟨hwithin, hallocated, hkernelLoaded, hkept⟩ := loadKernelPayload_ok
    hvalid hlinux hwrites hkernelDraws hdtbDraws hend hkernel
  have hdtbCells : Clear checked.dtb checked.dtbAllocation cells := by
    intro cell hcell
    rcases hheap.handoff cells hcells cell hcell with hframe | hcomms
    · exact hheap.frameDtb.miss hframe
    · have hcomms' : commsVaddr ≤ cell.1 := hcomms.1
      unfold commsVaddr at hcomms'
      unfold kernelVaddr at hend
      omega
  have hkernelCells : Clear kernelVaddr
      checked.payload.kernelMemorySize.toNat cells := by
    intro cell hcell
    rcases hheap.handoff cells hcells cell hcell with hframe | hcomms
    · have hmiss : cell.1 < kernelVaddr ∨
          kernelVaddr + checked.kernelAllocation ≤ cell.1 :=
        hheap.frameKernel.miss hframe
      have hfits : checked.payload.kernelMemorySize.toNat ≤
          checked.kernelAllocation := hallocated
      omega
    · have hcomms' : commsVaddr ≤ cell.1 := hcomms.1
      unfold commsVaddr at hcomms'
      unfold displayPoolVaddr at hspan
      omega
  refine ⟨hwithin, ?_, hkernelLoaded.hash, hend, hallocation.trans hround, ?_,
    htreeLoaded.magic, htreeLoaded.hash, hvalid.decoded, hvalid.crc⟩
  · rw [load_draw _ hkernelCells,
      load_draw _ ((hkernelDraws 100).mono hallocated),
      load_draw _ ((hkernelDraws 92).mono hallocated)]
    exact hkernelLoaded.bytes
  · rw [load_draw _ hdtbCells, load_draw _ (hdtbDraws 100),
      load_draw _ (hdtbDraws 92), hkept]
    exact htreeLoaded.bytes

/-- The small payload, in partitions of the sizes of the table. -/
def tableInput : LoaderInput :=
  smallInput (0x10000 - 128) (0x600000 - 64) (0x200000 - 40)

theorem tableInput_flashed : Flashed tableInput
    (smallManifest ++ List.replicate (0x10000 - 128) 0xff#8)
    (smallImage ++ List.replicate (0x600000 - 64) 0xff#8)
    (smallDtb ++ List.replicate (0x200000 - 40) 0xff#8) := by
  have hmanifest : smallManifest.length = 128 := by decide +kernel
  have himage : smallImage.length = 64 := by decide
  have hdtb : smallDtb.length = 40 := by decide
  refine ⟨rfl, rfl, rfl, ?_, ?_, ?_⟩
  · rw [List.length_append, hmanifest, List.length_replicate]
  · rw [List.length_append, himage, List.length_replicate]
  · rw [List.length_append, hdtb, List.length_replicate]

/-- The loader jumps with the small payload, and its blocks are apart. -/
theorem tableInput_jumps : ∃ loaded,
    appMain standardDigests true tableInput (fun _ => 0#8) = .ok loaded ∧
      HeapApart tableInput loaded (0x48010000, 1) := by
  obtain ⟨checked, hload⟩ := loadPayload_packed pack_small
    (smallInput_installed (0x10000 - 128) (0x600000 - 64) (0x200000 - 40))
    (fun _ => 0#8)
  obtain ⟨memorySize, -, hpacked⟩ := pack_ok pack_small
  obtain ⟨hvalid, -, hdtb, loading, htree, -⟩ :=
    loadPayload_ok tableInput_flashed hload
  have hpayload : checked.payload = decodeManifest smallManifest := by
    rw [hvalid.decoded, List.take_left' hpacked.length]
  have hsize : checked.payload.dtbSize.toNat = 40 := by
    rw [hpayload, hpacked.tree]
    decide
  obtain ⟨hplace, -, hallocation, -⟩ := loadDtb_place htree
  have hdtbPlace : checked.dtb = 0x48001000 := (Option.some.inj hplace).symm
  rw [alignUp_cache (by omega), hsize] at hallocation
  have hmain : appMain standardDigests true tableInput (fun _ => 0#8) =
      .ok { checked with loading := (((checked.loading.draw
        (tableInput.draws 92)).draw (tableInput.draws 100)).draw
          smallHandoff) } := by
    unfold appMain tableInput
    rw [hload]
    rfl
  refine ⟨_, hmain, .inl ?_, .inr ?_, .inl ?_, ?_, ?_⟩
  · show checked.dtb + checked.dtbAllocation ≤ kernelVaddr
    unfold kernelVaddr
    omega
  · show checked.dtb + checked.dtbAllocation ≤ 0x48010000
    omega
  · show 0x48010000 + 1 ≤ kernelVaddr
    decide
  · intro percent cell hcell
    obtain rfl := List.mem_singleton.mp hcell
    exact ⟨le_rfl, Nat.lt_succ_self _⟩
  · intro cells hcells cell hcell
    obtain rfl := Option.some.inj hcells
    obtain rfl := List.mem_singleton.mp hcell
    exact .inr ⟨le_rfl, by decide⟩

theorem tableInput_jumps_loaded : ∃ loaded,
    appMain standardDigests true tableInput (fun _ => 0#8) = .ok loaded ∧
      load loaded.loading.memory kernelVaddr
          loaded.payload.kernelMemorySize.toNat =
        (smallImage ++ List.replicate (0x600000 - 64) 0xff#8).take
            loaded.payload.kernelFileSize.toNat ++
          List.replicate (loaded.payload.kernelMemorySize.toNat -
            loaded.payload.kernelFileSize.toNat) 0#8 := by
  obtain ⟨loaded, hmain, hheap⟩ := tableInput_jumps
  exact ⟨loaded, hmain, (appMain_jumps_loaded standardDigests tableInput _
    loaded _ _ _ _ tableInput_flashed hmain hheap).2.1⟩

end Micronux
