/-
What the loader has in memory when it jumps to the kernel.  Each stage of
`app_main` is followed by what it wrote, where it wrote it, and that it left
the other blocks alone.
-/
import Mathlib.Tactic.IntervalCases
import Micronux.Payload

namespace Micronux

open ByteMemory

theorem alignUp_cache {value : Word} (hvalue : value.toNat + 127 < 2 ^ 32) :
    (alignUp value cacheAlignment).toNat = (value.toNat + 127) / 128 * 128 := by
  have hsum : value + cacheAlignment - 1#32 = value + 127#32 := by
    unfold cacheAlignment
    bv_omega
  have hmask : ∀ word : Word, (word &&& ~~~(cacheAlignment - 1#32)) =
      (word >>> 7) <<< 7 := by
    intro word
    apply BitVec.eq_of_getLsbD_eq
    intro index hindex
    interval_cases index <;> simp [cacheAlignment]
  unfold alignUp
  rw [hsum, hmask, BitVec.toNat_shiftLeft, BitVec.toNat_ushiftRight,
    BitVec.toNat_add]
  simp only [BitVec.toNat_ofNat, Nat.shiftRight_eq_div_pow, Nat.shiftLeft_eq]
  omega

/-- Single stores that miss a block. -/
def Clear (start length : Nat) (cells : List (Nat × Byte)) : Prop :=
  ∀ cell ∈ cells, cell.1 < start ∨ start + length ≤ cell.1

/-- The writes through the pointer to the kernel stay in a block. -/
def Loading.Within (low high : Nat) (loading : Loading) : Prop :=
  ∀ write ∈ loading.kernelWrites, low ≤ write.1 ∧ write.1 + write.2 ≤ high

/-- A stage of the loader writes through the pointer to the kernel only inside
`[low, high)`, and leaves a block outside alone. -/
structure Stage (low high : Nat) (before after : Loading) : Prop where
  inside : before.Within low high → after.Within low high
  apart : ∀ start length, start + length ≤ low ∨ high ≤ start →
    load after.memory start length = load before.memory start length

variable {loading : Loading} {payload : PayloadManifest} {linux : List Byte}
  {allocation low length high start : Nat} {digests : Digests}
  {input : LoaderInput}

theorem Stage.refl (loading : Loading) :
    Stage low high loading loading :=
  ⟨fun hwithin => hwithin, fun _ _ _ => rfl⟩

theorem Stage.trans {first second third : Loading}
    (hfirst : Stage low high first second)
    (hsecond : Stage low high second third) : Stage low high first third :=
  ⟨fun hwithin => hsecond.inside (hfirst.inside hwithin),
    fun start length hapart => (hsecond.apart start length hapart).trans
      (hfirst.apart start length hapart)⟩

theorem writeKernel_stage {address : Nat} {data : List Byte} (loading : Loading)
    (hlow : low ≤ address) (hhigh : address + data.length ≤ high) :
    Stage low high loading (loading.writeKernel address data) := by
  refine ⟨fun hwithin write hwrite => ?_, fun start length hapart => ?_⟩
  · rcases List.mem_cons.mp hwrite with rfl | hearlier
    · exact ⟨hlow, hhigh⟩
    · exact hwithin write hearlier
  · apply load_store_apart
    omega

theorem testPattern_length (index : Nat) : (testPattern index).length = 4 :=
  rfl

/-- The fill stays in the buffer. -/
theorem fillKernelBuffer_stage {kernel : Nat} (words : Nat) (loading : Loading)
    (hlow : low ≤ kernel) (hhigh : kernel + 4 * words ≤ high) :
    Stage low high loading (fillKernelBuffer kernel words loading) := by
  induction words with
  | zero => exact .refl loading
  | succ words ih =>
    unfold fillKernelBuffer at ih ⊢
    rw [List.range_succ, List.foldl_append]
    refine (ih (by omega)).trans (writeKernel_stage _ (by omega) ?_)
    rw [testPattern_length]
    omega

/-- The buffer holds the pattern after the fill. -/
theorem kernelBufferHolds_fill (kernel words : Nat) (loading : Loading) :
    kernelBufferHolds kernel words
      (fillKernelBuffer kernel words loading).memory = true := by
  induction words with
  | zero => rfl
  | succ words ih =>
    have hfill : fillKernelBuffer kernel (words + 1) loading =
        (fillKernelBuffer kernel words loading).writeKernel
          (kernel + 4 * words) (testPattern words) := by
      unfold fillKernelBuffer
      rw [List.range_succ, List.foldl_append]
      rfl
    rw [hfill]
    unfold kernelBufferHolds at ih ⊢
    rw [List.all_eq_true] at ih ⊢
    intro index hindex
    rw [List.mem_range] at hindex
    rw [beq_iff_eq]
    by_cases hlast : index = words
    · subst index
      exact load_store_self
    · have hearlier := ih index (List.mem_range.mpr (by omega))
      rw [beq_iff_eq] at hearlier
      refine Eq.trans (load_store_apart (.inl ?_)) hearlier
      omega

variable {cells : List (Nat × Byte)} {contents metadata : List Byte}
  {memory : LoaderMemory}

theorem load_draw (loading : Loading) (hclear : Clear start length cells) :
    load (loading.draw cells).memory start length =
      load loading.memory start length :=
  load_scatter hclear

/-- `load_kernel` fills the kernel from the partition, and leaves a block below
the kernel alone that nothing is drawn on. -/
theorem loadKernel_ok {kernel size offset : Nat} {loaded : Loading}
    (hlinux : size ≤ linux.length) (hhigh : kernel + size ≤ high)
    (hoffset : offset ≤ size)
    (hkernel : ∀ percent, Clear kernel size (input.draws percent))
    (hblock : ∀ percent, Clear start length (input.draws percent))
    (hbelow : start + length ≤ kernel)
    (hfilled : load loading.memory kernel offset = linux.take offset)
    (hload : loadKernel input linux kernel size offset loading = .ok loaded) :
    load loaded.memory kernel size = linux.take size ∧
      (loading.Within kernel high → loaded.Within kernel high) ∧
      load loaded.memory start length = load loading.memory start length := by
  induction hrest : size - offset using Nat.strong_induction_on
    generalizing offset loading with
  | h rest ih =>
    unfold loadKernel at hload
    split at hload
    · rename_i hmore
      dsimp only at hload
      split at hload
      · set chunk := min (size - offset) kernelReadChunk with hchunk
        have hpositive : 0 < chunk := by
          rw [hchunk, Nat.lt_min]
          exact ⟨by omega, by decide⟩
        have hfits : chunk ≤ size - offset := Nat.min_le_left _ _
        set data := (linux.drop offset).take chunk with hdata
        have hlength : data.length = chunk := by
          rw [hdata, List.length_take, List.length_drop]
          omega
        set written := loading.writeKernel (kernel + offset) data with hwritten
        set cells := input.draws (30 + (offset + chunk) * 50 / size) with hcells
        have hstage : Stage kernel high loading written :=
          writeKernel_stage loading (by omega) (by omega)
        have hnext : load (written.draw cells).memory kernel (offset + chunk) =
            linux.take (offset + chunk) := by
          have hclear : Clear kernel (offset + chunk) cells := by
            intro cell hcell
            have hsize := hkernel _ cell hcell
            omega
          rw [load_draw written hclear, load_append, List.take_add, ← hdata]
          congr 1
          · rw [← hfilled]
            exact load_store_apart (.inl (by omega))
          · exact load_store_eq hlength
        obtain ⟨hfull, hwithin, hkept⟩ := ih (size - (offset + chunk))
          (by omega) (by omega) hnext hload rfl
        refine ⟨hfull, fun hstart => hwithin (hstage.inside hstart), ?_⟩
        rw [hkept, load_draw written (hblock _)]
        exact hstage.apart start length (.inl hbelow)
      · cases hload
    · rename_i hdone
      cases hload
      obtain rfl : offset = size := by omega
      exact ⟨hfilled, fun hstart => hstart, rfl⟩

/-- A part of a block is missed by what misses the block. -/
theorem Clear.mono {shorter : Nat} (hclear : Clear start length cells)
    (hle : shorter ≤ length) :
    Clear start shorter cells := by
  intro cell hcell
  have hcell := hclear cell hcell
  omega

/-- What a valid manifest says. -/
structure ValidManifest (digests : Digests) (earlyDeny : Bool)
    (metadata : List Byte) (payload : PayloadManifest) : Prop where
  decoded : payload = decodeManifest (metadata.take payloadSize)
  crc : payload.crc32 = digests.crc32 (metadata.take payloadCrcOffset)
  load : payload.kernelLoadVaddr.toNat = kernelVaddr
  file : 0 < payload.kernelFileSize.toNat
  memory : payload.kernelFileSize.toNat ≤ payload.kernelMemorySize.toNat
  dtb : 40 ≤ payload.dtbSize.toNat
  span : kernelVaddr + payload.kernelMemorySize.toNat ≤ kernelCeiling earlyDeny

theorem validateManifest_ok {earlyDeny : Bool}
    (hmetadata : input.metadata = some metadata)
    (hvalid : validateManifest digests earlyDeny input = .ok payload) :
    ValidManifest digests earlyDeny metadata payload := by
  unfold validateManifest at hvalid
  rw [hmetadata] at hvalid
  dsimp only at hvalid
  split_ifs at hvalid with hsize hread hvalidation hcontract hspan
  cases hvalid
  simp only [not_or, not_not] at hvalidation hcontract
  obtain ⟨-, -, -, hcrc⟩ := hvalidation
  obtain ⟨-, hload, hfile, hmemory, hdtb⟩ := hcontract
  rw [List.take_take] at hcrc
  refine ⟨rfl, hcrc, hload, ?_, ?_, ?_, ?_⟩
  · exact Nat.pos_of_ne_zero fun hzero => hfile (BitVec.eq_of_toNat_eq hzero)
  · exact Nat.not_lt.mp fun hlt => hmemory (BitVec.lt_def.mpr hlt)
  · exact Nat.not_lt.mp fun hlt => hdtb (BitVec.lt_def.mpr hlt)
  · rw [← hload]
    exact Nat.not_lt.mp hspan

/-- A word subtracted from its rounding. -/
theorem alignUp_sub {value part : Word} (hvalue : value.toNat + 127 < 2 ^ 32)
    (hpart : part.toNat ≤ value.toNat) :
    (alignUp value cacheAlignment - part).toNat =
      (alignUp value cacheAlignment).toNat - part.toNat := by
  have hround := alignUp_cache hvalue
  apply BitVec.toNat_sub_of_le
  rw [BitVec.le_def]
  omega

/-- What the loader has of the device tree. -/
structure DtbLoaded (digests : Digests) (payload : PayloadManifest)
    (contents : List Byte) (dtb allocation : Nat) (memory : LoaderMemory) :
    Prop where
  bytes : load memory dtb allocation =
    contents.take payload.dtbSize.toNat ++
      List.replicate (allocation - payload.dtbSize.toNat) 0#8
  magic : (contents.take payload.dtbSize.toNat).take 4 = fdtMagic
  hash : digests.sha256 (contents.take payload.dtbSize.toNat) =
    payload.dtbSha256

/-- Where the device tree is placed. -/
theorem loadDtb_place {dtb : Nat}
    (hload : loadDtb digests input payload contents memory =
      .ok (dtb, allocation, loading)) :
    input.dtbAlloc = some dtb ∧ dtb < kernelVaddr ∧
      allocation = (alignUp payload.dtbSize cacheAlignment).toNat ∧
      loading.kernelWrites = [] := by
  unfold loadDtb at hload
  dsimp only at hload
  split at hload
  · cases hload
  · rename_i address halloc
    split_ifs at hload with hhigh hread hmagic hhash
    cases hload
    exact ⟨halloc, Nat.not_le.mp hhigh, rfl, rfl⟩

theorem loadDtb_ok {dtb : Nat} (hsize : payload.dtbSize.toNat + 127 < 2 ^ 32)
    (hdtb : 40 ≤ payload.dtbSize.toNat)
    (hcontents : payload.dtbSize.toNat ≤ contents.length)
    (hclear : Clear dtb allocation (input.draws 20))
    (hload : loadDtb digests input payload contents memory =
      .ok (dtb, allocation, loading)) :
    DtbLoaded digests payload contents dtb allocation loading.memory := by
  unfold loadDtb at hload
  dsimp only at hload
  split at hload
  · cases hload
  · rename_i address halloc
    split_ifs at hload with hhigh hread hmagic hhash
    cases hload
    have hround := alignUp_cache hsize
    have hpad := alignUp_sub hsize (le_refl payload.dtbSize.toNat)
    have hlength : (contents.take payload.dtbSize.toNat).length =
        payload.dtbSize.toNat := List.length_take_of_le hcontents
    have hfile : load (store (store memory dtb
        (contents.take payload.dtbSize.toNat)) (dtb + payload.dtbSize.toNat)
        (List.replicate (alignUp payload.dtbSize cacheAlignment -
          payload.dtbSize).toNat 0#8)) dtb payload.dtbSize.toNat =
        contents.take payload.dtbSize.toNat :=
      load_store_padded hlength
    refine ⟨?_, ?_, ?_⟩
    · rw [load_draw _ hclear]
      exact load_filled (load_store_eq hlength) (by omega) hpad.ge
    · rw [← hfile, load_take (by omega)]
      exact not_not.mp hmagic
    · rw [← hfile]
      exact not_not.mp hhash

/-- What the loader has of the kernel. -/
structure KernelLoaded (digests : Digests) (payload : PayloadManifest)
    (linux : List Byte) (memory : LoaderMemory) : Prop where
  bytes : load memory kernelVaddr payload.kernelMemorySize.toNat =
    linux.take payload.kernelFileSize.toNat ++ List.replicate
      (payload.kernelMemorySize.toNat - payload.kernelFileSize.toNat) 0#8
  hash : digests.sha256 (linux.take payload.kernelFileSize.toNat) =
    payload.kernelSha256

/-- `load_kernel`'s result with the rest of the allocation cleared. -/
def Loading.clearTail (loaded : Loading) (payload : PayloadManifest) : Loading :=
  loaded.writeKernel (kernelVaddr + payload.kernelFileSize.toNat)
    (List.replicate (alignUp payload.kernelMemorySize cacheAlignment -
      payload.kernelFileSize).toNat 0#8)

/-- The stages of a successful load of the kernel. -/
theorem loadKernelPayload_stages {before : Loading}
    (haddress : payload.kernelLoadVaddr.toNat = kernelVaddr)
    (hload : loadKernelPayload digests true input payload linux before =
      .ok (allocation, loading)) :
    ∃ loaded,
      allocation = (alignUp payload.kernelMemorySize cacheAlignment).toNat ∧
      kernelVaddr + allocation ≤ displayPoolVaddr ∧
      loadKernel input linux kernelVaddr payload.kernelFileSize.toNat 0
        ((fillKernelBuffer kernelVaddr (allocation / 4)
          (before.draw (input.draws 25))).draw (input.draws 30)) =
            .ok loaded ∧
      digests.sha256 (load ((loaded.clearTail payload).draw
        (input.draws 85)).memory kernelVaddr payload.kernelFileSize.toNat) =
          payload.kernelSha256 ∧
      loading = ((loaded.clearTail payload).draw (input.draws 85)).draw
        (input.draws 90) := by
  unfold loadKernelPayload at hload
  dsimp only at hload
  split at hload
  · cases hload
  next kernel _ =>
  split_ifs at hload with hkernel hceiling hholds
  rw [not_not, haddress] at hkernel
  subst hkernel
  cases hloaded : loadKernel input linux kernelVaddr
      payload.kernelFileSize.toNat 0 ((fillKernelBuffer kernelVaddr
        ((alignUp payload.kernelMemorySize cacheAlignment).toNat / 4)
          (before.draw (input.draws 25))).draw (input.draws 30)) with
  | error failure =>
    rw [hloaded] at hload
    cases hload
  | ok loaded =>
    rw [hloaded] at hload
    simp only [bind, Except.bind] at hload
    split_ifs at hload with hhash
    obtain ⟨rfl, rfl⟩ := Prod.mk.inj (Except.ok.inj hload)
    exact ⟨loaded, rfl, Nat.not_lt.mp fun hlt => hceiling ⟨rfl, hlt⟩,
      hloaded, not_not.mp hhash, rfl⟩

/-- The kernel is loaded and padded, and a block below it is left alone. -/
theorem loadKernelPayload_ok {before : Loading}
    (hvalid : ValidManifest digests true metadata payload)
    (hlinux : payload.kernelFileSize.toNat ≤ linux.length)
    (hwrites : before.kernelWrites = [])
    (hkernel : ∀ percent, Clear kernelVaddr allocation (input.draws percent))
    (hblock : ∀ percent, Clear start length (input.draws percent))
    (hbelow : start + length ≤ kernelVaddr)
    (hload : loadKernelPayload digests true input payload linux before =
      .ok (allocation, loading)) :
    loading.Within kernelVaddr displayPoolVaddr ∧
      payload.kernelMemorySize.toNat ≤ allocation ∧
      KernelLoaded digests payload linux loading.memory ∧
      load loading.memory start length = load before.memory start length := by
  have hspan : kernelVaddr + payload.kernelMemorySize.toNat ≤
      displayPoolVaddr := hvalid.span
  have hmemory := hvalid.memory
  have hround : payload.kernelMemorySize.toNat + 127 < 2 ^ 32 := by
    unfold kernelVaddr displayPoolVaddr at hspan
    omega
  have hallocated := alignUp_cache hround
  have hpad := alignUp_sub hround hmemory
  obtain ⟨loaded, rfl, hceiling, hloaded, hhash, rfl⟩ :=
    loadKernelPayload_stages hvalid.load hload
  set allocation := (alignUp payload.kernelMemorySize cacheAlignment).toNat
  have hfile : payload.kernelFileSize.toNat ≤ allocation := by omega
  have hfill : Stage kernelVaddr displayPoolVaddr
      (before.draw (input.draws 25))
      (fillKernelBuffer kernelVaddr (allocation / 4)
        (before.draw (input.draws 25))) :=
    fillKernelBuffer_stage _ _ le_rfl (by omega)
  obtain ⟨hbytes, hwithin, hkept⟩ := loadKernel_ok hlinux
    (by omega : kernelVaddr + payload.kernelFileSize.toNat ≤ displayPoolVaddr)
    (Nat.zero_le _) (fun percent => (hkernel percent).mono hfile) hblock hbelow
    rfl hloaded
  have hzeros : Stage kernelVaddr displayPoolVaddr loaded
      (loaded.clearTail payload) :=
    writeKernel_stage loaded (Nat.le_add_right _ _) (by
      rw [List.length_replicate, hpad]
      omega)
  refine ⟨hzeros.inside (hwithin (hfill.inside ?_)), by omega, ⟨?_, ?_⟩, ?_⟩
  · intro write hwrite
    have hnone : write ∈ before.kernelWrites := hwrite
    rw [hwrites] at hnone
    cases hnone
  · have hclear := fun percent => (hkernel percent).mono
      (by omega : payload.kernelMemorySize.toNat ≤ allocation)
    rw [load_draw _ (hclear 90), load_draw _ (hclear 85)]
    exact load_filled hbytes hmemory (by omega)
  · rw [load_draw _ ((hkernel 85).mono hfile)] at hhash
    rw [← hhash, ← hbytes]
    exact congrArg digests.sha256 (load_store_apart (.inl le_rfl)).symm
  · rw [load_draw _ (hblock 90), load_draw _ (hblock 85),
      hzeros.apart start length (.inl hbelow), hkept,
      load_draw _ (hblock 30), hfill.apart start length (.inl hbelow),
      load_draw _ (hblock 25)]

/-- `load_kernel` ends when every read succeeds. -/
theorem loadKernel_total (hread : ∀ offset, input.readKernel offset = true)
    (linux : List Byte) (kernel size offset : Nat) (loading : Loading) :
    ∃ loaded, loadKernel input linux kernel size offset loading =
      .ok loaded := by
  induction hrest : size - offset using Nat.strong_induction_on
    generalizing offset loading with
  | h rest ih =>
    unfold loadKernel
    split
    · rename_i hmore
      have hpositive : 0 < min (size - offset) kernelReadChunk := by
        rw [Nat.lt_min]
        exact ⟨by omega, by decide⟩
      dsimp only
      rw [if_pos (hread offset)]
      exact ih _ (by omega) _ _ rfl
    · exact ⟨loading, rfl⟩

end Micronux
