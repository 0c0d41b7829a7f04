/-
The header checks of `load_flat_file`, read as statements about integers: which
images are accepted, and how much memory an accepted image asks for.
-/
import Micronux.FlatLoader

namespace Micronux

variable {right left : Word} {plan : FlatPlan}

theorem checkAdd_eq_some {sum : Word} (hsum : checkAdd left right = some sum) :
    sum.toNat = left.toNat + right.toNat := by
  unfold checkAdd at hsum
  split at hsum
  · next hfits =>
      rw [← Option.some.inj hsum]
      exact BitVec.toNat_add_of_lt hfits
  · cases hsum

theorem toNat_wordMax (left right : Word) :
    (wordMax left right).toNat = max left.toNat right.toNat := by
  unfold wordMax
  split
  · next hlt =>
      rw [BitVec.lt_def] at hlt
      omega
  · next hle =>
      rw [BitVec.lt_def] at hle
      omega

/-- The sum that an accepted image asks for, without overflow. -/
theorem flatInitialMapping_eq_some {offset textLen dataLen extra initial : Word}
    (hinitial :
      flatInitialMapping offset textLen dataLen extra = some initial) :
    initial.toNat = textLen.toNat + dataLen.toNat + extra.toNat + offset.toNat ∧
      initial.toNat ≤ initialMappingLimit.toNat := by
  simp only [flatInitialMapping, Option.bind_eq_bind,
    Option.bind_eq_some_iff] at hinitial
  obtain ⟨image, himage, mapping, hmapping, sum, hsum, hlimit⟩ := hinitial
  split at hlimit
  · next hle =>
      obtain rfl := Option.some.inj hlimit
      rw [checkAdd_eq_some hsum, checkAdd_eq_some hmapping,
        checkAdd_eq_some himage]
      rw [BitVec.le_def, checkAdd_eq_some hsum, checkAdd_eq_some hmapping,
        checkAdd_eq_some himage] at hle
      exact ⟨rfl, hle⟩
  · cases hlimit

/-- What the header checks say about the sizes of an accepted image. -/
structure FlatPlan.Sound (plan : FlatPlan) (offset extraStack : Word) :
    Prop where
  text_ge : flatHeaderSize.toNat ≤ plan.textLen.toNat
  text_aligned : plan.textLen.toNat % pmpGranularity = 0
  stack_ge : extraStack.toNat ≤ plan.stackLen.toNat
  initial : plan.initialMapping.toNat =
    plan.textLen.toNat + plan.dataLen.toNat +
      max (plan.dataLen.toNat + plan.bssLen.toNat + plan.stackLen.toNat)
        plan.relocBytes.toNat + offset.toNat
  initial_le : plan.initialMapping.toNat ≤ initialMappingLimit.toNat

theorem flatBoundsOk_iff {hdr : FlatHeader} : flatBoundsOk hdr = true ↔
      hdr.flags &&& flatFlagRam ≠ 0 ∧
      (hdr.flags &&& flatFlagGzip = 0 ∧ hdr.flags &&& flatFlagGzdata = 0) ∧
      (64 ≤ hdr.entry.toNat ∧ hdr.entry.toNat < hdr.dataStart.toNat) ∧
      128 ∣ hdr.dataStart.toNat ∧
      hdr.dataStart.toNat ≤ hdr.dataEnd.toNat ∧
      hdr.dataEnd.toNat ≤ hdr.bssEnd.toNat ∧ hdr.relocStart = hdr.dataEnd := by
  have hgzip : hdr.flags &&& (flatFlagGzip ||| flatFlagGzdata) = 0 ↔
      hdr.flags &&& flatFlagGzip = 0 ∧ hdr.flags &&& flatFlagGzdata = 0 := by
    rw [BitVec.and_or_distrib_left]
    exact BitVec.or_eq_zero_iff
  have hsize : flatHeaderSize.toNat = 64 := rfl
  have hgranule : ∀ value : Nat,
      value % pmpGranularity = 0 ↔ 128 ∣ value := fun value => by
    rw [pmpGranularity, Nat.dvd_iff_mod_eq_zero]
  simp only [flatBoundsOk, isAligned, Bool.and_eq_true, bne_iff_ne, ne_eq,
    beq_iff_eq, decide_eq_true_eq, BitVec.le_def, BitVec.lt_def, hgzip, hsize,
    hgranule]
  constructor
  · rintro ⟨⟨⟨⟨⟨⟨⟨⟨hram, hplain⟩, hlow⟩, hhigh⟩, -⟩, hdata⟩, hbss⟩, hreloc⟩,
      haligned⟩
    exact ⟨hram, hplain, ⟨hlow, hhigh⟩, haligned, hdata, hbss, hreloc⟩
  · rintro ⟨hram, hplain, ⟨hlow, hhigh⟩, haligned, hdata, hbss, hreloc⟩
    exact ⟨⟨⟨⟨⟨⟨⟨⟨hram, hplain⟩, hlow⟩, hhigh⟩, by omega⟩, hdata⟩, hbss⟩,
      hreloc⟩, haligned⟩

theorem flatBoundsOk_text {hdr : FlatHeader} (hbounds : flatBoundsOk hdr) :
    flatHeaderSize.toNat ≤ hdr.dataStart.toNat ∧
      hdr.dataStart.toNat % pmpGranularity = 0 := by
  obtain ⟨-, -, ⟨hlow, hhigh⟩, haligned, -⟩ := flatBoundsOk_iff.mp hbounds
  exact ⟨hlow.trans hhigh.le, Nat.dvd_iff_mod_eq_zero.mp haligned⟩

theorem flatSizes_eq_some {hdr : FlatHeader} {fileSize : Nat}
    {extraStack stackLen relocBytes dataStack : Word}
    (hsizes : flatSizes hdr fileSize extraStack =
      some (stackLen, relocBytes, dataStack)) :
    flatBoundsOk hdr = true ∧
      stackLen.toNat = hdr.stackSize.toNat + extraStack.toNat ∧
      dataStack.toNat = (hdr.dataEnd - hdr.dataStart).toNat +
        (hdr.bssEnd - hdr.dataEnd).toNat + stackLen.toNat := by
  simp only [flatSizes, Option.bind_eq_bind, Option.bind_eq_some_iff,
    Option.guard_eq_some', Option.some.injEq, Prod.mk.injEq] at hsizes
  obtain ⟨stack, hstack, -, hbounds, reloc, -, extent, -, -, -, bss, hbss,
    total, htotal, rfl, rfl, rfl⟩ := hsizes
  refine ⟨hbounds, checkAdd_eq_some hstack, ?_⟩
  rw [checkAdd_eq_some htotal, checkAdd_eq_some hbss]

/-- What an accepted header has passed. -/
theorem flatChecks_inv {offset extraStack : Word} {hdr : FlatHeader}
    {fileSize : Nat}
    (hok : flatChecks offset hdr fileSize extraStack = .ok plan) :
    ∃ stackLen relocBytes dataStack initialMapping,
      flatSizes hdr fileSize extraStack =
          some (stackLen, relocBytes, dataStack) ∧
        flatInitialMapping offset hdr.dataStart (hdr.dataEnd - hdr.dataStart)
            (wordMax dataStack relocBytes) = some initialMapping ∧
        plan = { textLen := hdr.dataStart,
                 dataLen := hdr.dataEnd - hdr.dataStart,
                 bssLen := hdr.bssEnd - hdr.dataEnd, stackLen, relocBytes,
                 initialMapping } := by
  unfold flatChecks at hok
  split at hok
  · cases hok
  · next stackLen relocBytes dataStack hsizes =>
      simp only at hok
      split at hok
      · cases hok
      · next initial hinitial =>
          exact ⟨stackLen, relocBytes, dataStack, initial, hsizes, hinitial,
            (Except.ok.inj hok).symm⟩

theorem flatChecks_ok {offset extraStack : Word} {hdr : FlatHeader}
    {fileSize : Nat}
    (hok : flatChecks offset hdr fileSize extraStack = .ok plan) :
    plan.Sound offset extraStack := by
  obtain ⟨stackLen, relocBytes, dataStack, initial, hsizes, hinitial, rfl⟩ :=
    flatChecks_inv hok
  obtain ⟨hbounds, hstack, htotal⟩ := flatSizes_eq_some hsizes
  obtain ⟨htext, haligned⟩ := flatBoundsOk_text hbounds
  obtain ⟨hsum, hlimit⟩ := flatInitialMapping_eq_some hinitial
  rw [toNat_wordMax, htotal] at hsum
  exact ⟨htext, haligned, by simp only; omega, hsum, hlimit⟩

section Accepted

theorem checkAdd_of_lt (hfits : left.toNat + right.toNat < 2 ^ 32) :
    ∃ sum, checkAdd left right = some sum ∧
      sum.toNat = left.toNat + right.toNat := by
  refine ⟨left + right, ?_, BitVec.toNat_add_of_lt hfits⟩
  rw [checkAdd, if_pos hfits]

theorem checkMul_eq_some {product : Word}
    (hproduct : checkMul left right = some product) :
    product.toNat = left.toNat * right.toNat := by
  unfold checkMul at hproduct
  split at hproduct
  · next hfits =>
      rw [← Option.some.inj hproduct, BitVec.toNat_mul]
      exact Nat.mod_eq_of_lt hfits
  · cases hproduct

theorem checkMul_of_lt (hfits : left.toNat * right.toNat < 2 ^ 32) :
    ∃ product, checkMul left right = some product ∧
      product.toNat = left.toNat * right.toNat := by
  refine ⟨left * right, ?_, ?_⟩
  · rw [checkMul, if_pos hfits]
  · rw [BitVec.toNat_mul]
    exact Nat.mod_eq_of_lt hfits

namespace FlatHeader

/-- `data_end - data_start` as an integer -/
def dataSize (hdr : FlatHeader) : Int :=
  hdr.dataEnd.toNat - hdr.dataStart.toNat

/-- `bss_end - data_end` as an integer -/
def bssSize (hdr : FlatHeader) : Int :=
  hdr.bssEnd.toNat - hdr.dataEnd.toNat

/-- `stack_size + extra_stack` as an integer -/
def stackTotal (hdr : FlatHeader) (extraStack : Word) : Int :=
  hdr.stackSize.toNat + extraStack.toNat

def relocSize (hdr : FlatHeader) : Int :=
  4 * hdr.relocCount.toNat

/-- Text, data and data offset around the larger of the relocations and what
the image needs behind its data. -/
def mappingWith (hdr : FlatHeader) (offset : Word) (behind : Int) : Int :=
  hdr.dataStart.toNat + hdr.dataSize + max behind hdr.relocSize + offset.toNat

end FlatHeader

/-- The images that the checks accept, with every field and every sum read as
an integer. -/
structure FlatAccepts (offset : Word) (hdr : FlatHeader) (fileSize : Nat)
    (extraStack : Word) : Prop where
  ram : hdr.flags &&& flatFlagRam ≠ 0
  plain : hdr.flags &&& flatFlagGzip = 0 ∧ hdr.flags &&& flatFlagGzdata = 0
  entry : 64 ≤ hdr.entry.toNat ∧ hdr.entry.toNat < hdr.dataStart.toNat
  aligned : 128 ∣ hdr.dataStart.toNat
  data : 0 ≤ hdr.dataSize
  bss : 0 ≤ hdr.bssSize
  reloc : hdr.relocStart = hdr.dataEnd
  file : hdr.dataEnd.toNat + hdr.relocSize ≤ fileSize
  budget : hdr.mappingWith offset
    (hdr.dataSize + hdr.bssSize + hdr.stackTotal extraStack) ≤ 8 * 2 ^ 20
  words : hdr.stackTotal extraStack < 2 ^ 32 ∧ hdr.relocSize < 2 ^ 32 ∧
    hdr.dataEnd.toNat + hdr.relocSize < 2 ^ 32 ∧
    hdr.dataSize + hdr.bssSize + hdr.stackTotal extraStack < 2 ^ 32

/-- The differences of the header's bounds, once the bounds are in order. -/
theorem flatDifferences {hdr : FlatHeader}
    (hdata : hdr.dataStart.toNat ≤ hdr.dataEnd.toNat)
    (hbss : hdr.dataEnd.toNat ≤ hdr.bssEnd.toNat) :
    ((hdr.dataEnd - hdr.dataStart).toNat : Int) = hdr.dataSize ∧
      ((hdr.bssEnd - hdr.dataEnd).toNat : Int) = hdr.bssSize := by
  rw [BitVec.toNat_sub_of_le hdata, BitVec.toNat_sub_of_le hbss]
  unfold FlatHeader.dataSize FlatHeader.bssSize
  omega

variable {offset extraStack : Word} {hdr : FlatHeader} {fileSize : Nat}

/-- What an accepted header has passed, and the sizes it leads to. -/
theorem flatSizes_accepts {stackLen relocBytes dataStack : Word}
    (hsizes : flatSizes hdr fileSize extraStack =
      some (stackLen, relocBytes, dataStack)) :
    flatBoundsOk hdr = true ∧
      (stackLen.toNat : Int) = hdr.stackTotal extraStack ∧
      (relocBytes.toNat : Int) = hdr.relocSize ∧
      hdr.dataEnd.toNat + relocBytes.toNat < 2 ^ 32 ∧
      hdr.dataEnd.toNat + relocBytes.toNat ≤ fileSize ∧
      (dataStack.toNat : Int) =
        hdr.dataSize + hdr.bssSize + hdr.stackTotal extraStack := by
  simp only [flatSizes, Option.bind_eq_bind, Option.bind_eq_some_iff,
    Option.guard_eq_some', Option.some.injEq, Prod.mk.injEq] at hsizes
  obtain ⟨stack, hstack, -, hbounds, reloc, hreloc, extent, hextent, -, hfile,
    dataBss, hbss, total, htotal, rfl, rfl, rfl⟩ := hsizes
  obtain ⟨-, -, -, -, hdata, hend, hstart⟩ := flatBoundsOk_iff.mp hbounds
  obtain ⟨hdataLen, hbssLen⟩ := flatDifferences hdata hend
  have hstackLen := checkAdd_eq_some hstack
  have hrelocLen := checkMul_eq_some hreloc
  have hextentLen := checkAdd_eq_some hextent
  have hbssSum := checkAdd_eq_some hbss
  have htotalSum := checkAdd_eq_some htotal
  have hfour : (4#32 : Word).toNat = 4 := rfl
  rw [hstart] at hextentLen
  have hword := extent.isLt
  rw [hfour] at hrelocLen
  refine ⟨hbounds, ?_, ?_, by omega, by omega, ?_⟩
  · unfold FlatHeader.stackTotal
    omega
  · unfold FlatHeader.relocSize
    omega
  · unfold FlatHeader.stackTotal
    omega

/-- The checks pass on every header that the integers describe. -/
theorem FlatAccepts.flatSizes
    (haccepts : FlatAccepts offset hdr fileSize extraStack) :
    ∃ stackLen relocBytes dataStack, flatSizes hdr fileSize extraStack =
        some (stackLen, relocBytes, dataStack) := by
  obtain ⟨hram, hplain, hentry, haligned, hdata, hbss, hreloc, hfile, -,
    hstackFits, hrelocFits, hextentFits, htotalFits⟩ := haccepts
  unfold FlatHeader.dataSize at hdata
  unfold FlatHeader.bssSize at hbss
  have hbounds : flatBoundsOk hdr = true := flatBoundsOk_iff.mpr
    ⟨hram, hplain, hentry, haligned, by omega, by omega, hreloc⟩
  obtain ⟨hdataLen, hbssLen⟩ :=
    flatDifferences (by omega : hdr.dataStart.toNat ≤ hdr.dataEnd.toNat)
      (by omega : hdr.dataEnd.toNat ≤ hdr.bssEnd.toNat)
  unfold FlatHeader.stackTotal at hstackFits htotalFits
  unfold FlatHeader.relocSize at hrelocFits hextentFits hfile
  have hfour : (4#32 : Word).toNat = 4 := rfl
  obtain ⟨stack, hstack, hstackLen⟩ :=
    checkAdd_of_lt (by omega : hdr.stackSize.toNat + extraStack.toNat < 2 ^ 32)
  obtain ⟨reloc, hrelocs, hrelocLen⟩ :=
    checkMul_of_lt (by rw [hfour]; omega :
      hdr.relocCount.toNat * (4#32 : Word).toNat < 2 ^ 32)
  rw [hfour] at hrelocLen
  obtain ⟨extent, hextent, hextentLen⟩ :=
    checkAdd_of_lt (by rw [hreloc]; omega :
      hdr.relocStart.toNat + reloc.toNat < 2 ^ 32)
  obtain ⟨dataBss, hdataBss, hdataBssLen⟩ :=
    checkAdd_of_lt (by omega : (hdr.dataEnd - hdr.dataStart).toNat +
      (hdr.bssEnd - hdr.dataEnd).toNat < 2 ^ 32)
  obtain ⟨total, htotal, -⟩ :=
    checkAdd_of_lt (by omega : dataBss.toNat + stack.toNat < 2 ^ 32)
  have hinFile : extent.toNat ≤ fileSize := by
    rw [hextentLen, hreloc]
    omega
  refine ⟨stack, reloc, total, ?_⟩
  simp only [Micronux.flatSizes, Option.bind_eq_bind, hstack, hbounds, hrelocs,
    hextent, hinFile, hdataBss, htotal, Option.bind_some, guard, if_true,
    Option.pure_def]

/-- The sum passes its checks wherever the integers do. -/
theorem flatInitialMapping_of_le {textLen dataLen extra : Word}
    (hfits : textLen.toNat + dataLen.toNat + extra.toNat + offset.toNat ≤
      8 * 2 ^ 20) :
    ∃ initial,
      flatInitialMapping offset textLen dataLen extra = some initial := by
  obtain ⟨image, himage, himageLen⟩ :=
    checkAdd_of_lt (by omega : textLen.toNat + dataLen.toNat < 2 ^ 32)
  obtain ⟨mapping, hmapping, hmappingLen⟩ :=
    checkAdd_of_lt (by omega : image.toNat + extra.toNat < 2 ^ 32)
  obtain ⟨initial, hinitial, hinitialLen⟩ :=
    checkAdd_of_lt (by omega : mapping.toNat + offset.toNat < 2 ^ 32)
  have hlimit : initial ≤ initialMappingLimit := by
    have hpool : initialMappingLimit.toNat = 8 * 2 ^ 20 := rfl
    rw [BitVec.le_def, hpool]
    omega
  refine ⟨initial, ?_⟩
  simp only [flatInitialMapping, Option.bind_eq_bind, himage, hmapping,
    hinitial, Option.bind_some, if_pos hlimit]

theorem flatChecks_accepts
    (hok : flatChecks offset hdr fileSize extraStack = .ok plan) :
    FlatAccepts offset hdr fileSize extraStack ∧
      (plan.initialMapping.toNat : Int) = hdr.mappingWith offset
        (hdr.dataSize + hdr.bssSize + hdr.stackTotal extraStack) := by
  obtain ⟨stackLen, relocBytes, dataStack, initial, hsizes, hinitial, rfl⟩ :=
    flatChecks_inv hok
  obtain ⟨hbounds, hstack, hreloc, hextent, hfile, htotal⟩ :=
    flatSizes_accepts hsizes
  obtain ⟨hram, hplain, hentry, haligned, hdata, hbss, hstart⟩ :=
    flatBoundsOk_iff.mp hbounds
  obtain ⟨hdataLen, hbssLen⟩ := flatDifferences hdata hbss
  obtain ⟨hsum, hlimit⟩ := flatInitialMapping_eq_some hinitial
  have hpool : initialMappingLimit.toNat = 8 * 2 ^ 20 := rfl
  have hstackWord := stackLen.isLt
  have hrelocWord := relocBytes.isLt
  have htotalWord := dataStack.isLt
  rw [toNat_wordMax] at hsum
  have hmapping : (initial.toNat : Int) = hdr.mappingWith offset
      (hdr.dataSize + hdr.bssSize + hdr.stackTotal extraStack) := by
    unfold FlatHeader.mappingWith
    omega
  refine ⟨⟨hram, hplain, hentry, haligned, by omega, by omega, hstart,
    by omega, by omega, by omega, by omega, by omega, by omega⟩,
    hmapping⟩

theorem FlatAccepts.flatChecks
    (haccepts : FlatAccepts offset hdr fileSize extraStack) :
    ∃ plan, flatChecks offset hdr fileSize extraStack = .ok plan := by
  obtain ⟨stackLen, relocBytes, dataStack, hsizes⟩ := haccepts.flatSizes
  obtain ⟨hbounds, hstack, hreloc, hextent, hfile, htotal⟩ :=
    flatSizes_accepts hsizes
  obtain ⟨-, -, -, -, hdata, hbss, -⟩ := flatBoundsOk_iff.mp hbounds
  obtain ⟨hdataLen, -⟩ := flatDifferences hdata hbss
  have hbudget := haccepts.budget
  unfold FlatHeader.mappingWith at hbudget
  have hmax := toNat_wordMax dataStack relocBytes
  obtain ⟨initial, hinitial⟩ := flatInitialMapping_of_le
    (by omega : hdr.dataStart.toNat + (hdr.dataEnd - hdr.dataStart).toNat +
      (wordMax dataStack relocBytes).toNat + offset.toNat ≤ 8 * 2 ^ 20)
  unfold Micronux.flatChecks
  simp only [hsizes, hinitial, Except.ok.injEq, exists_eq']

/-- The header checks accept exactly the images whose integers fit; what an
accepted image reserves is their sum, and it covers what is mapped first. -/
theorem flatChecks_exact :
    ((∃ plan, flatChecks offset hdr fileSize extraStack = .ok plan) ↔
      FlatAccepts offset hdr fileSize extraStack) ∧
    ∀ plan, flatChecks offset hdr fileSize extraStack = .ok plan →
      (plan.initialMapping.toNat : Int) = hdr.mappingWith offset
        (hdr.dataSize + hdr.bssSize + hdr.stackTotal extraStack) ∧
      hdr.mappingWith offset (hdr.bssSize + hdr.stackTotal extraStack) ≤
        plan.initialMapping.toNat := by
  refine ⟨⟨?_, FlatAccepts.flatChecks⟩, ?_⟩
  · rintro ⟨plan, hok⟩
    exact (flatChecks_accepts hok).1
  · intro plan hok
    obtain ⟨haccepts, hinitial⟩ := flatChecks_accepts hok
    have hdata := haccepts.data
    refine ⟨hinitial, ?_⟩
    rw [hinitial]
    unfold FlatHeader.mappingWith
    omega

/-- A header with one granule of text and a page of stack. -/
def textOnlyHeader : FlatHeader where
  flags := flatFlagRam
  entry := 64
  dataStart := 128
  dataEnd := 128
  bssEnd := 128
  stackSize := 4096
  relocStart := 128
  relocCount := 0

theorem textOnlyHeader_flatChecks_exact : FlatAccepts 4 textOnlyHeader 128 0 ∧
      textOnlyHeader.mappingWith 4
        (textOnlyHeader.bssSize + textOnlyHeader.stackTotal 0) ≤ 4228 :=
  have hok : flatChecks 4 textOnlyHeader 128 0 = .ok
      { textLen := 128, dataLen := 0, bssLen := 0, stackLen := 4096,
        relocBytes := 0, initialMapping := 4228 } := by decide
  ⟨flatChecks_exact.1.mp ⟨_, hok⟩, (flatChecks_exact.2 _ hok).2⟩

end Accepted

end Micronux
