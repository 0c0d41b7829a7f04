/-
What the programmed overlay grants user mode, and that the kernel's checks of
user pointers accept exactly the ranges that it grants.
-/
import Micronux.UserPmp
import Micronux.PoolInvariant
import Mathlib.Data.Fin.VecNotation

namespace Micronux

open Pmp

/-- The registers that `micronux_user_pmp_program` writes. -/
def programmedCsrs : List Csr :=
  [.cfg 1, .cfg 2, .cfg 3, .addr 7, .addr 8, .addr 9, .addr 10, .addr 12,
    .addr 13]

variable {warl : Warl} {lo execHi hi : Word} {allow : Bool}
  {regs after : Registers}

theorem userPmpProgram_get {csr : Csr} (hcsr : csr ∉ programmedCsrs) :
    (userPmpProgram warl lo execHi hi allow regs).1.get csr = regs.get csr := by
  simp only [programmedCsrs, List.mem_cons, List.not_mem_nil, or_false,
    not_or] at hcsr
  have hrevoked : (regs.writeAll warl (revokeWrites regs)).get csr =
      regs.get csr :=
    regs.get_writeAll warl (by simp [revokeWrites, hcsr])
  unfold userPmpProgram
  dsimp only
  split
  · exact hrevoked
  · exact (Registers.get_writeAll warl _ (by
      simp [addressWrites, configWrites, hcsr])).trans hrevoked

theorem userPmpProgram_readsBack
    (hdone : userPmpProgram warl lo execHi hi allow regs = (after, true)) :
    readsBack after (finalValues regs lo execHi hi allow) = true := by
  unfold userPmpProgram at hdone
  dsimp only at hdone
  split at hdone
  · exact absurd (congrArg Prod.snd hdone) Bool.false_ne_true
  · obtain ⟨rfl, hreads⟩ := Prod.mk.inj hdone
    exact hreads

def userCfg (allow : Bool) : Fin 16 → BitVec 8 :=
  ![0x18#8, 0x18#8, 0x18#8, 0x00#8, 0x08#8, 0x00#8, 0x18#8, 0x08#8,
    if allow then 0x0d#8 else 0x00#8, if allow then 0x0b#8 else 0x00#8,
    0x08#8, 0x18#8, 0x08#8, 0x18#8, 0x00#8, 0x18#8]


theorem userCfg_kept : ∀ entry ∈ keptEntries, ∃ row ∈ auditTable true,
    row.1 = entry ∧ row.2.2 = userCfg allow entry := by
  cases allow <;> decide

theorem KeptAudited.entryCfg (haudited : KeptAudited regs) {entry : Fin 16}
    (hkept : entry ∈ keptEntries) :
    regs.entryCfg entry = userCfg allow entry := by
  obtain ⟨row, hrow, rfl, hcfg⟩ := userCfg_kept entry hkept
  have haudit := haudited row hrow hkept
  simp only [auditPmpEntry, Bool.and_eq_true, beq_iff_eq] at haudit
  exact haudit.2.trans hcfg

/-- What `micronux_user_pmp_program` keeps of the configuration words. -/
def keepWords : Fin 4 → Word :=
  ![BitVec.allOnes 32, pmpcfg1Keep, pmpcfg2Keep, pmpcfg3Keep]

theorem keepWords_kept : ∀ entry ∈ keptEntries,
    cfgByte keepWords entry = BitVec.allOnes 8 := by
  decide

theorem keepWords_other : ∀ entry, entry ∉ keptEntries →
    cfgByte keepWords entry = 0#8 := by
  decide

/-- The configuration words after the call, with what they keep. -/
structure FinalCfg (regs after : Registers) (allow : Bool) : Prop where
  cfg0 : after.cfg 0 = regs.cfg 0
  cfg1 : after.cfg 1 = regs.cfg 1 &&& pmpcfg1Keep ||| 0x08000000#32
  cfg2 : after.cfg 2 = regs.cfg 2 &&& pmpcfg2Keep |||
    if allow then 0x00080b0d#32 else 0x00080000#32
  cfg3 : after.cfg 3 = regs.cfg 3 &&& pmpcfg3Keep ||| 0x00001808#32

theorem userPmpProgram_finalCfg
    (hdone : userPmpProgram warl lo execHi hi allow regs = (after, true)) :
    FinalCfg regs after allow := by
  have hreads := userPmpProgram_readsBack hdone
  simp only [readsBack, finalValues, List.cons_append, List.all_cons,
    Bool.and_eq_true, beq_iff_eq, Registers.read] at hreads
  obtain ⟨hcfg1, hcfg2, hcfg3, -⟩ := hreads
  refine ⟨?_, hcfg1, hcfg2.trans ?_, ?_⟩
  · have hget : (userPmpProgram warl lo execHi hi allow regs).1.get (.cfg 0) =
        regs.get (.cfg 0) := userPmpProgram_get (by decide)
    rw [hdone] at hget
    exact hget
  · cases allow with
    | false => rfl
    | true => exact (BitVec.or_assoc ..).trans (BitVec.or_assoc ..)
  · exact hcfg3.trans (BitVec.or_assoc ..)

def finalWords (allow : Bool) : Fin 4 → Word :=
  ![0#32, 0x08000000#32, if allow then 0x00080b0d#32 else 0x00080000#32,
    0x00001808#32]

theorem FinalCfg.words (hfinal : FinalCfg regs after allow) :
    ∀ index, after.cfg index =
      regs.cfg index &&& keepWords index ||| finalWords allow index := by
  refine forall_word ?_ hfinal.cfg1 hfinal.cfg2 hfinal.cfg3
  exact hfinal.cfg0.trans (BitVec.and_allOnes.symm.trans BitVec.or_zero.symm)

theorem FinalCfg.entryCfg (hfinal : FinalCfg regs after allow)
    (haudited : KeptAudited regs) (entry : Fin 16) :
    after.entryCfg entry = userCfg allow entry := by
  rw [entryCfg_of_words hfinal.words]
  by_cases hkept : entry ∈ keptEntries
  · have hvalue : ∀ entry ∈ keptEntries, cfgByte (finalWords allow) entry = 0#8 := by
      cases allow <;> decide
    rw [keepWords_kept entry hkept, hvalue entry hkept, BitVec.and_allOnes,
      BitVec.or_zero]
    exact haudited.entryCfg hkept
  · have hvalue : ∀ entry, entry ∉ keptEntries →
        cfgByte (finalWords allow) entry = userCfg allow entry := by
      cases allow <;> decide
    rw [keepWords_other entry hkept, BitVec.and_zero, BitVec.zero_or]
    exact hvalue entry hkept

variable {context : MmContext} {size addr : Word} {access : Access}

/-- Only the two user entries grant anything. -/
theorem userCfg_grants {entry : Fin 16}
    (hgrants : grants (userCfg allow entry) access = true) :
    allow = true ∧
      (entry = 8 ∧ access ≠ .write ∨ entry = 9 ∧ access ≠ .exec) := by
  revert entry
  cases allow <;> cases access <;> decide

/-- A map that a completed `micronux_user_pmp_program` leaves. -/
structure UserMap (regs : Registers) (lo execHi hi : Word) (allow : Bool) :
    Prop where
  cfg : ∀ entry, regs.entryCfg entry = userCfg allow entry
  kept : KeptAudited regs
  lo_read : regs.read pmpGrain (.addr 7) = cachedBound allow lo >>> 2
  execHi_read : regs.read pmpGrain (.addr 8) = cachedBound allow execHi >>> 2
  hi_read : regs.read pmpGrain (.addr 9) = cachedBound allow hi >>> 2

theorem userPmpProgram_userMap (haudited : KeptAudited regs)
    (hdone : userPmpProgram warl lo execHi hi allow regs = (after, true)) :
    UserMap after lo execHi hi allow := by
  have hcfg := (userPmpProgram_finalCfg hdone).entryCfg haudited
  have hreads := userPmpProgram_readsBack hdone
  simp only [readsBack, finalValues, addressWrites, List.cons_append,
    List.nil_append, List.all_cons, Bool.and_eq_true, beq_iff_eq] at hreads
  obtain ⟨-, -, -, hlo, hexec, hhi, -⟩ := hreads
  refine ⟨hcfg, ?_, hlo, hexec, hhi⟩
  -- a kept entry has the same byte and the same address register as before
  intro row hrow hkept
  have haddr : after.addr row.1 = regs.addr row.1 := by
    have hget : (userPmpProgram warl lo execHi hi allow regs).1.get
        (.addr row.1) = regs.get (.addr row.1) := by
      apply userPmpProgram_get
      revert hkept
      generalize row.1 = entry
      revert entry
      decide
    rw [hdone] at hget
    exact hget
  have hbyte : after.entryCfg row.1 = regs.entryCfg row.1 :=
    (hcfg row.1).trans (haudited.entryCfg hkept).symm
  have haudit := haudited row hrow hkept
  simp only [auditPmpEntry, Registers.read, haddr, hbyte] at haudit ⊢
  exact haudit

theorem eq_of_shiftLeft_two {value address : Word}
    (hshift : value <<< 2 = address) :
    ∃ high < 4, value = (address >>> 2) + BitVec.ofNat 32 high <<< 30 := by
  subst hshift
  have hvalue := value.isLt
  refine ⟨value.toNat / 2 ^ 30, by omega, BitVec.eq_of_toNat_eq ?_⟩
  simp only [BitVec.toNat_add, BitVec.toNat_ushiftRight,
    BitVec.toNat_shiftLeft, BitVec.toNat_ofNat, Nat.shiftLeft_eq,
    Nat.shiftRight_eq_div_pow]
  omega

def OutsidePool (region : Nat × Nat) : Prop :=
  region.2 ≤ userPoolStart.toNat ∨ userPoolEnd.toNat ≤ region.1

instance (region : Nat × Nat) : Decidable (OutsidePool region) :=
  inferInstanceAs (Decidable (_ ∨ _))

/-- What the loader cannot see, the two high bits of the register, moves a
range only by multiples of 4 GiB. -/
theorem napot_outsidePool {value address : Word}
    (hshift : value <<< 2 = address)
    (hcheck : ∀ high < 4, OutsidePool
      (napotRegion ((address >>> 2) + BitVec.ofNat 32 high <<< 30))) :
    OutsidePool (napotRegion value) := by
  obtain ⟨high, hhigh, rfl⟩ := eq_of_shiftLeft_two hshift
  exact hcheck high hhigh

namespace UserMap

section

variable (hmap : UserMap regs lo execHi hi allow)

include hmap

theorem audit (row : Fin 16 × Word × BitVec 8) (hrow : row ∈ auditTable true)
    (hkept : row.1 ∈ keptEntries) :
    regs.read pmpGrain (.addr row.1) <<< 2 = row.2.1 := by
  have haudit := hmap.kept row hrow hkept
  simp only [auditPmpEntry, Bool.and_eq_true, beq_iff_eq] at haudit
  exact haudit.1

theorem mode_eq {entry : Fin 16} {kind : Mode}
    (hcfg : mode (userCfg allow entry) = kind) :
    mode (regs.entryCfg entry) = kind :=
  (congrArg mode (hmap.cfg entry)).trans hcfg

/-- An audited NAPOT entry stays clear of the user pool. -/
theorem napot_outside (row : Fin 16 × Word × BitVec 8)
    (hrow : row ∈ auditTable true) (hkept : row.1 ∈ keptEntries)
    (hmode : mode (userCfg allow row.1) = .napot)
    (hcheck : ∀ high < 4, OutsidePool
      (napotRegion ((row.2.1 >>> 2) + BitVec.ofNat 32 high <<< 30))) :
    OutsidePool (regs.region pmpGrain row.1) := by
  rw [Registers.region_napot (hmap.mode_eq hmode)]
  exact napot_outsidePool (hmap.audit row hrow hkept) hcheck

theorem off_outside {entry : Fin 16}
    (hmode : mode (userCfg allow entry) = .off) :
    OutsidePool (regs.region pmpGrain entry) := by
  rw [Registers.region_off (hmap.mode_eq hmode)]
  decide

/-- The internal RAM of entries 3 and 4 lies behind the user pool. -/
theorem tor_outside : OutsidePool (regs.region pmpGrain 4) := by
  rw [Registers.region_tor (hmap.mode_eq (by cases allow <;> rfl))]
  have hread := congrArg BitVec.toNat
    (hmap.audit (3, 0x4ff00000#32, pmpDenyOffConfig) (by decide) (by decide))
  simp only [BitVec.toNat_shiftLeft, BitVec.toNat_ofNat, Nat.shiftLeft_eq]
    at hread
  right
  change userPoolEnd.toNat ≤ torBound pmpGrain (regs.read pmpGrain (.addr 3))
  simp only [torBound, pmpGrain, userPoolEnd, BitVec.toNat_ofNat] at hread ⊢
  omega

/-- The loader's first entries stay clear of the user pool. -/
theorem low_outside {entry : Fin 16} (hentry : entry < 7) :
    OutsidePool (regs.region pmpGrain entry) := by
  have hcases : entry = 0 ∨ entry = 1 ∨ entry = 2 ∨ entry = 3 ∨ entry = 4 ∨
      entry = 5 ∨ entry = 6 := by
    revert entry
    decide
  rcases hcases with rfl | rfl | rfl | rfl | rfl | rfl | rfl
  · exact hmap.napot_outside (0, 0x27fffffc#32, pmpDenyNapotConfig)
      (by decide) (by decide) (by cases allow <;> rfl) (by decide)
  · exact hmap.napot_outside (1, 0x3ff0fffc#32, pmpDenyNapotConfig)
      (by decide) (by decide) (by cases allow <;> rfl) (by decide)
  · exact hmap.napot_outside (2, 0x4fc0fffc#32, pmpDenyNapotConfig)
      (by decide) (by decide) (by cases allow <;> rfl) (by decide)
  · exact hmap.off_outside (by cases allow <;> rfl)
  · exact hmap.tor_outside
  · exact hmap.off_outside (by cases allow <;> rfl)
  · exact hmap.napot_outside (6, 0x41fffffc#32, pmpDenyNapotConfig)
      (by decide) (by decide) (by cases allow <;> rfl) (by decide)

end

end UserMap

theorem torBound_of_aligned {bound : Word}
    (haligned : bound.toNat % pmpGranularity = 0) :
    torBound pmpGrain (bound >>> 2) = bound.toNat := by
  simp only [torBound, pmpGrain, pmpGranularity, BitVec.toNat_ushiftRight,
    Nat.shiftRight_eq_div_pow] at haligned ⊢
  omega

/-- Bounds that the PMP can hold: two non-empty intervals of the pool. -/
structure PmpBounds (lo execHi hi : Word) : Prop where
  start_le : userPoolStart ≤ lo
  lo_lt : lo < execHi
  lt_hi : execHi < hi
  le_end : hi ≤ userPoolEnd
  lo_aligned : lo.toNat % pmpGranularity = 0
  execHi_aligned : execHi.toNat % pmpGranularity = 0
  hi_aligned : hi.toNat % pmpGranularity = 0

namespace UserMap

variable (hmap : UserMap regs lo execHi hi true)
  (hbounds : PmpBounds lo execHi hi)

include hmap hbounds

theorem region_deny : (regs.region pmpGrain 7).2 = lo.toNat := by
  rw [Registers.region_tor (hmap.mode_eq rfl), hmap.lo_read]
  exact torBound_of_aligned hbounds.lo_aligned

theorem region_text : regs.region pmpGrain 8 = (lo.toNat, execHi.toNat) := by
  rw [Registers.region_tor (hmap.mode_eq rfl), hmap.execHi_read]
  refine Prod.ext ?_ (torBound_of_aligned hbounds.execHi_aligned)
  change torBound pmpGrain (regs.read pmpGrain (.addr 7)) = lo.toNat
  rw [hmap.lo_read]
  exact torBound_of_aligned hbounds.lo_aligned

theorem region_data : regs.region pmpGrain 9 = (execHi.toNat, hi.toNat) := by
  rw [Registers.region_tor (hmap.mode_eq rfl), hmap.hi_read]
  refine Prod.ext ?_ (torBound_of_aligned hbounds.hi_aligned)
  change torBound pmpGrain (regs.read pmpGrain (.addr 8)) = execHi.toNat
  rw [hmap.execHi_read]
  exact torBound_of_aligned hbounds.execHi_aligned

variable {address : Nat}

/-- No entry before the user interval covers a byte of it. -/
theorem not_covers_low (hlo : lo.toNat ≤ address) (hhi : address < hi.toNat)
    {entry : Fin 16} (hentry : entry < 8) :
    ¬ regs.Covers pmpGrain entry address := by
  rintro ⟨hfirst, hbehind⟩
  by_cases hdeny : entry = 7
  · subst hdeny
    rw [hmap.region_deny hbounds] at hbehind
    omega
  · have hlow : entry < 7 := by omega
    have hstart := BitVec.le_def.mp hbounds.start_le
    have hend := BitVec.le_def.mp hbounds.le_end
    rcases hmap.low_outside hlow with houtside | houtside <;> omega

/-- The entry of the text decides about its bytes. -/
theorem permits_text (hlo : lo.toNat ≤ address) (hexec : address < execHi.toNat)
    (hgrants : grants (userCfg true 8) access = true) :
    regs.permits pmpGrain access address = true := by
  have hlt := BitVec.lt_def.mp hbounds.lt_hi
  apply Registers.permits_iff.mpr
  refine ⟨8, ?_, ?_, (hmap.cfg 8).symm ▸ hgrants⟩
  · unfold Registers.Covers
    rw [hmap.region_text hbounds]
    exact ⟨hlo, hexec⟩
  · intro earlier hearlier
    exact hmap.not_covers_low hbounds hlo (hexec.trans hlt) hearlier

/-- The entry of the data decides about its bytes. -/
theorem permits_data (hexec : execHi.toNat ≤ address) (hhi : address < hi.toNat)
    (hgrants : grants (userCfg true 9) access = true) :
    regs.permits pmpGrain access address = true := by
  have hlt := BitVec.lt_def.mp hbounds.lo_lt
  apply Registers.permits_iff.mpr
  refine ⟨9, ?_, ?_, (hmap.cfg 9).symm ▸ hgrants⟩
  · unfold Registers.Covers
    rw [hmap.region_data hbounds]
    exact ⟨hexec, hhi⟩
  · intro earlier hearlier
    by_cases htext : earlier = 8
    · subst htext
      rintro ⟨-, hbehind⟩
      rw [hmap.region_text hbounds] at hbehind
      exact absurd hbehind (Nat.not_lt.mpr hexec)
    · exact hmap.not_covers_low hbounds (hlt.le.trans hexec) hhi (by omega)

/-- What user mode may do with each byte. -/
theorem permits_iff : regs.permits pmpGrain access address = true ↔
      lo.toNat ≤ address ∧ address < execHi.toNat ∧ access ≠ .write ∨
      execHi.toNat ≤ address ∧ address < hi.toNat ∧ access ≠ .exec := by
  constructor
  · intro hpermits
    obtain ⟨entry, hcovers, -, hgrants⟩ := Registers.permits_iff.mp hpermits
    rw [hmap.cfg] at hgrants
    unfold Registers.Covers at hcovers
    obtain ⟨-, ⟨rfl, haccess⟩ | ⟨rfl, haccess⟩⟩ := userCfg_grants hgrants
    · rw [hmap.region_text hbounds] at hcovers
      exact .inl ⟨hcovers.1, hcovers.2, haccess⟩
    · rw [hmap.region_data hbounds] at hcovers
      exact .inr ⟨hcovers.1, hcovers.2, haccess⟩
  · rintro (⟨hlo, hexec, haccess⟩ | ⟨hexec, hhi, haccess⟩)
    · apply hmap.permits_text hbounds hlo hexec
      cases access with
      | read => rfl
      | write => exact absurd rfl haccess
      | exec => rfl
    · apply hmap.permits_data hbounds hexec hhi
      cases access with
      | read | write => rfl
      | exec => exact absurd rfl haccess

theorem permits_read : regs.permits pmpGrain .read address = true ↔
      lo.toNat ≤ address ∧ address < hi.toNat := by
  have hlt := BitVec.lt_def.mp hbounds.lo_lt
  have hlt' := BitVec.lt_def.mp hbounds.lt_hi
  simp only [hmap.permits_iff hbounds, ne_eq, reduceCtorEq,
    not_false_eq_true, and_true]
  omega

theorem permits_write : regs.permits pmpGrain .write address = true ↔
      execHi.toNat ≤ address ∧ address < hi.toNat := by
  simp [hmap.permits_iff hbounds]

theorem permits_exec : regs.permits pmpGrain .exec address = true ↔
      lo.toNat ≤ address ∧ address < execHi.toNat := by
  simp [hmap.permits_iff hbounds]

end UserMap

/-- A completed call with `allow` grants user mode the text to read and
execute and the rest of the bounds to read and write, and nothing else; one
without `allow` grants nothing. -/
theorem userPmpProgram_permits (haudited : KeptAudited regs) :
    (∀ lo execHi hi after, PmpBounds lo execHi hi →
      userPmpProgram warl lo execHi hi true regs = (after, true) →
      ∀ address : Word, (after.permits pmpGrain .read address.toNat = true ↔
          lo ≤ address ∧ address < hi) ∧
        (after.permits pmpGrain .write address.toNat = true ↔
          execHi ≤ address ∧ address < hi) ∧
        (after.permits pmpGrain .exec address.toNat = true ↔
          lo ≤ address ∧ address < execHi) ∧
        ¬ (after.permits pmpGrain .write address.toNat = true ∧
          after.permits pmpGrain .exec address.toNat = true)) ∧
    ∀ lo execHi hi after,
      userPmpProgram warl lo execHi hi false regs = (after, true) →
      ∀ (access : Access) (address : Word),
        after.permits pmpGrain access address.toNat = false := by
  constructor
  · intro lo execHi hi after hbounds hdone address
    have hmap := userPmpProgram_userMap haudited hdone
    refine ⟨hmap.permits_read hbounds, hmap.permits_write hbounds,
      hmap.permits_exec hbounds, ?_⟩
    rintro ⟨hwrite, hexec⟩
    exact absurd ((hmap.permits_exec hbounds).mp hexec).2
      (Nat.not_lt.mpr ((hmap.permits_write hbounds).mp hwrite).1)
  · intro lo execHi hi after hdone access address
    have hmap := userPmpProgram_userMap haudited hdone
    by_contra hpermits
    obtain ⟨entry, -, -, hgrants⟩ :=
      Registers.permits_iff.mp (Bool.not_eq_false _ ▸ hpermits)
    rw [hmap.cfg] at hgrants
    exact absurd (userCfg_grants hgrants).1 Bool.false_ne_true

def writeThrough : Warl := fun _ _ value => value

def handoffRegisters : Registers where
  cfg := ![0x00181818#32, 0x00180008#32, 0x18000000#32, 0x180f0000#32]
  addr := ![0x09ffffff#32, 0x0ffc3fff#32, 0x13f03fff#32, 0x13fc0000#32,
    0x13ff0000#32, 0#32, 0x107fffff#32, 0#32, 0#32, 0#32, 0#32, 0x14042fff#32,
    0#32, 0x12100000#32, 0x127c0000#32, 0x1401ffff#32]

example : auditM7EarlyPmp true handoffRegisters = true := by decide

theorem handoff_userPmpProgram_permits : KeptAudited handoffRegisters ∧ ∃ after,
      userPmpProgram writeThrough 0x49700000#32 0x49701000#32 0x49703000#32 true
        handoffRegisters = (after, true) ∧
      after.permits pmpGrain .exec 0x49700ffc = true ∧
      after.permits pmpGrain .write 0x49700ffc = false := by
  have haudited : KeptAudited handoffRegisters := by decide
  have hbounds : PmpBounds 0x49700000#32 0x49701000#32 0x49703000#32 :=
    ⟨by decide, by decide, by decide, by decide, by decide, by decide,
      by decide⟩
  obtain ⟨after, hdone⟩ : ∃ after, userPmpProgram writeThrough 0x49700000#32
      0x49701000#32 0x49703000#32 true handoffRegisters = (after, true) :=
    ⟨_, Prod.ext rfl (by decide)⟩
  obtain ⟨-, hwrite, hexec, -⟩ :=
    (userPmpProgram_permits haudited).1 _ _ _ _ hbounds hdone 0x49700ffc#32
  refine ⟨haudited, after, hdone, hexec.mpr (by decide), ?_⟩
  exact Bool.eq_false_iff.mpr fun hpermits =>
    absurd (hwrite.mp hpermits).1 (by decide)

theorem ite_error_eq_ok {ε α : Type} {failed : Prop} [Decidable failed]
    {error : ε} {rest : Except ε α} {value : α} :
    (if failed then .error error else rest) = .ok value ↔
      ¬ failed ∧ rest = .ok value := by
  by_cases hfailed : failed
  · simp [hfailed]
  · simp [hfailed]

/-- A context that passes every check of `micronux_user_pmp_prepare_return`
but the readback. -/
structure Returnable (context : MmContext) : Prop where
  split : context.Split
  bounds : PmpBounds context.userLo context.userExecHi context.userHi
  sigreturn : context.userSigreturn = context.userLo
  sigreturn_fits : 8#32 ≤ context.userExecHi - context.userSigreturn

theorem prepareReturnChecks_ok {poolReady : Bool}
    {bounds : Word × Word × Word} :
    prepareReturnChecks poolReady (some context) = .ok bounds ↔
      poolReady = true ∧ Returnable context ∧
        (context.userLo, context.userExecHi, context.userHi) = bounds := by
  simp only [prepareReturnChecks, ite_error_eq_ok, Except.ok.injEq,
    Bool.or_eq_true, Bool.not_eq_true', decide_eq_true_eq, not_or, isAligned,
    beq_eq_false_iff_ne, ne_eq, not_not, Bool.not_eq_false, BitVec.not_lt,
    BitVec.not_le]
  constructor
  · rintro ⟨⟨⟨hready, hvalid⟩, hwx⟩,
      ⟨⟨⟨⟨⟨⟨hstart, hend⟩, hlo⟩, hhi⟩, hloAligned⟩, hexecAligned⟩, hhiAligned⟩,
      ⟨hsig, hfits⟩, hbounds⟩
    exact ⟨hready, ⟨⟨hvalid, hwx⟩, ⟨hstart, hlo, hhi, hend, hloAligned,
      hexecAligned, hhiAligned⟩, hsig, hfits⟩, hbounds⟩
  · rintro ⟨hready, ⟨⟨hvalid, hwx⟩, hpmp, hsig, hfits⟩, hbounds⟩
    exact ⟨⟨⟨hready, hvalid⟩, hwx⟩, ⟨⟨⟨⟨⟨⟨hpmp.start_le, hpmp.le_end⟩,
      hpmp.lo_lt⟩, hpmp.lt_hi⟩, hpmp.lo_aligned⟩, hpmp.execHi_aligned⟩,
      hpmp.hi_aligned⟩, ⟨hsig, hfits⟩, hbounds⟩

/-- When the call returns, the overlay of the context is installed. -/
theorem userPmpPrepareReturn_ok {poolReady : Bool} (haudited : KeptAudited regs)
    (hreturn : userPmpPrepareReturn warl poolReady (some context) regs =
      (after, .ok ())) :
    Returnable context ∧
      UserMap after context.userLo context.userExecHi context.userHi true := by
  unfold userPmpPrepareReturn at hreturn
  cases hchecks : prepareReturnChecks poolReady (some context) with
  | error reason =>
    rw [hchecks] at hreturn
    exact absurd (congrArg Prod.snd hreturn) (by simp)
  | ok bounds =>
    obtain ⟨-, hreturnable, rfl⟩ := prepareReturnChecks_ok.mp hchecks
    rw [hchecks] at hreturn
    dsimp only at hreturn
    split at hreturn
    · next installed hdone =>
        obtain rfl : installed = after := congrArg Prod.fst hreturn
        exact ⟨hreturnable, userPmpProgram_userMap haudited hdone⟩
    · exact absurd (congrArg Prod.snd hreturn) (by simp)

/-- The subtractive range check on words is the check on mathematical
integers: nothing wraps around. -/
theorem size_le_sub_iff {lo hi : Word} :
    lo ≤ addr ∧ addr ≤ hi ∧ size ≤ hi - addr ↔
      lo.toNat ≤ addr.toNat ∧ addr.toNat + size.toNat ≤ hi.toNat := by
  bv_omega

theorem userAccessOk_iff (hreturn : Returnable context) :
    userAccessOk context addr size = true ↔ context.userLo.toNat ≤ addr.toNat ∧
        addr.toNat + size.toNat ≤ context.userHi.toNat := by
  obtain ⟨⟨hvalid, -⟩, hbounds, -⟩ := hreturn
  have hlt : context.userLo < context.userHi :=
    BitVec.lt_trans hbounds.lo_lt hbounds.lt_hi
  rw [← size_le_sub_iff]
  simp only [userAccessOk, hvalid, Bool.not_true, Bool.false_eq_true, if_false,
    BitVec.not_lt.mpr hbounds.start_le, BitVec.not_lt.mpr hbounds.le_end,
    BitVec.not_le.mpr hlt, decide_false, Bool.false_or, Bool.or_eq_true,
    decide_eq_true_eq]
  split
  · next hrange =>
      simp only [Bool.false_eq_true, false_iff]
      rintro ⟨hlo, hhi, -⟩
      rcases hrange with hrange | hrange
      · exact BitVec.not_lt.mpr hlo hrange
      · exact BitVec.not_lt.mpr hhi hrange
  · next hrange =>
      simp only [not_or, BitVec.not_lt] at hrange
      simp [hrange]

theorem userWriteOk_iff (hreturn : Returnable context) (hsize : size ≠ 0) :
    userWriteOk context addr size = true ↔
      context.userExecHi.toNat ≤ addr.toNat ∧
        addr.toNat + size.toNat ≤ context.userHi.toNat := by
  obtain ⟨⟨hvalid, hwx⟩, hbounds, -⟩ := hreturn
  have hlt : context.userLo < context.userHi :=
    BitVec.lt_trans hbounds.lo_lt hbounds.lt_hi
  rw [← size_le_sub_iff]
  simp only [userWriteOk, hvalid, hwx, hsize, Bool.not_true,
    Bool.false_eq_true, if_false, beq_iff_eq,
    BitVec.not_lt.mpr hbounds.start_le, BitVec.not_lt.mpr hbounds.le_end,
    BitVec.not_le.mpr hlt, decide_false, Bool.false_or, Bool.or_eq_true,
    decide_eq_true_eq, hbounds.lo_lt, hbounds.lt_hi, decide_true,
    Bool.true_and]
  split
  · next hrange =>
      simp only [Bool.false_eq_true, false_iff]
      rintro ⟨hexec, hhi, hfits⟩
      rcases hrange with (hrange | hrange) | hrange
      · exact BitVec.not_lt.mpr
          (BitVec.le_trans (BitVec.le_of_lt hbounds.lo_lt) hexec) hrange
      · exact BitVec.not_lt.mpr hhi hrange
      · exact BitVec.not_lt.mpr hfits hrange
  · next hrange =>
      simp only [not_or, BitVec.not_lt] at hrange
      simp [hrange]

theorem range_subset_iff {first count lo hi : Nat} (hpos : 0 < count) :
    (∀ byte, first ≤ byte → byte < first + count → lo ≤ byte ∧ byte < hi) ↔
      lo ≤ first ∧ first + count ≤ hi := by
  constructor
  · intro hrange
    have hfirst := hrange first le_rfl (by omega)
    have hlast := hrange (first + count - 1) (by omega) (by omega)
    omega
  · intro hrange byte hfirst hlast
    omega

/-- A pointer check accepts a non-empty range exactly when the installed
overlay lets user mode read, or write, every byte of it. -/
theorem userRangeOk_iff_permits {poolReady : Bool} {context : MmContext}
    (haudited : KeptAudited regs)
    (hreturn : userPmpPrepareReturn warl poolReady (some context) regs =
      (after, .ok ())) (addr size : Word) (hsize : size ≠ 0) :
    (userAccessOk context addr size = true ↔
      ∀ byte, addr.toNat ≤ byte → byte < addr.toNat + size.toNat →
        after.permits pmpGrain .read byte = true) ∧
    (userWriteOk context addr size = true ↔
      ∀ byte, addr.toNat ≤ byte → byte < addr.toNat + size.toNat →
        after.permits pmpGrain .write byte = true) := by
  obtain ⟨hreturnable, hmap⟩ := userPmpPrepareReturn_ok haudited hreturn
  have hpos : 0 < size.toNat := by
    apply Nat.pos_of_ne_zero
    exact fun hzero => hsize (BitVec.eq_of_toNat_eq hzero)
  constructor
  · simp only [userAccessOk_iff hreturnable,
      hmap.permits_read hreturnable.bounds]
    exact (range_subset_iff hpos).symm
  · simp only [userWriteOk_iff hreturnable hsize,
      hmap.permits_write hreturnable.bounds]
    exact (range_subset_iff hpos).symm

def threePageContext : MmContext where
  userArena := some 0
  userLo := 0x49700000#32
  userExecHi := 0x49701000#32
  userHi := 0x49703000#32
  userSigreturn := 0x49700000#32
  userBoundsValid := true
  userWxValid := true

theorem threePageContext_rangeOk : KeptAudited handoffRegisters ∧ ∃ after,
      userPmpPrepareReturn writeThrough true (some threePageContext)
        handoffRegisters = (after, .ok ()) ∧
      ∀ byte, 0x49701000 ≤ byte → byte < 0x49703000 →
        after.permits pmpGrain .write byte = true := by
  have haudited : KeptAudited handoffRegisters := by decide
  obtain ⟨after, hreturn⟩ : ∃ after, userPmpPrepareReturn writeThrough true
      (some threePageContext) handoffRegisters = (after, .ok ()) :=
    ⟨_, Prod.ext rfl (by decide)⟩
  have hrange := userRangeOk_iff_permits haudited hreturn 0x49701000#32
    0x2000#32 (by decide)
  exact ⟨haudited, after, hreturn, hrange.2.mp (by decide)⟩

end Micronux
