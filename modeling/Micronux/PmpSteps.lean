/-
The map of the PMP between the CSR writes of `micronux_user_pmp_program`: what
user mode is granted at every moment is what it was granted before the call,
nothing, or what the completed call grants.
-/
import Micronux.UserMap

namespace Micronux

open Pmp

variable {lo execHi hi : Word} {allow : Bool} {regs after : Registers}

/-- All CSR writes of `micronux_user_pmp_program`, in its order. -/
def programWrites (regs : Registers) (lo execHi hi : Word) (allow : Bool) :
    List (Csr × Word) :=
  revokeWrites regs ++ (addressWrites lo execHi hi allow ++
    configWrites regs allow)

/-- The registers after the first `count` writes, each of which takes
effect. -/
def afterWrites (regs : Registers) (lo execHi hi : Word) (allow : Bool)
    (count : Nat) : Registers :=
  regs.writeAll writeThrough ((programWrites regs lo execHi hi allow).take count)

/-- The maps that a call starts from: the loader's, or what an earlier call
has completed. -/
inductive PmpStart : Registers → Prop
  | handoff {regs : Registers} (haudit : auditM7EarlyPmp true regs = true) :
      PmpStart regs
  | completed {warl : Warl} {before regs : Registers} {lo execHi hi : Word}
      {allow : Bool} (hstart : PmpStart before)
      (hbounds : allow = true → PmpBounds lo execHi hi)
      (hdone : userPmpProgram warl lo execHi hi allow before = (regs, true)) :
      PmpStart regs

theorem keptAudited_of_audit (haudit : auditM7EarlyPmp true regs = true) :
    KeptAudited regs :=
  fun row hrow _ => List.all_eq_true.mp haudit row hrow

theorem PmpStart.kept (hstart : PmpStart regs) : KeptAudited regs := by
  induction hstart with
  | handoff haudit => exact keptAudited_of_audit haudit
  | completed _ _ hdone ih => exact (userPmpProgram_userMap ih hdone).kept

def Silent (regs : Registers) : Prop :=
  ∀ entry access, grants (regs.entryCfg entry) access = false

theorem Silent.permits (hsilent : Silent regs) (access : Access)
    (address : Nat) : regs.permits pmpGrain access address = false := by
  by_contra hpermits
  obtain ⟨entry, -, -, hgrants⟩ :=
    Registers.permits_iff.mp (Bool.not_eq_false _ ▸ hpermits)
  rw [hsilent entry access] at hgrants
  cases hgrants

section Muted

/-- Nothing is granted by the kept entries and by bytes without permissions. -/
theorem silent_of_words {values : Fin 4 → Word} (haudited : KeptAudited regs)
    (hwords : ∀ index,
      after.cfg index = regs.cfg index &&& keepWords index ||| values index)
    (hvalues : ∀ entry access, grants (cfgByte values entry) access = false) :
    Silent after := by
  intro entry access
  rw [entryCfg_of_words hwords, grants_or, hvalues, Bool.or_false, grants_and]
  by_cases hkept : entry ∈ keptEntries
  · have hdenied : ∀ entry, grants (userCfg false entry) access = false := by
      cases access <;> decide
    have hcfg : regs.entryCfg entry = userCfg false entry :=
      haudited.entryCfg hkept
    rw [hcfg, hdenied, Bool.false_and]
  · rw [keepWords_other entry hkept, grants_zero, Bool.and_false]

def denyWords (deny1 deny2 deny3 : Bool) : Fin 4 → Word :=
  ![0#32, if deny1 then 0x08000000#32 else 0#32,
    if deny2 then 0x00080000#32 else 0#32,
    if deny3 then 0x00001808#32 else 0#32]

theorem denyWords_silent (deny1 deny2 deny3 : Bool) (entry : Fin 16)
    (access : Access) :
    grants (cfgByte (denyWords deny1 deny2 deny3) entry) access = false := by
  revert entry
  cases deny1 <;> cases deny2 <;> cases deny3 <;> cases access <;> decide

/-- From the third write on the words are revoked, and the deny entries come
back one word after the other. -/
theorem denyWords_afterWrites {count : Nat} (hlow : 3 ≤ count)
    (hhigh : count < 13) : ∃ deny1 deny2 deny3, ∀ index,
      (afterWrites regs lo execHi hi allow count).cfg index =
        regs.cfg index &&& keepWords index |||
          denyWords deny1 deny2 deny3 index := by
  have hfirst : regs.cfg 0 = regs.cfg 0 &&& BitVec.allOnes 32 ||| 0#32 :=
    BitVec.and_allOnes.symm.trans BitVec.or_zero.symm
  have hrevoked : ∀ word mask : Word, word &&& mask = word &&& mask ||| 0#32 :=
    fun _ _ => BitVec.or_zero.symm
  by_cases hcfg3 : count < 10
  · refine ⟨false, false, false, forall_word ?_ ?_ ?_ ?_⟩
    all_goals obtain rfl | rfl | rfl | rfl | rfl | rfl | rfl : count = 3 ∨
      count = 4 ∨ count = 5 ∨ count = 6 ∨ count = 7 ∨ count = 8 ∨
        count = 9 := by omega
    all_goals first | exact hfirst | exact hrevoked _ _
  · have hdeny3 : finalCfg3 regs =
        regs.cfg 3 &&& pmpcfg3Keep ||| 0x00001808#32 := BitVec.or_assoc ..
    obtain rfl | rfl | rfl : count = 10 ∨ count = 11 ∨ count = 12 := by omega
    · refine ⟨false, false, true, forall_word hfirst ?_ ?_ hdeny3⟩
      · exact hrevoked _ _
      · exact hrevoked _ _
    · refine ⟨false, true, true, forall_word hfirst ?_ rfl hdeny3⟩
      exact hrevoked _ _
    · exact ⟨true, true, true, forall_word hfirst rfl rfl hdeny3⟩

end Muted

variable {entry : Fin 16}

section Revoked

def firstRevoked (regs : Registers) : Registers :=
  regs.write writeThrough (.cfg 1) (regs.cfg 1 &&& pmpcfg1Keep)

def secondRevoked (regs : Registers) : Registers :=
  (firstRevoked regs).write writeThrough (.cfg 2) (regs.cfg 2 &&& pmpcfg2Keep)

/-- The entries that a mask leaves on keep their byte. -/
theorem entryCfg_of_mask {mask : Fin 4 → Word} (hwords : ∀ index,
      after.cfg index = regs.cfg index &&& mask index) (entry : Fin 16) :
    after.entryCfg entry = regs.entryCfg entry &&& cfgByte mask entry := by
  simp only [Registers.entryCfg, cfgByte, hwords, BitVec.extractLsb'_and]

def firstMask : Fin 4 → Word :=
  ![BitVec.allOnes 32, pmpcfg1Keep, BitVec.allOnes 32, BitVec.allOnes 32]

def secondMask : Fin 4 → Word :=
  ![BitVec.allOnes 32, pmpcfg1Keep, pmpcfg2Keep, BitVec.allOnes 32]

theorem firstRevoked_cfg : ∀ index,
    (firstRevoked regs).cfg index = regs.cfg index &&& firstMask index := by
  refine forall_word ?_ rfl ?_ ?_
  all_goals exact BitVec.and_allOnes.symm

theorem secondRevoked_cfg : ∀ index,
    (secondRevoked regs).cfg index = regs.cfg index &&& secondMask index := by
  refine forall_word ?_ rfl rfl ?_
  all_goals exact BitVec.and_allOnes.symm

theorem firstRevoked_off : (firstRevoked regs).entryCfg 7 = 0#8 :=
  (entryCfg_of_mask firstRevoked_cfg 7).trans BitVec.and_zero

theorem firstRevoked_entryCfg (hentry : entry ≠ 7) :
    (firstRevoked regs).entryCfg entry = regs.entryCfg entry := by
  have hmask : ∀ entry : Fin 16, entry ≠ 7 →
      cfgByte firstMask entry = BitVec.allOnes 8 := by decide
  rw [entryCfg_of_mask firstRevoked_cfg, hmask entry hentry, BitVec.and_allOnes]

theorem secondRevoked_off (hlow : 7 ≤ entry) (hhigh : entry ≤ 10) :
    (secondRevoked regs).entryCfg entry = 0#8 := by
  have hmask : ∀ entry : Fin 16, 7 ≤ entry → entry ≤ 10 →
      cfgByte secondMask entry = 0#8 := by decide
  rw [entryCfg_of_mask secondRevoked_cfg, hmask entry hlow hhigh,
    BitVec.and_zero]

theorem secondRevoked_entryCfg (hentry : entry < 7 ∨ 10 < entry) :
    (secondRevoked regs).entryCfg entry = regs.entryCfg entry := by
  have hmask : ∀ entry : Fin 16, entry < 7 ∨ 10 < entry →
      cfgByte secondMask entry = BitVec.allOnes 8 := by decide
  rw [entryCfg_of_mask secondRevoked_cfg, hmask entry hentry,
    BitVec.and_allOnes]

end Revoked

/-- Whatever one map grants user mode the other grants as well. -/
def GrantsWithin (regs after : Registers) : Prop :=
  ∀ access address, regs.permits pmpGrain access address = true →
    after.permits pmpGrain access address = true

theorem Silent.grantsWithin (hsilent : Silent regs) :
    GrantsWithin regs after := by
  intro access address hpermits
  rw [hsilent.permits] at hpermits
  cases hpermits

theorem grantsWithin_of_same (hcfg : ∀ entry,
      regs.entryCfg entry = after.entryCfg entry)
    (haddr : regs.addr = after.addr) : GrantsWithin regs after := by
  have hread : ∀ entry, regs.read pmpGrain (.addr entry) =
      after.read pmpGrain (.addr entry) := by
    intro entry
    simp only [Registers.read, hcfg, haddr]
  have hcovers : ∀ entry address, regs.Covers pmpGrain entry address ↔
      after.Covers pmpGrain entry address := by
    intro entry address
    simp only [Registers.Covers, Registers.region, Registers.torBase, hcfg,
      hread]
  intro access address hpermits
  obtain ⟨entry, hcovered, hearlier, hgrants⟩ :=
    Registers.permits_iff.mp hpermits
  exact Registers.permits_iff.mpr ⟨entry, (hcovers entry address).mp hcovered,
    fun earlier hlt hcovered =>
      hearlier earlier hlt ((hcovers earlier address).mpr hcovered),
    (hcfg entry) ▸ hgrants⟩

section Handoff

variable (haudit : auditM7EarlyPmp true regs = true)

include haudit

/-- The loader leaves the entries of the overlay off. -/
theorem handoff_entryCfg (hlow : 7 ≤ entry) (hhigh : entry ≤ 10) :
    regs.entryCfg entry = 0#8 := by
  have hrow : (entry, 0x00000000#32, 0x00#8) ∈ auditTable true := by
    revert entry
    decide
  have hentry := List.all_eq_true.mp haudit _ hrow
  simp only [auditPmpEntry, Bool.and_eq_true, beq_iff_eq] at hentry
  exact hentry.2

theorem handoff_firstRevoked : GrantsWithin (firstRevoked regs) regs := by
  refine grantsWithin_of_same (fun entry => ?_) rfl
  by_cases hentry : entry = 7
  · subst hentry
    rw [handoff_entryCfg haudit (by decide) (by decide)]
    exact firstRevoked_off
  · exact firstRevoked_entryCfg hentry

theorem handoff_secondRevoked : GrantsWithin (secondRevoked regs) regs := by
  refine grantsWithin_of_same (fun entry => ?_) rfl
  by_cases hentry : entry < 7 ∨ 10 < entry
  · exact secondRevoked_entryCfg hentry
  · rw [handoff_entryCfg haudit (by omega) (by omega)]
    exact secondRevoked_off (by omega) (by omega)

end Handoff

namespace UserMap

/-- Without the deny entry below them, the user entries still cover their own
bytes only: a TOR entry takes its lower bound from the register of the entry
before, on or off. -/
theorem region_firstRevoked (hmap : UserMap regs lo execHi hi allow)
    (hentry : entry = 8 ∨ entry = 9) :
    (firstRevoked regs).region pmpGrain entry = regs.region pmpGrain entry := by
  have hoff : mode ((firstRevoked regs).entryCfg 7) = .off :=
    congrArg mode firstRevoked_off
  have htor : mode (regs.entryCfg 7) = .tor :=
    hmap.mode_eq (by cases allow <;> rfl)
  have hbelow : (firstRevoked regs).read pmpGrain (.addr 7) =
      regs.read pmpGrain (.addr 7) := by
    simp only [Registers.read, hoff, htor]
    rfl
  have hread : ∀ entry : Fin 16, entry ≠ 7 →
      (firstRevoked regs).read pmpGrain (.addr entry) =
        regs.read pmpGrain (.addr entry) := by
    intro entry hentry
    simp only [Registers.read, firstRevoked_entryCfg hentry]
    rfl
  have hbase : (firstRevoked regs).torBase pmpGrain entry =
      regs.torBase pmpGrain entry := by
    rcases hentry with rfl | rfl
    · exact congrArg (torBound pmpGrain) hbelow
    · exact congrArg (torBound pmpGrain) (hread 8 (by decide))
  have hne : entry ≠ 7 := by omega
  simp only [Registers.region, firstRevoked_entryCfg hne, hread entry hne, hbase]

theorem firstRevoked_within (hmap : UserMap regs lo execHi hi allow)
    (hbounds : allow = true → PmpBounds lo execHi hi) :
    GrantsWithin (firstRevoked regs) regs := by
  intro access address hpermits
  obtain ⟨entry, hcovers, -, hgrants⟩ := Registers.permits_iff.mp hpermits
  have hne : entry ≠ 7 := by
    rintro rfl
    rw [firstRevoked_off] at hgrants
    cases access <;> cases hgrants
  rw [firstRevoked_entryCfg hne, hmap.cfg] at hgrants
  obtain ⟨rfl, huser⟩ := userCfg_grants hgrants
  unfold Registers.Covers at hcovers
  rw [hmap.region_firstRevoked (huser.imp And.left And.left)] at hcovers
  have hvalid := hbounds rfl
  rcases huser with ⟨rfl, haccess⟩ | ⟨rfl, haccess⟩
  · rw [hmap.region_text hvalid] at hcovers
    exact (hmap.permits_iff hvalid).mpr (.inl ⟨hcovers.1, hcovers.2, haccess⟩)
  · rw [hmap.region_data hvalid] at hcovers
    exact (hmap.permits_iff hvalid).mpr (.inr ⟨hcovers.1, hcovers.2, haccess⟩)

theorem secondRevoked_silent (hmap : UserMap regs lo execHi hi allow) :
    Silent (secondRevoked regs) := by
  intro entry access
  by_cases hentry : entry < 7 ∨ 10 < entry
  · rw [secondRevoked_entryCfg hentry, hmap.cfg]
    refine Bool.eq_false_iff.mpr fun hgrants => ?_
    have huser := (userCfg_grants hgrants).2
    omega
  · rw [secondRevoked_off (by omega) (by omega)]
    cases access <;> rfl

end UserMap

namespace PmpStart

theorem firstRevoked_within (hstart : PmpStart regs) :
    GrantsWithin (firstRevoked regs) regs := by
  cases hstart with
  | handoff haudit => exact handoff_firstRevoked haudit
  | completed hbefore hbounds hdone =>
    exact (userPmpProgram_userMap hbefore.kept hdone).firstRevoked_within
      hbounds

theorem secondRevoked_within (hstart : PmpStart regs) :
    GrantsWithin (secondRevoked regs) regs := by
  cases hstart with
  | handoff haudit => exact handoff_secondRevoked haudit
  | completed hbefore _ hdone =>
    exact (userPmpProgram_userMap hbefore.kept hdone).secondRevoked_silent
      |>.grantsWithin

end PmpStart

section Completed

theorem read_of_aligned {bound : Word}
    (hmode : mode (regs.entryCfg entry) = .off ∨
      mode (regs.entryCfg entry) = .tor)
    (hbound : bound.toNat % pmpGranularity = 0)
    (haddr : regs.addr entry = bound >>> 2) :
    regs.read pmpGrain (.addr entry) = bound >>> 2 := by
  have hlow : bound >>> 2 >>> pmpGrain <<< pmpGrain = bound >>> 2 := by
    have hlt := bound.isLt
    apply BitVec.eq_of_toNat_eq
    simp only [pmpGranularity] at hbound
    simp only [pmpGrain, BitVec.toNat_shiftLeft, BitVec.toNat_ushiftRight,
      Nat.shiftLeft_eq, Nat.shiftRight_eq_div_pow]
    omega
  rcases hmode with hmode | hmode
  · simp only [Registers.read, hmode, haddr, hlow]
  · simp only [Registers.read, hmode, haddr, hlow]

theorem cachedBound_aligned {bound : Word}
    (hbound : allow = true → bound.toNat % pmpGranularity = 0) :
    (cachedBound allow bound).toNat % pmpGranularity = 0 := by
  cases allow with
  | false =>
    have htop : cachedDenyTop.toNat % pmpGranularity = 0 := by decide
    exact htop
  | true => exact hbound rfl

theorem writeAll_finalCfg : FinalCfg regs
    (regs.writeAll writeThrough (programWrites regs lo execHi hi allow))
    allow := by
  refine ⟨rfl, rfl, ?_, BitVec.or_assoc ..⟩
  cases allow with
  | false => rfl
  | true => exact (BitVec.or_assoc ..).trans (BitVec.or_assoc ..)

theorem writeAll_readsBack (haudited : KeptAudited regs)
    (hbounds : allow = true → PmpBounds lo execHi hi) :
    readsBack
      (regs.writeAll writeThrough (programWrites regs lo execHi hi allow))
      (finalValues regs lo execHi hi allow) = true := by
  have hmode : ∀ {entry : Fin 16} {kind : Mode},
      mode (userCfg allow entry) = kind → mode ((regs.writeAll writeThrough
        (programWrites regs lo execHi hi allow)).entryCfg entry) = kind :=
    fun hkind => (congrArg mode (writeAll_finalCfg.entryCfg haudited _)).trans
      hkind
  -- the two entries of the user interval are off without `allow`
  have huser : ∀ entry : Fin 16, entry = 8 ∨ entry = 9 →
      mode (userCfg allow entry) = .off ∨ mode (userCfg allow entry) = .tor := by
    cases allow <;> decide
  simp only [readsBack, finalValues, addressWrites, List.cons_append,
    List.nil_append, List.all_cons, List.all_nil, Bool.and_true,
    Bool.and_eq_true, beq_iff_eq]
  refine ⟨rfl, rfl, rfl, ?_, ?_, ?_, ?_, ?_, ?_⟩
  · exact read_of_aligned (.inr (hmode (by cases allow <;> rfl)))
      (cachedBound_aligned fun hallow => (hbounds hallow).lo_aligned) rfl
  · exact read_of_aligned ((huser 8 (.inl rfl)).imp hmode hmode)
      (cachedBound_aligned fun hallow => (hbounds hallow).execHi_aligned) rfl
  · exact read_of_aligned ((huser 9 (.inr rfl)).imp hmode hmode)
      (cachedBound_aligned fun hallow => (hbounds hallow).hi_aligned) rfl
  · exact read_of_aligned (.inr (hmode (by cases allow <;> rfl))) (by decide) rfl
  · exact read_of_aligned (.inr (hmode (by cases allow <;> rfl))) (by decide) rfl
  · have hnapot : mode ((regs.writeAll writeThrough
        (programWrites regs lo execHi hi allow)).entryCfg 13) = .napot :=
      hmode (by cases allow <;> rfl)
    have haddr : (regs.writeAll writeThrough
        (programWrites regs lo execHi hi allow)).addr 13 = pmpaddrFinalDeny :=
      rfl
    simp only [Registers.read, hnapot, haddr]
    decide

/-- When every write takes effect, every check of the call passes. -/
theorem userPmpProgram_writes (haudited : KeptAudited regs)
    (hbounds : allow = true → PmpBounds lo execHi hi) :
    userPmpProgram writeThrough lo execHi hi allow regs =
      (regs.writeAll writeThrough (programWrites regs lo execHi hi allow),
        true) := by
  have hrevoked : readsBack (regs.writeAll writeThrough (revokeWrites regs))
      (revokeWrites regs) = true := by
    simp only [readsBack, revokeWrites, List.all_cons, List.all_nil,
      Bool.and_true, Bool.and_eq_true, beq_iff_eq]
    exact ⟨rfl, rfl, rfl⟩
  have hsplit : (regs.writeAll writeThrough (revokeWrites regs)).writeAll
      writeThrough (addressWrites lo execHi hi allow ++
        configWrites regs allow) =
      regs.writeAll writeThrough (programWrites regs lo execHi hi allow) :=
    List.foldl_append.symm
  unfold userPmpProgram
  simp only [hrevoked, Bool.not_true, Bool.false_eq_true, if_false, hsplit,
    writeAll_readsBack haudited hbounds]

end Completed

/-- After every single write of a call, user mode is granted no more than
before the call, or no more than the completed call grants; between the last
revoking write and the one that enables the user interval, nothing. -/
theorem userPmpProgram_steps (hstart : PmpStart regs)
    (hbounds : allow = true → PmpBounds lo execHi hi) :
    (userPmpProgram writeThrough lo execHi hi allow regs).2 = true ∧
    (userPmpProgram writeThrough lo execHi hi allow regs).1 =
      afterWrites regs lo execHi hi allow
        (programWrites regs lo execHi hi allow).length ∧
    (∀ count, GrantsWithin (afterWrites regs lo execHi hi allow count) regs ∨
      GrantsWithin (afterWrites regs lo execHi hi allow count)
        (userPmpProgram writeThrough lo execHi hi allow regs).1) ∧
    ∀ count, 3 ≤ count →
      count < (programWrites regs lo execHi hi allow).length →
      ∀ access address, (afterWrites regs lo execHi hi allow count).permits
        pmpGrain access address = false := by
  have hwrites := userPmpProgram_writes hstart.kept hbounds
  have hsilent : ∀ count, 3 ≤ count → count < 13 →
      Silent (afterWrites regs lo execHi hi allow count) := by
    intro count hlow hhigh
    obtain ⟨deny1, deny2, deny3, hwords⟩ := denyWords_afterWrites hlow hhigh
    exact silent_of_words hstart.kept hwords
      (denyWords_silent deny1 deny2 deny3)
  have hall : ∀ count, 13 ≤ count → afterWrites regs lo execHi hi allow count =
        regs.writeAll writeThrough (programWrites regs lo execHi hi allow) :=
    fun count hcount => congrArg _ (List.take_of_length_le hcount)
  refine ⟨congrArg Prod.snd hwrites, ?_, ?_, ?_⟩
  · rw [hwrites]
    exact (hall 13 le_rfl).symm
  · intro count
    by_cases hlow : count < 3
    · left
      obtain rfl | rfl | rfl : count = 0 ∨ count = 1 ∨ count = 2 := by omega
      · exact fun _ _ hpermits => hpermits
      · exact hstart.firstRevoked_within
      · exact hstart.secondRevoked_within
    · by_cases hhigh : count < 13
      · exact .inl (hsilent count (by omega) hhigh).grantsWithin
      · right
        rw [hwrites, hall count (by omega)]
        exact fun _ _ hpermits => hpermits
  · intro count hlow hhigh
    exact (hsilent count hlow hhigh).permits

theorem handoff_userPmpProgram_steps :
    auditM7EarlyPmp true handoffRegisters = true ∧
    handoffRegisters.permits pmpGrain .write 0x48400000 = true ∧
    (userPmpProgram writeThrough 0x49700000#32 0x49701000#32 0x49703000#32 true
      handoffRegisters).2 = true ∧
    (afterWrites handoffRegisters 0x49700000#32 0x49701000#32 0x49703000#32 true
      3).permits pmpGrain .write 0x48400000 = false := by
  have haudit : auditM7EarlyPmp true handoffRegisters = true := by decide
  have hbounds : PmpBounds 0x49700000#32 0x49701000#32 0x49703000#32 :=
    ⟨by decide, by decide, by decide, by decide, by decide, by decide,
      by decide⟩
  obtain ⟨hdone, -, -, hsilent⟩ :=
    userPmpProgram_steps (.handoff haudit) fun _ : true = true => hbounds
  exact ⟨haudit, by decide, hdone, hsilent 3 le_rfl (by decide) .write _⟩

end Micronux
