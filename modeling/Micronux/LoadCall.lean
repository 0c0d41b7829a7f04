/-
Loading a bFLT image into the arena that was reserved for it.  The header
checks leave room for the first mapping, for the text before the data and for
at least one byte of stack, so a load that gets its arena finishes with a
published W^X split.
-/
import Micronux.AllocCall
import Micronux.ReleaseCalls
import Micronux.FlatChecks

namespace Micronux

open Concurrent Protocol

variable {mm : Mm}

theorem toNat_pageAlign_div {value : Word} (hfits : value.toNat + 4095 < 2 ^ 32) :
    (pageAlign value / 4096#32).toNat = (value.toNat + 4095) / 4096 := by
  have hsum : (value + 4095#32).toNat = value.toNat + 4095 :=
    BitVec.toNat_add_of_lt hfits
  have hpages : (value.toNat + 4095) / 4096 * 4096 < 2 ^ 32 := by omega
  rw [pageAlign, BitVec.toNat_udiv, BitVec.toNat_mul, BitVec.toNat_udiv, hsum]
  change (value.toNat + 4095) / 4096 * 4096 % 2 ^ 32 / 4096 = _
  rw [Nat.mod_eq_of_lt hpages, Nat.mul_div_cancel _ (by decide)]

section Image

variable {plan : FlatPlan} {offset extraStack : Word}

/-- The first mapping needs no more pages than were reserved. -/
theorem FlatPlan.Sound.mappedPages_le (hsound : plan.Sound offset extraStack) :
    0 < (plan.mappedPages offset).toNat ∧
      (plan.mappedPages offset).toNat ≤ pagesFor plan.initialMapping := by
  have hsum := hsound.initial
  have hlimit := hsound.initial_le
  have htext := hsound.text_ge
  simp only [initialMappingLimit, flatHeaderSize, BitVec.toNat_ofNat] at hlimit htext
  have hbss : (plan.bssLen + plan.stackLen).toNat =
      plan.bssLen.toNat + plan.stackLen.toNat :=
    BitVec.toNat_add_of_lt (by omega)
  have himage : (plan.textLen + plan.dataLen).toNat =
      plan.textLen.toNat + plan.dataLen.toNat :=
    BitVec.toNat_add_of_lt (by omega)
  have hmax := toNat_wordMax (plan.bssLen + plan.stackLen) plan.relocBytes
  rw [hbss] at hmax
  have hextra : (plan.textLen + plan.dataLen +
      wordMax (plan.bssLen + plan.stackLen) plan.relocBytes).toNat =
        plan.textLen.toNat + plan.dataLen.toNat +
          max (plan.bssLen.toNat + plan.stackLen.toNat)
            plan.relocBytes.toNat := by
    rw [BitVec.toNat_add_of_lt (by omega), himage, hmax]
  have htotal : (plan.textLen + plan.dataLen +
      wordMax (plan.bssLen + plan.stackLen) plan.relocBytes + offset).toNat =
        plan.textLen.toNat + plan.dataLen.toNat +
          max (plan.bssLen.toNat + plan.stackLen.toNat)
            plan.relocBytes.toNat + offset.toNat := by
    rw [BitVec.toNat_add_of_lt (by omega), hextra]
  rw [FlatPlan.mappedPages, toNat_pageAlign_div (by omega), htotal]
  simp only [pagesFor, pageSize]
  omega

/-- The text ends before the reserved pages do. -/
theorem FlatPlan.Sound.text_lt (hsound : plan.Sound offset extraStack)
    (hstack : extraStack ≠ 0) :
    pmpGranularity ≤ plan.textLen.toNat ∧
      plan.textLen.toNat < pagesFor plan.initialMapping * pageSize := by
  have hsum := hsound.initial
  have htext := hsound.text_ge
  have haligned := hsound.text_aligned
  have hge := hsound.stack_ge
  have hpos : 0 < extraStack.toNat := by
    by_contra hzero
    exact hstack (BitVec.eq_of_toNat_eq (by simpa using hzero))
  simp only [flatHeaderSize, BitVec.toNat_ofNat, pmpGranularity] at htext haligned ⊢
  simp only [pagesFor, pageSize]
  omega

end Image

section Finish

variable {id : ArenaId} {first count : Nat} {start textLen : Word}

theorem toNat_add_text (hstart : start.toNat = pageBase first)
    (hfits : first + count ≤ poolPages)
    (htext : textLen.toNat < count * pageSize) :
    (start + textLen).toNat = pageBase first + textLen.toNat := by
  rw [← hstart]
  refine BitVec.toNat_add_of_lt ?_
  rw [hstart]
  simp only [pageBase, pageSize, poolPages, toNat_userPoolStart] at *
  omega

/-- Right after a prepare the kernel may write the start of the text. -/
theorem userWriteOk_prepared (hstart : start.toNat = pageBase first)
    (hfits : first + count ≤ poolPages) (hpos : 0 < count) :
    userWriteOk (preparedContext id start count) start sigreturnSize =
      true := by
  have hhi := toNat_add_pages hstart hfits
  have hle : start ≤ start + BitVec.ofNat 32 count <<< 12 := by
    rw [BitVec.le_def, hhi, hstart]
    exact pageBase_le.mpr (by omega)
  have hroom : (start + BitVec.ofNat 32 count <<< 12 - start).toNat =
      count * pageSize := by
    rw [BitVec.toNat_sub_of_le hle, hhi, hstart, pageBase_add]
    omega
  simp only [userWriteOk, preparedContext, Bool.not_true, Bool.false_eq_true,
    if_false, Bool.not_false, Bool.true_or, if_true]
  rw [if_neg]
  simp only [Bool.or_eq_true, decide_eq_true_eq, BitVec.lt_def, BitVec.le_def,
    hroom, hhi, hstart, sigreturnSize, BitVec.toNat_ofNat, not_or,
    ← pageBase_poolPages]
  simp only [pageBase, pageSize, poolPages, toNat_userPoolStart] at *
  omega

/-- Right after a prepare the split at the end of the text passes. -/
theorem wxFinalizeChecks_prepared (hstart : start.toNat = pageBase first)
    (hfits : first + count ≤ poolPages)
    (hgranule : pmpGranularity ≤ textLen.toNat)
    (haligned : textLen.toNat % pmpGranularity = 0)
    (htext : textLen.toNat < count * pageSize) :
    wxFinalizeChecks (preparedContext id start count) (start + textLen) start
      sigreturnSize = true := by
  have hhi := toNat_add_pages hstart hfits
  have hexec := toNat_add_text hstart hfits htext
  have hle : start ≤ start + textLen := by
    rw [BitVec.le_def, hexec, hstart]
    omega
  have hroom : (start + textLen - start).toNat = textLen.toNat := by
    rw [BitVec.toNat_sub_of_le hle, hexec, hstart]
    omega
  rw [wxFinalizeChecks_iff, hroom, hexec]
  simp only [preparedContext, hhi, hstart, ← pageBase_poolPages,
    sigreturnSize, BitVec.toNat_ofNat]
  simp only [pageBase, pageSize, poolPages, toNat_userPoolStart,
    pmpGranularity] at *
  refine ⟨trivial, trivial, ?_, ?_, ?_, ?_, ?_, ?_, ?_, trivial,
    by decide, ?_⟩ <;> omega

end Finish

/-- How a load ends, given what the checks of its header say. -/
def LoadPost (mm : Mm) (checks : Except Errno FlatPlan)
    (outcome : LoadOutcome) (pool : Pool) : Prop :=
  match outcome with
  | .rejected errno => checks = .error errno
  | .unprepared _ => True
  | .loaded mapping =>
    mapping = ⟨some (pool.context mm).userLo, false⟩ ∧ (pool.context mm).Split
  | _ => False

variable {checks : Except Errno FlatPlan}

theorem stable_loadPost {outcome : LoadOutcome} :
    poolProtocol.Stable mm (LoadPost mm checks outcome) := by
  rintro before after ⟨-, -, other, hother, hguar⟩ hpost
  unfold LoadPost at hpost ⊢
  rw [hguar.context mm (Ne.symm hother)]
  exact hpost

/-- From the first mapping to the split, with the bounds a prepare has
published. -/
theorem finishFlatFile_triple {plan : FlatPlan} {id : ArenaId}
    {first count : Nat} {start : Word} (hstart : start.toNat = pageBase first)
    (hfits : first + count ≤ poolPages) (hpos : 0 < count)
    (hgranule : pmpGranularity ≤ plan.textLen.toNat)
    (haligned : plan.textLen.toNat % pmpGranularity = 0)
    (htext : plan.textLen.toNat < count * pageSize) :
    poolProtocol.Triple mm (fun pool => Idle mm pool ∧
        pool.context mm = preparedContext id start count)
      (finishFlatFile mm plan ⟨some start, false⟩ start)
      (fun outcome pool => Idle mm pool ∧ LoadPost mm checks outcome pool) := by
  have hpre : poolProtocol.Stable mm fun pool => Idle mm pool ∧
      pool.context mm = preparedContext id start count :=
    stable_idle.and (stable_context _)
  have hload : ∀ view : Pool → Bool,
      (∀ pool, pool.context mm = preparedContext id start count →
        view pool = true) →
      poolProtocol.Triple mm (fun pool => Idle mm pool ∧
          pool.context mm = preparedContext id start count)
        (Prog.load view : PoolProg Bool)
        (fun seen pool => (Idle mm pool ∧
          pool.context mm = preparedContext id start count) ∧ seen = true) := by
    intro view hview
    exact Triple.load (PoolGuar.refl mm) hpre
      (fun _ => hpre.and (Stable.const _))
      fun pool _ hidle => ⟨hidle, hview pool hidle.2⟩
  refine Triple.bind (hload _ ?_) fun contiguous =>
    Triple.assume fun hcontiguous => ?_
  · intro pool hcontext
    rw [hcontext]
    simp only [preparedContext, BitVec.add_assoc, BitVec.sub_add_cancel,
      beq_self_eq_true, Bool.and_self]
  subst hcontiguous
  refine Triple.bind (hload _ ?_) fun writable =>
    Triple.assume fun hwritable => ?_
  · intro pool hcontext
    rw [hcontext]
    exact userWriteOk_prepared hstart hfits hpos
  subst hwritable
  have hchecks : wxFinalizeChecks (preparedContext id start count)
      (start + plan.textLen) start sigreturnSize = true :=
    wxFinalizeChecks_prepared hstart hfits hgranule haligned htext
  refine Triple.bind userWxFinalize_triple fun result => ?_
  have hpost : ∀ outcome, poolProtocol.Stable mm fun pool =>
      Idle mm pool ∧ LoadPost mm checks outcome pool :=
    fun _ => stable_idle.and stable_loadPost
  cases result with
  | error errno =>
    refine Triple.ret (hpost _) fun pool _ hafter => ?_
    exact absurd (hafter.2 hchecks).1 (by simp)
  | ok =>
    refine Triple.ret (hpost _) fun pool _ hafter => ⟨hafter.1, ?_⟩
    obtain ⟨-, hcontext⟩ := hafter.2 hchecks
    simp only [LoadPost, hcontext]
    exact ⟨rfl, rfl, rfl⟩

/-- A load is turned down before or at its reservation, or ends with the
image mapped at the lower bound and the split published. -/
theorem loadFlatFile_triple {offset : Word} {hdr : FlatHeader}
    {fileSize : Nat} {extraStack : Word} (hstack : extraStack ≠ 0) :
    poolProtocol.Triple mm (Idle mm)
      (loadFlatFile mm offset hdr fileSize extraStack)
      (fun outcome pool => Idle mm pool ∧
        LoadPost mm (flatChecks offset hdr fileSize extraStack) outcome
          pool) := by
  have hpost : ∀ outcome, poolProtocol.Stable mm fun pool =>
      Idle mm pool ∧
        LoadPost mm (flatChecks offset hdr fileSize extraStack) outcome pool :=
    fun _ => stable_idle.and stable_loadPost
  unfold loadFlatFile
  split
  · next errno herror =>
      exact Triple.ret (hpost _) fun _ _ hidle => ⟨hidle, herror⟩
  · next plan hplan =>
      have hsound := flatChecks_ok hplan
      refine Triple.bind userArenaPrepare_triple fun result => ?_
      cases result with
      | error errno =>
        exact Triple.ret (hpost _) fun _ _ hidle => ⟨hidle, trivial⟩
      | ok =>
        intro pool hinv hprepared
        have ⟨id, first, start, hstart, hfits, hpos, _, hcontext⟩ := hprepared
        obtain ⟨hgranule, htext⟩ := hsound.text_lt hstack
        have halloc : poolProtocol.Triple mm
            (fun pool => (Idle mm pool ∧ pool.context mm =
              preparedContext id start (pagesFor plan.initialMapping)) ∧
              (True → Prepared mm (pagesFor plan.initialMapping) pool))
            (userArenaAlloc (some mm) (plan.mappedPages offset))
            (fun result pool => Idle mm pool ∧
              (True → result = ⟨some start, false⟩ ∧ pool.context mm =
                preparedContext id start (pagesFor plan.initialMapping))) :=
          userArenaAlloc_triple fun _ => hsound.mappedPages_le
        refine Triple.bind halloc (fun mapping => ?_) pool hinv
          ⟨⟨hprepared.idle, hcontext⟩, fun _ => hprepared⟩
        rintro after hafter ⟨hidle, hmapping⟩
        obtain ⟨rfl, hcontext'⟩ := hmapping trivial
        exact finishFlatFile_triple hstart hfits hpos hgranule
          hsound.text_aligned htext after hafter ⟨hidle, hcontext'⟩

end Micronux
