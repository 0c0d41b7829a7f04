/-
The return to user mode of a loaded program: from the load until the release
of its arena the bounds that the return path checks stay valid, so the checks
never fail.
-/
import Micronux.PoolRuns
import Micronux.UserMap

namespace Micronux

open Concurrent Protocol Prog

section Unblocked

variable {mm : Mm} {id : ArenaId}

theorem writes_unblocked {change : MmContext → MmContext} {α : Type}
    {rest : Unit → PoolProg α} (hrest : (rest ()).Unblocked none) :
    ((writeContext mm change).bind rest).Unblocked none :=
  .bind (.store ..) fun _ => hrest

theorem userArenaPrepare_unblocked (mm : Option Mm) (bytes : Word) :
    (userArenaPrepare mm bytes).Unblocked none := by
  cases mm with
  | none => trivial
  | some mm =>
    refine .bind (.load ..) fun checks => ?_
    cases checks with
    | error errno => trivial
    | ok nrPages =>
      refine .bind (.atomic fun _ => rfl) fun block => ?_
      cases block with
      | none => trivial
      | some id =>
        refine .bind (.critical ..) fun placed => ?_
        cases placed with
        | error errno => exact .bind (.store ..) fun _ => trivial
        | ok index =>
          refine .bind (.load ..) fun start => ?_
          refine .bind (.store ..) fun _ => ?_
          refine .bind ?_ fun _ => trivial
          iterate 6 refine writes_unblocked ?_
          exact .store ..

theorem userArenaAlloc_unblocked (mm : Option Mm) (nrPages : Word) :
    (userArenaAlloc mm nrPages).Unblocked none := by
  cases mm with
  | none => trivial
  | some mm =>
    refine .bind (.load ..) fun arena => ?_
    cases arena with
    | none => trivial
    | some id =>
      refine .bind (.critical ..) fun result => ?_
      unfold finishAlloc
      cases result.address with
      | none => trivial
      | some start =>
        refine .bind (.store ..) fun _ => ?_
        cases result.expanded with
        | false => trivial
        | true =>
          refine .bind ?_ fun _ => trivial
          exact .bind (.load ..) fun _ => .store ..

theorem userArenaFree_unblocked (start stop : Word) :
    (userArenaFree start stop).Unblocked none := by
  refine .bind (.load ..) fun range => ?_
  cases range with
  | none => trivial
  | some range => exact .critical ..

theorem userArenaRelease_unblocked (mm : Option Mm) :
    (userArenaRelease mm).Unblocked none := by
  cases mm with
  | none => trivial
  | some mm =>
    refine .bind (.load ..) fun arena => ?_
    have hrevoke : (revokeArena mm).Unblocked none := by
      refine .bind (.store ..) fun _ => ?_
      iterate 5 refine writes_unblocked ?_
      exact .store ..
    refine .bind hrevoke fun _ => ?_
    cases arena with
    | none => trivial
    | some id =>
      refine .bind (.critical ..) fun unlinked => ?_
      cases unlinked with
      | false => trivial
      | true => exact .store ..

theorem userWxFinalize_unblocked (mm : Option Mm)
    (execHi sigreturn size : Word) :
    (userWxFinalize mm execHi sigreturn size).Unblocked none := by
  cases mm with
  | none => trivial
  | some mm =>
    refine .bind (.load ..) fun checks => ?_
    cases checks with
    | false => trivial
    | true =>
      iterate 2 refine writes_unblocked ?_
      exact .bind (.store ..) fun _ => trivial

theorem loadFlatFile_unblocked (mm : Mm) (offset : Word) (hdr : FlatHeader)
    (fileSize : Nat) (extraStack : Word) :
    (loadFlatFile mm offset hdr fileSize extraStack).Unblocked none := by
  unfold loadFlatFile
  cases flatChecks offset hdr fileSize extraStack with
  | error errno => trivial
  | ok plan =>
    refine .bind (userArenaPrepare_unblocked ..) fun prepared => ?_
    cases prepared with
    | error errno => trivial
    | ok =>
      refine .bind (userArenaAlloc_unblocked ..) fun mapping => ?_
      cases mapping.address with
      | none => trivial
      | some textpos =>
        refine .bind (.load ..) fun contiguous => ?_
        cases contiguous with
        | false => trivial
        | true =>
          refine .bind (.load ..) fun writable => ?_
          cases writable with
          | false => trivial
          | true =>
            refine .bind (userWxFinalize_unblocked ..) fun result => ?_
            cases result <;> trivial

end Unblocked

/-- `kzalloc` may fail, but no call ever waits. -/
theorem poolCode_unblocked (thread : Mm) (request : PoolRequest) :
    (poolCode thread request).Unblocked none := by
  cases request with
  | prepare mm bytes =>
    exact .bind (userArenaPrepare_unblocked ..) fun _ => trivial
  | alloc mm nrPages =>
    exact .bind (userArenaAlloc_unblocked ..) fun _ => trivial
  | free start stop =>
    exact .bind (userArenaFree_unblocked ..) fun _ => trivial
  | release mm => exact .bind (userArenaRelease_unblocked ..) fun _ => trivial
  | finalize mm execHi sigreturn size =>
    exact .bind (userWxFinalize_unblocked ..) fun _ => trivial
  | store mm address => exact .bind (.store ..) fun _ => trivial
  | load offset hdr fileSize extraStack =>
    exact .bind (loadFlatFile_unblocked ..) fun _ => trivial

variable {labels : List PoolLabel} {before after : PoolConfig}

/-- Wherever a run has come, the call of a thread can return. -/
theorem PoolRun.exists_reply (hrun : PoolRun labels after) (mm : Mm) :
    ∃ count later, after.exec poolCode
        (List.replicate count (.step mm none)) = some later ∧
      ∃ value, (later.thread mm).reply = some value := by
  obtain ⟨base, size, pool, -, hexec⟩ := hrun.start
  have hstart : ∀ t, ((poolStart pool).thread t).Unblocked none :=
    fun _ => trivial
  apply Config.exists_reply
  exact Config.exec_unblocked poolCode poolCode_unblocked hstart hexec mm

/-- Whatever the threads do, the bounds of an mm are kept until its
release. -/
theorem keepsBounds_of_changes {mm : Mm} {before after : Pool}
    (hchanges : Relation.ReflTransGen (Change poolProtocol) before after) :
    KeepsBounds mm before after := by
  induction hchanges with
  | refl => exact KeepsBounds.of_same rfl rfl
  | tail _ hchange ih =>
    obtain ⟨-, -, thread, hguar⟩ := hchange
    exact ih.trans (PoolGuar.keepsBounds hguar mm)

/-- A published split passes the checks of the return path. -/
theorem PoolInv.returnable {pool : Pool} (hinv : PoolInv pool) {mm : Mm}
    (hsplit : (pool.context mm).Split) : Returnable (pool.context mm) := by
  obtain ⟨id, count, hpub⟩ := (hinv.context mm).bounds hsplit.1
  obtain ⟨hlive, -⟩ := (hinv.context mm).arena id hpub.arena
  have hok := (hinv.context mm).split hsplit
  have hfits := (hinv.arena id hlive).fits
  have hcount := hpub.count_le
  have hlo := hpub.lo
  have hhi := hpub.hi
  have hlt := hok.lo_lt
  have hlt' := hok.lt_hi
  have haligned := hok.aligned
  simp only [pageBase, pageSize, poolPages, toNat_userPoolStart,
    pmpGranularity] at hlo hhi hfits haligned
  refine ⟨hsplit, ⟨?_, BitVec.lt_def.mpr hlt, BitVec.lt_def.mpr hlt', ?_, ?_,
    hok.aligned, ?_⟩, hok.sigreturn, ?_⟩
  · apply BitVec.le_def.mpr
    rw [toNat_userPoolStart]
    omega
  · apply BitVec.le_def.mpr
    rw [← pageBase_poolPages]
    simp only [pageBase, pageSize, poolPages, toNat_userPoolStart]
    omega
  · unfold pmpGranularity
    omega
  · unfold pmpGranularity
    omega
  · apply BitVec.le_def.mpr
    rw [hok.sigreturn, BitVec.toNat_sub_of_le (BitVec.le_def.mpr hlt.le)]
    change 8 ≤ _
    omega

/-- The signal trampoline lies inside the text. -/
theorem Returnable.setupRtFrameReturn {context : MmContext}
    (hreturnable : Returnable context) :
    setupRtFrameReturn context = .ok context.userLo := by
  obtain ⟨⟨-, hwx⟩, hbounds, hsig, hfits⟩ := hreturnable
  have hle : ¬ context.userExecHi < context.userLo :=
    BitVec.not_lt.mpr (BitVec.le_of_lt hbounds.lo_lt)
  rw [hsig] at hfits
  simp [Micronux.setupRtFrameReturn, hwx, hsig, hle, BitVec.not_lt.mpr hfits]

/-- A call can always return.  A load whose header is accepted and that gets
its arena maps the image at the lower bound without growth and publishes the
split; from then until the release the lower bound, the text and the signal
trampoline stay, the upper bound does not decrease, and every check on the way
back to user mode passes. -/
theorem loaded_program_returns (hrun : PoolRun labels before) (mm : Mm) :
    (∃ count later, before.exec poolCode
        (List.replicate count (.step mm none)) = some later ∧
      ∃ value, (later.thread mm).reply = some value) ∧
    ∀ offset hdr fileSize extraStack plan outcome, (before.thread mm).reply =
        some (.loaded offset hdr fileSize extraStack outcome) →
      flatChecks offset hdr fileSize extraStack = .ok plan →
      (∀ errno, outcome ≠ .unprepared errno) →
      outcome = .loaded ⟨some (before.shared.context mm).userLo, false⟩ ∧
      ∀ later after, (∀ label ∈ later, Allowed PoolPermitted label) →
        before.exec poolCode later = some after →
        after.shared.releases mm = before.shared.releases mm →
        (after.shared.context mm).userLo = (before.shared.context mm).userLo ∧
        (after.shared.context mm).userExecHi =
          (before.shared.context mm).userExecHi ∧
        (after.shared.context mm).userSigreturn =
          (before.shared.context mm).userSigreturn ∧
        (before.shared.context mm).userHi ≤ (after.shared.context mm).userHi ∧
        prepareReturnChecks after.shared.ready
            (some (after.shared.context mm)) =
          .ok ((after.shared.context mm).userLo,
            (after.shared.context mm).userExecHi,
            (after.shared.context mm).userHi) ∧
        setupRtFrameReturn (after.shared.context mm) =
          .ok (after.shared.context mm).userLo := by
  refine ⟨hrun.exists_reply mm, ?_⟩
  intro offset hdr fileSize extraStack plan outcome hreply hchecks hprepared
  have hpost := (hrun.good.idle (Prog.eq_ret_of_reply hreply)).2
  cases outcome with
  | rejected errno => exact absurd (hchecks.symm.trans hpost) (by simp)
  | unprepared errno => exact absurd rfl (hprepared errno)
  | unmapped | nonContiguous | sigreturnFault | unfinalized errno =>
    exact hpost.elim
  | loaded mapping =>
    obtain ⟨hmapping, hsplit⟩ := hpost
    refine ⟨congrArg _ hmapping, ?_⟩
    intro later after hallowed hexec hreleases
    obtain ⟨hgood, hchanges⟩ :=
      hrun.good.exec poolCode_correct hallowed hexec
    have hleads := (keepsBounds_of_changes hchanges).leads hreleases hsplit.1
    obtain ⟨hwx, hexecHi, hsig⟩ := hleads.split hsplit.2
    have hreturnable := PoolInv.returnable hgood.inv ⟨hleads.valid, hwx⟩
    refine ⟨hleads.lo, hexecHi, hsig, BitVec.le_def.mpr hleads.hi, ?_,
      hreturnable.setupRtFrameReturn⟩
    exact prepareReturnChecks_ok.mpr
      ⟨(PoolInv.layout hgood.inv).ready, hreturnable, rfl⟩

/-- One granule of text, one of data, some bss and a page of stack. -/
def smallHeader : FlatHeader where
  flags := 1#32
  entry := 64#32
  dataStart := 128#32
  dataEnd := 256#32
  bssEnd := 512#32
  stackSize := 4096#32
  relocStart := 256#32
  relocCount := 0#32

def loadSchedule : List PoolLabel :=
  .call 0 (.load 0#32 smallHeader 256 64#32) ::
    List.replicate 21 (.step 0 (some 0))

theorem loadSchedule_returns : ∃ before, PoolRun loadSchedule before ∧
      (before.thread 0).reply = some (.loaded 0#32 smallHeader 256 64#32
        (.loaded ⟨some 0x49700000#32, false⟩)) ∧
      setupRtFrameReturn (before.shared.context 0) =
        .ok (before.shared.context 0).userLo := by
  have hcheck : ∃ before, PoolRun loadSchedule before ∧
      (before.thread 0).reply = some (.loaded 0#32 smallHeader 256 64#32
        (.loaded ⟨some 0x49700000#32, false⟩)) :=
    exists_poolRun (by decide) (by decide +kernel)
  obtain ⟨before, hrun, hreply⟩ := hcheck
  have hchecks : flatChecks 0#32 smallHeader 256 64#32 = .ok
      ⟨128#32, 128#32, 256#32, 4160#32, 0#32, 4800#32⟩ := by decide
  obtain ⟨-, hlater⟩ := (loaded_program_returns hrun 0).2 _ _ _ _ _ _ hreply
    hchecks (by simp)
  obtain ⟨-, -, -, -, -, hframe⟩ := hlater [] before (by simp) rfl rfl
  exact ⟨before, hrun, hreply, hframe⟩

end Micronux
