/-
The own actions of the calls on the user pool, one after the other, whatever
other threads do between them.
-/
import Micronux.UserPool
import Micronux.Calls

namespace Micronux

open Concurrent

variable {mm : Mm} {steps : List (Pool × Pool)} {nrPages : Nat}

/-- What the checks of a prepare let through. -/
theorem prepareChecks_ok {bytes : Word} {pool : Pool}
    (hok : prepareChecks bytes pool = .ok nrPages) :
    nrPages = (bytes.toNat + (pageSize - 1)) / pageSize ∧ 0 < nrPages ∧
      nrPages ≤ pool.userPages := by
  unfold prepareChecks checkAdd at hok
  split at hok
  · cases hok
  · next rounded hrounded =>
      split at hrounded
      · next hfits =>
          obtain rfl := Option.some.inj hrounded
          simp only at hok
          split at hok
          · cases hok
          · split at hok
            · cases hok
            · next hpages =>
                obtain rfl := Except.ok.inj hok
                simp only [Bool.or_eq_true, beq_iff_eq, decide_eq_true_eq,
                  not_or, not_lt] at hpages
                have hsum : (bytes + BitVec.ofNat 32 (pageSize - 1)).toNat =
                    bytes.toNat + (pageSize - 1) := by
                  rw [BitVec.toNat_add_of_lt hfits]
                  rfl
                rw [hsum] at hpages ⊢
                exact ⟨rfl, Nat.pos_of_ne_zero hpages.1, hpages.2⟩
      · cases hrounded

/-- The pool with a zeroed arena of an mm at a block that was not in use. -/
def Pool.claim (pool : Pool) (mm : Mm) (id : ArenaId) : Pool :=
  { pool.setArena id { mm := mm } with
    allocated := Function.update pool.allocated id true }

/-- The actions of `micronux_user_arena_prepare` for an mm, with its reply. -/
inductive PrepareTrace (mm : Mm) (bytes : Word) :
    List (Pool × Pool) → Except Errno Unit → Prop
  | refused {checked : Pool} {errno : Errno}
      (hchecks : prepareChecks bytes checked = .error errno) :
      PrepareTrace mm bytes [(checked, checked)] (.error errno)
  | noMemory {checked before : Pool} {nrPages : Nat}
      (hchecks : prepareChecks bytes checked = .ok nrPages) :
      PrepareTrace mm bytes [(checked, checked), (before, before)]
        (.error .enomem)
  | failed {checked before locked last : Pool} {nrPages : Nat} {id : ArenaId}
      {errno : Errno} (hchecks : prepareChecks bytes checked = .ok nrPages)
      (hunused : before.allocated id = false)
      (hlocked : (prepareSection mm id nrPages locked).2 = .error errno) :
      PrepareTrace mm bytes [(checked, checked), (before, before.claim mm id),
          (locked, (prepareSection mm id nrPages locked).1),
          (last, { last with
            allocated := Function.update last.allocated id false })]
        (.error errno)
  | placed {checked before locked : Pool} {nrPages index : Nat} {id : ArenaId}
      {rest : List (Pool × Pool)}
      (hchecks : prepareChecks bytes checked = .ok nrPages)
      (hunused : before.allocated id = false)
      (hlocked : (prepareSection mm id nrPages locked).2 = .ok index) :
      PrepareTrace mm bytes
        ((checked, checked) :: (before, before.claim mm id) ::
          (locked, (prepareSection mm id nrPages locked).1) :: rest) (.ok ())

theorem performs_kzallocArena {answer : Option ArenaId}
    (hsteps : Performs (kzallocArena mm) steps answer) :
    ∃ before, match answer with
      | none => steps = [(before, before)]
      | some id => before.allocated id = false ∧
          steps = [(before, before.claim mm id)] := by
  obtain ⟨choice, before, after, rfl, hrun⟩ := performs_atomic.mp hsteps
  refine ⟨before, ?_⟩
  cases choice with
  | none =>
    cases hrun
    rfl
  | some id =>
    cases hused : before.allocated id with
    | true =>
      simp only [hused, if_true] at hrun
      cases hrun
    | false =>
      simp only [hused, Bool.false_eq_true, if_false, Option.some.injEq,
        Prod.mk.injEq] at hrun
      obtain ⟨rfl, rfl⟩ := hrun
      exact ⟨hused, rfl⟩

variable {reply : Except Errno Unit}

theorem performs_finishPrepare {id : ArenaId} {index : Nat}
    (hsteps : Performs (finishPrepare mm id index nrPages) steps reply) :
    reply = .ok () := by
  unfold finishPrepare at hsteps
  obtain ⟨_, _, _, _, _, hmemset⟩ := performs_bind.mp hsteps
  obtain ⟨_, _, _, _, _, hpublish⟩ := performs_bind.mp hmemset
  obtain ⟨_, _, _, _, _, hreply⟩ := performs_bind.mp hpublish
  exact (performs_ret.mp hreply).2

theorem userArenaPrepare_trace {bytes : Word}
    (hsteps : Performs (userArenaPrepare (some mm) bytes) steps reply) :
    PrepareTrace mm bytes steps reply := by
  unfold userArenaPrepare at hsteps
  obtain ⟨first, checks, second, rfl, hload, hclaim⟩ := performs_bind.mp hsteps
  obtain ⟨checked, rfl, hview⟩ := performs_load.mp hload
  rw [hview] at hclaim
  cases hchecks : prepareChecks bytes checked with
  | error errno =>
    rw [hchecks] at hclaim
    obtain ⟨rfl, rfl⟩ := performs_ret.mp hclaim
    exact .refused hchecks
  | ok nrPages =>
    rw [hchecks] at hclaim
    obtain ⟨claims, answer, third, rfl, hkzalloc, hplace⟩ :=
      performs_bind.mp hclaim
    obtain ⟨before, hanswer⟩ := performs_kzallocArena hkzalloc
    cases answer with
    | none =>
      obtain rfl := hanswer
      obtain ⟨rfl, rfl⟩ := performs_ret.mp hplace
      exact .noMemory hchecks
    | some id =>
      obtain ⟨hunused, rfl⟩ := hanswer
      obtain ⟨places, placed, fourth, rfl, hcritical, hfinish⟩ :=
        performs_bind.mp hplace
      obtain ⟨locked, rfl, hplaced⟩ := performs_critical.mp hcritical
      rw [hplaced] at hfinish
      cases hlocked : (prepareSection mm id nrPages locked).2 with
      | error errno =>
        rw [hlocked] at hfinish
        obtain ⟨frees, _, fifth, rfl, hkfree, hreply⟩ :=
          performs_bind.mp hfinish
        obtain ⟨choice, last, after, rfl, hrun⟩ :=
          performs_atomic.mp hkfree
        cases hrun
        obtain ⟨rfl, rfl⟩ := performs_ret.mp hreply
        exact .failed hchecks hunused hlocked
      | ok index =>
        rw [hlocked] at hfinish
        obtain rfl := performs_finishPrepare hfinish
        exact .placed hchecks hunused hlocked

/-- The actions of `micronux_user_arena_alloc` for an mm, with its reply. -/
inductive AllocTrace (mm : Mm) (nrPages : Word) :
    List (Pool × Pool) → AllocResult → Prop
  | refused {checked : Pool} (hchecks : allocArena mm nrPages checked = none) :
      AllocTrace mm nrPages [(checked, checked)] ⟨none, false⟩
  | failed {checked locked : Pool} {id : ArenaId}
      (hchecks : allocArena mm nrPages checked = some id)
      (hlocked : (allocSection id nrPages.toNat locked).2.address = none) :
      AllocTrace mm nrPages [(checked, checked),
        (locked, (allocSection id nrPages.toNat locked).1)]
        (allocSection id nrPages.toNat locked).2
  | allocated {checked locked : Pool} {id : ArenaId} {address : Word}
      {rest : List (Pool × Pool)}
      (hchecks : allocArena mm nrPages checked = some id)
      (hlocked : (allocSection id nrPages.toNat locked).2.address =
        some address) :
      AllocTrace mm nrPages ((checked, checked) ::
        (locked, (allocSection id nrPages.toNat locked).1) :: rest)
        (allocSection id nrPages.toNat locked).2

theorem performs_finishAlloc {id : ArenaId} {result reply : AllocResult}
    {address : Word} (haddress : result.address = some address)
    (hsteps : Performs (finishAlloc mm id nrPages result) steps reply) :
    reply = result := by
  unfold finishAlloc at hsteps
  rw [haddress] at hsteps
  obtain ⟨_, _, _, _, _, hgrow⟩ := performs_bind.mp hsteps
  cases hexpanded : result.expanded with
  | false =>
    rw [hexpanded] at hgrow
    exact (performs_ret.mp hgrow).2
  | true =>
    rw [hexpanded] at hgrow
    obtain ⟨_, _, _, _, _, hreply⟩ := performs_bind.mp hgrow
    exact (performs_ret.mp hreply).2

theorem userArenaAlloc_trace {nrPages : Word} {reply : AllocResult}
    (hsteps : Performs (userArenaAlloc (some mm) nrPages) steps reply) :
    AllocTrace mm nrPages steps reply := by
  unfold userArenaAlloc at hsteps
  obtain ⟨first, checks, second, rfl, hload, hlock⟩ := performs_bind.mp hsteps
  obtain ⟨checked, rfl, hview⟩ := performs_load.mp hload
  rw [hview] at hlock
  cases hchecks : allocArena mm nrPages checked with
  | none =>
    rw [hchecks] at hlock
    obtain ⟨rfl, rfl⟩ := performs_ret.mp hlock
    exact .refused hchecks
  | some id =>
    rw [hchecks] at hlock
    obtain ⟨locks, result, third, rfl, hcritical, hfinish⟩ :=
      performs_bind.mp hlock
    obtain ⟨locked, rfl, hresult⟩ := performs_critical.mp hcritical
    rw [hresult] at hfinish
    cases hlocked : (allocSection id nrPages.toNat locked).2.address with
    | none =>
      unfold finishAlloc at hfinish
      rw [hlocked] at hfinish
      obtain ⟨rfl, rfl⟩ := performs_ret.mp hfinish
      exact .failed hchecks hlocked
    | some address =>
      rw [performs_finishAlloc hlocked hfinish]
      exact .allocated hchecks hlocked

/-- What `micronux_user_arena_free` finds before the lock: the first page and
the number of pages. -/
def freeRange (start stop : Word) (pool : Pool) : Option (Nat × Nat) :=
  if !userPoolContains pool start stop || start == stop ||
      !isAligned start pageSize || !isAligned stop pageSize then none
  else some ((start - pool.userStart).toNat / pageSize,
    (stop - start).toNat / pageSize)

/-- The actions of `micronux_user_arena_free`, with its reply. -/
inductive FreeTrace (start stop : Word) : List (Pool × Pool) → Bool → Prop
  | refused {checked : Pool} (hchecks : freeRange start stop checked = none) :
      FreeTrace start stop [(checked, checked)] false
  | locked {checked locked : Pool} {first nrPages : Nat}
      (hchecks : freeRange start stop checked = some (first, nrPages)) :
      FreeTrace start stop
        [(checked, checked), (locked, (freeSection first nrPages locked).1)]
        (freeSection first nrPages locked).2

theorem userArenaFree_trace {start stop : Word} {reply : Bool}
    (hsteps : Performs (userArenaFree start stop) steps reply) :
    FreeTrace start stop steps reply := by
  unfold userArenaFree at hsteps
  obtain ⟨first, checks, second, rfl, hload, hlock⟩ := performs_bind.mp hsteps
  obtain ⟨checked, rfl, hview⟩ := performs_load.mp hload
  replace hview : checks = freeRange start stop checked := hview
  rw [hview] at hlock
  cases hchecks : freeRange start stop checked with
  | none =>
    rw [hchecks] at hlock
    obtain ⟨rfl, rfl⟩ := performs_ret.mp hlock
    exact .refused hchecks
  | some range =>
    rw [hchecks] at hlock
    obtain ⟨locked, rfl, rfl⟩ := performs_critical.mp hlock
    exact .locked hchecks

end Micronux
