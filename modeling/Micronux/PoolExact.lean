/-
What a call on the user pool changes, exactly: a free gives back the pages of
its range if they are all mapped in one arena, and a call that fails changes
nothing that another call can see.
-/
import Micronux.PoolRuns
import Micronux.PoolTraces

namespace Micronux

open Concurrent

/-- A range of addresses that can be freed: a non-empty range of whole pages of
the pool, all of them mapped in the one arena. -/
structure Freeable (pool : Pool) (start stop : Word) (id : ArenaId) : Prop where
  nonempty : start < stop
  startAligned : start.toNat % pageSize = 0
  stopAligned : stop.toNat % pageSize = 0
  inside : userPoolStart ≤ start ∧ stop ≤ userPoolEnd
  mapped : ∀ page, start.toNat ≤ pageBase page → pageBase page < stop.toNat →
    pool.owner page = some id ∧
      (pool.heap id).mapped (page - (pool.heap id).first) = true

/-- The pages of a range of addresses are given back, and nothing else
changes. -/
structure Freed (before after : Pool) (start stop : Word) (id : ArenaId) :
    Prop where
  mapped : ∀ index, (after.heap id).mapped index = true ↔
    (before.heap id).mapped index = true ∧
      ¬ (start.toNat ≤ pageBase ((before.heap id).first + index) ∧
        pageBase ((before.heap id).first + index) < stop.toNat)
  arenaCount : (after.heap id).mappedPages +
    (stop.toNat - start.toNat) / pageSize = (before.heap id).mappedPages
  poolCount : after.mappedPages + (stop.toNat - start.toNat) / pageSize =
    before.mappedPages
  place : (after.heap id).mm = (before.heap id).mm ∧
    (after.heap id).first = (before.heap id).first ∧
    (after.heap id).reservedPages = (before.heap id).reservedPages
  others : ∀ other, other ≠ id → after.heap other = before.heap other
  tables : after.owner = before.owner ∧ after.reserved = before.reserved ∧
    after.reservedPages = before.reservedPages ∧
    after.arenas = before.arenas ∧ after.context = before.context

section Range

variable {pool : Pool} {start stop : Word} {first nrPages : Nat}

/-- The page range of an accepted range of addresses. -/
theorem freeRange_some (hlayout : pool.Layout)
    (hrange : freeRange start stop pool = some (first, nrPages)) :
    0 < nrPages ∧ start.toNat = pageBase first ∧
      stop.toNat = pageBase (first + nrPages) ∧
      userPoolStart ≤ start ∧ stop ≤ userPoolEnd := by
  unfold freeRange at hrange
  split at hrange
  · cases hrange
  · next hchecks =>
      simp only [userPoolContains, hlayout.ready, hlayout.start, hlayout.stop,
        isAligned, Bool.or_eq_true, Bool.not_eq_true', beq_iff_eq, not_or,
        Bool.true_and, Bool.not_eq_false, Bool.and_eq_true,
        decide_eq_true_eq, beq_eq_false_iff_ne, not_not] at hchecks
      obtain ⟨⟨⟨⟨⟨hle, hlow⟩, hhigh⟩, hne⟩, hstart⟩, hstop⟩ := hchecks
      rw [hlayout.start] at hrange
      cases hrange
      have hlt : start.toNat < stop.toNat := by
        have hdistinct : start.toNat ≠ stop.toNat :=
          fun hsame => hne (BitVec.eq_of_toNat_eq hsame)
        rw [BitVec.le_def] at hle
        omega
      rw [BitVec.toNat_sub_of_le hlow, BitVec.toNat_sub_of_le hle]
      have hbelow := BitVec.le_def.mp hlow
      rw [toNat_userPoolStart] at hbelow ⊢
      simp only [pageBase, pageSize, toNat_userPoolStart] at hstart hstop ⊢
      refine ⟨by omega, by omega, by omega, hlow, hhigh⟩

/-- Everything else is refused before the lock. -/
theorem freeRange_none (hlayout : pool.Layout)
    (hrange : freeRange start stop pool = none) (id : ArenaId) :
    ¬ Freeable pool start stop id := by
  rintro ⟨hnonempty, hstart, hstop, ⟨hlow, hhigh⟩, -⟩
  unfold freeRange at hrange
  split at hrange
  · next hchecks =>
      have hle : start ≤ stop := BitVec.le_of_lt hnonempty
      have hne : (start == stop) = false := by
        rw [beq_eq_false_iff_ne]
        rintro rfl
        exact absurd hnonempty (BitVec.lt_irrefl start)
      simp only [userPoolContains, hlayout.ready, hlayout.start, hlayout.stop,
        isAligned, hstart, hstop, hle, hlow, hhigh, hne, decide_true,
        beq_self_eq_true, Bool.and_self, Bool.not_true, Bool.or_self,
        Bool.false_eq_true] at hchecks
  · cases hrange

end Range

section Locked

variable {pool : Pool} {id : ArenaId} {first nrPages : Nat}

def MappedIn (pool : Pool) (id : ArenaId) (first nrPages : Nat) : Prop :=
  ∀ page, first ≤ page → page < first + nrPages → pool.owner page = some id ∧
      (pool.heap id).mapped (page - (pool.heap id).first) = true

/-- A mapped range lies in its arena, and the counters cover it. -/
theorem MappedIn.bounds (hinv : PoolInv pool) (hpos : 0 < nrPages)
    (hmapped : MappedIn pool id first nrPages) :
    (pool.heap id).first ≤ first ∧
      first + nrPages ≤ (pool.heap id).first + (pool.heap id).reservedPages ∧
      nrPages ≤ (pool.heap id).mappedPages ∧ nrPages ≤ pool.mappedPages := by
  obtain ⟨hlive, hfirst, -⟩ :=
    hinv.holds_of_owner (hmapped first le_rfl (by omega)).1
  obtain ⟨-, -, hlast⟩ := hinv.holds_of_owner
    (hmapped (first + nrPages - 1) (by omega) (by omega)).1
  have hset : ∀ index, first - (pool.heap id).first ≤ index →
      index < first - (pool.heap id).first + nrPages →
      (pool.heap id).mapped index = true := by
    intro index hlo hhi
    have hpage := (hmapped ((pool.heap id).first + index) (by omega)
      (by omega)).2
    rwa [Nat.add_sub_cancel_left] at hpage
  have hweight := Bitmap.weight_clearRange
    (by omega : first - (pool.heap id).first + nrPages ≤
      (pool.heap id).reservedPages) hset
  have hcount := (hinv.arena id hlive).mapped_count
  have hsum : (pool.heap id).mappedPages ≤ pool.mappedPages := by
    rw [hinv.mapped_sum]
    exact Finset.single_le_sum (f := fun other => (pool.heap other).mappedPages)
      (fun _ _ => Nat.zero_le _) hlive
  exact ⟨hfirst, by omega, by omega, by omega⟩

/-- The locked part of `micronux_user_arena_free` on a mapped range. -/
theorem freeSection_mapped (hinv : PoolInv pool) (hpos : 0 < nrPages)
    (hmapped : MappedIn pool id first nrPages) :
    freeSection first nrPages pool =
      (pool.unmapPages id (first - (pool.heap id).first) nrPages, true) := by
  obtain ⟨hlow, hhigh, harena, hpool⟩ := hmapped.bounds hinv hpos
  have howners : (List.range' first nrPages).all
      (fun page => pool.owner page == some id) = true := by
    rw [List.all_eq_true]
    intro page hpage
    rw [List.mem_range'_1] at hpage
    exact beq_iff_eq.mpr (hmapped page hpage.1 hpage.2).1
  have hset : ¬ (pool.heap id).mapped.findNextZeroBit
      (first - (pool.heap id).first + nrPages)
      (first - (pool.heap id).first) <
        first - (pool.heap id).first + nrPages := by
    intro hfound
    have hclear := Bitmap.findNextZeroBit_found hfound
    have hlo := Bitmap.le_findNextZeroBit (pool.heap id).mapped
      (Nat.le_add_right (first - (pool.heap id).first) nrPages)
    generalize (pool.heap id).mapped.findNextZeroBit
      (first - (pool.heap id).first + nrPages)
      (first - (pool.heap id).first) = index at hfound hclear hlo
    have hpage := (hmapped ((pool.heap id).first + index) (by omega)
      (by omega)).2
    rw [Nat.add_sub_cancel_left, hclear] at hpage
    cases hpage
  unfold freeSection
  rw [(hmapped first le_rfl (by omega)).1]
  dsimp only
  rw [howners, if_neg (by simp only [Bool.or_eq_true, decide_eq_true_eq]; omega),
    if_neg (by simp), if_neg (by
      simp only [Bool.or_eq_true, decide_eq_true_eq]
      omega)]

/-- A free that succeeds found a mapped range; otherwise it changes
nothing. -/
theorem freeSection_cases (pool : Pool) (hpos : 0 < nrPages) :
    freeSection first nrPages pool = (pool, false) ∨
      ∃ id, MappedIn pool id first nrPages := by
  unfold freeSection
  split
  · exact .inl rfl
  · next id howner =>
      dsimp only
      split
      · exact .inl rfl
      next hbounds =>
      split
      · exact .inl rfl
      next howners =>
      split
      · exact .inl rfl
      next hset =>
      refine .inr ⟨id, fun page hlo hhi => ?_⟩
      simp only [Bool.not_eq_true', Bool.not_eq_false, List.all_eq_true,
        List.mem_range'_1, beq_iff_eq] at howners
      simp only [Bool.or_eq_true, decide_eq_true_eq, not_or] at hset hbounds
      refine ⟨howners page ⟨hlo, hhi⟩, ?_⟩
      exact Bitmap.all_set_of_findNextZeroBit hset.1.1 _ (by omega) (by omega)

end Locked

section Free

variable {pool : Pool} {id : ArenaId} {start stop : Word} {first nrPages : Nat}

theorem freeable_iff (hpos : 0 < nrPages)
    (hstart : start.toNat = pageBase first)
    (hstop : stop.toNat = pageBase (first + nrPages))
    (hinside : userPoolStart ≤ start ∧ stop ≤ userPoolEnd) :
    Freeable pool start stop id ↔ MappedIn pool id first nrPages := by
  have haligned : ∀ page, pageBase page % pageSize = 0 := by
    intro page
    simp only [pageBase, pageSize, toNat_userPoolStart]
    omega
  constructor
  · intro hfreeable page hlo hhi
    apply hfreeable.mapped
    · rw [hstart]
      exact pageBase_le.mpr hlo
    · rw [hstop]
      exact pageBase_lt.mpr hhi
  · intro hmapped
    refine ⟨?_, hstart ▸ haligned first, hstop ▸ haligned (first + nrPages),
      hinside, fun page hlo hhi => hmapped page ?_ ?_⟩
    · rw [BitVec.lt_def, hstart, hstop]
      exact pageBase_lt.mpr (by omega)
    · rw [hstart] at hlo
      exact pageBase_le.mp hlo
    · rw [hstop] at hhi
      exact pageBase_lt.mp hhi

/-- What the free of a mapped range does. -/
theorem freed_unmapPages (hinv : PoolInv pool) (hpos : 0 < nrPages)
    (hstart : start.toNat = pageBase first)
    (hstop : stop.toNat = pageBase (first + nrPages))
    (hmapped : MappedIn pool id first nrPages) :
    Freed pool (pool.unmapPages id (first - (pool.heap id).first) nrPages)
      start stop id := by
  obtain ⟨hlow, -, harena, hpool⟩ := hmapped.bounds hinv hpos
  have hcount : (stop.toNat - start.toNat) / pageSize = nrPages := by
    rw [hstart, hstop]
    simp only [pageBase, pageSize]
    omega
  have hself : (pool.unmapPages id (first - (pool.heap id).first)
      nrPages).heap id = (pool.heap id).unmapRange
        (first - (pool.heap id).first) nrPages :=
    Function.update_self ..
  refine ⟨fun index => ?_, ?_, ?_, ?_, ?_, rfl, rfl, rfl, rfl, rfl⟩
  · rw [hself, Arena.unmapRange, Bitmap.clearRange_apply, hstart, hstop,
      pageBase_le, pageBase_lt, and_comm]
    refine and_congr_right fun _ => not_congr ?_
    omega
  · rw [hself, hcount]
    exact Nat.sub_add_cancel harena
  · rw [hcount]
    exact Nat.sub_add_cancel hpool
  · rw [hself]
    exact ⟨rfl, rfl, rfl⟩
  · exact fun other hother => Function.update_of_ne hother ..

end Free

/-- Nothing that another call can see changes: the owner table, the bitmap of
the pool and those of the arenas, the counters and the contexts. -/
structure Unchanged (before after : Pool) : Prop where
  owner : after.owner = before.owner
  reserved : after.reserved = before.reserved
  reservedPages : after.reservedPages = before.reservedPages
  mappedPages : after.mappedPages = before.mappedPages
  arenas : after.arenas = before.arenas
  context : after.context = before.context
  heap : ∀ id, before.allocated id = true → after.heap id = before.heap id

theorem Unchanged.refl (pool : Pool) : Unchanged pool pool :=
  ⟨rfl, rfl, rfl, rfl, rfl, rfl, fun _ _ => rfl⟩

/-- The block of a new arena was not in use. -/
theorem unchanged_claim {pool : Pool} {id : ArenaId} (mm : Mm)
    (hunused : pool.allocated id = false) :
    Unchanged pool (pool.claim mm id) := by
  refine ⟨rfl, rfl, rfl, rfl, rfl, rfl, fun other hused => ?_⟩
  have hother : other ≠ id := by
    rintro rfl
    rw [hunused] at hused
    cases hused
  exact Function.update_of_ne hother ..

theorem prepareSection_failed {mm : Mm} {id : ArenaId} {nrPages : Nat}
    {pool : Pool} {errno : Errno}
    (hfailed : (prepareSection mm id nrPages pool).2 = .error errno) :
    (prepareSection mm id nrPages pool).1 = pool := by
  unfold prepareSection at hfailed ⊢
  dsimp only at hfailed ⊢
  split
  · rfl
  · split
    · rfl
    · next hbusy hfull =>
        rw [if_neg hbusy, if_neg hfull] at hfailed
        cases hfailed

theorem allocSection_failed {id : ArenaId} {nrPages : Nat} {pool : Pool}
    (hfailed : (allocSection id nrPages pool).2.address = none) :
    (allocSection id nrPages pool).1 = pool := by
  unfold allocSection at hfailed ⊢
  dsimp only at hfailed ⊢
  split
  · next hinside =>
      rw [if_pos hinside] at hfailed
      split
      · rfl
      · next hgrows =>
          rw [if_neg hgrows] at hfailed
          cases hfailed
  · next hinside =>
      rw [if_neg hinside] at hfailed
      cases hfailed

variable {steps : List (Pool × Pool)}

theorem userArenaPrepare_failed {mm : Option Mm} {bytes : Word} {errno : Errno}
    (hsteps : Performs (userArenaPrepare mm bytes) steps (.error errno)) :
    ∀ step ∈ steps, Unchanged step.1 step.2 := by
  cases mm with
  | none =>
    obtain ⟨rfl, -⟩ := performs_ret.mp hsteps
    exact List.forall_mem_nil _
  | some mm =>
    cases userArenaPrepare_trace hsteps with
    | refused _ => simp only [List.forall_mem_singleton, Unchanged.refl]
    | noMemory _ =>
      simp only [List.forall_mem_cons, Unchanged.refl, true_and,
        List.not_mem_nil, false_implies, implies_true]
    | failed _ hunused hlocked =>
      simp only [List.forall_mem_cons, Unchanged.refl, true_and,
        List.not_mem_nil, false_implies, implies_true, and_true,
        prepareSection_failed hlocked]
      exact ⟨unchanged_claim mm hunused,
        rfl, rfl, rfl, rfl, rfl, rfl, fun _ _ => rfl⟩

theorem userArenaAlloc_failed {mm : Option Mm} {nrPages : Word}
    {reply : AllocResult}
    (hsteps : Performs (userArenaAlloc mm nrPages) steps reply)
    (hfailed : reply.address = none) :
    ∀ step ∈ steps, Unchanged step.1 step.2 := by
  cases mm with
  | none =>
    obtain ⟨rfl, -⟩ := performs_ret.mp hsteps
    exact List.forall_mem_nil _
  | some mm =>
    cases userArenaAlloc_trace hsteps with
    | refused _ => simp only [List.forall_mem_singleton, Unchanged.refl]
    | failed _ hlocked =>
      simp only [List.forall_mem_cons, Unchanged.refl, List.not_mem_nil,
        false_implies, implies_true, and_true, allocSection_failed hlocked]
    | allocated _ hlocked =>
      exact absurd (hfailed.symm.trans hlocked).symm (Option.some_ne_none _)

/-- A free that returns `true` gives back a freeable range; one that returns
`false` had none and changes nothing. -/
theorem userArenaFree_exact {start stop : Word} {reply : Bool}
    (hsteps : Performs (userArenaFree start stop) steps reply)
    (hinv : ∀ step ∈ steps, PoolInv step.1) :
    ∃ earlier before after, steps = earlier ++ [(before, after)] ∧
      (∀ step ∈ earlier, step.2 = step.1) ∧
      (reply = true ↔ ∃ id, Freeable before start stop id) ∧
      (reply = true → ∃ id, Freeable before start stop id ∧
        Freed before after start stop id) ∧
      (reply = false → after = before) := by
  cases userArenaFree_trace hsteps with
  | @refused checked hchecks =>
    refine ⟨[], checked, checked, rfl, List.forall_mem_nil _,
      iff_of_false Bool.false_ne_true ?_,
      fun htrue => absurd htrue Bool.false_ne_true, fun _ => rfl⟩
    rintro ⟨id, hfreeable⟩
    exact freeRange_none (hinv _ List.mem_cons_self).layout hchecks id hfreeable
  | @locked checked locked first nrPages hchecks =>
    obtain ⟨hpos, hstart, hstop, hinside⟩ :=
      freeRange_some (hinv _ List.mem_cons_self).layout hchecks
    have hlocked : PoolInv locked :=
      hinv _ (List.mem_cons_of_mem _ List.mem_cons_self)
    have hiff : ∀ id, Freeable locked start stop id ↔
        MappedIn locked id first nrPages :=
      fun id => freeable_iff hpos hstart hstop hinside
    refine ⟨[(checked, checked)], locked, _, rfl,
      List.forall_mem_singleton.mpr rfl, ?_⟩
    by_cases hmapped : ∃ id, MappedIn locked id first nrPages
    · obtain ⟨id, hid⟩ := hmapped
      rw [freeSection_mapped hlocked hpos hid]
      exact ⟨iff_of_true rfl ⟨id, (hiff id).mpr hid⟩,
        fun _ => ⟨id, (hiff id).mpr hid,
          freed_unmapPages hlocked hpos hstart hstop hid⟩,
        fun hfalse => absurd hfalse.symm Bool.false_ne_true⟩
    · rcases freeSection_cases locked hpos with hfailed | hfound
      · rw [hfailed]
        refine ⟨iff_of_false Bool.false_ne_true ?_,
          fun htrue => absurd htrue Bool.false_ne_true, fun _ => rfl⟩
        rintro ⟨id, hfreeable⟩
        exact hmapped ⟨id, (hiff id).mp hfreeable⟩
      · exact absurd hfound hmapped

/-- What the calls on the pool change: a free exactly the freeable range, a
prepare or an allocation that fails nothing. -/
theorem poolCalls_exact (steps : List (Pool × Pool)) :
    (∀ start stop reply, Performs (userArenaFree start stop) steps reply →
      (∀ step ∈ steps, PoolInv step.1) →
      ∃ earlier before after, steps = earlier ++ [(before, after)] ∧
        (∀ step ∈ earlier, step.2 = step.1) ∧
        (reply = true ↔ ∃ id, Freeable before start stop id) ∧
        (reply = true → ∃ id, Freeable before start stop id ∧
          Freed before after start stop id) ∧
        (reply = false → after = before)) ∧
    (∀ mm bytes errno,
      Performs (userArenaPrepare mm bytes) steps (.error errno) →
      ∀ step ∈ steps, Unchanged step.1 step.2) ∧
    (∀ mm nrPages reply, Performs (userArenaAlloc mm nrPages) steps reply →
      reply.address = none → ∀ step ∈ steps, Unchanged step.1 step.2) :=
  ⟨fun _ _ _ hsteps hinv => userArenaFree_exact hsteps hinv,
    fun _ _ _ hsteps => userArenaPrepare_failed hsteps,
    fun _ _ _ hsteps hfailed => userArenaAlloc_failed hsteps hfailed⟩

/-- In every run a call that returns has performed its actions on states that
satisfy the invariant. -/
theorem PoolRun.performs {labels later : List PoolLabel} {after : PoolConfig}
    {thread : Mm} {request : PoolRequest} {reply : PoolReply}
    (hrun : PoolRun (labels ++ .call thread request :: later) after)
    (hcalls : ∀ other, Label.call thread other ∉ later)
    (hreply : (after.thread thread).reply = some reply) :
    ∃ steps, Performs (poolCode thread request) steps reply ∧
      ∀ step ∈ steps, PoolInv step.1 := by
  obtain ⟨⟨base, size, pool, hinit, hexec⟩, hpermitted⟩ := hrun
  rw [Config.exec_append] at hexec
  obtain ⟨before, hbefore, hrest⟩ := Option.bind_eq_some_iff.mp hexec
  obtain ⟨called, hcall, hlater⟩ := Option.bind_eq_some_iff.mp hrest
  obtain ⟨t, other, value, hlabel, hidle, hcalled⟩ |
      ⟨t, choice, γ, run, next, state, result, hlabel, -⟩ :=
    Config.next_cases poolCode hcall
  · obtain ⟨rfl, rfl⟩ := Label.call.inj hlabel
    have hthread : called.thread thread = poolCode thread request := by
      rw [hcalled]
      exact Function.update_self ..
    refine ⟨called.ownSteps poolCode thread later, ?_, ?_⟩
    · rw [← hthread]
      exact performs_of_exec poolCode hlater hcalls (Prog.eq_ret_of_reply hreply)
    · intro step hstep
      obtain ⟨front, mid, hleading, hfront, hshared⟩ :=
        mem_ownSteps poolCode hlater hstep
      have hmid : PoolRun (labels ++ .call thread request :: front) mid := by
        refine ⟨⟨base, size, pool, hinit, ?_⟩, fun label hlabel => ?_⟩
        · rw [Config.exec_append, hbefore, Option.bind_some, Config.exec, hcall]
          exact hfront
        · apply hpermitted
          rcases List.mem_append.mp hlabel with hearly | hlate
          · exact List.mem_append_left _ hearly
          · refine List.mem_append_right _ ?_
            rcases List.mem_cons.mp hlate with rfl | hmem
            · exact List.mem_cons_self
            · exact List.mem_cons_of_mem _ (hleading.subset hmem)
      rw [hshared]
      exact hmid.inv
  · cases hlabel

/-- Thread 0 maps two pages and frees the first of them. -/
def freeSchedule : List PoolLabel :=
  .call 0 (.prepare (some 0) 8192#32) :: List.replicate 12 (.step 0 (some 0)) ++
  .call 0 (.alloc (some 0) 2#32) :: List.replicate 3 (.step 0 none)

theorem freeSchedule_poolCalls_exact :
    ∃ before after id, Freeable before 0x49700000#32 0x49701000#32 id ∧
      Freed before after 0x49700000#32 0x49701000#32 id := by
  have hcheck : ∃ config, PoolRun (freeSchedule ++
      .call 0 (.free 0x49700000#32 0x49701000#32) ::
        List.replicate 2 (.step 0 none)) config ∧
      (config.thread 0).reply = some (.freed true) :=
    exists_poolRun (by decide) (by decide +kernel)
  obtain ⟨config, hrun, hreply⟩ := hcheck
  obtain ⟨steps, hsteps, hinv⟩ := hrun.performs
    (fun other hmem => absurd (List.eq_of_mem_replicate hmem) (by simp)) hreply
  obtain ⟨_, hfree, ⟨⟩⟩ := performs_map hsteps
  obtain ⟨-, before, after, -, -, -, hfreed, -⟩ :=
    (poolCalls_exact steps).1 _ _ _ hfree hinv
  exact ⟨before, after, hfreed rfl⟩

end Micronux
