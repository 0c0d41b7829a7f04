/-
What `micronux_user_arena_alloc` finds.  It looks for free pages inside the
arena and then for free pages behind it, never for a range across the arena's
end: a request that fits only there is refused.
-/
import Micronux.PoolExact

namespace Micronux

open Concurrent

namespace Arena

def stop (arena : Arena) : Nat :=
  arena.first + arena.reservedPages

end Arena

/-- A page that an allocation of the arena could take: one of its own that is
not mapped, or one of the unowned pages right behind it. -/
def Available (pool : Pool) (id : ArenaId) (page : Nat) : Prop :=
  ((pool.heap id).Holds page ∧
      (pool.heap id).mapped (page - (pool.heap id).first) = false) ∨
    (pool.heap id).stop ≤ page ∧ page < pool.userPages ∧
      ∀ between, (pool.heap id).stop ≤ between → between ≤ page →
        pool.owner between = none

/-- There is a range of pages for an allocation, starting in the arena or at
its end. -/
def Placeable (pool : Pool) (id : ArenaId) (nrPages : Nat) : Prop :=
  ∃ start, (pool.heap id).first ≤ start ∧ start ≤ (pool.heap id).stop ∧
    ∀ page, start ≤ page → page < start + nrPages → Available pool id page

/-- So many consecutive pages of the arena are not mapped. -/
def RunInside (pool : Pool) (id : ArenaId) (nrPages : Nat) : Prop :=
  ∃ start, start + nrPages ≤ (pool.heap id).reservedPages ∧
    ∀ index, start ≤ index → index < start + nrPages →
      (pool.heap id).mapped index = false

/-- So many pages right behind the arena are unowned. -/
def RunBehind (pool : Pool) (id : ArenaId) (nrPages : Nat) : Prop :=
  (pool.heap id).stop + nrPages ≤ pool.userPages ∧
    ∀ page, (pool.heap id).stop ≤ page → page < (pool.heap id).stop + nrPages →
      pool.owner page = none

section Search

variable {pool : Pool} {id : ArenaId} {nrPages : Nat}

/-- The first search finds a range inside the arena, if there is one. -/
theorem runInside_iff (hpos : 0 < nrPages) : RunInside pool id nrPages ↔
      (pool.heap id).mapped.findNextZeroArea (pool.heap id).reservedPages 0
        nrPages + nrPages ≤ (pool.heap id).reservedPages := by
  constructor
  · rintro ⟨start, hfits, hclear⟩
    have hfound := Bitmap.findNextZeroArea_le hpos (Nat.zero_le _) hfits hclear
    omega
  · exact fun hfits => ⟨_, hfits, Bitmap.findNextZeroArea_clear hfits hpos⟩

/-- The second search accepts the pages behind the arena, if they are free. -/
theorem runBehind_iff (hinv : PoolInv pool) : RunBehind pool id nrPages ↔
      (pool.heap id).stop + nrPages ≤ pool.userPages ∧
        ¬ pool.reserved.findNextBit ((pool.heap id).stop + nrPages)
          (pool.heap id).stop < (pool.heap id).stop + nrPages := by
  refine and_congr_right fun _ => ⟨fun hunowned hfound => ?_, ?_⟩
  · have hlow := Bitmap.le_findNextBit pool.reserved
      (Nat.le_add_right (pool.heap id).stop nrPages)
    exact (hinv.reserved _).mp (Bitmap.findNextBit_found hfound)
      (hunowned _ hlow hfound)
  · intro hnone page hlow hhigh
    have hclear := Bitmap.all_clear_of_findNextBit hnone page hlow hhigh
    by_contra howned
    exact Bool.false_ne_true
      (hclear.symm.trans ((hinv.reserved page).mpr howned))

/-- The locked part of the allocation fails exactly if neither search finds a
range. -/
theorem allocSection_null (hinv : PoolInv pool) (hpos : 0 < nrPages) :
    (allocSection id nrPages pool).2.address = none ↔
      ¬ RunInside pool id nrPages ∧ ¬ RunBehind pool id nrPages := by
  rw [runInside_iff hpos, runBehind_iff hinv]
  unfold allocSection Arena.stop
  dsimp only
  split_ifs with hinside hbehind <;>
    simp only [Bool.or_eq_true, decide_eq_true_eq, true_iff, false_iff] at *
  · exact ⟨by omega, by omega⟩
  · exact fun hnone => hnone.2 (by omega)
  · exact fun hnone => hnone.1 (by omega)

end Search

section Calls

variable {pool : Pool} {mm : Mm} {id : ArenaId}

/-- The mm has an arena. -/
structure Serves (pool : Pool) (mm : Mm) (id : ArenaId) : Prop where
  inv : PoolInv pool
  arena : (pool.context mm).userArena = some id

/-- No range of pages is longer than the pool. -/
theorem Serves.le_userPages {nrPages : Nat} (hserves : Serves pool mm id)
    (hrun : RunInside pool id nrPages ∨ RunBehind pool id nrPages) :
    nrPages ≤ pool.userPages := by
  obtain ⟨hlive, -⟩ := (hserves.inv.context mm).arena id hserves.arena
  have hfits := (hserves.inv.arena id hlive).fits
  have hpages := hserves.inv.layout.pages
  rcases hrun with ⟨start, hinside, -⟩ | ⟨hbehind, -⟩
  · omega
  · omega

/-- The checks before the lock refuse no request that a search would place. -/
theorem allocArena_none {nrPages : Word} (hserves : Serves pool mm id)
    (hrefused : allocArena mm nrPages pool = none) :
    ¬ (nrPages ≠ 0 ∧ (pool.context mm).userBoundsValid = true ∧
      (RunInside pool id nrPages.toNat ∨ RunBehind pool id nrPages.toNat)) := by
  rintro ⟨hpos, hvalid, hrun⟩
  have hpages := hserves.le_userPages hrun
  obtain ⟨-, hmm⟩ := (hserves.inv.context mm).arena id hserves.arena
  unfold allocArena at hrefused
  rw [hvalid, hserves.arena, if_neg (by
    simp only [Bool.or_eq_true, beq_iff_eq, decide_eq_true_eq, Bool.not_true,
      Bool.false_eq_true, or_false, not_or]
    exact ⟨hpos, Nat.not_lt.mpr hpages⟩)] at hrefused
  simp [hmm] at hrefused

/-- Behind checks that let the request through, the locked part decides. -/
theorem Serves.decides {checked locked : Pool} {found : ArenaId}
    {nrPages : Word} (hchecked : Serves checked mm id)
    (hlocked : Serves locked mm id)
    (hchecks : allocArena mm nrPages checked = some found) :
    (allocSection found nrPages.toNat locked).2.address = none ↔
      ¬ (nrPages ≠ 0 ∧ (checked.context mm).userBoundsValid = true ∧
        (RunInside locked id nrPages.toNat ∨
          RunBehind locked id nrPages.toNat)) := by
  obtain ⟨hpos, hvalid, hfound⟩ := allocArena_some hchecks
  obtain rfl := Option.some.inj (hfound.symm.trans hchecked.arena)
  have hnonzero : nrPages ≠ 0 := by
    rintro rfl
    exact lt_irrefl 0 hpos
  rw [allocSection_null hlocked.inv hpos, ← not_or]
  exact not_congr ⟨fun hrun => ⟨hnonzero, hvalid, hrun⟩, fun hall => hall.2.2⟩

section Decision

variable {nrPages : Word} {steps : List (Pool × Pool)} {reply : AllocResult}
  {checked before : Pool × Pool}

/-- An allocation returns `NULL` exactly if it asks for no page, the bounds are
not published, or neither search finds a range.  It decides in the pool
`before`: under the lock, unless the checks before it refuse. -/
theorem userArenaAlloc_null
    (hsteps : Performs (userArenaAlloc (some mm) nrPages) steps reply)
    (hserves : ∀ step ∈ steps.take 2, Serves step.1 mm id)
    (hchecked : steps.head? = some checked)
    (hbefore : (steps.take 2).getLast? = some before) :
    reply.address = none ↔
      ¬ (nrPages ≠ 0 ∧ (checked.1.context mm).userBoundsValid = true ∧
        (RunInside before.1 id nrPages.toNat ∨
          RunBehind before.1 id nrPages.toNat)) := by
  cases userArenaAlloc_trace hsteps with
  | refused hchecks =>
    cases hchecked
    obtain rfl := Option.some.inj hbefore
    exact iff_of_true rfl
      (allocArena_none (hserves _ List.mem_cons_self) hchecks)
  | failed hchecks _ | allocated hchecks _ =>
    cases hchecked
    obtain rfl := Option.some.inj hbefore
    exact (hserves _ List.mem_cons_self).decides
      (hserves _ (List.mem_cons_of_mem _ List.mem_cons_self)) hchecks

/-- An allocation returns `NULL` only if there is no place for it: exactly if
there is none, or if one of the two searches finds a range, for a page or more
and behind published bounds. -/
theorem userArenaAlloc_complete
    (hsteps : Performs (userArenaAlloc (some mm) nrPages) steps reply)
    (hserves : ∀ step ∈ steps.take 2, Serves step.1 mm id)
    (hchecked : steps.head? = some checked)
    (hbefore : (steps.take 2).getLast? = some before) :
    (reply.address = none → ¬ Placeable before.1 id nrPages.toNat) ↔
      ¬ Placeable before.1 id nrPages.toNat ∨
        (nrPages ≠ 0 ∧ (checked.1.context mm).userBoundsValid = true ∧
          (RunInside before.1 id nrPages.toNat ∨
            RunBehind before.1 id nrPages.toNat)) := by
  rw [userArenaAlloc_null hsteps hserves hchecked hbefore]
  tauto

end Decision

/-- A failing allocation that nobody interrupts. -/
theorem performs_userArenaAlloc {nrPages : Word}
    (hchecks : allocArena mm nrPages pool = some id)
    (hnull : (allocSection id nrPages.toNat pool).2.address = none) :
    Performs (userArenaAlloc (some mm) nrPages)
      [(pool, pool), (pool, (allocSection id nrPages.toNat pool).1)]
      (allocSection id nrPages.toNat pool).2 := by
  refine performs_bind.mpr ⟨[(pool, pool)], _, _, rfl,
    performs_load.mpr ⟨pool, rfl, rfl⟩, ?_⟩
  rw [hchecks]
  refine performs_bind.mpr ⟨_, _, [], (List.append_nil _).symm,
    performs_critical.mpr ⟨pool, rfl, rfl⟩, ?_⟩
  unfold finishAlloc
  rw [hnull]
  exact .ret _

end Calls

/-- Threads 0, 1 and 2 reserve two pages each, one behind the other, and thread
1 releases its own. -/
def seamSchedule : List PoolLabel :=
  .call 0 (.prepare (some 0) 8192#32) :: List.replicate 12 (.step 0 (some 0)) ++
  .call 1 (.prepare (some 1) 8192#32) :: List.replicate 12 (.step 1 (some 1)) ++
  .call 2 (.prepare (some 2) 8192#32) :: List.replicate 12 (.step 2 (some 2)) ++
  .call 1 (.release (some 1)) :: List.replicate 10 (.step 1 none)

/-- Thread 0 then asks for three pages. -/
def threePages : List PoolLabel :=
  .call 0 (.alloc (some 0) 3#32) :: List.replicate 2 (.step 0 none)

/-- They have a place, and the call does not find it. -/
theorem seamSchedule_state :
    ∃ config, PoolRun seamSchedule config ∧ Serves config.shared 0 0 ∧
      Placeable config.shared 0 3 ∧
      allocArena 0 3#32 config.shared = some 0 ∧
      (allocSection 0 3 config.shared).2.address = none ∧
      ∃ after, config.exec poolCode threePages = some after ∧
        (after.thread 0).reply = some (.allocated ⟨none, false⟩) := by
  have hcheck : ∃ config, PoolRun seamSchedule config ∧
      (config.shared.context 0).userArena = some 0 ∧
      ((config.shared.heap 0).first = 0 ∧
        (config.shared.heap 0).reservedPages = 2 ∧
        (config.shared.heap 0).mapped 0 = false ∧
        (config.shared.heap 0).mapped 1 = false ∧
        config.shared.owner 2 = none) ∧
      (allocArena 0 3#32 config.shared = some 0 ∧
        (allocSection 0 3 config.shared).2.address = none) ∧
      (config.exec poolCode threePages).any (fun after => decide (
        (after.thread 0).reply = some (.allocated ⟨none, false⟩))) = true :=
    exists_poolRun (by decide) (by decide +kernel)
  obtain ⟨config, hrun, harena, ⟨hfirst, hreserved, hzero, hone, hunowned⟩,
    ⟨hchecks, hnull⟩, hafter⟩ := hcheck
  obtain ⟨after, hexec, hreply⟩ := Option.any_eq_true _ _ |>.mp hafter
  refine ⟨config, hrun, ⟨hrun.inv, harena⟩,
    ⟨0, by omega, Nat.zero_le _, fun page _ hpage => ?_⟩, hchecks, hnull,
    after, hexec, of_decide_eq_true hreply⟩
  have hpages : config.shared.userPages = 2048 := hrun.inv.layout.pages
  unfold Available Arena.Holds Arena.stop
  rw [hfirst, hreserved, hpages]
  obtain rfl | rfl | rfl : page = 0 ∨ page = 1 ∨ page = 2 := by omega
  · exact .inl ⟨by decide, hzero⟩
  · exact .inl ⟨by decide, hone⟩
  · refine .inr ⟨by decide, by decide, fun between hlo hhi => ?_⟩
    obtain rfl : between = 2 := by omega
    exact hunowned

theorem seamSchedule_userArenaAlloc_complete :
    ∃ config, PoolRun seamSchedule config ∧ Placeable config.shared 0 3 ∧
      ¬ (RunInside config.shared 0 3 ∨ RunBehind config.shared 0 3) := by
  obtain ⟨config, hrun, hserves, hplace, hchecks, hnull, -⟩ :=
    seamSchedule_state
  obtain ⟨-, hvalid, -⟩ := allocArena_some hchecks
  have hexact := userArenaAlloc_complete
    (performs_userArenaAlloc hchecks hnull) (List.forall_mem_cons.mpr
      ⟨hserves, List.forall_mem_singleton.mpr hserves⟩) rfl rfl
  exact ⟨config, hrun, hplace, fun hfound =>
    hexact.mpr (.inr ⟨by decide, hvalid, hfound⟩) hnull hplace⟩

theorem seamSchedule_misses_place :
    ∃ before after, PoolRun seamSchedule before ∧ Serves before.shared 0 0 ∧
      (before.shared.context 0).userBoundsValid = true ∧
      Placeable before.shared 0 3 ∧
      before.exec poolCode threePages = some after ∧
      (after.thread 0).reply = some (.allocated ⟨none, false⟩) := by
  obtain ⟨before, hrun, hserves, hplace, hchecks, -, after, hexec, hreply⟩ :=
    seamSchedule_state
  exact ⟨before, after, hrun, hserves, (allocArena_some hchecks).2.1, hplace,
    hexec, hreply⟩

end Micronux
