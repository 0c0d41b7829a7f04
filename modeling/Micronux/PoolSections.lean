/-
What each locked section and each store does to the pool: every one of them
keeps the pool's invariant.  A section that fails leaves the pool as it was.
-/
import Micronux.PoolInvariant
import Mathlib.Algebra.Order.BigOperators.Group.Finset

namespace Micronux

open Concurrent

/-- The pages of live arenas are exactly the owned ones. -/
theorem PoolInv.owner_of_holds {pool : Pool} (hinv : PoolInv pool)
    {id : ArenaId} (hlive : id ∈ pool.live) {page : Nat}
    (hholds : (pool.heap id).Holds page) : pool.owner page = some id :=
  (hinv.owner page id).mpr ⟨hlive, hholds⟩

/-- Intervals of different arenas are disjoint. -/
theorem PoolInv.holds_unique {pool : Pool} (hinv : PoolInv pool)
    {left right : ArenaId} (hleft : left ∈ pool.live)
    (hright : right ∈ pool.live) {page : Nat}
    (hpageLeft : (pool.heap left).Holds page)
    (hpageRight : (pool.heap right).Holds page) : left = right := by
  have howner := hinv.owner_of_holds hleft hpageLeft
  rw [hinv.owner_of_holds hright hpageRight] at howner
  exact (Option.some.inj howner).symm

theorem PoolInv.holds_of_owner {pool : Pool} (hinv : PoolInv pool)
    {page : Nat} {id : ArenaId} (howner : pool.owner page = some id) :
    id ∈ pool.live ∧ (pool.heap id).Holds page :=
  (hinv.owner page id).mp howner

/-- A clear bit of the reserved bitmap is a page of no arena. -/
theorem PoolInv.not_holds_of_clear {pool : Pool} (hinv : PoolInv pool)
    {page : Nat} (hclear : pool.reserved page = false) {id : ArenaId}
    (hlive : id ∈ pool.live) : ¬ (pool.heap id).Holds page := by
  intro hholds
  have hreserved := (hinv.reserved page).mpr (by
    rw [hinv.owner_of_holds hlive hholds]
    exact Option.some_ne_none id)
  rw [hclear] at hreserved
  exact Bool.noConfusion hreserved

variable {mm : Mm} {after : Pool}

/-- A context stays correct when its arena keeps its place and its pages stay
zeroed. -/
theorem Pool.ContextOk.frame {pool : Pool} {context : MmContext}
    (hok : pool.ContextOk mm context)
    (harena : ∀ id, context.userArena = some id → id ∈ pool.live →
      id ∈ after.live ∧ (pool.heap id).Extends (after.heap id))
    (hzeroed : ∀ id, context.userArena = some id → id ∈ pool.live →
      ∀ page, (pool.heap id).Holds page →
        after.zeroedBy page = pool.zeroedBy page ∨
          after.zeroedBy page = some mm)
    (htext : after.TextKept → pool.TextKept ∧
      (context.Split → pool.TextMapped context → after.TextMapped context)) :
    after.ContextOk mm context := by
  refine ⟨?_, ?_, hok.split, ?_⟩
  · intro id hid
    obtain ⟨hlive, hmm⟩ := hok.arena id hid
    obtain ⟨hlive', hextends⟩ := harena id hid hlive
    exact ⟨hlive', hextends.mm.trans hmm⟩
  · intro hvalid
    obtain ⟨id, count, hpub⟩ := hok.bounds hvalid
    have hlive := (hok.arena id hpub.arena).1
    have hextends := (harena id hpub.arena hlive).2
    refine ⟨id, count, hpub.arena, hpub.count_pos,
      hpub.count_le.trans hextends.reserved, ?_, ?_, ?_⟩
    · rw [hextends.first]
      exact hpub.lo
    · rw [hextends.first]
      exact hpub.hi
    · intro page hlower hupper
      rw [hextends.first] at hlower hupper
      have hcount := hpub.count_le
      have hholds : (pool.heap id).Holds page := ⟨hlower, by omega⟩
      rcases hzeroed id hpub.arena hlive page hholds with hsame | hown
      · rw [hsame]
        exact hpub.zeroed page hlower hupper
      · exact hown
  · intro hkept hsplit
    obtain ⟨hkept', hmapped⟩ := htext hkept
    exact hmapped hsplit (hok.text hkept' hsplit)

/-- Only arenas, liveness, zeroing and events matter to a context. -/
theorem Pool.ContextOk.congr {pool : Pool} {context : MmContext}
    (hok : pool.ContextOk mm context) (hheap : after.heap = pool.heap)
    (hlive : after.live = pool.live) (hzeroed : after.zeroedBy = pool.zeroedBy)
    (hevents : after.events = pool.events) : after.ContextOk mm context := by
  refine hok.frame ?_ ?_ ?_
  · intro id _ hid
    rw [hlive, hheap]
    exact ⟨hid, Arena.Extends.refl _⟩
  · intro id _ _ page _
    exact .inl (congrFun hzeroed page)
  · intro hkept
    unfold Pool.TextKept at hkept ⊢
    rw [hevents] at hkept
    refine ⟨hkept, fun _ hmapped => ?_⟩
    unfold Pool.TextMapped at hmapped ⊢
    rwa [hheap]

@[simp] theorem Pool.setContext_self (pool : Pool) (mm : Mm)
    (change : MmContext → MmContext) :
    (pool.setContext mm change).context mm = change (pool.context mm) :=
  Function.update_self ..

variable {change : MmContext → MmContext} {heap : ArenaId → Arena}

theorem Pool.setContext_of_ne {pool : Pool} {other : Mm} (hother : other ≠ mm) :
    (pool.setContext mm change).context other = pool.context other :=
  Function.update_of_ne hother ..

/-- A store to one context. -/
theorem PoolInv.setContext {pool : Pool} (hinv : PoolInv pool)
    (hok : pool.ContextOk mm (change (pool.context mm))) :
    PoolInv (pool.setContext mm change) where
  layout := ⟨hinv.layout.ready, hinv.layout.start, hinv.layout.stop,
    hinv.layout.pages⟩
  allocated := hinv.allocated
  arena := hinv.arena
  owner := hinv.owner
  reserved := hinv.reserved
  reserved_sum := hinv.reserved_sum
  mapped_sum := hinv.mapped_sum
  arenas_card := hinv.arenas_card
  context := by
    intro other
    by_cases hother : other = mm
    · subst other
      rw [Pool.setContext_self]
      exact hok.congr rfl rfl rfl rfl
    · rw [Pool.setContext_of_ne hother]
      exact (hinv.context other).congr rfl rfl rfl rfl
  clean := hinv.clean
  spared := hinv.spared

section Sums

variable {live : Finset ArenaId}

/-- Replacing one arena shifts a sum over the live arenas. -/
theorem sum_update (heap : ArenaId → Arena) {id : ArenaId} (hlive : id ∈ live)
    (measure : Arena → Nat) (arena : Arena) :
    ∑ other ∈ live, measure (Function.update heap id arena other) +
        measure (heap id) =
      ∑ other ∈ live, measure (heap other) + measure arena := by
  rw [← Finset.add_sum_erase live _ hlive,
    ← Finset.add_sum_erase live (fun other => measure (heap other)) hlive]
  have hrest : ∑ other ∈ live.erase id,
        measure (Function.update heap id arena other) =
      ∑ other ∈ live.erase id, measure (heap other) := by
    refine Finset.sum_congr rfl ?_
    intro other hother
    rw [Function.update_of_ne (Finset.ne_of_mem_erase hother)]
  rw [hrest, Function.update_self]
  omega

/-- Replacing an arena that is not live changes no sum. -/
theorem sum_update_of_notMem {id : ArenaId} (hlive : id ∉ live)
    (measure : Arena → Nat) (arena : Arena) :
    ∑ other ∈ live, measure (Function.update heap id arena other) =
      ∑ other ∈ live, measure (heap other) := by
  refine Finset.sum_congr rfl ?_
  intro other hother
  have hne : other ≠ id := fun heq => hlive (heq ▸ hother)
  rw [Function.update_of_ne hne]

end Sums

section Search

/-- A clear run of pages, or nothing yet. -/
def ClearRun (reserved : Bitmap) (pages : Nat) (run : Nat × Nat) : Prop :=
  run.1 = 0 ∨ run.2 + run.1 ≤ pages ∧
    ∀ page, run.2 ≤ page → page < run.2 + run.1 → reserved page = false

variable {reserved : Bitmap}

theorem clearRun_of_findNextBit {pages start : Nat} (hstart : start ≤ pages) :
    ClearRun reserved pages
      (reserved.findNextBit pages start - start, start) := by
  have hupper := reserved.findNextBit_le pages start
  have hlower := Bitmap.le_findNextBit reserved hstart
  refine .inr ⟨by simp only; omega, ?_⟩
  intro page hle hlt
  simp only at hle hlt
  have hskip : page < reserved.findNextBit pages start := by omega
  exact Bitmap.findNextBit_skipped hle hskip

theorem largestFreeExtentLoop_clear {pages : Nat} (fuel cursor : Nat)
    {best : Nat × Nat} (hbest : ClearRun reserved pages best) :
    ClearRun reserved pages
      (largestFreeExtentLoop reserved pages fuel cursor best) := by
  induction fuel generalizing cursor best with
  | zero => exact hbest
  | succ fuel ih =>
    simp only [largestFreeExtentLoop]
    split
    · exact hbest
    · split
      · exact hbest
      · next hstart =>
          have hbetter : ∀ run, ClearRun reserved pages run →
              ClearRun reserved pages (if best.1 < run.1 then run else best) := by
            intro run hrun
            split
            · exact hrun
            · exact hbest
          have hnext := hbetter _
            (clearRun_of_findNextBit (Nat.le_of_not_le hstart))
          split
          · exact hnext
          · exact ih _ hnext

/-- A start that `micronux_user_largest_free_extent` finds is followed by
enough clear pages. -/
theorem userLargestFreeExtent_clear {pool : Pool} {nrPages : Nat}
    (hpos : 0 < nrPages)
    (hfound : userLargestFreeExtent pool nrPages < pool.userPages) :
    userLargestFreeExtent pool nrPages + nrPages ≤ pool.userPages ∧
      ∀ page, userLargestFreeExtent pool nrPages ≤ page →
        page < userLargestFreeExtent pool nrPages + nrPages →
        pool.reserved page = false := by
  have hrun : ClearRun pool.reserved pool.userPages
      (largestFreeExtentLoop pool.reserved pool.userPages pool.userPages 0
        (0, pool.userPages)) :=
    largestFreeExtentLoop_clear pool.userPages 0 (.inl rfl)
  simp only [userLargestFreeExtent] at hfound ⊢
  split at hfound
  · next henough =>
      rw [if_pos henough]
      rcases hrun with hzero | ⟨hfits, hclear⟩
      · omega
      · refine ⟨by omega, ?_⟩
        intro page hlower hupper
        exact hclear page hlower (by omega)
  · omega

end Search

/-- The page of the pool that an address of a page range lies in. -/
theorem page_of_address {first count address : Nat}
    (hlower : pageBase first ≤ address)
    (hupper : address < pageBase (first + count)) :
    ∃ page, first ≤ page ∧ page < first + count ∧
      pageBase page ≤ address ∧ address < pageBase (page + 1) := by
  refine ⟨first + (address - pageBase first) / pageSize, ?_⟩
  simp only [pageBase, pageSize] at hlower hupper ⊢
  omega

theorem page_unique {left right address : Nat}
    (hleft : pageBase left ≤ address) (hleftNext : address < pageBase (left + 1))
    (hright : pageBase right ≤ address)
    (hrightNext : address < pageBase (right + 1)) : left = right := by
  have hle := pageBase_lt.mp (lt_of_le_of_lt hleft hrightNext)
  have hge := pageBase_lt.mp (lt_of_le_of_lt hright hleftNext)
  omega

/-- Text stays mapped when its arena only grows and maps more. -/
theorem Pool.ContextOk.textMapped_mono {pool : Pool} {context : MmContext}
    (hok : pool.ContextOk mm context) (hsplit : context.Split)
    (harena : ∀ id, context.userArena = some id →
      (pool.heap id).Extends (after.heap id) ∧
        ∀ index, (pool.heap id).mapped index = true →
          (after.heap id).mapped index = true)
    (hmapped : pool.TextMapped context) : after.TextMapped context := by
  intro id hid page hholds htext
  obtain ⟨hextends, hmore⟩ := harena id hid
  obtain ⟨id', count, hpub⟩ := hok.bounds hsplit.1
  obtain rfl : id' = id := Option.some.inj (hpub.arena.symm.trans hid)
  -- pages past the published bounds hold no text, so the page is an old one
  have hexec := (hok.split hsplit).lt_hi
  rw [hpub.hi] at hexec
  have hlt : page < (pool.heap id').first + count :=
    pageBase_lt.mp (htext.trans hexec)
  have hcount := hpub.count_le
  have hfirst := hextends.first
  have hold : (pool.heap id').Holds page := by
    unfold Arena.Holds at hholds ⊢
    omega
  rw [hfirst]
  exact hmore _ (hmapped id' hid page hold htext)

section Place

variable {pool : Pool} {id : ArenaId} {arena : Arena} {first count : Nat}

/-- Give an arena a clear range of pages: a new arena starts with it, a live
one grows by it. -/
structure Placement (pool : Pool) (id : ArenaId) (arena : Arena)
    (first count : Nat) : Prop where
  clear : ∀ page, first ≤ page → page < first + count →
    pool.reserved page = false
  wellFormed : arena.WellFormed
  allocated : pool.allocated id = true
  holds : ∀ page, arena.Holds page ↔ (first ≤ page ∧ page < first + count) ∨
      id ∈ pool.live ∧ (pool.heap id).Holds page
  fresh : id ∉ pool.live → arena.reservedPages = count ∧ arena.mappedPages = 0
  grown : id ∈ pool.live →
    arena.reservedPages = (pool.heap id).reservedPages + count ∧
      arena.mappedPages = (pool.heap id).mappedPages ∧
      arena.mapped = (pool.heap id).mapped ∧
      (pool.heap id).Extends arena

def Pool.placed (pool : Pool) (id : ArenaId) (arena : Arena)
    (first count : Nat) : Pool :=
  { (pool.setArena id arena).reserve id first count with
    arenas := (insert id pool.live).card
    live := insert id pool.live }

theorem Placement.heap_live (hplace : Placement pool id arena first count)
    {other : ArenaId} (hother : other ∈ pool.live) :
    (pool.heap other).Extends ((pool.placed id arena first count).heap other) ∧
      ((pool.placed id arena first count).heap other).mapped =
        (pool.heap other).mapped := by
  change (pool.heap other).Extends (Function.update pool.heap id arena other) ∧
    (Function.update pool.heap id arena other).mapped = (pool.heap other).mapped
  by_cases hid : other = id
  · subst other
    obtain ⟨-, -, hmapped, hextends⟩ := hplace.grown hother
    rw [Function.update_self]
    exact ⟨hextends, hmapped⟩
  · rw [Function.update_of_ne hid]
    exact ⟨Arena.Extends.refl _, rfl⟩

section

variable (hinv : PoolInv pool)

include hinv

theorem Placement.reserved (page : Nat) :
    (pool.placed id arena first count).reserved page = true ↔
      (pool.placed id arena first count).owner page ≠ none := by
  change pool.reserved.setRange first count page = true ↔
    (if first ≤ page ∧ page < first + count then some id
      else pool.owner page) ≠ none
  rw [Bitmap.setRange_apply, hinv.reserved page]
  by_cases hrange : first ≤ page ∧ page < first + count
  · simp [hrange]
  · rw [if_neg hrange]
    simp only [hrange, false_or]

section

variable (hplace : Placement pool id arena first count)

include hplace

theorem Placement.owner (page : Nat) (other : ArenaId) :
    (pool.placed id arena first count).owner page = some other ↔
      other ∈ (pool.placed id arena first count).live ∧
        ((pool.placed id arena first count).heap other).Holds page := by
  change (if first ≤ page ∧ page < first + count then some id
      else pool.owner page) = some other ↔ other ∈ insert id pool.live ∧
        (Function.update pool.heap id arena other).Holds page
  rw [Finset.mem_insert]
  by_cases hrange : first ≤ page ∧ page < first + count
  · rw [if_pos hrange, Option.some.injEq]
    constructor
    · rintro rfl
      rw [Function.update_self, hplace.holds]
      exact ⟨.inl rfl, .inl hrange⟩
    · rintro ⟨hother, hholds⟩
      by_contra hne
      rw [Function.update_of_ne (Ne.symm hne)] at hholds
      have hlive := hother.resolve_left (Ne.symm hne)
      exact hinv.not_holds_of_clear
        (hplace.clear page hrange.1 hrange.2) hlive hholds
  · rw [if_neg hrange, hinv.owner page other]
    by_cases hid : other = id
    · subst other
      rw [Function.update_self, hplace.holds]
      simp only [hrange, false_or, true_or, true_and]
    · rw [Function.update_of_ne hid]
      simp only [hid, false_or]

theorem Placement.arenas_wellFormed : ∀ other ∈ insert id pool.live,
      (Function.update pool.heap id arena other).WellFormed := by
  intro other hother
  by_cases hid : other = id
  · subst other
    rw [Function.update_self]
    exact hplace.wellFormed
  · rw [Function.update_of_ne hid]
    exact hinv.arena other ((Finset.mem_insert.mp hother).resolve_left hid)

/-- A placement adds the range to one count and nothing to the other. -/
theorem Placement.sums :
    pool.reservedPages + count = ∑ other ∈ insert id pool.live,
        (Function.update pool.heap id arena other).reservedPages ∧
      pool.mappedPages = ∑ other ∈ insert id pool.live,
        (Function.update pool.heap id arena other).mappedPages := by
  by_cases hlive : id ∈ pool.live
  · obtain ⟨hreserved, hmapped, -, -⟩ := hplace.grown hlive
    have hsumReserved := sum_update pool.heap hlive Arena.reservedPages arena
    have hsumMapped := sum_update pool.heap hlive Arena.mappedPages arena
    rw [Finset.insert_eq_of_mem hlive]
    rw [hinv.reserved_sum, hinv.mapped_sum]
    omega
  · obtain ⟨hreserved, hmapped⟩ := hplace.fresh hlive
    rw [Finset.sum_insert hlive, Finset.sum_insert hlive,
      sum_update_of_notMem hlive Arena.reservedPages,
      sum_update_of_notMem hlive Arena.mappedPages,
      Function.update_self, hreserved, hmapped, hinv.reserved_sum,
      hinv.mapped_sum]
    omega

/-- Contexts do not notice a placement. -/
theorem Placement.context {context : MmContext}
    (hok : pool.ContextOk mm context) :
    (pool.placed id arena first count).ContextOk mm context := by
  refine hok.frame ?_ ?_ ?_
  · intro other _ hlive
    exact ⟨Finset.mem_insert_of_mem hlive, (hplace.heap_live hlive).1⟩
  · intro other _ hlive page hholds
    have hrange : ¬ (first ≤ page ∧ page < first + count) := by
      intro hrange
      exact hinv.not_holds_of_clear
        (hplace.clear page hrange.1 hrange.2) hlive hholds
    exact .inl (if_neg hrange)
  · intro hkept
    refine ⟨hkept, fun hsplit hmapped => ?_⟩
    refine hok.textMapped_mono hsplit ?_ hmapped
    intro other hother
    obtain ⟨hextends, hmap⟩ := hplace.heap_live (hok.arena other hother).1
    exact ⟨hextends, fun index hindex => by rw [hmap]; exact hindex⟩

theorem PoolInv.placed : PoolInv (pool.placed id arena first count) where
  layout := ⟨hinv.layout.ready, hinv.layout.start, hinv.layout.stop,
    hinv.layout.pages⟩
  allocated := by
    intro other hother
    rcases Finset.mem_insert.mp hother with rfl | hlive
    · exact hplace.allocated
    · exact hinv.allocated other hlive
  arena := hplace.arenas_wellFormed hinv
  owner := hplace.owner hinv
  reserved := Placement.reserved hinv
  reserved_sum := (hplace.sums hinv).1
  mapped_sum := (hplace.sums hinv).2
  arenas_card := rfl
  context := fun mm => hplace.context hinv (hinv.context mm)
  clean := by
    intro page mm hpage hzeroed
    change (if first ≤ page ∧ page < first + count then none
      else pool.zeroedBy page) = some mm at hzeroed
    split at hzeroed
    · cases hzeroed
    · exact hinv.clean page mm hpage hzeroed
  spared := hinv.spared

end

end

end Place

section Mapping

variable {pool : Pool} {id : ArenaId} {index count : Nat}

theorem Arena.WellFormed.mapRange {arena : Arena} (hwf : arena.WellFormed)
    (hfits : index + count ≤ arena.reservedPages)
    (hclear : ∀ i, index ≤ i → i < index + count → arena.mapped i = false) :
    (arena.mapRange index count).WellFormed where
  reserved_pos := hwf.reserved_pos
  fits := hwf.fits
  mapped_lt := by
    intro i hi
    rcases (Bitmap.setRange_apply _ _ _ _).mp hi with hrange | hold
    · exact lt_of_lt_of_le hrange.2 hfits
    · exact hwf.mapped_lt i hold
  mapped_count := by
    change arena.mappedPages + count =
      (arena.mapped.setRange index count).weight arena.reservedPages
    rw [Bitmap.weight_setRange hfits hclear, hwf.mapped_count]

theorem Arena.WellFormed.unmapRange {arena : Arena} (hwf : arena.WellFormed)
    (hfits : index + count ≤ arena.reservedPages)
    (hset : ∀ i, index ≤ i → i < index + count → arena.mapped i = true) :
    (arena.unmapRange index count).WellFormed where
  reserved_pos := hwf.reserved_pos
  fits := hwf.fits
  mapped_lt := by
    intro i hi
    exact hwf.mapped_lt i ((Bitmap.clearRange_apply _ _ _ _).mp hi).2
  mapped_count := by
    have hweight := Bitmap.weight_clearRange hfits hset
    have hcount := hwf.mapped_count
    change arena.mappedPages - count =
      (arena.mapped.clearRange index count).weight arena.reservedPages
    omega

/-- Replacing a live arena by one with the same interval keeps the books. -/
theorem PoolInv.replace_owner (hinv : PoolInv pool) {arena : Arena}
    (hfirst : arena.first = (pool.heap id).first)
    (hreserved : arena.reservedPages = (pool.heap id).reservedPages)
    (page : Nat) (other : ArenaId) :
    pool.owner page = some other ↔ other ∈ pool.live ∧
      (Function.update pool.heap id arena other).Holds page := by
  rw [hinv.owner page other]
  by_cases hid : other = id
  · subst other
    rw [Function.update_self]
    unfold Arena.Holds
    rw [hfirst, hreserved]
  · rw [Function.update_of_ne hid]

theorem PoolInv.replace_arena (hinv : PoolInv pool) {arena : Arena}
    (hwf : arena.WellFormed) : ∀ other ∈ pool.live,
      (Function.update pool.heap id arena other).WellFormed := by
  intro other hother
  by_cases hid : other = id
  · subst other
    rw [Function.update_self]
    exact hwf
  · rw [Function.update_of_ne hid]
    exact hinv.arena other hother

theorem PoolInv.replace_reserved_sum (hinv : PoolInv pool)
    (hlive : id ∈ pool.live) {arena : Arena}
    (hreserved : arena.reservedPages = (pool.heap id).reservedPages) :
    pool.reservedPages = ∑ other ∈ pool.live,
      (Function.update pool.heap id arena other).reservedPages := by
  have hsum := sum_update pool.heap hlive Arena.reservedPages arena
  have htotal := hinv.reserved_sum
  omega

/-- An arena with the same interval extends the one it replaces. -/
theorem extends_update {arena : Arena} (hextends : (heap id).Extends arena)
    (other : ArenaId) :
    (heap other).Extends (Function.update heap id arena other) := by
  by_cases hid : other = id
  · subst other
    rw [Function.update_self]
    exact hextends
  · rw [Function.update_of_ne hid]
    exact Arena.Extends.refl _

theorem Pool.mapPages_extends (pool : Pool) (id : ArenaId)
    (index count : Nat) (other : ArenaId) :
    (pool.heap other).Extends ((pool.mapPages id index count).heap other) :=
  extends_update (⟨rfl, rfl, le_rfl⟩ : (pool.heap id).Extends
    ((pool.heap id).mapRange index count)) other

theorem Pool.unmapPages_extends (pool : Pool) (id : ArenaId)
    (index count : Nat) (other : ArenaId) :
    (pool.heap other).Extends ((pool.unmapPages id index count).heap other) :=
  extends_update (⟨rfl, rfl, le_rfl⟩ : (pool.heap id).Extends
    ((pool.heap id).unmapRange index count)) other

/-- Pages that are not mapped hold no text of a finalized mm. -/
theorem PoolInv.not_meetsText (hinv : PoolInv pool) (hkept : pool.TextKept)
    (hcontext : (pool.context mm).userArena = some id)
    (hfits : index + count ≤ (pool.heap id).reservedPages)
    (hclear : ∀ i, index ≤ i → i < index + count →
      (pool.heap id).mapped i = false) (hsplit : (pool.context mm).Split) :
    ¬ MeetsText (pool.context mm) ((pool.heap id).first + index) count := by
  rintro ⟨address, hlower, hupper, -, hexec⟩
  obtain ⟨page, hfirst, hlast, hpage, -⟩ := page_of_address hlower hupper
  have hholds : (pool.heap id).Holds page := ⟨by omega, by omega⟩
  have hmapped := (hinv.context mm).text hkept hsplit id hcontext page hholds
    (lt_of_le_of_lt hpage hexec)
  rw [hclear _ (by omega) (by omega)] at hmapped
  exact Bool.noConfusion hmapped

/-- Mapping unmapped pages of the arena that an mm uses. -/
theorem PoolInv.mapPages (hinv : PoolInv pool) (hlive : id ∈ pool.live)
    (hcontext : (pool.context (pool.heap id).mm).userArena = some id)
    (hfits : index + count ≤ (pool.heap id).reservedPages)
    (hclear : ∀ i, index ≤ i → i < index + count →
      (pool.heap id).mapped i = false) :
    PoolInv (pool.mapPages id index count) where
  layout := ⟨hinv.layout.ready, hinv.layout.start, hinv.layout.stop,
    hinv.layout.pages⟩
  allocated := hinv.allocated
  arena := hinv.replace_arena ((hinv.arena id hlive).mapRange hfits hclear)
  owner := hinv.replace_owner rfl rfl
  reserved := hinv.reserved
  reserved_sum := hinv.replace_reserved_sum hlive rfl
  mapped_sum := by
    have hsum := sum_update pool.heap hlive Arena.mappedPages
      ((pool.heap id).mapRange index count)
    have htotal := hinv.mapped_sum
    simp only [Pool.mapPages, Pool.setArena, Arena.mapRange] at hsum ⊢
    omega
  arenas_card := hinv.arenas_card
  context := by
    intro mm
    refine (hinv.context mm).frame ?_ (fun _ _ _ _ _ => .inl rfl) ?_
    · intro other _ hother
      exact ⟨hother, pool.mapPages_extends id index count other⟩
    · intro hkept
      refine ⟨fun event hevent => hkept event (List.mem_cons_of_mem _ hevent),
        fun hsplit hmapped => ?_⟩
      refine (hinv.context mm).textMapped_mono hsplit ?_ hmapped
      intro other _
      refine ⟨pool.mapPages_extends id index count other, fun i hi => ?_⟩
      by_cases hid : other = id
      · subst other
        simp only [Pool.mapPages, Pool.setArena, Function.update_self,
          Arena.mapRange]
        exact (Bitmap.setRange_apply _ _ _ _).mpr (.inr hi)
      · simpa [Pool.mapPages, Pool.setArena, hid] using hi
  clean := hinv.clean
  spared := by
    intro hkept event hevent
    have hold : pool.TextKept :=
      fun event hevent => hkept event (List.mem_cons_of_mem _ hevent)
    rcases List.mem_cons.mp hevent with rfl | htail
    · exact hinv.not_meetsText hold hcontext hfits hclear
    · exact hinv.spared hold event htail

/-- Unmapping mapped pages of a live arena. -/
theorem PoolInv.unmapPages (hinv : PoolInv pool) (hlive : id ∈ pool.live)
    (hfits : index + count ≤ (pool.heap id).reservedPages)
    (hset : ∀ i, index ≤ i → i < index + count →
      (pool.heap id).mapped i = true) :
    PoolInv (pool.unmapPages id index count) where
  layout := ⟨hinv.layout.ready, hinv.layout.start, hinv.layout.stop,
    hinv.layout.pages⟩
  allocated := hinv.allocated
  arena := hinv.replace_arena ((hinv.arena id hlive).unmapRange hfits hset)
  owner := hinv.replace_owner rfl rfl
  reserved := hinv.reserved
  reserved_sum := hinv.replace_reserved_sum hlive rfl
  mapped_sum := by
    have hsum := sum_update pool.heap hlive Arena.mappedPages
      ((pool.heap id).unmapRange index count)
    have htotal := hinv.mapped_sum
    have hweight := Bitmap.weight_clearRange hfits hset
    have hcount := (hinv.arena id hlive).mapped_count
    simp only [Pool.unmapPages, Pool.setArena, Arena.unmapRange] at hsum ⊢
    omega
  arenas_card := hinv.arenas_card
  context := by
    intro mm
    refine (hinv.context mm).frame ?_ (fun _ _ _ _ _ => .inl rfl) ?_
    · intro other _ hother
      exact ⟨hother, pool.unmapPages_extends id index count other⟩
    · intro hkept
      refine ⟨fun event hevent => hkept event (List.mem_cons_of_mem _ hevent),
        fun hsplit hmapped => ?_⟩
      intro other hother page hholds htext
      by_cases hid : other = id
      · subst other
        have hown := (hinv.context mm).arena id hother
        obtain ⟨id', published, hpub⟩ := (hinv.context mm).bounds hsplit.1
        obtain rfl : id' = id := Option.some.inj (hpub.arena.symm.trans hother)
        -- the event says that the freed range is clear of this mm's text
        have hspared := hkept _ List.mem_cons_self
        simp only [PoolEvent.KeepsText, hown.2] at hspared
        simp only [Pool.unmapPages, Pool.setArena, Function.update_self,
          Arena.unmapRange] at hholds ⊢
        rw [Bitmap.clearRange_apply]
        refine ⟨fun hrange => ?_, hmapped id' hother page hholds htext⟩
        have hge := hholds.1
        simp only at hge
        refine hspared hsplit ⟨pageBase page, pageBase_le.mpr (by omega),
          pageBase_lt.mpr (by omega), ?_, htext⟩
        rw [hpub.lo]
        exact pageBase_le.mpr hge
      · have hmap := hmapped other hother page
        simp only [Pool.unmapPages, Pool.setArena, Function.update_of_ne hid]
          at hholds ⊢
        exact hmap hholds htext
  clean := hinv.clean
  spared := by
    intro hkept event hevent
    have hold : pool.TextKept :=
      fun event hevent => hkept event (List.mem_cons_of_mem _ hevent)
    rcases List.mem_cons.mp hevent with rfl | htail
    · trivial
    · exact hinv.spared hold event htail

end Mapping

section Unlink

variable {pool : Pool} {id : ArenaId}

theorem PoolInv.unlink_owner (hinv : PoolInv pool) (hlive : id ∈ pool.live)
    (page : Nat) (other : ArenaId) :
    (pool.unlink id).owner page = some other ↔ other ∈ (pool.unlink id).live ∧
        ((pool.unlink id).heap other).Holds page := by
  change (if (pool.heap id).Holds page then none else pool.owner page) =
      some other ↔ other ∈ pool.live.erase id ∧ (pool.heap other).Holds page
  rw [Finset.mem_erase]
  by_cases hholds : (pool.heap id).Holds page
  · rw [if_pos hholds]
    constructor
    · intro hnone
      cases hnone
    · rintro ⟨⟨hne, hother⟩, hpage⟩
      exact absurd (hinv.holds_unique hother hlive hpage hholds) hne
  · rw [if_neg hholds, hinv.owner page other]
    constructor
    · rintro ⟨hother, hpage⟩
      exact ⟨⟨fun heq => hholds (heq ▸ hpage), hother⟩, hpage⟩
    · rintro ⟨⟨-, hother⟩, hpage⟩
      exact ⟨hother, hpage⟩

theorem PoolInv.unlink_reserved (hinv : PoolInv pool) (page : Nat) :
    (pool.unlink id).reserved page = true ↔
      (pool.unlink id).owner page ≠ none := by
  change pool.reserved.clearRange (pool.heap id).first
      (pool.heap id).reservedPages page = true ↔
    (if (pool.heap id).Holds page then none else pool.owner page) ≠ none
  rw [Bitmap.clearRange_apply, hinv.reserved page]
  by_cases hholds : (pool.heap id).Holds page
  · rw [if_pos hholds]
    simp [show (pool.heap id).first ≤ page ∧
      page < (pool.heap id).first + (pool.heap id).reservedPages from hholds]
  · rw [if_neg hholds]
    simp only [show ¬ ((pool.heap id).first ≤ page ∧
      page < (pool.heap id).first + (pool.heap id).reservedPages) from hholds,
      not_false_eq_true, true_and]

/-- Releasing an arena that no context points at. -/
theorem PoolInv.unlink (hinv : PoolInv pool) (hlive : id ∈ pool.live)
    (hunused : ∀ mm, (pool.context mm).userArena ≠ some id) :
    PoolInv (pool.unlink id) where
  layout := ⟨hinv.layout.ready, hinv.layout.start, hinv.layout.stop,
    hinv.layout.pages⟩
  allocated := fun other hother =>
    hinv.allocated other (Finset.mem_of_mem_erase hother)
  arena := fun other hother =>
    hinv.arena other (Finset.mem_of_mem_erase hother)
  owner := hinv.unlink_owner hlive
  reserved := hinv.unlink_reserved
  reserved_sum := by
    have hsum := Finset.add_sum_erase pool.live
      (fun other => (pool.heap other).reservedPages) hlive
    have htotal := hinv.reserved_sum
    simp only [Pool.unlink, Pool.setOwner] at hsum ⊢
    omega
  mapped_sum := by
    have hsum := Finset.add_sum_erase pool.live
      (fun other => (pool.heap other).mappedPages) hlive
    have htotal := hinv.mapped_sum
    simp only [Pool.unlink, Pool.setOwner] at hsum ⊢
    omega
  arenas_card := by
    simp only [Pool.unlink]
    rw [Finset.card_erase_of_mem hlive, hinv.arenas_card]
  context := by
    intro mm
    refine (hinv.context mm).frame ?_ (fun _ _ _ _ _ => .inl rfl) ?_
    · intro other hother hotherLive
      have hne : other ≠ id := fun heq => hunused mm (heq ▸ hother)
      exact ⟨Finset.mem_erase.mpr ⟨hne, hotherLive⟩, Arena.Extends.refl _⟩
    · exact fun hkept => ⟨hkept, fun _ hmapped => hmapped⟩
  clean := hinv.clean
  spared := hinv.spared

end Unlink

section Blocks

variable {pool : Pool} {id : ArenaId}

theorem PoolInv.kzalloc (hinv : PoolInv pool)
    (hfree : pool.allocated id = false) :
    PoolInv { pool.setArena id { mm := mm } with
      allocated := Function.update pool.allocated id true } := by
  have hdead : id ∉ pool.live := by
    intro hlive
    rw [hinv.allocated id hlive] at hfree
    exact Bool.noConfusion hfree
  have hkeep : ∀ other ∈ pool.live,
      Function.update pool.heap id { mm := mm } other = pool.heap other := by
    intro other hother
    have hne : other ≠ id := fun heq => hdead (heq ▸ hother)
    exact Function.update_of_ne hne ..
  refine ⟨⟨hinv.layout.ready, hinv.layout.start, hinv.layout.stop,
    hinv.layout.pages⟩, ?_, ?_, ?_, hinv.reserved, ?_, ?_, hinv.arenas_card,
    ?_, hinv.clean, hinv.spared⟩
  · intro other hother
    have hne : other ≠ id := fun heq => hdead (heq ▸ hother)
    exact (Function.update_of_ne hne ..).trans (hinv.allocated other hother)
  · intro other hother
    simp only [Pool.setArena]
    rw [hkeep other hother]
    exact hinv.arena other hother
  · intro page other
    refine (hinv.owner page other).trans ?_
    refine and_congr_right fun hother => ?_
    simp only [Pool.setArena]
    rw [hkeep other hother]
  · exact hinv.reserved_sum.trans
      (sum_update_of_notMem hdead Arena.reservedPages _).symm
  · exact hinv.mapped_sum.trans
      (sum_update_of_notMem hdead Arena.mappedPages _).symm
  · intro other
    have hok := hinv.context other
    refine hok.frame ?_ (fun _ _ _ _ _ => .inl rfl) ?_
    · intro used _ hlive
      simp only [Pool.setArena]
      rw [hkeep used hlive]
      exact ⟨hlive, Arena.Extends.refl _⟩
    · refine fun hkept => ⟨hkept, fun hsplit hmapped => ?_⟩
      refine hok.textMapped_mono hsplit ?_ hmapped
      intro used hused
      simp only [Pool.setArena]
      rw [hkeep used (hok.arena used hused).1]
      exact ⟨Arena.Extends.refl _, fun _ hindex => hindex⟩

/-- A block that holds no arena goes back to the kernel heap. -/
theorem PoolInv.kfree (hinv : PoolInv pool) (hdead : id ∉ pool.live) :
    PoolInv { pool with
      allocated := Function.update pool.allocated id false } where
  layout := ⟨hinv.layout.ready, hinv.layout.start, hinv.layout.stop,
    hinv.layout.pages⟩
  allocated := by
    intro other hother
    have hne : other ≠ id := fun heq => hdead (heq ▸ hother)
    exact (Function.update_of_ne hne ..).trans (hinv.allocated other hother)
  arena := hinv.arena
  owner := hinv.owner
  reserved := hinv.reserved
  reserved_sum := hinv.reserved_sum
  mapped_sum := hinv.mapped_sum
  arenas_card := hinv.arenas_card
  context := fun mm => (hinv.context mm).congr rfl rfl rfl rfl
  clean := hinv.clean
  spared := hinv.spared

end Blocks

end Micronux
