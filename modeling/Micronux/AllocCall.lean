/-
The call that maps pages of an arena.  It maps pages inside the reserved
interval, or grows the interval and moves the upper bound only after the new
pages are zeroed.
-/
import Micronux.PrepareCall

namespace Micronux

open Concurrent Protocol

variable {mm : Mm}

section Alloc

variable {context : MmContext} {id : ArenaId} {first count nrPages : Nat}

def Arena.grow (arena : Arena) (nrPages : Nat) : Arena :=
  { arena with reservedPages := arena.reservedPages + nrPages }

/-- The placement that a growing alloc makes. -/
theorem PoolInv.growth {pool : Pool} (hinv : PoolInv pool)
    (hlive : id ∈ pool.live)
    (hfits : (pool.heap id).first + (pool.heap id).reservedPages + nrPages ≤
      poolPages)
    (hclear : ∀ page,
      (pool.heap id).first + (pool.heap id).reservedPages ≤ page →
      page < (pool.heap id).first + (pool.heap id).reservedPages + nrPages →
      pool.reserved page = false) :
    Placement pool id ((pool.heap id).grow nrPages)
      ((pool.heap id).first + (pool.heap id).reservedPages) nrPages := by
  have hwf := hinv.arena id hlive
  have hmore : (pool.heap id).reservedPages ≤
      (pool.heap id).reservedPages + nrPages := Nat.le_add_right _ _
  refine ⟨hclear, ⟨?_, ?_, ?_, ?_⟩, hinv.allocated id hlive, ?_,
    fun hdead => absurd hlive hdead,
    fun _ => ⟨rfl, rfl, rfl, rfl, rfl, hmore⟩⟩
  · exact lt_of_lt_of_le hwf.reserved_pos hmore
  · simpa [Arena.grow, Nat.add_assoc] using hfits
  · intro index hindex
    exact lt_of_lt_of_le (hwf.mapped_lt index hindex) hmore
  · exact hwf.mapped_count.trans (Bitmap.weight_extend hmore hwf.mapped_lt).symm
  · intro page
    simp only [Arena.Holds, Arena.grow, hlive, true_and]
    omega

/-- Reserving pages for a live arena is a placement. -/
theorem PoolInv.reserve_eq_placed {pool : Pool} (hinv : PoolInv pool)
    (hlive : id ∈ pool.live) (arena : Arena) :
    (pool.setArena id arena).reserve id first count =
      pool.placed id arena first count := by
  unfold Pool.placed
  rw [Finset.insert_eq_of_mem hlive, ← hinv.arenas_card]
  rfl

/-- An arena whose mm is idle, seen through the mm's context. -/
theorem Idle.own {pool : Pool} (hinv : PoolInv pool) (hidle : Idle mm pool)
    (hvalid : (pool.context mm).userBoundsValid = true)
    (harena : (pool.context mm).userArena = some id) :
    Own mm id (pool.heap id).first (pool.heap id).reservedPages
        (pool.heap id).reservedPages False pool ∧
      pool.Publishes mm (pool.context mm) id (pool.heap id).reservedPages := by
  obtain ⟨used, hpub⟩ := hidle hvalid
  obtain rfl : used = id := Option.some.inj (hpub.arena.symm.trans harena)
  exact ⟨hpub.own hinv, hpub⟩

/-- What the thread knows after the locked part of an alloc: nothing was
mapped, pages inside the arena were mapped, or the arena has grown by pages
that are not zeroed yet. -/
def AllocMid (mm : Mm) (context : MmContext) (id : ArenaId) (nrPages : Nat)
    (result : AllocResult) (pool : Pool) : Prop :=
  match result.address, result.expanded with
  | none, _ => Idle mm pool ∧ pool.context mm = context
  | some start, false => (Idle mm pool ∧ pool.context mm = context) ∧
      ∃ first count index, Own mm id first count count False pool ∧
        start.toNat = pageBase (first + index) ∧ index + nrPages ≤ count
  | some start, true => ∃ first count,
      (Own mm id first (count + nrPages) count False pool ∧
        pool.context mm = context) ∧
      start.toNat = pageBase (first + count) ∧
      first + (count + nrPages) ≤ poolPages ∧
      pool.Publishes mm context id count

theorem stable_publishes :
    poolProtocol.Stable mm fun pool => pool.context mm = context ∧
      pool.Publishes mm context id count := by
  rintro before after hrely ⟨rfl, hpub⟩
  have hown := stable_own hrely (hpub.own hrely.1)
  refine ⟨stable_context _ hrely rfl, hpub.arena, hpub.count_pos, ?_, ?_, ?_,
    ?_⟩
  · rw [hown.reserved]
    exact hpub.count_le
  · rw [hown.first_eq]
    exact hpub.lo
  · rw [hown.first_eq]
    exact hpub.hi
  · intro page hlower hupper
    rw [hown.first_eq] at hlower hupper
    exact hown.zeroed_pages page hlower hupper

theorem stable_allocMid (result : AllocResult) :
    poolProtocol.Stable mm (AllocMid mm context id nrPages result) := by
  obtain ⟨address, expanded⟩ := result
  cases address with
  | none => exact stable_idle.and (stable_context context)
  | some start =>
    cases expanded with
    | false =>
      refine (stable_idle.and (stable_context context)).and ?_
      refine Stable.exists fun first => Stable.exists fun count =>
        Stable.exists fun index => ?_
      exact stable_own.and (Stable.const _)
    | true =>
      refine Stable.exists fun first => Stable.exists fun count => ?_
      rintro before after hrely ⟨⟨hown, hcontext⟩, hstart, hfits, hpub⟩
      obtain ⟨hcontext', hpub'⟩ :=
        stable_publishes hrely ⟨hcontext, hpub⟩
      exact ⟨⟨stable_own hrely hown, hcontext'⟩, hstart, hfits, hpub'⟩

/-- Mapping clear pages inside the arena. -/
theorem allocInside_keeps {pool : Pool} {index : Nat} (hinv : PoolInv pool)
    (hidle : Idle mm pool)
    (hvalid : (pool.context mm).userBoundsValid = true)
    (harena : (pool.context mm).userArena = some id)
    (hfits : index + nrPages ≤ (pool.heap id).reservedPages)
    (hclear : ∀ i, index ≤ i → i < index + nrPages →
      (pool.heap id).mapped i = false) :
    PoolInv (pool.mapPages id index nrPages) ∧
      PoolGuar mm pool (pool.mapPages id index nrPages) ∧
      AllocMid mm (pool.context mm) id nrPages
        ⟨some (pool.pageAddress ((pool.heap id).first + index)), false⟩
        (pool.mapPages id index nrPages) := by
  obtain ⟨hown, -⟩ := hidle.own hinv hvalid harena
  have hbound := (hinv.arena id hown.live).fits
  have hheap : (pool.mapPages id index nrPages).heap id =
      (pool.heap id).mapRange index nrPages := Function.update_self ..
  refine ⟨hinv.mapPages hown.live (by rw [hown.mm_eq]; exact harena) hfits
      hclear, PoolGuar.mapPages hown.mm_eq, ⟨?_, rfl⟩, ?_⟩
  · refine hidle.frame hinv rfl ?_
    intro used hused _ _
    obtain rfl : used = id := Option.some.inj (hused.symm.trans harena)
    rw [hheap]
    exact ⟨rfl, rfl, fun _ _ => .inl rfl⟩
  · refine ⟨(pool.heap id).first, (pool.heap id).reservedPages, index,
      ⟨hown.live, ?_, ?_, ?_, le_rfl, hown.zeroed_pages, False.elim⟩,
      hinv.layout.toNat_pageAddress (by omega), hfits⟩
    · rw [hheap]
      exact hown.mm_eq
    · rw [hheap]
      rfl
    · rw [hheap]
      rfl

section Growing

variable {pool after : Pool}
  (hafter : after = (pool.placed id ((pool.heap id).grow nrPages)
    ((pool.heap id).first + (pool.heap id).reservedPages)
      nrPages).mapPages id (pool.heap id).reservedPages nrPages)

include hafter

theorem growing_heap : after.heap id =
    ((pool.heap id).grow nrPages).mapRange (pool.heap id).reservedPages
      nrPages := by
  have hplaced : (pool.placed id ((pool.heap id).grow nrPages)
      ((pool.heap id).first + (pool.heap id).reservedPages) nrPages).heap id =
        (pool.heap id).grow nrPages := Function.update_self ..
  rw [hafter]
  exact (Function.update_self ..).trans (by rw [hplaced])

theorem growing_zeroedBy {page : Nat}
    (houtside : ¬ ((pool.heap id).first + (pool.heap id).reservedPages ≤ page ∧
      page < (pool.heap id).first + (pool.heap id).reservedPages + nrPages)) :
    after.zeroedBy page = pool.zeroedBy page := by
  rw [hafter]
  exact if_neg houtside

variable (hinv : PoolInv pool)
  (hplace : Placement pool id ((pool.heap id).grow nrPages)
    ((pool.heap id).first + (pool.heap id).reservedPages) nrPages)

include hinv hplace

theorem growing_inv (hlive : id ∈ pool.live)
    (harena : (pool.context (pool.heap id).mm).userArena = some id) :
    PoolInv after := by
  have hwf := hinv.arena id hlive
  have hplaced : (pool.placed id ((pool.heap id).grow nrPages)
      ((pool.heap id).first + (pool.heap id).reservedPages) nrPages).heap id =
        (pool.heap id).grow nrPages := Function.update_self ..
  rw [hafter]
  refine (hinv.placed hplace).mapPages (Finset.mem_insert_self ..) ?_ ?_ ?_
  · rw [hplaced]
    exact harena
  · rw [hplaced]
    exact le_rfl
  · intro index hlower _
    rw [hplaced]
    by_contra hset
    have hlt := hwf.mapped_lt index (by simpa [Arena.grow] using hset)
    omega

theorem growing_guar (hmm : (pool.heap id).mm = mm) :
    PoolGuar mm pool after := by
  refine PoolGuar.of_own hmm ?_ ?_ ?_ ?_ ?_ ?_
  · simp only [hafter, Pool.mapPages, Pool.setArena, Pool.placed, Pool.reserve,
      Pool.setOwner]
  · simp only [hafter, Pool.mapPages, Pool.setArena, Pool.placed, Pool.reserve,
      Pool.setOwner]
  · intro other _ hother
    simpa only [hafter, Pool.mapPages, Pool.setArena, Pool.placed,
      Pool.reserve, Pool.setOwner] using hother
  · intro other hne
    simp only [hafter, Pool.mapPages, Pool.setArena, Pool.placed,
      Finset.mem_insert, hne, false_or]
  · intro other hne
    rw [hafter]
    exact (Function.update_of_ne hne ..).trans (Function.update_of_ne hne ..)
  · intro other page _ hother hholds
    exact growing_zeroedBy hafter fun hrange => hinv.not_holds_of_clear
      (hplace.clear page hrange.1 hrange.2) hother hholds

end Growing

/-- Mapping pages that the arena grows by. -/
theorem allocGrowing_keeps {pool : Pool} (hinv : PoolInv pool)
    (hidle : Idle mm pool)
    (hvalid : (pool.context mm).userBoundsValid = true)
    (harena : (pool.context mm).userArena = some id)
    (hplace : Placement pool id ((pool.heap id).grow nrPages)
      ((pool.heap id).first + (pool.heap id).reservedPages) nrPages)
    {after : Pool}
    (hafter : after = (pool.placed id ((pool.heap id).grow nrPages)
      ((pool.heap id).first + (pool.heap id).reservedPages)
        nrPages).mapPages id (pool.heap id).reservedPages nrPages) :
    PoolInv after ∧ PoolGuar mm pool after ∧
      AllocMid mm (pool.context mm) id nrPages ⟨some (pool.pageAddress
          ((pool.heap id).first + (pool.heap id).reservedPages)), true⟩
        after := by
  obtain ⟨hown, hpub⟩ := hidle.own hinv hvalid harena
  have hfits : (pool.heap id).first +
      ((pool.heap id).reservedPages + nrPages) ≤ poolPages :=
    hplace.wellFormed.fits
  have hstart : (pool.pageAddress
      ((pool.heap id).first + (pool.heap id).reservedPages)).toNat =
        pageBase ((pool.heap id).first + (pool.heap id).reservedPages) :=
    hinv.layout.toNat_pageAddress (by omega)
  have hheap := growing_heap hafter
  refine ⟨growing_inv hafter hinv hplace hown.live (hown.mm_eq.symm ▸ harena),
    growing_guar hafter hinv hplace hown.mm_eq, (pool.heap id).first,
    (pool.heap id).reservedPages,
    ⟨⟨?_, ?_, ?_, ?_, Nat.le_add_right _ _, ?_, False.elim⟩, ?_⟩,
    hstart, hfits, hpub.arena, hpub.count_pos, ?_, ?_, ?_, ?_⟩
  · rw [hafter]
    exact Finset.mem_insert_self ..
  · rw [hheap]
    exact hown.mm_eq
  · rw [hheap]
    rfl
  · rw [hheap]
    rfl
  · intro page hlower hupper
    rw [growing_zeroedBy hafter fun hrange => Nat.not_lt.mpr hrange.1 hupper]
    exact hown.zeroed_pages page hlower hupper
  · rw [hafter]
    rfl
  · rw [hheap]
    exact Nat.le_add_right _ _
  · rw [hheap]
    exact hpub.lo
  · rw [hheap]
    exact hpub.hi
  · intro page hlower hupper
    rw [hheap] at hlower hupper
    rw [growing_zeroedBy hafter fun hrange => Nat.not_lt.mpr hrange.1 hupper]
    exact hpub.zeroed page hlower hupper

/-- The locked part of an alloc. -/
theorem allocSection_keeps {pool : Pool} (hinv : PoolInv pool)
    (hidle : Idle mm pool)
    (hvalid : (pool.context mm).userBoundsValid = true)
    (harena : (pool.context mm).userArena = some id) (hpos : 0 < nrPages) :
    PoolInv (allocSection id nrPages pool).1 ∧
      PoolGuar mm pool (allocSection id nrPages pool).1 ∧
      AllocMid mm (pool.context mm) id nrPages
        (allocSection id nrPages pool).2 (allocSection id nrPages pool).1 := by
  have hlive := (hidle.own hinv hvalid harena).1.live
  unfold allocSection
  simp only
  split
  · split
    · exact ⟨hinv, PoolGuar.refl mm pool, hidle, rfl⟩
    · next hroom =>
        rw [hinv.layout.pages] at hroom
        simp only [Bool.or_eq_true, decide_eq_true_eq, not_or, not_lt] at hroom
        obtain ⟨⟨hpage, hfits⟩, hclear⟩ := hroom
        have hplace := hinv.growth hlive (by omega)
          (Bitmap.all_clear_of_findNextBit (not_lt.mpr hclear))
        refine allocGrowing_keeps hinv hidle hvalid harena hplace ?_
        rw [← hinv.reserve_eq_placed hlive]
        rfl
  · next hinside =>
      simp only [Bool.or_eq_true, decide_eq_true_eq, not_or, not_le, not_lt]
        at hinside
      have hfits : (pool.heap id).mapped.findNextZeroArea
          (pool.heap id).reservedPages 0 nrPages + nrPages ≤
            (pool.heap id).reservedPages := by omega
      exact allocInside_keeps hinv hidle hvalid harena hfits
        (Bitmap.findNextZeroArea_clear hfits hpos)

/-- In an arena with nothing mapped an alloc that fits takes the first
pages. -/
theorem allocSection_empty {pool : Pool}
    (hempty : ∀ index, (pool.heap id).mapped index = false)
    (hpos : 0 < nrPages) (hfits : nrPages ≤ (pool.heap id).reservedPages) :
    (allocSection id nrPages pool).2 =
      ⟨some (pool.pageAddress (pool.heap id).first), false⟩ := by
  have hindex : (pool.heap id).mapped.findNextZeroArea
      (pool.heap id).reservedPages 0 nrPages = 0 :=
    Bitmap.findNextZeroArea_start (by omega) hpos
      (fun index _ _ => hempty index)
  unfold allocSection
  simp only [hindex]
  rw [if_neg]
  · simp
  · simp only [Bool.or_eq_true, decide_eq_true_eq]
    omega

/-- A memset of pages of the thread's own arena keeps the mm idle. -/
theorem memsetInside_triple {index : Nat} {start : Word}
    (hstart : start.toNat = pageBase (first + index))
    (hfits : index + nrPages ≤ count) :
    poolProtocol.Triple mm
      (fun pool => (Idle mm pool ∧ pool.context mm = context) ∧
        Own mm id first count count False pool)
      (memsetPages mm start (nrPages * pageSize))
      (fun _ pool => Idle mm pool ∧ pool.context mm = context) := by
  refine Triple.store
    ((stable_idle.and (stable_context context)).and stable_own)
    (stable_idle.and (stable_context context)) ?_
  rintro pool hinv ⟨⟨hidle, hcontext⟩, hown⟩
  have hinside : ∀ page, first + index ≤ page →
      page < first + index + nrPages → (pool.heap id).Holds page := by
    intro page hlower hupper
    unfold Arena.Holds
    rw [hown.first_eq, hown.reserved]
    omega
  refine ⟨hinv.zeroRange hown.live hown.mm_eq hstart hinside,
    PoolGuar.zeroRange hinv hown.live hown.mm_eq hstart hinside,
    hidle.frame hinv rfl ?_, hcontext⟩
  intro used _ hused _
  refine ⟨rfl, rfl, fun page hholds => ?_⟩
  have hbound := (hinv.arena used hused).fits
  have hpage : page < poolPages := by
    unfold Arena.Holds at hholds
    omega
  rw [Pool.zeroRange_zeroedBy hinv.layout hstart hpage]
  split
  · exact .inr rfl
  · exact .inl rfl

/-- The upper bound moves to the end of an arena that is zeroed again. -/
theorem publishGrowth_triple (hfits : first + (count + nrPages) ≤ poolPages)
    (hlo : context.userLo.toNat = pageBase first)
    (hhi : context.userHi.toNat = pageBase (first + count))
    (harena : context.userArena = some id) (hpos : 0 < count) :
    poolProtocol.Triple mm
      (fun pool => Own mm id first (count + nrPages) (count + nrPages) False
        pool ∧ pool.context mm = context)
      (publishGrowth mm id) (fun _ => Idle mm) := by
  have hpre : poolProtocol.Stable mm fun pool =>
      Own mm id first (count + nrPages) (count + nrPages) False pool ∧
        pool.context mm = context :=
    stable_own.and (stable_context context)
  have hload : poolProtocol.Triple mm
      (fun pool => Own mm id first (count + nrPages) (count + nrPages) False
        pool ∧ pool.context mm = context)
      (Prog.load fun pool => pool.pageAddress
        ((pool.heap id).first + (pool.heap id).reservedPages) : PoolProg Word)
      (fun stop pool => (Own mm id first (count + nrPages) (count + nrPages)
        False pool ∧ pool.context mm = context) ∧
          stop.toNat = pageBase (first + (count + nrPages))) := by
    refine Triple.load (PoolGuar.refl mm) hpre
      (fun _ => hpre.and (Stable.const _)) ?_
    rintro pool hinv hown
    refine ⟨hown, ?_⟩
    rw [hown.1.first_eq, hown.1.reserved]
    exact hinv.layout.toNat_pageAddress hfits
  refine Triple.bind hload fun stop => Triple.assume fun hstop => ?_
  have hmore : context.userHi.toNat ≤ stop.toNat := by
    rw [hhi, hstop]
    exact pageBase_le.mpr (by omega)
  have hwrite : poolProtocol.Triple mm
      (fun pool => Own mm id first (count + nrPages) (count + nrPages) False
        pool ∧ pool.context mm = context)
      (writeContext mm fun context => { context with userHi := stop })
      (fun _ pool => Own mm id first (count + nrPages) (count + nrPages) False
        pool ∧ pool.context mm = { context with userHi := stop }) := by
    refine writeContext_triple stable_own
      (fun _ hown => hown.setContext _) ?_ ?_
    · rintro pool hinv hown rfl
      have hok := hinv.context mm
      refine ⟨hok.arena, ?_, ?_, hok.text⟩
      · intro _
        exact ⟨id, count + nrPages, hown.publishes (by omega) harena hlo hstop⟩
      · intro hsplit
        have hold := hok.split hsplit
        exact ⟨hold.lo_lt, lt_of_lt_of_le hold.lt_hi hmore, hold.aligned,
          hold.sigreturn⟩
    · intro hvalid
      exact ⟨hvalid, rfl, hmore, fun hwx => ⟨hwx, rfl, rfl⟩⟩
  refine hwrite.mono (fun _ _ hown => hown) ?_
  rintro _ pool ⟨hown, hcontext⟩ _
  refine ⟨id, ?_⟩
  rw [hcontext, hown.reserved]
  exact hown.publishes (by omega) harena hlo hstop

/-- The part of an alloc after the lock returns its result and leaves the mm
idle; without growth it does not touch the context. -/
theorem finishAlloc_triple (result : AllocResult) :
    poolProtocol.Triple mm (AllocMid mm context id nrPages result)
      (finishAlloc mm id nrPages result)
      (fun returned pool => Idle mm pool ∧ returned = result ∧
        (result.expanded = false → pool.context mm = context)) := by
  have hpost : poolProtocol.Stable mm fun pool =>
      Idle mm pool ∧ result = result ∧
        (result.expanded = false → pool.context mm = context) :=
    stable_idle.and ((Stable.const _).and (stable_context context).imp)
  obtain ⟨address, expanded⟩ := result
  cases address with
  | none =>
    exact Triple.ret hpost fun pool _ hmid =>
      ⟨hmid.1, rfl, fun _ => hmid.2⟩
  | some start =>
    cases expanded with
    | false =>
      rintro pool hinv ⟨hidle, first, count, index, hown, hstart, hfits⟩
      refine Triple.bind (memsetInside_triple hstart hfits) (fun _ => ?_)
        pool hinv ⟨hidle, hown⟩
      exact Triple.ret hpost fun after _ hafter =>
        ⟨hafter.1, rfl, fun _ => hafter.2⟩
    | true =>
      rintro pool hinv ⟨first, count, hown, hstart, hfits, hpub⟩
      have hlo := hpub.lo
      have hhi := hpub.hi
      rw [hown.1.first_eq] at hlo hhi
      refine Triple.bind (memsetPages_triple hstart le_rfl) (fun _ => ?_)
        pool hinv hown
      refine Triple.bind (publishGrowth_triple hfits hlo hhi hpub.arena
        hpub.count_pos) fun _ => ?_
      exact Triple.ret hpost fun after _ hafter =>
        ⟨hafter, rfl, fun hfalse => Bool.noConfusion hfalse⟩

variable {nr : Word}

/-- What the checks of an alloc let through. -/
theorem allocArena_some {pool : Pool}
    (harena : allocArena mm nr pool = some id) :
    0 < nr.toNat ∧ (pool.context mm).userBoundsValid = true ∧
      (pool.context mm).userArena = some id := by
  unfold allocArena at harena
  split at harena
  · cases harena
  · next hchecks =>
      simp only [Bool.or_eq_true, beq_iff_eq, decide_eq_true_eq,
        Bool.not_eq_true', not_or, Bool.not_eq_false] at hchecks
      obtain ⟨⟨hzero, -⟩, hvalid⟩ := hchecks
      refine ⟨?_, hvalid, (Option.filter_eq_some_iff.mp harena).1⟩
      by_contra hnot
      exact hzero (BitVec.eq_of_toNat_eq (by simpa using hnot))

/-- An mm that has just prepared enough pages passes the checks. -/
theorem Prepared.allocArena {pool : Pool} (hlayout : pool.Layout)
    (hprepared : Prepared mm count pool) (hpos : 0 < nr.toNat)
    (hle : nr.toNat ≤ count) :
    ∃ id, Micronux.allocArena mm nr pool = some id := by
  obtain ⟨id, first, start, -, hfits, -, hown, hcontext⟩ := hprepared
  refine ⟨id, ?_⟩
  have hzero : nr ≠ 0#32 := by
    rintro rfl
    cases hpos
  have hpages : ¬ pool.userPages < nr.toNat := by
    rw [hlayout.pages]
    omega
  simp [Micronux.allocArena, hcontext, preparedContext, hzero, hpages,
    hown.mm_eq]

/-- An alloc leaves the mm idle.  Right after a prepare that reserved enough
(`room`) it is served at the lower bound and does not grow the arena. -/
theorem userArenaAlloc_triple {room : Prop}
    (hroom : room → 0 < nr.toNat ∧ nr.toNat ≤ count) :
    poolProtocol.Triple mm
      (fun pool => (Idle mm pool ∧ pool.context mm = context) ∧
        (room → Prepared mm count pool))
      (userArenaAlloc (some mm) nr)
      (fun result pool => Idle mm pool ∧
        (room → result = ⟨some context.userLo, false⟩ ∧
          pool.context mm = context)) := by
  have hpre : poolProtocol.Stable mm fun pool =>
      (Idle mm pool ∧ pool.context mm = context) ∧
        (room → Prepared mm count pool) :=
    (stable_idle.and (stable_context context)).and stable_prepared.imp
  have hpost : ∀ result : AllocResult, poolProtocol.Stable mm fun pool =>
      Idle mm pool ∧ (room → result = ⟨some context.userLo, false⟩ ∧
        pool.context mm = context) := fun result =>
    stable_idle.and ((Stable.const _).and (stable_context context)).imp
  have hload : poolProtocol.Triple mm
      (fun pool => (Idle mm pool ∧ pool.context mm = context) ∧
        (room → Prepared mm count pool))
      (Prog.load (allocArena mm nr) : PoolProg (Option ArenaId))
      (fun arena pool => ((Idle mm pool ∧ pool.context mm = context) ∧
        (room → Prepared mm count pool)) ∧ (room → ∃ id, arena = some id) ∧
          ∀ id, arena = some id → 0 < nr.toNat ∧
            context.userBoundsValid = true ∧ context.userArena = some id) := by
    refine Triple.load (PoolGuar.refl mm) hpre
      (fun _ => hpre.and (Stable.const _)) ?_
    rintro pool hinv ⟨⟨hidle, rfl⟩, hprepared⟩
    refine ⟨⟨⟨hidle, rfl⟩, hprepared⟩, ?_, fun id => allocArena_some⟩
    intro hfact
    exact (hprepared hfact).allocArena hinv.layout (hroom hfact).1
      (hroom hfact).2
  refine Triple.bind hload fun arena => Triple.assume fun hchecks => ?_
  cases arena with
  | none =>
    refine Triple.ret (hpost _) ?_
    rintro pool - ⟨⟨hidle, -⟩, -⟩
    refine ⟨hidle, fun hfact => ?_⟩
    obtain ⟨id, hid⟩ := hchecks.1 hfact
    cases hid
  | some id =>
    obtain ⟨hpos, hvalid, harena⟩ := hchecks.2 id rfl
    have hsection : poolProtocol.Triple mm
        (fun pool => (Idle mm pool ∧ pool.context mm = context) ∧
          (room → Prepared mm count pool))
        (Prog.critical (allocSection id nr.toNat) : PoolProg AllocResult)
        (fun result pool => AllocMid mm context id nr.toNat result pool ∧
          (room → result = ⟨some context.userLo, false⟩)) := by
      refine Triple.critical hpre
        (fun result => (stable_allocMid result).and (Stable.const _)) ?_
      rintro pool hinv ⟨⟨hidle, rfl⟩, hprepared⟩
      obtain ⟨hinv', hguar, hmid⟩ :=
        allocSection_keeps hinv hidle hvalid harena hpos
      refine ⟨hinv', hguar, hmid, fun hfact => ?_⟩
      obtain ⟨used, first, start, hstart, hfits, -, hown, hcontext⟩ :=
        hprepared hfact
      obtain rfl : used = id := by
        rw [hcontext] at harena
        exact Option.some.inj harena
      have hle := (hroom hfact).2
      rw [allocSection_empty (hown.unmapped trivial) hpos
        (by rw [hown.reserved]; exact hle)]
      have hsame : pool.pageAddress (pool.heap used).first = start := by
        refine BitVec.eq_of_toNat_eq ?_
        rw [hown.first_eq, hinv.layout.toNat_pageAddress (by omega), hstart]
      rw [hsame, hcontext]
      rfl
    refine Triple.bind hsection fun result => Triple.assume fun hresult => ?_
    refine (finishAlloc_triple result).mono (fun _ _ hmid => hmid) ?_
    rintro returned pool ⟨hidle, rfl, hcontext⟩
    refine ⟨hidle, fun hfact => ⟨hresult hfact, hcontext ?_⟩⟩
    rw [hresult hfact]

end Alloc

end Micronux
