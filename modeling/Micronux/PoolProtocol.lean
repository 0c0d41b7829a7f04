/-
What the calls of different mms promise each other.  A thread serves one mm;
it changes only that mm's context and arenas, except that a free may unmap
pages of any arena.  Under this promise every assertion about an mm's own
context and arena survives what the others do.
-/
import Micronux.PoolSections

namespace Micronux

open Concurrent

/-- The same interval of the same mm, with no page mapped that was not. -/
structure Arena.Kept (before after : Arena) : Prop where
  mm : after.mm = before.mm
  first : after.first = before.first
  reserved : after.reservedPages = before.reservedPages
  mapped : ∀ index, after.mapped index = true → before.mapped index = true

theorem Arena.Kept.refl (arena : Arena) : arena.Kept arena :=
  ⟨rfl, rfl, rfl, fun _ hindex => hindex⟩

/-- Bounds stay published from the same start, never get shorter, and keep a
split once they have it. -/
structure MmContext.Leads (before after : MmContext) : Prop where
  valid : after.userBoundsValid = true
  lo : after.userLo = before.userLo
  hi : before.userHi.toNat ≤ after.userHi.toNat
  split : before.userWxValid = true → after.userWxValid = true ∧
    after.userExecHi = before.userExecHi ∧
    after.userSigreturn = before.userSigreturn

/-- Until the mm is released its published bounds are kept. -/
structure KeepsBounds (mm : Mm) (before after : Pool) : Prop where
  releases : before.releases mm ≤ after.releases mm
  leads : after.releases mm = before.releases mm →
    (before.context mm).userBoundsValid = true →
    (before.context mm).Leads (after.context mm)

/-- What an action of the thread of `mm` may change. -/
structure PoolGuar (mm : Mm) (before after : Pool) : Prop where
  context : ∀ other, other ≠ mm → after.context other = before.context other
  releases : ∀ other, other ≠ mm → after.releases other = before.releases other
  allocated : ∀ id, before.allocated id = true → (before.heap id).mm ≠ mm →
    after.allocated id = true
  live : ∀ id, before.allocated id = true → (before.heap id).mm ≠ mm →
    (id ∈ after.live ↔ id ∈ before.live)
  arena : ∀ id, id ∈ before.live → (before.heap id).mm ≠ mm →
    (before.heap id).Kept (after.heap id)
  block : ∀ id, before.allocated id = true → id ∉ before.live →
    (before.heap id).mm ≠ mm → after.heap id = before.heap id
  zeroed : ∀ id page, id ∈ before.live → (before.heap id).mm ≠ mm →
    (before.heap id).Holds page →
    after.zeroedBy page = before.zeroedBy page
  bounds : KeepsBounds mm before after

/-- The invariant and the promises of the pool's threads. -/
def poolProtocol : Protocol Mm Pool where
  inv := PoolInv
  guar := PoolGuar

variable {context : MmContext}

theorem MmContext.Leads.refl (hvalid : context.userBoundsValid = true) :
    context.Leads context :=
  ⟨hvalid, rfl, le_rfl, fun hwx => ⟨hwx, rfl, rfl⟩⟩

theorem MmContext.Leads.trans {first second third : MmContext}
    (hleft : first.Leads second) (hright : second.Leads third) :
    first.Leads third := by
  refine ⟨hright.valid, hright.lo.trans hleft.lo, hleft.hi.trans hright.hi, ?_⟩
  intro hwx
  obtain ⟨hwx', hexec, hsig⟩ := hleft.split hwx
  obtain ⟨hwx'', hexec', hsig'⟩ := hright.split hwx'
  exact ⟨hwx'', hexec'.trans hexec, hsig'.trans hsig⟩

variable {before after : Pool} {thread : Mm}

/-- A context that does not change keeps its bounds. -/
theorem KeepsBounds.of_same {mm : Mm}
    (hcontext : after.context mm = before.context mm)
    (hreleases : after.releases mm = before.releases mm) :
    KeepsBounds mm before after := by
  refine ⟨hreleases.ge, fun _ hvalid => ?_⟩
  rw [hcontext]
  exact MmContext.Leads.refl hvalid

theorem KeepsBounds.trans {mm : Mm} {first second third : Pool}
    (hleft : KeepsBounds mm first second)
    (hright : KeepsBounds mm second third) : KeepsBounds mm first third := by
  refine ⟨hleft.releases.trans hright.releases, fun hsame hvalid => ?_⟩
  have hlower := hleft.releases
  have hupper := hright.releases
  have hfirst := hleft.leads (by omega) hvalid
  exact hfirst.trans (hright.leads (by omega) hfirst.valid)

/-- Whoever makes the change, the bounds of every mm are kept. -/
theorem PoolGuar.keepsBounds (hguar : PoolGuar thread before after) (mm : Mm) :
    KeepsBounds mm before after := by
  by_cases hmm : mm = thread
  · subst mm
    exact hguar.bounds
  · exact KeepsBounds.of_same (hguar.context mm hmm) (hguar.releases mm hmm)

/-- A change outside contexts, arenas and zeroing is allowed to every
thread. -/
theorem PoolGuar.of_same (hcontext : after.context = before.context)
    (hreleases : after.releases = before.releases)
    (hallocated : after.allocated = before.allocated)
    (hlive : after.live = before.live) (hheap : after.heap = before.heap)
    (hzeroed : after.zeroedBy = before.zeroedBy) :
    PoolGuar thread before after where
  context := fun other _ => congrFun hcontext other
  releases := fun other _ => congrFun hreleases other
  allocated := fun id hid _ => by rw [hallocated]; exact hid
  live := fun id _ _ => by rw [hlive]
  arena := fun id _ _ => by rw [hheap]; exact Arena.Kept.refl _
  block := fun id _ _ _ => congrFun hheap id
  zeroed := fun _ page _ _ _ => congrFun hzeroed page
  bounds := KeepsBounds.of_same (congrFun hcontext thread)
    (congrFun hreleases thread)

theorem PoolGuar.refl (thread : Mm) (pool : Pool) : PoolGuar thread pool pool :=
  .of_same rfl rfl rfl rfl rfl rfl

theorem PoolGuar.of_own {id : ArenaId} (hown : (before.heap id).mm = thread)
    (hcontext : after.context = before.context)
    (hreleases : after.releases = before.releases)
    (hallocated : ∀ other, other ≠ id → before.allocated other = true →
      after.allocated other = true)
    (hlive : ∀ other, other ≠ id → (other ∈ after.live ↔ other ∈ before.live))
    (hheap : ∀ other, other ≠ id → after.heap other = before.heap other)
    (hzeroed : ∀ other page, other ≠ id → other ∈ before.live →
      (before.heap other).Holds page →
      after.zeroedBy page = before.zeroedBy page) :
    PoolGuar thread before after := by
  have hne : ∀ other, (before.heap other).mm ≠ thread → other ≠ id := by
    rintro other hother rfl
    exact hother hown
  refine ⟨fun other _ => congrFun hcontext other,
    fun other _ => congrFun hreleases other,
    fun other hother hmm => hallocated other (hne other hmm) hother,
    fun other _ hmm => hlive other (hne other hmm), ?_,
    fun other _ _ hmm => hheap other (hne other hmm),
    fun other page hother hmm => hzeroed other page (hne other hmm) hother,
    KeepsBounds.of_same (congrFun hcontext thread) (congrFun hreleases thread)⟩
  intro other _ hmm
  rw [hheap other (hne other hmm)]
  exact Arena.Kept.refl _

theorem PoolGuar.setContext {pool : Pool} {change : MmContext → MmContext}
    (hbounds : (pool.context thread).userBoundsValid = true →
      (pool.context thread).Leads (change (pool.context thread))) :
    PoolGuar thread pool (pool.setContext thread change) where
  context := fun _ hother => Pool.setContext_of_ne hother
  releases := fun _ _ => rfl
  allocated := fun _ hid _ => hid
  live := fun _ _ _ => Iff.rfl
  arena := fun _ _ _ => Arena.Kept.refl _
  block := fun _ _ _ _ => rfl
  zeroed := fun _ _ _ _ _ => rfl
  bounds := by
    refine ⟨le_rfl, fun _ hvalid => ?_⟩
    rw [Pool.setContext_self]
    exact hbounds hvalid

section Assertions

variable {mm : Mm} {id : ArenaId} {first count zeroed : Nat} {fresh : Prop}

/-- What the thread of an mm knows about an arena of its own: the interval,
how many of its pages the mm has zeroed, and that nothing is mapped yet where
`fresh` says so. -/
structure Own (mm : Mm) (id : ArenaId) (first count zeroed : Nat)
    (fresh : Prop) (pool : Pool) : Prop where
  live : id ∈ pool.live
  mm_eq : (pool.heap id).mm = mm
  first_eq : (pool.heap id).first = first
  reserved : (pool.heap id).reservedPages = count
  zeroed_le : zeroed ≤ count
  zeroed_pages : ∀ page, first ≤ page → page < first + zeroed →
    pool.zeroedBy page = some mm
  unmapped : fresh → ∀ index, (pool.heap id).mapped index = false

/-- A block that belongs to the thread and holds no page. -/
structure Block (mm : Mm) (id : ArenaId) (pool : Pool) : Prop where
  allocated : pool.allocated id = true
  dead : id ∉ pool.live
  mm_eq : (pool.heap id).mm = mm

/-- A block as `kzalloc` leaves it. -/
structure FreshBlock (mm : Mm) (id : ArenaId) (pool : Pool) : Prop where
  allocated : pool.allocated id = true
  dead : id ∉ pool.live
  heap : pool.heap id = { mm := mm }

/-- Between two calls the bounds of an mm cover its whole arena. -/
def Idle (mm : Mm) (pool : Pool) : Prop :=
  (pool.context mm).userBoundsValid = true →
    ∃ id, pool.Publishes mm (pool.context mm) id (pool.heap id).reservedPages

theorem stable_context (context : MmContext) :
    poolProtocol.Stable mm fun pool => pool.context mm = context := by
  rintro before after ⟨-, -, other, hother, hguar⟩ hbefore
  rw [hguar.context mm (Ne.symm hother)]
  exact hbefore

theorem stable_own : poolProtocol.Stable mm
    (Own mm id first count zeroed fresh) := by
  rintro before after ⟨hinv, -, other, hother, hguar⟩ hown
  have hmm : (before.heap id).mm ≠ other := by
    rw [hown.mm_eq]
    exact Ne.symm hother
  have hkept := hguar.arena id hown.live hmm
  refine ⟨(hguar.live id (hinv.allocated id hown.live) hmm).mpr hown.live,
    hkept.mm.trans hown.mm_eq, hkept.first.trans hown.first_eq,
    hkept.reserved.trans hown.reserved, hown.zeroed_le, ?_, ?_⟩
  · intro page hlower hupper
    have hle := hown.zeroed_le
    have hholds : (before.heap id).Holds page := by
      unfold Arena.Holds
      rw [hown.first_eq, hown.reserved]
      omega
    rw [hguar.zeroed id page hown.live hmm hholds]
    exact hown.zeroed_pages page hlower hupper
  · intro hfresh index
    by_contra hindex
    have hbefore := hkept.mapped index (by simpa using hindex)
    rw [hown.unmapped hfresh index] at hbefore
    exact Bool.noConfusion hbefore

theorem stable_block : poolProtocol.Stable mm (Block mm id) := by
  rintro before after ⟨-, -, other, hother, hguar⟩ hblock
  have hmm : (before.heap id).mm ≠ other := by
    rw [hblock.mm_eq]
    exact Ne.symm hother
  refine ⟨hguar.allocated id hblock.allocated hmm, ?_, ?_⟩
  · rw [hguar.live id hblock.allocated hmm]
    exact hblock.dead
  · rw [hguar.block id hblock.allocated hblock.dead hmm]
    exact hblock.mm_eq

theorem stable_freshBlock : poolProtocol.Stable mm (FreshBlock mm id) := by
  rintro before after ⟨-, -, other, hother, hguar⟩ hblock
  have hmm : (before.heap id).mm ≠ other := by
    rw [hblock.heap]
    exact Ne.symm hother
  refine ⟨hguar.allocated id hblock.allocated hmm, ?_, ?_⟩
  · rw [hguar.live id hblock.allocated hmm]
    exact hblock.dead
  · rw [hguar.block id hblock.allocated hblock.dead hmm]
    exact hblock.heap

theorem FreshBlock.block {pool : Pool} (hfresh : FreshBlock mm id pool) :
    Block mm id pool :=
  ⟨hfresh.allocated, hfresh.dead, by rw [hfresh.heap]⟩

/-- What published bounds say about the arena behind them. -/
theorem Pool.Publishes.own {pool : Pool} (hinv : PoolInv pool)
    (hpub : pool.Publishes mm (pool.context mm) id count) :
    Own mm id (pool.heap id).first (pool.heap id).reservedPages count False
      pool :=
  ⟨((hinv.context mm).arena id hpub.arena).1,
    ((hinv.context mm).arena id hpub.arena).2, rfl, rfl, hpub.count_le,
    hpub.zeroed, False.elim⟩

/-- An arena that keeps its interval and its zeroed pages stays published. -/
theorem Idle.frame (hinv : PoolInv before) (hidle : Idle mm before)
    (hcontext : after.context mm = before.context mm)
    (harena : ∀ id, (before.context mm).userArena = some id →
      id ∈ before.live → (before.heap id).mm = mm →
      (after.heap id).first = (before.heap id).first ∧
        (after.heap id).reservedPages = (before.heap id).reservedPages ∧
        ∀ page, (before.heap id).Holds page →
          after.zeroedBy page = before.zeroedBy page ∨
            after.zeroedBy page = some mm) : Idle mm after := by
  intro hvalid
  rw [hcontext] at hvalid ⊢
  obtain ⟨id, hpub⟩ := hidle hvalid
  obtain ⟨hlive, hmm⟩ := (hinv.context mm).arena id hpub.arena
  obtain ⟨hfirst, hreserved, hzeroed⟩ := harena id hpub.arena hlive hmm
  refine ⟨id, hpub.arena, ?_, le_rfl, ?_, ?_, ?_⟩
  · rw [hreserved]
    exact hpub.count_pos
  · rw [hfirst]
    exact hpub.lo
  · rw [hfirst, hreserved]
    exact hpub.hi
  · intro page hlower hupper
    rw [hfirst] at hlower hupper
    rw [hreserved] at hupper
    rcases hzeroed page ⟨hlower, hupper⟩ with hsame | hown
    · rw [hsame]
      exact hpub.zeroed page hlower hupper
    · exact hown

theorem stable_idle : poolProtocol.Stable mm (Idle mm) := by
  rintro before after ⟨hinv, -, other, hother, hguar⟩ hidle
  refine hidle.frame hinv (hguar.context mm (Ne.symm hother)) ?_
  intro id _ hlive hmm
  have hne : (before.heap id).mm ≠ other := by
    rw [hmm]
    exact Ne.symm hother
  have hkept := hguar.arena id hlive hne
  exact ⟨hkept.first, hkept.reserved,
    fun page hholds => .inl (hguar.zeroed id page hlive hne hholds)⟩

/-- Bounds that an mm publishes over pages it has zeroed. -/
theorem Own.publishes {pool : Pool}
    (hown : Own mm id first count zeroed fresh pool) (hpos : 0 < zeroed)
    (harena : context.userArena = some id)
    (hlo : context.userLo.toNat = pageBase first)
    (hhi : context.userHi.toNat = pageBase (first + zeroed)) :
    pool.Publishes mm context id zeroed := by
  refine ⟨harena, hpos, ?_, ?_, ?_, ?_⟩
  · rw [hown.reserved]
    exact hown.zeroed_le
  · rw [hown.first_eq]
    exact hlo
  · rw [hown.first_eq]
    exact hhi
  · intro page hlower hupper
    rw [hown.first_eq] at hlower hupper
    exact hown.zeroed_pages page hlower hupper

end Assertions

section Bytes

variable {pool : Pool} {mm : Mm} {start : Word} {first count : Nat}

/-- A memset of whole pages zeroes exactly these pages. -/
theorem Pool.zeroRange_zeroedBy (hlayout : pool.Layout)
    (hstart : start.toNat = pageBase first) {page : Nat}
    (hpage : page < poolPages) :
    (pool.zeroRange mm start (count * pageSize)).zeroedBy page =
      if first ≤ page ∧ page < first + count then some mm
      else pool.zeroedBy page := by
  change (if start.toNat ≤ (pool.pageAddress page).toNat ∧
      (pool.pageAddress page).toNat + pageSize ≤
        start.toNat + count * pageSize then some mm
    else pool.zeroedBy page) = _
  rw [hlayout.toNat_pageAddress hpage.le, hstart]
  refine if_congr ?_ rfl rfl
  simp only [pageBase, pageSize]
  omega

theorem Pool.zeroRange_writer (hstart : start.toNat = pageBase first)
    (address : Nat) :
    (pool.zeroRange mm start (count * pageSize)).writer address =
      if pageBase first ≤ address ∧ address < pageBase (first + count) then
        none
      else pool.writer address := by
  change (if start.toNat ≤ address ∧
      address < start.toNat + count * pageSize then none
    else pool.writer address) = _
  rw [hstart, pageBase_add]

/-- Zeroing pages of an arena on behalf of its mm. -/
theorem PoolInv.zeroRange (hinv : PoolInv pool) {id : ArenaId}
    (hlive : id ∈ pool.live) (hmm : (pool.heap id).mm = mm)
    (hstart : start.toNat = pageBase first)
    (hinside : ∀ page, first ≤ page → page < first + count →
      (pool.heap id).Holds page) :
    PoolInv (pool.zeroRange mm start (count * pageSize)) where
  layout := ⟨hinv.layout.ready, hinv.layout.start, hinv.layout.stop,
    hinv.layout.pages⟩
  allocated := hinv.allocated
  arena := hinv.arena
  owner := hinv.owner
  reserved := hinv.reserved
  reserved_sum := hinv.reserved_sum
  mapped_sum := hinv.mapped_sum
  arenas_card := hinv.arenas_card
  context := by
    intro other
    refine (hinv.context other).frame
      (fun used _ hused => ⟨hused, Arena.Extends.refl _⟩) ?_
      (fun hkept => ⟨hkept, fun _ hmapped => hmapped⟩)
    intro used hcontext hused page hholds
    have hfits := (hinv.arena used hused).fits
    have hpage : page < poolPages := by
      unfold Arena.Holds at hholds
      omega
    rw [Pool.zeroRange_zeroedBy hinv.layout hstart hpage]
    by_cases hrange : first ≤ page ∧ page < first + count
    · -- the page is in both arenas, so the context is the mm's own
      have hsame := hinv.holds_unique hused hlive hholds
        (hinside page hrange.1 hrange.2)
      have hother := ((hinv.context other).arena used hcontext).2
      rw [hsame, hmm] at hother
      rw [if_pos hrange, hother]
      exact .inr rfl
    · rw [if_neg hrange]
      exact .inl rfl
  clean := by
    intro page other hpage hzeroed address hlower hupper
    rw [Pool.zeroRange_zeroedBy hinv.layout hstart hpage] at hzeroed
    rw [Pool.zeroRange_writer hstart]
    split at hzeroed
    · next hrange =>
        have hbase := pageBase_le.mpr hrange.1
        have hend : pageBase (page + 1) ≤ pageBase (first + count) :=
          pageBase_le.mpr hrange.2
        rw [if_pos ⟨by omega, by omega⟩]
        exact .inl rfl
    · split
      · exact .inl rfl
      · exact hinv.clean page other hpage hzeroed address hlower hupper
  spared := hinv.spared

theorem PoolGuar.zeroRange (hinv : PoolInv pool) {id : ArenaId}
    (hlive : id ∈ pool.live) (hmm : (pool.heap id).mm = mm)
    (hstart : start.toNat = pageBase first)
    (hinside : ∀ page, first ≤ page → page < first + count →
      (pool.heap id).Holds page) :
    PoolGuar mm pool (pool.zeroRange mm start (count * pageSize)) := by
  refine PoolGuar.of_own hmm rfl rfl (fun _ _ hid => hid)
    (fun _ _ => Iff.rfl) (fun _ _ => rfl) ?_
  intro other page hne hother hholds
  have hfits := (hinv.arena other hother).fits
  have hpage : page < poolPages := by
    unfold Arena.Holds at hholds
    omega
  rw [Pool.zeroRange_zeroedBy hinv.layout hstart hpage, if_neg]
  intro hrange
  exact hne (hinv.holds_unique hother hlive hholds
    (hinside page hrange.1 hrange.2))

end Bytes

section Blocks

variable {pool : Pool} {mm : Mm} {id : ArenaId}

theorem PoolGuar.kzalloc (hinv : PoolInv pool)
    (hfree : pool.allocated id = false) :
    PoolGuar mm pool { pool.setArena id { mm := mm } with
      allocated := Function.update pool.allocated id true } := by
  have hne : ∀ other, pool.allocated other = true → other ≠ id := by
    rintro other hother rfl
    rw [hfree] at hother
    exact Bool.noConfusion hother
  refine ⟨fun _ _ => rfl, fun _ _ => rfl, ?_, fun _ _ _ => Iff.rfl, ?_, ?_,
    fun _ _ _ _ _ => rfl, .of_same rfl rfl⟩
  · intro other hother _
    exact (Function.update_of_ne (hne other hother) ..).trans hother
  · intro other hother _
    have hsame : Function.update pool.heap id { mm := mm } other =
        pool.heap other :=
      Function.update_of_ne (hne other (hinv.allocated other hother)) ..
    simp only [Pool.setArena, hsame]
    exact Arena.Kept.refl _
  · intro other hother _ _
    exact Function.update_of_ne (hne other hother) ..

theorem PoolGuar.kfree (hmm : (pool.heap id).mm = mm) :
    PoolGuar mm pool { pool with
      allocated := Function.update pool.allocated id false } :=
  PoolGuar.of_own hmm rfl rfl
    (fun _ hne hother => (Function.update_of_ne hne ..).trans hother)
    (fun _ _ => Iff.rfl) (fun _ _ => rfl) (fun _ _ _ _ _ => rfl)

/-- A placement for the thread's own mm. -/
theorem PoolGuar.placed {arena : Arena} {first count : Nat}
    (hinv : PoolInv pool) (hmm : (pool.heap id).mm = mm)
    (hplace : Placement pool id arena first count) :
    PoolGuar mm pool (pool.placed id arena first count) := by
  refine PoolGuar.of_own hmm rfl rfl (fun _ _ hother => hother) ?_ ?_ ?_
  · intro other hne
    simp only [Pool.placed, Finset.mem_insert, hne, false_or]
  · intro other hne
    exact Function.update_of_ne hne ..
  · intro other page _ hother hholds
    have hrange : ¬ (first ≤ page ∧ page < first + count) := by
      intro hrange
      exact hinv.not_holds_of_clear
        (hplace.clear page hrange.1 hrange.2) hother hholds
    exact if_neg hrange

theorem PoolGuar.mapPages {index count : Nat} (hmm : (pool.heap id).mm = mm) :
    PoolGuar mm pool (pool.mapPages id index count) :=
  PoolGuar.of_own hmm rfl rfl (fun _ _ hother => hother)
    (fun _ _ => Iff.rfl) (fun _ hne => Function.update_of_ne hne ..)
    (fun _ _ _ _ _ => rfl)

theorem Pool.unmapPages_kept (pool : Pool) (id : ArenaId)
    (index count : Nat) (other : ArenaId) :
    (pool.heap other).Kept ((pool.unmapPages id index count).heap other) := by
  simp only [Pool.unmapPages, Pool.setArena]
  by_cases hid : other = id
  · subst other
    rw [Function.update_self]
    exact ⟨rfl, rfl, rfl, fun i hi =>
      ((Bitmap.clearRange_apply _ _ _ _).mp hi).2⟩
  · rw [Function.update_of_ne hid]
    exact Arena.Kept.refl _

/-- Any thread may unmap pages. -/
theorem PoolGuar.unmapPages {index count : Nat} (hlive : id ∈ pool.live) :
    PoolGuar mm pool (pool.unmapPages id index count) := by
  refine ⟨fun _ _ => rfl, fun _ _ => rfl, fun _ hother _ => hother,
    fun _ _ _ => Iff.rfl,
    fun other _ _ => pool.unmapPages_kept id index count other, ?_,
    fun _ _ _ _ _ => rfl, .of_same rfl rfl⟩
  intro other _ hdead _
  have hne : other ≠ id := fun heq => hdead (heq ▸ hlive)
  exact Function.update_of_ne hne ..

theorem PoolGuar.unlink (hmm : (pool.heap id).mm = mm) :
    PoolGuar mm pool (pool.unlink id) := by
  refine PoolGuar.of_own hmm rfl rfl (fun _ _ hother => hother) ?_
    (fun _ _ => rfl) (fun _ _ _ _ _ => rfl)
  intro other hne
  simp only [Pool.unlink, Finset.mem_erase, ne_eq, hne, not_false_eq_true,
    true_and]

end Blocks

end Micronux
