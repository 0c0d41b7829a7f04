/-
The call that reserves an arena.  It keeps the protocol from any state in
which the mm's previous call has returned, whatever the other mms do in
between, and it publishes the arena only after all of it is zeroed.
-/
import Micronux.PoolProtocol
import Micronux.PoolTraces

namespace Micronux

open Concurrent Protocol

variable {mm : Mm} {pool : Pool} {id : ArenaId} {start : Word}
  {count nrPages first zeroed : Nat} {fresh : Prop} {context : MmContext}

/-- A context without published bounds needs only a sound arena pointer. -/
theorem Pool.ContextOk.hidden (hinvalid : context.userBoundsValid = false)
    (harena : ∀ id, context.userArena = some id →
      id ∈ pool.live ∧ (pool.heap id).mm = mm) :
    pool.ContextOk mm context := by
  have hsplit : ¬ context.Split := by
    rintro ⟨hvalid, -⟩
    rw [hinvalid] at hvalid
    exact Bool.noConfusion hvalid
  refine ⟨harena, ?_, fun h => absurd h hsplit, fun _ h => absurd h hsplit⟩
  intro hvalid
  rw [hinvalid] at hvalid
  exact Bool.noConfusion hvalid

variable {change : MmContext → MmContext}

/-- A store to the thread's own context, next to an assertion that does not
depend on contexts. -/
theorem writeContext_triple {assertion : Pool → Prop}
    (hstable : poolProtocol.Stable mm assertion)
    (hkeep : ∀ pool, assertion pool → assertion (pool.setContext mm change))
    (hok : ∀ pool, PoolInv pool → assertion pool →
      pool.context mm = context → pool.ContextOk mm (change context))
    (hleads : context.userBoundsValid = true →
      context.Leads (change context)) :
    poolProtocol.Triple mm
      (fun pool => assertion pool ∧ pool.context mm = context)
      (writeContext mm change)
      (fun _ pool => assertion pool ∧ pool.context mm = change context) := by
  refine Triple.store (hstable.and (stable_context context))
    (hstable.and (stable_context (change context))) ?_
  rintro pool hinv ⟨hassertion, rfl⟩
  exact ⟨hinv.setContext (hok pool hinv hassertion rfl),
    PoolGuar.setContext hleads, hkeep pool hassertion,
    pool.setContext_self mm change⟩

/-- An owner does not look at the contexts. -/
theorem Own.setContext (hown : Own mm id first count zeroed fresh pool)
    (change : MmContext → MmContext) :
    Own mm id first count zeroed fresh (pool.setContext mm change) :=
  ⟨hown.live, hown.mm_eq, hown.first_eq, hown.reserved, hown.zeroed_le,
    hown.zeroed_pages, hown.unmapped⟩

/-- A store to a context whose bounds are not published. -/
theorem writeHidden_triple (hbefore : context.userBoundsValid = false)
    (hafter : (change context).userBoundsValid = false)
    (harena : (change context).userArena = some id ∨
      (change context).userArena = none) :
    poolProtocol.Triple mm
      (fun pool => Own mm id first count zeroed fresh pool ∧
        pool.context mm = context)
      (writeContext mm change)
      (fun _ pool => Own mm id first count zeroed fresh pool ∧
        pool.context mm = change context) := by
  refine writeContext_triple stable_own
    (fun _ hown => hown.setContext _) ?_ ?_
  · intro pool _ hown _
    refine Pool.ContextOk.hidden hafter ?_
    intro used hused
    rcases harena with hsome | hnone
    · rw [hsome] at hused
      obtain rfl := Option.some.inj hused
      exact ⟨hown.live, hown.mm_eq⟩
    · rw [hnone] at hused
      cases hused
  · intro hvalid
    rw [hbefore] at hvalid
    exact Bool.noConfusion hvalid

/-- The stores of a prepare publish the arena that it has zeroed. -/
theorem publishArena_triple (hpos : 0 < count)
    (hinvalid : context.userBoundsValid = false)
    (hstart : start.toNat = pageBase first)
    (hstop : (start + BitVec.ofNat 32 count <<< 12).toNat =
      pageBase (first + count)) :
    poolProtocol.Triple mm
      (fun pool => Own mm id first count count fresh pool ∧
        pool.context mm = context)
      (publishArena mm id start count)
      (fun _ pool => Own mm id first count count fresh pool ∧
        pool.context mm =
          { userArena := some id, userLo := start, userExecHi := 0,
            userHi := start + BitVec.ofNat 32 count <<< 12,
            userSigreturn := 0, userBoundsValid := true,
            userWxValid := false }) := by
  unfold publishArena
  simp only [Prog.bind_eq]
  -- the bounds are not valid before the last store
  iterate 6
    refine Triple.bind (writeHidden_triple hinvalid hinvalid (.inl rfl))
      fun _ => ?_
  refine writeContext_triple stable_own
    (fun _ hown => hown.setContext _) ?_ ?_
  · intro pool _ hown _
    refine ⟨?_, ?_, ?_, ?_⟩
    · intro used hused
      obtain rfl := Option.some.inj hused
      exact ⟨hown.live, hown.mm_eq⟩
    · intro _
      exact ⟨id, count, hown.publishes hpos rfl hstart hstop⟩
    · rintro ⟨-, hwx⟩
      exact Bool.noConfusion hwx
    · rintro - ⟨-, hwx⟩
      exact Bool.noConfusion hwx
  · intro hvalid
    simp only [hinvalid] at hvalid
    exact Bool.noConfusion hvalid

def preparedContext (id : ArenaId) (start : Word) (count : Nat) : MmContext :=
  { userArena := some id, userLo := start, userExecHi := 0,
    userHi := start + BitVec.ofNat 32 count <<< 12,
    userSigreturn := 0, userBoundsValid := true, userWxValid := false }

/-- The state in which a successful prepare returns: `count` zeroed pages,
none of them mapped, and bounds that cover exactly these. -/
def Prepared (mm : Mm) (count : Nat) (pool : Pool) : Prop :=
  ∃ id first start, start.toNat = pageBase first ∧
    first + count ≤ poolPages ∧ 0 < count ∧
    Own mm id first count count True pool ∧
    pool.context mm = preparedContext id start count

theorem stable_prepared :
    poolProtocol.Stable mm (Prepared mm count) := by
  refine Stable.exists fun id => Stable.exists fun first =>
    Stable.exists fun start => ?_
  exact (Stable.const _).and ((Stable.const _).and ((Stable.const _).and
    (stable_own.and (stable_context _))))

theorem toNat_add_pages (hstart : start.toNat = pageBase first)
    (hfits : first + count ≤ poolPages) :
    (start + BitVec.ofNat 32 count <<< 12).toNat =
      pageBase (first + count) := by
  unfold poolPages at hfits
  simp only [BitVec.toNat_add, hstart, pageBase, pageSize,
    BitVec.toNat_shiftLeft, BitVec.toNat_ofNat, Nat.shiftLeft_eq,
    toNat_userPoolStart]
  omega

/-- A prepared mm publishes its whole arena. -/
theorem Prepared.idle (hprepared : Prepared mm count pool) : Idle mm pool := by
  obtain ⟨id, first, start, hstart, hfits, hpos, hown, hcontext⟩ := hprepared
  intro _
  refine ⟨id, ?_⟩
  rw [hcontext, hown.reserved]
  exact hown.publishes hpos rfl hstart (toNat_add_pages hstart hfits)

theorem kzallocArena_triple :
    poolProtocol.Triple mm
      (fun pool => Idle mm pool ∧ pool.context mm = context)
      (kzallocArena mm)
      (fun result pool => (Idle mm pool ∧ pool.context mm = context) ∧
        ∀ id, result = some id → FreshBlock mm id pool) := by
  have hpre : poolProtocol.Stable mm
      fun pool => Idle mm pool ∧ pool.context mm = context :=
    stable_idle.and (stable_context context)
  refine Triple.atomic hpre (fun result => hpre.and ?_) ?_
  · rintro before after hrely hblock id hid
    exact stable_freshBlock hrely (hblock id hid)
  · rintro choice before after result hinv ⟨hidle, hcontext⟩ hrun
    cases choice with
    | none =>
      cases hrun
      exact ⟨hinv, PoolGuar.refl mm before, ⟨hidle, hcontext⟩,
        fun id hid => absurd hid.symm (Option.some_ne_none id)⟩
    | some id =>
      simp only at hrun
      split at hrun
      · cases hrun
      · next hused =>
          cases hrun
          have hfree : before.allocated id = false := by simpa using hused
          have hdead : id ∉ before.live := by
            intro hlive
            exact hused (hinv.allocated id hlive)
          refine ⟨hinv.kzalloc hfree, PoolGuar.kzalloc hinv hfree,
            ⟨hidle.frame hinv rfl ?_, hcontext⟩, ?_⟩
          · intro used _ hlive _
            have hne : used ≠ id := fun heq => hdead (heq ▸ hlive)
            simp [Pool.setArena, hne]
          · intro created hcreated
            obtain rfl := Option.some.inj hcreated
            exact ⟨Function.update_self .., hdead, Function.update_self ..⟩

/-- The placement that the locked part of a prepare makes. -/
theorem FreshBlock.placement (hlayout : pool.Layout)
    (hblock : FreshBlock mm id pool) (hpos : 0 < nrPages)
    (hfound : userLargestFreeExtent pool nrPages < pool.userPages) :
    Placement pool id
      { mm := mm, first := userLargestFreeExtent pool nrPages,
        reservedPages := nrPages }
      (userLargestFreeExtent pool nrPages) nrPages := by
  obtain ⟨hfits, hclear⟩ := userLargestFreeExtent_clear hpos hfound
  rw [hlayout.pages] at hfits
  refine ⟨hclear, ⟨hpos, hfits, ?_, ?_⟩, hblock.allocated, ?_,
    fun _ => ⟨rfl, rfl⟩, fun hlive => absurd hlive hblock.dead⟩
  · intro index hindex
    exact Bool.noConfusion hindex
  · exact (Bitmap.weight_empty nrPages).symm
  · intro page
    simp only [Arena.Holds, hblock.dead, false_and, or_false]

/-- The locked part of a prepare, from a fresh block to the arena in it. -/
theorem prepareSection_triple (hpos : 0 < nrPages) :
    poolProtocol.Triple mm
      (fun pool => (Idle mm pool ∧ pool.context mm = context) ∧
        FreshBlock mm id pool)
      (Prog.critical (prepareSection mm id nrPages) :
        PoolProg (Except Errno Nat))
      (fun result pool => match result with
        | .error _ => (Idle mm pool ∧ pool.context mm = context) ∧
            FreshBlock mm id pool
        | .ok index => (Own mm id index nrPages 0 True pool ∧
            pool.context mm = context) ∧
            context.userBoundsValid = false ∧
            index + nrPages ≤ poolPages) := by
  have hpre : poolProtocol.Stable mm fun pool =>
      (Idle mm pool ∧ pool.context mm = context) ∧ FreshBlock mm id pool :=
    (stable_idle.and (stable_context context)).and stable_freshBlock
  refine Triple.critical hpre ?_ ?_
  · intro result
    cases result with
    | error errno => exact hpre
    | ok index =>
      exact (stable_own.and (stable_context context)).and (Stable.const _)
  · rintro pool hinv ⟨⟨hidle, hcontext⟩, hblock⟩
    unfold prepareSection
    simp only
    split
    · exact ⟨hinv, PoolGuar.refl mm pool, ⟨hidle, hcontext⟩, hblock⟩
    · next hbusy =>
        split
        · exact ⟨hinv, PoolGuar.refl mm pool, ⟨hidle, hcontext⟩, hblock⟩
        · next hroom =>
            simp only [Bool.or_eq_true, decide_eq_true_eq, not_or, not_le,
              not_lt] at hroom
            have hplace := hblock.placement hinv.layout hpos hroom.1
            have hmm : (pool.heap id).mm = mm := by rw [hblock.heap]
            have hheap : pool.heap id = { mm := mm } := hblock.heap
            have hcard : pool.arenas + 1 = (insert id pool.live).card := by
              rw [Finset.card_insert_of_notMem hblock.dead, hinv.arenas_card]
            rw [hheap, hcard]
            refine ⟨hinv.placed hplace, PoolGuar.placed hinv hmm hplace,
              ⟨⟨Finset.mem_insert_self .., ?_, ?_, ?_, Nat.zero_le _, ?_, ?_⟩,
                hcontext⟩, ?_, hplace.wellFormed.fits⟩
            iterate 3 · simp [Pool.reserve, Pool.setOwner, Pool.setArena]
            · intro page hlower hupper
              omega
            · intro _ index
              simp [Pool.reserve, Pool.setOwner, Pool.setArena, Bitmap.empty]
            · rw [hcontext] at hbusy
              simp only [Bool.or_eq_true, not_or] at hbusy
              simpa using hbusy.2

/-- A memset of pages of the thread's own arena that extends what is already
zeroed. -/
theorem memsetPages_triple {length : Nat}
    (hstart : start.toNat = pageBase (first + zeroed))
    (hfits : zeroed + length ≤ count) :
    poolProtocol.Triple mm
      (fun pool => Own mm id first count zeroed fresh pool ∧
        pool.context mm = context)
      (memsetPages mm start (length * pageSize))
      (fun _ pool => Own mm id first count (zeroed + length) fresh pool ∧
        pool.context mm = context) := by
  refine Triple.store (stable_own.and (stable_context context))
    (stable_own.and (stable_context context)) ?_
  rintro pool hinv ⟨hown, hcontext⟩
  have harena := (hinv.arena id hown.live).fits
  rw [hown.first_eq, hown.reserved] at harena
  have hinside : ∀ page, first + zeroed ≤ page →
      page < first + zeroed + length → (pool.heap id).Holds page := by
    intro page hlower hupper
    unfold Arena.Holds
    rw [hown.first_eq, hown.reserved]
    omega
  refine ⟨hinv.zeroRange hown.live hown.mm_eq hstart hinside,
    PoolGuar.zeroRange hinv hown.live hown.mm_eq hstart hinside,
    ⟨hown.live, hown.mm_eq, hown.first_eq, hown.reserved, hfits, ?_,
      hown.unmapped⟩, hcontext⟩
  intro page hlower hupper
  rw [Pool.zeroRange_zeroedBy hinv.layout hstart (by omega)]
  split
  · rfl
  · exact hown.zeroed_pages page hlower (by omega)

def pagesFor (bytes : Word) : Nat :=
  (bytes.toNat + (pageSize - 1)) / pageSize

theorem prepareChecks_triple {bytes : Word} :
    poolProtocol.Triple mm
      (fun pool => Idle mm pool ∧ pool.context mm = context)
      (Prog.load (prepareChecks bytes) : PoolProg (Except Errno Nat))
      (fun result pool => (Idle mm pool ∧ pool.context mm = context) ∧
        ∀ nrPages, result = .ok nrPages →
          nrPages = pagesFor bytes ∧ 0 < nrPages) := by
  have hpre : poolProtocol.Stable mm
      fun pool => Idle mm pool ∧ pool.context mm = context :=
    stable_idle.and (stable_context context)
  refine Triple.load (PoolGuar.refl mm) hpre
    (fun _ => hpre.and (Stable.const _)) ?_
  rintro pool hinv hidle
  refine ⟨hidle, fun nrPages hok => ?_⟩
  obtain ⟨hpages, hpos, -⟩ := prepareChecks_ok hok
  exact ⟨hpages, hpos⟩

theorem kfreeArena_triple :
    poolProtocol.Triple mm (fun pool => Idle mm pool ∧ Block mm id pool)
      (kfreeArena id) (fun _ => Idle mm) := by
  refine Triple.store (stable_idle.and stable_block) stable_idle ?_
  rintro pool hinv ⟨hidle, hblock⟩
  refine ⟨hinv.kfree hblock.dead, PoolGuar.kfree hblock.mm_eq,
    hidle.frame hinv rfl ?_⟩
  exact fun _ _ _ _ => ⟨rfl, rfl, fun _ _ => .inl rfl⟩

theorem finishPrepare_triple {index : Nat} (hpos : 0 < nrPages)
    (hinvalid : context.userBoundsValid = false)
    (hfits : index + nrPages ≤ poolPages) :
    poolProtocol.Triple mm
      (fun pool => Own mm id index nrPages 0 True pool ∧
        pool.context mm = context)
      (finishPrepare mm id index nrPages)
      (fun result pool => result = .ok () ∧ Prepared mm nrPages pool) := by
  have hpre : poolProtocol.Stable mm fun pool =>
      Own mm id index nrPages 0 True pool ∧ pool.context mm = context :=
    stable_own.and (stable_context context)
  have hload : poolProtocol.Triple mm
      (fun pool => Own mm id index nrPages 0 True pool ∧
        pool.context mm = context)
      (Prog.load fun pool => pool.pageAddress index : PoolProg Word)
      (fun start pool => (Own mm id index nrPages 0 True pool ∧
        pool.context mm = context) ∧ start.toNat = pageBase index) := by
    refine Triple.load (PoolGuar.refl mm) hpre
      (fun _ => hpre.and (Stable.const _)) ?_
    intro pool hinv hown
    exact ⟨hown, hinv.layout.toNat_pageAddress (by omega)⟩
  refine Triple.bind hload fun start => Triple.assume fun hstart => ?_
  have hmemset : poolProtocol.Triple mm
      (fun pool => Own mm id index nrPages 0 True pool ∧
        pool.context mm = context)
      (memsetPages mm start (nrPages * pageSize))
      (fun _ pool => Own mm id index nrPages (0 + nrPages) True pool ∧
        pool.context mm = context) :=
    memsetPages_triple hstart (by omega)
  rw [Nat.zero_add] at hmemset
  refine Triple.bind hmemset fun _ => ?_
  refine Triple.bind (publishArena_triple hpos hinvalid hstart
    (toNat_add_pages hstart hfits)) fun _ => ?_
  refine Triple.ret ((Stable.const _).and stable_prepared) ?_
  rintro pool - ⟨hown, hcontext⟩
  exact ⟨rfl, id, index, start, hstart, hfits, hpos, hown, hcontext⟩

/-- A prepare fails and leaves the mm idle, or publishes the pages asked
for. -/
theorem userArenaPrepare_triple {bytes : Word} :
    poolProtocol.Triple mm (Idle mm) (userArenaPrepare (some mm) bytes)
      (fun result pool => match result with
        | .error _ => Idle mm pool
        | .ok () => Prepared mm (pagesFor bytes) pool) := by
  refine Triple.fix (fun pool => pool.context mm) fun context => ?_
  refine Triple.bind prepareChecks_triple fun entry =>
    Triple.assume fun hentry => ?_
  cases entry with
  | error errno =>
    exact Triple.ret stable_idle fun pool _ hpre => hpre.1
  | ok nrPages =>
    obtain ⟨hpages, hpos⟩ := hentry nrPages rfl
    refine Triple.bind kzallocArena_triple fun block => ?_
    cases block with
    | none => exact Triple.ret stable_idle fun pool _ hpre => hpre.1.1
    | some id =>
      refine Triple.bind ((prepareSection_triple hpos).mono
        (fun pool _ hpre => ⟨hpre.1, hpre.2 id rfl⟩)
        fun _ _ hpost => hpost) fun placed => ?_
      cases placed with
      | error errno =>
        refine Triple.bind (kfreeArena_triple.mono
          (fun pool _ hpre => ⟨hpre.1.1, hpre.2.block⟩)
          fun _ _ hpost => hpost) fun _ => ?_
        exact Triple.ret stable_idle fun pool _ hidle => hidle
      | ok index =>
        refine Triple.assume fun hplaced => ?_
        refine (finishPrepare_triple hpos hplaced.1 hplaced.2).mono
          (fun pool _ hpre => hpre) ?_
        rintro _ pool ⟨rfl, hprepared⟩
        rw [← hpages]
        exact hprepared

end Micronux
