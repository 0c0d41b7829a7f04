/-
The calls that unmap pages, release an arena and finalize the W^X split, and
the bytes that an mm stores through its bounds.  A release revokes the bounds
before it touches the arena; a finalize publishes the split only after both of
its bounds are stored.
-/
import Micronux.PrepareCall

namespace Micronux

open Concurrent Protocol

variable {mm : Mm}

theorem freeSection_keeps {pool : Pool} {first nrPages : Nat}
    (hinv : PoolInv pool) (hidle : Idle mm pool) :
    PoolInv (freeSection first nrPages pool).1 ∧
      PoolGuar mm pool (freeSection first nrPages pool).1 ∧
      Idle mm (freeSection first nrPages pool).1 := by
  unfold freeSection
  split
  · exact ⟨hinv, PoolGuar.refl mm pool, hidle⟩
  · next id howner =>
      obtain ⟨hlive, hholds⟩ := hinv.holds_of_owner howner
      unfold Arena.Holds at hholds
      simp only
      split
      · exact ⟨hinv, PoolGuar.refl mm pool, hidle⟩
      · next hbounds =>
          split
          · exact ⟨hinv, PoolGuar.refl mm pool, hidle⟩
          · split
            · exact ⟨hinv, PoolGuar.refl mm pool, hidle⟩
            · next hmapped =>
                simp only [Bool.or_eq_true, decide_eq_true_eq, not_or,
                  not_lt] at hbounds hmapped
                obtain ⟨⟨hset, -⟩, -⟩ := hmapped
                refine ⟨hinv.unmapPages hlive (by omega)
                    (Bitmap.all_set_of_findNextZeroBit (not_lt.mpr hset)),
                  PoolGuar.unmapPages hlive, hidle.frame hinv rfl ?_⟩
                intro used _ _ _
                have hkept := pool.unmapPages_kept id
                  (first - (pool.heap id).first) nrPages used
                exact ⟨hkept.first, hkept.reserved, fun _ _ => .inl rfl⟩

/-- Whoever frees pages of whichever arena stays idle. -/
theorem userArenaFree_triple {start stop : Word} :
    poolProtocol.Triple mm (Idle mm) (userArenaFree start stop)
      (fun _ => Idle mm) := by
  refine Triple.bind (Triple.load (PoolGuar.refl mm) stable_idle
    (fun _ => stable_idle) fun _ _ hidle => hidle) fun range => ?_
  cases range with
  | none => exact Triple.ret stable_idle fun _ _ hidle => hidle
  | some pages =>
    exact Triple.critical stable_idle (fun _ => stable_idle)
      fun _ hinv hidle => freeSection_keeps hinv hidle

/-- A byte stored through published bounds lands on a page of the mm. -/
theorem userStore_triple {thread : Mm} {address : Word} :
    poolProtocol.Triple thread (Idle thread) (userStore mm address)
      (fun _ => Idle thread) := by
  refine Triple.store stable_idle stable_idle ?_
  intro pool hinv hidle
  split
  · next hinside =>
      simp only [Bool.and_eq_true, decide_eq_true_eq, BitVec.le_def,
        BitVec.lt_def] at hinside
      obtain ⟨⟨hvalid, hlo⟩, hhi⟩ := hinside
      obtain ⟨id, count, hpub⟩ := (hinv.context mm).bounds hvalid
      have hlive := ((hinv.context mm).arena id hpub.arena).1
      rw [hpub.lo] at hlo
      rw [hpub.hi] at hhi
      obtain ⟨written, hfirst, hlast, hbase, hend⟩ := page_of_address hlo hhi
      refine ⟨⟨⟨hinv.layout.ready, hinv.layout.start, hinv.layout.stop,
          hinv.layout.pages⟩, hinv.allocated, hinv.arena, hinv.owner,
          hinv.reserved, hinv.reserved_sum, hinv.mapped_sum,
          hinv.arenas_card,
          fun other => (hinv.context other).congr rfl rfl rfl rfl, ?_,
          hinv.spared⟩,
        PoolGuar.of_same rfl rfl rfl rfl rfl rfl,
        hidle.frame hinv rfl
          fun _ _ _ _ => ⟨rfl, rfl, fun _ _ => .inl rfl⟩⟩
      intro page other hpage hzeroed byte hlower hupper
      by_cases hbyte : byte = address.toNat
      · -- one page holds the address, and the mm of the bounds has zeroed it
        subst hbyte
        have hle := pageBase_lt.mp (lt_of_le_of_lt hlower hend)
        have hge := pageBase_lt.mp (lt_of_le_of_lt hbase hupper)
        obtain rfl : page = written := by omega
        have hmine := hpub.zeroed page hfirst hlast
        rw [hzeroed] at hmine
        rw [Option.some.inj hmine]
        exact .inr (Function.update_self ..)
      · simp only [Function.update_of_ne hbyte]
        exact hinv.clean page other hpage hzeroed byte hlower hupper
  · exact ⟨hinv, PoolGuar.refl thread pool, hidle⟩

/-- The arena that a release has read from the context is still the mm's. -/
def Detaching (mm : Mm) (arena : Option ArenaId) (pool : Pool) : Prop :=
  ∀ id, arena = some id → ∃ first count, Own mm id first count 0 False pool

variable {arena : Option ArenaId} {change : MmContext → MmContext}

theorem stable_detaching : poolProtocol.Stable mm (Detaching mm arena) := by
  intro before after hrely hbefore id hid
  obtain ⟨first, count, hown⟩ := hbefore id hid
  exact ⟨first, count, stable_own hrely hown⟩

theorem Detaching.setContext {pool : Pool} (hbefore : Detaching mm arena pool) :
    Detaching mm arena (pool.setContext mm change) := by
  intro id hid
  obtain ⟨first, count, hown⟩ := hbefore id hid
  exact ⟨first, count, hown.live, hown.mm_eq, hown.first_eq, hown.reserved,
    hown.zeroed_le, hown.zeroed_pages, hown.unmapped⟩

theorem writeRevoked_triple {context : MmContext}
    (hbefore : context.userBoundsValid = false)
    (hafter : (change context).userBoundsValid = false)
    (harena : (change context).userArena = arena ∨
      (change context).userArena = none) :
    poolProtocol.Triple mm
      (fun pool => Detaching mm arena pool ∧ pool.context mm = context)
      (writeContext mm change)
      (fun _ pool => Detaching mm arena pool ∧
        pool.context mm = change context) := by
  refine writeContext_triple stable_detaching
    (fun _ hdetaching => hdetaching.setContext) ?_ ?_
  · intro pool _ hdetaching _
    refine Pool.ContextOk.hidden hafter ?_
    intro id hid
    rcases harena with hsame | hnone
    · obtain ⟨first, count, hown⟩ := hdetaching id (hsame.symm.trans hid)
      exact ⟨hown.live, hown.mm_eq⟩
    · rw [hnone] at hid
      cases hid
  · intro hvalid
    rw [hbefore] at hvalid
    exact Bool.noConfusion hvalid

theorem revokeBounds_triple {context : MmContext} : poolProtocol.Triple mm
      (fun pool => Detaching mm context.userArena pool ∧
        pool.context mm = context)
      (Prog.store fun pool => pool.revoke mm : PoolProg Unit)
      (fun _ pool => Detaching mm context.userArena pool ∧
        pool.context mm = context.revoke) := by
  refine Triple.store (stable_detaching.and (stable_context _))
    (stable_detaching.and (stable_context _)) ?_
  rintro pool hinv ⟨hdetaching, rfl⟩
  have hok : pool.ContextOk mm (pool.context mm).revoke :=
    Pool.ContextOk.hidden rfl (hinv.context mm).arena
  have hset := hinv.setContext hok
  refine ⟨⟨⟨hset.layout.ready, hset.layout.start, hset.layout.stop,
      hset.layout.pages⟩, hset.allocated, hset.arena, hset.owner,
      hset.reserved, hset.reserved_sum, hset.mapped_sum, hset.arenas_card,
      fun other => (hset.context other).congr rfl rfl rfl rfl, hset.clean,
      hset.spared⟩, ?_, ?_, pool.setContext_self mm _⟩
  · refine ⟨fun _ hother => Pool.setContext_of_ne hother, ?_,
      fun _ hid _ => hid, fun _ _ _ => Iff.rfl,
      fun _ _ _ => Arena.Kept.refl _, fun _ _ _ _ => rfl,
      fun _ _ _ _ _ => rfl, ?_, ?_⟩
    · exact fun _ hother => Function.update_of_ne hother ..
    · simp only [Pool.revoke, Function.update_self]
      omega
    · intro hsame
      simp only [Pool.revoke, Function.update_self] at hsame
      omega
  · intro id hid
    obtain ⟨first, count, hown⟩ := hdetaching id hid
    exact ⟨first, count, hown.live, hown.mm_eq, hown.first_eq,
      hown.reserved, hown.zeroed_le, hown.zeroed_pages, hown.unmapped⟩

/-- The stores of a release leave a context with no arena and no bounds. -/
theorem revokeArena_triple {context : MmContext} : poolProtocol.Triple mm
      (fun pool => Detaching mm context.userArena pool ∧
        pool.context mm = context)
      (revokeArena mm)
      (fun _ pool => Detaching mm context.userArena pool ∧
        pool.context mm = {}) := by
  refine Triple.bind revokeBounds_triple fun _ => ?_
  refine Triple.bind (writeRevoked_triple rfl rfl (.inl rfl)) fun _ => ?_
  refine Triple.bind (writeRevoked_triple rfl rfl (.inl rfl)) fun _ => ?_
  refine Triple.bind (writeRevoked_triple rfl rfl (.inl rfl)) fun _ => ?_
  refine Triple.bind (writeRevoked_triple rfl rfl (.inl rfl)) fun _ => ?_
  refine Triple.bind (writeRevoked_triple rfl rfl (.inl rfl)) fun _ => ?_
  exact writeRevoked_triple rfl rfl (.inr rfl)

theorem releaseSection_triple {id : ArenaId} {first count : Nat} :
    poolProtocol.Triple mm (fun pool => Own mm id first count 0 False pool ∧
        pool.context mm = {})
      (Prog.critical (releaseSection mm id) : PoolProg Bool)
      (fun unlinked pool => pool.context mm = {} ∧
        (unlinked = true → Block mm id pool)) := by
  refine Triple.critical (stable_own.and (stable_context _))
    (fun _ => (stable_context _).and stable_block.imp) ?_
  rintro pool hinv ⟨hown, hcontext⟩
  unfold releaseSection
  simp only
  split
  · exact ⟨hinv, PoolGuar.refl mm pool, hcontext,
      fun hfalse => Bool.noConfusion hfalse⟩
  · split
    · exact ⟨hinv, PoolGuar.refl mm pool, hcontext,
        fun hfalse => Bool.noConfusion hfalse⟩
    · have hunused : ∀ other, (pool.context other).userArena ≠ some id := by
        intro other hother
        have hmm := ((hinv.context other).arena id hother).2
        rw [hown.mm_eq] at hmm
        subst hmm
        rw [hcontext] at hother
        cases hother
      exact ⟨hinv.unlink hown.live hunused, PoolGuar.unlink hown.mm_eq,
        hcontext, fun _ => ⟨hinv.allocated id hown.live,
          Finset.notMem_erase id pool.live, hown.mm_eq⟩⟩

theorem idle_of_empty {pool : Pool} (hcontext : pool.context mm = {}) :
    Idle mm pool := by
  intro hvalid
  rw [hcontext] at hvalid
  exact Bool.noConfusion hvalid

theorem userArenaRelease_triple :
    poolProtocol.Triple mm (Idle mm) (userArenaRelease (some mm))
      (fun _ => Idle mm) := by
  refine Triple.fix (fun pool => pool.context mm) fun context => ?_
  have hload : poolProtocol.Triple mm
      (fun pool => Idle mm pool ∧ pool.context mm = context)
      (Prog.load fun pool => (pool.context mm).userArena :
        PoolProg (Option ArenaId))
      (fun arena pool => (Detaching mm context.userArena pool ∧
        pool.context mm = context) ∧ arena = context.userArena) := by
    refine Triple.load (PoolGuar.refl mm)
      (stable_idle.and (stable_context context))
      (fun _ => (stable_detaching.and (stable_context context)).and
        (Stable.const _)) ?_
    rintro pool hinv ⟨-, rfl⟩
    refine ⟨⟨fun id hid => ?_, rfl⟩, rfl⟩
    obtain ⟨hlive, hmm⟩ := (hinv.context mm).arena id hid
    exact ⟨_, _, hlive, hmm, rfl, rfl, Nat.zero_le _,
      fun page hlower hupper => by omega, False.elim⟩
  refine Triple.bind hload fun arena => Triple.assume fun harena => ?_
  refine Triple.bind revokeArena_triple fun _ => ?_
  cases arena with
  | none =>
    exact Triple.ret stable_idle fun _ _ hpre => idle_of_empty hpre.2
  | some id =>
    rintro pool hinv ⟨hdetaching, hcontext⟩
    obtain ⟨first, count, hown⟩ := hdetaching id harena.symm
    refine Triple.bind releaseSection_triple (fun unlinked => ?_) pool hinv
      ⟨hown, hcontext⟩
    cases unlinked with
    | false =>
      exact Triple.ret stable_idle fun _ _ hpre => idle_of_empty hpre.1
    | true =>
      exact kfreeArena_triple.mono
        (fun _ _ hpre => ⟨idle_of_empty hpre.1, hpre.2 rfl⟩)
        fun _ _ hidle => hidle

section Finalize

variable {context : MmContext} {id : ArenaId} {first count : Nat}
variable {execHi sigreturn size : Word}

/-- What the checks of a finalize let through. -/
structure FinalizeOk (context : MmContext) (execHi sigreturn : Word) :
    Prop where
  bounds : context.userBoundsValid = true
  unsplit : context.userWxValid = false
  lo_lt : context.userLo.toNat < execHi.toNat
  lt_hi : execHi.toNat < context.userHi.toNat
  aligned : execHi.toNat % pmpGranularity = 0
  sigreturn_eq : sigreturn = context.userLo

theorem wxFinalizeChecks_iff :
    wxFinalizeChecks context execHi sigreturn size = true ↔
      context.userBoundsValid = true ∧ context.userWxValid = false ∧
      userPoolStart.toNat ≤ context.userLo.toNat ∧
      context.userHi.toNat ≤ userPoolEnd.toNat ∧
      context.userLo.toNat < execHi.toNat ∧
      execHi.toNat < context.userHi.toNat ∧
      context.userLo.toNat % pmpGranularity = 0 ∧
      execHi.toNat % pmpGranularity = 0 ∧
      context.userHi.toNat % pmpGranularity = 0 ∧
      sigreturn = context.userLo ∧ size ≠ 0 ∧
      size.toNat ≤ (execHi - sigreturn).toNat := by
  simp only [wxFinalizeChecks, isAligned, Bool.and_eq_true, beq_iff_eq,
    decide_eq_true_eq, Bool.not_eq_true', BitVec.lt_def, BitVec.le_def,
    bne_iff_ne, and_assoc]

theorem wxFinalizeChecks_ok
    (hchecks : wxFinalizeChecks context execHi sigreturn size = true) :
    FinalizeOk context execHi sigreturn := by
  obtain ⟨hbounds, hunsplit, -, -, hlo, hhi, -, haligned, -, hsig, -, -⟩ :=
    wxFinalizeChecks_iff.mp hchecks
  exact ⟨hbounds, hunsplit, hlo, hhi, haligned, hsig⟩

/-- The bounds of a context cover exactly the pages given. -/
structure MmContext.Covers (context : MmContext) (id : ArenaId)
    (first count : Nat) : Prop where
  arena : context.userArena = some id
  lo : context.userLo.toNat = pageBase first
  hi : context.userHi.toNat = pageBase (first + count)
  pos : 0 < count

theorem Own.publishes_covers {pool : Pool} {fresh : Prop}
    (hown : Own mm id first count count fresh pool)
    (hcovers : context.Covers id first count) :
    pool.Publishes mm context id count :=
  hown.publishes hcovers.pos hcovers.arena hcovers.lo hcovers.hi

theorem writeUnsplit_triple (hcovers : (change context).Covers id first count)
    (hbefore : context.userWxValid = false)
    (hafter : (change context).userWxValid = false)
    (hvalid : (change context).userBoundsValid = true)
    (hlo : (change context).userLo = context.userLo)
    (hhi : (change context).userHi = context.userHi) :
    poolProtocol.Triple mm (fun pool => Own mm id first count count False pool ∧
        pool.context mm = context)
      (writeContext mm change)
      (fun _ pool => Own mm id first count count False pool ∧
        pool.context mm = change context) := by
  have hsplit : ¬ (change context).Split := by
    rintro ⟨-, hwx⟩
    rw [hafter] at hwx
    exact Bool.noConfusion hwx
  refine writeContext_triple stable_own (fun _ hown => hown.setContext _) ?_ ?_
  · intro pool _ hown _
    refine ⟨?_, fun _ => ⟨id, count, hown.publishes_covers hcovers⟩,
      fun h => absurd h hsplit, fun _ h => absurd h hsplit⟩
    intro used hused
    obtain rfl : id = used :=
      Option.some.inj (hcovers.arena.symm.trans hused)
    exact ⟨hown.live, hown.mm_eq⟩
  · intro _
    refine ⟨hvalid, hlo, by rw [hhi], fun hwx => ?_⟩
    rw [hbefore] at hwx
    exact Bool.noConfusion hwx

theorem finalizeSplit_triple (hcovers : context.Covers id first count)
    (hvalid : context.userBoundsValid = true)
    (hunsplit : context.userWxValid = false) (hok : context.SplitOk) :
    poolProtocol.Triple mm (fun pool => Own mm id first count count False pool ∧
        pool.context mm = context)
      (Prog.store fun pool => pool.finalize mm : PoolProg Unit)
      (fun _ pool => Own mm id first count count False pool ∧
        pool.context mm = context.finalize) := by
  refine Triple.store (stable_own.and (stable_context _))
    (stable_own.and (stable_context _)) ?_
  rintro pool hinv ⟨hown, rfl⟩
  have hown' : Own mm id first count count False (pool.finalize mm) :=
    ⟨hown.live, hown.mm_eq, hown.first_eq, hown.reserved, hown.zeroed_le,
      hown.zeroed_pages, hown.unmapped⟩
  have hkept : (pool.finalize mm).TextKept → pool.TextKept :=
    fun hkept event hevent => hkept event (List.mem_cons_of_mem _ hevent)
  refine ⟨⟨⟨hinv.layout.ready, hinv.layout.start, hinv.layout.stop,
      hinv.layout.pages⟩, hinv.allocated, hinv.arena, hinv.owner,
      hinv.reserved, hinv.reserved_sum, hinv.mapped_sum, hinv.arenas_card, ?_,
      hinv.clean, ?_⟩, ?_, hown', pool.setContext_self mm _⟩
  · intro other
    by_cases hother : other = mm
    · subst other
      have hself : (pool.finalize mm).context mm =
          (pool.context mm).finalize := pool.setContext_self mm _
      rw [hself]
      refine ⟨(hinv.context mm).arena, fun _ => ⟨id, count,
        hown'.publishes_covers ⟨hcovers.arena, hcovers.lo, hcovers.hi,
          hcovers.pos⟩⟩, fun _ => ⟨hok.lo_lt, hok.lt_hi, hok.aligned,
          hok.sigreturn⟩, ?_⟩
      intro htext _ used hused page hholds hexec
      -- the event records the arena as it is when the split is published
      have hevent := htext _ List.mem_cons_self
      have harena : (pool.context mm).userArena.getD 0 = used := by
        rw [show (pool.context mm).userArena = some used from hused]
        rfl
      simp only [PoolEvent.KeepsText, harena] at hevent
      exact hevent page hholds hexec
    · have hself : (pool.finalize mm).context other = pool.context other :=
        Pool.setContext_of_ne hother
      rw [hself]
      exact (hinv.context other).frame
        (fun _ _ hlive => ⟨hlive, Arena.Extends.refl _⟩)
        (fun _ _ _ _ _ => .inl rfl)
        (fun htext => ⟨hkept htext, fun _ hmapped => hmapped⟩)
  · intro htext event hevent
    rcases List.mem_cons.mp hevent with rfl | hold
    · trivial
    · exact hinv.spared (hkept htext) event hold
  · have hguar : PoolGuar mm pool (pool.setContext mm MmContext.finalize) := by
      refine PoolGuar.setContext fun _ => ⟨hvalid, rfl, le_rfl, fun hwx => ?_⟩
      rw [hunsplit] at hwx
      exact Bool.noConfusion hwx
    exact ⟨hguar.context, hguar.releases, hguar.allocated, hguar.live,
      hguar.arena, hguar.block, hguar.zeroed,
      ⟨hguar.bounds.releases, hguar.bounds.leads⟩⟩

/-- A finalize leaves the mm idle, and succeeds exactly when its checks
pass. -/
theorem userWxFinalize_triple : poolProtocol.Triple mm
      (fun pool => Idle mm pool ∧ pool.context mm = context)
      (userWxFinalize (some mm) execHi sigreturn size)
      (fun result pool => Idle mm pool ∧
        (wxFinalizeChecks context execHi sigreturn size = true →
          result = .ok () ∧ pool.context mm =
            { context with userExecHi := execHi, userSigreturn := sigreturn,
                           userWxValid := true })) := by
  have hpre : poolProtocol.Stable mm
      fun pool => Idle mm pool ∧ pool.context mm = context :=
    stable_idle.and (stable_context context)
  have hpost : ∀ result : Except Errno Unit, poolProtocol.Stable mm fun pool =>
      Idle mm pool ∧ (wxFinalizeChecks context execHi sigreturn size = true →
          result = .ok () ∧ pool.context mm =
            { context with userExecHi := execHi, userSigreturn := sigreturn,
                           userWxValid := true }) := fun result =>
    stable_idle.and ((Stable.const _).and (stable_context _)).imp
  have hload : poolProtocol.Triple mm
      (fun pool => Idle mm pool ∧ pool.context mm = context)
      (Prog.load fun pool => wxFinalizeChecks (pool.context mm) execHi
        sigreturn size : PoolProg Bool)
      (fun accepted pool => (Idle mm pool ∧ pool.context mm = context) ∧
        accepted = wxFinalizeChecks context execHi sigreturn size) := by
    refine Triple.load (PoolGuar.refl mm) hpre
      (fun _ => hpre.and (Stable.const _)) ?_
    rintro pool - ⟨hidle, rfl⟩
    exact ⟨⟨hidle, rfl⟩, rfl⟩
  refine Triple.bind hload fun accepted => Triple.assume fun haccepted => ?_
  cases accepted with
  | false =>
    refine Triple.ret (hpost _) fun pool _ hidle => ⟨hidle.1, fun hchecks => ?_⟩
    rw [← haccepted] at hchecks
    exact Bool.noConfusion hchecks
  | true =>
    have hok := wxFinalizeChecks_ok haccepted.symm
    rintro pool hinv ⟨hidle, rfl⟩
    obtain ⟨id, hpub⟩ := hidle hok.bounds
    have hcovers : ∀ exec sig wx, ({ pool.context mm with
        userExecHi := exec, userSigreturn := sig, userWxValid := wx } :
          MmContext).Covers id (pool.heap id).first
            (pool.heap id).reservedPages :=
      fun _ _ _ => ⟨hpub.arena, hpub.lo, hpub.hi, hpub.count_pos⟩
    refine Triple.bind (writeUnsplit_triple (hcovers _ _ _) hok.unsplit
      hok.unsplit hok.bounds rfl rfl) (fun _ => ?_) pool hinv
      ⟨hpub.own hinv, rfl⟩
    refine Triple.bind (writeUnsplit_triple (hcovers _ _ _) hok.unsplit
      hok.unsplit hok.bounds rfl rfl) fun _ => ?_
    refine Triple.bind (finalizeSplit_triple (hcovers _ _ _) hok.bounds
      hok.unsplit ⟨hok.lo_lt, hok.lt_hi, hok.aligned, hok.sigreturn_eq⟩)
      fun _ => ?_
    refine Triple.ret (hpost _) ?_
    rintro after - ⟨hown, hcontext⟩
    refine ⟨fun _ => ⟨id, ?_⟩, fun _ => ⟨rfl, hcontext⟩⟩
    rw [hcontext, hown.reserved]
    exact hown.publishes_covers (hcovers _ _ _)

end Finalize

end Micronux
