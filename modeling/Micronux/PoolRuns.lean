/-
Runs of the user pool: any number of mms, each with its calls one after the
other, interleaved action by action from the state that initialization leaves.
-/
import Micronux.LoadCall

namespace Micronux

open Concurrent Protocol

/-- A call that a thread makes.  `store` is a byte stored through the bounds
of some mm, at any moment and from any thread. -/
inductive PoolRequest where
  | prepare (mm : Option Mm) (bytes : Word)
  | alloc (mm : Option Mm) (nrPages : Word)
  | free (start stop : Word)
  | release (mm : Option Mm)
  | finalize (mm : Option Mm) (execHi sigreturn size : Word)
  | store (mm : Mm) (address : Word)
  | load (offset : Word) (hdr : FlatHeader) (fileSize : Nat) (extraStack : Word)
deriving DecidableEq

inductive PoolReply where
  | status (result : Except Errno Unit)
  | allocated (result : AllocResult)
  | freed (result : Bool)
  | done
  | loaded (offset : Word) (hdr : FlatHeader) (fileSize : Nat)
      (extraStack : Word) (outcome : LoadOutcome)
deriving DecidableEq

/-- What the thread of an mm runs for a call. -/
def poolCode (thread : Mm) : PoolRequest → PoolProg PoolReply
  | .prepare mm bytes => do
    let result ← userArenaPrepare mm bytes
    pure (.status result)
  | .alloc mm nrPages => do
    let result ← userArenaAlloc mm nrPages
    pure (.allocated result)
  | .free start stop => do
    let result ← userArenaFree start stop
    pure (.freed result)
  | .release mm => do
    userArenaRelease mm
    pure .done
  | .finalize mm execHi sigreturn size => do
    let result ← userWxFinalize mm execHi sigreturn size
    pure (.status result)
  | .store mm address => do
    userStore mm address
    pure .done
  | .load offset hdr fileSize extraStack => do
    let outcome ← loadFlatFile thread offset hdr fileSize extraStack
    pure (.loaded offset hdr fileSize extraStack outcome)

/-- The calls that name an mm run on its thread, one after the other; a
program is loaded with arguments on its stack. -/
def PoolPermitted (thread : Mm) : PoolRequest → Prop
  | .prepare mm _ | .alloc mm _ => mm = none ∨ mm = some thread
  | .free _ _ => True
  | .release mm | .finalize mm _ _ _ => mm = none ∨ mm = some thread
  | .store _ _ => True
  | .load _ _ _ extraStack => extraStack ≠ 0

instance (thread : Mm) : (request : PoolRequest) →
    Decidable (PoolPermitted thread request)
  | .prepare _ _ | .alloc _ _ => inferInstanceAs (Decidable (_ ∨ _))
  | .free _ _ => .isTrue trivial
  | .release _ | .finalize _ _ _ _ => inferInstanceAs (Decidable (_ ∨ _))
  | .store _ _ => .isTrue trivial
  | .load _ _ _ extraStack => inferInstanceAs (Decidable (extraStack ≠ 0))

abbrev PoolConfig := Config Pool Choice Mm PoolReply

abbrev PoolLabel := Label Mm PoolRequest Choice

def poolStart (pool : Pool) : PoolConfig where
  shared := pool
  thread := fun _ => .ret .done

/-- A schedule from initialization to the configuration `after`. -/
structure PoolRun (labels : List PoolLabel) (after : PoolConfig) : Prop where
  start : ∃ base size pool, userPoolInit base size = .ok pool ∧
    (poolStart pool).exec poolCode labels = some after
  permitted : ∀ label ∈ labels, Allowed PoolPermitted label

def PoolPost (mm : Mm) (reply : PoolReply) (pool : Pool) : Prop :=
  Idle mm pool ∧ match reply with
    | .loaded offset hdr fileSize extraStack outcome =>
      LoadPost mm (flatChecks offset hdr fileSize extraStack) outcome pool
    | _ => True

variable {mm : Mm} {pool : Pool}

theorem stable_poolPost {reply : PoolReply} :
    poolProtocol.Stable mm (PoolPost mm reply) := by
  cases reply with
  | loaded _ _ _ _ _ => exact stable_idle.and stable_loadPost
  | status _ | allocated _ | freed _ | done =>
    exact stable_idle.and (Stable.const _)

/-- A call that leaves the mm idle and replies with no load outcome. -/
theorem reply_triple {α : Type} {prog : PoolProg α} {reply : α → PoolReply}
    {post : α → Pool → Prop}
    (hprog : poolProtocol.Triple mm (Idle mm) prog post)
    (hpost : ∀ value pool, post value pool → PoolPost mm (reply value) pool) :
    poolProtocol.Triple mm (fun pool => ∃ value, PoolPost mm value pool)
      (prog.bind fun value => .ret (reply value)) (PoolPost mm) := by
  refine Triple.bind (hprog.mono (fun pool _ hpre => hpre.choose_spec.1)
    fun _ _ hafter => hafter) fun value => ?_
  exact Triple.ret stable_poolPost fun pool _ hafter =>
    hpost value pool hafter

theorem ret_triple {α : Type} (value : α) :
    poolProtocol.Triple mm (Idle mm) (.ret value : PoolProg α)
      fun _ => Idle mm :=
  Triple.ret stable_idle fun _ _ hidle => hidle

theorem poolCode_correct :
    Correct poolProtocol PoolPost PoolPermitted poolCode := by
  intro thread request hpermitted
  cases request with
  | prepare mm bytes =>
    rcases hpermitted with rfl | rfl
    · exact reply_triple (ret_triple _) fun _ _ hidle => ⟨hidle, trivial⟩
    · refine reply_triple userArenaPrepare_triple fun result pool hafter => ?_
      cases result with
      | error errno => exact ⟨hafter, trivial⟩
      | ok => exact ⟨Prepared.idle hafter, trivial⟩
  | alloc mm nrPages =>
    rcases hpermitted with rfl | rfl
    · exact reply_triple (ret_triple _) fun _ _ hidle => ⟨hidle, trivial⟩
    · have halloc : poolProtocol.Triple thread (Idle thread)
          (userArenaAlloc (some thread) nrPages) fun _ => Idle thread := by
        refine Triple.fix (fun pool => pool.context thread) fun context => ?_
        have hroom : False → 0 < nrPages.toNat ∧ nrPages.toNat ≤ 0 :=
          False.elim
        exact (userArenaAlloc_triple hroom).mono
          (fun _ _ hpre => ⟨hpre, False.elim⟩) fun _ _ hafter => hafter.1
      exact reply_triple halloc fun _ _ hidle => ⟨hidle, trivial⟩
  | free start stop =>
    exact reply_triple userArenaFree_triple
      fun _ _ hidle => ⟨hidle, trivial⟩
  | release mm =>
    rcases hpermitted with rfl | rfl
    · exact reply_triple (ret_triple _) fun _ _ hidle => ⟨hidle, trivial⟩
    · exact reply_triple userArenaRelease_triple
        fun _ _ hidle => ⟨hidle, trivial⟩
  | finalize mm execHi sigreturn size =>
    rcases hpermitted with rfl | rfl
    · exact reply_triple (ret_triple _) fun _ _ hidle => ⟨hidle, trivial⟩
    · have hfinalize : poolProtocol.Triple thread (Idle thread)
          (userWxFinalize (some thread) execHi sigreturn size)
          fun _ => Idle thread := by
        refine Triple.fix (fun pool => pool.context thread) fun context => ?_
        exact userWxFinalize_triple.mono (fun _ _ hpre => hpre)
          fun _ _ hafter => hafter.1
      exact reply_triple hfinalize fun _ _ hidle => ⟨hidle, trivial⟩
  | store mm address =>
    exact reply_triple userStore_triple fun _ _ hidle => ⟨hidle, trivial⟩
  | load offset hdr fileSize extraStack =>
    exact reply_triple (loadFlatFile_triple hpermitted)
      fun _ _ hafter => hafter

/-- Initialization leaves an empty pool of 2048 pages. -/
theorem userPoolInit_inv {base size : Word}
    (hinit : userPoolInit base size = .ok pool) :
    PoolInv pool ∧ ∀ mm, pool.context mm = {} := by
  unfold userPoolInit at hinit
  split at hinit
  · cases hinit
  · next stop hstop =>
      split at hinit
      · cases hinit
      · next hchecks =>
          simp only [ne_eq, Bool.or_eq_true, decide_eq_true_eq, not_or,
            not_not] at hchecks
          obtain ⟨⟨⟨⟨hbase, hsize⟩, hend⟩, -⟩, -⟩ := hchecks
          obtain rfl := Except.ok.inj hinit
          subst hbase hsize hend
          refine ⟨⟨⟨rfl, rfl, rfl, rfl⟩, ?_, ?_, ?_, ?_, rfl, rfl, rfl, ?_, ?_,
            ?_⟩, fun _ => rfl⟩
          · exact fun id hid => absurd hid (Finset.notMem_empty id)
          · exact fun id hid => absurd hid (Finset.notMem_empty id)
          · intro page id
            simp
          · intro page
            simp [Bitmap.empty]
          · intro mm
            exact Pool.ContextOk.hidden rfl
              fun id hid => absurd hid.symm (Option.some_ne_none id)
          · exact fun page mm _ hzeroed =>
              absurd hzeroed.symm (Option.some_ne_none mm)
          · exact fun _ event hevent => absurd hevent List.not_mem_nil

def poolAfter (labels : List PoolLabel) : Option PoolConfig :=
  (userPoolInit userPoolStart userPoolSize).toOption.bind
    fun pool => (poolStart pool).exec poolCode labels

variable {labels : List PoolLabel} {after : PoolConfig}

theorem poolRun_of_poolAfter
    (hpermitted : ∀ label ∈ labels, Allowed PoolPermitted label)
    (hafter : poolAfter labels = some after) : PoolRun labels after :=
  ⟨⟨userPoolStart, userPoolSize, _, rfl, hafter⟩, hpermitted⟩

/-- A schedule that can be run to a configuration with a checked property. -/
theorem exists_poolRun {P : PoolConfig → Prop} [DecidablePred P]
    (hpermitted : ∀ label ∈ labels, Allowed PoolPermitted label)
    (hcheck : (poolAfter labels).any (fun config => decide (P config)) = true) :
    ∃ config, PoolRun labels config ∧ P config := by
  cases hafter : poolAfter labels with
  | none =>
    rw [hafter] at hcheck
    cases hcheck
  | some config =>
    rw [hafter] at hcheck
    exact ⟨config, poolRun_of_poolAfter hpermitted hafter,
      of_decide_eq_true hcheck⟩

/-- Every run keeps the invariant and every thread's promises. -/
theorem PoolRun.good (hrun : PoolRun labels after) :
    Good poolProtocol PoolPost after := by
  obtain ⟨base, size, pool, hinit, hexec⟩ := hrun.start
  obtain ⟨hinv, hcontext⟩ := userPoolInit_inv hinit
  have hstart : Good poolProtocol PoolPost (poolStart pool) := by
    refine Good.start hinv fun mm => ⟨.done, rfl, stable_poolPost, ?_⟩
    exact ⟨idle_of_empty (hcontext mm), trivial⟩
  exact (hstart.exec poolCode_correct hrun.permitted hexec).1

theorem PoolRun.inv (hrun : PoolRun labels after) : PoolInv after.shared :=
  hrun.good.inv

/-- Thread 0 reserves two pages, maps them and splits them after 128 bytes. -/
def splitSchedule : List PoolLabel :=
  .call 0 (.prepare (some 0) 8192#32) :: List.replicate 12 (.step 0 (some 0)) ++
  .call 0 (.alloc (some 0) 2#32) :: List.replicate 3 (.step 0 none) ++
  .call 0 (.finalize (some 0) 0x49700080#32 0x49700000#32 8#32) ::
    List.replicate 4 (.step 0 none)

/-- In every reachable state the owner table, the bitmaps and the counters
describe the live arenas: non-empty disjoint intervals inside the pool. -/
theorem poolRun_representation (hrun : PoolRun labels after) :
    (∀ id ∈ after.shared.live, 0 < (after.shared.heap id).reservedPages ∧
      (after.shared.heap id).first + (after.shared.heap id).reservedPages ≤
        2048) ∧
    (∀ left ∈ after.shared.live, ∀ right ∈ after.shared.live, left ≠ right →
      ∀ page, ¬ ((after.shared.heap left).Holds page ∧
        (after.shared.heap right).Holds page)) ∧
    (∀ page id, after.shared.owner page = some id ↔
      id ∈ after.shared.live ∧ (after.shared.heap id).Holds page) ∧
    (∀ page, after.shared.reserved page = true ↔
      after.shared.owner page ≠ none) ∧
    (∀ id ∈ after.shared.live,
      (∀ index, (after.shared.heap id).mapped index = true →
        index < (after.shared.heap id).reservedPages) ∧
      (after.shared.heap id).mappedPages =
        Set.ncard { index | (after.shared.heap id).mapped index = true }) ∧
    after.shared.reservedPages =
      ∑ id ∈ after.shared.live, (after.shared.heap id).reservedPages ∧
    after.shared.mappedPages =
      ∑ id ∈ after.shared.live, (after.shared.heap id).mappedPages ∧
    after.shared.arenas = after.shared.live.card := by
  have hinv := hrun.inv
  refine ⟨?_, ?_, hinv.owner, hinv.reserved, ?_, hinv.reserved_sum,
    hinv.mapped_sum, hinv.arenas_card⟩
  · intro id hlive
    exact ⟨(hinv.arena id hlive).reserved_pos, (hinv.arena id hlive).fits⟩
  · rintro left hleft right hright hne page ⟨hpageLeft, hpageRight⟩
    exact hne (hinv.holds_unique hleft hright hpageLeft hpageRight)
  · intro id hlive
    have hwf := hinv.arena id hlive
    refine ⟨hwf.mapped_lt, ?_⟩
    rw [hwf.mapped_count, Bitmap.weight_eq_ncard hwf.mapped_lt]

theorem splitSchedule_representation :
    ∃ after, PoolRun splitSchedule after ∧ after.shared.arenas = 1 ∧
      after.shared.arenas = after.shared.live.card := by
  have hcheck : ∃ after, PoolRun splitSchedule after ∧
      after.shared.arenas = 1 := exists_poolRun (by decide) (by decide +kernel)
  obtain ⟨after, hrun, harenas⟩ := hcheck
  obtain ⟨-, -, -, -, -, -, -, hcard⟩ := poolRun_representation hrun
  exact ⟨after, hrun, harenas, hcard⟩

/-- A byte inside valid bounds lies on a zeroed page of the mm's arena. -/
theorem PoolInv.published_page (hinv : PoolInv pool)
    (hvalid : (pool.context mm).userBoundsValid = true) {address : Nat}
    (hlo : (pool.context mm).userLo.toNat ≤ address)
    (hhi : address < (pool.context mm).userHi.toNat) :
    ∃ id page, (pool.context mm).userArena = some id ∧ (pool.heap id).mm = mm ∧
      pageBase page ≤ address ∧ address < pageBase (page + 1) ∧
      pool.owner page = some id ∧ pool.zeroedBy page = some mm := by
  obtain ⟨id, count, hpub⟩ := (hinv.context mm).bounds hvalid
  obtain ⟨hlive, hmm⟩ := (hinv.context mm).arena id hpub.arena
  rw [hpub.lo] at hlo
  rw [hpub.hi] at hhi
  obtain ⟨page, hfirst, hlast, hpage, hnext⟩ := page_of_address hlo hhi
  have hholds : (pool.heap id).Holds page :=
    ⟨hfirst, lt_of_lt_of_le hlast (Nat.add_le_add_left hpub.count_le _)⟩
  exact ⟨id, page, hpub.arena, hmm, hpage, hnext,
    hinv.owner_of_holds hlive hholds, hpub.zeroed page hfirst hlast⟩

/-- While the bounds of an mm are valid, each of their bytes lies on a page of
its arena that it has zeroed since the page was reserved, outside the bounds
of every other mm, and holds what nobody else wrote. -/
theorem poolRun_published_private (hrun : PoolRun labels after) {mm : Mm}
    (hvalid : (after.shared.context mm).userBoundsValid = true)
    {address : Nat}
    (hlo : (after.shared.context mm).userLo.toNat ≤ address)
    (hhi : address < (after.shared.context mm).userHi.toNat) :
    (∃ id page, (after.shared.context mm).userArena = some id ∧
      (after.shared.heap id).mm = mm ∧
      pageBase page ≤ address ∧ address < pageBase (page + 1) ∧
      after.shared.owner page = some id ∧
      after.shared.zeroedBy page = some mm) ∧
    (∀ other, other ≠ mm → (after.shared.context other).userBoundsValid = true →
      ¬ ((after.shared.context other).userLo.toNat ≤ address ∧
        address < (after.shared.context other).userHi.toNat)) ∧
    (after.shared.writer address = none ∨
      after.shared.writer address = some mm) := by
  have hinv := hrun.inv
  obtain ⟨id, page, harena, hmm, hpage, hnext, howner, hzeroed⟩ :=
    hinv.published_page hvalid hlo hhi
  refine ⟨⟨id, page, harena, hmm, hpage, hnext, howner, hzeroed⟩, ?_, ?_⟩
  · rintro other hne hother ⟨hotherLo, hotherHi⟩
    obtain ⟨_, _, -, -, hpage', hnext', -, hzeroed'⟩ :=
      hinv.published_page hother hotherLo hotherHi
    obtain rfl := page_unique hpage hnext hpage' hnext'
    exact hne (Option.some.inj (hzeroed'.symm.trans hzeroed))
  · have hholds := hinv.holds_of_owner howner
    have hfits := (hinv.arena id hholds.1).fits
    exact hinv.clean page mm (lt_of_lt_of_le hholds.2.2 hfits) hzeroed
      address hpage hnext

theorem splitSchedule_published_private : ∃ after, PoolRun splitSchedule after ∧
      (after.shared.context 0).userBoundsValid = true ∧
      (after.shared.writer 0x49701fff = none ∨
        after.shared.writer 0x49701fff = some 0) := by
  have hcheck : ∃ after, PoolRun splitSchedule after ∧
      (after.shared.context 0).userBoundsValid = true ∧
      (after.shared.context 0).userLo.toNat ≤ 0x49701fff ∧
      0x49701fff < (after.shared.context 0).userHi.toNat :=
    exists_poolRun (by decide) (by decide +kernel)
  obtain ⟨after, hrun, hvalid, hlo, hhi⟩ := hcheck
  obtain ⟨-, -, hwriter⟩ := poolRun_published_private hrun hvalid hlo hhi
  exact ⟨after, hrun, hvalid, hwriter⟩

/-- What the locked part of an allocation returns is the page range that it
records as mapped. -/
theorem allocSection_event {id : ArenaId} {nrPages : Nat} {address : Word}
    (haddress : (allocSection id nrPages pool).2.address = some address) :
    ∃ first, address = pool.pageAddress first ∧
      (allocSection id nrPages pool).1.events =
        .mapped (pool.heap id).mm first nrPages
          (pool.context (pool.heap id).mm) :: pool.events := by
  revert haddress
  dsimp only [allocSection]
  split
  · split
    · exact fun haddress => absurd haddress.symm (Option.some_ne_none address)
    · intro haddress
      refine ⟨_, (Option.some.inj haddress).symm, ?_⟩
      simp [Pool.mapPages, Pool.reserve, Pool.setOwner, Pool.setArena]
  · exact fun haddress => ⟨_, (Option.some.inj haddress).symm, rfl⟩

/-- Where no free takes text of a finalized mm away, and every split is
published with its text mapped, no allocation hands out text. -/
theorem poolRun_text_spared (hrun : PoolRun labels after)
    (hkept : after.shared.TextKept) :
    (∀ event ∈ after.shared.events, event.SparesText) ∧
    ∀ id nrPages address,
      (allocSection id nrPages after.shared).2.address = some address →
      ∃ first, address = after.shared.pageAddress first ∧
        (allocSection id nrPages after.shared).1.events =
          .mapped (after.shared.heap id).mm first nrPages
            (after.shared.context (after.shared.heap id).mm) ::
              after.shared.events :=
  ⟨hrun.inv.spared hkept, fun _ _ _ => allocSection_event⟩

/-- Thread 0 then unmaps its page of text and maps one page. -/
def reuseSchedule : List PoolLabel :=
  .call 0 (.free 0x49700000#32 0x49701000#32) ::
    List.replicate 2 (.step 0 none) ++
  .call 0 (.alloc (some 0) 1#32) :: List.replicate 3 (.step 0 none)

theorem reuseSchedule_returns_text :
    ∃ before after, PoolRun splitSchedule before ∧
      (before.thread 0).reply = some (.status (.ok ())) ∧
      before.exec poolCode reuseSchedule = some after ∧
      (after.thread 0).reply = some (.allocated ⟨some 0x49700000#32, false⟩) ∧
      (after.shared.context 0).Split ∧
      (after.shared.context 0).userLo = 0x49700000#32 ∧
      (after.shared.context 0).userExecHi = 0x49700080#32 := by
  have hcheck : ∃ before, PoolRun splitSchedule before ∧
      (before.thread 0).reply = some (.status (.ok ())) ∧
      (before.exec poolCode reuseSchedule).any (fun after => decide (
        (after.thread 0).reply = some (.allocated ⟨some 0x49700000#32, false⟩) ∧
        (after.shared.context 0).Split ∧
        (after.shared.context 0).userLo = 0x49700000#32 ∧
        (after.shared.context 0).userExecHi = 0x49700080#32)) = true :=
    exists_poolRun (by decide) (by decide +kernel)
  obtain ⟨before, hrun, hreply, hafter⟩ := hcheck
  obtain ⟨after, hexec, hholds⟩ := Option.any_eq_true _ _ |>.mp hafter
  exact ⟨before, after, hrun, hreply, hexec, of_decide_eq_true hholds⟩

theorem splitSchedule_text_spared :
    ∃ after, PoolRun splitSchedule after ∧ after.shared.TextKept ∧
      (after.shared.context 0).Split ∧
      ∀ event ∈ after.shared.events, event.SparesText := by
  have hcheck : ∃ after, PoolRun splitSchedule after ∧
      after.shared.TextKept ∧ (after.shared.context 0).Split :=
    exists_poolRun (by decide) (by decide +kernel)
  obtain ⟨after, hrun, hkept, hsplit⟩ := hcheck
  exact ⟨after, hrun, hkept, hsplit, (poolRun_text_spared hrun hkept).1⟩

end Micronux
