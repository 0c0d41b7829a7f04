/-
Threads that run indivisible actions on one shared state, and rely-guarantee
rules for their interleavings.  A program is a tree of atomic actions; a
machine interleaves one program per thread under an arbitrary schedule, and
starts a call only on a thread whose previous call has returned.
-/
import Mathlib.Logic.Relation
import Mathlib.Logic.Function.Basic

namespace Concurrent

/-- A sequential program over the shared state `S`.  An action runs without
interruption; it may consult a choice `E` of the environment and is blocked
while it evaluates to `none`. -/
inductive Prog (S E α : Type) : Type 1 where
  | ret (value : α)
  | act {β : Type} (run : E → S → Option (S × β)) (next : β → Prog S E α)

variable {S E T C α β : Type} {choice : E}

namespace Prog

def bind : Prog S E α → (α → Prog S E β) → Prog S E β
  | .ret value, rest => rest value
  | .act run next, rest => .act run fun result => (next result).bind rest

instance : Monad (Prog S E) where
  pure := .ret
  bind := .bind

@[simp] theorem pure_eq (value : α) :
    (pure value : Prog S E α) = .ret value := rfl

@[simp] theorem bind_eq (prog : Prog S E α) (rest : α → Prog S E β) :
    prog >>= rest = prog.bind rest := rfl

def reply : Prog S E α → Option α
  | .ret value => some value
  | .act _ _ => none

theorem eq_ret_of_reply {prog : Prog S E α} {value : α}
    (hreply : prog.reply = some value) : prog = .ret value := by
  cases prog with
  | ret result => exact congrArg Prog.ret (Option.some.inj hreply)
  | act run next => cases hreply

def atomic (run : E → S → Option (S × β)) : Prog S E β :=
  .act run .ret

def store (change : S → S) : Prog S E Unit :=
  atomic fun _ state => some (change state, ())

def load (view : S → β) : Prog S E β :=
  atomic fun _ state => some (state, view state)

/-- A critical section: its whole body is one action. -/
def critical (body : S → S × β) : Prog S E β :=
  atomic fun _ state => some (body state)

def ask (answer : E → β) : Prog S E β :=
  atomic fun choice state => some (state, answer choice)

/-- A store that waits for its guard. -/
def await (ready : S → Bool) (change : S → S) : Prog S E Unit :=
  atomic fun _ state => if ready state then some (change state, ()) else none

/-- What an await has done, if it ran. -/
theorem ready_of_await {ready : S → Bool} {change : S → S} {before after : S}
    {result : Unit} (hrun : (if ready before then some (change before, ())
      else none) = some (after, result)) :
    ready before = true ∧ after = change before := by
  cases hready : ready before with
  | false =>
    rw [hready, if_neg Bool.false_ne_true] at hrun
    cases hrun
  | true =>
    rw [hready, if_pos rfl] at hrun
    exact ⟨rfl, (congrArg Prod.fst (Option.some.inj hrun)).symm⟩

def forEach {ι : Type} (body : ι → Prog S E Unit) : List ι → Prog S E Unit
  | [] => .ret ()
  | item :: rest => (body item).bind fun _ => forEach body rest

/-- A conjunction that stops at the first check that fails. -/
def allOf : List (Prog S E Bool) → Prog S E Bool
  | [] => .ret true
  | check :: rest => check.bind fun passed =>
      if passed then allOf rest else .ret false

/-- Every action of the program changes the state only as `change` says. -/
def Within (change : S → S → Prop) : Prog S E α → Prop
  | .ret _ => True
  | .act run next =>
    (∀ choice before after result, run choice before = some (after, result) →
      change before after) ∧ ∀ result, (next result).Within change

namespace Within

variable {change : S → S → Prop}

theorem ret (value : α) : (Prog.ret value : Prog S E α).Within change :=
  trivial

theorem bind {prog : Prog S E α} {rest : α → Prog S E β}
    (hprog : prog.Within change) (hrest : ∀ value, (rest value).Within change) :
    (prog.bind rest).Within change := by
  induction prog with
  | ret value => exact hrest value
  | act run next ih => exact ⟨hprog.1, fun result => ih result (hprog.2 result)⟩

theorem mono {wider : S → S → Prop} {prog : Prog S E α}
    (hprog : prog.Within change)
    (hwider : ∀ before after, change before after → wider before after) :
    prog.Within wider := by
  induction prog with
  | ret value => exact trivial
  | act run next ih =>
    exact ⟨fun choice before after result hrun =>
      hwider before after (hprog.1 choice before after result hrun),
      fun result => ih result (hprog.2 result)⟩

theorem ite {condition : Prop} [Decidable condition] {left right : Prog S E α}
    (hleft : left.Within change) (hright : right.Within change) :
    (if condition then left else right).Within change := by
  split
  · exact hleft
  · exact hright

theorem atomic {run : E → S → Option (S × β)}
    (hrun : ∀ choice before after result,
      run choice before = some (after, result) → change before after) :
    (Prog.atomic run).Within change :=
  ⟨hrun, fun _ => trivial⟩

theorem critical {body : S → S × β}
    (hbody : ∀ state, change state (body state).1) :
    (Prog.critical body : Prog S E β).Within change := by
  apply Within.atomic
  intro _ before after result hrun
  have hresult : body before = (after, result) := Option.some.inj hrun
  have hchange := hbody before
  rw [hresult] at hchange
  exact hchange

theorem store {update : S → S} (hupdate : ∀ state, change state (update state)) :
    (Prog.store update : Prog S E Unit).Within change := by
  apply Within.atomic
  intro _ before after result hrun
  cases hrun
  exact hupdate before

theorem load (hrefl : ∀ state, change state state) (view : S → β) :
    (Prog.load view : Prog S E β).Within change := by
  apply Within.atomic
  intro _ before after result hrun
  cases hrun
  exact hrefl before

theorem ask (hrefl : ∀ state, change state state) (answer : E → β) :
    (Prog.ask answer : Prog S E β).Within change := by
  apply Within.atomic
  intro choice before after result hrun
  cases hrun
  exact hrefl before

theorem await {ready : S → Bool} {update : S → S}
    (hupdate : ∀ state, ready state = true → change state (update state)) :
    (Prog.await ready update : Prog S E Unit).Within change := by
  apply Within.atomic
  intro choice before after result hrun
  obtain ⟨hready, rfl⟩ := ready_of_await hrun
  exact hupdate before hready

theorem forEach {ι : Type} {body : ι → Prog S E Unit}
    (hbody : ∀ item, (body item).Within change) (items : List ι) :
    (Prog.forEach body items).Within change := by
  induction items with
  | nil => exact Within.ret ()
  | cons item rest ih => exact (hbody item).bind fun _ => ih

theorem allOf {checks : List (Prog S E Bool)}
    (hchecks : ∀ check ∈ checks, check.Within change) :
    (Prog.allOf checks).Within change := by
  induction checks with
  | nil => exact Within.ret true
  | cons check rest ih =>
    apply (hchecks check List.mem_cons_self).bind
    intro passed
    cases passed with
    | false => exact Within.ret false
    | true => exact ih fun other hother =>
        hchecks other (List.mem_cons_of_mem check hother)

end Within

/-- With this answer of the environment no action of the program is ever
blocked. -/
def Unblocked (choice : E) : Prog S E α → Prop
  | .ret _ => True
  | .act run next => (∀ state, (run choice state).isSome) ∧
      ∀ result, (next result).Unblocked choice

theorem Unblocked.bind {prog : Prog S E α} {rest : α → Prog S E β}
    (hprog : prog.Unblocked choice)
    (hrest : ∀ value, (rest value).Unblocked choice) :
    (prog.bind rest).Unblocked choice := by
  induction prog with
  | ret value => exact hrest value
  | act run next ih => exact ⟨hprog.1, fun result => ih result (hprog.2 result)⟩

theorem Unblocked.atomic {run : E → S → Option (S × β)}
    (hrun : ∀ state, (run choice state).isSome) :
    (Prog.atomic run).Unblocked choice :=
  ⟨hrun, fun _ => trivial⟩

theorem Unblocked.store (choice : E) (change : S → S) :
    (Prog.store change : Prog S E Unit).Unblocked choice :=
  .atomic fun _ => rfl

theorem Unblocked.load (choice : E) (view : S → β) :
    (Prog.load view : Prog S E β).Unblocked choice :=
  .atomic fun _ => rfl

theorem Unblocked.critical (choice : E) (body : S → S × β) :
    (Prog.critical body : Prog S E β).Unblocked choice :=
  .atomic fun _ => rfl

end Prog

/-- The shared state and what each thread has still to run. -/
structure Config (S E T α : Type) where
  shared : S
  thread : T → Prog S E α

/-- A schedule entry: thread `t` starts a call, or runs its next action. -/
inductive Label (T C E : Type) where
  | call (t : T) (request : C)
  | step (t : T) (choice : E)
deriving DecidableEq

variable {labels : List (Label T C E)}

section Machine

variable [DecidableEq T] (code : T → C → Prog S E α)

/-- One schedule entry, `none` where it cannot happen: a call on a thread
that is still running, or a step of a thread that is idle or blocked. -/
def Config.next (config : Config S E T α) :
    Label T C E → Option (Config S E T α)
  | .call t request =>
    match config.thread t with
    | .ret _ =>
      some { config with
        thread := Function.update config.thread t (code t request) }
    | .act _ _ => none
  | .step t choice =>
    match config.thread t with
    | .ret _ => none
    | .act run next =>
      (run choice config.shared).map fun out =>
        { shared := out.1
          thread := Function.update config.thread t (next out.2) }

def Config.exec (config : Config S E T α) :
    List (Label T C E) → Option (Config S E T α)
  | [] => some config
  | label :: rest => (config.next code label).bind fun after => after.exec rest

theorem Config.exec_append (config : Config S E T α)
    (first second : List (Label T C E)) :
    config.exec code (first ++ second) =
      (config.exec code first).bind fun mid => mid.exec code second := by
  induction first generalizing config with
  | nil => rfl
  | cons label rest ih =>
    simp only [List.cons_append, Config.exec]
    cases config.next code label with
    | none => rfl
    | some after => exact ih after

/-- What a single schedule entry can do. -/
theorem Config.next_cases {config after : Config S E T α}
    {label : Label T C E} (hnext : config.next code label = some after) :
    (∃ t request value, label = .call t request ∧
      config.thread t = .ret value ∧
      after = { config with
        thread := Function.update config.thread t (code t request) }) ∨
    (∃ t choice, ∃ (γ : Type) (run : E → S → Option (S × γ))
        (rest : γ → Prog S E α) (state : S) (result : γ),
      label = .step t choice ∧ config.thread t = .act run rest ∧
      run choice config.shared = some (state, result) ∧
      after = { shared := state
                thread := Function.update config.thread t (rest result) }) := by
  cases label with
  | call t request =>
    cases hthread : config.thread t with
    | ret value =>
      simp only [Config.next, hthread, Option.some.injEq] at hnext
      exact .inl ⟨t, request, value, rfl, hthread, hnext.symm⟩
    | act run rest =>
      simp only [Config.next, hthread, reduceCtorEq] at hnext
  | step t choice =>
    cases hthread : config.thread t with
    | ret value =>
      simp only [Config.next, hthread, reduceCtorEq] at hnext
    | @act γ run rest =>
      simp only [Config.next, hthread, Option.map_eq_some_iff] at hnext
      obtain ⟨⟨state, result⟩, hrun, hafter⟩ := hnext
      exact .inr ⟨t, choice, γ, run, rest, state, result, rfl, hthread,
        hrun, hafter.symm⟩

theorem Config.exec_unblocked
    (hcode : ∀ t request, (code t request).Unblocked choice)
    {config after : Config S E T α}
    (hconfig : ∀ t, (config.thread t).Unblocked choice)
    (hexec : config.exec code labels = some after) :
    ∀ t, (after.thread t).Unblocked choice := by
  induction labels generalizing config with
  | nil =>
    obtain rfl := Option.some.inj hexec
    exact hconfig
  | cons label rest ih =>
    obtain ⟨mid, hnext, hrest⟩ := Option.bind_eq_some_iff.mp hexec
    apply ih _ hrest
    intro other
    obtain ⟨t, request, value, rfl, hthread, rfl⟩ |
        ⟨t, answer, γ, run, tail, state, result, rfl, hthread, hrun, rfl⟩ :=
      Config.next_cases code hnext
    · by_cases hother : other = t
      · subst other
        simpa using hcode t request
      · simpa [hother] using hconfig other
    · by_cases hother : other = t
      · subst other
        have hunblocked := hconfig t
        rw [hthread] at hunblocked
        simpa using hunblocked.2 result
      · simpa [hother] using hconfig other

/-- A thread that is never blocked returns after finitely many of its own
actions. -/
theorem Config.exists_reply {config : Config S E T α} {t : T}
    (hthread : (config.thread t).Unblocked choice) :
    ∃ count after, config.exec code
        (List.replicate count (.step t choice)) = some after ∧
      ∃ value, (after.thread t).reply = some value := by
  generalize hprog : config.thread t = prog at hthread
  induction prog generalizing config with
  | ret value =>
    refine ⟨0, config, rfl, value, ?_⟩
    rw [hprog]
    rfl
  | act run next ih =>
    obtain ⟨⟨state, result⟩, hrun⟩ :=
      Option.isSome_iff_exists.mp (hthread.1 config.shared)
    have hnext : config.next code (.step t choice) =
        some { shared := state
               thread := Function.update config.thread t (next result) } := by
      simp only [Config.next, hprog, hrun, Option.map_some]
    have hself : (Config.mk state
        (Function.update config.thread t (next result))).thread t =
          next result := Function.update_self ..
    obtain ⟨count, after, hexec, hreply⟩ :=
      ih result hself (hthread.2 result)
    refine ⟨count + 1, after, ?_, hreply⟩
    rw [List.replicate_succ, Config.exec, hnext]
    exact hexec

end Machine

/-- What all threads agree on: an invariant of the shared state, and for each
thread the changes its actions may make. -/
structure Protocol (T S : Type) where
  inv : S → Prop
  guar : T → S → S → Prop

namespace Protocol

variable (protocol : Protocol T S)

/-- What thread `t` has to expect between two of its own actions. -/
def Rely (t : T) (before after : S) : Prop :=
  protocol.inv before ∧ protocol.inv after ∧
    ∃ other, other ≠ t ∧ protocol.guar other before after

/-- An assertion of thread `t` that the other threads cannot falsify. -/
def Stable (t : T) (assertion : S → Prop) : Prop :=
  ∀ ⦃before after⦄, protocol.Rely t before after →
    assertion before → assertion after

/-- The program keeps the protocol from `state` on, whatever the other threads
do in between, and returns only with its postcondition. -/
def Safe (t : T) (post : α → S → Prop) : Prog S E α → S → Prop
  | .ret value, state =>
    ∀ after, Relation.ReflTransGen (protocol.Rely t) state after →
      post value after
  | .act run next, state =>
    ∀ before, Relation.ReflTransGen (protocol.Rely t) state before →
      protocol.inv before →
      ∀ choice after result, run choice before = some (after, result) →
        protocol.inv after ∧ protocol.guar t before after ∧
          Safe t post (next result) after

/-- The program may start in any state with the precondition. -/
def Triple (t : T) (pre : S → Prop) (prog : Prog S E α)
    (post : α → S → Prop) : Prop :=
  ∀ state, protocol.inv state → pre state →
    protocol.Safe t post prog state

variable {protocol} {t : T}

theorem Stable.closure {assertion : S → Prop}
    (hstable : protocol.Stable t assertion) {before after : S}
    (hrely : Relation.ReflTransGen (protocol.Rely t) before after)
    (hbefore : assertion before) : assertion after := by
  induction hrely with
  | refl => exact hbefore
  | tail _ hstep ih => exact hstable hstep ih

theorem Stable.and {left right : S → Prop}
    (hleft : protocol.Stable t left) (hright : protocol.Stable t right) :
    protocol.Stable t fun state => left state ∧ right state :=
  fun _ _ hrely hboth => ⟨hleft hrely hboth.1, hright hrely hboth.2⟩

theorem Stable.const (fact : Prop) : protocol.Stable t fun _ => fact :=
  fun _ _ _ hfact => hfact

theorem Stable.exists {ι : Sort*} {assertion : ι → S → Prop}
    (hstable : ∀ index, protocol.Stable t (assertion index)) :
    protocol.Stable t fun state => ∃ index, assertion index state :=
  fun _ _ hrely ⟨index, hindex⟩ => ⟨index, hstable index hrely hindex⟩

theorem Stable.imp {fact : Prop} {assertion : S → Prop}
    (hstable : protocol.Stable t assertion) :
    protocol.Stable t fun state => fact → assertion state :=
  fun _ _ hrely himp hfact => hstable hrely (himp hfact)

/-- Interference before the next own action does no harm. -/
theorem Safe.of_rely {post : α → S → Prop} {prog : Prog S E α}
    {before after : S} (hsafe : protocol.Safe t post prog before)
    (hrely : Relation.ReflTransGen (protocol.Rely t) before after) :
    protocol.Safe t post prog after := by
  cases prog with
  | ret value => exact fun final hfinal => hsafe final (hrely.trans hfinal)
  | act run next => exact fun mid hmid => hsafe mid (hrely.trans hmid)

theorem Safe.bind {mid : α → S → Prop} {post : β → S → Prop}
    {prog : Prog S E α} {rest : α → Prog S E β} {state : S}
    (hsafe : protocol.Safe t mid prog state) (hinv : protocol.inv state)
    (hrest : ∀ value, protocol.Triple t (mid value) (rest value) post) :
    protocol.Safe t post (prog.bind rest) state := by
  induction prog generalizing state with
  | ret value =>
    exact hrest value state hinv (hsafe state Relation.ReflTransGen.refl)
  | act run next ih =>
    intro before hbefore hinvBefore choice after result hrun
    obtain ⟨hinvAfter, hguar, hnext⟩ :=
      hsafe before hbefore hinvBefore choice after result hrun
    exact ⟨hinvAfter, hguar, ih result hnext hinvAfter⟩

theorem Safe.mono {weak strong : α → S → Prop} {prog : Prog S E α} {state : S}
    (hsafe : protocol.Safe t strong prog state)
    (hpost : ∀ value after, strong value after → weak value after) :
    protocol.Safe t weak prog state := by
  induction prog generalizing state with
  | ret value => exact fun after hafter => hpost value after (hsafe after hafter)
  | act run next ih =>
    intro before hbefore hinvBefore choice after result hrun
    obtain ⟨hinvAfter, hguar, hnext⟩ :=
      hsafe before hbefore hinvBefore choice after result hrun
    exact ⟨hinvAfter, hguar, ih result hnext⟩

namespace Triple

variable {pre : S → Prop}

theorem ret {post : α → S → Prop} {value : α}
    (hstable : protocol.Stable t (post value))
    (hpost : ∀ state, protocol.inv state → pre state → post value state) :
    protocol.Triple t pre (.ret value : Prog S E α) post :=
  fun state hinv hpre _ hrely => hstable.closure hrely (hpost state hinv hpre)

theorem bind {mid : α → S → Prop} {post : β → S → Prop}
    {prog : Prog S E α} {rest : α → Prog S E β}
    (hprog : protocol.Triple t pre prog mid)
    (hrest : ∀ value, protocol.Triple t (mid value) (rest value) post) :
    protocol.Triple t pre (prog.bind rest) post :=
  fun state hinv hpre => (hprog state hinv hpre).bind hinv hrest

theorem mono {pre' : S → Prop} {strong weak : α → S → Prop}
    {prog : Prog S E α} (hprog : protocol.Triple t pre prog strong)
    (hpre : ∀ state, protocol.inv state → pre' state → pre state)
    (hpost : ∀ value after, strong value after → weak value after) :
    protocol.Triple t pre' prog weak :=
  fun state hinv hstart =>
    (hprog state hinv (hpre state hinv hstart)).mono hpost

/-- A part of the precondition that does not depend on the state. -/
theorem assume {fact : Prop} {post : α → S → Prop} {prog : Prog S E α}
    (hprog : fact → protocol.Triple t pre prog post) :
    protocol.Triple t (fun state => pre state ∧ fact) prog post :=
  fun state hinv hpre => hprog hpre.2 state hinv hpre.1

/-- A name for what the precondition's state looks like. -/
theorem fix {γ : Type} {post : α → S → Prop} {prog : Prog S E α}
    (view : S → γ)
    (hprog : ∀ seen, protocol.Triple t
      (fun state => pre state ∧ view state = seen) prog post) :
    protocol.Triple t pre prog post :=
  fun state hinv hpre => hprog (view state) state hinv ⟨hpre, rfl⟩

/-- The rule for one action: its precondition is stable, and the action
itself keeps the invariant and the guarantee. -/
theorem atomic {post : β → S → Prop} {run : E → S → Option (S × β)}
    (hpre : protocol.Stable t pre)
    (hpost : ∀ result, protocol.Stable t (post result))
    (hrun : ∀ choice before after result, protocol.inv before → pre before →
      run choice before = some (after, result) →
      protocol.inv after ∧ protocol.guar t before after ∧
        post result after) :
    protocol.Triple t pre (Prog.atomic run) post := by
  intro state _ hstart before hrely hinv choice after result hresult
  obtain ⟨hinvAfter, hguar, hafter⟩ :=
    hrun choice before after result hinv (hpre.closure hrely hstart) hresult
  exact ⟨hinvAfter, hguar,
    fun final hfinal => (hpost result).closure hfinal hafter⟩

theorem store {post : S → Prop} {change : S → S}
    (hpre : protocol.Stable t pre) (hpost : protocol.Stable t post)
    (hchange : ∀ state, protocol.inv state → pre state →
      protocol.inv (change state) ∧ protocol.guar t state (change state) ∧
        post (change state)) :
    protocol.Triple t pre (Prog.store change : Prog S E Unit)
      fun _ => post := by
  refine atomic hpre (fun _ => hpost) ?_
  rintro _ before after result hinv hbefore hrun
  cases hrun
  exact hchange before hinv hbefore

theorem load {post : β → S → Prop} {view : S → β}
    (hrefl : ∀ state, protocol.guar t state state)
    (hpre : protocol.Stable t pre)
    (hpost : ∀ value, protocol.Stable t (post value))
    (hview : ∀ state, protocol.inv state → pre state →
      post (view state) state) :
    protocol.Triple t pre (Prog.load view : Prog S E β) post := by
  refine atomic hpre hpost ?_
  rintro _ before after result hinv hbefore hrun
  cases hrun
  exact ⟨hinv, hrefl before, hview before hinv hbefore⟩

theorem critical {post : β → S → Prop} {body : S → S × β}
    (hpre : protocol.Stable t pre)
    (hpost : ∀ result, protocol.Stable t (post result))
    (hbody : ∀ state, protocol.inv state → pre state →
      protocol.inv (body state).1 ∧ protocol.guar t state (body state).1 ∧
        post (body state).2 (body state).1) :
    protocol.Triple t pre (Prog.critical body : Prog S E β) post := by
  refine atomic hpre hpost ?_
  rintro _ before after result hinv hbefore hrun
  have hresult : body before = (after, result) := Option.some.inj hrun
  have hkept := hbody before hinv hbefore
  rw [hresult] at hkept
  exact hkept

theorem await {post : S → Prop} {ready : S → Bool} {change : S → S}
    (hpre : protocol.Stable t pre) (hpost : protocol.Stable t post)
    (hchange : ∀ state, protocol.inv state → pre state → ready state = true →
      protocol.inv (change state) ∧ protocol.guar t state (change state) ∧
        post (change state)) :
    protocol.Triple t pre (Prog.await ready change : Prog S E Unit)
      fun _ => post := by
  apply atomic hpre (fun _ => hpost)
  intro _ before after result hinv hbefore hrun
  obtain ⟨hready, rfl⟩ := Prog.ready_of_await hrun
  exact hchange before hinv hbefore hready

theorem ask {answer : E → β} (hrefl : ∀ state, protocol.guar t state state)
    (hpre : protocol.Stable t pre) :
    protocol.Triple t pre (Prog.ask answer : Prog S E β) fun value state =>
      pre state ∧ ∃ choice, answer choice = value := by
  apply atomic hpre (fun _ => hpre.and (Stable.const _))
  intro choice before after result hinv hbefore hrun
  cases hrun
  exact ⟨hinv, hrefl before, hbefore, choice, rfl⟩

theorem forEach {ι : Type} {body : ι → Prog S E Unit} {items : List ι}
    (progress : List ι → S → Prop)
    (hpost : protocol.Stable t (progress items))
    (hbody : ∀ done item rest, items = done ++ item :: rest →
      protocol.Triple t (progress done) (body item)
        fun _ => progress (done ++ [item])) :
    protocol.Triple t (progress []) (Prog.forEach body items)
      fun _ => progress items := by
  have hloop : ∀ rest done, items = done ++ rest →
      protocol.Triple t (progress done) (Prog.forEach body rest)
        fun _ => progress items := by
    intro rest
    induction rest with
    | nil =>
      intro done hitems
      rw [List.append_nil] at hitems
      subst hitems
      exact Triple.ret hpost fun _ _ hdone => hdone
    | cons item tail ih =>
      intro done hitems
      apply (hbody done item tail hitems).bind
      intro _
      apply ih
      rw [hitems, List.append_assoc]
      rfl
  exact hloop items [] rfl

/-- Checks that all keep an assertion. -/
theorem allOf {checks : List (Prog S E Bool)} (hpre : protocol.Stable t pre)
    (hchecks : ∀ check ∈ checks, protocol.Triple t pre check fun _ => pre) :
    protocol.Triple t pre (Prog.allOf checks) fun _ => pre := by
  induction checks with
  | nil => exact Triple.ret hpre fun _ _ hstart => hstart
  | cons check rest ih =>
    obtain ⟨hcheck, hrest⟩ := List.forall_mem_cons.mp hchecks
    apply hcheck.bind
    intro passed
    cases passed with
    | false => exact Triple.ret hpre fun _ _ hstart => hstart
    | true => exact ih hrest

/-- A check that is passed with a fact for the later ones. -/
theorem allOf_cons {mid post failed : S → Prop} {check : Prog S E Bool}
    {rest : List (Prog S E Bool)} (hfailed : protocol.Stable t failed)
    (hcheck : protocol.Triple t pre check fun passed state =>
      if passed then mid state else failed state)
    (hrest : protocol.Triple t mid (Prog.allOf rest) fun passed state =>
      if passed then post state else failed state) :
    protocol.Triple t pre (Prog.allOf (check :: rest)) fun passed state =>
      if passed then post state else failed state := by
  apply hcheck.bind
  intro passed
  cases passed with
  | false => exact Triple.ret hfailed fun _ _ => id
  | true => exact hrest

theorem allOf_nil {post failed : S → Prop} (hpost : protocol.Stable t post) :
    protocol.Triple t post (Prog.allOf [] : Prog S E Bool)
      fun passed state => if passed then post state else failed state :=
  Triple.ret hpost fun _ _ => id

/-- Checks of which one establishes a fact that the later ones keep. -/
theorem allOf_establishes {fact : S → Prop} {check : Prog S E Bool}
    {first last : List (Prog S E Bool)} (hpre : protocol.Stable t pre)
    (hfact : protocol.Stable t fact)
    (hfirst : ∀ other ∈ first, protocol.Triple t pre other fun _ => pre)
    (hcheck : protocol.Triple t pre check fun passed state =>
      pre state ∧ (passed = true → fact state))
    (hlast : ∀ other ∈ last, protocol.Triple t
      (fun state => pre state ∧ fact state) other fun _ state =>
        pre state ∧ fact state) :
    protocol.Triple t pre (Prog.allOf (first ++ check :: last))
      fun passed state => pre state ∧ (passed = true → fact state) := by
  have hfailed : protocol.Triple t pre (.ret false : Prog S E Bool)
      fun passed state => pre state ∧ (passed = true → fact state) :=
    Triple.ret (hpre.and hfact.imp) fun _ _ hstart =>
      ⟨hstart, fun hpassed => absurd hpassed Bool.false_ne_true⟩
  induction first with
  | nil =>
    apply hcheck.bind
    intro passed
    cases passed with
    | false => exact hfailed.mono (fun _ _ hstart => hstart.1) fun _ _ => id
    | true =>
      exact (Triple.allOf (hpre.and hfact) hlast).mono
        (fun _ _ hstart => ⟨hstart.1, hstart.2 rfl⟩)
        fun _ _ hboth => ⟨hboth.1, fun _ => hboth.2⟩
  | cons other rest ih =>
    obtain ⟨hother, hrest⟩ := List.forall_mem_cons.mp hfirst
    apply hother.bind
    intro passed
    cases passed with
    | false => exact hfailed
    | true => exact ih hrest

/-- A program whose actions all stay within a change that is harmless where
the precondition holds. -/
theorem within_pre {change : S → S → Prop} {prog : Prog S E α}
    (hprog : prog.Within change) (hpre : protocol.Stable t pre)
    (hstep : ∀ before after, change before after → protocol.inv before →
      pre before → protocol.inv after ∧ protocol.guar t before after ∧
        pre after) :
    protocol.Triple t pre prog fun _ => pre := by
  induction prog with
  | ret value => exact Triple.ret hpre fun _ _ hstart => hstart
  | act run next ih =>
    intro state _ hstart before hrely hinvBefore choice after result hrun
    obtain ⟨hinvAfter, hguar, hafter⟩ := hstep before after
      (hprog.1 choice before after result hrun) hinvBefore
      (hpre.closure hrely hstart)
    exact ⟨hinvAfter, hguar, ih result (hprog.2 result) after hinvAfter hafter⟩

/-- A program whose actions all stay within a change that the protocol and
the precondition do not notice. -/
theorem within {change : S → S → Prop} {prog : Prog S E α}
    (hprog : prog.Within change) (hpre : protocol.Stable t pre)
    (hinv : ∀ before after, change before after →
      protocol.inv before → protocol.inv after)
    (hguar : ∀ before after, change before after → protocol.inv before →
      pre before → protocol.guar t before after)
    (hkept : ∀ before after, change before after → pre before → pre after) :
    protocol.Triple t pre prog fun _ => pre :=
  within_pre hprog hpre fun before after hchange hinvBefore hbefore =>
    ⟨hinv before after hchange hinvBefore,
      hguar before after hchange hinvBefore hbefore,
      hkept before after hchange hbefore⟩

/-- What a program's own actions and the other threads keep may be added to
its precondition and its postcondition. -/
theorem frame {change : S → S → Prop} {frame : S → Prop}
    {post : α → S → Prop} {prog : Prog S E α}
    (hprog : protocol.Triple t pre prog post) (hwithin : prog.Within change)
    (hstable : protocol.Stable t frame)
    (hkept : ∀ before after, change before after → frame before →
      frame after) :
    protocol.Triple t (fun state => pre state ∧ frame state) prog
      fun value state => post value state ∧ frame state := by
  have hsafe : ∀ state, protocol.Safe t post prog state → frame state →
      protocol.Safe t (fun value state => post value state ∧ frame state)
        prog state := by
    clear hprog
    induction prog with
    | ret value =>
      intro state hsafe hframe after hrely
      exact ⟨hsafe after hrely, hstable.closure hrely hframe⟩
    | act run next ih =>
      intro state hsafe hframe before hrely hinv choice after result hrun
      obtain ⟨hinvAfter, hguar, hnext⟩ :=
        hsafe before hrely hinv choice after result hrun
      exact ⟨hinvAfter, hguar, ih result (hwithin.2 result) after hnext
        (hkept before after (hwithin.1 choice before after result hrun)
          (hstable.closure hrely hframe))⟩
  exact fun state hinv hpre => hsafe state (hprog state hinv hpre.1) hpre.2

end Triple

section Soundness

variable {code : T → C → Prog S E α} {post : T → α → S → Prop}

/-- The invariant holds and every thread is safe in what it has left. -/
structure Good (protocol : Protocol T S) (post : T → α → S → Prop)
    (config : Config S E T α) : Prop where
  inv : protocol.inv config.shared
  safe : ∀ t, protocol.Safe t (post t) (config.thread t) config.shared

/-- A change of the shared state that some thread may make. -/
def Change (protocol : Protocol T S) (before after : S) : Prop :=
  protocol.inv before ∧ protocol.inv after ∧
    ∃ t, protocol.guar t before after

/-- The calls of a schedule that the rest of the system makes. -/
def Allowed (permitted : T → C → Prop) : Label T C E → Prop
  | .call t request => permitted t request
  | .step _ _ => True

instance {permitted : T → C → Prop}
    [∀ t request, Decidable (permitted t request)] :
    (label : Label T C E) → Decidable (Allowed permitted label)
  | .call t request => inferInstanceAs (Decidable (permitted t request))
  | .step _ _ => .isTrue trivial

/-- Where every call is permitted, every schedule is. -/
theorem allowed_always (labels : List (Label T C E)) :
    ∀ label ∈ labels, Allowed (fun _ _ => True) label := by
  intro label _
  cases label with
  | call t request => trivial
  | step t choice => trivial

/-- Each call may start wherever the previous call of its thread returned. -/
def Correct (protocol : Protocol T S) (post : T → α → S → Prop)
    (permitted : T → C → Prop) (code : T → C → Prog S E α) : Prop :=
  ∀ t request, permitted t request →
    protocol.Triple t (fun state => ∃ value, post t value state)
      (code t request) (post t)

variable {permitted : T → C → Prop}

theorem Good.idle {config : Config S E T α} (hgood : Good protocol post config)
    {t : T} {value : α} (hthread : config.thread t = .ret value) :
    post t value config.shared := by
  have hsafe := hgood.safe t
  rw [hthread] at hsafe
  exact hsafe config.shared Relation.ReflTransGen.refl

/-- A system starts well when every thread is idle. -/
theorem Good.start {config : Config S E T α} (hinv : protocol.inv config.shared)
    (hthread : ∀ t, ∃ value, config.thread t = .ret value ∧
      protocol.Stable t (post t value) ∧ post t value config.shared) :
    Good protocol post config := by
  refine ⟨hinv, ?_⟩
  intro t
  obtain ⟨value, hret, hstable, hpost⟩ := hthread t
  rw [hret]
  exact fun after hrely => hstable.closure hrely hpost

variable [DecidableEq T]

/-- One schedule entry keeps every thread safe, and changes the shared state
only as the protocol allows. -/
theorem Good.next (hcode : Correct protocol post permitted code)
    {config after : Config S E T α} {label : Label T C E}
    (hgood : Good protocol post config) (hallowed : Allowed permitted label)
    (hnext : config.next code label = some after) :
    Good protocol post after ∧
      (after.shared = config.shared ∨
        Change protocol config.shared after.shared) := by
  obtain ⟨t, request, value, rfl, hthread, rfl⟩ |
      ⟨t, choice, γ, run, rest, state, result, rfl, hthread, hrun, rfl⟩ :=
    Config.next_cases code hnext
  · refine ⟨⟨hgood.inv, ?_⟩, .inl rfl⟩
    intro other
    by_cases hother : other = t
    · subst other
      simpa using hcode t request hallowed config.shared hgood.inv
        ⟨value, hgood.idle hthread⟩
    · simpa [hother] using hgood.safe other
  · have hsafe := hgood.safe t
    rw [hthread] at hsafe
    obtain ⟨hinv, hguar, hrest⟩ := hsafe config.shared
      Relation.ReflTransGen.refl hgood.inv choice state result hrun
    refine ⟨⟨hinv, ?_⟩, .inr ⟨hgood.inv, hinv, t, hguar⟩⟩
    intro other
    by_cases hother : other = t
    · subst other
      simpa using hrest
    · -- to every other thread the action is a step of its environment
      have hrely : protocol.Rely other config.shared state :=
        ⟨hgood.inv, hinv, t, Ne.symm hother, hguar⟩
      simpa [hother] using
        (hgood.safe other).of_rely (Relation.ReflTransGen.single hrely)

/-- Every schedule keeps every thread safe. -/
theorem Good.exec (hcode : Correct protocol post permitted code)
    {config after : Config S E T α} (hgood : Good protocol post config)
    (hallowed : ∀ label ∈ labels, Allowed permitted label)
    (hexec : config.exec code labels = some after) :
    Good protocol post after ∧
      Relation.ReflTransGen (Change protocol) config.shared after.shared := by
  induction labels generalizing config with
  | nil =>
    simp only [Config.exec, Option.some.injEq] at hexec
    subst after
    exact ⟨hgood, Relation.ReflTransGen.refl⟩
  | cons label rest ih =>
    simp only [Config.exec, Option.bind_eq_some_iff] at hexec
    obtain ⟨mid, hnext, hrest⟩ := hexec
    obtain ⟨hmid, hchange⟩ :=
      hgood.next hcode (hallowed label List.mem_cons_self) hnext
    obtain ⟨hafter, htail⟩ := ih hmid
      (fun entry hentry => hallowed entry (List.mem_cons_of_mem label hentry))
      hrest
    refine ⟨hafter, ?_⟩
    rcases hchange with hsame | hchange
    · rw [← hsame]
      exact htail
    · exact htail.head hchange

/-- The invariant rule: calls that keep the protocol wherever they start keep
its invariant over every schedule from idle threads. -/
theorem inv_of_exec
    (hcode : ∀ t request, protocol.Triple t (fun _ => True) (code t request)
      fun _ _ => True) {config after : Config S E T α}
    (hexec : config.exec code labels = some after)
    (hinv : protocol.inv config.shared)
    (hidle : ∀ t, ∃ value, config.thread t = .ret value) :
    protocol.inv after.shared := by
  have hcorrect : Correct protocol (fun _ _ _ => True) (fun _ _ => True)
      code := by
    intro t request _
    exact (hcode t request).mono (fun _ _ _ => trivial) fun _ _ => id
  have hgood : Good protocol (fun _ _ _ => True) config := by
    apply Good.start hinv
    intro t
    obtain ⟨value, hret⟩ := hidle t
    exact ⟨value, hret, .const True, trivial⟩
  exact (hgood.exec hcorrect (allowed_always labels) hexec).1.inv

end Soundness

end Protocol

end Concurrent
