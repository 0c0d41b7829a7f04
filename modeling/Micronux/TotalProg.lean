/-
Programs none of whose actions is ever blocked, and programs that stop with a
reason at their first failure.
-/
import Micronux.RelyGuarantee

namespace Concurrent

variable {S E T C ε α β : Type}

namespace Prog

/-- No action of the program is ever blocked, and all of them stay within the
change. -/
def Steady (change : S → S → Prop) : Prog S E α → Prop
  | .ret _ => True
  | .act run next =>
    (∀ choice before, ∃ after result,
      run choice before = some (after, result) ∧ change before after) ∧
    ∀ result, (next result).Steady change

def total (body : E → S → S × β) : Prog S E β :=
  atomic fun choice state => some (body choice state)

namespace Steady

variable {change : S → S → Prop}

theorem ret (value : α) : (Prog.ret value : Prog S E α).Steady change :=
  trivial

theorem total {body : E → S → S × β}
    (hbody : ∀ choice state, change state (body choice state).1) :
    (Prog.total body).Steady change :=
  ⟨fun choice state => ⟨_, _, rfl, hbody choice state⟩, fun _ => trivial⟩

theorem store {update : S → S} (hupdate : ∀ state, change state (update state)) :
    (Prog.store update : Prog S E Unit).Steady change :=
  ⟨fun _ state => ⟨_, _, rfl, hupdate state⟩, fun _ => trivial⟩

theorem load (hrefl : ∀ state, change state state) (view : S → β) :
    (Prog.load view : Prog S E β).Steady change :=
  ⟨fun _ state => ⟨_, _, rfl, hrefl state⟩, fun _ => trivial⟩

theorem ask (hrefl : ∀ state, change state state) (answer : E → β) :
    (Prog.ask answer : Prog S E β).Steady change :=
  ⟨fun _ state => ⟨_, _, rfl, hrefl state⟩, fun _ => trivial⟩

theorem bind {prog : Prog S E α} {rest : α → Prog S E β}
    (hprog : prog.Steady change) (hrest : ∀ value, (rest value).Steady change) :
    (prog.bind rest).Steady change := by
  induction prog with
  | ret value => exact hrest value
  | act run next ih => exact ⟨hprog.1, fun result => ih result (hprog.2 result)⟩

theorem ite {condition : Prop} [Decidable condition] {left right : Prog S E α}
    (hleft : condition → left.Steady change)
    (hright : ¬ condition → right.Steady change) :
    (if condition then left else right).Steady change := by
  split
  · next hholds => exact hleft hholds
  · next hfails => exact hright hfails

theorem allOf {checks : List (Prog S E Bool)}
    (hchecks : ∀ check ∈ checks, check.Steady change) :
    (Prog.allOf checks).Steady change := by
  induction checks with
  | nil => exact ret true
  | cons check rest ih =>
    obtain ⟨hcheck, hrest⟩ := List.forall_mem_cons.mp hchecks
    exact hcheck.bind fun _ => ite (fun _ => ih hrest) fun _ => ret false

theorem mono {wider : S → S → Prop} {prog : Prog S E α}
    (hprog : prog.Steady change)
    (hwider : ∀ before after, change before after → wider before after) :
    prog.Steady wider := by
  induction prog with
  | ret value => exact trivial
  | act run next ih =>
    refine ⟨fun choice before => ?_, fun result => ih result (hprog.2 result)⟩
    obtain ⟨after, result, hrun, hchange⟩ := hprog.1 choice before
    exact ⟨after, result, hrun, hwider before after hchange⟩

theorem within {prog : Prog S E α} (hprog : prog.Steady change) :
    prog.Within change := by
  induction prog with
  | ret value => exact trivial
  | act run next ih =>
    refine ⟨fun choice before after result hrun => ?_,
      fun result => ih result (hprog.2 result)⟩
    obtain ⟨other, value, hother, hchange⟩ := hprog.1 choice before
    obtain ⟨rfl, -⟩ := Prod.mk.inj (Option.some.inj (hrun.symm.trans hother))
    exact hchange

theorem unblocked {prog : Prog S E α} (hprog : prog.Steady change)
    (choice : E) : prog.Unblocked choice := by
  induction prog with
  | ret value => exact trivial
  | act run next ih =>
    refine ⟨fun state => ?_, fun result => ih result (hprog.2 result)⟩
    obtain ⟨after, value, hrun, -⟩ := hprog.1 choice state
    rw [hrun]
    rfl

end Steady

end Prog

theorem Protocol.Triple.total {protocol : Protocol T S} {t : T}
    {pre : S → Prop} {post : β → S → Prop} {body : E → S → S × β}
    (hpre : protocol.Stable t pre)
    (hpost : ∀ result, protocol.Stable t (post result))
    (hbody : ∀ choice state, protocol.inv state → pre state →
      protocol.inv (body choice state).1 ∧
        protocol.guar t state (body choice state).1 ∧
        post (body choice state).2 (body choice state).1) :
    protocol.Triple t pre (Prog.total body) post := by
  apply Protocol.Triple.atomic hpre hpost
  intro choice before after result hinv hbefore hrun
  have hresult : body choice before = (after, result) := Option.some.inj hrun
  have hkept := hbody choice before hinv hbefore
  rw [hresult] at hkept
  exact hkept

/-- A program that stops with a reason at its first failure. -/
abbrev Attempt (S E ε α : Type) : Type 1 := ExceptT ε (Prog S E) α

namespace Attempt

def lift (prog : Prog S E α) : Attempt S E ε α :=
  ExceptT.mk (prog.bind fun value => .ret (.ok value))

def check (reason : ε) (prog : Prog S E Bool) : Attempt S E ε Unit :=
  ExceptT.mk (prog.bind fun passed =>
    .ret (if passed then .ok () else .error reason))

section Steady

variable {change : S → S → Prop}

theorem steady_pure (value : α) :
    (pure value : Attempt S E ε α).run.Steady change :=
  trivial

theorem steady_throw (reason : ε) :
    (throw reason : Attempt S E ε α).run.Steady change :=
  trivial

theorem steady_lift {prog : Prog S E α} (hprog : prog.Steady change) :
    (lift prog : Attempt S E ε α).run.Steady change :=
  hprog.bind fun _ => .ret _

theorem steady_check {prog : Prog S E Bool} (reason : ε)
    (hprog : prog.Steady change) : (check reason prog).run.Steady change :=
  hprog.bind fun _ => .ret _

theorem steady_ite {condition : Prop} [Decidable condition]
    {left right : Attempt S E ε α}
    (hleft : condition → left.run.Steady change)
    (hright : ¬ condition → right.run.Steady change) :
    (if condition then left else right).run.Steady change :=
  Prog.Steady.ite hleft hright

theorem steady_bind {first : Attempt S E ε α} {rest : α → Attempt S E ε β}
    (hfirst : first.run.Steady change)
    (hrest : ∀ value, (rest value).run.Steady change) :
    (first >>= rest).run.Steady change := by
  apply Prog.Steady.bind hfirst
  intro result
  cases result with
  | ok value => exact hrest value
  | error reason => exact .ret _

end Steady

/-- How an attempt may end: with a result, or with a reason. -/
def Ends (post : α → S → Prop) (stopped : S → Prop) : Except ε α → S → Prop
  | .ok value => post value
  | .error _ => stopped

theorem triple_bind {protocol : Protocol T S} {t : T} {pre stopped : S → Prop}
    {mid : α → S → Prop} {post : β → S → Prop} {first : Attempt S E ε α}
    {rest : α → Attempt S E ε β} (hstopped : protocol.Stable t stopped)
    (hfirst : protocol.Triple t pre first.run (Ends mid stopped))
    (hrest : ∀ value,
      protocol.Triple t (mid value) (rest value).run (Ends post stopped)) :
    protocol.Triple t pre (first >>= rest).run (Ends post stopped) := by
  apply Protocol.Triple.bind hfirst
  intro result
  cases result with
  | ok value => exact hrest value
  | error reason => exact .ret hstopped fun _ _ hstart => hstart

section Triples

variable {protocol : Protocol T S} {t : T} {pre stopped : S → Prop}

theorem triple_pure {post : α → S → Prop} {value : α}
    (hstable : protocol.Stable t (post value))
    (hpost : ∀ state, protocol.inv state → pre state → post value state) :
    protocol.Triple t pre (pure value : Attempt S E ε α).run
      (Ends post stopped) :=
  .ret hstable hpost

theorem triple_throw {post : α → S → Prop} {reason : ε}
    (hstopped : protocol.Stable t stopped)
    (hpre : ∀ state, protocol.inv state → pre state → stopped state) :
    protocol.Triple t pre (throw reason : Attempt S E ε α).run
      (Ends post stopped) :=
  .ret hstopped hpre

theorem triple_lift {post : α → S → Prop} {prog : Prog S E α}
    (hpost : ∀ value, protocol.Stable t (post value))
    (hprog : protocol.Triple t pre prog post) :
    protocol.Triple t pre (lift prog : Attempt S E ε α).run
      (Ends post stopped) :=
  hprog.bind fun value => .ret (hpost value) fun _ _ => id

theorem triple_check {post : S → Prop} {prog : Prog S E Bool} {reason : ε}
    (hpost : protocol.Stable t post) (hstopped : protocol.Stable t stopped)
    (hprog : protocol.Triple t pre prog fun passed state =>
      if passed then post state else stopped state) :
    protocol.Triple t pre (check reason prog).run
      (Ends (fun _ => post) stopped) := by
  apply hprog.bind
  intro passed
  cases passed with
  | true => exact .ret hpost fun _ _ => id
  | false => exact .ret hstopped fun _ _ => id

end Triples

end Attempt

end Concurrent
