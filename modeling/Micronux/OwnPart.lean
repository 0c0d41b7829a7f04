/-
Programs over a part of the state that belongs to one thread: what holds of
such a program on its own holds of it in every interleaving.  On its own a
program of calls that may be refused is a chain of changes.
-/
import Micronux.TotalProg

namespace Concurrent

variable {S A E T ε α β : Type}

/-- A part of the state that can be read and replaced. -/
structure Part (S A : Type) where
  get : S → A
  put : A → S → S
  get_put : ∀ value state, get (put value state) = value

namespace Prog

def on (part : Part S A) : Prog A E α → Prog S E α
  | .ret value => .ret value
  | .act run next =>
    .act (fun choice state => (run choice (part.get state)).map fun out =>
      (part.put out.1 state, out.2)) fun result => (next result).on part

/-- Such a program replaces the part and nothing else. -/
theorem within_on (part : Part S A) (prog : Prog A E α) :
    (prog.on part).Within fun before after =>
      ∃ value, after = part.put value before := by
  induction prog with
  | ret value => exact trivial
  | act run next ih =>
    refine ⟨?_, ih⟩
    intro choice before after result hrun
    obtain ⟨out, -, hout⟩ := Option.map_eq_some_iff.mp hrun
    exact ⟨out.1, (congrArg Prod.fst hout).symm⟩

/-- A call that the environment grants or refuses. -/
def grant (granted : E → Bool) (change : S → S) : Prog S E Bool :=
  total fun choice state =>
    if granted choice then (change state, true) else (state, false)

end Prog

def Attempt.on (part : Part S A) (attempt : Attempt A E ε α) :
    Attempt S E ε α :=
  ExceptT.mk (attempt.run.on part)

namespace Protocol

def alone : Protocol Unit A where
  inv := fun _ => True
  guar := fun _ _ _ => True

theorem stable_alone (assertion : A → Prop) :
    (alone : Protocol Unit A).Stable () assertion :=
  fun _ _ hrely _ => hrely.2.2.elim fun _ hother => absurd rfl hother.1

namespace Triple

variable {protocol : Protocol T S} {t : T}

/-- What holds of a program on its own holds among other threads that leave
its part alone. -/
theorem on (part : Part S A) {pre : A → Prop} {post : α → A → Prop}
    {prog : Prog A E α} (hprog : alone.Triple () pre prog post)
    (hkept : ∀ before after, protocol.Rely t before after →
      part.get after = part.get before)
    (hput : ∀ value state, protocol.inv state →
      protocol.inv (part.put value state) ∧
        protocol.guar t state (part.put value state)) :
    protocol.Triple t (fun state => pre (part.get state)) (prog.on part)
      fun value state => post value (part.get state) := by
  have hsame : ∀ {before after : S},
      Relation.ReflTransGen (protocol.Rely t) before after →
        part.get after = part.get before := by
    intro before after hrely
    induction hrely with
    | refl => rfl
    | tail _ hstep ih => exact (hkept _ _ hstep).trans ih
  have hsafe : ∀ state, alone.Safe () post prog (part.get state) →
      protocol.Safe t (fun value state => post value (part.get state))
        (prog.on part) state := by
    clear hprog
    induction prog with
    | ret value =>
      intro state hret after hrely
      rw [hsame hrely]
      exact hret _ Relation.ReflTransGen.refl
    | act run next ih =>
      intro state hact before hrely hinv choice after result hrun
      obtain ⟨⟨value, answer⟩, hlocal, hout⟩ :=
        Option.map_eq_some_iff.mp hrun
      cases hout
      obtain ⟨hinvAfter, hguar⟩ := hput value before hinv
      refine ⟨hinvAfter, hguar, ih answer _ ?_⟩
      rw [← hsame hrely] at hact
      rw [part.get_put]
      exact (hact _ Relation.ReflTransGen.refl trivial choice value answer
        hlocal).2.2
  exact fun state _ hpre => hsafe state (hprog (part.get state) trivial hpre)

section Alone

variable {pre : A → Prop}

theorem alone_total {post : β → A → Prop} {body : E → A → A × β}
    (hbody : ∀ choice state, pre state →
      post (body choice state).2 (body choice state).1) :
    alone.Triple () pre (Prog.total body) post :=
  Triple.total (stable_alone _) (fun _ => stable_alone _)
    fun choice state _ hpre => ⟨trivial, trivial, hbody choice state hpre⟩

theorem alone_ret {post : α → A → Prop} {value : α}
    (hpost : ∀ state, pre state → post value state) :
    alone.Triple () pre (.ret value : Prog A E α) post :=
  Triple.ret (stable_alone _) fun state _ => hpost state

variable {granted : E → Bool} {start : A} {mid post failed : A → Prop}

theorem alone_grant {change : A → A}
    (hgranted : ∀ state, pre state → mid (change state))
    (hrefused : ∀ state, pre state → failed state) :
    alone.Triple () pre (Prog.grant granted change) fun passed state =>
      if passed then mid state else failed state := by
  apply alone_total
  intro choice state hpre
  cases granted choice with
  | false => exact hrefused state hpre
  | true => exact hgranted state hpre

/-- One call of a chain of which only the end matters. -/
theorem alone_grant_eq (change : A → A) :
    alone.Triple () (· = start) (Prog.grant granted change)
      fun passed state => if passed then state = change start else True :=
  alone_grant (fun _ hstate => congrArg change hstate) fun _ _ => trivial

/-- Calls that are all granted make their changes one after the other. -/
theorem alone_allOf_grant_append (changes : List (A → A))
    {rest : List (Prog A E Bool)}
    (hrest : alone.Triple () (fun state => state =
        changes.foldl (fun before change => change before) start)
      (Prog.allOf rest) fun passed state =>
        if passed then post state else True) :
    alone.Triple () (· = start)
      (Prog.allOf (changes.map (Prog.grant granted) ++ rest))
      fun passed state => if passed then post state else True := by
  induction changes generalizing start with
  | nil => exact hrest
  | cons change others ih =>
    exact allOf_cons (.const True) (alone_grant_eq change) (ih hrest)

theorem alone_allOf_grant (changes : List (A → A)) : alone.Triple () (· = start)
      (Prog.allOf (changes.map (Prog.grant granted))) fun passed state =>
        if passed then state =
          changes.foldl (fun before change => change before) start
        else True := by
  rw [← List.append_nil (changes.map _)]
  exact alone_allOf_grant_append changes (allOf_nil (stable_alone _))

end Alone

end Triple

end Protocol

end Concurrent
