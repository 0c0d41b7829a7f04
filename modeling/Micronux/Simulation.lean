/-
One program simulates another: each run of the one from related states is
matched by a run of the other, whose actions need not come one for one.
-/
import Micronux.RelyGuarantee

namespace Concurrent

variable {S E S' E' α β γ δ : Type}

/-- A program that runs alone from a state to a state and returns `value`. -/
inductive Runs : Prog S E α → S → S → α → Prop
  | ret (value : α) (state : S) : Runs (.ret value) state state value
  | act {γ : Type} {run : E → S → Option (S × γ)} {next : γ → Prog S E α}
      {choice : E} {before between after : S} {result : γ} {value : α}
      (hrun : run choice before = some (between, result))
      (hrest : Runs (next result) between after value) :
      Runs (.act run next) before after value

variable {after before : S} {prog : Prog S E α}

theorem runs_bind {rest : α → Prog S E β} {value : β} :
    Runs (prog.bind rest) before after value ↔
      ∃ between result, Runs prog before between result ∧
        Runs (rest result) between after value := by
  induction prog generalizing before with
  | ret result =>
    constructor
    · exact fun hrest => ⟨before, result, .ret result before, hrest⟩
    · rintro ⟨between, result, ⟨⟩, hrest⟩
      exact hrest
  | act run next ih =>
    constructor
    · rintro (_ | ⟨hrun, htail⟩)
      obtain ⟨between, result, hprog, hrest⟩ := (ih _).mp htail
      exact ⟨between, result, .act hrun hprog, hrest⟩
    · rintro ⟨between, result, ⟨⟩ | ⟨hrun, hprog⟩, hrest⟩
      exact .act hrun ((ih _).mpr ⟨between, result, hprog, hrest⟩)

theorem runs_atomic {run : E → S → Option (S × α)} {value : α} :
    Runs (Prog.atomic run) before after value ↔
      ∃ choice, run choice before = some (after, value) := by
  constructor
  · rintro (_ | ⟨hrun, ⟨⟩⟩)
    exact ⟨_, hrun⟩
  · rintro ⟨choice, hrun⟩
    exact .act hrun (.ret value after)

/-- What holds of the states around each action holds around a run. -/
theorem Runs.within {change : S → S → Prop} {value : α}
    (hruns : Runs prog before after value) (hprog : prog.Within change)
    (hrefl : ∀ state, change state state)
    (htrans : ∀ {first second third}, change first second →
      change second third → change first third) : change before after := by
  induction hruns with
  | ret value state => exact hrefl state
  | act hrun _ ih => exact htrans (hprog.1 _ _ _ _ hrun) (ih (hprog.2 _))

/-- Every run of `prog` is matched by one of `other`; `post` relates what the
two return and leave. -/
def Simulates (pre : S → S' → Prop) (prog : Prog S E α) (other : Prog S' E' β)
    (post : α → β → S → S' → Prop) : Prop :=
  ∀ before after value state, pre before state → Runs prog before after value →
    ∃ final result, Runs other state final result ∧
      post value result after final

namespace Simulates

variable {pre : S → S' → Prop} {post : γ → δ → S → S' → Prop}

theorem ret {value : γ} {result : δ}
    (hpost : ∀ state other, pre state other → post value result state other) :
    Simulates pre (.ret value : Prog S E γ) (.ret result : Prog S' E' δ)
      post := by
  rintro before after _ state hpre ⟨⟩
  exact ⟨state, result, .ret result state, hpost before state hpre⟩

theorem bind {mid : α → β → S → S' → Prop} {first : Prog S E α}
    {first' : Prog S' E' β} {rest : α → Prog S E γ} {rest' : β → Prog S' E' δ}
    (hfirst : Simulates pre first first' mid)
    (hrest : ∀ value result,
      Simulates (mid value result) (rest value) (rest' result) post) :
    Simulates pre (first.bind rest) (first'.bind rest') post := by
  intro before after value state hpre hruns
  obtain ⟨between, mine, hprog, htail⟩ := runs_bind.mp hruns
  obtain ⟨state', theirs, hprog', hmid⟩ :=
    hfirst before between mine state hpre hprog
  obtain ⟨final, result, htail', hpost⟩ :=
    hrest mine theirs between after value state' hmid htail
  exact ⟨final, result, runs_bind.mpr ⟨state', theirs, hprog', htail'⟩, hpost⟩

/-- One action for one action. -/
theorem atomic {run : E → S → Option (S × γ)} {run' : E' → S' → Option (S' × δ)}
    (hrun : ∀ choice before after value state, pre before state →
      run choice before = some (after, value) →
      ∃ choice' final result, run' choice' state = some (final, result) ∧
        post value result after final) :
    Simulates pre (Prog.atomic run) (Prog.atomic run') post := by
  intro before after value state hpre hruns
  obtain ⟨choice, hresult⟩ := runs_atomic.mp hruns
  obtain ⟨choice', final, result, hrun', hpost⟩ :=
    hrun choice before after value state hpre hresult
  exact ⟨final, result, runs_atomic.mpr ⟨choice', hrun'⟩, hpost⟩

variable {other : Prog S' E' δ}

/-- Actions of the first program that the relation does not see. -/
theorem skip {first : Prog S E α} {rest : α → Prog S E γ}
    (hfirst : ∀ before after value state, pre before state →
      Runs first before after value → pre after state)
    (hrest : ∀ value, Simulates pre (rest value) other post) :
    Simulates pre (first.bind rest) other post := by
  intro before after value state hpre hruns
  obtain ⟨between, mine, hprog, htail⟩ := runs_bind.mp hruns
  exact hrest mine between after value state
    (hfirst before between mine state hpre hprog) htail

/-- An action of the second program that the first does not have. -/
theorem extra {run' : E' → S' → Option (S' × β)} {rest' : β → Prog S' E' δ}
    {prog : Prog S E γ} {theirs : β} {mid : S → S' → Prop}
    (hrun : ∀ before state, pre before state → ∃ choice' final,
      run' choice' state = some (final, theirs) ∧ mid before final)
    (hrest : Simulates mid prog (rest' theirs) post) :
    Simulates pre prog ((Prog.atomic run').bind rest') post := by
  intro before after value state hpre hruns
  obtain ⟨choice', between, hrun', hmid⟩ := hrun before state hpre
  obtain ⟨final, result, htail, hpost⟩ :=
    hrest before after value between hmid hruns
  exact ⟨final, result,
    runs_bind.mpr ⟨between, theirs, runs_atomic.mpr ⟨choice', hrun'⟩, htail⟩,
    hpost⟩

/-- A fact of the relation becomes a hypothesis. -/
theorem given {fact : Prop} {prog : Prog S E γ}
    (hsim : fact → Simulates pre prog other post) :
    Simulates (fun state other => fact ∧ pre state other) prog other post :=
  fun _ _ _ _ hpre => hsim hpre.1 _ _ _ _ hpre.2

end Simulates

end Concurrent
