/-
What a program does in one call: the states around each of its own actions,
whatever other threads do in between, and the value it returns.
-/
import Micronux.RelyGuarantee

namespace Concurrent

variable {S E T C α β : Type}

/-- A program returns `value` after its own actions `steps`, each with the
state before and after it. -/
inductive Performs : Prog S E α → List (S × S) → α → Prop
  | ret (value : α) : Performs (.ret value) [] value
  | act {γ : Type} {run : E → S → Option (S × γ)} {next : γ → Prog S E α}
      {choice : E} {before after : S} {result : γ} {steps : List (S × S)}
      {value : α} (hrun : run choice before = some (after, result))
      (hrest : Performs (next result) steps value) :
      Performs (.act run next) ((before, after) :: steps) value

variable {steps : List (S × S)} {value : α}

theorem performs_ret {result : α} :
    Performs (.ret value : Prog S E α) steps result ↔
      steps = [] ∧ result = value := by
  constructor
  · rintro ⟨⟩
    exact ⟨rfl, rfl⟩
  · rintro ⟨rfl, rfl⟩
    exact .ret result

variable {prog : Prog S E α}

/-- A program in sequence: first the actions of the one, then those of the
other. -/
theorem performs_bind {rest : α → Prog S E β} {value : β} :
    Performs (prog.bind rest) steps value ↔
      ∃ first mid second, steps = first ++ second ∧
        Performs prog first mid ∧ Performs (rest mid) second value := by
  induction prog generalizing steps with
  | ret mid =>
    constructor
    · exact fun hrest => ⟨[], mid, steps, rfl, .ret mid, hrest⟩
    · rintro ⟨first, result, second, rfl, hprog, hrest⟩
      obtain ⟨rfl, rfl⟩ := performs_ret.mp hprog
      exact hrest
  | act run next ih =>
    constructor
    · rintro (_ | ⟨hrun, htail⟩)
      obtain ⟨first, mid, second, rfl, hprog, hrest⟩ := (ih _).mp htail
      exact ⟨_, mid, second, rfl, .act hrun hprog, hrest⟩
    · rintro ⟨first, mid, second, rfl, hprog, hrest⟩
      cases hprog with
      | act hrun htail =>
        exact .act hrun ((ih _).mpr ⟨_, mid, second, rfl, htail, hrest⟩)

theorem performs_map {wrap : α → β} {value : β}
    (hsteps : Performs (prog.bind fun result => .ret (wrap result)) steps
      value) :
    ∃ result, Performs prog steps result ∧ value = wrap result := by
  obtain ⟨first, result, second, rfl, hprog, hreturn⟩ :=
    performs_bind.mp hsteps
  obtain ⟨rfl, hvalue⟩ := performs_ret.mp hreturn
  exact ⟨result, (List.append_nil first).symm ▸ hprog, hvalue⟩

theorem performs_atomic {run : E → S → Option (S × α)} :
    Performs (Prog.atomic run) steps value ↔
      ∃ choice before after, steps = [(before, after)] ∧
        run choice before = some (after, value) := by
  constructor
  · rintro (_ | ⟨hrun, htail⟩)
    obtain ⟨rfl, rfl⟩ := performs_ret.mp htail
    exact ⟨_, _, _, rfl, hrun⟩
  · rintro ⟨choice, before, after, rfl, hrun⟩
    exact .act hrun (.ret value)

theorem performs_critical [Inhabited E] {body : S → S × α} :
    Performs (Prog.critical body : Prog S E α) steps value ↔
      ∃ before, steps = [(before, (body before).1)] ∧
        value = (body before).2 := by
  rw [Prog.critical, performs_atomic]
  constructor
  · rintro ⟨choice, before, after, rfl, hrun⟩
    have hbody := Option.some.inj hrun
    exact ⟨before, by rw [hbody], by rw [hbody]⟩
  · rintro ⟨before, rfl, rfl⟩
    exact ⟨default, before, _, rfl, rfl⟩

theorem performs_load [Inhabited E] {view : S → α} :
    Performs (Prog.load view : Prog S E α) steps value ↔
      ∃ before, steps = [(before, before)] ∧ value = view before :=
  performs_critical

section Machine

variable [DecidableEq T] (code : T → C → Prog S E α)

def Config.ownSteps (t : T) (config : Config S E T α) :
    List (Label T C E) → List (S × S)
  | [] => []
  | label :: rest =>
    match config.next code label with
    | none => []
    | some after =>
      match label with
      | .call _ _ => after.ownSteps t rest
      | .step actor _ =>
        if actor = t then
          (config.shared, after.shared) :: after.ownSteps t rest
        else after.ownSteps t rest

variable {labels : List (Label T C E)} {after : Config S E T α}

/-- In every schedule a call that returns has performed the actions of its
thread. -/
theorem performs_of_exec {config : Config S E T α} {t : T}
    (hexec : config.exec code labels = some after)
    (hcalls : ∀ request, Label.call t request ∉ labels)
    (hreturned : after.thread t = .ret value) :
    Performs (config.thread t) (config.ownSteps code t labels) value := by
  induction labels generalizing config with
  | nil =>
    obtain rfl := Option.some.inj hexec
    rw [hreturned]
    exact .ret value
  | cons label rest ih =>
    obtain ⟨mid, hnext, hrest⟩ := Option.bind_eq_some_iff.mp hexec
    have htail := ih hrest fun request hmem =>
      hcalls request (List.mem_cons_of_mem label hmem)
    rw [Config.ownSteps, hnext]
    obtain ⟨actor, request, result, rfl, hthread, rfl⟩ |
        ⟨actor, choice, γ, run, next, state, result, rfl, hthread, hrun, rfl⟩ :=
      Config.next_cases code hnext
    · have hother : t ≠ actor := by
        rintro rfl
        exact hcalls request List.mem_cons_self
      simp only [Function.update_of_ne hother] at htail
      exact htail
    · by_cases hown : actor = t
      · subst hown
        simp only [Function.update_self] at htail
        rw [hthread]
        simp only [if_true]
        exact .act hrun htail
      · simp only [Function.update_of_ne (Ne.symm hown)] at htail
        simp only [hown, if_false]
        exact htail

/-- The actions of a thread start in states that the schedule passes
through. -/
theorem mem_ownSteps {config : Config S E T α} {t : T}
    (hexec : config.exec code labels = some after) {step : S × S}
    (hstep : step ∈ config.ownSteps code t labels) :
    ∃ front mid, front <+: labels ∧ config.exec code front = some mid ∧
      step.1 = mid.shared := by
  induction labels generalizing config with
  | nil => exact absurd hstep List.not_mem_nil
  | cons label rest ih =>
    obtain ⟨next, hnext, hrest⟩ := Option.bind_eq_some_iff.mp hexec
    have htail (hmem : step ∈ next.ownSteps code t rest) :
        ∃ front mid, front <+: label :: rest ∧
          config.exec code front = some mid ∧ step.1 = mid.shared := by
      obtain ⟨front, mid, hleading, hfront, hshared⟩ := ih hrest hmem
      refine ⟨label :: front, mid, List.cons_prefix_cons.mpr ⟨rfl, hleading⟩,
        ?_, hshared⟩
      rw [Config.exec, hnext]
      exact hfront
    rw [Config.ownSteps, hnext] at hstep
    cases label with
    | call actor request => exact htail hstep
    | step actor choice =>
      dsimp only at hstep
      split at hstep
      · rcases List.mem_cons.mp hstep with rfl | hmem
        · exact ⟨[], config, List.nil_prefix, rfl, rfl⟩
        · exact htail hmem
      · exact htail hstep

end Machine

end Concurrent
