/-
Deterministic machines driven by a list of inputs, and the rule by which what
every step keeps holds after every run.
-/
import Mathlib.Data.List.Basic

namespace Machine

variable {S I : Type}

def run (step : S → I → S) (start : S) (inputs : List I) : S :=
  inputs.foldl step start

variable {step : S → I → S} {start : S}

theorem run_append (first second : List I) :
    run step start (first ++ second) = run step (run step start first) second :=
  List.foldl_append

/-- What holds at the start and is kept by every step on the inputs that
occur holds after the run. -/
theorem run_invariant {inv : S → Prop} {inputs : List I} (hstart : inv start)
    (hstep : ∀ state, ∀ input ∈ inputs, inv state → inv (step state input)) :
    inv (run step start inputs) := by
  induction inputs generalizing start with
  | nil => exact hstart
  | cons input rest ih =>
    apply ih
    · exact hstep start input List.mem_cons_self hstart
    · intro state other hother
      exact hstep state other (List.mem_cons_of_mem input hother)

/-- The same for a property of the state and of the inputs still to come. -/
theorem run_invariant_rest {inv : S → List I → Prop} {inputs : List I}
    (hstart : inv start inputs)
    (hstep : ∀ state input rest, inv state (input :: rest) →
      inv (step state input) rest) :
    inv (run step start inputs) [] := by
  induction inputs generalizing start with
  | nil => exact hstart
  | cons input rest ih => exact ih (hstep start input rest hstart)

end Machine
