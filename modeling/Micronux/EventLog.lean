/-
Logs of events, newest first, and what still stands at the end of one: an
event that is evidence for a fact, with nothing behind it that spoils the fact.
-/
import Mathlib.Data.List.Basic

namespace EventLog

variable {Event : Type}

/-- The evidence is in the log, and no later event spoils it. -/
def Since (evidence : Event) (spoils : Event → Bool) (log : List Event) :
    Prop :=
  ∃ newer older, log = newer ++ evidence :: older ∧
    ∀ event ∈ newer, spoils event = false

variable {evidence : Event} {spoils : Event → Bool} {log : List Event}

theorem not_since_nil : ¬ Since evidence spoils [] := by
  rintro ⟨newer, older, hlog, -⟩
  cases newer <;> cases hlog

theorem since_now (evidence : Event) (spoils : Event → Bool)
    (log : List Event) : Since evidence spoils (evidence :: log) :=
  ⟨[], log, rfl, List.forall_mem_nil _⟩

theorem Since.push (hsince : Since evidence spoils log) {event : Event}
    (hspoils : spoils event = false) : Since evidence spoils (event :: log) := by
  obtain ⟨newer, older, rfl, hnewer⟩ := hsince
  exact ⟨event :: newer, older, rfl, List.forall_mem_cons.mpr ⟨hspoils, hnewer⟩⟩

theorem since_cons {event : Event} : Since evidence spoils (event :: log) ↔
      event = evidence ∨ spoils event = false ∧ Since evidence spoils log := by
  constructor
  · rintro ⟨newer, older, hlog, hnewer⟩
    cases newer with
    | nil => exact .inl (List.cons.inj hlog).1
    | cons first rest =>
      obtain ⟨rfl, rfl⟩ := List.cons.inj hlog
      obtain ⟨hfirst, hrest⟩ := List.forall_mem_cons.mp hnewer
      exact .inr ⟨hfirst, rest, older, rfl, hrest⟩
  · rintro (rfl | ⟨hspoils, hsince⟩)
    · exact since_now event spoils log
    · exact hsince.push hspoils

instance decidableSince [DecidableEq Event] (evidence : Event)
    (spoils : Event → Bool) :
    (log : List Event) → Decidable (Since evidence spoils log)
  | [] => .isFalse not_since_nil
  | _ :: log =>
    have := decidableSince evidence spoils log
    decidable_of_iff _ since_cons.symm

end EventLog
