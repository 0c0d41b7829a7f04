/-
Computations that may fail: what is known when one of them has succeeded.
-/
import Mathlib.Logic.Basic

namespace Fallible

variable {ε α β : Type}

theorem bind_eq_ok {first : Except ε α} {next : α → Except ε β} {result : β} :
    (first >>= next) = .ok result ↔
      ∃ value, first = .ok value ∧ next value = .ok result := by
  constructor
  · intro hbind
    cases first with
    | error reason => cases hbind
    | ok value => exact ⟨value, rfl, hbind⟩
  · rintro ⟨value, rfl, hnext⟩
    exact hnext

/-- A computation that is refused under a condition. -/
theorem unless_eq_ok {refused : Prop} [Decidable refused] {reason : ε}
    {next : Except ε α} {result : α} :
    (if refused then .error reason else next) = .ok result ↔
      ¬ refused ∧ next = .ok result := by
  by_cases hrefused : refused
  · rw [if_pos hrefused]
    exact ⟨fun herror => (nomatch herror), fun hboth => absurd hrefused hboth.1⟩
  · rw [if_neg hrefused]
    exact ⟨fun hnext => ⟨hrefused, hnext⟩, fun hboth => hboth.2⟩

/-- A loop whose turns all have a result. -/
theorem foldlM_eq_some {turn : β → α → Option β} {next : β → α → β}
    {items : List α}
    (hturn : ∀ state, ∀ item ∈ items,
      turn state item = some (next state item)) (start : β) :
    items.foldlM turn start = some (items.foldl next start) := by
  induction items generalizing start with
  | nil => rfl
  | cons item rest ih =>
    rw [List.foldlM_cons, hturn start item List.mem_cons_self]
    exact ih (fun state other hmem =>
      hturn state other (List.mem_cons_of_mem item hmem)) _

end Fallible
