/-
A search for the least value among candidates in a fixed order, by a loop that
keeps the best candidate so far and replaces it only by a strictly smaller one.
-/
import Mathlib.Order.Lattice
import Mathlib.Data.List.Basic

namespace FirstMinimum

variable {α V : Type} [LinearOrder V] (measure : α → V)

def improve (best : V × α) (candidate : α) : V × α :=
  if measure candidate < best.1 then (measure candidate, candidate) else best

def IsFirst (candidates : List α) (winner : α) : Prop :=
  ∃ front back, candidates = front ++ winner :: back ∧
    (∀ candidate ∈ front, measure winner < measure candidate) ∧
    ∀ candidate ∈ back, measure winner ≤ measure candidate

/-- The search so far: no candidate was below the bound that it started with,
or the best is the first minimum of the candidates seen. -/
def Searched (start : V × α) (seen : List α) (best : V × α) : Prop :=
  (best = start ∧ ∀ candidate ∈ seen, start.1 ≤ measure candidate) ∨
    (best.1 = measure best.2 ∧ IsFirst measure seen best.2)

variable {measure}

theorem IsFirst.mem {candidates : List α} {winner : α}
    (hfirst : IsFirst measure candidates winner) : winner ∈ candidates := by
  obtain ⟨front, back, rfl, -, -⟩ := hfirst
  simp

theorem IsFirst.le {candidates : List α} {winner : α}
    (hfirst : IsFirst measure candidates winner) :
    ∀ candidate ∈ candidates, measure winner ≤ measure candidate := by
  obtain ⟨front, back, rfl, hfront, hback⟩ := hfirst
  intro candidate hmem
  rcases List.mem_append.mp hmem with hmem | hmem
  · exact (hfront candidate hmem).le
  · rcases List.mem_cons.mp hmem with rfl | hmem
    · exact le_rfl
    · exact hback candidate hmem

variable {seen : List α} {start : V × α} {candidate : α}

/-- In a list that is sorted by a relation, every candidate before the winner
is larger. -/
theorem IsFirst.lt_of_before {before : α → α → Prop} {candidates : List α}
    {winner : α} (hfirst : IsFirst measure candidates winner)
    (hsorted : candidates.Pairwise before)
    (hasymm : ∀ left right, before left right → ¬ before right left)
    (hmem : candidate ∈ candidates) (hbefore : before candidate winner) :
    measure winner < measure candidate := by
  obtain ⟨front, back, rfl, hfront, -⟩ := hfirst
  rcases List.mem_append.mp hmem with hmem | hmem
  · exact hfront candidate hmem
  · have hrest := (List.pairwise_append.mp hsorted).2.1
    rcases List.mem_cons.mp hmem with rfl | hmem
    · exact absurd hbefore (hasymm _ _ hbefore)
    · exact absurd hbefore
        (hasymm _ _ ((List.pairwise_cons.mp hrest).1 candidate hmem))

/-- A new candidate that is not smaller leaves the first minimum. -/
theorem IsFirst.append_of_le {winner : α} (hfirst : IsFirst measure seen winner)
    (hle : measure winner ≤ measure candidate) :
    IsFirst measure (seen ++ [candidate]) winner := by
  obtain ⟨front, back, rfl, hfront, hback⟩ := hfirst
  refine ⟨front, back ++ [candidate], by simp, hfront, ?_⟩
  intro other hmem
  rcases List.mem_append.mp hmem with hmem | hmem
  · exact hback other hmem
  · rw [List.mem_singleton.mp hmem]
    exact hle

/-- A new candidate below all the others is the first minimum. -/
theorem isFirst_append_of_lt
    (hlt : ∀ other ∈ seen, measure candidate < measure other) :
    IsFirst measure (seen ++ [candidate]) candidate :=
  ⟨seen, [], rfl, hlt, by simp⟩

theorem Searched.improve {best : V × α}
    (hseen : Searched measure start seen best) (candidate : α) :
    Searched measure start (seen ++ [candidate])
      (improve measure best candidate) := by
  unfold FirstMinimum.improve
  by_cases hlt : measure candidate < best.1
  · rw [if_pos hlt]
    refine .inr ⟨rfl, isFirst_append_of_lt fun other hmem => ?_⟩
    rcases hseen with ⟨rfl, habove⟩ | ⟨hvalue, hfirst⟩
    · exact hlt.trans_le (habove other hmem)
    · rw [hvalue] at hlt
      exact hlt.trans_le (hfirst.le other hmem)
  · rw [if_neg hlt]
    have hle := not_lt.mp hlt
    rcases hseen with ⟨rfl, habove⟩ | ⟨hvalue, hfirst⟩
    · refine .inl ⟨rfl, fun other hmem => ?_⟩
      rcases List.mem_append.mp hmem with hmem | hmem
      · exact habove other hmem
      · rw [List.mem_singleton.mp hmem]
        exact hle
    · rw [hvalue] at hle
      exact .inr ⟨hvalue, hfirst.append_of_le hle⟩

/-- The loop over a list of candidates, whatever was seen before. -/
theorem Searched.foldl {best : V × α} (hseen : Searched measure start seen best)
    (candidates : List α) :
    Searched measure start (seen ++ candidates)
      (candidates.foldl (FirstMinimum.improve measure) best) := by
  induction candidates generalizing seen best with
  | nil => simpa using hseen
  | cons candidate rest ih =>
    have hrest := ih (hseen.improve candidate)
    rw [List.append_assoc] at hrest
    exact hrest

/-- A search whose bound lies above the value of some candidate ends with the
first minimum. -/
theorem isFirst_foldl {candidates : List α} (hmem : candidate ∈ candidates)
    (hbelow : measure candidate < start.1) :
    IsFirst measure candidates
      (candidates.foldl (improve measure) start).2 := by
  have hstart : Searched measure start [] start := .inl ⟨rfl, by simp⟩
  rcases hstart.foldl candidates with ⟨-, habove⟩ | ⟨-, hfirst⟩
  · exact absurd hbelow (not_lt.mpr (habove candidate hmem))
  · exact hfirst

end FirstMinimum
