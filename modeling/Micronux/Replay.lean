/-
Replaying a list of operations on one state, and observers that see the
result only now and then.  An observer follows the operations when everything
it sees is the state after some prefix of what had been executed by then, and
it never sees an older state after a newer one.
-/
import Mathlib.Data.List.Basic

namespace Replay

variable {α : Type}

/-- The state after the first `count` operations. -/
def after (start : α) (operations : List (α → α)) (count : Nat) : α :=
  (operations.take count).foldl (fun state operation => operation state) start

/-- A state that was seen, and how many operations had been executed. -/
structure Sighting (α : Type) where
  contents : α
  executed : Nat

/-- Every sighting, newest first, is the state after the prefix listed for
it, and the prefixes never get shorter. -/
structure Follows (start : α) (operations : List (α → α))
    (seen : List (Sighting α)) (prefixes : List Nat) : Prop where
  agree : List.Forall₂ (fun sighting count => count ≤ sighting.executed ∧
    sighting.contents = after start operations count) seen prefixes
  sorted : prefixes.Pairwise (· ≥ ·)

theorem after_append_of_le {start : α} {operations more : List (α → α)}
    {count : Nat} (hcount : count ≤ operations.length) :
    after start (operations ++ more) count = after start operations count := by
  rw [after, after, List.take_append_of_le_length hcount]

theorem after_snoc (start : α) (operations : List (α → α)) (operation : α → α) :
    after start (operations ++ [operation]) (operations ++ [operation]).length =
      operation (after start operations operations.length) := by
  simp only [after, List.take_length, List.foldl_append, List.foldl_cons,
    List.foldl_nil]

variable {start : α} {operations : List (α → α)} {seen : List (Sighting α)}
  {prefixes : List Nat}

/-- What was seen stays right while more is executed. -/
theorem Follows.extend (hfollows : Follows start operations seen prefixes)
    (hbound : ∀ count ∈ prefixes, count ≤ operations.length)
    (more : List (α → α)) :
    Follows start (operations ++ more) seen prefixes := by
  refine ⟨?_, hfollows.sorted⟩
  obtain ⟨hagree, -⟩ := hfollows
  induction hagree with
  | nil => exact .nil
  | @cons sighting count seen prefixes hfirst _ ih =>
    have hcount : count ≤ operations.length := hbound count List.mem_cons_self
    refine .cons ⟨hfirst.1, ?_⟩ (ih fun other hother =>
      hbound other (List.mem_cons_of_mem count hother))
    rw [after_append_of_le hcount]
    exact hfirst.2

/-- A new sighting of a prefix no shorter than all before. -/
theorem Follows.push (hfollows : Follows start operations seen prefixes)
    {contents : α} {executed count : Nat}
    (hbound : ∀ other ∈ prefixes, other ≤ count) (hcount : count ≤ executed)
    (hcontents : contents = after start operations count) :
    Follows start operations (⟨contents, executed⟩ :: seen)
      (count :: prefixes) :=
  ⟨.cons ⟨hcount, hcontents⟩ hfollows.agree,
    List.pairwise_cons.mpr ⟨hbound, hfollows.sorted⟩⟩

end Replay
