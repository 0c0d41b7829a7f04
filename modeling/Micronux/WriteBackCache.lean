/-
One cell of memory behind a write-back cache.  The cache may fill and evict the
cell's line whenever it likes; a program writes through it, writes it back,
invalidates it, or goes past it by an uncached alias.
-/
import Mathlib.Data.Option.Basic

namespace WriteBackCache

variable {α : Type}

/-- What memory holds, what the cache holds of it, and whether the cache's copy
has still to be written back. -/
structure Cell (α : Type) where
  stored : α
  cached : Option α
  dirty : Bool
deriving DecidableEq

namespace Cell

def write (cell : Cell α) (value : α) : Cell α :=
  { cell with cached := some value, dirty := true }

def writeUncached (cell : Cell α) (value : α) : Cell α :=
  { cell with stored := value }

def writeback (cell : Cell α) : Cell α where
  stored := if cell.dirty then cell.cached.getD cell.stored else cell.stored
  cached := cell.cached
  dirty := false

def invalidate (cell : Cell α) : Cell α :=
  { cell with cached := none, dirty := false }

def evict (cell : Cell α) : Cell α := cell.writeback.invalidate

def fill (cell : Cell α) : Cell α :=
  { cell with
    cached := some (cell.cached.getD cell.stored)
    dirty := cell.dirty && cell.cached.isSome }

/-- What the cache may do on its own. -/
inductive Moves (cell : Cell α) : Cell α → Prop
  | evict : Moves cell cell.evict
  | fill : Moves cell cell.fill

/-- Neither memory nor the cache holds the value. -/
structure Avoids (bad : α) (cell : Cell α) : Prop where
  stored : cell.stored ≠ bad
  cached : ∀ value, cell.cached = some value → value ≠ bad

/-- The last write has reached memory, or is on its way. -/
def Carries (value : α) (cell : Cell α) : Prop :=
  (cell.cached = some value ∧ cell.dirty = true) ∨
    (cell.stored = value ∧ ∀ copy, cell.cached = some copy → copy = value)

theorem carries_write (cell : Cell α) (value : α) :
    (cell.write value).Carries value :=
  .inl ⟨rfl, rfl⟩

section Avoids

variable {bad : α} {cell after : Cell α}

section

variable (havoids : cell.Avoids bad)

include havoids

theorem Avoids.write {value : α} (hvalue : value ≠ bad) :
    (cell.write value).Avoids bad where
  stored := havoids.stored
  cached := by
    rintro copy ⟨⟩
    exact hvalue

theorem Avoids.writeback : cell.writeback.Avoids bad where
  stored := by
    simp only [Cell.writeback]
    split
    · cases hcached : cell.cached with
      | none => exact havoids.stored
      | some value => exact havoids.cached value hcached
    · exact havoids.stored
  cached := havoids.cached

theorem Avoids.invalidate : cell.invalidate.Avoids bad where
  stored := havoids.stored
  cached := fun _ hnone => absurd hnone.symm (Option.some_ne_none _)

theorem Avoids.fill : cell.fill.Avoids bad where
  stored := havoids.stored
  cached := by
    rintro copy ⟨⟩
    cases hcached : cell.cached with
    | none => exact havoids.stored
    | some value => exact havoids.cached value hcached

theorem Avoids.moves (hmoves : cell.Moves after) : after.Avoids bad := by
  cases hmoves with
  | evict => exact havoids.writeback.invalidate
  | fill => exact havoids.fill

end

/-- A value that has been written back is all there is. -/
theorem Carries.avoids {value : α} (hcarries : cell.Carries value)
    (hvalue : value ≠ bad) : cell.writeback.Avoids bad := by
  rcases hcarries with ⟨hcached, hdirty⟩ | ⟨hstored, hcopy⟩
  · constructor
    · simpa [Cell.writeback, hcached, hdirty] using hvalue
    · rintro copy hsome
      obtain rfl := Option.some.inj (hcached.symm.trans hsome)
      exact hvalue
  · have havoids : cell.Avoids bad :=
      ⟨hstored ▸ hvalue, fun copy hsome => hcopy copy hsome ▸ hvalue⟩
    exact havoids.writeback

/-- A copy that the cache has of a carried value is that value. -/
theorem Carries.getD {value : α} (hcarries : cell.Carries value) :
    cell.cached.getD cell.stored = value := by
  rcases hcarries with ⟨hcached, -⟩ | ⟨hstored, hcopy⟩
  · rw [hcached]
    rfl
  · cases hcached : cell.cached with
    | none => exact hstored
    | some copy => exact hcopy copy hcached

theorem Carries.moves {value : α} (hcarries : cell.Carries value)
    (hmoves : cell.Moves after) : after.Carries value := by
  have hcurrent := hcarries.getD
  cases hmoves with
  | evict =>
    refine .inr ⟨?_, fun _ hnone => absurd hnone.symm (Option.some_ne_none _)⟩
    rcases hcarries with ⟨-, hdirty⟩ | ⟨hstored, -⟩
    · simpa [Cell.evict, Cell.writeback, Cell.invalidate, hdirty] using hcurrent
    · simp [Cell.evict, Cell.writeback, Cell.invalidate, hstored ▸ hcurrent,
        hstored]
  | fill =>
    rcases hcarries with ⟨hcached, hdirty⟩ | ⟨hstored, -⟩
    · exact .inl ⟨congrArg some hcurrent, by simp [Cell.fill, hcached, hdirty]⟩
    · refine .inr ⟨hstored, fun copy hcopy => ?_⟩
      exact (Option.some.inj hcopy).symm.trans hcurrent

end Avoids

end Cell

end WriteBackCache
