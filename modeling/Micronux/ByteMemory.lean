/-
Memory as a function from addresses to cells: stores of a list of cells, loads
of a range, and how the two meet when their ranges are the same, apart or
adjacent.
-/
import Mathlib.Data.List.Basic

namespace ByteMemory

variable {α : Type}

def store (memory : Nat → α) (address : Nat) (data : List α) : Nat → α :=
  fun place =>
    if address ≤ place then (data[place - address]?).getD (memory place)
    else memory place

def load (memory : Nat → α) (address length : Nat) : List α :=
  (List.range length).map fun index => memory (address + index)

@[simp] theorem length_load (memory : Nat → α) (address length : Nat) :
    (load memory address length).length = length := by
  simp [load]

variable {memory : Nat → α} {address : Nat} {data : List α}

theorem store_outside {place : Nat}
    (houtside : place < address ∨ address + data.length ≤ place) :
    store memory address data place = memory place := by
  unfold store
  rcases houtside with hbelow | habove
  · rw [if_neg (Nat.not_le.mpr hbelow)]
  · rw [if_pos (by omega), List.getElem?_eq_none (by omega)]
    rfl

theorem load_congr {other : Nat → α} {length : Nat}
    (heq : ∀ place, address ≤ place → place < address + length →
      memory place = other place) :
    load memory address length = load other address length := by
  apply List.map_congr_left
  intro index hindex
  exact heq _ (Nat.le_add_right _ _)
    (Nat.add_lt_add_left (List.mem_range.mp hindex) address)

/-- A store leaves a range alone that it does not meet. -/
theorem load_store_apart {start length : Nat}
    (hapart : start + length ≤ address ∨ address + data.length ≤ start) :
    load (store memory address data) start length =
      load memory start length := by
  apply load_congr
  intro place hfirst hlast
  apply store_outside
  omega

theorem load_store_self :
    load (store memory address data) address data.length = data := by
  apply List.ext_getElem
  · simp
  · intro index hleft hright
    simp [load, store, List.getElem?_eq_getElem hright]

theorem load_store_eq {length : Nat} (hlength : data.length = length) :
    load (store memory address data) address length = data := by
  subst length
  exact load_store_self

/-- A list of cells that is padded after its end is still there. -/
theorem load_store_padded {length : Nat} {padding : List α}
    (hlength : data.length = length) :
    load (store (store memory address data) (address + length) padding) address
      length = data := by
  rw [load_store_apart (.inl (Nat.le_refl _))]
  exact load_store_eq hlength

theorem load_append (first second : Nat) :
    load memory address (first + second) =
      load memory address first ++ load memory (address + first) second := by
  unfold load
  rw [List.range_add, List.map_append, List.map_map]
  simp [Function.comp_def, Nat.add_assoc]

theorem load_take {length first : Nat} (hle : first ≤ length) :
    (load memory address length).take first = load memory address first := by
  obtain ⟨rest, rfl⟩ := Nat.exists_eq_add_of_le hle
  rw [load_append, List.take_left' (length_load _ _ _)]

/-- A block behind which enough cells of one value are stored. -/
theorem load_filled {size total count : Nat} {value : α}
    (hdata : load memory address size = data) (hle : size ≤ total)
    (hcount : total - size ≤ count) :
    load (store memory (address + size) (List.replicate count value)) address
      total = data ++ List.replicate (total - size) value := by
  obtain ⟨rest, rfl⟩ := Nat.exists_eq_add_of_le hle
  have htail : load (store memory (address + size)
      (List.replicate count value)) (address + size) count =
        List.replicate count value := load_store_eq List.length_replicate
  rw [Nat.add_sub_cancel_left] at hcount ⊢
  rw [load_append, load_store_apart (.inl (Nat.le_refl _)), hdata, ← load_take hcount,
    htail, List.take_replicate, Nat.min_eq_left hcount]

def scatter (memory : Nat → α) (cells : List (Nat × α)) : Nat → α :=
  cells.foldl (fun memory cell => store memory cell.1 [cell.2]) memory

theorem load_scatter {start length : Nat} {cells : List (Nat × α)}
    (hapart : ∀ cell ∈ cells, cell.1 < start ∨ start + length ≤ cell.1) :
    load (scatter memory cells) start length = load memory start length := by
  induction cells generalizing memory with
  | nil => rfl
  | cons cell rest ih =>
    have hcell := hapart cell List.mem_cons_self
    have hrest : load (scatter (store memory cell.1 [cell.2]) rest) start
        length = load (store memory cell.1 [cell.2]) start length :=
      ih fun other hother => hapart other (List.mem_cons_of_mem _ hother)
    refine hrest.trans (load_store_apart ?_)
    rw [List.length_singleton]
    omega

end ByteMemory
