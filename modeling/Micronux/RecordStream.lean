/-
Records that stand one after another in a buffer: what a reader of one record
says about a loop that reads a number of them.
-/
import Mathlib.Data.List.Infix
import Micronux.Fallible

namespace RecordStream

variable {α β ε : Type}

/-- A chunk stands in a buffer at an offset. -/
def At (buffer : List β) (offset : Nat) (chunk : List β) : Prop :=
  chunk <+: buffer.drop offset

variable {buffer chunk first second : List β} {offset : Nat}

theorem at_nil : At buffer offset [] :=
  List.nil_prefix

theorem at_append : At buffer offset (first ++ second) ↔
      At buffer offset first ∧ At buffer (offset + first.length) second := by
  constructor
  · rintro ⟨rest, hrest⟩
    rw [List.append_assoc] at hrest
    refine ⟨⟨second ++ rest, hrest⟩, rest, ?_⟩
    rw [← List.drop_drop, ← hrest, List.drop_left]
  · rintro ⟨⟨tail, htail⟩, rest, hrest⟩
    rw [← List.drop_drop, ← htail, List.drop_left] at hrest
    refine ⟨rest, ?_⟩
    rw [List.append_assoc, hrest, htail]

theorem At.length_le (hat : At buffer offset chunk) :
    chunk.length ≤ buffer.length - offset := by
  have hle : chunk.length ≤ (buffer.drop offset).length :=
    List.IsPrefix.length_le hat
  rwa [List.length_drop] at hle

/-- The byte of a chunk, read in the buffer. -/
theorem At.getElem? (hat : At buffer offset chunk) {index : Nat}
    (hindex : index < chunk.length) :
    buffer[offset + index]? = chunk[index]? := by
  obtain ⟨rest, hrest⟩ := hat
  rw [← List.getElem?_drop, ← hrest, List.getElem?_append_left hindex]

theorem at_singleton {byte : β} :
    At buffer offset [byte] ↔ buffer[offset]? = some byte := by
  constructor
  · intro hat
    exact hat.getElem? (Nat.zero_lt_one : 0 < [byte].length)
  · intro hbyte
    obtain ⟨hoffset, rfl⟩ := List.getElem?_eq_some_iff.mp hbyte
    exact ⟨buffer.drop (offset + 1), (List.drop_eq_getElem_cons hoffset).symm⟩

/-- A chunk that ends with the buffer is the rest of it. -/
theorem At.drop_eq (hat : At buffer offset chunk)
    (hend : buffer.length - offset ≤ chunk.length) :
    buffer.drop offset = chunk := by
  refine (hat.eq_of_length_le ?_).symm
  rw [List.length_drop]
  exact hend

def readMany (read : Nat → Nat → Except ε (α × Nat)) :
    (count index offset : Nat) → Except ε (List α × Nat)
  | 0, _, offset => .ok ([], offset)
  | count + 1, index, offset => do
    let (item, next) ← read index offset
    let (items, final) ← readMany read count (index + 1) next
    .ok (item :: items, final)

/-- A reader accepts the encodings of items, and nothing else. -/
def Inverts (read : Nat → Nat → Except ε (α × Nat)) (encode : α → List β)
    (buffer : List β) : Prop :=
  ∀ index offset item next, read index offset = .ok (item, next) ↔
    At buffer offset (encode item) ∧ next = offset + (encode item).length

/-- A loop over such a reader accepts the encodings of lists of items. -/
theorem readMany_eq_ok {read : Nat → Nat → Except ε (α × Nat)}
    {encode : α → List β} (hread : Inverts read encode buffer)
    {count index final : Nat} {items : List α} :
    readMany read count index offset = .ok (items, final) ↔
      items.length = count ∧ At buffer offset (items.flatMap encode) ∧
        final = offset + (items.flatMap encode).length := by
  induction count generalizing index offset items final with
  | zero =>
    cases items with
    | nil => simp [readMany, at_nil, eq_comm]
    | cons item items => simp [readMany]
  | succ count ih =>
    unfold readMany
    simp only [Fallible.bind_eq_ok, Prod.exists, hread index offset, ih,
      Except.ok.injEq, Prod.mk.injEq]
    cases items with
    | nil => simp
    | cons item items =>
      simp only [List.cons.injEq, List.flatMap_cons, at_append,
        List.length_cons, List.length_append, Nat.add_right_cancel_iff]
      constructor
      · rintro ⟨_, _, ⟨hfirst, rfl⟩, _, _, ⟨hlength, hrest, rfl⟩,
          ⟨rfl, rfl⟩, rfl⟩
        exact ⟨hlength, ⟨hfirst, hrest⟩, Nat.add_assoc _ _ _⟩
      · rintro ⟨hlength, ⟨hfirst, hrest⟩, rfl⟩
        exact ⟨item, _, ⟨hfirst, rfl⟩, items, _, ⟨hlength, hrest, rfl⟩,
          ⟨rfl, rfl⟩, Nat.add_assoc _ _ _⟩

end RecordStream
