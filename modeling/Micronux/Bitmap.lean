/-
Bitmaps with the search and range operations of the kernel's bitmap library.
The searches return the size of the bitmap, or an index past it, when nothing
is found.
-/
import Mathlib.Data.Finset.Card
import Mathlib.Data.Finset.Range
import Mathlib.Order.Interval.Finset.Nat
import Mathlib.Data.Set.Card

/-- A bitmap; bit `index` is set when the value there is `true`. -/
abbrev Bitmap := Nat → Bool

namespace Bitmap

def empty : Bitmap := fun _ => false

/-- The first of the `count` positions from `start` on that satisfies `test`,
or the position after them. -/
def scan (test : Nat → Bool) (start : Nat) : Nat → Nat
  | 0 => start
  | count + 1 => if test start then start else scan test (start + 1) count

/-- `find_next_bit` -/
def findNextBit (map : Bitmap) (size start : Nat) : Nat :=
  if start < size then scan map start (size - start) else size

/-- `find_next_zero_bit` -/
def findNextZeroBit (map : Bitmap) (size start : Nat) : Nat :=
  findNextBit (fun index => !map index) size start

/-- `bitmap_set` -/
def setRange (map : Bitmap) (start count : Nat) : Bitmap :=
  fun index => decide (start ≤ index ∧ index < start + count) || map index

/-- `bitmap_clear` -/
def clearRange (map : Bitmap) (start count : Nat) : Bitmap :=
  fun index => !decide (start ≤ index ∧ index < start + count) && map index

/-- The retry loop of `bitmap_find_next_zero_area` with no alignment.  Every
retry starts past a set bit, so `size + 1` rounds are enough. -/
def zeroAreaLoop (map : Bitmap) (size count : Nat) : Nat → Nat → Nat
  | 0, _ => size + count
  | fuel + 1, start =>
    let index := findNextZeroBit map size start
    let stop := index + count
    if size < stop then stop
    else
      let occupied := findNextBit map stop index
      if occupied < stop then zeroAreaLoop map size count fuel (occupied + 1)
      else index

/-- `bitmap_find_next_zero_area` with no alignment. -/
def findNextZeroArea (map : Bitmap) (size start count : Nat) : Nat :=
  zeroAreaLoop map size count (size + 1) start

@[simp] theorem setRange_apply (map : Bitmap) (start count index : Nat) :
    setRange map start count index = true ↔
      (start ≤ index ∧ index < start + count) ∨ map index = true := by
  simp [setRange]

@[simp] theorem clearRange_apply (map : Bitmap) (start count index : Nat) :
    clearRange map start count index = true ↔
      ¬ (start ≤ index ∧ index < start + count) ∧ map index = true := by
  simp only [clearRange, Bool.and_eq_true, Bool.not_eq_true',
    decide_eq_false_iff_not]

theorem scan_spec (test : Nat → Bool) (start count : Nat) :
    start ≤ scan test start count ∧ scan test start count ≤ start + count ∧
      (scan test start count < start + count →
        test (scan test start count) = true) ∧
      ∀ index, start ≤ index → index < scan test start count →
        test index = false := by
  induction count generalizing start with
  | zero =>
    refine ⟨le_rfl, le_rfl, fun hlt => absurd hlt (lt_irrefl _), ?_⟩
    intro index hstart hlt
    exact absurd hlt (not_lt.mpr hstart)
  | succ count ih =>
    by_cases htest : test start = true
    · simp only [scan, htest, if_true]
      refine ⟨le_rfl, by omega, fun _ => trivial, ?_⟩
      intro index hstart hlt
      omega
    · have hscan : scan test start (count + 1) =
          scan test (start + 1) count := by
        simp [scan, htest]
      obtain ⟨hlower, hupper, hfound, hskipped⟩ := ih (start + 1)
      rw [hscan]
      refine ⟨by omega, by omega, fun hlt => hfound (by omega), ?_⟩
      intro index hstart hlt
      rcases Nat.eq_or_lt_of_le hstart with rfl | hnext
      · simpa using htest
      · exact hskipped index hnext hlt

theorem findNextBit_le (map : Bitmap) (size start : Nat) :
    findNextBit map size start ≤ size := by
  unfold findNextBit
  split
  · have hspec := (scan_spec map start (size - start)).2.1
    omega
  · exact le_rfl

variable {size count index start : Nat} {map : Bitmap}

theorem le_findNextBit (map : Bitmap) (hstart : start ≤ size) :
    start ≤ findNextBit map size start := by
  unfold findNextBit
  split
  · exact (scan_spec map start (size - start)).1
  · exact hstart

/-- A search that ends early ends at a set bit. -/
theorem findNextBit_found (hfound : findNextBit map size start < size) :
    map (findNextBit map size start) = true := by
  unfold findNextBit at hfound ⊢
  split
  · next hlt =>
      rw [if_pos hlt] at hfound
      exact (scan_spec map start (size - start)).2.2.1 (by omega)
  · next hge =>
      rw [if_neg hge] at hfound
      exact absurd hfound (lt_irrefl _)

/-- Everything a search passes over is clear. -/
theorem findNextBit_skipped (hstart : start ≤ index)
    (hlt : index < findNextBit map size start) :
    map index = false := by
  have hsize := findNextBit_le map size start
  unfold findNextBit at hlt hsize
  split at hlt
  · exact (scan_spec map start (size - start)).2.2.2 index hstart hlt
  · omega

theorem le_findNextZeroBit (map : Bitmap) (hstart : start ≤ size) :
    start ≤ findNextZeroBit map size start :=
  le_findNextBit _ hstart

theorem findNextZeroBit_found (hfound : findNextZeroBit map size start < size) :
    map (findNextZeroBit map size start) = false :=
  (Bool.not_eq_true' _).mp (findNextBit_found hfound)

theorem findNextZeroBit_skipped (hstart : start ≤ index)
    (hlt : index < findNextZeroBit map size start) :
    map index = true := by
  simpa using findNextBit_skipped hstart hlt

/-- A range with no zero bit found in it is completely set. -/
theorem all_set_of_findNextZeroBit
    (hnone : ¬ findNextZeroBit map size start < size) :
    ∀ index, start ≤ index → index < size → map index = true := by
  intro index hstart hlt
  exact findNextZeroBit_skipped hstart (lt_of_lt_of_le hlt (not_lt.mp hnone))

/-- A range with no set bit found in it is completely clear. -/
theorem all_clear_of_findNextBit (hnone : ¬ findNextBit map size start < size) :
    ∀ index, start ≤ index → index < size → map index = false := by
  intro index hstart hlt
  exact findNextBit_skipped hstart (lt_of_lt_of_le hlt (not_lt.mp hnone))

/-- An area that fits is completely clear. -/
theorem zeroAreaLoop_clear {fuel : Nat}
    (hfits : zeroAreaLoop map size count fuel start + count ≤ size)
    (hcount : 0 < count) :
    ∀ index, zeroAreaLoop map size count fuel start ≤ index →
      index < zeroAreaLoop map size count fuel start + count →
      map index = false := by
  induction fuel generalizing start with
  | zero => simp only [zeroAreaLoop] at hfits; omega
  | succ fuel ih =>
    simp only [zeroAreaLoop] at hfits ⊢
    split at hfits
    · omega
    · next hstop =>
        rw [if_neg hstop]
        split at hfits
        · next hoccupied =>
            rw [if_pos hoccupied]
            exact ih hfits
        · next hoccupied =>
            rw [if_neg hoccupied]
            exact all_clear_of_findNextBit hoccupied

theorem findNextZeroArea_clear
    (hfits : findNextZeroArea map size start count + count ≤ size)
    (hcount : 0 < count) :
    ∀ index, findNextZeroArea map size start count ≤ index →
      index < findNextZeroArea map size start count + count →
      map index = false :=
  zeroAreaLoop_clear hfits hcount

/-- The search passes over no clear range. -/
theorem zeroAreaLoop_le {fuel first : Nat} (hcount : 0 < count)
    (hstart : start ≤ first) (hfits : first + count ≤ size)
    (hfuel : size < start + fuel)
    (hclear : ∀ index, first ≤ index → index < first + count →
      map index = false) :
    zeroAreaLoop map size count fuel start ≤ first := by
  induction fuel generalizing start with
  | zero => omega
  | succ fuel ih =>
    have hlower := le_findNextZeroBit map (by omega : start ≤ size)
    have hzero : findNextZeroBit map size start ≤ first := by
      by_contra hpassed
      have hset := findNextZeroBit_skipped hstart (Nat.lt_of_not_le hpassed)
      rw [hclear first le_rfl (by omega)] at hset
      cases hset
    simp only [zeroAreaLoop]
    rw [if_neg (by omega)]
    split
    · next hoccupied =>
        have hset := findNextBit_found hoccupied
        have hbehind := le_findNextBit map
          (Nat.le_add_right (findNextZeroBit map size start) count)
        -- the set bit is in front of the clear range
        refine ih ?_ (by omega)
        by_contra hinside
        rw [hclear _ (by omega) (by omega)] at hset
        cases hset
    · exact hzero

theorem findNextZeroArea_le {first : Nat} (hcount : 0 < count)
    (hstart : start ≤ first) (hfits : first + count ≤ size)
    (hclear : ∀ index, first ≤ index → index < first + count →
      map index = false) :
    findNextZeroArea map size start count ≤ first :=
  zeroAreaLoop_le hcount hstart hfits (by omega) hclear

/-- A range that is clear is found where the search starts. -/
theorem findNextZeroArea_start (hfits : start + count ≤ size)
    (hcount : 0 < count)
    (hclear : ∀ index, start ≤ index → index < start + count →
      map index = false) :
    findNextZeroArea map size start count = start := by
  have hzero : findNextZeroBit map size start = start := by
    have hlower := le_findNextZeroBit map (show start ≤ size by omega)
    by_contra hne
    have hlt : start < findNextZeroBit map size start := by omega
    have hset := findNextZeroBit_skipped le_rfl hlt
    rw [hclear start le_rfl (by omega)] at hset
    exact Bool.noConfusion hset
  have hoccupied : ¬ findNextBit map (start + count) start < start + count := by
    intro hlt
    have hset := findNextBit_found hlt
    rw [hclear _ (le_findNextBit map (by omega)) hlt] at hset
    exact Bool.noConfusion hset
  simp only [findNextZeroArea, zeroAreaLoop, hzero]
  rw [if_neg (by omega), if_neg hoccupied]

/-- The positions of the set bits below `size`. -/
def bits (map : Bitmap) (size : Nat) : Finset Nat :=
  (Finset.range size).filter fun index => map index = true

/-- The number of set bits below `size`. -/
def weight (map : Bitmap) (size : Nat) : Nat :=
  (bits map size).card

@[simp] theorem mem_bits :
    index ∈ bits map size ↔ index < size ∧ map index = true := by
  simp [bits]

@[simp] theorem weight_empty (size : Nat) : weight empty size = 0 := by
  simp [weight, bits, empty]

/-- The weight counts all set bits when there are none past the size. -/
theorem weight_eq_ncard (hbound : ∀ index, map index = true → index < size) :
    weight map size = Set.ncard { index | map index = true } := by
  rw [weight, ← Set.ncard_coe_finset]
  congr 1
  ext index
  simp only [Finset.mem_coe, mem_bits, Set.mem_ofPred_eq]
  exact ⟨fun hindex => hindex.2, fun hset => ⟨hbound index hset, hset⟩⟩

/-- Setting a clear range adds its length. -/
theorem weight_setRange (hfits : start + count ≤ size)
    (hclear : ∀ index, start ≤ index → index < start + count →
      map index = false) :
    weight (setRange map start count) size = weight map size + count := by
  have hsplit : bits (setRange map start count) size =
      bits map size ∪ Finset.Ico start (start + count) := by
    ext index
    simp only [mem_bits, setRange_apply, Finset.mem_union, Finset.mem_Ico]
    constructor
    · rintro ⟨hlt, hrange | hset⟩
      · exact .inr hrange
      · exact .inl ⟨hlt, hset⟩
    · rintro (⟨hlt, hset⟩ | hrange)
      · exact ⟨hlt, .inr hset⟩
      · exact ⟨by omega, .inl hrange⟩
  have hdisjoint : Disjoint (bits map size)
      (Finset.Ico start (start + count)) := by
    rw [Finset.disjoint_left]
    intro index hindex hrange
    rw [Finset.mem_Ico] at hrange
    rw [mem_bits, hclear index hrange.1 hrange.2] at hindex
    exact Bool.noConfusion hindex.2
  rw [weight, hsplit, Finset.card_union_of_disjoint hdisjoint, Nat.card_Ico,
    weight]
  omega

/-- Clearing a set range takes its length off. -/
theorem weight_clearRange (hfits : start + count ≤ size)
    (hset : ∀ index, start ≤ index → index < start + count → map index = true) :
    weight (clearRange map start count) size + count = weight map size := by
  have hclear : ∀ index, start ≤ index → index < start + count →
      clearRange map start count index = false := by
    intro index hstart hlt
    simp [clearRange, hstart, hlt]
  rw [← weight_setRange hfits hclear]
  congr 1
  funext index
  by_cases hrange : start ≤ index ∧ index < start + count
  · simp [setRange, hrange, hset index hrange.1 hrange.2]
  · simp [setRange, clearRange, hrange]

/-- A larger bitmap with no further set bit has the same weight. -/
theorem weight_extend {larger : Nat} (hle : size ≤ larger)
    (hbound : ∀ index, map index = true → index < size) :
    weight map larger = weight map size := by
  refine congrArg Finset.card ?_
  ext index
  simp only [mem_bits]
  constructor
  · intro hindex
    exact ⟨hbound index hindex.2, hindex.2⟩
  · intro hindex
    exact ⟨by omega, hindex.2⟩

end Bitmap
