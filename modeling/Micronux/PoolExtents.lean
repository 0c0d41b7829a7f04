/-
The search for the place of a new arena: the loop visits every maximal free run
of the pool once, from left to right, and keeps the first of the longest.
-/
import Micronux.PoolExact

namespace Micronux

open Concurrent

def FreePages (reserved : Bitmap) (first count : Nat) : Prop :=
  ∀ page, first ≤ page → page < first + count → reserved page = false

/-- A run of free pages that cannot be extended to either side. -/
structure FreeRun (reserved : Bitmap) (pages start length : Nat) : Prop where
  pos : 0 < length
  fits : start + length ≤ pages
  clear : FreePages reserved start length
  left : start = 0 ∨ reserved (start - 1) = true
  right : start + length = pages ∨ reserved (start + length) = true

section Runs

variable {reserved : Bitmap} {pages start length other count : Nat}

/-- Two free runs of one start are the same. -/
theorem FreeRun.length_unique (hrun : FreeRun reserved pages start length)
    (hother : FreeRun reserved pages start count) : length = count := by
  -- the longer one would contain the page that ends the shorter one
  have hends : ∀ {short long : Nat}, FreeRun reserved pages start short →
      FreeRun reserved pages start long → ¬ short < long := by
    intro short long hshort hlong hlt
    have hfits := hlong.fits
    rcases hshort.right with hend | hset
    · omega
    · rw [hlong.clear (start + short) (by omega) (by omega)] at hset
      cases hset
  have hle := hends hrun hother
  have hge := hends hother hrun
  omega

/-- No free run starts on a page behind a free one. -/
theorem FreeRun.not_inside (hother : FreeRun reserved pages other count)
    (hfree : reserved (other - 1) = false) : other = 0 := by
  rcases hother.left with hzero | hset
  · exact hzero
  · rw [hfree] at hset
    cases hset

theorem FreeRun.start_free (hrun : FreeRun reserved pages start length) :
    start < pages ∧ reserved start = false := by
  have hpos := hrun.pos
  have hfits := hrun.fits
  exact ⟨by omega, hrun.clear start le_rfl (by omega)⟩

/-- A range of free pages ends before the next reserved one. -/
theorem FreePages.le_findNextBit (hfree : FreePages reserved start length)
    (hfits : start + length ≤ pages) :
    start + length ≤ reserved.findNextBit pages start := by
  by_contra hshort
  have hle := Bitmap.le_findNextBit reserved (by omega : start ≤ pages)
  have hset := Bitmap.findNextBit_found
    (by omega : reserved.findNextBit pages start < pages)
  rw [hfree _ hle (by omega)] at hset
  cases hset

/-- The free run that starts behind a reserved page, or with the pool. -/
theorem freeRun_of_start (hlt : start < pages) (hfree : reserved start = false)
    (hleft : start = 0 ∨ reserved (start - 1) = true) :
    FreeRun reserved pages start (reserved.findNextBit pages start - start) := by
  have hupper := reserved.findNextBit_le pages start
  have hone : FreePages reserved start 1 := by
    intro page hlo hhi
    obtain rfl : page = start := by omega
    exact hfree
  have hlower := hone.le_findNextBit (by omega : start + 1 ≤ pages)
  refine ⟨by omega, by omega, ?_, hleft, ?_⟩
  · intro page hlo hhi
    have hskipped : page < reserved.findNextBit pages start := by omega
    exact Bitmap.findNextBit_skipped hlo hskipped
  · rw [Nat.add_sub_cancel' (by omega)]
    rcases Nat.eq_or_lt_of_le hupper with hend | hinside
    · exact .inl hend
    · exact .inr (Bitmap.findNextBit_found hinside)

end Runs

section Loop

variable {reserved : Bitmap} {pages cursor : Nat} {best : Nat × Nat}

/-- The loop has seen all runs that start before the cursor: there is none, or
`best` is the first of the longest. -/
inductive Visited (reserved : Bitmap) (pages cursor : Nat) : Nat × Nat → Prop
  | nothing (hnone : ∀ other count, FreeRun reserved pages other count →
      cursor ≤ other) : Visited reserved pages cursor (0, pages)
  | found {length start : Nat} (hrun : FreeRun reserved pages start length)
      (hbefore : start < cursor)
      (hbest : ∀ other count, FreeRun reserved pages other count →
        other < cursor → count ≤ length ∧ (count = length → start ≤ other)) :
      Visited reserved pages cursor (length, start)

section

variable (hvisited : Visited reserved pages cursor best)

include hvisited

/-- No run starts behind the pool. -/
theorem Visited.all (hrest : ∀ other count, FreeRun reserved pages other count →
      other < cursor) : Visited reserved pages pages best := by
  cases hvisited with
  | nothing hnone =>
    refine .nothing fun other count hrun => ?_
    have hlow := hnone other count hrun
    have hhigh := hrest other count hrun
    omega
  | found hrun hbefore hbest =>
    exact .found hrun hrun.start_free.1 fun other count hother _ =>
      hbest other count hother (hrest other count hother)

/-- One round: the next run is the only one that starts between the cursor and
the end of it. -/
theorem Visited.round {start stop : Nat}
    (hcursor : cursor = 0 ∨ reserved (cursor - 1) = true) (hlt : cursor < pages)
    (hstart : start = reserved.findNextZeroBit pages cursor)
    (hinside : start < pages)
    (hstop : stop = reserved.findNextBit pages start) :
    Visited reserved pages (stop + 1)
      (if best.1 < stop - start then (stop - start, start) else best) := by
  have hlow : cursor ≤ start :=
    hstart ▸ Bitmap.le_findNextZeroBit reserved hlt.le
  have hfree : reserved start = false := by
    rw [hstart] at hinside ⊢
    exact Bitmap.findNextZeroBit_found hinside
  have hskipped : ∀ page, cursor ≤ page → page < start →
      reserved page = true := by
    rw [hstart]
    exact fun page hlo hhi => Bitmap.findNextZeroBit_skipped hlo hhi
  have hrun : FreeRun reserved pages start (stop - start) := by
    rw [hstop]
    refine freeRun_of_start hinside hfree ?_
    rcases Nat.eq_or_lt_of_le hlow with hsame | hbehind
    · exact hsame ▸ hcursor
    · exact .inr (hskipped (start - 1) (by omega) (by omega))
  have hpos := hrun.pos
  have honly : ∀ other count, FreeRun reserved pages other count →
      cursor ≤ other → other < stop + 1 →
      other = start ∧ count = stop - start := by
    intro other count hother hlo hhi
    rcases Nat.lt_trichotomy other start with hbefore | rfl | hbehind
    · have hset := hskipped other hlo hbefore
      rw [hother.start_free.2] at hset
      cases hset
    · exact ⟨rfl, hother.length_unique hrun⟩
    · have hzero := hother.not_inside
        (hrun.clear (other - 1) (by omega) (by omega))
      omega
  split
  · next hlonger =>
      refine .found hrun (by omega) fun other count hother hbefore => ?_
      by_cases hnew : cursor ≤ other
      · obtain ⟨rfl, rfl⟩ := honly other count hother hnew hbefore
        exact ⟨le_rfl, fun _ => le_rfl⟩
      · cases hvisited with
        | nothing hnone => exact absurd (hnone other count hother) hnew
        | found _ _ hbest =>
          have hold := (hbest other count hother (Nat.lt_of_not_le hnew)).1
          simp only at hlonger
          exact ⟨by omega, fun hequal => by omega⟩
  · next hshorter =>
      cases hvisited with
      | nothing hnone => exact absurd hpos hshorter
      | found hold hbefore hbest =>
        refine .found hold (by omega) fun other count hother hless => ?_
        by_cases hnew : cursor ≤ other
        · obtain ⟨rfl, rfl⟩ := honly other count hother hnew hless
          exact ⟨Nat.le_of_not_lt hshorter, fun _ => by omega⟩
        · exact hbest other count hother (Nat.lt_of_not_le hnew)

end

end Loop

section Place

variable {pool : Pool} {nrPages : Nat}

/-- A range of free pages that an arena can be placed in. -/
def Fits (pool : Pool) (nrPages : Nat) : Prop :=
  ∃ start, start + nrPages ≤ pool.userPages ∧
    FreePages pool.reserved start nrPages

/-- No free run leaves more room behind an arena of this size than the one it
is placed in. -/
def MostRoom (pool : Pool) (first nrPages : Nat) : Prop :=
  ∀ start room, start + (nrPages + room) ≤ pool.userPages →
    FreePages pool.reserved start (nrPages + room) →
    first + (nrPages + room) ≤ pool.userPages ∧
      FreePages pool.reserved first (nrPages + room)

/-- The mm has an arena or bounds already. -/
def Pool.Busy (pool : Pool) (mm : Mm) : Prop :=
  (pool.context mm).userArena ≠ none ∨ (pool.context mm).userBoundsValid = true

/-- What the locked part of `micronux_user_arena_prepare` decides: it runs out
of memory exactly if no range of free pages is long enough, and otherwise takes
the one with the most room. -/
inductive Placing (pool : Pool) (mm : Mm) (id : ArenaId) (nrPages : Nat) : Prop
  | busy (hbusy : pool.Busy mm)
      (hreply : (prepareSection mm id nrPages pool).2 = .error .ebusy)
  | full (hidle : ¬ pool.Busy mm)
      (hreply : (prepareSection mm id nrPages pool).2 = .error .enomem)
      (hnofit : ¬ Fits pool nrPages)
  | placed (hidle : ¬ pool.Busy mm) (index : Nat)
      (hreply : (prepareSection mm id nrPages pool).2 = .ok index)
      (hfits : Fits pool nrPages)
      (hlive : id ∈ (prepareSection mm id nrPages pool).1.live)
      (hfirst : ((prepareSection mm id nrPages pool).1.heap id).first = index)
      (hsize : ((prepareSection mm id nrPages pool).1.heap id).reservedPages =
        nrPages)
      (hroom : MostRoom pool index nrPages)

/-- What a call of `micronux_user_arena_prepare` that reaches its locked part
answers, by the pool in which that part runs. -/
structure Decides (mm : Mm) (nrPages : Nat) (locked after : Pool)
    (reply : Except Errno Unit) : Prop where
  busy : locked.Busy mm → reply = .error .ebusy
  full : ¬ locked.Busy mm → (reply = .error .enomem ↔ ¬ Fits locked nrPages)
  placed : ¬ locked.Busy mm → Fits locked nrPages → reply = .ok () ∧
    ∃ id ∈ after.live, (after.heap id).reservedPages = nrPages ∧
      MostRoom locked (after.heap id).first nrPages

theorem Placing.decides {mm : Mm} {id : ArenaId}
    {reply : Except Errno Unit} (hplacing : Placing pool mm id nrPages)
    (hreply : reply = (prepareSection mm id nrPages pool).2.map fun _ => ()) :
    Decides mm nrPages pool (prepareSection mm id nrPages pool).1 reply := by
  cases hplacing with
  | busy hbusy hlocked =>
    rw [hlocked] at hreply
    exact ⟨fun _ => hreply, fun hidle => absurd hbusy hidle,
      fun hidle => absurd hbusy hidle⟩
  | full hidle hlocked hnofit =>
    rw [hlocked] at hreply
    exact ⟨fun hbusy => absurd hbusy hidle,
      fun _ => iff_of_true hreply hnofit, fun _ hfits => absurd hfits hnofit⟩
  | placed hidle index hlocked hfits hlive hfirst hsize hroom =>
    rw [hlocked] at hreply
    refine ⟨fun hbusy => absurd hbusy hidle, fun _ => iff_of_false ?_
      (not_not.mpr hfits), fun _ _ => ⟨hreply, id, hlive, hsize,
        hfirst ▸ hroom⟩⟩
    rw [hreply]
    exact nofun

end Place

end Micronux
