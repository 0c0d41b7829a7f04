/-
The representation invariant of the user pool, and what each locked section
and each store does to it.  Owner table, bitmaps, counters and arenas describe
one set of disjoint page intervals, and what an mm publishes lies inside its
own arena on pages it has zeroed.
-/
import Micronux.UserPool
import Mathlib.Algebra.BigOperators.Group.Finset.Basic

namespace Micronux

open Concurrent

def pageBase (page : Nat) : Nat :=
  userPoolStart.toNat + page * pageSize

def poolPages : Nat := 2048

namespace Arena

def Holds (arena : Arena) (page : Nat) : Prop :=
  arena.first ≤ page ∧ page < arena.first + arena.reservedPages

instance (arena : Arena) (page : Nat) : Decidable (arena.Holds page) :=
  inferInstanceAs (Decidable (_ ∧ _))

/-- A non-empty interval inside the pool, with its mapped pages inside it. -/
structure WellFormed (arena : Arena) : Prop where
  reserved_pos : 0 < arena.reservedPages
  fits : arena.first + arena.reservedPages ≤ poolPages
  mapped_lt : ∀ index, arena.mapped index = true → index < arena.reservedPages
  mapped_count : arena.mappedPages = arena.mapped.weight arena.reservedPages

/-- The later arena has the same first page and mm and is no shorter. -/
structure Extends (before after : Arena) : Prop where
  mm : after.mm = before.mm
  first : after.first = before.first
  reserved : before.reservedPages ≤ after.reservedPages

theorem Extends.refl (arena : Arena) : arena.Extends arena :=
  ⟨rfl, rfl, le_rfl⟩

end Arena

/-- The address range of pages `first … first + count - 1` meets the
executable interval of a context. -/
def MeetsText (context : MmContext) (first count : Nat) : Prop :=
  ∃ address, pageBase first ≤ address ∧ address < pageBase (first + count) ∧
    context.userLo.toNat ≤ address ∧ address < context.userExecHi.toNat

theorem meetsText_iff {context : MmContext} {first count : Nat} :
    MeetsText context first count ↔ max (pageBase first) context.userLo.toNat <
        min (pageBase (first + count)) context.userExecHi.toNat := by
  constructor
  · rintro ⟨address, hfirst, hlast, hlo, hexec⟩
    omega
  · intro hlt
    exact ⟨max (pageBase first) context.userLo.toNat, by omega⟩

instance (context : MmContext) (first count : Nat) :
    Decidable (MeetsText context first count) :=
  decidable_of_iff _ meetsText_iff.symm

def MmContext.Split (context : MmContext) : Prop :=
  context.userBoundsValid = true ∧ context.userWxValid = true

instance (context : MmContext) : Decidable context.Split :=
  inferInstanceAs (Decidable (_ ∧ _))

/-- The event leaves the text of a finalized mm mapped: a free does not touch
it, and all of it is mapped when the split is published. -/
def PoolEvent.KeepsText : PoolEvent → Prop
  | .mapped _ _ _ _ => True
  | .unmapped _ first count context =>
    context.Split → ¬ MeetsText context first count
  | .finalized _ arena context =>
    ∀ page, arena.Holds page → pageBase page < context.userExecHi.toNat →
      arena.mapped (page - arena.first) = true

instance : (event : PoolEvent) → Decidable event.KeepsText
  | .mapped _ _ _ _ => .isTrue trivial
  | .unmapped _ _ _ _ => inferInstanceAs (Decidable (_ → ¬ _))
  | .finalized _ arena context =>
    decidable_of_iff (∀ page, page < arena.first + arena.reservedPages →
      arena.first ≤ page → pageBase page < context.userExecHi.toNat →
      arena.mapped (page - arena.first) = true)
    ⟨fun hall page hholds => hall page hholds.2 hholds.1,
      fun hall page hlast hfirst => hall page ⟨hfirst, hlast⟩⟩

/-- The event hands out no page of the text of a finalized mm. -/
def PoolEvent.SparesText : PoolEvent → Prop
  | .mapped _ first count context =>
    context.Split → ¬ MeetsText context first count
  | _ => True

/-- The arrangement of the pool that initialization leaves. -/
structure Pool.Layout (pool : Pool) : Prop where
  ready : pool.ready = true
  start : pool.userStart = userPoolStart
  stop : pool.userEnd = userPoolEnd
  pages : pool.userPages = poolPages

/-- The bounds lie inside the arena, on pages that the mm has zeroed. -/
structure Pool.Publishes (pool : Pool) (mm : Mm) (context : MmContext)
    (id : ArenaId) (count : Nat) : Prop where
  arena : context.userArena = some id
  count_pos : 0 < count
  count_le : count ≤ (pool.heap id).reservedPages
  lo : context.userLo.toNat = pageBase (pool.heap id).first
  hi : context.userHi.toNat = pageBase ((pool.heap id).first + count)
  zeroed : ∀ page, (pool.heap id).first ≤ page →
    page < (pool.heap id).first + count → pool.zeroedBy page = some mm

/-- The executable interval splits the bounds at a PMP granule. -/
structure MmContext.SplitOk (context : MmContext) : Prop where
  lo_lt : context.userLo.toNat < context.userExecHi.toNat
  lt_hi : context.userExecHi.toNat < context.userHi.toNat
  aligned : context.userExecHi.toNat % pmpGranularity = 0
  sigreturn : context.userSigreturn = context.userLo

def Pool.TextMapped (pool : Pool) (context : MmContext) : Prop :=
  ∀ id, context.userArena = some id → ∀ page, (pool.heap id).Holds page →
    pageBase page < context.userExecHi.toNat →
    (pool.heap id).mapped (page - (pool.heap id).first) = true

def Pool.TextKept (pool : Pool) : Prop :=
  ∀ event ∈ pool.events, event.KeepsText

instance (pool : Pool) : Decidable pool.TextKept :=
  inferInstanceAs (Decidable (∀ event ∈ pool.events, event.KeepsText))

/-- What holds of the context of an mm at every moment. -/
structure Pool.ContextOk (pool : Pool) (mm : Mm) (context : MmContext) :
    Prop where
  arena : ∀ id, context.userArena = some id →
    id ∈ pool.live ∧ (pool.heap id).mm = mm
  bounds : context.userBoundsValid = true →
    ∃ id count, pool.Publishes mm context id count
  split : context.Split → context.SplitOk
  text : pool.TextKept → context.Split → pool.TextMapped context

/-- What holds of the pool at every moment. -/
structure PoolInv (pool : Pool) : Prop where
  layout : pool.Layout
  allocated : ∀ id ∈ pool.live, pool.allocated id = true
  arena : ∀ id ∈ pool.live, (pool.heap id).WellFormed
  owner : ∀ page id, pool.owner page = some id ↔
    id ∈ pool.live ∧ (pool.heap id).Holds page
  reserved : ∀ page, pool.reserved page = true ↔ pool.owner page ≠ none
  reserved_sum :
    pool.reservedPages = ∑ id ∈ pool.live, (pool.heap id).reservedPages
  mapped_sum : pool.mappedPages = ∑ id ∈ pool.live, (pool.heap id).mappedPages
  arenas_card : pool.arenas = pool.live.card
  context : ∀ mm, pool.ContextOk mm (pool.context mm)
  clean : ∀ page mm, page < poolPages → pool.zeroedBy page = some mm →
    ∀ address, pageBase page ≤ address → address < pageBase (page + 1) →
      pool.writer address = none ∨ pool.writer address = some mm
  spared : pool.TextKept → ∀ event ∈ pool.events, event.SparesText

theorem pageBase_add (page count : Nat) :
    pageBase (page + count) = pageBase page + count * pageSize := by
  simp only [pageBase, Nat.add_mul, Nat.add_assoc]

theorem pageBase_lt {left right : Nat} :
    pageBase left < pageBase right ↔ left < right := by
  simp only [pageBase, pageSize]
  omega

theorem pageBase_le {left right : Nat} :
    pageBase left ≤ pageBase right ↔ left ≤ right := by
  simp only [pageBase, pageSize]
  omega

theorem pageBase_poolPages : pageBase poolPages = userPoolEnd.toNat := rfl

theorem toNat_userPoolStart : userPoolStart.toNat = 0x49700000 := rfl

/-- No page address of the pool overflows a word. -/
theorem Pool.Layout.toNat_pageAddress {pool : Pool} (hlayout : pool.Layout)
    {page : Nat} (hpage : page ≤ poolPages) :
    (pool.pageAddress page).toNat = pageBase page := by
  unfold poolPages at hpage
  simp only [Pool.pageAddress, hlayout.start, pageBase, pageSize,
    BitVec.toNat_add, BitVec.toNat_shiftLeft, BitVec.toNat_ofNat,
    Nat.shiftLeft_eq, toNat_userPoolStart]
  omega

end Micronux
