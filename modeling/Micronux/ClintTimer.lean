/-
The loader reads the 64-bit machine timer by its two 32-bit registers while
the counter goes on.  What a read returns is a value that the counter held.
-/
import Mathlib.Order.Nat

namespace Micronux

/-- The halves of the timer of the CLINT. -/
inductive ClintRegister where
  | mtimelo
  | mtimehi
deriving DecidableEq, Repr

/-- The values of the 64-bit counter over time: it never goes back, so it does
not wrap. -/
structure Mtime (Instant : Type) [Preorder Instant] where
  count : Instant → BitVec 64
  monotone : ∀ {earlier later : Instant}, earlier ≤ later →
    count earlier ≤ count later

/-- The instants of the register reads of the hart, in program order.  Any
time may pass between two of them. -/
structure ReadTimes (Instant : Type) [Preorder Instant] where
  instant : Nat → Instant
  monotone : ∀ {earlier later : Nat}, earlier ≤ later →
    instant earlier ≤ instant later

section

variable {Instant : Type} [Preorder Instant] (timer : Mtime Instant)
  (reads : ReadTimes Instant)

/-- `read_reg32` of a half of the timer, at one instant. -/
def Mtime.readReg32 (register : ClintRegister) (instant : Instant) :
    BitVec 32 :=
  match register with
  | .mtimelo => (timer.count instant).setWidth 32
  | .mtimehi => (timer.count instant >>> 32).setWidth 32

theorem Mtime.high_toNat (instant : Instant) :
    (timer.readReg32 .mtimehi instant).toNat =
      (timer.count instant).toNat / 4294967296 := by
  have hbound := (timer.count instant).isLt
  simp only [Mtime.readReg32, BitVec.toNat_setWidth, BitVec.toNat_ushiftRight,
    Nat.shiftRight_eq_div_pow]
  omega

theorem Mtime.high_mono {earlier later : Instant} (horder : earlier ≤ later) :
    (timer.readReg32 .mtimehi earlier).toNat ≤
      (timer.readReg32 .mtimehi later).toNat := by
  rw [timer.high_toNat, timer.high_toNat]
  exact Nat.div_le_div_right (BitVec.le_def.mp (timer.monotone horder))

/-- An iteration that is repeated saw a carry into the high half, so the next
one starts at a larger high half. -/
theorem Mtime.high_lt_of_ne {next : Nat}
    (hcarry : timer.readReg32 .mtimehi (reads.instant next) ≠
      timer.readReg32 .mtimehi (reads.instant (next + 2))) :
    (timer.readReg32 .mtimehi (reads.instant next)).toNat <
      (timer.readReg32 .mtimehi (reads.instant (next + 3))).toNat := by
  have hduring := timer.high_mono (reads.monotone (Nat.le_add_right next 2))
  have hafter := timer.high_mono
    (reads.monotone (show next + 2 ≤ next + 3 from Nat.le_succ _))
  have hgrows := Nat.lt_of_le_of_ne hduring
    fun heq => hcarry (BitVec.eq_of_toNat_eq heq)
  exact Nat.lt_of_lt_of_le hgrows hafter

/-- `read_mtime` from the given read on: the value, and the number of the next
read of the hart.  The loop ends because the high half grows with every
repetition. -/
def readMtime (next : Nat) : BitVec 64 × Nat :=
  let highBefore := timer.readReg32 .mtimehi (reads.instant next)
  let low := timer.readReg32 .mtimelo (reads.instant (next + 1))
  let highAfter := timer.readReg32 .mtimehi (reads.instant (next + 2))
  if highBefore ≠ highAfter then readMtime (next + 3)
  else (highAfter.setWidth 64 <<< 32 ||| low.setWidth 64, next + 3)
termination_by
  4294967296 - (timer.readReg32 .mtimehi (reads.instant next)).toNat
decreasing_by
  next hcarry =>
    have hgrows := timer.high_lt_of_ne reads hcarry
    omega

/-- Two equal high halves hold at every instant between them, so they belong
to the low half that was read there. -/
theorem Mtime.join_eq {before during after : Instant}
    (hbefore : before ≤ during) (hafter : during ≤ after)
    (hhigh : timer.readReg32 .mtimehi before = timer.readReg32 .mtimehi after) :
    (timer.readReg32 .mtimehi after).setWidth 64 <<< 32 |||
        (timer.readReg32 .mtimelo during).setWidth 64 =
      timer.count during := by
  have hrise := timer.high_mono hbefore
  have hfall := timer.high_mono hafter
  rw [hhigh] at hrise
  have hsame := BitVec.eq_of_toNat_eq (Nat.le_antisymm hrise hfall)
  rw [hsame]
  simp only [Mtime.readReg32]
  apply BitVec.eq_of_getLsbD_eq
  intro bit hbit
  by_cases hlow : bit < 32
  · simp [hlow, hbit]
  · have hplace : 32 + (bit - 32) = bit := by omega
    have hinside : bit - 32 < 32 := by omega
    simp [hlow, hbit, hplace, hinside]

/-- The loop by its iterations: what holds of an iteration that returns, and
is kept by one that is repeated, holds of the read. -/
theorem readMtime_induction {motive : Nat → BitVec 64 × Nat → Prop}
    (done : ∀ next,
      motive next (timer.count (reads.instant (next + 1)), next + 3))
    (again : ∀ next result, motive (next + 3) result → motive next result)
    (start : Nat) : motive start (readMtime timer reads start) := by
  fun_induction readMtime timer reads start with
  | case1 next _ _ hcarry ih => exact again next _ ih
  | case2 next highBefore low highAfter hsame =>
    have hvalue := timer.join_eq (reads.monotone (Nat.le_add_right next 1))
      (reads.monotone (show next + 1 ≤ next + 2 from Nat.le_succ _))
      (not_not.mp hsame)
    rw [hvalue]
    exact done next

/-- A call takes effect at one of its reads: the value is the one that the
counter held there. -/
theorem exists_read_of_readMtime (start : Nat) :
    ∃ read, start ≤ read ∧ read < (readMtime timer reads start).2 ∧
      timer.count (reads.instant read) = (readMtime timer reads start).1 := by
  apply readMtime_induction timer reads
    (motive := fun start result => ∃ read, start ≤ read ∧ read < result.2 ∧
      timer.count (reads.instant read) = result.1)
  · intro next
    exact ⟨next + 1, by omega, by omega, rfl⟩
  · rintro next result ⟨read, hstart, hfinish, hvalue⟩
    exact ⟨read, by omega, hfinish, hvalue⟩

/-- `read_mtime` returns a value that the counter held between the call and
its return, so a call that starts after it, however much later, does not
return less. -/
theorem readMtime_linearizable (start idle : Nat) :
    (∃ read, start ≤ read ∧ read < (readMtime timer reads start).2 ∧
      timer.count (reads.instant read) = (readMtime timer reads start).1) ∧
      (readMtime timer reads start).1 ≤ (readMtime timer reads
          ((readMtime timer reads start).2 + idle)).1 := by
  have hfirst := exists_read_of_readMtime timer reads start
  refine ⟨hfirst, ?_⟩
  obtain ⟨first, -, hfinish, hvalue⟩ := hfirst
  obtain ⟨second, hstart, -, hlater⟩ := exists_read_of_readMtime timer reads
    ((readMtime timer reads start).2 + idle)
  rw [← hvalue, ← hlater]
  exact timer.monotone (reads.monotone (by omega))

end

/-- A counter that carries into its high half behind the first read. -/
def carryTimer : Mtime Nat where
  count instant := if instant = 0 then 0xffffffff#64 else 0x100000000#64
  monotone := by
    intro earlier later horder
    split
    · split <;> decide
    · rw [if_neg (by omega)]
      exact BitVec.le_refl _

def steadyReads : ReadTimes Nat where
  instant := id
  monotone := id

theorem readMtime_carryTimer :
    readMtime carryTimer steadyReads 0 = (0x100000000#64, 6) := by
  rw [readMtime, if_pos (by decide), readMtime, if_neg (by decide)]
  rfl

/-- The iteration that saw the carry is repeated. -/
theorem carryTimer_readMtime_linearizable : (∃ read, 0 ≤ read ∧ read < 6 ∧
      carryTimer.count (steadyReads.instant read) = 0x100000000#64) ∧
      0x100000000#64 ≤ (readMtime carryTimer steadyReads 6).1 := by
  have hread := readMtime_linearizable carryTimer steadyReads 0 0
  rwa [readMtime_carryTimer] at hread

end Micronux
