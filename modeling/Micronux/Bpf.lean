/-
The part of classic BPF that a seccomp filter by numbers uses: absolute loads,
equality jumps and returns.  Jumps only go forward, so a program runs behind
its first instruction as its tail does.
-/
import Mathlib.Data.List.Basic
import Mathlib.Tactic.Common

namespace Bpf

abbrev Word := BitVec 32

inductive Instr
  /-- `BPF_LD | BPF_W | BPF_ABS` -/
  | load (offset : Word)
  /-- `BPF_JMP | BPF_JEQ | BPF_K` -/
  | jumpEq (value : Word) (ifTrue ifFalse : BitVec 8)
  /-- `BPF_RET | BPF_K` -/
  | ret (value : Word)
deriving DecidableEq

abbrev Program := List Instr

structure State where
  pc : Nat
  accumulator : Word
deriving DecidableEq

/-- What one instruction leads to. -/
inductive Outcome
  | running (state : State)
  | returned (value : Word)
  | outside
deriving DecidableEq

def jumpOffset (accumulator value : Word) (ifTrue ifFalse : BitVec 8) : Nat :=
  if accumulator = value then ifTrue.toNat else ifFalse.toNat

def step (input : Word → Word) (program : Program) (state : State) : Outcome :=
  match program[state.pc]? with
  | none => .outside
  | some (.load offset) => .running ⟨state.pc + 1, input offset⟩
  | some (.jumpEq value ifTrue ifFalse) =>
    .running ⟨state.pc + 1 +
      jumpOffset state.accumulator value ifTrue ifFalse, state.accumulator⟩
  | some (.ret value) => .returned value

/-- The value returned within `fuel` steps. -/
def run (input : Word → Word) (program : Program) : Nat → State → Option Word
  | 0, _ => none
  | fuel + 1, state =>
    match step input program state with
    | .running next => run input program fuel next
    | .returned value => some value
    | .outside => none

variable {input : Word → Word} {program : Program}

theorem step_cons (instr : Instr) (pc : Nat) (accumulator : Word) :
    step input (instr :: program) ⟨pc + 1, accumulator⟩ =
      match step input program ⟨pc, accumulator⟩ with
      | .running next => .running ⟨next.pc + 1, next.accumulator⟩
      | .returned value => .returned value
      | .outside => .outside := by
  simp only [step, List.getElem?_cons_succ]
  cases program[pc]? with
  | none => rfl
  | some found =>
    cases found with
    | load offset => rfl
    | jumpEq value ifTrue ifFalse =>
      simp only [Nat.add_right_comm]
    | ret value => rfl

theorem run_cons (instr : Instr) (fuel pc : Nat) (accumulator : Word) :
    run input (instr :: program) fuel ⟨pc + 1, accumulator⟩ =
      run input program fuel ⟨pc, accumulator⟩ := by
  induction fuel generalizing pc accumulator with
  | zero => rfl
  | succ fuel ih =>
    rw [run, run, step_cons]
    cases step input program ⟨pc, accumulator⟩ with
    | running next => exact ih next.pc next.accumulator
    | returned value | outside => rfl

theorem run_load (offset : Word) (fuel : Nat) (accumulator : Word) :
    run input (.load offset :: program) (fuel + 1) ⟨0, accumulator⟩ =
      run input program fuel ⟨0, input offset⟩ :=
  run_cons (.load offset) fuel 0 (input offset)

theorem run_jumpEq (value : Word) (ifTrue ifFalse : BitVec 8) (fuel : Nat)
    (accumulator : Word) :
    run input (.jumpEq value ifTrue ifFalse :: program) (fuel + 1)
        ⟨0, accumulator⟩ =
      run input program fuel
        ⟨jumpOffset accumulator value ifTrue ifFalse, accumulator⟩ := by
  rw [← run_cons (.jumpEq value ifTrue ifFalse) fuel, run]
  simp only [step, List.getElem?_cons_zero, Nat.zero_add, Nat.add_comm 1]

theorem run_ret (value : Word) (fuel : Nat) (accumulator : Word) :
    run input (.ret value :: program) (fuel + 1) ⟨0, accumulator⟩ =
      some value :=
  rfl

/-- Every successor is one of the next `count` instructions. -/
def Instr.Fits (count : Nat) : Instr → Prop
  | .load _ => 0 < count
  | .jumpEq _ ifTrue ifFalse => ifTrue.toNat < count ∧ ifFalse.toNat < count
  | .ret _ => True

/-- No instruction leads out of the program. -/
def Closed (program : Program) : Prop :=
  ∀ (pc : Nat) (instr : Instr), program[pc]? = some instr →
    instr.Fits (program.length - (pc + 1))

theorem closed_nil : Closed [] := by
  intro pc instr hinstr
  simp at hinstr

theorem Closed.cons {instr : Instr} (hfits : instr.Fits program.length)
    (hclosed : Closed program) : Closed (instr :: program) := by
  intro pc found hfound
  cases pc with
  | zero =>
    obtain rfl : instr = found := by simpa using hfound
    simpa using hfits
  | succ pc =>
    rw [List.getElem?_cons_succ] at hfound
    have hrest : (instr :: program).length - (pc + 1 + 1) =
        program.length - (pc + 1) := by
      rw [List.length_cons]
      omega
    rw [hrest]
    exact hclosed pc found hfound

end Bpf
