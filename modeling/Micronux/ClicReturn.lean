/-
The CLIC part of `ret_from_exception` on revision 1 of the ESP32-P4, as an
assembly program for a hart whose mcause mirrors fields of mstatus and whose
mret restores the active interrupt level only in its interrupt form.
-/
import Mathlib.Logic.Function.Basic

namespace Micronux

inductive Privilege where
  | user
  | machine
deriving Repr, DecidableEq

inductive Reg where
  | a0
  | a1
  | a2
  | t0
  | t1
  | ra
  | gp
  | tp
deriving Repr, DecidableEq

/-- The words of `struct pt_regs` that the code loads from the stack. -/
structure TrapFrame where
  clicCause : BitVec 32
  ra : BitVec 32
  gp : BitVec 32
  tp : BitVec 32

inductive FrameSlot where
  | clicCause
  | ra
  | gp
  | tp
deriving Repr, DecidableEq

def TrapFrame.word (frame : TrapFrame) : FrameSlot → BitVec 32
  | .clicCause => frame.clicCause
  | .ra => frame.ra
  | .gp => frame.gp
  | .tp => frame.tp

inductive TrapCsr where
  | status
  | cause
  | epc
deriving Repr, DecidableEq

/-- The instructions that fall through to the next one. -/
inductive Op where
  | load (rd : Reg) (slot : FrameSlot)
  | li (rd : Reg) (value : BitVec 32)
  | and (rd left right : Reg)
  | or (rd left right : Reg)
  | andi (rd rs : Reg) (value : BitVec 32)
  | slli (rd rs : Reg) (amount : Nat)
  | la (rd : Reg) (label : Nat)
  | csrw (csr : TrapCsr) (rs : Reg)
deriving Repr, DecidableEq

inductive Instr where
  | op (op : Op)
  | bnez (rs : Reg) (label : Nat)
  | mret
deriving Repr, DecidableEq

/-- `SR_MPP` -/
def srMpp : BitVec 32 := 0x1800#32

/-- The saved cause with the MPP of the saved status. -/
def clicMerge : List Op := [ .load .a1 .clicCause, .li .t0 0x1800#32,
  .and .t1 .a0 .t0,
  .li .t0 0xcfffffff#32,
  .and .a1 .a1 .t0,
  .slli .t1 .t1 17,
  .or .a1 .a1 .t1]

/-- The first mret of a return to user mode goes to the trampoline in machine
mode, with an idle previous level and interrupts disabled. -/
def clicUnwind : List Op := [ .li .t0 0x00000fff#32, .and .t1 .a1 .t0,
  .li .t0 0xb0000000#32,
  .or .t1 .t1 .t0,
  .csrw .cause .t1,
  .li .t0 srMpp,
  .or .t1 .a0 .t0,
  .andi .t1 .t1 (-129),
  .csrw .status .t1,
  .la .t0 20,
  .csrw .epc .t0]

/-- `.Lesp32p4_clic_user_return` -/
def clicUserReturn : List Op := [ .li .t0 0x08000fff#32, .and .a1 .a1 .t0]

/-- `.Lesp32p4_clic_direct_return` -/
def clicDirectReturn : List Op := [ .csrw .cause .a1, .csrw .status .a0,
  .csrw .epc .a2,
  .load .ra .ra,
  .load .gp .gp,
  .load .tp .tp]

/-- From the load of the saved cause to the last mret.  `a0` holds the saved
status and `a2` the saved epc; the user return is at index 20 and the direct
return at index 22. -/
def clicReturn : List Instr :=
  clicMerge.map .op ++ .bnez .t1 22 :: (clicUnwind.map .op ++ .mret ::
      (clicUserReturn.map .op ++ (clicDirectReturn.map .op ++ [.mret])))

/-- The hart without its pc.  MPIE and MPP are one field each, which mstatus
and mcause both show.  `mrets` is the history of the executed mrets, latest
first: whether in interrupt form, and to which privilege. -/
structure ClicHart where
  reg : Reg → BitVec 32
  mode : Privilege
  mie : Bool
  mpie : Bool
  mpp : BitVec 2
  cause : BitVec 32
  epc : BitVec 32
  level : BitVec 8
  mrets : List (Bool × Privilege)

/-- Where the code lies, and what an mret leaves in MPIE and MPP. -/
structure ClicCore where
  address : Nat → BitVec 32
  locate : BitVec 32 → Option Nat
  locate_address : ∀ index, index < clicReturn.length →
    locate (address index) = some index
  mpieAfter : Bool
  mppAfter : BitVec 2

namespace ClicHart

def setReg (hart : ClicHart) (rd : Reg) (value : BitVec 32) : ClicHart :=
  { hart with reg := Function.update hart.reg rd value }

/-- A write to mstatus or mcause sets the fields that both show. -/
def writeCsr (hart : ClicHart) (csr : TrapCsr) (value : BitVec 32) :
    ClicHart :=
  match csr with
  | .status =>
    { hart with
      mie := value[3]
      mpie := value[7]
      mpp := value.extractLsb' 11 2 }
  | .cause =>
    { hart with
      cause := value
      mpie := value[27]
      mpp := value.extractLsb' 28 2 }
  | .epc => { hart with epc := value }

def interruptForm (hart : ClicHart) : Bool := hart.cause[31]

def mpil (hart : ClicHart) : BitVec 8 := hart.cause.extractLsb' 16 8

def enter (core : ClicCore) (hart : ClicHart) (mode : Privilege) : ClicHart :=
  { hart with
    mode := mode
    mie := hart.mpie
    mpie := core.mpieAfter
    mpp := core.mppAfter
    level := if hart.interruptForm then hart.mpil else hart.level
    mrets := (hart.interruptForm, mode) :: hart.mrets }

/-- An mret, with the pc it jumps to.  The interrupt form cannot enter user
mode, and privileges other than user and machine do not exist. -/
def mret (core : ClicCore) (hart : ClicHart) : Option (BitVec 32 × ClicHart) :=
  if hart.mpp = 0 then
    if hart.interruptForm then none else some (hart.epc, hart.enter core .user)
  else if hart.mpp = 3 then some (hart.epc, hart.enter core .machine)
  else none

end ClicHart

section Execute

variable (core : ClicCore) (frame : TrapFrame)

def Op.exec (hart : ClicHart) : Op → ClicHart
  | .load rd slot => hart.setReg rd (frame.word slot)
  | .li rd value => hart.setReg rd value
  | .and rd left right => hart.setReg rd (hart.reg left &&& hart.reg right)
  | .or rd left right => hart.setReg rd (hart.reg left ||| hart.reg right)
  | .andi rd rs value => hart.setReg rd (hart.reg rs &&& value)
  | .slli rd rs amount => hart.setReg rd (hart.reg rs <<< amount)
  | .la rd label => hart.setReg rd (core.address label)
  | .csrw csr rs => hart.writeCsr csr (hart.reg rs)

def clicStep (pc : BitVec 32) (hart : ClicHart) :
    Option (BitVec 32 × ClicHart) := do
  let index ← core.locate pc
  match ← clicReturn[index]? with
  | .op op => some (core.address (index + 1), op.exec core frame hart)
  | .bnez rs label =>
    some (core.address (if hart.reg rs ≠ 0 then label else index + 1), hart)
  | .mret => hart.mret core

/-- The hart runs from one state to another, and interrupts are disabled in
every state before the last. -/
inductive QuietRun : BitVec 32 → ClicHart → BitVec 32 → ClicHart → Prop
  | done (pc : BitVec 32) (hart : ClicHart) : QuietRun pc hart pc hart
  | next {pc pc' pc'' : BitVec 32} {hart hart' hart'' : ClicHart}
      (hmie : hart.mie = false)
      (hstep : clicStep core frame pc hart = some (pc', hart'))
      (hrest : QuietRun pc' hart' pc'' hart'') :
      QuietRun pc hart pc'' hart''

def execOps (ops : List Op) (hart : ClicHart) : ClicHart :=
  ops.foldl (Op.exec core frame) hart

def Quiet : List Op → ClicHart → Prop
  | [], _ => True
  | op :: rest, hart => (op.exec core frame hart).mie = false ∧
      Quiet rest (op.exec core frame hart)

end Execute

variable {core : ClicCore} {frame : TrapFrame} {hart : ClicHart}

theorem QuietRun.trans {pc pc' pc'' : BitVec 32} {hart hart' hart'' : ClicHart}
    (hleft : QuietRun core frame pc hart pc' hart')
    (hright : QuietRun core frame pc' hart' pc'' hart'') :
    QuietRun core frame pc hart pc'' hart'' := by
  induction hleft with
  | done pc hart => exact hright
  | next hmie hstep _ ih => exact .next hmie hstep (ih hright)

theorem QuietRun.single {pc pc' : BitVec 32} {hart hart' : ClicHart}
    (hmie : hart.mie = false)
    (hstep : clicStep core frame pc hart = some (pc', hart')) :
    QuietRun core frame pc hart pc' hart' :=
  .next hmie hstep (.done _ _)

/-- What stands at an index of the code is what the hart executes there. -/
theorem clicStep_address {index : Nat} {instr : Instr}
    (hcode : clicReturn[index]? = some instr) :
    clicStep core frame (core.address index) hart =
      match instr with
      | .op op => some (core.address (index + 1), op.exec core frame hart)
      | .bnez rs label =>
        some (core.address (if hart.reg rs ≠ 0 then label else index + 1), hart)
      | .mret => hart.mret core := by
  obtain ⟨hindex, -⟩ := List.getElem?_eq_some_iff.mp hcode
  simp only [clicStep, core.locate_address index hindex, hcode,
    Option.bind_eq_bind, Option.bind_some]
  cases instr <;> rfl

/-- A straight line of the code. -/
theorem quietRun_ops (ops : List Op) (index : Nat) (rest : List Instr)
    (hcode : clicReturn.drop index = ops.map .op ++ rest)
    (hmie : hart.mie = false) (hquiet : Quiet core frame ops hart) :
    QuietRun core frame (core.address index) hart
      (core.address (index + ops.length)) (execOps core frame ops hart) := by
  induction ops generalizing index hart with
  | nil => exact .done _ _
  | cons op ops ih =>
    have hhead : clicReturn[index]? = some (.op op) := by
      rw [← List.head?_drop, hcode]
      rfl
    have htail : clicReturn.drop (index + 1) = ops.map .op ++ rest := by
      rw [← List.tail_drop, hcode]
      rfl
    have hrun := ih (index + 1) htail hquiet.1 hquiet.2
    rw [Nat.add_right_comm, Nat.add_assoc] at hrun
    exact .next hmie (clicStep_address hhead) hrun

variable (core frame)

theorem quietRun_mret_user {index : Nat} (hcode : clicReturn[index]? = some .mret)
    (hmie : hart.mie = false) (hmpp : hart.mpp = 0)
    (hform : hart.interruptForm = false) :
    QuietRun core frame (core.address index) hart hart.epc
      (hart.enter core .user) := by
  apply QuietRun.single hmie
  rw [clicStep_address hcode]
  simp [ClicHart.mret, hmpp, hform]

theorem quietRun_mret_machine {index : Nat}
    (hcode : clicReturn[index]? = some .mret)
    (hmie : hart.mie = false) (hmpp : hart.mpp = 3) :
    QuietRun core frame (core.address index) hart hart.epc
      (hart.enter core .machine) := by
  apply QuietRun.single hmie
  rw [clicStep_address hcode]
  simp [ClicHart.mret, hmpp]

/-- The hart runs the code in machine mode, with interrupts disabled and the
saved status and epc in their registers. -/
structure Returning (hart : ClicHart) (status epc : BitVec 32) : Prop where
  status_eq : hart.reg .a0 = status
  epc_eq : hart.reg .a2 = epc
  mode : hart.mode = .machine
  disabled : hart.mie = false

variable {status epc : BitVec 32}

def statusMpp (status : BitVec 32) : BitVec 2 := status.extractLsb' 11 2

theorem status_and_mpp {status : BitVec 32} :
    status &&& 0x1800#32 = (statusMpp status).setWidth 32 <<< 11 := by
  apply BitVec.eq_of_getLsbD_eq
  intro i hi
  have hmask : ∀ i < 32, (0x1800#32).getLsbD i =
      (decide (11 ≤ i) && decide (i - 11 < 2)) := by decide
  simp only [statusMpp, BitVec.getLsbD_and, hmask i hi,
    BitVec.getLsbD_shiftLeft, BitVec.getLsbD_setWidth,
    BitVec.getLsbD_extractLsb']
  by_cases hlow : 11 ≤ i
  · have hsum : 11 + (i - 11) = i := by omega
    by_cases hhigh : i - 11 < 2
    · simp [hi, hlow, hhigh, hsum, Nat.not_lt.mpr hlow]
      omega
    · simp [hi, hlow, hhigh]
  · simp [hi, hlow, Nat.lt_of_not_le hlow]

def mergedCause (status clicCause : BitVec 32) : BitVec 32 :=
  clicCause &&& 0xcfffffff#32 ||| (status &&& 0x1800#32) <<< 17

/-- The first part merges the cause; frames of machine mode then skip the
unwinding. -/
theorem quietRun_merge (hreturning : Returning hart status epc) :
    ∃ merged, QuietRun core frame (core.address 0) hart
        (core.address (if statusMpp status = 0 then 8 else 22)) merged ∧
      Returning merged status epc ∧ merged.level = hart.level ∧
      merged.mrets = hart.mrets ∧
      merged.reg .a1 = mergedCause status frame.clicCause := by
  obtain ⟨rfl, rfl, hmode, hdisabled⟩ := hreturning
  have hops : QuietRun core frame (core.address 0) hart (core.address 7)
      (execOps core frame clicMerge hart) :=
    quietRun_ops clicMerge 0 _ rfl hdisabled ⟨hdisabled, hdisabled, hdisabled, hdisabled,
      hdisabled, hdisabled, hdisabled, trivial⟩
  refine ⟨execOps core frame clicMerge hart, hops.trans ?_,
    ⟨rfl, rfl, hmode, hdisabled⟩, rfl, rfl, rfl⟩
  have hmie : (execOps core frame clicMerge hart).mie = false := hdisabled
  apply QuietRun.single hmie
  have hcode : clicReturn[7]? = some (.bnez .t1 22) := rfl
  have ht1 : (execOps core frame clicMerge hart).reg .t1 =
      (hart.reg .a0 &&& 0x1800#32) <<< 17 := rfl
  have hzero : (hart.reg .a0 &&& 0x1800#32) <<< 17 = 0 ↔
      statusMpp (hart.reg .a0) = 0 := by
    rw [status_and_mpp]
    generalize statusMpp (hart.reg .a0) = mpp
    revert mpp
    decide
  rw [clicStep_address hcode]
  simp only [ht1, ne_eq, hzero, ite_not]

/-- The trampoline is to be entered in machine mode at level 0 with interrupts
disabled. -/
structure Unwound (hart : ClicHart) : Prop where
  mpp : hart.mpp = 3
  mie : hart.mie = false
  mpie : hart.mpie = false
  form : hart.interruptForm = true
  mpil : hart.mpil = 0

theorem unwound_execOps (hmie : (hart.reg .a0)[3] = false) :
    Unwound (execOps core frame clicUnwind hart) where
  mpp := by
    change ((hart.reg .a0 ||| srMpp) &&& -129).extractLsb' 11 2 = 3
    rw [BitVec.extractLsb'_and, BitVec.extractLsb'_or]
    generalize BitVec.extractLsb' 11 2 (hart.reg .a0) = mpp
    revert mpp
    decide
  mie := by
    change ((hart.reg .a0 ||| srMpp) &&& -129)[3] = false
    simp [hmie, srMpp]
  mpie := by
    change ((hart.reg .a0 ||| srMpp) &&& -129)[7] = false
    simp
  form := by
    change ((hart.reg .a1 &&& 0xfff#32) ||| 0xb0000000#32)[31] = true
    simp
  mpil := by
    change ((hart.reg .a1 &&& 0xfff#32) ||| 0xb0000000#32).extractLsb' 16 8 = 0
    rw [BitVec.extractLsb'_or, BitVec.extractLsb'_and]
    exact congrArg (· ||| _) BitVec.and_zero

section

variable (hreturning : Returning hart status epc)

include hreturning

/-- The first mret of a return to user mode. -/
theorem quietRun_unwind (hmie : status[3] = false) :
    ∃ after, QuietRun core frame (core.address 8) hart (core.address 20) after ∧
      Returning after status epc ∧ after.level = 0 ∧
      after.mrets = (true, .machine) :: hart.mrets := by
  obtain ⟨rfl, rfl, hmode, hdisabled⟩ := hreturning
  have hunwound : Unwound (execOps core frame clicUnwind hart) :=
    unwound_execOps core frame hmie
  -- only the write of the status touches MIE
  have hquiet : Quiet core frame clicUnwind hart :=
    ⟨hdisabled, hdisabled, hdisabled, hdisabled, hdisabled, hdisabled,
      hdisabled, hdisabled, hunwound.mie, hunwound.mie, hunwound.mie, trivial⟩
  have hops : QuietRun core frame (core.address 8) hart (core.address 19)
      (execOps core frame clicUnwind hart) :=
    quietRun_ops clicUnwind 8 _ rfl hdisabled hquiet
  have hcode : clicReturn[19]? = some .mret := rfl
  have hmret : QuietRun core frame (core.address 19)
      (execOps core frame clicUnwind hart) (core.address 20)
      ((execOps core frame clicUnwind hart).enter core .machine) :=
    quietRun_mret_machine core frame hcode hunwound.mie hunwound.mpp
  refine ⟨_, hops.trans hmret, ⟨rfl, rfl, rfl, hunwound.mpie⟩, ?_, ?_⟩
  · simp only [ClicHart.enter, hunwound.form, hunwound.mpil, if_true]
  · simp only [ClicHart.enter, hunwound.form]
    rfl

/-- The trampoline clears the interrupt bit. -/
theorem quietRun_user :
    ∃ after, QuietRun core frame (core.address 20) hart (core.address 22)
        after ∧
      Returning after status epc ∧ after.level = hart.level ∧
      after.mrets = hart.mrets ∧
      after.reg .a1 = hart.reg .a1 &&& 0x08000fff#32 := by
  obtain ⟨rfl, rfl, hmode, hdisabled⟩ := hreturning
  have hquiet : Quiet core frame clicUserReturn hart :=
    ⟨hdisabled, hdisabled, trivial⟩
  exact ⟨execOps core frame clicUserReturn hart,
    quietRun_ops clicUserReturn 20 _ rfl hdisabled hquiet,
    ⟨rfl, rfl, hmode, hdisabled⟩, rfl, rfl, rfl⟩

/-- The last part restores cause, status and epc, the status last. -/
theorem quietRun_direct (hmie : status[3] = false) :
    ∃ after, QuietRun core frame (core.address 22) hart (core.address 28)
        after ∧
      after.mie = false ∧ after.mpp = statusMpp status ∧
      after.mpie = status[7] ∧ after.epc = epc ∧
      after.cause = hart.reg .a1 ∧ after.level = hart.level ∧
      after.mrets = hart.mrets := by
  obtain ⟨rfl, rfl, hmode, hdisabled⟩ := hreturning
  have hquiet : Quiet core frame clicDirectReturn hart :=
    ⟨hdisabled, hmie, hmie, hmie, hmie, hmie, trivial⟩
  exact ⟨execOps core frame clicDirectReturn hart,
    quietRun_ops clicDirectReturn 22 _ rfl hdisabled hquiet, hmie, rfl, rfl, rfl, rfl, rfl, rfl⟩

/-- A frame of user mode is left through the trampoline: interrupts stay
disabled up to the second mret, which enters user mode at level 0. -/
theorem clicReturn_user (hmie : status[3] = false)
    (hmpp : statusMpp status = 0) :
    ∃ last, QuietRun core frame (core.address 0) hart epc last ∧
      last.mode = .user ∧ last.level = 0 ∧ last.mie = status[7] ∧
      last.mrets = (false, .user) :: (true, .machine) :: hart.mrets := by
  obtain ⟨merged, hmerge, hmerged, -, hmrets, -⟩ :=
    quietRun_merge core frame hreturning
  rw [if_pos hmpp] at hmerge
  obtain ⟨unwound, hunwind, hunwound, hlevel, hmrets'⟩ :=
    quietRun_unwind core frame hmerged hmie
  obtain ⟨clean, hclear, hclean, hlevel', hmrets'', ha1⟩ :=
    quietRun_user core frame hunwound
  obtain ⟨restored, hrestore, hdisabled, hmpp', hmpie, hepc, hcause, hlevel'',
    hmrets'''⟩ := quietRun_direct core frame hclean hmie
  have hform : restored.interruptForm = false := by
    rw [ClicHart.interruptForm, hcause, ha1]
    simp
  have hcode : clicReturn[28]? = some .mret := rfl
  have hmret := quietRun_mret_user core frame hcode hdisabled
    (hmpp'.trans hmpp) hform
  rw [hepc] at hmret
  refine ⟨restored.enter core .user,
    (((hmerge.trans hunwind).trans hclear).trans hrestore).trans hmret, rfl,
    ?_, hmpie, ?_⟩
  · simp [ClicHart.enter, hform, hlevel'', hlevel', hlevel]
  · simp only [ClicHart.enter, hform, hmrets, hmrets', hmrets'', hmrets''']

/-- A frame of machine mode returns directly, to the level of its saved cause
when that is an interrupt. -/
theorem clicReturn_machine (hmie : status[3] = false)
    (hmpp : statusMpp status = 3) :
    ∃ last, QuietRun core frame (core.address 0) hart epc last ∧
      last.mode = .machine ∧ last.mie = status[7] ∧
      last.level = (if frame.clicCause[31] then
        frame.clicCause.extractLsb' 16 8 else hart.level) ∧
      last.mrets = (frame.clicCause[31], .machine) :: hart.mrets := by
  obtain ⟨merged, hmerge, hmerged, hlevel, hmrets, ha1⟩ :=
    quietRun_merge core frame hreturning
  rw [if_neg (by rw [hmpp]; decide)] at hmerge
  obtain ⟨restored, hrestore, hdisabled, hmpp', hmpie, hepc, hcause, hlevel',
    hmrets'⟩ := quietRun_direct core frame hmerged hmie
  -- the merge leaves the interrupt bit and the level of the saved cause alone
  have hform : restored.interruptForm = frame.clicCause[31] := by
    rw [ClicHart.interruptForm, hcause, ha1]
    simp [mergedCause]
  have hmpil : restored.mpil = frame.clicCause.extractLsb' 16 8 := by
    rw [ClicHart.mpil, hcause, ha1, mergedCause, status_and_mpp, hmpp,
      BitVec.extractLsb'_or, BitVec.extractLsb'_and]
    exact (BitVec.or_zero ..).trans BitVec.and_allOnes
  have hcode : clicReturn[28]? = some .mret := rfl
  have hmret := quietRun_mret_machine core frame hcode hdisabled
    (hmpp'.trans hmpp)
  rw [hepc] at hmret
  refine ⟨restored.enter core .machine, (hmerge.trans hrestore).trans hmret,
    rfl, hmpie, ?_, ?_⟩
  · simp only [ClicHart.enter, hform, hmpil, hlevel', hlevel]
  · simp only [ClicHart.enter, hform, hmrets', hmrets]

end

/-- From any frame with MIE clear and any active level: a user frame ends in
user mode at its epc, at level 0 and with its own interrupt enable, by an
interrupt-form mret to machine mode and an exception-form mret to user mode
with interrupts disabled until the latter; a machine frame ends in machine mode
at its epc with its own interrupt enable and level. -/
theorem clicReturn_restores (hreturning : Returning hart status epc)
    (hmie : status[3] = false) :
    (statusMpp status = 0 →
      ∃ last, QuietRun core frame (core.address 0) hart epc last ∧
        last.mode = .user ∧ last.level = 0 ∧ last.mie = status[7] ∧
        last.mrets = (false, .user) :: (true, .machine) :: hart.mrets) ∧
    (statusMpp status = 3 →
      ∃ last, QuietRun core frame (core.address 0) hart epc last ∧
        last.mode = .machine ∧ last.mie = status[7] ∧
        last.level = (if frame.clicCause[31] then
          frame.clicCause.extractLsb' 16 8 else hart.level) ∧
        last.mrets = (frame.clicCause[31], .machine) :: hart.mrets) :=
  ⟨clicReturn_user core frame hreturning hmie,
    clicReturn_machine core frame hreturning hmie⟩

/-- The code at a fixed address, on a hart that clears MPP and sets MPIE. -/
def fixedCore : ClicCore where
  address index := 0x48401000#32 + BitVec.ofNat 32 (4 * index)
  locate pc := some ((pc - 0x48401000#32).toNat / 4)
  locate_address := by decide
  mpieAfter := true
  mppAfter := 0

/-- A hart at interrupt level 31 that is about to leave a user frame. -/
def switchedHart : ClicHart where
  reg
    | .a0 => 0x80#32
    | .a2 => 0x49700040#32
    | _ => 0#32
  mode := .machine
  mie := false
  mpie := true
  mpp := 3
  cause := 0xb01f0011#32
  epc := 0#32
  level := 31
  mrets := []

theorem switchedHart_returns :
    ∃ last, QuietRun fixedCore ⟨8#32, 0#32, 0#32, 0#32⟩ (fixedCore.address 0)
        switchedHart 0x49700040#32 last ∧
      last.mode = .user ∧ last.level = 0 ∧ last.mie = true := by
  have hreturning : Returning switchedHart 0x80#32 0x49700040#32 :=
    ⟨rfl, rfl, rfl, rfl⟩
  obtain ⟨last, hrun, hmode, hlevel, hmie, -⟩ :=
    (clicReturn_restores fixedCore ⟨8#32, 0#32, 0#32, 0#32⟩ hreturning
      (by decide)).1 (by decide)
  exact ⟨last, hrun, hmode, hlevel, hmie.trans (by decide)⟩

end Micronux
