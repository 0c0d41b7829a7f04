/-
The PMP overlay that is programmed on every return to user mode, over the map
that the loader leaves: the user's text readable and executable, the rest of
its bounds readable and writable, and everything else denied.
-/
import Micronux.Pmp
import Micronux.UserPool

namespace Micronux

open Pmp

/-- A granule has 128 bytes: the low five bits of a pmpaddr register count
nowhere. -/
def pmpGrain : Nat := 5

def pmpDenyOffConfig : BitVec 8 := 0x00#8

def pmpDenyTorConfig : BitVec 8 := 0x08#8

def pmpDenyNapotConfig : BitVec 8 := 0x18#8

/-- `PMP_TOR | PMP_R | PMP_W | PMP_X` -/
def pmpLinuxConfig : BitVec 8 := 0x0f#8

/-- The entries that `audit_m7_early_pmp` compares: the address as the loader
reads it, which is the register shifted left by two, and the configuration. -/
def auditTable (linuxWindowInstalled : Bool) :
    List (Fin 16 × Word × BitVec 8) :=
  [(0, 0x27fffffc#32, pmpDenyNapotConfig),
    (1, 0x3ff0fffc#32, pmpDenyNapotConfig),
    (2, 0x4fc0fffc#32, pmpDenyNapotConfig),
    (3, 0x4ff00000#32, pmpDenyOffConfig),
    (4, 0x4ffc0000#32, pmpDenyTorConfig),
    (5, 0x00000000#32, 0x00#8),
    (6, 0x41fffffc#32, pmpDenyNapotConfig),
    (7, 0x00000000#32, 0x00#8),
    (8, 0x00000000#32, 0x00#8),
    (9, 0x00000000#32, 0x00#8),
    (10, 0x00000000#32, 0x00#8),
    (11, 0x5010bffc#32, pmpDenyNapotConfig),
    (12, 0x00000000#32, 0x00#8),
    (13, if linuxWindowInstalled then 0x48400000#32 else 0x00000000#32, 0x00#8),
    (14, if linuxWindowInstalled then 0x49f00000#32 else 0x00000000#32,
      if linuxWindowInstalled then pmpLinuxConfig else 0x00#8),
    (15, 0x5007fffc#32, pmpDenyNapotConfig)]

/-- `MICRONUX_AUDIT_PMP_ENTRY` -/
def auditPmpEntry (regs : Registers) (row : Fin 16 × Word × BitVec 8) : Bool :=
  regs.read pmpGrain (.addr row.1) <<< 2 == row.2.1 &&
    regs.entryCfg row.1 == row.2.2

/-- `audit_m7_early_pmp` -/
def auditM7EarlyPmp (linuxWindowInstalled : Bool) (regs : Registers) : Bool :=
  (auditTable linuxWindowInstalled).all (auditPmpEntry regs)

def keptEntries : List (Fin 16) := [0, 1, 2, 3, 4, 5, 6, 11, 15]

/-- The kept entries pass the audit; the others hold anything. -/
def KeptAudited (regs : Registers) : Prop :=
  ∀ row ∈ auditTable true, row.1 ∈ keptEntries → auditPmpEntry regs row = true

instance (regs : Registers) : Decidable (KeptAudited regs) :=
  List.decidableBAll (fun row : Fin 16 × Word × BitVec 8 =>
    row.1 ∈ keptEntries → auditPmpEntry regs row = true) (auditTable true)

def pmpcfg1Keep : Word := 0x00ffffff#32

def pmpcfg2Keep : Word := 0xff000000#32

def pmpcfg3Keep : Word := 0xff000000#32

/-- `PMP_A_TOR | PMP_R | PMP_X` -/
def pmpExecConfig : Word := 0x0d#32

/-- `PMP_A_TOR | PMP_R | PMP_W` -/
def pmpWriteConfig : Word := 0x0b#32

def pmpDenyConfig : Word := 0x08#32

def pmpFinalDenyConfig : Word := 0x18#32

def cachedDenyTop : Word := 0x4fc00000#32

def directDenyTop : Word := 0xffffff80#32

def pmpaddrFinalDeny : Word :=
  (directDenyTop ||| BitVec.ofNat 32 ((pmpGranularity - 1) / 2)) >>> 2

def revokeWrites (regs : Registers) : List (Csr × Word) :=
  [(.cfg 1, regs.read pmpGrain (.cfg 1) &&& pmpcfg1Keep),
    (.cfg 2, regs.read pmpGrain (.cfg 2) &&& pmpcfg2Keep),
    (.cfg 3, regs.read pmpGrain (.cfg 3) &&& pmpcfg3Keep)]

/-- The configuration words that `micronux_user_pmp_program` installs. -/
def finalCfg1 (regs : Registers) : Word :=
  regs.read pmpGrain (.cfg 1) &&& pmpcfg1Keep ||| pmpDenyConfig <<< 24

def denyCfg2 (regs : Registers) : Word :=
  regs.read pmpGrain (.cfg 2) &&& pmpcfg2Keep ||| pmpDenyConfig <<< 16

def finalCfg2 (regs : Registers) (allow : Bool) : Word :=
  if allow then denyCfg2 regs ||| pmpExecConfig ||| pmpWriteConfig <<< 8
  else denyCfg2 regs

def finalCfg3 (regs : Registers) : Word :=
  regs.read pmpGrain (.cfg 3) &&& pmpcfg3Keep ||| pmpDenyConfig |||
    pmpFinalDenyConfig <<< 8

/-- A bound, or the top of the cached range when nothing is allowed. -/
def cachedBound (allow : Bool) (bound : Word) : Word :=
  if allow then bound else cachedDenyTop

def addressWrites (lo execHi hi : Word) (allow : Bool) : List (Csr × Word) :=
  [(.addr 7, cachedBound allow lo >>> 2),
    (.addr 8, cachedBound allow execHi >>> 2),
    (.addr 9, cachedBound allow hi >>> 2),
    (.addr 10, cachedDenyTop >>> 2),
    (.addr 12, directDenyTop >>> 2),
    (.addr 13, pmpaddrFinalDeny)]

/-- Every deny interval is installed before the user interval is enabled. -/
def configWrites (regs : Registers) (allow : Bool) : List (Csr × Word) :=
  [(.cfg 3, finalCfg3 regs), (.cfg 2, denyCfg2 regs), (.cfg 1, finalCfg1 regs),
    (.cfg 2, finalCfg2 regs allow)]

def readsBack (regs : Registers) (values : List (Csr × Word)) : Bool :=
  values.all fun value => regs.read pmpGrain value.1 == value.2

/-- What the last check of `micronux_user_pmp_program` compares. -/
def finalValues (regs : Registers) (lo execHi hi : Word) (allow : Bool) :
    List (Csr × Word) :=
  [(.cfg 1, finalCfg1 regs), (.cfg 2, finalCfg2 regs allow),
    (.cfg 3, finalCfg3 regs)] ++ addressWrites lo execHi hi allow

/-- `micronux_user_pmp_program` -/
def userPmpProgram (warl : Warl) (lo execHi hi : Word) (allow : Bool)
    (regs : Registers) : Registers × Bool :=
  let revoked := regs.writeAll warl (revokeWrites regs)
  if !readsBack revoked (revokeWrites regs) then (revoked, false)
  else
    let done := revoked.writeAll warl
      (addressWrites lo execHi hi allow ++ configWrites regs allow)
    (done, readsBack done (finalValues regs lo execHi hi allow))

/-- The reasons with which `micronux_user_pmp_fail` panics. -/
inductive PmpFailure where
  | wxUnavailable
  | boundsInvalid
  | sigreturnInvalid
  | csrReadback
deriving Repr, DecidableEq

structure PmpPanic where
  reason : PmpFailure
  denyAll : Bool
deriving Repr, DecidableEq

/-- `micronux_user_pmp_fail` -/
def userPmpFail (warl : Warl) (reason : PmpFailure) (regs : Registers) :
    Registers × PmpPanic :=
  let (after, denied) :=
    userPmpProgram warl userPoolEnd userPoolEnd userPoolEnd false regs
  (after, ⟨reason, denied⟩)

/-- The checks of `micronux_user_pmp_prepare_return`: the bounds to program. -/
def prepareReturnChecks (poolReady : Bool) (mm : Option MmContext) :
    Except PmpFailure (Word × Word × Word) :=
  match mm with
  | none => .error .wxUnavailable
  | some context =>
    let lo := context.userLo
    let execHi := context.userExecHi
    let hi := context.userHi
    if !poolReady || !context.userBoundsValid || !context.userWxValid then
      .error .wxUnavailable
    else if lo < userPoolStart || userPoolEnd < hi || execHi ≤ lo ||
        hi ≤ execHi || !isAligned lo pmpGranularity ||
        !isAligned execHi pmpGranularity || !isAligned hi pmpGranularity then
      .error .boundsInvalid
    else if context.userSigreturn ≠ lo ||
        execHi - context.userSigreturn < 8#32 then
      .error .sigreturnInvalid
    else .ok (lo, execHi, hi)

/-- `micronux_user_pmp_prepare_return`: it returns, or it panics. -/
def userPmpPrepareReturn (warl : Warl) (poolReady : Bool)
    (mm : Option MmContext) (regs : Registers) :
    Registers × Except PmpPanic Unit :=
  match prepareReturnChecks poolReady mm with
  | .error reason =>
    let (after, panicked) := userPmpFail warl reason regs
    (after, .error panicked)
  | .ok (lo, execHi, hi) =>
    match userPmpProgram warl lo execHi hi true regs with
    | (after, true) => (after, .ok ())
    | (after, false) =>
      let (denied, panicked) := userPmpFail warl .csrReadback after
      (denied, .error panicked)

/-- The signal trampoline that `setup_rt_frame` returns to. -/
def setupRtFrameReturn (context : MmContext) : Except Errno Word :=
  if !context.userWxValid then .error .efault
  else
    let addr := context.userSigreturn
    if addr ≠ context.userLo || context.userExecHi < addr ||
        context.userExecHi - addr < 8#32 then
      .error .efault
    else .ok addr

end Micronux
