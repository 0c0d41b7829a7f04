/-
The part of `load_flat_file` that the isolation patches add: the bounds checks
on a bFLT header, the reservation of the initial arena, the first mapping and
the W^X split.  What lies between these, reading the file and applying its
relocations, changes no bound and is left out.
-/
import Micronux.UserPool

namespace Micronux

open Concurrent

/-- The fields of `struct flat_hdr` that the checks read, in host order. -/
structure FlatHeader where
  flags : Word
  entry : Word
  dataStart : Word
  dataEnd : Word
  bssEnd : Word
  stackSize : Word
  relocStart : Word
  relocCount : Word
deriving DecidableEq

/-- `sizeof(struct flat_hdr)` -/
def flatHeaderSize : Word := 64#32

def flatFlagRam : Word := 1#32

def flatFlagGzip : Word := 4#32

def flatFlagGzdata : Word := 8#32

/-- `SZ_8M` -/
def initialMappingLimit : Word := 0x800000#32

/-- The size of `__user_rt_sigreturn`. -/
def sigreturnSize : Word := 8#32

/-- `check_mul_overflow` -/
def checkMul (left right : Word) : Option Word :=
  if left.toNat * right.toNat < 2 ^ 32 then some (left * right) else none

/-- The kernel's `max` -/
def wordMax (left right : Word) : Word :=
  if left < right then right else left

/-- `PAGE_ALIGN` -/
def pageAlign (value : Word) : Word :=
  (value + 4095#32) / 4096#32 * 4096#32

/-- The sizes that an accepted image asks for. -/
structure FlatPlan where
  textLen : Word
  dataLen : Word
  bssLen : Word
  stackLen : Word
  relocBytes : Word
  initialMapping : Word
deriving DecidableEq

def flatBoundsOk (hdr : FlatHeader) : Bool :=
  hdr.flags &&& flatFlagRam != 0 &&
    hdr.flags &&& (flatFlagGzip ||| flatFlagGzdata) == 0 &&
    flatHeaderSize ≤ hdr.entry && hdr.entry < hdr.dataStart &&
    flatHeaderSize ≤ hdr.dataStart && hdr.dataStart ≤ hdr.dataEnd &&
    hdr.dataEnd ≤ hdr.bssEnd && hdr.relocStart == hdr.dataEnd &&
    isAligned hdr.dataStart pmpGranularity

/-- `text_len + data_len + initial_extra + DATA_START_OFFSET_WORDS * 4` with
every addition checked, and at most the whole pool. -/
def flatInitialMapping (offset textLen dataLen extra : Word) : Option Word := do
  let image ← checkAdd textLen dataLen
  let mapping ← checkAdd image extra
  let initial ← checkAdd mapping offset
  if initial ≤ initialMappingLimit then some initial else none

/-- The checks that end in `-ENOEXEC`: the length of the stack, the bytes of
the relocations, and data, bss and stack together. -/
def flatSizes (hdr : FlatHeader) (fileSize : Nat) (extraStack : Word) :
    Option (Word × Word × Word) := do
  let stackLen ← checkAdd hdr.stackSize extraStack
  guard (flatBoundsOk hdr)
  let relocBytes ← checkMul hdr.relocCount 4#32
  let fileExtent ← checkAdd hdr.relocStart relocBytes
  guard (fileExtent.toNat ≤ fileSize)
  let dataBss ← checkAdd (hdr.dataEnd - hdr.dataStart)
    (hdr.bssEnd - hdr.dataEnd)
  let dataStack ← checkAdd dataBss stackLen
  some (stackLen, relocBytes, dataStack)

/-- The checks of `load_flat_file`.  `offset` is
`DATA_START_OFFSET_WORDS * sizeof(u32)` of the kernel's configuration and
`fileSize` the size of the image file. -/
def flatChecks (offset : Word) (hdr : FlatHeader) (fileSize : Nat)
    (extraStack : Word) : Except Errno FlatPlan :=
  match flatSizes hdr fileSize extraStack with
  | none => .error .enoexec
  | some (stackLen, relocBytes, dataStack) =>
    let dataLen := hdr.dataEnd - hdr.dataStart
    match flatInitialMapping offset hdr.dataStart dataLen
        (wordMax dataStack relocBytes) with
    | none => .error .enomem
    | some initialMapping =>
      .ok { textLen := hdr.dataStart, dataLen,
            bssLen := hdr.bssEnd - hdr.dataEnd, stackLen, relocBytes,
            initialMapping }

/-- The pages that the image's first mapping takes: upstream maps the page
aligned sum of text, data, the larger of bss with stack and the relocations,
and the data offset. -/
def FlatPlan.mappedPages (plan : FlatPlan) (offset : Word) : Word :=
  pageAlign (plan.textLen + plan.dataLen +
    wordMax (plan.bssLen + plan.stackLen) plan.relocBytes + offset) / 4096#32

/-- How `load_flat_file` ends. -/
inductive LoadOutcome where
  | rejected (errno : Errno)
  | unprepared (errno : Errno)
  | unmapped
  | nonContiguous
  | sigreturnFault
  | unfinalized (errno : Errno)
  | loaded (mapping : AllocResult)
deriving DecidableEq

/-- From the contiguity check to the W^X split. -/
def finishFlatFile (mm : Mm) (plan : FlatPlan) (mapping : AllocResult)
    (textpos : Word) : PoolProg LoadOutcome := do
  let realdatastart := textpos + plan.textLen
  let textLen := plan.textLen - flatHeaderSize
  match ← Prog.load fun pool => textpos == (pool.context mm).userLo &&
      realdatastart == textpos + textLen + flatHeaderSize with
  | false => pure .nonContiguous
  | true =>
    match ← Prog.load fun pool =>
      userWriteOk (pool.context mm) textpos sigreturnSize with
    | false => pure .sigreturnFault
    | true =>
      match ← userWxFinalize (some mm) realdatastart textpos sigreturnSize with
      | .error errno => pure (.unfinalized errno)
      | .ok () => pure (.loaded mapping)

/-- `load_flat_file` for the mm of a new program. -/
def loadFlatFile (mm : Mm) (offset : Word) (hdr : FlatHeader) (fileSize : Nat)
    (extraStack : Word) : PoolProg LoadOutcome := do
  match flatChecks offset hdr fileSize extraStack with
  | .error errno => pure (.rejected errno)
  | .ok plan =>
    match ← userArenaPrepare (some mm) plan.initialMapping with
    | .error errno => pure (.unprepared errno)
    | .ok () =>
      let mapping ← userArenaAlloc (some mm) (plan.mappedPages offset)
      match mapping.address with
      | none => pure .unmapped
      | some textpos => finishFlatFile mm plan mapping textpos

end Micronux
