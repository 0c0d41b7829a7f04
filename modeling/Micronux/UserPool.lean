/-
The per-mm user arenas of the isolation patches: the reserved pool, the arena
each mm owns in it, and the calls that reserve, map, unmap and release pages.
The part of a call that runs under `micronux_user_pool_lock` is one action;
every store and every memset outside the lock is an action of its own.
-/
import Micronux.RelyGuarantee
import Micronux.Bitmap

namespace Micronux

open Concurrent

/-- An `unsigned long` of the RV32 kernel. -/
abbrev Word := BitVec 32

/-- A non-null `struct mm_struct *`. -/
abbrev Mm := Nat

/-- A non-null `struct micronux_user_arena *`. -/
abbrev ArenaId := Nat

def pageSize : Nat := 4096

def userPoolStart : Word := 0x49700000#32

def userPoolEnd : Word := 0x49f00000#32

def userPoolSize : Word := userPoolEnd - userPoolStart

def pmpGranularity : Nat := 128

inductive Errno where
  | einval
  | enomem
  | ebusy
  | enoexec
  | efault
deriving Repr, DecidableEq

/-- `check_add_overflow`: the sum, unless it does not fit in a word. -/
def checkAdd (left right : Word) : Option Word :=
  if left.toNat + right.toNat < 2 ^ 32 then some (left + right) else none

/-- `IS_ALIGNED` -/
def isAligned (value : Word) (alignment : Nat) : Bool :=
  value.toNat % alignment == 0

/-- `struct micronux_user_arena` -/
structure Arena where
  mm : Mm
  first : Nat := 0
  reservedPages : Nat := 0
  mappedPages : Nat := 0
  mapped : Bitmap := Bitmap.empty

instance : Inhabited Arena := ⟨{ mm := 0 }⟩

def Arena.mapRange (arena : Arena) (index count : Nat) : Arena :=
  { arena with
    mapped := arena.mapped.setRange index count
    mappedPages := arena.mappedPages + count }

def Arena.unmapRange (arena : Arena) (index count : Nat) : Arena :=
  { arena with
    mapped := arena.mapped.clearRange index count
    mappedPages := arena.mappedPages - count }

/-- The fields that the patches add to `mm->context`. -/
structure MmContext where
  userArena : Option ArenaId := none
  userLo : Word := 0
  userExecHi : Word := 0
  userHi : Word := 0
  userSigreturn : Word := 0
  userBoundsValid : Bool := false
  userWxValid : Bool := false
deriving DecidableEq

def MmContext.revoke (context : MmContext) : MmContext :=
  { context with userBoundsValid := false }

def MmContext.finalize (context : MmContext) : MmContext :=
  { context with userWxValid := true }

/-- What a run has done to mapped pages, with the context of the arena's mm
at that moment. -/
inductive PoolEvent where
  | mapped (mm : Mm) (first count : Nat) (context : MmContext)
  | unmapped (mm : Mm) (first count : Nat) (context : MmContext)
  | finalized (mm : Mm) (arena : Arena) (context : MmContext)

/-- The statics of the pool, the arenas on the kernel heap and the context of
every mm.  The last five fields are history that the code does not keep: the
arenas that hold pages, who zeroed a page since it was reserved, who wrote a
byte last, how often an mm was released, and the page events so far. -/
structure Pool where
  userStart : Word
  userEnd : Word
  userPages : Nat
  ready : Bool
  reserved : Bitmap
  owner : Nat → Option ArenaId
  reservedPages : Nat
  mappedPages : Nat
  arenas : Nat
  heap : ArenaId → Arena
  allocated : ArenaId → Bool
  context : Mm → MmContext
  live : Finset ArenaId
  zeroedBy : Nat → Option Mm
  writer : Nat → Option Mm
  releases : Mm → Nat
  events : List PoolEvent

/-- `micronux_user_pool_init` on the state before boot. -/
def userPoolInit (base size : Word) : Except Errno Pool :=
  match checkAdd base size with
  | none => .error .einval
  | some stop =>
    if base ≠ userPoolStart || size ≠ userPoolSize ||
        stop ≠ userPoolEnd || !isAligned base pageSize ||
        !isAligned size pageSize then
      .error .einval
    else
      .ok {
        userStart := base
        userEnd := stop
        userPages := size.toNat / pageSize
        ready := true
        reserved := Bitmap.empty
        owner := fun _ => none
        reservedPages := 0
        mappedPages := 0
        arenas := 0
        heap := fun _ => default
        allocated := fun _ => false
        context := fun _ => {}
        live := ∅
        zeroedBy := fun _ => none
        writer := fun _ => none
        releases := fun _ => 0
        events := [] }

namespace Pool

def pageAddress (pool : Pool) (page : Nat) : Word :=
  pool.userStart + BitVec.ofNat 32 page <<< 12

def setArena (pool : Pool) (id : ArenaId) (arena : Arena) : Pool :=
  { pool with heap := Function.update pool.heap id arena }

def setContext (pool : Pool) (mm : Mm) (change : MmContext → MmContext) :
    Pool :=
  { pool with
    context := Function.update pool.context mm (change (pool.context mm)) }

/-- Point the owner entries of a page range at `value`. -/
def setOwner (pool : Pool) (first count : Nat) (value : Option ArenaId) :
    Pool :=
  { pool with
    owner := fun page =>
      if first ≤ page ∧ page < first + count then value else pool.owner page }

/-- Reserve a page range for an arena.  Nobody has zeroed these pages since. -/
def reserve (pool : Pool) (id : ArenaId) (first count : Nat) : Pool :=
  { pool.setOwner first count (some id) with
    reserved := pool.reserved.setRange first count
    reservedPages := pool.reservedPages + count
    zeroedBy := fun page =>
      if first ≤ page ∧ page < first + count then none
      else pool.zeroedBy page }

def mapPages (pool : Pool) (id : ArenaId) (index count : Nat) : Pool :=
  let arena := pool.heap id
  { pool.setArena id (arena.mapRange index count) with
    mappedPages := pool.mappedPages + count
    events := .mapped arena.mm (arena.first + index) count
      (pool.context arena.mm) :: pool.events }

def unmapPages (pool : Pool) (id : ArenaId) (index count : Nat) : Pool :=
  let arena := pool.heap id
  { pool.setArena id (arena.unmapRange index count) with
    mappedPages := pool.mappedPages - count
    events := .unmapped arena.mm (arena.first + index) count
      (pool.context arena.mm) :: pool.events }

/-- Zero a range of bytes on behalf of an mm: the pages inside the range are
zeroed by it, and nobody has written the bytes since. -/
def zeroRange (pool : Pool) (mm : Mm) (start : Word) (bytes : Nat) : Pool :=
  { pool with
    zeroedBy := fun page =>
      if start.toNat ≤ (pool.pageAddress page).toNat ∧
          (pool.pageAddress page).toNat + pageSize ≤ start.toNat + bytes then
        some mm
      else pool.zeroedBy page
    writer := fun address =>
      if start.toNat ≤ address ∧ address < start.toNat + bytes then none
      else pool.writer address }

def revoke (pool : Pool) (mm : Mm) : Pool :=
  { pool.setContext mm MmContext.revoke with
    releases := Function.update pool.releases mm (pool.releases mm + 1) }

/-- Publish the W^X split of an mm. -/
def finalize (pool : Pool) (mm : Mm) : Pool :=
  { pool.setContext mm MmContext.finalize with
    events := .finalized mm (pool.heap ((pool.context mm).userArena.getD 0))
      (pool.context mm).finalize :: pool.events }

/-- Give back every page of an arena. -/
def unlink (pool : Pool) (id : ArenaId) : Pool :=
  let arena := pool.heap id
  { pool.setOwner arena.first arena.reservedPages none with
    reserved := pool.reserved.clearRange arena.first arena.reservedPages
    reservedPages := pool.reservedPages - arena.reservedPages
    mappedPages := pool.mappedPages - arena.mappedPages
    arenas := pool.arenas - 1
    live := pool.live.erase id }

end Pool

/-- `micronux_user_pool_contains` -/
def userPoolContains (pool : Pool) (start stop : Word) : Bool :=
  pool.ready && start ≤ stop && pool.userStart ≤ start && stop ≤ pool.userEnd

/-- The loop of `micronux_user_largest_free_extent`: the length and the start
of the longest clear run found.  The cursor advances in every round, so one
round per page is enough. -/
def largestFreeExtentLoop (reserved : Bitmap) (pages : Nat) :
    Nat → Nat → Nat × Nat → Nat × Nat
  | 0, _, best => best
  | fuel + 1, cursor, best =>
    if pages ≤ cursor then best
    else
      let start := reserved.findNextZeroBit pages cursor
      if pages ≤ start then best
      else
        let stop := reserved.findNextBit pages start
        let better := if best.1 < stop - start then (stop - start, start)
          else best
        if pages ≤ stop then better
        else largestFreeExtentLoop reserved pages fuel (stop + 1) better

/-- `micronux_user_largest_free_extent` -/
def userLargestFreeExtent (pool : Pool) (nrPages : Nat) : Nat :=
  let best := largestFreeExtentLoop pool.reserved pool.userPages
    pool.userPages 0 (0, pool.userPages)
  if nrPages ≤ best.1 then best.2 else pool.userPages

/-- The environment's answer to `kzalloc`: null, or a block not in use. -/
abbrev Choice := Option ArenaId

abbrev PoolProg := Prog Pool Choice

/-- `kzalloc` of an arena and the store of its `mm`, to memory that no other
thread can reach yet. -/
def kzallocArena (mm : Mm) : PoolProg (Option ArenaId) :=
  .atomic fun choice pool =>
    match choice with
    | none => some (pool, none)
    | some id =>
      if pool.allocated id then none
      else
        some ({ pool.setArena id { mm := mm } with
          allocated := Function.update pool.allocated id true }, some id)

/-- `kfree` of an arena. -/
def kfreeArena (id : ArenaId) : PoolProg Unit :=
  .store fun pool =>
    { pool with allocated := Function.update pool.allocated id false }

/-- The memset of freshly reserved or mapped pages on behalf of an mm. -/
def memsetPages (mm : Mm) (start : Word) (bytes : Nat) : PoolProg Unit :=
  .store fun pool => pool.zeroRange mm start bytes

/-- A byte that an mm stores, or that the kernel stores for it, while the
address lies in its published bounds. -/
def userStore (mm : Mm) (address : Word) : PoolProg Unit :=
  .store fun pool =>
    if (pool.context mm).userBoundsValid &&
        (pool.context mm).userLo ≤ address &&
        address < (pool.context mm).userHi then
      { pool with
        writer := Function.update pool.writer address.toNat (some mm) }
    else pool

/-- A `WRITE_ONCE` to `mm->context`. -/
def writeContext (mm : Mm) (change : MmContext → MmContext) : PoolProg Unit :=
  .store fun pool => pool.setContext mm change

/-- The locked part of `micronux_user_arena_prepare`: the first page of the
new arena. -/
def prepareSection (mm : Mm) (id : ArenaId) (nrPages : Nat) (pool : Pool) :
    Pool × Except Errno Nat :=
  let context := pool.context mm
  if context.userArena.isSome || context.userBoundsValid then
    (pool, .error .ebusy)
  else
    let index := userLargestFreeExtent pool nrPages
    if pool.userPages ≤ index || pool.userPages - index < nrPages then
      (pool, .error .enomem)
    else
      let placed := pool.setArena id { pool.heap id with
        first := index
        reservedPages := nrPages }
      ({ placed.reserve id index nrPages with
        arenas := pool.arenas + 1
        live := insert id pool.live }, .ok index)

/-- The stores of `micronux_user_arena_prepare` after the memset. -/
def publishArena (mm : Mm) (id : ArenaId) (start : Word) (nrPages : Nat) :
    PoolProg Unit := do
  writeContext mm fun context => { context with userArena := some id }
  writeContext mm fun context => { context with userLo := start }
  writeContext mm fun context => { context with userExecHi := 0 }
  writeContext mm fun context =>
    { context with userHi := start + BitVec.ofNat 32 nrPages <<< 12 }
  writeContext mm fun context => { context with userSigreturn := 0 }
  writeContext mm fun context => { context with userWxValid := false }
  writeContext mm fun context => { context with userBoundsValid := true }

/-- The part of `micronux_user_arena_prepare` after the lock. -/
def finishPrepare (mm : Mm) (id : ArenaId) (index nrPages : Nat) :
    PoolProg (Except Errno Unit) := do
  let start ← Prog.load fun pool => pool.pageAddress index
  memsetPages mm start (nrPages * pageSize)
  publishArena mm id start nrPages
  pure (.ok ())

/-- The checks of `micronux_user_arena_prepare` before the `kzalloc`: the
number of pages asked for. -/
def prepareChecks (bytes : Word) (pool : Pool) : Except Errno Nat :=
  match checkAdd bytes (BitVec.ofNat 32 (pageSize - 1)) with
  | none => .error .einval
  | some rounded =>
    let nrPages := rounded.toNat / pageSize
    if !pool.ready || bytes == 0 then .error .einval
    else if nrPages == 0 || pool.userPages < nrPages then .error .enomem
    else .ok nrPages

/-- `micronux_user_arena_prepare` -/
def userArenaPrepare (mm : Option Mm) (bytes : Word) :
    PoolProg (Except Errno Unit) := do
  match mm with
  | none => pure (.error .einval)
  | some mm =>
    match ← Prog.load (prepareChecks bytes) with
    | .error errno => pure (.error errno)
    | .ok nrPages =>
      match ← kzallocArena mm with
      | none => pure (.error .enomem)
      | some id =>
        match ← Prog.critical (prepareSection mm id nrPages) with
        | .error errno => do
          kfreeArena id
          pure (.error errno)
        | .ok index => finishPrepare mm id index nrPages

/-- What `micronux_user_arena_alloc` returns, with its local `expanded`. -/
structure AllocResult where
  address : Option Word
  expanded : Bool
deriving DecidableEq

/-- The locked part of `micronux_user_arena_alloc`. -/
def allocSection (id : ArenaId) (nrPages : Nat) (pool : Pool) :
    Pool × AllocResult :=
  let arena := pool.heap id
  let index := arena.mapped.findNextZeroArea arena.reservedPages 0 nrPages
  if arena.reservedPages ≤ index || arena.reservedPages - index < nrPages then
    let page := arena.first + arena.reservedPages
    if pool.userPages < page || pool.userPages - page < nrPages ||
        pool.reserved.findNextBit (page + nrPages) page < page + nrPages then
      (pool, ⟨none, false⟩)
    else
      let grown := pool.setArena id { arena with
        reservedPages := arena.reservedPages + nrPages }
      ((grown.reserve id page nrPages).mapPages id arena.reservedPages nrPages,
        ⟨some (pool.pageAddress page), true⟩)
  else
    (pool.mapPages id index nrPages,
      ⟨some (pool.pageAddress (arena.first + index)), false⟩)

/-- The checks of `micronux_user_arena_alloc` before the lock: the arena to
allocate from. -/
def allocArena (mm : Mm) (nrPages : Word) (pool : Pool) : Option ArenaId :=
  if nrPages == 0 || pool.userPages < nrPages.toNat ||
      !(pool.context mm).userBoundsValid then none
  else (pool.context mm).userArena.filter fun id => (pool.heap id).mm == mm

/-- The store of the new upper bound after an arena has grown. -/
def publishGrowth (mm : Mm) (id : ArenaId) : PoolProg Unit := do
  let stop ← Prog.load fun pool => pool.pageAddress
    ((pool.heap id).first + (pool.heap id).reservedPages)
  writeContext mm fun context => { context with userHi := stop }

/-- The part of `micronux_user_arena_alloc` after the lock. -/
def finishAlloc (mm : Mm) (id : ArenaId) (nrPages : Nat)
    (result : AllocResult) : PoolProg AllocResult := do
  match result.address with
  | none => pure result
  | some start =>
    memsetPages mm start (nrPages * pageSize)
    match result.expanded with
    | false => pure result
    | true =>
      publishGrowth mm id
      pure result

/-- `micronux_user_arena_alloc` -/
def userArenaAlloc (mm : Option Mm) (nrPages : Word) :
    PoolProg AllocResult := do
  match mm with
  | none => pure ⟨none, false⟩
  | some mm =>
    match ← Prog.load (allocArena mm nrPages) with
    | none => pure ⟨none, false⟩
    | some id =>
      let result ← Prog.critical (allocSection id nrPages.toNat)
      finishAlloc mm id nrPages.toNat result

/-- The locked part of `micronux_user_arena_free`. -/
def freeSection (first nrPages : Nat) (pool : Pool) : Pool × Bool :=
  match pool.owner first with
  | none => (pool, false)
  | some id =>
    let arena := pool.heap id
    let relative := first - arena.first
    if first < arena.first || arena.reservedPages - relative < nrPages then
      (pool, false)
    else if !(List.range' first nrPages).all
        (fun page => pool.owner page == some id) then
      (pool, false)
    else if arena.mapped.findNextZeroBit (relative + nrPages) relative <
          relative + nrPages ||
        arena.mappedPages < nrPages || pool.mappedPages < nrPages then
      (pool, false)
    else (pool.unmapPages id relative nrPages, true)

/-- `micronux_user_arena_free` -/
def userArenaFree (start stop : Word) : PoolProg Bool := do
  let range ← Prog.load fun pool =>
    if !userPoolContains pool start stop || start == stop ||
        !isAligned start pageSize || !isAligned stop pageSize then none
    else some ((start - pool.userStart).toNat / pageSize,
      (stop - start).toNat / pageSize)
  match range with
  | none => pure false
  | some (first, nrPages) => .critical (freeSection first nrPages)

/-- The locked part of `micronux_user_arena_release`; `true` when the arena
is to be freed. -/
def releaseSection (mm : Mm) (id : ArenaId) (pool : Pool) : Pool × Bool :=
  let arena := pool.heap id
  if arena.mm ≠ mm || arena.reservedPages == 0 ||
      pool.userPages ≤ arena.first ||
      pool.userPages - arena.first < arena.reservedPages ||
      pool.reservedPages < arena.reservedPages ||
      pool.mappedPages < arena.mappedPages || pool.arenas == 0 then
    (pool, false)
  else if !(List.range' arena.first arena.reservedPages).all
      (fun page => pool.owner page == some id && pool.reserved page) then
    (pool, false)
  else (pool.unlink id, true)

/-- The stores of `micronux_user_arena_release` before the lock. -/
def revokeArena (mm : Mm) : PoolProg Unit := do
  .store fun pool => pool.revoke mm
  writeContext mm fun context => { context with userWxValid := false }
  writeContext mm fun context => { context with userLo := 0 }
  writeContext mm fun context => { context with userExecHi := 0 }
  writeContext mm fun context => { context with userHi := 0 }
  writeContext mm fun context => { context with userSigreturn := 0 }
  writeContext mm fun context => { context with userArena := none }

/-- `micronux_user_arena_release` -/
def userArenaRelease (mm : Option Mm) : PoolProg Unit := do
  match mm with
  | none => pure ()
  | some mm =>
    let arena ← Prog.load fun pool => (pool.context mm).userArena
    revokeArena mm
    match arena with
    | none => pure ()
    | some id =>
      let unlinked ← Prog.critical (releaseSection mm id)
      if unlinked then kfreeArena id

/-- `micronux_user_access_ok` for the current mm's context. -/
def userAccessOk (context : MmContext) (addr size : Word) : Bool :=
  if !context.userBoundsValid then false
  else if context.userLo < userPoolStart || userPoolEnd < context.userHi ||
      context.userHi ≤ context.userLo || addr < context.userLo ||
      context.userHi < addr then
    false
  else size ≤ context.userHi - addr

/-- `micronux_user_write_ok` for the current mm's context. -/
def userWriteOk (context : MmContext) (addr size : Word) : Bool :=
  if !context.userBoundsValid then false
  else if context.userLo < userPoolStart || userPoolEnd < context.userHi ||
      context.userHi ≤ context.userLo || addr < context.userLo ||
      context.userHi < addr || context.userHi - addr < size then
    false
  else if !context.userWxValid || size == 0 then true
  else context.userLo < context.userExecHi &&
    context.userExecHi < context.userHi && context.userExecHi ≤ addr

/-- The checks of `micronux_user_wx_finalize`. -/
def wxFinalizeChecks (context : MmContext) (execHi sigreturn size : Word) :
    Bool :=
  context.userBoundsValid && !context.userWxValid &&
    userPoolStart ≤ context.userLo && context.userHi ≤ userPoolEnd &&
    context.userLo < execHi && execHi < context.userHi &&
    isAligned context.userLo pmpGranularity &&
    isAligned execHi pmpGranularity &&
    isAligned context.userHi pmpGranularity &&
    sigreturn == context.userLo && size != 0 && size ≤ execHi - sigreturn

/-- `micronux_user_wx_finalize` -/
def userWxFinalize (mm : Option Mm) (execHi sigreturn size : Word) :
    PoolProg (Except Errno Unit) := do
  match mm with
  | none => pure (.error .einval)
  | some mm =>
    match ← Prog.load fun pool =>
      wxFinalizeChecks (pool.context mm) execHi sigreturn size with
    | false => pure (.error .einval)
    | true =>
      writeContext mm fun context => { context with userExecHi := execHi }
      writeContext mm fun context =>
        { context with userSigreturn := sigreturn }
      .store fun pool => pool.finalize mm
      pure (.ok ())

end Micronux
