/-
The state of the DSI framebuffer driver: the three frame buffers with their
roles, the gates and locks around them, and the commands that went to the
panel.  The kernel runs on one core without preemption of a spinlock section
or an interrupt handler, so each of these is a single action; everything else
is one action per shared access.
-/
import Micronux.Replay
import Micronux.UserPool

namespace Micronux

open Concurrent

/-- `required_handoff_abi` -/
inductive Abi where
  | v2
  | v3
deriving DecidableEq

abbrev ThreadId := Nat

abbrev Byte := BitVec 8

/-- The `framebuffer_size` that both handoff checks demand. -/
@[irreducible] def framebufferSize : Nat := 2048000

/-- `MICRONUX_DISPLAY_BUFFER_COUNT` -/
def bufferCount : Nat := 3

/-- The bytes of one frame buffer. -/
abbrev Frame := Fin framebufferSize → Byte

/-- `enum micronux_display_state` -/
inductive DisplayState where
  | unbound
  | probedQuiescent
  | coldInitializing
  | ldoReady
  | panelProgrammedQuiescent
  | scanoutInitializing
  | scanoutQualifiedQuiescent
  | revealing
  | runtimeRevealed
  | removing
  | failedQuiescent
  | failedUnverified
  | runtimeReady
deriving DecidableEq

/-- `enum micronux_native_i2c_state` -/
inductive NativeI2cState where
  | released
  | transition
  | activeSerialized
deriving DecidableEq

/-- The bits of `fault_bits` -/
inductive Fault where
  | dma
  | underrun
  | staleFrame
  | dsiHost
  | poolGuard
  | backlightControl
deriving DecidableEq

def Fault.mask : Fault → Word
  | .dma => 0x01#32
  | .underrun => 0x02#32
  | .staleFrame => 0x04#32
  | .dsiHost => 0x08#32
  | .poolGuard => 0x10#32
  | .backlightControl => 0x20#32

/-- The error codes that the driver returns. -/
inductive DisplayErrno where
  | eagain
  | ealready
  | ebusy
  | efault
  | efbig
  | ehostdown
  | einval
  | eio
  | enodata
  | enodev
  | enomem
  | enospc
  | estale
  | etimedout
deriving DecidableEq

/-- `FB_BLANK_*` -/
inductive FbBlank where
  | unblank
  | normal
  | vsyncSuspend
  | hsyncSuspend
  | powerdown
deriving DecidableEq

/-- The properties of the backlight device that the driver reads.  `state`
holds the core's suspend and blank bits. -/
structure Backlight where
  brightness : Byte
  power : FbBlank
  state : Word
deriving DecidableEq

/-- `backlight_is_blank` -/
def Backlight.isBlank (backlight : Backlight) : Bool :=
  backlight.power != .unblank || backlight.state != 0

/-- Which buffers the hardware may read, and whether it does. -/
structure Roles where
  front : Nat
  queued : Option Nat
  active : Bool
deriving DecidableEq

/-- What happened to the buffers: a store of a drawing operation or of the
destination side of a copy, and the end of a completed transfer. -/
inductive ScanoutEvent where
  | stored (buffer : Nat) (roles : Roles)
  | rearmed (succeeded : Bool) (before after : Roles)
deriving DecidableEq

/-- The buffers and their roles.  `state_lock` protects the roles against the
interrupt, `render_lock` serializes drawing.  The last six fields are history:
the copy in progress, the operations executed, what the one in progress has
done so far, the front buffers, whether `micronux_select_initial_front` ever
ran with undrawn operations, and the events. -/
structure Scanout where
  frontIndex : Nat
  presentedIndex : Nat
  renderIndex : Nat
  queuedIndex : Option Nat
  scanoutActive : Bool
  renderNeedsSync : Bool
  renderDirty : Bool
  screenBase : Nat
  framebuffer : Nat → Frame
  nextCommitSequence : Nat
  bufferCommitSequence : Nat → Nat
  frontCommitSequence : Nat
  presentedCommitSequence : Nat
  sourceGeneration : Word
  renderLock : Option ThreadId
  copying : Option (Nat × Nat)
  drawn : List (Frame → Frame)
  stroke : Frame → Frame
  shown : List (Replay.Sighting Frame)
  raced : Bool
  events : List ScanoutEvent

def Scanout.roles (scanout : Scanout) : Roles :=
  ⟨scanout.frontIndex, scanout.queuedIndex, scanout.scanoutActive⟩

/-- What went to the panel over I2C, and the two ways in which the native
driver stops the source: the interrupt declines to rearm, or
`micronux_cold_runtime_teardown` is entered. -/
inductive PanelEvent where
  | pwm (value : Byte) (acked : Bool)
  | control (command : Byte) (acked : Bool)
  | declined
  | tornDown
deriving DecidableEq

/-- The gates, the latches and the panel.  The last field is history. -/
structure Panel where
  displayState : DisplayState
  faultBits : Word
  lastDmaError : Word
  hostErrors : Bool
  scanoutReady : Bool
  bootDisplayReady : Bool
  renderEnabled : Bool
  bootReadyConsumed : Bool
  nativePreserveSource : Bool
  nativeDarkConfirmed : Bool
  nativeRevealMayBeLit : Bool
  nativeSourceRearmUnverified : Bool
  coldRuntimeUnverified : Bool
  nativeI2cState : NativeI2cState
  coldI2cActive : Bool
  backlight : Option Backlight
  backlightGateEnabled : Bool
  appliedBrightness : Byte
  modeLock : Option ThreadId
  opsLock : Option ThreadId
  events : List PanelEvent

/-- A work item of the kernel's workqueue. -/
structure Work where
  pending : Bool
  running : Bool
deriving DecidableEq

/-- `struct micronux_dsi` -/
structure Display where
  scanout : Scanout
  panel : Panel
  renderWork : Work
  faultWork : Work

/-- What the hardware and the rest of the kernel answer to one action.  `ok`
is the outcome of a device access, a check of device registers, an allocation
or a wait; `missing` is what `copy_from_user` leaves; the words are the GDMA
status registers. -/
structure DisplayInput where
  ok : Bool := true
  missing : Nat := 0
  top : Word := 0#32
  status0 : Word := 0#32
  status1 : Word := 0#32
  common : Word := 0#32
  hostStatus : Bool := false
  hostFatal : Bool := false
  underrun : Bool := false
  stale : Bool := false
  policyBad : Bool := false
  guardsBad : Bool := false
deriving DecidableEq

abbrev DisplayProg := Prog Display DisplayInput

def readScanout {β : Type} (view : Scanout → β) : DisplayProg β :=
  Prog.load fun display => view display.scanout

def readPanel {β : Type} (view : Panel → β) : DisplayProg β :=
  Prog.load fun display => view display.panel

def setScanout (change : Scanout → Scanout) : DisplayProg Unit :=
  Prog.store fun display => { display with scanout := change display.scanout }

def setPanel (change : Panel → Panel) : DisplayProg Unit :=
  Prog.store fun display => { display with panel := change display.panel }

def succeeds : DisplayProg Bool :=
  Prog.ask DisplayInput.ok

/-- `mutex_lock(&dsi->render_lock)` -/
def lockRender (t : ThreadId) : DisplayProg Unit :=
  Prog.await (fun display => display.scanout.renderLock.isNone) fun display =>
    { display with scanout := { display.scanout with renderLock := some t } }

def unlockRender : DisplayProg Unit :=
  setScanout fun scanout => { scanout with renderLock := none }

/-- `mutex_lock(&dsi->mode_lock)` -/
def lockMode (t : ThreadId) : DisplayProg Unit :=
  Prog.await (fun display => display.panel.modeLock.isNone) fun display =>
    { display with panel := { display.panel with modeLock := some t } }

def unlockMode : DisplayProg Unit :=
  setPanel fun panel => { panel with modeLock := none }

/-- `mutex_lock(&backlight->ops_lock)` -/
def lockOps (t : ThreadId) : DisplayProg Unit :=
  Prog.await (fun display => display.panel.opsLock.isNone) fun display =>
    { display with panel := { display.panel with opsLock := some t } }

def unlockOps : DisplayProg Unit :=
  setPanel fun panel => { panel with opsLock := none }

/-- `set_bit` on `fault_bits` and `schedule_work` -/
def Display.setFault (display : Display) (fault : Fault) : Display :=
  { display with
    panel := { display.panel with
      faultBits := display.panel.faultBits ||| fault.mask }
    faultWork := { display.faultWork with pending := true } }

/-- `micronux_latch_fault`: the work is scheduled by the first latch only. -/
def Display.latchFault (display : Display) (fault : Fault) : Display :=
  if display.panel.faultBits &&& fault.mask = 0 then display.setFault fault
  else display

/-- `micronux_sample_host_status`: the sampled bits are sticky, and a fatal
one latches a fault. -/
def sampleHostStatus : DisplayProg Bool :=
  Prog.atomic fun input display =>
    let seen := input.hostStatus || input.hostFatal
    let sticky := { display with
      panel := { display.panel with
        hostErrors := display.panel.hostErrors || seen } }
    some (if input.hostFatal then sticky.latchFault .dsiHost else sticky, seen)

def copyByte (destination source : Nat) (offset : Fin framebufferSize) :
    DisplayProg Unit :=
  setScanout fun scanout =>
    { scanout with
      framebuffer := Function.update scanout.framebuffer destination
        (Function.update (scanout.framebuffer destination) offset
          (scanout.framebuffer source offset))
      events := .stored destination scanout.roles :: scanout.events }

/-- `micronux_copy_frame`, one byte at a time: the source copies in chunks of
512 bytes and pauses between them, which changes no store. -/
def copyFrame (destination source : Nat) : DisplayProg Unit :=
  Prog.forEach (copyByte destination source) (List.finRange framebufferSize)

/-- The first section of `micronux_prepare_render_locked`: which buffer has to
be brought up to date, and from which one. -/
def planCopy (display : Display) : Display × Option (Nat × Nat) :=
  let scanout := display.scanout
  if scanout.renderNeedsSync then
    let plan := (scanout.renderIndex,
      scanout.queuedIndex.getD scanout.frontIndex)
    ({ display with scanout := { scanout with copying := some plan } },
      some plan)
  else (display, none)

/-- `micronux_prepare_render_locked` -/
def prepareRenderLocked : DisplayProg Unit := do
  match ← Prog.critical planCopy with
  | none => pure ()
  | some (destination, source) =>
    copyFrame destination source
    setScanout fun scanout =>
      { scanout with renderNeedsSync := false, copying := none }

/-- `micronux_free_buffer_locked` -/
def freeBufferLocked (render front : Nat) (queued : Option Nat) : Nat :=
  ((List.range bufferCount).find? fun index =>
    index != front && some index != queued).getD render

/-- `micronux_set_render_mapping_locked` -/
def setRenderMappingLocked : DisplayProg Unit := do
  let index ← readScanout Scanout.renderIndex
  setScanout fun scanout => { scanout with screenBase := index }

/-- The section of `micronux_queue_render_locked`; it returns whether the
render buffer has changed. -/
def queueSection (rendered : Nat) (display : Display) : Display × Bool :=
  let scanout := display.scanout
  if display.panel.faultBits != 0 then (display, false)
  else
    let sequence := scanout.nextCommitSequence + 1
    let committed := { scanout with
      nextCommitSequence := sequence
      bufferCommitSequence :=
        Function.update scanout.bufferCommitSequence rendered sequence
      queuedIndex := some rendered }
    if scanout.scanoutActive then
      ({ display with scanout := { committed with
          renderIndex := freeBufferLocked scanout.renderIndex
            scanout.frontIndex (some rendered)
          renderNeedsSync := true } }, true)
    else ({ display with scanout := committed }, false)

/-- `micronux_queue_render_locked` -/
def queueRenderLocked : DisplayProg Unit := do
  let rendered ← readScanout Scanout.renderIndex
  if ← Prog.critical (queueSection rendered) then setRenderMappingLocked
  else pure ()

/-- `micronux_commit_render_locked` -/
def commitRenderLocked : DisplayProg Unit := do
  if ← readScanout Scanout.renderDirty then do
    setScanout fun scanout => { scanout with renderDirty := false }
    queueRenderLocked
  else pure ()

/-- `micronux_render_work`, run by the workqueue while it is pending. -/
def renderWork (t : ThreadId) : DisplayProg Unit := do
  Prog.await (fun display =>
    display.renderWork.pending && !display.renderWork.running) fun display =>
      { display with renderWork := ⟨false, true⟩ }
  lockRender t
  commitRenderLocked
  unlockRender
  Prog.store fun display =>
    { display with renderWork := { display.renderWork with running := false } }

/-- `cancel_delayed_work_sync(&dsi->render_work)` -/
def cancelRenderWork : DisplayProg Unit := do
  Prog.store fun display =>
    { display with renderWork := { display.renderWork with pending := false } }
  Prog.await (fun display => !display.renderWork.running) id

/-- `micronux_mark_render_dirty_locked`; here a drawing operation is complete. -/
def markRenderDirtyLocked : DisplayProg Unit := do
  setScanout fun scanout =>
    { scanout with
      renderDirty := true
      drawn := scanout.drawn ++ [scanout.stroke]
      stroke := id }
  Prog.store fun display =>
    { display with renderWork := { display.renderWork with pending := true } }

/-- `micronux_flush_render` -/
def flushRender (t : ThreadId) : DisplayProg Unit := do
  cancelRenderWork
  lockRender t
  commitRenderLocked
  unlockRender

/-- `micronux_render_allowed` -/
def renderAllowed : Abi → DisplayProg Bool
  | .v2 => pure true
  | .v3 => do
    let state ← readPanel Panel.displayState
    let enabled ← readPanel Panel.renderEnabled
    pure (enabled && (state == .scanoutQualifiedQuiescent ||
      state == .runtimeRevealed))

/-- One store through `info->screen_base`. -/
def drawStore (base : Nat) (change : Frame → Frame) : DisplayProg Unit :=
  setScanout fun scanout =>
    { scanout with
      framebuffer := Function.update scanout.framebuffer base
        (change (scanout.framebuffer base))
      stroke := change ∘ scanout.stroke
      events := .stored base scanout.roles :: scanout.events }

/-- The part that all drawing entry points share: the gate before and after
taking the lock, and the preparation of the back buffer. -/
def withRender {α : Type} (abi : Abi) (t : ThreadId) (refused : α)
    (body : DisplayProg α) : DisplayProg α := do
  if ← renderAllowed abi then do
    lockRender t
    if ← renderAllowed abi then do
      prepareRenderLocked
      let result ← body
      unlockRender
      pure result
    else do
      unlockRender
      pure refused
  else pure refused

/-- `micronux_fb_read`; what `fb_io_read` returns is the caller's. -/
def fbRead (abi : Abi) (t : ThreadId) (count : Nat) :
    DisplayProg (Except DisplayErrno Nat) :=
  withRender abi t (.error .eagain) (pure (.ok count))

def drawPrimitive (abi : Abi) (t : ThreadId) (stores : List (Frame → Frame)) :
    DisplayProg Unit :=
  withRender abi t () do
    let base ← readScanout Scanout.screenBase
    Prog.forEach (drawStore base) stores
    markRenderDirtyLocked

/-- `micronux_fb_fillrect` around the stores of `cfb_fillrect` -/
def fbFillrect (abi : Abi) (t : ThreadId) (stores : List (Frame → Frame)) :
    DisplayProg Unit :=
  drawPrimitive abi t stores

/-- `micronux_fb_copyarea` around the stores of `cfb_copyarea` -/
def fbCopyarea (abi : Abi) (t : ThreadId) (stores : List (Frame → Frame)) :
    DisplayProg Unit :=
  drawPrimitive abi t stores

/-- `micronux_fb_imageblit` around the stores of `cfb_imageblit` -/
def fbImageblit (abi : Abi) (t : ThreadId) (stores : List (Frame → Frame)) :
    DisplayProg Unit :=
  drawPrimitive abi t stores

def putByte (offset : Nat) (value : Byte) (frame : Frame) : Frame :=
  fun index => if index.val = offset then value else frame index

/-- `MICRONUX_FB_WRITE_CHUNK` -/
def fbWriteChunk : Nat := 512

/-- `fb_memcpy_toio` of a chunk to an offset behind `screen_base`. -/
def fbMemcpyToio (base offset : Nat) (bytes : List Byte) : DisplayProg Unit :=
  Prog.forEach (fun entry : Byte × Nat =>
    drawStore base (putByte entry.2 entry.1)) (bytes.zipIdx offset)

/-- The loop of `micronux_fb_write` over the rest of the user's bytes: how
many were written and with which error it stopped.  A round leaves fewer
bytes, so their number is fuel enough. -/
def fbWriteLoop (base : Nat) :
    Nat → Nat → List Byte → Nat → DisplayProg (Nat × Option DisplayErrno)
  | 0, _, _, written => pure (written, none)
  | fuel + 1, offset, bytes, written =>
    if bytes.isEmpty then pure (written, none)
    else do
      let chunk := bytes.take fbWriteChunk
      let missing ← Prog.ask fun input => min input.missing chunk.length
      if missing = chunk.length then pure (written, some .efault)
      else do
        let copied := chunk.length - missing
        fbMemcpyToio base offset (chunk.take copied)
        if missing = 0 then
          fbWriteLoop base fuel (offset + copied) (bytes.drop copied)
            (written + copied)
        else pure (written + copied, some .efault)

/-- `written ? written : error` -/
def writeReply (written : Nat) (error : Option DisplayErrno) :
    Except DisplayErrno Nat :=
  match error with
  | some errno => if written = 0 then .error errno else .ok written
  | none => .ok written

/-- The body of `micronux_fb_write` under the lock. -/
def fbWriteLocked (offset : Nat) (bytes : List Byte) :
    DisplayProg (Except DisplayErrno Nat) := do
  if framebufferSize < offset then pure (.error .efbig)
  else do
    let room := framebufferSize - offset
    let error := if room < bytes.length then some DisplayErrno.enospc else none
    let accepted := bytes.take room
    if accepted.isEmpty then pure (writeReply 0 error)
    else do
      if ← succeeds then do
        let base ← readScanout Scanout.screenBase
        let (written, stopped) ←
          fbWriteLoop base accepted.length offset accepted 0
        if written = 0 then pure (writeReply written (stopped.or error))
        else do
          markRenderDirtyLocked
          pure (writeReply written (stopped.or error))
      else pure (.error .enomem)

/-- `micronux_fb_write` -/
def fbWrite (abi : Abi) (t : ThreadId) (offset : Nat) (bytes : List Byte) :
    DisplayProg (Except DisplayErrno Nat) :=
  withRender abi t (.error .eagain) (fbWriteLocked offset bytes)

end Micronux
