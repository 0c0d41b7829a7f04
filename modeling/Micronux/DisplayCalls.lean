/-
The entry points of the display driver as calls of concurrent threads, the
states in which its two modes start, and their runs.
-/
import Micronux.DisplayNative

namespace Micronux

open Concurrent

/-- The host part of `micronux_dma_poll`. -/
def pollHostStatus (abi : Abi) (input : DisplayInput) (display : Display) :
    Display :=
  let seen := input.hostStatus || input.hostFatal
  let sticky := { display with
    panel := { display.panel with
      hostErrors := display.panel.hostErrors || seen } }
  if input.hostFatal || (abi = .v3 && seen) then sticky.latchFault .dsiHost
  else sticky

/-- `micronux_native_scanout_live_state` -/
def nativeScanoutLiveState (state : DisplayState) : Bool :=
  state == .scanoutQualifiedQuiescent || state == .revealing ||
    state == .runtimeRevealed

/-- The condition `monitor` of `micronux_dma_poll`; the test pattern that also
turns it off is not modelled. -/
def pollMonitors (abi : Abi) (display : Display) : Bool :=
  let panel := display.panel
  panel.scanoutReady && display.scanout.scanoutActive && panel.faultBits == 0 &&
    match abi with
    | .v2 => panel.bootDisplayReady
    | .v3 => nativeScanoutLiveState panel.displayState

/-- A latch of `micronux_dma_poll` under a condition. -/
def Display.latchIf (display : Display) (condition : Bool) (fault : Fault) :
    Display :=
  if condition then display.latchFault fault else display

/-- `micronux_dma_poll`, which runs in the context of the timer interrupt. -/
def dmaPoll (abi : Abi) (input : DisplayInput) (display : Display) : Display :=
  let sampled := pollHostStatus abi input
    (display.latchIf input.underrun .underrun)
  let monitor := pollMonitors abi sampled
  ((sampled.latchIf (monitor && abi == .v3 && input.policyBad) .dma).latchIf
    (monitor && input.guardsBad) .poolGuard).latchIf
      (monitor && input.stale) .staleFrame

/-- `micronux_dma_irq` -/
def dmaIrq : Abi → DisplayInput → Display → Display
  | .v2 => loaderDmaIrq
  | .v3 => nativeDmaIrq

/-- A handler runs to completion before any thread continues. -/
def handler (body : DisplayInput → Display → Display) : DisplayProg Unit :=
  Prog.atomic fun input display => some (body input display, ())

/-- `micronux_fb_blank` -/
def fbBlank : Abi → ThreadId → FbBlank → DisplayProg (Except DisplayErrno Unit)
  | .v2 => loaderFbBlank
  | .v3 => nativeFbBlank

/-- `boot_ready_store`, with the parsed value. -/
def bootReadyStore :
    Abi → ThreadId → Bool → DisplayProg (Except DisplayErrno Unit)
  | .v2 => loaderBootReadyStore
  | .v3 => nativeBootReadyStore

/-- `micronux_fault_work`, run by the workqueue while it is pending. -/
def faultWork (abi : Abi) (t : ThreadId) : DisplayProg Unit := do
  Prog.await (fun display =>
    display.faultWork.pending && !display.faultWork.running) fun display =>
      { display with faultWork := ⟨false, true⟩ }
  match abi with
  | .v2 => loaderFaultWork t
  | .v3 => nativeFaultWork t
  Prog.store fun display =>
    { display with faultWork := { display.faultWork with running := false } }

/-- The last step of bringing the driver up, which the other entry points may
already overlap. -/
def bringUp : Abi → ThreadId → DisplayProg (Except DisplayErrno Unit)
  | .v2, _ => do
    finishProbe
    pure (.ok ())
  | .v3, t => coldInitializeScanoutStage t

/-- What the rest of the kernel may call. -/
inductive DisplayRequest where
  | fbRead (count : Nat)
  | fbWrite (offset : Nat) (bytes : List Byte)
  | fbFillrect (stores : List (Frame → Frame))
  | fbCopyarea (stores : List (Frame → Frame))
  | fbImageblit (stores : List (Frame → Frame))
  | fbBlank (blank : FbBlank)
  | bootReady (ready : Bool)
  | backlight (request : Backlight → Backlight)
  | renderWork
  | faultWork
  | dmaIrq
  | dmaPoll
  | bringUp

def replyUnit (body : DisplayProg (Except DisplayErrno Unit)) :
    DisplayProg (Except DisplayErrno Nat) := do
  match ← body with
  | .ok () => pure (.ok 0)
  | .error errno => pure (.error errno)

def replyNone (body : DisplayProg Unit) :
    DisplayProg (Except DisplayErrno Nat) := do
  body
  pure (.ok 0)

def displayCode (abi : Abi) (t : ThreadId) :
    DisplayRequest → DisplayProg (Except DisplayErrno Nat)
  | .fbRead count => fbRead abi t count
  | .fbWrite offset bytes => fbWrite abi t offset bytes
  | .fbFillrect stores => replyNone (fbFillrect abi t stores)
  | .fbCopyarea stores => replyNone (fbCopyarea abi t stores)
  | .fbImageblit stores => replyNone (fbImageblit abi t stores)
  | .fbBlank blank => replyUnit (fbBlank abi t blank)
  | .bootReady ready => replyUnit (bootReadyStore abi t ready)
  | .backlight request => replyUnit (backlightRequest abi t request)
  | .renderWork => replyNone (renderWork t)
  | .faultWork => replyNone (faultWork abi t)
  | .dmaIrq => replyNone (handler (dmaIrq abi))
  | .dmaPoll => replyNone (handler (dmaPoll abi))
  | .bringUp => replyUnit (bringUp abi t)

/-- The buffers when the framebuffer becomes reachable: both Linux-owned
buffers are copies of what the first one holds. -/
def initialScanout (splash : Frame) : Scanout where
  frontIndex := 0
  presentedIndex := 0
  renderIndex := 1
  queuedIndex := none
  scanoutActive := false
  renderNeedsSync := false
  renderDirty := false
  screenBase := 1
  framebuffer := fun _ => splash
  nextCommitSequence := 0
  bufferCommitSequence := fun _ => 0
  frontCommitSequence := 0
  presentedCommitSequence := 0
  sourceGeneration := 0
  renderLock := none
  copying := none
  drawn := []
  stroke := id
  shown := []
  raced := false
  events := []

/-- The gates at the same moment.  In ABI-v2 mode the backlight is registered
before the framebuffer; in ABI-v3 mode the memory has just been initialized. -/
def initialPanel (abi : Abi) : Panel where
  displayState := match abi with
    | .v2 => .unbound
    | .v3 => .scanoutInitializing
  faultBits := 0
  lastDmaError := 0
  hostErrors := false
  scanoutReady := false
  bootDisplayReady := false
  renderEnabled := false
  bootReadyConsumed := false
  nativePreserveSource := false
  nativeDarkConfirmed := false
  nativeRevealMayBeLit := false
  nativeSourceRearmUnverified := false
  coldRuntimeUnverified := false
  nativeI2cState := .released
  coldI2cActive := false
  backlight := match abi with
    | .v2 => some ⟨coldBrightness, .powerdown, 0⟩
    | .v3 => none
  backlightGateEnabled := false
  appliedBrightness := 0
  modeLock := none
  opsLock := none
  events := []

def initialDisplay (abi : Abi) (splash : Frame) : Display where
  scanout := initialScanout splash
  panel := initialPanel abi
  renderWork := ⟨false, false⟩
  faultWork := ⟨false, false⟩

abbrev DisplayConfig :=
  Config Display DisplayInput ThreadId (Except DisplayErrno Nat)

abbrev DisplayLabel := Label ThreadId DisplayRequest DisplayInput

def initialConfig (abi : Abi) (splash : Frame) : DisplayConfig where
  shared := initialDisplay abi splash
  thread := fun _ => .ret (.ok 0)

/-- The configurations that a schedule reaches from the start of the driver. -/
def DisplayRun (abi : Abi) (splash : Frame) (labels : List DisplayLabel)
    (after : DisplayConfig) : Prop :=
  (initialConfig abi splash).exec (displayCode abi) labels = some after

end Micronux
