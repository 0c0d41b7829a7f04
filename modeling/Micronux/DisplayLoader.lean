/-
The driver in ABI-v2 mode, where the loader hands over a running panel: the
DMA interrupt that flips the roles at the end of a transfer, and blank,
unblank, boot_ready and the fault work.
-/
import Micronux.Backlight

namespace Micronux

open Concurrent

/-- `DW_GDMA_INT_DMA_TFR_DONE` -/
def gdmaTransferDone : Word := 0x00000002#32

/-- `DW_GDMA_INT_ERROR_MASK` -/
def gdmaErrorMask : Word := 0x023f7fe0#32

def Scanout.flip (scanout : Scanout) (index : Nat) : Scanout :=
  { scanout with
    frontIndex := index
    queuedIndex := none
    shown := ⟨scanout.framebuffer index, scanout.drawn.length⟩ :: scanout.shown }

/-- The roles after a transfer whose successor was armed: a queued buffer is
presented unless a fault is latched. -/
def Scanout.completed (scanout : Scanout) (faulted : Bool) : Scanout :=
  let next := { scanout with sourceGeneration := scanout.sourceGeneration + 1 }
  match scanout.queuedIndex with
  | some index => if faulted then next else next.flip index
  | none => next

def Scanout.logRearm (before after : Scanout) (succeeded : Bool) : Scanout :=
  { after with
    events := .rearmed succeeded before.roles after.roles :: after.events }

/-- The part of `micronux_dma_irq` under `state_lock` and what follows a
failed rearm. -/
def finishTransfer (armed : Bool) (display : Display) : Display :=
  let scanout := display.scanout
  if armed then
    let after := scanout.completed (display.panel.faultBits != 0)
    { display with scanout := scanout.logRearm after true }
  else
    let failed := { display with
      scanout := scanout.logRearm scanout false
      panel := { display.panel with lastDmaError := 0x40000000#32 } }
    failed.latchFault .dma

/-- `micronux_dma_irq` notes an error in the status. -/
def noteDmaError (error : Word) (display : Display) : Display :=
  if error = 0 then display
  else
    let failed := { display with
      panel := { display.panel with lastDmaError := error } }
    failed.latchFault .dma

/-- `micronux_dma_irq` in ABI-v2 mode -/
def loaderDmaIrq (input : DisplayInput) (display : Display) : Display :=
  let status := input.status0
  let error := status &&& gdmaErrorMask
  let noted := noteDmaError error display
  if status &&& gdmaTransferDone != 0 && noted.scanout.scanoutActive &&
      error == 0 then finishTransfer input.ok noted
  else noted

/-- The section of `micronux_select_initial_front` -/
def initialFrontSection (display : Display) : Display × Nat :=
  let scanout := display.scanout
  let front := scanout.queuedIndex.getD scanout.frontIndex
  let render :=
    if scanout.renderIndex = front then
      freeBufferLocked scanout.renderIndex front none
    else scanout.renderIndex
  ({ display with scanout := { scanout.flip front with
      renderIndex := render
      renderNeedsSync := true
      scanoutActive := true
      sourceGeneration := scanout.sourceGeneration + 1
      raced := scanout.raced || scanout.renderDirty } }, front)

/-- `micronux_select_initial_front` -/
def selectInitialFront (t : ThreadId) : DisplayProg Nat := do
  lockRender t
  let front ← Prog.critical initialFrontSection
  setRenderMappingLocked
  unlockRender
  pure front

/-- `micronux_dma_start_frame`: abort what runs, then arm the frame. -/
def dmaStartFrame (_index : Nat) : DisplayProg (Except DisplayErrno Unit) := do
  if ← succeeds then
    if ← succeeds then pure (.ok ()) else pure (.error .eio)
  else do
    setPanel fun panel => { panel with lastDmaError := 0x80000000#32 }
    pure (.error .etimedout)

/-- `micronux_dma_stop` -/
def dmaStop : DisplayProg (Except DisplayErrno Unit) := do
  if ← succeeds then pure (.ok ()) else pure (.error .etimedout)

/-- The checks that end each of the two windows of
`micronux_restore_framebuffer_source`. -/
def frameWindowClean : DisplayProg Bool := do
  let seen ← sampleHostStatus
  Prog.allOf [succeeds, readPanel fun panel => panel.faultBits == 0, pure !seen,
      readPanel fun panel => !panel.hostErrors,
      readPanel fun panel => panel.lastDmaError == 0, succeeds]

/-- `micronux_restore_framebuffer_source` -/
def restoreFramebufferSource : DisplayProg (Except DisplayErrno Unit) := do
  if (← readPanel Panel.appliedBrightness) != 0 then pure (.error .ebusy)
  else if ← Prog.allOf [succeeds, frameWindowClean, frameWindowClean] then
    pure (.ok ())
  else pure (.error .eio)

/-- The label `start_failed` of `__micronux_fb_blank` -/
def startFailed (errno : DisplayErrno) :
    DisplayProg (Except DisplayErrno Unit) := do
  setScanout fun scanout => { scanout with scanoutActive := false }
  let _ ← dmaStop
  pure (.error errno)

/-- `__micronux_fb_blank` from an unblank of a stopped scanout on -/
def startScanout (t : ThreadId) : DisplayProg (Except DisplayErrno Unit) := do
  setPanel fun panel => { panel with lastDmaError := 0 }
  let front ← selectInitialFront t
  match ← dmaStartFrame front with
  | .error errno => startFailed errno
  | .ok () =>
    match ← restoreFramebufferSource with
    | .error errno => startFailed errno
    | .ok () =>
      if ← Prog.allOf
          [readPanel fun panel => panel.lastDmaError == 0, succeeds] then
        backlightSetPower .v2 .unblank
      else startFailed .eio

/-- `__micronux_fb_blank` for a blank of a scanout that is ready: the source
stops only behind a dark backlight. -/
def stopScanout (blank : FbBlank) : DisplayProg (Except DisplayErrno Unit) := do
  match ← backlightSetPower .v2 blank with
  | .error errno => pure (.error errno)
  | .ok () =>
    if ← readScanout Scanout.scanoutActive then do
      setScanout fun scanout => { scanout with scanoutActive := false }
      dmaStop
    else pure (.ok ())

/-- `__micronux_fb_blank` -/
def fbBlankLocked (t : ThreadId) (blank : FbBlank) :
    DisplayProg (Except DisplayErrno Unit) := do
  flushRender t
  match ← readPanel Panel.backlight with
  | none => pure (.ok ())
  | some _ =>
    if ← readPanel fun panel =>
        blank == .unblank && !panel.bootDisplayReady then
      backlightSetPower .v2 .powerdown
    else if ← readPanel Panel.scanoutReady then
      if blank = .unblank then
        if ← readScanout Scanout.scanoutActive then
          backlightSetPower .v2 .unblank
        else startScanout t
      else stopScanout blank
    else backlightSetPower .v2 blank

/-- `mode_lock` and `ops_lock` around a body. -/
def withModeAndOps {α : Type} (t : ThreadId) (body : DisplayProg α) :
    DisplayProg α := do
  lockMode t
  lockOps t
  let result ← body
  unlockOps
  unlockMode
  pure result

/-- `micronux_fb_blank` in ABI-v2 mode -/
def loaderFbBlank (t : ThreadId) (blank : FbBlank) :
    DisplayProg (Except DisplayErrno Unit) :=
  withModeAndOps t (fbBlankLocked t blank)

/-- `boot_ready_store` in ABI-v2 mode under its locks -/
def loaderBootReady (t : ThreadId) (ready : Bool) :
    DisplayProg (Except DisplayErrno Unit) := do
  if ready then
    if ← readPanel Panel.scanoutReady then do
      setPanel fun panel => { panel with bootDisplayReady := true }
      match ← fbBlankLocked t .unblank with
      | .ok () => pure (.ok ())
      | .error errno => do
        setPanel fun panel => { panel with bootDisplayReady := false }
        let _ ← backlightSetPower .v2 .powerdown
        pure (.error errno)
    else pure (.error .eagain)
  else do
    setPanel fun panel => { panel with bootDisplayReady := false }
    fbBlankLocked t .powerdown

/-- `boot_ready_store` in ABI-v2 mode -/
def loaderBootReadyStore (t : ThreadId) (ready : Bool) :
    DisplayProg (Except DisplayErrno Unit) :=
  withModeAndOps t (loaderBootReady t ready)

/-- `micronux_fault_work` in ABI-v2 mode, once the work runs: the source is
preserved. -/
def loaderFaultWork (t : ThreadId) : DisplayProg Unit := do
  lockMode t
  let faults ← readPanel Panel.faultBits
  lockOps t
  if (← readPanel Panel.scanoutReady) && faults != 0 then do
    setPanel fun panel => { panel with bootDisplayReady := false }
    let _ ← backlightSetPower .v2 .powerdown
    pure ()
  unlockOps
  unlockMode

/-- The end of `micronux_dsi_probe` in ABI-v2 mode -/
def finishProbe : DisplayProg Unit :=
  setPanel fun panel =>
    { panel with scanoutReady := true, displayState := .runtimeReady }

end Micronux
