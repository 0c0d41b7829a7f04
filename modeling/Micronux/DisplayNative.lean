/-
The driver in ABI-v3 mode, where Linux brings the panel up itself: scanout
starts dark, a write to boot_ready reveals it, and a fault takes it down
again.  The source may stop only behind an acknowledged dark panel.
-/
import Micronux.DisplayLoader

namespace Micronux

open Concurrent

/-- `DW_GDMA_INT_TOP_ALLOWED` -/
def gdmaTopAllowed : Word := 0x00010001#32

/-- `DW_GDMA_INT_ECC_ERROR_MASK` -/
def gdmaEccErrorMask : Word := 0x0000000f#32

/-- `DW_GDMA_INT_COMMON_VALID_MASK` -/
def gdmaCommonValidMask : Word := 0x001fff8f#32

/-- `dma_error` of `micronux_native_dma_irq` -/
def nativeDmaError (input : DisplayInput) : Bool :=
  input.top &&& ~~~gdmaTopAllowed != 0 || input.status0 &&& gdmaErrorMask != 0 ||
    input.status1 &&& gdmaEccErrorMask != 0 ||
    input.common &&& gdmaCommonValidMask != 0

/-- The word that `micronux_native_dma_irq` leaves in `last_dma_error`. -/
def nativeErrorWord (input : DisplayInput) : Word :=
  (input.status0 &&& gdmaErrorMask) |||
    if input.status1 != 0 || input.common != 0 ||
      input.top &&& ~~~gdmaTopAllowed != 0 then 0x80000000#32 else 0#32

/-- The source has to keep running: it may be visible. -/
def Panel.preserves (panel : Panel) : Bool :=
  panel.nativePreserveSource && !panel.nativeDarkConfirmed

/-- The roles and commit numbers after a rearm without a DMA error. -/
def Scanout.presented (scanout : Scanout) (faulted : Bool) : Scanout :=
  let flipped := if faulted then none else scanout.queuedIndex
  { scanout.completed faulted with
    presentedIndex := scanout.frontIndex
    presentedCommitSequence := scanout.frontCommitSequence
    frontCommitSequence := (flipped.map scanout.bufferCommitSequence).getD
      scanout.frontCommitSequence }

/-- The buffer of the next transfer: the queued one, unless the source has to
hold. -/
def Scanout.nextIndex (scanout : Scanout) (hold : Bool) : Nat :=
  if hold then scanout.frontIndex
  else scanout.queuedIndex.getD scanout.frontIndex

/-- What `micronux_native_dma_irq` does with a completed transfer while
scanout is active.  Only an index that is no buffer fails to rearm. -/
def nativeFinishTransfer (dmaError preserve : Bool) (display : Display) :
    Display :=
  let scanout := display.scanout
  let faulted := display.panel.faultBits != 0
  if (faulted || dmaError) && !preserve then
    { display with panel := { display.panel with
        events := .declined :: display.panel.events } }
  else if scanout.nextIndex (faulted || dmaError) < bufferCount then
    let after := if dmaError then scanout else scanout.presented faulted
    { display with scanout := scanout.logRearm after true }
  else
    let failed := { display with
      scanout := scanout.logRearm scanout false
      panel := { display.panel with
        lastDmaError := 0x40000000#32
        coldRuntimeUnverified := true
        nativeSourceRearmUnverified :=
          display.panel.nativeSourceRearmUnverified || preserve } }
    failed.setFault .dma

/-- What `micronux_native_dma_irq` notes about the status before it looks for
a completed transfer. -/
def nativeNoteStatus (input : DisplayInput) (preserve : Bool)
    (display : Display) : Display :=
  let contained := { display with panel := { display.panel with
    coldRuntimeUnverified := display.panel.coldRuntimeUnverified ||
      (input.top &&& ~~~gdmaTopAllowed != 0 && preserve && !input.ok) } }
  if nativeDmaError input then
    let failed := { contained with panel := { contained.panel with
      lastDmaError := nativeErrorWord input } }
    failed.setFault .dma
  else contained

/-- `micronux_native_dma_irq` -/
def nativeDmaIrq (input : DisplayInput) (display : Display) : Display :=
  if input.top ||| input.status0 ||| input.status1 ||| input.common = 0 then
    display
  else
    let preserve := display.panel.preserves
    let dmaError := nativeDmaError input
    let noted := nativeNoteStatus input preserve display
    if input.status0 &&& gdmaTransferDone = 0 then
      { noted with panel := { noted.panel with
          nativeSourceRearmUnverified :=
            noted.panel.nativeSourceRearmUnverified ||
              (dmaError && preserve) } }
    else if noted.scanout.scanoutActive then
      nativeFinishTransfer dmaError preserve noted
    else noted

/-- `micronux_native_final_status_clean` -/
def nativeFinalStatusClean : DisplayProg Bool := do
  let seen ← sampleHostStatus
  Prog.allOf [pure !seen, readPanel fun panel => !panel.hostErrors, succeeds,
      readPanel fun panel => panel.lastDmaError == 0,
      readPanel fun panel => panel.faultBits == 0, succeeds]

/-- `wait_event_timeout` on `frame_wait`: whether the condition came true. -/
def waitFrame (ready : Display → Bool) : DisplayProg Bool :=
  Prog.atomic fun input display =>
    if ready display then some (display, true)
    else if input.ok then none
    else some (display, false)

/-- `MICRONUX_SCANOUT_STABLE_FRAMES` -/
def scanoutStableFrames : Nat := 4

/-- `native_target_ready` -/
def nativeTargetReady (target : Nat) (display : Display) : Bool :=
  target ≤ display.scanout.presentedCommitSequence ||
    display.panel.faultBits != 0

/-- `native_window_ready` -/
def nativeWindowReady (generation : Word) (display : Display) : Bool :=
  scanoutStableFrames ≤ (display.scanout.sourceGeneration - generation).toNat ||
    display.panel.faultBits != 0

/-- A wait of `micronux_native_requalify_front` and the fault check behind
it. -/
def waitUnfaulted (ready : Display → Bool) :
    DisplayProg (Except DisplayErrno Unit) := do
  if ← waitFrame ready then
    if ← readPanel fun panel => panel.faultBits == 0 then pure (.ok ())
    else pure (.error .eio)
  else pure (.error .etimedout)

/-- The second half of `micronux_native_requalify_front`: the same front for
four frames. -/
def nativeHoldFront (presented commit : Nat) (base : Word) :
    DisplayProg (Except DisplayErrno Unit) := do
  match ← waitUnfaulted (nativeWindowReady base) with
  | .error errno => pure (.error errno)
  | .ok () => do
    let (held, generation) ← readScanout fun scanout =>
      (scanout.presentedIndex == presented &&
        scanout.presentedCommitSequence == commit &&
        scanout.frontIndex == presented &&
        scanout.frontCommitSequence == commit &&
        scanout.queuedIndex.isNone, scanout.sourceGeneration)
    if held then
      if (generation - base).toNat < scanoutStableFrames then
        pure (.error .eio)
      else if ← nativeFinalStatusClean then pure (.ok ())
      else pure (.error .eio)
    else pure (.error .estale)

/-- `micronux_native_requalify_front`.  `dark_baseline_commit_sequence` is
zero from the initialization of the memory on. -/
def nativeRequalifyFront (target : Nat) :
    DisplayProg (Except DisplayErrno Unit) := do
  match ← waitUnfaulted (nativeTargetReady target) with
  | .error errno => pure (.error errno)
  | .ok () => do
    let (presented, commit, base) ← readScanout fun scanout =>
      (scanout.presentedIndex, scanout.presentedCommitSequence,
        scanout.sourceGeneration)
    if commit < target || target = 0 then pure (.error .estale)
    else nativeHoldFront presented commit base

/-- `micronux_native_prepare_reload_plan`: the plan itself is only logged. -/
def nativePrepareReloadPlan : DisplayProg (Except DisplayErrno Unit) := do
  let held ← readScanout fun scanout =>
    scanout.frontIndex < bufferCount && scanout.queuedIndex.isNone &&
      scanout.frontIndex == scanout.presentedIndex &&
      scanout.frontCommitSequence == scanout.presentedCommitSequence
  if held then
    if ← succeeds then pure (.ok ()) else pure (.error .einval)
  else pure (.error .estale)

/-- `micronux_cold_i2c_initialize` -/
def coldI2cInitialize : DisplayProg Bool := do
  setPanel fun panel => { panel with coldI2cActive := true }
  succeeds

/-- `micronux_cold_i2c_gate` -/
def coldI2cGate : DisplayProg Bool := do
  if ← succeeds then do
    setPanel fun panel =>
      { panel with coldI2cActive := false, nativeI2cState := .released }
    pure true
  else pure false

/-- The writes of `micronux_cold_quiesce_external` and the gate behind them:
whether everything was acknowledged. -/
def coldQuiesceWrites : DisplayProg Bool := do
  let pwmAcked ← writePwm 0
  let prepareAcked ← writeControl resetPrepareCommand
  let resetAcked ← writeControl resetAssertCommand
  let gated ← coldI2cGate
  pure (pwmAcked && prepareAcked && resetAcked && gated)

/-- `micronux_cold_quiesce_external`: whether everything was acknowledged and
the controller is gated. -/
def coldQuiesceExternal : DisplayProg Bool := do
  let ready ← do
    if ← readPanel Panel.coldI2cActive then pure true else coldI2cInitialize
  if ready then coldQuiesceWrites
  else do
    let _ ← coldI2cGate
    pure false

/-- `micronux_cold_fail_quiescent` -/
def coldFailQuiescent : DisplayProg Unit := do
  let quiesced ← coldQuiesceExternal
  let off ← succeeds
  let unverified ← readPanel Panel.coldRuntimeUnverified
  setPanel fun panel => { panel with displayState :=
    if quiesced && off && !unverified then .failedQuiescent
    else .failedUnverified }

/-- `micronux_cold_runtime_teardown` -/
def coldRuntimeTeardown (t : ThreadId) : DisplayProg Bool := do
  setPanel fun panel => { panel with
    renderEnabled := false, events := .tornDown :: panel.events }
  setPanel fun panel => { panel with nativePreserveSource := false }
  setPanel fun panel => { panel with scanoutReady := false }
  setPanel fun panel => { panel with bootDisplayReady := false }
  setScanout fun scanout => { scanout with scanoutActive := false }
  lockRender t
  setScanout fun scanout => { scanout with renderDirty := false }
  unlockRender
  cancelRenderWork
  succeeds

/-- `micronux_cold_runtime_fail_quiescent` -/
def coldRuntimeFailQuiescent (t : ThreadId) : DisplayProg Unit := do
  let runtimeOff ← coldRuntimeTeardown t
  setPanel fun panel => { panel with coldRuntimeUnverified := !runtimeOff }
  coldFailQuiescent

/-- The two writes of `micronux_native_off_first` with `ops_lock` held, and
the latch behind them. -/
def nativeOffWrites : DisplayProg Bool := do
  let pwmAcked ← writePwm 0
  if pwmAcked then
    setPanel fun panel => { panel with appliedBrightness := 0 }
  let controlAcked ← writeControl resetPrepareCommand
  if controlAcked then
    setPanel fun panel => { panel with backlightGateEnabled := false }
  darkenProps
  if pwmAcked && controlAcked then do
    setPanel fun panel => { panel with nativeDarkConfirmed := true }
    setPanel fun panel => { panel with nativePreserveSource := false }
    pure true
  else pure false

/-- `micronux_native_off_first` -/
def nativeOffFirst (t : ThreadId) : DisplayProg Bool := do
  if ← readPanel fun panel =>
      panel.nativeI2cState == .activeSerialized && panel.coldI2cActive then
    match ← readPanel Panel.backlight with
    | none => nativeOffWrites
    | some _ => do
      lockOps t
      let dark ← nativeOffWrites
      unlockOps
      pure dark
  else pure false

/-- `micronux_native_unregister_runtime_objects`: the backlight core takes
`ops_lock` to detach the device. -/
def nativeUnregisterRuntimeObjects (t : ThreadId) : DisplayProg Unit := do
  match ← readPanel Panel.backlight with
  | none => pure ()
  | some _ => do
    lockOps t
    setPanel fun panel => { panel with backlight := none }
    unlockOps

/-- The end of `micronux_native_fail_reveal_locked` behind a dark panel. -/
def nativeContain (t : ThreadId) (dark : Bool) : DisplayProg Unit := do
  nativeUnregisterRuntimeObjects t
  let runtimeOff ← coldRuntimeTeardown t
  let released ← coldI2cGate
  let off ← succeeds
  let contained := dark && runtimeOff && released && off
  setPanel fun panel => { panel with coldRuntimeUnverified := !contained }
  setPanel fun panel => { panel with displayState :=
    if contained then .failedQuiescent else .failedUnverified }

/-- `micronux_native_fail_reveal_locked` -/
def nativeFailRevealLocked (t : ThreadId) (forceTeardown : Bool) :
    DisplayProg Unit := do
  setPanel fun panel => { panel with renderEnabled := false }
  setPanel fun panel => { panel with bootDisplayReady := false }
  setPanel fun panel => { panel with displayState := .revealing }
  let dark ← nativeOffFirst t
  if !dark && !forceTeardown then do
    nativeUnregisterRuntimeObjects t
    setPanel fun panel => { panel with coldRuntimeUnverified := true }
    setPanel fun panel => { panel with displayState := .failedUnverified }
  else nativeContain t dark

/-- `micronux_native_boot_ready_store` from the last commit to the
registration of the backlight, with `render_lock` held and the panel dark. -/
def bootReadyQualify : DisplayProg (Except DisplayErrno Unit) := do
  commitRenderLocked
  let target ← readScanout fun scanout =>
    match scanout.queuedIndex with
    | some index => scanout.bufferCommitSequence index
    | none => scanout.frontCommitSequence
  if target = 0 then pure (.error .enodata)
  else
    match ← nativeRequalifyFront target with
    | .error errno => pure (.error errno)
    | .ok () =>
      match ← nativePrepareReloadPlan with
      | .error errno => pure (.error errno)
      | .ok () => do
        setPanel fun panel => { panel with nativeI2cState := .transition }
        if ← coldI2cInitialize then do
          setPanel fun panel =>
            { panel with nativeI2cState := .activeSerialized }
          if ← Prog.allOf [succeeds, succeeds] then do
            setPanel fun panel => { panel with
              backlight := some ⟨coldBrightness, .powerdown, 0⟩ }
            pure (.ok ())
          else pure (.error .eio)
        else pure (.error .eio)

/-- The last steps of `micronux_native_boot_ready_store` before it publishes
the runtime: the PWM write and the checks behind it. -/
def bootReadyRaise : DisplayProg (Except DisplayErrno Unit) := do
  if ← writePwm coldBrightness then do
    setPanel fun panel => { panel with
      appliedBrightness := coldBrightness
      backlight := panel.backlight.map fun backlight =>
        { backlight with brightness := coldBrightness, power := .unblank } }
    if ← Prog.allOf [nativeFinalStatusClean, succeeds, nativeFinalStatusClean]
    then do
      setPanel fun panel => { panel with bootDisplayReady := true }
      setPanel fun panel => { panel with renderEnabled := true }
      setPanel fun panel => { panel with displayState := .runtimeRevealed }
      pure (.ok ())
    else pure (.error .eio)
  else pure (.error .eio)

/-- `micronux_native_boot_ready_store` with `ops_lock` held: the reveal. -/
def bootReadyReveal : DisplayProg (Except DisplayErrno Unit) := do
  if ← readPanel fun panel =>
      panel.backlight.any fun backlight => backlight.state != 0 then
    pure (.error .ebusy)
  else do
    setPanel fun panel => { panel with
      backlight := panel.backlight.map fun backlight =>
        { backlight with brightness := coldBrightness, power := .powerdown } }
    if ← nativeFinalStatusClean then do
      setPanel fun panel => { panel with nativeRevealMayBeLit := true }
      if ← writeControl revealCommand then do
        setPanel fun panel => { panel with backlightGateEnabled := true }
        if ← nativeFinalStatusClean then bootReadyRaise
        else pure (.error .eio)
      else pure (.error .eio)
    else pure (.error .eio)

/-- The label `fail_render` of `micronux_native_boot_ready_store` -/
def bootReadyFail (t : ThreadId) (errno : DisplayErrno) :
    DisplayProg (Except DisplayErrno Unit) := do
  unlockRender
  if ← readPanel Panel.nativeRevealMayBeLit then
    nativeFailRevealLocked t false
  else do
    nativeUnregisterRuntimeObjects t
    coldRuntimeFailQuiescent t
  unlockMode
  pure (.error errno)

/-- `micronux_native_boot_ready_store` after its checks -/
def bootReadyTrigger (t : ThreadId) :
    DisplayProg (Except DisplayErrno Unit) := do
  setPanel fun panel => { panel with bootReadyConsumed := true }
  setPanel fun panel => { panel with nativeDarkConfirmed := false }
  setPanel fun panel => { panel with nativePreserveSource := true }
  setPanel fun panel => { panel with displayState := .revealing }
  cancelRenderWork
  lockRender t
  match ← bootReadyQualify with
  | .error errno => bootReadyFail t errno
  | .ok () => do
    lockOps t
    match ← bootReadyReveal with
    | .error errno => do
      unlockOps
      bootReadyFail t errno
    | .ok () => do
      unlockOps
      unlockRender
      unlockMode
      pure (.ok ())

/-- `micronux_native_boot_ready_store` -/
def nativeBootReadyStore (t : ThreadId) (ready : Bool) :
    DisplayProg (Except DisplayErrno Unit) := do
  if ready then do
    lockMode t
    if ← readPanel Panel.bootReadyConsumed then do
      unlockMode
      pure (.error .ealready)
    else if (← readPanel Panel.displayState) = .scanoutQualifiedQuiescent then
      bootReadyTrigger t
    else do
      unlockMode
      pure (.error .eagain)
  else pure (.error .einval)

/-- `micronux_fb_blank` in ABI-v3 mode -/
def nativeFbBlank (t : ThreadId) (blank : FbBlank) :
    DisplayProg (Except DisplayErrno Unit) := do
  if (← readPanel Panel.displayState) = .runtimeRevealed then
    match ← readPanel Panel.backlight with
    | none => pure (.error .enodev)
    | some _ => do
      lockMode t
      if ← readPanel fun panel => panel.displayState == .runtimeRevealed &&
          panel.backlight.isSome then do
        lockOps t
        let result ← backlightSetPower .v3
          (if blank = .unblank then .unblank else .powerdown)
        unlockOps
        unlockMode
        pure result
      else do
        unlockMode
        pure (.error .eagain)
  else pure (.ok ())

/-- `micronux_fault_work` in ABI-v3 mode, once the work runs. -/
def nativeFaultWork (t : ThreadId) : DisplayProg Unit := do
  lockMode t
  let faults ← readPanel Panel.faultBits
  let state ← readPanel Panel.displayState
  if faults != 0 && state = .scanoutQualifiedQuiescent then
    coldRuntimeFailQuiescent t
  else if faults != 0 && (state = .revealing || state = .runtimeRevealed) then
    nativeFailRevealLocked t false
  unlockMode

/-- The qualification of `micronux_native_start_scanout`, two windows of four
frames, and what `micronux_native_configure_*` and the arming of the first
frame answer before it. -/
def nativeStartScanout : DisplayProg Bool := do
  setScanout fun scanout =>
    { scanout with frontIndex := 0, renderIndex := 1, queuedIndex := none }
  let seen ← sampleHostStatus
  if ← Prog.allOf [pure !seen, readPanel fun panel => !panel.hostErrors,
        readPanel fun panel => panel.lastDmaError == 0,
        readPanel fun panel => panel.faultBits == 0, succeeds] then do
    setScanout fun scanout => { scanout with scanoutActive := true }
    Prog.allOf [succeeds, readPanel fun panel => panel.lastDmaError == 0,
        readPanel fun panel => panel.faultBits == 0, succeeds,
        frameWindowClean, frameWindowClean]
  else pure false

/-- The end of `micronux_cold_initialize_scanout_stage`: framebuffer and
boot_ready file are registered and the render gate opens. -/
def coldPublish : DisplayProg Bool := do
  let index ← readScanout Scanout.renderIndex
  setScanout fun scanout => { scanout with screenBase := index }
  if ← Prog.allOf [succeeds, nativeFinalStatusClean, succeeds] then do
    setPanel fun panel => { panel with scanoutReady := true }
    setPanel fun panel => { panel with renderEnabled := true }
    setPanel fun panel =>
      { panel with displayState := .scanoutQualifiedQuiescent }
    pure true
  else pure false

/-- `micronux_cold_initialize_scanout_stage` from the initialized memory on,
under the `mode_lock` of `cold_init_store`.  The bridge and the GDMA are
configured, scanout starts and the device is published; any failure tears the
runtime down. -/
def coldInitializeScanoutStage (t : ThreadId) :
    DisplayProg (Except DisplayErrno Unit) := do
  lockMode t
  if (← readPanel Panel.displayState) = .scanoutInitializing then
    if ← Prog.allOf [succeeds, succeeds, nativeStartScanout, coldPublish]
    then do
      unlockMode
      pure (.ok ())
    else do
      coldRuntimeFailQuiescent t
      unlockMode
      pure (.error .eio)
  else do
    unlockMode
    pure (.error .ealready)

end Micronux
