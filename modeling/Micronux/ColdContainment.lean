/-
The cold bring-up, the reveal, the fault worker and the removal in ABI-v3 mode,
with every write on the I2C bus and every readback of a block: what is known of
the panel when the driver calls a failure quiescent.  `ColdRefinement` relates
the routines that contain a failure to those of `DisplayNative`.
-/
import Micronux.Backlight
import Micronux.EventLog

namespace Micronux.Cold

open Concurrent EventLog

/-- The blocks that a contained failure has to read back. -/
inductive Block where
  | i2c
  | display
  | ldo
deriving DecidableEq

/-- The two routines that declare a failure quiescent. -/
inductive Route where
  | bringUp
  | reveal
deriving DecidableEq

inductive Event where
  | pwm (value : Byte) (acked : Bool)
  | control (command : Byte) (acked : Bool)
  /-- The control write of `micronux_cold_release_panel` -/
  | release (acked : Bool)
  | started (block : Block)
  | readback (block : Block) (off : Bool)
  | quiesced (route : Route)
deriving DecidableEq

/-- What `struct micronux_dsi` holds of the bring-up, and the events so far,
newest first. -/
structure Driver where
  displayState : DisplayState := .probedQuiescent
  bootReadyConsumed : Bool := false
  nativePreserveSource : Bool := false
  nativeRevealMayBeLit : Bool := false
  nativeI2cState : NativeI2cState := .released
  coldI2cActive : Bool := false
  /-- What the interrupt handler stores here is overwritten behind the
  teardown, before it is read. -/
  coldRuntimeUnverified : Bool := false
  /-- One of the flags that `micronux_dsi_remove` reads before it tears the
  runtime down. -/
  coldRuntimeActive : Bool := false
  modeLock : Option ThreadId := none
  log : List Event := []

/-- Each action may consult one answer: an acknowledgement, a readback or
whether a step succeeds. -/
abbrev DriverProg (α : Type) := Prog Driver Bool α

def answer : DriverProg Bool := Prog.ask id

def observe (event : Bool → Event) : DriverProg Bool :=
  Prog.atomic fun ok driver =>
    some ({ driver with log := event ok :: driver.log }, ok)

def perform (change : Driver → Driver) : DriverProg Bool := do
  Prog.store change
  pure true

def setState (state : DisplayState) : DriverProg Unit :=
  Prog.store fun driver => { driver with displayState := state }

def lockMode (t : ThreadId) : DriverProg Unit :=
  Prog.await (fun driver => driver.modeLock.isNone)
    fun driver => { driver with modeLock := some t }

def unlockMode : DriverProg Unit :=
  Prog.store fun driver => { driver with modeLock := none }

def start (block : Block) : DriverProg Bool := do
  Prog.store fun driver => { driver with log := .started block :: driver.log }
  answer

/-- `micronux_cold_i2c_initialize`: without a valid timing the block stays as
it is. -/
def i2cInitialize : DriverProg Bool := do
  if ← answer then do
    Prog.store fun driver => { driver with
      coldI2cActive := true, log := .started .i2c :: driver.log }
    answer
  else pure false

/-- `micronux_cold_i2c_gate` -/
def i2cGate : DriverProg Bool := do
  if ← answer then
    perform fun driver =>
      { driver with coldI2cActive := false, nativeI2cState := .released }
  else pure false

/-- `micronux_cold_i2c_released` -/
def i2cReleased : DriverProg Bool :=
  Prog.atomic fun ok driver =>
    let off := ok && !driver.coldI2cActive
    some ({ driver with log := .readback .i2c off :: driver.log }, off)

/-- `micronux_cold_reissue_quiescent_commands` -/
def reissueQuiescentCommands : DriverProg Bool :=
  Prog.allOf [observe (.pwm 0), observe (.control resetPrepareCommand),
    observe (.control resetAssertCommand)]

/-- What `micronux_cold_quiesce_external` reports. -/
structure Acks where
  pwm : Bool
  prepare : Bool
  reset : Bool
  gated : Bool

def Acks.all (acks : Acks) : Bool := acks.pwm && acks.prepare && acks.reset

/-- The writes of `micronux_cold_quiesce_external`: none depends on the one
before it. -/
def quiesceWrites : DriverProg Acks := do
  let pwm ← observe (.pwm 0)
  let prepare ← observe (.control resetPrepareCommand)
  let reset ← observe (.control resetAssertCommand)
  let gated ← i2cGate
  pure ⟨pwm, prepare, reset, gated⟩

/-- The start of `micronux_cold_quiesce_external`: the bus has to be there. -/
def i2cEnsure : DriverProg Bool := do
  if ← Prog.load Driver.coldI2cActive then pure true else i2cInitialize

/-- `micronux_cold_quiesce_external` -/
def quiesceExternal : DriverProg Acks := do
  if ← i2cEnsure then quiesceWrites
  else do
    let gated ← i2cGate
    pure ⟨false, false, false, gated⟩

/-- `micronux_cold_dsi_disable` -/
def dsiDisable : DriverProg Bool := observe (.readback .display)

/-- `micronux_cold_ldo_disable` -/
def ldoDisable : DriverProg Bool := observe (.readback .ldo)

/-- `micronux_cold_i2c_gate(dsi) && micronux_cold_i2c_released(dsi)`, behind
the gate -/
def releasedBehind (gated : Bool) : DriverProg Bool :=
  if gated then i2cReleased else pure false

def settle (route : Route) (contained : Bool) : DriverProg Unit :=
  Prog.store fun driver =>
    if contained then { driver with
      displayState := .failedQuiescent, log := .quiesced route :: driver.log }
    else { driver with displayState := .failedUnverified }

/-- `micronux_cold_fail_quiescent` -/
def failQuiescent : DriverProg Unit := do
  let acks ← quiesceExternal
  let released ← releasedBehind acks.gated
  let displayBlocks ← dsiDisable
  let ldoOff ← ldoDisable
  let unverified ← Prog.load Driver.coldRuntimeUnverified
  settle .bringUp
    (acks.all && released && displayBlocks && ldoOff && !unverified)

/-- `micronux_cold_runtime_teardown` -/
def runtimeTeardown : DriverProg Bool := do
  Prog.store fun driver =>
    { driver with nativePreserveSource := false, coldRuntimeActive := false }
  answer

/-- `micronux_cold_runtime_fail_quiescent` -/
def runtimeFailQuiescent : DriverProg Unit := do
  let runtimeOff ← runtimeTeardown
  Prog.store fun driver => { driver with coldRuntimeUnverified := !runtimeOff }
  failQuiescent

/-- `micronux_cold_initialize_ldo_stage` -/
def initializeLdoStage : DriverProg Bool := do
  if ← Prog.allOf [i2cInitialize, reissueQuiescentCommands, start .ldo,
      observe (.readback .display), i2cGate] then do
    setState .ldoReady
    pure true
  else do
    failQuiescent
    pure false

/-- `micronux_cold_release_panel` -/
def releasePanel : DriverProg Bool :=
  Prog.allOf [i2cInitialize, observe (.pwm 0), observe .release, i2cGate,
    i2cReleased]

/-- `micronux_cold_stage_c_precondition` -/
def stageCPrecondition : DriverProg Bool :=
  Prog.allOf [Prog.load fun driver => driver.displayState == .ldoReady, answer,
    i2cReleased, observe (.readback .display), answer]

/-- `micronux_cold_stage_c_matches`; both answers are about the LDO and the
DSI blocks. -/
def stageCMatches : DriverProg Bool :=
  Prog.allOf [answer, i2cReleased, answer]

/-- `micronux_cold_initialize_panel_stage`; the second check is the firmware
request, the fifth programs the panel. -/
def initializePanelStage : DriverProg Bool := do
  if ← Prog.allOf [stageCPrecondition, answer, start .display, releasePanel,
      answer, stageCMatches] then do
    setState .panelProgrammedQuiescent
    pure true
  else do
    failQuiescent
    pure false

/-- `micronux_native_configure_dpi_bridge`, which sets the first of the runtime
flags -/
def configureDpiBridge : DriverProg Bool := do
  Prog.store fun driver => { driver with coldRuntimeActive := true }
  start .display

/-- `micronux_cold_initialize_scanout_stage`; the other steps are the memory,
GDMA, the start of scanout, the framebuffer, the last check and the
`boot_ready` file. -/
def initializeScanoutStage : DriverProg Bool := do
  let ready ← Prog.allOf [Prog.load fun driver =>
    driver.displayState == .panelProgrammedQuiescent, stageCMatches, answer]
  if ready then do
    setState .scanoutInitializing
    if ← Prog.allOf [answer, configureDpiBridge, start .display, answer,
        answer, answer, answer] then do
      setState .scanoutQualifiedQuiescent
      pure true
    else do
      runtimeFailQuiescent
      pure false
  else do
    runtimeFailQuiescent
    pure false

/-- A status word of the report of `micronux_dsi_remove` -/
inductive CommandStatus where
  | acked
  | notConfirmed
  | previouslyAcked
  | notIssued
  | notRequiredAfterOffSettle
deriving DecidableEq

def CommandStatus.done : CommandStatus → Bool
  | .acked => true
  | .notConfirmed => false
  | .previouslyAcked => true
  | .notIssued => false
  | .notRequiredAfterOffSettle => true

def CommandStatus.ofAck (acked : Bool) : CommandStatus :=
  if acked then .acked else .notConfirmed

/-- The three external commands in the report of `micronux_dsi_remove` -/
structure Commands where
  pwm : CommandStatus
  prepare : CommandStatus
  reset : CommandStatus
deriving DecidableEq

inductive Reply where
  | stored
  | refused (errno : DisplayErrno)
  /-- A step failed with its own errno. -/
  | failed
  | worked
  /-- `COLD-REMOVE state=PROBED_QUIESCENT display-writes=0` -/
  | removedProbed
  | removed (commands : Commands) (contained : Bool)
deriving DecidableEq

/-- `cold_init_store` -/
def initStore (t : ThreadId) (begin : Bool) : DriverProg Reply := do
  if begin then do
    lockMode t
    if ← Prog.load fun driver => driver.displayState == .probedQuiescent then do
      setState .coldInitializing
      let passed ← Prog.allOf
        [initializeLdoStage, initializePanelStage, initializeScanoutStage]
      unlockMode
      pure (if passed then .stored else .failed)
    else do
      unlockMode
      pure (.refused .ealready)
  else pure (.refused .einval)

/-- The two acknowledgements of `micronux_native_off_first` -/
structure OffAcks where
  pwm : Bool
  control : Bool

def OffAcks.dark (acks : OffAcks) : Bool := acks.pwm && acks.control

/-- `micronux_native_off_first` -/
def nativeOffFirst : DriverProg OffAcks := do
  if ← Prog.load fun driver =>
      driver.nativeI2cState == .activeSerialized && driver.coldI2cActive then do
    let pwm ← observe (.pwm 0)
    let control ← observe (.control resetPrepareCommand)
    if pwm && control then
      Prog.store fun driver => { driver with nativePreserveSource := false }
    pure ⟨pwm, control⟩
  else pure ⟨false, false⟩

/-- The end of `micronux_native_fail_reveal_locked`, which gives the panel no
reset. -/
def nativeContain (dark : Bool) : DriverProg Unit := do
  let runtimeOff ← runtimeTeardown
  let gated ← i2cGate
  let released ← releasedBehind gated
  let dsiOff ← dsiDisable
  let ldoOff ← ldoDisable
  let contained := dark && runtimeOff && released && dsiOff && ldoOff
  Prog.store fun driver => { driver with coldRuntimeUnverified := !contained }
  settle .reveal contained

/-- `micronux_native_fail_reveal_locked` -/
def nativeFailRevealLocked (forceTeardown : Bool) : DriverProg Unit := do
  setState .revealing
  let acks ← nativeOffFirst
  if !acks.dark && !forceTeardown then do
    Prog.store fun driver => { driver with coldRuntimeUnverified := true }
    setState .failedUnverified
  else nativeContain acks.dark

/-- The steps of `micronux_native_boot_ready_store` from the last commit to the
checks before the reveal. -/
def bootReadyPrepare : List (DriverProg Bool) :=
  [answer, answer, answer,
    perform fun driver => { driver with nativeI2cState := .transition },
    i2cInitialize,
    perform fun driver => { driver with nativeI2cState := .activeSerialized },
    answer, answer, answer, answer]

/-- The steps of `micronux_native_boot_ready_store` that light the panel, each
write with the check behind it. -/
def bootReadyReveal : List (DriverProg Bool) :=
  [perform fun driver => { driver with nativeRevealMayBeLit := true },
    observe (.control revealCommand), answer, observe (.pwm coldBrightness),
    answer, answer, answer]

/-- `fail_render` of `micronux_native_boot_ready_store` -/
def bootReadyFail : DriverProg Unit := do
  if ← Prog.load Driver.nativeRevealMayBeLit then nativeFailRevealLocked false
  else runtimeFailQuiescent

/-- `micronux_native_boot_ready_store` -/
def bootReadyStore (t : ThreadId) (ready : Bool) : DriverProg Reply := do
  if ready then do
    lockMode t
    if ← Prog.load Driver.bootReadyConsumed then do
      unlockMode
      pure (.refused .ealready)
    else if ← Prog.load fun driver =>
        driver.displayState == .scanoutQualifiedQuiescent then do
      Prog.store fun driver => { driver with
        bootReadyConsumed := true, nativePreserveSource := true }
      setState .revealing
      if ← Prog.allOf (bootReadyPrepare ++ bootReadyReveal) then do
        setState .runtimeRevealed
        unlockMode
        pure .stored
      else do
        bootReadyFail
        unlockMode
        pure .failed
    else do
      unlockMode
      pure (.refused .eagain)
  else pure (.refused .einval)

/-- What `micronux_fault_work` does about latched faults. -/
def faultContain (faults : Bool) (state : DisplayState) : DriverProg Unit :=
  if faults && state == .scanoutQualifiedQuiescent then runtimeFailQuiescent
  else if faults && (state == .revealing || state == .runtimeRevealed) then
    nativeFailRevealLocked false
  else pure ()

/-- `micronux_fault_work`; the answer is whether a fault is latched. -/
def faultWork (t : ThreadId) : DriverProg Reply := do
  lockMode t
  let faults ← answer
  let state ← Prog.load Driver.displayState
  faultContain faults state
  unlockMode
  pure .worked

/-- The commands of a removal that follows `micronux_native_off_first` -/
def OffAcks.commands (acks : OffAcks) : Commands where
  pwm := .ofAck acks.pwm
  prepare := .ofAck acks.control
  reset := if acks.dark then .notRequiredAfterOffSettle else .notIssued

def Acks.commands (acks : Acks) : Commands where
  pwm := .ofAck acks.pwm
  prepare := .ofAck acks.prepare
  reset := .ofAck acks.reset

/-- The external commands of `micronux_dsi_remove` and its I2C gate, for the
state it finds and what `micronux_native_off_first` did before. -/
def removeCommands (state : DisplayState) :
    Option OffAcks → DriverProg (Commands × Bool)
  | some acks => do
    let gated ← i2cGate
    pure (acks.commands, gated)
  | none =>
    if state = .failedQuiescent then do
      let gated ← i2cGate
      pure (⟨.previouslyAcked, .previouslyAcked, .previouslyAcked⟩, gated)
    else do
      let acks ← quiesceExternal
      pure (acks.commands, acks.gated)

/-- The panel may be lit, so that `micronux_dsi_remove` turns it off first. -/
def offAttempted (state : DisplayState) (preserve : Bool) : Bool :=
  state == .revealing || state == .runtimeRevealed ||
    (state == .failedUnverified && preserve)

/-- `micronux_dsi_remove` where the panel may be lit -/
def removeOff (state : DisplayState) : DriverProg (Option OffAcks) := do
  let preserve ← Prog.load Driver.nativePreserveSource
  if offAttempted state preserve then do
    let acks ← nativeOffFirst
    pure (some acks)
  else pure none

/-- `micronux_dsi_remove` where the runtime is active -/
def removeRuntime : DriverProg Bool := do
  if ← Prog.load Driver.coldRuntimeActive then runtimeTeardown
  else pure true

def Commands.done (commands : Commands) : Bool :=
  commands.pwm.done && commands.prepare.done && commands.reset.done

/-- `micronux_dsi_remove` from a state other than `PROBED_QUIESCENT` to its
report -/
def removeActive (state : DisplayState) : DriverProg Reply := do
  let acks ← removeOff state
  let runtimeOff ← removeRuntime
  let external ← removeCommands state acks
  let released ← releasedBehind external.2
  let dsiOff ← dsiDisable
  let ldoOff ← ldoDisable
  pure (.removed external.1
    (external.1.done && released && runtimeOff && dsiOff && ldoOff))

/-- `micronux_dsi_remove` -/
def dsiRemove (t : ThreadId) : DriverProg Reply := do
  lockMode t
  let state ← Prog.load Driver.displayState
  setState .removing
  if state = .probedQuiescent then do
    unlockMode
    pure .removedProbed
  else do
    let reply ← removeActive state
    unlockMode
    pure reply

inductive Call where
  | coldInit (begin : Bool)
  | bootReady (ready : Bool)
  | faultWork
  | remove

def code (t : ThreadId) : Call → DriverProg Reply
  | .coldInit begin => initStore t begin
  | .bootReady ready => bootReadyStore t ready
  | .faultWork => faultWork t
  | .remove => dsiRemove t

end Micronux.Cold
