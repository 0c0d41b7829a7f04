/-
The backlight of the display: its PWM register and the control register of
the panel, written over I2C, and the backlight device that the kernel's
backlight core drives with `ops_lock` held.
-/
import Micronux.Display

namespace Micronux

open Concurrent

/-- `display_control_reveal_command`, `MICRONUX_DISPLAY_BACKLIGHT_ENABLED` -/
def revealCommand : Byte := 0x17#8

/-- `display_control_reset_prepare_command`,
`MICRONUX_DISPLAY_BACKLIGHT_DISABLED` -/
def resetPrepareCommand : Byte := 0x13#8

/-- `display_control_reset_assert_command` -/
def resetAssertCommand : Byte := 0x11#8

/-- `MICRONUX_DISPLAY_COLD_BRIGHTNESS` -/
def coldBrightness : Byte := 63#8

/-- `micronux_i2c_write_reg8`: whether the write was acknowledged. -/
def i2cWriteReg8 (event : Bool → PanelEvent) : DisplayProg Bool :=
  Prog.atomic fun input display =>
    some ({ display with panel := { display.panel with
      events := event input.ok :: display.panel.events } }, input.ok)

/-- `micronux_native_write_pwm` -/
def writePwm (brightness : Byte) : DisplayProg Bool :=
  i2cWriteReg8 (.pwm brightness)

/-- `micronux_native_write_control` -/
def writeControl (command : Byte) : DisplayProg Bool :=
  i2cWriteReg8 (.control command)

/-- `micronux_latch_fault` -/
def latchFault (fault : Fault) : DisplayProg Unit :=
  Prog.store fun display => display.latchFault fault

/-- The sample at the start of `micronux_visible_source_valid`.  Only the
native driver takes any host status for a fault. -/
def noteHostStatus (abi : Abi) : DisplayProg Bool := do
  let seen ← sampleHostStatus
  if abi = .v3 && seen then latchFault .dsiHost
  pure true

/-- `micronux_visible_source_valid`.  The checks of registers, pool guards and
the age of the last frame are answers of the hardware. -/
def visibleSourceValid (abi : Abi) : DisplayProg Bool :=
  Prog.allOf [readPanel Panel.scanoutReady, noteHostStatus abi,
      readPanel fun panel =>
        abi == .v2 || panel.displayState == .runtimeRevealed,
      readPanel Panel.bootDisplayReady, readScanout Scanout.scanoutActive,
      readPanel fun panel => panel.faultBits == 0, succeeds,
      readPanel fun panel => !panel.hostErrors,
      readPanel fun panel => panel.lastDmaError == 0, succeeds]

def requestedBrightness : Option Backlight → Byte
  | none => 0
  | some backlight =>
    if backlight.isBlank then 0 else backlight.brightness

/-- `micronux_backlight_disable` -/
def backlightDisable : DisplayProg (Except DisplayErrno Unit) := do
  let pwmAcked ← writePwm 0
  let gateAcked ← writeControl resetPrepareCommand
  if pwmAcked || gateAcked then
    setPanel fun panel => { panel with appliedBrightness := 0 }
  if gateAcked then do
    setPanel fun panel => { panel with backlightGateEnabled := false }
    pure (.ok ())
  else pure (.error .eio)

/-- The final writes of `micronux_backlight_update` with a valid source: the
gate opens last. -/
def backlightReveal (brightness : Byte) :
    DisplayProg (Except DisplayErrno Unit) := do
  if ← Prog.allOf [writePwm brightness, writeControl revealCommand] then do
    setPanel fun panel => { panel with
      appliedBrightness := brightness, backlightGateEnabled := true }
    pure (.ok ())
  else do
    let _ ← backlightDisable
    pure (.error .eio)

/-- `micronux_backlight_update` in ABI-v2 mode -/
def loaderBacklightUpdate : DisplayProg (Except DisplayErrno Unit) := do
  let brightness ← readPanel fun panel => requestedBrightness panel.backlight
  if brightness = 0 then backlightDisable
  else if ← visibleSourceValid .v2 then backlightReveal brightness
  else
    match ← backlightDisable with
    | .error errno => pure (.error errno)
    | .ok () => pure (.error .ehostdown)

/-- `micronux_native_latch_backlight_fault` for a write that failed -/
def latchBacklightFault : DisplayProg Unit :=
  Prog.store fun display => display.setFault .backlightControl

/-- `micronux_native_backlight_disable` -/
def nativeBacklightDisable : DisplayProg (Except DisplayErrno Unit) := do
  let pwmAcked ← writePwm 0
  if pwmAcked then
    setPanel fun panel => { panel with appliedBrightness := 0 }
  let controlAcked ← writeControl resetPrepareCommand
  if controlAcked then
    setPanel fun panel => { panel with backlightGateEnabled := false }
  if pwmAcked && controlAcked then pure (.ok ())
  else do
    latchBacklightFault
    pure (.error .eio)

/-- The properties after a request that failed. -/
def darkenProps : DisplayProg Unit :=
  setPanel fun panel => { panel with
    backlight := panel.backlight.map fun backlight =>
      { backlight with brightness := 0, power := .powerdown } }

/-- The label `rollback` of `micronux_native_backlight_update` -/
def nativeRollback (errno : DisplayErrno) :
    DisplayProg (Except DisplayErrno Unit) := do
  let _ ← nativeBacklightDisable
  darkenProps
  pure (.error errno)

/-- The last write of `micronux_native_backlight_update` and the check behind
it. -/
def nativeRaise (brightness : Byte) :
    DisplayProg (Except DisplayErrno Unit) := do
  if ← writePwm brightness then do
    setPanel fun panel => { panel with appliedBrightness := brightness }
    if ← visibleSourceValid .v3 then pure (.ok ())
    else nativeRollback .ehostdown
  else do
    latchBacklightFault
    nativeRollback .eio

/-- `micronux_native_backlight_update` with a valid source and the gate
closed. -/
def nativeOpenGate (brightness : Byte) :
    DisplayProg (Except DisplayErrno Unit) := do
  if ← writePwm 0 then do
    setPanel fun panel => { panel with appliedBrightness := 0 }
    if ← writeControl revealCommand then do
      setPanel fun panel => { panel with backlightGateEnabled := true }
      nativeRaise brightness
    else do
      latchBacklightFault
      nativeRollback .eio
  else do
    latchBacklightFault
    nativeRollback .eio

/-- `micronux_native_backlight_update` -/
def nativeBacklightUpdate : DisplayProg (Except DisplayErrno Unit) := do
  let brightness ← readPanel fun panel => requestedBrightness panel.backlight
  if (← readPanel Panel.displayState) = .runtimeRevealed then
    if brightness = 0 then nativeBacklightDisable
    else if ← visibleSourceValid .v3 then
      if ← readPanel Panel.backlightGateEnabled then nativeRaise brightness
      else nativeOpenGate brightness
    else do
      let off ← nativeBacklightDisable
      darkenProps
      match off with
      | .error errno => pure (.error errno)
      | .ok () => pure (.error .ehostdown)
  else pure (.error .eagain)

/-- `micronux_backlight_update` -/
def backlightUpdate : Abi → DisplayProg (Except DisplayErrno Unit)
  | .v2 => loaderBacklightUpdate
  | .v3 => nativeBacklightUpdate

def setBacklightPower (power : FbBlank) : DisplayProg Unit :=
  setPanel fun panel => { panel with
    backlight := panel.backlight.map fun backlight =>
      { backlight with power := power } }

/-- `micronux_backlight_set_power` -/
def backlightSetPower (abi : Abi) (power : FbBlank) :
    DisplayProg (Except DisplayErrno Unit) := do
  let old ← readPanel fun panel => panel.backlight.map Backlight.power
  setBacklightPower power
  match ← backlightUpdate abi with
  | .ok () => pure (.ok ())
  | .error errno => do
    setBacklightPower (old.getD .powerdown)
    pure (.error errno)

/-- A request to the backlight core, from sysfs, a notifier or a suspend: it
changes the properties and calls `update_status` with `ops_lock` held. -/
def backlightRequest (abi : Abi) (t : ThreadId)
    (request : Backlight → Backlight) :
    DisplayProg (Except DisplayErrno Unit) := do
  lockOps t
  match ← readPanel Panel.backlight with
  | none => do
    unlockOps
    pure (.error .enodev)
  | some _ => do
    setPanel fun panel =>
      { panel with backlight := panel.backlight.map request }
    let result ← backlightUpdate abi
    unlockOps
    pure result

end Micronux
