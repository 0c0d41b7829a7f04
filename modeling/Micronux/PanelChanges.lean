/-
Small changes of the driver's state, as the panel sees them: writes that cannot
light it, latched faults, and stores outside of the fields that the promises
about the panel and about the buffers speak of.
-/
import Micronux.DisplayCalls

namespace Micronux

open Concurrent

/-- A write that may light the panel: the reveal command, or a brightness. -/
def PanelEvent.Lights : PanelEvent → Prop
  | .pwm value _ => value ≠ 0
  | .control command _ => command = revealCommand
  | .declined | .tornDown => False

/-- The source is stopped on purpose. -/
def PanelEvent.Stops : PanelEvent → Prop
  | .pwm _ _ | .control _ _ => False
  | .declined | .tornDown => True

/-- The fields of the reveal, which belong to the holder of `mode_lock`. -/
structure Stance where
  state : DisplayState
  preserve : Bool
  dark : Bool
  lit : Bool

def Panel.stance (panel : Panel) : Stance where
  state := panel.displayState
  preserve := panel.nativePreserveSource
  dark := panel.nativeDarkConfirmed
  lit := panel.nativeRevealMayBeLit

/-- What the promises about the panel speak of, apart from the faults and the
events. -/
structure PanelCore where
  stance : Stance
  registered : Bool
  mode : Option ThreadId
  ops : Option ThreadId

def Panel.core (panel : Panel) : PanelCore where
  stance := panel.stance
  registered := panel.backlight.isSome
  mode := panel.modeLock
  ops := panel.opsLock

/-- A change that neither lights the panel nor stops its source. -/
structure Hushed (before after : Display) : Prop where
  core : after.panel.core = before.panel.core
  faults : after.panel.faultBits = 0 → before.panel.faultBits = 0
  events : ∃ quiet, after.panel.events = quiet ++ before.panel.events ∧
    ∀ event ∈ quiet, ¬ event.Lights ∧ ¬ event.Stops

/-- Such a change outside of the buffers. -/
structure Minor (before after : Display) : Prop
    extends Hushed before after where
  scanout : after.scanout = before.scanout

variable {abi : Abi} {t : ThreadId} {α : Type}

theorem Hushed.refl (display : Display) : Hushed display display :=
  ⟨rfl, id, [], rfl, List.forall_mem_nil _⟩

theorem Hushed.trans {first second third : Display} (hfirst : Hushed first second)
    (hsecond : Hushed second third) : Hushed first third := by
  obtain ⟨older, holder, hquiet⟩ := hfirst.events
  obtain ⟨newer, hnewer, hquiet'⟩ := hsecond.events
  refine ⟨hsecond.core.trans hfirst.core,
    fun hclear => hfirst.faults (hsecond.faults hclear), newer ++ older, ?_, ?_⟩
  · rw [hnewer, holder, List.append_assoc]
  · exact List.forall_mem_append.mpr ⟨hquiet', hquiet⟩

theorem Minor.refl (display : Display) : Minor display display :=
  ⟨.refl display, rfl⟩

theorem Minor.trans {first second third : Display} (hfirst : Minor first second)
    (hsecond : Minor second third) : Minor first third :=
  ⟨hfirst.toHushed.trans hsecond.toHushed, hsecond.scanout.trans hfirst.scanout⟩

/-- The fields that a minor store leaves alone. -/
structure SameCore (before after : Panel) : Prop where
  core : after.core = before.core
  faults : after.faultBits = before.faultBits
  events : after.events = before.events

theorem SameCore.rfl {panel : Panel} : SameCore panel panel :=
  ⟨.refl _, .refl _, .refl _⟩

theorem SameCore.hushed {before after : Display}
    (hsame : SameCore before.panel after.panel) : Hushed before after :=
  ⟨hsame.core, hsame.faults.symm.trans, [], hsame.events, List.forall_mem_nil _⟩

theorem SameCore.minor {before after : Display}
    (hsame : SameCore before.panel after.panel)
    (hscanout : after.scanout = before.scanout) : Minor before after :=
  ⟨hsame.hushed, hscanout⟩

variable {change : Panel → Panel}

theorem setPanel_minor (hchange : ∀ panel, SameCore panel (change panel)) :
    (setPanel change).Within Minor :=
  .store fun display => (hchange display.panel).minor rfl

theorem readPanel_minor {β : Type} (view : Panel → β) :
    (readPanel view).Within Minor :=
  .load Minor.refl _

theorem readScanout_minor {β : Type} (view : Scanout → β) :
    (readScanout view).Within Minor :=
  .load Minor.refl _

theorem succeeds_minor : succeeds.Within Minor :=
  .ask Minor.refl _

theorem Display.setFault_minor (display : Display) (fault : Fault) :
    Minor display (display.setFault fault) :=
  ⟨⟨rfl, fun hclear => (BitVec.or_eq_zero_iff.mp hclear).1, [], rfl,
    List.forall_mem_nil _⟩, rfl⟩

theorem Display.latchFault_minor (display : Display) (fault : Fault) :
    Minor display (display.latchFault fault) := by
  unfold Display.latchFault
  split
  · exact display.setFault_minor fault
  · exact .refl display

theorem Display.latchIf_minor (display : Display) (condition : Bool)
    (fault : Fault) : Minor display (display.latchIf condition fault) := by
  unfold Display.latchIf
  split
  · exact display.latchFault_minor fault
  · exact .refl display

theorem sampleHostStatus_minor : sampleHostStatus.Within Minor := by
  apply Prog.Within.atomic
  intro input before after result hrun
  cases hrun
  split
  · refine Minor.trans (SameCore.minor ?_ ?_)
      (Display.latchFault_minor _ .dsiHost)
    · exact ⟨rfl, rfl, rfl⟩
    · exact rfl
  · exact SameCore.minor ⟨rfl, rfl, rfl⟩ rfl

theorem latchFault_minor (fault : Fault) : (latchFault fault).Within Minor :=
  .store fun display => display.latchFault_minor fault

theorem latchBacklightFault_minor : latchBacklightFault.Within Minor :=
  .store fun display => display.setFault_minor .backlightControl

theorem i2cWriteReg8_minor {event : Bool → PanelEvent}
    (hquiet : ∀ acked, ¬ (event acked).Lights ∧ ¬ (event acked).Stops) :
    (i2cWriteReg8 event).Within Minor := by
  apply Prog.Within.atomic
  intro input before after result hrun
  cases hrun
  exact ⟨⟨rfl, id, [event input.ok], rfl,
    List.forall_mem_singleton.mpr (hquiet input.ok)⟩, rfl⟩

theorem writePwm_zero_minor : (writePwm 0).Within Minor :=
  i2cWriteReg8_minor fun _ => ⟨fun hlights => hlights rfl, id⟩

/-- Only the reveal command lights the panel. -/
theorem writeControl_minor {command : Byte} (hcommand : command ≠ revealCommand) :
    (writeControl command).Within Minor :=
  i2cWriteReg8_minor fun _ => ⟨hcommand, id⟩

theorem resetPrepareCommand_ne : resetPrepareCommand ≠ revealCommand := by
  decide

theorem resetAssertCommand_ne : resetAssertCommand ≠ revealCommand := by
  decide

theorem noteHostStatus_minor : (noteHostStatus abi).Within Minor := by
  refine sampleHostStatus_minor.bind fun seen => ?_
  split
  · exact (latchFault_minor _).bind fun _ => .ret true
  · exact .ret true

theorem visibleSourceValid_minor : (visibleSourceValid abi).Within Minor := by
  apply Prog.Within.allOf
  simp only [List.forall_mem_cons]
  exact ⟨readPanel_minor _, noteHostStatus_minor, readPanel_minor _,
    readPanel_minor _, readScanout_minor _, readPanel_minor _, succeeds_minor,
    readPanel_minor _, readPanel_minor _, succeeds_minor,
    List.forall_mem_nil _⟩

theorem storeIf_minor {condition : Prop} [Decidable condition]
    {rest : DisplayProg α} (hchange : ∀ panel, SameCore panel (change panel))
    (hrest : rest.Within Minor) :
    (if condition then (setPanel change).bind fun _ => rest
      else rest).Within Minor :=
  .ite ((setPanel_minor hchange).bind fun _ => hrest) hrest

theorem nativeBacklightDisable_minor : nativeBacklightDisable.Within Minor := by
  refine writePwm_zero_minor.bind fun _ => ?_
  refine storeIf_minor ?_ ?_
  · exact fun _ => ⟨rfl, rfl, rfl⟩
  refine (writeControl_minor resetPrepareCommand_ne).bind fun _ => ?_
  refine storeIf_minor ?_ ?_
  · exact fun _ => ⟨rfl, rfl, rfl⟩
  exact .ite (.ret _) (latchBacklightFault_minor.bind fun _ => .ret _)

/-- Changes of the properties leave the device registered. -/
theorem mapBacklight_minor (request : Backlight → Backlight)
    (hchange : ∀ panel, SameCore
      { panel with backlight := panel.backlight.map request } (change panel)) :
    (setPanel change).Within Minor := by
  apply setPanel_minor
  intro panel
  have hcore : ({ panel with
      backlight := panel.backlight.map request } : Panel).core =
        panel.core := by
    unfold Panel.core
    rw [Option.isSome_map]
    rfl
  exact ⟨(hchange panel).core.trans hcore, (hchange panel).faults,
    (hchange panel).events⟩

theorem darkenProps_minor : darkenProps.Within Minor :=
  mapBacklight_minor _ fun _ => .rfl

theorem nativeRollback_minor (errno : DisplayErrno) :
    (nativeRollback errno).Within Minor :=
  nativeBacklightDisable_minor.bind fun _ =>
    darkenProps_minor.bind fun _ => .ret _

theorem faultAndRollback_minor (errno : DisplayErrno) :
    (latchBacklightFault.bind fun _ => nativeRollback errno).Within Minor :=
  latchBacklightFault_minor.bind fun _ => nativeRollback_minor errno

theorem setBacklightPower_minor (power : FbBlank) :
    (setBacklightPower power).Within Minor :=
  mapBacklight_minor _ fun _ => .rfl

theorem frameWindowClean_minor : frameWindowClean.Within Minor := by
  refine sampleHostStatus_minor.bind fun seen => .allOf ?_
  simp only [List.forall_mem_cons]
  exact ⟨succeeds_minor, readPanel_minor _, .ret _, readPanel_minor _,
    readPanel_minor _, succeeds_minor, List.forall_mem_nil _⟩

theorem nativeFinalStatusClean_minor : nativeFinalStatusClean.Within Minor := by
  refine sampleHostStatus_minor.bind fun seen => .allOf ?_
  simp only [List.forall_mem_cons]
  exact ⟨.ret _, readPanel_minor _, succeeds_minor, readPanel_minor _,
    readPanel_minor _, succeeds_minor, List.forall_mem_nil _⟩

theorem waitUnfaulted_minor (ready : Display → Bool) :
    (waitUnfaulted ready).Within Minor := by
  refine .bind (.atomic ?_) fun _ => .ite
    (.bind (readPanel_minor _) fun _ => .ite (.ret _) (.ret _)) (.ret _)
  intro input before after result hrun
  split at hrun
  · cases hrun
    exact .refl before
  · split at hrun
    · cases hrun
    · cases hrun
      exact .refl before

theorem nativeHoldFront_minor (presented commit : Nat) (base : Word) :
    (nativeHoldFront presented commit base).Within Minor := by
  refine (waitUnfaulted_minor _).bind fun waited => ?_
  split
  · exact .ret _
  · refine .bind (readScanout_minor _) fun seen => ?_
    refine .ite (.ite (.ret _) ?_) (.ret _)
    exact nativeFinalStatusClean_minor.bind fun _ => .ite (.ret _) (.ret _)

theorem nativeRequalifyFront_minor (target : Nat) :
    (nativeRequalifyFront target).Within Minor := by
  refine (waitUnfaulted_minor _).bind fun waited => ?_
  split
  · exact .ret _
  · refine .bind (readScanout_minor _) fun seen => ?_
    exact .ite (.ret _) (nativeHoldFront_minor _ _ _)

theorem nativePrepareReloadPlan_minor : nativePrepareReloadPlan.Within Minor :=
  .bind (readScanout_minor _) fun _ => .ite
    (succeeds_minor.bind fun _ => .ite (.ret _) (.ret _)) (.ret _)

theorem coldI2cInitialize_minor : coldI2cInitialize.Within Minor :=
  .bind (setPanel_minor fun _ => ⟨rfl, rfl, rfl⟩) fun _ => succeeds_minor

theorem coldI2cGate_minor : coldI2cGate.Within Minor :=
  succeeds_minor.bind fun _ => .ite
    (.bind (setPanel_minor fun _ => ⟨rfl, rfl, rfl⟩) fun _ => .ret _) (.ret _)

theorem coldQuiesceWrites_minor : coldQuiesceWrites.Within Minor :=
  writePwm_zero_minor.bind fun _ =>
    (writeControl_minor resetPrepareCommand_ne).bind fun _ =>
      (writeControl_minor resetAssertCommand_ne).bind fun _ =>
        coldI2cGate_minor.bind fun _ => .ret _

theorem coldQuiesceExternal_minor : coldQuiesceExternal.Within Minor := by
  have hgate : (coldI2cGate.bind fun _ => .ret false).Within Minor :=
    coldI2cGate_minor.bind fun _ => .ret false
  refine .bind (readPanel_minor _) fun _ => .ite ?_ ?_
  · exact coldQuiesceWrites_minor
  · exact coldI2cInitialize_minor.bind fun _ =>
      .ite coldQuiesceWrites_minor hgate

end Micronux
