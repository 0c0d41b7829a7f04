/-
The programs of the panel, the backlight and the power gates, as far as the
buffers are concerned: they leave all buffers and roles alone, clear no fault
and do not fall back into the start-up of the native driver.
-/
import Micronux.PanelChanges
import Micronux.ScanoutInterrupt

namespace Micronux

open Concurrent

variable {abi : Abi} {t : ThreadId}

/-- What the buffers depend on in the panel. -/
def Panel.mode (panel : Panel) : Word × DisplayState × Option ThreadId :=
  (panel.faultBits, panel.displayState, panel.modeLock)

theorem Calm.of_mode {before after : Display}
    (hscanout : after.scanout = before.scanout)
    (hmode : after.panel.mode = before.panel.mode) : Calm before after := by
  obtain ⟨hfaults, hstate⟩ := Prod.mk.inj hmode
  obtain ⟨hstate, hlock⟩ := Prod.mk.inj hstate
  exact ⟨hscanout, hfaults.symm.trans, hstate.symm.trans,
    fun hstart => ⟨hstate.trans hstart, hlock⟩⟩

theorem Minor.calm {before after : Display} (hminor : Minor before after) :
    Calm before after := by
  have hstate : after.panel.displayState = before.panel.displayState :=
    congrArg (fun core => core.stance.state) hminor.core
  have hmode : after.panel.modeLock = before.panel.modeLock :=
    congrArg PanelCore.mode hminor.core
  exact ⟨hminor.scanout, hminor.faults, hstate.symm.trans,
    fun hstart => ⟨hstate.trans hstart, hmode⟩⟩

theorem Minor.within_calm {α : Type} {prog : DisplayProg α}
    (hminor : prog.Within Minor) : prog.Within Calm :=
  hminor.mono fun _ _ => Minor.calm

variable {change : Panel → Panel}

theorem setPanel_calm (hchange : ∀ panel, (change panel).mode = panel.mode) :
    (setPanel change).Within Calm :=
  .store fun display => .of_mode rfl (hchange display.panel)

theorem readPanel_calm {β : Type} (view : Panel → β) :
    (readPanel view).Within Calm :=
  .load Calm.refl _

theorem readScanout_calm {β : Type} (view : Scanout → β) :
    (readScanout view).Within Calm :=
  .load Calm.refl _

theorem succeeds_calm : succeeds.Within Calm :=
  .ask Calm.refl _

theorem lockOps_calm : (lockOps t).Within Calm :=
  .await fun _ _ => .of_mode rfl rfl

theorem unlockOps_calm : unlockOps.Within Calm :=
  setPanel_calm fun _ => rfl

theorem i2cWriteReg8_calm (event : Bool → PanelEvent) :
    (i2cWriteReg8 event).Within Calm := by
  apply Prog.Within.atomic
  intro input before after result hrun
  cases hrun
  exact .of_mode rfl rfl

theorem storeIf_calm {α : Type} {condition : Prop} [Decidable condition]
    {rest : DisplayProg α} (hchange : ∀ panel, (change panel).mode = panel.mode)
    (hrest : rest.Within Calm) :
    (if condition then (setPanel change).bind fun _ => rest
      else rest).Within Calm :=
  .ite ((setPanel_calm hchange).bind fun _ => hrest) hrest

theorem backlightDisable_calm : backlightDisable.Within Calm := by
  refine (i2cWriteReg8_calm _).bind fun _ => ?_
  refine (i2cWriteReg8_calm _).bind fun _ => ?_
  refine storeIf_calm ?_ ?_
  · exact fun _ => rfl
  exact .ite (.bind (setPanel_calm fun _ => rfl) fun _ => .ret _) (.ret _)

theorem backlightReveal_calm (brightness : Byte) :
    (backlightReveal brightness).Within Calm := by
  refine .bind (.allOf ?_) fun _ => .ite ?_ ?_
  · simp only [List.forall_mem_cons]
    exact ⟨i2cWriteReg8_calm _, i2cWriteReg8_calm _, fun _ hnone => nomatch hnone⟩
  · exact .bind (setPanel_calm fun _ => rfl) fun _ => .ret _
  · exact backlightDisable_calm.bind fun _ => .ret _

theorem loaderBacklightUpdate_calm : loaderBacklightUpdate.Within Calm := by
  refine .bind (readPanel_calm _) fun brightness => .ite ?_ ?_
  · exact backlightDisable_calm
  · refine .bind (Minor.within_calm visibleSourceValid_minor) fun _ =>
      .ite ?_ ?_
    · exact backlightReveal_calm _
    · refine backlightDisable_calm.bind fun result => ?_
      split <;> exact .ret _

theorem nativeRaise_calm (brightness : Byte) :
    (nativeRaise brightness).Within Calm := by
  refine (i2cWriteReg8_calm _).bind fun _ =>
    .ite ?_ (Minor.within_calm (faultAndRollback_minor _))
  refine .bind (setPanel_calm fun _ => rfl) fun _ => ?_
  exact (Minor.within_calm visibleSourceValid_minor).bind fun _ =>
    .ite (.ret _) (Minor.within_calm (nativeRollback_minor _))

theorem nativeOpenGate_calm (brightness : Byte) :
    (nativeOpenGate brightness).Within Calm := by
  refine (i2cWriteReg8_calm _).bind fun _ =>
    .ite ?_ (Minor.within_calm (faultAndRollback_minor _))
  refine .bind (setPanel_calm fun _ => rfl) fun _ => ?_
  refine (i2cWriteReg8_calm _).bind fun _ =>
    .ite ?_ (Minor.within_calm (faultAndRollback_minor _))
  exact .bind (setPanel_calm fun _ => rfl) fun _ => nativeRaise_calm brightness

theorem nativeBacklightUpdate_calm : nativeBacklightUpdate.Within Calm := by
  refine .bind (readPanel_calm _) fun brightness => ?_
  refine .bind (readPanel_calm _) fun _ => .ite (.ite ?_ ?_) (.ret _)
  · exact (Minor.within_calm nativeBacklightDisable_minor)
  · refine .bind (Minor.within_calm visibleSourceValid_minor) fun _ =>
      .ite ?_ ?_
    · exact .bind (readPanel_calm _) fun _ =>
        .ite (nativeRaise_calm _) (nativeOpenGate_calm _)
    · refine .bind (Minor.within_calm nativeBacklightDisable_minor) fun off => ?_
      refine (Minor.within_calm darkenProps_minor).bind fun _ => ?_
      split <;> exact .ret _

theorem backlightUpdate_calm : (backlightUpdate abi).Within Calm := by
  cases abi with
  | v2 => exact loaderBacklightUpdate_calm
  | v3 => exact nativeBacklightUpdate_calm

theorem backlightSetPower_calm (power : FbBlank) :
    (backlightSetPower abi power).Within Calm := by
  refine .bind (readPanel_calm _) fun old => ?_
  refine .bind (setPanel_calm fun _ => rfl) fun _ => ?_
  refine backlightUpdate_calm.bind fun result => ?_
  split
  · exact .ret _
  · exact .bind (setPanel_calm fun _ => rfl) fun _ => .ret _

theorem backlightRequest_calm (request : Backlight → Backlight) :
    (backlightRequest abi t request).Within Calm := by
  refine lockOps_calm.bind fun _ => .bind (readPanel_calm _) fun device => ?_
  split
  · exact unlockOps_calm.bind fun _ => .ret _
  · refine .bind (setPanel_calm fun _ => rfl) fun _ => ?_
    exact backlightUpdate_calm.bind fun _ =>
      unlockOps_calm.bind fun _ => .ret _

theorem dmaStartFrame_calm (index : Nat) : (dmaStartFrame index).Within Calm :=
  succeeds_calm.bind fun _ => .ite
    (succeeds_calm.bind fun _ => .ite (.ret _) (.ret _))
    (.bind (setPanel_calm fun _ => rfl) fun _ => .ret _)

theorem dmaStop_calm : dmaStop.Within Calm :=
  succeeds_calm.bind fun _ => .ite (.ret _) (.ret _)

theorem restoreFramebufferSource_calm :
    restoreFramebufferSource.Within Calm := by
  refine .bind (readPanel_calm _) fun _ => .ite (.ret _) ?_
  refine .bind (.allOf ?_) fun _ => .ite (.ret _) (.ret _)
  simp only [List.forall_mem_cons]
  exact ⟨succeeds_calm, Minor.within_calm frameWindowClean_minor,
    Minor.within_calm frameWindowClean_minor, List.forall_mem_nil _⟩

theorem nativeOffWrites_calm : nativeOffWrites.Within Calm := by
  refine (i2cWriteReg8_calm _).bind fun _ => ?_
  refine storeIf_calm ?_ ?_
  · exact fun _ => rfl
  refine (i2cWriteReg8_calm _).bind fun _ => ?_
  refine storeIf_calm ?_ ?_
  · exact fun _ => rfl
  refine (Minor.within_calm darkenProps_minor).bind fun _ => .ite ?_ (.ret _)
  refine .bind (setPanel_calm fun _ => rfl) fun _ => ?_
  exact .bind (setPanel_calm fun _ => rfl) fun _ => .ret _

theorem nativeOffFirst_calm : (nativeOffFirst t).Within Calm := by
  refine .bind (readPanel_calm _) fun _ => .ite ?_ (.ret _)
  refine .bind (readPanel_calm _) fun device => ?_
  split
  · exact nativeOffWrites_calm
  · exact lockOps_calm.bind fun _ => nativeOffWrites_calm.bind fun _ =>
      unlockOps_calm.bind fun _ => .ret _

theorem nativeUnregisterRuntimeObjects_calm :
    (nativeUnregisterRuntimeObjects t).Within Calm := by
  refine .bind (readPanel_calm _) fun device => ?_
  split
  · exact .ret _
  · exact lockOps_calm.bind fun _ => .bind (setPanel_calm fun _ => rfl) fun _ =>
      unlockOps_calm

end Micronux
