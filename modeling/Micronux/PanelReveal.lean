/-
The reveal of the native driver and the stage that prepares it keep the
promises about the panel: the panel is lit only under both locks, and only once
a status check has found the source running.
-/
import Micronux.PanelEntry

namespace Micronux

open Concurrent

variable {t : ThreadId} {stance : Stance} {registered : Bool} {α : Type}

section Opening

/-- Before the panel may be lit the stance can change freely, as long as a
source that is preserved stays so. -/
theorem setUnlit_panel (stance' : Stance) {change : Panel → Panel}
    (hchange : ∀ panel, panel.stance = stance →
      SetsStance stance' panel (change panel))
    (hunlit : stance.lit = false) (hunlit' : stance'.lit = false)
    (hpreserves : stance'.preserves = false → stance.preserves = false)
    (hstate : stance'.state ≠ .runtimeRevealed) :
    panelProtocol.Triple t (Untorn t stance false) (setPanel change)
      fun _ => Untorn t stance' false := by
  apply setStance_panel stance' lasting_untorn.stable lasting_untorn.stable
    (fun _ huntorn => huntorn.1) hchange
  · exact fun hlit => absurd (hunlit.symm.trans hlit) Bool.false_ne_true
  · exact fun hreleased => .inl (hpreserves hreleased)
  · exact fun hrevealed => absurd hrevealed hstate
  · exact fun _ => ⟨hunlit', rfl⟩
  · exact fun hattached => absurd hattached Bool.false_ne_true
  · intro before after huntorn hheld _ hevents
    exact ⟨hheld, hevents ▸ huntorn.2⟩

/-- The stance of the reveal, before and after the panel may be lit. -/
def Stance.opening (lit : Bool) : Stance :=
  ⟨.revealing, true, false, lit⟩

theorem Stance.opening_revealing (lit : Bool) :
    (Stance.opening lit).Revealing := rfl

theorem openReveal_panel (hearly : stance.state.Early)
    (hunlit : stance.lit = false) {rest : DisplayProg α}
    {post : α → Display → Prop}
    (hrest : panelProtocol.Triple t (Untorn t (.opening false) false) rest
      post) :
    panelProtocol.Triple t (Untorn t stance false) ((setPanel fun panel =>
        { panel with nativeDarkConfirmed := false }).bind fun _ =>
          (setPanel fun panel =>
            { panel with nativePreserveSource := true }).bind fun _ =>
              (setPanel fun panel =>
                { panel with displayState := .revealing }).bind fun _ => rest)
      post := by
  have hdark : panelProtocol.Triple t (Untorn t stance false)
      (setPanel fun panel => { panel with nativeDarkConfirmed := false })
      fun _ => Untorn t { stance with dark := false } false := by
    refine setUnlit_panel _ ?_ hunlit hunlit ?_ hearly.ne_revealed
    · rintro panel rfl
      exact ⟨rfl, rfl, rfl⟩
    · intro hreleased
      have hpreserve : stance.preserve = false := by
        simpa [Stance.preserves] using hreleased
      simp [Stance.preserves, hpreserve]
  have hpreserve : panelProtocol.Triple t
      (Untorn t { stance with dark := false } false)
      (setPanel fun panel => { panel with nativePreserveSource := true })
      fun _ => Untorn t { stance with preserve := true, dark := false }
        false := by
    refine setUnlit_panel _ ?_ hunlit hunlit ?_ hearly.ne_revealed
    · intro panel hstance
      have hcore : ({ panel with nativePreserveSource := true } : Panel).stance =
          { panel.stance with preserve := true } := rfl
      refine ⟨?_, rfl, rfl⟩
      rw [Panel.core, hcore, hstance]
      rfl
    · exact fun hreleased => absurd hreleased.symm Bool.false_ne_true
  have hstate : panelProtocol.Triple t
      (Untorn t { stance with preserve := true, dark := false } false)
      (setPanel fun panel => { panel with displayState := .revealing })
      fun _ => Untorn t (.opening false) false := by
    refine setUnlit_panel _ ?_ hunlit rfl ?_
      (Stance.opening_revealing false).ne_revealed
    · intro panel hstance
      have hcore : ({ panel with displayState := .revealing } : Panel).stance =
          { panel.stance with state := .revealing } := rfl
      refine ⟨?_, rfl, rfl⟩
      rw [Panel.core, hcore, hstance, Stance.opening, hunlit]
      rfl
    · exact fun hreleased => absurd hreleased.symm Bool.false_ne_true
  exact hdark.bind fun _ => hpreserve.bind fun _ => hstate.bind fun _ => hrest

/-- The backlight is registered under `mode_lock`, behind a dark panel. -/
theorem registerBacklight_panel (device : Backlight) :
    panelProtocol.Triple t (Untorn t (.opening false) false)
      (setPanel fun panel => { panel with backlight := some device })
      fun _ => Untorn t (.opening false) true := by
  apply Protocol.Triple.store lasting_untorn.stable lasting_untorn.stable
  rintro display hinv ⟨hheld, huntorn⟩
  have hinvBefore : PanelInv display := hinv
  refine ⟨?_, ?_, ⟨hheld.mode, hheld.stance_eq, rfl⟩, huntorn⟩
  · refine hinvBefore.of_stance hheld.mode rfl rfl id ?_ ?_ ?_
    · exact hinvBefore.unpreserved
    · exact hinvBefore.revealed
    · intro hearly
      have hnow : display.panel.displayState.Early := hearly
      rw [hheld.state] at hnow
      exact absurd hnow (Stance.opening_revealing false).not_early
  · refine .of_mode hheld.mode rfl id ?_ rfl rfl
    intro _ hattached
    exact absurd (hheld.registered_eq.symm.trans hattached) Bool.false_ne_true

theorem bootReadyQualify_panel :
    panelProtocol.Triple t (Untorn t (.opening false) false) bootReadyQualify
      fun result => Untorn t (.opening false) result.toBool := by
  have hfailed : ∀ errno, panelProtocol.Triple t
      (Untorn t (.opening false) false)
      (.ret (.error errno) : DisplayProg (Except DisplayErrno Unit))
      fun result => Untorn t (.opening false) result.toBool :=
    fun _ => .ret lasting_untorn.stable fun _ _ => id
  refine .bind (panelKept_triple commitRenderLocked_panel lasting_untorn)
    fun _ => ?_
  refine .bind (minor_triple (readScanout_minor _) lasting_untorn)
    fun target => ?_
  split
  · exact hfailed _
  refine .bind (minor_triple (nativeRequalifyFront_minor _) lasting_untorn)
    fun requalified => ?_
  split
  · exact hfailed _
  refine .bind (minor_triple nativePrepareReloadPlan_minor lasting_untorn)
    fun prepared => ?_
  split
  · exact hfailed _
  refine .bind (minor_triple (setPanel_minor fun _ => ⟨rfl, rfl, rfl⟩)
    lasting_untorn) fun _ => ?_
  refine .bind (minor_triple coldI2cInitialize_minor lasting_untorn)
    fun initialized => ?_
  split
  · refine .bind (minor_triple (setPanel_minor fun _ => ⟨rfl, rfl, rfl⟩)
      lasting_untorn) fun _ => ?_
    refine .bind (minor_triple (.allOf (List.forall_mem_cons.mpr
      ⟨succeeds_minor, List.forall_mem_singleton.mpr succeeds_minor⟩))
      lasting_untorn) fun answered => ?_
    split
    · exact (registerBacklight_panel _).bind fun _ =>
        .ret lasting_untorn.stable fun _ _ => id
    · exact hfailed _
  · exact hfailed _

end Opening

section Reveal

/-- Both locks of a registered backlight, with the source not torn down. -/
def BothHeld (t : ThreadId) (stance : Stance) (display : Display) : Prop :=
  Untorn t stance true display ∧ display.panel.opsLock = some t

theorem lasting_bothHeld : Lasting t (BothHeld t stance) :=
  lasting_untorn.and lasting_ops

def Running (display : Display) : Prop :=
  ∀ event ∈ display.panel.events, ¬ event.Stops

/-- Both locks, a source that has to keep running and that does. -/
def Driving (t : ThreadId) (stance : Stance) (display : Display) : Prop :=
  BothHeld t stance display ∧ Running display

theorem lasting_driving (hpreserves : stance.preserves = true) :
    Lasting t (Driving t stance) := by
  constructor
  · rintro before after hrely ⟨hheld, hrunning⟩
    have hbehind := BehindOps.of_rely hrely hheld.2
    have hpreserved : before.panel.preserves = true :=
      hheld.1.1.preserves.trans hpreserves
    refine ⟨lasting_bothHeld.stable hrely hheld, ?_⟩
    exact fun event hevent hstops => hrunning event
      (hbehind.stops hheld.1.1.registered_eq hpreserved event hevent hstops)
      hstops
  · rintro before after hhushed ⟨hheld, hrunning⟩
    exact ⟨lasting_bothHeld.tame hhushed hheld, fun event hevent hstops =>
      hrunning event (hhushed.mem_events hevent hstops) hstops⟩

/-- Without a fault the interrupt has not declined to rearm. -/
theorem readFaults_panel (hpreserves : stance.preserves = true) :
    panelProtocol.Triple t (BothHeld t stance)
      (readPanel fun panel => panel.faultBits == 0) fun clear display =>
        BothHeld t stance display ∧
          (clear = true → Driving t stance display) := by
  apply Protocol.Triple.load panelGuar_refl lasting_bothHeld.stable
  · exact fun _ => lasting_bothHeld.stable.and
      (lasting_driving hpreserves).stable.imp
  intro display hinv hheld
  refine ⟨hheld, fun hclear => ⟨hheld, fun event hevent hstops => ?_⟩⟩
  cases event with
  | pwm value acked | control command acked => exact hstops
  | declined => exact PanelInv.declined hinv hevent (beq_iff_eq.mp hclear)
  | tornDown => exact hheld.1.2 hevent

theorem nativeFinalStatusClean_panel (hpreserves : stance.preserves = true) :
    panelProtocol.Triple t (BothHeld t stance) nativeFinalStatusClean
      fun clean display => BothHeld t stance display ∧
        (clean = true → Driving t stance display) := by
  have hlasting : Lasting t (Driving t stance) := lasting_driving hpreserves
  refine .bind (minor_triple sampleHostStatus_minor lasting_bothHeld)
    fun seen => ?_
  have hkeeps : ∀ {check : DisplayProg Bool}, check.Within Minor →
      panelProtocol.Triple t (BothHeld t stance) check
        fun _ => BothHeld t stance :=
    fun hminor => minor_triple hminor lasting_bothHeld
  show panelProtocol.Triple t (BothHeld t stance)
    (Prog.allOf ([_, _, _, _] ++ (readPanel fun panel =>
      panel.faultBits == 0) :: [succeeds])) _
  refine Protocol.Triple.allOf_establishes lasting_bothHeld.stable
    hlasting.stable ?_ (readFaults_panel hpreserves) ?_
  · simp only [List.forall_mem_cons]
    exact ⟨hkeeps (.ret _), hkeeps (readPanel_minor _), hkeeps succeeds_minor,
      hkeeps (readPanel_minor _), List.forall_mem_nil _⟩
  · exact List.forall_mem_singleton.mpr
      (minor_triple succeeds_minor (lasting_bothHeld.and hlasting))

/-- From here on the panel may be lit. -/
theorem setMayBeLit_panel : panelProtocol.Triple t (Driving t (.opening false))
      (setPanel fun panel => { panel with nativeRevealMayBeLit := true })
      fun _ => Driving t (.opening true) := by
  have hbefore : Lasting t (Driving t (.opening false)) := lasting_driving rfl
  have hafter : Lasting t (Driving t (.opening true)) := lasting_driving rfl
  apply setStance_panel (.opening true) hbefore.stable hafter.stable
    fun _ hdriving => hdriving.1.1.1
  · intro panel hstance
    have hcore : ({ panel with nativeRevealMayBeLit := true } : Panel).stance =
        { panel.stance with lit := true } := rfl
    refine ⟨?_, rfl, rfl⟩
    rw [Panel.core, hcore, hstance]
    rfl
  · exact fun hlit => absurd hlit Bool.false_ne_true
  · exact fun hreleased => absurd hreleased.symm Bool.false_ne_true
  · exact fun hrevealed =>
      absurd hrevealed (Stance.opening_revealing true).ne_revealed
  · exact fun hearly =>
      absurd hearly (Stance.opening_revealing true).not_early
  · exact fun _ => .inl rfl
  · rintro before after ⟨⟨⟨-, huntorn⟩, hops⟩, hrunning⟩ hheld hsame hevents
    exact ⟨⟨⟨hheld, hevents ▸ huntorn⟩, hsame.trans hops⟩,
      fun event hevent => hrunning event (hevents ▸ hevent)⟩

variable {display : Display}

theorem Driving.lighting (hdriving : Driving t (.opening true) display) :
    Lighting t display :=
  ⟨hdriving.1.2, hdriving.1.1.1.registered_eq, hdriving.1.1.1.preserves,
    hdriving.1.1.1.lit, hdriving.2⟩

theorem CoreKept.untorn {before after : Display} (hkept : CoreKept before after)
    (huntorn : Untorn t stance registered before) :
    Untorn t stance registered after := by
  obtain ⟨⟨hmode, hstance, hregistered⟩, hnot⟩ := huntorn
  exact ⟨⟨(congrArg PanelCore.mode hkept.core).trans hmode,
    (congrArg PanelCore.stance hkept.core).trans hstance,
    (congrArg PanelCore.registered hkept.core).trans hregistered⟩,
    fun htorn => hnot (hkept.torn htorn)⟩

/-- A write that may light the panel, under both locks. -/
theorem i2cWriteReg8_driving {event : Bool → PanelEvent}
    (hwrite : ∀ acked, ¬ (event acked).Stops) :
    panelProtocol.Triple t (Driving t (.opening true)) (i2cWriteReg8 event)
      fun _ => Driving t (.opening true) := by
  have hkept : (i2cWriteReg8 event).Within CoreKept := by
    refine i2cWriteReg8_coreKept fun acked hsame => hwrite acked ?_
    rw [hsame]
    exact trivial
  have huntorn : panelProtocol.Stable t (Untorn t (.opening true) true) :=
    lasting_untorn.stable
  refine ((i2cWriteReg8_lighting hwrite).frame hkept huntorn
    fun _ _ hcore => hcore.untorn).mono ?_ ?_
  · exact fun _ _ hdriving => ⟨hdriving.lighting, hdriving.1.1⟩
  · rintro _ display ⟨hlighting, huntorn⟩
    exact ⟨⟨huntorn, hlighting.ops⟩, hlighting.running⟩

/-- What `boot_ready` leaves of the reveal: `mode_lock` is still held, and
after a failure the state is not published. -/
structure Unveiled (t : ThreadId) (failed : Bool) (display : Display) :
    Prop where
  mode : display.panel.modeLock = some t
  late : ¬ display.panel.displayState.Early
  revealing : failed = true → display.panel.displayState = .revealing

theorem stable_unveiled {failed : Bool} :
    panelProtocol.Stable t (Unveiled t failed) := by
  intro before after hrely hunveiled
  have hbehind := BehindMode.of_rely hrely hunveiled.mode
  have hstate : after.panel.displayState = before.panel.displayState :=
    congrArg Stance.state hbehind.stance
  refine ⟨hbehind.mode, hstate ▸ hunveiled.late, ?_⟩
  rw [hstate]
  exact hunveiled.revealing

/-- The same with `ops_lock`. -/
def UnveiledOps (t : ThreadId) (result : Except DisplayErrno Unit)
    (display : Display) : Prop :=
  Unveiled t (!result.toBool) display ∧ display.panel.opsLock = some t

theorem stable_unveiledOps {result : Except DisplayErrno Unit} :
    panelProtocol.Stable t (UnveiledOps t result) :=
  stable_unveiled.and lasting_ops.stable

theorem BothHeld.unveiled {lit : Bool}
    (hheld : BothHeld t (.opening lit) display)
    (result : Except DisplayErrno Unit) : UnveiledOps t result display := by
  have hstate : display.panel.displayState = .revealing := hheld.1.1.state
  refine ⟨⟨hheld.1.1.mode, ?_, fun _ => hstate⟩, hheld.2⟩
  rw [hheld.1.1.state]
  exact (Stance.opening_revealing lit).not_early

theorem abandon_panel {pre : Display → Prop} {lit : Bool}
    (hpre : ∀ display, pre display → BothHeld t (.opening lit) display)
    (errno : DisplayErrno) :
    panelProtocol.Triple t pre
      (.ret (.error errno) : DisplayProg (Except DisplayErrno Unit))
      fun result => UnveiledOps t result :=
  .ret stable_unveiledOps fun display _ hstart =>
    (hpre display hstart).unveiled _

theorem publishRuntime_panel :
    panelProtocol.Triple t (Driving t (.opening true))
      (setPanel fun panel => { panel with displayState := .runtimeRevealed })
      fun _ => UnveiledOps t (.ok ()) := by
  have hbefore : Lasting t (Driving t (.opening true)) := lasting_driving rfl
  apply setStance_panel ⟨.runtimeRevealed, true, false, true⟩ hbefore.stable
    stable_unveiledOps fun _ hdriving => hdriving.1.1.1
  · intro panel hstance
    have hcore : ({ panel with
        displayState := .runtimeRevealed } : Panel).stance =
          { panel.stance with state := .runtimeRevealed } := rfl
    refine ⟨?_, rfl, rfl⟩
    rw [Panel.core, hcore, hstance]
    rfl
  · exact fun _ => rfl
  · exact fun hreleased => absurd hreleased.symm Bool.false_ne_true
  · exact fun _ => ⟨rfl, rfl, fun _ hdriving => hdriving.2⟩
  · exact fun hearly => absurd rfl hearly.ne_revealed
  · exact fun _ => .inl rfl
  · intro before after hdriving hheld hsame _
    have hstate : after.panel.displayState = .runtimeRevealed := hheld.state
    exact ⟨⟨hheld.mode, fun hearly => hearly.ne_revealed hstate,
      fun hfailed => absurd hfailed Bool.false_ne_true⟩,
      hsame.trans hdriving.1.2⟩

theorem bootReadyRaise_panel :
    panelProtocol.Triple t (Driving t (.opening true)) bootReadyRaise
      fun result => UnveiledOps t result := by
  have hlasting : Lasting t (Driving t (.opening true)) := lasting_driving rfl
  refine .bind (i2cWriteReg8_driving fun _ => id) fun acked => ?_
  split
  · refine .bind (minor_triple (mapBacklight_minor (fun backlight =>
      { backlight with brightness := coldBrightness, power := .unblank })
      fun _ => ⟨rfl, rfl, rfl⟩) hlasting) fun _ => ?_
    refine .bind (minor_triple (.allOf ?_) hlasting) fun clean => ?_
    · simp only [List.forall_mem_cons]
      exact ⟨nativeFinalStatusClean_minor, succeeds_minor,
        nativeFinalStatusClean_minor, List.forall_mem_nil _⟩
    split
    · refine .bind (minor_triple (setPanel_minor fun _ => ⟨rfl, rfl, rfl⟩)
        hlasting) fun _ => ?_
      refine .bind (minor_triple (setPanel_minor fun _ => ⟨rfl, rfl, rfl⟩)
        hlasting) fun _ => ?_
      exact publishRuntime_panel.bind fun _ =>
        .ret stable_unveiledOps fun _ _ => id
    · exact abandon_panel (fun _ hdriving => hdriving.1) _
  · exact abandon_panel (fun _ hdriving => hdriving.1) _

theorem bootReadyReveal_panel :
    panelProtocol.Triple t (BothHeld t (.opening false)) bootReadyReveal
      fun result => UnveiledOps t result := by
  have hlasting : Lasting t (Driving t (.opening true)) := lasting_driving rfl
  refine .bind (minor_triple (readPanel_minor _) lasting_bothHeld)
    fun busy => ?_
  split
  · exact abandon_panel (fun _ => id) _
  refine .bind (minor_triple (mapBacklight_minor (fun backlight =>
    { backlight with brightness := coldBrightness, power := .powerdown })
    fun _ => .rfl) lasting_bothHeld) fun _ => ?_
  refine .bind (nativeFinalStatusClean_panel rfl) fun clean => ?_
  split
  · rename_i hclean
    refine .bind (setMayBeLit_panel.mono
      (fun _ _ hread => hread.2 hclean) fun _ _ => id) fun _ => ?_
    refine .bind (i2cWriteReg8_driving fun _ => id) fun acked => ?_
    split
    · refine .bind (minor_triple (setPanel_minor fun _ => ⟨rfl, rfl, rfl⟩)
        hlasting) fun _ => ?_
      refine .bind (minor_triple nativeFinalStatusClean_minor hlasting)
        fun again => ?_
      split
      · exact bootReadyRaise_panel
      · exact abandon_panel (fun _ hdriving => hdriving.1) _
    · exact abandon_panel (fun _ hdriving => hdriving.1) _
  · exact abandon_panel (fun _ hread => hread.1) _

end Reveal

section BootReady

/-- The label `fail_render`: a panel that may be lit is darkened first, one
that was never lit is torn down at once. -/
theorem bootReadyFail_panel (errno : DisplayErrno)
    (hrevealing : stance.Revealing) :
    panelProtocol.Triple t (ModeHeld t stance registered)
      (bootReadyFail t errno) fun _ _ => True := by
  have hread : panelProtocol.Triple t (ModeHeld t stance registered)
      (readPanel Panel.nativeRevealMayBeLit) fun lit display =>
        ModeHeld t stance registered display ∧ stance.lit = lit := by
    apply Protocol.Triple.load panelGuar_refl lasting_modeHeld.stable
    · exact fun _ => lasting_modeHeld.stable.and (.const _)
    · exact fun _ _ hheld => ⟨hheld, hheld.lit.symm⟩
  refine .bind (panelKept_triple unlockRender_panel lasting_modeHeld)
    fun _ => ?_
  refine hread.bind fun lit => .assume fun hlit => ?_
  have hend : ∀ {prog : DisplayProg Unit},
      panelProtocol.Triple t (ModeHeld t stance registered) prog
        (fun _ => Finished t) →
      panelProtocol.Triple t (ModeHeld t stance registered)
        (prog.bind fun _ => unlockMode.bind fun _ =>
          (.ret (.error errno) : DisplayProg (Except DisplayErrno Unit)))
        fun _ _ => True := by
    intro prog hprog
    exact hprog.bind fun _ =>
      unlockMode_return _ fun _ hdone => hdone.releasable
  split
  · exact hend nativeFailRevealLocked_panel
  · rename_i hunlit
    have hnever : stance.lit = false :=
      hlit.trans (Bool.eq_false_iff.mpr hunlit)
    refine nativeUnregisterRuntimeObjects_panel.bind fun _ => ?_
    refine .bind ((coldRuntimeFailQuiescent_panel hrevealing.ne_revealed
      fun _ => hnever).mono ?_ fun _ _ => id) fun _ =>
        unlockMode_return _ fun _ hdone => hdone.releasable
    exact fun _ hinv hheld => ModeHeld.soleUnlit hinv hheld hnever

theorem bootReadyFail_unveiled (errno : DisplayErrno) :
    panelProtocol.Triple t (Unveiled t true) (bootReadyFail t errno)
      fun _ _ => True := by
  apply Protocol.Triple.fix fun display =>
    (display.panel.stance, display.panel.backlight.isSome)
  rintro ⟨stance, registered⟩ display hinv ⟨hunveiled, hseen⟩
  obtain ⟨rfl, rfl⟩ := Prod.mk.inj hseen
  have hrevealing : display.panel.stance.Revealing := hunveiled.revealing rfl
  exact bootReadyFail_panel errno hrevealing display hinv
    ⟨hunveiled.mode, rfl, rfl⟩

theorem unlockOps_unveiled (result : Except DisplayErrno Unit) :
    panelProtocol.Triple t (UnveiledOps t result) unlockOps
      fun _ => Unveiled t !result.toBool :=
  unlockOps_panel stable_unveiledOps stable_unveiled (fun _ hheld => hheld.2)
    fun _ hheld => ⟨hheld.1.mode, hheld.1.late, hheld.1.revealing⟩

theorem bootReadyTrigger_panel :
    panelProtocol.Triple t (Preparing t) (bootReadyTrigger t)
      fun _ _ => True := by
  apply preparing_triple
  intro stance hearly hunlit
  refine .bind (minor_triple (setPanel_minor fun _ => ⟨rfl, rfl, rfl⟩)
    lasting_untorn) fun _ => openReveal_panel hearly hunlit ?_
  refine .bind (panelKept_triple cancelRenderWork_kept lasting_untorn)
    fun _ => ?_
  refine .bind (panelKept_triple lockRender_panel lasting_untorn) fun _ => ?_
  refine bootReadyQualify_panel.bind fun qualified => ?_
  cases qualified with
  | error errno =>
    exact (bootReadyFail_panel errno (Stance.opening_revealing false)).mono
      (fun _ _ huntorn => huntorn.1) fun _ _ => id
  | ok value =>
    have hlock : panelProtocol.Triple t (Untorn t (.opening false) true)
        (lockOps t) fun _ => BothHeld t (.opening false) :=
      lockOps_panel lasting_untorn fun _ huntorn =>
        ⟨⟨huntorn.1.mode, huntorn.1.stance_eq, huntorn.1.registered_eq⟩,
          huntorn.2⟩
    refine hlock.bind fun _ => bootReadyReveal_panel.bind fun revealed => ?_
    cases revealed with
    | error errno =>
      exact (unlockOps_unveiled (.error errno)).bind fun _ =>
        bootReadyFail_unveiled errno
    | ok value =>
      refine (unlockOps_unveiled (.ok value)).bind fun _ => ?_
      have hunlock : panelProtocol.Triple t (Unveiled t false)
          unlockRender fun _ => Finished t :=
        (panelKept_triple unlockRender_panel lasting_finished).mono
          (fun _ _ hunveiled => ⟨hunveiled.mode, hunveiled.late⟩)
          fun _ _ => id
      exact hunlock.bind fun _ =>
        unlockMode_return _ fun _ hdone => hdone.releasable

theorem nativeBootReadyStore_panel (ready : Bool) :
    panelProtocol.Triple t (fun _ => True) (nativeBootReadyStore t ready)
      fun _ _ => True := by
  unfold nativeBootReadyStore
  split
  · refine lockMode_panel.bind fun _ => ?_
    refine .bind (minor_triple (readPanel_minor _) lasting_releasable)
      fun consumed => ?_
    split
    · exact unlockMode_return _ fun _ => id
    · refine readMode_panel.bind fun state => ?_
      split
      · rename_i hqualified
        exact bootReadyTrigger_panel.mono
          (fun _ _ hread => ⟨hread.1, .inr (hread.2.trans hqualified)⟩)
          fun _ _ => id
      · exact unlockMode_return _ fun _ hread => hread.1
  · exact .ret lasting_true.stable fun _ _ => id

end BootReady

section BringUp

theorem setScanout_preparing (change : Scanout → Scanout) :
    panelProtocol.Triple t (Preparing t) (setScanout change)
      fun _ => Preparing t :=
  panelKept_triple (setScanout_kept change) lasting_preparing

theorem nativeStartScanout_panel :
    panelProtocol.Triple t (Preparing t) nativeStartScanout
      fun _ => Preparing t := by
  refine .bind (setScanout_preparing _) fun _ => ?_
  refine .bind (minor_triple sampleHostStatus_minor lasting_preparing)
    fun seen => ?_
  refine .bind (minor_triple (.allOf ?_) lasting_preparing) fun clean => ?_
  · simp only [List.forall_mem_cons]
    exact ⟨.ret _, readPanel_minor _, readPanel_minor _, readPanel_minor _,
      succeeds_minor, List.forall_mem_nil _⟩
  split
  · refine (setScanout_preparing _).bind fun _ => ?_
    refine minor_triple (.allOf ?_) lasting_preparing
    simp only [List.forall_mem_cons]
    exact ⟨succeeds_minor, readPanel_minor _, readPanel_minor _,
      succeeds_minor, frameWindowClean_minor, frameWindowClean_minor,
      List.forall_mem_nil _⟩
  · exact .ret lasting_preparing.stable fun _ _ => id

/-- The device is published as qualified and dark. -/
theorem publishQualified_panel : panelProtocol.Triple t (Preparing t)
      (setPanel fun panel =>
        { panel with displayState := .scanoutQualifiedQuiescent })
      fun _ => Preparing t := by
  apply preparing_triple
  intro stance hearly hunlit
  have hset : panelProtocol.Triple t (Untorn t stance false)
      (setPanel fun panel =>
        { panel with displayState := .scanoutQualifiedQuiescent })
      fun _ => Untorn t { stance with state := .scanoutQualifiedQuiescent }
        false := by
    refine setUnlit_panel _ ?_ hunlit hunlit id fun hstate => nomatch hstate
    rintro panel rfl
    exact ⟨rfl, rfl, rfl⟩
  refine hset.mono (fun _ _ => id) fun _ display huntorn => ?_
  exact ⟨huntorn.releasable, .inr huntorn.1.state⟩

theorem coldPublish_panel :
    panelProtocol.Triple t (Preparing t) coldPublish fun _ => Preparing t := by
  refine .bind (minor_triple (readScanout_minor _) lasting_preparing)
    fun index => ?_
  refine (setScanout_preparing _).bind fun _ => ?_
  refine .bind (minor_triple (.allOf ?_) lasting_preparing) fun clean => ?_
  · simp only [List.forall_mem_cons]
    exact ⟨succeeds_minor, nativeFinalStatusClean_minor, succeeds_minor,
      List.forall_mem_nil _⟩
  split
  · refine .bind (minor_triple (setPanel_minor fun _ => ⟨rfl, rfl, rfl⟩)
      lasting_preparing) fun _ => ?_
    refine .bind (minor_triple (setPanel_minor fun _ => ⟨rfl, rfl, rfl⟩)
      lasting_preparing) fun _ => ?_
    exact publishQualified_panel.bind fun _ =>
      .ret lasting_preparing.stable fun _ _ => id
  · exact .ret lasting_preparing.stable fun _ _ => id

theorem coldInitializeScanoutStage_panel :
    panelProtocol.Triple t (fun _ => True) (coldInitializeScanoutStage t)
      fun _ _ => True := by
  refine lockMode_panel.bind fun _ => readMode_panel.bind fun state => ?_
  split
  · rename_i hinitializing
    have hpreparing : ∀ display, PanelInv display →
        Releasable t display ∧ display.panel.displayState = state →
          Preparing t display :=
      fun _ _ hread => ⟨hread.1, .inl (hread.2.trans hinitializing)⟩
    refine Protocol.Triple.mono ?_ hpreparing fun _ _ => id
    refine .bind (.allOf lasting_preparing.stable ?_) fun started => ?_
    · simp only [List.forall_mem_cons]
      exact ⟨minor_triple succeeds_minor lasting_preparing,
        minor_triple succeeds_minor lasting_preparing,
        nativeStartScanout_panel, coldPublish_panel, List.forall_mem_nil _⟩
    split
    · exact unlockMode_return _ fun _ hpreparing => hpreparing.1
    · exact coldRuntimeFailQuiescent_preparing.bind fun _ =>
        unlockMode_return _ fun _ hdone => hdone.releasable
  · exact unlockMode_return _ fun _ hread => hread.1

end BringUp

end Micronux
