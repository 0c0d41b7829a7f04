/-
The entry points of the native driver.  Its start-up runs under `mode_lock`
with all roles as the initialization left them; everything that happens later
has seen a state past the start-up.
-/
import Micronux.ScanoutCalls

namespace Micronux

open Concurrent

variable {abi : Abi} {splash : Frame} {t : ThreadId} {α : Type}

theorem PanelKept.refl (display : Display) : PanelKept display display :=
  rfl

theorem lockRender_panel : (lockRender t).Within PanelKept :=
  .await fun _ _ => rfl

theorem unlockRender_panel : unlockRender.Within PanelKept :=
  .store fun _ => rfl

theorem queueSection_panel (rendered : Nat) (display : Display) :
    (queueSection rendered display).1.panel = display.panel := by
  unfold queueSection
  dsimp only
  split
  · exact rfl
  · split <;> exact rfl

theorem setRenderMappingLocked_panel :
    setRenderMappingLocked.Within PanelKept :=
  .bind (.load PanelKept.refl _) fun _ => .store fun _ => rfl

theorem commitRenderLocked_panel : commitRenderLocked.Within PanelKept := by
  refine .bind (.load PanelKept.refl _) fun _ => .ite ?_ (.ret _)
  refine .bind (.store fun _ => rfl) fun _ => ?_
  refine .bind (.load PanelKept.refl _) fun rendered => ?_
  refine .bind (.critical (queueSection_panel rendered)) fun _ => ?_
  exact .ite setRenderMappingLocked_panel (.ret _)

theorem Started.panelKept (before after : Display)
    (hkept : PanelKept before after) (hstarted : Started before) :
    Started after := by
  intro hstate
  rw [hkept] at hstate
  exact hstarted hstate

theorem Owned.panelKept (before after : Display)
    (hkept : PanelKept before after) (howned : Owned t before) :
    Owned t after := by
  rcases howned with hlock | hstarted
  · refine .inl ?_
    rw [hkept]
    exact hlock
  · exact .inr (hstarted.panelKept before after hkept)

theorem lockRender_renders :
    (scanoutProtocol abi splash).Triple t Started (lockRender t)
      fun _ => Renders abi splash t :=
  (lockRender_triple.frame lockRender_panel stable_started
    Started.panelKept).mono (fun _ _ hstarted => ⟨trivial, hstarted⟩)
    fun _ _ hrenders => hrenders

theorem unlockRender_started :
    (scanoutProtocol abi splash).Triple t (Renders abi splash t) unlockRender
      fun _ => Started :=
  (unlockRender_triple.frame unlockRender_panel stable_started
    Started.panelKept).mono (fun _ _ hrenders => hrenders)
    fun _ _ hafter => hafter.2

theorem commitRenderLocked_renders :
    (scanoutProtocol abi splash).Triple t (Renders abi splash t)
      commitRenderLocked fun _ => Renders abi splash t :=
  commitRenderLocked_triple.frame commitRenderLocked_panel stable_started
    Started.panelKept

/-- The native driver keeps no account of its frames, so a dropped mark says
nothing about them. -/
theorem dropDirty_triple :
    (scanoutProtocol .v3 splash).Triple t (Holding t (Settled .v3 splash))
      (setScanout fun scanout => { scanout with renderDirty := false })
      fun _ => Holding t (Settled .v3 splash) := by
  apply setScanout_triple robust_settled robust_settled
  · exact fun _ => rfl
  · exact fun _ => rfl
  · rintro display hinv ⟨hlock, hsettled⟩
    have hafter : Settled .v3 splash { display with
        scanout := { display.scanout with renderDirty := false } } :=
      ⟨hsettled.mapped, hsettled.idle, hsettled.stroke,
        fun hclean => nomatch hclean.loader⟩
    refine ⟨?_, hafter⟩
    by_cases hstate : display.panel.displayState = .scanoutInitializing
    · have hclear := (hinv.starting hstate).2.clean
      have hsame : { display with
          scanout := { display.scanout with renderDirty := false } } =
          display := by
        rw [← hclear]
      rw [hsame]
      exact hinv
    · refine hinv.sameFrames ?_ hlock ?_ hstate
      · exact ⟨rfl, rfl, rfl, rfl, rfl, rfl, rfl, rfl, rfl⟩
      · exact hinv.copy

theorem Started.owned (t : ThreadId) {display : Display}
    (hstarted : Started display) :
    Owned t display :=
  .inr hstarted

variable {pre : Display → Prop} {change : Panel → Panel} {prog : DisplayProg α}

theorem calm_triple_owned (hcalm : prog.Within Calm) :
    (scanoutProtocol abi splash).Triple t (Owned t) prog fun _ => Owned t :=
  moves_triple (Calm.within_moves hcalm)

/-- What the thread owns stays its own while it works on the buffers. -/
theorem owned_frame {post : α → Display → Prop}
    (hprog : (scanoutProtocol abi splash).Triple t pre prog post)
    (hpanel : prog.Within PanelKept) :
    (scanoutProtocol abi splash).Triple t
      (fun display => pre display ∧ Owned t display) prog
      fun value display => post value display ∧ Owned t display :=
  hprog.frame hpanel stable_owned Owned.panelKept

theorem coldRuntimeTeardown_triple :
    (scanoutProtocol .v3 splash).Triple t (Owned t) (coldRuntimeTeardown t)
      fun _ => Owned t := by
  refine .bind (calm_triple_owned (setPanel_calm fun _ => rfl)) fun _ => ?_
  refine .bind (calm_triple_owned (setPanel_calm fun _ => rfl)) fun _ => ?_
  refine .bind (calm_triple_owned (setPanel_calm fun _ => rfl)) fun _ => ?_
  refine .bind (calm_triple_owned (setPanel_calm fun _ => rfl)) fun _ => ?_
  refine .bind (stopActive_triple stable_owned Owned.panelKept) fun _ => ?_
  refine .bind ((owned_frame lockRender_triple lockRender_panel).mono
    (fun _ _ howned => ⟨trivial, howned⟩) fun _ _ => id) fun _ => ?_
  refine (owned_frame dropDirty_triple (.store fun _ => rfl)).bind fun _ => ?_
  refine .bind ((owned_frame unlockRender_triple unlockRender_panel).mono
    (fun _ _ => id) fun _ _ hafter => hafter.2) fun _ => ?_
  exact (calm_triple_owned cancelRenderWork_calm).bind fun _ =>
    calm_triple_owned succeeds_calm

/-- A store of a state past the start-up. -/
theorem setState_moves
    (hfaults : ∀ panel, (change panel).faultBits = panel.faultBits)
    (hstate : ∀ panel, (change panel).displayState ≠ .scanoutInitializing) :
    (setPanel change).Within Moves :=
  .store fun display =>
    ⟨⟨rfl, (hfaults display.panel).symm.trans,
      fun hstart => absurd hstart (hstate display.panel)⟩,
      .inr (hstate display.panel)⟩

theorem failedState_ne (contained : Bool) :
    (if contained then DisplayState.failedQuiescent
      else DisplayState.failedUnverified) ≠ .scanoutInitializing := by
  cases contained <;> exact fun hstate => nomatch hstate

theorem coldFailQuiescent_moves : coldFailQuiescent.Within Moves := by
  refine .bind (Calm.within_moves
    (Minor.within_calm coldQuiesceExternal_minor)) fun quiesced => ?_
  refine .bind (Calm.within_moves succeeds_calm) fun off => ?_
  refine .bind (Calm.within_moves (readPanel_calm _)) fun unverified => ?_
  exact setState_moves (fun _ => rfl) fun _ => failedState_ne _

theorem coldRuntimeFailQuiescent_triple :
    (scanoutProtocol .v3 splash).Triple t (Owned t)
      (coldRuntimeFailQuiescent t) fun _ => Owned t := by
  refine coldRuntimeTeardown_triple.bind fun runtimeOff => ?_
  refine .bind (calm_triple_owned (setPanel_calm fun _ => rfl)) fun _ => ?_
  exact moves_triple coldFailQuiescent_moves

theorem nativeContain_triple (dark : Bool) :
    (scanoutProtocol .v3 splash).Triple t (Owned t) (nativeContain t dark)
      fun _ => Owned t := by
  refine .bind (calm_triple_owned nativeUnregisterRuntimeObjects_calm)
    fun _ => ?_
  refine coldRuntimeTeardown_triple.bind fun runtimeOff => ?_
  refine .bind (calm_triple_owned (Minor.within_calm coldI2cGate_minor))
    fun released => ?_
  refine (calm_triple_owned succeeds_calm).bind fun off => ?_
  refine .bind (calm_triple_owned (setPanel_calm fun _ => rfl)) fun _ => ?_
  exact moves_triple (setState_moves (fun _ => rfl) fun _ => failedState_ne _)

theorem nativeFailRevealLocked_triple (forceTeardown : Bool) :
    (scanoutProtocol .v3 splash).Triple t (Owned t)
      (nativeFailRevealLocked t forceTeardown) fun _ => Owned t := by
  refine .bind (calm_triple_owned (setPanel_calm fun _ => rfl)) fun _ => ?_
  refine .bind (calm_triple_owned (setPanel_calm fun _ => rfl)) fun _ => ?_
  refine .bind (moves_triple (setState_moves (fun _ => rfl)
    fun _ hstate => nomatch hstate)) fun _ => ?_
  refine (calm_triple_owned nativeOffFirst_calm).bind fun dark => ?_
  split
  · refine .bind (calm_triple_owned nativeUnregisterRuntimeObjects_calm)
      fun _ => ?_
    refine .bind (calm_triple_owned (setPanel_calm fun _ => rfl)) fun _ => ?_
    exact moves_triple (setState_moves (fun _ => rfl)
      fun _ hstate => nomatch hstate)
  · exact nativeContain_triple dark

theorem setPanel_aside
    (hfaults : ∀ panel, (change panel).faultBits = panel.faultBits)
    (hstate : ∀ panel, (change panel).displayState = .scanoutInitializing →
        panel.displayState = .scanoutInitializing) :
    (setPanel change).Within Aside :=
  .store fun display =>
    ⟨rfl, (hfaults display.panel).symm.trans, hstate display.panel⟩

theorem bootReadyQualify_triple :
    (scanoutProtocol abi splash).Triple t (Renders abi splash t)
      bootReadyQualify fun _ => Renders abi splash t := by
  refine commitRenderLocked_renders.bind fun _ => aside_triple_renders ?_
  apply Calm.within_aside
  refine .bind (readScanout_calm _) fun target => .ite (.ret _) ?_
  refine .bind (Minor.within_calm (nativeRequalifyFront_minor target))
    fun qualified => ?_
  split
  · exact .ret _
  · refine .bind (Minor.within_calm nativePrepareReloadPlan_minor)
      fun planned => ?_
    split
    · exact .ret _
    · refine .bind (setPanel_calm fun _ => rfl) fun _ => ?_
      refine .bind (Minor.within_calm coldI2cInitialize_minor) fun _ =>
        .ite ?_ (.ret _)
      refine .bind (setPanel_calm fun _ => rfl) fun _ => ?_
      refine .bind (.allOf ?_) fun _ => .ite ?_ (.ret _)
      · simp only [List.forall_mem_cons]
        exact ⟨succeeds_calm, succeeds_calm, fun _ hnone => nomatch hnone⟩
      · exact .bind (setPanel_calm fun _ => rfl) fun _ => .ret _

theorem bootReadyRaise_aside : bootReadyRaise.Within Aside := by
  refine .bind (Calm.within_aside (i2cWriteReg8_calm _)) fun _ =>
    .ite ?_ (.ret _)
  refine .bind (Calm.within_aside (setPanel_calm fun _ => rfl)) fun _ => ?_
  refine .bind (Calm.within_aside (.allOf ?_)) fun _ => .ite ?_ (.ret _)
  · simp only [List.forall_mem_cons]
    exact ⟨Minor.within_calm nativeFinalStatusClean_minor, succeeds_calm,
      Minor.within_calm nativeFinalStatusClean_minor, List.forall_mem_nil _⟩
  · refine .bind (Calm.within_aside (setPanel_calm fun _ => rfl)) fun _ => ?_
    refine .bind (Calm.within_aside (setPanel_calm fun _ => rfl)) fun _ => ?_
    exact .bind (setPanel_aside (fun _ => rfl) fun _ hstate => nomatch hstate)
      fun _ => .ret _

theorem bootReadyReveal_aside : bootReadyReveal.Within Aside := by
  refine .bind (Calm.within_aside (readPanel_calm _)) fun _ => .ite (.ret _) ?_
  refine .bind (Calm.within_aside (setPanel_calm fun _ => rfl)) fun _ => ?_
  refine .bind (Calm.within_aside
    (Minor.within_calm nativeFinalStatusClean_minor)) fun _ =>
    .ite ?_ (.ret _)
  refine .bind (Calm.within_aside (setPanel_calm fun _ => rfl)) fun _ => ?_
  refine .bind (Calm.within_aside (i2cWriteReg8_calm _)) fun _ =>
    .ite ?_ (.ret _)
  refine .bind (Calm.within_aside (setPanel_calm fun _ => rfl)) fun _ => ?_
  exact .bind (Calm.within_aside
    (Minor.within_calm nativeFinalStatusClean_minor)) fun _ =>
    .ite bootReadyRaise_aside (.ret _)

theorem unlockMode_triple :
    (scanoutProtocol abi splash).Triple t (Owned t) unlockMode
      fun _ _ => True := by
  apply Protocol.Triple.store stable_owned stable_true
  intro display hinv howned
  have haside : Aside display { display with
      panel := { display.panel with modeLock := none } } := ⟨rfl, id, id⟩
  exact ⟨ScanoutInv.aside hinv haside, haside.guar_owned howned, trivial⟩

theorem unlockMode_reply (result : α) :
    (scanoutProtocol abi splash).Triple t (Owned t)
      (unlockMode.bind fun _ => .ret result) fun _ _ => True :=
  unlockMode_triple.bind fun _ => Keeps.ret result

theorem bootReadyFail_triple (errno : DisplayErrno) :
    (scanoutProtocol .v3 splash).Triple t (Renders .v3 splash t)
      (bootReadyFail t errno) fun _ _ => True := by
  refine .bind (unlockRender_started.mono (fun _ _ => id)
    fun _ _ => Started.owned t) fun _ => ?_
  refine .bind (calm_triple_owned (readPanel_calm _)) fun lit => ?_
  split
  · exact (nativeFailRevealLocked_triple false).bind fun _ => unlockMode_reply _
  · refine .bind (calm_triple_owned nativeUnregisterRuntimeObjects_calm)
      fun _ => ?_
    exact coldRuntimeFailQuiescent_triple.bind fun _ => unlockMode_reply _

theorem bootReadyTrigger_triple :
    (scanoutProtocol .v3 splash).Triple t Started (bootReadyTrigger t)
      fun _ _ => True := by
  have hcalm : ∀ {β : Type} {prog : DisplayProg β}, prog.Within Calm →
      (scanoutProtocol .v3 splash).Triple t Started prog fun _ => Started :=
    fun hprog => aside_triple_started (Calm.within_aside hprog)
  refine .bind (hcalm (setPanel_calm fun _ => rfl)) fun _ => ?_
  refine .bind (hcalm (setPanel_calm fun _ => rfl)) fun _ => ?_
  refine .bind (hcalm (setPanel_calm fun _ => rfl)) fun _ => ?_
  refine .bind (aside_triple_started (setPanel_aside (fun _ => rfl)
    fun _ hstate => nomatch hstate)) fun _ => ?_
  refine .bind (hcalm cancelRenderWork_calm) fun _ => ?_
  refine lockRender_renders.bind fun _ => ?_
  refine bootReadyQualify_triple.bind fun qualified => ?_
  split
  · exact bootReadyFail_triple _
  · refine .bind (aside_triple_renders (Calm.within_aside lockOps_calm))
      fun _ => ?_
    refine (aside_triple_renders bootReadyReveal_aside).bind fun revealed => ?_
    split
    · exact .bind (aside_triple_renders (Calm.within_aside unlockOps_calm))
        fun _ => bootReadyFail_triple _
    · refine .bind (aside_triple_renders (Calm.within_aside unlockOps_calm))
        fun _ => ?_
      refine unlockRender_started.bind fun _ => ?_
      exact (unlockMode_reply _).mono (fun _ _ hstarted => .inr hstarted)
        fun _ _ => id

theorem lockMode_triple :
    (scanoutProtocol abi splash).Triple t (fun _ => True) (lockMode t)
      fun _ => Owned t := by
  apply Protocol.Triple.await stable_true stable_owned
  intro display hinv _ hready
  have haside : Aside display { display with
      panel := { display.panel with modeLock := some t } } := ⟨rfl, id, id⟩
  exact ⟨ScanoutInv.aside hinv haside, haside.guar fun _ =>
    .inr ⟨Option.isNone_iff_eq_none.mp hready, rfl, rfl⟩, .inl rfl⟩

/-- A look at the state tells whether the start-up is over. -/
theorem readState_triple (hstable : (scanoutProtocol abi splash).Stable t pre) :
    (scanoutProtocol abi splash).Triple t pre (readPanel Panel.displayState)
      fun state display => pre display ∧
        (state ≠ .scanoutInitializing → Started display) := by
  apply Protocol.Triple.load guar_refl hstable
  · exact fun _ => hstable.and stable_started.imp
  · exact fun _ _ hpre => ⟨hpre, id⟩

theorem nativeBootReadyStore_keeps (ready : Bool) :
    Keeps .v3 splash t (nativeBootReadyStore t ready) := by
  refine .ite ?_ (.ret _)
  refine lockMode_triple.bind fun _ => ?_
  refine .bind (calm_triple_owned (readPanel_calm _)) fun consumed => ?_
  split
  · exact unlockMode_reply _
  · refine (readState_triple stable_owned).bind fun state => ?_
    split
    · rename_i hstate
      refine bootReadyTrigger_triple.mono ?_ fun _ _ => id
      exact fun _ _ hread => hread.2 (hstate ▸ fun hstart => nomatch hstart)
    · exact (unlockMode_reply _).mono (fun _ _ hread => hread.1) fun _ _ => id

theorem nativeFbBlank_keeps (blank : FbBlank) :
    Keeps .v3 splash t (nativeFbBlank t blank) := by
  have haside : ∀ {β : Type} {prog : DisplayProg β}, prog.Within Aside →
      (scanoutProtocol .v3 splash).Triple t Started prog fun _ _ => True :=
    fun hprog => (aside_triple_started hprog).mono (fun _ _ => id)
      fun _ _ _ => trivial
  refine (readState_triple stable_true).bind fun state => ?_
  split
  · rename_i hstate
    refine .mono (haside ?_) (fun _ _ hread => hread.2
      (hstate ▸ fun hstart => nomatch hstart)) fun _ _ => id
    refine .bind (Calm.within_aside (readPanel_calm _)) fun device => ?_
    split
    · exact .ret _
    · refine lockMode_aside.bind fun _ => ?_
      refine .bind (Calm.within_aside (readPanel_calm _)) fun _ => .ite ?_ ?_
      · refine .bind (Calm.within_aside lockOps_calm) fun _ => ?_
        refine .bind (Calm.within_aside (backlightSetPower_calm _)) fun _ => ?_
        refine .bind (Calm.within_aside unlockOps_calm) fun _ => ?_
        exact unlockMode_aside.bind fun _ => .ret _
      · exact unlockMode_aside.bind fun _ => .ret _
  · exact (Keeps.ret _).mono (fun _ _ _ => trivial) fun _ _ => id

theorem nativeFaultWork_keeps : Keeps .v3 splash t (nativeFaultWork t) := by
  refine lockMode_triple.bind fun _ => ?_
  refine .bind (calm_triple_owned (readPanel_calm _)) fun faults => ?_
  refine .bind (calm_triple_owned (readPanel_calm _)) fun state => ?_
  split
  · exact coldRuntimeFailQuiescent_triple.bind fun _ => unlockMode_triple
  · split
    · exact (nativeFailRevealLocked_triple false).bind fun _ =>
        unlockMode_triple
    · exact unlockMode_triple

/-- The roles that the start-up stores are the ones it finds. -/
theorem resetRoles_triple : (scanoutProtocol abi splash).Triple t (Starts t)
      (setScanout fun scanout => { scanout with
        frontIndex := 0, renderIndex := 1, queuedIndex := none })
      fun _ => Starts t := by
  apply Protocol.Triple.store stable_starts stable_starts
  intro display hinv hstarts
  obtain ⟨hfront, hrender, hqueued, -⟩ :=
    (ScanoutInv.starting hinv hstarts.2).2
  have hsame : { display with scanout := { display.scanout with
      frontIndex := 0, renderIndex := 1, queuedIndex := none } } =
      display := by
    rw [← hfront, ← hrender, ← hqueued]
  rw [hsame]
  exact ⟨hinv, guar_refl display, hstarts⟩

theorem Starts.panelKept (before after : Display)
    (hkept : PanelKept before after) (hstarts : Starts t before) :
    Starts t after := by
  unfold Starts
  rw [hkept]
  exact hstarts

theorem nativeStartScanout_triple :
    (scanoutProtocol abi splash).Triple t (Starts t) nativeStartScanout
      fun _ => Starts t := by
  refine resetRoles_triple.bind fun _ => ?_
  refine .bind (calm_triple_starts
    (Minor.within_calm sampleHostStatus_minor)) fun seen => ?_
  refine .bind (calm_triple_starts (.allOf ?_)) fun ready => ?_
  · simp only [List.forall_mem_cons]
    exact ⟨.ret _, readPanel_calm _, readPanel_calm _, readPanel_calm _,
      succeeds_calm, fun _ hnone => nomatch hnone⟩
  · split
    · refine .bind (setActive_triple true stable_starts ?_ Starts.panelKept)
        fun _ => calm_triple_starts (.allOf ?_)
      · intro display hinv hstarts _
        rw [(hinv.starting hstarts.2).2.queued]
        exact (Option.some_ne_none _).symm
      · simp only [List.forall_mem_cons]
        exact ⟨succeeds_calm, readPanel_calm _, readPanel_calm _, succeeds_calm,
          Minor.within_calm frameWindowClean_minor,
          Minor.within_calm frameWindowClean_minor, List.forall_mem_nil _⟩
    · exact .ret stable_starts fun _ _ => id

theorem readRender_triple : (scanoutProtocol abi splash).Triple t (Starts t)
      (readScanout Scanout.renderIndex)
      fun index display => Starts t display ∧ index = 1 := by
  apply Protocol.Triple.load guar_refl stable_starts
  · exact fun _ => stable_starts.and (.const _)
  · exact fun _ hinv hstarts =>
      ⟨hstarts, (ScanoutInv.starting hinv hstarts.2).2.render⟩

theorem setBase_triple : (scanoutProtocol abi splash).Triple t (Starts t)
      (setScanout fun scanout => { scanout with screenBase := 1 })
      fun _ => Starts t := by
  apply Protocol.Triple.store stable_starts stable_starts
  intro display hinv hstarts
  have hbase := (ScanoutInv.starting hinv hstarts.2).2.base
  have hsame : { display with
      scanout := { display.scanout with screenBase := 1 } } = display := by
    rw [← hbase]
  rw [hsame]
  exact ⟨hinv, guar_refl display, hstarts⟩

theorem coldPublish_triple :
    (scanoutProtocol abi splash).Triple t (Starts t) coldPublish
      fun _ => Owned t := by
  refine readRender_triple.bind fun index => .assume ?_
  rintro rfl
  refine setBase_triple.bind fun _ => ?_
  refine .bind ((calm_triple_starts (.allOf ?_)).mono (fun _ _ => id)
    fun _ _ => Starts.owned) fun ready => ?_
  · simp only [List.forall_mem_cons]
    exact ⟨succeeds_calm, Minor.within_calm nativeFinalStatusClean_minor,
      succeeds_calm, List.forall_mem_nil _⟩
  · split
    · refine .bind (calm_triple_owned (setPanel_calm fun _ => rfl)) fun _ => ?_
      refine .bind (calm_triple_owned (setPanel_calm fun _ => rfl)) fun _ => ?_
      refine .bind (moves_triple (setState_moves (fun _ => rfl)
        fun _ hstate => nomatch hstate)) fun _ => ?_
      exact .ret stable_owned fun _ _ => id
    · exact .ret stable_owned fun _ _ => id

/-- The holder of `mode_lock` finds the start-up waiting for it, or over. -/
theorem readStarts_triple : (scanoutProtocol abi splash).Triple t (Owned t)
      (readPanel Panel.displayState)
      fun state display => if state = .scanoutInitializing then
        Starts t display else Owned t display := by
  apply Protocol.Triple.load guar_refl stable_owned
  · intro state
    split
    · exact stable_starts
    · exact stable_owned
  · intro display _ howned
    split
    · rename_i hstate
      rcases howned with hlock | hstarted
      · exact ⟨hlock, hstate⟩
      · exact absurd hstate hstarted
    · exact howned

theorem initializeScanout_triple :
    (scanoutProtocol abi splash).Triple t (Starts t)
      (Prog.allOf [succeeds, succeeds, nativeStartScanout, coldPublish])
      fun _ => Owned t := by
  have hfailed : (scanoutProtocol abi splash).Triple t (Starts t)
      (.ret false : DisplayProg Bool) fun _ => Owned t :=
    .ret stable_owned fun _ _ => Starts.owned
  refine (calm_triple_starts succeeds_calm).bind fun _ => ?_
  split
  · refine (calm_triple_starts succeeds_calm).bind fun _ => ?_
    split
    · refine nativeStartScanout_triple.bind fun _ => ?_
      split
      · refine coldPublish_triple.bind fun _ => ?_
        split <;> exact .ret stable_owned fun _ _ => id
      · exact hfailed
    · exact hfailed
  · exact hfailed

theorem coldInitializeScanoutStage_keeps :
    Keeps .v3 splash t (coldInitializeScanoutStage t) := by
  refine lockMode_triple.bind fun _ => readStarts_triple.bind fun state => ?_
  split
  · refine initializeScanout_triple.bind fun ready => ?_
    split
    · exact unlockMode_reply _
    · exact coldRuntimeFailQuiescent_triple.bind fun _ => unlockMode_reply _
  · exact unlockMode_reply _

end Micronux
