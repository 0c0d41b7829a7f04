/-
The routines that contain a failure stand in two models: with the whole display
and all its threads, and with the readbacks of the bring-up.  Whatever one of
them does in the first model, where nothing interrupts it, it may do in the
second: the same writes, acknowledged alike, and the same state behind them.
-/
import Micronux.ColdContainment
import Micronux.DisplayNative
import Micronux.Simulation

namespace Micronux.Cold

open Concurrent

/-- What both models know. -/
structure Shared where
  displayState : DisplayState
  bootReadyConsumed : Bool
  nativePreserveSource : Bool
  nativeRevealMayBeLit : Bool
  nativeI2cState : NativeI2cState
  coldI2cActive : Bool
  coldRuntimeUnverified : Bool
  writes : List PanelEvent

/-- The writes of both models. -/
def Event.write : Event → Option PanelEvent
  | .pwm value acked => some (.pwm value acked)
  | .control command acked => some (.control command acked)
  | _ => none

def isWrite : PanelEvent → Bool
  | .pwm _ _ | .control _ _ => true
  | _ => false

def Driver.shared (driver : Driver) : Shared :=
  ⟨driver.displayState, driver.bootReadyConsumed, driver.nativePreserveSource,
    driver.nativeRevealMayBeLit, driver.nativeI2cState, driver.coldI2cActive,
    driver.coldRuntimeUnverified, driver.log.filterMap Event.write⟩

def panelShared (panel : Panel) : Shared :=
  ⟨panel.displayState, panel.bootReadyConsumed, panel.nativePreserveSource,
    panel.nativeRevealMayBeLit, panel.nativeI2cState, panel.coldI2cActive,
    panel.coldRuntimeUnverified, panel.events.filter isWrite⟩

def Same (display : Display) (driver : Driver) : Prop :=
  panelShared display.panel = driver.shared

/-- The states agree, and what is returned is related. -/
abbrev Agree {α β : Type} (relation : α → β → Prop) (value : α) (result : β)
    (display : Display) (driver : Driver) : Prop :=
  Same display driver ∧ relation value result

/-- A step that the second model does not have. -/
def Quiet (before after : Display) : Prop :=
  panelShared after.panel = panelShared before.panel

variable {α β γ δ : Type} {post : γ → δ → Display → Driver → Prop}
  {relation : α → β → Prop} {change : Panel → Panel}

theorem bind_same {first : DisplayProg α} {first' : DriverProg β}
    {rest : α → DisplayProg γ} {rest' : β → DriverProg δ}
    (hfirst : Simulates Same first first' (Agree relation))
    (hrest : ∀ value result, relation value result →
      Simulates Same (rest value) (rest' result) post) :
    Simulates Same (first.bind rest) (first'.bind rest') post :=
  hfirst.bind fun value result _ _ _ _ hmid =>
    hrest value result hmid.2 _ _ _ _ hmid.1

theorem skip_same {first : DisplayProg α} {rest : α → DisplayProg γ}
    {other : DriverProg δ} (hfirst : first.Within Quiet)
    (hrest : ∀ value, Simulates Same (rest value) other post) :
    Simulates Same (first.bind rest) other post := by
  refine .skip (fun before after _ _ hsame hruns => ?_) hrest
  have hquiet : Quiet before after := hruns.within hfirst (fun _ => rfl)
    fun hone htwo => Eq.trans htwo hone
  exact hquiet.trans hsame

theorem skipIf_same {condition : Prop} [Decidable condition]
    {rest : DisplayProg γ} {other : DriverProg δ}
    (hchange : ∀ panel, panelShared (change panel) = panelShared panel)
    (hrest : Simulates Same rest other post) :
    Simulates Same
      (if condition then (setPanel change).bind fun _ => rest else rest) other
      post := by
  split
  · exact skip_same (.store fun _ => hchange _) fun _ => hrest
  · exact hrest

/-- Steps behind the end of the second program. -/
theorem trail_same {first : DisplayProg α} {last : DisplayProg Unit}
    {other : DriverProg β}
    (hfirst : Simulates Same first other (Agree relation))
    (hlast : last.Within Quiet) :
    Simulates Same (first.bind fun value => last.bind fun _ => .ret value)
      other (Agree relation) := by
  intro before after value driver hsame hruns
  obtain ⟨between, _, hmine, htail⟩ := runs_bind.mp hruns
  obtain ⟨_, _, hquiet, ⟨⟩⟩ := runs_bind.mp htail
  obtain ⟨final, result, htheirs, hagree, hrelation⟩ :=
    hfirst before between value driver hsame hmine
  have hkept : Quiet between after := hquiet.within hlast (fun _ => rfl)
    fun hone htwo => Eq.trans htwo hone
  exact ⟨final, result, htheirs, hkept.trans hagree, hrelation⟩

theorem ret_same {value : α} {result : β} (hresult : relation value result) :
    Simulates Same (.ret value : DisplayProg α) (.ret result : DriverProg β)
      (Agree relation) :=
  .ret fun _ _ hsame => ⟨hsame, hresult⟩

theorem store_same {update : Driver → Driver} (shared : Shared → Shared)
    (hchange : ∀ panel, panelShared (change panel) = shared (panelShared panel))
    (hupdate : ∀ driver, (update driver).shared = shared driver.shared) :
    Simulates Same (setPanel change) (Prog.store update : DriverProg Unit)
      (Agree fun _ _ => True) := by
  apply Simulates.atomic
  rintro _ before _ _ state hsame ⟨⟩
  refine ⟨true, update state, (), rfl, ?_, trivial⟩
  exact (hchange before.panel).trans
    ((congrArg shared hsame).trans (hupdate state).symm)

theorem load_same {view : Panel → α} {view' : Driver → α} (shared : Shared → α)
    (hview : ∀ panel, view panel = shared (panelShared panel))
    (hview' : ∀ driver, view' driver = shared driver.shared) :
    Simulates Same (readPanel view) (Prog.load view' : DriverProg α)
      (Agree Eq) := by
  apply Simulates.atomic
  rintro _ before _ _ state hsame ⟨⟩
  refine ⟨true, state, _, rfl, hsame, ?_⟩
  exact (hview before.panel).trans
    ((congrArg shared hsame).trans (hview' state).symm)

theorem readPanel_quiet (view : Panel → α) : (readPanel view).Within Quiet :=
  .load (fun display => Eq.refl (panelShared display.panel)) _

theorem answer_same : Simulates Same succeeds answer (Agree Eq) := by
  apply Simulates.atomic
  rintro choice before _ _ state hsame ⟨⟩
  exact ⟨choice.ok, state, _, rfl, hsame, rfl⟩

theorem write_same {event : Bool → PanelEvent} {event' : Bool → Event}
    (hevent : ∀ acked, isWrite (event acked) = true ∧
      (event' acked).write = some (event acked)) :
    Simulates Same (i2cWriteReg8 event) (observe event') (Agree Eq) := by
  apply Simulates.atomic
  rintro choice before _ _ state hsame ⟨⟩
  refine ⟨choice.ok, _, _, rfl, ?_, rfl⟩
  have hwrites := congrArg Shared.writes hsame
  simp only [Same, panelShared, Driver.shared, Shared.mk.injEq] at hsame ⊢
  obtain ⟨hwrite, hsome⟩ := hevent choice.ok
  simp_all

theorem i2cInitialize_same :
    Simulates Same coldI2cInitialize i2cInitialize (Agree Eq) := by
  refine .extra (fun _ state hsame => ⟨true, state, rfl, hsame⟩) ?_
  refine bind_same (store_same (fun shared =>
    { shared with coldI2cActive := true }) (fun _ => rfl) fun _ => rfl) ?_
  exact fun _ _ _ => answer_same

/-- The controller is released where its gate was closed. -/
def Released (gated : Bool) (display : Display) (driver : Driver) : Prop :=
  Same display driver ∧ (gated = true → driver.coldI2cActive = false)

theorem i2cGate_same : Simulates Same coldI2cGate i2cGate
    fun ok gated display driver =>
      ok = gated ∧ Released gated display driver := by
  refine bind_same answer_same fun ok _ hok => ?_
  subst hok
  cases ok with
  | false => exact .ret fun _ _ hsame => ⟨rfl, hsame, nofun⟩
  | true =>
    refine .bind (show Simulates Same _ _ fun _ _ => Released true from
      .atomic ?_) fun _ _ => .ret fun _ _ hreleased => ⟨rfl, hreleased⟩
    rintro _ before _ _ state hsame ⟨⟩
    have hgated := congrArg (fun shared : Shared => { shared with
      coldI2cActive := false, nativeI2cState := .released }) hsame
    exact ⟨true, _, (), rfl, hgated, fun _ => rfl⟩

theorem released_same {gated : Bool} {prog : DisplayProg γ}
    {rest : Bool → DriverProg δ}
    (hrest : Simulates Same prog (rest gated) post) :
    Simulates (Released gated) prog ((releasedBehind gated).bind rest)
      post := by
  cases gated with
  | false => exact fun _ _ _ _ hreleased => hrest _ _ _ _ hreleased.1
  | true =>
    refine .extra ?_ hrest
    rintro display driver ⟨hsame, hoff⟩
    exact ⟨true, { driver with log := .readback .i2c true :: driver.log },
      by simp [hoff rfl], hsame⟩

/-- Both readbacks of the blocks are one answer in the first model. -/
theorem blocks_same {rest : Bool → DisplayProg γ}
    {rest' : Bool → Bool → DriverProg δ}
    (hrest : ∀ off, Simulates Same (rest off) (rest' off off) post) :
    Simulates Same (succeeds.bind rest)
      (dsiDisable.bind fun dsi => ldoDisable.bind (rest' dsi)) post := by
  refine bind_same (show Simulates Same _ _ (Agree Eq) from .atomic ?_) ?_
  · rintro choice before _ _ state hsame ⟨⟩
    exact ⟨choice.ok, _, choice.ok, rfl, hsame, rfl⟩
  · rintro off _ rfl
    exact .extra (fun _ state hsame => ⟨_, _, rfl, hsame⟩) (hrest _)

/-- What `micronux_cold_quiesce_external` reports in the two models. -/
def Reported (quiesced : Bool) (acks : Acks) (display : Display)
    (driver : Driver) : Prop :=
  quiesced = (acks.all && acks.gated) ∧ Released acks.gated display driver

theorem quiesceWrites_same :
    Simulates Same coldQuiesceWrites quiesceWrites Reported := by
  refine bind_same (write_same fun _ => ⟨rfl, rfl⟩) fun pwm _ hpwm => ?_
  refine bind_same (write_same fun _ => ⟨rfl, rfl⟩)
    fun prepare _ hprepare => ?_
  refine bind_same (write_same fun _ => ⟨rfl, rfl⟩) fun reset _ hreset => ?_
  refine i2cGate_same.bind fun ok gated => .ret ?_
  rintro display driver ⟨hok, hreleased⟩
  subst hpwm hprepare hreset hok
  exact ⟨rfl, hreleased⟩

theorem quiesceExternal_same :
    Simulates Same coldQuiesceExternal quiesceExternal Reported := by
  have hready : ∀ ready, Simulates Same
      (if ready = true then coldQuiesceWrites else do
        let _ ← coldI2cGate
        pure false)
      (if ready = true then quiesceWrites else do
        let gated ← i2cGate
        pure ⟨false, false, false, gated⟩) Reported := by
    rintro (_ | _)
    · exact i2cGate_same.bind fun _ _ => .ret fun _ _ hgated =>
        ⟨rfl, hgated.2⟩
    · exact quiesceWrites_same
  change Simulates Same _ ((Prog.load Driver.coldI2cActive).bind fun active =>
    Prog.bind (if active = true then .ret true else i2cInitialize) _) Reported
  refine bind_same (load_same Shared.coldI2cActive (fun _ => rfl)
    fun _ => rfl) fun active _ hactive => ?_
  subst hactive
  cases active with
  | false => exact bind_same i2cInitialize_same fun ok _ hok => hok ▸ hready ok
  | true => exact hready true

theorem settle_same (route : Route) (contained : Bool) :
    Simulates Same (setPanel fun panel => { panel with displayState :=
        if contained then .failedQuiescent else .failedUnverified })
      (settle route contained) (Agree fun _ _ => True) :=
  store_same (fun shared => { shared with displayState :=
    if contained then .failedQuiescent else .failedUnverified }) (fun _ => rfl)
    fun _ => by cases contained <;> rfl

theorem failQuiescent_same :
    Simulates Same coldFailQuiescent failQuiescent (Agree fun _ _ => True) := by
  refine quiesceExternal_same.bind fun quiesced acks => ?_
  refine Simulates.given fun hreported => released_same ?_
  refine blocks_same fun off => ?_
  refine bind_same (load_same Shared.coldRuntimeUnverified (fun _ => rfl)
    fun _ => rfl) fun unverified _ hunverified => ?_
  subst hreported hunverified
  rw [Bool.and_assoc _ off off, Bool.and_self]
  exact settle_same .bringUp _

/-- The two writes of `micronux_native_off_first`. -/
theorem nativeOffWrites_same : Simulates Same nativeOffWrites (do
      let pwm ← observe (.pwm 0)
      let control ← observe (.control resetPrepareCommand)
      if pwm && control then
        Prog.store fun driver => { driver with nativePreserveSource := false }
      pure (⟨pwm, control⟩ : OffAcks))
      (Agree fun dark acks => dark = acks.dark) := by
  refine bind_same (write_same fun _ => ⟨rfl, rfl⟩) fun pwm _ hpwm => ?_
  refine skipIf_same (fun _ => rfl) ?_
  refine bind_same (write_same fun _ => ⟨rfl, rfl⟩)
    fun control _ hcontrol => ?_
  refine skipIf_same (fun _ => rfl) ?_
  refine skip_same (.store fun _ => rfl) fun _ => ?_
  subst hpwm hcontrol
  split
  · refine skip_same (.store fun _ => rfl) fun _ => ?_
    exact bind_same (store_same (fun shared =>
      { shared with nativePreserveSource := false }) (fun _ => rfl)
        fun _ => rfl) fun _ _ _ => ret_same (by simp_all [OffAcks.dark])
  · exact ret_same (by simp_all [OffAcks.dark])

theorem nativeOffFirst_same (t : ThreadId) :
    Simulates Same (Micronux.nativeOffFirst t) nativeOffFirst
      (Agree fun dark acks => dark = acks.dark) := by
  refine bind_same (load_same (fun shared =>
    shared.nativeI2cState == .activeSerialized && shared.coldI2cActive)
      (fun _ => rfl) fun _ => rfl) fun active _ hactive => ?_
  subst hactive
  cases active with
  | false => exact ret_same rfl
  | true =>
    refine skip_same (readPanel_quiet _) fun backlight => ?_
    cases backlight with
    | none => exact nativeOffWrites_same
    | some _ =>
      refine skip_same (.await fun _ _ => rfl) fun _ => ?_
      exact trail_same nativeOffWrites_same (.store fun _ => rfl)

theorem runtimeTeardown_same (t : ThreadId) :
    Simulates Same (coldRuntimeTeardown t) runtimeTeardown (Agree Eq) := by
  refine skip_same (.store fun _ => rfl) fun _ => ?_
  refine bind_same (store_same (fun shared =>
    { shared with nativePreserveSource := false }) (fun _ => rfl)
      fun _ => rfl) fun _ _ _ => ?_
  iterate 3 refine skip_same (.store fun _ => rfl) fun _ => ?_
  refine skip_same (.await fun _ _ => rfl) fun _ => ?_
  iterate 2 refine skip_same (.store fun _ => rfl) fun _ => ?_
  refine skip_same (.bind (.store fun _ => rfl) fun _ =>
    .await fun _ _ => rfl) fun _ => ?_
  exact answer_same

theorem unregister_quiet (t : ThreadId) :
    (nativeUnregisterRuntimeObjects t).Within Quiet := by
  refine .bind (readPanel_quiet _) fun backlight => ?_
  cases backlight with
  | none => exact .ret _
  | some _ =>
    exact .bind (.await fun _ _ => rfl) fun _ => .bind (.store fun _ => rfl)
      fun _ => .store fun _ => rfl

theorem nativeContain_same (t : ThreadId) (dark : Bool) :
    Simulates Same (Micronux.nativeContain t dark) (nativeContain dark)
      (Agree fun _ _ => True) := by
  refine skip_same (unregister_quiet t) fun _ => ?_
  refine bind_same (runtimeTeardown_same t) fun runtimeOff _ hruntime => ?_
  refine i2cGate_same.bind fun ok gated => ?_
  refine Simulates.given fun hgated => released_same ?_
  refine blocks_same fun off => ?_
  subst hruntime hgated
  rw [Bool.and_assoc _ off off, Bool.and_self]
  refine bind_same (store_same (fun shared =>
    { shared with coldRuntimeUnverified := !(dark && runtimeOff && ok && off) })
      (fun _ => rfl) fun _ => rfl) fun _ _ _ => ?_
  exact settle_same .reveal _

theorem nativeFailRevealLocked_same (t : ThreadId) (forceTeardown : Bool) :
    Simulates Same (Micronux.nativeFailRevealLocked t forceTeardown)
      (nativeFailRevealLocked forceTeardown) (Agree fun _ _ => True) := by
  iterate 2 refine skip_same (.store fun _ => rfl) fun _ => ?_
  refine bind_same (store_same (fun shared =>
    { shared with displayState := .revealing }) (fun _ => rfl)
      fun _ => rfl) fun _ _ _ => ?_
  refine bind_same (nativeOffFirst_same t) fun dark acks hdark => ?_
  subst hdark
  split
  · refine skip_same (unregister_quiet t) fun _ => ?_
    refine bind_same (store_same (fun shared =>
      { shared with coldRuntimeUnverified := true }) (fun _ => rfl)
        fun _ => rfl) fun _ _ _ => ?_
    exact store_same (fun shared =>
      { shared with displayState := .failedUnverified }) (fun _ => rfl)
        fun _ => rfl
  · exact nativeContain_same t _

end Micronux.Cold
