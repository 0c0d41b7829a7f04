/-
The entry points of the native driver keep the promises about the panel,
whatever the other threads do.
-/
import Micronux.PanelRules

namespace Micronux

open Concurrent

variable {t : ThreadId} {before after : Display} {stance : Stance}
  {registered : Bool} {α : Type} {assertion pre post : Display → Prop}
  {prog : DisplayProg α}

section Actions

/-- The holder of `mode_lock` stores to the panel. -/
theorem PanelGuar.of_mode (hmode : before.panel.modeLock = some t)
    (hfaults : after.panel.faultBits = before.panel.faultBits)
    (hlit : before.panel.nativeRevealMayBeLit = true →
      after.panel.nativeRevealMayBeLit = true)
    (hregistered : before.panel.opsLock ≠ some t →
      before.panel.backlight.isSome = true →
      after.panel.backlight.isSome = true ∧
        after.panel.preserves = before.panel.preserves)
    (hops : after.panel.opsLock = before.panel.opsLock)
    (hevents : after.panel.events = before.panel.events) :
    PanelGuar t before after :=
  ⟨hfaults.symm.trans, hlit, fun hforeign => absurd hmode hforeign,
    fun hforeign => absurd hmode hforeign, hregistered, fun _ => .inl hops,
    [], hevents, List.forall_mem_nil _⟩

/-- The stance changes and no event is added. -/
theorem PanelInv.of_stance (hinv : PanelInv before)
    (hmode : after.panel.modeLock = some t)
    (hfaults : after.panel.faultBits = before.panel.faultBits)
    (hevents : after.panel.events = before.panel.events)
    (hlit : before.panel.nativeRevealMayBeLit = true →
      after.panel.nativeRevealMayBeLit = true)
    (hdark : after.panel.preserves = false → Darkened before.panel.events)
    (hrevealed : after.panel.displayState = .runtimeRevealed →
      after.panel.preserves = true ∧ after.panel.nativeRevealMayBeLit = true ∧
        ∀ event ∈ before.panel.events, ¬ event.Stops)
    (hearly : after.panel.displayState.Early →
      after.panel.nativeRevealMayBeLit = false ∧
        after.panel.backlight.isSome = false) : PanelInv after := by
  refine ⟨?_, ?_, ?_, ?_, ?_, hearly, ?_⟩
  · rw [hevents]
    exact hinv.stops
  · rw [hevents, hfaults]
    exact hinv.declined
  · rw [hevents]
    exact hdark
  · rw [hevents]
    exact fun event hevent hlights => hlit (hinv.lights event hevent hlights)
  · rw [hevents]
    exact hrevealed
  · intro hnone
    rw [hmode] at hnone
    cases hnone

theorem panelGuar_refl (display : Display) : PanelGuar t display display :=
  (Hushed.refl display).guar

variable {event : Bool → PanelEvent}

/-- A thread that may light the panel writes to it. -/
theorem i2cWriteReg8_lighting (hwrite : ∀ acked, ¬ (event acked).Stops) :
    panelProtocol.Triple t (Lighting t) (i2cWriteReg8 event)
      fun _ => Lighting t := by
  apply Protocol.Triple.atomic lasting_lighting.stable
    (fun _ => lasting_lighting.stable)
  intro input before after result hinv hlighting hrun
  cases hrun
  have hearly := PanelInv.early hinv
  have hrunning : ∀ other ∈ event input.ok :: before.panel.events,
      ¬ other.Stops :=
    List.forall_mem_cons.mpr ⟨hwrite input.ok, hlighting.running⟩
  refine ⟨⟨.of_running hrunning, ?_, ?_, fun _ _ _ => hlighting.lit, ?_, ?_,
    ?_⟩, ⟨id, id, fun _ => ⟨rfl, rfl⟩, fun _ => .inl rfl,
      fun _ hregistered => ⟨hregistered, rfl⟩, fun _ => .inl rfl,
      [event input.ok], rfl, List.forall_mem_singleton.mpr ?_⟩,
    hlighting.ops, hlighting.registered, hlighting.preserves, hlighting.lit,
    hrunning⟩
  · exact fun hdeclined => absurd trivial (hrunning _ hdeclined)
  · intro hunpreserved
    exact absurd (hunpreserved.symm.trans hlighting.preserves)
      Bool.false_ne_true
  · exact fun _ => ⟨hlighting.preserves, hlighting.lit, hrunning⟩
  · exact hearly
  · exact fun _ _ htorn => absurd trivial (hrunning _ htorn)
  · refine ⟨fun _ => ⟨hlighting.registered, hlighting.ops⟩, ?_, ?_⟩
    · intro hevent
      exact absurd (hevent ▸ trivial) (hwrite input.ok)
    · intro hevent
      exact absurd (hevent ▸ trivial) (hwrite input.ok)

/-- A write that does not light the panel is an answer, if it is acknowledged. -/
theorem i2cWriteReg8_answers
    (hunlit : ∀ acked, ¬ (event acked).Lights ∧ ¬ (event acked).Stops)
    (hlasting : Lasting t assertion)
    (hsole : ∀ display, assertion display → Sole t stance registered display) :
    panelProtocol.Triple t assertion (i2cWriteReg8 event) fun acked display =>
      assertion display ∧ (acked = true →
        SoleAnswered t stance registered (event true) display) := by
  apply Protocol.Triple.atomic hlasting.stable
  · exact fun _ => hlasting.stable.and (lasting_soleAnswered _).stable.imp
  intro input before after result hinv hbefore hrun
  cases hrun
  have hhushed : Hushed before { before with panel := { before.panel with
      events := event input.ok :: before.panel.events } } :=
    ⟨rfl, id, [event input.ok], rfl,
      List.forall_mem_singleton.mpr (hunlit input.ok)⟩
  have hafter := hlasting.tame hhushed hbefore
  refine ⟨hhushed.inv hinv, hhushed.guar, hafter, fun hacked => ?_⟩
  refine ⟨hsole _ hafter, ?_⟩
  show Answered PanelEvent.Lights (event true)
    (event input.ok :: before.panel.events)
  rw [hacked]
  exact .answer (hunlit true).1 _

theorem lockOps_panel (hlasting : Lasting t assertion)
    (hkept : ∀ display, assertion display → assertion { display with
      panel := { display.panel with opsLock := some t } }) :
    panelProtocol.Triple t assertion (lockOps t) fun _ display =>
      assertion display ∧ display.panel.opsLock = some t := by
  have hops : panelProtocol.Stable t fun display =>
      display.panel.opsLock = some t := by
    intro before after hrely hmine
    exact (BehindOps.of_rely hrely hmine).ops
  apply Protocol.Triple.await hlasting.stable (hlasting.stable.and hops)
  intro display hinv hbefore hready
  have hnone := Option.isNone_iff_eq_none.mp hready
  refine ⟨?_, ⟨id, id, fun _ => ⟨rfl, rfl⟩, fun _ => .inl rfl,
    fun _ hregistered => ⟨hregistered, rfl⟩, fun _ => .inr ⟨hnone, rfl⟩, [],
    rfl, List.forall_mem_nil _⟩, hkept display hbefore, rfl⟩
  exact ⟨hinv.stops, hinv.declined, hinv.unpreserved, hinv.lights,
    hinv.revealed, hinv.early, hinv.free⟩

theorem unlockOps_panel (hpre : panelProtocol.Stable t pre)
    (hpost : panelProtocol.Stable t post)
    (hops : ∀ display, pre display → display.panel.opsLock = some t)
    (hkept : ∀ display, pre display → post { display with
      panel := { display.panel with opsLock := none } }) :
    panelProtocol.Triple t pre unlockOps fun _ => post := by
  apply Protocol.Triple.store hpre hpost
  intro display hinv hbefore
  have hmine := hops display hbefore
  refine ⟨?_, ⟨id, id, fun _ => ⟨rfl, rfl⟩, fun _ => .inl rfl,
    fun _ hregistered => ⟨hregistered, rfl⟩,
    fun hforeign => absurd hmine hforeign, [], rfl, List.forall_mem_nil _⟩,
    hkept display hbefore⟩
  exact ⟨hinv.stops, hinv.declined, hinv.unpreserved, hinv.lights,
    hinv.revealed, hinv.early, hinv.free⟩

end Actions

section Backlight

/-- Minor steps of the holder, who may stop lighting the panel behind them. -/
theorem minor_attached (hprog : prog.Within Minor) :
    panelProtocol.Triple t (Lighting t) prog fun _ => Attached t :=
  (minor_triple hprog lasting_lighting).mono (fun _ _ => id)
    fun _ _ => Lighting.attached

theorem nativeRaise_panel (brightness : Byte) :
    panelProtocol.Triple t (Lighting t) (nativeRaise brightness)
      fun _ => Attached t := by
  refine .bind (i2cWriteReg8_lighting fun _ => id) fun acked => ?_
  split
  · refine .bind (minor_triple (setPanel_minor fun _ => ⟨rfl, rfl, rfl⟩)
      lasting_lighting) fun _ => ?_
    refine .bind (minor_triple visibleSourceValid_minor lasting_lighting)
      fun valid => ?_
    split
    · exact .ret lasting_attached.stable fun _ _ => Lighting.attached
    · exact minor_attached (nativeRollback_minor _)
  · exact minor_attached (faultAndRollback_minor _)

theorem nativeOpenGate_panel (brightness : Byte) :
    panelProtocol.Triple t (Lighting t) (nativeOpenGate brightness)
      fun _ => Attached t := by
  refine .bind (i2cWriteReg8_lighting fun _ => id) fun acked => ?_
  split
  · refine .bind (minor_triple (setPanel_minor fun _ => ⟨rfl, rfl, rfl⟩)
      lasting_lighting) fun _ => ?_
    refine .bind (i2cWriteReg8_lighting fun _ => id) fun opened => ?_
    split
    · refine .bind (minor_triple (setPanel_minor fun _ => ⟨rfl, rfl, rfl⟩)
        lasting_lighting) fun _ => ?_
      exact nativeRaise_panel brightness
    · exact minor_attached (faultAndRollback_minor _)
  · exact minor_attached (faultAndRollback_minor _)

/-- In the runtime state the holder of `ops_lock` may light the panel. -/
theorem readRevealed_panel :
    panelProtocol.Triple t (Attached t) (readPanel Panel.displayState)
      fun state display => Attached t display ∧
        (state = .runtimeRevealed → Lighting t display) := by
  apply Protocol.Triple.load panelGuar_refl lasting_attached.stable
  · exact fun _ => lasting_attached.stable.and lasting_lighting.stable.imp
  · intro display hinv hattached
    refine ⟨hattached, fun hrevealed => ?_⟩
    obtain ⟨hpreserves, hlit, hrunning⟩ := PanelInv.revealed hinv hrevealed
    exact ⟨hattached.ops, hattached.registered, hpreserves, hlit, hrunning⟩

theorem nativeBacklightUpdate_panel :
    panelProtocol.Triple t (Attached t) nativeBacklightUpdate
      fun _ => Attached t := by
  refine .bind (minor_triple (readPanel_minor _) lasting_attached)
    fun brightness => ?_
  refine readRevealed_panel.bind fun state => ?_
  split
  · rename_i hstate
    refine Protocol.Triple.mono ?_ (fun _ _ hread => hread.2 hstate)
      fun _ _ => id
    split
    · exact minor_attached nativeBacklightDisable_minor
    · refine .bind (minor_triple visibleSourceValid_minor lasting_lighting)
        fun valid => ?_
      split
      · refine .bind (minor_triple (readPanel_minor _) lasting_lighting)
          fun gate => ?_
        split
        · exact nativeRaise_panel brightness
        · exact nativeOpenGate_panel brightness
      · apply minor_attached
        refine nativeBacklightDisable_minor.bind fun off => ?_
        refine darkenProps_minor.bind fun _ => ?_
        split <;> exact .ret _
  · exact .ret lasting_attached.stable fun _ _ hread => hread.1

theorem backlightSetPower_panel (power : FbBlank) :
    panelProtocol.Triple t (Attached t) (backlightSetPower .v3 power)
      fun _ => Attached t := by
  refine .bind (minor_triple (readPanel_minor _) lasting_attached)
    fun old => ?_
  refine .bind (minor_triple (setBacklightPower_minor _) lasting_attached)
    fun _ => ?_
  refine nativeBacklightUpdate_panel.bind fun result => ?_
  split
  · exact .ret lasting_attached.stable fun _ _ => id
  · exact minor_triple (.bind (setBacklightPower_minor _) fun _ => .ret _)
      lasting_attached

theorem unlockOps_attached :
    panelProtocol.Triple t (Attached t) unlockOps fun _ _ => True :=
  unlockOps_panel lasting_attached.stable lasting_true.stable
    (fun _ => Attached.ops) fun _ _ => trivial

theorem lasting_ops : Lasting t fun display =>
    display.panel.opsLock = some t := by
  constructor
  · intro before after hrely hmine
    exact (BehindOps.of_rely hrely hmine).ops
  · intro before after hhushed hmine
    exact hhushed.ops.trans hmine

theorem backlightRequest_panel (request : Backlight → Backlight) :
    panelProtocol.Triple t (fun _ => True) (backlightRequest .v3 t request)
      fun _ _ => True := by
  refine .bind ((lockOps_panel lasting_true fun _ => id).mono
    (fun _ _ => id) fun _ _ hlocked => hlocked.2) fun _ => ?_
  have hread : panelProtocol.Triple t
      (fun display => display.panel.opsLock = some t)
      (readPanel Panel.backlight) fun device display =>
        display.panel.opsLock = some t ∧
          (device.isSome = true → Attached t display) := by
    apply Protocol.Triple.load panelGuar_refl lasting_ops.stable
    · exact fun _ => lasting_ops.stable.and lasting_attached.stable.imp
    · exact fun _ _ hops => ⟨hops, fun hregistered => ⟨hops, hregistered⟩⟩
  refine hread.bind fun device => ?_
  split
  · refine .bind (unlockOps_panel (lasting_ops.stable.and
      lasting_attached.stable.imp) lasting_true.stable
      (fun _ hread => hread.1) fun _ _ => trivial) fun _ => ?_
    exact .ret lasting_true.stable fun _ _ => id
  · refine Protocol.Triple.mono ?_ (fun _ _ hread => hread.2 rfl)
      fun _ _ => id
    refine .bind (minor_triple (mapBacklight_minor request fun _ => .rfl)
      lasting_attached) fun _ => ?_
    refine nativeBacklightUpdate_panel.bind fun result => ?_
    exact unlockOps_attached.bind fun _ =>
      .ret lasting_true.stable fun _ _ => id

end Backlight

section Teardown

def Stance.preserves (stance : Stance) : Bool :=
  stance.preserve && !stance.dark

/-- A store changes the stance, and nothing else that matters. -/
structure SetsStance (stance : Stance) (before after : Panel) : Prop where
  core : after.core = { before.core with stance := stance }
  faults : after.faultBits = before.faultBits
  events : after.events = before.events

variable {change : Panel → Panel} {display : Display}

/-- The holder of `mode_lock` changes the stance of the reveal. -/
theorem setStance_panel (stance' : Stance) (hpre : panelProtocol.Stable t pre)
    (hpost : panelProtocol.Stable t post)
    (hheld : ∀ display, pre display → ModeHeld t stance registered display)
    (hchange : ∀ panel, panel.stance = stance →
      SetsStance stance' panel (change panel))
    (hlit : stance.lit = true → stance'.lit = true)
    (hdark : stance'.preserves = false → stance.preserves = false ∨
      ∀ display, pre display → Darkened display.panel.events)
    (hrevealed : stance'.state = .runtimeRevealed →
      stance'.preserves = true ∧ stance'.lit = true ∧
        ∀ display, pre display → ∀ event ∈ display.panel.events, ¬ event.Stops)
    (hearly : stance'.state.Early → stance'.lit = false ∧ registered = false)
    (hops : registered = true → stance'.preserves = stance.preserves ∨
      ∀ display, pre display → display.panel.opsLock = some t)
    (hkept : ∀ before after, pre before → ModeHeld t stance' registered after →
      after.panel.opsLock = before.panel.opsLock →
      after.panel.events = before.panel.events → post after) :
    panelProtocol.Triple t pre (setPanel change) fun _ => post := by
  apply Protocol.Triple.store hpre hpost
  intro display hinv hbefore
  have hinvBefore : PanelInv display := hinv
  have hmine := hheld display hbefore
  obtain ⟨hcore, hfaults, hevents⟩ := hchange display.panel hmine.stance_eq
  generalize hafter : ({ display with panel := change display.panel } :
    Display) = after
  have hpanel : after.panel = change display.panel := by rw [← hafter]
  rw [← hpanel] at hcore hfaults hevents
  have hmode : after.panel.modeLock = some t :=
    (congrArg PanelCore.mode hcore).trans hmine.mode
  have hstance : after.panel.stance = stance' :=
    congrArg PanelCore.stance hcore
  have hregistered : after.panel.backlight.isSome =
      display.panel.backlight.isSome := congrArg PanelCore.registered hcore
  have hopsLock : after.panel.opsLock = display.panel.opsLock :=
    congrArg PanelCore.ops hcore
  have hheldAfter : ModeHeld t stance' registered after :=
    ⟨hmode, hstance, hregistered.trans hmine.registered_eq⟩
  have hlitAfter : display.panel.nativeRevealMayBeLit = true →
      after.panel.nativeRevealMayBeLit = true := by
    rw [hheldAfter.lit, hmine.lit]
    exact hlit
  refine ⟨?_, .of_mode hmine.mode hfaults hlitAfter ?_ hopsLock hevents,
    hkept display after hbefore hheldAfter hopsLock hevents⟩
  · refine hinvBefore.of_stance hmode hfaults hevents hlitAfter ?_ ?_ ?_
    · rw [hheldAfter.preserves]
      intro hunpreserved
      rcases hdark hunpreserved with hbefore' | hdarkened
      · exact hinvBefore.unpreserved (hmine.preserves.trans hbefore')
      · exact hdarkened display hbefore
    · rw [hheldAfter.state, hheldAfter.preserves, hheldAfter.lit]
      intro hstate
      obtain ⟨hpreserves, hlit', hrunning⟩ := hrevealed hstate
      exact ⟨hpreserves, hlit', hrunning display hbefore⟩
    · rw [hheldAfter.state, hheldAfter.lit, hheldAfter.registered_eq]
      exact hearly
  · intro hforeign hattached
    refine ⟨hregistered.trans hattached, ?_⟩
    rcases hops (hmine.registered_eq.symm.trans hattached) with hsame | hlocked
    · rw [hheldAfter.preserves, hmine.preserves]
      exact hsame
    · exact absurd (hlocked display hbefore) hforeign

theorem ModeHeld.sole (hheld : ModeHeld t stance false display) :
    Sole t stance false display :=
  ⟨hheld, .inr rfl⟩

theorem Sole.of_ops (hheld : ModeHeld t stance registered display)
    (hops : display.panel.opsLock = some t) :
    Sole t stance registered display :=
  ⟨hheld, .inl hops⟩

/-- The two stores of `micronux_native_off_first` behind a dark panel. -/
theorem setUnpreserved_panel {stance' : Stance}
    (hchange : ∀ panel, panel.stance = stance →
      SetsStance stance' panel (change panel))
    (hstate : stance'.state = stance.state) (hlit : stance'.lit = stance.lit)
    (hrevealed : stance.state ≠ .runtimeRevealed)
    (hearly : ¬ stance.state.Early) :
    panelProtocol.Triple t (SoleDark t stance registered) (setPanel change)
      fun _ => SoleDark t stance' registered := by
  apply setStance_panel stance' lasting_soleDark.stable
    lasting_soleDark.stable (fun _ hdark => hdark.1.1.toModeHeld) hchange
  · rw [hlit]
    exact id
  · exact fun _ => .inr fun _ => SoleDark.darkened
  · rw [hstate]
    exact fun hstate' => absurd hstate' hrevealed
  · rw [hstate]
    exact fun hstate' => absurd hstate' hearly
  · intro hattached
    refine .inr fun display hdark => ?_
    rcases hdark.1.1.sole with hops | hnone
    · exact hops
    · exact absurd (hnone.symm.trans hattached) Bool.false_ne_true
  · intro before after hdark hheld hops hevents
    refine Sole.dark ⟨hheld, ?_⟩ (hevents ▸ hdark.darkened)
    exact hdark.1.1.sole.imp_left hops.trans

/-- The stance of the reveal while it may be taken back. -/
def Stance.Revealing (stance : Stance) : Prop :=
  stance.state = .revealing

theorem Stance.Revealing.ne_revealed (hrevealing : stance.Revealing) :
    stance.state ≠ .runtimeRevealed := by
  rw [hrevealing]
  exact fun hstate => nomatch hstate

theorem Stance.Revealing.not_early (hrevealing : stance.Revealing) :
    ¬ stance.state.Early := by
  rw [hrevealing]
  rintro (hstate | hstate) <;> cases hstate

/-- `micronux_native_off_first` ends with the source released, or with what it
found. -/
def OffFirst (t : ThreadId) (stance : Stance) (registered dark : Bool)
    (display : Display) : Prop :=
  Sole t (if dark then { stance with preserve := false, dark := true }
    else stance) registered display

theorem storeIf_panel {condition : Prop} [Decidable condition]
    {rest : DisplayProg α} {post : α → Display → Prop}
    (hchange : ∀ panel, SameCore panel (change panel))
    (hlasting : Lasting t assertion)
    (hrest : panelProtocol.Triple t assertion rest post) :
    panelProtocol.Triple t assertion
      (if condition then (setPanel change).bind fun _ => rest else rest)
      post := by
  split
  · exact .bind (minor_triple (setPanel_minor hchange) hlasting) fun _ => hrest
  · exact hrest

theorem writePwm_zero_answers (hlasting : Lasting t assertion)
    (hsole : ∀ display, assertion display → Sole t stance registered display) :
    panelProtocol.Triple t assertion (writePwm 0) fun acked display =>
      assertion display ∧ (acked = true →
        SoleAnswered t stance registered (.pwm 0 true) display) :=
  i2cWriteReg8_answers (fun _ => ⟨fun hlights => hlights rfl, id⟩) hlasting
    hsole

theorem writeControl_answers {command : Byte}
    (hcommand : command ≠ revealCommand) (hlasting : Lasting t assertion)
    (hsole : ∀ display, assertion display → Sole t stance registered display) :
    panelProtocol.Triple t assertion (writeControl command)
      fun acked display => assertion display ∧ (acked = true →
        SoleAnswered t stance registered (.control command true) display) :=
  i2cWriteReg8_answers (fun _ => ⟨hcommand, id⟩) hlasting hsole

theorem releaseSource_panel (hrevealing : stance.Revealing) :
    panelProtocol.Triple t (SoleDark t stance registered)
      ((setPanel fun panel =>
        { panel with nativeDarkConfirmed := true }).bind fun _ =>
          (setPanel fun panel =>
            { panel with nativePreserveSource := false }).bind fun _ =>
              .ret true)
      fun dark => OffFirst t stance registered dark := by
  have hconfirm : panelProtocol.Triple t (SoleDark t stance registered)
      (setPanel fun panel => { panel with nativeDarkConfirmed := true })
      fun _ => SoleDark t { stance with dark := true } registered := by
    refine setUnpreserved_panel ?_ rfl rfl hrevealing.ne_revealed
      hrevealing.not_early
    rintro panel rfl
    exact ⟨rfl, rfl, rfl⟩
  have hrelease : panelProtocol.Triple t
      (SoleDark t { stance with dark := true } registered)
      (setPanel fun panel => { panel with nativePreserveSource := false })
      fun _ => SoleDark t { stance with preserve := false, dark := true }
        registered := by
    refine setUnpreserved_panel ?_ rfl rfl hrevealing.ne_revealed
      hrevealing.not_early
    intro panel hstance
    have hcore : ({ panel with nativePreserveSource := false } : Panel).stance =
        { panel.stance with preserve := false } := rfl
    refine ⟨?_, rfl, rfl⟩
    rw [Panel.core, hcore, hstance]
    rfl
  refine hconfirm.bind fun _ => hrelease.bind fun _ => ?_
  exact .ret lasting_sole.stable fun _ _ hdark => hdark.1.1

theorem nativeOffWrites_panel (hrevealing : stance.Revealing) :
    panelProtocol.Triple t (Sole t stance registered) nativeOffWrites
      fun dark => OffFirst t stance registered dark := by
  refine .bind (writePwm_zero_answers lasting_sole fun _ => id)
    fun pwmAcked => ?_
  have hpwm : Lasting t fun display => Sole t stance registered display ∧
      (pwmAcked = true →
        SoleAnswered t stance registered (.pwm 0 true) display) :=
    lasting_sole.and (lasting_soleAnswered _).imp
  refine storeIf_panel ?_ hpwm ?_
  · exact fun _ => ⟨rfl, rfl, rfl⟩
  refine .bind (writeControl_answers resetPrepareCommand_ne hpwm
    fun _ hpwm => hpwm.1) fun controlAcked => ?_
  have hboth : Lasting t fun display =>
      (Sole t stance registered display ∧ (pwmAcked = true →
        SoleAnswered t stance registered (.pwm 0 true) display)) ∧
      (controlAcked = true → SoleAnswered t stance registered
        (.control resetPrepareCommand true) display) :=
    hpwm.and (lasting_soleAnswered _).imp
  refine storeIf_panel ?_ hboth ?_
  · exact fun _ => ⟨rfl, rfl, rfl⟩
  refine .bind (minor_triple darkenProps_minor hboth) fun _ => ?_
  split
  · rename_i hacked
    rw [Bool.and_eq_true] at hacked
    refine (releaseSource_panel hrevealing).mono ?_ fun _ _ => id
    exact fun _ _ hacks => ⟨hacks.1.2 hacked.1, hacks.2 hacked.2⟩
  · exact .ret lasting_sole.stable fun _ _ hacks => hacks.1.1

/-- `micronux_native_off_first` as the holder of `mode_lock` sees it. -/
def OffHeld (t : ThreadId) (stance : Stance) (registered dark : Bool)
    (display : Display) : Prop :=
  ModeHeld t (if dark then { stance with preserve := false, dark := true }
    else stance) registered display

theorem readBacklight_panel :
    panelProtocol.Triple t (ModeHeld t stance registered)
      (readPanel Panel.backlight) fun device display =>
        ModeHeld t stance registered display ∧ device.isSome = registered := by
  apply Protocol.Triple.load panelGuar_refl lasting_modeHeld.stable
  · exact fun _ => lasting_modeHeld.stable.and (.const _)
  · exact fun _ _ hheld => ⟨hheld, hheld.registered_eq⟩

theorem lockOps_modeHeld :
    panelProtocol.Triple t (ModeHeld t stance registered) (lockOps t)
      fun _ => Sole t stance registered :=
  (lockOps_panel lasting_modeHeld fun _ hheld =>
    ⟨hheld.mode, hheld.stance_eq, hheld.registered_eq⟩).mono (fun _ _ => id)
    fun _ _ hlocked => .of_ops hlocked.1 hlocked.2

theorem nativeOffFirst_panel (hrevealing : stance.Revealing) :
    panelProtocol.Triple t (ModeHeld t stance registered) (nativeOffFirst t)
      fun dark => OffHeld t stance registered dark := by
  refine .bind (minor_triple (readPanel_minor _) lasting_modeHeld)
    fun ready => ?_
  split
  · refine readBacklight_panel.bind fun device => .assume ?_
    rintro rfl
    split
    · exact (nativeOffWrites_panel hrevealing).mono
        (fun _ _ hheld => hheld.sole) fun _ _ hoff => hoff.toModeHeld
    · refine lockOps_modeHeld.bind fun _ => ?_
      refine (nativeOffWrites_panel hrevealing).bind fun dark => ?_
      have hunlock : panelProtocol.Triple t (OffFirst t stance true dark)
          unlockOps fun _ => OffHeld t stance true dark := by
        apply unlockOps_panel lasting_sole.stable lasting_modeHeld.stable
        · exact fun _ hsole =>
            hsole.sole.resolve_right fun hnone => nomatch hnone
        · exact fun _ hsole =>
            ⟨hsole.mode, hsole.stance_eq, hsole.registered_eq⟩
      exact hunlock.bind fun _ => .ret lasting_modeHeld.stable fun _ _ => id
  · exact .ret lasting_modeHeld.stable fun _ _ => id

/-- The backlight is detached under its own lock. -/
theorem detach_panel : panelProtocol.Triple t (Sole t stance true)
      (setPanel fun panel => { panel with backlight := none })
      fun _ display => ModeHeld t stance false display ∧
        display.panel.opsLock = some t := by
  apply Protocol.Triple.store lasting_sole.stable
    (lasting_modeHeld.stable.and lasting_ops.stable)
  intro display hinv hsole
  have hinvBefore : PanelInv display := hinv
  have hops : display.panel.opsLock = some t :=
    hsole.sole.resolve_right fun hnone => nomatch hnone
  refine ⟨?_, ?_, ⟨hsole.mode, hsole.stance_eq, rfl⟩, hops⟩
  · refine hinvBefore.of_stance hsole.mode rfl rfl id ?_ ?_ ?_
    · exact hinvBefore.unpreserved
    · exact hinvBefore.revealed
    · exact fun hearly => ⟨(hinvBefore.early hearly).1, rfl⟩
  · exact .of_mode hsole.mode rfl id
      (fun hforeign => absurd hops hforeign) rfl rfl

theorem nativeUnregisterRuntimeObjects_panel :
    panelProtocol.Triple t (ModeHeld t stance registered)
      (nativeUnregisterRuntimeObjects t) fun _ => ModeHeld t stance false := by
  refine readBacklight_panel.bind fun device => .assume ?_
  rintro rfl
  split
  · exact .ret lasting_modeHeld.stable fun _ _ => id
  · refine lockOps_modeHeld.bind fun _ => detach_panel.bind fun _ => ?_
    apply unlockOps_panel (lasting_modeHeld.stable.and lasting_ops.stable)
      lasting_modeHeld.stable (fun _ hboth => hboth.2)
    exact fun _ hboth =>
      ⟨hboth.1.mode, hboth.1.stance_eq, hboth.1.registered_eq⟩

/-- The entry of `micronux_cold_runtime_teardown`, behind a dark panel. -/
theorem enterTeardown_panel (hstate : stance.state ≠ .runtimeRevealed) :
    panelProtocol.Triple t (SoleDark t stance false)
      (setPanel fun panel => { panel with
        renderEnabled := false, events := .tornDown :: panel.events })
      fun _ => SoleDark t stance false := by
  apply Protocol.Triple.store lasting_soleDark.stable lasting_soleDark.stable
  intro display hinv hdark
  have hinvBefore : PanelInv display := hinv
  have hheld := hdark.1.1.toModeHeld
  have hdarkened : Darkened (.tornDown :: display.panel.events) :=
    hdark.darkened.cons id
  refine ⟨⟨?_, ?_, fun _ => hdarkened, ?_, ?_, hinvBefore.early, ?_⟩, ?_, ?_⟩
  · exact hinvBefore.stops.cons id fun _ => hdark.darkened
  · intro hdeclined
    rcases List.mem_cons.mp hdeclined with hsame | hbefore
    · cases hsame
    · exact hinvBefore.declined hbefore
  · intro event hevent hlights
    rcases List.mem_cons.mp hevent with rfl | hbefore
    · exact absurd hlights id
    · exact hinvBefore.lights event hbefore hlights
  · exact fun hrevealed => absurd (hheld.state.symm.trans hrevealed) hstate
  · intro hnone
    exact absurd (hheld.mode.symm.trans hnone) (Option.some_ne_none t)
  · refine ⟨id, id, fun _ => ⟨rfl, rfl⟩, fun _ => .inl rfl,
      fun _ hregistered => ⟨hregistered, rfl⟩, fun _ => .inl rfl, [.tornDown],
      rfl, List.forall_mem_singleton.mpr ⟨fun hlights => absurd hlights id,
        fun _ => ⟨hheld.mode, hheld.registered_eq⟩, fun hsame => nomatch hsame⟩⟩
  · exact Sole.dark (ModeHeld.sole
      ⟨hheld.mode, hheld.stance_eq, hheld.registered_eq⟩) hdarkened

theorem PanelKept.hushed {before after : Display}
    (hkept : PanelKept before after) : Hushed before after := by
  have hpanel : after.panel = before.panel := hkept
  exact SameCore.hushed (hpanel ▸ .rfl)

theorem panelKept_triple (hprog : prog.Within PanelKept)
    (hlasting : Lasting t assertion) :
    panelProtocol.Triple t assertion prog fun _ => assertion :=
  hushed_triple (hprog.mono fun _ _ => PanelKept.hushed) hlasting

theorem cancelRenderWork_kept : cancelRenderWork.Within PanelKept :=
  .bind (.store fun _ => rfl) fun _ => .await fun _ _ => rfl

theorem coldRuntimeTeardown_panel (hstate : stance.state ≠ .runtimeRevealed)
    (hearly : stance.state.Early → stance.lit = false) :
    panelProtocol.Triple t (SoleDark t stance false) (coldRuntimeTeardown t)
      fun _ => ModeHeld t { stance with preserve := false } false := by
  refine (enterTeardown_panel hstate).bind fun _ => ?_
  have hrelease : panelProtocol.Triple t (SoleDark t stance false)
      (setPanel fun panel => { panel with nativePreserveSource := false })
      fun _ => ModeHeld t { stance with preserve := false } false := by
    apply setStance_panel { stance with preserve := false }
      lasting_soleDark.stable lasting_modeHeld.stable
      (fun _ hdark => hdark.1.1.toModeHeld)
    · rintro panel rfl
      exact ⟨rfl, rfl, rfl⟩
    · exact id
    · exact fun _ => .inr fun _ => SoleDark.darkened
    · exact fun hrevealed => absurd hrevealed hstate
    · exact fun hearly' => ⟨hearly hearly', rfl⟩
    · exact fun hattached => absurd hattached Bool.false_ne_true
    · exact fun _ _ _ hheld _ _ => hheld
  refine hrelease.bind fun _ => ?_
  refine .bind (minor_triple (setPanel_minor fun _ => ⟨rfl, rfl, rfl⟩)
    lasting_modeHeld) fun _ => ?_
  refine .bind (minor_triple (setPanel_minor fun _ => ⟨rfl, rfl, rfl⟩)
    lasting_modeHeld) fun _ => ?_
  refine panelKept_triple ?_ lasting_modeHeld
  refine .bind (.store fun _ => rfl) fun _ => lockRender_panel.bind fun _ => ?_
  refine .bind (.store fun _ => rfl) fun _ => ?_
  refine unlockRender_panel.bind fun _ => cancelRenderWork_kept.bind fun _ => ?_
  exact .ask PanelKept.refl _

/-- The holder of `mode_lock` is past the reveal. -/
structure Finished (t : ThreadId) (display : Display) : Prop where
  mode : display.panel.modeLock = some t
  late : ¬ display.panel.displayState.Early

theorem lasting_finished : Lasting t (Finished t) := by
  constructor
  · intro before after hrely hdone
    have hbehind := BehindMode.of_rely hrely hdone.mode
    have hstate : after.panel.displayState = before.panel.displayState :=
      congrArg Stance.state hbehind.stance
    exact ⟨hbehind.mode, hstate ▸ hdone.late⟩
  · intro before after hhushed hdone
    have hstate : after.panel.displayState = before.panel.displayState :=
      congrArg Stance.state hhushed.stance
    exact ⟨hhushed.mode.trans hdone.mode, hstate ▸ hdone.late⟩

/-- The driver publishes one of its two states of failure. -/
theorem setFailed_panel {state : DisplayState}
    (hchange : ∀ panel, change panel = { panel with displayState := state })
    (hfailed : state = .failedQuiescent ∨ state = .failedUnverified) :
    panelProtocol.Triple t (ModeHeld t stance registered) (setPanel change)
      fun _ => Finished t := by
  have hlate : ¬ state.Early := by
    rcases hfailed with rfl | rfl <;>
      rintro (hearly | hearly) <;> cases hearly
  have hhidden : state ≠ .runtimeRevealed := by
    rcases hfailed with rfl | rfl <;> exact fun hrevealed => nomatch hrevealed
  have hset : panelProtocol.Triple t (ModeHeld t stance registered)
      (setPanel change) fun _ =>
        ModeHeld t { stance with state := state } registered := by
    apply setStance_panel { stance with state := state }
      lasting_modeHeld.stable lasting_modeHeld.stable fun _ => id
    · rintro panel rfl
      rw [hchange]
      exact ⟨rfl, rfl, rfl⟩
    · exact id
    · exact fun hunpreserved => .inl hunpreserved
    · exact fun hrevealed => absurd hrevealed hhidden
    · exact fun hearly => absurd hearly hlate
    · exact fun _ => .inl rfl
    · exact fun _ _ _ hheld _ _ => hheld
  refine hset.mono (fun _ _ => id) fun _ display hheld => ⟨hheld.mode, ?_⟩
  rw [hheld.state]
  exact hlate

theorem failedState_cases (contained : Bool) :
    (if contained then DisplayState.failedQuiescent
      else DisplayState.failedUnverified) = .failedQuiescent ∨
    (if contained then DisplayState.failedQuiescent
      else DisplayState.failedUnverified) = .failedUnverified := by
  cases contained with
  | false => exact .inr rfl
  | true => exact .inl rfl

theorem coldFailQuiescent_panel :
    panelProtocol.Triple t (ModeHeld t stance registered) coldFailQuiescent
      fun _ => Finished t := by
  refine .bind (minor_triple coldQuiesceExternal_minor lasting_modeHeld)
    fun quiesced => ?_
  refine .bind (minor_triple succeeds_minor lasting_modeHeld) fun off => ?_
  refine .bind (minor_triple (readPanel_minor _) lasting_modeHeld)
    fun unverified => ?_
  exact setFailed_panel (fun _ => rfl) (failedState_cases _)

theorem coldRuntimeFailQuiescent_panel
    (hstate : stance.state ≠ .runtimeRevealed)
    (hearly : stance.state.Early → stance.lit = false) :
    panelProtocol.Triple t (SoleDark t stance false)
      (coldRuntimeFailQuiescent t) fun _ => Finished t := by
  refine (coldRuntimeTeardown_panel hstate hearly).bind fun runtimeOff => ?_
  refine .bind (minor_triple (setPanel_minor fun _ => ⟨rfl, rfl, rfl⟩)
    lasting_modeHeld) fun _ => ?_
  exact coldFailQuiescent_panel

/-- The source is released, so the panel is dark. -/
theorem ModeHeld.soleDark (hinv : PanelInv display)
    (hheld : ModeHeld t stance false display)
    (hreleased : stance.preserves = false) :
    SoleDark t stance false display :=
  hheld.sole.dark (hinv.unpreserved (hheld.preserves.trans hreleased))

/-- The panel was never lit, so it is dark. -/
theorem ModeHeld.soleUnlit (hinv : PanelInv display)
    (hheld : ModeHeld t stance false display) (hunlit : stance.lit = false) :
    SoleDark t stance false display := by
  refine hheld.sole.dark (.of_unlit fun event hevent hlights => ?_)
  have hlit := hinv.lights event hevent hlights
  rw [hheld.lit, hunlit] at hlit
  cases hlit

theorem nativeContain_panel {dark : Bool} (hrevealing : stance.Revealing)
    (hreleased : stance.preserves = false) :
    panelProtocol.Triple t (ModeHeld t stance registered)
      (nativeContain t dark) fun _ => Finished t := by
  refine nativeUnregisterRuntimeObjects_panel.bind fun _ => ?_
  refine .bind ((coldRuntimeTeardown_panel hrevealing.ne_revealed
    fun hearly => absurd hearly hrevealing.not_early).mono
      (fun _ hinv hheld => ModeHeld.soleDark hinv hheld hreleased)
      fun _ _ => id) fun runtimeOff => ?_
  refine .bind (minor_triple coldI2cGate_minor lasting_modeHeld)
    fun released => ?_
  refine .bind (minor_triple succeeds_minor lasting_modeHeld) fun off => ?_
  refine .bind (minor_triple (setPanel_minor fun _ => ⟨rfl, rfl, rfl⟩)
    lasting_modeHeld) fun _ => ?_
  exact setFailed_panel (fun _ => rfl) (failedState_cases _)

theorem nativeFailRevealLocked_panel :
    panelProtocol.Triple t (ModeHeld t stance registered)
      (nativeFailRevealLocked t false) fun _ => Finished t := by
  refine .bind (minor_triple (setPanel_minor fun _ => ⟨rfl, rfl, rfl⟩)
    lasting_modeHeld) fun _ => ?_
  refine .bind (minor_triple (setPanel_minor fun _ => ⟨rfl, rfl, rfl⟩)
    lasting_modeHeld) fun _ => ?_
  have hset : panelProtocol.Triple t (ModeHeld t stance registered)
      (setPanel fun panel => { panel with displayState := .revealing })
      fun _ => ModeHeld t { stance with state := .revealing } registered := by
    apply setStance_panel { stance with state := .revealing }
      lasting_modeHeld.stable lasting_modeHeld.stable fun _ => id
    · rintro panel rfl
      exact ⟨rfl, rfl, rfl⟩
    · exact id
    · exact fun hunpreserved => .inl hunpreserved
    · exact fun hrevealed => nomatch hrevealed
    · rintro (hearly | hearly) <;> cases hearly
    · exact fun _ => .inl rfl
    · exact fun _ _ _ hheld _ _ => hheld
  have hrevealing : ({ stance with state := .revealing } : Stance).Revealing :=
    rfl
  refine hset.bind fun _ => (nativeOffFirst_panel hrevealing).bind fun dark => ?_
  cases dark with
  | false =>
    refine nativeUnregisterRuntimeObjects_panel.bind fun _ => ?_
    refine .bind (minor_triple (setPanel_minor fun _ => ⟨rfl, rfl, rfl⟩)
      lasting_modeHeld) fun _ => ?_
    exact setFailed_panel (fun _ => rfl) (.inr rfl)
  | true => exact nativeContain_panel hrevealing rfl

end Teardown

end Micronux
