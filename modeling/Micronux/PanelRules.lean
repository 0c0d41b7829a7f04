/-
What a thread of the native driver may rely on while it holds `mode_lock` or
`ops_lock`, and the rules for the actions that change the stance of the reveal,
light the panel or stop its source.
-/
import Micronux.PanelProtocol

namespace Micronux

open Concurrent

variable {t : ThreadId} {before after : Display} {stance : Stance}
  {registered : Bool} {α : Type}

/-- What others do behind the back of the holder of `mode_lock`. -/
structure BehindMode (t : ThreadId) (before after : Display) : Prop where
  mode : after.panel.modeLock = some t
  stance : after.panel.stance = before.panel.stance
  registered : after.panel.backlight.isSome = before.panel.backlight.isSome
  torn : .tornDown ∈ after.panel.events → .tornDown ∈ before.panel.events

theorem BehindMode.of_rely (hrely : panelProtocol.Rely t before after)
    (hmode : before.panel.modeLock = some t) : BehindMode t before after := by
  obtain ⟨-, -, other, hother, hguar⟩ := hrely
  have hforeign : before.panel.modeLock ≠ some other := by
    rw [hmode]
    exact fun hsame => hother (Option.some.inj hsame).symm
  obtain ⟨hstance, hregistered⟩ := hguar.stance hforeign
  obtain ⟨recent, hevents, hpermitted⟩ := hguar.events
  refine ⟨?_, hstance, hregistered, ?_⟩
  · rcases hguar.mode hforeign with hsame | ⟨hnone, -⟩
    · exact hsame.trans hmode
    · rw [hmode] at hnone
      cases hnone
  · intro htorn
    rw [hevents] at htorn
    rcases List.mem_append.mp htorn with hrecent | hbefore
    · exact absurd ((hpermitted _ hrecent).tornDown rfl).1 hforeign
    · exact hbefore

/-- What others do behind the back of the holder of `ops_lock`. -/
structure BehindOps (t : ThreadId) (before after : Display) : Prop where
  ops : after.panel.opsLock = some t
  registered : before.panel.backlight.isSome = true →
    after.panel.backlight.isSome = true ∧
      after.panel.preserves = before.panel.preserves
  stops : before.panel.backlight.isSome = true → before.panel.preserves = true →
    ∀ event ∈ after.panel.events, event.Stops → event ∈ before.panel.events

theorem BehindOps.of_rely (hrely : panelProtocol.Rely t before after)
    (hops : before.panel.opsLock = some t) : BehindOps t before after := by
  obtain ⟨-, -, other, hother, hguar⟩ := hrely
  have hforeign : before.panel.opsLock ≠ some other := by
    rw [hops]
    exact fun hsame => hother (Option.some.inj hsame).symm
  obtain ⟨recent, hevents, hpermitted⟩ := hguar.events
  refine ⟨?_, hguar.registered hforeign, ?_⟩
  · rcases hguar.ops hforeign with hsame | ⟨hnone, -⟩
    · exact hsame.trans hops
    · rw [hops] at hnone
      cases hnone
  · intro hregistered hpreserves event hevent hstops
    rw [hevents] at hevent
    rcases List.mem_append.mp hevent with hrecent | hbefore
    · have hallowed := hpermitted event hrecent
      cases event with
      | pwm value acked | control command acked => exact absurd hstops id
      | declined =>
        exact absurd ((hallowed.declined rfl).symm.trans hpreserves)
          Bool.false_ne_true
      | tornDown =>
        exact absurd ((hallowed.tornDown rfl).2.symm.trans hregistered)
          Bool.false_ne_true
    · exact hbefore

/-- The thread holds `mode_lock` and knows the stance of the reveal. -/
structure ModeHeld (t : ThreadId) (stance : Stance) (registered : Bool)
    (display : Display) : Prop where
  mode : display.panel.modeLock = some t
  stance_eq : display.panel.stance = stance
  registered_eq : display.panel.backlight.isSome = registered

section

variable (hheld : ModeHeld t stance registered before)

include hheld

theorem ModeHeld.state : before.panel.displayState = stance.state :=
  congrArg Stance.state hheld.stance_eq

theorem ModeHeld.lit : before.panel.nativeRevealMayBeLit = stance.lit :=
  congrArg Stance.lit hheld.stance_eq

theorem ModeHeld.preserves :
    before.panel.preserves = (stance.preserve && !stance.dark) := by
  rw [← hheld.stance_eq]
  rfl

end

theorem lasting_modeHeld : Lasting t (ModeHeld t stance registered) := by
  constructor
  · intro before after hrely hheld
    have hbehind := BehindMode.of_rely hrely hheld.mode
    exact ⟨hbehind.mode, hbehind.stance.trans hheld.stance_eq,
      hbehind.registered.trans hheld.registered_eq⟩
  · intro before after hhushed hheld
    exact ⟨hhushed.mode.trans hheld.mode, hhushed.stance.trans hheld.stance_eq,
      hhushed.registered.trans hheld.registered_eq⟩

theorem Hushed.mem_events (hhushed : Hushed before after) {event : PanelEvent}
    (hevent : event ∈ after.panel.events) (hstops : event.Stops) :
    event ∈ before.panel.events := by
  obtain ⟨quiet, hevents, hquiet⟩ := hhushed.events
  rw [hevents] at hevent
  rcases List.mem_append.mp hevent with hrecent | hbefore
  · exact absurd hstops (hquiet event hrecent).2
  · exact hbefore

/-- The holder of `mode_lock` has not torn the source down. -/
def Untorn (t : ThreadId) (stance : Stance) (registered : Bool)
    (display : Display) : Prop :=
  ModeHeld t stance registered display ∧ .tornDown ∉ display.panel.events

theorem lasting_untorn : Lasting t (Untorn t stance registered) := by
  constructor
  · rintro before after hrely ⟨hheld, huntorn⟩
    have hbehind := BehindMode.of_rely hrely hheld.mode
    exact ⟨lasting_modeHeld.stable hrely hheld,
      fun htorn => huntorn (hbehind.torn htorn)⟩
  · rintro before after hhushed ⟨hheld, huntorn⟩
    exact ⟨lasting_modeHeld.tame hhushed hheld,
      fun htorn => huntorn (hhushed.mem_events htorn trivial)⟩

/-- The holder of `mode_lock` whom no one can light the panel behind. -/
structure Sole (t : ThreadId) (stance : Stance) (registered : Bool)
    (display : Display) : Prop extends ModeHeld t stance registered display where
  sole : display.panel.opsLock = some t ∨ registered = false

theorem lasting_sole : Lasting t (Sole t stance registered) := by
  constructor
  · intro before after hrely hsole
    refine ⟨lasting_modeHeld.stable hrely hsole.toModeHeld, ?_⟩
    exact hsole.sole.imp_left fun hops => (BehindOps.of_rely hrely hops).ops
  · intro before after hhushed hsole
    exact ⟨lasting_modeHeld.tame hhushed hsole.toModeHeld,
      hsole.sole.imp_left fun hops => hhushed.ops.trans hops⟩

/-- Nobody lights the panel behind the thread. -/
theorem Sole.unlit (hsole : Sole t stance registered before)
    (hrely : panelProtocol.Rely t before after) :
    ∃ recent, after.panel.events = recent ++ before.panel.events ∧
      ∀ event ∈ recent, ¬ event.Lights := by
  obtain ⟨-, -, other, hother, hguar⟩ := hrely
  obtain ⟨recent, hevents, hpermitted⟩ := hguar.events
  refine ⟨recent, hevents, fun event hevent hlights => ?_⟩
  obtain ⟨hregistered, hops⟩ := (hpermitted event hevent).lights hlights
  rcases hsole.sole with hmine | hnone
  · rw [hmine] at hops
    exact hother (Option.some.inj hops).symm
  · rw [hsole.registered_eq, hnone] at hregistered
    cases hregistered

theorem Answered.append {answer : PanelEvent} {recent events : List PanelEvent}
    (hanswered : Answered PanelEvent.Lights answer events)
    (hunlit : ∀ event ∈ recent, ¬ event.Lights) :
    Answered PanelEvent.Lights answer (recent ++ events) := by
  induction recent with
  | nil => exact hanswered
  | cons event recent ih =>
    obtain ⟨hevent, hrest⟩ := List.forall_mem_cons.mp hunlit
    exact (ih hrest).cons hevent

/-- The panel has got this answer since it was last lit. -/
def SoleAnswered (t : ThreadId) (stance : Stance) (registered : Bool)
    (answer : PanelEvent) (display : Display) : Prop :=
  Sole t stance registered display ∧
    Answered PanelEvent.Lights answer display.panel.events

theorem lasting_soleAnswered (answer : PanelEvent) :
    Lasting t (SoleAnswered t stance registered answer) := by
  constructor
  · rintro before after hrely ⟨hsole, hanswered⟩
    obtain ⟨recent, hevents, hunlit⟩ := hsole.unlit hrely
    refine ⟨lasting_sole.stable hrely hsole, ?_⟩
    rw [hevents]
    exact hanswered.append hunlit
  · rintro before after hhushed ⟨hsole, hanswered⟩
    obtain ⟨quiet, hevents, hquiet⟩ := hhushed.events
    refine ⟨lasting_sole.tame hhushed hsole, ?_⟩
    rw [hevents]
    exact hanswered.append fun event hevent => (hquiet event hevent).1

/-- The panel has been darkened and stays dark. -/
def SoleDark (t : ThreadId) (stance : Stance) (registered : Bool)
    (display : Display) : Prop :=
  SoleAnswered t stance registered (.pwm 0 true) display ∧
    SoleAnswered t stance registered (.control resetPrepareCommand true) display

theorem lasting_soleDark : Lasting t (SoleDark t stance registered) :=
  (lasting_soleAnswered _).and (lasting_soleAnswered _)

theorem SoleDark.darkened (hdark : SoleDark t stance registered before) :
    Darkened before.panel.events :=
  ⟨hdark.1.2, hdark.2.2⟩

theorem Sole.dark (hsole : Sole t stance registered before)
    (hdark : Darkened before.panel.events) :
    SoleDark t stance registered before :=
  ⟨⟨hsole, hdark.pwm⟩, hsole, hdark.control⟩

/-- The thread may light the panel. -/
structure Lighting (t : ThreadId) (display : Display) : Prop where
  ops : display.panel.opsLock = some t
  registered : display.panel.backlight.isSome = true
  preserves : display.panel.preserves = true
  lit : display.panel.nativeRevealMayBeLit = true
  running : ∀ event ∈ display.panel.events, ¬ event.Stops

theorem lasting_lighting : Lasting t (Lighting t) := by
  constructor
  · intro before after hrely hlighting
    have hbehind := BehindOps.of_rely hrely hlighting.ops
    obtain ⟨hregistered, hpreserves⟩ :=
      hbehind.registered hlighting.registered
    obtain ⟨-, -, other, -, hguar⟩ := hrely
    exact ⟨hbehind.ops, hregistered, hpreserves.trans hlighting.preserves,
      hguar.lit hlighting.lit, fun event hevent hstops =>
        hlighting.running event (hbehind.stops hlighting.registered
          hlighting.preserves event hevent hstops) hstops⟩
  · intro before after hhushed hlighting
    have hlit : after.panel.nativeRevealMayBeLit =
        before.panel.nativeRevealMayBeLit := congrArg Stance.lit hhushed.stance
    exact ⟨hhushed.ops.trans hlighting.ops,
      hhushed.registered.trans hlighting.registered,
      (Panel.preserves_of_stance hhushed.stance).trans hlighting.preserves,
      hlit.trans hlighting.lit, fun event hevent hstops =>
        hlighting.running event (hhushed.mem_events hevent hstops) hstops⟩

/-- The thread holds `ops_lock` of a registered backlight. -/
structure Attached (t : ThreadId) (display : Display) : Prop where
  ops : display.panel.opsLock = some t
  registered : display.panel.backlight.isSome = true

theorem lasting_attached : Lasting t (Attached t) := by
  constructor
  · intro before after hrely hattached
    have hbehind := BehindOps.of_rely hrely hattached.ops
    exact ⟨hbehind.ops, (hbehind.registered hattached.registered).1⟩
  · intro before after hhushed hattached
    exact ⟨hhushed.ops.trans hattached.ops,
      hhushed.registered.trans hattached.registered⟩

theorem Lighting.attached (hlighting : Lighting t before) : Attached t before :=
  ⟨hlighting.ops, hlighting.registered⟩

theorem lasting_true : Lasting t fun _ => True :=
  .const True

end Micronux
