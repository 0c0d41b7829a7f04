/-
What the threads of the native driver promise each other about the panel.  The
stance of the reveal belongs to the holder of `mode_lock`, and only the holder
of `ops_lock` of a registered backlight may light the panel.  The source may
stop only behind a panel that was darkened since it was last lit.
-/
import Micronux.ScanoutRuns

namespace Micronux

open Concurrent

/-- Newest first: every event of a kind has been answered since. -/
def Answered (kind : PanelEvent → Prop) (answer : PanelEvent)
    (events : List PanelEvent) : Prop :=
  ∀ since event before, events = since ++ event :: before → kind event →
    answer ∈ since

variable {events : List PanelEvent} {assertion : Display → Prop}
  {event : PanelEvent}

theorem Answered.cons {kind : PanelEvent → Prop} {answer : PanelEvent}
    (hanswered : Answered kind answer events) (hevent : ¬ kind event) :
    Answered kind answer (event :: events) := by
  rintro (_ | ⟨newest, since⟩) other before hsplit hother
  · obtain ⟨rfl, -⟩ := List.cons.inj hsplit
    exact absurd hother hevent
  · obtain ⟨-, htail⟩ := List.cons.inj hsplit
    exact List.mem_cons_of_mem newest (hanswered since other before htail hother)

theorem Answered.answer {kind : PanelEvent → Prop} {answer : PanelEvent}
    (hanswer : ¬ kind answer) (events : List PanelEvent) :
    Answered kind answer (answer :: events) := by
  rintro (_ | ⟨newest, since⟩) other before hsplit hother
  · obtain ⟨rfl, -⟩ := List.cons.inj hsplit
    exact absurd hother hanswer
  · obtain ⟨rfl, -⟩ := List.cons.inj hsplit
    exact List.mem_cons_self

/-- Since the panel was last lit, both the PWM register was set to zero and the
reset-prepare command was sent, and both writes were acknowledged. -/
structure Darkened (events : List PanelEvent) : Prop where
  pwm : Answered PanelEvent.Lights (.pwm 0 true) events
  control : Answered PanelEvent.Lights (.control resetPrepareCommand true)
    events

theorem Darkened.cons (hdark : Darkened events) (hevent : ¬ event.Lights) :
    Darkened (event :: events) :=
  ⟨hdark.pwm.cons hevent, hdark.control.cons hevent⟩

theorem Darkened.of_unlit (hunlit : ∀ event ∈ events, ¬ event.Lights) :
    Darkened events := by
  have hnone : ∀ answer, Answered PanelEvent.Lights answer events := by
    intro answer since event before hsplit hlights
    refine absurd hlights (hunlit event ?_)
    rw [hsplit]
    exact List.mem_append_right since List.mem_cons_self
  exact ⟨hnone _, hnone _⟩

/-- Newest first: whenever the source was stopped the panel had been darkened,
and it was never lit again. -/
def StopsDark (events : List PanelEvent) : Prop :=
  ∀ later stop earlier, events = later ++ stop :: earlier → stop.Stops →
    Darkened earlier ∧ ∀ event ∈ later, ¬ event.Lights

theorem StopsDark.cons (hstops : StopsDark events) (hunlit : ¬ event.Lights)
    (hdark : event.Stops → Darkened events) : StopsDark (event :: events) := by
  rintro (_ | ⟨newest, later⟩) stop earlier hsplit hstop
  · obtain ⟨rfl, rfl⟩ := List.cons.inj hsplit
    exact ⟨hdark hstop, List.forall_mem_nil _⟩
  · obtain ⟨rfl, htail⟩ := List.cons.inj hsplit
    obtain ⟨hearlier, hlater⟩ := hstops later stop earlier htail hstop
    exact ⟨hearlier, List.forall_mem_cons.mpr ⟨hunlit, hlater⟩⟩

theorem StopsDark.of_running (hrunning : ∀ event ∈ events, ¬ event.Stops) :
    StopsDark events := by
  intro later stop earlier hsplit hstop
  refine absurd hstop (hrunning stop ?_)
  rw [hsplit]
  exact List.mem_append_right later List.mem_cons_self

/-- The states before the reveal. -/
def DisplayState.Early (state : DisplayState) : Prop :=
  state = .scanoutInitializing ∨ state = .scanoutQualifiedQuiescent

/-- What holds of the panel at every moment. -/
structure PanelInv (display : Display) : Prop where
  stops : StopsDark display.panel.events
  declined : .declined ∈ display.panel.events → display.panel.faultBits ≠ 0
  unpreserved : display.panel.preserves = false → Darkened display.panel.events
  lights : ∀ event ∈ display.panel.events, event.Lights →
    display.panel.nativeRevealMayBeLit = true
  revealed : display.panel.displayState = .runtimeRevealed →
    display.panel.preserves = true ∧ display.panel.nativeRevealMayBeLit = true ∧
      ∀ event ∈ display.panel.events, ¬ event.Stops
  early : display.panel.displayState.Early →
    display.panel.nativeRevealMayBeLit = false ∧
      display.panel.backlight.isSome = false
  free : display.panel.modeLock = none → display.panel.displayState.Early →
    .tornDown ∉ display.panel.events

/-- An event that thread `t` may add. -/
structure PanelEvent.Permitted (t : ThreadId) (before : Display)
    (event : PanelEvent) : Prop where
  lights : event.Lights → before.panel.backlight.isSome = true ∧
    before.panel.opsLock = some t
  tornDown : event = .tornDown → before.panel.modeLock = some t ∧
    before.panel.backlight.isSome = false
  declined : event = .declined → before.panel.preserves = false

/-- What an action of thread `t` may change. -/
structure PanelGuar (t : ThreadId) (before after : Display) : Prop where
  faults : after.panel.faultBits = 0 → before.panel.faultBits = 0
  lit : before.panel.nativeRevealMayBeLit = true →
    after.panel.nativeRevealMayBeLit = true
  stance : before.panel.modeLock ≠ some t →
    after.panel.stance = before.panel.stance ∧
      after.panel.backlight.isSome = before.panel.backlight.isSome
  mode : before.panel.modeLock ≠ some t →
    after.panel.modeLock = before.panel.modeLock ∨
      (before.panel.modeLock = none ∧ after.panel.modeLock = some t)
  registered : before.panel.opsLock ≠ some t →
    before.panel.backlight.isSome = true →
    after.panel.backlight.isSome = true ∧
      after.panel.preserves = before.panel.preserves
  ops : before.panel.opsLock ≠ some t →
    after.panel.opsLock = before.panel.opsLock ∨
      (before.panel.opsLock = none ∧ after.panel.opsLock = some t)
  events : ∃ recent, after.panel.events = recent ++ before.panel.events ∧
    ∀ event ∈ recent, event.Permitted t before

def panelProtocol : Protocol ThreadId Display where
  inv := PanelInv
  guar := PanelGuar

variable {t : ThreadId} {before after : Display}

section Changes

theorem Hushed.stance (hhushed : Hushed before after) :
    after.panel.stance = before.panel.stance :=
  congrArg PanelCore.stance hhushed.core

theorem Hushed.registered (hhushed : Hushed before after) :
    after.panel.backlight.isSome = before.panel.backlight.isSome :=
  congrArg PanelCore.registered hhushed.core

theorem Hushed.mode (hhushed : Hushed before after) :
    after.panel.modeLock = before.panel.modeLock :=
  congrArg PanelCore.mode hhushed.core

theorem Hushed.ops (hhushed : Hushed before after) :
    after.panel.opsLock = before.panel.opsLock :=
  congrArg PanelCore.ops hhushed.core

theorem Panel.preserves_of_stance {first second : Panel}
    (hstance : first.stance = second.stance) :
    first.preserves = second.preserves := by
  have hpreserve : first.nativePreserveSource = second.nativePreserveSource :=
    congrArg Stance.preserve hstance
  have hdark : first.nativeDarkConfirmed = second.nativeDarkConfirmed :=
    congrArg Stance.dark hstance
  unfold Panel.preserves
  rw [hpreserve, hdark]

/-- The facts of the invariant that speak of the events, over any events. -/
theorem PanelInv.of_events (hinv : PanelInv before)
    (hstance : after.panel.stance = before.panel.stance)
    (hregistered : after.panel.backlight.isSome = before.panel.backlight.isSome)
    (hmode : after.panel.modeLock = none → before.panel.modeLock = none ∨
        (before.panel.displayState.Early → .tornDown ∉ before.panel.events))
    (hfaults : after.panel.faultBits = 0 → before.panel.faultBits = 0)
    {recent : List PanelEvent}
    (hevents : after.panel.events = recent ++ before.panel.events)
    (hunlit : ∀ event ∈ recent, ¬ event.Lights ∧ ¬ event.Stops) :
    PanelInv after := by
  have hstate : after.panel.displayState = before.panel.displayState :=
    congrArg Stance.state hstance
  have hlit : after.panel.nativeRevealMayBeLit =
      before.panel.nativeRevealMayBeLit := congrArg Stance.lit hstance
  have hpreserves := Panel.preserves_of_stance hstance
  have hold : ∀ {event}, event ∈ after.panel.events →
      event.Lights ∨ event.Stops → event ∈ before.panel.events := by
    intro event hevent hkind
    rw [hevents] at hevent
    rcases List.mem_append.mp hevent with hrecent | hbefore
    · rcases hkind with hlights | hstops
      · exact absurd hlights (hunlit event hrecent).1
      · exact absurd hstops (hunlit event hrecent).2
    · exact hbefore
  have hkept : StopsDark after.panel.events ∧
      (Darkened before.panel.events → Darkened after.panel.events) := by
    rw [hevents]
    clear hevents hold
    induction recent with
    | nil => exact ⟨hinv.stops, id⟩
    | cons event recent ih =>
      obtain ⟨hevent, hrest⟩ := List.forall_mem_cons.mp hunlit
      obtain ⟨hstops, hdark⟩ := ih hrest
      exact ⟨hstops.cons hevent.1 fun hstop => absurd hstop hevent.2,
        fun hbefore => (hdark hbefore).cons hevent.1⟩
  refine ⟨hkept.1, ?_, ?_, ?_, ?_, ?_, ?_⟩
  · intro hdeclined hclear
    exact hinv.declined (hold hdeclined (.inr trivial)) (hfaults hclear)
  · intro hunpreserved
    exact hkept.2 (hinv.unpreserved (hpreserves ▸ hunpreserved))
  · intro event hevent hlights
    rw [hlit]
    exact hinv.lights event (hold hevent (.inl hlights)) hlights
  · rw [hstate, hpreserves, hlit]
    intro hrevealed
    obtain ⟨hpreserve, hmay, hrunning⟩ := hinv.revealed hrevealed
    exact ⟨hpreserve, hmay, fun event hevent hstops =>
      hrunning event (hold hevent (.inr hstops)) hstops⟩
  · rw [hstate, hlit, hregistered]
    exact hinv.early
  · rw [hstate]
    intro hnone hearly htorn
    have hbefore := hold htorn (.inr trivial)
    rcases hmode hnone with hfree | hkept
    · exact hinv.free hfree hearly hbefore
    · exact hkept hearly hbefore

theorem Hushed.inv (hhushed : Hushed before after) (hinv : PanelInv before) :
    PanelInv after := by
  obtain ⟨quiet, hevents, hquiet⟩ := hhushed.events
  refine hinv.of_events hhushed.stance hhushed.registered ?_ hhushed.faults
    hevents hquiet
  intro hnone
  exact .inl (hhushed.mode.symm.trans hnone)

theorem PanelEvent.Permitted.of_hushed (hunlit : ¬ event.Lights ∧ ¬ event.Stops) :
    event.Permitted t before := by
  refine ⟨fun hlights => absurd hlights hunlit.1, ?_, ?_⟩
  · rintro rfl
    exact absurd trivial hunlit.2
  · rintro rfl
    exact absurd trivial hunlit.2

theorem Hushed.guar (hhushed : Hushed before after) :
    PanelGuar t before after := by
  obtain ⟨quiet, hevents, hquiet⟩ := hhushed.events
  refine ⟨hhushed.faults, ?_, fun _ => ⟨hhushed.stance, hhushed.registered⟩,
    fun _ => .inl hhushed.mode, ?_, fun _ => .inl hhushed.ops, quiet, hevents,
    fun event hevent => .of_hushed (hquiet event hevent)⟩
  · have hlit : after.panel.nativeRevealMayBeLit =
        before.panel.nativeRevealMayBeLit := congrArg Stance.lit hhushed.stance
    rw [hlit]
    exact id
  · intro _ hregistered
    exact ⟨hhushed.registered.trans hregistered,
      Panel.preserves_of_stance hhushed.stance⟩

end Changes

/-- An assertion that hushed changes keep. -/
def Tame (assertion : Display → Prop) : Prop :=
  ∀ ⦃before after⦄, Hushed before after → assertion before → assertion after

theorem Tame.and {left right : Display → Prop} (hleft : Tame left)
    (hright : Tame right) : Tame fun display => left display ∧ right display :=
  fun _ _ hhushed hboth => ⟨hleft hhushed hboth.1, hright hhushed hboth.2⟩

theorem Tame.imp {fact : Prop} (htame : Tame assertion) :
    Tame fun display => fact → assertion display :=
  fun _ _ hhushed himp hfact => htame hhushed (himp hfact)

theorem Tame.const (fact : Prop) : Tame fun _ => fact :=
  fun _ _ _ => id

/-- A fact that a thread may rely on, whatever the others and its own hushed
actions do. -/
structure Lasting (t : ThreadId) (assertion : Display → Prop) : Prop where
  stable : panelProtocol.Stable t assertion
  tame : Tame assertion

theorem Lasting.and {left right : Display → Prop} (hleft : Lasting t left)
    (hright : Lasting t right) :
    Lasting t fun display => left display ∧ right display :=
  ⟨hleft.stable.and hright.stable, hleft.tame.and hright.tame⟩

theorem Lasting.imp {fact : Prop} (hlasting : Lasting t assertion) :
    Lasting t fun display => fact → assertion display :=
  ⟨hlasting.stable.imp, hlasting.tame.imp⟩

theorem Lasting.const (fact : Prop) : Lasting t fun _ => fact :=
  ⟨.const fact, .const fact⟩

/-- A program of hushed actions keeps what lasts. -/
theorem hushed_triple {α : Type} {prog : DisplayProg α}
    (hprog : prog.Within Hushed) (hlasting : Lasting t assertion) :
    panelProtocol.Triple t assertion prog fun _ => assertion :=
  .within hprog hlasting.stable (fun _ _ hhushed => hhushed.inv)
    (fun _ _ hhushed _ _ => hhushed.guar) fun _ _ hhushed =>
      hlasting.tame hhushed

theorem minor_triple {α : Type} {prog : DisplayProg α}
    (hprog : prog.Within Minor) (hlasting : Lasting t assertion) :
    panelProtocol.Triple t assertion prog fun _ => assertion :=
  hushed_triple (hprog.mono fun _ _ => Minor.toHushed) hlasting

end Micronux
