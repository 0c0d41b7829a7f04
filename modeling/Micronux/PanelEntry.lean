/-
Drawing, the interrupts, blanking and the fault work of the native driver keep
the promises about the panel, whatever the other threads do.
-/
import Micronux.PanelCalls

namespace Micronux

open Concurrent

variable {abi : Abi} {t : ThreadId} {stance : Stance} {registered : Bool}
  {α : Type}

section Drawing

theorem setScanout_kept (change : Scanout → Scanout) :
    (setScanout change).Within PanelKept :=
  .store fun _ => rfl

theorem renderAllowed_kept : (renderAllowed abi).Within PanelKept := by
  cases abi with
  | v2 => exact .ret _
  | v3 => exact .bind (.load PanelKept.refl _) fun _ =>
      .bind (.load PanelKept.refl _) fun _ => .ret _

theorem planCopy_kept (display : Display) :
    PanelKept display (planCopy display).1 := by
  unfold planCopy
  dsimp only
  split <;> exact rfl

theorem prepareRenderLocked_kept : prepareRenderLocked.Within PanelKept := by
  refine .bind (.critical planCopy_kept) fun plan => ?_
  split
  · exact .ret _
  · refine .bind (?_ : (copyFrame _ _).Within PanelKept) fun _ =>
      setScanout_kept _
    exact Prog.Within.forEach (fun _ => setScanout_kept _) _

theorem withRender_kept {refused : α} {body : DisplayProg α}
    (hbody : body.Within PanelKept) :
    (withRender abi t refused body).Within PanelKept := by
  refine renderAllowed_kept.bind fun _ => .ite ?_ (.ret _)
  refine lockRender_panel.bind fun _ => ?_
  refine renderAllowed_kept.bind fun _ => .ite ?_ ?_
  · refine prepareRenderLocked_kept.bind fun _ => hbody.bind fun _ => ?_
    exact unlockRender_panel.bind fun _ => .ret _
  · exact unlockRender_panel.bind fun _ => .ret _

theorem drawStores_kept {ι : Type} (base : Nat) (change : ι → Frame → Frame)
    (items : List ι) :
    (Prog.forEach (fun item => drawStore base (change item))
      items).Within PanelKept :=
  Prog.Within.forEach (fun _ => setScanout_kept _) items

theorem markRenderDirtyLocked_kept : markRenderDirtyLocked.Within PanelKept :=
  .bind (.store fun _ => rfl) fun _ => .store fun _ => rfl

theorem drawPrimitive_kept (stores : List (Frame → Frame)) :
    (drawPrimitive abi t stores).Within PanelKept := by
  refine withRender_kept (.bind (.load PanelKept.refl _) fun base => ?_)
  exact (drawStores_kept base id stores).bind fun _ =>
    markRenderDirtyLocked_kept

theorem fbWriteLoop_kept (base fuel offset : Nat) (bytes : List Byte)
    (written : Nat) :
    (fbWriteLoop base fuel offset bytes written).Within PanelKept := by
  induction fuel generalizing offset bytes written with
  | zero => exact .ret _
  | succ fuel ih =>
    refine .ite (.ret _) (.bind (.ask PanelKept.refl _) fun missing => ?_)
    refine .ite (.ret _) (.bind (drawStores_kept base _ _) fun _ => ?_)
    exact .ite (ih _ _ _) (.ret _)

theorem fbWriteLocked_kept (offset : Nat) (bytes : List Byte) :
    (fbWriteLocked offset bytes).Within PanelKept := by
  refine .ite (.ret _) (.ite (.ret _) ?_)
  refine .bind (.ask PanelKept.refl _) fun _ => .ite ?_ (.ret _)
  refine .bind (.load PanelKept.refl _) fun base => ?_
  refine (fbWriteLoop_kept base _ _ _ _).bind fun written => ?_
  exact .ite (.ret _) (markRenderDirtyLocked_kept.bind fun _ => .ret _)

theorem renderWork_kept : (renderWork t).Within PanelKept := by
  refine .bind (.await fun _ _ => rfl) fun _ => ?_
  refine lockRender_panel.bind fun _ => commitRenderLocked_panel.bind fun _ => ?_
  exact unlockRender_panel.bind fun _ => .store fun _ => rfl

end Drawing

variable {after before : Display}

section Interrupt

theorem dmaPoll_minor (abi : Abi) (input : DisplayInput) (display : Display) :
    Minor display (dmaPoll abi input display) := by
  have hsampled : ∀ display : Display,
      Minor display (pollHostStatus abi input display) := by
    intro display
    unfold pollHostStatus
    dsimp only
    split
    · refine Minor.trans (SameCore.minor ?_ ?_)
        (Display.latchFault_minor _ .dsiHost)
      · exact ⟨rfl, rfl, rfl⟩
      · exact rfl
    · exact SameCore.minor ⟨rfl, rfl, rfl⟩ rfl
  unfold dmaPoll
  exact (((display.latchIf_minor _ _).trans (hsampled _)).trans
    (Display.latchIf_minor _ _ _)).trans ((Display.latchIf_minor _ _ _).trans
      (Display.latchIf_minor _ _ _))

theorem nativeNoteStatus_hushed (input : DisplayInput) (preserve : Bool)
    (display : Display) :
    Hushed display (nativeNoteStatus input preserve display) := by
  unfold nativeNoteStatus
  dsimp only
  split
  · refine Hushed.trans (SameCore.hushed ?_) (Display.setFault_minor _ .dma).toHushed
    exact ⟨rfl, rfl, rfl⟩
  · exact SameCore.hushed ⟨rfl, rfl, rfl⟩

/-- A DMA error is noted before the interrupt looks for its transfer. -/
theorem nativeNoteStatus_faults {input : DisplayInput} {preserve : Bool}
    {display : Display} (herror : nativeDmaError input = true) :
    (nativeNoteStatus input preserve display).panel.faultBits ≠ 0 := by
  unfold nativeNoteStatus
  rw [if_pos herror]
  intro hclear
  exact absurd (BitVec.or_eq_zero_iff.mp hclear).2 (by decide)

/-- The interrupt declines to rearm only a source that need not be
preserved. -/
theorem decline_panel (hinv : PanelInv before)
    (hfaults : before.panel.faultBits ≠ 0)
    (hpreserve : before.panel.preserves = false)
    (hafter : after = { before with panel := { before.panel with
      events := .declined :: before.panel.events } }) :
    PanelInv after ∧ PanelGuar t before after := by
  subst hafter
  have hdark := hinv.unpreserved hpreserve
  refine ⟨⟨hinv.stops.cons id fun _ => hdark, fun _ => hfaults,
    fun _ => hdark.cons id, ?_, ?_, hinv.early, ?_⟩, ⟨id, id,
      fun _ => ⟨rfl, rfl⟩, fun _ => .inl rfl,
      fun _ hregistered => ⟨hregistered, rfl⟩, fun _ => .inl rfl, [.declined],
      rfl, List.forall_mem_singleton.mpr ⟨fun hlights => absurd hlights id,
        fun hsame => (nomatch hsame), fun _ => hpreserve⟩⟩⟩
  · intro event hevent hlights
    rcases List.mem_cons.mp hevent with rfl | hbefore
    · exact absurd hlights id
    · exact hinv.lights event hbefore hlights
  · intro hrevealed
    exact absurd (hpreserve.symm.trans (hinv.revealed hrevealed).1)
      Bool.false_ne_true
  · intro hnone hearly htorn
    rcases List.mem_cons.mp htorn with hsame | hbefore
    · cases hsame
    · exact hinv.free hnone hearly hbefore

theorem PanelGuar.after_hushed {first second third : Display}
    (hhushed : Hushed first second) (hguar : PanelGuar t second third) :
    PanelGuar t first third := by
  obtain ⟨quiet, hquietEvents, hquiet⟩ := hhushed.events
  obtain ⟨recent, hevents, hpermitted⟩ := hguar.events
  have hmode := hhushed.mode
  have hops := hhushed.ops
  have hpreserves := Panel.preserves_of_stance hhushed.stance
  have hregistered := hhushed.registered
  have hlit : second.panel.nativeRevealMayBeLit =
      first.panel.nativeRevealMayBeLit := congrArg Stance.lit hhushed.stance
  refine ⟨fun hclear => hhushed.faults (hguar.faults hclear), ?_, ?_, ?_, ?_,
    ?_, recent ++ quiet, ?_, ?_⟩
  · rw [← hlit]
    exact hguar.lit
  · rw [← hmode, ← hhushed.stance, ← hregistered]
    exact hguar.stance
  · rw [← hmode]
    exact hguar.mode
  · rw [← hops, ← hregistered, ← hpreserves]
    exact hguar.registered
  · rw [← hops]
    exact hguar.ops
  · rw [hevents, hquietEvents, List.append_assoc]
  · refine List.forall_mem_append.mpr ⟨fun event hevent => ?_,
      fun event hevent => .of_hushed (hquiet event hevent)⟩
    have hallowed := hpermitted event hevent
    refine ⟨?_, ?_, ?_⟩
    · rw [← hregistered, ← hops]
      exact hallowed.lights
    · rw [← hmode, ← hregistered]
      exact hallowed.tornDown
    · rw [← hpreserves]
      exact hallowed.declined

theorem nativeFinishTransfer_panel (t : ThreadId) {dmaError : Bool}
    {display : Display} (hinv : PanelInv display)
    (herror : dmaError = true → display.panel.faultBits ≠ 0) :
    PanelInv (nativeFinishTransfer dmaError display.panel.preserves display) ∧
      PanelGuar t display
        (nativeFinishTransfer dmaError display.panel.preserves display) := by
  have hquiet : ∀ {after : Display}, Hushed display after →
      PanelInv after ∧ PanelGuar t display after :=
    fun hhushed => ⟨hhushed.inv hinv, hhushed.guar⟩
  unfold nativeFinishTransfer
  dsimp only
  split
  · rename_i hdecline
    rw [Bool.and_eq_true, Bool.or_eq_true, Bool.not_eq_true'] at hdecline
    refine decline_panel hinv ?_ hdecline.2 rfl
    rcases hdecline.1 with hfaulted | hfailed
    · exact bne_iff_ne.mp hfaulted
    · exact herror hfailed
  · split
    · exact hquiet (SameCore.hushed .rfl)
    · apply hquiet
      refine Hushed.trans (SameCore.hushed ?_)
        (Display.setFault_minor _ .dma).toHushed
      exact ⟨rfl, rfl, rfl⟩

theorem nativeDmaIrq_panel (input : DisplayInput) {display : Display}
    (hinv : PanelInv display) :
    PanelInv (nativeDmaIrq input display) ∧
      PanelGuar t display (nativeDmaIrq input display) := by
  have hnoted := nativeNoteStatus_hushed input display.panel.preserves display
  have hquiet : ∀ {after : Display}, Hushed display after →
      PanelInv after ∧ PanelGuar t display after :=
    fun hhushed => ⟨hhushed.inv hinv, hhushed.guar⟩
  unfold nativeDmaIrq
  dsimp only
  split
  · exact hquiet (.refl display)
  · split
    · refine hquiet (hnoted.trans (SameCore.hushed ?_))
      exact ⟨rfl, rfl, rfl⟩
    · split
      · have hpreserves := Panel.preserves_of_stance hnoted.stance
        have herror : nativeDmaError input = true → (nativeNoteStatus input
            display.panel.preserves display).panel.faultBits ≠ 0 :=
          nativeNoteStatus_faults
        have hfinish := nativeFinishTransfer_panel t (hnoted.inv hinv) herror
        rw [hpreserves] at hfinish
        exact ⟨hfinish.1, .after_hushed hnoted hfinish.2⟩
      · exact hquiet hnoted

end Interrupt

/-- The handlers of the two interrupts. -/
theorem handler_panel {body : DisplayInput → Display → Display}
    (hbody : ∀ input display, PanelInv display → PanelInv (body input display) ∧
        PanelGuar t display (body input display)) :
    panelProtocol.Triple t (fun _ => True) (handler body) fun _ _ => True := by
  apply Protocol.Triple.atomic lasting_true.stable
    fun _ => lasting_true.stable
  intro input before after result hinv _ hrun
  cases hrun
  obtain ⟨hafter, hguar⟩ := hbody input before hinv
  exact ⟨hafter, hguar, trivial⟩

section Calls

/-- The holder of `mode_lock` may give it back. -/
structure Releasable (t : ThreadId) (display : Display) : Prop where
  mode : display.panel.modeLock = some t
  untorn : display.panel.displayState.Early → .tornDown ∉ display.panel.events

theorem lasting_releasable : Lasting t (Releasable t) := by
  constructor
  · intro before after hrely hreleasable
    have hbehind := BehindMode.of_rely hrely hreleasable.mode
    have hstate : after.panel.displayState = before.panel.displayState :=
      congrArg Stance.state hbehind.stance
    refine ⟨hbehind.mode, ?_⟩
    rw [hstate]
    exact fun hearly htorn => hreleasable.untorn hearly (hbehind.torn htorn)
  · intro before after hhushed hreleasable
    have hstate : after.panel.displayState = before.panel.displayState :=
      congrArg Stance.state hhushed.stance
    refine ⟨hhushed.mode.trans hreleasable.mode, ?_⟩
    rw [hstate]
    exact fun hearly htorn =>
      hreleasable.untorn hearly (hhushed.mem_events htorn trivial)

theorem Finished.releasable {display : Display} (hdone : Finished t display) :
    Releasable t display :=
  ⟨hdone.mode, fun hearly => absurd hearly hdone.late⟩

theorem Untorn.releasable {display : Display}
    (huntorn : Untorn t stance registered display) : Releasable t display :=
  ⟨huntorn.1.mode, fun _ => huntorn.2⟩

theorem lockMode_panel : panelProtocol.Triple t (fun _ => True) (lockMode t)
      fun _ => Releasable t := by
  apply Protocol.Triple.await lasting_true.stable lasting_releasable.stable
  intro display hinv _ hready
  have hinvBefore : PanelInv display := hinv
  have hnone := Option.isNone_iff_eq_none.mp hready
  refine ⟨?_, ⟨id, id, fun _ => ⟨rfl, rfl⟩, fun _ => .inr ⟨hnone, rfl⟩,
    fun _ hregistered => ⟨hregistered, rfl⟩, fun _ => .inl rfl, [], rfl,
    List.forall_mem_nil _⟩, rfl, hinvBefore.free hnone⟩
  refine ⟨hinvBefore.stops, hinvBefore.declined, hinvBefore.unpreserved,
    hinvBefore.lights, hinvBefore.revealed, hinvBefore.early, ?_⟩
  exact fun hlocked => absurd hlocked (Option.some_ne_none t)

theorem unlockMode_panel :
    panelProtocol.Triple t (Releasable t) unlockMode fun _ _ => True := by
  apply Protocol.Triple.store lasting_releasable.stable lasting_true.stable
  intro display hinv hreleasable
  have hinvBefore : PanelInv display := hinv
  refine ⟨?_, ⟨id, id, fun _ => ⟨rfl, rfl⟩,
    fun hforeign => absurd hreleasable.mode hforeign,
    fun _ hregistered => ⟨hregistered, rfl⟩, fun _ => .inl rfl, [], rfl,
    List.forall_mem_nil _⟩, trivial⟩
  exact ⟨hinvBefore.stops, hinvBefore.declined, hinvBefore.unpreserved,
    hinvBefore.lights, hinvBefore.revealed, hinvBefore.early,
    fun _ => hreleasable.untorn⟩

variable {pre : Display → Prop} {prog : DisplayProg α}

theorem unlockMode_then {prog : DisplayProg Unit}
    (hprog : panelProtocol.Triple t pre prog fun _ => Finished t) :
    panelProtocol.Triple t pre (prog.bind fun _ => unlockMode)
      fun _ _ => True :=
  hprog.bind fun _ => unlockMode_panel.mono
    (fun _ _ hdone => hdone.releasable) fun _ _ => id

theorem unlockMode_return (result : α)
    (hpre : ∀ display, pre display → Releasable t display) :
    panelProtocol.Triple t pre (unlockMode.bind fun _ => .ret result)
      fun _ _ => True :=
  .bind (unlockMode_panel.mono (fun display _ => hpre display) fun _ _ => id)
    fun _ => .ret lasting_true.stable fun _ _ => id

/-- The holder of `mode_lock` looks at the state. -/
theorem readMode_panel :
    panelProtocol.Triple t (Releasable t) (readPanel Panel.displayState)
      fun state display => Releasable t display ∧
        display.panel.displayState = state := by
  have hstable : ∀ state, panelProtocol.Stable t fun display =>
      Releasable t display ∧ display.panel.displayState = state := by
    rintro state before after hrely ⟨hreleasable, hstate⟩
    have hbehind := BehindMode.of_rely hrely hreleasable.mode
    have hsame : after.panel.displayState = before.panel.displayState :=
      congrArg Stance.state hbehind.stance
    exact ⟨lasting_releasable.stable hrely hreleasable, hsame.trans hstate⟩
  apply Protocol.Triple.load panelGuar_refl lasting_releasable.stable hstable
  exact fun _ _ hreleasable => ⟨hreleasable, rfl⟩

/-- The holder of `mode_lock` is before the reveal. -/
def Preparing (t : ThreadId) (display : Display) : Prop :=
  Releasable t display ∧ display.panel.displayState.Early

theorem lasting_preparing : Lasting t (Preparing t) := by
  constructor
  · rintro before after hrely ⟨hreleasable, hearly⟩
    have hbehind := BehindMode.of_rely hrely hreleasable.mode
    have hstate : after.panel.displayState = before.panel.displayState :=
      congrArg Stance.state hbehind.stance
    exact ⟨lasting_releasable.stable hrely hreleasable, hstate ▸ hearly⟩
  · rintro before after hhushed ⟨hreleasable, hearly⟩
    have hstate : after.panel.displayState = before.panel.displayState :=
      congrArg Stance.state hhushed.stance
    exact ⟨lasting_releasable.tame hhushed hreleasable, hstate ▸ hearly⟩

theorem DisplayState.Early.ne_revealed {state : DisplayState}
    (hearly : state.Early) : state ≠ .runtimeRevealed := by
  rintro rfl
  rcases hearly with hsame | hsame <;> cases hsame

/-- Before the reveal the panel was never lit and there is no backlight. -/
theorem preparing_triple {post : α → Display → Prop}
    (hprog : ∀ stance : Stance, stance.state.Early → stance.lit = false →
      panelProtocol.Triple t (Untorn t stance false) prog post) :
    panelProtocol.Triple t (Preparing t) prog post := by
  apply Protocol.Triple.fix fun display => display.panel.stance
  rintro stance display hinv ⟨⟨hreleasable, hearly⟩, rfl⟩
  obtain ⟨hunlit, hunregistered⟩ := PanelInv.early hinv hearly
  exact hprog display.panel.stance hearly hunlit display hinv
    ⟨⟨hreleasable.mode, rfl, hunregistered⟩, hreleasable.untorn hearly⟩

theorem coldRuntimeFailQuiescent_preparing :
    panelProtocol.Triple t (Preparing t) (coldRuntimeFailQuiescent t)
      fun _ => Finished t := by
  apply preparing_triple
  intro stance hearly hunlit
  refine (coldRuntimeFailQuiescent_panel hearly.ne_revealed
    fun _ => hunlit).mono ?_ fun _ _ => id
  exact fun _ hinv huntorn => ModeHeld.soleUnlit hinv huntorn.1 hunlit

theorem nativeFailReveal_releasable :
    panelProtocol.Triple t (Releasable t) (nativeFailRevealLocked t false)
      fun _ => Finished t := by
  apply Protocol.Triple.fix fun display =>
    (display.panel.stance, display.panel.backlight.isSome)
  rintro ⟨stance, registered⟩
  have hfail : panelProtocol.Triple t (ModeHeld t stance registered)
      (nativeFailRevealLocked t false) fun _ => Finished t :=
    nativeFailRevealLocked_panel
  refine hfail.mono ?_ fun _ _ => id
  rintro display - ⟨hreleasable, hseen⟩
  obtain ⟨hstance, hregistered⟩ := Prod.mk.inj hseen
  exact ⟨hreleasable.mode, hstance, hregistered⟩

theorem nativeFaultWork_panel :
    panelProtocol.Triple t (fun _ => True) (nativeFaultWork t)
      fun _ _ => True := by
  refine lockMode_panel.bind fun _ => ?_
  refine .bind (minor_triple (readPanel_minor _) lasting_releasable)
    fun faults => ?_
  refine readMode_panel.bind fun state => ?_
  split
  · rename_i hqualified
    simp only [Bool.and_eq_true, decide_eq_true_eq] at hqualified
    refine unlockMode_then (coldRuntimeFailQuiescent_preparing.mono ?_
      fun _ _ => id)
    exact fun _ _ hread => ⟨hread.1, .inr (hread.2.trans hqualified.2)⟩
  · split
    · exact unlockMode_then (nativeFailReveal_releasable.mono
        (fun _ _ hread => hread.1) fun _ _ => id)
    · exact unlockMode_panel.mono (fun _ _ hread => hread.1) fun _ _ => id

/-- Writes to the panel and small changes around them. -/
structure CoreKept (before after : Display) : Prop where
  core : after.panel.core = before.panel.core
  torn : .tornDown ∈ after.panel.events → .tornDown ∈ before.panel.events

theorem Minor.coreKept (hminor : Minor before after) : CoreKept before after :=
  ⟨hminor.core, fun htorn => hminor.toHushed.mem_events htorn trivial⟩

theorem Minor.within_coreKept (hminor : prog.Within Minor) :
    prog.Within CoreKept :=
  hminor.mono fun _ _ => Minor.coreKept

theorem i2cWriteReg8_coreKept {event : Bool → PanelEvent}
    (hwrite : ∀ acked, event acked ≠ .tornDown) :
    (i2cWriteReg8 event).Within CoreKept := by
  apply Prog.Within.atomic
  intro input before after result hrun
  cases hrun
  refine ⟨rfl, fun htorn => ?_⟩
  rcases List.mem_cons.mp htorn with hsame | hbefore
  · exact absurd hsame.symm (hwrite input.ok)
  · exact hbefore

theorem writePwm_coreKept (brightness : Byte) :
    (writePwm brightness).Within CoreKept :=
  i2cWriteReg8_coreKept fun _ hsame => nomatch hsame

theorem writeControl_coreKept (command : Byte) :
    (writeControl command).Within CoreKept :=
  i2cWriteReg8_coreKept fun _ hsame => nomatch hsame

theorem setPanel_coreKept {change : Panel → Panel}
    (hchange : ∀ panel, SameCore panel (change panel)) :
    (setPanel change).Within CoreKept :=
  Minor.within_coreKept (setPanel_minor hchange)

theorem nativeRaise_coreKept (brightness : Byte) :
    (nativeRaise brightness).Within CoreKept := by
  refine (writePwm_coreKept brightness).bind fun _ =>
    .ite ?_ (Minor.within_coreKept (faultAndRollback_minor _))
  refine .bind (setPanel_coreKept fun _ => ⟨rfl, rfl, rfl⟩) fun _ => ?_
  exact .bind (Minor.within_coreKept visibleSourceValid_minor) fun _ =>
    .ite (.ret _) (Minor.within_coreKept (nativeRollback_minor _))

theorem nativeOpenGate_coreKept (brightness : Byte) :
    (nativeOpenGate brightness).Within CoreKept := by
  have hfailed := Minor.within_coreKept (faultAndRollback_minor .eio)
  refine (writePwm_coreKept 0).bind fun _ => .ite ?_ hfailed
  refine .bind (setPanel_coreKept fun _ => ⟨rfl, rfl, rfl⟩) fun _ => ?_
  refine (writeControl_coreKept _).bind fun _ => .ite ?_ hfailed
  exact .bind (setPanel_coreKept fun _ => ⟨rfl, rfl, rfl⟩) fun _ =>
    nativeRaise_coreKept brightness

theorem nativeBacklightUpdate_coreKept :
    nativeBacklightUpdate.Within CoreKept := by
  have hminor : ∀ {β : Type} {prog : DisplayProg β}, prog.Within Minor →
      prog.Within CoreKept := Minor.within_coreKept
  refine .bind (hminor (readPanel_minor _)) fun brightness => ?_
  refine .bind (hminor (readPanel_minor _)) fun _ =>
    .ite (.ite (hminor nativeBacklightDisable_minor) ?_) (.ret _)
  refine .bind (hminor visibleSourceValid_minor) fun _ => .ite ?_ ?_
  · exact .bind (hminor (readPanel_minor _)) fun _ =>
      .ite (nativeRaise_coreKept _) (nativeOpenGate_coreKept _)
  · refine .bind (hminor nativeBacklightDisable_minor) fun off => ?_
    refine .bind (hminor darkenProps_minor) fun _ => ?_
    split <;> exact .ret _

theorem backlightSetPower_coreKept (power : FbBlank) :
    (backlightSetPower .v3 power).Within CoreKept := by
  refine .bind (Minor.within_coreKept (readPanel_minor _)) fun old => ?_
  refine .bind (Minor.within_coreKept (setBacklightPower_minor _))
    fun _ => ?_
  refine nativeBacklightUpdate_coreKept.bind fun result => ?_
  split
  · exact .ret _
  · exact .bind (Minor.within_coreKept (setBacklightPower_minor _))
      fun _ => .ret _

theorem CoreKept.releasable (hkept : CoreKept before after)
    (hreleasable : Releasable t before) :
    Releasable t after := by
  have hmode : after.panel.modeLock = before.panel.modeLock :=
    congrArg PanelCore.mode hkept.core
  have hstate : after.panel.displayState = before.panel.displayState :=
    congrArg (fun core => core.stance.state) hkept.core
  refine ⟨hmode.trans hreleasable.mode, ?_⟩
  rw [hstate]
  exact fun hearly htorn => hreleasable.untorn hearly (hkept.torn htorn)

/-- The holder of `mode_lock` looks whether the backlight is registered. -/
theorem readRegistered_panel {view : Panel → Bool}
    (hview : ∀ panel, view panel = true → panel.backlight.isSome = true) :
    panelProtocol.Triple t (Releasable t) (readPanel view)
      fun seen display => Releasable t display ∧
        (seen = true → display.panel.backlight.isSome = true) := by
  have hstable : ∀ seen, panelProtocol.Stable t fun display =>
      Releasable t display ∧
        (seen = true → display.panel.backlight.isSome = true) := by
    rintro seen before after hrely ⟨hreleasable, hregistered⟩
    have hbehind := BehindMode.of_rely hrely hreleasable.mode
    refine ⟨lasting_releasable.stable hrely hreleasable, ?_⟩
    rw [hbehind.registered]
    exact hregistered
  apply Protocol.Triple.load panelGuar_refl lasting_releasable.stable hstable
  exact fun display _ hreleasable => ⟨hreleasable, hview display.panel⟩

theorem lasting_registered : Lasting t fun display =>
    Releasable t display ∧ display.panel.backlight.isSome = true := by
  constructor
  · rintro before after hrely ⟨hreleasable, hregistered⟩
    have hbehind := BehindMode.of_rely hrely hreleasable.mode
    exact ⟨lasting_releasable.stable hrely hreleasable,
      hbehind.registered.trans hregistered⟩
  · rintro before after hhushed ⟨hreleasable, hregistered⟩
    exact ⟨lasting_releasable.tame hhushed hreleasable,
      hhushed.registered.trans hregistered⟩

theorem nativeFbBlank_panel (blank : FbBlank) :
    panelProtocol.Triple t (fun _ => True) (nativeFbBlank t blank)
      fun _ _ => True := by
  have hreply : ∀ {result : Except DisplayErrno Unit},
      panelProtocol.Triple t (fun _ => True)
        (.ret result : DisplayProg (Except DisplayErrno Unit))
        fun _ _ => True := .ret lasting_true.stable fun _ _ => id
  refine .bind (minor_triple (readPanel_minor _) lasting_true) fun state => ?_
  split
  · refine .bind (minor_triple (readPanel_minor _) lasting_true)
      fun device => ?_
    split
    · exact hreply
    · refine lockMode_panel.bind fun _ => ?_
      refine .bind (readRegistered_panel ?_) fun seen => ?_
      · exact fun _ hboth => (Bool.and_eq_true _ _ ▸ hboth).2
      · split
        · rename_i hseen
          have hlock : panelProtocol.Triple t
              (fun display => Releasable t display ∧
                display.panel.backlight.isSome = true) (lockOps t)
              fun _ display => Attached t display ∧ Releasable t display :=
            (lockOps_panel lasting_registered fun _ hboth =>
              ⟨⟨hboth.1.mode, hboth.1.untorn⟩, hboth.2⟩).mono
              (fun _ _ => id) fun _ _ hlocked =>
                ⟨⟨hlocked.2, hlocked.1.2⟩, hlocked.1.1⟩
          refine .bind (hlock.mono (fun _ _ hread =>
            ⟨hread.1, hread.2 hseen⟩) fun _ _ => id) fun _ => ?_
          refine .bind ((backlightSetPower_panel _).frame
            (backlightSetPower_coreKept _) lasting_releasable.stable
            fun _ _ hkept => hkept.releasable) fun result => ?_
          refine .bind (unlockOps_panel (lasting_attached.stable.and
            lasting_releasable.stable) lasting_releasable.stable
            (fun _ hboth => hboth.1.ops) fun _ hboth =>
              ⟨hboth.2.mode, hboth.2.untorn⟩) fun _ => ?_
          exact unlockMode_return _ fun _ => id
        · exact unlockMode_return _ fun _ hread => hread.1
  · exact hreply

end Calls

end Micronux
