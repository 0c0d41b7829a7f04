/-
The entry points of the driver keep the invariant of the buffers and the
promises about them, in both modes and whatever the other threads do.
-/
import Micronux.ScanoutPanel

namespace Micronux

open Concurrent

variable {abi : Abi} {splash : Frame} {t : ThreadId} {α : Type}

section Rules

theorem Calm.within_aside {prog : DisplayProg α} (hcalm : prog.Within Calm) :
    prog.Within Aside :=
  hcalm.mono fun _ _ => Calm.aside

variable {pre : Display → Prop}

/-- Past the start-up, a program that leaves the buffers alone. -/
theorem aside_triple {prog : DisplayProg α} (haside : prog.Within Aside)
    (hstable : (scanoutProtocol abi splash).Stable t pre)
    (hstarted : ∀ display, ScanoutInv abi splash display → pre display →
      Started display)
    (hkept : ∀ before after, Aside before after → pre before → pre after) :
    (scanoutProtocol abi splash).Triple t pre prog fun _ => pre := by
  apply Protocol.Triple.within haside hstable
  · exact fun _ _ hchange hinv => ScanoutInv.aside hinv hchange
  · intro before after hchange hinv hpre
    exact hchange.guar fun _ =>
      .inl fun hstate => absurd hstate (hstarted before hinv hpre)
  · exact hkept

theorem aside_triple_started {prog : DisplayProg α}
    (haside : prog.Within Aside) :
    (scanoutProtocol abi splash).Triple t Started prog fun _ => Started :=
  aside_triple haside stable_started (fun _ _ => id)
    fun _ _ hchange hstarted hstate => hstarted (hchange.started hstate)

/-- The loader's driver has no start-up of its own. -/
theorem aside_triple_loader {prog : DisplayProg α}
    (haside : prog.Within Aside) :
    (scanoutProtocol .v2 splash).Triple t (fun _ => True) prog
      fun _ _ => True :=
  aside_triple haside stable_true (fun _ hinv _ => starts_of_loader hinv)
    fun _ _ _ => id

/-- The driver is past its start-up and the thread has the buffers. -/
def Renders (abi : Abi) (splash : Frame) (t : ThreadId) (display : Display) :
    Prop :=
  Holding t (Settled abi splash) display ∧ Started display

theorem stable_renders :
    (scanoutProtocol abi splash).Stable t (Renders abi splash t) :=
  (stable_holding robust_settled).and stable_started

theorem aside_triple_renders {prog : DisplayProg α}
    (haside : prog.Within Aside) :
    (scanoutProtocol abi splash).Triple t (Renders abi splash t) prog
      fun _ => Renders abi splash t := by
  apply aside_triple haside stable_renders
  · exact fun _ _ hrenders => hrenders.2
  · rintro before after hchange ⟨⟨hlock, hsettled⟩, hstarted⟩
    exact ⟨⟨by rw [hchange.scanout]; exact hlock, hsettled.drift hchange.drift⟩,
      fun hstate => hstarted (hchange.started hstate)⟩

def PanelKept (before after : Display) : Prop :=
  after.panel = before.panel

/-- `mode_lock` is held wherever the start-up may still be going on. -/
def Owned (t : ThreadId) (display : Display) : Prop :=
  display.panel.modeLock = some t ∨ Started display

def Starts (t : ThreadId) (display : Display) : Prop :=
  display.panel.modeLock = some t ∧
    display.panel.displayState = .scanoutInitializing

theorem stable_starts : (scanoutProtocol abi splash).Stable t (Starts t) := by
  rintro before after ⟨-, -, other, hother, hguar⟩ ⟨hlock, hstate⟩
  have hforeign : before.panel.modeLock ≠ some other := by
    rw [hlock]
    exact fun hsame => hother (Option.some.inj hsame).symm
  rcases hguar.mode hforeign with hkept | ⟨hnone, -⟩
  · obtain ⟨hstill, hsame⟩ := hkept hstate
    exact ⟨hsame.trans hlock, hstill⟩
  · exact absurd (hlock.symm.trans hnone) (Option.some_ne_none t)

theorem stable_owned : (scanoutProtocol abi splash).Stable t (Owned t) := by
  intro before after hrely howned
  by_cases hstate : before.panel.displayState = .scanoutInitializing
  · rcases howned with hlock | hstarted
    · exact .inl (stable_starts hrely ⟨hlock, hstate⟩).1
    · exact absurd hstate hstarted
  · exact .inr (stable_started hrely hstate)

/-- A change of a thread that owns the mode, after which it still does. -/
structure Moves (before after : Display) : Prop extends Aside before after where
  owned : after.panel.modeLock = before.panel.modeLock ∨ Started after

theorem Calm.moves {before after : Display} (hcalm : Calm before after) :
    Moves before after := by
  refine ⟨hcalm.aside, ?_⟩
  by_cases hstate : before.panel.displayState = .scanoutInitializing
  · exact .inl (hcalm.mode hstate).2
  · exact .inr fun hafter => hstate (hcalm.started hafter)

theorem Calm.within_moves {prog : DisplayProg α} (hcalm : prog.Within Calm) :
    prog.Within Moves :=
  hcalm.mono fun _ _ => Calm.moves

theorem Aside.guar_owned {before after : Display} (haside : Aside before after)
    (howned : Owned t before) : ScanoutGuar t before after := by
  apply haside.guar
  intro hforeign
  rcases howned with hlock | hstarted
  · exact absurd hlock hforeign
  · exact .inl fun hstate => absurd hstate hstarted

theorem moves_triple {prog : DisplayProg α} (hmoves : prog.Within Moves) :
    (scanoutProtocol abi splash).Triple t (Owned t) prog fun _ => Owned t := by
  apply Protocol.Triple.within hmoves stable_owned
  · exact fun _ _ hchange hinv => ScanoutInv.aside hinv hchange.toAside
  · exact fun _ _ hchange _ howned => hchange.toAside.guar_owned howned
  · intro before after hchange howned
    rcases hchange.owned with hsame | hstarted
    · rcases howned with hlock | hstarted
      · exact .inl (hsame.trans hlock)
      · exact .inr fun hstate => hstarted (hchange.started hstate)
    · exact .inr hstarted

theorem calm_triple_starts {prog : DisplayProg α} (hcalm : prog.Within Calm) :
    (scanoutProtocol abi splash).Triple t (Starts t) prog
      fun _ => Starts t := by
  apply calm_triple hcalm stable_starts
  rintro before after hchange ⟨hlock, hstate⟩
  obtain ⟨hstill, hsame⟩ := hchange.mode hstate
  exact ⟨hsame.trans hlock, hstill⟩

variable {display : Display}

theorem Starts.owned (hstarts : Starts t display) : Owned t display :=
  .inl hstarts.1

theorem ScanoutInv.setActive (hinv : ScanoutInv abi splash display)
    (active : Bool)
    (hlive : active = true →
      display.scanout.queuedIndex ≠ some display.scanout.renderIndex) :
    ScanoutInv abi splash { display with
      scanout := { display.scanout with scanoutActive := active } } := by
  obtain ⟨hdistinct, -, hcopy, hevents, hstarting, hpresents, hfree⟩ := hinv
  refine ⟨⟨hdistinct.front_lt, hdistinct.render_lt, hdistinct.queued_lt,
    hdistinct.render_ne, hdistinct.queued_ne⟩, hlive, hcopy, hevents, ?_, ?_, ?_⟩
  · intro hstate
    obtain ⟨habi, hstart⟩ := hstarting hstate
    exact ⟨habi, hstart.front, hstart.render, hstart.queued, hstart.base,
      hstart.fresh, hstart.clean⟩
  · intro hclean
    obtain ⟨prefixes, front, hshown⟩ :=
      hpresents ⟨hclean.loader, hclean.faults, hclean.raced⟩
    exact ⟨prefixes, front, hshown.follows, hshown.newest, hshown.executed,
      hshown.front_eq, hshown.queued⟩
  · intro hlock
    obtain ⟨hmapped, hidle, hstroke, hsynced⟩ := hfree hlock
    refine ⟨hmapped, hidle, hstroke, fun hclean => ?_⟩
    have hsame := hsynced ⟨hclean.loader, hclean.faults, hclean.raced⟩
    exact ⟨hsame.current, hsame.stale, hsame.committed⟩

/-- A change of `scanout_active` needs no lock: it takes no role away. -/
theorem setActive_triple (active : Bool)
    (hstable : (scanoutProtocol abi splash).Stable t pre)
    (hlive : ∀ display, ScanoutInv abi splash display → pre display →
      active = true →
      display.scanout.queuedIndex ≠ some display.scanout.renderIndex)
    (hkept : ∀ before after : Display, after.panel = before.panel →
      pre before → pre after) :
    (scanoutProtocol abi splash).Triple t pre
      (setScanout fun scanout => { scanout with scanoutActive := active })
      fun _ => pre := by
  apply Protocol.Triple.store hstable hstable
  intro display hinv hpre
  refine ⟨ScanoutInv.setActive hinv active (hlive display hinv hpre),
    ⟨⟨id, id, id⟩, fun _ => .inl rfl, fun _ =>
      ⟨rfl, rfl, rfl, rfl, rfl, rfl, rfl, rfl, .inl ⟨rfl, rfl⟩⟩,
      fun _ => .inl (⟨·, rfl⟩)⟩, hkept display _ rfl hpre⟩

theorem stopActive_triple (hstable : (scanoutProtocol abi splash).Stable t pre)
    (hkept : ∀ before after : Display, after.panel = before.panel →
      pre before → pre after) :
    (scanoutProtocol abi splash).Triple t pre
      (setScanout fun scanout => { scanout with scanoutActive := false })
      fun _ => pre :=
  setActive_triple false hstable
    (fun _ _ _ hactive => absurd hactive Bool.false_ne_true) hkept

end Rules

/-- The program may run at any time and keeps the protocol. -/
def Keeps (abi : Abi) (splash : Frame) (t : ThreadId) (prog : DisplayProg α) :
    Prop :=
  (scanoutProtocol abi splash).Triple t (fun _ => True) prog fun _ _ => True

theorem Keeps.ret (value : α) : Keeps abi splash t (.ret value) :=
  Protocol.Triple.ret stable_true fun _ _ _ => trivial

theorem Keeps.bind {β : Type} {prog : DisplayProg α} {rest : α → DisplayProg β}
    (hprog : Keeps abi splash t prog)
    (hrest : ∀ value, Keeps abi splash t (rest value)) :
    Keeps abi splash t (prog.bind rest) :=
  Protocol.Triple.bind hprog hrest

theorem Keeps.ite {condition : Prop} [Decidable condition]
    {left right : DisplayProg α} (hleft : Keeps abi splash t left)
    (hright : Keeps abi splash t right) :
    Keeps abi splash t (if condition then left else right) := by
  split
  · exact hleft
  · exact hright

theorem Keeps.calm {prog : DisplayProg α} (hcalm : prog.Within Calm) :
    Keeps abi splash t prog :=
  calm_triple_free hcalm

section Loader

theorem Keeps.loader {prog : DisplayProg α} (haside : prog.Within Aside) :
    Keeps .v2 splash t prog :=
  aside_triple_loader haside

theorem lockMode_aside : (lockMode t).Within Aside :=
  .await fun _ _ => ⟨rfl, id, id⟩

theorem unlockMode_aside : unlockMode.Within Aside :=
  .store fun _ => ⟨rfl, id, id⟩

theorem stopActive_keeps : Keeps abi splash t
    (setScanout fun scanout => { scanout with scanoutActive := false }) :=
  stopActive_triple stable_true fun _ _ _ => id

theorem startFailed_keeps (errno : DisplayErrno) :
    Keeps .v2 splash t (startFailed errno) :=
  stopActive_keeps.bind fun _ =>
    (Keeps.calm dmaStop_calm).bind fun _ => .ret _

theorem startScanout_keeps : Keeps .v2 splash t (startScanout t) := by
  refine .bind (.calm (setPanel_calm fun _ => rfl)) fun _ => ?_
  refine Keeps.bind selectInitialFront_triple fun front => ?_
  refine (Keeps.calm (dmaStartFrame_calm front)).bind fun started => ?_
  split
  · exact startFailed_keeps _
  · refine (Keeps.calm restoreFramebufferSource_calm).bind fun restored => ?_
    split
    · exact startFailed_keeps _
    · refine .bind (.calm (.allOf ?_)) fun _ => .ite ?_ ?_
      · simp only [List.forall_mem_cons]
        exact ⟨readPanel_calm _, succeeds_calm, fun _ hnone => nomatch hnone⟩
      · exact .calm (backlightSetPower_calm _)
      · exact startFailed_keeps _

theorem stopScanout_keeps (blank : FbBlank) :
    Keeps .v2 splash t (stopScanout blank) := by
  refine (Keeps.calm (backlightSetPower_calm blank)).bind fun result => ?_
  split
  · exact .ret _
  · refine .bind (.calm (readScanout_calm _)) fun _ => .ite ?_ (.ret _)
    exact stopActive_keeps.bind fun _ => .calm dmaStop_calm

theorem fbBlankLocked_keeps (blank : FbBlank) :
    Keeps .v2 splash t (fbBlankLocked t blank) := by
  refine Keeps.bind flushRender_triple fun _ => ?_
  refine .bind (.calm (readPanel_calm _)) fun device => ?_
  split
  · exact .ret _
  · refine .bind (.calm (readPanel_calm _)) fun _ => .ite ?_ ?_
    · exact .calm (backlightSetPower_calm _)
    · refine .bind (.calm (readPanel_calm _)) fun _ => .ite ?_ ?_
      · refine .ite ?_ (stopScanout_keeps blank)
        refine .bind (.calm (readScanout_calm _)) fun _ => .ite ?_ ?_
        · exact .calm (backlightSetPower_calm _)
        · exact startScanout_keeps
      · exact .calm (backlightSetPower_calm _)

theorem withModeAndOps_keeps {body : DisplayProg α}
    (hbody : Keeps .v2 splash t body) :
    Keeps .v2 splash t (withModeAndOps t body) :=
  (Keeps.loader lockMode_aside).bind fun _ =>
    (Keeps.calm lockOps_calm).bind fun _ => hbody.bind fun _ =>
      (Keeps.calm unlockOps_calm).bind fun _ =>
        (Keeps.loader unlockMode_aside).bind fun _ => .ret _

theorem loaderBootReady_keeps (ready : Bool) :
    Keeps .v2 splash t (loaderBootReady t ready) := by
  refine .ite ?_ ?_
  · refine .bind (.calm (readPanel_calm _)) fun _ => .ite ?_ (.ret _)
    refine .bind (.calm (setPanel_calm fun _ => rfl)) fun _ => ?_
    refine (fbBlankLocked_keeps _).bind fun result => ?_
    split
    · exact .ret _
    · refine .bind (.calm (setPanel_calm fun _ => rfl)) fun _ => ?_
      exact (Keeps.calm (backlightSetPower_calm _)).bind fun _ => .ret _
  · exact .bind (.calm (setPanel_calm fun _ => rfl)) fun _ =>
      fbBlankLocked_keeps _

theorem loaderFaultWork_keeps : Keeps .v2 splash t (loaderFaultWork t) := by
  have hunlock : Keeps .v2 splash t (unlockOps.bind fun _ => unlockMode) :=
    (Keeps.calm unlockOps_calm).bind fun _ => .loader unlockMode_aside
  refine (Keeps.loader lockMode_aside).bind fun _ => ?_
  refine .bind (.calm (readPanel_calm _)) fun faults => ?_
  refine (Keeps.calm lockOps_calm).bind fun _ => ?_
  refine .bind (.calm (readPanel_calm _)) fun _ => .ite ?_ hunlock
  refine .bind (.calm (setPanel_calm fun _ => rfl)) fun _ => ?_
  exact (Keeps.calm (backlightSetPower_calm _)).bind fun _ => hunlock

theorem finishProbe_keeps : Keeps .v2 splash t finishProbe :=
  .loader (.store fun _ => ⟨rfl, id, fun hstate => nomatch hstate⟩)

end Loader

end Micronux
