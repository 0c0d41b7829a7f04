/-
Commits of the render buffer, the choice of the first front buffer, and the
DMA interrupt: the places where the buffers change roles.
-/
import Micronux.ScanoutRender

namespace Micronux

open Concurrent Replay

variable {abi : Abi} {splash : Frame} {t : ThreadId}

/-- A commit in progress: the drawing is complete and no longer marked. -/
structure Committing (abi : Abi) (splash : Frame) (display : Display) :
    Prop where
  mapped : display.scanout.screenBase = display.scanout.renderIndex
  idle : display.scanout.copying = none
  stroke : display.scanout.stroke = id
  started : Started display
  marked : display.scanout.renderDirty = false
  clean : display.Clean abi → display.scanout.renderNeedsSync = false ∧
    display.scanout.framebuffer display.scanout.renderIndex =
      display.scanout.logical splash

theorem robust_committing : Robust (Committing abi splash) := by
  intro before after hdrift hcommitting
  have hspared := hdrift.spared
  refine ⟨?_, hspared.copying.trans hcommitting.idle,
    hspared.stroke.trans hcommitting.stroke,
    robust_started hdrift hcommitting.started,
    hspared.dirty.trans hcommitting.marked, ?_⟩
  · rw [hspared.base, hspared.render]
    exact hcommitting.mapped
  · intro hclean
    obtain ⟨hsync, hframe⟩ := hcommitting.clean (hdrift.clean hclean)
    refine ⟨hspared.sync.trans hsync, ?_⟩
    rw [hspared.frames, hspared.render, hspared.logical]
    exact hframe

/-- The roles are settled but `info->screen_base` is not. -/
structure Remapping (abi : Abi) (splash : Frame) (display : Display) :
    Prop where
  idle : display.scanout.copying = none
  stroke : display.scanout.stroke = id
  started : Started display
  synced : display.Clean abi → display.scanout.Synced splash

theorem robust_remapping : Robust (Remapping abi splash) :=
  fun _ _ hdrift hremapping => ⟨hdrift.spared.copying.trans hremapping.idle,
    hdrift.spared.stroke.trans hremapping.stroke,
    robust_started hdrift hremapping.started,
    fun hclean => (hremapping.synced (hdrift.clean hclean)).spared
      hdrift.spared⟩

theorem setRenderMappingLocked_triple :
    (scanoutProtocol abi splash).Triple t (Holding t (Remapping abi splash))
      setRenderMappingLocked fun _ => Holding t (Settled abi splash) := by
  have hrobust : ∀ index, Robust fun display =>
      Remapping abi splash display ∧ display.scanout.renderIndex = index :=
    fun index => robust_remapping.and (robust_field Scanout.renderIndex index
      fun _ _ hspared => hspared.render)
  apply (load_triple (fun index display => Remapping abi splash display ∧
    display.scanout.renderIndex = index) robust_remapping hrobust
    fun _ _ hremapping => ⟨hremapping, rfl⟩).bind
  intro index
  apply setScanout_triple (hrobust index) robust_settled
  · exact fun _ => rfl
  · exact fun _ => rfl
  · rintro display hinv ⟨hlock, ⟨hidle, hstroke, hstarted, hsynced⟩, hindex⟩
    constructor
    · refine hinv.sameFrames ?_ hlock hinv.copy hstarted
      exact ⟨rfl, rfl, rfl, rfl, rfl, rfl, rfl, rfl, rfl⟩
    · refine ⟨hindex.symm, hidle, hstroke, fun hclean => ?_⟩
      obtain ⟨hcurrent, hstale, hcommitted⟩ :=
        hsynced ⟨hclean.loader, hclean.faults, hclean.raced⟩
      exact ⟨hcurrent, hstale, hcommitted⟩

variable {display : Display}

/-- The state of a commit whose section did nothing because of a fault. -/
theorem Committing.faulted (hcommitting : Committing abi splash display)
    (hfaults : display.panel.faultBits ≠ 0) : Settled abi splash display :=
  ⟨hcommitting.mapped, hcommitting.idle, hcommitting.stroke,
    fun hclean => absurd hclean.faults hfaults⟩

/-- A commit while scanout is stopped: the render buffer is also queued. -/
theorem ScanoutInv.queueStopped (hinv : ScanoutInv abi splash display)
    (hlock : display.scanout.renderLock = some t)
    (hcommitting : Committing abi splash display)
    (hactive : display.scanout.scanoutActive = false) (next : Nat)
    (commits : Nat → Nat) :
    ScanoutInv abi splash { display with scanout := { display.scanout with
      nextCommitSequence := next
      bufferCommitSequence := commits
      queuedIndex := some display.scanout.renderIndex } } := by
  have hdistinct := hinv.distinct
  apply hinv.replace
  · exact hlock
  · refine ⟨hdistinct.front_lt, hdistinct.render_lt, ?_, hdistinct.render_ne,
      ?_⟩
    · intro index hindex
      rw [← Option.some.inj hindex]
      exact hdistinct.render_lt
    · exact fun hsame => hdistinct.render_ne (Option.some.inj hsame)
  · exact fun hlive => absurd (hactive.symm.trans hlive) Bool.false_ne_true
  · exact fun _ _ hplan => absurd (hcommitting.idle.symm.trans hplan)
      (Option.some_ne_none _).symm
  · exact hinv.events
  · exact fun hstate => absurd hstate hcommitting.started
  · intro hclean
    obtain ⟨prefixes, front, hpresents⟩ :=
      hinv.presents ⟨hclean.loader, hclean.faults, hclean.raced⟩
    refine ⟨prefixes, front, hpresents.follows, hpresents.newest,
      hpresents.executed, hpresents.front_eq, ?_⟩
    exact fun index hindex hne => absurd (Option.some.inj hindex).symm hne

/-- A commit while scanout runs: the render buffer is queued and drawing goes
on in the one that is left. -/
theorem ScanoutInv.queueLive (hinv : ScanoutInv abi splash display)
    (hlock : display.scanout.renderLock = some t)
    (hcommitting : Committing abi splash display) (next : Nat)
    (commits : Nat → Nat) :
    ScanoutInv abi splash { display with scanout := { display.scanout with
      nextCommitSequence := next
      bufferCommitSequence := commits
      queuedIndex := some display.scanout.renderIndex
      renderIndex := freeBufferLocked display.scanout.renderIndex
        display.scanout.frontIndex (some display.scanout.renderIndex)
      renderNeedsSync := true } } := by
  have hdistinct := hinv.distinct
  obtain ⟨hfree_lt, hfree_ne, hfree_queued⟩ :=
    freeBufferLocked_spec display.scanout.renderIndex
      display.scanout.frontIndex (some display.scanout.renderIndex)
  apply hinv.replace
  · exact hlock
  · refine ⟨hdistinct.front_lt, hfree_lt, ?_, hfree_ne, ?_⟩
    · intro index hindex
      rw [← Option.some.inj hindex]
      exact hdistinct.render_lt
    · exact fun hsame => hdistinct.render_ne (Option.some.inj hsame)
  · exact fun _ => hfree_queued
  · exact fun _ _ hplan => absurd (hcommitting.idle.symm.trans hplan)
      (Option.some_ne_none _).symm
  · exact hinv.events
  · exact fun hstate => absurd hstate hcommitting.started
  · intro hclean
    have hbefore : display.Clean abi :=
      ⟨hclean.loader, hclean.faults, hclean.raced⟩
    obtain ⟨prefixes, front, hpresents⟩ := hinv.presents hbefore
    refine ⟨prefixes, front, hpresents.follows, hpresents.newest,
      hpresents.executed, hpresents.front_eq, ?_⟩
    intro index hindex _
    rw [← Option.some.inj hindex]
    exact ⟨display.scanout.drawn.length, hpresents.executed, le_rfl,
      (hcommitting.clean hbefore).2⟩

theorem Committing.queueStopped (hcommitting : Committing abi splash display)
    (next : Nat) (commits : Nat → Nat) :
    Settled abi splash { display with scanout := { display.scanout with
      nextCommitSequence := next
      bufferCommitSequence := commits
      queuedIndex := some display.scanout.renderIndex } } := by
  refine ⟨hcommitting.mapped, hcommitting.idle, hcommitting.stroke, ?_⟩
  intro hclean
  obtain ⟨hsync, hframe⟩ :=
    hcommitting.clean ⟨hclean.loader, hclean.faults, hclean.raced⟩
  exact ⟨fun _ => hframe,
    fun hstale => absurd (hsync.symm.trans hstale) Bool.false_ne_true,
    fun _ => hframe⟩

theorem Committing.queueLive (hcommitting : Committing abi splash display)
    (next : Nat) (commits : Nat → Nat) :
    Remapping abi splash { display with scanout := { display.scanout with
      nextCommitSequence := next
      bufferCommitSequence := commits
      queuedIndex := some display.scanout.renderIndex
      renderIndex := freeBufferLocked display.scanout.renderIndex
        display.scanout.frontIndex (some display.scanout.renderIndex)
      renderNeedsSync := true } } := by
  refine ⟨hcommitting.idle, hcommitting.stroke, hcommitting.started, ?_⟩
  intro hclean
  obtain ⟨-, hframe⟩ :=
    hcommitting.clean ⟨hclean.loader, hclean.faults, hclean.raced⟩
  refine ⟨fun hsync => absurd hsync.symm Bool.false_ne_true, fun _ => ?_,
    fun _ => hframe⟩
  exact ⟨hcommitting.marked, (freeBufferLocked_spec _ _ _).2.2⟩

theorem Settled.remapping (hsettled : Settled abi splash display)
    (hstarted : Started display) :
    Remapping abi splash display :=
  ⟨hsettled.idle, hsettled.stroke, hstarted, hsettled.synced⟩

theorem queueSection_triple (rendered : Nat) :
    (scanoutProtocol abi splash).Triple t
      (Holding t fun display => Committing abi splash display ∧
        display.scanout.renderIndex = rendered)
      (Prog.critical (queueSection rendered) : DisplayProg _) fun changed =>
        Holding t fun display => Remapping abi splash display ∧
          (changed = false → Settled abi splash display) := by
  apply Protocol.Triple.critical
  · exact stable_holding (robust_committing.and (robust_field
      Scanout.renderIndex rendered fun _ _ hspared => hspared.render))
  · exact fun changed => stable_holding (robust_remapping.and
      fun _ _ hdrift hsettled hsame => (hsettled hsame).drift hdrift)
  · rintro display hinv ⟨hlock, hcommitting, rfl⟩
    have hsticky : Sticky display display := (Calm.refl display).aside.drift.toSticky
    have hstarted := hcommitting.started
    by_cases hfaults : (display.panel.faultBits != 0) = true
    · have hsettled := hcommitting.faulted (bne_iff_ne.mp hfaults)
      simp only [queueSection, if_pos hfaults]
      exact ⟨hinv, .of_holding hlock hsticky (⟨·, rfl⟩), hlock,
        hsettled.remapping hstarted, fun _ => hsettled⟩
    · by_cases hactive : display.scanout.scanoutActive = true
      · simp only [queueSection, if_neg hfaults, if_pos hactive]
        exact ⟨hinv.queueLive hlock hcommitting _ _,
          .of_holding hlock ⟨id, id, id⟩ (⟨·, rfl⟩), hlock, hcommitting.queueLive _ _,
          fun hsame => absurd hsame.symm Bool.false_ne_true⟩
      · simp only [queueSection, if_neg hfaults, if_neg hactive]
        have hstopped := Bool.not_eq_true _ ▸ hactive
        exact ⟨hinv.queueStopped hlock hcommitting hstopped _ _,
          .of_holding hlock ⟨id, id, id⟩ (⟨·, rfl⟩), hlock,
          (hcommitting.queueStopped _ _).remapping hstarted,
          fun _ => hcommitting.queueStopped _ _⟩

theorem queueRenderLocked_triple :
    (scanoutProtocol abi splash).Triple t (Holding t (Committing abi splash))
      queueRenderLocked fun _ => Holding t (Settled abi splash) := by
  apply (load_triple (fun rendered display =>
      Committing abi splash display ∧ display.scanout.renderIndex = rendered)
    robust_committing
    (fun rendered => robust_committing.and (robust_field Scanout.renderIndex
      rendered fun _ _ hspared => hspared.render))
    fun _ _ hcommitting => ⟨hcommitting, rfl⟩).bind
  intro rendered
  apply (queueSection_triple rendered).bind
  intro changed
  cases changed with
  | true =>
    exact setRenderMappingLocked_triple.mono
      (fun _ _ hholding => ⟨hholding.1, hholding.2.1⟩)
      fun _ _ hholding => hholding
  | false =>
    exact .ret (stable_holding robust_settled) fun _ _ hholding =>
      ⟨hholding.1, hholding.2.2 rfl⟩

/-- A pending drawing of a settled display can be committed. -/
theorem Settled.committing (hinv : ScanoutInv abi splash display)
    (hsettled : Settled abi splash display)
    (hdirty : display.scanout.renderDirty = true) :
    Committing abi splash { display with
      scanout := { display.scanout with renderDirty := false } } := by
  have hstarted : Started display := by
    intro hstate
    have hstart := (hinv.starting hstate).2
    exact Bool.false_ne_true (hstart.clean.symm.trans hdirty)
  refine ⟨hsettled.mapped, hsettled.idle, hsettled.stroke, hstarted, rfl, ?_⟩
  intro hclean
  have hsynced := hsettled.synced ⟨hclean.loader, hclean.faults, hclean.raced⟩
  have hsync : display.scanout.renderNeedsSync = false := by
    by_contra hstale
    have hclear := (hsynced.stale (Bool.not_eq_false _ ▸ hstale)).1
    exact Bool.false_ne_true (hclear.symm.trans hdirty)
  exact ⟨hsync, hsynced.current hsync⟩

theorem commitRenderLocked_triple :
    (scanoutProtocol abi splash).Triple t (Holding t (Settled abi splash))
      commitRenderLocked fun _ => Holding t (Settled abi splash) := by
  have hrobust : ∀ dirty, Robust fun display =>
      Settled abi splash display ∧ display.scanout.renderDirty = dirty :=
    fun dirty => robust_settled.and (robust_field Scanout.renderDirty dirty
      fun _ _ hspared => hspared.dirty)
  apply (load_triple (fun dirty display => Settled abi splash display ∧
    display.scanout.renderDirty = dirty) robust_settled hrobust
    fun _ _ hsettled => ⟨hsettled, rfl⟩).bind
  intro dirty
  cases dirty with
  | false =>
    exact .ret (stable_holding robust_settled) fun _ _ hholding =>
      ⟨hholding.1, hholding.2.1⟩
  | true =>
    refine .bind (setScanout_triple (hrobust true) robust_committing
      (fun _ => rfl) (fun _ => rfl) ?_) fun _ => queueRenderLocked_triple
    rintro display hinv ⟨hlock, hsettled, hdirty⟩
    have hcommitting := hsettled.committing hinv hdirty
    refine ⟨hinv.sameFrames ?_ hlock hinv.copy hcommitting.started, hcommitting⟩
    exact ⟨rfl, rfl, rfl, rfl, rfl, rfl, rfl, rfl, rfl⟩

theorem cancelRenderWork_calm : cancelRenderWork.Within Calm :=
  .bind (.store fun _ => ⟨rfl, id, id, (⟨·, rfl⟩)⟩) fun _ =>
    .await fun _ _ => ⟨rfl, id, id, (⟨·, rfl⟩)⟩

theorem renderWork_triple :
    (scanoutProtocol abi splash).Triple t (fun _ => True) (renderWork t)
      fun _ _ => True := by
  refine .bind (calm_triple_free (.await fun _ _ => ⟨rfl, id, id, (⟨·, rfl⟩)⟩)) fun _ => ?_
  refine lockRender_triple.bind fun _ => ?_
  refine commitRenderLocked_triple.bind fun _ => ?_
  refine unlockRender_triple.bind fun _ => ?_
  exact calm_triple_free (.store fun _ => ⟨rfl, id, id, (⟨·, rfl⟩)⟩)

theorem flushRender_triple :
    (scanoutProtocol abi splash).Triple t (fun _ => True) (flushRender t)
      fun _ _ => True := by
  refine .bind (calm_triple_free cancelRenderWork_calm) fun _ => ?_
  refine lockRender_triple.bind fun _ => ?_
  exact commitRenderLocked_triple.bind fun _ => unlockRender_triple

variable {scanout : Scanout}

theorem Scanout.Distinct.source_lt (hdistinct : scanout.Distinct) :
    scanout.source < bufferCount := by
  cases hqueued : scanout.queuedIndex with
  | none =>
    rw [Scanout.source, hqueued]
    exact hdistinct.front_lt
  | some index =>
    rw [Scanout.source, hqueued]
    exact hdistinct.queued_lt index hqueued

def Scanout.initialRender (scanout : Scanout) : Nat :=
  if scanout.renderIndex = scanout.source then
    freeBufferLocked scanout.renderIndex scanout.source none
  else scanout.renderIndex

theorem Scanout.Distinct.initialRender (hdistinct : scanout.Distinct) :
    scanout.initialRender < bufferCount ∧
      scanout.initialRender ≠ scanout.source := by
  unfold Scanout.initialRender
  split
  · obtain ⟨hfree_lt, hfree_ne, -⟩ :=
      freeBufferLocked_spec scanout.renderIndex scanout.source none
    exact ⟨hfree_lt, hfree_ne⟩
  · rename_i hne
    exact ⟨hdistinct.render_lt, hne⟩

/-- The newest committed buffer becomes the front buffer.  With no drawing
pending it is the logical framebuffer. -/
theorem ScanoutInv.initialFront (hinv : ScanoutInv .v2 splash display)
    (hlock : display.scanout.renderLock = some t)
    (hsettled : Settled .v2 splash display) :
    ScanoutInv .v2 splash (initialFrontSection display).1 := by
  have hdistinct := hinv.distinct
  apply hinv.replace
  · exact hlock
  · obtain ⟨hrender_lt, hrender_ne⟩ := hdistinct.initialRender
    exact ⟨hdistinct.source_lt, hrender_lt,
      fun _ hindex => absurd hindex.symm (Option.some_ne_none _), hrender_ne,
      fun hsame => absurd hsame.symm (Option.some_ne_none _)⟩
  · exact fun _ hsame => absurd hsame.symm (Option.some_ne_none _)
  · exact fun _ _ hplan => absurd (hsettled.idle.symm.trans hplan)
      (Option.some_ne_none _).symm
  · exact hinv.events
  · exact fun hstate => absurd hstate (starts_of_loader hinv)
  · intro hclean
    obtain ⟨hraced, hdirty⟩ := Bool.or_eq_false_iff.mp hclean.raced
    have hbefore : display.Clean .v2 := ⟨rfl, hclean.faults, hraced⟩
    obtain ⟨prefixes, front, hpresents⟩ := hinv.presents hbefore
    have hframe := (hsettled.synced hbefore).committed hdirty
    have hbound : ∀ count ∈ prefixes, count ≤ display.scanout.drawn.length :=
      fun count hcount => (hpresents.newest count hcount).trans
        hpresents.executed
    refine ⟨display.scanout.drawn.length :: prefixes,
      display.scanout.drawn.length,
      hpresents.follows.push hbound le_rfl hframe, ?_, le_rfl, hframe, ?_⟩
    · intro count hcount
      rcases List.mem_cons.mp hcount with rfl | hold
      · exact le_rfl
      · exact hbound count hold
    · exact fun _ hindex => absurd hindex.symm (Option.some_ne_none _)

theorem initialFront_remapping (hinv : ScanoutInv .v2 splash display)
    (hsettled : Settled .v2 splash display) :
    Remapping .v2 splash (initialFrontSection display).1 := by
  have hstarted : Started display := starts_of_loader hinv
  refine ⟨hsettled.idle, hsettled.stroke, hstarted, ?_⟩
  intro hclean
  obtain ⟨hraced, hdirty⟩ := Bool.or_eq_false_iff.mp hclean.raced
  have hframe :=
    (hsettled.synced ⟨rfl, hclean.faults, hraced⟩).committed hdirty
  exact ⟨fun hsync => absurd hsync.symm Bool.false_ne_true,
    fun _ => ⟨hdirty, fun hsame => absurd hsame.symm (Option.some_ne_none _)⟩,
    fun _ => hframe⟩

theorem initialFrontSection_triple :
    (scanoutProtocol .v2 splash).Triple t (Holding t (Settled .v2 splash))
      (Prog.critical initialFrontSection : DisplayProg _)
      fun _ => Holding t (Remapping .v2 splash) := by
  apply Protocol.Triple.critical (stable_holding robust_settled)
  · exact fun _ => stable_holding robust_remapping
  · rintro display hinv ⟨hlock, hsettled⟩
    refine ⟨hinv.initialFront hlock hsettled, .of_holding hlock ⟨id, ?_, id⟩ (⟨·, rfl⟩),
      hlock, initialFront_remapping hinv hsettled⟩
    exact fun hraced => (Bool.or_eq_false_iff.mp hraced).1

theorem selectInitialFront_triple :
    (scanoutProtocol .v2 splash).Triple t (fun _ => True) (selectInitialFront t)
      fun _ _ => True := by
  refine lockRender_triple.bind fun _ => ?_
  refine initialFrontSection_triple.bind fun front => ?_
  refine setRenderMappingLocked_triple.bind fun _ => ?_
  refine unlockRender_triple.bind fun _ => ?_
  exact .ret stable_true fun _ _ _ => trivial

/-- What the end of a transfer may do to the buffers: nothing, or the queued
buffer becomes the front buffer. -/
structure Scanout.Turned (before after : Scanout) : Prop where
  spared : before.Spared after
  lock : after.renderLock = before.renderLock
  active : after.scanoutActive = before.scanoutActive
  raced : after.raced = before.raced
  turn : (after.frontIndex = before.frontIndex ∧
      after.queuedIndex = before.queuedIndex ∧ after.shown = before.shown) ∨
    ∃ index, before.queuedIndex = some index ∧ after.frontIndex = index ∧
      after.queuedIndex = none ∧ after.shown =
        ⟨before.framebuffer index, before.drawn.length⟩ :: before.shown

theorem Scanout.Turned.logRearm {before after : Scanout}
    (hturned : before.Turned after) (succeeded : Bool) :
    before.Turned (before.logRearm after succeeded) := by
  obtain ⟨⟨hrender, hsync, hdirty, hbase, hframes, hcopying, hdrawn, hstroke,
    hroles⟩, hlock, hactive, hraced, hturn⟩ := hturned
  exact ⟨⟨hrender, hsync, hdirty, hbase, hframes, hcopying, hdrawn, hstroke,
    hroles⟩, hlock, hactive, hraced, hturn⟩

theorem Scanout.turned_refl (scanout : Scanout) : scanout.Turned scanout :=
  ⟨.refl scanout, rfl, rfl, rfl, .inl ⟨rfl, rfl, rfl⟩⟩

theorem Scanout.completed_turned (scanout : Scanout) (faulted : Bool) :
    scanout.Turned (scanout.completed faulted) := by
  unfold Scanout.completed
  dsimp only
  split
  · rename_i index hqueued
    split
    · exact ⟨⟨rfl, rfl, rfl, rfl, rfl, rfl, rfl, rfl, .inl ⟨rfl, rfl⟩⟩, rfl, rfl,
        rfl, .inl ⟨rfl, rfl, rfl⟩⟩
    · exact ⟨⟨rfl, rfl, rfl, rfl, rfl, rfl, rfl, rfl,
        .inr ⟨index, hqueued, rfl, rfl⟩⟩, rfl, rfl, rfl,
        .inr ⟨index, hqueued, rfl, rfl, rfl⟩⟩
  · exact ⟨⟨rfl, rfl, rfl, rfl, rfl, rfl, rfl, rfl, .inl ⟨rfl, rfl⟩⟩, rfl, rfl,
      rfl, .inl ⟨rfl, rfl, rfl⟩⟩

theorem Scanout.presented_turned (scanout : Scanout) (faulted : Bool) :
    scanout.Turned (scanout.presented faulted) := by
  obtain ⟨⟨hrender, hsync, hdirty, hbase, hframes, hcopying, hdrawn, hstroke,
    hroles⟩, hlock, hactive, hraced, hturn⟩ := scanout.completed_turned faulted
  exact ⟨⟨hrender, hsync, hdirty, hbase, hframes, hcopying, hdrawn, hstroke,
    hroles⟩, hlock, hactive, hraced, hturn⟩

variable {before after : Display}

/-- The roles stay distinct: while scanout is active the queued buffer is not
the render buffer. -/
theorem Scanout.Distinct.turn {before after : Scanout}
    (hdistinct : before.Distinct)
    (hlive : before.queuedIndex ≠ some before.renderIndex)
    (hturned : before.Turned after) : after.Distinct := by
  have hrender := hturned.spared.render
  rcases hturned.turn with ⟨hfront, hqueued, -⟩ |
    ⟨index, hindex, hfront, hqueued, -⟩
  · obtain ⟨hfront_lt, hrender_lt, hqueued_lt, hrender_ne, hqueued_ne⟩ :=
      hdistinct
    constructor <;> simpa only [hfront, hrender, hqueued]
  · have hnone : after.queuedIndex ≠ some after.frontIndex := by
      rw [hqueued]
      exact (Option.some_ne_none _).symm
    refine ⟨?_, ?_, ?_, ?_, hnone⟩
    · rw [hfront]
      exact hdistinct.queued_lt index hindex
    · rw [hrender]
      exact hdistinct.render_lt
    · intro other hother
      rw [hqueued] at hother
      cases hother
    · rw [hrender, hfront]
      rintro rfl
      exact hlive hindex

/-- What the interrupt shows is no older than what was shown before. -/
theorem Scanout.Presents.turn {before after : Scanout} {prefixes : List Nat}
    {front : Nat} (hpresents : before.Presents splash prefixes front)
    (hlive : before.queuedIndex ≠ some before.renderIndex)
    (hturned : before.Turned after) :
    ∃ prefixes front, after.Presents splash prefixes front := by
  obtain ⟨hfollows, hnewest, hexecuted, hfront_eq, hnext⟩ := hpresents
  have hrender := hturned.spared.render
  have hframes := hturned.spared.frames
  have hdrawn := hturned.spared.drawn
  rcases hturned.turn with ⟨hfront, hqueued, hshown⟩ |
    ⟨index, hindex, hfront, hqueued, hshown⟩
  · refine ⟨prefixes, front, ?_, hnewest, ?_, ?_, ?_⟩ <;>
      simpa only [hfront, hrender, hqueued, hframes, hdrawn, hshown]
  · have hne : index ≠ before.renderIndex := by
      rintro rfl
      exact hlive hindex
    obtain ⟨count, hcount, hlength, hframe⟩ := hnext index hindex hne
    refine ⟨count :: prefixes, count, ?_, ?_, ?_, ?_, ?_⟩
    · rw [hdrawn, hshown]
      exact hfollows.push (fun other hother =>
        (hnewest other hother).trans hcount) hlength hframe
    · intro other hother
      rcases List.mem_cons.mp hother with rfl | hold
      · exact le_rfl
      · exact (hnewest other hold).trans hcount
    · rw [hdrawn]
      exact hlength
    · rw [hframes, hfront, hdrawn]
      exact hframe
    · intro other hother
      rw [hqueued] at hother
      cases hother

theorem Scanout.Starting.turn {before after : Scanout}
    (hstart : before.Starting) (hturned : before.Turned after) :
    after.Starting := by
  have hspared := hturned.spared
  rcases hturned.turn with ⟨hfront, hqueued, -⟩ | ⟨index, hindex, -⟩
  · exact ⟨hfront.trans hstart.front, hspared.render.trans hstart.render,
      hqueued.trans hstart.queued, hspared.base.trans hstart.base,
      hspared.sync.trans hstart.fresh, hspared.dirty.trans hstart.clean⟩
  · exact absurd (hstart.queued.symm.trans hindex)
      (Option.some_ne_none index).symm

/-- The end of a transfer while scanout is active. -/
theorem ScanoutInv.turn (hinv : ScanoutInv abi splash before)
    (hactive : before.scanout.scanoutActive = true)
    (hturned : before.scanout.Turned after.scanout)
    (hfaults : after.panel.faultBits = 0 → before.panel.faultBits = 0)
    (hstarted : after.panel.displayState = .scanoutInitializing →
      before.panel.displayState = .scanoutInitializing)
    (hevents : ∀ event ∈ after.scanout.events, event.KeepsRoles) :
    ScanoutInv abi splash after := by
  have hspared := hturned.spared
  have hlive := hinv.live hactive
  have hdrift : Drift before after :=
    ⟨⟨hfaults, fun hraced => hturned.raced.symm.trans hraced, hstarted⟩, hspared⟩
  refine ⟨hinv.distinct.turn hlive hturned, fun _ => hspared.queued_ne hlive,
    ?_, hevents, ?_, ?_, ?_⟩
  · intro destination source hplan
    rw [hspared.render, hspared.source]
    exact hinv.copy destination source (hspared.copying.symm.trans hplan)
  · intro hstate
    obtain ⟨habi, hstart⟩ := hinv.starting (hstarted hstate)
    exact ⟨habi, hstart.turn hturned⟩
  · intro hclean
    obtain ⟨prefixes, front, hpresents⟩ := hinv.presents (hdrift.clean hclean)
    exact hpresents.turn hlive hturned
  · intro hfree
    exact (hinv.free (hturned.lock.symm.trans hfree)).drift hdrift

end Micronux
