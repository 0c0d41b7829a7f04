/-
Drawing and committing under `render_lock`: what each action of the lock's
holder does to the buffers, and what a whole locked section leaves.
-/
import Micronux.ScanoutProtocol

namespace Micronux

open Concurrent Replay

variable {abi : Abi} {splash : Frame} {t : ThreadId}

/-- Two buffers cannot take all three. -/
theorem freeBufferLocked_spec (render front : Nat) (queued : Option Nat) :
    freeBufferLocked render front queued < bufferCount ∧
      freeBufferLocked render front queued ≠ front ∧
      queued ≠ some (freeBufferLocked render front queued) := by
  have hfound : ∃ index ∈ List.range bufferCount,
      (index != front && some index != queued) = true := by
    by_contra hnone
    push Not at hnone
    have hzero := hnone 0 (by decide)
    have hone := hnone 1 (by decide)
    have htwo := hnone 2 (by decide)
    cases queued with
    | none => simp at hzero hone; omega
    | some index => simp at hzero hone htwo; omega
  obtain ⟨index, hindex⟩ := Option.isSome_iff_exists.mp
    (List.find?_isSome.mpr hfound)
  have hmem := List.mem_of_find?_eq_some hindex
  have hfree := List.find?_some hindex
  rw [freeBufferLocked, hindex, Option.getD_some]
  simp only [Bool.and_eq_true, bne_iff_ne, ne_eq] at hfree
  exact ⟨List.mem_range.mp hmem, hfree.1, fun hqueued => hfree.2 hqueued.symm⟩

variable {source base destination : Nat} {done : List (Fin framebufferSize)}
  {display : Display} {α : Type} {pre : Display → Prop}

/-- What the holder of the lock has to show about a changed scanout. -/
theorem ScanoutInv.replace (hinv : ScanoutInv abi splash display)
    (scanout : Scanout) (hlock : scanout.renderLock = some t)
    (hdistinct : scanout.Distinct)
    (hlive : scanout.scanoutActive = true →
      scanout.queuedIndex ≠ some scanout.renderIndex)
    (hcopy : ∀ destination source,
      scanout.copying = some (destination, source) →
      destination = scanout.renderIndex ∧ source = scanout.source)
    (hevents : ∀ event ∈ scanout.events, event.KeepsRoles)
    (hstarting : display.panel.displayState = .scanoutInitializing →
      scanout.Starting)
    (hpresents : ({ display with scanout := scanout } : Display).Clean abi →
      ∃ prefixes front, scanout.Presents splash prefixes front) :
    ScanoutInv abi splash { display with scanout := scanout } where
  distinct := hdistinct
  live := hlive
  copy := hcopy
  events := hevents
  starting := fun hstate => ⟨(hinv.starting hstate).1, hstarting hstate⟩
  presents := hpresents
  free := fun hnone => absurd (hlock.symm.trans hnone) (Option.some_ne_none t)

/-- Only flags of the holder change: the buffers, their roles and the history
stay. -/
structure Scanout.SameFrames (before after : Scanout) : Prop where
  front : after.frontIndex = before.frontIndex
  render : after.renderIndex = before.renderIndex
  queued : after.queuedIndex = before.queuedIndex
  active : after.scanoutActive = before.scanoutActive
  frames : after.framebuffer = before.framebuffer
  drawn : after.drawn = before.drawn
  shown : after.shown = before.shown
  raced : after.raced = before.raced
  events : after.events = before.events

variable {scanout : Scanout} {prog : DisplayProg α}

theorem ScanoutInv.sameFrames (hinv : ScanoutInv abi splash display)
    (hsame : display.scanout.SameFrames scanout)
    (hlock : scanout.renderLock = some t)
    (hcopy : ∀ destination source,
      scanout.copying = some (destination, source) →
      destination = display.scanout.renderIndex ∧
        source = display.scanout.source) (hstarted : Started display) :
    ScanoutInv abi splash { display with scanout := scanout } := by
  obtain ⟨hfront, hrender, hqueued, hactive, hframes, hdrawn, hshown, hraced,
    hevents⟩ := hsame
  apply hinv.replace scanout hlock
  · obtain ⟨hfront_lt, hrender_lt, hqueued_lt, hrender_ne, hqueued_ne⟩ :=
      hinv.distinct
    constructor <;> simpa only [hfront, hrender, hqueued]
  · rw [hactive, hqueued, hrender]
    exact hinv.live
  · intro destination source hplan
    rw [Scanout.source, hrender, hqueued, hfront]
    exact hcopy destination source hplan
  · rw [hevents]
    exact hinv.events
  · exact fun hstate => absurd hstate hstarted
  · intro hclean
    obtain ⟨prefixes, front, hfollows, hnewest, hexecuted, hfront_eq, hnext⟩ :=
      hinv.presents ⟨hclean.loader, hclean.faults, hraced ▸ hclean.raced⟩
    refine ⟨prefixes, front, ?_, hnewest, ?_, ?_, ?_⟩ <;>
      simpa only [hfront, hrender, hqueued, hframes, hdrawn, hshown]

theorem setScanout_triple {post : Display → Prop} (hpre : Robust pre)
    (hpost : Robust post) {change : Scanout → Scanout}
    (hlock : ∀ scanout, (change scanout).renderLock = scanout.renderLock)
    (hraced : ∀ scanout, (change scanout).raced = scanout.raced)
    (hchange : ∀ display, ScanoutInv abi splash display →
      Holding t pre display →
      ScanoutInv abi splash { display with scanout := change display.scanout } ∧
        post { display with scanout := change display.scanout }) :
    (scanoutProtocol abi splash).Triple t (Holding t pre) (setScanout change)
      fun _ => Holding t post := by
  apply Protocol.Triple.store (stable_holding hpre) (stable_holding hpost)
  intro display hinv hholding
  obtain ⟨hafter, hassertion⟩ := hchange display hinv hholding
  refine ⟨hafter, .of_holding hholding.1 ⟨id, ?_, id⟩ (⟨·, rfl⟩),
    (hlock display.scanout).trans hholding.1, hassertion⟩
  intro hclear
  rw [← hraced display.scanout]
  exact hclear

theorem calm_triple (hcalm : prog.Within Calm)
    (hstable : (scanoutProtocol abi splash).Stable t pre)
    (hkept : ∀ before after, Calm before after → pre before → pre after) :
    (scanoutProtocol abi splash).Triple t pre prog fun _ => pre :=
  .within hcalm hstable (fun _ _ hchange hinv => ScanoutInv.aside hinv hchange.aside)
    (fun _ _ hchange _ _ => hchange.guar) hkept

theorem calm_triple_holding {assertion : Display → Prop}
    (hcalm : prog.Within Calm) (hrobust : Robust assertion) :
    (scanoutProtocol abi splash).Triple t (Holding t assertion) prog
      fun _ => Holding t assertion := by
  apply calm_triple hcalm (stable_holding hrobust)
  intro before after hchange hholding
  exact ⟨by rw [hchange.scanout]; exact hholding.1,
    hrobust hchange.aside.drift hholding.2⟩

/-- The display with another owner of `render_lock`. -/
def Display.relock (display : Display) (owner : Option ThreadId) : Display :=
  { display with scanout := { display.scanout with renderLock := owner } }

theorem Settled.relock (hsettled : Settled abi splash display)
    (owner : Option ThreadId) :
    Settled abi splash (display.relock owner) :=
  ⟨hsettled.mapped, hsettled.idle, hsettled.stroke, fun hclean =>
    have hsynced := hsettled.synced ⟨hclean.loader, hclean.faults, hclean.raced⟩
    ⟨hsynced.current, hsynced.stale, hsynced.committed⟩⟩

theorem ScanoutInv.relock (hinv : ScanoutInv abi splash display)
    {owner : Option ThreadId}
    (hfree : owner = none → Settled abi splash display) :
    ScanoutInv abi splash (display.relock owner) := by
  obtain ⟨hdistinct, hlive, hcopy, hevents, hstarting, hpresents, -⟩ := hinv
  refine ⟨⟨hdistinct.front_lt, hdistinct.render_lt, hdistinct.queued_lt,
    hdistinct.render_ne, hdistinct.queued_ne⟩, hlive, hcopy, hevents, ?_, ?_,
    fun howner => (hfree howner).relock owner⟩
  · intro hstate
    obtain ⟨habi, hstart⟩ := hstarting hstate
    exact ⟨habi, hstart.front, hstart.render, hstart.queued, hstart.base,
      hstart.fresh, hstart.clean⟩
  · intro hclean
    obtain ⟨prefixes, front, hshown⟩ :=
      hpresents ⟨hclean.loader, hclean.faults, hclean.raced⟩
    exact ⟨prefixes, front, hshown.follows, hshown.newest, hshown.executed,
      hshown.front_eq, hshown.queued⟩

theorem lockRender_triple :
    (scanoutProtocol abi splash).Triple t (fun _ => True) (lockRender t)
      fun _ => Holding t (Settled abi splash) := by
  apply Protocol.Triple.await stable_true (stable_holding robust_settled)
  intro display hinv _ hready
  have hnone : display.scanout.renderLock = none :=
    Option.isNone_iff_eq_none.mp hready
  refine ⟨hinv.relock (fun howner => absurd howner (Option.some_ne_none t)),
    ⟨⟨id, id, id⟩, fun _ => .inr ⟨hnone, rfl⟩, fun _ =>
      ⟨rfl, rfl, rfl, rfl, rfl, rfl, rfl, rfl, .inl ⟨rfl, rfl⟩⟩,
      fun _ => .inl (⟨·, rfl⟩)⟩, rfl, ?_⟩
  exact (hinv.free hnone).relock (some t)

theorem unlockRender_triple :
    (scanoutProtocol abi splash).Triple t (Holding t (Settled abi splash))
      unlockRender fun _ _ => True := by
  apply Protocol.Triple.store (stable_holding robust_settled) stable_true
  intro display hinv hholding
  exact ⟨hinv.relock fun _ => hholding.2,
    .of_holding hholding.1 ⟨id, id, id⟩ (⟨·, rfl⟩), trivial⟩

def Scanout.paint (scanout : Scanout) (frame : Frame)
    (stroke : Frame → Frame) : Scanout :=
  { scanout with
    framebuffer := Function.update scanout.framebuffer scanout.renderIndex frame
    stroke := stroke
    events := .stored scanout.renderIndex scanout.roles :: scanout.events }

/-- The render buffer is neither shown nor next to be shown, so a store into
it spares everything that the hardware may read. -/
theorem ScanoutInv.paint (hinv : ScanoutInv abi splash display)
    (hlock : display.scanout.renderLock = some t) (frame : Frame)
    (stroke : Frame → Frame) :
    ScanoutInv abi splash
      { display with scanout := display.scanout.paint frame stroke } := by
  have hdistinct := hinv.distinct
  apply hinv.replace (display.scanout.paint frame stroke) hlock
  · exact ⟨hdistinct.front_lt, hdistinct.render_lt, hdistinct.queued_lt,
      hdistinct.render_ne, hdistinct.queued_ne⟩
  · exact hinv.live
  · exact hinv.copy
  · intro event hevent
    rcases List.mem_cons.mp hevent with rfl | hold
    · exact fun hactive => ⟨hdistinct.render_ne, hinv.live hactive⟩
    · exact hinv.events event hold
  · intro hstate
    have hstart := (hinv.starting hstate).2
    exact ⟨hstart.front, hstart.render, hstart.queued, hstart.base,
      hstart.fresh, hstart.clean⟩
  · intro hclean
    obtain ⟨prefixes, front, hshown⟩ :=
      hinv.presents ⟨hclean.loader, hclean.faults, hclean.raced⟩
    refine ⟨prefixes, front, hshown.follows, hshown.newest, hshown.executed,
      ?_, ?_⟩
    · exact (Function.update_of_ne hdistinct.render_ne.symm _ _).trans
        hshown.front_eq
    · intro index hqueued hindex
      obtain ⟨count, hfront, hcount, hframe⟩ :=
        hshown.queued index hqueued hindex
      exact ⟨count, hfront, hcount,
        (Function.update_of_ne hindex _ _).trans hframe⟩

/-- The render buffer is up to date and nothing is in progress. -/
structure Ready (abi : Abi) (splash : Frame) (display : Display) : Prop where
  settled : Settled abi splash display
  fresh : display.scanout.renderNeedsSync = false
  started : Started display

theorem robust_ready : Robust (Ready abi splash) :=
  fun _ _ hdrift hready => ⟨hready.settled.drift hdrift,
    hdrift.spared.sync.trans hready.fresh, robust_started hdrift hready.started⟩

/-- A copy in progress: the offsets in `done` are already there. -/
structure Copying (abi : Abi) (splash : Frame) (destination source : Nat)
    (done : List (Fin framebufferSize)) (display : Display) : Prop where
  mapped : display.scanout.screenBase = display.scanout.renderIndex
  plan : display.scanout.copying = some (destination, source)
  stroke : display.scanout.stroke = id
  started : Started display
  clean : display.Clean abi → display.scanout.renderDirty = false ∧
    display.scanout.queuedIndex ≠ some display.scanout.renderIndex ∧
    display.scanout.framebuffer display.scanout.source =
      display.scanout.logical splash
  copied : ∀ offset ∈ done, display.scanout.framebuffer destination offset =
    display.scanout.framebuffer source offset

theorem robust_copying :
    Robust (Copying abi splash destination source done) := by
  intro before after hdrift hcopying
  have hspared := hdrift.spared
  refine ⟨?_, hspared.copying.trans hcopying.plan,
    hspared.stroke.trans hcopying.stroke,
    robust_started hdrift hcopying.started, ?_, ?_⟩
  · rw [hspared.base, hspared.render]
    exact hcopying.mapped
  · intro hclean
    obtain ⟨hdirty, hqueued, hframe⟩ := hcopying.clean (hdrift.clean hclean)
    refine ⟨hspared.dirty.trans hdirty, hspared.queued_ne hqueued, ?_⟩
    rw [hspared.frames, hspared.source, hspared.logical]
    exact hframe
  · rw [hspared.frames]
    exact hcopying.copied

/-- What one byte of the copy leaves. -/
theorem Copying.step (hinv : ScanoutInv abi splash display)
    (hcopying : Copying abi splash destination source done display)
    (offset : Fin framebufferSize) :
    let frame := Function.update (display.scanout.framebuffer destination) offset
      (display.scanout.framebuffer source offset)
    Copying abi splash destination source (done ++ [offset]) { display with
      scanout := display.scanout.paint frame display.scanout.stroke } := by
  intro frame
  obtain ⟨hdestination, hsource⟩ := hinv.copy destination source hcopying.plan
  refine ⟨hcopying.mapped, hcopying.plan, hcopying.stroke, hcopying.started,
    ?_, ?_⟩
  · intro hclean
    obtain ⟨hdirty, hqueued, hframe⟩ :=
      hcopying.clean ⟨hclean.loader, hclean.faults, hclean.raced⟩
    refine ⟨hdirty, hqueued, ?_⟩
    have hne : display.scanout.source ≠ display.scanout.renderIndex := by
      cases hindex : display.scanout.queuedIndex with
      | none =>
        rw [Scanout.source, hindex]
        exact hinv.distinct.render_ne.symm
      | some index =>
        rw [hindex] at hqueued
        rw [Scanout.source, hindex]
        exact fun hsame => hqueued (congrArg some hsame)
    exact (Function.update_of_ne hne _ _).trans hframe
  · intro other hother
    by_cases hsame : source = destination
    · rw [hsame]
    · have hdone : frame other = display.scanout.framebuffer source other := by
        rcases List.mem_append.mp hother with hold | hnew
        · by_cases hoffset : other = offset
          · rw [hoffset]
            exact Function.update_self offset _ _
          · rw [← hcopying.copied other hold]
            exact Function.update_of_ne hoffset _ _
        · rw [List.mem_singleton.mp hnew]
          exact Function.update_self offset _ _
      simp only [Scanout.paint, ← hdestination, Function.update_self,
        Function.update_of_ne hsame]
      exact hdone

theorem copyByte_triple (offset : Fin framebufferSize) :
    (scanoutProtocol abi splash).Triple t
      (Holding t (Copying abi splash destination source done))
      (copyByte destination source offset) fun _ =>
        Holding t (Copying abi splash destination source (done ++ [offset])) := by
  apply setScanout_triple robust_copying robust_copying
  · exact fun _ => rfl
  · exact fun _ => rfl
  · intro display hinv hholding
    have hrender := (hinv.copy destination source hholding.2.plan).1
    subst hrender
    exact ⟨hinv.paint hholding.1 _ _, hholding.2.step hinv offset⟩

theorem copyOffsets_triple (offsets : List (Fin framebufferSize)) :
    (scanoutProtocol abi splash).Triple t
      (Holding t (Copying abi splash destination source []))
      (Prog.forEach (copyByte destination source) offsets) fun _ =>
        Holding t (Copying abi splash destination source offsets) :=
  Protocol.Triple.forEach
    (fun done => Holding t (Copying abi splash destination source done))
    (stable_holding robust_copying) fun _ offset _ _ => copyByte_triple offset

theorem copyFrame_triple : (scanoutProtocol abi splash).Triple t
      (Holding t (Copying abi splash destination source []))
      (copyFrame destination source) fun _ =>
        Holding t (Copying abi splash destination source
          (List.finRange framebufferSize)) := by
  rw [copyFrame]
  exact copyOffsets_triple _

/-- The copy is complete: the render buffer is the newest committed one. -/
theorem Copying.finish (hinv : ScanoutInv abi splash display)
    (hcopying : Copying abi splash destination source
      (List.finRange framebufferSize) display) :
    Ready abi splash { display with scanout := { display.scanout with
      renderNeedsSync := false, copying := none } } := by
  obtain ⟨hdestination, hsource⟩ := hinv.copy destination source hcopying.plan
  refine ⟨⟨hcopying.mapped, rfl, hcopying.stroke, ?_⟩, rfl, hcopying.started⟩
  intro hclean
  obtain ⟨-, -, hframe⟩ :=
    hcopying.clean ⟨hclean.loader, hclean.faults, hclean.raced⟩
  refine ⟨fun _ => ?_, fun hsync => absurd hsync Bool.false_ne_true,
    fun _ => hframe⟩
  have hcopied : display.scanout.framebuffer destination =
      display.scanout.framebuffer source :=
    funext fun offset => hcopying.copied offset (List.mem_finRange offset)
  rw [hdestination, hsource] at hcopied
  exact hcopied.trans hframe

theorem planCopy_triple : (scanoutProtocol abi splash).Triple t
      (Holding t fun display => Settled abi splash display ∧ Started display)
      (Prog.critical planCopy : DisplayProg _) fun plan => match plan with
        | none => Holding t (Ready abi splash)
        | some (destination, source) =>
          Holding t (Copying abi splash destination source []) := by
  apply Protocol.Triple.critical
    (stable_holding (robust_settled.and robust_started))
  · intro plan
    cases plan with
    | none => exact stable_holding robust_ready
    | some plan => exact stable_holding robust_copying
  · intro display hinv hholding
    obtain ⟨hlock, hsettled, hstarted⟩ := hholding
    cases hsync : display.scanout.renderNeedsSync with
    | false =>
      simp only [planCopy, hsync, Bool.false_eq_true, ↓reduceIte]
      exact ⟨hinv, .of_holding hlock ⟨id, id, id⟩ (⟨·, rfl⟩), hlock, hsettled, hsync,
        hstarted⟩
    | true =>
      simp only [planCopy, hsync, ↓reduceIte]
      refine ⟨?_, .of_holding hlock ⟨id, id, id⟩ (⟨·, rfl⟩), hlock, hsettled.mapped, rfl,
        hsettled.stroke, hstarted, ?_, fun _ hmem => absurd hmem List.not_mem_nil⟩
      · refine hinv.sameFrames ?_ hlock ?_ hstarted
        · exact ⟨rfl, rfl, rfl, rfl, rfl, rfl, rfl, rfl, rfl⟩
        intro destination source hplan
        cases hplan
        exact ⟨rfl, rfl⟩
      · intro hclean
        have hsynced :=
          hsettled.synced ⟨hclean.loader, hclean.faults, hclean.raced⟩
        obtain ⟨hdirty, hqueued⟩ := hsynced.stale hsync
        exact ⟨hdirty, hqueued, hsynced.committed hdirty⟩

theorem prepareRenderLocked_triple : (scanoutProtocol abi splash).Triple t
      (Holding t fun display => Settled abi splash display ∧ Started display)
      prepareRenderLocked fun _ => Holding t (Ready abi splash) := by
  apply planCopy_triple.bind
  intro plan
  cases plan with
  | none => exact .ret (stable_holding robust_ready) fun _ _ hready => hready
  | some plan =>
    obtain ⟨destination, source⟩ := plan
    apply copyFrame_triple.bind
    intro _
    apply setScanout_triple robust_copying robust_ready
    · exact fun _ => rfl
    · exact fun _ => rfl
    · intro display hinv hholding
      refine ⟨?_, hholding.2.finish hinv⟩
      refine hinv.sameFrames ?_ hholding.1 ?_ hholding.2.started
      · exact ⟨rfl, rfl, rfl, rfl, rfl, rfl, rfl, rfl, rfl⟩
      · exact fun _ _ hplan => absurd hplan (Option.some_ne_none _).symm

/-- An operation in progress: the render buffer is the logical framebuffer
with the stores of the operation so far. -/
structure Drawing (abi : Abi) (splash : Frame) (base : Nat)
    (display : Display) : Prop where
  base_eq : base = display.scanout.renderIndex
  mapped : display.scanout.screenBase = display.scanout.renderIndex
  idle : display.scanout.copying = none
  fresh : display.scanout.renderNeedsSync = false
  started : Started display
  clean : display.Clean abi →
    display.scanout.framebuffer display.scanout.renderIndex =
      display.scanout.stroke (display.scanout.logical splash)

theorem robust_drawing : Robust (Drawing abi splash base) := by
  intro before after hdrift hdrawing
  have hspared := hdrift.spared
  refine ⟨?_, ?_, hspared.copying.trans hdrawing.idle,
    hspared.sync.trans hdrawing.fresh,
    robust_started hdrift hdrawing.started, ?_⟩
  · rw [hspared.render]
    exact hdrawing.base_eq
  · rw [hspared.base, hspared.render]
    exact hdrawing.mapped
  · intro hclean
    rw [hspared.frames, hspared.render, hspared.stroke, hspared.logical]
    exact hdrawing.clean (hdrift.clean hclean)

theorem Ready.drawing (hready : Ready abi splash display) :
    Drawing abi splash display.scanout.screenBase display := by
  obtain ⟨⟨hmapped, hidle, hstroke, hsynced⟩, hfresh, hstarted⟩ := hready
  refine ⟨hmapped, hmapped, hidle, hfresh, hstarted, ?_⟩
  intro hclean
  rw [hstroke]
  exact (hsynced hclean).current hfresh

theorem drawStore_triple (change : Frame → Frame) :
    (scanoutProtocol abi splash).Triple t (Holding t (Drawing abi splash base))
      (drawStore base change) fun _ => Holding t (Drawing abi splash base) := by
  apply setScanout_triple robust_drawing robust_drawing
  · exact fun _ => rfl
  · exact fun _ => rfl
  · intro display hinv hholding
    obtain ⟨hlock, hbase, hmapped, hidle, hfresh, hstarted, hframe⟩ := hholding
    subst hbase
    refine ⟨hinv.paint hlock _ _, rfl, hmapped, hidle, hfresh, hstarted, ?_⟩
    intro hclean
    have hbefore := hframe ⟨hclean.loader, hclean.faults, hclean.raced⟩
    simp only [Function.update_self, Function.comp_apply]
    exact congrArg change hbefore

theorem drawStores_triple {ι : Type} (store : ι → Frame → Frame)
    (items : List ι) :
    (scanoutProtocol abi splash).Triple t (Holding t (Drawing abi splash base))
      (Prog.forEach (fun item => drawStore base (store item)) items)
      fun _ => Holding t (Drawing abi splash base) :=
  Protocol.Triple.forEach (fun _ => Holding t (Drawing abi splash base))
    (stable_holding robust_drawing) fun _ item _ _ =>
      drawStore_triple (store item)

/-- One more operation has been executed. -/
theorem Scanout.Presents.execute {prefixes : List Nat} {front : Nat}
    (hpresents : scanout.Presents splash prefixes front)
    (operation : Frame → Frame) :
    Scanout.Presents splash { scanout with
      renderDirty := true
      drawn := scanout.drawn ++ [operation]
      stroke := id } prefixes front := by
  obtain ⟨hfollows, hnewest, hexecuted, hfront, hqueued⟩ := hpresents
  have hlength : scanout.drawn.length ≤ (scanout.drawn ++ [operation]).length := by
    simp
  refine ⟨hfollows.extend (fun count hcount =>
      (hnewest count hcount).trans hexecuted) _, hnewest,
    hexecuted.trans hlength, ?_, ?_⟩
  · exact hfront.trans (after_append_of_le hexecuted).symm
  · intro index hindex hne
    obtain ⟨count, hle, hcount, hframe⟩ := hqueued index hindex hne
    exact ⟨count, hle, hcount.trans hlength,
      hframe.trans (after_append_of_le hcount).symm⟩

/-- The end of an operation: the render buffer is the logical framebuffer. -/
theorem markRenderDirtyLocked_triple :
    (scanoutProtocol abi splash).Triple t (Holding t (Drawing abi splash base))
      markRenderDirtyLocked fun _ => Holding t (Settled abi splash) := by
  refine .bind (setScanout_triple robust_drawing robust_settled
    (fun _ => rfl) (fun _ => rfl) ?_) fun _ =>
      calm_triple_holding (.store fun _ => ⟨rfl, id, id, (⟨·, rfl⟩)⟩) robust_settled
  intro display hinv hholding
  obtain ⟨hlock, hbase, hmapped, hidle, hfresh, hstarted, hframe⟩ := hholding
  have hdistinct := hinv.distinct
  refine ⟨?_, hmapped, hidle, rfl, ?_⟩
  · apply hinv.replace
    · exact hlock
    · exact ⟨hdistinct.front_lt, hdistinct.render_lt, hdistinct.queued_lt,
        hdistinct.render_ne, hdistinct.queued_ne⟩
    · exact hinv.live
    · exact hinv.copy
    · exact hinv.events
    · exact fun hstate => absurd hstate hstarted
    · intro hclean
      obtain ⟨prefixes, front, hpresents⟩ :=
        hinv.presents ⟨hclean.loader, hclean.faults, hclean.raced⟩
      exact ⟨prefixes, front, hpresents.execute _⟩
  · intro hclean
    have hdrawn := hframe ⟨hclean.loader, hclean.faults, hclean.raced⟩
    refine ⟨fun _ => hdrawn.trans (after_snoc _ _ _).symm, ?_, ?_⟩
    · exact fun hsync => absurd (hfresh.symm.trans hsync) Bool.false_ne_true
    · exact fun hdirty => absurd hdirty.symm Bool.false_ne_true

theorem guar_refl (display : Display) : ScanoutGuar t display display :=
  (Calm.refl display).guar

theorem load_triple {β : Type} {view : Display → β} (post : β → Display → Prop)
    (hpre : Robust pre) (hpost : ∀ value, Robust (post value))
    (hview : ∀ display, ScanoutInv abi splash display → pre display →
      post (view display) display) :
    (scanoutProtocol abi splash).Triple t (Holding t pre)
      (Prog.load view : DisplayProg β) fun value => Holding t (post value) := by
  apply Protocol.Triple.load guar_refl (stable_holding hpre)
  · exact fun value => stable_holding (hpost value)
  · exact fun display hinv hholding =>
      ⟨hholding.1, hview display hinv hholding.2⟩

/-- The loop of a write: as long as nothing is written the buffer is ready. -/
structure Writing (abi : Abi) (splash : Frame) (base written : Nat)
    (display : Display) : Prop where
  drawing : Drawing abi splash base display
  ready : written = 0 → Ready abi splash display

theorem robust_writing {written : Nat} :
    Robust (Writing abi splash base written) :=
  fun _ _ hdrift hwriting => ⟨robust_drawing hdrift hwriting.drawing,
    fun hnone => robust_ready hdrift (hwriting.ready hnone)⟩

/-- `info->screen_base` is the render buffer. -/
theorem readScreenBase_triple :
    (scanoutProtocol abi splash).Triple t (Holding t (Ready abi splash))
      (readScanout Scanout.screenBase)
      fun base => Holding t (Writing abi splash base 0) :=
  load_triple (fun base => Writing abi splash base 0) robust_ready
    (fun _ => robust_writing) fun _ _ hready => ⟨hready.drawing, fun _ => hready⟩

theorem fbMemcpyToio_triple {offset written : Nat} {bytes : List Byte}
    {count : Nat} (hcount : 0 < count) :
    (scanoutProtocol abi splash).Triple t
      (Holding t (Writing abi splash base written))
      (fbMemcpyToio base offset bytes)
      fun _ => Holding t (Writing abi splash base (written + count)) := by
  apply (drawStores_triple _ _).mono
  · exact fun _ _ hholding => ⟨hholding.1, hholding.2.drawing⟩
  · exact fun _ _ hholding => ⟨hholding.1, hholding.2, by omega⟩

theorem fbWriteLoop_triple (fuel offset : Nat) (bytes : List Byte)
    (written : Nat) :
    (scanoutProtocol abi splash).Triple t
      (Holding t (Writing abi splash base written))
      (fbWriteLoop base fuel offset bytes written)
      fun result => Holding t (Writing abi splash base result.1) := by
  induction fuel generalizing offset bytes written with
  | zero =>
    exact .ret (stable_holding robust_writing) fun _ _ hholding => hholding
  | succ fuel ih =>
    unfold fbWriteLoop
    split
    · exact .ret (stable_holding robust_writing) fun _ _ hholding => hholding
    · apply (Protocol.Triple.ask guar_refl (stable_holding robust_writing)).bind
      intro missing
      apply Protocol.Triple.assume
      rintro ⟨input, hinput⟩
      split
      · exact .ret (stable_holding robust_writing)
          fun _ _ hholding => hholding
      · rename_i hmissing
        -- `copy_from_user` never leaves more than it was given
        have hcopied : 0 < (bytes.take fbWriteChunk).length - missing := by
          omega
        apply (fbMemcpyToio_triple hcopied).bind
        intro _
        split
        · exact ih _ _ _
        · exact .ret (stable_holding robust_writing)
            fun _ _ hholding => hholding

/-- What every locked body of a drawing entry point does: it starts with an
up-to-date render buffer and leaves the buffers settled. -/
def Draws (abi : Abi) (splash : Frame) (t : ThreadId) {α : Type}
    (body : DisplayProg α) : Prop :=
  (scanoutProtocol abi splash).Triple t (Holding t (Ready abi splash)) body
    fun _ => Holding t (Settled abi splash)

theorem Ready.keeps (value : α) :
    Draws abi splash t (.ret value : DisplayProg α) :=
  .ret (stable_holding robust_settled) fun _ _ hholding =>
    ⟨hholding.1, hholding.2.settled⟩

theorem fbWriteLocked_draws (offset : Nat) (bytes : List Byte) :
    Draws abi splash t (fbWriteLocked offset bytes) := by
  unfold fbWriteLocked
  split
  · exact Ready.keeps _
  · dsimp only
    split
    · exact Ready.keeps _
    · apply (calm_triple_holding (.ask Calm.refl _) robust_ready).bind
      intro allocated
      split
      · apply readScreenBase_triple.bind
        intro base
        apply (fbWriteLoop_triple _ _ _ 0).bind
        rintro ⟨written, stopped⟩
        dsimp only
        split
        · rename_i hwritten
          exact .ret (stable_holding robust_settled) fun _ _ hholding =>
            ⟨hholding.1, (hholding.2.ready hwritten).settled⟩
        · apply Protocol.Triple.bind (markRenderDirtyLocked_triple.mono
            (fun _ _ hholding => ⟨hholding.1, hholding.2.drawing⟩)
            fun _ _ hholding => hholding)
          intro _
          exact .ret (stable_holding robust_settled) fun _ _ hholding => hholding
      · exact Ready.keeps _

theorem drawPrimitive_draws (stores : List (Frame → Frame)) :
    Draws abi splash t (do
      let base ← readScanout Scanout.screenBase
      Prog.forEach (drawStore base) stores
      markRenderDirtyLocked) := by
  apply readScreenBase_triple.bind
  intro base
  apply Protocol.Triple.bind ((drawStores_triple id stores).mono
    (fun _ _ hholding => ⟨hholding.1, hholding.2.drawing⟩)
    fun _ _ hholding => hholding)
  intro _
  exact markRenderDirtyLocked_triple

theorem starts_of_loader (hinv : ScanoutInv .v2 splash display) :
    Started display :=
  fun hstate => Abi.noConfusion (hinv.starting hstate).1

/-- Under the lock the gate says that the driver is up. -/
theorem renderAllowed_triple :
    (scanoutProtocol abi splash).Triple t (Holding t (Settled abi splash))
      (renderAllowed abi) fun allowed => Holding t fun display =>
        Settled abi splash display ∧ (allowed = true → Started display) := by
  have hrobust : ∀ fact : Prop, Robust fun display =>
      Settled abi splash display ∧ (fact → Started display) :=
    fun fact => robust_settled.and fun _ _ hdrift hstarted hfact =>
      robust_started hdrift (hstarted hfact)
  cases abi with
  | v2 =>
    exact .ret (stable_holding (hrobust _)) fun display hinv hholding =>
      ⟨hholding.1, hholding.2, fun _ => starts_of_loader hinv⟩
  | v3 =>
    apply (load_triple (fun state display => Settled .v3 splash display ∧
        (state ≠ .scanoutInitializing → Started display)) robust_settled
      (fun _ => hrobust _) fun _ _ hsettled => ⟨hsettled, id⟩).bind
    intro state
    apply (calm_triple_holding (.load Calm.refl _) (hrobust _)).bind
    intro enabled
    refine .ret (stable_holding (hrobust _)) ?_
    intro display _ hholding
    refine ⟨hholding.1, hholding.2.1, fun hallowed => hholding.2.2 ?_⟩
    rintro rfl
    simp at hallowed

/-- A program that leaves the buffers alone, between two locked sections. -/
theorem calm_triple_free (hcalm : prog.Within Calm) :
    (scanoutProtocol abi splash).Triple t (fun _ => True) prog
      fun _ _ => True :=
  calm_triple hcalm stable_true fun _ _ _ => id

theorem renderAllowed_calm : (renderAllowed abi).Within Calm := by
  cases abi with
  | v2 => exact .ret true
  | v3 =>
    exact .bind (.load Calm.refl _) fun _ =>
      .bind (.load Calm.refl _) fun _ => .ret _

/-- A drawing entry point takes the buffers as it finds them and leaves them
settled. -/
theorem withRender_triple {refused : α} {body : DisplayProg α}
    (hbody : Draws abi splash t body) :
    (scanoutProtocol abi splash).Triple t (fun _ => True)
      (withRender abi t refused body) fun _ _ => True := by
  apply (calm_triple_free renderAllowed_calm).bind
  intro open_
  split
  · apply lockRender_triple.bind
    intro _
    apply renderAllowed_triple.bind
    intro allowed
    split
    · rename_i hallowed
      apply Protocol.Triple.bind (prepareRenderLocked_triple.mono
        (fun _ _ hholding => ⟨hholding.1, hholding.2.1, hholding.2.2 hallowed⟩)
        fun _ _ hholding => hholding)
      intro _
      apply hbody.bind
      intro result
      apply unlockRender_triple.bind
      exact fun _ => .ret stable_true fun _ _ _ => trivial
    · apply Protocol.Triple.bind (unlockRender_triple.mono
        (fun _ _ hholding => ⟨hholding.1, hholding.2.1⟩) fun _ _ hafter => hafter)
      exact fun _ => .ret stable_true fun _ _ _ => trivial
  · exact .ret stable_true fun _ _ _ => trivial

end Micronux
