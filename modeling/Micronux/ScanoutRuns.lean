/-
Runs of the display driver.  In every run the roles stay apart, nothing is
stored into a buffer that the hardware may read, and a failed rearm leaves the
roles.  A run of the loader's driver without faults shows the logical
framebuffer, never going back, unless drawing slips between a flush and the
choice of the first front buffer.
-/
import Micronux.ScanoutNative

namespace Micronux

open Concurrent Replay

variable {abi : Abi} {splash : Frame} {t : ThreadId} {α : Type}

theorem Keeps.replyUnit {body : DisplayProg (Except DisplayErrno Unit)}
    (hbody : Keeps abi splash t body) : Keeps abi splash t (replyUnit body) := by
  refine hbody.bind fun result => ?_
  split <;> exact .ret _

theorem Keeps.replyNone {body : DisplayProg Unit}
    (hbody : Keeps abi splash t body) : Keeps abi splash t (replyNone body) :=
  hbody.bind fun _ => .ret _

theorem faultWork_keeps : Keeps abi splash t (faultWork abi t) := by
  refine .bind (.calm (.await fun _ _ => .of_mode rfl rfl)) fun _ => ?_
  have hdone : Keeps abi splash t (Prog.store fun display : Display =>
      { display with faultWork := { display.faultWork with running := false } }) :=
    .calm (.store fun _ => .of_mode rfl rfl)
  cases abi with
  | v2 => exact loaderFaultWork_keeps.bind fun _ => hdone
  | v3 => exact nativeFaultWork_keeps.bind fun _ => hdone

theorem fbBlank_keeps (blank : FbBlank) :
    Keeps abi splash t (fbBlank abi t blank) := by
  cases abi with
  | v2 => exact withModeAndOps_keeps (fbBlankLocked_keeps blank)
  | v3 => exact nativeFbBlank_keeps blank

theorem bootReadyStore_keeps (ready : Bool) :
    Keeps abi splash t (bootReadyStore abi t ready) := by
  cases abi with
  | v2 => exact withModeAndOps_keeps (loaderBootReady_keeps ready)
  | v3 => exact nativeBootReadyStore_keeps ready

theorem bringUp_keeps : Keeps abi splash t (bringUp abi t) := by
  cases abi with
  | v2 => exact finishProbe_keeps.bind fun _ => .ret _
  | v3 => exact coldInitializeScanoutStage_keeps

theorem displayCode_keeps (request : DisplayRequest) :
    Keeps abi splash t (displayCode abi t request) := by
  cases request with
  | fbRead count => exact withRender_triple (Ready.keeps _)
  | fbWrite offset bytes => exact withRender_triple (fbWriteLocked_draws _ _)
  | fbFillrect stores | fbCopyarea stores | fbImageblit stores =>
    exact Keeps.replyNone (withRender_triple (drawPrimitive_draws stores))
  | fbBlank blank => exact (fbBlank_keeps blank).replyUnit
  | bootReady ready => exact (bootReadyStore_keeps ready).replyUnit
  | backlight request =>
    exact (Keeps.calm (backlightRequest_calm request)).replyUnit
  | renderWork => exact Keeps.replyNone renderWork_triple
  | faultWork => exact faultWork_keeps.replyNone
  | dmaIrq => exact Keeps.replyNone (handler_triple (dmaIrq_handles abi))
  | dmaPoll =>
    exact Keeps.replyNone (handler_triple fun input display =>
      .inl (dmaPoll_calm abi input display))
  | bringUp => exact bringUp_keeps.replyUnit

theorem initialDisplay_inv : ScanoutInv abi splash (initialDisplay abi splash) := by
  refine ⟨⟨Nat.succ_pos 2, Nat.lt_of_sub_eq_succ rfl, ?_, Nat.one_ne_zero, ?_⟩,
    ?_, ?_, ?_, ?_, ?_, ?_⟩
  · exact fun _ hindex => nomatch hindex
  · exact fun hsame => nomatch hsame
  · exact fun _ hsame => nomatch hsame
  · exact fun _ _ hplan => nomatch hplan
  · exact fun _ hevent => nomatch hevent
  · cases abi with
    | v2 => exact fun hstate => nomatch hstate
    | v3 => exact fun _ => ⟨rfl, rfl, rfl, rfl, rfl, rfl, rfl⟩
  · exact fun _ => ⟨[], 0, ⟨.nil, .nil⟩, fun _ hcount => (nomatch hcount),
      le_rfl, rfl, fun _ hindex => (nomatch hindex)⟩
  · exact fun _ => ⟨rfl, rfl, rfl, fun _ => ⟨fun _ => rfl,
      fun hsync => (nomatch hsync), fun _ => rfl⟩⟩

variable {labels : List DisplayLabel} {config : DisplayConfig}

/-- Every run keeps the invariant of the buffers. -/
theorem DisplayRun.inv (hrun : DisplayRun abi splash labels config) :
    ScanoutInv abi splash config.shared :=
  Protocol.inv_of_exec (fun _ request => displayCode_keeps request) hrun
    initialDisplay_inv fun _ => ⟨.ok 0, rfl⟩

/-- The source of a copy is what the hardware shows or shows next. -/
theorem Scanout.source_eq (scanout : Scanout) :
    scanout.source = scanout.frontIndex ∨
      scanout.queuedIndex = some scanout.source := by
  unfold Scanout.source
  cases scanout.queuedIndex with
  | none => exact .inl rfl
  | some index => exact .inr rfl

/-- In every run the three roles stay apart while scanout is active, every
store so far spared the front and the queued buffer, the source of a copy in
progress is one of the two, and no failed rearm has changed them. -/
theorem displayRun_roles_apart (hrun : DisplayRun abi splash labels config) :
    (config.shared.scanout.scanoutActive = true →
      config.shared.scanout.frontIndex < 3 ∧
      config.shared.scanout.renderIndex < 3 ∧
      config.shared.scanout.renderIndex ≠ config.shared.scanout.frontIndex ∧
      ∀ queued, config.shared.scanout.queuedIndex = some queued →
        queued < 3 ∧ queued ≠ config.shared.scanout.frontIndex ∧
          queued ≠ config.shared.scanout.renderIndex) ∧
    (∀ event ∈ config.shared.scanout.events, event.KeepsRoles) ∧
    (∀ destination source,
      config.shared.scanout.copying = some (destination, source) →
      source = config.shared.scanout.frontIndex ∨
        config.shared.scanout.queuedIndex = some source) := by
  have hinv := hrun.inv
  have hdistinct := hinv.distinct
  refine ⟨?_, hinv.events, ?_⟩
  · intro hactive
    refine ⟨hdistinct.front_lt, hdistinct.render_lt, hdistinct.render_ne, ?_⟩
    intro queued hqueued
    refine ⟨hdistinct.queued_lt queued hqueued, ?_, ?_⟩
    · rintro rfl
      exact hdistinct.queued_ne hqueued
    · rintro rfl
      exact hinv.live hactive hqueued
  · intro destination source hcopying
    obtain ⟨-, rfl⟩ := hinv.copy destination source hcopying
    exact config.shared.scanout.source_eq

theorem exists_displayRun {P : DisplayConfig → Prop} [DecidablePred P]
    (hcheck : ((initialConfig abi splash).exec (displayCode abi) labels).any
      (fun config => decide (P config)) = true) :
    ∃ config, DisplayRun abi splash labels config ∧ P config := by
  obtain ⟨config, hexec, hholds⟩ := Option.any_eq_true _ _ |>.mp hcheck
  exact ⟨config, hexec, of_decide_eq_true hholds⟩

/-- Steps of one thread in which every device answers well. -/
def steps (t : ThreadId) (count : Nat) : List DisplayLabel :=
  List.replicate count (.step t {})

def blackFrame : Frame := fun _ => 0#8

def firstByte : Fin framebufferSize :=
  ⟨0, by unfold framebufferSize; decide⟩

/-- The probe ends, a byte is written, and the first unblank chooses the front
buffer. -/
def unblankSchedule : List DisplayLabel :=
  .call 0 .bringUp :: steps 0 1 ++
  .call 1 (.fbWrite 0 [1#8]) :: steps 1 9 ++
  .call 2 (.bootReady true) :: steps 2 22

/-- The same with a second write between the flush of the unblank and its
choice of the front buffer; then the delayed commit runs and a transfer
ends. -/
def racingSchedule : List DisplayLabel :=
  .call 0 .bringUp :: steps 0 1 ++
  .call 1 (.fbWrite 0 [1#8]) :: steps 1 9 ++
  .call 2 (.bootReady true) :: steps 2 12 ++
  .call 1 (.fbWrite 0 [2#8]) :: steps 1 9 ++ steps 2 10 ++
  .call 3 .renderWork :: steps 3 10 ++
  [.call 4 .dmaIrq, .step 4 { status0 := 2#32 }]

theorem racingSchedule_roles_apart :
    ∃ config, DisplayRun .v2 blackFrame racingSchedule config ∧
      config.shared.scanout.scanoutActive = true ∧
      config.shared.scanout.renderIndex ≠ config.shared.scanout.frontIndex ∧
      ∀ event ∈ config.shared.scanout.events, event.KeepsRoles := by
  have hcheck : ∃ config, DisplayRun .v2 blackFrame racingSchedule config ∧
      config.shared.scanout.scanoutActive = true :=
    exists_displayRun (by decide +kernel)
  obtain ⟨config, hrun, hactive⟩ := hcheck
  obtain ⟨hroles, hevents, -⟩ := displayRun_roles_apart hrun
  exact ⟨config, hrun, hactive, (hroles hactive).2.2.1, hevents⟩

/-- A run of the loader's driver that latches no fault shows the logical
framebuffer after longer and longer prefixes of what was drawn, where no
drawing is pending when the first front buffer is chosen. -/
theorem displayRun_shows_prefixes (hrun : DisplayRun .v2 splash labels config)
    (hfaults : config.shared.panel.faultBits = 0)
    (hraced : config.shared.scanout.raced = false) :
    ∃ prefixes, Follows splash config.shared.scanout.drawn
      config.shared.scanout.shown prefixes := by
  obtain ⟨prefixes, front, hpresents⟩ :=
    hrun.inv.presents ⟨rfl, hfaults, hraced⟩
  exact ⟨prefixes, hpresents.follows⟩

theorem unblankSchedule_shows_prefixes :
    ∃ config, DisplayRun .v2 blackFrame unblankSchedule config ∧
      config.shared.scanout.shown.length = 1 ∧
      ∃ prefixes, Follows blackFrame config.shared.scanout.drawn
        config.shared.scanout.shown prefixes := by
  have hcheck : ∃ config, DisplayRun .v2 blackFrame unblankSchedule config ∧
      config.shared.panel.faultBits = 0 ∧
      config.shared.scanout.raced = false ∧
      config.shared.scanout.shown.length = 1 :=
    exists_displayRun (by decide +kernel)
  obtain ⟨config, hrun, hfaults, hraced, hshown⟩ := hcheck
  exact ⟨config, hrun, hshown, displayRun_shows_prefixes hrun hfaults hraced⟩

/-- A stale front buffer behind a newer one. -/
theorem not_follows_of_stale {first second : Sighting Frame}
    {drawn : List (Frame → Frame)}
    (hfirst : first.contents firstByte = 0#8)
    (hsecond : second.contents firstByte = 2#8)
    (hone : after blackFrame drawn 1 firstByte = 1#8)
    (htwo : after blackFrame drawn 2 firstByte = 2#8)
    (hnewest : first.executed = 2) (prefixes : List Nat) :
    ¬ Follows blackFrame drawn [first, second] prefixes := by
  rintro ⟨hagree, hsorted⟩
  cases hagree with
  | @cons _ newer _ _ hnewer hrest =>
    cases hrest with
    | @cons _ older _ _ holder hnil =>
      cases hnil
      have hle : older ≤ newer :=
        (List.pairwise_cons.mp hsorted).1 older List.mem_cons_self
      have hbound : newer ≤ 2 := hnewest ▸ hnewer.1
      have hvalue : after blackFrame drawn newer firstByte = 0#8 := by
        rw [← hnewer.2]
        exact hfirst
      have hold : after blackFrame drawn older firstByte = 2#8 := by
        rw [← holder.2]
        exact hsecond
      -- only the empty prefix leaves the first byte black
      have hcases : newer = 0 ∨ newer = 1 ∨ newer = 2 := by omega
      rcases hcases with rfl | rfl | rfl
      · obtain rfl : older = 0 := Nat.le_zero.mp hle
        have hblack : (0#8 : Byte) = 2#8 := hold
        cases hblack
      · exact absurd (hone.symm.trans hvalue) (by decide)
      · exact absurd (htwo.symm.trans hvalue) (by decide)

/-- The first front buffer is shown with both writes, and the buffer that the
delayed commit queues behind it with none of them. -/
theorem racingSchedule_shows_stale :
    ∃ config, DisplayRun .v2 blackFrame racingSchedule config ∧
      config.shared.panel.faultBits = 0 ∧
      ∀ prefixes, ¬ Follows blackFrame config.shared.scanout.drawn
        config.shared.scanout.shown prefixes := by
  have hcheck : ∃ config, DisplayRun .v2 blackFrame racingSchedule config ∧
      config.shared.panel.faultBits = 0 ∧
      config.shared.scanout.shown.map (fun sighting =>
        (sighting.contents firstByte, sighting.executed)) =
          [(0#8, 2), (2#8, 2)] ∧
      after blackFrame config.shared.scanout.drawn 1 firstByte = 1#8 ∧
      after blackFrame config.shared.scanout.drawn 2 firstByte = 2#8 :=
    exists_displayRun (by decide +kernel)
  obtain ⟨config, hrun, hfaults, hshown, hone, htwo⟩ := hcheck
  refine ⟨config, hrun, hfaults, ?_⟩
  rcases hseen : config.shared.scanout.shown with
    _ | ⟨first, _ | ⟨second, _ | ⟨third, rest⟩⟩⟩ <;>
    simp only [hseen, List.map_cons, List.map_nil, List.cons.injEq,
      Prod.mk.injEq, reduceCtorEq, and_true, and_false] at hshown
  obtain ⟨⟨hfirst, hnewest⟩, hsecond, hexecuted⟩ := hshown
  exact not_follows_of_stale hfirst hsecond hone htwo hnewest

end Micronux
