/-
Runs of the native driver.  Whenever its source is stopped on purpose the panel
has been darkened since it was last lit, and it is never lit again.
-/
import Micronux.PanelReveal

namespace Micronux

open Concurrent

variable {splash : Frame} {t : ThreadId} {α : Type}

/-- A call keeps the promises about the panel, wherever it starts. -/
def Upholds (t : ThreadId) (prog : DisplayProg α) : Prop :=
  panelProtocol.Triple t (fun _ => True) prog fun _ _ => True

theorem Upholds.ret (value : α) : Upholds t (.ret value : DisplayProg α) :=
  Protocol.Triple.ret lasting_true.stable fun _ _ => id

theorem Upholds.replyUnit {body : DisplayProg (Except DisplayErrno Unit)}
    (hbody : Upholds t body) : Upholds t (replyUnit body) := by
  refine Protocol.Triple.bind hbody fun result => ?_
  split <;> exact Upholds.ret _

theorem Upholds.replyNone {body : DisplayProg Unit} (hbody : Upholds t body) :
    Upholds t (replyNone body) :=
  Protocol.Triple.bind hbody fun _ => Upholds.ret _

theorem Upholds.of_kept {prog : DisplayProg α}
    (hprog : prog.Within PanelKept) : Upholds t prog :=
  panelKept_triple hprog lasting_true

theorem faultWork_upholds : Upholds t (faultWork .v3 t) := by
  refine .bind (Upholds.of_kept (.await fun _ _ => rfl)) fun _ => ?_
  refine nativeFaultWork_panel.bind fun _ => ?_
  exact Upholds.of_kept (.store fun _ => rfl)

theorem displayCode_upholds (request : DisplayRequest) :
    Upholds t (displayCode .v3 t request) := by
  cases request with
  | fbRead count => exact .of_kept (withRender_kept (.ret _))
  | fbWrite offset bytes =>
    exact .of_kept (withRender_kept (fbWriteLocked_kept _ _))
  | fbFillrect stores | fbCopyarea stores | fbImageblit stores =>
    exact (Upholds.of_kept (drawPrimitive_kept _)).replyNone
  | fbBlank blank => exact Upholds.replyUnit (nativeFbBlank_panel blank)
  | bootReady ready => exact Upholds.replyUnit (nativeBootReadyStore_panel ready)
  | backlight request => exact Upholds.replyUnit (backlightRequest_panel request)
  | renderWork => exact (Upholds.of_kept renderWork_kept).replyNone
  | faultWork => exact faultWork_upholds.replyNone
  | dmaIrq =>
    exact Upholds.replyNone (handler_panel fun input _ hinv =>
      nativeDmaIrq_panel input hinv)
  | dmaPoll =>
    refine Upholds.replyNone (handler_panel fun input display hinv => ?_)
    have hminor := dmaPoll_minor .v3 input display
    exact ⟨hminor.toHushed.inv hinv, hminor.toHushed.guar⟩
  | bringUp => exact Upholds.replyUnit coldInitializeScanoutStage_panel

theorem initialDisplay_panel : PanelInv (initialDisplay .v3 splash) := by
  have hnone : ∀ event ∈ (initialDisplay .v3 splash).panel.events,
      ¬ event.Lights ∧ ¬ event.Stops := List.forall_mem_nil _
  refine ⟨.of_running fun event hevent => (hnone event hevent).2,
    fun hdeclined => absurd trivial (hnone _ hdeclined).2,
    fun _ => .of_unlit fun event hevent => (hnone event hevent).1,
    fun event hevent hlights => absurd hlights (hnone event hevent).1,
    fun hrevealed => (nomatch hrevealed), fun _ => ⟨rfl, rfl⟩,
    fun _ _ htorn => absurd trivial (hnone _ htorn).2⟩

variable {labels : List DisplayLabel} {config : DisplayConfig}

/-- Every run of the native driver keeps the invariant of the panel. -/
theorem DisplayRun.panel_inv (hrun : DisplayRun .v3 splash labels config) :
    PanelInv config.shared :=
  Protocol.inv_of_exec (fun _ request => displayCode_upholds request) hrun
    initialDisplay_panel fun _ => ⟨.ok 0, rfl⟩

/-- Whenever the source of the native driver was stopped on purpose, each write
that may light the panel was followed by an acknowledged write of a zero PWM and
by an acknowledged reset-prepare command, and no such write came after. -/
theorem displayRun_stops_dark (hrun : DisplayRun .v3 splash labels config) :
    StopsDark config.shared.panel.events :=
  hrun.panel_inv.stops

def transfers (t : ThreadId) (count : Nat) : List DisplayLabel :=
  (List.replicate count [.call t .dmaIrq, .step t { status0 := 2#32 }]).flatten

/-- The driver comes up, a byte is written and `boot_ready` reveals it behind
six more frames. -/
def revealSchedule : List DisplayLabel :=
  .call 0 .bringUp :: steps 0 41 ++
  .call 1 (.fbWrite 0 [1#8]) :: steps 1 13 ++
  .call 2 (.bootReady true) :: steps 2 17 ++
  transfers 3 2 ++ steps 2 3 ++ transfers 3 4 ++ steps 2 57

/-- Then a transfer ends with an error and the fault work takes the panel
down. -/
def faultSchedule : List DisplayLabel :=
  revealSchedule ++ [.call 3 .dmaIrq, .step 3 { status0 := 0x22#32 }] ++
  .call 4 .faultWork :: steps 4 40

theorem faultSchedule_stops_dark :
    ∃ config, DisplayRun .v3 blackFrame faultSchedule config ∧
      config.shared.panel.events =
        [.tornDown, .control resetPrepareCommand true, .pwm 0 true,
          .pwm coldBrightness true, .control revealCommand true] ∧
      StopsDark config.shared.panel.events := by
  have hcheck : ∃ config, DisplayRun .v3 blackFrame faultSchedule config ∧
      config.shared.panel.events =
        [.tornDown, .control resetPrepareCommand true, .pwm 0 true,
          .pwm coldBrightness true, .control revealCommand true] :=
    exists_displayRun (by decide +kernel)
  obtain ⟨config, hrun, hevents⟩ := hcheck
  exact ⟨config, hrun, hevents, displayRun_stops_dark hrun⟩

end Micronux
