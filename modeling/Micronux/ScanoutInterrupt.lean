/-
The handlers that run in interrupt context: the DMA interrupt of both modes
and the health poll.  Behind the backs of the threads they latch faults and
turn the queued buffer into the front buffer, and nothing else.
-/
import Micronux.ScanoutCommit

namespace Micronux

open Concurrent Replay

variable {abi : Abi} {splash : Frame} {t : ThreadId} {before after : Display}

/-- The end of a transfer, as a change of the whole display. -/
structure Turn (before after : Display) : Prop where
  turned : before.scanout.Turned after.scanout
  faults : after.panel.faultBits = 0 → before.panel.faultBits = 0
  started : after.panel.displayState = .scanoutInitializing →
    before.panel.displayState = .scanoutInitializing
  mode : ModeKept before after
  events : (∀ event ∈ before.scanout.events, event.KeepsRoles) →
    ∀ event ∈ after.scanout.events, event.KeepsRoles

theorem Turn.guar (hturn : Turn before after) : ScanoutGuar t before after :=
  ⟨⟨hturn.faults, fun hraced => hturn.turned.raced.symm.trans hraced,
    hturn.started⟩, fun _ => .inl hturn.turned.lock, fun _ => hturn.turned.spared,
    fun _ => .inl hturn.mode⟩

theorem Turn.after_calm {first second third : Display}
    (hcalm : Calm first second) (hturn : Turn second third) :
    Turn first third := by
  obtain ⟨hturned, hfaults, hstarted, hmode, hevents⟩ := hturn
  rw [hcalm.scanout] at hturned hevents
  exact ⟨hturned, fun hclear => hcalm.faults (hfaults hclear),
    fun hstate => hcalm.started (hstarted hstate),
    ModeKept.trans hcalm.mode hmode, hevents⟩

theorem Turn.then_calm {first second third : Display}
    (hturn : Turn first second) (hcalm : Calm second third) :
    Turn first third := by
  obtain ⟨hturned, hfaults, hstarted, hmode, hevents⟩ := hturn
  rw [← hcalm.scanout] at hturned hevents
  exact ⟨hturned, fun hclear => hfaults (hcalm.faults hclear),
    fun hstate => hstarted (hcalm.started hstate),
    ModeKept.trans hmode hcalm.mode, hevents⟩

/-- A handler leaves the buffers alone, or it ends a transfer of an active
scanout. -/
def Handles (before after : Display) : Prop :=
  Calm before after ∨ (before.scanout.scanoutActive = true ∧ Turn before after)

theorem handler_triple {body : DisplayInput → Display → Display}
    (hbody : ∀ input display, Handles display (body input display)) :
    (scanoutProtocol abi splash).Triple t (fun _ => True) (handler body)
      fun _ _ => True := by
  apply Protocol.Triple.atomic stable_true (fun _ => stable_true)
  intro input display after result hinv _ hrun
  cases hrun
  rcases hbody input display with hcalm | ⟨hactive, hturn⟩
  · exact ⟨ScanoutInv.aside hinv hcalm.aside, hcalm.guar, trivial⟩
  · exact ⟨ScanoutInv.turn hinv hactive hturn.turned hturn.faults hturn.started
      (hturn.events (ScanoutInv.events hinv)), hturn.guar, trivial⟩

theorem Display.setFault_calm (display : Display) (fault : Fault) :
    Calm display (display.setFault fault) :=
  ⟨rfl, fun hclear => (BitVec.or_eq_zero_iff.mp hclear).1, id, (⟨·, rfl⟩)⟩

theorem Display.latchFault_calm (display : Display) (fault : Fault) :
    Calm display (display.latchFault fault) := by
  unfold Display.latchFault
  split
  · exact display.setFault_calm fault
  · exact .refl display

theorem Display.latchIf_calm (display : Display) (condition : Bool)
    (fault : Fault) : Calm display (display.latchIf condition fault) := by
  unfold Display.latchIf
  split
  · exact display.latchFault_calm fault
  · exact .refl display

theorem Scanout.Turned.rearm {display : Display} {scanout : Scanout}
    (hturned : display.scanout.Turned scanout)
    (hevents : scanout.events = display.scanout.events) (succeeded : Bool)
    (hfailed : succeeded = false → scanout = display.scanout) :
    Turn display { display with
      scanout := display.scanout.logRearm scanout succeeded } := by
  refine ⟨hturned.logRearm succeeded, id, id, (⟨·, rfl⟩), fun hkept event hevent => ?_⟩
  rcases List.mem_cons.mp hevent with rfl | hold
  · intro hnot
    rw [hfailed hnot]
    exact ⟨rfl, rfl⟩
  · rw [hevents] at hold
    exact hkept event hold

theorem Scanout.completed_events (scanout : Scanout) (faulted : Bool) :
    (scanout.completed faulted).events = scanout.events := by
  unfold Scanout.completed
  dsimp only
  split
  · split <;> rfl
  · rfl

theorem finishTransfer_turn (armed : Bool) (display : Display) :
    Turn display (finishTransfer armed display) := by
  cases armed with
  | true =>
    exact (display.scanout.completed_turned _).rearm
      (display.scanout.completed_events _) true
      fun hnot => absurd hnot.symm Bool.false_ne_true
  | false =>
    have hturn := display.scanout.turned_refl.rearm rfl false fun _ => rfl
    refine hturn.then_calm (Calm.trans ⟨?_, ?_, ?_, ?_⟩
      (Display.latchFault_calm _ .dma))
    · exact rfl
    · exact id
    · exact id
    · exact (⟨·, rfl⟩)

theorem noteDmaError_calm (error : Word) (display : Display) :
    Calm display (noteDmaError error display) := by
  unfold noteDmaError
  split
  · exact .refl display
  · refine Calm.trans ⟨?_, ?_, ?_, ?_⟩ (Display.latchFault_calm _ .dma)
    · exact rfl
    · exact id
    · exact id
    · exact (⟨·, rfl⟩)

theorem loaderDmaIrq_handles (input : DisplayInput) (display : Display) :
    Handles display (loaderDmaIrq input display) := by
  have hcalm := noteDmaError_calm (input.status0 &&& gdmaErrorMask) display
  unfold loaderDmaIrq
  dsimp only
  split
  · rename_i hdone
    simp only [Bool.and_eq_true] at hdone
    refine .inr ⟨?_, (finishTransfer_turn _ _).after_calm hcalm⟩
    rw [← hcalm.scanout]
    exact hdone.1.2
  · exact .inl hcalm

/-- The native rearm, its refusal and its failure. -/
theorem nativeFinishTransfer_turn (dmaError preserve : Bool)
    (display : Display) :
    Turn display (nativeFinishTransfer dmaError preserve display) := by
  unfold nativeFinishTransfer
  dsimp only
  split
  · have hturned := display.scanout.turned_refl
    exact ⟨hturned, id, id, (⟨·, rfl⟩), id⟩
  · split
    · cases dmaError with
      | true =>
        exact display.scanout.turned_refl.rearm rfl true
          fun hnot => absurd hnot.symm Bool.false_ne_true
      | false =>
        exact (display.scanout.presented_turned _).rearm
          (display.scanout.completed_events _) true
          fun hnot => absurd hnot.symm Bool.false_ne_true
    · have hturn := display.scanout.turned_refl.rearm rfl false fun _ => rfl
      refine hturn.then_calm (Calm.trans ⟨?_, ?_, ?_, ?_⟩
        (Display.setFault_calm _ .dma))
      · exact rfl
      · exact id
      · exact id
      · exact (⟨·, rfl⟩)

theorem nativeNoteStatus_calm (input : DisplayInput) (preserve : Bool)
    (display : Display) : Calm display (nativeNoteStatus input preserve display) := by
  unfold nativeNoteStatus
  dsimp only
  split
  · refine Calm.trans ⟨?_, ?_, ?_, ?_⟩ (Display.setFault_calm _ .dma)
    · exact rfl
    · exact id
    · exact id
    · exact (⟨·, rfl⟩)
  · exact ⟨rfl, id, id, (⟨·, rfl⟩)⟩

theorem nativeDmaIrq_handles (input : DisplayInput) (display : Display) :
    Handles display (nativeDmaIrq input display) := by
  have hcalm := nativeNoteStatus_calm input display.panel.preserves display
  unfold nativeDmaIrq
  dsimp only
  split
  · exact .inl (.refl display)
  · split
    · exact .inl (hcalm.trans ⟨rfl, id, id, (⟨·, rfl⟩)⟩)
    · split
      · rename_i hactive
        rw [hcalm.scanout] at hactive
        exact .inr ⟨hactive, (nativeFinishTransfer_turn _ _ _).after_calm hcalm⟩
      · exact .inl hcalm

theorem dmaIrq_handles (abi : Abi) (input : DisplayInput) (display : Display) :
    Handles display (dmaIrq abi input display) := by
  cases abi with
  | v2 => exact loaderDmaIrq_handles input display
  | v3 => exact nativeDmaIrq_handles input display

theorem pollHostStatus_calm (abi : Abi) (input : DisplayInput)
    (display : Display) : Calm display (pollHostStatus abi input display) := by
  unfold pollHostStatus
  dsimp only
  split
  · refine Calm.trans ⟨?_, ?_, ?_, ?_⟩ (Display.latchFault_calm _ .dsiHost)
    · exact rfl
    · exact id
    · exact id
    · exact (⟨·, rfl⟩)
  · exact ⟨rfl, id, id, (⟨·, rfl⟩)⟩

theorem dmaPoll_calm (abi : Abi) (input : DisplayInput) (display : Display) :
    Calm display (dmaPoll abi input display) := by
  have hsampled := (display.latchIf_calm input.underrun .underrun).trans
    (pollHostStatus_calm abi input _)
  exact ((hsampled.trans (Display.latchIf_calm _ _ .dma)).trans
    (Display.latchIf_calm _ _ .poolGuard)).trans
      (Display.latchIf_calm _ _ .staleFrame)

end Micronux
