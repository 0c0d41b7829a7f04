/-
What the supervisor's monitor does between two system calls: it goes on to the
next call and keeps its counters and flags.
-/
import Micronux.JobMonitor

namespace Micronux

/-- The calls that `monitor_job` goes on to by itself. -/
def JobPhase.between : JobPhase → Bool
  | .clock | .poll | .read _ _ | .wait | .finish => true
  | _ => false

/-- The loop of `monitor_job` is left. -/
def JobPhase.leftLoop : JobPhase → Bool
  | .finish | .done _ => true
  | _ => false

/-- The loop around `write` is running. -/
def JobPhase.writing : JobPhase → Bool
  | .write _ _ _ _ _ => true
  | _ => false

namespace JobMonitor

/-- What is known of the leader and its group stays as it is. -/
structure SameJob (before after : JobMonitor) : Prop where
  childDone : after.childDone = before.childDone
  groupKilled : after.groupKilled = before.groupKilled
  reaped : after.reaped = before.reaped

/-- The fields that only a system call changes. -/
structure Same (before after : JobMonitor) : Prop extends
    SameJob before after where
  output : after.output = before.output
  lastRead : after.lastRead = before.lastRead

/-- The condition of the loop has failed. -/
structure Finished (monitor : JobMonitor) : Prop where
  childDone : monitor.childDone = true
  stdout : monitor.stdoutOpen = false
  stderr : monitor.stderrOpen = false

/-- The monitor goes on to its next call. -/
structure Moved (before after : JobMonitor) : Prop extends
    Same before after where
  phase : after.phase.between = true
  left : after.phase = .finish → after.Finished

/-- Nothing is read or written. -/
structure Calm (before after : JobMonitor) : Prop where
  output : after.output = before.output
  lastRead : after.lastRead = before.lastRead
  writing : after.phase.writing = false

variable {monitor before after : JobMonitor} {quiet : Bool}

theorem Same.moved (hsame : Same before monitor)
    (hmoved : Moved monitor after) : Moved before after :=
  ⟨⟨⟨hmoved.childDone.trans hsame.childDone,
      hmoved.groupKilled.trans hsame.groupKilled,
      hmoved.reaped.trans hsame.reaped⟩,
    hmoved.output.trans hsame.output, hmoved.lastRead.trans hsame.lastRead⟩,
    hmoved.phase, hmoved.left⟩

theorem moved_at {phase : JobPhase} (hbetween : phase.between = true)
    (hstays : phase ≠ .finish) : Moved monitor { monitor with phase } :=
  ⟨⟨⟨rfl, rfl, rfl⟩, rfl, rfl⟩, hbetween, fun hfinish => absurd hfinish hstays⟩

theorem moved_enterLoop (monitor : JobMonitor) :
    Moved monitor monitor.enterLoop := by
  unfold enterLoop
  split
  · exact moved_at rfl (by decide)
  · next hdone =>
      simp only [Bool.or_eq_true, Bool.not_eq_true', not_or,
        Bool.not_eq_true, Bool.not_eq_false] at hdone
      exact ⟨⟨⟨rfl, rfl, rfl⟩, rfl, rfl⟩, rfl,
        fun _ => ⟨hdone.1.1, hdone.1.2, hdone.2⟩⟩

theorem same_judgeOutput (monitor : JobMonitor) :
    Same monitor monitor.judgeOutput := by
  unfold judgeOutput
  split
  · exact ⟨⟨rfl, rfl, rfl⟩, rfl, rfl⟩
  · exact ⟨⟨rfl, rfl, rfl⟩, rfl, rfl⟩

theorem same_judgeWall (monitor : JobMonitor) (now : Int) :
    Same monitor (monitor.judgeWall now) := by
  unfold judgeWall
  split
  · exact ⟨⟨rfl, rfl, rfl⟩, rfl, rfl⟩
  · exact ⟨⟨rfl, rfl, rfl⟩, rfl, rfl⟩

theorem moved_checkOutput (monitor : JobMonitor) :
    Moved monitor monitor.checkOutput := by
  unfold checkOutput
  dsimp only
  split
  · exact (same_judgeOutput monitor).moved (moved_enterLoop _)
  · exact (same_judgeOutput monitor).moved (moved_at rfl (by decide))

theorem moved_forward (stream : JobStream) (later : Bool) :
    Moved monitor (monitor.forward stream later) :=
  ⟨⟨⟨rfl, rfl, rfl⟩, rfl, rfl⟩, rfl,
    fun hfinish => absurd hfinish (by simp [forward])⟩

theorem moved_drainStderr (monitor : JobMonitor) (stderr : Bool) :
    Moved monitor (monitor.drainStderr stderr) := by
  unfold drainStderr
  split
  · exact moved_forward .stderr false
  · exact moved_checkOutput monitor

theorem moved_drain (monitor : JobMonitor) (stdout stderr : Bool) :
    Moved monitor (monitor.drain stdout stderr) := by
  unfold drain
  split
  · exact moved_forward .stdout stderr
  · exact moved_drainStderr monitor stderr

theorem moved_leave (monitor : JobMonitor) (stream : JobStream)
    (later : Bool) : Moved monitor (monitor.leave stream later) := by
  cases stream with
  | stdout => exact moved_drainStderr monitor later
  | stderr => exact moved_checkOutput monitor

theorem moved_closeLeave (monitor : JobMonitor) (stream : JobStream)
    (later : Bool) :
    Moved monitor ((monitor.closeStream stream).leave stream later) := by
  have hsame : Same monitor (monitor.closeStream stream) := by
    cases stream with
    | stdout | stderr => exact ⟨⟨rfl, rfl, rfl⟩, rfl, rfl⟩
  exact hsame.moved (moved_leave _ stream later)

theorem moved_resumeAt (monitor : JobMonitor) (resume : JobResume) :
    Moved monitor (monitor.resumeAt resume) := by
  cases resume with
  | poll => exact moved_at rfl (by decide)
  | drain stdout stderr => exact moved_drain monitor stdout stderr
  | loop => exact moved_enterLoop monitor

theorem same_signal (monitor : JobMonitor) (target : JobTarget)
    (answer : KillAnswer) : Same monitor (monitor.signal target answer) :=
  ⟨⟨rfl, rfl, rfl⟩, rfl, rfl⟩

theorem Moved.calm (hmoved : Moved before after) : Calm before after := by
  refine ⟨hmoved.output, hmoved.lastRead, ?_⟩
  have hphase := hmoved.phase
  cases hnext : after.phase with
  | write stream later count accepted offset =>
    rw [hnext] at hphase
    cases hphase
  | _ => rfl

theorem calm_checkLimits (monitor : JobMonitor) (now : Int) :
    Calm monitor (monitor.checkLimits now) := by
  have hsame := same_judgeWall monitor now
  unfold checkLimits
  dsimp only
  split
  · exact ⟨hsame.output, hsame.lastRead, rfl⟩
  · exact ⟨hsame.output, hsame.lastRead, rfl⟩

theorem calm_waited (monitor : JobMonitor) (answer : WaitAnswer) :
    Calm monitor (monitor.waited answer) := by
  cases answer with
  | running | interrupted => exact (moved_enterLoop monitor).calm
  | reaped status =>
    have hmoved := moved_enterLoop { monitor with
      childDone := true, status := status, reaped := true
      doneBytes := some monitor.bytesRead }
    unfold waited
    dsimp only
    split
    · exact ⟨hmoved.output, hmoved.lastRead, hmoved.calm.writing⟩
    · exact ⟨rfl, rfl, rfl⟩
  | failed =>
    have hmoved := moved_enterLoop { monitor with
      status := 0#32, childDone := true
      policyReason := monitor.policyReason.or (some .wait)
      doneBytes := some monitor.bytesRead }
    exact ⟨hmoved.output, hmoved.lastRead, hmoved.calm.writing⟩

theorem calm_killGroupStep (monitor : JobMonitor) (resume : JobResume)
    (answer : KillAnswer) :
    Calm monitor (monitor.killGroupStep resume answer) := by
  unfold killGroupStep
  dsimp only
  split
  · exact ⟨rfl, rfl, rfl⟩
  · exact ((same_signal monitor _ _).moved (moved_resumeAt _ resume)).calm

/-- No other call than a read or a write touches the counter of the output or
starts to write. -/
theorem calm_step (hwrite : monitor.phase.writing = false)
    (hread : ∀ stream later, monitor.phase ≠ .read stream later)
    (answer : JobAnswer) : Calm monitor (monitor.step quiet answer) := by
  unfold step
  split
  · have hmoved := moved_enterLoop
      { monitor with started := max (monotonicMs answer) 0 }
    exact ⟨hmoved.output, hmoved.lastRead, hmoved.calm.writing⟩
  · exact calm_checkLimits monitor _
  · cases answer.poll with
    | ready stdout stderr => exact (moved_drain monitor stdout stderr).calm
    | interrupted => exact ⟨rfl, rfl, hwrite⟩
    | failed stdout stderr => exact ⟨rfl, rfl, rfl⟩
  · exact calm_killGroupStep monitor _ _
  · exact ((same_signal monitor _ _).moved (moved_resumeAt _ _)).calm
  · next stream later hphase => exact absurd hphase (hread stream later)
  · next hphase =>
      rw [hphase] at hwrite
      cases hwrite
  · exact calm_waited monitor _
  · exact ⟨rfl, rfl, rfl⟩
  · exact ⟨rfl, rfl, hwrite⟩

end JobMonitor

end Micronux
