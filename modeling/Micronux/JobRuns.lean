/-
What every run of the supervisor's monitor keeps.  The job is reported as
killed when it exceeds the output limit before it is reaped; it is not when
the last output is read after the reap.  The leader is signalled after its
reap exactly behind a kill that found no process group.  How much is read past
a limit is bounded only as far as single calls of `forward_output` are.
-/
import Micronux.JobMonitor

namespace Micronux

namespace JobMonitor

/-- A kill of the group found nobody although the leader had been reaped. -/
def Missed (signals : List JobSignal) : Prop :=
  ∃ signal ∈ signals, signal.target = .group ∧ signal.reaped = true ∧
    signal.missing = true

/-- The counters agree with what was read, up to a read in progress. -/
structure Tally (monitor : JobMonitor) (pending : Nat) : Prop where
  read : pending ≤ monitor.bytesRead
  output : monitor.output = (monitor.bytesRead - pending) % 2 ^ 64
  exceeded : monitor.outputExceeded =
    decide (jobOutputBytes < monitor.bytesRead - pending)

/-- What holds between any two system calls. -/
structure Steady (monitor : JobMonitor) : Prop where
  call : monitor.callBytes ≤ monitor.longestCall
  killed : monitor.groupKilled = monitor.killCalled
  done : ∀ count, monitor.doneBytes = some count → jobOutputBytes < count →
    monitor.policyReason ≠ none
  signals : ∀ signal ∈ monitor.signals, signal.target = .leader →
    signal.reaped = true → Missed monitor.signals

def Judged (monitor : JobMonitor) : Prop :=
  monitor.childDone = false → monitor.outputExceeded = true →
    monitor.policyReason ≠ none

/-- The bytes of a read that are not yet in the counters. -/
def pending (monitor : JobMonitor) : Nat :=
  match monitor.phase with
  | .write _ _ count _ _ => count
  | _ => 0

def PhaseOk (monitor : JobMonitor) : Prop :=
  match monitor.phase with
  | .start => monitor.Judged ∧ monitor.overdue = 0
  | .clock => monitor.Judged
  | .wait => monitor.childDone = false ∧ monitor.Judged
  | .write _ _ count _ _ => count ≤ forwardBufferSize
  | .killGroup resume => monitor.killCalled = true ∧
      (resume = .loop → monitor.childDone = true)
  | .killLeader resume => monitor.killCalled = true ∧
      (resume = .loop → monitor.childDone = true) ∧
      (monitor.reaped = true → Missed monitor.signals)
  | .done report => report.outcome = monitor.outcome
  | _ => True

/-- What holds after every run. -/
structure Inv (monitor : JobMonitor) : Prop where
  steady : monitor.Steady
  tally : monitor.Tally monitor.pending
  phase : monitor.PhaseOk

variable {monitor : JobMonitor} {quiet : Bool}

theorem Tally.at {pending : Nat} (htally : monitor.Tally pending)
    (phase : JobPhase) : { monitor with phase := phase }.Tally pending :=
  ⟨htally.read, htally.output, htally.exceeded⟩

theorem Tally.judge {pending : Nat} (htally : monitor.Tally pending)
    (reason : PolicyReason) :
    { monitor with policyReason := some reason }.Tally pending :=
  ⟨htally.read, htally.output, htally.exceeded⟩

theorem Tally.judgeWall (htally : monitor.Tally 0) (now : Int) :
    (monitor.judgeWall now).Tally 0 := by
  unfold JobMonitor.judgeWall
  split
  · exact htally.judge .wall
  · exact htally

theorem Tally.judgeOutput (htally : monitor.Tally 0) :
    monitor.judgeOutput.Tally 0 := by
  unfold JobMonitor.judgeOutput
  split
  · exact htally.judge .output
  · exact htally

theorem judged_judgeOutput (monitor : JobMonitor) :
    monitor.judgeOutput.Judged := by
  unfold JobMonitor.judgeOutput
  split
  · exact fun _ _ => Option.some_ne_none _
  · rename_i hcondition
    intro hrunning hexceeded hnone
    apply hcondition
    rw [hrunning, hexceeded, hnone]
    rfl

section

variable (hsteady : monitor.Steady)

include hsteady

theorem Steady.at (phase : JobPhase) : { monitor with phase := phase }.Steady :=
  ⟨hsteady.call, hsteady.killed, hsteady.done, hsteady.signals⟩

theorem inv_enterLoop (htally : monitor.Tally 0) (hjudged : monitor.Judged) :
    monitor.enterLoop.Inv := by
  unfold JobMonitor.enterLoop
  split
  · exact ⟨hsteady.at .clock, htally.at .clock, hjudged⟩
  · exact ⟨hsteady.at .finish, htally.at .finish, trivial⟩

/-- A policy's reason is found and never taken back. -/
theorem Steady.judge (reason : PolicyReason) :
    { monitor with policyReason := some reason }.Steady :=
  ⟨hsteady.call, hsteady.killed,
    fun _ _ _ => Option.some_ne_none reason, hsteady.signals⟩

theorem Steady.judgeWall (now : Int) : (monitor.judgeWall now).Steady := by
  unfold JobMonitor.judgeWall
  split
  · exact hsteady.judge .wall
  · exact hsteady

theorem Steady.judgeOutput : monitor.judgeOutput.Steady := by
  unfold JobMonitor.judgeOutput
  split
  · exact hsteady.judge .output
  · exact hsteady

section

variable (htally : monitor.Tally 0)

include htally

theorem inv_checkOutput : monitor.checkOutput.Inv := by
  unfold JobMonitor.checkOutput
  dsimp only
  split
  · exact inv_enterLoop hsteady.judgeOutput htally.judgeOutput
      monitor.judged_judgeOutput
  · rename_i hrunning
    exact ⟨hsteady.judgeOutput.at .wait, htally.judgeOutput.at .wait,
      Bool.not_eq_true _ |>.mp hrunning, monitor.judged_judgeOutput⟩

theorem inv_forward (stream : JobStream) (later : Bool) :
    (monitor.forward stream later).Inv :=
  ⟨⟨Nat.zero_le _, hsteady.killed, hsteady.done, hsteady.signals⟩,
    ⟨htally.read, htally.output, htally.exceeded⟩, trivial⟩

theorem inv_drainStderr (stderr : Bool) : (monitor.drainStderr stderr).Inv := by
  unfold JobMonitor.drainStderr
  split
  · exact inv_forward hsteady htally .stderr false
  · exact inv_checkOutput hsteady htally

theorem inv_drain (stdout stderr : Bool) :
    (monitor.drain stdout stderr).Inv := by
  unfold JobMonitor.drain
  split
  · exact inv_forward hsteady htally .stdout stderr
  · exact inv_drainStderr hsteady htally stderr

theorem inv_leave (stream : JobStream) (later : Bool) :
    (monitor.leave stream later).Inv := by
  cases stream with
  | stdout => exact inv_drainStderr hsteady htally later
  | stderr => exact inv_checkOutput hsteady htally

theorem inv_closeLeave (stream : JobStream) (later : Bool) :
    ((monitor.closeStream stream).leave stream later).Inv := by
  apply inv_leave
  · cases stream <;>
      exact ⟨hsteady.call, hsteady.killed, hsteady.done, hsteady.signals⟩
  · cases stream <;> exact ⟨htally.read, htally.output, htally.exceeded⟩

theorem inv_killJobGroup (resume : JobResume)
    (hloop : resume = .loop → monitor.childDone = true) :
    (monitor.killJobGroup resume).Inv :=
  ⟨⟨hsteady.call, rfl, hsteady.done, hsteady.signals⟩,
    ⟨htally.read, htally.output, htally.exceeded⟩, rfl, hloop⟩

theorem inv_checkLimits (now : Int) : (monitor.checkLimits now).Inv := by
  have hjudged := hsteady.judgeWall now
  have hcounted := htally.judgeWall now
  unfold JobMonitor.checkLimits
  dsimp only
  split
  · exact inv_killJobGroup hjudged hcounted .poll fun hloop => nomatch hloop
  · exact ⟨hjudged.at .poll, hcounted.at .poll, trivial⟩

end

end

variable {count : Nat}

/-- The counter wraps only long after the limit. -/
theorem exceeded_account (prior : Nat) (hcount : count ≤ forwardBufferSize) :
    (decide (jobOutputBytes < prior) ||
      decide (jobOutputBytes < (prior + count) % 2 ^ 64)) =
    decide (jobOutputBytes < prior + count) := by
  unfold jobOutputBytes
  unfold forwardBufferSize at hcount
  by_cases hprior : 32768 < prior
  · have hsum : 32768 < prior + count := by omega
    simp [hprior, hsum]
  · have hsmall : (prior + count) % 2 ^ 64 = prior + count := by omega
    rw [hsmall, decide_eq_false hprior, Bool.false_or]

theorem inv_account (hsteady : monitor.Steady) (htally : monitor.Tally count)
    (hcount : count ≤ forwardBufferSize) (stream : JobStream) (later : Bool) :
    (monitor.account stream later count).Inv := by
  obtain ⟨hread, houtput, hexceeded⟩ := htally
  have htotal : (monitor.output + count) % 2 ^ 64 =
      monitor.bytesRead % 2 ^ 64 := by
    rw [houtput, Nat.mod_add_mod, Nat.sub_add_cancel hread]
  refine ⟨⟨hsteady.call, hsteady.killed, hsteady.done, hsteady.signals⟩,
    ⟨Nat.zero_le _, htotal, ?_⟩, trivial⟩
  have hboth := exceeded_account (monitor.bytesRead - count) hcount
  rw [Nat.sub_add_cancel hread, ← hexceeded, ← htotal] at hboth
  exact hboth

/-- The counters are behind by the bytes that were just read. -/
theorem Tally.noteRead (htally : monitor.Tally 0) (count now : Nat) :
    (monitor.noteRead count now).Tally count := by
  have hread : (monitor.noteRead count now).bytesRead - count =
      monitor.bytesRead - 0 := Nat.add_sub_cancel _ _
  refine ⟨Nat.le_add_left _ _, ?_, ?_⟩
  · rw [hread]
    exact htally.output
  · rw [hread]
    exact htally.exceeded

theorem Steady.noteRead (hsteady : monitor.Steady) (count now : Nat) :
    (monitor.noteRead count now).Steady :=
  ⟨Nat.le_max_right _ _, hsteady.killed, hsteady.done, hsteady.signals⟩

variable {stream : JobStream} {resume : JobResume}

theorem inv_readStep (hinv : monitor.Inv) {later : Bool}
    (hphase : monitor.phase = .read stream later) (now : Nat)
    (answer : ReadAnswer) :
    (monitor.readStep quiet stream later now answer).Inv := by
  have htally : monitor.Tally 0 := by
    have hpending := hinv.tally
    rw [pending, hphase] at hpending
    exact hpending
  cases answer with
  | data index =>
    have hcount : index.val + 1 ≤ forwardBufferSize := index.isLt
    have hnoted := hinv.steady.noteRead (index.val + 1) now
    have hcounted := htally.noteRead (index.val + 1) now
    unfold JobMonitor.readStep
    dsimp only
    split
    · exact ⟨hnoted.at _, hcounted.at _, hcount⟩
    · exact inv_account hnoted hcounted hcount stream later
  | endOfFile => exact inv_closeLeave hinv.steady htally stream later
  | interrupted => exact hinv
  | wouldBlock => exact inv_leave hinv.steady htally stream later
  | failed => exact inv_closeLeave hinv.steady htally stream later

theorem inv_writeStep (hinv : monitor.Inv) {later : Bool}
    {accepted offset : Nat}
    (hphase : monitor.phase = .write stream later count accepted offset)
    (answer : WriteAnswer) :
    (monitor.writeStep stream later count accepted offset answer).Inv := by
  have htally : monitor.Tally count := by
    have hpending := hinv.tally
    rw [pending, hphase] at hpending
    exact hpending
  have hcount : count ≤ forwardBufferSize := by
    have hok := hinv.phase
    rw [PhaseOk, hphase] at hok
    exact hok
  have haccount := inv_account hinv.steady htally hcount stream later
  cases answer with
  | wrote written =>
    unfold JobMonitor.writeStep
    dsimp only
    split
    · exact haccount
    · split
      · exact ⟨hinv.steady.at _, htally.at _, hcount⟩
      · exact haccount
  | interrupted => exact hinv
  | failed => exact haccount

theorem inv_waited (hinv : monitor.Inv) (hphase : monitor.phase = .wait)
    (answer : WaitAnswer) : (monitor.waited answer).Inv := by
  have htally : monitor.Tally 0 := by
    have hpending := hinv.tally
    rw [pending, hphase] at hpending
    exact hpending
  obtain ⟨hrunning, hjudged⟩ : monitor.childDone = false ∧ monitor.Judged := by
    have hok := hinv.phase
    rw [PhaseOk, hphase] at hok
    exact hok
  have hsteady := hinv.steady
  -- what was read until now has been judged
  have hread : jobOutputBytes < monitor.bytesRead →
      monitor.policyReason ≠ none := by
    intro hlimit
    apply hjudged hrunning
    rw [htally.exceeded]
    exact decide_eq_true hlimit
  cases answer with
  | running | interrupted => exact inv_enterLoop hsteady htally hjudged
  | reaped status =>
    have hdone : { monitor with
        childDone := true, status := status, reaped := true
        doneBytes := some monitor.bytesRead }.Steady :=
      ⟨hsteady.call, hsteady.killed,
        fun _ hcount => Option.some.inj hcount ▸ hread, hsteady.signals⟩
    unfold JobMonitor.waited
    dsimp only
    split
    · exact inv_enterLoop hdone ⟨htally.read, htally.output, htally.exceeded⟩
        fun hstill => nomatch hstill
    · exact inv_killJobGroup hdone
        ⟨htally.read, htally.output, htally.exceeded⟩ .loop fun _ => rfl
  | failed =>
    apply inv_enterLoop
    · refine ⟨hsteady.call, hsteady.killed, ?_, hsteady.signals⟩
      intro _ _ _ hnone
      exact absurd (Option.or_eq_none_iff.mp hnone).2 (Option.some_ne_none _)
    · exact ⟨htally.read, htally.output, htally.exceeded⟩
    · exact fun hstill => nomatch hstill

theorem inv_resumeAt (hsteady : monitor.Steady) (htally : monitor.Tally 0)
    (hloop : resume = .loop → monitor.childDone = true) :
    (monitor.resumeAt resume).Inv := by
  cases resume with
  | poll => exact ⟨hsteady.at .poll, htally.at .poll, trivial⟩
  | drain stdout stderr => exact inv_drain hsteady htally stdout stderr
  | loop =>
    apply inv_enterLoop hsteady htally
    intro hrunning
    exact absurd ((hloop rfl).symm.trans hrunning) Bool.noConfusion

theorem Missed.cons {signals : List JobSignal} (hmissed : Missed signals)
    (signal : JobSignal) : Missed (signal :: signals) := by
  obtain ⟨old, hold, hwhat⟩ := hmissed
  exact ⟨old, List.mem_cons_of_mem signal hold, hwhat⟩

/-- A signal to the leader after its reap needs a group kill that missed. -/
theorem Steady.signal (hsteady : monitor.Steady) (target : JobTarget)
    (answer : KillAnswer) (hmissed : target = .leader →
      monitor.reaped = true → Missed monitor.signals) :
    (monitor.signal target answer).Steady := by
  refine ⟨hsteady.call, hsteady.killed, hsteady.done, ?_⟩
  intro sent hsent htarget hreaped
  apply Missed.cons
  rcases List.mem_cons.mp hsent with rfl | hold
  · exact hmissed htarget hreaped
  · exact hsteady.signals sent hold htarget hreaped

theorem inv_killGroupStep (hinv : monitor.Inv)
    (hphase : monitor.phase = .killGroup resume) (answer : KillAnswer) :
    (monitor.killGroupStep resume answer).Inv := by
  have htally : monitor.Tally 0 := by
    have hpending := hinv.tally
    rw [pending, hphase] at hpending
    exact hpending
  obtain ⟨hkilled, hloop⟩ : monitor.killCalled = true ∧
      (resume = .loop → monitor.childDone = true) := by
    have hok := hinv.phase
    rw [PhaseOk, hphase] at hok
    exact hok
  have hsent := hinv.steady.signal .group answer fun hleader => nomatch hleader
  have hcounted : (monitor.signal .group answer).Tally 0 :=
    ⟨htally.read, htally.output, htally.exceeded⟩
  unfold JobMonitor.killGroupStep
  dsimp only
  split
  · rename_i hmissing
    refine ⟨hsent.at _, hcounted.at _, hkilled, hloop, ?_⟩
    intro hreaped
    exact ⟨_, List.mem_cons_self, rfl, hreaped, decide_eq_true hmissing⟩
  · exact inv_resumeAt hsent hcounted hloop

theorem inv_polled (hinv : monitor.Inv) (htally : monitor.Tally 0)
    (answer : PollAnswer) : (monitor.polled answer).Inv := by
  cases answer with
  | ready stdout stderr => exact inv_drain hinv.steady htally stdout stderr
  | interrupted => exact hinv
  | failed stdout stderr =>
    exact inv_killJobGroup (hinv.steady.judge .monitor)
      (htally.judge .monitor) _ fun hloop => nomatch hloop

theorem inv_step (hinv : monitor.Inv) (answer : JobAnswer) :
    (monitor.step quiet answer).Inv := by
  have hok := hinv.phase
  have htally := hinv.tally
  have hsteady := hinv.steady
  unfold JobMonitor.step
  split <;> rename_i hphase <;>
    simp only [PhaseOk, pending, hphase] at hok htally
  · apply inv_enterLoop
    · exact ⟨hsteady.call, hsteady.killed, hsteady.done, hsteady.signals⟩
    · exact ⟨htally.read, htally.output, htally.exceeded⟩
    · exact hok.1
  · exact inv_checkLimits hsteady htally _
  · exact inv_polled hinv htally _
  · exact inv_killGroupStep hinv hphase _
  · apply inv_resumeAt (hsteady.signal .leader _ fun _ => hok.2.2)
    · exact ⟨htally.read, htally.output, htally.exceeded⟩
    · exact hok.2.1
  · exact inv_readStep hinv hphase _ _
  · exact inv_writeStep hinv hphase _
  · exact inv_waited hinv hphase _
  · exact ⟨hsteady.at _, htally.at _, rfl⟩
  · exact hinv

theorem inv_start : ({} : JobMonitor).Inv := by
  refine ⟨⟨le_rfl, rfl, ?_, ?_⟩, ⟨le_rfl, rfl, rfl⟩, ?_⟩
  · exact fun _ hcount => nomatch hcount
  · exact fun _ hsignal => nomatch hsignal
  · exact ⟨fun _ hexceeded => (nomatch hexceeded), rfl⟩

end JobMonitor

variable {quiet : Bool} {answers : List JobAnswer}

theorem monitorJob_inv : (monitorJob quiet answers).Inv :=
  Machine.run_invariant JobMonitor.inv_start
    fun _ answer _ hinv => JobMonitor.inv_step hinv answer

/-- A job that exceeds the output limit before it is reaped is reported as
killed, with the code of a policy. -/
theorem monitorJob_reports_killed {report : JobReport} {count : Nat}
    (hreport : (monitorJob quiet answers).phase = .done report)
    (hdone : (monitorJob quiet answers).doneBytes = some count)
    (hlimit : jobOutputBytes < count) :
    (∃ reason, report.outcome = .killed reason) ∧
      (report.outcome.code = 124 ∨ report.outcome.code = 125) := by
  have hinv : (monitorJob quiet answers).Inv := monitorJob_inv
  have hreason := hinv.steady.done count hdone hlimit
  have houtcome : report.outcome = (monitorJob quiet answers).outcome := by
    have hok := hinv.phase
    rw [JobMonitor.PhaseOk, hreport] at hok
    exact hok
  obtain ⟨reason, hsome⟩ := Option.ne_none_iff_exists'.mp hreason
  have hkilled : report.outcome = .killed reason := by
    rw [houtcome, JobMonitor.outcome, hsome]
  refine ⟨⟨reason, hkilled⟩, ?_⟩
  rw [hkilled]
  cases reason with
  | wall => exact .inl rfl
  | monitor | output | wait => exact .inr rfl

def quietAnswer : JobAnswer := {}

/-- Answers to the system calls of one round of the loop up to `waitpid`, with
`reads` full buffers on standard output. -/
def outputRound (reads : Nat) : List JobAnswer :=
  [quietAnswer, { poll := .ready true false }] ++
    List.replicate reads { read := .data fullBuffer } ++ [{ read := .wouldBlock }]

/-- Answers that close both streams and end `monitor_job`. -/
def closingRounds : List JobAnswer :=
  [quietAnswer, { poll := .ready true true }, { read := .endOfFile },
    { read := .endOfFile }, quietAnswer]

/-- A job that writes too much, is killed and reaped. -/
def greedyJob : List JobAnswer :=
  [quietAnswer] ++ outputRound 33 ++ [{ wait := .running }, quietAnswer, { kill := .delivered },
    quietAnswer, { wait := .reaped 9#32 }] ++ closingRounds

theorem greedyJob_reports_killed :
    ∃ report, (monitorJob true greedyJob).phase = .done report ∧
      report.outcome = .killed .output ∧
      (report.outcome.code = 124 ∨ report.outcome.code = 125) := by
  have hreport : (monitorJob true greedyJob).phase =
      .done ⟨.killed .output, 33792, 0⟩ := by decide
  have hdone : (monitorJob true greedyJob).doneBytes = some 33792 := by decide
  have hkilled := monitorJob_reports_killed hreport hdone (by decide)
  exact ⟨_, hreport, rfl, hkilled.2⟩

/-- A job that writes as much but is reaped before its output is read. -/
def quickJob : List JobAnswer :=
  [quietAnswer, quietAnswer, { poll := .ready false false }, { wait := .reaped 0#32 },
    { kill := .delivered }] ++ outputRound 33 ++ closingRounds

/-- More than the limit is read, and the job's own status is reported. -/
theorem quickJob_reports_exit :
    jobOutputBytes < (monitorJob true quickJob).bytesRead ∧
      ∃ report, (monitorJob true quickJob).phase = .done report ∧
        report.outcome = .exited 0 ∧ report.outcome.code = 0 :=
  ⟨by decide, ⟨.exited 0, 33792, 0⟩, by decide, rfl, rfl⟩

/-- Where no kill of the group after the reap finds the group gone, nothing is
sent to the positive pid after the reap. -/
theorem monitorJob_spares_reaped
    (hfound : ∀ signal ∈ (monitorJob quiet answers).signals,
      signal.target = .group → signal.reaped = true → signal.missing = false) :
    ∀ signal ∈ (monitorJob quiet answers).signals,
      signal.reaped = true → signal.target = .group := by
  intro signal hsignal hreaped
  cases htarget : signal.target with
  | group => rfl
  | leader =>
    obtain ⟨missed, hmissed, hgroup, hlate, hmissing⟩ :=
      monitorJob_inv.steady.signals signal hsignal htarget hreaped
    have hpresent := hfound missed hmissed hgroup hlate
    exact absurd (hmissing.symm.trans hpresent) Bool.noConfusion

/-- A job that exits and leaves a process behind in its group. -/
def leavingJob : List JobAnswer :=
  [quietAnswer, quietAnswer, quietAnswer, { wait := .reaped 0#32 }, { kill := .delivered }]

theorem leavingJob_spares_reaped :
    (monitorJob true leavingJob).signals = [⟨.group, true, false⟩] ∧
      ∀ signal ∈ (monitorJob true leavingJob).signals,
        signal.reaped = true → signal.target = .group :=
  ⟨by decide, monitorJob_spares_reaped (by decide)⟩

/-- A job that exits and leaves nobody behind. -/
def lonelyJob : List JobAnswer :=
  [quietAnswer, quietAnswer, quietAnswer, { wait := .reaped 0#32 }, { kill := .noProcess }, quietAnswer]

/-- The pid of the reaped leader is signalled. -/
theorem lonelyJob_signals_pid : ∃ signal ∈ (monitorJob true lonelyJob).signals,
      signal.reaped = true ∧ signal.target = .leader :=
  ⟨⟨.leader, true, false⟩, by decide, rfl, rfl⟩

end Micronux
