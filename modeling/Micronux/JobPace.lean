/-
How much the monitor reads past a limit before it kills the job.  The limits
are checked once in a round of the loop, so it is at most what two calls of
`forward_output` read; one call reads as long as the job keeps writing.
-/
import Micronux.JobRuns
import Micronux.JobSteps

namespace Micronux

def ClockForward (answers : List JobAnswer) : Prop :=
  answers.Pairwise fun earlier later => earlier.now ≤ later.now

theorem clockForward_of_still {answers : List JobAnswer}
    (hstill : ∀ answer ∈ answers, answer.now = 0) : ClockForward answers := by
  induction answers with
  | nil => exact .nil
  | cons answer rest ih =>
    refine .cons ?_ (ih fun other hother =>
      hstill other (List.mem_cons_of_mem answer hother))
    intro later _
    rw [hstill answer List.mem_cons_self]
    exact Nat.zero_le _

namespace JobMonitor

def Expired (monitor : JobMonitor) : Prop :=
  jobOutputBytes < monitor.bytesRead ∨
    jobWallMs ≤ monitor.lastRead - monitor.started

/-- While the job runs and nothing has been killed, at most `limit` bytes were
read past a limit. -/
structure Paced (monitor : JobMonitor) (limit : Nat) : Prop where
  expired : 0 < monitor.overdue → monitor.Expired
  budget : monitor.childDone = false → monitor.killCalled = false →
    monitor.overdue ≤ limit

/-- What one round may have read past a limit before the next system call. -/
def allowance (monitor : JobMonitor) : Nat :=
  match monitor.phase with
  | .poll => 0
  | .read .stdout _ | .write .stdout _ _ _ _ => monitor.callBytes
  | .read .stderr _ | .write .stderr _ _ _ _ =>
    monitor.longestCall + monitor.callBytes
  | _ => 2 * monitor.longestCall

def Timely (monitor : JobMonitor) : Prop :=
  monitor.Paced monitor.allowance

variable {monitor : JobMonitor} {quiet : Bool}

theorem Paced.mono {low high : Nat} (hpaced : monitor.Paced low)
    (hle : low ≤ high) : monitor.Paced high :=
  ⟨hpaced.expired, fun hrunning hspared =>
    (hpaced.budget hrunning hspared).trans hle⟩

theorem Paced.of_killed {limit : Nat} (hexpired : 0 < monitor.overdue →
    monitor.Expired) (hkilled : monitor.killCalled = true) :
    monitor.Paced limit :=
  ⟨hexpired, fun _ hspared =>
    absurd (hkilled.symm.trans hspared) Bool.noConfusion⟩

theorem timely_enterLoop (hpaced : monitor.Paced (2 * monitor.longestCall)) :
    monitor.enterLoop.Timely := by
  unfold JobMonitor.enterLoop
  split <;> exact ⟨hpaced.expired, hpaced.budget⟩

theorem Paced.judgeOutput {limit : Nat} (hpaced : monitor.Paced limit) :
    monitor.judgeOutput.Paced limit ∧
      monitor.judgeOutput.longestCall = monitor.longestCall := by
  unfold JobMonitor.judgeOutput
  split
  · exact ⟨⟨hpaced.expired, hpaced.budget⟩, rfl⟩
  · exact ⟨hpaced, rfl⟩

theorem timely_checkOutput (hpaced : monitor.Paced (2 * monitor.longestCall)) :
    monitor.checkOutput.Timely := by
  obtain ⟨hjudged, hlongest⟩ := hpaced.judgeOutput
  rw [← hlongest] at hjudged
  unfold JobMonitor.checkOutput
  dsimp only
  split
  · exact timely_enterLoop hjudged
  · exact ⟨hjudged.expired, hjudged.budget⟩

theorem timely_drainStderr (hpaced : monitor.Paced monitor.longestCall)
    (stderr : Bool) : (monitor.drainStderr stderr).Timely := by
  unfold JobMonitor.drainStderr
  split
  · exact ⟨hpaced.expired, hpaced.budget⟩
  · apply timely_checkOutput
    apply hpaced.mono
    omega

theorem timely_drain (hpaced : monitor.Paced 0) (stdout stderr : Bool) :
    (monitor.drain stdout stderr).Timely := by
  unfold JobMonitor.drain
  split
  · exact ⟨hpaced.expired, hpaced.budget⟩
  · exact timely_drainStderr (hpaced.mono (Nat.zero_le _)) stderr

variable {stream : JobStream} {count : Nat} {later : Bool}

theorem timely_leave (hsteady : monitor.Steady)
    (hphase : monitor.phase = .read stream later) (htimely : monitor.Timely) :
    (monitor.leave stream later).Timely := by
  have hcall := hsteady.call
  unfold Timely allowance at htimely
  rw [hphase] at htimely
  cases stream with
  | stdout => exact timely_drainStderr (htimely.mono hcall) later
  | stderr =>
    apply timely_checkOutput
    apply htimely.mono
    dsimp only
    omega

theorem timely_closeLeave (hsteady : monitor.Steady)
    (hphase : monitor.phase = .read stream later) (htimely : monitor.Timely) :
    ((monitor.closeStream stream).leave stream later).Timely := by
  apply timely_leave
  · cases stream <;>
      exact ⟨hsteady.call, hsteady.killed, hsteady.done, hsteady.signals⟩
  · cases stream <;> exact hphase
  · cases stream <;> exact ⟨htimely.expired, htimely.budget⟩

/-- A read counts against the limit that had been passed before it. -/
theorem Paced.noteRead {limit : Nat} (hpaced : monitor.Paced limit)
    (count : Nat) {now : Nat} (hlast : monitor.lastRead ≤ now) :
    (monitor.noteRead count now).Paced (limit + count) := by
  have hlater : monitor.Expired → (monitor.noteRead count now).Expired := by
    rintro (hread | hwall)
    · exact .inl (Nat.lt_add_right count hread)
    · refine .inr (hwall.trans ?_)
      exact Int.sub_le_sub_right (Int.ofNat_le.mpr hlast) _
  refine ⟨?_, ?_⟩
  · intro hoverdue
    by_cases hpast : (monitor.pastLimit now && !monitor.killCalled) = true
    · rw [Bool.and_eq_true, pastLimit, Bool.or_eq_true] at hpast
      rcases hpast.1 with hread | hwall
      · exact .inl (Nat.lt_add_right count (of_decide_eq_true hread))
      · exact .inr (of_decide_eq_true hwall)
    · apply hlater
      apply hpaced.expired
      simpa only [JobMonitor.noteRead, if_neg hpast] using hoverdue
  · intro hrunning hspared
    have hbefore := hpaced.budget hrunning hspared
    unfold JobMonitor.noteRead
    dsimp only
    split <;> omega

/-- What a call of `forward_output` may have read past a limit. -/
def streamAllowance (monitor : JobMonitor) : JobStream → Nat
  | .stdout => monitor.callBytes
  | .stderr => monitor.longestCall + monitor.callBytes

theorem allowance_read (hphase : monitor.phase = .read stream later) :
    monitor.allowance = monitor.streamAllowance stream := by
  rw [allowance, hphase]
  cases stream <;> rfl

theorem allowance_write {accepted offset : Nat}
    (hphase : monitor.phase = .write stream later count accepted offset) :
    monitor.allowance = monitor.streamAllowance stream := by
  rw [allowance, hphase]
  cases stream <;> rfl

theorem streamAllowance_noteRead (stream : JobStream) (count now : Nat) :
    monitor.streamAllowance stream + count ≤
      (monitor.noteRead count now).streamAllowance stream := by
  cases stream with
  | stdout => exact le_rfl
  | stderr =>
    have hlongest : monitor.longestCall ≤
        max monitor.longestCall (monitor.callBytes + count) :=
      Nat.le_max_left _ _
    show monitor.longestCall + monitor.callBytes + count ≤
      max monitor.longestCall (monitor.callBytes + count) +
        (monitor.callBytes + count)
    omega

theorem allowance_account (stream : JobStream) (later : Bool) (count : Nat) :
    (monitor.account stream later count).allowance =
      monitor.streamAllowance stream := by
  cases stream <;> rfl

theorem timely_account
    (hpaced : monitor.Paced (monitor.streamAllowance stream)) :
    (monitor.account stream later count).Timely := by
  unfold Timely
  rw [allowance_account]
  cases stream <;> exact ⟨hpaced.expired, hpaced.budget⟩

theorem timely_readStep (hsteady : monitor.Steady)
    (hphase : monitor.phase = .read stream later) (htimely : monitor.Timely)
    {now : Nat} (hlast : monitor.lastRead ≤ now) (answer : ReadAnswer) :
    (monitor.readStep quiet stream later now answer).Timely := by
  cases answer with
  | data index =>
    have hpaced : monitor.Paced (monitor.streamAllowance stream) :=
      allowance_read hphase ▸ htimely
    have hnoted := (hpaced.noteRead (index.val + 1) hlast).mono
      (streamAllowance_noteRead stream (index.val + 1) now)
    unfold JobMonitor.readStep
    dsimp only
    split
    · cases stream <;> exact ⟨hnoted.expired, hnoted.budget⟩
    · exact timely_account hnoted
  | endOfFile => exact timely_closeLeave hsteady hphase htimely
  | interrupted => exact htimely
  | wouldBlock => exact timely_leave hsteady hphase htimely
  | failed => exact timely_closeLeave hsteady hphase htimely

theorem timely_writeStep {accepted offset : Nat}
    (hphase : monitor.phase = .write stream later count accepted offset)
    (htimely : monitor.Timely) (answer : WriteAnswer) :
    (monitor.writeStep stream later count accepted offset answer).Timely := by
  have hpaced : monitor.Paced (monitor.streamAllowance stream) :=
    allowance_write hphase ▸ htimely
  cases answer with
  | wrote written =>
    unfold JobMonitor.writeStep
    dsimp only
    split
    · exact timely_account hpaced
    · split
      · cases stream <;> exact ⟨hpaced.expired, hpaced.budget⟩
      · exact timely_account hpaced
  | interrupted => exact htimely
  | failed => exact timely_account hpaced

theorem timely_waited (hphase : monitor.phase = .wait)
    (htimely : monitor.Timely) (answer : WaitAnswer) :
    (monitor.waited answer).Timely := by
  have hpaced : monitor.Paced (2 * monitor.longestCall) := by
    unfold Timely allowance at htimely
    rw [hphase] at htimely
    exact htimely
  cases answer with
  | running | interrupted => exact timely_enterLoop hpaced
  | reaped status =>
    unfold JobMonitor.waited
    dsimp only
    split
    · exact timely_enterLoop ⟨hpaced.expired, fun hrunning => nomatch hrunning⟩
    · exact ⟨hpaced.expired, fun hrunning => nomatch hrunning⟩
  | failed =>
    exact timely_enterLoop ⟨hpaced.expired, fun hrunning => nomatch hrunning⟩

theorem timely_resumeAt (hexpired : 0 < monitor.overdue → monitor.Expired)
    (hkilled : monitor.killCalled = true) (resume : JobResume) :
    (monitor.resumeAt resume).Timely := by
  cases resume with
  | poll => exact .of_killed hexpired hkilled
  | drain stdout stderr =>
    exact timely_drain (.of_killed hexpired hkilled) stdout stderr
  | loop => exact timely_enterLoop (.of_killed hexpired hkilled)

/-- A passed limit has become the reason when the head of the loop looks at
the clock. -/
theorem judged_of_expired (hinv : monitor.Inv) (hphase : monitor.phase = .clock)
    (hexpired : monitor.Expired) (hrunning : monitor.childDone = false)
    {answer : JobAnswer} (hlast : monitor.lastRead ≤ answer.now) :
    (monitor.judgeWall (monotonicMs answer)).policyReason.isSome = true := by
  unfold JobMonitor.judgeWall
  split
  · rfl
  · rename_i hcondition
    by_contra hnone
    rw [Bool.not_eq_true, Option.isSome_eq_false_iff] at hnone
    have hjudged := hinv.phase
    have htally := hinv.tally
    simp only [PhaseOk, pending, hphase] at hjudged htally
    rcases hexpired with hread | hwall
    · apply hjudged hrunning
      · rw [htally.exceeded]
        exact decide_eq_true hread
      · exact Option.isNone_iff_eq_none.mp hnone
    · apply hcondition
      rw [hrunning, hnone, Bool.not_false, Bool.true_and, Bool.true_and,
        Bool.or_eq_true, decide_eq_true_eq, decide_eq_true_eq]
      unfold monotonicMs
      split
      · right
        have hnow : (monitor.lastRead : Int) ≤ answer.now :=
          Int.ofNat_le.mpr hlast
        omega
      · left
        omega

theorem judgeWall_eq (monitor : JobMonitor) (now : Int) :
    monitor.judgeWall now = { monitor with
      policyReason := (monitor.judgeWall now).policyReason } := by
  unfold JobMonitor.judgeWall
  split <;> rfl

theorem timely_checkLimits (hinv : monitor.Inv)
    (hphase : monitor.phase = .clock) (htimely : monitor.Timely)
    {answer : JobAnswer} (hlast : monitor.lastRead ≤ answer.now) :
    (monitor.checkLimits (monotonicMs answer)).Timely := by
  have hsome := judged_of_expired hinv hphase
  unfold JobMonitor.checkLimits
  dsimp only
  rw [judgeWall_eq]
  split
  · exact .of_killed htimely.expired rfl
  · rename_i hcondition
    refine ⟨htimely.expired, fun hrunning hspared => ?_⟩
    by_contra hoverdue
    have hexpired := htimely.expired (Nat.pos_of_ne_zero fun hzero =>
      hoverdue (Nat.le_of_eq hzero))
    apply hcondition
    have hkilled : monitor.groupKilled = false :=
      hinv.steady.killed.trans hspared
    dsimp only at hrunning ⊢
    rw [hrunning, hkilled, hsome hexpired hrunning hlast]
    rfl

theorem timely_polled (hpaced : monitor.Paced 0) (htimely : monitor.Timely)
    (answer : PollAnswer) : (monitor.polled answer).Timely := by
  cases answer with
  | ready stdout stderr => exact timely_drain hpaced stdout stderr
  | interrupted => exact htimely
  | failed stdout stderr => exact .of_killed hpaced.expired rfl

theorem timely_killGroupStep (hexpired : 0 < monitor.overdue → monitor.Expired)
    (hkilled : monitor.killCalled = true) (resume : JobResume)
    (answer : KillAnswer) : (monitor.killGroupStep resume answer).Timely := by
  unfold JobMonitor.killGroupStep
  dsimp only
  split
  · exact .of_killed hexpired hkilled
  · refine timely_resumeAt ?_ ?_ resume
    · exact hexpired
    · exact hkilled

theorem timely_step (hinv : monitor.Inv) (htimely : monitor.Timely)
    {answer : JobAnswer} (hlast : monitor.lastRead ≤ answer.now) :
    (monitor.step quiet answer).Timely := by
  have hok := hinv.phase
  have hpaced := htimely
  unfold JobMonitor.step
  split <;> rename_i hphase <;>
    simp only [PhaseOk, hphase] at hok <;>
    simp only [Timely, allowance, hphase] at hpaced
  · apply timely_enterLoop
    have hnone : ∀ limit, monitor.overdue ≤ limit := by
      rw [hok.2]
      exact Nat.zero_le
    exact ⟨fun hoverdue => absurd hoverdue (Nat.not_lt.mpr (hnone 0)),
      fun _ _ => hnone _⟩
  · exact timely_checkLimits hinv hphase htimely hlast
  · exact timely_polled hpaced htimely _
  · exact timely_killGroupStep hpaced.expired hok.1 _ _
  · refine timely_resumeAt ?_ ?_ _
    · exact hpaced.expired
    · exact hok.1
  · exact timely_readStep hinv.steady hphase htimely hlast _
  · exact timely_writeStep hphase htimely _
  · exact timely_waited hphase htimely _
  · exact ⟨hpaced.expired, hpaced.budget⟩
  · exact htimely

/-- The time of the last read changes only to the time of the answer. -/
theorem lastRead_step (quiet : Bool) (monitor : JobMonitor)
    (answer : JobAnswer) :
    (monitor.step quiet answer).lastRead = monitor.lastRead ∨
      (monitor.step quiet answer).lastRead = answer.now := by
  cases hphase : monitor.phase with
  | read stream later =>
    rw [step, hphase]
    cases hanswer : answer.read with
    | data index =>
      right
      dsimp only [readStep]
      split <;> rfl
    | endOfFile => exact .inl (moved_closeLeave monitor stream later).lastRead
    | interrupted => exact .inl rfl
    | wouldBlock => exact .inl (moved_leave monitor stream later).lastRead
    | failed => exact .inl (moved_closeLeave monitor stream later).lastRead
  | write stream later count accepted offset =>
    left
    rw [step, hphase]
    cases hanswer : answer.write with
    | wrote written =>
      dsimp only [writeStep]
      split
      · rfl
      · split <;> rfl
    | interrupted | failed => rfl
  | _ =>
    have hcalm : monitor.Calm (monitor.step quiet answer) :=
      calm_step (by rw [hphase]; rfl) (by rw [hphase]; simp) answer
    exact .inl hcalm.lastRead

/-- The monitor before the answers that are still to come. -/
structure Punctual (monitor : JobMonitor) (rest : List JobAnswer) : Prop where
  inv : monitor.Inv
  timely : monitor.Timely
  clock : ClockForward rest
  last : ∀ answer ∈ rest, monitor.lastRead ≤ answer.now

theorem punctual_step {rest : List JobAnswer} {answer : JobAnswer}
    (hpunctual : monitor.Punctual (answer :: rest)) :
    (monitor.step quiet answer).Punctual rest := by
  obtain ⟨hinv, htimely, hclock, hlast⟩ := hpunctual
  obtain ⟨hnext, hrest⟩ := List.pairwise_cons.mp hclock
  refine ⟨inv_step hinv answer,
    timely_step hinv htimely (hlast answer List.mem_cons_self), hrest, ?_⟩
  intro later hlater
  rcases lastRead_step quiet monitor answer with hsame | hnow
  · rw [hsame]
    exact hlast later (List.mem_cons_of_mem answer hlater)
  · rw [hnow]
    exact hnext later hlater

theorem punctual_start {answers : List JobAnswer}
    (hclock : ClockForward answers) : ({} : JobMonitor).Punctual answers := by
  refine ⟨inv_start, ⟨?_, fun _ _ => Nat.zero_le _⟩, hclock,
    fun _ _ => Nat.zero_le _⟩
  exact fun hoverdue => absurd hoverdue (Nat.lt_irrefl 0)

end JobMonitor

variable {quiet : Bool} {answers : List JobAnswer}

/-- While the clock never goes back and no call of `forward_output` reads more
than `bound` bytes, a running job is killed before twice that much is read
past a limit. -/
theorem monitorJob_overdue_le (hclock : ClockForward answers) {bound : Nat}
    (hbound : (monitorJob quiet answers).longestCall ≤ bound)
    (hrunning : (monitorJob quiet answers).childDone = false)
    (hspared : (monitorJob quiet answers).killCalled = false) :
    (monitorJob quiet answers).overdue ≤ 2 * bound := by
  have hpunctual : (monitorJob quiet answers).Punctual [] :=
    Machine.run_invariant_rest (JobMonitor.punctual_start hclock)
      fun _ _ _ => JobMonitor.punctual_step
  have hbudget := hpunctual.timely.budget hrunning hspared
  have hcall := hpunctual.inv.steady.call
  apply hbudget.trans
  unfold JobMonitor.allowance
  split <;> omega

/-- Seven buffers are read past the limit by the call that passes it. -/
theorem outputRound_overdue_le :
    (monitorJob true (quietAnswer :: outputRound 40)).overdue = 7168 ∧
      (monitorJob true (quietAnswer :: outputRound 40)).overdue ≤ 2 * 40960 :=
  ⟨by decide +kernel,
    monitorJob_overdue_le (clockForward_of_still (by decide +kernel))
      (by decide +kernel) (by decide +kernel) (by decide +kernel)⟩

/-- A job that fills the pipe as fast as it is drained. -/
def floodingJob (reads : Nat) : List JobAnswer :=
  [quietAnswer, quietAnswer, { poll := .ready true false }] ++
    List.replicate reads { read := .data fullBuffer }

/-- The call of `forward_output` has read so many buffers. -/
structure Flooded (monitor : JobMonitor) (reads : Nat) : Prop where
  phase : monitor.phase = .read .stdout false
  started : monitor.started = 0
  running : monitor.childDone = false
  spared : monitor.killCalled = false
  read : monitor.bytesRead = 1024 * reads
  call : monitor.callBytes = 1024 * reads
  overdue : monitor.overdue = 1024 * (reads - 33)

theorem Flooded.step {monitor : JobMonitor} {reads : Nat}
    (hflooded : Flooded monitor reads) :
    Flooded (monitor.step true { read := .data fullBuffer }) (reads + 1) := by
  obtain ⟨hphase, hstarted, hrunning, hspared, hread, hcall, hoverdue⟩ :=
    hflooded
  have hstep : monitor.step true { read := .data fullBuffer } =
      (monitor.noteRead 1024 0).account .stdout false 1024 := by
    unfold JobMonitor.step
    rw [hphase]
    rfl
  rw [hstep]
  refine ⟨rfl, hstarted, hrunning, hspared, ?_, ?_, ?_⟩
  · show monitor.bytesRead + 1024 = 1024 * (reads + 1)
    omega
  · show monitor.callBytes + 1024 = 1024 * (reads + 1)
    omega
  · show (if monitor.pastLimit 0 && !monitor.killCalled then
      monitor.overdue + 1024 else monitor.overdue) = 1024 * (reads + 1 - 33)
    have hpast : monitor.pastLimit 0 = decide (32 < reads) := by
      unfold JobMonitor.pastLimit jobOutputBytes jobWallMs
      rw [hstarted, hread]
      by_cases hreads : 32 < reads
      · have hlimit : 32768 < 1024 * reads := by omega
        simp [hreads, hlimit]
      · have hlimit : ¬ 32768 < 1024 * reads := by omega
        simp [hreads, hlimit]
    rw [hpast, hspared, hoverdue]
    by_cases hreads : 32 < reads
    · rw [decide_eq_true hreads]
      show 1024 * (reads - 33) + 1024 = 1024 * (reads + 1 - 33)
      omega
    · rw [decide_eq_false hreads]
      show 1024 * (reads - 33) = 1024 * (reads + 1 - 33)
      omega

theorem floodingJob_flooded (reads : Nat) :
    Flooded (monitorJob true (floodingJob reads)) reads := by
  have hloop : ∀ count start monitor, Flooded monitor start →
      Flooded (Machine.run (JobMonitor.step true) monitor
        (List.replicate count { read := .data fullBuffer })) (start + count) := by
    intro count
    induction count with
    | zero => exact fun _ _ hflooded => hflooded
    | succ count ih =>
      intro start monitor hflooded
      have hrest := ih (start + 1) _ hflooded.step
      rw [Nat.add_right_comm] at hrest
      exact hrest
  rw [floodingJob, monitorJob, Machine.run_append]
  have hstart := hloop reads 0 (Machine.run (JobMonitor.step true) {}
    [quietAnswer, quietAnswer, { poll := .ready true false }])
    ⟨by decide, by decide, by decide, by decide, by decide, by decide,
      by decide⟩
  rw [Nat.zero_add] at hstart
  exact hstart

/-- One call reads more than any number past the limit while the job runs. -/
theorem floodingJob_exceeds (bound : Nat) : ∃ answers, ClockForward answers ∧
      (monitorJob true answers).childDone = false ∧
      (monitorJob true answers).killCalled = false ∧
      bound < (monitorJob true answers).callBytes ∧
      bound < (monitorJob true answers).overdue := by
  have hflooded := floodingJob_flooded (bound + 34)
  refine ⟨floodingJob (bound + 34), clockForward_of_still ?_,
    hflooded.running, hflooded.spared, ?_, ?_⟩
  · intro answer hanswer
    rcases List.mem_append.mp hanswer with hfirst | hreads
    · have hstill : ∀ first ∈ ([quietAnswer, quietAnswer,
          { poll := .ready true false }] : List JobAnswer), first.now = 0 := by
        decide
      exact hstill answer hfirst
    · rw [List.eq_of_mem_replicate hreads]
  · rw [hflooded.call]
    omega
  · rw [hflooded.overdue]
    omega

/-- No number bounds what is read past the limit before the job is killed, nor
what one call reads. -/
theorem floodingJob_unbounded : ¬ ∃ bound, ∀ answers, ClockForward answers →
      (monitorJob true answers).childDone = false →
      (monitorJob true answers).killCalled = false →
      (monitorJob true answers).callBytes ≤ bound ∨
        (monitorJob true answers).overdue ≤ bound := by
  rintro ⟨bound, hbound⟩
  obtain ⟨answers, hforward, hrunning, hspared, hcall, hoverdue⟩ :=
    floodingJob_exceeds bound
  rcases hbound answers hforward hrunning hspared with hle | hle
  · exact Nat.not_le.mpr hcall hle
  · exact Nat.not_le.mpr hoverdue hle

end Micronux
