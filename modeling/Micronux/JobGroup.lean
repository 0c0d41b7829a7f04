/-
When the supervisor has stopped waiting for the leader of a job, it has sent
`SIGKILL` to the group of the job: at the leader's end or at a limit before it.
A `waitpid` that fails before this breaks it: the monitor then takes the leader
for gone and sends nothing.
-/
import Micronux.JobSteps

namespace Micronux

/-- `kill(-pid, SIGKILL)` was called when the leader had been found finished or
a policy had been broken. -/
def KillSent (quiet : Bool) (answers : List JobAnswer) : Prop :=
  ∃ earlier answer later resume, answers = earlier ++ answer :: later ∧
    (monitorJob quiet earlier).phase = .killGroup resume ∧
    ((monitorJob quiet earlier).reaped = true ∨
      (monitorJob quiet earlier).policyReason ≠ none)

/-- A `waitpid` failed while the group had not been killed: the leader is taken
for gone all the same. -/
def WaitLost (quiet : Bool) (answers : List JobAnswer) : Prop :=
  ∃ earlier answer later, answers = earlier ++ answer :: later ∧
    (monitorJob quiet earlier).phase = .wait ∧
    (monitorJob quiet earlier).groupKilled = false ∧ answer.wait = .failed

namespace JobMonitor

/-- What every run keeps; `sent` says that a kill of the group has been called,
and `lost` that a `waitpid` failed before it was. -/
structure Watched (sent lost : Prop) (monitor : JobMonitor) : Prop where
  done : monitor.childDone = true → monitor.groupKilled = true ∨ lost
  killed : monitor.groupKilled = true ↔
    sent ∨ ∃ resume, monitor.phase = .killGroup resume
  due : ∀ resume, monitor.phase = .killGroup resume →
    monitor.reaped = true ∨ monitor.policyReason ≠ none
  left : monitor.phase.leftLoop = true → monitor.Finished

variable {monitor after : JobMonitor} {quiet : Bool} {sent lost : Prop}

theorem watched_killJobGroup {resume : JobResume}
    (hdue : monitor.reaped = true ∨ monitor.policyReason ≠ none) :
    Watched sent lost (monitor.killJobGroup resume) :=
  ⟨fun _ => .inl rfl, ⟨fun _ => .inr ⟨resume, rfl⟩, fun _ => rfl⟩,
    fun _ _ => hdue, fun hout => absurd hout Bool.false_ne_true⟩

theorem SameJob.watched (hsame : SameJob monitor after)
    (hdone : monitor.childDone = true → monitor.groupKilled = true ∨ lost)
    (hkilled : monitor.groupKilled = true ↔ sent)
    (hphase : ∀ resume, after.phase ≠ .killGroup resume)
    (hleft : after.phase.leftLoop = true → after.Finished) :
    Watched sent lost after := by
  obtain ⟨hchild, hgroup, -⟩ := hsame
  refine ⟨?_, ?_, fun resume hkill => absurd hkill (hphase resume), hleft⟩
  · rw [hchild, hgroup]
    exact hdone
  · rw [hgroup, hkilled]
    exact ⟨.inl, fun hsent => hsent.resolve_right fun ⟨resume, hkill⟩ =>
      hphase resume hkill⟩

theorem Moved.watched (hmoved : Moved monitor after)
    (hdone : monitor.childDone = true → monitor.groupKilled = true ∨ lost)
    (hkilled : monitor.groupKilled = true ↔ sent) :
    Watched sent lost after := by
  have hphase := hmoved.phase
  refine hmoved.toSameJob.watched hdone hkilled ?_ ?_
  · intro resume hkill
    rw [hkill] at hphase
    cases hphase
  · intro hout
    cases hnext : after.phase with
    | finish => exact hmoved.left hnext
    | done report =>
      rw [hnext] at hphase
      cases hphase
    | _ =>
      rw [hnext] at hout
      cases hout

section

variable (hdone : monitor.childDone = true → monitor.groupKilled = true ∨ lost)
  (hkilled : monitor.groupKilled = true ↔ sent)
include hdone hkilled

theorem watched_checkLimits (now : Int) :
    Watched sent lost (monitor.checkLimits now) := by
  unfold checkLimits
  dsimp only
  split
  · next hpolicy =>
      simp only [Bool.and_eq_true] at hpolicy
      exact watched_killJobGroup
        (.inr (Option.isSome_iff_ne_none.mp hpolicy.1.2))
  · exact ((same_judgeWall monitor now).moved
      (moved_at rfl (by decide))).watched hdone hkilled

theorem watched_polled (hsame : Watched sent lost monitor)
    (answer : PollAnswer) : Watched sent lost (monitor.polled answer) := by
  cases answer with
  | ready stdout stderr =>
    exact (moved_drain monitor stdout stderr).watched hdone hkilled
  | interrupted => exact hsame
  | failed stdout stderr =>
    exact watched_killJobGroup (.inr (Option.some_ne_none _))

theorem watched_account {stream : JobStream} {later : Bool} {count : Nat} :
    Watched sent lost (monitor.account stream later count) :=
  SameJob.watched ⟨rfl, rfl, rfl⟩ hdone hkilled
    (fun _ hkill => absurd hkill (by simp [account]))
    (fun hout => absurd hout Bool.false_ne_true)

theorem watched_readStep (hsame : Watched sent lost monitor)
    (stream : JobStream) (later : Bool) (now : Nat) (answer : ReadAnswer) :
    Watched sent lost (monitor.readStep quiet stream later now answer) := by
  cases answer with
  | data index =>
    unfold readStep
    dsimp only
    split
    · exact SameJob.watched ⟨rfl, rfl, rfl⟩ hdone hkilled
        (fun _ hkill => absurd hkill (by simp))
        (fun hout => absurd hout Bool.false_ne_true)
    · apply watched_account
      · exact hdone
      · exact hkilled
  | endOfFile | failed =>
    exact (moved_closeLeave monitor stream later).watched hdone hkilled
  | interrupted => exact hsame
  | wouldBlock =>
    exact (moved_leave monitor stream later).watched hdone hkilled

theorem watched_writeStep (hsame : Watched sent lost monitor)
    (stream : JobStream) (later : Bool) (count accepted offset : Nat)
    (answer : WriteAnswer) : Watched sent lost
      (monitor.writeStep stream later count accepted offset answer) := by
  have haccount : Watched sent lost (monitor.account stream later count) :=
    watched_account hdone hkilled
  cases answer with
  | wrote written =>
    unfold writeStep
    dsimp only
    split
    · exact haccount
    · split
      · exact SameJob.watched ⟨rfl, rfl, rfl⟩ hdone hkilled
          (fun _ hkill => absurd hkill (by simp))
          (fun hout => absurd hout Bool.false_ne_true)
      · exact haccount
  | interrupted => exact hsame
  | failed => exact haccount

/-- The reap of the leader is followed by a kill of its group, unless a limit
has already led to one; a failed `waitpid` is followed by none. -/
theorem watched_waited {answer : WaitAnswer}
    (hlost : answer = .failed → monitor.groupKilled = false → lost) :
    Watched sent lost (monitor.waited answer) := by
  cases answer with
  | running | interrupted =>
    exact (moved_enterLoop monitor).watched hdone hkilled
  | reaped status =>
    unfold waited
    dsimp only
    split
    · next hgroup =>
        exact (moved_enterLoop _).watched (fun _ => .inl hgroup) hkilled
    · exact watched_killJobGroup (.inl rfl)
  | failed =>
    have hgroup : monitor.groupKilled = true ∨ lost :=
      (Bool.eq_false_or_eq_true _).imp_right (hlost rfl)
    exact (moved_enterLoop _).watched (fun _ => hgroup) hkilled

end

theorem watched_killGroupStep (hsent : sent)
    (hdone : monitor.childDone = true → monitor.groupKilled = true ∨ lost)
    (hkilled : monitor.groupKilled = true) (resume : JobResume)
    (answer : KillAnswer) :
    Watched sent lost (monitor.killGroupStep resume answer) := by
  have hsame : monitor.groupKilled = true ↔ sent := iff_of_true hkilled hsent
  unfold killGroupStep
  dsimp only
  split
  · exact SameJob.watched ⟨rfl, rfl, rfl⟩ hdone hsame
      (fun _ hkill => absurd hkill (by simp))
      (fun hout => absurd hout Bool.false_ne_true)
  · exact ((same_signal monitor .group answer).moved
      (moved_resumeAt _ resume)).watched hdone hsame

/-- One system call, which may be the kill of the group or lose the leader. -/
theorem watched_step {more : Prop} (hwatched : Watched sent lost monitor)
    {answer : JobAnswer} (hmore : lost → more)
    (hlost : monitor.phase = .wait → monitor.groupKilled = false →
      answer.wait = .failed → more) :
    Watched (sent ∨ ∃ resume, monitor.phase = .killGroup resume) more
      (monitor.step quiet answer) := by
  obtain ⟨hdone, hkilled, hdue, hleft⟩ := hwatched
  replace hdone := fun hset => (hdone hset).imp_right hmore
  have hsame : Watched (sent ∨ ∃ resume, monitor.phase = .killGroup resume)
      more monitor :=
    ⟨hdone, hkilled.trans ⟨.inl, fun hsent => hsent.elim id .inr⟩, hdue, hleft⟩
  unfold step
  split
  · exact (moved_enterLoop _).watched hdone hkilled
  · exact watched_checkLimits hdone hkilled _
  · exact watched_polled hdone hkilled hsame _
  · next resume hphase =>
      have hsent : sent ∨ ∃ resume, monitor.phase = .killGroup resume :=
        .inr ⟨resume, hphase⟩
      exact watched_killGroupStep hsent hdone (hkilled.mpr hsent) resume _
  · exact ((same_signal monitor .leader _).moved
      (moved_resumeAt _ _)).watched hdone hkilled
  · exact watched_readStep hdone hkilled hsame _ _ _ _
  · exact watched_writeStep hdone hkilled hsame _ _ _ _ _ _
  · next hphase =>
      exact watched_waited hdone hkilled fun hfailed hgroup =>
        hlost hphase hgroup hfailed
  · next hphase =>
      have hout := hleft (by rw [hphase]; rfl)
      exact SameJob.watched ⟨rfl, rfl, rfl⟩ hdone hkilled
        (fun _ hkill => absurd hkill (by simp))
        fun _ => ⟨hout.childDone, hout.stdout, hout.stderr⟩
  · exact hsame

theorem watched_start (hsent : ¬sent) : Watched sent lost {} :=
  ⟨fun hset => absurd hset Bool.false_ne_true, by simp [hsent],
    fun _ hkill => absurd hkill (by simp),
    fun hout => absurd hout Bool.false_ne_true⟩

end JobMonitor

theorem monitorJob_append (quiet : Bool) (answers : List JobAnswer)
    (answer : JobAnswer) :
    monitorJob quiet (answers ++ [answer]) =
      (monitorJob quiet answers).step quiet answer :=
  Machine.run_append answers [answer]

variable {answers : List JobAnswer}

/-- The last call of a run may be the kill. -/
theorem killSent_append {quiet : Bool}
    (hdue : ∀ resume, (monitorJob quiet answers).phase = .killGroup resume →
      (monitorJob quiet answers).reaped = true ∨
        (monitorJob quiet answers).policyReason ≠ none) (answer : JobAnswer) :
    KillSent quiet (answers ++ [answer]) ↔ KillSent quiet answers ∨
      ∃ resume, (monitorJob quiet answers).phase = .killGroup resume := by
  constructor
  · rintro ⟨earlier, first, later, resume, heq, hkill⟩
    rcases List.eq_nil_or_concat later with rfl | ⟨later, last, rfl⟩
    · obtain rfl := (List.append_inj' heq rfl).1
      exact .inr ⟨resume, hkill.1⟩
    · rw [List.concat_eq_append, ← List.cons_append, ← List.append_assoc] at heq
      exact .inl ⟨earlier, first, later, resume, (List.append_inj' heq rfl).1,
        hkill⟩
  · rintro (⟨earlier, first, later, resume, rfl, hkill⟩ | ⟨resume, hphase⟩)
    · exact ⟨earlier, first, later ++ [answer], resume, by simp, hkill⟩
    · exact ⟨answers, answer, [], resume, rfl, hphase, hdue resume hphase⟩

theorem WaitLost.append {quiet : Bool} (hlost : WaitLost quiet answers)
    (rest : List JobAnswer) :
    WaitLost quiet (answers ++ rest) := by
  obtain ⟨earlier, first, later, rfl, hwait⟩ := hlost
  exact ⟨earlier, first, later ++ rest, by simp, hwait⟩

theorem monitorJob_watched (quiet : Bool) (answers : List JobAnswer) :
    (monitorJob quiet answers).Watched (KillSent quiet answers)
      (WaitLost quiet answers) := by
  induction answers using List.reverseRecOn with
  | nil => exact JobMonitor.watched_start (by simp [KillSent])
  | append_singleton answers answer ih =>
    rw [monitorJob_append, killSent_append ih.due answer]
    exact JobMonitor.watched_step ih (fun hlost => hlost.append [answer])
      fun hphase hgroup hfailed =>
        ⟨answers, answer, [], rfl, hphase, hgroup, hfailed⟩

/-- The group of the job has been killed, or is being killed by the next call,
once the leader is taken for gone, and it has been when the loop is left; at
every point of a run, exactly if no `waitpid` fails before the kill. -/
theorem monitorJob_kills_group (quiet : Bool) (answers : List JobAnswer) :
    (∀ earlier, earlier <+: answers →
      ((monitorJob quiet earlier).childDone = true → KillSent quiet earlier ∨
        ∃ resume, (monitorJob quiet earlier).phase = .killGroup resume) ∧
      ((monitorJob quiet earlier).phase.leftLoop = true →
        KillSent quiet earlier)) ↔ ¬WaitLost quiet answers := by
  constructor
  · rintro hkills ⟨earlier, answer, later, rfl, hphase, hgroup, hfailed⟩
    have hafter : monitorJob quiet (earlier ++ [answer]) =
        (monitorJob quiet earlier).waited .failed := by
      rw [monitorJob_append, JobMonitor.step, hphase, hfailed]
    have hmoved := JobMonitor.moved_enterLoop { monitorJob quiet earlier with
      status := 0#32, childDone := true
      policyReason := (monitorJob quiet earlier).policyReason.or (some .wait)
      doneBytes := some (monitorJob quiet earlier).bytesRead }
    have hkilled := (monitorJob_watched quiet (earlier ++ [answer])).killed.mpr
      ((hkills _ ⟨later, by simp⟩).1 (hafter ▸ hmoved.childDone))
    rw [hafter] at hkilled
    exact absurd (hmoved.groupKilled.symm.trans hkilled) (by simp [hgroup])
  · rintro hlost earlier ⟨later, rfl⟩
    have hwatched := monitorJob_watched quiet earlier
    have hkill := fun hdone => hwatched.killed.mp
      ((hwatched.done hdone).resolve_right fun hwait =>
        hlost (hwait.append later))
    refine ⟨hkill, fun hout => ?_⟩
    rcases hkill (hwatched.left hout).childDone with hsent | ⟨resume, hphase⟩
    · exact hsent
    · rw [hphase] at hout
      cases hout

/-- A job that runs into the wall limit and cannot be waited for. -/
def overdueJob : List JobAnswer :=
  [{}, { now := 2000 }, {}, { poll := .ready false false }, { wait := .failed },
    {}, { poll := .ready true true }, { read := .endOfFile },
    { read := .endOfFile }, {}]

theorem overdueJob_waits : ¬WaitLost false overdueJob := by
  rintro ⟨earlier, answer, later, heq, -, hgroup, hfailed⟩
  have hwaits : ∀ index < 10,
      overdueJob[index]?.map JobAnswer.wait = some .failed →
      (monitorJob false (overdueJob.take index)).groupKilled = true := by
    decide
  have hlength : 10 = earlier.length + (later.length + 1) := by
    simpa [overdueJob] using congrArg List.length heq
  have hkilled := hwaits earlier.length (by omega) (by simp [heq, hfailed])
  simp [heq, hgroup] at hkilled

theorem overdueJob_monitorJob_kills_group : KillSent false overdueJob :=
  ((monitorJob_kills_group false overdueJob).mpr overdueJob_waits _
    List.prefix_rfl).2 (by decide)

/-- A job that exits at once, with a `waitpid` that fails as it does where
`SIGCHLD` is ignored. -/
def lostJob : List JobAnswer :=
  [{}, {}, { poll := .ready false false }, { wait := .failed }, {},
    { poll := .ready true true }, { read := .endOfFile },
    { read := .endOfFile }, {}]

theorem lostJob_never_killed :
    (monitorJob false lostJob).phase.leftLoop = true ∧
      (monitorJob false lostJob).childDone = true ∧
      (monitorJob false lostJob).killCalled = false ∧
      (monitorJob false lostJob).signals = [] := by
  decide

/-- A descendant that keeps standard output open and writes nothing: one round
of the loop, long past the wall limit. -/
def idleRound : List JobAnswer :=
  [{ now := 1000000 }, { poll := .ready false false }]

/-- After a failed `waitpid` the monitor waits for the descendant without end
and without a signal to it. -/
theorem lost_waits_forever (rounds : Nat) : (monitorJob false (lostJob.take 4 ++
        (List.replicate rounds idleRound).flatten)).phase = .clock ∧
      (monitorJob false (lostJob.take 4 ++
        (List.replicate rounds idleRound).flatten)).signals = [] := by
  have hround : monitorJob false (lostJob.take 4 ++ idleRound) =
      monitorJob false (lostJob.take 4) := by decide
  have hsame : monitorJob false (lostJob.take 4 ++
      (List.replicate rounds idleRound).flatten) =
      monitorJob false (lostJob.take 4) := by
    induction rounds with
    | zero => rfl
    | succ rounds ih =>
      rw [List.replicate_succ, List.flatten_cons, ← List.append_assoc]
      unfold monitorJob at hround ih ⊢
      rw [Machine.run_append, hround, ← Machine.run_append, ih]
  rw [hsame]
  decide

end Micronux
