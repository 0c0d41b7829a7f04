/-
The supervisor's monitor of one job: it forwards what the job writes, kills
the job's process group at a limit and reports how the job ended.  Every
system call is one step on the answer of the kernel, so a list of answers is
an arbitrary behaviour of the job, its pipes and the clock.
-/
import Micronux.Machine
import Micronux.UserPool

namespace Micronux

/-- `MICRONUX_JOB_WALL_MS` -/
def jobWallMs : Int := 2000

/-- `MICRONUX_JOB_OUTPUT_BYTES` -/
def jobOutputBytes : Nat := 32768

/-- The `buffer` of `forward_output` -/
def forwardBufferSize : Nat := 1024

inductive JobStream where
  | stdout
  | stderr
deriving DecidableEq

/-- `policy_reason` -/
inductive PolicyReason where
  | wall
  | monitor
  | output
  | wait
deriving DecidableEq

/-- Whom `kill` addresses: `-pid` or `pid`. -/
inductive JobTarget where
  | group
  | leader
deriving DecidableEq

/-- What `read` returns: at most a buffer of bytes, the end of the stream, or
an error. -/
inductive ReadAnswer where
  | data (count : Fin forwardBufferSize)
  | endOfFile
  | interrupted
  | wouldBlock
  | failed
deriving DecidableEq

def fullBuffer : Fin forwardBufferSize :=
  ⟨1023, by decide⟩

inductive WriteAnswer where
  | wrote (count : Nat)
  | interrupted
  | failed
deriving DecidableEq

/-- What `poll` returns, and which of the two streams have events of
interest; a failed `poll` leaves what the records held. -/
inductive PollAnswer where
  | ready (stdout stderr : Bool)
  | interrupted
  | failed (stdout stderr : Bool)
deriving DecidableEq

/-- What `waitpid` with `WNOHANG` returns. -/
inductive WaitAnswer where
  | running
  | reaped (status : Word)
  | interrupted
  | failed
deriving DecidableEq

inductive KillAnswer where
  | delivered
  | noProcess
  | refused
deriving DecidableEq

/-- What the kernel answers to one system call, and the time of the call.  A
call looks at the field that belongs to it. -/
structure JobAnswer where
  now : Nat := 0
  clockOk : Bool := true
  poll : PollAnswer := .ready false false
  read : ReadAnswer := .wouldBlock
  write : WriteAnswer := .failed
  wait : WaitAnswer := .running
  kill : KillAnswer := .delivered
deriving DecidableEq

/-- Where `monitor_job` goes on after `kill_job_group`. -/
inductive JobResume where
  | poll
  | drain (stdout stderr : Bool)
  | loop
deriving DecidableEq

/-- How the job ended, as `monitor_job` prints it. -/
inductive JobOutcome where
  | killed (reason : PolicyReason)
  | exited (status : Nat)
  | signaled (signal : Nat)
  | invalid
deriving DecidableEq

structure JobReport where
  outcome : JobOutcome
  output : Nat
  duration : Int
deriving DecidableEq

/-- The next system call of `monitor_job`.  While standard output is read,
`later` says whether standard error is to be read after it. -/
inductive JobPhase where
  | start
  | clock
  | poll
  | killGroup (resume : JobResume)
  | killLeader (resume : JobResume)
  | read (stream : JobStream) (later : Bool)
  | write (stream : JobStream) (later : Bool) (count accepted offset : Nat)
  | wait
  | finish
  | done (report : JobReport)
deriving DecidableEq

/-- A signal that was sent: whether the leader had been reaped, and whether
`kill` found nobody. -/
structure JobSignal where
  target : JobTarget
  reaped : Bool
  missing : Bool
deriving DecidableEq

/-- The variables of `monitor_job`.  The last nine fields are history: the
bytes read and when, those read by the last call of `forward_output`, the most
that one call has read, whether the leader was reaped, the bytes read until `child_done`
was set, whether `kill_job_group` was called, the bytes read past a limit while
it had not been, and the signals. -/
structure JobMonitor where
  phase : JobPhase := .start
  started : Int := 0
  status : Word := 0#32
  output : Nat := 0
  stdoutOpen : Bool := true
  stderrOpen : Bool := true
  childDone : Bool := false
  groupKilled : Bool := false
  outputExceeded : Bool := false
  policyReason : Option PolicyReason := none
  bytesRead : Nat := 0
  lastRead : Nat := 0
  callBytes : Nat := 0
  longestCall : Nat := 0
  reaped : Bool := false
  doneBytes : Option Nat := none
  killCalled : Bool := false
  overdue : Nat := 0
  signals : List JobSignal := []
deriving DecidableEq

/-- `monotonic_ms` -/
def monotonicMs (answer : JobAnswer) : Int :=
  if answer.clockOk then answer.now else -1

/-- `WIFEXITED` -/
def wifexited (status : Word) : Bool :=
  status &&& 0x7f#32 == 0#32

/-- `WEXITSTATUS` -/
def wexitstatus (status : Word) : Nat :=
  ((status >>> 8) &&& 0xff#32).toNat

/-- `WTERMSIG` -/
def wtermsig (status : Word) : Nat :=
  (status &&& 0x7f#32).toNat

/-- `WIFSIGNALED`: the low bits are neither those of an exit nor those of a
stop. -/
def wifsignaled (status : Word) : Bool :=
  wtermsig status != 0 && wtermsig status != 0x7f

namespace JobMonitor

/-- The condition of the loop of `monitor_job`. -/
def enterLoop (monitor : JobMonitor) : JobMonitor :=
  if !monitor.childDone || monitor.stdoutOpen || monitor.stderrOpen then
    { monitor with phase := .clock }
  else { monitor with phase := .finish }

/-- `kill_job_group` is called and `group_killed` set. -/
def killJobGroup (monitor : JobMonitor) (resume : JobResume) : JobMonitor :=
  { monitor with
    phase := .killGroup resume, groupKilled := true, killCalled := true }

/-- The wall limit, or a clock that cannot be read, becomes the reason. -/
def judgeWall (monitor : JobMonitor) (now : Int) : JobMonitor :=
  if !monitor.childDone && monitor.policyReason.isNone &&
      (now < 0 || jobWallMs ≤ now - monitor.started) then
    { monitor with policyReason := some .wall }
  else monitor

/-- The head of the loop: the wall limit, and the kill that a policy asks
for. -/
def checkLimits (monitor : JobMonitor) (now : Int) : JobMonitor :=
  let judged := monitor.judgeWall now
  if !judged.childDone && judged.policyReason.isSome && !judged.groupKilled
  then judged.killJobGroup .poll
  else { judged with phase := .poll }

def judgeOutput (monitor : JobMonitor) : JobMonitor :=
  if !monitor.childDone && monitor.outputExceeded &&
      monitor.policyReason.isNone then
    { monitor with policyReason := some .output }
  else monitor

/-- The tail of the loop up to `waitpid`. -/
def checkOutput (monitor : JobMonitor) : JobMonitor :=
  let judged := monitor.judgeOutput
  if judged.childDone then judged.enterLoop
  else { judged with phase := .wait }

/-- `forward_output` is called. -/
def forward (monitor : JobMonitor) (stream : JobStream) (later : Bool) :
    JobMonitor :=
  { monitor with phase := .read stream later, callBytes := 0 }

def drainStderr (monitor : JobMonitor) (stderr : Bool) : JobMonitor :=
  if monitor.stderrOpen && stderr then monitor.forward .stderr false
  else monitor.checkOutput

/-- What follows `poll`: both streams in turn. -/
def drain (monitor : JobMonitor) (stdout stderr : Bool) : JobMonitor :=
  if monitor.stdoutOpen && stdout then monitor.forward .stdout stderr
  else monitor.drainStderr stderr

def polled (monitor : JobMonitor) : PollAnswer → JobMonitor
  | .ready stdout stderr => monitor.drain stdout stderr
  | .interrupted => monitor
  | .failed stdout stderr =>
    { monitor with policyReason := some .monitor }.killJobGroup
      (.drain stdout stderr)

/-- `forward_output` returns. -/
def leave (monitor : JobMonitor) : JobStream → Bool → JobMonitor
  | .stdout, later => monitor.drainStderr later
  | .stderr, _ => monitor.checkOutput

def closeStream (monitor : JobMonitor) : JobStream → JobMonitor
  | .stdout => { monitor with stdoutOpen := false }
  | .stderr => { monitor with stderrOpen := false }

def pastLimit (monitor : JobMonitor) (now : Nat) : Bool :=
  jobOutputBytes < monitor.bytesRead || jobWallMs ≤ now - monitor.started

def noteRead (monitor : JobMonitor) (count now : Nat) : JobMonitor :=
  { monitor with
    bytesRead := monitor.bytesRead + count
    lastRead := now
    callBytes := monitor.callBytes + count
    longestCall := max monitor.longestCall (monitor.callBytes + count)
    overdue := if monitor.pastLimit now && !monitor.killCalled then
      monitor.overdue + count else monitor.overdue }

/-- `*total` and `*output_exceeded` after a read, and the next read. -/
def account (monitor : JobMonitor) (stream : JobStream) (later : Bool)
    (count : Nat) : JobMonitor :=
  let total := (monitor.output + count) % 2 ^ 64
  { monitor with
    phase := .read stream later
    output := total
    outputExceeded := monitor.outputExceeded || jobOutputBytes < total }

/-- How much of a read `forward_output` still passes on. -/
def accepted (monitor : JobMonitor) (count : Nat) : Nat :=
  if monitor.output < jobOutputBytes then
    min count (jobOutputBytes - monitor.output)
  else 0

def readStep (quiet : Bool) (monitor : JobMonitor) (stream : JobStream)
    (later : Bool) (now : Nat) : ReadAnswer → JobMonitor
  | .data index =>
    let count := index.val + 1
    let noted := monitor.noteRead count now
    if !quiet && 0 < monitor.accepted count then
      { noted with
        phase := .write stream later count (monitor.accepted count) 0 }
    else noted.account stream later count
  | .endOfFile => (monitor.closeStream stream).leave stream later
  | .interrupted => monitor
  | .wouldBlock => monitor.leave stream later
  | .failed => (monitor.closeStream stream).leave stream later

/-- The loop around `write`, which gives up on the first error. -/
def writeStep (monitor : JobMonitor) (stream : JobStream) (later : Bool)
    (count accepted offset : Nat) : WriteAnswer → JobMonitor
  | .wrote written =>
    if written = 0 then monitor.account stream later count
    else if offset + written < accepted then
      { monitor with
        phase := .write stream later count accepted (offset + written) }
    else monitor.account stream later count
  | .interrupted => monitor
  | .failed => monitor.account stream later count

def waited (monitor : JobMonitor) : WaitAnswer → JobMonitor
  | .running | .interrupted => monitor.enterLoop
  | .reaped status =>
    let done := { monitor with
      childDone := true, status := status, reaped := true
      doneBytes := some monitor.bytesRead }
    if monitor.groupKilled then done.enterLoop else done.killJobGroup .loop
  | .failed =>
    { monitor with
      status := 0#32, childDone := true
      policyReason := monitor.policyReason.or (some .wait)
      doneBytes := some monitor.bytesRead }.enterLoop

def resumeAt (monitor : JobMonitor) : JobResume → JobMonitor
  | .poll => { monitor with phase := .poll }
  | .drain stdout stderr => monitor.drain stdout stderr
  | .loop => monitor.enterLoop

/-- A `kill` and its history. -/
def signal (monitor : JobMonitor) (target : JobTarget) (answer : KillAnswer) :
    JobMonitor :=
  { monitor with signals :=
      ⟨target, monitor.reaped, answer = .noProcess⟩ :: monitor.signals }

/-- The first `kill` of `kill_job_group`. -/
def killGroupStep (monitor : JobMonitor) (resume : JobResume)
    (answer : KillAnswer) : JobMonitor :=
  let sent := monitor.signal .group answer
  if answer = .noProcess then { sent with phase := .killLeader resume }
  else sent.resumeAt resume

/-- What `monitor_job` prints. -/
def outcome (monitor : JobMonitor) : JobOutcome :=
  match monitor.policyReason with
  | some reason => .killed reason
  | none =>
    if wifexited monitor.status then .exited (wexitstatus monitor.status)
    else if wifsignaled monitor.status then
      .signaled (wtermsig monitor.status)
    else .invalid

def report (monitor : JobMonitor) (finished : Int) : JobReport :=
  ⟨monitor.outcome, monitor.output,
    max finished monitor.started - monitor.started⟩

/-- `monitor_job`, one system call. -/
def step (quiet : Bool) (monitor : JobMonitor) (answer : JobAnswer) :
    JobMonitor :=
  match monitor.phase with
  | .start => { monitor with started := max (monotonicMs answer) 0 }.enterLoop
  | .clock => monitor.checkLimits (monotonicMs answer)
  | .poll => monitor.polled answer.poll
  | .killGroup resume => monitor.killGroupStep resume answer.kill
  | .killLeader resume =>
    (monitor.signal .leader answer.kill).resumeAt resume
  | .read stream later =>
    monitor.readStep quiet stream later answer.now answer.read
  | .write stream later count accepted offset =>
    monitor.writeStep stream later count accepted offset answer.write
  | .wait => monitor.waited answer.wait
  | .finish =>
    { monitor with phase := .done (monitor.report (monotonicMs answer)) }
  | .done _ => monitor

end JobMonitor

/-- What `monitor_job` returns. -/
def JobOutcome.code : JobOutcome → Nat
  | .killed .wall => 124
  | .killed _ => 125
  | .exited status => status
  | .signaled signal => 128 + signal
  | .invalid => 125

/-- `monitor_job` after some answers. -/
def monitorJob (quiet : Bool) (answers : List JobAnswer) : JobMonitor :=
  Machine.run (JobMonitor.step quiet) {} answers

end Micronux
