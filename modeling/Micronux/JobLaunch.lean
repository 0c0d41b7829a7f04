/-
The launch of a job: `micronux-run`, which admits the program, makes the pipes
and spawns the helper, and `micronux-job-exec`, the helper, which gives up
every privilege before it executes the program.  Any number of supervisors run
at once; the kernel may refuse any call.
-/
import Micronux.JobDescriptors
import Micronux.JobMonitor
import Micronux.OwnPart
import Micronux.Seccomp

namespace Micronux.Job

open Concurrent

abbrev Text := List Char

/-- `MICRONUX_JOB_UID` -/
def jobUid : Nat := 1000

/-- `MICRONUX_JOB_GID` -/
def jobGid : Nat := 1000

/-- `MICRONUX_JOB_HELPER_PATH` -/
def jobHelperPath : Text := "/usr/libexec/micronux-job-exec".toList

/-- `MICRONUX_JOB_IGNITE_PATH` -/
def jobIgnitePath : Text := "/usr/bin/micronux-ignite".toList

/-- `MICRONUX_JOB_APP_PREFIX` -/
def jobAppPrefix : Text := "/opt/micronux/apps/".toList

/-- `JOB_ARG_LIMIT` -/
def jobArgLimit : Nat := 32

/-- `PATH_MAX` -/
def pathMax : Nat := 4096

def jobEnvironment : List Text :=
  ["HOME=/", "LOGNAME=micronux-job", "PATH=/usr/bin:/bin", "TMPDIR=/tmp",
    "USER=micronux-job"].map String.toList

/-- The limits that `apply_resource_limits` sets. -/
inductive Resource where
  | cpu
  | nofile
  | nproc
  | stack
  | data
  | addressSpace
  | fsize
  | core
deriving DecidableEq

/-- The calls of `apply_resource_limits`, in their order. -/
def jobLimits : List (Resource × Nat) :=
  [(.cpu, 3), (.nofile, 16), (.nproc, 4), (.stack, 256 * 1024),
    (.data, 4 * 1024 * 1024), (.addressSpace, 6 * 1024 * 1024),
    (.fsize, 4 * 1024 * 1024), (.core, 0)]

/-- The real, effective and saved identity. -/
structure Ids where
  real : Nat
  effective : Nat
  saved : Nat
deriving DecidableEq

def Ids.all (id : Nat) : Ids := ⟨id, id, id⟩

/-- `struct __user_cap_data_struct` -/
structure CapData where
  effective : Word
  permitted : Word
  inheritable : Word
deriving DecidableEq

def CapData.zero : CapData := ⟨0, 0, 0⟩

/-- What a process hands on to its children and to the programs it executes,
its descriptors apart. -/
structure Attributes where
  uids : Ids
  gids : Ids
  groups : List Nat
  bounding : Nat → Bool
  capabilities : CapData × CapData
  limits : Resource → Nat × Nat
  umask : Nat
  directory : Text
  noNewPrivs : Bool
  filters : List Bpf.Program
  /-- it leads a process group of its own -/
  leader : Bool
  /-- the signals it blocks -/
  blocked : List Nat

structure Process (File : Type) extends Attributes where
  files : Descriptors File

/-- What a descriptor refers to. -/
inductive OpenFile where
  /-- a file that was open before -/
  | other (file : Nat)
  /-- `MICRONUX_JOB_LOCK_PATH` -/
  | lock
  | devNull
  /-- an end of a pipe of a supervisor -/
  | pipe (launcher : Nat) (stream : JobStream) (write : Bool)
deriving DecidableEq

/-- A descriptor with its flag `FD_CLOEXEC`. -/
structure Handle where
  file : OpenFile
  cloexec : Bool
deriving DecidableEq

/-- `st_uid` and `st_mode` -/
structure FileStatus where
  uid : Nat
  mode : Word
deriving DecidableEq

/-- The tests of `resolve_target` on what `stat` has said: a regular file of
root that nobody else may write and that changes no identity. -/
def FileStatus.trusted (status : FileStatus) : Bool :=
  status.mode &&& 0o170000#32 = 0o100000#32 && status.uid = 0 &&
    status.mode &&& (0o20#32 ||| 0o2#32 ||| 0o4000#32 ||| 0o2000#32) = 0

/-- `target_is_admitted` -/
def targetIsAdmitted (path : Text) : Bool :=
  path = jobIgnitePath ||
    (jobAppPrefix.isPrefixOf path && path.length ≠ jobAppPrefix.length)

/-- How a supervisor is started.  The soft limit on its descriptors is the
kernel's default or less, and no descriptor behind it is open. -/
structure Launch where
  arguments : List Text
  attributes : Attributes
  handles : Descriptors Handle
  few : (attributes.limits .nofile).1 ≤ 1024
  below : ∀ descriptor, (attributes.limits .nofile).1 ≤ descriptor →
    handles descriptor = none

def Launch.limit (launch : Launch) : Nat := (launch.attributes.limits .nofile).1

/-- What the kernel answers to one call. -/
structure Input where
  ok : Bool := true
  refuse : RedirectCall → Bool := fun _ => false
  capabilities : CapData × CapData := (.zero, .zero)
  realpath : Text → Option Text := some
  stat : Text → Option FileStatus := fun _ => some ⟨0, 0o100755#32⟩
  access : Text → Bool := fun _ => true
  answers : List JobAnswer := []

/-- What the kernel answered to the three calls of `resolve_target`. -/
structure Resolution where
  realpath : Input
  stat : Input
  access : Input

/-- A helper that was spawned.  The last two fields are history: the launch
and how its program was resolved. -/
structure Child where
  arguments : List Text
  environment : List Text
  process : Process OpenFile
  launch : Launch
  resolution : Resolution

/-- A job that was executed: what its helper has become. -/
structure Execution extends Child where
  launcher : Nat
  path : Text

/-- The processes, by the number of their supervisor.  `executed` is history,
and so is `monitoring`: which supervisors have spawned and not yet reported. -/
structure World where
  launched : Nat → Option Launch
  lock : Option Nat
  tables : Nat → Descriptors Handle
  spawned : Nat → Option Child
  processes : Nat → Process OpenFile
  monitoring : Nat → Bool
  executed : List Execution

section Helper

/-- What the build's headers say. -/
structure Headers where
  /-- `CAP_LAST_CAP` -/
  capLastCap : Nat
  number : Syscall → Bpf.Word
  defined : Syscall → Bool

abbrev HelperProg := Prog (Process OpenFile) Input

/-- A call that is granted or refused. -/
def call (change : Process OpenFile → Process OpenFile) : HelperProg Bool :=
  Prog.grant Input.ok change

namespace Process

variable (process : Process OpenFile)

def setLimit (limit : Resource × Nat) : Process OpenFile :=
  { process with
    limits := Function.update process.limits limit.1 (limit.2, limit.2) }

def dropBounding (capability : Nat) : Process OpenFile :=
  { process with
    bounding := Function.update process.bounding capability false }

def setGroups (groups : List Nat) : Process OpenFile :=
  { process with groups := groups }

def setGids (gids : Ids) : Process OpenFile :=
  { process with gids := gids }

def setUids (uids : Ids) : Process OpenFile :=
  { process with uids := uids }

def setCapabilities (capabilities : CapData × CapData) : Process OpenFile :=
  { process with capabilities := capabilities }

def setUmask (umask : Nat) : Process OpenFile :=
  { process with umask := umask }

def setDirectory (directory : Text) : Process OpenFile :=
  { process with directory := directory }

def setNoNewPrivs : Process OpenFile :=
  { process with noNewPrivs := true }

def addFilter (filter : Bpf.Program) : Process OpenFile :=
  { process with filters := filter :: process.filters }

def setFiles (files : Descriptors OpenFile) : Process OpenFile :=
  { process with files := files }

end Process

/-- `apply_resource_limits` -/
def applyResourceLimits : HelperProg Bool :=
  Prog.allOf ((jobLimits.map fun limit process =>
    Process.setLimit process limit).map call)

/-- `setresuid`; the kernel changes the capabilities with it. -/
def setresuid : HelperProg Bool :=
  Prog.total fun input process =>
    if input.ok then ((process.setUids (.all jobUid)).setCapabilities
      input.capabilities, true)
    else (process, false)

/-- `clear_capabilities` -/
def clearCapabilities (headers : Headers) : HelperProg Bool :=
  Prog.allOf
    (((List.range (headers.capLastCap + 1)).map fun capability process =>
        Process.dropBounding process capability).map call ++
      [call fun process => process.setGroups [],
        call fun process => process.setGids (.all jobGid),
        setresuid,
        call fun process => process.setCapabilities (.zero, .zero)])

def query {β : Type} (view : Process OpenFile → β) : HelperProg (Option β) :=
  Prog.total fun input process =>
    (process, if input.ok then some (view process) else none)

/-- `verify_identity` -/
def verifyIdentity : HelperProg Bool := do
  let some uids ← query fun process => process.uids | pure false
  let some gids ← query fun process => process.gids | pure false
  if uids ≠ .all jobUid ∨ gids ≠ .all jobGid then pure false
  else do
    let some groups ← query fun process => process.groups.length | pure false
    if groups ≠ 0 then pure false
    else do
      let some capabilities ← query fun process => process.capabilities
        | pure false
      pure ([capabilities.1, capabilities.2].all fun data =>
        data.effective = 0 && data.permitted = 0 && data.inheritable = 0)

/-- `install_seccomp_filter` -/
def installSeccompFilter (headers : Headers) : HelperProg Bool :=
  Prog.allOf ([Process.setNoNewPrivs, fun process => process.addFilter
    (seccompFilter headers.number headers.defined)].map call)

/-- `redirect_standard_descriptors` -/
def redirect (stdoutText stderrText : Text) : HelperProg Bool :=
  Prog.total fun input process =>
    let (files, ok) := redirectStandardDescriptors .devNull
      (process.limits .nofile).1 input.refuse stdoutText stderrText
      process.files
    (process.setFiles files, ok)

/-- Where the helper gives up. -/
inductive HelperStop where
  | invocation
  | redirect
  | policy
  | seccomp
  | exec
deriving DecidableEq

/-- `main` of `micronux-job-exec` between its redirection and its `execv` -/
def dropPrivileges (headers : Headers) :
    Attempt (Process OpenFile) Input HelperStop Unit := do
  Attempt.lift (Prog.store fun process => process.setUmask 0o77)
  Attempt.check .policy applyResourceLimits
  Attempt.check .policy (clearCapabilities headers)
  Attempt.check .policy verifyIdentity
  Attempt.check .policy (call fun process => process.setDirectory ['/'])
  Attempt.lift (Prog.store fun process =>
    process.setFiles (closeExtraDescriptors process.files))
  Attempt.check .seccomp (installSeccompFilter headers)

/-- `main` of `micronux-job-exec` up to its `execv` -/
def applyPolicy (headers : Headers) (stdoutText stderrText : Text) :
    Attempt (Process OpenFile) Input HelperStop Unit := do
  Attempt.check .invocation
    (Prog.load fun process => process.uids.effective == 0)
  Attempt.check .redirect (redirect stdoutText stderrText)
  dropPrivileges headers

end Helper

abbrev JobProg := Prog World Input

/-- The process of the helper of supervisor `n`. -/
def ownProcess (n : Nat) : Part World (Process OpenFile) where
  get world := world.processes n
  put process world :=
    { world with processes := Function.update world.processes n process }
  get_put process world := Function.update_self n process world.processes

def takeChild (n : Nat) : JobProg Child :=
  Prog.atomic fun _ world => (world.spawned n).map fun child =>
    ({ world with
      spawned := Function.update world.spawned n none
      processes := Function.update world.processes n child.process }, child)

/-- `execv` of the helper -/
def execv (n : Nat) (child : Child) (path : Text) (arguments : List Text) :
    JobProg Bool :=
  Prog.total fun input world =>
    if input.ok then ({ world with
      executed := world.executed ++ [{ child with
        arguments := arguments
        process := world.processes n
        launcher := n
        path := path }] }, true)
    else (world, false)

/-- `main` of `micronux-job-exec` -/
def jobExec (headers : Headers) (n : Nat) :
    Attempt World Input HelperStop Unit := do
  let child ← Attempt.lift (takeChild n)
  match child.arguments with
  | _ :: stdoutText :: stderrText :: path :: rest => do
    Attempt.on (ownProcess n) (applyPolicy headers stdoutText stderrText)
    Attempt.check .exec (execv n child path (path :: rest))
  | _ => throw .invocation

section Supervisor

abbrev TableProg := Prog (Descriptors Handle) Input

/-- `open` -/
def openHandle (limit : Nat) (handle : Handle) : TableProg (Option Nat) :=
  Prog.total fun input table =>
    match table.openFile limit handle with
    | some (descriptor, opened) =>
      if input.ok then (opened, some descriptor) else (table, none)
    | none => (table, none)

/-- `pipe`: the read end and the write end -/
def makePipe (limit n : Nat) (stream : JobStream) :
    TableProg (Option (Nat × Nat)) :=
  Prog.total fun input table =>
    match table.openFile limit ⟨.pipe n stream false, false⟩ with
    | none => (table, none)
    | some (readEnd, opened) =>
      match opened.openFile limit ⟨.pipe n stream true, false⟩ with
      | none => (table, none)
      | some (writeEnd, both) =>
        if input.ok then (both, some (readEnd, writeEnd))
        else (table, none)

def closeHandle (descriptor : Nat) : TableProg Unit :=
  Prog.store fun table => table.close descriptor

/-- `close_pair` -/
def closePair : Option (Nat × Nat) → TableProg Unit
  | some (readEnd, writeEnd) => do
    closeHandle readEnd
    closeHandle writeEnd
  | none => pure ()

/-- Both calls of `close_pair` -/
def closePipes (stdout stderr : Option (Nat × Nat)) : TableProg Unit := do
  closePair stdout
  closePair stderr

def setCloexec (descriptor : Nat) (table : Descriptors Handle) :
    Descriptors Handle :=
  match table descriptor with
  | some handle =>
    Function.update table descriptor (some { handle with cloexec := true })
  | none => table

/-- `mark_close_on_exec`: the flags are read and written. -/
def markCloseOnExec (descriptor : Nat) : TableProg Bool :=
  Prog.allOf ([id, setCloexec descriptor].map (Prog.grant Input.ok))

/-- `set_nonblocking`, which changes no descriptor -/
def setNonblocking : TableProg Bool :=
  Prog.allOf ([id, id].map (Prog.grant Input.ok))

/-- The four calls of `run_job` on the read ends. -/
def prepareReadEnds (stdoutRead stderrRead : Nat) : TableProg Bool :=
  Prog.allOf [markCloseOnExec stdoutRead, markCloseOnExec stderrRead,
    setNonblocking, setNonblocking]

/-- The pipes of `run_job`, closed again where a call fails. -/
def preparePipes (limit n : Nat) :
    TableProg (Option ((Nat × Nat) × (Nat × Nat))) := do
  match ← makePipe limit n .stdout with
  | none => pure none
  | some stdout => do
    match ← makePipe limit n .stderr with
    | none => do
      closePipes (some stdout) none
      pure none
    | some stderr => do
      if ← prepareReadEnds stdout.1 stderr.1 then
        pure (some (stdout, stderr))
      else do
        closePipes (some stdout) (some stderr)
        pure none

/-- Why `run_job` returns `-1`. -/
inductive LaunchError where
  /-- `E2BIG` -/
  | arguments
  | realpath
  /-- `ENAMETOOLONG` -/
  | nameTooLong
  /-- `EACCES` -/
  | access
  | stat
  | pipes
  | spawn
deriving DecidableEq

/-- `resolve_target` -/
def resolveTarget (requested : Text) :
    Attempt World Input LaunchError (Text × Resolution) := do
  let realpath ← Attempt.lift (Prog.ask id)
  match realpath.realpath requested with
  | none => throw .realpath
  | some canonical =>
    if pathMax < canonical.length + 1 then throw .nameTooLong
    else if targetIsAdmitted canonical = false then throw .access
    else do
      let stat ← Attempt.lift (Prog.ask id)
      match stat.stat canonical with
      | none => throw .stat
      | some status =>
        if status.trusted = false then throw .access
        else do
          let access ← Attempt.lift (Prog.ask id)
          if access.access canonical = false then throw .access
          else pure (canonical, ⟨realpath, stat, access⟩)

def inherited (table : Descriptors Handle) : Descriptors OpenFile :=
  fun descriptor =>
    match table descriptor with
    | some handle => if handle.cloexec then none else some handle.file
    | none => none

/-- `snprintf` with `%d` -/
def decimal (value : Nat) : Text := Nat.toDigits 10 value

/-- `helper_argv` -/
def helperArguments (stdout stderr : Nat) (resolved : Text)
    (request : List Text) : List Text :=
  jobHelperPath :: decimal stdout :: decimal stderr :: resolved :: request.tail

/-- The descriptors of supervisor `n`. -/
def ownTable (n : Nat) : Part World (Descriptors Handle) where
  get world := world.tables n
  put table world :=
    { world with tables := Function.update world.tables n table }
  get_put table world := Function.update_self n table world.tables

/-- What `posix_spawn` makes: the helper is put into a group of its own and
its signals are unblocked. -/
def helperChild (launch : Launch) (arguments : List Text)
    (resolution : Resolution) (table : Descriptors Handle) : Child where
  arguments := arguments
  environment := jobEnvironment
  process :=
    { launch.attributes with
      leader := true, blocked := [], files := inherited table }
  launch := launch
  resolution := resolution

/-- `posix_spawn` -/
def posixSpawn (n : Nat) (launch : Launch) (arguments : List Text)
    (resolution : Resolution) : JobProg Bool :=
  Prog.total fun input world =>
    if input.ok then ({ world with
      spawned := Function.update world.spawned n
        (some (helperChild launch arguments resolution (world.tables n)))
      monitoring := Function.update world.monitoring n true }, true)
    else (world, false)

/-- The calls of `run_job` on its attributes, and `posix_spawn`. -/
def spawnHelper (n : Nat) (launch : Launch) (arguments : List Text)
    (resolution : Resolution) : JobProg Bool :=
  Prog.allOf (List.replicate 4 (Prog.ask Input.ok) ++
    [posixSpawn n launch arguments resolution])

/-- The read ends behind `monitor_job`: `forward_output` closes one where it
clears its flag, and nothing else closes them. -/
def closeEnds (monitor : JobMonitor) (stdoutRead stderrRead : Nat)
    (table : Descriptors Handle) : Descriptors Handle :=
  let forwarded :=
    if monitor.stdoutOpen then table else table.close stdoutRead
  if monitor.stderrOpen then forwarded else forwarded.close stderrRead

/-- `monitor_job`, all of it -/
def monitor (n : Nat) (quiet : Bool) (stdoutRead stderrRead : Nat) :
    JobProg Nat :=
  Prog.atomic fun input world =>
    let last := monitorJob quiet input.answers
    match last.phase with
    | .done report => some ({ world with
        tables := Function.update world.tables n
          (closeEnds last stdoutRead stderrRead (world.tables n))
        monitoring := Function.update world.monitoring n false },
        report.outcome.code)
    | _ => none

/-- `run_job` behind its checks -/
def launchHelper (n : Nat) (launch : Launch) (quiet : Bool)
    (request : List Text) (resolved : Text) (resolution : Resolution) :
    Attempt World Input LaunchError Nat := do
  match ← Attempt.lift ((preparePipes launch.limit n).on (ownTable n)) with
  | none => throw .pipes
  | some (stdout, stderr) => do
    let spawned ← Attempt.lift (spawnHelper n launch
      (helperArguments stdout.2 stderr.2 resolved request) resolution)
    if spawned then do
      Attempt.lift ((closeHandle stdout.2).on (ownTable n))
      Attempt.lift ((closeHandle stderr.2).on (ownTable n))
      Attempt.lift (monitor n quiet stdout.1 stderr.1)
    else do
      Attempt.lift ((closePipes (some stdout) (some stderr)).on (ownTable n))
      throw .spawn

/-- `run_job` -/
def runJob (n : Nat) (launch : Launch) (quiet : Bool) (request : List Text) :
    Attempt World Input LaunchError Nat :=
  if jobArgLimit < request.length then throw .arguments
  else do
    let (resolved, resolution) ← resolveTarget (request.headD [])
    launchHelper n launch quiet request resolved resolution

/-- `flock` with `LOCK_EX | LOCK_NB` -/
def flock (n : Nat) : JobProg Bool :=
  Prog.total fun input world =>
    if input.ok && world.lock.isNone then
      ({ world with lock := some n }, true)
    else (world, false)

/-- `flock` with `LOCK_UN` -/
def unlock (n : Nat) : JobProg Unit :=
  Prog.store fun world =>
    { world with lock := if world.lock = some n then none else world.lock }

/-- What the arguments ask for. -/
inductive Command where
  | check
  | usage
  | run (quiet : Bool) (request : List Text)
deriving DecidableEq

/-- The arguments of `micronux-run` behind its name. -/
def parseCommand (arguments : List Text) : Command :=
  if arguments = ["--check".toList] then .check
  else
    let quiet := arguments.head? = some "-q".toList
    match if quiet then arguments.tail else arguments with
    | separator :: program :: rest =>
      if separator = "--".toList then .run quiet (program :: rest)
      else .usage
    | _ => .usage

def begin (n : Nat) (launch : Launch) : JobProg Unit :=
  Prog.await (fun world => (world.launched n).isNone) fun world =>
    { world with
      launched := Function.update world.launched n (some launch)
      tables := Function.update world.tables n launch.handles }

/-- `main` of `micronux-run` behind its `open` of the lock file -/
def lockedRun (n : Nat) (launch : Launch) (quiet : Bool)
    (request : List Text) (lockDescriptor : Nat) : JobProg Nat := do
  if ← flock n then do
    let result ← (runJob n launch quiet request).run
    unlock n
    (closeHandle lockDescriptor).on (ownTable n)
    match result with
    | .ok code => pure code
    | .error _ => pure 1
  else do
    (closeHandle lockDescriptor).on (ownTable n)
    pure 1

/-- `main` of `micronux-run`; its exit code.  `check_installation` only
reads. -/
def jobRun (n : Nat) (launch : Launch) : JobProg Nat := do
  begin n launch
  match parseCommand launch.arguments with
  | .check => do
    if ← Prog.ask Input.ok then pure 0 else pure 1
  | .usage => pure (if launch.attributes.uids.effective ≠ 0 then 1 else 2)
  | .run quiet request =>
    if launch.attributes.uids.effective ≠ 0 then pure 1
    else do
      match ← (openHandle launch.limit ⟨.lock, true⟩).on (ownTable n) with
      | none => pure 1
      | some lockDescriptor =>
        lockedRun n launch quiet request lockDescriptor

end Supervisor

/-- Supervisors and their helpers. -/
inductive JobThread where
  | supervisor (n : Nat)
  | helper (n : Nat)
deriving DecidableEq

/-- How a process ended. -/
inductive JobEnd where
  | idle
  | supervisor (code : Nat)
  | helper (stop : Option HelperStop)
deriving DecidableEq

/-- What starts a process: the launch of a supervisor, or a spawn. -/
inductive JobCall where
  | launch (launch : Launch)
  | spawned

def jobCode (headers : Headers) : JobThread → JobCall → JobProg JobEnd
  | .supervisor n, .launch launch => do
    let code ← jobRun n launch
    pure (.supervisor code)
  | .helper n, .spawned => do
    match ← (jobExec headers n).run with
    | .ok _ => pure (.helper none)
    | .error stop => pure (.helper (some stop))
  | _, _ => pure .idle

end Micronux.Job
