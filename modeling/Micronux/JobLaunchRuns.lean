/-
Runs of any number of supervisors with their helpers.  A program is executed
only as the confined process of an admitted request, with nothing open but
its three standard descriptors; at most one supervisor has a job, and one
that ends leaves its descriptors as it has found them.
-/
import Micronux.JobContainment
import Micronux.JobGroup
import Micronux.JobRuns
import Micronux.JobTables

namespace Micronux.Job

open Concurrent Protocol Attempt

def Launch.Standard (launch : Launch) : Prop :=
  ∀ descriptor < 3, (inherited launch.handles descriptor).isSome = true

/-- A program that was asked for and admitted: `realpath` of the first argument
behind `--` gave its path, and `stat` and `access` of that path let it pass. -/
structure Requested (launch : Launch) (resolution : Resolution) (path : Text)
    (rest : List Text) : Prop where
  command : ∃ quiet program,
    parseCommand launch.arguments = .run quiet (program :: rest) ∧
    (program :: rest).length ≤ jobArgLimit ∧
    resolution.realpath.realpath program = some path
  admitted : targetIsAdmitted path = true
  trusted : ∃ status, resolution.stat.stat path = some status ∧
    status.trusted = true
  executable : resolution.access.access path = true

/-- A helper as `run_job` spawns it. -/
structure Spawned (n : Nat) (child : Child) : Prop where
  arguments : ∃ stdout stderr path rest, child.arguments =
      jobHelperPath :: decimal stdout :: decimal stderr :: path :: rest ∧
    Requested child.launch child.resolution path rest ∧
    child.process.files stdout = some (.pipe n .stdout true) ∧
    child.process.files stderr = some (.pipe n .stderr true)
  environment : child.environment = jobEnvironment
  attributes : child.process.toAttributes =
    { child.launch.attributes with leader := true, blocked := [] }
  below : ∀ descriptor, 1024 ≤ descriptor →
    child.process.files descriptor = none
  standard : child.launch.Standard → ∀ descriptor < 3,
    (child.process.files descriptor).isSome = true

def jobFiles (n : Nat) : Descriptors OpenFile :=
  standardTable .devNull (.pipe n .stdout true) (.pipe n .stderr true)
    fun _ => none

/-- What an executed job is confined to. -/
structure Contained (headers : Headers) (job : Execution) : Prop where
  requested : ∃ rest, job.arguments = job.path :: rest ∧
    Requested job.launch job.resolution job.path rest
  environment : job.environment = jobEnvironment
  uids : job.process.uids = .all jobUid
  gids : job.process.gids = .all jobGid
  groups : job.process.groups = []
  capabilities : job.process.capabilities = (.zero, .zero)
  bounding : ∀ capability ≤ headers.capLastCap,
    job.process.bounding capability = false
  limits : job.process.limits = jobLimit
  umask : job.process.umask = 0o77
  directory : job.process.directory = ['/']
  noNewPrivs : job.process.noNewPrivs = true
  leader : job.process.leader = true
  unblocked : job.process.blocked = []
  filtered : ∃ filter ∈ job.process.filters, ∀ data : SeccompData,
    Bpf.run data.word filter filter.length ⟨0, 0⟩ =
      some (seccompDecision ((builtSyscalls headers.defined).map
        headers.number) data.arch data.nr)
  files : ∀ descriptor, job.process.files descriptor = none ∨
    job.process.files descriptor = jobFiles job.launcher descriptor
  standard : job.launch.Standard → job.process.files = jobFiles job.launcher

section Contained

variable {headers : Headers} {n stdout stderr : Nat} {child : Child}
  {path : Text} {rest : List Text} {process : Process OpenFile}

theorem parsed_of_descriptorsAtExec {File : Type} {devNull : File}
    {limit : Nat} {refuse : RedirectCall → Bool} {stdoutText stderrText : Text}
    {table final : Descriptors File}
    (hexec : descriptorsAtExec devNull limit refuse stdoutText stderrText
      table = some final) :
    (∃ stdout, parseDescriptor stdoutText = some stdout) ∧
      ∃ stderr, parseDescriptor stderrText = some stderr := by
  cases hstdout : parseDescriptor stdoutText <;>
    cases hstderr : parseDescriptor stderrText <;>
    simp_all [descriptorsAtExec, redirectStandardDescriptors]

theorem seccompProgramLen_eq :
    seccompProgramLen headers.number headers.defined =
      (seccompFilter headers.number headers.defined).length := by
  apply Nat.mod_eq_of_lt
  rw [length_seccompFilter]
  have hcount := length_builtSyscalls headers.defined
  omega

variable (hspawned : Spawned n child)
  (hstdout : child.process.files stdout = some (.pipe n .stdout true))
  (hstderr : child.process.files stderr = some (.pipe n .stderr true))

include hspawned hstdout hstderr

theorem Confined.files {files : Descriptors OpenFile} {limit : Nat}
    {refuse : RedirectCall → Bool}
    (hexec : descriptorsAtExec .devNull limit refuse (decimal stdout)
      (decimal stderr) child.process.files = some files) :
    ∃ null, child.process.files null = none ∧
      files = (jobFiles n).close null := by
  obtain ⟨⟨first, hfirst⟩, second, hsecond⟩ :=
    parsed_of_descriptorsAtExec hexec
  obtain rfl := eq_of_parseDescriptor hfirst
  obtain rfl := eq_of_parseDescriptor hsecond
  obtain ⟨null, hfree, hfiles⟩ := descriptorsAtExec_eq hfirst hsecond hstdout
    hstderr hspawned.below hexec
  exact ⟨null, (Descriptors.lowestFree_spec hfree).1, hfiles⟩

/-- A confined helper executes a contained job. -/
theorem Spawned.contained
    (hrequested : Requested child.launch child.resolution path rest)
    (hconfined : Confined headers (decimal stdout) (decimal stderr)
      child.process process) :
    Contained headers { child with
      arguments := path :: rest, process := process, launcher := n
      path := path } := by
  obtain ⟨refuse, redirected, files, hexec, rfl⟩ := hconfined
  obtain ⟨null, hnull, rfl⟩ :=
    Confined.files hspawned hstdout hstderr hexec
  have hattributes := hspawned.attributes
  refine ⟨⟨rest, rfl, hrequested⟩, hspawned.environment, rfl, rfl, rfl, rfl, ?_,
    rfl, rfl, rfl, rfl, congrArg Attributes.leader hattributes,
    congrArg Attributes.blocked hattributes, ⟨_, List.mem_cons_self, ?_⟩, ?_,
    ?_⟩
  · intro capability hcapability
    have hlow : ¬ headers.capLastCap + 1 ≤ capability :=
      Nat.not_le.mpr (Nat.lt_succ_of_le hcapability)
    exact Bool.and_eq_false_imp.mpr fun hhigh =>
      absurd (of_decide_eq_true hhigh) hlow
  · intro data
    rw [← seccompProgramLen_eq]
    exact run_seccompFilter headers.number headers.defined data
  · intro descriptor
    by_cases hsame : descriptor = null
    · subst hsame
      exact .inl (Function.update_self ..)
    · exact .inr (Function.update_of_ne hsame ..)
  · intro hstandard
    -- the descriptor that `open` took is behind the standard ones
    have hhigh : 3 ≤ null := by
      by_contra hlow
      have hsome := hspawned.standard hstandard null (Nat.lt_of_not_le hlow)
      rw [hnull] at hsome
      cases hsome
    obtain ⟨above, rfl⟩ := Nat.exists_eq_add_of_le' hhigh
    exact Function.update_eq_self (above + 3) (jobFiles n)

end Contained

/-- What holds at every moment. -/
structure JobInv (headers : Headers) (world : World) : Prop where
  spawned : ∀ n child, world.spawned n = some child → Spawned n child
  contained : ∀ job ∈ world.executed, Contained headers job
  monitored : ∀ n, world.monitoring n = true → world.lock = some n
  unlaunched : ∀ n, world.launched n = none → world.lock ≠ some n

/-- The launch of supervisor `n`, whether it holds the lock and whether it has
a job. -/
def World.standing (world : World) (n : Nat) : Option Launch × Bool × Bool :=
  (world.launched n, world.lock = some n, world.monitoring n)

/-- What an action of thread `t` may change of a supervisor and of a helper. -/
structure JobGuar (t : JobThread) (before after : World) : Prop where
  standing : ∀ n, t ≠ .supervisor n → after.standing n = before.standing n
  tables : ∀ n, t ≠ .supervisor n → after.tables n = before.tables n
  processes : ∀ n, t ≠ .helper n → after.processes n = before.processes n

def jobProtocol (headers : Headers) : Protocol JobThread World where
  inv := JobInv headers
  guar := JobGuar

/-- What supervisor `n` does among all the others. -/
abbrev Supervises (headers : Headers) (n : Nat) {β : Type}
    (pre : World → Prop) (prog : JobProg β) (post : β → World → Prop) : Prop :=
  (jobProtocol headers).Triple (.supervisor n) pre prog post

/-- Where supervisor `n` stands, with its descriptors. -/
structure At (n : Nat) (launch : Launch) (held monitoring : Bool)
    (mine : List (Nat × Handle)) (world : World) : Prop where
  opened : Opened launch mine (world.tables n)
  standing : world.standing n = (some launch, held, monitoring)

section Actions

variable {headers : Headers} {n : Nat} {launch : Launch}
  {held monitoring : Bool} {mine : List (Nat × Handle)} {t : JobThread}
  {before after world : World}

theorem JobGuar.refl : JobGuar t world world :=
  ⟨fun _ _ => rfl, fun _ _ => rfl, fun _ _ => rfl⟩

section

variable (hat : At n launch held monitoring mine world)

include hat

theorem At.launched : world.launched n = some launch :=
  congrArg Prod.fst hat.standing

theorem At.lock : world.lock = some n ↔ held = true := by
  have hheld : decide (world.lock = some n) = held :=
    congrArg (fun standing => standing.2.1) hat.standing
  rw [← hheld, decide_eq_true_iff]

theorem At.monitoring_eq : world.monitoring n = monitoring :=
  congrArg (fun standing => standing.2.2) hat.standing

end

variable {quiet : Bool} {β : Type}

/-- An entry of a changed table is the new one or an old one. -/
theorem of_update {table : Nat → β} {value entry : β} {other : Nat}
    (hentry : Function.update table n value other = entry) :
    (other = n ∧ value = entry) ∨ table other = entry := by
  rw [Function.update_apply] at hentry
  split at hentry
  · next hsame => exact .inl ⟨hsame, hentry⟩
  · exact .inr hentry

/-- What a process changes of its own is not another's. -/
theorem update_other {table : Nat → β} {value : β} {other : Nat}
    {role : Nat → JobThread} (hother : role n ≠ role other) :
    Function.update table n value other = table other :=
  Function.update_of_ne (fun hsame => hother (congrArg role hsame.symm)) ..

theorem table_of_rely
    (hrely : (jobProtocol headers).Rely (.supervisor n) before after) :
    after.tables n = before.tables n := by
  obtain ⟨-, -, other, hother, hguar⟩ := hrely
  exact hguar.tables n hother

theorem stable_standing (standing : Option Launch × Bool × Bool) :
    (jobProtocol headers).Stable (.supervisor n)
      fun world => world.standing n = standing := by
  rintro before after ⟨-, -, other, hother, hguar⟩ hstanding
  exact (hguar.standing n hother).trans hstanding

theorem stable_at : (jobProtocol headers).Stable (.supervisor n)
    (At n launch held monitoring mine) := by
  intro before after hrely hat
  exact ⟨table_of_rely hrely ▸ hat.opened, stable_standing _ hrely hat.standing⟩

theorem on_table_triple {prog : TableProg β} {post : β → List (Nat × Handle)}
    (hprog : alone.Triple () (Opened launch mine) prog fun value =>
        Opened launch (post value)) :
    Supervises headers n
      (At n launch held monitoring mine) (prog.on (ownTable n))
      fun value => At n launch held monitoring (post value) := by
  have hon : Supervises headers n
      (fun world => Opened launch mine (world.tables n))
      (prog.on (ownTable n)) fun value world =>
        Opened launch (post value) (world.tables n) := by
    apply Triple.on (ownTable n) hprog
    · exact fun before after => table_of_rely
    intro table world hinv
    exact ⟨{ hinv with },
      fun _ _ => rfl, fun other => update_other, fun _ _ => rfl⟩
  have hframe := hon.frame (Prog.within_on (ownTable n) prog)
    (stable_standing (some launch, held, monitoring))
    (by rintro before after ⟨table, rfl⟩; exact id)
  exact hframe.mono (fun _ _ hat => ⟨hat.opened, hat.standing⟩)
    fun _ _ hboth => ⟨hboth.1, hboth.2⟩

theorem ask_triple (answer : Input → β) :
    Supervises headers n (At n launch held monitoring mine) (Prog.ask answer)
      fun _ => At n launch held monitoring mine :=
  (Triple.ask (fun _ => JobGuar.refl) stable_at).mono (fun _ _ => id)
    fun _ _ hboth => hboth.1

theorem ask_ok_triple : Supervises headers n
      (At n launch held monitoring mine) (Prog.ask Input.ok) fun passed world =>
        if passed then At n launch held monitoring mine world
        else At n launch held monitoring mine world :=
  (ask_triple Input.ok).mono (fun _ _ => id) fun _ _ hat => by
    rwa [ite_self]

theorem begin_triple : Supervises headers n (fun _ => True)
      (begin n launch) fun _ => At n launch false false [] := by
  apply Triple.await (.const True) stable_at
  intro world hinv _ hready
  have hlock := hinv.unlaunched n (Option.isNone_iff_eq_none.mp hready)
  have hmonitoring : world.monitoring n = false := Bool.eq_false_iff.mpr
    fun hmonitoring => hlock (hinv.monitored n hmonitoring)
  refine ⟨⟨hinv.spawned, hinv.contained, hinv.monitored, ?_⟩,
    ⟨?_, fun other => update_other, fun _ _ => rfl⟩, ?_, ?_⟩
  · intro other hnone
    rcases of_update hnone with ⟨rfl, -⟩ | hnone
    · exact hlock
    · exact hinv.unlaunched other hnone
  · intro other hother
    simp only [World.standing, update_other hother]
  · dsimp only
    rw [Function.update_self]
    exact opened_nil
  · simp [World.standing, hlock, hmonitoring]

theorem flock_triple :
    Supervises headers n (At n launch false false mine) (flock n)
      fun passed => At n launch passed false mine := by
  apply Triple.total stable_at fun _ => stable_at
  intro input world hinv hat
  split
  · next hfree =>
      have hnone : world.lock = none :=
        Option.isNone_iff_eq_none.mp (Bool.and_eq_true_iff.mp hfree).2
      refine ⟨⟨hinv.spawned, hinv.contained, ?_, ?_⟩,
        ⟨?_, fun _ _ => rfl, fun _ _ => rfl⟩, hat.opened, ?_⟩
      · intro other hmonitoring
        have hlock := hinv.monitored other hmonitoring
        exact absurd (hlock.symm.trans hnone) (Option.some_ne_none other)
      · rintro other hother ⟨rfl⟩
        exact absurd (hat.launched.symm.trans hother)
          (Option.some_ne_none launch)
      · intro other hother
        have hne : ¬ n = other := fun hsame => hother (congrArg _ hsame)
        simp [World.standing, hnone, hne]
      · simp [World.standing, hat.launched, hat.monitoring_eq]
  · exact ⟨hinv, JobGuar.refl, hat⟩

theorem unlock_triple :
    Supervises headers n (At n launch true false mine) (unlock n)
      fun _ => At n launch false false mine := by
  apply Triple.store stable_at stable_at
  intro world hinv hat
  have hlock : world.lock = some n := hat.lock.mpr rfl
  have hfree : (if world.lock = some n then none else world.lock) = none :=
    if_pos hlock
  refine ⟨⟨hinv.spawned, hinv.contained, ?_, ?_⟩,
    ⟨?_, fun _ _ => rfl, fun _ _ => rfl⟩, hat.opened, ?_⟩
  · intro other hmonitoring
    have hsame := Option.some.inj
      (hlock.symm.trans (hinv.monitored other hmonitoring))
    rw [← hsame, hat.monitoring_eq] at hmonitoring
    cases hmonitoring
  · intro other _ hother
    exact Option.some_ne_none other (hother.symm.trans hfree)
  · intro other hother
    have hne : ¬ n = other := fun hsame => hother (congrArg _ hsame)
    simp [World.standing, hlock, hne]
  · simp [World.standing, hlock, hat.launched, hat.monitoring_eq]

/-- A child inherits what is not marked. -/
theorem Opened.passed {table : Descriptors Handle} {descriptor : Nat}
    {file : OpenFile}
    (hopened : Opened launch mine table)
    (hmine : (descriptor, ⟨file, false⟩) ∈ mine) :
    inherited table descriptor = some file := by
  obtain ⟨marked, hmarked, hfound⟩ := hopened.found _ hmine
  obtain rfl : marked = false := Bool.eq_false_iff.mpr fun htrue =>
    Bool.false_ne_true (hmarked htrue)
  rw [inherited, hfound]
  rfl

theorem stable_spawned (passed : Bool) :
    (jobProtocol headers).Stable (.supervisor n) fun world =>
      if passed then At n launch true true mine world
      else At n launch true false mine world := by
  cases passed with
  | true | false => exact stable_at

section Spawn

variable {stdout stderr : Nat} {path : Text} {request : List Text}
  {resolution : Resolution}
  (hstdout : (stdout, ⟨.pipe n .stdout true, false⟩) ∈ mine)
  (hstderr : (stderr, ⟨.pipe n .stderr true, false⟩) ∈ mine)
  (hrequested : Requested launch resolution path request.tail)

include hstdout hstderr hrequested

theorem Opened.spawned {table : Descriptors Handle}
    (hopened : Opened launch mine table) :
    Spawned n (helperChild launch (helperArguments stdout stderr path request)
      resolution table) := by
  refine ⟨⟨stdout, stderr, path, request.tail, rfl, hrequested,
    hopened.passed hstdout, hopened.passed hstderr⟩, rfl, rfl, ?_, ?_⟩
  · intro descriptor hhigh
    have hlimit : launch.limit ≤ descriptor := launch.few.trans hhigh
    have hother : descriptor ∉ mine.map Prod.fst := fun hmem =>
      absurd (hopened.low descriptor hmem) (Nat.not_lt.mpr hlimit)
    have hnone := (hopened.others descriptor hother).trans
      (launch.below descriptor hlimit)
    change inherited table descriptor = none
    rw [inherited, hnone]
  · intro hstandard descriptor hlow
    have hsome : (inherited launch.handles descriptor).isSome = true :=
      hstandard descriptor hlow
    have hother : descriptor ∉ mine.map Prod.fst := by
      intro hmem
      rw [inherited, hopened.fresh descriptor hmem] at hsome
      cases hsome
    change (inherited table descriptor).isSome = true
    rw [inherited, hopened.others descriptor hother]
    exact hsome

theorem posixSpawn_triple : Supervises headers n (At n launch true false mine)
      (posixSpawn n launch (helperArguments stdout stderr path request)
        resolution)
      fun passed world => if passed then At n launch true true mine world
        else At n launch true false mine world := by
  apply Triple.total stable_at stable_spawned
  intro input world hinv hat
  split
  · refine ⟨⟨?_, hinv.contained, ?_, hinv.unlaunched⟩,
      ⟨?_, fun _ _ => rfl, fun _ _ => rfl⟩, hat.opened, ?_⟩
    · intro other child hchild
      rcases of_update hchild with ⟨rfl, ⟨⟩⟩ | hchild
      · exact Opened.spawned hstdout hstderr hrequested hat.opened
      · exact hinv.spawned other child hchild
    · intro other hmonitoring
      rcases of_update hmonitoring with ⟨rfl, -⟩ | hmonitoring
      · exact hat.lock.mpr rfl
      · exact hinv.monitored other hmonitoring
    · intro other hother
      simp only [World.standing, update_other hother]
    · simp [World.standing, hat.launched, hat.lock]
  · exact ⟨hinv, JobGuar.refl, hat⟩

theorem spawnHelper_triple : Supervises headers n (At n launch true false mine)
      (spawnHelper n launch (helperArguments stdout stderr path request)
        resolution)
      fun passed world => if passed then At n launch true true mine world
        else At n launch true false mine world := by
  iterate 4 apply Triple.allOf_cons stable_at ask_ok_triple
  exact Triple.allOf_cons stable_at
    (posixSpawn_triple hstdout hstderr hrequested)
    (Triple.allOf_nil stable_at)

end Spawn

/-- What is left of the pipes while there is a job. -/
abbrev readEnds (n : Nat) (stdout stderr : Nat × Nat) : List (Nat × Handle) :=
  [(stdout.1, ⟨.pipe n .stdout false, true⟩),
    (stderr.1, ⟨.pipe n .stderr false, true⟩)]

/-- Both read ends are closed once the loop of `monitor_job` is left. -/
theorem closeEnds_finished {last : JobMonitor} (hlast : last.Finished)
    (stdoutRead stderrRead : Nat) (table : Descriptors Handle) :
    closeEnds last stdoutRead stderrRead table =
      (table.close stdoutRead).close stderrRead := by
  simp [closeEnds, hlast.stdout, hlast.stderr]

theorem monitor_triple {stdout stderr : Nat × Nat} : Supervises headers n
      (At n launch true true (mine ++ readEnds n stdout stderr))
      (monitor n quiet stdout.1 stderr.1)
      fun _ => At n launch true false mine := by
  apply Triple.atomic stable_at fun _ => stable_at
  intro input before after code hinv hat hrun
  dsimp only at hrun
  split at hrun
  · next report hdone =>
    cases hrun
    refine ⟨⟨hinv.spawned, hinv.contained, ?_, hinv.unlaunched⟩,
      ⟨?_, fun other => update_other, fun _ _ => rfl⟩, ?_, ?_⟩
    · intro other hmonitoring
      rcases of_update hmonitoring with ⟨rfl, -⟩ | hmonitoring
      · exact hat.lock.mpr rfl
      · exact hinv.monitored other hmonitoring
    · intro other hother
      simp only [World.standing, update_other hother]
    · have hout := (monitorJob_watched quiet input.answers).left
        (by rw [hdone]; rfl)
      dsimp only
      rw [Function.update_self, closeEnds_finished hout, ← List.append_nil mine]
      exact hat.opened.close.close
    · simp [World.standing, hat.launched, hat.lock]
  · cases hrun

/-- What `resolve_target` has found out of the program that was asked for. -/
structure Resolved (requested : Text) (target : Text × Resolution) : Prop where
  realpath : target.2.realpath.realpath requested = some target.1
  admitted : targetIsAdmitted target.1 = true
  trusted : ∃ status, target.2.stat.stat target.1 = some status ∧
    status.trusted = true
  executable : target.2.access.access target.1 = true

theorem resolveTarget_triple (requested : Text) : Supervises headers n
      (At n launch held monitoring mine) (resolveTarget requested).run
      (Ends (fun target world => At n launch held monitoring mine world ∧
          Resolved requested target)
        (At n launch held monitoring mine)) := by
  have hask : Supervises headers n (At n launch held monitoring mine)
      (Attempt.lift (Prog.ask id) : Attempt World Input LaunchError Input).run
      (Ends (fun _ => At n launch held monitoring mine)
        (At n launch held monitoring mine)) :=
    triple_lift (fun _ => stable_at) (ask_triple id)
  apply triple_bind stable_at hask
  intro realpath
  split
  · exact triple_throw stable_at fun _ _ => id
  next canonical hrealpath =>
  split
  · exact triple_throw stable_at fun _ _ => id
  split
  · exact triple_throw stable_at fun _ _ => id
  next hadmitted =>
  apply triple_bind stable_at hask
  intro stat
  split
  · exact triple_throw stable_at fun _ _ => id
  next status hstat =>
  split
  · exact triple_throw stable_at fun _ _ => id
  next htrusted =>
  apply triple_bind stable_at hask
  intro access
  split
  · exact triple_throw stable_at fun _ _ => id
  next haccess =>
  exact triple_pure (stable_at.and (.const _)) fun _ _ hat =>
    ⟨hat, hrealpath, Bool.eq_true_of_not_eq_false hadmitted,
      ⟨status, hstat, Bool.eq_true_of_not_eq_false htrusted⟩,
      Bool.eq_true_of_not_eq_false haccess⟩

theorem exists_program {arguments request : List Text}
    (hcommand : parseCommand arguments = .run quiet request) :
    ∃ program rest, request = program :: rest := by
  unfold parseCommand at hcommand
  grind

theorem close_at_triple {descriptor : Nat} {mine rest : List (Nat × Handle)}
    (handle : Handle) (first last : List (Nat × Handle))
    (hmine : mine = first ++ (descriptor, handle) :: last)
    (hrest : rest = first ++ last) :
    Supervises headers n (At n launch held monitoring mine)
      ((closeHandle descriptor).on (ownTable n))
      fun _ => At n launch held monitoring rest := by
  subst hmine hrest
  exact on_table_triple closeHandle_triple

theorem monitored_triple {stdout stderr : Nat × Nat} : Supervises headers n
      (At n launch true true (mine ++ pipesOf n (some (stdout, stderr))))
      (do
        Attempt.lift ((closeHandle stdout.2).on (ownTable n))
        Attempt.lift ((closeHandle stderr.2).on (ownTable n))
        Attempt.lift (monitor n quiet stdout.1 stderr.1) :
          Attempt World Input LaunchError Nat).run
      (Ends (fun _ => At n launch true false mine)
        (At n launch true false mine)) := by
  have hstdout : Supervises headers n
      (At n launch true true (mine ++ pipesOf n (some (stdout, stderr))))
      ((closeHandle stdout.2).on (ownTable n))
      fun _ => At n launch true true (mine ++ readEnds n stdout stderr ++
        [(stderr.2, ⟨.pipe n .stderr true, false⟩)]) := by
    apply close_at_triple ⟨.pipe n .stdout true, false⟩
      (mine ++ (readEnds n stdout stderr).take 1) (pipeHandles n .stderr stderr)
    · simp [pipesOf, pipeHandles]
    · simp [pipeHandles]
  apply triple_bind stable_at (triple_lift (fun _ => stable_at) hstdout)
  intro _
  apply triple_bind stable_at (triple_lift
    (fun _ => stable_at) (close_at_triple _ _ [] rfl (List.append_nil _).symm))
  intro _
  exact triple_lift (fun _ => stable_at) monitor_triple

theorem launchHelper_triple {path : Text} {request : List Text}
    {resolution : Resolution}
    (hrequested : Requested launch resolution path request.tail) :
    Supervises headers n (At n launch true false mine)
      (launchHelper n launch quiet request path resolution).run
      (Ends (fun _ => At n launch true false mine)
        (At n launch true false mine)) := by
  apply triple_bind stable_at (triple_lift
    (fun _ => stable_at) (on_table_triple preparePipes_triple))
  rintro (_ | ⟨stdout, stderr⟩)
  · apply triple_throw stable_at
    intro world _ hat
    rwa [pipesOf, List.append_nil] at hat
  have hstdout : (stdout.2, ⟨.pipe n .stdout true, false⟩) ∈
      mine ++ pipesOf n (some (stdout, stderr)) := by
    simp [pipesOf, pipeHandles]
  have hstderr : (stderr.2, ⟨.pipe n .stderr true, false⟩) ∈
      mine ++ pipesOf n (some (stdout, stderr)) := by
    simp [pipesOf, pipeHandles]
  apply triple_bind stable_at (triple_lift stable_spawned
    (spawnHelper_triple hstdout hstderr hrequested))
  rintro (_ | _)
  · apply triple_bind stable_at (triple_lift
      (fun _ => stable_at) (on_table_triple closePipes_triple))
    intro _
    exact triple_throw stable_at fun _ _ => id
  · exact monitored_triple

theorem runJob_triple {request : List Text}
    (hcommand : parseCommand launch.arguments = .run quiet request) :
    Supervises headers n (At n launch true false mine)
      (runJob n launch quiet request).run
      fun _ => At n launch true false mine := by
  have hends : Supervises headers n
      (At n launch true false mine) (runJob n launch quiet request).run
      (Ends (fun _ => At n launch true false mine)
        (At n launch true false mine)) := by
    unfold runJob
    split
    · exact triple_throw stable_at fun _ _ => id
    next hfew =>
    apply triple_bind stable_at (resolveTarget_triple _)
    intro target
    apply Triple.assume
    intro hresolved
    obtain ⟨program, rest, rfl⟩ := exists_program hcommand
    exact launchHelper_triple ⟨⟨quiet, program, hcommand,
      Nat.le_of_not_lt hfew, hresolved.realpath⟩, hresolved.admitted,
      hresolved.trusted, hresolved.executable⟩
  apply hends.mono (fun _ _ => id)
  intro result _ hat
  cases result with
  | ok code | error reason => exact hat

theorem lockedRun_triple {request : List Text} {lockDescriptor : Nat}
    {lockHandle : Handle}
    (hcommand : parseCommand launch.arguments = .run quiet request) :
    Supervises headers n
      (At n launch false false [(lockDescriptor, lockHandle)])
      (lockedRun n launch quiet request lockDescriptor)
      fun _ => At n launch false false [] := by
  have hclose : Supervises headers n
      (At n launch false false [(lockDescriptor, lockHandle)])
      ((closeHandle lockDescriptor).on (ownTable n))
      fun _ => At n launch false false [] :=
    close_at_triple lockHandle [] [] rfl rfl
  apply flock_triple.bind
  rintro (_ | _)
  · apply hclose.bind
    intro _
    exact Triple.ret stable_at fun _ _ => id
  · apply (runJob_triple hcommand).bind
    intro result
    apply unlock_triple.bind
    intro _
    apply hclose.bind
    intro _
    cases result with
    | ok code | error reason => exact Triple.ret stable_at fun _ _ => id

/-- A supervisor ends as it has started. -/
theorem jobRun_triple : Supervises headers n (fun _ => True)
      (jobRun n launch) fun _ => At n launch false false [] := by
  have hstop : ∀ code : Nat, Supervises headers n
      (At n launch false false []) (.ret code : JobProg Nat)
      fun _ => At n launch false false [] :=
    fun _ => Triple.ret stable_at fun _ _ => id
  apply begin_triple.bind
  intro _
  split
  · apply (ask_triple Input.ok).bind
    rintro (_ | _)
    · exact hstop 1
    · exact hstop 0
  · exact hstop _
  · next quiet request hcommand =>
    split
    · exact hstop 1
    apply (on_table_triple openHandle_triple).bind
    rintro (_ | lockDescriptor)
    · exact hstop 1
    · exact lockedRun_triple hcommand

/-- Only its own helper changes the process of a helper. -/
theorem process_of_rely
    (hrely : (jobProtocol headers).Rely (.helper n) before after) :
    after.processes n = before.processes n := by
  obtain ⟨-, -, other, hother, hguar⟩ := hrely
  exact hguar.processes n hother

theorem stable_process (fact : Process OpenFile → Prop) :
    (jobProtocol headers).Stable (.helper n) fun world =>
      fact (world.processes n) := by
  intro before after hrely hfact
  rw [process_of_rely hrely]
  exact hfact

theorem takeChild_triple :
    (jobProtocol headers).Triple (.helper n) (fun _ => True) (takeChild n)
      fun child world => world.processes n = child.process ∧
        Spawned n child := by
  apply Triple.atomic (.const True)
  · intro child
    apply Stable.and (stable_process (· = child.process))
    exact .const _
  intro input before after child hinv _ hrun
  obtain ⟨_, hspawned, hsame⟩ := Option.map_eq_some_iff.mp hrun
  cases hsame
  refine ⟨⟨?_, hinv.contained, hinv.monitored, hinv.unlaunched⟩,
    ⟨fun _ _ => rfl, fun _ _ => rfl, ?_⟩,
    Function.update_self .., hinv.spawned n child hspawned⟩
  · intro other child hchild
    rcases of_update hchild with ⟨-, hnone⟩ | hchild
    · cases hnone
    · exact hinv.spawned other child hchild
  · exact fun other => update_other

/-- What the policy leaves, among all the other processes. -/
theorem on_process_triple {start : Process OpenFile}
    {stdoutText stderrText : Text} :
    (jobProtocol headers).Triple (.helper n)
      (fun world => world.processes n = start)
      (Attempt.on (ownProcess n)
        (applyPolicy headers stdoutText stderrText)).run
      (Ends (fun _ world => Confined headers stdoutText stderrText
        start (world.processes n)) fun _ => True) := by
  have hon : (jobProtocol headers).Triple (.helper n)
      (fun world => world.processes n = start)
      ((applyPolicy headers stdoutText stderrText).run.on (ownProcess n))
      fun result world => Ends (fun _ =>
        Confined headers stdoutText stderrText start) (fun _ => True) result
          (world.processes n) := by
    apply Triple.on (ownProcess n) applyPolicy_triple
    · exact fun before after => process_of_rely
    intro process world hinv
    exact ⟨{ hinv with },
      fun _ _ => rfl, fun _ _ => rfl, fun other => update_other⟩
  apply hon.mono (fun _ _ => id)
  intro result world hend
  cases result with
  | ok _ => exact hend
  | error reason => trivial

theorem execv_triple {child : Child} {stdout stderr : Nat} {path : Text}
    {rest : List Text} (hspawned : Spawned n child)
    (hrequested : Requested child.launch child.resolution path rest)
    (hstdout : child.process.files stdout = some (.pipe n .stdout true))
    (hstderr : child.process.files stderr = some (.pipe n .stderr true)) :
    (jobProtocol headers).Triple (.helper n)
      (fun world => Confined headers (decimal stdout) (decimal stderr)
        child.process (world.processes n))
      (execv n child path (path :: rest)) fun _ _ => True := by
  apply Triple.total (stable_process _) fun _ => .const True
  intro input world hinv hconfined
  split
  · refine ⟨⟨hinv.spawned, ?_, hinv.monitored, hinv.unlaunched⟩,
      ⟨fun _ _ => rfl, fun _ _ => rfl, fun _ _ => rfl⟩, trivial⟩
    intro job hjob
    rcases List.mem_append.mp hjob with hearlier | hnew
    · exact hinv.contained job hearlier
    · rw [List.mem_singleton.mp hnew]
      exact hspawned.contained hstdout hstderr hrequested hconfined
  · exact ⟨hinv, JobGuar.refl, trivial⟩

theorem jobExec_triple :
    (jobProtocol headers).Triple (.helper n) (fun _ => True)
      (jobExec headers n).run (Ends (fun _ _ => True) fun _ => True) := by
  apply triple_bind (.const True) (triple_lift
    (fun child => (stable_process (· = child.process)).and (.const _))
    takeChild_triple)
  intro child
  apply Triple.assume
  intro hspawned
  obtain ⟨stdout, stderr, path, rest, harguments, hrequested, hstdout,
    hstderr⟩ := hspawned.arguments
  rw [harguments]
  apply triple_bind (.const True) on_process_triple
  intro _
  apply triple_check (.const True) (.const True)
  apply (execv_triple hspawned hrequested hstdout hstderr).mono (fun _ _ => id)
  intro passed world _
  rw [ite_self]
  trivial

end Actions

section Runs

variable {headers : Headers}

def Ended : JobThread → JobEnd → World → Prop
  | .supervisor n, .supervisor _, world =>
    ∃ launch, At n launch false false [] world
  | _, _, _ => True

theorem stable_ended (t : JobThread) (result : JobEnd) :
    (jobProtocol headers).Stable t (Ended t result) := by
  cases t with
  | helper n => exact .const True
  | supervisor n =>
    cases result with
    | supervisor code => exact .exists fun launch => stable_at
    | idle | helper stop => exact .const True

theorem jobCode_correct : (jobProtocol headers).Correct Ended (fun _ _ => True)
      (jobCode headers) := by
  intro t call _
  apply Triple.mono _ (fun _ _ _ => trivial) fun _ _ => id
  cases t with
  | supervisor n =>
    cases call with
    | launch launch =>
      apply jobRun_triple.bind
      intro code
      exact Triple.ret (stable_ended _ _) fun _ _ hat => ⟨launch, hat⟩
    | spawned => exact Triple.ret (.const True) fun _ _ => id
  | helper n =>
    cases call with
    | launch launch => exact Triple.ret (.const True) fun _ _ => id
    | spawned =>
      apply jobExec_triple.bind
      intro result
      cases result with
      | ok _ =>
        exact Triple.ret (.const True) fun _ _ _ => trivial
      | error stop =>
        exact Triple.ret (.const True) fun _ _ _ => trivial

def blankAttributes : Attributes where
  uids := .all 0
  gids := .all 0
  groups := []
  bounding := fun _ => true
  capabilities := (.zero, .zero)
  limits := fun _ => (1024, 4096)
  umask := 0o22
  directory := []
  noNewPrivs := false
  filters := []
  leader := false
  blocked := []

def startJobs : Config World Input JobThread JobEnd where
  shared :=
    { launched := fun _ => none
      lock := none
      tables := fun _ _ => none
      spawned := fun _ => none
      processes := fun _ => { blankAttributes with files := fun _ => none }
      monitoring := fun _ => false
      executed := [] }
  thread := fun _ => .ret .idle

def JobRun (headers : Headers) (labels : List (Label JobThread JobCall Input))
    (config : Config World Input JobThread JobEnd) : Prop :=
  startJobs.exec (jobCode headers) labels = some config

variable {labels : List (Label JobThread JobCall Input)}
  {config : Config World Input JobThread JobEnd} {n : Nat}

theorem JobRun.good (hrun : JobRun headers labels config) :
    (jobProtocol headers).Good Ended config := by
  have hstart : (jobProtocol headers).Good Ended startJobs := by
    apply Good.start
    · constructor
      all_goals simp [startJobs]
    · intro t
      refine ⟨.idle, rfl, stable_ended t .idle, ?_⟩
      cases t with
      | supervisor n | helper n => trivial
  exact (hstart.exec jobCode_correct (allowed_always labels) hrun).1

/-- At most one supervisor has a job at a time; and one that has ended, on
whichever path, has given up the lock and left its descriptors as it found
them. -/
theorem jobRun_exclusive (hrun : JobRun headers labels config) :
    (∀ first second, config.shared.monitoring first = true →
      config.shared.monitoring second = true → first = second) ∧
    ∀ n code, config.thread (.supervisor n) = .ret (.supervisor code) →
      ∃ launch, config.shared.launched n = some launch ∧
        config.shared.tables n = launch.handles ∧
        config.shared.lock ≠ some n ∧ config.shared.monitoring n = false := by
  have hgood := hrun.good
  constructor
  · intro first second hfirst hsecond
    have hlock := hgood.inv.monitored first hfirst
    exact Option.some.inj
      (hlock.symm.trans (hgood.inv.monitored second hsecond))
  · intro n code hended
    obtain ⟨launch, hat⟩ := hgood.idle hended
    exact ⟨launch, hat.launched, hat.opened.eq,
      fun hlock => Bool.false_ne_true (hat.lock.mp hlock),
      hat.monitoring_eq⟩

def shellLaunch : Launch where
  arguments := ["-q", "--", "/opt/micronux/apps/hello"].map String.toList
  attributes := blankAttributes
  handles := fun descriptor =>
    if descriptor < 3 then some ⟨.other descriptor, false⟩ else none
  few := Nat.le_refl 1024
  below := fun descriptor hhigh =>
    if_neg (Nat.not_lt.mpr (Nat.le_trans (by decide : 3 ≤ 1024) hhigh))

/-- The numbers of `allowSyscalls` in the headers of riscv32. -/
def riscv32Numbers : List Nat :=
  [63, 64, 65, 66, 67, 68, 57, 62, 25, 23, 24, 59, 56, 291, 78, 61, 48, 439,
    35, 34, 276, 82, 83, 46, 17, 49, 166, 214, 222, 215, 216, 226, 233, 220,
    435, 221, 95, 93, 94, 129, 130, 131, 96, 99, 422, 124, 123, 172, 173, 178,
    174, 175, 176, 177, 148, 150, 158, 134, 135, 139, 133, 132, 128, 403, 407,
    153, 165, 261, 414, 413, 198, 199, 203, 200, 201, 202, 242, 210, 204, 205,
    206, 207, 208, 209, 211, 212, 19, 74, 85, 411, 410, 20, 21, 22, 441, 278,
    160, 179]

/-- The build for riscv32, whose headers number every call of the filter. -/
def riscv32Headers : Headers where
  capLastCap := 40
  number := fun syscall => BitVec.ofNat 32
    (riscv32Numbers.getD (allowSyscalls.idxOf syscall) 0)
  defined := fun _ => true

/-- A second supervisor finds the lock taken while the first has its job. -/
def shellSchedule : List (Label JobThread JobCall Input) :=
  .call (.supervisor 0) (.launch shellLaunch) ::
  List.replicate 23 (.step (.supervisor 0) {}) ++
  .call (.supervisor 1) (.launch shellLaunch) ::
  List.replicate 4 (.step (.supervisor 1) {}) ++
  .call (.helper 0) .spawned ::
  List.replicate 66 (.step (.helper 0) {}) ++
  .step (.supervisor 0) { answers := quickJob } ::
  List.replicate 2 (.step (.supervisor 0) {})

theorem shellSchedule_ends :
    ∃ config, JobRun riscv32Headers shellSchedule config ∧
      config.shared.executed.map (fun job => (job.launcher, job.path)) =
        [(0, "/opt/micronux/apps/hello".toList)] ∧
      config.thread (.supervisor 0) = .ret (.supervisor 0) ∧
      config.thread (.supervisor 1) = .ret (.supervisor 1) := by
  have hcheck : (startJobs.exec (jobCode riscv32Headers) shellSchedule).any
      (fun config => decide (config.shared.executed.map
          (fun job => (job.launcher, job.path)) =
            [(0, "/opt/micronux/apps/hello".toList)] ∧
        (config.thread (.supervisor 0)).reply = some (.supervisor 0) ∧
        (config.thread (.supervisor 1)).reply = some (.supervisor 1))) =
          true := by
    decide +kernel
  obtain ⟨config, hrun, hholds⟩ := Option.any_eq_true _ _ |>.mp hcheck
  obtain ⟨hexecuted, hfirst, hsecond⟩ := of_decide_eq_true hholds
  exact ⟨config, hrun, hexecuted, Prog.eq_ret_of_reply hfirst,
    Prog.eq_ret_of_reply hsecond⟩

theorem shellSchedule_exclusive :
    ∃ config, JobRun riscv32Headers shellSchedule config ∧
      config.thread (.supervisor 1) = .ret (.supervisor 1) ∧
      ∃ launch, config.shared.launched 0 = some launch ∧
        config.shared.tables 0 = launch.handles ∧
        config.shared.lock ≠ some 0 ∧ config.shared.monitoring 0 = false := by
  obtain ⟨config, hrun, -, hfirst, hsecond⟩ := shellSchedule_ends
  exact ⟨config, hrun, hsecond, (jobRun_exclusive hrun).2 0 0 hfirst⟩

end Runs

end Micronux.Job
