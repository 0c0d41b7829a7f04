/-
The command that waits until the station is connected.  It polls the status of
the station, and stops at a connection that has been stable for two seconds, at
a status that it does not know, or at its deadline.
-/
import Micronux.DeviceService

namespace Micronux

/-- `ESP_ERR_WIFI_NOT_CONNECT` and `ESP_ERR_WIFI_NOT_ASSOC` -/
def wifiNotConnect : Word := 0x300f#32
def wifiNotAssoc : Word := 0x3015#32

/-- `ASSOCIATION_STABLE_MS` -/
def associationStableMs : Int := 2000

/-- `station_is_disconnected` -/
def stationIsDisconnected (status : Word) : Bool :=
  status == wifiNotConnect || status == wifiNotAssoc

/-- What the system answers in one turn of the loop: the status that the
station reports (none where the exchange fails), the clock that is read after a
status of 0, the clock of `remaining_timeout_ms`, and whether the sleep ends
well.  A sleep that is interrupted is continued. -/
structure WaitPoll where
  status : Option Word
  now : Option Nat
  later : Option Nat
  slept : Bool := true
deriving DecidableEq

/-- What the command prints. -/
inductive WaitReport where
  | connected
  | unavailable (status : Word)
  | timeout (status : Word)
  | failed
deriving DecidableEq

def WaitReport.exitStatus : WaitReport → Nat
  | .connected => 0
  | _ => 1

/-- `remaining_timeout_ms`, which returns an `int`. -/
def remainingTimeoutMs (deadlineMs : Int) (clock : Option Nat) : Int :=
  if clockMs clock < 0 then -1
  else if deadlineMs - clockMs clock ≤ 0 then 0
  else (BitVec.ofInt 32 (deadlineMs - clockMs clock)).toInt

/-- How a turn of the loop ends. -/
inductive WaitTurn where
  | stop (report : WaitReport)
  | sleep (milliseconds : Int) (connectedSinceMs : Int)
deriving DecidableEq

/-- The end of a turn, from `remaining_timeout_ms` on. -/
def waitSleep (deadlineMs connectedSinceMs : Int) (status : Word)
    (poll : WaitPoll) : WaitTurn :=
  let timeoutMs := remainingTimeoutMs deadlineMs poll.later
  if timeoutMs ≤ 0 then .stop (.timeout status)
  else if poll.slept then
    .sleep (if timeoutMs < 250 then timeoutMs else 250) connectedSinceMs
  else .stop .failed

/-- A turn of the loop of `command_wait`. -/
def waitTurn (deadlineMs connectedSinceMs : Int) (poll : WaitPoll) :
    WaitTurn :=
  match poll.status with
  | none => .stop .failed
  | some status =>
    if status = 0#32 then
      let nowMs := clockMs poll.now
      if nowMs < 0 then .stop .failed
      else
        let connectedSinceMs :=
          if connectedSinceMs < 0 then nowMs else connectedSinceMs
        if associationStableMs ≤ nowMs - connectedSinceMs then
          .stop .connected
        else waitSleep deadlineMs connectedSinceMs status poll
    else if !stationIsDisconnected status then .stop (.unavailable status)
    else waitSleep deadlineMs (-1) status poll

/-- The command after some turns: still polling, or stopped at a poll. -/
inductive WaitState where
  | polling (connectedSinceMs : Int)
  | stopped (poll : Nat) (report : WaitReport)
deriving DecidableEq

/-- The loop of `command_wait`. -/
def waitLoop (deadlineMs : Int) (polls : Nat → WaitPoll) : Nat → WaitState
  | 0 => .polling (-1)
  | turns + 1 =>
    match waitLoop deadlineMs polls turns with
    | .stopped poll report => .stopped poll report
    | .polling connectedSinceMs =>
      match waitTurn deadlineMs connectedSinceMs (polls turns) with
      | .stop report => .stopped turns report
      | .sleep _ connectedSinceMs => .polling connectedSinceMs

/-- `command_wait` after some turns of its loop. -/
def commandWait (timeoutSeconds : Word) (opened : Bool) (start : Option Nat)
    (polls : Nat → WaitPoll) (turns : Nat) : WaitState :=
  if !opened || clockMs start < 0 then .stopped 0 .failed
  else
    waitLoop (clockMs start + timeoutSeconds.toNat * 1000) polls turns

theorem clockMs_some (now : Nat) : clockMs (some now) = now := rfl

theorem stationIsDisconnected_iff (status : Word) :
    stationIsDisconnected status = true ↔
      status = wifiNotConnect ∨ status = wifiNotAssoc := by
  unfold stationIsDisconnected
  rw [Bool.or_eq_true, beq_iff_eq, beq_iff_eq]

/-- What `strtoul` makes of a text: the value, whether it is all of a text that
is not empty, and whether there was an error. -/
structure StrtoulAnswer where
  value : Nat
  complete : Bool
  failed : Bool
deriving DecidableEq

/-- `parse_wait_seconds` -/
def parseWaitSeconds (answer : StrtoulAnswer) : Option Word :=
  if answer.failed || !answer.complete || answer.value == 0 ||
      decide (300 < answer.value) then none
  else some (BitVec.ofNat 32 answer.value)

/-- The time that `main` passes to `command_wait`. -/
def waitSeconds : Option StrtoulAnswer → Option Word
  | none => some 20#32
  | some answer => parseWaitSeconds answer

variable {seconds : Word}

theorem waitSeconds_le {argument : Option StrtoulAnswer}
    (hseconds : waitSeconds argument = some seconds) : seconds.toNat ≤ 300 := by
  cases argument with
  | none =>
    cases hseconds
    decide
  | some answer =>
    change parseWaitSeconds answer = some seconds at hseconds
    unfold parseWaitSeconds at hseconds
    split at hseconds
    · cases hseconds
    · rename_i haccepted
      simp only [Bool.or_eq_true, decide_eq_true_eq, not_or] at haccepted
      cases hseconds
      rw [BitVec.toNat_ofNat]
      omega

/-- Statuses of the station, and readings of a clock that does not go back, for
a command of which no call fails.  After a status of 0 the clock is read twice;
after another one the first reading is not made. -/
structure WaitTrace where
  start : Nat
  status : Nat → Word
  now : Nat → Nat
  later : Nat → Nat
  first : start ≤ now 0
  order : ∀ poll, now poll ≤ later poll
  next : ∀ poll, later poll ≤ now (poll + 1)

namespace WaitTrace

variable (trace : WaitTrace)

def polls (poll : Nat) : WaitPoll where
  status := some (trace.status poll)
  now := some (trace.now poll)
  later := some (trace.later poll)

/-- All polls from one to another reported status 0, over two seconds. -/
def Stable (poll : Nat) : Prop :=
  ∃ origin ≤ poll, (∀ other, origin ≤ other → other ≤ poll →
    trace.status other = 0#32) ∧ trace.now origin + 2000 ≤ trace.now poll

/-- A poll reported a status that the command does not know. -/
def Unavailable (poll : Nat) : Prop :=
  trace.status poll ≠ 0#32 ∧ trace.status poll ≠ wifiNotConnect ∧
    trace.status poll ≠ wifiNotAssoc

def Expired (seconds : Word) (poll : Nat) : Prop :=
  trace.start + seconds.toNat * 1000 ≤ trace.later poll

/-- One of the reasons to stop at a poll. -/
def Ends (seconds : Word) (poll : Nat) : Prop :=
  trace.Stable poll ∨ trace.Unavailable poll ∨ trace.Expired seconds poll

/-- The report is that of the first reason that applies. -/
structure Decides (poll : Nat) (report : WaitReport) : Prop where
  connected : trace.Stable poll → report = .connected
  unavailable : ¬ trace.Stable poll → trace.Unavailable poll →
    report = .unavailable (trace.status poll)
  timeout : ¬ trace.Stable poll → ¬ trace.Unavailable poll →
    report = .timeout (trace.status poll)

/-- The time since which the station has been connected, before a poll. -/
def Since (poll : Nat) (sinceMs : Int) : Prop :=
  (sinceMs = -1 ∧ (poll = 0 ∨ trace.status (poll - 1) ≠ 0#32)) ∨
    ∃ origin < poll, sinceMs = trace.now origin ∧
      (∀ other, origin ≤ other → other < poll → trace.status other = 0#32) ∧
      (origin = 0 ∨ trace.status (origin - 1) ≠ 0#32)

variable {trace : WaitTrace}

theorem now_mono {first second : Nat} (hle : first ≤ second) :
    trace.now first ≤ trace.now second := by
  induction hle with
  | refl => exact Nat.le_refl _
  | step hle ih =>
    exact Nat.le_trans ih (Nat.le_trans (trace.order _) (trace.next _))

theorem start_le_later (poll : Nat) : trace.start ≤ trace.later poll :=
  Nat.le_trans (Nat.le_trans trace.first (now_mono (Nat.zero_le poll)))
    (trace.order poll)

/-- The time that is left, where no clock fails. -/
theorem remaining_le_zero (hseconds : seconds.toNat ≤ 300) (poll : Nat) :
    remainingTimeoutMs (trace.start + seconds.toNat * 1000)
        (some (trace.later poll)) ≤ 0 ↔ trace.Expired seconds poll := by
  have hstart := trace.start_le_later poll
  unfold remainingTimeoutMs Expired
  rw [clockMs_some, if_neg (Int.not_lt.mpr (Int.natCast_nonneg _))]
  split
  · constructor
    · intro
      omega
    · exact fun _ => Int.le_refl 0
  · rename_i hleft
    rw [BitVec.toInt_ofInt, Int.bmod_eq_of_le] <;> omega

/-- The end of a turn: the deadline is reached, or the command sleeps. -/
theorem waitSleep_eq (hseconds : seconds.toNat ≤ 300) (poll : Nat)
    (since : Int) : (trace.Expired seconds poll ∧
      waitSleep (trace.start + seconds.toNat * 1000) since
          (trace.status poll) (trace.polls poll) =
        .stop (.timeout (trace.status poll))) ∨
    (¬ trace.Expired seconds poll ∧ ∃ milliseconds,
      waitSleep (trace.start + seconds.toNat * 1000) since
          (trace.status poll) (trace.polls poll) =
        .sleep milliseconds since) := by
  have hleft : remainingTimeoutMs (trace.start + seconds.toNat * 1000)
      (trace.polls poll).later ≤ 0 ↔ trace.Expired seconds poll :=
    trace.remaining_le_zero hseconds poll
  have hslept : (trace.polls poll).slept = true := rfl
  unfold waitSleep
  dsimp only
  by_cases hexpired : trace.Expired seconds poll
  · rw [if_pos (hleft.mpr hexpired)]
    exact .inl ⟨hexpired, rfl⟩
  · rw [if_neg (mt hleft.mp hexpired), if_pos hslept]
    exact .inr ⟨hexpired, _, rfl⟩

/-- A connection is stable when it was first seen two seconds ago. -/
theorem stable_iff {origin poll : Nat} (hle : origin ≤ poll)
    (hzero : ∀ other, origin ≤ other → other ≤ poll → trace.status other = 0#32)
    (hfirst : origin = 0 ∨ trace.status (origin - 1) ≠ 0#32) :
    trace.Stable poll ↔ trace.now origin + 2000 ≤ trace.now poll := by
  constructor
  · rintro ⟨other, hother, hzeros, hlong⟩
    -- a longer streak would contain the poll before the origin
    have horigin : origin ≤ other := by
      by_contra hearlier
      rcases hfirst with rfl | hbefore
      · omega
      · exact hbefore (hzeros (origin - 1) (by omega) (by omega))
    exact Nat.le_trans (Nat.add_le_add_right (now_mono horigin) 2000) hlong
  · exact fun hlong => ⟨origin, hle, hzero, hlong⟩

variable {since : Int}

theorem Since.zero {poll : Nat} (hsince : trace.Since poll since)
    (hstatus : trace.status poll = 0#32) :
    ∃ origin ≤ poll, (if since < 0 then (trace.now poll : Int) else since) =
        trace.now origin ∧
      (∀ other, origin ≤ other → other ≤ poll → trace.status other = 0#32) ∧
      (origin = 0 ∨ trace.status (origin - 1) ≠ 0#32) := by
  rcases hsince with ⟨rfl, hbefore⟩ | ⟨origin, hlt, rfl, hzero, hfirst⟩
  · refine ⟨poll, Nat.le_refl poll, if_pos (by decide), ?_, hbefore⟩
    intro other hle hge
    rwa [Nat.le_antisymm hge hle]
  · refine ⟨origin, Nat.le_of_lt hlt,
      if_neg (Int.not_lt.mpr (Int.natCast_nonneg _)), ?_, hfirst⟩
    intro other hle hge
    rcases Nat.lt_or_eq_of_le hge with hless | rfl
    · exact hzero other hle hless
    · exact hstatus

variable (trace) in
/-- A turn stops exactly at a reason to stop, with the report of the first
one. -/
inductive TurnEnd (seconds : Word) (poll : Nat) : WaitTurn → Prop where
  | stop {report : WaitReport} (ends : trace.Ends seconds poll)
      (decides : trace.Decides poll report) : TurnEnd seconds poll (.stop report)
  | sleep {milliseconds next : Int} (goes : ¬ trace.Ends seconds poll)
      (since : trace.Since (poll + 1) next) :
      TurnEnd seconds poll (.sleep milliseconds next)

section

variable (hseconds : seconds.toNat ≤ 300)

include hseconds

/-- Only the deadline is left to end a turn that goes on to sleep. -/
theorem waitSleep_end {poll : Nat} {next : Int}
    (hunstable : ¬ trace.Stable poll) (hknown : ¬ trace.Unavailable poll)
    (hnext : trace.Since (poll + 1) next) :
    trace.TurnEnd seconds poll
      (waitSleep (trace.start + seconds.toNat * 1000) next
        (trace.status poll) (trace.polls poll)) := by
  rcases trace.waitSleep_eq hseconds poll next with
    ⟨hexpired, hsleep⟩ | ⟨hearly, milliseconds, hsleep⟩
  · rw [hsleep]
    exact .stop (.inr (.inr hexpired)) ⟨fun hother => absurd hother hunstable,
      fun _ hother => absurd hother hknown, fun _ _ => rfl⟩
  · rw [hsleep]
    refine .sleep ?_ hnext
    rintro (hother | hother | hother)
    · exact hunstable hother
    · exact hknown hother
    · exact hearly hother

theorem waitTurn_zero {poll : Nat} (hsince : trace.Since poll since)
    (hstatus : trace.status poll = 0#32) :
    trace.TurnEnd seconds poll
      (waitTurn (trace.start + seconds.toNat * 1000) since
        (trace.polls poll)) := by
  obtain ⟨origin, hle, horigin, hzero, hfirst⟩ := hsince.zero hstatus
  have hstable := trace.stable_iff hle hzero hfirst
  have hturn : waitTurn (trace.start + seconds.toNat * 1000) since
      (trace.polls poll) =
      if associationStableMs ≤ (trace.now poll : Int) - trace.now origin then
        .stop .connected
      else waitSleep (trace.start + seconds.toNat * 1000) (trace.now origin)
        (trace.status poll) (trace.polls poll) := by
    rw [← horigin]
    unfold waitTurn
    dsimp only [polls, clockMs]
    rw [if_pos hstatus, if_neg (Int.not_lt.mpr (Int.natCast_nonneg _))]
  rw [hturn]
  unfold associationStableMs
  by_cases hlong : 2000 ≤ (trace.now poll : Int) - trace.now origin
  · have hconnected : trace.Stable poll := hstable.mpr (by omega)
    rw [if_pos hlong]
    exact .stop (.inl hconnected) ⟨fun _ => rfl,
      fun hother => absurd hconnected hother,
      fun hother => absurd hconnected hother⟩
  · have hunstable : ¬ trace.Stable poll := by
      rw [hstable]
      omega
    rw [if_neg hlong]
    refine waitSleep_end hseconds hunstable (fun hother => hother.1 hstatus)
      (.inr ⟨origin, Nat.lt_succ_of_le hle, rfl, ?_, hfirst⟩)
    exact fun other hge hless => hzero other hge (Nat.le_of_lt_succ hless)

theorem waitTurn_other {poll : Nat} (hstatus : trace.status poll ≠ 0#32) :
    trace.TurnEnd seconds poll
      (waitTurn (trace.start + seconds.toNat * 1000) since
        (trace.polls poll)) := by
  have hunstable : ¬ trace.Stable poll := by
    rintro ⟨origin, hle, hzero, -⟩
    exact hstatus (hzero poll hle (Nat.le_refl poll))
  have hturn : waitTurn (trace.start + seconds.toNat * 1000) since
      (trace.polls poll) =
      if !stationIsDisconnected (trace.status poll) then
        .stop (.unavailable (trace.status poll))
      else waitSleep (trace.start + seconds.toNat * 1000) (-1)
        (trace.status poll) (trace.polls poll) := by
    unfold waitTurn
    dsimp only [polls]
    rw [if_neg hstatus]
  rw [hturn]
  by_cases hdisconnected : stationIsDisconnected (trace.status poll) = true
  · have hknown : ¬ trace.Unavailable poll := by
      rintro ⟨-, hfirst, hsecond⟩
      rcases (stationIsDisconnected_iff _).mp hdisconnected with heq | heq
      · exact hfirst heq
      · exact hsecond heq
    rw [hdisconnected, if_neg (by decide)]
    exact waitSleep_end hseconds hunstable hknown (.inl ⟨rfl, .inr hstatus⟩)
  · have hunknown : trace.Unavailable poll := by
      obtain ⟨hfirst, hsecond⟩ :=
        not_or.mp (mt (stationIsDisconnected_iff _).mpr hdisconnected)
      exact ⟨hstatus, hfirst, hsecond⟩
    rw [Bool.not_eq_true _ |>.mp hdisconnected, if_pos (by decide)]
    exact .stop (.inr (.inl hunknown)) ⟨fun hother => absurd hother hunstable,
      fun _ _ => rfl, fun _ hother => absurd hunknown hother⟩

theorem waitTurn_end {poll : Nat} (hsince : trace.Since poll since) :
    trace.TurnEnd seconds poll
      (waitTurn (trace.start + seconds.toNat * 1000) since
        (trace.polls poll)) := by
  by_cases hstatus : trace.status poll = 0#32
  · exact waitTurn_zero hseconds hsince hstatus
  · exact waitTurn_other hseconds hstatus

/-- As long as nothing ends the loop it goes on. -/
theorem waitLoop_polling {turns : Nat}
    (hgoes : ∀ poll < turns, ¬ trace.Ends seconds poll) :
    ∃ since, waitLoop (trace.start + seconds.toNat * 1000) trace.polls turns =
        .polling since ∧ trace.Since turns since := by
  induction turns with
  | zero => exact ⟨-1, rfl, .inl ⟨rfl, .inl rfl⟩⟩
  | succ turns ih =>
    obtain ⟨since, hloop, hsince⟩ := ih fun poll hlt =>
      hgoes poll (Nat.lt_succ_of_lt hlt)
    have hturn := waitTurn_end hseconds hsince
    rw [waitLoop, hloop]
    dsimp only
    generalize waitTurn (trace.start + seconds.toNat * 1000) since
      (trace.polls turns) = result at hturn ⊢
    cases hturn with
    | stop hends =>
      exact absurd hends (hgoes turns (Nat.lt_succ_self turns))
    | sleep hon hnext => exact ⟨_, rfl, hnext⟩

/-- The loop stops at the first poll that ends it, and stays stopped. -/
theorem waitLoop_stops {poll : Nat}
    (hgoes : ∀ other < poll, ¬ trace.Ends seconds other)
    (hends : trace.Ends seconds poll) :
    ∃ report, trace.Decides poll report ∧ ∀ turns, poll < turns →
      waitLoop (trace.start + seconds.toNat * 1000) trace.polls turns =
        .stopped poll report := by
  obtain ⟨since, hloop, hsince⟩ := waitLoop_polling hseconds hgoes
  have hturn := waitTurn_end hseconds hsince
  generalize hresult : waitTurn (trace.start + seconds.toNat * 1000) since
    (trace.polls poll) = result at hturn
  cases hturn with
  | @stop report _ hdecides =>
    refine ⟨report, hdecides, fun turns hlt => ?_⟩
    induction hlt with
    | refl =>
      rw [waitLoop, hloop]
      dsimp only
      rw [hresult]
    | step hle ih => rw [waitLoop, ih]
  | sleep hon => exact absurd hends hon

end

/-- Among the polls that end the loop there is a first one. -/
theorem exists_first {poll : Nat} (hends : trace.Ends seconds poll) :
    ∃ first ≤ poll, (∀ other < first, ¬ trace.Ends seconds other) ∧
      trace.Ends seconds first := by
  induction poll using Nat.strong_induction_on with
  | h poll ih =>
    by_cases hearlier : ∃ other < poll, trace.Ends seconds other
    · obtain ⟨other, hlt, hother⟩ := hearlier
      obtain ⟨first, hle, hfirst⟩ := ih other hlt hother
      exact ⟨first, Nat.le_trans hle (Nat.le_of_lt hlt), hfirst⟩
    · refine ⟨poll, Nat.le_refl poll, fun other hlt hother => ?_, hends⟩
      exact hearlier ⟨other, hlt, hother⟩

/-- A stable connection: every status other than 0 is two seconds old. -/
theorem Stable.settled {poll : Nat} (hstable : trace.Stable poll) {other : Nat}
    (hother : other ≤ poll) (hstatus : trace.status other ≠ 0#32) :
    trace.later other + 2000 ≤ trace.now poll := by
  obtain ⟨origin, hle, hzero, hlong⟩ := hstable
  have hbefore : other + 1 ≤ origin := by
    by_contra hlater
    exact hstatus (hzero other (by omega) hother)
  have hnow := Nat.le_trans (trace.next other) (now_mono hbefore)
  omega

end WaitTrace

/-- `command_wait` stops at the first poll after which the connection has been
stable, the status is unknown or the deadline has been reached, and reports the
first of these that applies; it goes on as long as there is none.  When it
reports a connection, every status other than 0 is two seconds old. -/
theorem commandWait_stops (argument : Option StrtoulAnswer) (seconds : Word)
    (hseconds : waitSeconds argument = some seconds) (trace : WaitTrace) :
    (∀ turns poll report,
      commandWait seconds true (some trace.start) trace.polls turns =
        .stopped poll report →
      (∀ other < poll, ¬ trace.Ends seconds other) ∧
        trace.Ends seconds poll ∧ trace.Decides poll report ∧
        (report.exitStatus = 0 ↔ trace.Stable poll) ∧
        (report.exitStatus = 0 → ∀ other ≤ poll, trace.status other ≠ 0#32 →
          trace.later other + 2000 ≤ trace.now poll)) ∧
    (∀ poll, (∀ other < poll, ¬ trace.Ends seconds other) →
      trace.Ends seconds poll → ∃ report, ∀ turns, poll < turns →
        commandWait seconds true (some trace.start) trace.polls turns =
          .stopped poll report) ∧
    ((∀ turns poll report,
      commandWait seconds true (some trace.start) trace.polls turns ≠
        .stopped poll report) → ∀ poll, ¬ trace.Ends seconds poll) := by
  have hbound := waitSeconds_le hseconds
  have hcommand : ∀ turns,
      commandWait seconds true (some trace.start) trace.polls turns =
        waitLoop (trace.start + seconds.toNat * 1000) trace.polls turns := by
    intro turns
    unfold commandWait
    rw [clockMs_some, if_neg]
    simp
  simp only [hcommand]
  refine ⟨?_, ?_, ?_⟩
  · intro turns poll report hstopped
    obtain ⟨last, hlast, hends⟩ : ∃ last < turns, trace.Ends seconds last := by
      by_contra hnone
      obtain ⟨since, hpolling, -⟩ := WaitTrace.waitLoop_polling hbound
        fun other hlt hother => hnone ⟨other, hlt, hother⟩
      cases hpolling.symm.trans hstopped
    obtain ⟨first, hfirst, hbefore, hends⟩ := WaitTrace.exists_first hends
    obtain ⟨found, hdecides, hloop⟩ :=
      WaitTrace.waitLoop_stops hbound hbefore hends
    cases (hloop turns (Nat.lt_of_le_of_lt hfirst hlast)).symm.trans hstopped
    have hstable : report.exitStatus = 0 ↔ trace.Stable poll := by
      constructor
      · intro hzero
        by_contra hunstable
        by_cases hunavailable : trace.Unavailable poll
        · rw [hdecides.unavailable hunstable hunavailable] at hzero
          cases hzero
        · rw [hdecides.timeout hunstable hunavailable] at hzero
          cases hzero
      · intro hstable
        rw [hdecides.connected hstable]
        rfl
    exact ⟨hbefore, hends, hdecides, hstable, fun hzero other hother hstatus =>
      (hstable.mp hzero).settled hother hstatus⟩
  · intro poll hbefore hends
    obtain ⟨report, -, hloop⟩ :=
      WaitTrace.waitLoop_stops hbound hbefore hends
    exact ⟨report, hloop⟩
  · intro hnever poll hends
    obtain ⟨first, -, hbefore, hends⟩ := WaitTrace.exists_first hends
    obtain ⟨report, -, hloop⟩ :=
      WaitTrace.waitLoop_stops hbound hbefore hends
    exact hnever (first + 1) first report (hloop _ (Nat.lt_succ_self first))

/-- A station that is not connected at the first poll and connected from then
on, polled every 250 ms. -/
def steadyTrace : WaitTrace where
  start := 0
  status := fun poll => if poll = 0 then wifiNotConnect else 0#32
  now := fun poll => 250 * poll
  later := fun poll => 250 * poll
  first := Nat.le_refl 0
  order := fun _ => Nat.le_refl _
  next := fun poll => Nat.mul_le_mul_left 250 (Nat.le_succ poll)

theorem steadyTrace_connected :
    steadyTrace.Stable 9 ∧ ∀ other ≤ 9, steadyTrace.status other ≠ 0#32 →
      steadyTrace.later other + 2000 ≤ steadyTrace.now 9 := by
  have hstopped : commandWait 20#32 true (some steadyTrace.start)
      steadyTrace.polls 10 = .stopped 9 .connected := by
    decide +kernel
  obtain ⟨-, -, -, hstable, hsettled⟩ :=
    (commandWait_stops none 20#32 rfl steadyTrace).1 10 9 .connected hstopped
  exact ⟨hstable.mp rfl, hsettled rfl⟩

end Micronux
