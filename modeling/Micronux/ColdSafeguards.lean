/-
What stands behind a quiescent failure of the cold bring-up: acknowledged
writes after the last release or reveal of the panel, and readbacks of the
blocks, over every run of the calls.
-/
import Micronux.ColdContainment

namespace Micronux.Cold

open Concurrent EventLog

/-- What the driver relies on when it calls a failure quiescent. -/
inductive Safeguard where
  | pwmZero
  | resetPrepare
  | resetAssert
  | off (block : Block)
deriving DecidableEq

def Safeguard.evidence : Safeguard → Event
  | .pwmZero => .pwm 0 true
  | .resetPrepare => .control resetPrepareCommand true
  | .resetAssert => .control resetAssertCommand true
  | .off block => .readback block true

/-- A panel release or a reveal, acknowledged or not. -/
def Event.lights : Event → Bool
  | .release _ => true
  | .control command _ => command == revealCommand
  | .pwm _ _ | .started _ | .readback _ _ | .quiesced _ => false

/-- The events after which the evidence has to be renewed. -/
def Safeguard.spoiledBy : Safeguard → Event → Bool
  | .pwmZero, event | .resetPrepare, event | .resetAssert, event => event.lights
  | .off block, event =>
    event == .started block || event == .readback block false

/-- The evidence was seen, and not spoiled since. -/
def Safeguard.Stands (safeguard : Safeguard) (log : List Event) : Prop :=
  Since safeguard.evidence safeguard.spoiledBy log

instance (safeguard : Safeguard) (log : List Event) :
    Decidable (safeguard.Stands log) :=
  inferInstanceAs (Decidable (Since _ _ _))

def sharedSafeguards : List Safeguard :=
  [.off .ldo, .off .display, .off .i2c, .resetPrepare, .pwmZero]

/-- What is known of a quiescent failure: the routine behind a failed reveal
gives no reset. -/
structure Quiesced (log : List Event) : Prop where
  shared : ∀ safeguard ∈ sharedSafeguards, safeguard.Stands log
  reset : .quiesced .reveal ∉ log → Safeguard.resetAssert.Stands log

/-- A quiescent failure has its safeguards, and whoever does not hold
`mode_lock` can only take it. -/
def protocol : Protocol ThreadId Driver where
  inv driver := driver.displayState = .failedQuiescent → Quiesced driver.log
  guar t before after := before.modeLock ≠ some t → after = before ∨
      before.modeLock = none ∧ after = { before with modeLock := some t }

/-- The holder of `mode_lock` has the driver for itself. -/
def Held (t : ThreadId) (assertion : Driver → Prop) (driver : Driver) : Prop :=
  driver.modeLock = some t ∧ assertion driver

/-- The holder is at work, and as long as everything succeeded the safeguards
stand. -/
def Working (t : ThreadId) (passed : Bool) (safeguards : List Safeguard) :
    Driver → Prop :=
  Held t fun driver => driver.displayState ≠ .failedQuiescent ∧
    (passed = true → ∀ safeguard ∈ safeguards, safeguard.Stands driver.log)

variable {t : ThreadId} {α : Type} {passed : Bool} {safeguards : List Safeguard}

theorem held_stable (assertion : Driver → Prop) :
    protocol.Stable t (Held t assertion) := by
  rintro before after ⟨-, -, other, hother, hguar⟩ ⟨hlock, hassertion⟩
  have hlocked : before.modeLock ≠ some other := fun hsame =>
    hother (Option.some.inj (hsame.symm.trans hlock))
  rcases hguar hlocked with rfl | ⟨hfree, -⟩
  · exact ⟨hlock, hassertion⟩
  · exact absurd (hlock.symm.trans hfree) (Option.some_ne_none t)

variable {pre : Driver → Prop} {prog : DriverProg α} {value : α}
  {post : α → Driver → Prop} {state : DisplayState}

theorem Held.atomic {run : Bool → Driver → Option (Driver × α)}
    (hrun : ∀ ok before after value, protocol.inv before → pre before →
      run ok before = some (after, value) →
      protocol.inv after ∧ after.modeLock = before.modeLock ∧
        post value after) :
    protocol.Triple t (Held t pre) (Prog.atomic run)
      fun value => Held t (post value) := by
  apply Protocol.Triple.atomic (held_stable pre) fun value =>
    held_stable (post value)
  rintro ok before after value hinv ⟨hlock, hpre⟩ hresult
  obtain ⟨hafter, hsame, hpost⟩ := hrun ok before after value hinv hpre hresult
  exact ⟨hafter, fun hother => absurd hlock hother, hsame.trans hlock, hpost⟩

/-- A change by the holder that does not end in a quiescent failure. -/
def Ongoing (before after : Driver) : Prop :=
  after.modeLock = before.modeLock ∧ (before.displayState ≠ .failedQuiescent →
      after.displayState ≠ .failedQuiescent)

theorem Ongoing.refl (driver : Driver) : Ongoing driver driver :=
  ⟨rfl, id⟩

def Unlogged (before after : Driver) : Prop :=
  Ongoing before after ∧ after.log = before.log

theorem Unlogged.refl (driver : Driver) : Unlogged driver driver :=
  ⟨.refl driver, rfl⟩

/-- The holder is at work, and nothing is known of the panel. -/
def Busy (t : ThreadId) : Driver → Prop :=
  Held t fun driver => driver.displayState ≠ .failedQuiescent

theorem Busy.within (hprog : prog.Within Ongoing) :
    protocol.Triple t (Busy t) prog fun _ => Busy t := by
  apply Protocol.Triple.within_pre hprog (held_stable _)
  rintro before after ⟨hsame, hongoing⟩ hinv ⟨hlock, hstate⟩
  exact ⟨fun hquiescent => absurd hquiescent (hongoing hstate),
    fun hother => absurd hlock hother, hsame.trans hlock, hongoing hstate⟩

/-- At the start of a sequence there is nothing to stand. -/
theorem Busy.working (hprog : protocol.Triple t (Working t true []) prog post) :
    protocol.Triple t (Busy t) prog post :=
  hprog.mono (fun _ _ hstart =>
    ⟨hstart.1, hstart.2, fun _ => List.forall_mem_nil _⟩) fun _ _ => id

theorem Working.keep (hprog : prog.Within Unlogged) :
    protocol.Triple t (Working t passed safeguards) prog
      fun _ => Working t passed safeguards := by
  apply Protocol.Triple.within_pre hprog (held_stable _)
  rintro before after ⟨⟨hsame, hongoing⟩, hlog⟩ hinv ⟨hlock, hstate, hstands⟩
  refine ⟨fun hquiescent => absurd hquiescent (hongoing hstate),
    fun hother => absurd hlock hother, hsame.trans hlock, hongoing hstate, ?_⟩
  rw [hlog]
  exact hstands

theorem Working.ret {post : α → Bool}
    (hpassed : post value = true → passed = true) :
    protocol.Triple t (Working t passed safeguards)
      (.ret value : DriverProg α) fun value =>
        Working t (post value) safeguards :=
  .ret (held_stable _) fun _ _ hstart =>
    ⟨hstart.1, hstart.2.1, fun hpost => hstart.2.2 (hpassed hpost)⟩

/-- A failed step leaves nothing to stand. -/
theorem Working.failed {post : α → Bool} (hfailed : post value = false)
    (others : List Safeguard) :
    protocol.Triple t (Working t passed safeguards)
      (.ret value : DriverProg α) fun value =>
        Working t (post value) others :=
  .ret (held_stable _) fun _ _ hstart =>
    ⟨hstart.1, hstart.2.1, fun hpost =>
      absurd (hfailed.symm.trans hpost) Bool.false_ne_true⟩

/-- The evidence for a safeguard, where it leaves the others standing. -/
theorem stands_push {safeguard : Safeguard} {log : List Event}
    (hkept : ∀ other ∈ safeguards, other.spoiledBy safeguard.evidence = false)
    (hstands : ∀ other ∈ safeguards, other.Stands log) :
    ∀ other ∈ safeguard :: safeguards,
      other.Stands (safeguard.evidence :: log) := by
  rw [List.forall_mem_cons]
  exact ⟨since_now _ _ _, fun other hother =>
    (hstands other hother).push (hkept other hother)⟩

/-- An action that logs the evidence for a safeguard if it succeeds. -/
theorem Working.atomic {run : Bool → Driver → Option (Driver × Bool)}
    (safeguard : Safeguard)
    (hkept : ∀ other ∈ safeguards, other.spoiledBy safeguard.evidence = false)
    (hrun : ∀ ok before after succeeded,
      run ok before = some (after, succeeded) → Ongoing before after ∧
        (succeeded = true → after.log = safeguard.evidence :: before.log)) :
    protocol.Triple t (Working t passed safeguards) (Prog.atomic run)
      fun succeeded => Working t (passed && succeeded)
        (safeguard :: safeguards) := by
  apply Held.atomic
  rintro ok before after succeeded - ⟨hstate, hstands⟩ hresult
  obtain ⟨⟨hsame, hongoing⟩, hlog⟩ := hrun ok before after succeeded hresult
  refine ⟨fun hquiescent => absurd hquiescent (hongoing hstate), hsame,
    hongoing hstate, fun hboth => ?_⟩
  obtain ⟨hpassed, hsucceeded⟩ := Bool.and_eq_true_iff.mp hboth
  rw [hlog hsucceeded]
  exact stands_push hkept (hstands hpassed)

theorem observe_working {event : Bool → Event} (safeguard : Safeguard)
    (hevidence : event true = safeguard.evidence)
    (hkept : ∀ other ∈ safeguards, other.spoiledBy safeguard.evidence = false) :
    protocol.Triple t (Working t passed safeguards) (observe event)
      fun ok => Working t (passed && ok) (safeguard :: safeguards) := by
  apply Working.atomic safeguard hkept
  intro ok before after succeeded hrun
  cases hrun
  refine ⟨⟨rfl, id⟩, fun hok => ?_⟩
  rw [hok, hevidence]

theorem releasedBehind_working (gated : Bool) (hkept : ∀ other ∈ safeguards,
      other.spoiledBy (.readback .i2c true) = false) :
    protocol.Triple t (Working t passed safeguards) (releasedBehind gated)
      fun released => Working t (passed && released)
        (.off .i2c :: safeguards) := by
  cases gated with
  | false => exact Working.failed (Bool.and_false passed) _
  | true =>
    apply Working.atomic (.off .i2c) hkept
    intro ok before after succeeded hrun
    cases hrun
    refine ⟨⟨rfl, id⟩, fun hoff => ?_⟩
    rw [hoff]
    rfl

theorem answer_unlogged : answer.Within Unlogged :=
  .ask Unlogged.refl _

theorem load_unlogged (view : Driver → α) :
    (Prog.load view : DriverProg α).Within Unlogged :=
  .load Unlogged.refl _

theorem i2cGate_unlogged : i2cGate.Within Unlogged := by
  apply answer_unlogged.bind
  intro gated
  apply Prog.Within.ite
  · exact .bind (.store fun _ => ⟨⟨rfl, id⟩, rfl⟩) fun _ => .ret true
  · exact .ret false

theorem runtimeTeardown_unlogged : runtimeTeardown.Within Unlogged :=
  .bind (.store fun _ => ⟨⟨rfl, id⟩, rfl⟩) fun _ => answer_unlogged

theorem ongoing_of_unlogged (hprog : prog.Within Unlogged) :
    prog.Within Ongoing :=
  hprog.mono fun _ _ hchange => hchange.1

theorem observe_ongoing (event : Bool → Event) :
    (observe event).Within Ongoing := by
  apply Prog.Within.atomic
  intro ok before after succeeded hrun
  cases hrun
  exact ⟨rfl, id⟩

theorem i2cReleased_ongoing : i2cReleased.Within Ongoing := by
  apply Prog.Within.atomic
  intro ok before after succeeded hrun
  cases hrun
  exact ⟨rfl, id⟩

theorem i2cInitialize_ongoing : i2cInitialize.Within Ongoing := by
  apply (ongoing_of_unlogged answer_unlogged).bind
  intro valid
  apply Prog.Within.ite
  · exact .bind (.store fun _ => ⟨rfl, id⟩) fun _ =>
      ongoing_of_unlogged answer_unlogged
  · exact .ret false

theorem i2cEnsure_ongoing : i2cEnsure.Within Ongoing :=
  (ongoing_of_unlogged (load_unlogged _)).bind fun _ =>
    .ite (.ret true) i2cInitialize_ongoing

theorem quiesceWrites_working :
    protocol.Triple t (Busy t) quiesceWrites fun acks =>
      Working t acks.all [.resetAssert, .resetPrepare, .pwmZero] := by
  apply Busy.working
  apply (observe_working .pwmZero rfl (by decide)).bind
  intro pwm
  apply (observe_working .resetPrepare rfl (by decide)).bind
  intro prepare
  apply (observe_working .resetAssert rfl (by decide)).bind
  intro reset
  apply (Working.keep i2cGate_unlogged).bind
  intro gated
  exact Working.ret (by simp [Acks.all])

theorem Busy.failed {passed : α → Bool} (hfailed : passed value = false)
    (others : List Safeguard) :
    protocol.Triple t (Busy t) (.ret value : DriverProg α) fun value =>
      Working t (passed value) others :=
  Busy.working (Working.failed hfailed others)

theorem quiesceExternal_working :
    protocol.Triple t (Busy t) quiesceExternal fun acks =>
      Working t acks.all [.resetAssert, .resetPrepare, .pwmZero] := by
  apply (Busy.within i2cEnsure_ongoing).bind
  intro ready
  cases ready with
  | true => exact quiesceWrites_working
  | false =>
    apply (Busy.within (ongoing_of_unlogged i2cGate_unlogged)).bind
    intro gated
    exact Busy.failed rfl _

def Locked (t : ThreadId) : Driver → Prop :=
  Held t fun _ => True

theorem settle_locked {route : Route} {contained : Bool}
    (hpassed : contained = true → passed = true)
    (hshared : ∀ safeguard ∈ sharedSafeguards, safeguard ∈ safeguards)
    (hreset : route = .bringUp → .resetAssert ∈ safeguards) :
    protocol.Triple t (Working t passed safeguards) (settle route contained)
      fun _ => Locked t := by
  apply Held.atomic
  rintro ok before after value - ⟨hstate, hstands⟩ hrun
  cases hrun
  cases contained with
  | false =>
    exact ⟨fun hquiescent => absurd hquiescent (by simp), rfl, trivial⟩
  | true =>
    have hpush : ∀ safeguard ∈ safeguards,
        safeguard.Stands (.quiesced route :: before.log) := by
      intro safeguard hmember
      apply (hstands (hpassed rfl) safeguard hmember).push
      cases safeguard <;> rfl
    refine ⟨fun _ => ⟨?_, ?_⟩, rfl, trivial⟩
    · exact fun safeguard hmember =>
        hpush safeguard (hshared safeguard hmember)
    · intro hroute
      apply hpush _ (hreset _)
      cases route with
      | bringUp => rfl
      | reveal => exact absurd List.mem_cons_self hroute

theorem failQuiescent_locked :
    protocol.Triple t (Busy t) failQuiescent fun _ => Locked t := by
  apply quiesceExternal_working.bind
  intro acks
  apply (releasedBehind_working acks.gated (by decide)).bind
  intro released
  apply (observe_working (.off .display) rfl (by decide)).bind
  intro displayBlocks
  apply (observe_working (.off .ldo) rfl (by decide)).bind
  intro ldoOff
  apply (Working.keep (load_unlogged _)).bind
  intro unverified
  exact settle_locked (fun hcontained => (Bool.and_eq_true_iff.mp hcontained).1)
    (by decide) (by decide)

theorem runtimeFailQuiescent_locked :
    protocol.Triple t (Busy t) runtimeFailQuiescent fun _ => Locked t := by
  apply (Busy.within (ongoing_of_unlogged runtimeTeardown_unlogged)).bind
  intro runtimeOff
  exact .bind (Busy.within (.store fun _ => ⟨rfl, id⟩)) fun _ =>
    failQuiescent_locked

theorem nativeOffFirst_working :
    protocol.Triple t (Busy t) nativeOffFirst fun acks =>
      Working t acks.dark [.resetPrepare, .pwmZero] := by
  apply (Busy.within (ongoing_of_unlogged (load_unlogged _))).bind
  intro active
  cases active with
  | false => exact Busy.failed rfl _
  | true =>
    apply Busy.working
    apply (observe_working .pwmZero rfl (by decide)).bind
    intro pwm
    apply (observe_working .resetPrepare rfl (by decide)).bind
    intro control
    have hlast : protocol.Triple t
        (Working t (true && pwm && control) [.resetPrepare, .pwmZero])
        (.ret ⟨pwm, control⟩ : DriverProg OffAcks) fun acks =>
          Working t acks.dark [.resetPrepare, .pwmZero] :=
      Working.ret (by simp [OffAcks.dark])
    dsimp only
    split
    · exact .bind (Working.keep (.store fun _ => ⟨⟨rfl, id⟩, rfl⟩))
        fun _ => hlast
    · exact hlast

theorem nativeContain_locked (dark : Bool) :
    protocol.Triple t (Working t dark [.resetPrepare, .pwmZero])
      (nativeContain dark) fun _ => Locked t := by
  apply (Working.keep runtimeTeardown_unlogged).bind
  intro runtimeOff
  apply (Working.keep i2cGate_unlogged).bind
  intro gated
  apply (releasedBehind_working gated (by decide)).bind
  intro released
  apply (observe_working (.off .display) rfl (by decide)).bind
  intro dsiOff
  apply (observe_working (.off .ldo) rfl (by decide)).bind
  intro ldoOff
  refine .bind (Working.keep (.store fun _ => ⟨⟨rfl, id⟩, rfl⟩)) fun _ => ?_
  apply settle_locked _ (by decide) (by decide)
  simp only [Bool.and_eq_true]
  tauto

/-- A store of another state ends what the invariant says of the old one. -/
theorem setState_busy (hstate : state ≠ .failedQuiescent) :
    protocol.Triple t (Held t pre) (setState state) fun _ => Busy t := by
  apply Held.atomic
  rintro ok before after value - - hrun
  cases hrun
  exact ⟨fun hquiescent => absurd hquiescent hstate, rfl, hstate⟩

theorem Busy.locked (hprog : protocol.Triple t pre prog fun _ => Busy t) :
    protocol.Triple t pre prog fun _ => Locked t :=
  hprog.mono (fun _ _ => id) fun _ _ hafter => ⟨hafter.1, trivial⟩

theorem nativeFailRevealLocked_locked (forceTeardown : Bool) :
    protocol.Triple t (Held t pre) (nativeFailRevealLocked forceTeardown)
      fun _ => Locked t := by
  apply (setState_busy (by decide)).bind
  intro _
  apply nativeOffFirst_working.bind
  intro acks
  split
  · exact .bind (Working.keep (.store fun _ => ⟨⟨rfl, id⟩, rfl⟩)) fun _ =>
      Busy.locked (setState_busy (by decide))
  · exact nativeContain_locked acks.dark

/-- What a stage leaves: after a failure the invariant says the rest. -/
def Staged (t : ThreadId) (passed : Bool) : Driver → Prop :=
  Held t fun driver =>
    passed = true → driver.displayState ≠ .failedQuiescent

theorem Locked.failed {prog : DriverProg Unit}
    (hprog : protocol.Triple t (Busy t) prog fun _ => Locked t) :
    protocol.Triple t (Busy t) (do prog; pure false : DriverProg Bool)
      (Staged t) :=
  hprog.bind fun _ => .ret (held_stable _) fun _ _ hstart =>
    ⟨hstart.1, fun hfalse => absurd hfalse Bool.false_ne_true⟩

theorem Busy.staged (hstate : state ≠ .failedQuiescent) :
    protocol.Triple t (Busy t) (do setState state; pure true : DriverProg Bool)
      (Staged t) :=
  (setState_busy hstate).bind fun _ => .ret (held_stable _) fun _ _ hstart =>
    ⟨hstart.1, fun _ => hstart.2⟩

variable {checks : List (DriverProg Bool)}

theorem allOf_ongoing (hchecks : ∀ check ∈ checks, check.Within Ongoing) :
    protocol.Triple t (Busy t) (Prog.allOf checks) fun _ => Busy t :=
  Busy.within (.allOf hchecks)

theorem answer_ongoing : answer.Within Ongoing :=
  ongoing_of_unlogged answer_unlogged

theorem load_ongoing (view : Driver → α) :
    (Prog.load view : DriverProg α).Within Ongoing :=
  ongoing_of_unlogged (load_unlogged view)

theorem i2cGate_ongoing : i2cGate.Within Ongoing :=
  ongoing_of_unlogged i2cGate_unlogged

theorem start_ongoing (block : Block) : (start block).Within Ongoing :=
  .bind (.store fun _ => ⟨rfl, id⟩) fun _ => answer_ongoing

theorem reissueQuiescentCommands_ongoing :
    reissueQuiescentCommands.Within Ongoing := by
  apply Prog.Within.allOf
  simp only [List.forall_mem_cons]
  exact ⟨observe_ongoing _, observe_ongoing _, observe_ongoing _,
    List.forall_mem_nil _⟩

theorem releasePanel_ongoing : releasePanel.Within Ongoing := by
  apply Prog.Within.allOf
  simp only [List.forall_mem_cons]
  exact ⟨i2cInitialize_ongoing, observe_ongoing _, observe_ongoing _,
    i2cGate_ongoing, i2cReleased_ongoing, List.forall_mem_nil _⟩

theorem stageCPrecondition_ongoing : stageCPrecondition.Within Ongoing := by
  apply Prog.Within.allOf
  simp only [List.forall_mem_cons]
  exact ⟨load_ongoing _, answer_ongoing, i2cReleased_ongoing,
    observe_ongoing _, answer_ongoing, List.forall_mem_nil _⟩

theorem stageCMatches_ongoing : stageCMatches.Within Ongoing := by
  apply Prog.Within.allOf
  simp only [List.forall_mem_cons]
  exact ⟨answer_ongoing, i2cReleased_ongoing, answer_ongoing,
    List.forall_mem_nil _⟩

/-- A stage is a list of checks, and behind the first that fails the driver
contains the failure. -/
theorem stage_staged {contain : DriverProg Unit}
    (hchecks : ∀ check ∈ checks, check.Within Ongoing)
    (hstate : state ≠ .failedQuiescent)
    (hcontain : protocol.Triple t (Busy t) contain fun _ => Locked t) :
    protocol.Triple t (Busy t) (do
        if ← Prog.allOf checks then do
          setState state
          pure true
        else do
          contain
          pure false : DriverProg Bool)
      (Staged t) := by
  apply (allOf_ongoing hchecks).bind
  intro passed
  cases passed with
  | true => exact Busy.staged hstate
  | false => exact Locked.failed hcontain

theorem initializeLdoStage_staged :
    protocol.Triple t (Busy t) initializeLdoStage (Staged t) := by
  apply stage_staged _ (by decide) failQuiescent_locked
  simp only [List.forall_mem_cons]
  exact ⟨i2cInitialize_ongoing, reissueQuiescentCommands_ongoing,
    start_ongoing _, observe_ongoing _, i2cGate_ongoing,
    List.forall_mem_nil _⟩

theorem initializePanelStage_staged :
    protocol.Triple t (Busy t) initializePanelStage (Staged t) := by
  apply stage_staged _ (by decide) failQuiescent_locked
  simp only [List.forall_mem_cons]
  exact ⟨stageCPrecondition_ongoing, answer_ongoing, start_ongoing _,
    releasePanel_ongoing, answer_ongoing, stageCMatches_ongoing,
    List.forall_mem_nil _⟩

theorem configureDpiBridge_ongoing : configureDpiBridge.Within Ongoing :=
  .bind (.store fun _ => ⟨rfl, id⟩) fun _ => start_ongoing _

theorem initializeScanoutStage_staged :
    protocol.Triple t (Busy t) initializeScanoutStage (Staged t) := by
  have hready : ∀ check ∈ [Prog.load fun driver : Driver =>
      driver.displayState == .panelProgrammedQuiescent, stageCMatches, answer],
      check.Within Ongoing := by
    simp only [List.forall_mem_cons]
    exact ⟨load_ongoing _, stageCMatches_ongoing, answer_ongoing,
      List.forall_mem_nil _⟩
  apply (allOf_ongoing hready).bind
  intro ready
  cases ready with
  | false => exact Locked.failed runtimeFailQuiescent_locked
  | true =>
    apply (setState_busy (by decide)).bind
    intro _
    apply stage_staged _ (by decide) runtimeFailQuiescent_locked
    simp only [List.forall_mem_cons]
    exact ⟨answer_ongoing, configureDpiBridge_ongoing, start_ongoing _,
      answer_ongoing, answer_ongoing, answer_ongoing, answer_ongoing,
      List.forall_mem_nil _⟩

/-- A stage runs only behind stages that passed. -/
theorem stages_staged {stages : List (DriverProg Bool)}
    (hstages : ∀ stage ∈ stages, protocol.Triple t (Busy t) stage (Staged t)) :
    protocol.Triple t (Busy t) (Prog.allOf stages) (Staged t) := by
  induction stages with
  | nil =>
    exact .ret (held_stable _) fun _ _ hstart => ⟨hstart.1, fun _ => hstart.2⟩
  | cons stage rest ih =>
    obtain ⟨hstage, hrest⟩ := List.forall_mem_cons.mp hstages
    apply hstage.bind
    intro passed
    cases passed with
    | false => exact .ret (held_stable _) fun _ _ hstart => hstart
    | true =>
      exact (ih hrest).mono (fun _ _ hstart => ⟨hstart.1, hstart.2 rfl⟩)
        fun _ _ => id

theorem lockMode_locked :
    protocol.Triple t (fun _ => True) (lockMode t) fun _ => Locked t := by
  refine .await (.const True) (held_stable _) fun driver hinv _ hready => ?_
  exact ⟨hinv, fun _ => .inr ⟨Option.isNone_iff_eq_none.mp hready, rfl⟩, rfl,
    trivial⟩

theorem unlockMode_ret (reply : Reply) :
    protocol.Triple t (Held t pre) (do unlockMode; pure reply : DriverProg Reply)
      fun _ _ => True := by
  refine .bind (.store (held_stable _) (.const True) ?_) fun _ =>
    .ret (.const True) fun _ _ => id
  exact fun driver hinv hstart =>
    ⟨hinv, fun hother => absurd hstart.1 hother, trivial⟩

/-- What the holder reads stays so. -/
theorem load_held (view : Driver → α) :
    protocol.Triple t (Held t pre) (Prog.load view : DriverProg α) fun value =>
      Held t fun driver => pre driver ∧ view driver = value := by
  apply Held.atomic
  rintro ok before after value hinv hpre hrun
  cases hrun
  exact ⟨hinv, rfl, hpre, rfl⟩

/-- The holder has seen that there is no quiescent failure. -/
theorem Busy.seen
    (hpre : ∀ driver, pre driver → driver.displayState ≠ .failedQuiescent)
    (hprog : protocol.Triple t (Busy t) prog post) :
    protocol.Triple t (Held t pre) prog post :=
  hprog.mono (fun driver _ hstart => ⟨hstart.1, hpre driver hstart.2⟩)
    fun _ _ => id

theorem initStore_correct (begin : Bool) :
    protocol.Triple t (fun _ => True) (initStore t begin) fun _ _ => True := by
  cases begin with
  | false => exact .ret (.const True) fun _ _ => id
  | true =>
    apply lockMode_locked.bind
    intro _
    apply (load_held _).bind
    intro probed
    cases probed with
    | false => exact unlockMode_ret _
    | true =>
      apply (setState_busy (by decide)).bind
      intro _
      have hstages : ∀ stage ∈ [initializeLdoStage, initializePanelStage,
          initializeScanoutStage],
          protocol.Triple t (Busy t) stage (Staged t) := by
        simp only [List.forall_mem_cons]
        exact ⟨initializeLdoStage_staged, initializePanelStage_staged,
          initializeScanoutStage_staged, List.forall_mem_nil _⟩
      apply (stages_staged hstages).bind
      intro passed
      exact unlockMode_ret _

theorem bootReadySteps_ongoing :
    ∀ check ∈ bootReadyPrepare ++ bootReadyReveal, check.Within Ongoing := by
  have hperform : ∀ change : Driver → Driver,
      (∀ driver, Ongoing driver (change driver)) →
      (perform change).Within Ongoing := fun _ hchange =>
    .bind (.store hchange) fun _ => .ret true
  simp only [bootReadyPrepare, bootReadyReveal, List.cons_append,
    List.nil_append, List.forall_mem_cons]
  exact ⟨answer_ongoing, answer_ongoing, answer_ongoing,
    hperform _ fun _ => ⟨rfl, id⟩, i2cInitialize_ongoing,
    hperform _ fun _ => ⟨rfl, id⟩, answer_ongoing, answer_ongoing,
    answer_ongoing, answer_ongoing, hperform _ fun _ => ⟨rfl, id⟩,
    observe_ongoing _, answer_ongoing, observe_ongoing _, answer_ongoing,
    answer_ongoing, answer_ongoing, List.forall_mem_nil _⟩

theorem bootReadyFail_locked :
    protocol.Triple t (Busy t) bootReadyFail fun _ => Locked t := by
  apply (Busy.within (load_ongoing _)).bind
  intro lit
  cases lit with
  | true => exact nativeFailRevealLocked_locked false
  | false => exact runtimeFailQuiescent_locked

theorem bootReadyStore_correct (ready : Bool) :
    protocol.Triple t (fun _ => True) (bootReadyStore t ready)
      fun _ _ => True := by
  cases ready with
  | false => exact .ret (.const True) fun _ _ => id
  | true =>
    apply lockMode_locked.bind
    intro _
    apply (load_held _).bind
    intro consumed
    cases consumed with
    | true => exact unlockMode_ret _
    | false =>
      apply (load_held _).bind
      intro qualified
      cases qualified with
      | false => exact unlockMode_ret _
      | true =>
        apply Busy.seen fun driver hseen hquiescent => by
          simp [hquiescent] at hseen
        refine .bind (Busy.within (.store fun _ => ⟨rfl, id⟩))
          fun _ => ?_
        apply (setState_busy (by decide)).bind
        intro _
        apply (allOf_ongoing bootReadySteps_ongoing).bind
        intro revealed
        cases revealed with
        | true =>
          exact (setState_busy (by decide)).bind fun _ =>
            unlockMode_ret _
        | false =>
          exact bootReadyFail_locked.bind fun _ => unlockMode_ret _

theorem faultContain_locked (faults : Bool) (state : DisplayState) :
    protocol.Triple t
      (Held t fun driver => pre driver ∧ driver.displayState = state)
      (faultContain faults state) fun _ => Locked t := by
  rw [faultContain]
  split
  · next hqualified =>
      apply Busy.seen _ runtimeFailQuiescent_locked
      rintro driver ⟨-, rfl⟩ hquiescent
      simp [hquiescent] at hqualified
  · split
    · exact nativeFailRevealLocked_locked false
    · exact .ret (held_stable _) fun _ _ hstart => ⟨hstart.1, trivial⟩

theorem faultWork_correct :
    protocol.Triple t (fun _ => True) (faultWork t) fun _ _ => True := by
  apply lockMode_locked.bind
  intro _
  refine .bind (.ask (fun _ _ => .inl rfl) (held_stable _)) fun faults => ?_
  refine .bind (.mono (load_held _) (fun _ _ hstart => hstart.1)
    fun _ _ => id) fun state => ?_
  exact (faultContain_locked faults state).bind fun _ => unlockMode_ret _

theorem quiesceExternal_ongoing : quiesceExternal.Within Ongoing := by
  have hwrites : quiesceWrites.Within Ongoing :=
    (observe_ongoing _).bind fun _ => (observe_ongoing _).bind fun _ =>
      (observe_ongoing _).bind fun _ => i2cGate_ongoing.bind fun _ => .ret _
  exact i2cEnsure_ongoing.bind fun _ =>
    .ite hwrites (i2cGate_ongoing.bind fun _ => .ret _)

theorem releasedBehind_ongoing (gated : Bool) :
    (releasedBehind gated).Within Ongoing :=
  .ite i2cReleased_ongoing (.ret false)

theorem nativeOffFirst_ongoing : nativeOffFirst.Within Ongoing := by
  apply (load_ongoing _).bind
  intro active
  apply Prog.Within.ite _ (.ret _)
  apply (observe_ongoing _).bind
  intro pwm
  apply (observe_ongoing _).bind
  intro control
  exact .ite (.bind (.store fun _ => ⟨rfl, id⟩) fun _ => .ret _) (.ret _)

theorem removeCommands_ongoing (state : DisplayState) (acks : Option OffAcks) :
    (removeCommands state acks).Within Ongoing := by
  cases acks with
  | some acks => exact i2cGate_ongoing.bind fun _ => .ret _
  | none =>
    exact .ite (i2cGate_ongoing.bind fun _ => .ret _)
      (quiesceExternal_ongoing.bind fun _ => .ret _)

theorem runtimeTeardown_ongoing : runtimeTeardown.Within Ongoing :=
  ongoing_of_unlogged runtimeTeardown_unlogged

theorem removeActive_ongoing (state : DisplayState) :
    (removeActive state).Within Ongoing := by
  have hoff : (removeOff state).Within Ongoing :=
    (load_ongoing _).bind fun _ =>
      .ite (nativeOffFirst_ongoing.bind fun _ => .ret _) (.ret none)
  have hruntime : removeRuntime.Within Ongoing :=
    (load_ongoing _).bind fun _ => .ite runtimeTeardown_ongoing (.ret true)
  apply hoff.bind
  intro acks
  apply hruntime.bind
  intro runtimeOff
  apply (removeCommands_ongoing state acks).bind
  intro external
  apply (releasedBehind_ongoing external.2).bind
  intro released
  apply (observe_ongoing _).bind
  intro dsiOff
  apply (observe_ongoing _).bind
  intro ldoOff
  exact .ret _

theorem dsiRemove_correct :
    protocol.Triple t (fun _ => True) (dsiRemove t) fun _ _ => True := by
  apply lockMode_locked.bind
  intro _
  apply (load_held _).bind
  intro state
  apply (setState_busy (by decide)).bind
  intro _
  split
  · exact unlockMode_ret _
  · exact (Busy.within (removeActive_ongoing state)).bind fun _ =>
      unlockMode_ret _

theorem code_correct (call : Call) :
    protocol.Triple t (fun _ => True) (code t call) fun _ _ => True := by
  cases call with
  | coldInit begin => exact initStore_correct begin
  | bootReady ready => exact bootReadyStore_correct ready
  | faultWork => exact faultWork_correct
  | remove => exact dsiRemove_correct

abbrev DriverConfig := Config Driver Bool ThreadId Reply

/-- The driver was probed, and no call is in progress. -/
structure Probed (config : DriverConfig) : Prop where
  idle : ∀ t, ∃ reply, config.thread t = .ret reply
  state : config.shared.displayState = .probedQuiescent

theorem exec_quiesced {start after : DriverConfig} (hstart : Probed start)
    {labels : List (Label ThreadId Call Bool)}
    (hexec : start.exec code labels = some after)
    (hstate : after.shared.displayState = .failedQuiescent) :
    Quiesced after.shared.log := by
  have hinv : protocol.inv start.shared := fun hquiescent =>
    absurd (hstart.state.symm.trans hquiescent) (by decide)
  exact Protocol.inv_of_exec (fun _ => code_correct) hexec hinv hstart.idle
    hstate

/-- A quiescent failure that no failed reveal led to has all its safeguards. -/
theorem failedQuiescent_stands {start after : DriverConfig}
    (hstart : Probed start) {labels : List (Label ThreadId Call Bool)}
    (hexec : start.exec code labels = some after)
    (hstate : after.shared.displayState = .failedQuiescent)
    (hroute : .quiesced .reveal ∉ after.shared.log) :
    ∀ safeguard : Safeguard, safeguard.Stands after.shared.log := by
  obtain ⟨hshared, hreset⟩ := exec_quiesced hstart hexec hstate
  intro safeguard
  cases safeguard with
  | resetAssert => exact hreset hroute
  | pwmZero | resetPrepare => exact hshared _ (by decide)
  | off block =>
    apply hshared
    cases block <;> decide

def probedConfig : DriverConfig where
  shared := {}
  thread := fun _ => .ret .worked

theorem probedConfig_probed : Probed probedConfig :=
  ⟨fun _ => ⟨.worked, rfl⟩, rfl⟩

def smoothly (call : Call) (count : Nat) : List (Label ThreadId Call Bool) :=
  .call 0 call :: List.replicate count (.step 0 true)

/-- A bring-up whose panel commands fail, after the panel was released. -/
def commandsFail : List (Label ThreadId Call Bool) :=
  smoothly (.coldInit true) 31 ++
    .step 0 false :: List.replicate 15 (.step 0 true)

theorem failedQuiescent_stands_commands :
    ∃ after, probedConfig.exec code commandsFail = some after ∧
      after.shared.displayState = .failedQuiescent ∧
      ∀ safeguard : Safeguard, safeguard.Stands after.shared.log := by
  have hcheck : (probedConfig.exec code commandsFail).any (fun after => decide
      (after.shared.displayState = .failedQuiescent ∧
        .quiesced .reveal ∉ after.shared.log)) = true := by
    decide +kernel
  obtain ⟨after, hexec, hholds⟩ := Option.any_eq_true _ _ |>.mp hcheck
  obtain ⟨hstate, hroute⟩ := of_decide_eq_true hholds
  exact ⟨after, hexec, hstate,
    failedQuiescent_stands probedConfig_probed hexec hstate hroute⟩

/-- The panel is revealed and a fault takes it down again, with every write
acknowledged and every readback as it should be. -/
def faultAfterReveal : List (Label ThreadId Call Bool) :=
  smoothly (.coldInit true) 54 ++ smoothly (.bootReady true) 26 ++
    smoothly .faultWork 18

/-- The failure is quiescent although the panel has had no reset since it was
released, and the removal reports one. -/
theorem failedQuiescent_unreset : Probed probedConfig ∧
      ∃ failed, probedConfig.exec code faultAfterReveal = some failed ∧
        failed.shared.displayState = .failedQuiescent ∧
        ¬ Safeguard.resetAssert.Stands failed.shared.log ∧
        ∃ removed, failed.exec code (smoothly .remove 11) = some removed ∧
          (removed.thread 0).reply = some (.removed
            ⟨.previouslyAcked, .previouslyAcked, .previouslyAcked⟩ true) := by
  have hcheck : (probedConfig.exec code faultAfterReveal).any
      (fun failed => decide (failed.shared.displayState = .failedQuiescent ∧
        ¬ Safeguard.resetAssert.Stands failed.shared.log) &&
        (failed.exec code (smoothly .remove 11)).any fun removed => decide
          ((removed.thread 0).reply = some (.removed
            ⟨.previouslyAcked, .previouslyAcked, .previouslyAcked⟩ true))) =
      true := by
    decide +kernel
  obtain ⟨failed, hexec, hholds⟩ := Option.any_eq_true _ _ |>.mp hcheck
  obtain ⟨hfailed, hremove⟩ := Bool.and_eq_true_iff.mp hholds
  obtain ⟨hstate, hreset⟩ := of_decide_eq_true hfailed
  obtain ⟨removed, hremoved, hreply⟩ := Option.any_eq_true _ _ |>.mp hremove
  exact ⟨probedConfig_probed, failed, hexec, hstate, hreset, removed, hremoved,
    of_decide_eq_true hreply⟩

end Micronux.Cold
