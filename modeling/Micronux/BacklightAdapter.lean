/-
The backlight adapter behind the I2C bus in ABI-v2 mode: what its two registers
may hold after some writes, and what the driver may conclude from
`applied_brightness`.
-/
import Micronux.DisplayCalls

namespace Micronux

open Concurrent

/-- The PWM register of the adapter and the gate behind it. -/
structure Adapter where
  pwm : Byte
  gate : Bool
deriving DecidableEq

def Adapter.Lit (adapter : Adapter) : Prop :=
  adapter.pwm ≠ 0 ∧ adapter.gate = true

def Adapter.write (adapter : Adapter) : PanelEvent → Adapter
  | .pwm value _ => { adapter with pwm := value }
  | .control command _ =>
    if command = revealCommand then { adapter with gate := true }
    else if command = resetPrepareCommand then { adapter with gate := false }
    else adapter
  | .declined | .tornDown => adapter

def PanelEvent.Failed : PanelEvent → Prop
  | .pwm _ acked | .control _ acked => acked = false
  | .declined | .tornDown => False

/-- Newest first: an acknowledged write takes effect, and a failed one may or
may not. -/
inductive Adapter.Reaches (start : Adapter) : List PanelEvent → Adapter → Prop
  | start : Reaches start [] start
  | took {events : List PanelEvent} {adapter : Adapter}
      (hbefore : Reaches start events adapter) (event : PanelEvent) :
      Reaches start (event :: events) (adapter.write event)
  | lost {events : List PanelEvent} {adapter : Adapter} {event : PanelEvent}
      (hbefore : Reaches start events adapter) (hfailed : event.Failed) :
      Reaches start (event :: events) adapter

/-- An adapter that starts unlit is unlit behind these writes, whatever the
failed ones did. -/
def Unlit (events : List PanelEvent) : Prop :=
  ∀ start adapter : Adapter, ¬ start.Lit → start.Reaches events adapter →
    ¬ adapter.Lit

/-- The writes of `micronux_backlight_disable`. -/
def disableWrites (pwmAcked gateAcked : Bool) (events : List PanelEvent) :
    List PanelEvent :=
  .control resetPrepareCommand gateAcked :: .pwm 0 pwmAcked :: events

/-- The writes that put the light out for sure. -/
def PanelEvent.PutsOut (event : PanelEvent) : Prop :=
  event = .pwm 0 true ∨ event = .control resetPrepareCommand true

/-- The gate was turned off, and no write since then may have turned it on. -/
inductive GateShut : List PanelEvent → Prop
  | off (older : List PanelEvent) :
      GateShut (.control resetPrepareCommand true :: older)
  | kept {event : PanelEvent} {older : List PanelEvent} (hshut : GateShut older)
      (hevent : ∀ acked, event ≠ .control revealCommand acked) :
      GateShut (event :: older)

/-- The writes of a reveal that failed and may have lit the panel. -/
inductive RevealLost : List PanelEvent → Prop
  | pwm {brightness : Byte} {older : List PanelEvent}
      (hbrightness : brightness ≠ 0) (hgate : ¬ GateShut older) :
      RevealLost (.pwm brightness false :: older)
  | gate {brightness : Byte} {older : List PanelEvent}
      (hbrightness : brightness ≠ 0) :
      RevealLost (.control revealCommand false :: .pwm brightness true :: older)

/-- Such a reveal was not taken back: both writes of its rollback failed, and
no later write put the light out. -/
def RollbackFailed (events : List PanelEvent) : Prop :=
  ∃ newer written, RevealLost written ∧
    events = newer ++ disableWrites false false written ∧
    ∀ event ∈ newer, ¬ event.PutsOut

variable {events : List PanelEvent} {event : PanelEvent}

theorem RollbackFailed.cons (hfailed : RollbackFailed events)
    (hevent : ¬ event.PutsOut) : RollbackFailed (event :: events) := by
  obtain ⟨newer, written, hlost, rfl, hnewer⟩ := hfailed
  exact ⟨event :: newer, written, hlost, rfl,
    List.forall_mem_cons.mpr ⟨hevent, hnewer⟩⟩

/-- The writes that put out the light where they take effect. -/
def PanelEvent.Darkens (event : PanelEvent) : Prop :=
  ∀ adapter : Adapter, ¬ (adapter.write event).Lit

theorem darkens_pwm (acked : Bool) : (PanelEvent.pwm 0 acked).Darkens :=
  fun _ hlit => hlit.1 rfl

theorem darkens_control (acked : Bool) :
    (PanelEvent.control resetPrepareCommand acked).Darkens :=
  fun _ hlit => Bool.false_ne_true hlit.2

theorem unlit_nil : Unlit [] := by
  intro start adapter hstart hreaches
  cases hreaches with
  | start => exact hstart

/-- A darkening write that fails leaves an unlit panel unlit. -/
theorem Unlit.darken (hunlit : Unlit events) (hdarkens : event.Darkens) :
    Unlit (event :: events) := by
  intro start adapter hstart hreaches
  cases hreaches with
  | took _ _ => exact hdarkens _
  | lost hbefore _ => exact hunlit start adapter hstart hbefore

/-- A darkening write that is acknowledged puts the light out. -/
theorem unlit_of_darkens (hdarkens : event.Darkens) (hacked : ¬ event.Failed)
    (events : List PanelEvent) :
    Unlit (event :: events) := by
  intro start adapter _ hreaches
  cases hreaches with
  | took _ _ => exact hdarkens _
  | lost _ hfailed => exact absurd hfailed hacked

/-- One acknowledged write of `micronux_backlight_disable` is enough. -/
theorem unlit_disableWrites {pwmAcked gateAcked : Bool}
    (hacked : (pwmAcked || gateAcked) = true) (events : List PanelEvent) :
    Unlit (disableWrites pwmAcked gateAcked events) := by
  cases gateAcked with
  | true =>
    exact unlit_of_darkens (darkens_control true) (by simp [PanelEvent.Failed]) _
  | false =>
    rw [Bool.or_false] at hacked
    rw [hacked]
    exact (unlit_of_darkens (darkens_pwm true)
      (by simp [PanelEvent.Failed]) events).darken (darkens_control false)

theorem Unlit.disableWrites (hunlit : Unlit events)
    (pwmAcked gateAcked : Bool) :
    Unlit (disableWrites pwmAcked gateAcked events) :=
  (hunlit.darken (darkens_pwm pwmAcked)).darken (darkens_control gateAcked)

variable {adapter : Adapter}

theorem Adapter.gate_write (hgate : adapter.gate = false)
    (hevent : ∀ acked, event ≠ .control revealCommand acked) :
    (adapter.write event).gate = false := by
  cases event with
  | control command acked =>
    have hcommand : command ≠ revealCommand := by
      rintro rfl
      exact hevent acked rfl
    simp only [Adapter.write, if_neg hcommand]
    split
    · rfl
    · exact hgate
  | _ => exact hgate

theorem GateShut.gate_eq (hshut : GateShut events) {start : Adapter}
    (hreaches : start.Reaches events adapter) :
    adapter.gate = false := by
  induction hshut generalizing adapter with
  | off older =>
    cases hreaches with
    | took _ _ => rfl
    | lost _ hfailed => cases hfailed
  | kept _ hevent ih =>
    cases hreaches with
    | took hbefore _ => exact Adapter.gate_write (ih hbefore) hevent
    | lost hbefore _ => exact ih hbefore

theorem GateShut.unlit (hshut : GateShut events) : Unlit events :=
  fun _ _ _ hreaches hlit =>
    Bool.false_ne_true ((hshut.gate_eq hreaches).symm.trans hlit.2)

theorem exists_reaches (start : Adapter) (events : List PanelEvent) :
    ∃ adapter, start.Reaches events adapter := by
  induction events with
  | nil => exact ⟨start, .start⟩
  | cons event events ih =>
    obtain ⟨adapter, hreaches⟩ := ih
    exact ⟨_, hreaches.took event⟩

theorem Adapter.open_write (hgate : adapter.gate = true) {command : Byte}
    (hcommand : command ≠ resetPrepareCommand) (acked : Bool) :
    (adapter.write (.control command acked)).gate = true := by
  simp only [Adapter.write, if_neg hcommand]
  split
  · rfl
  · exact hgate

/-- A gate that is not shut may be open behind an unlit start. -/
theorem exists_open_gate (hopen : ¬ GateShut events) :
    ∃ start adapter : Adapter, ¬ start.Lit ∧ start.Reaches events adapter ∧
      adapter.gate = true := by
  induction events with
  | nil => exact ⟨⟨0, true⟩, ⟨0, true⟩, fun hlit => hlit.1 rfl, .start, rfl⟩
  | cons event events ih =>
    by_cases hreveal : ∃ acked, event = .control revealCommand acked
    · obtain ⟨acked, rfl⟩ := hreveal
      obtain ⟨adapter, hreaches⟩ := exists_reaches ⟨0, true⟩ events
      exact ⟨⟨0, true⟩, _, fun hlit => hlit.1 rfl, hreaches.took _, rfl⟩
    · obtain ⟨start, adapter, hunlit, hreaches, hgate⟩ := ih fun hshut =>
        hopen (.kept hshut (not_exists.mp hreveal))
      by_cases hfailed : event.Failed
      · exact ⟨start, adapter, hunlit, hreaches.lost hfailed, hgate⟩
      refine ⟨start, _, hunlit, hreaches.took event, ?_⟩
      cases event with
      | control command acked =>
        obtain rfl := Bool.eq_true_of_not_eq_false hfailed
        have hcommand : command ≠ resetPrepareCommand := by
          rintro rfl
          exact hopen (.off events)
        exact Adapter.open_write hgate hcommand true
      | _ => exact hgate

/-- A lit panel may stay lit behind a write that does not put it out. -/
theorem Adapter.Lit.kept {start : Adapter} (hlit : adapter.Lit)
    (hreaches : start.Reaches events adapter) (hevent : ¬ event.PutsOut) :
    ∃ after, start.Reaches (event :: events) after ∧ after.Lit := by
  by_cases hfailed : event.Failed
  · exact ⟨adapter, hreaches.lost hfailed, hlit⟩
  refine ⟨_, hreaches.took event, ?_⟩
  cases event with
  | pwm value acked =>
    obtain rfl := Bool.eq_true_of_not_eq_false hfailed
    exact ⟨fun hzero => hevent (.inl (by rw [← hzero]; rfl)), hlit.2⟩
  | control command acked =>
    obtain rfl := Bool.eq_true_of_not_eq_false hfailed
    have hcommand : command ≠ resetPrepareCommand := by
      rintro rfl
      exact hevent (.inr rfl)
    refine ⟨?_, Adapter.open_write hlit.2 hcommand true⟩
    simp only [Adapter.write, if_neg hcommand]
    split <;> exact hlit.1
  | _ => exact hlit

theorem RollbackFailed.lit (hfailed : RollbackFailed events) :
    ¬ Unlit events := by
  obtain ⟨newer, written, hlost, rfl, hnewer⟩ := hfailed
  have hwritten : ∃ start adapter : Adapter, ¬ start.Lit ∧
      start.Reaches written adapter ∧ adapter.Lit := by
    cases hlost with
    | pwm hbrightness hgate =>
      obtain ⟨start, adapter, hunlit, hreaches, hgate⟩ :=
        exists_open_gate hgate
      exact ⟨start, _, hunlit, hreaches.took _, hbrightness, hgate⟩
    | gate hbrightness =>
      obtain ⟨adapter, hreaches⟩ := exists_reaches ⟨0, false⟩ _
      exact ⟨⟨0, false⟩, _, fun hlit => hlit.1 rfl,
        (hreaches.took _).took _, hbrightness, rfl⟩
  obtain ⟨start, adapter, hunlit, hreaches, hlit⟩ := hwritten
  have hnewest : ∃ after, start.Reaches
      (newer ++ disableWrites false false written) after ∧ after.Lit := by
    induction newer with
    | nil => exact ⟨adapter, .lost (.lost hreaches rfl) rfl, hlit⟩
    | cons event newer ih =>
      obtain ⟨hevent, hnewer⟩ := List.forall_mem_cons.mp hnewer
      obtain ⟨between, hbetween, hstill⟩ := ih hnewer
      exact hstill.kept hbetween hevent
  obtain ⟨after, hafter, hstill⟩ := hnewest
  exact fun hdark => hdark start after hunlit hafter hstill

/-- The cached brightness and the writes so far. -/
structure Applied where
  brightness : Byte
  events : List PanelEvent

def Panel.applied (panel : Panel) : Applied :=
  ⟨panel.appliedBrightness, panel.events⟩

/-- A brightness of zero says that the panel is unlit, unless a reveal was not
taken back. -/
def Applied.Settled (applied : Applied) : Prop :=
  applied.brightness = 0 → RollbackFailed applied.events ∨ Unlit applied.events

/-- What `micronux_backlight_disable` does. -/
def Applied.disabled (applied : Applied) (pwmAcked gateAcked : Bool) :
    Applied where
  brightness := if pwmAcked || gateAcked then 0 else applied.brightness
  events := disableWrites pwmAcked gateAcked applied.events

/-- What one call of `micronux_backlight_update` does: it disables the
backlight, reveals it, or takes a failed reveal back. -/
inductive Applied.Updated (applied : Applied) : Applied → Prop
  | disabled (pwmAcked gateAcked : Bool) :
      Updated applied (applied.disabled pwmAcked gateAcked)
  | revealed {brightness : Byte} (hbrightness : brightness ≠ 0) :
      Updated applied ⟨brightness, .control revealCommand true ::
        .pwm brightness true :: applied.events⟩
  | pwmFailed {brightness : Byte} (hbrightness : brightness ≠ 0)
      (pwmAcked gateAcked : Bool) :
      Updated applied (Applied.disabled ⟨applied.brightness,
        .pwm brightness false :: applied.events⟩ pwmAcked gateAcked)
  | gateFailed {brightness : Byte} (hbrightness : brightness ≠ 0)
      (pwmAcked gateAcked : Bool) :
      Updated applied (Applied.disabled ⟨applied.brightness,
        .control revealCommand false :: .pwm brightness true ::
          applied.events⟩ pwmAcked gateAcked)

variable {applied : Applied}

/-- One acknowledged write of `micronux_backlight_disable` puts the light out;
without one the panel is what the writes before have made of it. -/
theorem settled_disabled
    (hbefore : applied.brightness = 0 → RevealLost applied.events ∨
      RollbackFailed applied.events ∨ Unlit applied.events)
    (pwmAcked gateAcked : Bool) :
    (applied.disabled pwmAcked gateAcked).Settled := by
  cases hacked : pwmAcked || gateAcked with
  | true => exact fun _ => .inr (unlit_disableWrites hacked _)
  | false =>
    obtain ⟨rfl, rfl⟩ := Bool.or_eq_false_iff.mp hacked
    intro hzero
    rcases hbefore hzero with hlost | hfailed | hunlit
    · exact .inl ⟨[], applied.events, hlost, rfl, List.forall_mem_nil _⟩
    · exact .inl ((hfailed.cons (by simp [PanelEvent.PutsOut])).cons
        (by simp [PanelEvent.PutsOut]))
    · exact .inr (hunlit.disableWrites false false)

/-- A call keeps the meaning of the cached brightness, up to failed
rollbacks. -/
theorem Applied.Updated.settled {before after : Applied}
    (hupdated : before.Updated after) (hsettled : before.Settled) :
    after.Settled := by
  cases hupdated with
  | disabled pwmAcked gateAcked =>
    exact settled_disabled (fun hzero => .inr (hsettled hzero)) pwmAcked
      gateAcked
  | revealed hbrightness => exact fun hzero => absurd hzero hbrightness
  | pwmFailed hbrightness pwmAcked gateAcked =>
    refine settled_disabled (fun hzero => ?_) pwmAcked gateAcked
    rcases hsettled hzero with hfailed | hunlit
    · exact .inr (.inl (hfailed.cons (by simp [PanelEvent.PutsOut])))
    · by_cases hshut : GateShut before.events
      · exact .inr (.inr (hshut.kept (by simp)).unlit)
      · exact .inl (.pwm hbrightness hshut)
  | gateFailed hbrightness pwmAcked gateAcked =>
    exact settled_disabled (fun _ => .inl (.gate hbrightness)) pwmAcked
      gateAcked

/-- The holder of `ops_lock` owns the adapter. -/
def Holds (t : ThreadId) (assertion : Applied → Prop) (display : Display) :
    Prop :=
  display.panel.opsLock = some t ∧ assertion display.panel.applied

/-- Between the calls the cached brightness has its meaning, and only the
holder of `ops_lock` writes to the adapter. -/
def adapterProtocol : Protocol ThreadId Display where
  inv display := display.panel.opsLock = none → display.panel.applied.Settled
  guar t before after := before.panel.opsLock ≠ some t →
    after.panel.applied = before.panel.applied ∧
      (after.panel.opsLock = before.panel.opsLock ∨
        before.panel.opsLock = none ∧ after.panel.opsLock = some t)

variable {t : ThreadId} {α : Type}

theorem holds_stable (assertion : Applied → Prop) :
    adapterProtocol.Stable t (Holds t assertion) := by
  rintro before after ⟨-, -, other, hother, hguar⟩ ⟨hlock, hassertion⟩
  obtain ⟨happlied, hlocks⟩ := hguar fun hlocked =>
    hother (Option.some.inj (hlocked.symm.trans hlock))
  refine ⟨?_, by rw [happlied]; exact hassertion⟩
  rcases hlocks with hsame | ⟨hfree, -⟩
  · rw [hsame, hlock]
  · rw [hfree] at hlock
    cases hlock

variable {post : α → Applied → Prop} {pre : Applied → Prop}

theorem Holds.atomic {run : DisplayInput → Display → Option (Display × α)}
    (hrun : ∀ input before after value, pre before.panel.applied →
      run input before = some (after, value) →
      after.panel.opsLock = before.panel.opsLock ∧
        post value after.panel.applied) :
    adapterProtocol.Triple t (Holds t pre) (Prog.atomic run)
      fun value => Holds t (post value) := by
  refine .atomic (holds_stable pre) (fun value => holds_stable (post value)) ?_
  rintro input before after value - ⟨hlock, hpre⟩ hresult
  obtain ⟨hsame, hpost⟩ := hrun input before after value hpre hresult
  rw [hlock] at hsame
  refine ⟨fun hfree => ?_, fun hother => absurd hlock hother, hsame, hpost⟩
  rw [hfree] at hsame
  cases hsame

def AdapterKept (before after : Display) : Prop :=
  after.panel.opsLock = before.panel.opsLock ∧
    after.panel.applied = before.panel.applied

theorem AdapterKept.refl (display : Display) : AdapterKept display display :=
  ⟨rfl, rfl⟩

theorem Holds.keep {prog : DisplayProg α} {assertion : Applied → Prop}
    (hprog : prog.Within AdapterKept) :
    adapterProtocol.Triple t (Holds t assertion) prog
      fun _ => Holds t assertion := by
  refine .within hprog (holds_stable assertion) ?_ ?_ ?_
  · rintro before after ⟨hlock, happlied⟩ hinv hfree
    rw [happlied]
    exact hinv (hlock ▸ hfree)
  · rintro before after ⟨hlock, happlied⟩ - - -
    exact ⟨happlied, .inl hlock⟩
  · rintro before after ⟨hlock, happlied⟩ ⟨hmine, hassertion⟩
    exact ⟨hlock.trans hmine, happlied ▸ hassertion⟩

theorem i2cWriteReg8_adapter {event : Bool → PanelEvent} :
    adapterProtocol.Triple t (Holds t fun seen => seen = applied)
      (i2cWriteReg8 event) fun acked => Holds t fun seen =>
        seen = ⟨applied.brightness, event acked :: applied.events⟩ := by
  apply Holds.atomic
  rintro input before after acked rfl hrun
  cases hrun
  exact ⟨rfl, rfl⟩

theorem setApplied_adapter {change : Panel → Panel} {post : Applied → Prop}
    (hlock : ∀ panel, (change panel).opsLock = panel.opsLock)
    (hchange : ∀ panel, pre panel.applied → post (change panel).applied) :
    adapterProtocol.Triple t (Holds t pre) (setPanel change)
      fun _ => Holds t post := by
  apply Holds.atomic
  rintro input before after value hpre hrun
  cases hrun
  exact ⟨hlock _, hchange _ hpre⟩

theorem Holds.ret {value : α}
    (hpost : ∀ applied, pre applied → post value applied) :
    adapterProtocol.Triple t (Holds t pre) (.ret value : DisplayProg α)
      fun value => Holds t (post value) :=
  .ret (holds_stable _) fun _ _ hpre => ⟨hpre.1, hpost _ hpre.2⟩

theorem backlightDisable_adapter :
    adapterProtocol.Triple t (Holds t fun seen => seen = applied)
      backlightDisable fun _ => Holds t fun seen =>
        ∃ pwmAcked gateAcked, seen = applied.disabled pwmAcked gateAcked := by
  refine i2cWriteReg8_adapter.bind fun pwmAcked => ?_
  refine i2cWriteReg8_adapter.bind fun gateAcked => ?_
  have hlast : adapterProtocol.Triple t
      (Holds t fun seen => seen = applied.disabled pwmAcked gateAcked)
      (if gateAcked then do
        setPanel fun panel => { panel with backlightGateEnabled := false }
        pure (.ok ())
      else pure (.error .eio) : DisplayProg (Except DisplayErrno Unit))
      fun _ => Holds t fun seen =>
        ∃ pwmAcked gateAcked, seen = applied.disabled pwmAcked gateAcked := by
    split
    · refine .bind (Holds.keep (.store fun _ => ⟨rfl, rfl⟩)) fun _ => ?_
      exact Holds.ret fun _ hseen => ⟨_, _, hseen⟩
    · exact Holds.ret fun _ hseen => ⟨_, _, hseen⟩
  dsimp only
  split
  · next hacked =>
      refine .bind (setApplied_adapter (fun _ => rfl) fun panel hseen => ?_)
        fun _ => hlast
      have hevents := congrArg Applied.events hseen
      simp only [Panel.applied] at hevents ⊢
      rw [hevents, Applied.disabled, if_pos hacked]
      rfl
  · next hfailed =>
      refine hlast.mono (fun _ _ hstart => ⟨hstart.1, ?_⟩) fun _ _ => id
      rw [hstart.2, Applied.disabled, if_neg hfailed]
      rfl

/-- The two writes of a reveal, the second only behind an acknowledged first
one. -/
theorem revealWrites_adapter (brightness : Byte) :
    adapterProtocol.Triple t (Holds t fun seen => seen = applied)
      (Prog.allOf [writePwm brightness, writeControl revealCommand])
      fun passed => Holds t fun seen =>
        (passed = true ∧ seen = ⟨applied.brightness,
          .control revealCommand true :: .pwm brightness true ::
            applied.events⟩) ∨
        (passed = false ∧ (seen = ⟨applied.brightness,
          .pwm brightness false :: applied.events⟩ ∨
          seen = ⟨applied.brightness, .control revealCommand false ::
            .pwm brightness true :: applied.events⟩)) := by
  rw [Prog.allOf]
  refine i2cWriteReg8_adapter.bind fun pwmAcked => ?_
  cases pwmAcked with
  | false => exact Holds.ret fun _ hseen => .inr ⟨rfl, .inl hseen⟩
  | true =>
    rw [if_pos rfl, Prog.allOf]
    refine i2cWriteReg8_adapter.bind fun gateAcked => ?_
    cases gateAcked with
    | false => exact Holds.ret fun _ hseen => .inr ⟨rfl, .inr hseen⟩
    | true => exact Holds.ret fun _ hseen => .inl ⟨rfl, hseen⟩

/-- What the precondition says of the adapter may be fixed. -/
theorem Holds.fix {prog : DisplayProg α}
    (hprog : ∀ applied, pre applied → adapterProtocol.Triple t
      (Holds t fun seen => seen = applied) prog
      fun value => Holds t (post value)) :
    adapterProtocol.Triple t (Holds t pre) prog
      fun value => Holds t (post value) :=
  fun display hinv hstart =>
    hprog display.panel.applied hstart.2 display hinv ⟨hstart.1, rfl⟩

theorem backlightReveal_adapter {brightness : Byte}
    (hbrightness : brightness ≠ 0) :
    adapterProtocol.Triple t (Holds t fun seen => seen = applied)
      (backlightReveal brightness) fun _ => Holds t applied.Updated := by
  refine (revealWrites_adapter brightness).bind fun passed => ?_
  apply Holds.fix
  rintro written (⟨rfl, rfl⟩ | ⟨rfl, hwritten⟩)
  · rw [if_pos rfl]
    refine .bind (setApplied_adapter (fun _ => rfl) fun panel hseen => ?_)
      fun _ => Holds.ret fun _ => id
    have hevents := congrArg Applied.events hseen
    simp only [Panel.applied] at hevents ⊢
    rw [hevents]
    exact .revealed hbrightness
  · refine .bind backlightDisable_adapter fun _ => Holds.ret ?_
    rintro _ ⟨pwmAcked, gateAcked, rfl⟩
    rcases hwritten with rfl | rfl
    · exact .pwmFailed hbrightness pwmAcked gateAcked
    · exact .gateFailed hbrightness pwmAcked gateAcked

theorem readPanel_within {β : Type} (view : Panel → β) :
    (readPanel view).Within AdapterKept :=
  .load AdapterKept.refl _

theorem latchFault_within (display : Display) (fault : Fault) :
    AdapterKept display (display.latchFault fault) := by
  unfold Display.latchFault
  split <;> exact ⟨rfl, rfl⟩

theorem sampleHostStatus_within : sampleHostStatus.Within AdapterKept := by
  apply Prog.Within.atomic
  intro input before after seen hrun
  cases hrun
  split
  · exact latchFault_within _ _
  · exact ⟨rfl, rfl⟩

theorem noteHostStatus_within : (noteHostStatus .v2).Within AdapterKept :=
  sampleHostStatus_within.bind fun _ => .ret true

theorem visibleSourceValid_within :
    (visibleSourceValid .v2).Within AdapterKept := by
  have hanswer : succeeds.Within AdapterKept := .ask AdapterKept.refl _
  apply Prog.Within.allOf
  simp only [List.forall_mem_cons]
  exact ⟨readPanel_within _, noteHostStatus_within, readPanel_within _,
    readPanel_within _, .load AdapterKept.refl _, readPanel_within _, hanswer,
    readPanel_within _, readPanel_within _, hanswer, List.forall_mem_nil _⟩

/-- One call of `micronux_backlight_update`, whatever it finds. -/
theorem loaderBacklightUpdate_adapter :
    adapterProtocol.Triple t (Holds t fun seen => seen = applied)
      loaderBacklightUpdate fun _ => Holds t applied.Updated := by
  have hdisable : adapterProtocol.Triple t
      (Holds t fun seen => seen = applied) backlightDisable
      fun _ => Holds t applied.Updated := by
    refine backlightDisable_adapter.mono (fun _ _ => id) fun _ _ hafter => ?_
    obtain ⟨hlock, pwmAcked, gateAcked, hseen⟩ := hafter
    exact ⟨hlock, hseen ▸ .disabled pwmAcked gateAcked⟩
  refine .bind (Holds.keep (readPanel_within _)) fun brightness => ?_
  split
  · exact hdisable
  · next hbrightness =>
      refine .bind (Holds.keep visibleSourceValid_within) fun valid => ?_
      split
      · exact backlightReveal_adapter hbrightness
      · refine hdisable.bind fun result => ?_
        split <;> exact Holds.ret fun _ => id

/-- The holder of the lock keeps the meaning of the cached brightness. -/
theorem loaderBacklightUpdate_settled :
    adapterProtocol.Triple t (Holds t Applied.Settled) loaderBacklightUpdate
      fun _ => Holds t Applied.Settled :=
  Holds.fix fun _ hsettled => loaderBacklightUpdate_adapter.mono
    (fun _ _ => id) fun _ _ hafter => ⟨hafter.1, hafter.2.settled hsettled⟩

theorem lockOps_adapter : adapterProtocol.Triple t (fun _ => True) (lockOps t)
      fun _ => Holds t Applied.Settled := by
  refine .await (.const True) (holds_stable _) fun display hinv _ hready => ?_
  have hfree := Option.isNone_iff_eq_none.mp hready
  exact ⟨fun hnone => (nomatch hnone), fun _ => ⟨rfl, .inr ⟨hfree, rfl⟩⟩, rfl,
    hinv hfree⟩

theorem unlockOps_adapter :
    adapterProtocol.Triple t (Holds t Applied.Settled) unlockOps
      fun _ _ => True :=
  .store (holds_stable _) (.const True) fun _ _ hstart =>
    ⟨fun _ => hstart.2, fun hother => absurd hstart.1 hother, trivial⟩

theorem backlightRequest_adapter (request : Backlight → Backlight) :
    adapterProtocol.Triple t (fun _ => True) (backlightRequest .v2 t request)
      fun _ _ => True := by
  refine lockOps_adapter.bind fun _ => ?_
  refine .bind (Holds.keep (readPanel_within _)) fun device => ?_
  split
  · refine unlockOps_adapter.bind fun _ => ?_
    exact .ret (.const True) fun _ _ => id
  · refine .bind (Holds.keep (.store fun _ => ⟨rfl, rfl⟩)) fun _ => ?_
    refine loaderBacklightUpdate_settled.bind fun result => ?_
    refine unlockOps_adapter.bind fun _ => ?_
    exact .ret (.const True) fun _ _ => id

/-- What runs beside the adapter: calls of the backlight core, and everything
else in the kernel, which may change all but the adapter and its lock. -/
inductive AdapterCall where
  | update (request : Backlight → Backlight)
  | elsewhere (change : DisplayInput → Display → Display)
      (hkept : ∀ input display, AdapterKept display (change input display))

def adapterCode (t : ThreadId) :
    AdapterCall → DisplayProg (Except DisplayErrno Unit)
  | .update request => backlightRequest .v2 t request
  | .elsewhere change _ =>
    Prog.atomic fun input display => some (change input display, .ok ())

abbrev AdapterConfig :=
  Config Display DisplayInput ThreadId (Except DisplayErrno Unit)

/-- No call is in progress, nothing was written yet and the cached brightness
is zero. -/
structure AdapterConfig.Start (config : AdapterConfig) : Prop where
  idle : ∀ t, ∃ reply, config.thread t = .ret reply
  free : config.shared.panel.opsLock = none
  zero : config.shared.panel.appliedBrightness = 0
  unwritten : config.shared.panel.events = []

theorem adapterCode_correct (call : AdapterCall) :
    adapterProtocol.Triple t (fun _ => True) (adapterCode t call)
      fun _ _ => True := by
  cases call with
  | update request => exact backlightRequest_adapter request
  | elsewhere change hkept =>
    refine .atomic (.const True) (fun _ => .const True) ?_
    rintro input before after reply hinv - hrun
    cases hrun
    obtain ⟨hlock, happlied⟩ := hkept input before
    refine ⟨fun hfree => ?_, fun _ => ⟨happlied, .inl hlock⟩, trivial⟩
    rw [happlied]
    exact hinv (hlock ▸ hfree)

/-- Between the calls, a cached brightness of zero says that the panel is unlit
exactly if every failed reveal that may have lit it was taken back. -/
theorem appliedBrightness_zero_unlit {start after : AdapterConfig}
    (hstart : start.Start) {labels : List (Label ThreadId AdapterCall
      DisplayInput)} (hexec : start.exec adapterCode labels = some after)
    (hreturned : after.shared.panel.opsLock = none)
    (hzero : after.shared.panel.appliedBrightness = 0) :
    (∀ first adapter : Adapter, ¬ first.Lit →
      first.Reaches after.shared.panel.events adapter → ¬ adapter.Lit) ↔
        ¬ RollbackFailed after.shared.panel.events := by
  have hinv : adapterProtocol.inv start.shared := by
    intro _ _
    rw [Panel.applied, hstart.unwritten]
    exact .inr unlit_nil
  have hafter := Protocol.inv_of_exec (fun _ => adapterCode_correct) hexec
    hinv hstart.idle
  exact ⟨fun hunlit hfailed => hfailed.lit hunlit,
    (hafter hreturned hzero).resolve_left⟩

theorem RollbackFailed.mem (hfailed : RollbackFailed events) :
    .pwm 0 false ∈ events := by
  obtain ⟨newer, written, -, rfl, -⟩ := hfailed
  simp [disableWrites]

/-- A healthy source behind a dark backlight that is to be lit. -/
def darkConfig : AdapterConfig where
  shared :=
    { initialDisplay .v2 fun _ => 0 with
      scanout := { initialScanout fun _ => 0 with scanoutActive := true }
      panel := { initialPanel .v2 with
        scanoutReady := true
        bootDisplayReady := true
        backlight := some ⟨coldBrightness, .unblank, 0⟩ } }
  thread := fun _ => .ret (.ok ())

theorem darkConfig_start : darkConfig.Start :=
  ⟨fun _ => ⟨.ok (), rfl⟩, rfl, rfl, rfl⟩

/-- A call whose writes are answered one by one; the PWM write of the reveal is
acknowledged, the write to the gate is not. -/
def failedReveal (answers : List Bool) :
    List (Label ThreadId AdapterCall DisplayInput) :=
  .call 0 (.update id) :: List.replicate 15 (.step 0 {}) ++
    (false :: answers).map fun ok => .step 0 { ok := ok }

/-- The rollback sets the PWM register, but not the gate. -/
theorem appliedBrightness_zero_unlit_halfway :
    ∃ after, darkConfig.exec adapterCode
        (failedReveal [true, false, true, true]) = some after ∧
      after.shared.panel.opsLock = none ∧
      after.shared.panel.appliedBrightness = 0 ∧
      ∀ first adapter : Adapter, ¬ first.Lit →
        first.Reaches after.shared.panel.events adapter → ¬ adapter.Lit := by
  have hcheck : (darkConfig.exec adapterCode
      (failedReveal [true, false, true, true])).any (fun after => decide
        (after.shared.panel.opsLock = none ∧
          after.shared.panel.appliedBrightness = 0 ∧
          .pwm 0 false ∉ after.shared.panel.events)) = true := by
    decide +kernel
  obtain ⟨after, hexec, hholds⟩ := Option.any_eq_true _ _ |>.mp hcheck
  obtain ⟨hreturned, hzero, hacked⟩ := of_decide_eq_true hholds
  exact ⟨after, hexec, hreturned, hzero,
    (appliedBrightness_zero_unlit darkConfig_start hexec hreturned hzero).mpr
      fun hfailed => hacked hfailed.mem⟩

/-- The gate opens although its write fails, and both writes of the rollback
are lost: the panel is lit behind a cached brightness of zero. -/
theorem appliedBrightness_zero_lit : darkConfig.Start ∧
      ∃ after, darkConfig.exec adapterCode
          (failedReveal [false, false, true]) = some after ∧
        after.shared.panel.opsLock = none ∧
        after.shared.panel.appliedBrightness = 0 ∧
        ∃ first adapter : Adapter, ¬ first.Lit ∧
          first.Reaches after.shared.panel.events adapter ∧
          adapter.Lit := by
  have hcheck : (darkConfig.exec adapterCode
      (failedReveal [false, false, true])).any (fun after => decide
        (after.shared.panel.opsLock = none ∧
          after.shared.panel.appliedBrightness = 0 ∧
          after.shared.panel.events = disableWrites false false
            [.control revealCommand false, .pwm coldBrightness true])) =
      true := by
    decide +kernel
  obtain ⟨after, hexec, hholds⟩ := Option.any_eq_true _ _ |>.mp hcheck
  obtain ⟨hreturned, hzero, hevents⟩ := of_decide_eq_true hholds
  refine ⟨darkConfig_start, after, hexec, hreturned, hzero, ⟨0, false⟩,
    ⟨coldBrightness, true⟩, fun hlit => Bool.false_ne_true hlit.2, ?_,
    by decide, rfl⟩
  rw [hevents]
  exact .lost (.lost (.took (.took .start _) _) rfl) rfl

end Micronux
