/-
What holds of the three buffers at every moment, and what the threads of the
driver promise each other about them.  Roles and drawing belong to the holder
of `render_lock`; behind its back the interrupt may only turn the queued
buffer into the front buffer.  In ABI-v2 mode the buffers also follow one
logical framebuffer as long as no fault is latched and no drawing slips
between a flush and the choice of the first front buffer.
-/
import Micronux.DisplayCalls

namespace Micronux

open Concurrent Replay

/-- The roles name buffers, and the render buffer is not the front buffer. -/
structure Scanout.Distinct (scanout : Scanout) : Prop where
  front_lt : scanout.frontIndex < bufferCount
  render_lt : scanout.renderIndex < bufferCount
  queued_lt : ∀ index, scanout.queuedIndex = some index → index < bufferCount
  render_ne : scanout.renderIndex ≠ scanout.frontIndex
  queued_ne : scanout.queuedIndex ≠ some scanout.frontIndex

/-- A store while scanout is active spares the front and the queued buffer,
and a failed rearm leaves both roles. -/
def ScanoutEvent.KeepsRoles : ScanoutEvent → Prop
  | .stored buffer roles =>
    roles.active = true → buffer ≠ roles.front ∧ roles.queued ≠ some buffer
  | .rearmed succeeded before after => succeeded = false →
      after.front = before.front ∧ after.queued = before.queued

/-- The newest committed buffer: a copy reads it. -/
def Scanout.source (scanout : Scanout) : Nat :=
  scanout.queuedIndex.getD scanout.frontIndex

/-- The logical framebuffer after all operations executed so far. -/
def Scanout.logical (splash : Frame) (scanout : Scanout) : Frame :=
  after splash scanout.drawn scanout.drawn.length

/-- Between two holders of `render_lock` the render buffer is up to date or
marked stale, and without pending drawing the newest committed buffer is. -/
structure Scanout.Synced (splash : Frame) (scanout : Scanout) : Prop where
  current : scanout.renderNeedsSync = false →
    scanout.framebuffer scanout.renderIndex = scanout.logical splash
  stale : scanout.renderNeedsSync = true → scanout.renderDirty = false ∧
    scanout.queuedIndex ≠ some scanout.renderIndex
  committed : scanout.renderDirty = false →
    scanout.framebuffer scanout.source = scanout.logical splash

/-- What has been shown follows the logical framebuffer, and what will be
shown next is no older. -/
structure Scanout.Presents (splash : Frame) (scanout : Scanout)
    (prefixes : List Nat) (front : Nat) : Prop where
  follows : Follows splash scanout.drawn scanout.shown prefixes
  newest : ∀ count ∈ prefixes, count ≤ front
  executed : front ≤ scanout.drawn.length
  front_eq : scanout.framebuffer scanout.frontIndex =
    after splash scanout.drawn front
  queued : ∀ index, scanout.queuedIndex = some index →
    index ≠ scanout.renderIndex → ∃ count, front ≤ count ∧
      count ≤ scanout.drawn.length ∧
      scanout.framebuffer index = after splash scanout.drawn count

/-- The driver runs in ABI-v2 mode, no fault is latched, and the first front
buffer was never chosen with drawing pending. -/
structure Display.Clean (abi : Abi) (display : Display) : Prop where
  loader : abi = .v2
  faults : display.panel.faultBits = 0
  raced : display.scanout.raced = false

/-- What a holder of `render_lock` finds and leaves. -/
structure Settled (abi : Abi) (splash : Frame) (display : Display) : Prop where
  mapped : display.scanout.screenBase = display.scanout.renderIndex
  idle : display.scanout.copying = none
  stroke : display.scanout.stroke = id
  synced : display.Clean abi → display.scanout.Synced splash

/-- Nothing has happened to the buffers before the native driver is up. -/
structure Scanout.Starting (scanout : Scanout) : Prop where
  front : scanout.frontIndex = 0
  render : scanout.renderIndex = 1
  queued : scanout.queuedIndex = none
  base : scanout.screenBase = 1
  fresh : scanout.renderNeedsSync = false
  clean : scanout.renderDirty = false

/-- What holds of the buffers at every moment. -/
structure ScanoutInv (abi : Abi) (splash : Frame) (display : Display) :
    Prop where
  distinct : display.scanout.Distinct
  live : display.scanout.scanoutActive = true →
    display.scanout.queuedIndex ≠ some display.scanout.renderIndex
  copy : ∀ destination source,
    display.scanout.copying = some (destination, source) →
    destination = display.scanout.renderIndex ∧ source = display.scanout.source
  events : ∀ event ∈ display.scanout.events, event.KeepsRoles
  starting : display.panel.displayState = .scanoutInitializing →
    abi = .v3 ∧ display.scanout.Starting
  presents : display.Clean abi →
    ∃ prefixes front, display.scanout.Presents splash prefixes front
  free : display.scanout.renderLock = none → Settled abi splash display

/-- What a thread without `render_lock` leaves alone. -/
structure Scanout.Spared (before after : Scanout) : Prop where
  render : after.renderIndex = before.renderIndex
  sync : after.renderNeedsSync = before.renderNeedsSync
  dirty : after.renderDirty = before.renderDirty
  base : after.screenBase = before.screenBase
  frames : after.framebuffer = before.framebuffer
  copying : after.copying = before.copying
  drawn : after.drawn = before.drawn
  stroke : after.stroke = before.stroke
  roles : (after.frontIndex = before.frontIndex ∧
      after.queuedIndex = before.queuedIndex) ∨
    ∃ index, before.queuedIndex = some index ∧ after.frontIndex = index ∧
      after.queuedIndex = none

/-- What no action of any thread takes back. -/
structure Sticky (before after : Display) : Prop where
  faults : after.panel.faultBits = 0 → before.panel.faultBits = 0
  raced : after.scanout.raced = false → before.scanout.raced = false
  started : after.panel.displayState = .scanoutInitializing →
    before.panel.displayState = .scanoutInitializing

/-- How the display may change while a thread holds `render_lock` and does
nothing itself. -/
structure Drift (before after : Display) : Prop extends Sticky before after where
  spared : before.scanout.Spared after.scanout

/-- A change that the start-up of the native driver does not notice. -/
def ModeKept (before after : Display) : Prop :=
  before.panel.displayState = .scanoutInitializing →
    after.panel.displayState = .scanoutInitializing ∧
      after.panel.modeLock = before.panel.modeLock

/-- What an action of thread `t` may change.  During the start-up of the
native driver the state and `mode_lock` belong to its holder. -/
structure ScanoutGuar (t : ThreadId) (before after : Display) : Prop
    extends Sticky before after where
  lock : before.scanout.renderLock ≠ some t →
    after.scanout.renderLock = before.scanout.renderLock ∨
      (before.scanout.renderLock = none ∧ after.scanout.renderLock = some t)
  spared : before.scanout.renderLock ≠ some t →
    before.scanout.Spared after.scanout
  mode : before.panel.modeLock ≠ some t → ModeKept before after ∨
    (before.panel.modeLock = none ∧ after.panel.modeLock = some t ∧
      after.panel.displayState = before.panel.displayState)

def scanoutProtocol (abi : Abi) (splash : Frame) :
    Protocol ThreadId Display where
  inv := ScanoutInv abi splash
  guar := ScanoutGuar

/-- A change outside of the buffers. -/
structure Aside (before after : Display) : Prop where
  scanout : after.scanout = before.scanout
  faults : after.panel.faultBits = 0 → before.panel.faultBits = 0
  started : after.panel.displayState = .scanoutInitializing →
    before.panel.displayState = .scanoutInitializing

/-- A change outside of the buffers and of what the start-up owns. -/
structure Calm (before after : Display) : Prop where
  scanout : after.scanout = before.scanout
  faults : after.panel.faultBits = 0 → before.panel.faultBits = 0
  started : after.panel.displayState = .scanoutInitializing →
    before.panel.displayState = .scanoutInitializing
  mode : ModeKept before after

theorem Scanout.Spared.refl (scanout : Scanout) : scanout.Spared scanout :=
  ⟨rfl, rfl, rfl, rfl, rfl, rfl, rfl, rfl, .inl ⟨rfl, rfl⟩⟩

theorem Calm.refl (display : Display) : Calm display display :=
  ⟨rfl, id, id, (⟨·, rfl⟩)⟩

theorem ModeKept.trans {first second third : Display}
    (hfirst : ModeKept first second) (hsecond : ModeKept second third) :
    ModeKept first third := by
  intro hstate
  obtain ⟨hmid, hlock⟩ := hfirst hstate
  obtain ⟨hlast, hrelock⟩ := hsecond hmid
  exact ⟨hlast, hrelock.trans hlock⟩

theorem Calm.trans {first second third : Display} (hfirst : Calm first second)
    (hsecond : Calm second third) : Calm first third :=
  ⟨hsecond.scanout.trans hfirst.scanout,
    fun hfaults => hfirst.faults (hsecond.faults hfaults),
    fun hstarted => hfirst.started (hsecond.started hstarted),
    hfirst.mode.trans hsecond.mode⟩

theorem Calm.aside {before after : Display} (hcalm : Calm before after) :
    Aside before after :=
  ⟨hcalm.scanout, hcalm.faults, hcalm.started⟩

theorem Aside.drift {before after : Display} (haside : Aside before after) :
    Drift before after := by
  refine ⟨⟨haside.faults, ?_, haside.started⟩, ?_⟩
  · rw [haside.scanout]
    exact id
  · rw [haside.scanout]
    exact .refl before.scanout

variable {abi : Abi} {splash : Frame} {t : ThreadId} {before after : Display}

theorem Aside.guar (haside : Aside before after)
    (hmode : before.panel.modeLock ≠ some t → ModeKept before after ∨
      (before.panel.modeLock = none ∧ after.panel.modeLock = some t ∧
        after.panel.displayState = before.panel.displayState)) :
    ScanoutGuar t before after :=
  ⟨haside.drift.toSticky, fun _ => .inl (by rw [haside.scanout]),
    fun _ => haside.drift.spared, hmode⟩

theorem Calm.guar (hcalm : Calm before after) : ScanoutGuar t before after :=
  hcalm.aside.guar fun _ => .inl hcalm.mode

theorem Sticky.clean (hsticky : Sticky before after)
    (hclean : after.Clean abi) : before.Clean abi :=
  ⟨hclean.loader, hsticky.faults hclean.faults, hsticky.raced hclean.raced⟩

/-- A flip behind a thread's back leaves the newest committed buffer. -/
theorem Scanout.Spared.source {before after : Scanout}
    (hspared : before.Spared after) : after.source = before.source := by
  rcases hspared.roles with ⟨hfront, hqueued⟩ | ⟨index, hqueued, hfront, hnone⟩
  · rw [Scanout.source, Scanout.source, hfront, hqueued]
  · rw [Scanout.source, Scanout.source, hnone, hqueued, hfront]
    rfl

theorem Scanout.Spared.logical {before after : Scanout}
    (hspared : before.Spared after) :
    after.logical splash = before.logical splash := by
  rw [Scanout.logical, Scanout.logical, hspared.drawn]

/-- No flip makes the render buffer a queued one. -/
theorem Scanout.Spared.queued_ne {before after : Scanout}
    (hspared : before.Spared after)
    (hqueued : before.queuedIndex ≠ some before.renderIndex) :
    after.queuedIndex ≠ some after.renderIndex := by
  rw [hspared.render]
  rcases hspared.roles with ⟨-, hsame⟩ | ⟨index, -, -, hnone⟩
  · rw [hsame]
    exact hqueued
  · rw [hnone]
    exact (Option.some_ne_none before.renderIndex).symm

theorem Scanout.Synced.spared {before after : Scanout}
    (hsynced : before.Synced splash) (hspared : before.Spared after) :
    after.Synced splash := by
  refine ⟨?_, ?_, ?_⟩
  · intro hsync
    rw [hspared.frames, hspared.render, hspared.logical]
    exact hsynced.current (hspared.sync ▸ hsync)
  · intro hsync
    obtain ⟨hdirty, hqueued⟩ := hsynced.stale (hspared.sync ▸ hsync)
    exact ⟨hspared.dirty.trans hdirty, hspared.queued_ne hqueued⟩
  · intro hdirty
    rw [hspared.frames, hspared.source, hspared.logical]
    exact hsynced.committed (hspared.dirty ▸ hdirty)

theorem Settled.drift (hsettled : Settled abi splash before)
    (hdrift : Drift before after) : Settled abi splash after := by
  have hspared := hdrift.spared
  refine ⟨?_, hspared.copying.trans hsettled.idle,
    hspared.stroke.trans hsettled.stroke, ?_⟩
  · rw [hspared.base, hspared.render]
    exact hsettled.mapped
  · intro hclean
    exact (hsettled.synced (hdrift.clean hclean)).spared hspared

theorem ScanoutInv.aside (hinv : ScanoutInv abi splash before)
    (haside : Aside before after) : ScanoutInv abi splash after := by
  obtain ⟨hdistinct, hlive, hcopy, hevents, hstarting, hpresents, hfree⟩ := hinv
  have hscanout := haside.scanout
  have hclean : after.Clean abi → before.Clean abi := haside.drift.clean
  refine ⟨?_, ?_, ?_, ?_, ?_, ?_, ?_⟩ <;> rw [hscanout]
  · exact hdistinct
  · exact hlive
  · exact hcopy
  · exact hevents
  · exact fun hstate => hstarting (haside.started hstate)
  · exact fun hafter => hpresents (hclean hafter)
  · exact fun hlock => (hfree hlock).drift haside.drift

/-- The thread holds `render_lock` and knows something that survives what
happens behind its back. -/
def Holding (t : ThreadId) (assertion : Display → Prop) (display : Display) :
    Prop :=
  display.scanout.renderLock = some t ∧ assertion display

def Robust (assertion : Display → Prop) : Prop :=
  ∀ ⦃before after⦄, Drift before after → assertion before → assertion after

theorem Robust.and {left right : Display → Prop} (hleft : Robust left)
    (hright : Robust right) :
    Robust fun display => left display ∧ right display :=
  fun _ _ hdrift hboth => ⟨hleft hdrift hboth.1, hright hdrift hboth.2⟩

theorem robust_settled : Robust (Settled abi splash) :=
  fun _ _ hdrift hsettled => hsettled.drift hdrift

def Started (display : Display) : Prop :=
  display.panel.displayState ≠ .scanoutInitializing

theorem robust_started : Robust Started :=
  fun _ _ hdrift hstarted hstate => hstarted (hdrift.started hstate)

/-- What the holder knows about a field that belongs to the lock. -/
theorem robust_field {β : Type} (field : Scanout → β) (value : β)
    (hfield : ∀ before after : Scanout, before.Spared after →
      field after = field before) :
    Robust fun display => field display.scanout = value :=
  fun _ _ hdrift hvalue => (hfield _ _ hdrift.spared).trans hvalue

theorem stable_holding {assertion : Display → Prop} (hrobust : Robust assertion) :
    (scanoutProtocol abi splash).Stable t (Holding t assertion) := by
  rintro before after ⟨-, -, other, hother, hguar⟩ ⟨hlock, hassertion⟩
  have hforeign : before.scanout.renderLock ≠ some other := by
    rw [hlock]
    exact fun hsame => hother (Option.some.inj hsame).symm
  refine ⟨?_, hrobust ⟨hguar.toSticky, hguar.spared hforeign⟩ hassertion⟩
  rcases hguar.lock hforeign with hsame | ⟨hnone, -⟩
  · exact hsame.trans hlock
  · rw [hlock] at hnone
    cases hnone

/-- The holder of the lock may do anything but take back what is sticky. -/
theorem ScanoutGuar.of_holding (hlock : before.scanout.renderLock = some t)
    (hsticky : Sticky before after) (hmode : ModeKept before after) :
    ScanoutGuar t before after :=
  ⟨hsticky, fun hforeign => absurd hlock hforeign,
    fun hforeign => absurd hlock hforeign, fun _ => .inl hmode⟩

theorem stable_true : (scanoutProtocol abi splash).Stable t fun _ => True :=
  fun _ _ _ => id

theorem stable_started : (scanoutProtocol abi splash).Stable t Started := by
  rintro before after ⟨-, -, other, hother, hguar⟩ hstarted hstate
  exact hstarted (hguar.started hstate)

end Micronux
