/-
When the display contract is valid: over every execution of `app_main`, with
any failures and any moves of the cache, it is published only behind all of the
milestones, and a failure leaves it invalid behind a darkened panel.
-/
import Micronux.ColdBoot
import Micronux.PayloadPack

namespace Micronux.ColdBoot

open Concurrent WriteBackCache

/-- The events that show where `app_main` is. -/
def Event.mark : Event → Bool
  | .started | .invalidated => true
  | .writebackLost => false
  | .passed _ => true
  | .bus _ | .device _ | .pwm _ _ | .control _ _ => false
  | .failed _ | .aborted | .committed => true

def marks (log : List Event) : List Event :=
  log.filter Event.mark

variable {size : Nat} {pre : Loader → Prop} {since : List Event → Prop}
  {after before : Loader} {event : Event} {prog : BootProg Bool}

theorem mem_marks (hmark : event.mark = true) {log : List Event} :
    event ∈ marks log ↔ event ∈ log := by
  rw [marks, List.mem_filter, and_iff_left hmark]

/-- The way to a published contract, newest first. -/
def publishedMarks : List Event :=
  [.committed, .passed .stage, .passed .pmp, .passed .dmaPms, .passed .handoff,
    .passed .prepare, .passed .earlyDark, .invalidated, .started]

/-- A PWM-zero write was attempted, and a reset-assert write after it. -/
def ResetAfterDark (log : List Event) : Prop :=
  ∃ newest between oldest resetAcked pwmAcked,
    log = newest ++ .control resetAssertCommand resetAcked ::
      (between ++ .pwm 0 pwmAcked :: oldest)

/-- The panel was darkened and reset, if the bus could be had. -/
def Darkened (log : List Event) : Prop :=
  .bus false ∈ log ∨ .device false ∈ log ∨ ResetAfterDark log

/-- A property of what happened since `fail` was called. -/
def SinceFailure (since : List Event → Prop) (log : List Event) : Prop :=
  ∃ newer reason older, log = newer ++ .failed reason :: older ∧ since newer

/-- The contract is invalid, unless a writeback was lost. -/
def Cleared (loader : Loader) : Prop :=
  .writebackLost ∉ loader.log → loader.contract.Avoids handoffMagic

theorem Cleared.push {loader : Loader} (hcleared : Cleared loader)
    (event : Event) : Cleared { loader with log := event :: loader.log } :=
  fun hlost => hcleared fun hbefore =>
    hlost (List.mem_cons_of_mem event hbefore)

/-- What holds at every moment of a boot. -/
structure BootInv (loader : Loader) : Prop where
  clean : .invalidated ∈ loader.log → .committed ∉ loader.log → Cleared loader
  published : .committed ∈ loader.log → marks loader.log = publishedMarks
  contained : .aborted ∈ loader.log → .started ∈ loader.log →
    Cleared loader ∧ SinceFailure Darkened loader.log
  begun : .started ∈ loader.log → loader.externalSequenceStarted = true

/-- The loader runs on one thread; whatever else runs moves the cache. -/
def bootThread : ThreadId := 0

def protocol : Protocol ThreadId Loader where
  inv := BootInv
  guar t before after := t ≠ bootThread → ∃ cell,
    after = { before with contract := cell } ∧ before.contract.Moves cell

theorem stable_of_moves {assertion : Loader → Prop}
    (hmoves : ∀ loader cell, loader.contract.Moves cell → assertion loader →
      assertion { loader with contract := cell }) :
    protocol.Stable bootThread assertion := by
  rintro before after ⟨-, -, other, hother, hguar⟩ hbefore
  obtain ⟨cell, rfl, hcell⟩ := hguar hother
  exact hmoves before cell hcell hbefore

def Running (loader : Loader) : Prop :=
  .committed ∉ loader.log ∧ .aborted ∉ loader.log

/-- A change that neither publishes the contract nor moves on. -/
structure Quietly (before after : Loader) : Prop where
  cell : before.contract.Avoids handoffMagic →
    after.contract.Avoids handoffMagic
  log : marks after.log = marks before.log
  grows : before.log <:+ after.log
  started : after.externalSequenceStarted = before.externalSequenceStarted

theorem Quietly.refl (loader : Loader) : Quietly loader loader :=
  ⟨id, rfl, List.suffix_rfl, rfl⟩

section

variable (hquiet : Quietly before after)

include hquiet

theorem Quietly.mem (hmark : event.mark = true) :
    event ∈ after.log ↔ event ∈ before.log := by
  rw [← mem_marks hmark, hquiet.log, mem_marks hmark]

theorem Quietly.running (hrunning : Running before) : Running after :=
  ⟨fun hcommitted => hrunning.1 ((hquiet.mem rfl).mp hcommitted),
    fun haborted => hrunning.2 ((hquiet.mem rfl).mp haborted)⟩

theorem Quietly.cleared (hcleared : Cleared before) : Cleared after :=
  fun hlost => hquiet.cell (hcleared fun hbefore =>
    hlost (hquiet.grows.subset hbefore))

theorem Quietly.inv (hinv : BootInv before) (hrunning : Running before) :
    BootInv after := by
  refine ⟨fun hinvalidated _ => ?_, fun hpublished => ?_, fun hdone => ?_,
    fun hstarted => ?_⟩
  · exact hquiet.cleared
      (hinv.clean ((hquiet.mem rfl).mp hinvalidated) hrunning.1)
  · exact absurd ((hquiet.mem rfl).mp hpublished) hrunning.1
  · exact absurd ((hquiet.mem rfl).mp hdone) hrunning.2
  · rw [hquiet.started]
    exact hinv.begun ((hquiet.mem rfl).mp hstarted)

end

/-- An assertion of a running boot that a quiet change keeps. -/
structure Kept (assertion : Loader → Prop) : Prop where
  stable : protocol.Stable bootThread assertion
  quiet : ∀ before after, Quietly before after →
    assertion before → assertion after
  running : ∀ loader, assertion loader → Running loader

/-- Where `app_main` is. -/
def At (ms : List Event) (loader : Loader) : Prop :=
  marks loader.log = ms

def Open (ms : List Event) : Prop :=
  .committed ∉ ms ∧ .aborted ∉ ms

instance (ms : List Event) : Decidable (Open ms) :=
  inferInstanceAs (Decidable (_ ∧ _))

variable {α : Type} {ms : List Event} {assertion : Loader → Prop}

theorem At.running {loader : Loader} (hat : At ms loader) (hopen : Open ms) :
    Running loader := by
  subst hat
  exact ⟨fun hcommitted => hopen.1 ((mem_marks rfl).mpr hcommitted),
    fun haborted => hopen.2 ((mem_marks rfl).mpr haborted)⟩

theorem kept_at (hopen : Open ms) : Kept (At ms) where
  stable := stable_of_moves fun _ _ _ hat => hat
  quiet := fun _ _ hquiet hat => hquiet.log.trans hat
  running := fun _ hat => hat.running hopen

theorem kept_running : Kept Running where
  stable := stable_of_moves fun _ _ _ hrunning => hrunning
  quiet := fun _ _ hquiet hrunning => hquiet.running hrunning
  running := fun _ hrunning => hrunning

theorem cleared_stable : protocol.Stable bootThread Cleared :=
  stable_of_moves fun _ _ hmoves hcleared hlost =>
    (hcleared hlost).moves hmoves

theorem Kept.cleared (hkept : Kept assertion) :
    Kept fun loader => assertion loader ∧ Cleared loader where
  stable := hkept.stable.and cleared_stable
  quiet := fun before after hquiet hboth =>
    ⟨hkept.quiet before after hquiet hboth.1, hquiet.cleared hboth.2⟩
  running := fun loader hboth => hkept.running loader hboth.1

theorem Kept.triple (hkept : Kept assertion) {prog : BootProg α}
    (hprog : prog.Steady Quietly) :
    protocol.Triple bootThread assertion prog fun _ => assertion := by
  apply Protocol.Triple.within_pre hprog.within hkept.stable
  intro before after hquiet hinv hbefore
  exact ⟨hquiet.inv hinv (hkept.running before hbefore),
    fun hother => absurd rfl hother, hkept.quiet before after hquiet hbefore⟩

theorem marks_cons_of_not (hmark : event.mark = false) (log : List Event) :
    marks (event :: log) = marks log :=
  List.filter_cons_of_neg (by simp [hmark])

theorem marks_cons (hmark : event.mark = true) (log : List Event) :
    marks (event :: log) = event :: marks log :=
  List.filter_cons_of_pos hmark

/-- An event that is no mark. -/
theorem Quietly.push (loader : Loader) (hmark : event.mark = false) :
    Quietly loader { loader with log := event :: loader.log } :=
  ⟨id, marks_cons_of_not hmark _, List.suffix_cons event _, rfl⟩

/-- A change of the contract's cell. -/
theorem Quietly.contract {loader : Loader} {cell : Cell Word}
    (hcell : loader.contract.Avoids handoffMagic → cell.Avoids handoffMagic) :
    Quietly loader { loader with contract := cell } :=
  ⟨hcell, rfl, List.suffix_rfl, rfl⟩

theorem answer_steady : answer.Steady Quietly :=
  .ask Quietly.refl _

theorem load_steady (view : Loader → α) :
    (Prog.load view : BootProg α).Steady Quietly :=
  .load Quietly.refl _

theorem observe_steady {event : Bool → Event}
    (hmark : ∀ ok, (event ok).mark = false) : (observe event).Steady Quietly :=
  .total fun input loader => .push loader (hmark input.ok)

theorem write_steady {base : Nat} (hcovers : ¬ Covers base size) :
    (write base size).Steady Quietly :=
  .total fun _ loader => by
    rw [if_neg hcovers]
    exact .refl loader

theorem clearMagic_steady : clearMagic.Steady Quietly :=
  .store fun _ => .contract fun havoids => havoids.write (by decide)

theorem cacheWriteback_steady : cacheWriteback.Steady Quietly := by
  refine .total fun input loader => ?_
  split
  · exact .contract fun havoids => havoids.writeback
  · exact .push loader rfl

theorem cacheWritebackInvalidate_steady :
    cacheWritebackInvalidate.Steady Quietly := by
  refine .total fun input loader => ?_
  split
  · exact .contract fun havoids => havoids.writeback.invalidate
  · exact .push loader rfl

variable {change : Loader → Loader} {post : Loader → Prop} {digests : Digests}
  {profile : Profile} {wider : List Event → Prop}

/-- A flag is set where the checks before it passed. -/
theorem flag_steady (hprog : prog.Steady Quietly)
    (hchange : ∀ loader, Quietly loader (change loader)) :
    (do
      if ← prog then do
        Prog.store change
        pure true
      else pure false : BootProg Bool).Steady Quietly :=
  hprog.bind fun _ => .ite (fun _ => .bind (.store hchange) fun _ => .ret true)
    fun _ => .ret false

theorem externalWrites_steady : externalWrites.Steady Quietly := by
  have hpwm : (observe (.pwm 0)).Steady Quietly := observe_steady fun _ => rfl
  have hcontrol : ∀ command, (observe (.control command)).Steady Quietly :=
    fun _ => observe_steady fun _ => rfl
  apply Prog.Steady.bind
  · apply Prog.Steady.allOf
    simp only [List.forall_mem_cons]
    exact ⟨hpwm, hcontrol _, hcontrol _, List.forall_mem_nil _⟩
  · intro commanded
    exact .ite (fun _ => .ret true) fun _ =>
      hpwm.bind fun _ => (hcontrol _).bind fun _ => .ret false

/-- `cold_release_i2c` -/
theorem release_steady : (Prog.allOf [answer, answer]).Steady Quietly := by
  apply Prog.Steady.allOf
  simp only [List.forall_mem_cons]
  exact ⟨answer_steady, answer_steady, List.forall_mem_nil _⟩

theorem executeExternalCommandSequence_steady :
    executeExternalCommandSequence.Steady Quietly := by
  apply (observe_steady fun _ => rfl).bind
  intro bus
  refine .ite (fun _ => ?_) fun _ => .ret false
  apply (observe_steady fun _ => rfl).bind
  intro device
  refine .ite (fun _ => ?_) fun _ => .ret false
  exact externalWrites_steady.bind fun _ => release_steady.bind fun _ => .ret _

theorem clearDmaMemory_steady (front descriptors : Nat) :
    (clearDmaMemory front descriptors).Steady Quietly := by
  refine .ite (fun hplaced => ?_) fun _ => .ret false
  obtain ⟨-, hfront, hdescriptors, -⟩ := hplaced
  apply (write_steady _).bind
  · intro _
    apply (write_steady _).bind
    · intro _
      refine flag_steady ?_ fun _ => ⟨id, rfl, List.suffix_rfl, rfl⟩
      apply Prog.Steady.allOf
      simp only [List.forall_mem_cons]
      exact ⟨answer_steady, answer_steady, answer_steady, List.forall_mem_nil _⟩
    · rintro ⟨-, hlow, -⟩
      unfold handoffAddress at hlow
      omega
  · rintro ⟨-, -, hhigh⟩
    unfold handoffAddress at hhigh
    omega

theorem reserveDmaMemory_steady : reserveDmaMemory.Steady Quietly := by
  apply (Prog.Steady.ask Quietly.refl _).bind
  intro front
  apply (Prog.Steady.ask Quietly.refl _).bind
  intro descriptors
  cases front with
  | none => exact .ret false
  | some front =>
    cases descriptors with
    | none => exact .ret false
    | some descriptors => exact clearDmaMemory_steady front descriptors

theorem prepare_steady : prepare.Steady Quietly := by
  refine flag_steady ?_ fun _ => ⟨id, rfl, List.suffix_rfl, rfl⟩
  apply Prog.Steady.allOf
  simp only [List.forall_mem_cons]
  exact ⟨load_steady _, reserveDmaMemory_steady, answer_steady, answer_steady,
    answer_steady, answer_steady, List.forall_mem_nil _⟩

theorem handoff_steady : handoff.Steady Quietly := by
  refine flag_steady ?_ fun _ => ⟨id, rfl, List.suffix_rfl, rfl⟩
  apply Prog.Steady.allOf
  simp only [List.forall_mem_cons]
  exact ⟨load_steady _, answer_steady, answer_steady, List.forall_mem_nil _⟩

theorem stage_steady : stage.Steady Quietly := by
  apply Prog.Steady.bind
  · apply Prog.Steady.allOf
    simp only [List.forall_mem_cons]
    exact ⟨load_steady _, answer_steady, answer_steady, answer_steady,
      List.forall_mem_nil _⟩
  · intro ready
    refine .ite (fun _ => ?_) fun _ => .ret false
    apply clearMagic_steady.bind
    intro _
    exact flag_steady cacheWritebackInvalidate_steady fun _ =>
      ⟨id, rfl, List.suffix_rfl, rfl⟩

theorem checks_steady (reasons : List String) :
    (checks reasons).run.Steady Quietly := by
  induction reasons with
  | nil => exact Attempt.steady_pure ()
  | cons reason rest ih =>
    exact Attempt.steady_bind (Attempt.steady_check reason answer_steady)
      fun _ => ih

theorem readManifest_steady (digests : Digests) :
    (readManifest digests).run.Steady Quietly := by
  apply Attempt.steady_bind (Attempt.steady_lift (.ask Quietly.refl _))
  intro metadata
  apply Attempt.steady_bind (Attempt.steady_lift answer_steady)
  intro read
  split
  · exact Attempt.steady_throw _
  · exact Attempt.steady_pure _

/-- What ends below the end of the display pool misses the contract. -/
theorem not_covers_of_le {base : Nat} (hspan : base + size ≤ displayPoolVaddr) :
    ¬ Covers base size := by
  rintro ⟨-, -, hhigh⟩
  unfold displayPoolVaddr at hspan
  unfold handoffAddress at hhigh
  omega

/-- The rounding of a size, with a part of it taken off. -/
theorem alignUp_sub_le {value : Word} (part : Word)
    (hvalue : value.toNat ≤ 0x1000000) (hpart : part.toNat ≤ value.toNat) :
    part.toNat + (alignUp value cacheAlignment - part).toNat =
        (alignUp value cacheAlignment).toNat ∧
      (alignUp value cacheAlignment).toNat ≤ value.toNat + 127 := by
  have hbound : value.toNat + 127 < 2 ^ 32 := by omega
  rw [alignUp_sub hbound hpart, alignUp_cache hbound]
  omega

theorem loadDtb_steady (payload : PayloadManifest) :
    (loadDtb payload).run.Steady Quietly := by
  apply Attempt.steady_ite
  · exact fun _ => Attempt.steady_throw _
  intro hsize
  have hsmall : payload.dtbSize.toNat ≤ 0x200000 := by
    unfold dtbPartitionSize at hsize
    omega
  apply Attempt.steady_bind (Attempt.steady_lift (.ask Quietly.refl _))
  intro address
  cases address with
  | none => exact Attempt.steady_throw _
  | some dtb =>
    apply Attempt.steady_ite
    · exact fun _ => Attempt.steady_throw _
    intro hdtb
    apply Attempt.steady_bind (Attempt.steady_lift (write_steady _))
    · intro _
      apply Attempt.steady_bind (Attempt.steady_check _ answer_steady)
      intro _
      apply Attempt.steady_bind (Attempt.steady_lift (write_steady _))
      · exact fun _ => checks_steady _
      · apply not_covers_of_le
        obtain ⟨hend, hround⟩ :=
          alignUp_sub_le payload.dtbSize (by omega) le_rfl
        unfold kernelVaddr at hdtb
        unfold displayPoolVaddr
        omega
    · apply not_covers_of_le
      unfold kernelVaddr at hdtb
      unfold displayPoolVaddr
      omega

theorem loadKernel_steady {kernel : Nat}
    (hspan : kernel + size ≤ displayPoolVaddr) (offsets : List Nat) :
    (loadKernel kernel size offsets).run.Steady Quietly := by
  induction offsets with
  | nil => exact Attempt.steady_pure ()
  | cons offset rest ih =>
    apply Attempt.steady_bind (Attempt.steady_lift (write_steady _))
    · exact fun _ => Attempt.steady_bind
        (Attempt.steady_check _ answer_steady) fun _ => ih
    · rintro ⟨hsome, -, hhigh⟩
      unfold displayPoolVaddr at hspan
      unfold handoffAddress at hhigh
      omega

theorem fillKernel_steady {payload : PayloadManifest} (hplaced : Placed payload)
    (kernel : Nat) : (fillKernel payload kernel).run.Steady Quietly := by
  apply Attempt.steady_ite
  · exact fun _ => Attempt.steady_throw _
  intro hkernel
  apply Attempt.steady_ite
  · exact fun _ => Attempt.steady_throw _
  intro hspan
  obtain ⟨hload, hmemory, hceiling⟩ := hplaced
  have hsmall : payload.kernelMemorySize.toNat ≤ 0x1000000 := by
    unfold displayPoolVaddr kernelVaddr at hceiling
    omega
  obtain ⟨hend, hround⟩ := alignUp_sub_le _ hsmall hmemory
  apply Attempt.steady_bind (Attempt.steady_lift (write_steady _))
  · intro _
    apply Attempt.steady_bind (Attempt.steady_check _ answer_steady)
    intro _
    apply Attempt.steady_bind (loadKernel_steady _ _)
    · intro _
      apply Attempt.steady_bind (Attempt.steady_lift (write_steady _))
      · exact fun _ => Attempt.steady_check _ answer_steady
      · apply not_covers_of_le
        omega
    · omega
  · apply not_covers_of_le
    omega

theorem loadPayload_steady (digests : Digests) (profile : Profile) :
    (loadPayload digests profile).run.Steady Quietly := by
  apply Attempt.steady_bind (checks_steady _)
  intro _
  apply Attempt.steady_bind (Attempt.steady_check _ answer_steady)
  intro _
  apply Attempt.steady_bind (readManifest_steady digests)
  intro payload
  apply Attempt.steady_ite
  · exact fun _ => Attempt.steady_throw _
  intro _
  apply Attempt.steady_bind (checks_steady _)
  intro _
  apply Attempt.steady_bind (loadDtb_steady payload.manifest)
  intro _
  apply Attempt.steady_bind
  · apply Attempt.steady_bind (Attempt.steady_lift (.ask Quietly.refl _))
    intro address
    cases address with
    | none => exact Attempt.steady_throw _
    | some kernel => exact fillKernel_steady payload.placed kernel
  · exact fun _ => checks_steady _

theorem store_triple (hpre : protocol.Stable bootThread pre)
    (hpost : protocol.Stable bootThread post)
    (hchange : ∀ loader, BootInv loader → pre loader →
      BootInv (change loader) ∧ post (change loader)) :
    protocol.Triple bootThread pre (Prog.store change : BootProg Unit)
      fun _ => post := by
  refine .store hpre hpost fun loader hinv hloader => ?_
  obtain ⟨hafter, hdone⟩ := hchange loader hinv hloader
  exact ⟨hafter, fun hother => absurd rfl hother, hdone⟩

/-- A cleared magic word is on its way, whatever the cache does. -/
theorem clearMagic_carries (hkept : Kept assertion) :
    protocol.Triple bootThread assertion clearMagic fun _ loader =>
      assertion loader ∧ loader.contract.Carries 0#32 := by
  have hcarries : protocol.Stable bootThread fun loader =>
      loader.contract.Carries 0#32 :=
    stable_of_moves fun _ _ hmoves hcarried => hcarried.moves hmoves
  refine store_triple hkept.stable (hkept.stable.and hcarries) ?_
  intro loader hinv hloader
  have hquiet : Quietly loader
      { loader with contract := loader.contract.write 0#32 } :=
    .contract fun havoids => havoids.write (by decide)
  exact ⟨hquiet.inv hinv (hkept.running loader hloader),
    hkept.quiet _ _ hquiet hloader, Cell.carries_write _ _⟩

theorem invalidateContract_cleared (hkept : Kept assertion) :
    protocol.Triple bootThread assertion invalidateContract fun _ loader =>
      assertion loader ∧ Cleared loader := by
  apply (clearMagic_carries hkept).bind
  intro _
  refine .atomic ?_ (fun _ => hkept.cleared.stable) ?_
  · exact hkept.stable.and
      (stable_of_moves fun _ _ hmoves hcarried => hcarried.moves hmoves)
  rintro input before after ok hinv ⟨hbefore, hcarries⟩ hrun
  cases hrun
  have hrunning := hkept.running before hbefore
  split
  · have hquiet : Quietly before
        { before with contract := before.contract.writeback } :=
      .contract fun havoids => havoids.writeback
    exact ⟨hquiet.inv hinv hrunning, fun hother => absurd rfl hother,
      hkept.quiet _ _ hquiet hbefore, fun _ => hcarries.avoids (by decide)⟩
  · have hquiet : Quietly before
        { before with log := .writebackLost :: before.log } := .push before rfl
    exact ⟨hquiet.inv hinv hrunning, fun hother => absurd rfl hother,
      hkept.quiet _ _ hquiet hbefore, fun hlost =>
        absurd List.mem_cons_self hlost⟩

def Passing (ms : List Event) : Bool → Loader → Prop
  | true => At ms
  | false => Running

theorem passing_of_steady (hopen : Open ms) (hprog : prog.Steady Quietly) :
    protocol.Triple bootThread (At ms) prog (Passing ms) := by
  refine ((kept_at hopen).triple hprog).mono (fun _ _ => id) ?_
  intro passed loader hat
  cases passed with
  | true => exact hat
  | false => exact hat.running hopen

def turningMarks : List Event :=
  [.committed, .aborted, .invalidated, .started]

theorem BootInv.push {loader : Loader} (hinv : BootInv loader)
    (hrunning : Running loader) (hplain : event ∉ turningMarks) :
    BootInv { loader with log := event :: loader.log } ∧
      Running { loader with log := event :: loader.log } := by
  have hold : ∀ turning ∈ turningMarks,
      turning ∈ event :: loader.log → turning ∈ loader.log := by
    intro turning hturning
    apply List.mem_of_ne_of_mem
    rintro rfl
    exact hplain hturning
  have hstill : Running { loader with log := event :: loader.log } :=
    ⟨fun hcommitted => hrunning.1 (hold _ (by decide) hcommitted),
      fun haborted => hrunning.2 (hold _ (by decide) haborted)⟩
  refine ⟨⟨fun hinvalidated _ => ?_, fun hcommitted => ?_,
    fun haborted => ?_, fun hstarted => ?_⟩, hstill⟩
  · exact (hinv.clean (hold _ (by decide) hinvalidated) hrunning.1).push event
  · exact absurd hcommitted hstill.1
  · exact absurd haborted hstill.2
  · exact hinv.begun (hold _ (by decide) hstarted)

theorem note_at (hopen : Open ms) (hmark : event.mark = true)
    (hplain : event ∉ turningMarks) :
    protocol.Triple bootThread (At ms) (note event) fun _ =>
      At (event :: ms) := by
  refine store_triple (kept_at hopen).stable
    (stable_of_moves fun _ _ _ hat => hat) fun loader hinv hat => ?_
  refine ⟨(hinv.push (hat.running hopen) hplain).1, ?_⟩
  exact (marks_cons hmark _).trans (congrArg _ hat)

theorem milestone_passing (hopen : Open ms) (step : Milestone)
    (hprog : protocol.Triple bootThread pre prog (Passing ms)) :
    protocol.Triple bootThread pre (milestone step prog)
      (Passing (.passed step :: ms)) := by
  apply hprog.bind
  intro passed
  cases passed with
  | false => exact .ret kept_running.stable fun _ _ => id
  | true =>
    apply (note_at hopen rfl (by simp [turningMarks])).bind
    intro _
    exact .ret (stable_of_moves fun _ _ _ hat => hat) fun _ _ => id

theorem check_ends (hopen : Open ms) (reason : String)
    (hprog : protocol.Triple bootThread pre prog (Passing ms)) :
    protocol.Triple bootThread pre (Attempt.check reason prog).run
      (Attempt.Ends (fun _ => At ms) Running) := by
  apply hprog.bind
  intro passed
  cases passed with
  | false => exact .ret kept_running.stable fun _ _ => id
  | true => exact .ret (kept_at hopen).stable fun _ _ => id

theorem lift_ends {prog : BootProg Unit}
    (hpost : protocol.Stable bootThread post)
    (hprog : protocol.Triple bootThread pre prog fun _ => post) :
    protocol.Triple bootThread pre (Attempt.lift prog : Boot Unit).run
      (Attempt.Ends (fun _ => post) Running) :=
  hprog.bind fun _ => .ret hpost fun _ _ => id

theorem ends_of_steady (hopen : Open ms) {prog : Boot α}
    (hprog : prog.run.Steady Quietly) :
    protocol.Triple bootThread (At ms) prog.run
      (Attempt.Ends (fun _ => At ms) Running) := by
  refine ((kept_at hopen).triple hprog).mono (fun _ _ => id) ?_
  intro result loader hat
  cases result with
  | ok value => exact hat
  | error reason => exact hat.running hopen

theorem beginSequence_at :
    protocol.Triple bootThread (At []) beginSequence fun _ =>
      At [.started] := by
  refine store_triple (kept_at (by decide)).stable
    (stable_of_moves fun _ _ _ hat => hat) fun loader hinv hat => ?_
  have hnone : ∀ event : Event, event.mark = true → event ≠ .started →
      event ∉ .started :: loader.log := by
    intro event hmark hother hmem
    have hold := List.mem_of_ne_of_mem hother hmem
    rw [← mem_marks hmark, hat] at hold
    exact absurd hold List.not_mem_nil
  refine ⟨⟨fun hmem => absurd hmem (hnone _ rfl (by decide)),
    fun hmem => absurd hmem (hnone _ rfl (by decide)),
    fun hmem => absurd hmem (hnone _ rfl (by decide)), fun _ => rfl⟩, ?_⟩
  exact (marks_cons rfl _).trans (congrArg _ hat)

theorem noteInvalidated_at (hopen : Open ms) :
    protocol.Triple bootThread (fun loader => At ms loader ∧ Cleared loader)
      (note .invalidated) fun _ => At (.invalidated :: ms) := by
  refine store_triple (kept_at hopen).cleared.stable
    (stable_of_moves fun _ _ _ hat => hat) fun loader hinv hboth => ?_
  obtain ⟨hat, hcleared⟩ := hboth
  have hrunning := hat.running hopen
  refine ⟨⟨fun _ _ => hcleared.push .invalidated, fun hmem => ?_,
    fun hmem => ?_, fun hmem => ?_⟩, ?_⟩
  · exact absurd (List.mem_of_ne_of_mem (by decide) hmem) hrunning.1
  · exact absurd (List.mem_of_ne_of_mem (by decide) hmem) hrunning.2
  · exact hinv.begun (List.mem_of_ne_of_mem (by decide) hmem)
  · exact (marks_cons rfl _).trans (congrArg _ hat)

theorem earlyDark_passing : protocol.Triple bootThread (At [.started]) earlyDark
      (Passing [.invalidated, .started]) := by
  have hopen : Open [.started] := by decide
  have hopened : Open [.invalidated, .started] := by decide
  apply (invalidateContract_cleared (kept_at hopen)).bind
  intro cleared
  cases cleared with
  | false =>
    exact .ret kept_running.stable fun _ _ hstart => hstart.1.running hopen
  | true =>
    apply (noteInvalidated_at hopen).bind
    intro _
    exact passing_of_steady hopened
      (flag_steady executeExternalCommandSequence_steady fun _ =>
        ⟨id, rfl, List.suffix_rfl, rfl⟩)

theorem milestone_ends (hopen : Open ms) (step : Milestone)
    (hprog : prog.Steady Quietly) (reason : String) :
    protocol.Triple bootThread (At ms)
      (Attempt.check reason (milestone step prog)).run
      (Attempt.Ends (fun _ => At (.passed step :: ms)) Running) := by
  apply check_ends _ reason
    (milestone_passing hopen step (passing_of_steady hopen hprog))
  simpa [Open] using hopen

/-- `app_main` passes every milestone, or fails before the contract is
published. -/
theorem bootLinux_ends (digests : Digests) (profile : Profile) :
    protocol.Triple bootThread (At []) (bootLinux digests profile).run
      (Attempt.Ends (fun _ => At publishedMarks.tail) Running) := by
  have hstop := kept_running.stable
  apply Attempt.triple_bind hstop
    (ends_of_steady (by decide) (Attempt.steady_check _ answer_steady))
  intro _
  apply Attempt.triple_bind hstop
    (lift_ends (kept_at (by decide)).stable beginSequence_at)
  intro _
  apply Attempt.triple_bind hstop (check_ends (by decide) _
    (milestone_passing (by decide) .earlyDark earlyDark_passing))
  intro _
  apply Attempt.triple_bind hstop
    (milestone_ends (by decide) .prepare prepare_steady _)
  intro _
  apply Attempt.triple_bind hstop
    (ends_of_steady (by decide) (loadPayload_steady digests profile))
  intro _
  apply Attempt.triple_bind hstop
    (milestone_ends (by decide) .handoff handoff_steady _)
  intro _
  apply Attempt.triple_bind hstop (ends_of_steady (by decide) (checks_steady _))
  intro _
  apply Attempt.triple_bind hstop
    (milestone_ends (by decide) .dmaPms answer_steady _)
  intro _
  apply Attempt.triple_bind hstop (ends_of_steady (by decide) (checks_steady _))
  intro _
  apply Attempt.triple_bind hstop (lift_ends (kept_at (by decide)).stable
    (note_at (by decide) rfl (by decide)))
  intro _
  apply Attempt.triple_bind hstop
    (ends_of_steady (by decide) (Attempt.steady_check _ answer_steady))
  intro _
  apply Attempt.triple_bind hstop
    (milestone_ends (by decide) .stage stage_steady _)
  intro _
  exact ends_of_steady (by decide) (Attempt.steady_check _ (load_steady _))

theorem commit_published :
    protocol.Triple bootThread (At publishedMarks.tail) commit
      fun _ loader => .committed ∈ loader.log := by
  refine store_triple (kept_at (by decide)).stable
    (stable_of_moves fun _ _ _ hmem => hmem) fun loader hinv hat => ?_
  have hrunning := hat.running (by decide)
  refine ⟨⟨fun _ hnever => absurd List.mem_cons_self hnever, fun _ => ?_,
    fun hmem => ?_, fun hmem => ?_⟩, List.mem_cons_self⟩
  · exact (marks_cons rfl _).trans (congrArg _ hat)
  · exact absurd (List.mem_of_ne_of_mem (by decide) hmem) hrunning.2
  · exact hinv.begun (List.mem_of_ne_of_mem (by decide) hmem)

/-- After a failure: the contract is invalid, and this happened since. -/
structure Failing (since : List Event → Prop) (loader : Loader) : Prop where
  running : Running loader
  cleared : Cleared loader
  log : SinceFailure since loader.log

def Upward (since : List Event → Prop) : Prop :=
  ∀ newer log, since log → since (newer ++ log)

theorem SinceFailure.grow (hupward : Upward since) {before after : List Event}
    (hsince : SinceFailure since before) (hgrows : before <:+ after) :
    SinceFailure since after := by
  obtain ⟨newest, rfl⟩ := hgrows
  obtain ⟨newer, reason, older, rfl, hnewer⟩ := hsince
  exact ⟨newest ++ newer, reason, older, (List.append_assoc _ _ _).symm,
    hupward newest newer hnewer⟩

theorem failing_stable (since : List Event → Prop) :
    protocol.Stable bootThread (Failing since) :=
  stable_of_moves fun _ _ hmoves hfailing =>
    ⟨hfailing.running, fun hlost => (hfailing.cleared hlost).moves hmoves,
      hfailing.log⟩

theorem kept_failing (hupward : Upward since) : Kept (Failing since) where
  stable := failing_stable since
  quiet := fun _ _ hquiet hfailing =>
    ⟨hquiet.running hfailing.running, hquiet.cleared hfailing.cleared,
      hfailing.log.grow hupward hquiet.grows⟩
  running := fun _ hfailing => hfailing.running

/-- An event of the cleanup, and what it adds. -/
theorem observe_failing {event : Bool → Event}
    {grown : Bool → List Event → Prop} (hmark : ∀ ok, (event ok).mark = false)
    (hthen : ∀ ok newer, since newer → grown ok (event ok :: newer)) :
    protocol.Triple bootThread (Failing since) (observe event)
      fun ok => Failing (grown ok) := by
  refine .atomic (failing_stable since) (fun ok => failing_stable (grown ok)) ?_
  rintro input before after ok hinv hfailing hrun
  cases hrun
  have hquiet := Quietly.push before (hmark input.ok)
  refine ⟨hquiet.inv hinv hfailing.running, fun hother => absurd rfl hother,
    hquiet.running hfailing.running, hquiet.cleared hfailing.cleared, ?_⟩
  obtain ⟨newer, reason, older, hlog, hnewer⟩ := hfailing.log
  exact ⟨event input.ok :: newer, reason, older, congrArg _ hlog,
    hthen input.ok newer hnewer⟩

def DarkTried (log : List Event) : Prop :=
  ∃ between oldest pwmAcked, log = between ++ .pwm 0 pwmAcked :: oldest

theorem darkTried_upward : Upward DarkTried := by
  rintro newer log ⟨between, oldest, pwmAcked, rfl⟩
  exact ⟨newer ++ between, oldest, pwmAcked, (List.append_assoc _ _ _).symm⟩

theorem darkTried_pwm (acked : Bool) (log : List Event) :
    DarkTried (.pwm 0 acked :: log) :=
  ⟨[], log, acked, rfl⟩

theorem DarkTried.reset {log : List Event} (htried : DarkTried log)
    (acked : Bool) :
    ResetAfterDark (.control resetAssertCommand acked :: log) := by
  obtain ⟨between, oldest, pwmAcked, rfl⟩ := htried
  exact ⟨[], between, oldest, acked, pwmAcked, rfl⟩

theorem darkened_upward : Upward Darkened := by
  rintro newer log (hbus | hdevice | hreset)
  · exact .inl (List.mem_append_right newer hbus)
  · exact .inr (.inl (List.mem_append_right newer hdevice))
  · obtain ⟨newest, between, oldest, resetAcked, pwmAcked, rfl⟩ := hreset
    exact .inr (.inr ⟨newer ++ newest, between, oldest, resetAcked, pwmAcked,
      (List.append_assoc _ _ _).symm⟩)

theorem Failing.mono {loader : Loader} (hfailing : Failing since loader)
    (hwider : ∀ log, since log → wider log) :
    Failing wider loader := by
  obtain ⟨hrunning, hcleared, newer, reason, older, hlog, hnewer⟩ := hfailing
  exact ⟨hrunning, hcleared, newer, reason, older, hlog, hwider newer hnewer⟩

theorem Failing.ret {value : α} (hwider : ∀ log, since log → wider log) :
    protocol.Triple bootThread (Failing since) (.ret value : BootProg α)
      fun _ => Failing wider :=
  .ret (failing_stable wider) fun _ _ hfailing => hfailing.mono hwider

/-- The commands of the sequence, which stop at the first that fails. -/
theorem commands_failing : protocol.Triple bootThread (Failing fun _ => True)
      (Prog.allOf [observe (.pwm 0), observe (.control resetPrepareCommand),
        observe (.control resetAssertCommand)])
      fun commanded => Failing fun log =>
        commanded = true → ResetAfterDark log := by
  have hstop : ∀ since : List Event → Prop,
      protocol.Triple bootThread (Failing since) (.ret false : BootProg Bool)
        fun commanded => Failing fun log =>
          commanded = true → ResetAfterDark log := fun since =>
    .ret (failing_stable _) fun _ _ hfailing => hfailing.mono
      fun _ _ hfalse => absurd hfalse Bool.false_ne_true
  rw [Prog.allOf]
  apply (observe_failing (fun _ => rfl) fun acked newer _ =>
    darkTried_pwm acked newer).bind
  intro pwmAcked
  cases pwmAcked with
  | false => exact hstop _
  | true =>
    rw [if_pos rfl, Prog.allOf]
    apply (observe_failing (fun _ => rfl) fun acked newer htried =>
      darkTried_upward [.control resetPrepareCommand acked] newer htried).bind
    intro prepareAcked
    cases prepareAcked with
    | false => exact hstop _
    | true =>
      rw [if_pos rfl, Prog.allOf]
      apply (observe_failing (fun _ => rfl) fun acked newer htried =>
        DarkTried.reset htried acked).bind
      intro resetAcked
      cases resetAcked with
      | false => exact hstop _
      | true =>
        exact .ret (failing_stable _) fun _ _ hfailing =>
          hfailing.mono fun _ hreset _ => hreset

/-- Whichever write fails, a reset-assert is attempted behind a PWM-zero. -/
theorem externalWrites_failing :
    protocol.Triple bootThread (Failing fun _ => True) externalWrites
      fun _ => Failing ResetAfterDark := by
  apply commands_failing.bind
  intro commanded
  cases commanded with
  | true => exact Failing.ret fun _ hreset => hreset rfl
  | false =>
    apply (observe_failing (fun _ => rfl) fun acked newer _ =>
      darkTried_pwm acked newer).bind
    intro _
    apply (observe_failing (fun _ => rfl) fun acked newer htried =>
      DarkTried.reset htried acked).bind
    intro _
    exact Failing.ret fun _ => id

theorem executeExternalCommandSequence_failing :
    protocol.Triple bootThread (Failing fun _ => True)
      executeExternalCommandSequence fun _ => Failing Darkened := by
  have hwrites : ∀ since : List Event → Prop,
      protocol.Triple bootThread (Failing since) externalWrites
        fun _ => Failing Darkened := fun _ =>
    externalWrites_failing.mono
      (fun _ _ hfailing => hfailing.mono fun _ _ => trivial)
      fun _ _ hfailing => hfailing.mono fun _ hreset => Or.inr (.inr hreset)
  apply (observe_failing (fun _ => rfl) fun created newer _ =>
    (List.mem_cons_self : Event.bus created ∈ .bus created :: newer)).bind
  intro bus
  cases bus with
  | false => exact Failing.ret fun _ => .inl
  | true =>
    apply (observe_failing (fun _ => rfl) fun created newer _ =>
      (List.mem_cons_self : Event.device created ∈
        .device created :: newer)).bind
    intro device
    cases device with
    | false => exact Failing.ret fun _ hdevice => .inr (.inl hdevice)
    | true =>
      apply (hwrites _).bind
      intro commanded
      apply ((kept_failing darkened_upward).triple release_steady).bind
      intro released
      exact Failing.ret fun _ => id

/-- `fail` has been called. -/
def Called (loader : Loader) : Prop :=
  Running loader ∧ SinceFailure (fun _ => True) loader.log

theorem kept_called : Kept Called where
  stable := stable_of_moves fun _ _ _ hcalled => hcalled
  quiet := fun _ _ hquiet hcalled => ⟨hquiet.running hcalled.1,
    hcalled.2.grow (fun _ _ => id) hquiet.grows⟩
  running := fun _ hcalled => hcalled.1

theorem noteFailed_called (reason : String) :
    protocol.Triple bootThread Running (note (.failed reason))
      fun _ => Called := by
  refine store_triple kept_running.stable kept_called.stable ?_
  intro loader hinv hrunning
  obtain ⟨hafter, hstill⟩ := hinv.push hrunning
    (show Event.failed reason ∉ turningMarks by simp [turningMarks])
  exact ⟨hafter, hstill, [], reason, loader.log, rfl, trivial⟩

theorem failCleanup_failing : protocol.Triple bootThread Called failCleanup
      fun _ => Failing Darkened := by
  apply (invalidateContract_cleared kept_called).bind
  intro _
  refine .bind (executeExternalCommandSequence_failing.mono
    (fun _ _ hcalled => ⟨hcalled.1.1, hcalled.2, hcalled.1.2⟩)
    fun _ _ => id) fun _ => ?_
  exact Failing.ret fun _ => id

theorem noteAborted_aborted (hkept : Kept pre)
    (hcontained : ∀ loader, BootInv loader → pre loader →
      .started ∈ loader.log →
      Cleared loader ∧ SinceFailure Darkened loader.log) :
    protocol.Triple bootThread pre (note .aborted)
      fun _ loader => .aborted ∈ loader.log := by
  refine store_triple hkept.stable (stable_of_moves fun _ _ _ hmem => hmem) ?_
  intro loader hinv hpre
  have hrunning := hkept.running loader hpre
  have hold : ∀ event : Event, event ≠ .aborted →
      event ∈ .aborted :: loader.log → event ∈ loader.log :=
    fun _ hother hmem => List.mem_of_ne_of_mem hother hmem
  refine ⟨⟨fun hmem _ => ?_, fun hmem => ?_, fun _ hmem => ?_,
    fun hmem => ?_⟩, List.mem_cons_self⟩
  · exact (hinv.clean (hold _ (by decide) hmem) hrunning.1).push .aborted
  · exact absurd (hold _ (by decide) hmem) hrunning.1
  · obtain ⟨hbefore, hsince⟩ :=
      hcontained loader hinv hpre (hold _ (by decide) hmem)
    exact ⟨hbefore.push .aborted,
      hsince.grow darkened_upward (List.suffix_cons _ _)⟩
  · exact hinv.begun (hold _ (by decide) hmem)

/-- `fail` was called, and the flag was read. -/
def CalledWith (started : Bool) (loader : Loader) : Prop :=
  Called loader ∧ loader.externalSequenceStarted = started

theorem kept_calledWith (started : Bool) : Kept (CalledWith started) where
  stable := stable_of_moves fun _ _ _ hcalled => hcalled
  quiet := fun before after hquiet hcalled =>
    ⟨kept_called.quiet before after hquiet hcalled.1,
      hquiet.started.trans hcalled.2⟩
  running := fun _ hcalled => hcalled.1.1

theorem fail_aborted (reason : String) :
    protocol.Triple bootThread Running (fail reason)
      fun outcome loader => outcome = .aborted ∧ .aborted ∈ loader.log := by
  have hret : protocol.Triple bootThread (fun loader => .aborted ∈ loader.log)
      (.ret .aborted : BootProg Outcome)
      fun outcome loader => outcome = .aborted ∧ .aborted ∈ loader.log :=
    .ret (stable_of_moves fun _ _ _ hdone => hdone) fun _ _ hmem => ⟨rfl, hmem⟩
  have hload : protocol.Triple bootThread Called
      (Prog.load Loader.externalSequenceStarted : BootProg Bool) CalledWith :=
    .load (fun _ hother => absurd rfl hother) kept_called.stable
      (fun started => (kept_calledWith started).stable)
      fun _ _ hcalled => ⟨hcalled, rfl⟩
  apply (noteFailed_called reason).bind
  intro _
  apply hload.bind
  intro started
  cases started with
  | true =>
    refine .bind (failCleanup_failing.mono (fun _ _ hcalled => hcalled.1)
      fun _ _ => id) fun _ => ?_
    refine .bind (noteAborted_aborted (kept_failing darkened_upward) ?_)
      fun _ => hret
    exact fun _ _ hfailing _ => ⟨hfailing.cleared, hfailing.log⟩
  | false =>
    refine .bind (noteAborted_aborted (kept_calledWith false) ?_)
      fun _ => hret
    intro loader hinv hcalled hstarted
    exact absurd (hcalled.2.symm.trans (hinv.begun hstarted)) Bool.false_ne_true

def Ended (outcome : Outcome) (loader : Loader) : Prop :=
  (outcome = .aborted → .aborted ∈ loader.log) ∧
    (outcome = .jumped → .committed ∈ loader.log)

theorem ended_stable (outcome : Outcome) :
    protocol.Stable bootThread (Ended outcome) :=
  stable_of_moves fun _ _ _ hended => hended

theorem appMain_ended (digests : Digests) (profile : Profile) :
    protocol.Triple bootThread (At []) (appMain digests profile) Ended := by
  apply (bootLinux_ends digests profile).bind
  intro result
  cases result with
  | error reason =>
    refine (fail_aborted reason).mono (fun _ _ => id) ?_
    rintro outcome loader ⟨rfl, hmem⟩
    exact ⟨fun _ => hmem, fun hjumped => absurd hjumped (by decide)⟩
  | ok _ =>
    apply commit_published.bind
    intro _
    exact .ret (ended_stable .jumped) fun _ _ hmem =>
      ⟨fun haborted => absurd haborted (by decide), fun _ => hmem⟩

theorem BootInv.moves {loader : Loader} (hinv : BootInv loader)
    {cell : Cell Word} (hmoves : loader.contract.Moves cell) :
    BootInv { loader with contract := cell } where
  clean := fun hinvalidated hcommitted hlost =>
    (hinv.clean hinvalidated hcommitted hlost).moves hmoves
  published := hinv.published
  contained := fun haborted hstarted =>
    ⟨fun hlost => ((hinv.contained haborted hstarted).1 hlost).moves hmoves,
      (hinv.contained haborted hstarted).2⟩
  begun := hinv.begun

def Idle (t : ThreadId) (outcome : Outcome) (loader : Loader) : Prop :=
  t = bootThread → Ended outcome loader

theorem idle_moved (t : ThreadId) (loader : Loader) : Idle t .moved loader :=
  fun _ => ⟨fun haborted => absurd haborted (by decide),
    fun hjumped => absurd hjumped (by decide)⟩

theorem moveCell_idle (t : ThreadId) {move : Cell Word → Cell Word}
    (hmove : ∀ cell : Cell Word, cell.Moves (move cell)) :
    protocol.Triple t (fun _ => True) (do
        Prog.store fun loader => { loader with contract := move loader.contract }
        pure .moved : BootProg Outcome)
      (Idle t) := by
  refine .bind (.store (.const True) (.const True) fun loader hinv _ => ?_)
    fun _ => .ret (fun _ _ _ _ => idle_moved t _) fun loader _ _ =>
      idle_moved t loader
  exact ⟨hinv.moves (hmove _), fun _ => ⟨_, rfl, hmove _⟩, trivial⟩

theorem moveCache_correct : Protocol.Correct protocol Idle (fun _ _ => True)
      fun _ : ThreadId => moveCache := by
  intro t move _
  have hmove : protocol.Triple t (fun _ => True) (moveCache move) (Idle t) := by
    cases move with
    | evict => exact moveCell_idle t fun _ => .evict
    | fill => exact moveCell_idle t fun _ => .fill
  exact hmove.mono (fun _ _ _ => trivial) fun _ _ => id

abbrev BootConfig := Config Loader Input ThreadId Outcome

/-- Power-on: the static variables are zero, and memory and the cache hold
whatever an earlier boot has left. -/
structure PowerOn (digests : Digests) (profile : Profile)
    (config : BootConfig) : Prop where
  boots : config.thread bootThread = appMain digests profile
  idle : ∀ t, t ≠ bootThread → ∃ outcome, config.thread t = .ret outcome
  fresh : config.shared = { contract := config.shared.contract }

theorem PowerOn.good {config : BootConfig}
    (hstart : PowerOn digests profile config) :
    Protocol.Good protocol Idle config := by
  have hlog : config.shared.log = [] := congrArg Loader.log hstart.fresh
  have hinv : BootInv config.shared := by
    constructor <;> rw [hlog] <;> intro hmem <;> cases hmem
  refine ⟨hinv, fun t => ?_⟩
  by_cases hboot : t = bootThread
  · subst hboot
    rw [hstart.boots]
    refine ((appMain_ended digests profile).mono (fun _ _ => id)
      fun _ _ hended _ => hended) config.shared hinv ?_
    rw [At, hlog]
    rfl
  · obtain ⟨outcome, hidle⟩ := hstart.idle t hboot
    rw [hidle]
    exact fun _ _ hself => absurd hself hboot

def Freely (_before _after : Loader) : Prop := True

theorem Quietly.freely {prog : BootProg α} (hprog : prog.Steady Quietly) :
    prog.Steady Freely :=
  hprog.mono fun _ _ _ => trivial

theorem store_freely (change : Loader → Loader) :
    (Prog.store change : BootProg Unit).Steady Freely :=
  .store fun _ => trivial

theorem milestone_freely (step : Milestone) (hprog : prog.Steady Freely) :
    (milestone step prog).Steady Freely :=
  hprog.bind fun _ => .ite
    (fun _ => (store_freely _).bind fun _ => .ret true) fun _ => .ret false

theorem invalidateContract_freely : invalidateContract.Steady Freely :=
  Quietly.freely (clearMagic_steady.bind fun _ => cacheWriteback_steady)

theorem earlyDark_freely : earlyDark.Steady Freely := by
  apply invalidateContract_freely.bind
  intro _
  refine .ite (fun _ => ?_) fun _ => .ret false
  apply (store_freely _).bind
  intro _
  exact Quietly.freely (flag_steady executeExternalCommandSequence_steady
    fun _ => ⟨id, rfl, List.suffix_rfl, rfl⟩)

theorem fail_freely (reason : String) : (fail reason).Steady Freely := by
  have hcleanup : failCleanup.Steady Freely :=
    invalidateContract_freely.bind fun _ =>
      (Quietly.freely executeExternalCommandSequence_steady).bind fun _ =>
        .ret ()
  apply (store_freely _).bind
  intro _
  apply (Quietly.freely (load_steady _)).bind
  intro _
  refine .ite (fun _ => hcleanup.bind fun _ => ?_) fun _ => ?_ <;>
    exact (store_freely _).bind fun _ => .ret _

theorem bootLinux_freely (digests : Digests) (profile : Profile) :
    (bootLinux digests profile).run.Steady Freely := by
  have hcheck : ∀ (reason : String) {prog : BootProg Bool},
      prog.Steady Quietly → (Attempt.check reason prog).run.Steady Freely :=
    fun reason _ hprog => Attempt.steady_check reason (Quietly.freely hprog)
  have hmilestone : ∀ (reason : String) (step : Milestone)
      {prog : BootProg Bool}, prog.Steady Freely →
      (Attempt.check reason (milestone step prog)).run.Steady Freely :=
    fun reason step _ hprog =>
      Attempt.steady_check reason (milestone_freely step hprog)
  apply Attempt.steady_bind (hcheck _ answer_steady)
  intro _
  apply Attempt.steady_bind (Attempt.steady_lift (store_freely _))
  intro _
  apply Attempt.steady_bind (hmilestone _ _ earlyDark_freely)
  intro _
  apply Attempt.steady_bind (hmilestone _ _ (Quietly.freely prepare_steady))
  intro _
  apply Attempt.steady_bind (Quietly.freely (loadPayload_steady digests profile))
  intro _
  apply Attempt.steady_bind (hmilestone _ _ (Quietly.freely handoff_steady))
  intro _
  apply Attempt.steady_bind (Quietly.freely (checks_steady _))
  intro _
  apply Attempt.steady_bind (hmilestone _ _ (Quietly.freely answer_steady))
  intro _
  apply Attempt.steady_bind (Quietly.freely (checks_steady _))
  intro _
  apply Attempt.steady_bind (Attempt.steady_lift (store_freely _))
  intro _
  apply Attempt.steady_bind (hcheck _ answer_steady)
  intro _
  apply Attempt.steady_bind (hmilestone _ _ (Quietly.freely stage_steady))
  intro _
  exact hcheck _ (load_steady _)

theorem appMain_freely (digests : Digests) (profile : Profile) :
    (appMain digests profile).Steady Freely := by
  apply (bootLinux_freely digests profile).bind
  intro result
  cases result with
  | error reason => exact fail_freely reason
  | ok _ => exact (store_freely _).bind fun _ => .ret _

theorem moveCache_freely (move : CacheMove) :
    (moveCache move).Steady Freely := by
  cases move with
  | evict | fill => exact (store_freely _).bind fun _ => .ret _

/-- From wherever a run has got to, the loader comes to its end. -/
theorem PowerOn.ends {start after : BootConfig}
    (hstart : PowerOn digests profile start)
    {labels : List (Label ThreadId CacheMove Input)}
    (hexec : start.exec (fun _ => moveCache) labels = some after)
    (choice : Input) :
    ∃ count final, after.exec (fun _ => moveCache)
        (List.replicate count (.step bootThread choice)) = some final ∧
      ∃ outcome, (final.thread bootThread).reply = some outcome := by
  have hunblocked : ∀ t, (after.thread t).Unblocked choice := by
    refine Config.exec_unblocked _
      (fun _ move => (moveCache_freely move).unblocked choice) (fun t => ?_)
      hexec
    by_cases hboot : t = bootThread
    · rw [hboot, hstart.boots]
      exact (appMain_freely digests profile).unblocked choice
    · obtain ⟨outcome, hidle⟩ := hstart.idle t hboot
      rw [hidle]
      trivial
  exact Config.exists_reply _ (hunblocked bootThread)

/-- Over every boot: from the invalidation on, the magic word is in memory or
in the cache only if the contract was published; it is published only behind
all of the milestones, in their order, and nothing fails any more; and a boot
that fails after the external sequence began leaves the contract invalid, and
the panel darkened and reset as far as the bus can be had.  Every boot comes to
its end, and the log shows which. -/
theorem appMain_publishes (digests : Digests) (profile : Profile)
    {start after : BootConfig} (hstart : PowerOn digests profile start)
    {labels : List (Label ThreadId CacheMove Input)}
    (hexec : start.exec (fun _ => moveCache) labels = some after) :
    (.writebackLost ∉ after.shared.log → .invalidated ∈ after.shared.log →
      (after.shared.contract.stored = handoffMagic ∨
        after.shared.contract.cached = some handoffMagic) →
      .committed ∈ after.shared.log) ∧
    (.committed ∈ after.shared.log → marks after.shared.log = publishedMarks) ∧
    (.aborted ∈ after.shared.log → .started ∈ after.shared.log →
      (.writebackLost ∉ after.shared.log →
        after.shared.contract.stored ≠ handoffMagic ∧
          after.shared.contract.cached ≠ some handoffMagic) ∧
      SinceFailure Darkened after.shared.log) ∧
    (∀ outcome, (after.thread bootThread).reply = some outcome →
      Ended outcome after.shared) ∧
    ∀ choice, ∃ count final, after.exec (fun _ => moveCache)
        (List.replicate count (.step bootThread choice)) = some final ∧
      ∃ outcome, (final.thread bootThread).reply = some outcome := by
  have hgood := (hstart.good.exec moveCache_correct
    (Protocol.allowed_always labels) hexec).1
  have hinv : BootInv after.shared := hgood.inv
  refine ⟨fun hlost hinvalidated hmagic => ?_, hinv.published,
    fun haborted hstarted => ?_, fun outcome hreply => ?_, hstart.ends hexec⟩
  · by_contra hcommitted
    have havoids := hinv.clean hinvalidated hcommitted hlost
    rcases hmagic with hstored | hcached
    · exact havoids.stored hstored
    · exact havoids.cached _ hcached rfl
  · obtain ⟨hcleared, hsince⟩ := hinv.contained haborted hstarted
    exact ⟨fun hlost => ⟨(hcleared hlost).stored, fun hcached =>
      (hcleared hlost).cached _ hcached rfl⟩, hsince⟩
  · exact hgood.idle (Prog.eq_ret_of_reply hreply) rfl

def reboot : BootConfig where
  shared := { contract := ⟨handoffMagic, none, false⟩ }
  thread := fun t =>
    if t = bootThread then appMain standardDigests ⟨false, false⟩
    else .ret .moved

theorem reboot_powerOn : PowerOn standardDigests ⟨false, false⟩ reboot where
  boots := rfl
  idle := fun _ hother => ⟨.moved, if_neg hother⟩
  fresh := rfl

def smoothSteps (count : Nat) : List (Label ThreadId CacheMove Input) :=
  List.replicate count (.step bootThread {})

def allocates (address : Nat) : Label ThreadId CacheMove Input :=
  .step bootThread { address := some address }

/-- A boot in which everything succeeds; the cache fills the line of the
contract before it is invalidated. -/
def smoothBoot : List (Label ThreadId CacheMove Input) :=
  .call 1 .fill :: .step 1 {} :: smoothSteps 15 ++
    allocates 0x48000000 :: allocates 0x4ff00000 :: smoothSteps 21 ++
    .step bootThread { metadata := some smallManifest } :: smoothSteps 3 ++
    allocates 0x48200000 :: smoothSteps 5 ++
    allocates kernelVaddr :: smoothSteps 66

theorem appMain_publishes_reboot :
    ∃ after, reboot.exec (fun _ => moveCache) smoothBoot = some after ∧
      (after.thread bootThread).reply = some .jumped ∧
      after.shared.contract.stored = handoffMagic ∧
      marks after.shared.log = publishedMarks := by
  have hcheck : (reboot.exec (fun _ => moveCache) smoothBoot).any
      (fun after => decide ((after.thread bootThread).reply = some .jumped ∧
        after.shared.contract.stored = handoffMagic)) = true := by
    decide +kernel
  obtain ⟨after, hexec, hholds⟩ := Option.any_eq_true _ _ |>.mp hcheck
  obtain ⟨hreply, hstored⟩ := of_decide_eq_true hholds
  obtain ⟨-, hpublished, -, hended, -⟩ :=
    appMain_publishes standardDigests ⟨false, false⟩ reboot_powerOn hexec
  exact ⟨after, hexec, hreply, hstored,
    hpublished ((hended .jumped hreply).2 rfl)⟩

end Micronux.ColdBoot
