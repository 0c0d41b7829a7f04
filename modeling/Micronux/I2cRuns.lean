/-
Runs of the I2C layer.  Whatever the threads and the engine do in between,
the bus carries the exchanges that were asked for, one after the other and
never mixed, and a call that succeeds has had its own.
-/
import Micronux.I2cDriver

namespace Micronux.I2c

open Concurrent Protocol

/-- An ended exchange: the one that was asked for, or as far as it came. -/
def Carries (entry : ThreadId × Request) (wire : List WireEvent) : Prop :=
  ∃ answers, wire <+: entry.2.wire answers

/-- The controller is ready for the exchange of a request. -/
structure Loaded (request : Request) (controller : Controller) : Prop where
  accepted : request.accepted = true
  programmed : Programmed controller.command request.commands
  queued : controller.txFifo = request.loads
  empty : controller.rxFifo = []

/-- What holds of the bus at every moment. -/
structure BusInv (bus : Bus) : Prop where
  idle : bus.controller.running = false →
    List.Forall₂ Carries bus.asked bus.wires
  busy : bus.controller.running = true → ∃ earlier t request,
    bus.asked = earlier ++ [(t, request)] ∧
      List.Forall₂ Carries earlier bus.wires ∧ Loaded request bus.controller
  tx : bus.controller.txFifo.length ≤ fifoDepth
  rx : bus.controller.rxFifo.length ≤ fifoDepth

/-- What an action of thread `t` may change.  Without the lock it may only
take it, or let the engine end an exchange. -/
structure BusGuar (t : ThreadId) (before after : Bus) : Prop where
  lock : before.lock ≠ some t → after.lock = before.lock ∨
    (before.lock = none ∧ after.lock = some t)
  spared : before.lock ≠ some t →
    (after.controller = before.controller ∧ after.asked = before.asked ∧
      after.wires = before.wires) ∨
    ∃ input, engineEnds input before = some after
  asked : ∃ more, after.asked = before.asked ++ more ∧
    ∀ entry ∈ more, entry.1 = t
  wires : before.wires <+: after.wires

def busProtocol : Protocol ThreadId Bus where
  inv := BusInv
  guar := BusGuar

variable {t : ThreadId} {request : Request} {before after bus : Bus}
  {input : Input} {α : Type} {controller : Controller}

/-- The command that ends the exchange is a plain stop command. -/
theorem Loaded.stop (hloaded : Loaded request controller) :
    controller.command request.stopCommand = cmd .stop 0 false := by
  apply hloaded.programmed
  cases request with
  | writeBytes address bytes => rfl
  | readReg16 address reg length =>
    by_cases hmany : 1 < length <;>
      simp [Request.stopCommand, Request.commands, hmany]

theorem Loaded.exchange (hloaded : Loaded request controller)
    (answers : Nat → Byte) :
    controller.exchange answers = ⟨request.wire answers,
      answered answers 0 request.wanted, [], some request.stopCommand⟩ := by
  rw [Controller.exchange, hloaded.queued]
  exact runCommands_loaded hloaded.accepted hloaded.programmed

section Engine

/-- What the end of an exchange leaves. -/
structure Ends (request : Request) (before after : Bus) : Prop where
  stopped : after.controller.running = false
  lock : after.lock = before.lock
  asked : after.asked = before.asked
  carried : ∃ answers cut,
    after.wires = before.wires ++ [(request.wire answers).take cut]
  tx : after.controller.txFifo.length ≤ before.controller.txFifo.length
  rx : after.controller.rxFifo.length ≤ fifoDepth
  whole : after.controller.intRaw &&& errorMask = 0 →
    ∃ answers, after.wires = before.wires ++ [request.wire answers] ∧
      after.controller.rxFifo = answered answers 0 request.wanted

theorem BusError.flagged (raw : Word) (error : BusError) :
    (raw ||| error.mask) &&& errorMask ≠ 0 := by
  intro hclear
  rw [BitVec.and_or_distrib_right] at hclear
  have hmask := (BitVec.or_eq_zero_iff.mp hclear).2
  cases error <;> cases hmask

theorem engineEnds_ends (hends : engineEnds input before = some after)
    (hloaded : Loaded request before.controller) :
    before.controller.running = true ∧ Ends request before after := by
  have hwanted := Request.wanted_le hloaded.accepted
  have hexchange := hloaded.exchange input.answers
  unfold engineEnds at hends
  split at hends
  · rename_i hrunning
    refine ⟨hrunning, ?_⟩
    cases herror : input.error with
    | some error =>
      rw [herror] at hends
      cases hends
      refine ⟨rfl, rfl, rfl, ?_, ?_, ?_, ?_⟩
      · exact ⟨input.answers, input.cut, by rw [Bus.fails, hexchange]⟩
      · simp [Bus.fails]
      · simp only [Bus.fails, hexchange, hloaded.empty, List.nil_append]
        exact (List.length_take_le' ..).trans (by simpa using hwanted)
      · intro hclear
        exact absurd hclear (BusError.flagged _ error)
    | none =>
      rw [herror, hexchange] at hends
      cases hends
      refine ⟨rfl, rfl, rfl, ?_, ?_, ?_, ?_⟩
      · exact ⟨input.answers, _, by rw [Bus.completes, List.take_length]⟩
      · exact Nat.zero_le _
      · simpa [Bus.completes, hloaded.empty] using hwanted
      · intro _
        exact ⟨input.answers, rfl, by simp [Bus.completes, hloaded.empty]⟩
  · cases hends

theorem Ends.inv (hends : Ends request before after) {earlier}
    (hasked : before.asked = earlier ++ [(t, request)])
    (hearlier : List.Forall₂ Carries earlier before.wires)
    (htx : before.controller.txFifo.length ≤ fifoDepth) : BusInv after := by
  obtain ⟨answers, cut, hwires⟩ := hends.carried
  have hcarries : Carries (t, request) ((request.wire answers).take cut) :=
    ⟨answers, List.take_prefix ..⟩
  constructor
  · intro _
    rw [hends.asked, hasked, hwires]
    exact List.rel_append hearlier (.cons hcarries .nil)
  · intro hrunning
    exact absurd (hends.stopped.symm.trans hrunning) Bool.false_ne_true
  · exact hends.tx.trans htx
  · exact hends.rx

/-- A running exchange is the one that was asked for last. -/
theorem BusInv.running {earlier : List (ThreadId × Request)}
    (hinv : BusInv bus) (hrunning : bus.controller.running = true)
    (hasked : bus.asked = earlier ++ [(t, request)]) :
    List.Forall₂ Carries earlier bus.wires ∧ Loaded request bus.controller := by
  obtain ⟨others, owner, current, hlast, hcarried, hloaded⟩ :=
    hinv.busy hrunning
  obtain ⟨rfl, hentry⟩ := List.append_inj' (hasked.symm.trans hlast) rfl
  obtain ⟨rfl, rfl⟩ := Prod.mk.inj (List.cons.inj hentry).1
  exact ⟨hcarried, hloaded⟩

/-- The engine may end an exchange at any moment. -/
theorem engineEnds_inv (hinv : BusInv before)
    (hends : engineEnds input before = some after) :
    BusInv after ∧ BusGuar t before after := by
  have hrunning : before.controller.running = true := by
    cases hrunning : before.controller.running with
    | true => rfl
    | false => simp [engineEnds, hrunning] at hends
  obtain ⟨earlier, owner, request, hasked, hcarried, hloaded⟩ :=
    hinv.busy hrunning
  obtain ⟨-, hended⟩ := engineEnds_ends hends hloaded
  refine ⟨hended.inv hasked hcarried hinv.tx, ?_⟩
  constructor
  · exact fun _ => .inl hended.lock
  · exact fun _ => .inr ⟨input, hends⟩
  · exact ⟨[], by simpa using hended.asked, List.forall_mem_nil _⟩
  · obtain ⟨answers, cut, hwires⟩ := hended.carried
    exact hwires ▸ List.prefix_append ..

end Engine

section Holder

def Held (t : ThreadId) (bus : Bus) : Prop :=
  bus.lock = some t

/-- The thread holds the lock of a controller at rest, of which it knows
something. -/
structure Quiet (t : ThreadId) (fact : Controller → Prop) (bus : Bus) :
    Prop where
  held : bus.lock = some t
  rests : bus.controller.running = false
  known : fact bus.controller

/-- What others do behind the back of the holder. -/
theorem behind_holder (hrely : busProtocol.Rely t before after)
    (hheld : before.lock = some t) :
    after.lock = some t ∧
      (after = before ∨ ∃ input, engineEnds input before = some after) := by
  obtain ⟨-, -, other, hother, hguar⟩ := hrely
  have hforeign : before.lock ≠ some other := by
    rw [hheld]
    exact fun hsame => hother (Option.some.inj hsame).symm
  have hlock : after.lock = before.lock := by
    rcases hguar.lock hforeign with hsame | ⟨hnone, -⟩
    · exact hsame
    · exact absurd (hheld.symm.trans hnone) (Option.some_ne_none t)
  refine ⟨hlock.trans hheld, (hguar.spared hforeign).imp_left ?_⟩
  rintro ⟨hcontroller, hasked, hwires⟩
  cases before
  cases after
  subst hcontroller hasked hwires hlock
  rfl

theorem stable_held : busProtocol.Stable t (Held t) :=
  fun _ _ hrely hheld => (behind_holder hrely hheld).1

theorem not_engineEnds (hrests : before.controller.running = false) :
    ¬ ∃ input, engineEnds input before = some after := by
  rintro ⟨input, hends⟩
  simp [engineEnds, hrests] at hends

/-- With the lock and a controller at rest nothing changes. -/
theorem stable_of_rests {fact : Bus → Prop}
    (hheld : ∀ bus, fact bus → bus.lock = some t)
    (hrests : ∀ bus, fact bus → bus.controller.running = false) :
    busProtocol.Stable t fact := by
  intro before after hrely hfact
  obtain ⟨-, rfl | hends⟩ := behind_holder hrely (hheld before hfact)
  · exact hfact
  · exact absurd hends (not_engineEnds (hrests before hfact))

theorem stable_quiet (fact : Controller → Prop) :
    busProtocol.Stable t (Quiet t fact) :=
  stable_of_rests (fun _ => Quiet.held) fun _ => Quiet.rests

theorem BusGuar.refl (bus : Bus) : BusGuar t bus bus :=
  ⟨fun _ => .inl rfl, fun _ => .inl ⟨rfl, rfl, rfl⟩,
    ⟨[], (List.append_nil _).symm, List.forall_mem_nil _⟩, List.prefix_rfl⟩

/-- The holder may change the registers, and end an exchange. -/
theorem BusGuar.of_held (hheld : before.lock = some t)
    (hasked : after.asked = before.asked)
    (hwires : before.wires <+: after.wires) : BusGuar t before after :=
  ⟨fun hforeign => absurd hheld hforeign, fun hforeign => absurd hheld hforeign,
    ⟨[], by simpa using hasked, List.forall_mem_nil _⟩, hwires⟩

theorem BusInv.of_same (hinv : BusInv before)
    (hrunning : after.controller.running = before.controller.running)
    (hcommand : after.controller.command = before.controller.command)
    (htx : after.controller.txFifo = before.controller.txFifo)
    (hrx : after.controller.rxFifo = before.controller.rxFifo)
    (hasked : after.asked = before.asked) (hwires : after.wires = before.wires) :
    BusInv after := by
  constructor
  · rw [hrunning, hasked, hwires]
    exact hinv.idle
  · rw [hrunning, hasked, hwires]
    intro hbusy
    obtain ⟨earlier, owner, request, hlast, hcarried, hloaded⟩ :=
      hinv.busy hbusy
    exact ⟨earlier, owner, request, hlast, hcarried, hloaded.accepted,
      hcommand ▸ hloaded.programmed, htx.trans hloaded.queued,
      hrx.trans hloaded.empty⟩
  · exact htx ▸ hinv.tx
  · exact hrx ▸ hinv.rx

section Store

variable {pre post : Controller → Prop} {change : Controller → Controller}
  (hchange : ∀ controller, pre controller →
    (change controller).running = controller.running ∧ post (change controller))

include hchange

theorem quiet_store (hfifos : ∀ controller, pre controller →
      controller.txFifo.length ≤ fifoDepth →
      controller.rxFifo.length ≤ fifoDepth →
      (change controller).txFifo.length ≤ fifoDepth ∧
        (change controller).rxFifo.length ≤ fifoDepth) :
    busProtocol.Triple t (Quiet t pre) (setController change)
      fun _ => Quiet t post := by
  apply Triple.store (stable_quiet pre) (stable_quiet post)
  intro bus hinv hquiet
  obtain ⟨hrunning, hpost⟩ := hchange bus.controller hquiet.known
  have hrests := hrunning.trans hquiet.rests
  obtain ⟨htx, hrx⟩ := hfifos bus.controller hquiet.known hinv.tx hinv.rx
  refine ⟨⟨fun _ => hinv.idle hquiet.rests, ?_, htx, hrx⟩,
    .of_held hquiet.held rfl List.prefix_rfl, hquiet.held, hrests, hpost⟩
  exact fun hbusy => absurd (hrests.symm.trans hbusy) Bool.false_ne_true

theorem quiet_register
    (htx : ∀ controller, (change controller).txFifo = controller.txFifo)
    (hrx : ∀ controller, (change controller).rxFifo = controller.rxFifo) :
    busProtocol.Triple t (Quiet t pre) (setController change)
      fun _ => Quiet t post := by
  apply quiet_store hchange
  intro controller _ hqueued hreceived
  rw [htx, hrx]
  exact ⟨hqueued, hreceived⟩

end Store

theorem quiet_read {β : Type} {fact : Controller → Prop}
    (view : Controller → β) :
    busProtocol.Triple t (Quiet t fact) (readController view)
      fun _ => Quiet t fact :=
  Triple.load BusGuar.refl (stable_quiet fact)
    (fun _ => stable_quiet fact) fun _ _ => id

theorem held_read {β : Type} (view : Controller → β) :
    busProtocol.Triple t (Held t) (readController view) fun _ => Held t :=
  Triple.load BusGuar.refl stable_held (fun _ => stable_held) fun _ _ => id

end Holder

section Prepare

/-- A bus that does not look busy is at rest. -/
theorem busBusy_triple : busProtocol.Triple t (Held t) busBusy
    fun busy bus => Held t bus ∧
      (busy = false → Quiet t (fun _ => True) bus) := by
  apply Triple.atomic stable_held fun _ =>
    stable_held.and (stable_quiet _).imp
  intro input before after busy hinv hheld hrun
  cases hrun
  refine ⟨hinv, .refl before, hheld, ?_⟩
  intro hbusy
  exact ⟨hheld, (Bool.or_eq_false_iff.mp hbusy).1, trivial⟩

theorem resetFsm_triple (ctr : Word) :
    busProtocol.Triple t (Held t) (resetFsm ctr) fun _ => Held t := by
  apply Triple.atomic stable_held fun _ => stable_held
  intro input before after result hinv hheld hrun
  cases hrun
  split
  · rename_i haborted
    obtain ⟨hrunning, -⟩ := Bool.and_eq_true_iff.mp haborted
    obtain ⟨earlier, owner, request, hasked, hcarried, hloaded⟩ :=
      hinv.busy hrunning
    refine ⟨⟨?_, fun hbusy => absurd hbusy Bool.false_ne_true, hinv.tx,
      hinv.rx⟩, .of_held hheld rfl (List.prefix_append ..), hheld⟩
    intro _
    rw [hloaded.exchange, hasked]
    exact List.rel_append hcarried
      (.cons ⟨input.answers, List.take_prefix ..⟩ .nil)
  · exact ⟨hinv.of_same rfl rfl rfl rfl rfl rfl,
      .of_held hheld rfl List.prefix_rfl, hheld⟩

def Queued (bytes : List Byte) (controller : Controller) : Prop :=
  controller.txFifo = bytes ∧ controller.rxFifo = [] ∧ controller.intRaw = 0

/-- Nothing is queued. -/
abbrev Cleared : Controller → Prop := Queued []

theorem fifoReset_flagged (fifo : Word) :
    (fifo ||| fifoReset) &&& 0x2000#32 ≠ 0 ∧
      (fifo ||| fifoReset) &&& 0x1000#32 ≠ 0 := by
  constructor <;> intro hclear <;>
    rw [BitVec.and_or_distrib_right] at hclear <;>
    exact absurd (BitVec.or_eq_zero_iff.mp hclear).2 (by decide)

theorem clearFifos_triple :
    busProtocol.Triple t (Quiet t fun _ => True) clearFifos
      fun _ => Quiet t Cleared := by
  have hmasked : busProtocol.Triple t (Quiet t fun _ => True)
      (setController fun controller => { controller with intEna := 0 })
      fun _ => Quiet t fun _ => True :=
    quiet_register (fun _ _ => ⟨rfl, trivial⟩) (fun _ => rfl) fun _ => rfl
  have hcleared : busProtocol.Triple t (Quiet t fun _ => True)
      (setController fun controller => { controller with intRaw := 0 })
      fun _ => Quiet t fun controller => controller.intRaw = 0 :=
    quiet_register (fun _ _ => ⟨rfl, rfl⟩) (fun _ => rfl) fun _ => rfl
  apply hmasked.bind
  intro _
  apply hcleared.bind
  intro _
  apply (quiet_read _).bind
  intro fifo
  obtain ⟨htx, hrx⟩ := fifoReset_flagged fifo
  have hreset : busProtocol.Triple t
      (Quiet t fun controller => controller.intRaw = 0)
      (writeFifoConf (fifo ||| fifoReset)) fun _ => Quiet t Cleared := by
    apply quiet_store
    · intro controller hraw
      exact ⟨rfl, if_neg htx, if_neg hrx, hraw⟩
    · intro controller _ _ _
      simp only [if_neg htx, if_neg hrx]
      exact ⟨Nat.zero_le _, Nat.zero_le _⟩
  apply hreset.bind
  intro _
  apply quiet_store
  · rintro controller ⟨hqueued, hreceived, hraw⟩
    simp [Queued, hqueued, hreceived, hraw]
  · rintro controller ⟨hqueued, hreceived, -⟩ _ _
    simp [hqueued, hreceived]

def Ready (t : ThreadId) (result : Except Errno Unit) (bus : Bus) : Prop :=
  Held t bus ∧ (result = .ok () → Quiet t Cleared bus)

theorem stable_ready (result : Except Errno Unit) :
    busProtocol.Stable t (Ready t result) :=
  stable_held.and (stable_quiet Cleared).imp

theorem ready_error (errno : Errno) : busProtocol.Triple t (Held t)
      (.ret (.error errno) : I2cProg (Except Errno Unit)) (Ready t) :=
  Triple.ret (stable_ready _) fun _ _ hheld => ⟨hheld, nofun⟩

theorem ready_cleared : busProtocol.Triple t (Quiet t fun _ => True)
      (clearFifos.bind fun _ => .ret (.ok ())) (Ready t) := by
  apply clearFifos_triple.bind
  intro _
  exact Triple.ret (stable_ready _) fun _ _ hquiet =>
    ⟨hquiet.held, fun _ => hquiet⟩

theorem prepareLocked_triple :
    busProtocol.Triple t (Held t) prepareLocked (Ready t) := by
  apply (held_read _).bind
  intro ctr
  split
  · exact ready_error .eio
  · apply busBusy_triple.bind
    intro busy
    cases busy with
    | false =>
      exact ready_cleared.mono (fun _ _ hpre => hpre.2 rfl) fun _ _ => id
    | true =>
      apply Triple.mono _ (fun _ _ hpre => hpre.1) fun _ _ => id
      apply (held_read _).bind
      intro current
      apply (resetFsm_triple current).bind
      intro _
      apply busBusy_triple.bind
      intro still
      cases still with
      | false =>
        exact ready_cleared.mono (fun _ _ hpre => hpre.2 rfl) fun _ _ => id
      | true =>
        exact (ready_error .ebusy).mono (fun _ _ hpre => hpre.1)
          fun _ _ => id

end Prepare

section Load

/-- The bytes pushed so far are queued behind nothing else. -/
theorem pushData_triple (haccepted : request.accepted = true) :
    busProtocol.Triple t (Quiet t Cleared) (Prog.forEach pushData request.loads)
      fun _ => Quiet t (Queued request.loads) := by
  apply Triple.forEach (fun pushed => Quiet t (Queued pushed)) (stable_quiet _)
  intro pushed byte rest hsplit
  have hfits : (pushed ++ [byte]).length ≤ fifoDepth := by
    have hall := Request.length_loads_le haccepted
    rw [hsplit] at hall
    simp only [List.length_append, List.length_cons, List.length_nil] at hall ⊢
    omega
  apply quiet_store
  · rintro controller ⟨rfl, hreceived, hraw⟩
    exact ⟨rfl, rfl, hreceived, hraw⟩
  · rintro controller ⟨rfl, -, -⟩ _ hrx
    exact ⟨hfits, hrx⟩

/-- No command register is written twice. -/
theorem zipIdx_fresh {words : List Word} {written rest : List (Word × Nat)}
    {entry : Word × Nat} (hsplit : words.zipIdx = written ++ entry :: rest)
    {other : Word × Nat} (hother : other ∈ written) : other.2 ≠ entry.2 := by
  have hindices : (words.zipIdx.map Prod.snd).Nodup := by
    rw [List.zipIdx_map_snd]
    exact List.nodup_range' ..
  rw [hsplit, List.map_append, List.map_cons] at hindices
  have hapart := (List.nodup_append.mp hindices).2.2
  exact hapart _ (List.mem_map_of_mem hother) _ List.mem_cons_self

def Armed (request : Request) (controller : Controller) : Prop :=
  Loaded request controller ∧ controller.intRaw = 0

theorem writeCommand_triple (haccepted : request.accepted = true) :
    busProtocol.Triple t (Quiet t (Queued request.loads))
      (Prog.forEach writeCommand request.commands.zipIdx)
      fun _ => Quiet t (Armed request) := by
  let progress (written : List (Word × Nat)) := Quiet t fun controller =>
    (∀ entry ∈ written, controller.command entry.2 = entry.1) ∧
      Queued request.loads controller
  have hloop : busProtocol.Triple t (progress [])
      (Prog.forEach writeCommand request.commands.zipIdx)
      fun _ => progress request.commands.zipIdx := by
    apply Triple.forEach progress (stable_quiet _)
    intro written entry rest hsplit
    refine quiet_register ?_ (fun _ => rfl) fun _ => rfl
    rintro controller ⟨hwritten, hloaded⟩
    refine ⟨rfl, ?_, hloaded⟩
    intro other hother
    rcases List.mem_append.mp hother with hearlier | hlast
    · exact (Function.update_of_ne (zipIdx_fresh hsplit hearlier) ..).trans
        (hwritten other hearlier)
    · obtain rfl := List.mem_singleton.mp hlast
      exact Function.update_self ..
  apply hloop.mono
  · intro bus _ hquiet
    exact ⟨hquiet.held, hquiet.rests, List.forall_mem_nil _, hquiet.known⟩
  · rintro _ bus ⟨hheld, hrests, hwritten, hqueued, hempty, hraw⟩
    refine ⟨hheld, hrests, ⟨haccepted, ?_, hqueued, hempty⟩, hraw⟩
    intro index word hword
    exact hwritten (word, index) (List.mk_mem_zipIdx_iff_getElem?.mpr hword)

end Load

variable {rest whole : List Byte}

section Start

/-- The last exchange on the wires is the whole one of a request, with these
bytes. -/
def Whole (request : Request) (bytes : List Byte) (bus : Bus) : Prop :=
  ∃ init answers, bus.wires = init ++ [request.wire answers] ∧
    bytes = answered answers 0 request.wanted

/-- The thread asked for the last exchange, which is running or has ended. -/
structure Started (t : ThreadId) (request : Request) (bus : Bus) : Prop where
  held : bus.lock = some t
  last : ∃ earlier, bus.asked = earlier ++ [(t, request)]
  ended : bus.controller.running = false →
    bus.controller.intRaw &&& errorMask = 0 →
      Whole request bus.controller.rxFifo bus

/-- That exchange has ended. -/
structure Over (t : ThreadId) (request : Request) (bus : Bus) : Prop
    extends Started t request bus where
  rests : bus.controller.running = false

theorem stable_started : busProtocol.Stable t (Started t request) := by
  intro before after hrely hstarted
  obtain ⟨earlier, hasked⟩ := hstarted.last
  obtain ⟨hlock, rfl | ⟨input, hends⟩⟩ := behind_holder hrely hstarted.held
  · exact hstarted
  · have hrunning : before.controller.running = true := by
      by_contra hrests
      exact not_engineEnds (Bool.eq_false_iff.mpr hrests) ⟨input, hends⟩
    obtain ⟨-, hloaded⟩ := BusInv.running hrely.1 hrunning hasked
    obtain ⟨-, hended⟩ := engineEnds_ends hends hloaded
    refine ⟨hlock, ⟨earlier, hended.asked.trans hasked⟩, ?_⟩
    intro _ hclear
    obtain ⟨answers, hlast, hreceived⟩ := hended.whole hclear
    exact ⟨before.wires, answers, hlast, hreceived⟩

theorem stable_over : busProtocol.Stable t (Over t request) :=
  stable_of_rests (fun _ hover => hover.held) fun _ => Over.rests

theorem startExchange_triple (ctr : Word) :
    busProtocol.Triple t (Quiet t (Armed request))
      (startExchange t request ctr) fun _ => Started t request := by
  apply Triple.store (stable_quiet _) stable_started
  rintro bus hinv ⟨hheld, hrests, hloaded, -⟩
  have hcarried := hinv.idle hrests
  refine ⟨⟨nofun, ?_, hinv.tx, hinv.rx⟩, ⟨?_, ?_, ?_, List.prefix_rfl⟩,
    hheld, ⟨bus.asked, rfl⟩, nofun⟩
  · intro _
    exact ⟨bus.asked, t, request, rfl, hcarried, hloaded.accepted,
      hloaded.programmed, hloaded.queued, hloaded.empty⟩
  · exact fun hforeign => absurd hheld hforeign
  · exact fun hforeign => absurd hheld hforeign
  · refine ⟨[(t, request)], rfl, ?_⟩
    rintro entry hentry
    rw [List.mem_singleton.mp hentry]

/-- A stop command that is seen done has ended the exchange. -/
theorem pollDone_triple :
    busProtocol.Triple t (Started t request) (pollDone request.stopCommand)
      fun done bus => Held t bus ∧ (done = true → Over t request bus) := by
  apply Triple.atomic stable_started fun _ =>
    stable_held.and stable_over.imp
  intro input before after done hinv hstarted hrun
  split at hrun
  · split at hrun
    · cases hrun
    · cases hrun
      exact ⟨hinv, .refl before, hstarted.held, nofun⟩
  · rename_i hdone
    cases hrun
    refine ⟨hinv, .refl before, hstarted.held, fun _ => ⟨hstarted, ?_⟩⟩
    rw [← Bool.not_eq_true]
    intro hrunning
    obtain ⟨earlier, hasked⟩ := hstarted.last
    obtain ⟨-, hloaded⟩ := hinv.running hrunning hasked
    rw [hloaded.stop] at hdone
    exact absurd (by decide) hdone

/-- The exchange has ended whole; of its bytes the FIFO still holds some. -/
structure Finished (t : ThreadId) (request : Request) (whole rest : List Byte)
    (bus : Bus) : Prop where
  held : bus.lock = some t
  rests : bus.controller.running = false
  last : ∃ earlier, bus.asked = earlier ++ [(t, request)]
  carried : Whole request whole bus
  fifo : bus.controller.rxFifo = rest

theorem stable_finished :
    busProtocol.Stable t (Finished t request whole rest) :=
  stable_of_rests (fun _ => Finished.held) fun _ => Finished.rests

theorem Over.finished (hover : Over t request bus)
    (hclear : bus.controller.intRaw &&& errorMask = 0) :
    ∃ whole, Finished t request whole whole bus :=
  ⟨_, hover.held, hover.rests, hover.last, hover.ended hover.rests hclear, rfl⟩

/-- What a start has left behind. -/
def Outcome (t : ThreadId) (request : Request) (success : Prop) (bus : Bus) :
    Prop :=
  Held t bus ∧ (success → ∃ whole, Finished t request whole whole bus)

theorem stable_outcome (success : Prop) :
    busProtocol.Stable t (Outcome t request success) :=
  stable_held.and (Stable.exists fun _ => stable_finished).imp

theorem readRaw_triple (done : Bool) : busProtocol.Triple t
      (fun bus => Held t bus ∧ (done = true → Over t request bus))
      (readController Controller.intRaw) fun raw => Outcome t request
        (done = true ∧ raw &&& errorMask = 0) := by
  apply Triple.load BusGuar.refl (stable_held.and stable_over.imp)
    fun _ => stable_outcome _
  intro bus _ hpre
  exact ⟨hpre.1, fun hsuccess => (hpre.2 hsuccess.1).finished hsuccess.2⟩

theorem clearRaw_triple (raw : Word) (success : Prop) :
    busProtocol.Triple t (Outcome t request success)
      (setController fun controller =>
        { controller with intRaw := controller.intRaw &&& ~~~raw })
      fun _ => Outcome t request success := by
  apply Triple.store (stable_outcome _) (stable_outcome _)
  rintro bus hinv ⟨hheld, hfinished⟩
  refine ⟨hinv.of_same rfl rfl rfl rfl rfl rfl,
    .of_held hheld rfl List.prefix_rfl, hheld, ?_⟩
  intro hsuccess
  obtain ⟨whole, hdone⟩ := hfinished hsuccess
  exact ⟨whole, { hdone with }⟩

theorem startLocked_triple :
    busProtocol.Triple t (Quiet t (Armed request)) (startLocked t request)
      fun result => Outcome t request (result = .ok ()) := by
  have hfail (errno : Errno) {success : Prop} :
      busProtocol.Triple t (Outcome t request success)
        (.ret (.error errno) : I2cProg (Except Errno Unit))
        fun result => Outcome t request (result = .ok ()) :=
    Triple.ret (stable_outcome _) fun _ _ hpre => ⟨hpre.1, nofun⟩
  have hlatch (ctr : Word) : busProtocol.Triple t (Quiet t (Armed request))
      (setController fun controller => { controller with ctr := ctr })
      fun _ => Quiet t (Armed request) := by
    refine quiet_register ?_ (fun _ => rfl) fun _ => rfl
    rintro controller ⟨hloaded, hraw⟩
    exact ⟨rfl, ⟨hloaded.accepted, hloaded.programmed, hloaded.queued,
      hloaded.empty⟩, hraw⟩
  apply (quiet_read _).bind
  intro ctr
  apply (hlatch ctr).bind
  intro _
  apply (startExchange_triple ctr).bind
  intro _
  apply pollDone_triple.bind
  intro done
  apply (readRaw_triple done).bind
  intro raw
  apply (clearRaw_triple raw _).bind
  intro _
  cases done with
  | false => exact hfail .etimedout
  | true =>
    by_cases hclear : raw &&& errorMask = 0
    · rw [if_pos rfl, if_pos hclear]
      exact Triple.ret (stable_outcome _) fun _ _ hpre =>
        ⟨hpre.1, fun _ => hpre.2 ⟨rfl, hclear⟩⟩
    · rw [if_pos rfl, if_neg hclear]
      exact hfail .eio

end Start

section Calls

theorem popData_triple {byte : Byte} :
    busProtocol.Triple t (Finished t request whole (byte :: rest)) popData
      fun value bus => Finished t request whole rest bus ∧ value = byte := by
  apply Triple.critical stable_finished fun _ =>
    stable_finished.and (.const _)
  intro bus hinv hfinished
  have hshorter : bus.controller.rxFifo.tail.length ≤ fifoDepth :=
    (by simp : bus.controller.rxFifo.tail.length ≤ _).trans hinv.rx
  refine ⟨⟨fun _ => hinv.idle hfinished.rests, ?_, hinv.tx, hshorter⟩,
    .of_held hfinished.held rfl List.prefix_rfl,
    ⟨hfinished.held, hfinished.rests, hfinished.last, hfinished.carried, ?_⟩,
    ?_⟩
  · exact fun hbusy => absurd (hfinished.rests.symm.trans hbusy)
      Bool.false_ne_true
  · simp [hfinished.fifo]
  · simp [hfinished.fifo]

theorem popBytes_triple (rest : List Byte) :
    busProtocol.Triple t (Finished t request whole rest)
      (popBytes rest.length) fun bytes bus =>
        Finished t request whole [] bus ∧ bytes = rest := by
  induction rest with
  | nil =>
    exact Triple.ret (stable_finished.and (.const _))
      fun _ _ hfinished => ⟨hfinished, rfl⟩
  | cons byte rest ih =>
    apply popData_triple.bind
    intro value
    apply Triple.assume
    rintro rfl
    apply ih.bind
    intro bytes
    apply Triple.assume
    rintro rfl
    exact Triple.ret (stable_finished.and (.const _))
      fun _ _ hfinished => ⟨hfinished, rfl⟩

/-- What a transfer leaves before the lock is given back. -/
def Transferred (t : ThreadId) (request : Request)
    (result : Except Errno (List Byte)) (bus : Bus) : Prop :=
  Held t bus ∧ ∀ bytes, result = .ok bytes → Finished t request bytes [] bus

theorem stable_transferred (result : Except Errno (List Byte)) :
    busProtocol.Stable t (Transferred t request result) := by
  intro before after hrely hdone
  exact ⟨stable_held hrely hdone.1, fun bytes hresult =>
    stable_finished hrely (hdone.2 bytes hresult)⟩

theorem Finished.length_whole (hfinished : Finished t request whole rest bus) :
    whole.length = request.wanted := by
  obtain ⟨init, answers, -, rfl⟩ := hfinished.carried
  exact length_answered answers 0 request.wanted

theorem transferLocked_triple (haccepted : request.accepted = true) :
    busProtocol.Triple t (Held t) (transferLocked t request)
      (Transferred t request) := by
  have hfail (errno : Errno) {pre : Bus → Prop}
      (hheld : ∀ bus, pre bus → Held t bus) :
      busProtocol.Triple t pre
        (.ret (.error errno) : I2cProg (Except Errno (List Byte)))
        (Transferred t request) :=
    Triple.ret (stable_transferred _) fun bus _ hpre =>
      ⟨hheld bus hpre, nofun⟩
  apply prepareLocked_triple.bind
  intro prepared
  cases prepared with
  | error errno => exact hfail errno fun _ hpre => hpre.1
  | ok =>
    apply Triple.mono _ (fun _ _ hpre => hpre.2 rfl) fun _ _ => id
    apply (pushData_triple haccepted).bind
    intro _
    apply (writeCommand_triple haccepted).bind
    intro _
    apply startLocked_triple.bind
    intro started
    cases started with
    | error errno => exact hfail errno fun _ hpre => hpre.1
    | ok =>
      intro bus hinv hpre
      obtain ⟨whole, hfinished⟩ := hpre.2 rfl
      have hpop : busProtocol.Triple t (Finished t request whole whole)
          (popBytes whole.length) fun bytes bus =>
            Finished t request whole [] bus ∧ bytes = whole :=
        popBytes_triple whole
      rw [hfinished.length_whole] at hpop
      refine hpop.bind (fun bytes => ?_) bus hinv hfinished
      apply Triple.ret (stable_transferred _)
      rintro after _ ⟨hafter, rfl⟩
      refine ⟨hafter.held, ?_⟩
      rintro result ⟨⟩
      exact hafter

/-- A call that succeeded has had the last exchange of its thread, whole and
with the bytes it returned. -/
def Answered (t : ThreadId) (request : Request) (bytes : List Byte)
    (bus : Bus) : Prop :=
  ∃ (index : Nat) (answers : Nat → Byte),
    bus.asked[index]? = some (t, request) ∧
    (∀ later (entry : ThreadId × Request), index < later →
      bus.asked[later]? = some entry → entry.1 ≠ t) ∧
    bus.wires[index]? = some (request.wire answers) ∧
    bytes = answered answers 0 request.wanted

variable {bytes : List Byte}

theorem stable_answered : busProtocol.Stable t (Answered t request bytes) := by
  rintro before after ⟨-, -, other, hother, hguar⟩
    ⟨index, answers, hasked, hlast, hwire, hbytes⟩
  obtain ⟨more, hmore, howner⟩ := hguar.asked
  obtain ⟨tail, htail⟩ := hguar.wires
  refine ⟨index, answers, ?_, ?_, ?_, hbytes⟩
  · rw [hmore]
    exact (List.getElem?_append_left
      (List.getElem?_eq_some_iff.mp hasked).1).trans hasked
  · intro later entry hlater hentry
    rw [hmore, List.getElem?_append] at hentry
    split at hentry
    · exact hlast later entry hlater hentry
    · rw [howner entry (List.mem_of_getElem? hentry)]
      exact hother
  · rw [← htail]
    exact (List.getElem?_append_left
      (List.getElem?_eq_some_iff.mp hwire).1).trans hwire

theorem Finished.answered (hinv : BusInv bus)
    (hfinished : Finished t request bytes [] bus) :
    Answered t request bytes bus := by
  obtain ⟨earlier, hasked⟩ := hfinished.last
  obtain ⟨init, answers, hwires, hbytes⟩ := hfinished.carried
  have hlength := (hinv.idle hfinished.rests).length_eq
  rw [hasked, hwires, List.length_append, List.length_append] at hlength
  have hinit : earlier.length = init.length := by simpa using hlength
  refine ⟨earlier.length, answers, ?_, ?_, ?_, hbytes⟩
  · simp [hasked]
  · intro later entry hlater hentry
    have hinside := (List.getElem?_eq_some_iff.mp hentry).1
    rw [hasked, List.length_append, List.length_singleton] at hinside
    omega
  · simp [hwires, hinit]

def Replied (t : ThreadId) (request : Request)
    (result : Except Errno (List Byte)) (bus : Bus) : Prop :=
  ∀ bytes, result = .ok bytes → Answered t request bytes bus

theorem stable_replied (result : Except Errno (List Byte)) :
    busProtocol.Stable t (Replied t request result) :=
  fun _ _ hrely hreplied bytes hresult =>
    stable_answered hrely (hreplied bytes hresult)

theorem lockBus_triple :
    busProtocol.Triple t (fun _ => True) (lockBus t) fun _ => Held t := by
  apply Triple.await (.const True) stable_held
  intro bus hinv _ hfree
  refine ⟨hinv.of_same rfl rfl rfl rfl rfl rfl, ⟨?_, ?_, ?_, ?_⟩, rfl⟩
  · exact fun _ => .inr ⟨Option.isNone_iff_eq_none.mp hfree, rfl⟩
  · exact fun _ => .inl ⟨rfl, rfl, rfl⟩
  · exact ⟨[], (List.append_nil _).symm, List.forall_mem_nil _⟩
  · exact List.prefix_rfl

theorem unlockBus_triple (result : Except Errno (List Byte)) :
    busProtocol.Triple t (Transferred t request result) unlockBus
      fun _ => Replied t request result := by
  apply Triple.store (stable_transferred result) (stable_replied result)
  intro bus hinv htransferred
  refine ⟨hinv.of_same rfl rfl rfl rfl rfl rfl,
    .of_held htransferred.1 rfl List.prefix_rfl, ?_⟩
  intro bytes hresult
  have hanswered := Finished.answered hinv (htransferred.2 bytes hresult)
  exact hanswered

theorem transfer_triple :
    busProtocol.Triple t (fun _ => True) (transfer t request)
      (Replied t request) := by
  unfold transfer
  split
  · rename_i haccepted
    apply lockBus_triple.bind
    intro _
    apply (transferLocked_triple haccepted).bind
    intro result
    apply (unlockBus_triple result).bind
    intro _
    exact Triple.ret (stable_replied result) fun _ _ => id
  · exact Triple.ret (stable_replied _) fun _ _ _ => nofun

end Calls

section Runs

/-- What may happen on the bus: a call of the layer, or an end of an exchange
by the engine. -/
inductive BusCall where
  | transfer (request : Request)
  | engine

/-- A call of the layer returns with its request. -/
abbrev BusReply := Option (Request × Except Errno (List Byte))

def busCode (t : ThreadId) : BusCall → I2cProg BusReply
  | .transfer request => do
    let result ← transfer t request
    pure (some (request, result))
  | .engine => do
    engine
    pure none

/-- The controller as the driver finds it: at rest, whatever else the loader
has left in its registers. -/
structure Rested extends Controller where
  rests : toController.running = false
  tx : toController.txFifo.length ≤ fifoDepth
  rx : toController.rxFifo.length ≤ fifoDepth

def startBus (rested : Rested) : Config Bus Input ThreadId BusReply where
  shared := ⟨rested.toController, none, [], []⟩
  thread := fun _ => .ret none

def BusRun (rested : Rested) (labels : List (Label ThreadId BusCall Input))
    (config : Config Bus Input ThreadId BusReply) : Prop :=
  (startBus rested).exec busCode labels = some config

def CallDone (t : ThreadId) : BusReply → Bus → Prop
  | none, _ => True
  | some (request, result), bus => Replied t request result bus

theorem stable_callDone (reply : BusReply) :
    busProtocol.Stable t (CallDone t reply) := by
  rcases reply with _ | ⟨request, result⟩
  · exact .const True
  · exact stable_replied result

theorem engine_triple :
    busProtocol.Triple t (fun _ => True) engine fun _ _ => True := by
  apply Triple.atomic (.const True) fun _ => .const True
  intro input before after result hinv _ hrun
  obtain ⟨ended, hends, hsame⟩ := Option.map_eq_some_iff.mp hrun
  cases hsame
  obtain ⟨hafter, hguar⟩ := engineEnds_inv hinv hends
  exact ⟨hafter, hguar, trivial⟩

theorem busCode_correct :
    busProtocol.Correct CallDone (fun _ _ => True) busCode := by
  intro t call _
  apply Triple.mono _ (fun _ _ _ => trivial) fun _ _ => id
  cases call with
  | transfer request =>
    apply transfer_triple.bind
    intro result
    exact Triple.ret (stable_callDone _) fun _ _ => id
  | engine =>
    apply engine_triple.bind
    intro _
    exact Triple.ret (.const True) fun _ _ => id

variable {rested : Rested} {labels : List (Label ThreadId BusCall Input)}
  {config : Config Bus Input ThreadId BusReply}

theorem BusRun.good (hrun : BusRun rested labels config) :
    busProtocol.Good CallDone config := by
  have hstart : busProtocol.Good CallDone (startBus rested) := by
    apply Good.start
    · exact ⟨fun _ => .nil, fun hbusy => absurd
        (rested.rests.symm.trans hbusy) Bool.false_ne_true, rested.tx,
        rested.rx⟩
    · exact fun t => ⟨none, rfl, .const True, trivial⟩
  exact (hstart.exec busCode_correct (allowed_always labels) hrun).1

/-- The exchanges that have ended are the ones that were asked for, in that
order; at most one is still running. -/
def InTurn (bus : Bus) : Prop :=
  ∃ ended pending, bus.asked = ended ++ pending ∧ pending.length ≤ 1 ∧
    List.Forall₂ Carries ended bus.wires

theorem BusInv.inTurn (hinv : BusInv bus) : InTurn bus := by
  cases hrunning : bus.controller.running with
  | false =>
    exact ⟨bus.asked, [], (List.append_nil _).symm, Nat.zero_le 1,
      hinv.idle hrunning⟩
  | true =>
    obtain ⟨earlier, t, request, hasked, hcarried, -⟩ := hinv.busy hrunning
    exact ⟨earlier, [(t, request)], hasked, Nat.le_refl 1, hcarried⟩

/-- However the accesses of any number of callers, the ends of the exchanges
and their failures interleave, the bus carries one requested exchange after
the other, cut short at most; no FIFO is ever overfilled; and a call that
returns bytes has had its own exchange, whole, with these bytes. -/
theorem busRun_exchanges (hrun : BusRun rested labels config) :
    InTurn config.shared ∧ config.shared.controller.txFifo.length ≤ fifoDepth ∧
      config.shared.controller.rxFifo.length ≤ fifoDepth ∧
      ∀ t request bytes, config.thread t = .ret (some (request, .ok bytes)) →
        Answered t request bytes config.shared := by
  have hgood := hrun.good
  refine ⟨BusInv.inTurn hgood.inv, hgood.inv.tx, hgood.inv.rx, ?_⟩
  intro t request bytes hthread
  exact hgood.idle hthread bytes rfl

def blankController : Rested where
  ctr := msMode
  fifoConf := 0#32
  intEna := 0#32
  intRaw := 0#32
  txFifo := []
  rxFifo := []
  command := fun _ => 0#32
  running := false
  rests := rfl
  tx := Nat.zero_le fifoDepth
  rx := Nat.zero_le fifoDepth

/-- One thread reads the status of the touch controller while another waits
to write the brightness; the read ends well, the write with a NACK. -/
def sharedSchedule : List (Label ThreadId BusCall Input) :=
  .call 0 (.transfer (.readReg16 0x5d#8 0x814e#16 1)) ::
  .call 1 (.transfer (writeReg8 0x45#8 0x96#8 63#8)) ::
  List.replicate 21 (.step 0 {}) ++
  [.call 2 .engine, .step 2 { answers := fun _ => 0x81#8 }] ++
  List.replicate 5 (.step 0 {}) ++ List.replicate 17 (.step 1 {}) ++
  [.call 2 .engine, .step 2 { error := some .nack, cut := 2 }] ++
  List.replicate 4 (.step 1 { ok := false })

def sharedWires : List (List WireEvent) :=
  [[.start, .sent 0xba#8, .sent 0x81#8, .sent 0x4e#8, .start, .sent 0xbb#8,
      .received 0x81#8 true, .stop],
    [.start, .sent 0x8a#8]]

theorem sharedSchedule_exchanges :
    ∃ config, BusRun blankController sharedSchedule config ∧
      config.shared.wires = sharedWires ∧
      (config.thread 1).reply =
        some (some (writeReg8 0x45#8 0x96#8 63#8, .error .etimedout)) ∧
      InTurn config.shared ∧
      Answered 0 (.readReg16 0x5d#8 0x814e#16 1) [0x81#8] config.shared := by
  have hcheck : ((startBus blankController).exec busCode sharedSchedule).any
      (fun config => decide (config.shared.wires = sharedWires ∧
        (config.thread 1).reply =
          some (some (writeReg8 0x45#8 0x96#8 63#8, .error .etimedout)) ∧
        (config.thread 0).reply =
          some (some (.readReg16 0x5d#8 0x814e#16 1, .ok [0x81#8])))) =
        true := by
    decide +kernel
  obtain ⟨config, hrun, hholds⟩ := Option.any_eq_true _ _ |>.mp hcheck
  obtain ⟨hwires, hfailed, hreply⟩ := of_decide_eq_true hholds
  obtain ⟨hturn, -, -, hanswered⟩ := busRun_exchanges hrun
  exact ⟨config, hrun, hwires, hfailed, hturn,
    hanswered 0 _ _ (Prog.eq_ret_of_reply hreply)⟩

end Runs

end Micronux.I2c
