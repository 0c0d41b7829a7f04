/-
What a round of the device service adds to the history of one connection: the
turn of the slot that holds it, and nothing else.
-/
import Micronux.DeviceServiceRuns

namespace Micronux

/-- A packet received in a round starts a wait. -/
structure StartsWait (input : ServiceInput) (slot : ClientSlot) (uid : Uid)
    (packet : List Byte) (start : Int) : Prop where
  received : input.recv slot = .packet packet
  waits : directStatus uid packet (currentDevices (input.seen slot))
    (input.clock slot) = none
  start : start = clockMs (input.clock slot)

def waitHistory (uid : Uid) (packet : List Byte) (start : Int) :
    List ConnectionEvent :=
  [.waits start, .received packet true, .accepted uid]

variable {packet : List Byte}

namespace Service

variable {inputs : List ServiceInput} {connection : Connection}
  {service : Service} {slot : ClientSlot} {input : ServiceInput}

theorem handle_other {other : ClientSlot} (hother : other ≠ slot)
    (handled : Handled) :
    (service.handle slot handled).clients other = service.clients other := by
  unfold handle
  split
  · rfl
  · exact Function.update_of_ne hother _ _

theorem history_handle_other (handled : Handled)
    (hfd : (service.clients slot).fd ≠ some connection) :
    (service.handle slot handled).history connection =
      service.history connection := by
  cases hslot : (service.clients slot).fd with
  | none => rw [handle_free hslot]
  | some held =>
    rw [history_handle hslot, if_neg]
    rintro rfl
    exact hfd hslot

section Loop

variable {body : ClientSlot → ServiceClient → Handled} {slots : List ClientSlot}

def forSlots (service : Service) (body : ClientSlot → ServiceClient → Handled)
    (slots : List ClientSlot) : Service :=
  slots.foldl (fun service slot =>
    service.handle slot (body slot (service.clients slot))) service

theorem forSlots_clients (hslot : slot ∉ slots) :
    (service.forSlots body slots).clients slot = service.clients slot := by
  induction slots generalizing service with
  | nil => rfl
  | cons first rest ih =>
    have hfirst : slot ≠ first := List.ne_of_not_mem_cons hslot
    have hrest : slot ∉ rest := List.not_mem_of_not_mem_cons hslot
    exact (ih hrest).trans (handle_other hfirst _)

theorem forSlots_history (hnodup : slots.Nodup)
    (hslots : ∀ other ∈ slots, (service.clients other).fd ≠ some connection) :
    (service.forSlots body slots).history connection =
      service.history connection := by
  induction slots generalizing service with
  | nil => rfl
  | cons first rest ih =>
    obtain ⟨hfirst, hrest⟩ := List.nodup_cons.mp hnodup
    refine (ih hrest fun other hother => ?_).trans
      (history_handle_other _ (hslots first List.mem_cons_self))
    -- the turn of the first slot leaves the others as they were
    have hne : other ≠ first := fun heq => hfirst (heq ▸ hother)
    rw [handle_other hne]
    exact hslots other (List.mem_cons_of_mem first hother)

theorem forSlots_append (before after : List ClientSlot) :
    service.forSlots body (before ++ after) =
      (service.forSlots body before).forSlots body after :=
  List.foldl_append

/-- A loop over the clients does to a connection what its body does to the
slot that holds the connection. -/
theorem forClients_slot
    (hapart : ∀ other, (service.clients other).fd = some connection →
      other = slot)
    (hfd : (service.clients slot).fd = some connection) :
    (service.forClients body).clients slot =
        (body slot (service.clients slot)).1 ∧
      (service.forClients body).history connection =
        (body slot (service.clients slot)).2 ++ service.history connection := by
  obtain ⟨before, after, hslots⟩ :=
    List.append_of_mem (List.mem_finRange slot)
  have hnodup : (before ++ slot :: after).Nodup :=
    hslots ▸ List.nodup_finRange clientLimit
  obtain ⟨hbefore, hrest, hdisjoint⟩ := List.nodup_append.mp hnodup
  obtain ⟨hslot, hafter⟩ := List.nodup_cons.mp hrest
  have hslot' : slot ∉ before := fun hmem =>
    hdisjoint slot hmem slot List.mem_cons_self rfl
  have hforeign : ∀ other, other ≠ slot →
      (service.clients other).fd ≠ some connection := fun other hne hother =>
    hne (hapart other hother)
  -- the slots before keep the client, and their connections are others
  let reached := service.forSlots body before
  have hclient : reached.clients slot = service.clients slot :=
    forSlots_clients hslot'
  have hhistory : reached.history connection = service.history connection :=
    forSlots_history hbefore fun other hother =>
      hforeign other fun heq => hslot' (heq ▸ hother)
  let turned := reached.handle slot (body slot (reached.clients slot))
  have hloop : service.forClients body = turned.forSlots body after := by
    have hsplit : service.forClients body =
        service.forSlots body (before ++ slot :: after) := by
      rw [← hslots]
      rfl
    rw [hsplit, forSlots_append]
    rfl
  have hfd' : (reached.clients slot).fd = some connection := by
    rw [hclient, hfd]
  have hturned : turned.history connection =
      (body slot (service.clients slot)).2 ++ service.history connection := by
    rw [history_handle hfd', if_pos rfl, hhistory, hclient]
  rw [hloop, forSlots_clients hslot, forSlots_history hafter, hturned]
  · refine ⟨?_, rfl⟩
    rw [handle_clients hfd', Function.update_self, hclient]
  · intro other hother
    have hne : other ≠ slot := fun heq => hslot (heq ▸ hother)
    have hother' : other ∉ before := fun hmem =>
      hdisjoint other hmem other (List.mem_cons_of_mem slot hother) rfl
    rw [handle_other hne, forSlots_clients hother']
    exact hforeign other hne

/-- A loop over the clients does nothing to a connection that none holds. -/
theorem forClients_other
    (hother : ∀ slot, (service.clients slot).fd ≠ some connection) :
    (service.forClients body).history connection = service.history connection :=
  forSlots_history (List.nodup_finRange clientLimit) fun slot _ => hother slot

/-- A loop over the clients leaves a free slot as it is. -/
theorem forClients_free (hfd : (service.clients slot).fd = none) :
    (service.forClients body).clients slot = service.clients slot := by
  have hloop : ∀ (slots : List ClientSlot) (service : Service),
      (service.clients slot).fd = none →
      (service.forSlots body slots).clients slot = service.clients slot := by
    intro slots
    induction slots with
    | nil => exact fun _ _ => rfl
    | cons first rest ih =>
      intro service hfd
      have hfirst : ∀ handled, (service.handle first handled).clients slot =
          service.clients slot := by
        intro handled
        by_cases hslot : slot = first
        · rw [handle_free (hslot ▸ hfd)]
        · exact handle_other hslot handled
      refine (ih _ ?_).trans (hfirst _)
      rw [hfirst]
      exact hfd
  exact hloop _ service hfd

end Loop

/-- The service after the `accept` of a round. -/
def opened (service : Service) (input : ServiceInput) : Service :=
  if input.listening then service.acceptClient input.accept else service

def serveSlot (service : Service) (input : ServiceInput) (slot : ClientSlot) :
    ServiceClient → Handled :=
  serveClient ((service.clients slot).fd.isSome && input.hangup slot)
    ((service.clients slot).fd.isSome && input.readable slot)
    (input.recv slot) (currentDevices (input.seen slot)) (input.clock slot)

def served (service : Service) (input : ServiceInput) : Service :=
  (service.opened input).forClients (service.serveSlot input)

section

variable (hinv : service.Inv inputs)

include hinv

theorem inv_opened : (service.opened input).Inv inputs := by
  unfold opened
  split
  · exact inv_acceptClient hinv input.accept
  · exact hinv

/-- A connection is accepted at its start only. -/
theorem history_opened (connection : Connection) :
    (service.opened input).history connection = service.history connection ∨
      ∃ uid, (service.opened input).history connection = [.accepted uid] ∨
        (service.opened input).history connection =
          [.closed, .accepted uid] := by
  have hnone := hinv.fresh service.accepted le_rfl
  have hnext : ∀ (events : List ConnectionEvent)
      (clients : ClientSlot → ServiceClient),
      { service with
        clients := clients
        accepted := service.accepted + 1
        log := events.map (fun event => (service.accepted, event)) ++
          service.log }.history connection = service.history connection ∨
      { service with
        clients := clients
        accepted := service.accepted + 1
        log := events.map (fun event => (service.accepted, event)) ++
          service.log }.history connection = events := by
    intro events clients
    rw [history_next, hnone, List.append_nil]
    split
    · exact .inr rfl
    · exact .inl rfl
  unfold opened
  split
  · unfold acceptClient
    cases input.accept with
    | failed => exact .inl rfl
    | connected uid prepared =>
      dsimp only
      split
      · exact (hnext [.closed, .accepted uid] _).imp_right
          fun hevents => ⟨uid, .inr hevents⟩
      · split
        · exact (hnext [.accepted uid] _).imp_right
            fun hevents => ⟨uid, .inl hevents⟩
        · exact (hnext [.closed, .accepted uid] _).imp_right
            fun hevents => ⟨uid, .inr hevents⟩
  · exact .inl rfl

theorem inv_served (hinput : input ∈ inputs) :
    (service.served input).Inv inputs := by
  apply inv_forClients (inv_opened hinv)
  exact fun slot client connection history hheld =>
    (serveClient_turn hheld _ _ _ _ _).dealt hheld
      ⟨input, hinput, slot, rfl, rfl⟩

theorem Inv.alone (hfd : (service.clients slot).fd = some connection)
    (other : ClientSlot)
    (hother : (service.clients other).fd = some connection) : other = slot :=
  hinv.apart other slot connection hother hfd

/-- No slot holds a closed connection. -/
theorem Inv.closed {older : List ConnectionEvent}
    (hclosed : service.history connection = .closed :: older)
    (slot : ClientSlot) : (service.clients slot).fd ≠ some connection := by
  intro hfd
  obtain ⟨-, hheld⟩ := hinv.held hfd
  rw [hclosed] at hheld
  generalize service.clients slot = client at hheld
  cases hheld

end

/-- The turn of a client in use in the first loop of a round. -/
abbrev ServesAs (input : ServiceInput) (slot : ClientSlot)
    (connection : Connection) :
    ServiceClient → List ConnectionEvent → Handled → Prop :=
  ServeTurn connection (input.recv slot) (currentDevices (input.seen slot))
    (input.clock slot)

/-- The turn of a client in use in the second loop of a round. -/
abbrev ChecksAs (input : ServiceInput) :
    ServiceClient → List ConnectionEvent → Handled → Prop :=
  CheckTurn (clockMs input.now) (currentDevices input.devices)

variable {client : ServiceClient} {start : Int} {response : DeviceResponse}
  {history : List ConnectionEvent} {timer : Option Int} {uid : Uid}

/-- The second loop of a round, after a slot had its turn in the first. -/
theorem history_check (hinv : service.Inv inputs) {handled : Handled}
    (hturn : ServesAs input slot connection client history handled)
    (hheld : client.fd = some connection)
    (hclient : service.clients slot = handled.1)
    (hhistory : service.history connection = handled.2 ++ history) :
    ∃ checked, ChecksAs input handled.1 (handled.2 ++ history) checked ∧
      (service.forClients fun _ => checkWait (clockMs input.now)
        (currentDevices input.devices)).history connection =
          checked.2 ++ (handled.2 ++ history) := by
  -- a slot that still has the connection is checked
  have hopen : handled.1.fd = some connection →
      ∃ checked, ChecksAs input handled.1 (handled.2 ++ history) checked ∧
        (service.forClients fun _ => checkWait (clockMs input.now)
          (currentDevices input.devices)).history connection =
            checked.2 ++ (handled.2 ++ history) := by
    intro hfd
    rw [← hclient] at hfd
    obtain ⟨-, hchecked⟩ := forClients_slot (hinv.alone hfd) hfd
    obtain ⟨-, hheld'⟩ := hinv.held hfd
    refine ⟨_, ?_, hhistory ▸ hchecked⟩
    rw [← hclient, ← hhistory]
    exact checkWait_turn hheld' _ _
  -- a closed connection is nobody's
  have hclosed : ∀ older, handled.2 ++ history = .closed :: older →
      ∃ checked, ChecksAs input handled.1 (handled.2 ++ history) checked ∧
        (service.forClients fun _ => checkWait (clockMs input.now)
          (currentDevices input.devices)).history connection =
            checked.2 ++ (handled.2 ++ history) := by
    intro older holder
    refine ⟨(handled.1, []), .kept _ _, ?_⟩
    rw [forClients_other (hinv.closed (hhistory.trans holder)), hhistory]
    rfl
  cases hturn with
  | kept => exact hopen hheld
  | closed => exact hclosed _ rfl
  | @received uid packet hanswer =>
    cases hstatus : directStatus uid packet (currentDevices (input.seen slot))
        (input.clock slot) with
    | some status =>
      rw [hstatus] at hclosed
      exact hclosed _ rfl
    | none =>
      rw [hstatus] at hopen
      exact hopen rfl

/-- The turn of the slot that holds a connection, in both loops of a round. -/
theorem history_serve (hinv : service.Inv inputs) (hinput : input ∈ inputs)
    (hfd : ((service.opened input).clients slot).fd = some connection) :
    ∃ handled checked, handled =
        service.serveSlot input slot ((service.opened input).clients slot) ∧
      ServesAs input slot connection ((service.opened input).clients slot)
        ((service.opened input).history connection) handled ∧
      ChecksAs input handled.1
        (handled.2 ++ (service.opened input).history connection) checked ∧
      (service.serve input).history connection = checked.2 ++
        (handled.2 ++ (service.opened input).history connection) := by
  have hopened : (service.opened input).Inv inputs := inv_opened hinv
  obtain ⟨-, hheld⟩ := hopened.held hfd
  obtain ⟨hclient, hhistory⟩ : (service.served input).clients slot = _ ∧
        (service.served input).history connection = _ :=
    forClients_slot (hopened.alone hfd) hfd
  have hturn : ServesAs input slot connection _ _
      (service.serveSlot input slot ((service.opened input).clients slot)) :=
    serveClient_turn hheld _ _ _ _ _
  obtain ⟨checked, hcheck, hafter⟩ :=
    history_check (inv_served hinv hinput) hturn hfd hclient hhistory
  exact ⟨_, checked, rfl, hturn, hcheck, hafter⟩

theorem history_serve_other (hinv : service.Inv inputs)
    (hinput : input ∈ inputs)
    (hother : ∀ slot,
      ((service.opened input).clients slot).fd ≠ some connection) :
    (service.serve input).history connection =
      (service.opened input).history connection := by
  have hserved : (service.served input).history connection =
      (service.opened input).history connection := forClients_other hother
  have hsecond : ∀ slot,
      ((service.served input).clients slot).fd ≠ some connection := by
    intro slot hfd
    cases hslot : ((service.opened input).clients slot).fd with
    | none =>
      rw [served, forClients_free hslot, hslot] at hfd
      cases hfd
    | some held =>
      have hopened : (service.opened input).Inv inputs := inv_opened hinv
      obtain ⟨-, hheld⟩ := hopened.held hslot
      have hturn : ServesAs input slot held _ _ (service.serveSlot input slot
            ((service.opened input).clients slot)) :=
        serveClient_turn hheld _ _ _ _ _
      have hdealt := hturn.dealt hheld ⟨input, hinput, slot, rfl, rfl⟩
      rw [served, (forClients_slot (hopened.alone hslot) hslot).1] at hfd
      rcases hdealt.client with hfree | hheld'
      · rw [hfree] at hfd
        cases hfd
      · obtain rfl := Option.some.inj (hheld'.fd.symm.trans hfd)
        exact hother slot hslot
  exact (forClients_other hsecond).trans hserved

/-- What a round makes of the history of a connection. -/
inductive RoundTurn (service : Service) (input : ServiceInput)
    (connection : Connection) : List ConnectionEvent → Prop where
  | still : RoundTurn service input connection (service.history connection)
  | stopped : RoundTurn service input connection
      (.closed :: service.history connection)
  | accepted (uid : Uid) : RoundTurn service input connection [.accepted uid]
  | refused (uid : Uid) :
      RoundTurn service input connection [.closed, .accepted uid]
  | turned {slot : ClientSlot} {handled checked : Handled}
      (hfd : ((service.opened input).clients slot).fd = some connection)
      (hserve : ServesAs input slot connection
        ((service.opened input).clients slot)
        ((service.opened input).history connection) handled)
      (hcheck : ChecksAs input handled.1
        (handled.2 ++ (service.opened input).history connection) checked) :
      RoundTurn service input connection (checked.2 ++
        (handled.2 ++ (service.opened input).history connection))

theorem history_shutdown (hinv : service.Inv inputs) (connection : Connection) :
    service.shutdown.history connection = service.history connection ∨
      service.shutdown.history connection =
        .closed :: service.history connection := by
  have hshutdown : service.shutdown.history connection =
      (service.forClients fun _ => closeClient).history connection := rfl
  rw [hshutdown]
  by_cases hheld : ∃ slot, (service.clients slot).fd = some connection
  · obtain ⟨slot, hfd⟩ := hheld
    rw [(forClients_slot (hinv.alone hfd) hfd).2,
      (hinv.held hfd).2.closeClient_eq]
    exact .inr rfl
  · exact .inl (forClients_other fun slot hfd => hheld ⟨slot, hfd⟩)

theorem round_turn (hinv : service.Inv inputs) (hinput : input ∈ inputs)
    (connection : Connection) :
    RoundTurn service input connection
      ((service.round input).history connection) := by
  have hshutdown : RoundTurn service input connection
      (service.shutdown.history connection) := by
    rcases history_shutdown hinv connection with hstill | hclosed
    · rw [hstill]
      exact .still
    · rw [hclosed]
      exact .stopped
  have hserve : RoundTurn service input connection
      ((service.serve input).history connection) := by
    by_cases hheld : ∃ slot,
        ((service.opened input).clients slot).fd = some connection
    · obtain ⟨slot, hfd⟩ := hheld
      obtain ⟨handled, checked, -, hturn, hcheck, hhistory⟩ :=
        history_serve hinv hinput hfd
      rw [hhistory]
      exact .turned hfd hturn hcheck
    · rw [history_serve_other hinv hinput fun slot hfd => hheld ⟨slot, hfd⟩]
      rcases history_opened hinv connection with hold | ⟨uid, hnew | hnew⟩
      · rw [hold]
        exact .still
      · rw [hnew]
        exact .accepted uid
      · rw [hnew]
        exact .refused uid
  unfold round
  split
  · exact .still
  · split
    · exact hshutdown
    · split
      · exact hserve
      · exact .still
      · exact hshutdown

theorem opened_waits (hinv : service.Inv inputs)
    (hwaits : (service.opened input).history connection =
      waitHistory uid packet start) :
    service.history connection = waitHistory uid packet start := by
  rcases history_opened hinv connection with hold | ⟨uid, hnew | hnew⟩
  · exact hold.symm.trans hwaits
  · simp [hnew, waitHistory] at hwaits
  · simp [hnew, waitHistory] at hwaits

theorem opened_responded (hinv : service.Inv inputs)
    (hresponse : .responded response timer ∈
      (service.opened input).history connection) :
    .responded response timer ∈ service.history connection := by
  rcases history_opened hinv connection with hold | ⟨uid, hnew | hnew⟩
  · exact hold ▸ hresponse
  · simp [hnew] at hresponse
  · simp [hnew] at hresponse

/-- The origin of a wait in the first loop of a round. -/
theorem ServesAs.waits {handled : Handled}
    (hserve : ServesAs input slot connection client history handled)
    (hwaits : handled.2 ++ history = waitHistory uid packet start) :
    history = waitHistory uid packet start ∨
      StartsWait input slot uid packet start := by
  cases hserve with
  | kept => exact .inl hwaits
  | closed => simp [waitHistory] at hwaits
  | @received other bytes hanswer =>
    cases hstatus : directStatus other bytes
        (currentDevices (input.seen slot)) (input.clock slot) with
    | some status => simp [hstatus, answerPacket, waitHistory] at hwaits
    | none =>
      simp only [hstatus, answerPacket, waitHistory, List.cons_append,
        List.nil_append, List.cons.injEq, ConnectionEvent.waits.injEq,
        ConnectionEvent.received.injEq, ConnectionEvent.accepted.injEq,
        and_true] at hwaits
      obtain ⟨rfl, rfl, rfl⟩ := hwaits
      exact .inr ⟨hanswer, hstatus, rfl⟩

/-- A connection waits since an earlier round, or since the first loop of this
one. -/
def WaitsIn (service : Service) (input : ServiceInput) (slot : ClientSlot)
    (connection : Connection) (uid : Uid) (packet : List Byte) (start : Int) :
    Prop :=
  service.history connection = waitHistory uid packet start ∨
    StartsWait input slot uid packet start

/-- The origin of a wait that a connection is in after a round. -/
theorem RoundTurn.waits (hturn : RoundTurn service input connection history)
    (hinv : service.Inv inputs)
    (hhistory : history = waitHistory uid packet start) :
    service.history connection = waitHistory uid packet start ∨
      ∃ slot, ((service.opened input).clients slot).fd = some connection ∧
        StartsWait input slot uid packet start := by
  cases hturn with
  | still => exact .inl hhistory
  | stopped | accepted | refused => simp [waitHistory] at hhistory
  | @turned slot handled checked hfd hserve hcheck =>
    generalize hmiddle : handled.2 ++
      (service.opened input).history connection = middle at hcheck hhistory
    cases hcheck with
    | kept =>
      rcases ServesAs.waits hserve (hmiddle.trans hhistory) with
        hopened | hstarts
      · exact .inl (opened_waits hinv hopened)
      · exact .inr ⟨slot, hfd, hstarts⟩
    | appeared | expired => simp [waitHistory] at hhistory

/-- What a response of a round rests on. -/
inductive Answer (service : Service) (input : ServiceInput)
    (slot : ClientSlot) (connection : Connection) :
    DeviceResponse → Option Int → Prop where
  | direct {uid : Uid} {packet : List Byte} {status : DeviceStatus}
      (hreceived : input.recv slot = .packet packet)
      (hstatus : directStatus uid packet (currentDevices (input.seen slot))
        (input.clock slot) = some status) :
      Answer service input slot connection
        (responseTo uid packet status (currentDevices (input.seen slot))) none
  | appeared {uid : Uid} {packet : List Byte} {start : Int}
      (hwaits : WaitsIn service input slot connection uid packet start)
      (hdevices : holdsAll (currentDevices input.devices)
        (requestOf packet).value = true) :
      Answer service input slot connection
        (responseTo uid packet .ok (currentDevices input.devices))
        (some (clockMs input.now))
  | expired {uid : Uid} {packet : List Byte} {start : Int}
      (hwaits : WaitsIn service input slot connection uid packet start)
      (hnow : clockMs input.now < 0 ∨
        start + (requestOf packet).timeoutMs.toNat ≤ clockMs input.now) :
      Answer service input slot connection
        (responseTo uid packet .timeout (currentDevices input.devices))
        (some (clockMs input.now))

/-- A response in the first loop is the answer to a packet. -/
theorem ServesAs.answer {handled : Handled}
    (hserve : ServesAs input slot connection client history handled)
    (hevent : .responded response timer ∈ handled.2) :
    Answer service input slot connection response timer := by
  cases hserve with
  | kept | closed => simp at hevent
  | @received uid packet hanswer =>
    cases hstatus : directStatus uid packet
        (currentDevices (input.seen slot)) (input.clock slot) with
    | some status =>
      simp only [hstatus, answerPacket, List.mem_cons, reduceCtorEq,
        ConnectionEvent.responded.injEq, List.not_mem_nil, or_false,
        false_or] at hevent
      obtain ⟨rfl, rfl⟩ := hevent
      exact .direct hanswer hstatus
    | none => simp [hstatus, answerPacket] at hevent

/-- The response that ends a wait is the only one of its connection. -/
theorem responded_of_waited {found : DeviceResponse} {moment : Option Int}
    (hresponse : .responded response timer ∈
      [.closed, .responded found moment] ++ waitHistory uid packet start) :
    response = found ∧ timer = moment := by
  simpa [waitHistory] using hresponse

/-- The origin of a response that is new in a round. -/
theorem RoundTurn.answer (hturn : RoundTurn service input connection history)
    (hinv : service.Inv inputs)
    (hfd : ((service.opened input).clients slot).fd = some connection)
    (hresponse : .responded response timer ∈ history)
    (hnew : .responded response timer ∉ service.history connection) :
    Answer service input slot connection response timer := by
  cases hturn with
  | still => exact absurd hresponse hnew
  | stopped => simp [hnew] at hresponse
  | accepted | refused => simp at hresponse
  | @turned other handled checked hother hserve hcheck =>
    obtain rfl := (inv_opened hinv).alone hfd other hother
    have hopened : .responded response timer ∉
        (service.opened input).history connection :=
      fun hold => hnew (opened_responded hinv hold)
    generalize hmiddle : handled.2 ++
      (service.opened input).history connection = middle
      at hcheck hresponse
    have hwaits : ∀ uid packet start, middle = waitHistory uid packet start →
        WaitsIn service input other connection uid packet start := by
      intro uid packet start heq
      exact (ServesAs.waits hserve (hmiddle.trans heq)).imp_left
        (opened_waits hinv)
    cases hcheck with
    | appeared hdevices =>
      obtain ⟨rfl, rfl⟩ := responded_of_waited hresponse
      exact .appeared (hwaits _ _ _ rfl) hdevices
    | expired hdevices hnow =>
      obtain ⟨rfl, rfl⟩ := responded_of_waited hresponse
      exact .expired (hwaits _ _ _ rfl) hnow
    | kept =>
      rw [List.nil_append, ← hmiddle] at hresponse
      exact ServesAs.answer hserve
        ((List.mem_append.mp hresponse).resolve_right hopened)

end Service

/-- The state of the service after some of the rounds of a run. -/
theorem serviceRun_inv_of_subset {inputs all : List ServiceInput}
    (hinputs : inputs ⊆ all) : (serviceRun inputs).Inv all :=
  Machine.run_invariant initialService_inv
    fun _ _ hinput hinv => Service.inv_round hinv (hinputs hinput)

/-- A round receives a packet from a connection that has not sent one yet. -/
structure Receives (service : Service) (input : ServiceInput)
    (slot : ClientSlot) (connection : Connection) (packet : List Byte) :
    Prop where
  running : service.running = true
  goes : input.stop = false ∧ input.poll = .ready
  fd : (service.clients slot).fd = some connection
  state : (service.clients slot).state = .request
  polled : input.hangup slot = false ∧ input.readable slot = true
  recv : input.recv slot = .packet packet

/-- An `accept` leaves a client in use alone. -/
theorem Receives.opened {service : Service} {input : ServiceInput}
    {slot : ClientSlot} {connection : Connection}
    (hreceives : Receives service input slot connection packet) :
    (service.opened input).clients slot = service.clients slot := by
  unfold Service.opened Service.acceptClient
  split
  · split
    · rfl
    · split
      · rfl
      · rename_i found hfound
        split
        · refine Function.update_of_ne ?_ _ _
          rintro rfl
          have hfree := List.find?_some hfound
          rw [hreceives.state] at hfree
          cases hfree
        · rfl
  · rfl

theorem Receives.received {inputs : List ServiceInput} {service : Service}
    {input : ServiceInput} {slot : ClientSlot} {connection : Connection}
    (hreceives : Receives service input slot connection packet)
    (hinv : service.Inv inputs) (hinput : input ∈ inputs) :
    ∃ processed, .received packet processed ∈
      (service.round input).history connection := by
  have hround : service.round input = service.serve input := by
    rw [Service.round, hreceives.running, hreceives.goes.1, hreceives.goes.2]
    rfl
  have hfd : ((service.opened input).clients slot).fd = some connection := by
    rw [hreceives.opened, hreceives.fd]
  obtain ⟨handled, checked, hhandled, -, -, hhistory⟩ :=
    Service.history_serve hinv hinput hfd
  have hevents : ∃ processed, .received packet processed ∈ handled.2 := by
    rw [hhandled, hreceives.opened, Service.serveSlot, serveClient,
      hreceives.fd, hreceives.state, hreceives.polled.1, hreceives.polled.2,
      hreceives.recv]
    rw [if_neg (by decide), if_neg (by simp), if_pos ⟨rfl, rfl⟩]
    unfold receiveRequest
    dsimp only
    split
    · exact ⟨true, by simp⟩
    · exact ⟨false, by simp⟩
  obtain ⟨processed, hmem⟩ := hevents
  refine ⟨processed, ?_⟩
  rw [hround, hhistory]
  exact List.mem_append_right _ (List.mem_append_left _ hmem)

def firstSlot : ClientSlot := ⟨0, by decide⟩

end Micronux
