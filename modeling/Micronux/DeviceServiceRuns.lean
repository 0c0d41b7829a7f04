/-
Every connection of the device service lives as if it were the only one: its
history is one of a few short life cycles that mention its own peer, its own
packet and what was observed, whatever the other connections do and whichever
slot it got.
-/
import Micronux.DeviceService

namespace Micronux

/-- A packet in the memory of a cleared request. -/
def zeroExtend (packet : List Byte) : List Byte :=
  fillRequest freeClient.request packet

def requestOf (packet : List Byte) : DeviceRequest :=
  decodeRequest (zeroExtend packet)

def responseTo (uid : Uid) (packet : List Byte) (status : DeviceStatus)
    (devices : Word) : DeviceResponse where
  magic := deviceMagic
  abiMajor := deviceAbiMajor
  abiMinor := deviceAbiMinor
  requestId := (requestOf packet).requestId
  status := status
  capabilities := peerCapabilities uid
  devices := devices
  value := 0#32

/-- The status that answers a wait at once, if any does. -/
def waitStatus (request : DeviceRequest) (devices : Word)
    (clock : Option Nat) : Option DeviceStatus :=
  if request.value = 0#32 ∨ request.value &&& ~~~deviceFlagMask ≠ 0#32 ∨
      request.timeoutMs = 0#32 ∨ deviceMaxWaitMs < request.timeoutMs then
    some .invalid
  else if holdsAll devices request.value then some .ok
  else if clockMs clock < 0 then some .io
  else none

/-- The status that answers a packet at once, if any does. -/
def directStatus (uid : Uid) (packet : List Byte) (devices : Word)
    (clock : Option Nat) : Option DeviceStatus :=
  let request := requestOf packet
  let required := requiredCapability request.operation
  if packet.length < requestSize then some .invalid
  else if request.magic ≠ deviceMagic ∨ request.abiMajor ≠ deviceAbiMajor then
    some .version
  else if required = 0xffffffff#32 then some .invalid
  else if peerCapabilities uid &&& required ≠ required then some .denied
  else if request.operation = opWait then waitStatus request devices clock
  else some .ok

/-- The devices and the clock that `process_request` saw in a run. -/
def SeenServing (inputs : List ServiceInput) (devices : Word)
    (clock : Option Nat) : Prop :=
  ∃ input ∈ inputs, ∃ slot, devices = currentDevices (input.seen slot) ∧
    clock = input.clock slot

/-- The devices and the clock that the main loop saw in a run. -/
def SeenChecking (inputs : List ServiceInput) (devices : Word)
    (clock : Option Nat) : Prop :=
  ∃ input ∈ inputs, devices = currentDevices input.devices ∧ clock = input.now

/-- A packet was not answered at once, and its wait started at a time. -/
def WaitsSince (inputs : List ServiceInput) (uid : Uid) (packet : List Byte)
    (start : Int) : Prop :=
  ∃ devices clock, SeenServing inputs devices clock ∧
    directStatus uid packet devices clock = none ∧ start = clockMs clock

/-- The life of a connection, newest event first. -/
inductive Lifecycle (inputs : List ServiceInput) :
    List ConnectionEvent → Prop where
  | opened (uid : Uid) : Lifecycle inputs [.accepted uid]
  | dropped (uid : Uid) : Lifecycle inputs [.closed, .accepted uid]
  | answered {uid : Uid} {packet : List Byte} {devices : Word}
      {clock : Option Nat} {status : DeviceStatus}
      (hseen : SeenServing inputs devices clock)
      (hstatus : directStatus uid packet devices clock = some status) :
      Lifecycle inputs [.closed,
        .responded (responseTo uid packet status devices) none,
        .received packet (decide (requestSize ≤ packet.length)), .accepted uid]
  | waiting {uid : Uid} {packet : List Byte} {start : Int}
      (hwaits : WaitsSince inputs uid packet start) :
      Lifecycle inputs [.waits start, .received packet true, .accepted uid]
  | left {uid : Uid} {packet : List Byte} {start : Int}
      (hwaits : WaitsSince inputs uid packet start) :
      Lifecycle inputs
        [.closed, .waits start, .received packet true, .accepted uid]
  | appeared {uid : Uid} {packet : List Byte} {start : Int} {devices : Word}
      {clock : Option Nat} (hwaits : WaitsSince inputs uid packet start)
      (hseen : SeenChecking inputs devices clock)
      (hdevices : holdsAll devices (requestOf packet).value = true) :
      Lifecycle inputs [.closed,
        .responded (responseTo uid packet .ok devices) (some (clockMs clock)),
        .waits start, .received packet true, .accepted uid]
  | expired {uid : Uid} {packet : List Byte} {start : Int} {devices : Word}
      {clock : Option Nat} (hwaits : WaitsSince inputs uid packet start)
      (hseen : SeenChecking inputs devices clock)
      (hdevices : holdsAll devices (requestOf packet).value = false)
      (hnow : clockMs clock < 0 ∨
        start + (requestOf packet).timeoutMs.toNat ≤ clockMs clock) :
      Lifecycle inputs [.closed,
        .responded (responseTo uid packet .timeout devices)
          (some (clockMs clock)),
        .waits start, .received packet true, .accepted uid]

def newClient (connection : Connection) (uid : Uid) : ServiceClient :=
  { freeClient with
    fd := some connection
    state := .request
    uid := uid
    capabilities := peerCapabilities uid }

def waitingClient (connection : Connection) (uid : Uid) (packet : List Byte)
    (start : Int) : ServiceClient :=
  { newClient connection uid with
    state := .wait
    waitMask := (requestOf packet).value
    deadlineMs := start + (requestOf packet).timeoutMs.toNat
    request := zeroExtend packet }

/-- What a client that is in use knows about its connection. -/
inductive Held (inputs : List ServiceInput) (connection : Connection) :
    ServiceClient → List ConnectionEvent → Prop where
  | request (uid : Uid) :
      Held inputs connection (newClient connection uid) [.accepted uid]
  | wait {uid : Uid} {packet : List Byte} {start : Int}
      (hwaits : WaitsSince inputs uid packet start) :
      Held inputs connection (waitingClient connection uid packet start)
        [.waits start, .received packet true, .accepted uid]

/-- A function of the service has dealt with a client. -/
structure Dealt (inputs : List ServiceInput) (connection : Connection)
    (history : List ConnectionEvent) (handled : Handled) : Prop where
  client : handled.1 = freeClient ∨
    Held inputs connection handled.1 (handled.2 ++ history)
  life : Lifecycle inputs (handled.2 ++ history)

variable {inputs : List ServiceInput} {connection : Connection}
  {client : ServiceClient} {history : List ConnectionEvent}

section

variable (hheld : Held inputs connection client history)

include hheld

theorem Held.fd : client.fd = some connection := by
  cases hheld <;> rfl

theorem Held.busy : client.state ≠ .free := by
  cases hheld <;> exact fun hstate => nomatch hstate

theorem Held.life : Lifecycle inputs history := by
  cases hheld with
  | request uid => exact .opened uid
  | wait hwaits => exact .waiting hwaits

theorem Held.kept : Dealt inputs connection history (client, []) :=
  ⟨.inr hheld, hheld.life⟩

theorem Held.close : Dealt inputs connection history (closeClient client) := by
  refine ⟨.inl rfl, ?_⟩
  cases hheld with
  | request uid => exact .dropped uid
  | wait hwaits => exact .left hwaits

end

/-- What becomes of a client whose request has a status, or has to wait. -/
def settle (client : ServiceClient) (request : DeviceRequest) (devices : Word)
    (clock : Option Nat) : Option DeviceStatus → Handled
  | some status => respond client status devices none
  | none =>
    ({ client with
        waitMask := request.value
        deadlineMs := clockMs clock + request.timeoutMs.toNat
        state := .wait }, [.waits (clockMs clock)])

theorem processWait_eq (client : ServiceClient) (request : DeviceRequest)
    (devices : Word) (clock : Option Nat) :
    processWait client request devices clock =
      settle client request devices clock
        (waitStatus request devices clock) := by
  unfold processWait waitStatus
  split_ifs <;> rfl

variable {devices : Word} {clock : Option Nat} {packet : List Byte} {uid : Uid}
  {handled : Handled}

theorem processRequest_eq (hfull : requestSize ≤ packet.length)
    (hrequest : client.request = zeroExtend packet)
    (hcapabilities : client.capabilities = peerCapabilities uid)
    (devices : Word) (clock : Option Nat) :
    processRequest client devices clock =
      settle client (requestOf packet) devices clock
        (directStatus uid packet devices clock) := by
  have hlength : ¬ packet.length < requestSize := Nat.not_lt.mpr hfull
  unfold processRequest directStatus
  dsimp only
  rw [processWait_eq, hrequest, hcapabilities, if_neg hlength]
  unfold requestOf
  split_ifs <;> rfl

theorem directStatus_short (hshort : packet.length < requestSize) :
    directStatus uid packet devices clock = some .invalid :=
  if_pos hshort

theorem recvLength_full (packet : List Byte) :
    recvLength packet = requestSize ↔ requestSize ≤ packet.length := by
  unfold recvLength
  omega

/-- What becomes of a new client's packet that has a status, or has to wait. -/
def answerPacket (connection : Connection) (uid : Uid) (packet : List Byte)
    (devices : Word) (clock : Option Nat) : Option DeviceStatus → Handled
  | some status => (freeClient, [.closed,
      .responded (responseTo uid packet status devices) none,
      .received packet (decide (requestSize ≤ packet.length))])
  | none => (waitingClient connection uid packet (clockMs clock),
      [.waits (clockMs clock), .received packet true])

/-- A packet of a new client is answered at once or starts a wait. -/
theorem receiveRequest_packet (connection : Connection) (uid : Uid)
    (packet : List Byte) (devices : Word) (clock : Option Nat) :
    receiveRequest (newClient connection uid) (.packet packet) devices clock =
      answerPacket connection uid packet devices clock
        (directStatus uid packet devices clock) := by
  unfold receiveRequest
  dsimp only
  rcases Nat.lt_or_ge packet.length requestSize with hshort | hfull
  · have hlength : ¬ requestSize ≤ packet.length := Nat.not_le.mpr hshort
    rw [if_neg (mt (recvLength_full packet).mp hlength),
      directStatus_short hshort, answerPacket, decide_eq_false hlength]
    rfl
  · rw [if_pos ((recvLength_full packet).mpr hfull),
      processRequest_eq hfull rfl (rfl : _ = peerCapabilities uid)]
    cases directStatus uid packet devices clock with
    | none => rfl
    | some status =>
      rw [answerPacket, decide_eq_true hfull]
      rfl

/-- What the first loop of a round does to a client in use. -/
inductive ServeTurn (connection : Connection) (answer : RecvAnswer)
    (devices : Word) (clock : Option Nat) :
    ServiceClient → List ConnectionEvent → Handled → Prop where
  | kept (client : ServiceClient) (history : List ConnectionEvent) :
      ServeTurn connection answer devices clock client history (client, [])
  | closed (client : ServiceClient) (history : List ConnectionEvent) :
      ServeTurn connection answer devices clock client history
        (freeClient, [.closed])
  | received (uid : Uid) {packet : List Byte}
      (hanswer : answer = .packet packet) :
      ServeTurn connection answer devices clock (newClient connection uid)
        [.accepted uid] (answerPacket connection uid packet devices clock
          (directStatus uid packet devices clock))

/-- What the second loop of a round does to a client in use. -/
inductive CheckTurn (now : Int) (devices : Word) :
    ServiceClient → List ConnectionEvent → Handled → Prop where
  | kept (client : ServiceClient) (history : List ConnectionEvent) :
      CheckTurn now devices client history (client, [])
  | appeared {client : ServiceClient} {uid : Uid} {packet : List Byte}
      {start : Int}
      (hdevices : holdsAll devices (requestOf packet).value = true) :
      CheckTurn now devices client
        [.waits start, .received packet true, .accepted uid]
        (freeClient, [.closed,
          .responded (responseTo uid packet .ok devices) (some now)])
  | expired {client : ServiceClient} {uid : Uid} {packet : List Byte}
      {start : Int}
      (hdevices : holdsAll devices (requestOf packet).value = false)
      (hnow : now < 0 ∨ start + (requestOf packet).timeoutMs.toNat ≤ now) :
      CheckTurn now devices client
        [.waits start, .received packet true, .accepted uid]
        (freeClient, [.closed,
          .responded (responseTo uid packet .timeout devices) (some now)])

theorem Held.closeClient_eq (hheld : Held inputs connection client history) :
    closeClient client = (freeClient, [.closed]) := by
  rw [closeClient, hheld.fd]
  rfl

theorem serveClient_turn (hheld : Held inputs connection client history)
    (hangup readable : Bool) (answer : RecvAnswer) (devices : Word)
    (clock : Option Nat) :
    ServeTurn connection answer devices clock client history
      (serveClient hangup readable answer devices clock client) := by
  unfold serveClient
  split
  · exact .kept client history
  · split
    · rw [hheld.closeClient_eq]
      exact .closed client history
    · split
      · rename_i hreadable
        cases hheld with
        | request uid =>
          cases answer with
          | packet bytes =>
            rw [receiveRequest_packet]
            exact .received uid rfl
          | again => exact .kept _ _
          | failed => exact .closed _ _
        | wait hwaits => exact nomatch hreadable.1
      · exact .kept client history

theorem checkWait_turn (hheld : Held inputs connection client history)
    (now : Int) (devices : Word) :
    CheckTurn now devices client history (checkWait now devices client) := by
  unfold checkWait
  split
  · exact .kept client history
  · rename_i hstate
    cases hheld with
    | request uid => exact absurd (fun hwait => nomatch hwait) hstate
    | wait hwaits =>
      split
      · rename_i hdevices
        exact .appeared hdevices
      · rename_i hdevices
        split
        · rename_i hnow
          exact .expired (Bool.not_eq_true _ |>.mp hdevices) hnow
        · exact .kept _ _

theorem ServeTurn.dealt {answer : RecvAnswer}
    (hturn : ServeTurn connection answer devices clock client history handled)
    (hheld : Held inputs connection client history)
    (hseen : SeenServing inputs devices clock) :
    Dealt inputs connection history handled := by
  cases hturn with
  | kept => exact hheld.kept
  | closed =>
    rw [← hheld.closeClient_eq]
    exact hheld.close
  | @received uid packet hanswer =>
    cases hstatus : directStatus uid packet devices clock with
    | some status => exact ⟨.inl rfl, .answered hseen hstatus⟩
    | none =>
      have hwaits : WaitsSince inputs uid packet (clockMs clock) :=
        ⟨devices, clock, hseen, hstatus, rfl⟩
      exact ⟨.inr (.wait hwaits), .waiting hwaits⟩

theorem CheckTurn.dealt
    (hturn : CheckTurn (clockMs clock) devices client history handled)
    (hheld : Held inputs connection client history)
    (hseen : SeenChecking inputs devices clock) :
    Dealt inputs connection history handled := by
  cases hturn with
  | kept => exact hheld.kept
  | appeared hdevices =>
    cases hheld with
    | wait hwaits => exact ⟨.inl rfl, .appeared hwaits hseen hdevices⟩
  | expired hdevices hnow =>
    cases hheld with
    | wait hwaits => exact ⟨.inl rfl, .expired hwaits hseen hdevices hnow⟩

namespace Service

/-- What holds between two rounds, and between two clients of a round. -/
structure Inv (inputs : List ServiceInput) (service : Service) : Prop where
  slots : ∀ slot, service.clients slot = freeClient ∨
    ∃ connection, connection < service.accepted ∧
      Held inputs connection (service.clients slot) (service.history connection)
  apart : ∀ first second connection,
    (service.clients first).fd = some connection →
    (service.clients second).fd = some connection → first = second
  life : ∀ connection, service.history connection = [] ∨
    Lifecycle inputs (service.history connection)
  fresh : ∀ connection, service.accepted ≤ connection →
    service.history connection = []

variable {service : Service} {slot : ClientSlot} {events : List ConnectionEvent}

/-- The histories after events of one connection are logged. -/
theorem history_logged {after : Service} (hlog : after.log =
      events.map (fun event => (connection, event)) ++ service.log)
    (other : Connection) :
    after.history other =
      if other = connection then events ++ service.history connection
      else service.history other := by
  rw [history, hlog, List.filter_append, List.map_append]
  by_cases hother : other = connection
  · subst other
    rw [if_pos rfl, List.filter_eq_self.mpr (by simp)]
    simp [history, Function.comp_def]
  · rw [if_neg hother, List.filter_eq_nil_iff.mpr (by simp [Ne.symm hother])]
    rfl

/-- The log of a dealt client, seen from a connection. -/
theorem history_handle (hfd : (service.clients slot).fd = some connection)
    (other : Connection) :
    (service.handle slot handled).history other =
      if other = connection then handled.2 ++ service.history connection
      else service.history other := by
  have hlog : (service.handle slot handled).log =
      handled.2.map (fun event => (connection, event)) ++ service.log := by
    rw [handle, hfd]
  exact history_logged hlog other

/-- A client with a descriptor is in use. -/
theorem Inv.held (hinv : service.Inv inputs)
    (hfd : (service.clients slot).fd = some connection) :
    connection < service.accepted ∧
      Held inputs connection (service.clients slot)
        (service.history connection) := by
  rcases hinv.slots slot with hfree | ⟨other, hother, hheld⟩
  · rw [hfree] at hfd
    cases hfd
  · obtain rfl := Option.some.inj (hheld.fd.symm.trans hfd)
    exact ⟨hother, hheld⟩

theorem handle_clients (hfd : (service.clients slot).fd = some connection) :
    (service.handle slot handled).clients =
      Function.update service.clients slot handled.1 := by
  rw [handle, hfd]

theorem handle_free (hfd : (service.clients slot).fd = none) :
    service.handle slot handled = service := by
  rw [handle, hfd]

theorem handle_accepted (service : Service) (slot : ClientSlot)
    (handled : Handled) :
    (service.handle slot handled).accepted = service.accepted := by
  unfold handle
  split <;> rfl

/-- A dealt client keeps its descriptor or loses it. -/
theorem fd_of_handle (hfd : (service.clients slot).fd = some connection)
    (hdealt : Dealt inputs connection (service.history connection) handled)
    {other : ClientSlot} {seen : Connection}
    (hseen : ((service.handle slot handled).clients other).fd = some seen) :
    (service.clients other).fd = some seen := by
  rw [handle_clients hfd] at hseen
  by_cases hother : other = slot
  · subst other
    rw [Function.update_self] at hseen
    rcases hdealt.client with hfree | hheld
    · rw [hfree] at hseen
      cases hseen
    · rw [hheld.fd] at hseen
      rw [hfd]
      exact hseen
  · rw [Function.update_of_ne hother] at hseen
    exact hseen

/-- The histories after the first events of the next connection. -/
theorem history_next (service : Service) (events : List ConnectionEvent)
    (clients : ClientSlot → ServiceClient) (other : Connection) :
    { service with
      clients := clients
      accepted := service.accepted + 1
      log := events.map (fun event => (service.accepted, event)) ++
        service.log }.history other =
      if other = service.accepted then
        events ++ service.history service.accepted
      else service.history other :=
  history_logged rfl other

section

variable (hinv : service.Inv inputs)

include hinv

/-- What is done to one client concerns its own connection only. -/
theorem inv_handle (hfd : (service.clients slot).fd = some connection)
    (hdealt : Dealt inputs connection (service.history connection) handled) :
    (service.handle slot handled).Inv inputs := by
  obtain ⟨hlt, -⟩ := hinv.held hfd
  have haccepted := service.handle_accepted slot handled
  have hhistory : ∀ other, (service.handle slot handled).history other =
      if other = connection then handled.2 ++ service.history connection
      else service.history other := history_handle hfd
  refine ⟨?_, ?_, ?_, ?_⟩
  · intro other
    rw [handle_clients hfd, haccepted]
    by_cases hother : other = slot
    · subst other
      rw [Function.update_self]
      rcases hdealt.client with hfree | hheld
      · exact .inl hfree
      · refine .inr ⟨connection, hlt, ?_⟩
        rw [hhistory, if_pos rfl]
        exact hheld
    · rw [Function.update_of_ne hother]
      rcases hinv.slots other with hfree | ⟨foreign, hforeign, hheld⟩
      · exact .inl hfree
      · have hne : foreign ≠ connection := by
          rintro rfl
          exact hother (hinv.apart other slot _ hheld.fd hfd)
        refine .inr ⟨foreign, hforeign, ?_⟩
        rw [hhistory, if_neg hne]
        exact hheld
  · intro first second seen hfirst hsecond
    exact hinv.apart first second seen (fd_of_handle hfd hdealt hfirst)
      (fd_of_handle hfd hdealt hsecond)
  · intro other
    rw [hhistory]
    split
    · exact .inr hdealt.life
    · exact hinv.life other
  · intro other hother
    rw [haccepted] at hother
    have hne : other ≠ connection :=
      Nat.ne_of_gt (Nat.lt_of_lt_of_le hlt hother)
    rw [hhistory, if_neg hne]
    exact hinv.fresh other hother

/-- A loop over the clients that deals with each client in use. -/
theorem inv_forClients {body : ClientSlot → ServiceClient → Handled}
    (hbody : ∀ slot client connection history,
      Held inputs connection client history →
      Dealt inputs connection history (body slot client)) :
    (service.forClients body).Inv inputs := by
  have hloop : ∀ (slots : List ClientSlot) (service : Service),
      service.Inv inputs →
      (slots.foldl (fun service slot =>
        service.handle slot (body slot (service.clients slot)))
          service).Inv inputs := by
    intro slots
    induction slots with
    | nil => exact fun _ hinv => hinv
    | cons slot rest ih =>
      intro service hinv
      apply ih
      cases hfd : (service.clients slot).fd with
      | none =>
        dsimp only
        rw [handle_free hfd]
        exact hinv
      | some connection =>
        exact inv_handle hinv hfd (hbody slot _ connection _ (hinv.held hfd).2)
  exact hloop _ service hinv

/-- A new client has a connection that no other client has. -/
theorem apart_next {slot : ClientSlot} {client : ServiceClient}
    (hfd : client.fd = some service.accepted) (first second : ClientSlot)
    (connection : Nat)
    (hfirst : (Function.update service.clients slot client first).fd =
      some connection)
    (hsecond : (Function.update service.clients slot client second).fd =
      some connection) : first = second := by
  have hseen : ∀ other, (Function.update service.clients slot client other).fd =
      some connection → (other = slot ∧ connection = service.accepted) ∨
        ((service.clients other).fd = some connection ∧
          connection < service.accepted) := by
    intro other hother
    by_cases hslot : other = slot
    · subst other
      rw [Function.update_self, hfd] at hother
      exact .inl ⟨rfl, (Option.some.inj hother).symm⟩
    · rw [Function.update_of_ne hslot] at hother
      exact .inr ⟨hother, (hinv.held hother).1⟩
  rcases hseen first hfirst with ⟨hslot, hnew⟩ | ⟨hold, hlt⟩ <;>
    rcases hseen second hsecond with ⟨hslot', hnew'⟩ | ⟨hold', hlt'⟩
  · exact hslot.trans hslot'.symm
  · exact absurd hnew (Nat.ne_of_lt hlt')
  · exact absurd hnew' (Nat.ne_of_lt hlt)
  · exact hinv.apart first second connection hold hold'

/-- A connection is accepted: it gets a free slot, or it is closed again. -/
theorem inv_next (hlife : Lifecycle inputs events)
    {clients : ClientSlot → ServiceClient}
    (hclients : clients = service.clients ∨ ∃ slot client,
      clients = Function.update service.clients slot client ∧
      service.clients slot = freeClient ∧
      Held inputs service.accepted client events) :
    { service with
      clients := clients
      accepted := service.accepted + 1
      log := events.map (fun event => (service.accepted, event)) ++
        service.log }.Inv inputs := by
  have hhistory := service.history_next events clients
  have hnone := hinv.fresh service.accepted le_rfl
  rw [hnone, List.append_nil] at hhistory
  have hlife' : ∀ connection, (if connection = service.accepted then events
      else service.history connection) = [] ∨
      Lifecycle inputs (if connection = service.accepted then events
        else service.history connection) := by
    intro connection
    split
    · exact .inr hlife
    · exact hinv.life connection
  have hfresh' : ∀ connection, service.accepted + 1 ≤ connection →
      (if connection = service.accepted then events
        else service.history connection) = [] := by
    intro connection hle
    rw [if_neg (Nat.ne_of_gt hle)]
    exact hinv.fresh connection (Nat.le_of_succ_le hle)
  -- a client that was there before keeps its connection's history
  have hold : ∀ slot, service.clients slot = freeClient ∨
      ∃ connection, connection < service.accepted + 1 ∧
        Held inputs connection (service.clients slot)
          (if connection = service.accepted then events
            else service.history connection) := by
    intro slot
    rcases hinv.slots slot with hfree | ⟨connection, hlt, hheld⟩
    · exact .inl hfree
    · refine .inr ⟨connection, Nat.lt_succ_of_lt hlt, ?_⟩
      rw [if_neg (Nat.ne_of_lt hlt)]
      exact hheld
  rcases hclients with rfl | ⟨slot, client, rfl, hfree, hheld⟩
  · refine ⟨?_, hinv.apart, ?_, ?_⟩
    · simpa only [hhistory] using hold
    · simpa only [hhistory] using hlife'
    · simpa only [hhistory] using hfresh'
  · refine ⟨?_, ?_, ?_, ?_⟩
    · intro other
      simp only [hhistory]
      by_cases hother : other = slot
      · subst other
        rw [Function.update_self]
        refine .inr ⟨service.accepted, Nat.lt_succ_self _, ?_⟩
        rw [if_pos rfl]
        exact hheld
      · rw [Function.update_of_ne hother]
        exact hold other
    · exact apart_next hinv hheld.fd
    · simpa only [hhistory] using hlife'
    · simpa only [hhistory] using hfresh'

theorem inv_acceptClient (answer : AcceptAnswer) :
    (service.acceptClient answer).Inv inputs := by
  have hrefuse : ∀ uid, { service with
      accepted := service.accepted + 1
      log := (service.accepted, .closed) ::
        (service.accepted, .accepted uid) :: service.log }.Inv inputs :=
    fun uid => inv_next hinv (.dropped uid) (.inl rfl)
  unfold acceptClient
  cases answer with
  | failed => exact hinv
  | connected uid prepared =>
    dsimp only
    split
    · exact hrefuse uid
    · rename_i slot hfound
      split
      · have hstate : (service.clients slot).state = .free := by
          simpa using List.find?_some hfound
        have hfree : service.clients slot = freeClient := by
          rcases hinv.slots slot with hfree | ⟨connection, -, hheld⟩
          · exact hfree
          · exact absurd hstate hheld.busy
        refine inv_next hinv (.opened uid) (.inr ⟨slot, _, rfl, hfree, ?_⟩)
        rw [hfree]
        exact .request uid
      · exact hrefuse uid

theorem inv_shutdown : service.shutdown.Inv inputs := by
  have hclosed : (service.forClients fun _ => closeClient).Inv inputs :=
    inv_forClients hinv fun _ _ _ _ hheld => hheld.close
  exact ⟨hclosed.slots, hclosed.apart, hclosed.life, hclosed.fresh⟩

variable {input : ServiceInput}

theorem inv_serve (hinput : input ∈ inputs) :
    (service.serve input).Inv inputs := by
  have haccepted : (if input.listening then
      service.acceptClient input.accept else service).Inv inputs := by
    split
    · exact inv_acceptClient hinv input.accept
    · exact hinv
  apply inv_forClients
  · apply inv_forClients haccepted
    exact fun slot client connection history hheld =>
      (serveClient_turn hheld _ _ _ _ _).dealt hheld
        ⟨input, hinput, slot, rfl, rfl⟩
  · exact fun slot client connection history hheld =>
      (checkWait_turn hheld _ _).dealt hheld ⟨input, hinput, rfl, rfl⟩

theorem inv_round (hinput : input ∈ inputs) :
    (service.round input).Inv inputs := by
  unfold round
  split
  · exact hinv
  · split
    · exact inv_shutdown hinv
    · split
      · exact inv_serve hinv hinput
      · exact hinv
      · exact inv_shutdown hinv

end

end Service

theorem initialService_inv : initialService.Inv inputs :=
  ⟨fun _ => .inl rfl, fun _ _ _ hfd => (nomatch hfd), fun _ => .inl rfl,
    fun _ _ => rfl⟩

theorem serviceRun_inv (inputs : List ServiceInput) :
    (serviceRun inputs).Inv inputs :=
  Machine.run_invariant initialService_inv
    fun _ _ hinput hinv => Service.inv_round hinv hinput

def ConnectionEvent.isResponse : ConnectionEvent → Bool
  | .responded _ _ => true
  | _ => false

/-- What holds of every response: it belongs to the packet and the peer of its
connection, and its status is justified by what was observed in the run. -/
structure Justified (inputs : List ServiceInput)
    (history : List ConnectionEvent) (response : DeviceResponse)
    (timer : Option Int) (uid : Uid) (packet : List Byte) : Prop where
  peer : .accepted uid ∈ history
  received : ∃ processed, .received packet processed ∈ history
  only : ∀ other processed, .received other processed ∈ history → other = packet
  own : response = responseTo uid packet response.status response.devices
  admin : (requestOf packet).operation = opAdminProbe →
    response.status = .ok → uid = 0
  wait : (requestOf packet).operation = opWait → response.status = .ok →
    response.devices &&& (requestOf packet).value = (requestOf packet).value
  timeout : response.status = .timeout →
    response.devices &&& (requestOf packet).value ≠ (requestOf packet).value ∧
      ∃ start clock, .waits start ∈ history ∧
        WaitsSince inputs uid packet start ∧
        SeenChecking inputs response.devices clock ∧
        timer = some (clockMs clock) ∧ ∀ now, clock = some now →
          start + (requestOf packet).timeoutMs.toNat ≤ now
  direct : timer = none → ∃ clock, SeenServing inputs response.devices clock ∧
    directStatus uid packet response.devices clock = some response.status
  late : ∀ now, timer = some now →
    ∃ clock, SeenChecking inputs response.devices clock ∧ now = clockMs clock ∧
      response.status =
        if holdsAll response.devices (requestOf packet).value then .ok
        else .timeout

/-- A wait that is answered `OK` at once has its flags. -/
theorem waitStatus_ok {request : DeviceRequest}
    (hstatus : waitStatus request devices clock = some .ok) :
    devices &&& request.value = request.value := by
  unfold waitStatus at hstatus
  split_ifs at hstatus with hinvalid hdevices hclock
  · cases hstatus
  · exact eq_of_beq hdevices
  · cases hstatus

theorem directStatus_ok
    (hstatus : directStatus uid packet devices clock = some .ok) :
    ((requestOf packet).operation = opAdminProbe → uid = 0) ∧
      ((requestOf packet).operation = opWait →
        devices &&& (requestOf packet).value = (requestOf packet).value) := by
  unfold directStatus at hstatus
  dsimp only at hstatus
  split_ifs at hstatus with hshort hversion hrequired hdenied hwait
  · cases hstatus
  · cases hstatus
  · cases hstatus
  · cases hstatus
  · refine ⟨fun hadmin => ?_, fun _ => waitStatus_ok hstatus⟩
    exact absurd (hwait.symm.trans hadmin) (by decide)
  · refine ⟨fun hadmin => ?_, fun hoperation => absurd hoperation hwait⟩
    by_contra huid
    apply hdenied
    rw [hadmin, peerCapabilities, if_neg huid]
    decide

theorem directStatus_ne_timeout :
    directStatus uid packet devices clock ≠ some .timeout := by
  intro hstatus
  unfold directStatus waitStatus at hstatus
  dsimp only at hstatus
  split_ifs at hstatus <;> cases hstatus

/-- Only a wait is not answered at once. -/
theorem directStatus_operation
    (hstatus : directStatus uid packet devices clock = none) :
    (requestOf packet).operation = opWait := by
  by_contra hwait
  unfold directStatus at hstatus
  dsimp only at hstatus
  rw [if_neg hwait] at hstatus
  split_ifs at hstatus

theorem WaitsSince.operation {start : Int}
    (hwaits : WaitsSince inputs uid packet start) :
    (requestOf packet).operation = opWait := by
  obtain ⟨devices, clock, -, hstatus, -⟩ := hwaits
  exact directStatus_operation hstatus

section

variable (hlife : Lifecycle inputs history)

include hlife

variable {timer : Option Int} {response : DeviceResponse}

/-- A response has one of three origins. -/
theorem Lifecycle.justified (hresponse : .responded response timer ∈ history) :
    ∃ uid packet, Justified inputs history response timer uid packet := by
  cases hlife with
  | opened uid | dropped uid | waiting hwaits | left hwaits => simp at hresponse
  | @answered uid packet devices clock status hseen hstatus =>
    simp only [List.mem_cons, reduceCtorEq, ConnectionEvent.responded.injEq,
      List.not_mem_nil, or_false, false_or] at hresponse
    obtain ⟨rfl, rfl⟩ := hresponse
    refine ⟨uid, packet, by simp, by simp, by simp, rfl, ?_, ?_, ?_,
      fun _ => ⟨clock, hseen, hstatus⟩, fun _ htimer => (nomatch htimer)⟩
    · rintro hadmin rfl
      exact (directStatus_ok hstatus).1 hadmin
    · rintro hwait rfl
      exact (directStatus_ok hstatus).2 hwait
    · rintro rfl
      exact absurd hstatus directStatus_ne_timeout
  | @appeared uid packet start devices clock hwaits hseen hdevices =>
    simp only [List.mem_cons, reduceCtorEq, ConnectionEvent.responded.injEq,
      List.not_mem_nil, or_false, false_or] at hresponse
    obtain ⟨rfl, rfl⟩ := hresponse
    refine ⟨uid, packet, by simp, by simp, by simp, rfl, ?_,
      fun _ _ => eq_of_beq hdevices, fun htimeout => (nomatch htimeout),
      fun htimer => (nomatch htimer), ?_⟩
    · intro hadmin
      exact absurd (hwaits.operation.symm.trans hadmin) (by decide)
    · rintro now ⟨⟩
      exact ⟨clock, hseen, rfl, (if_pos hdevices).symm⟩
  | @expired uid packet start devices clock hwaits hseen hdevices hnow =>
    simp only [List.mem_cons, reduceCtorEq, ConnectionEvent.responded.injEq,
      List.not_mem_nil, or_false, false_or] at hresponse
    obtain ⟨rfl, rfl⟩ := hresponse
    refine ⟨uid, packet, by simp, by simp, by simp, rfl,
      fun _ hok => (nomatch hok), fun _ hok => (nomatch hok), fun _ => ?_,
      fun htimer => (nomatch htimer), ?_⟩
    · refine ⟨ne_of_beq_false hdevices, start, clock, by simp, hwaits, hseen,
        rfl, ?_⟩
      rintro now rfl
      exact hnow.resolve_left (Int.not_lt.mpr (Int.natCast_nonneg now))
    · rintro now ⟨⟩
      refine ⟨clock, hseen, rfl, (if_neg ?_).symm⟩
      exact Bool.not_eq_true _ |>.mpr hdevices

/-- A packet that is received is processed if it fills a request, and a shorter
one is answered at once. -/
theorem Lifecycle.received {processed : Bool}
    (hreceived : .received packet processed ∈ history) :
    (processed = true ↔ requestSize ≤ packet.length) ∧
      (packet.length < requestSize → ∃ uid devices clock,
        SeenServing inputs devices clock ∧ history = [.closed,
          .responded (responseTo uid packet .invalid devices) none,
          .received packet false, .accepted uid]) := by
  have hwaited : ∀ uid start, WaitsSince inputs uid packet start →
      ¬ packet.length < requestSize := by
    rintro uid start ⟨devices, clock, -, hstatus, -⟩ hshort
    rw [directStatus_short hshort] at hstatus
    cases hstatus
  cases hlife with
  | opened uid | dropped uid => simp at hreceived
  | @answered uid other devices clock status hseen hstatus =>
    obtain ⟨rfl, rfl⟩ : packet = other ∧ _ := by simpa using hreceived
    refine ⟨decide_eq_true_iff, fun hshort => ?_⟩
    rw [directStatus_short hshort] at hstatus
    obtain rfl := Option.some.inj hstatus
    rw [decide_eq_false (Nat.not_le.mpr hshort)]
    exact ⟨uid, devices, clock, hseen, rfl⟩
  | waiting hwaits | left hwaits | appeared hwaits | expired hwaits =>
    obtain ⟨rfl, rfl⟩ : packet = _ ∧ processed = true := by
      simpa using hreceived
    have hfull := hwaited _ _ hwaits
    exact ⟨iff_of_true rfl (Nat.not_lt.mp hfull),
      fun hshort => absurd hshort hfull⟩

/-- A connection is closed right after its response. -/
theorem Lifecycle.last {newer older : List ConnectionEvent}
    (hhistory : history = newer ++ .responded response timer :: older) :
    newer = [.closed] := by
  cases hlife <;> rcases newer with _ | ⟨first, _ | ⟨second, rest⟩⟩ <;>
    simp_all [List.cons_eq_append_iff]

theorem Lifecycle.count : history.countP ConnectionEvent.isResponse ≤ 1 := by
  cases hlife <;> simp [List.countP_cons, ConnectionEvent.isResponse]

end

/-- Every connection of every run is sent at most one response and is closed
right after it, and the response is justified by the connection's own peer and
packet and by what was observed in the run. -/
theorem serviceRun_answers (inputs : List ServiceInput)
    (connection : Connection) :
    ((serviceRun inputs).history connection).countP
        ConnectionEvent.isResponse ≤ 1 ∧
      ∀ newer response timer older, (serviceRun inputs).history connection =
          newer ++ .responded response timer :: older →
        newer = [.closed] ∧ ∃ uid packet,
          Justified inputs ((serviceRun inputs).history connection) response
            timer uid packet := by
  rcases (serviceRun_inv inputs).life connection with hnone | hlife
  · rw [hnone]
    exact ⟨Nat.zero_le _, fun _ _ _ _ hhistory => by simp at hhistory⟩
  · refine ⟨hlife.count, fun newer response timer older hhistory => ?_⟩
    refine ⟨hlife.last hhistory, hlife.justified ?_⟩
    rw [hhistory]
    simp

end Micronux
