/-
The device service: a single-threaded server on a packet socket that answers
one request on each connection, at once or when the devices asked for appear.
A round of its main loop is one step on the answers of all its system calls.
A descriptor is open for one connection only, so the model names a connection
where the program holds a descriptor.
-/
import Micronux.Machine
import Micronux.Display

namespace Micronux

/-- `CLIENT_LIMIT` -/
def clientLimit : Nat := 8

abbrev ClientSlot := Fin clientLimit

abbrev Connection := Nat

abbrev Uid := Nat

/-- `MICRONUX_DEVICE_MAGIC` -/
def deviceMagic : Word := 0x584e554d#32

/-- `MICRONUX_DEVICE_ABI_MAJOR` -/
def deviceAbiMajor : BitVec 16 := 1#16

/-- `MICRONUX_DEVICE_ABI_MINOR` -/
def deviceAbiMinor : BitVec 16 := 0#16

/-- `MICRONUX_DEVICE_MAX_WAIT_MS` -/
def deviceMaxWaitMs : Word := 300000#32

/-- `MICRONUX_DEVICE_CAP_*` -/
def capObserve : Word := 1#32
def capControl : Word := 2#32
def capAdmin : Word := 4#32

/-- `MICRONUX_DEVICE_STORAGE_READY` and its fellows -/
def storageReady : Word := 1#32
def networkPresent : Word := 2#32
def networkUp : Word := 4#32

/-- `DEVICE_FLAG_MASK` -/
def deviceFlagMask : Word := storageReady ||| networkPresent ||| networkUp

/-- `MICRONUX_DEVICE_OP_*` -/
def opInfo : Word := 1#32
def opList : Word := 2#32
def opWait : Word := 3#32
def opAdminProbe : Word := 4#32

/-- `MICRONUX_DEVICE_STATUS_*` -/
inductive DeviceStatus where
  | ok
  | version
  | denied
  | invalid
  | timeout
  | io
deriving DecidableEq

/-- `sizeof(struct micronux_device_request)` -/
def requestSize : Nat := 24

def halfwordAt (bytes : List Byte) (offset : Nat) : BitVec 16 :=
  bytes.getD (offset + 1) 0#8 ++ bytes.getD offset 0#8

def wordAt (bytes : List Byte) (offset : Nat) : Word :=
  halfwordAt bytes (offset + 2) ++ halfwordAt bytes offset

/-- `struct micronux_device_request` -/
structure DeviceRequest where
  magic : Word
  abiMajor : BitVec 16
  abiMinor : BitVec 16
  requestId : Word
  operation : Word
  value : Word
  timeoutMs : Word
deriving DecidableEq

def decodeRequest (bytes : List Byte) : DeviceRequest where
  magic := wordAt bytes 0
  abiMajor := halfwordAt bytes 4
  abiMinor := halfwordAt bytes 6
  requestId := wordAt bytes 8
  operation := wordAt bytes 12
  value := wordAt bytes 16
  timeoutMs := wordAt bytes 20

/-- `struct micronux_device_response` -/
structure DeviceResponse where
  magic : Word
  abiMajor : BitVec 16
  abiMinor : BitVec 16
  requestId : Word
  status : DeviceStatus
  capabilities : Word
  devices : Word
  value : Word
deriving DecidableEq

/-- `enum client_state` -/
inductive ClientState where
  | free
  | request
  | wait
deriving DecidableEq

/-- `struct service_client`, with the bytes of its request. -/
structure ServiceClient where
  fd : Option Connection
  state : ClientState
  uid : Uid
  capabilities : Word
  waitMask : Word
  deadlineMs : Int
  request : List Byte
deriving DecidableEq

def freeClient : ServiceClient where
  fd := none
  state := .free
  uid := 0
  capabilities := 0#32
  waitMask := 0#32
  deadlineMs := 0
  request := List.replicate requestSize 0#8

/-- What happens on a connection: it is accepted, a packet is received (and
given to `process_request` or not), a wait starts at a time, a response is sent
(with the clock that the main loop read, where it was the main loop), and it is
closed. -/
inductive ConnectionEvent where
  | accepted (uid : Uid)
  | received (packet : List Byte) (processed : Bool)
  | waits (start : Int)
  | responded (response : DeviceResponse) (timer : Option Int)
  | closed
deriving DecidableEq

/-- What `stat` and the state file of the network show. -/
structure Observed where
  storage : Bool := false
  network : Bool := false
  up : Bool := false
deriving DecidableEq

/-- What `recv` returns. -/
inductive RecvAnswer where
  | packet (bytes : List Byte)
  | again
  | failed
deriving DecidableEq

/-- What `accept` returns, and whether the calls that prepare the descriptor
succeed. -/
inductive AcceptAnswer where
  | failed
  | connected (uid : Uid) (prepared : Bool)
deriving DecidableEq

inductive ServicePoll where
  | ready
  | interrupted
  | failed
deriving DecidableEq

/-- What the system answers in one round of the main loop. -/
structure ServiceInput where
  stop : Bool := false
  poll : ServicePoll := .ready
  listening : Bool := false
  accept : AcceptAnswer := .failed
  hangup : ClientSlot → Bool := fun _ => false
  readable : ClientSlot → Bool := fun _ => false
  recv : ClientSlot → RecvAnswer := fun _ => .again
  seen : ClientSlot → Observed := fun _ => {}
  clock : ClientSlot → Option Nat := fun _ => some 0
  now : Option Nat := some 0
  devices : Observed := {}

/-- `monotonic_ms` -/
def clockMs (clock : Option Nat) : Int :=
  match clock with
  | some now => now
  | none => -1

/-- `peer_capabilities` -/
def peerCapabilities (uid : Uid) : Word :=
  if uid = 0 then capObserve ||| capControl ||| capAdmin else capObserve

/-- `required_capability` -/
def requiredCapability (operation : Word) : Word :=
  if operation = opInfo then 0#32
  else if operation = opList ∨ operation = opWait then capObserve
  else if operation = opAdminProbe then capAdmin
  else 0xffffffff#32

/-- `current_devices` -/
def currentDevices (observed : Observed) : Word :=
  (if observed.storage then storageReady else 0#32) |||
    if observed.network then
      networkPresent ||| if observed.up then networkUp else 0#32
    else 0#32

/-- A client and what happened on its connection, newest first. -/
abbrev Handled := ServiceClient × List ConnectionEvent

/-- `close_client` -/
def closeClient (client : ServiceClient) : Handled :=
  (freeClient, if client.fd.isSome then [.closed] else [])

/-- The response that `respond` sends. -/
def ServiceClient.response (client : ServiceClient) (status : DeviceStatus)
    (devices : Word) : DeviceResponse where
  magic := deviceMagic
  abiMajor := deviceAbiMajor
  abiMinor := deviceAbiMinor
  requestId := (decodeRequest client.request).requestId
  status := status
  capabilities := client.capabilities
  devices := devices
  value := 0#32

/-- `respond` -/
def respond (client : ServiceClient) (status : DeviceStatus) (devices : Word)
    (timer : Option Int) : Handled :=
  let (closed, events) := closeClient client
  (closed, events ++ [.responded (client.response status devices) timer])

def holdsAll (devices mask : Word) : Bool :=
  devices &&& mask == mask

/-- `process_request` for a wait -/
def processWait (client : ServiceClient) (request : DeviceRequest)
    (devices : Word) (clock : Option Nat) : Handled :=
  if request.value = 0#32 ∨ request.value &&& ~~~deviceFlagMask ≠ 0#32 ∨
      request.timeoutMs = 0#32 ∨ deviceMaxWaitMs < request.timeoutMs then
    respond client .invalid devices none
  else if holdsAll devices request.value then respond client .ok devices none
  else if clockMs clock < 0 then respond client .io devices none
  else
    ({ client with
        waitMask := request.value
        deadlineMs := clockMs clock + request.timeoutMs.toNat
        state := .wait }, [.waits (clockMs clock)])

/-- `process_request` -/
def processRequest (client : ServiceClient) (devices : Word)
    (clock : Option Nat) : Handled :=
  let request := decodeRequest client.request
  let required := requiredCapability request.operation
  if request.magic ≠ deviceMagic ∨ request.abiMajor ≠ deviceAbiMajor then
    respond client .version devices none
  else if required = 0xffffffff#32 then
    respond client .invalid devices none
  else if client.capabilities &&& required ≠ required then
    respond client .denied devices none
  else if request.operation = opWait then
    processWait client request devices clock
  else respond client .ok devices none

/-- `recv` into the memory of the request: a short packet leaves the rest. -/
def fillRequest (memory packet : List Byte) : List Byte :=
  packet.take requestSize ++ memory.drop (min packet.length requestSize)

/-- The length that `recv` returns: what the memory of the request has no
place for is lost. -/
def recvLength (packet : List Byte) : Nat :=
  min packet.length requestSize

/-- `receive_request` -/
def receiveRequest (client : ServiceClient) (answer : RecvAnswer)
    (devices : Word) (clock : Option Nat) : Handled :=
  match answer with
  | .again => (client, [])
  | .failed => closeClient client
  | .packet bytes =>
    let filled := { client with request := fillRequest client.request bytes }
    if recvLength bytes = requestSize then
      let (handled, events) := processRequest filled devices clock
      (handled, events ++ [.received bytes true])
    else
      let (handled, events) := respond filled .invalid devices none
      (handled, events ++ [.received bytes false])

/-- The first loop of a round, for one client. -/
def serveClient (hangup readable : Bool) (answer : RecvAnswer)
    (devices : Word) (clock : Option Nat) (client : ServiceClient) : Handled :=
  if client.state = .free then (client, [])
  else if hangup then closeClient client
  else if client.state = .request ∧ readable = true then
    receiveRequest client answer devices clock
  else (client, [])

/-- The second loop of a round, for one client. -/
def checkWait (now : Int) (devices : Word) (client : ServiceClient) : Handled :=
  if client.state ≠ .wait then (client, [])
  else if holdsAll devices client.waitMask then
    respond client .ok devices (some now)
  else if now < 0 ∨ client.deadlineMs ≤ now then
    respond client .timeout devices (some now)
  else (client, [])

/-- The clients of the service.  The last two fields are history: the number
of connections accepted and the events of all connections, newest first. -/
structure Service where
  clients : ClientSlot → ServiceClient
  running : Bool
  accepted : Nat
  log : List (Connection × ConnectionEvent)

namespace Service

def history (service : Service) (connection : Connection) :
    List ConnectionEvent :=
  (service.log.filter fun entry => entry.1 = connection).map Prod.snd

def handle (service : Service) (slot : ClientSlot) (handled : Handled) :
    Service :=
  match (service.clients slot).fd with
  | none => service
  | some connection =>
    { service with
      clients := Function.update service.clients slot handled.1
      log := handled.2.map (fun event => (connection, event)) ++ service.log }

/-- `accept_client` -/
def acceptClient (service : Service) (answer : AcceptAnswer) : Service :=
  match answer with
  | .failed => service
  | .connected uid prepared =>
    let connection := service.accepted
    match (List.finRange clientLimit).find? fun slot =>
        (service.clients slot).state = .free with
    | none => { service with
        accepted := connection + 1
        log := (connection, .closed) :: (connection, .accepted uid) ::
          service.log }
    | some slot =>
      if prepared then
        { service with
          clients := Function.update service.clients slot
            { service.clients slot with
              fd := some connection
              state := .request
              uid := uid
              capabilities := peerCapabilities uid }
          accepted := connection + 1
          log := (connection, .accepted uid) :: service.log }
      else { service with
        accepted := connection + 1
        log := (connection, .closed) :: (connection, .accepted uid) ::
          service.log }

def forClients (service : Service)
    (body : ClientSlot → ServiceClient → Handled) : Service :=
  (List.finRange clientLimit).foldl (fun service slot =>
    service.handle slot (body slot (service.clients slot))) service

/-- The end of `main` -/
def shutdown (service : Service) : Service :=
  { service.forClients fun _ => closeClient with running := false }

/-- A round of the main loop after `poll`, which reports nothing on a slot
that had no descriptor. -/
def serve (service : Service) (input : ServiceInput) : Service :=
  let polled := fun slot => (service.clients slot).fd.isSome
  let accepted :=
    if input.listening then service.acceptClient input.accept else service
  let served := accepted.forClients fun slot =>
    serveClient (polled slot && input.hangup slot)
      (polled slot && input.readable slot) (input.recv slot)
      (currentDevices (input.seen slot)) (input.clock slot)
  served.forClients fun _ =>
    checkWait (clockMs input.now) (currentDevices input.devices)

def round (service : Service) (input : ServiceInput) : Service :=
  if !service.running then service
  else if input.stop then service.shutdown
  else
    match input.poll with
    | .ready => service.serve input
    | .interrupted => service
    | .failed => service.shutdown

end Service

def initialService : Service where
  clients := fun _ => freeClient
  running := true
  accepted := 0
  log := []

/-- `main` after some rounds. -/
def serviceRun (inputs : List ServiceInput) : Service :=
  Machine.run Service.round initialService inputs

end Micronux
