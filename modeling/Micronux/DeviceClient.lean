/-
The client library of the device service, and both programs together: the
rounds of the service, the packets of its peers and a call that waits lie on
one time line, in nanoseconds of the monotonic clock.
-/
import Micronux.DeviceServiceTurns
import Micronux.PayloadPack

namespace Micronux

/-- `MICRONUX_DEVICE_SOCKET_PATH` -/
def deviceSocketPath : String := "/run/micronux/device-v1.sock"

/-- `sizeof(address.sun_path)` -/
def sunPathSize : Nat := 108

/-- `CLIENT_RESPONSE_GRACE_MS` -/
def clientResponseGraceMs : Word := 1000#32

def DeviceStatus.wire : DeviceStatus → Int
  | .ok => 0
  | .version => -1
  | .denied => -2
  | .invalid => -3
  | .timeout => -4
  | .io => -5

/-- What a failed call leaves in `errno`: a number of its own, that of the
system call that failed, or what was there before. -/
inductive ClientErrno where
  | protocolNotSupported
  | access
  | invalid
  | timedOut
  | busy
  | io
  | badMessage
  | protocol
  | nameTooLong
  | system
  | unchanged
deriving DecidableEq

/-- `status_errno` -/
def statusErrno (status : Int) : ClientErrno :=
  if status = -1 then .protocolNotSupported
  else if status = -2 then .access
  else if status = -3 then .invalid
  else if status = -4 then .timedOut
  else if status = -6 then .busy
  else .io

def DeviceRequest.encode (request : DeviceRequest) : List Byte :=
  le32 request.magic ++ le16 request.abiMajor ++ le16 request.abiMinor ++
    le32 request.requestId ++ le32 request.operation ++ le32 request.value ++
    le32 request.timeoutMs

/-- The last answer of `poll`, which is asked again when a signal interrupts
it. -/
inductive ClientPoll where
  | expired
  | failed
  | ready (readable broken : Bool)
deriving DecidableEq

/-- What the system answers in an exchange: whether a call succeeds, how many
bytes are sent, and the response where a whole one is received. -/
structure ExchangeAnswers where
  socket : Bool := true
  connect : Bool := true
  sent : Option Nat := some requestSize
  poll : ClientPoll := .ready true false
  recv : Option DeviceResponse := none

def exchangeRequest (requestId operation value timeoutMs : Word) :
    DeviceRequest where
  magic := deviceMagic
  abiMajor := deviceAbiMajor
  abiMinor := deviceAbiMinor
  requestId := requestId
  operation := operation
  value := value
  timeoutMs := timeoutMs

/-- The time that `exchange` gives `poll`. -/
def exchangePollMs (timeoutMs : Word) : Int :=
  (timeoutMs + clientResponseGraceMs).toInt

/-- The end of `exchange`: the checks of a response. -/
def checkResponse (requestId : Word) (response : DeviceResponse) :
    Except ClientErrno DeviceResponse :=
  if response.magic ≠ deviceMagic ∨ response.requestId ≠ requestId ∨
      response.abiMajor ≠ deviceAbiMajor then .error .protocol
  else if response.status.wire ≠ 0 then
    .error (statusErrno response.status.wire)
  else .ok response

/-- `exchange`, which sends its request as one packet. -/
def exchange (requestId : Word) (answers : ExchangeAnswers) :
    Except ClientErrno DeviceResponse :=
  if answers.socket = false then .error .system
  else if sunPathSize ≤ deviceSocketPath.utf8ByteSize then
    .error .nameTooLong
  else if answers.connect = false then .error .system
  else
    match answers.sent with
    | none => .error .system
    | some length =>
      if length ≠ requestSize then .error .io
      else
        match answers.poll with
        | .expired => .error .timedOut
        | .failed => .error .system
        | .ready readable broken =>
          if readable = false ∧ broken = true then .error .unchanged
          else
            match answers.recv with
            | none => .error .badMessage
            | some response => checkResponse requestId response

/-- `micronux_device_wait`; the pointer is null or the place for the result. -/
def micronuxDeviceWait (null : Bool) (required timeoutMs requestId : Word)
    (answers : ExchangeAnswers) : Except ClientErrno Word :=
  if null = true ∨ required = 0#32 ∨ timeoutMs = 0#32 ∨
      deviceMaxWaitMs < timeoutMs then .error .invalid
  else (exchange requestId answers).map DeviceResponse.devices

def nanosPerMs : Nat := 1000000

/-- What the service could observe at every instant, and when its clock cannot
be read. -/
structure DeviceWorld where
  observed : Nat → Observed
  clockFails : Nat → Bool := fun _ => false

/-- The instants of the three reads of `current_devices`. -/
structure DeviceSighting where
  storage : Nat
  network : Nat
  up : Nat
  storage_le : storage ≤ network
  network_le : network ≤ up

namespace DeviceWorld

/-- What `current_devices` finds. -/
def sight (world : DeviceWorld) (sighting : DeviceSighting) : Observed where
  storage := (world.observed sighting.storage).storage
  network := (world.observed sighting.network).network
  up := (world.observed sighting.up).up

/-- What `clock_gettime` says, in the milliseconds of `monotonic_ms`. -/
def reading (world : DeviceWorld) (instant : Nat) : Option Nat :=
  if world.clockFails instant then none else some (instant / nanosPerMs)

end DeviceWorld

/-- A round of the service on the time line.  The answers of `answers` that
depend on the time are those of the instants. -/
structure TimedRound where
  answers : ServiceInput
  start : Nat
  recv : ClientSlot → Nat
  seen : ClientSlot → DeviceSighting
  clock : ClientSlot → Nat
  sent : ClientSlot → Nat
  now : Nat
  devices : DeviceSighting
  checked : ClientSlot → Nat
  finish : Nat
  start_le : ∀ slot, start ≤ recv slot
  recv_le : ∀ slot, recv slot ≤ (seen slot).storage
  seen_le : ∀ slot, (seen slot).up ≤ clock slot
  clock_le : ∀ slot, clock slot ≤ sent slot
  sent_le : ∀ slot, sent slot ≤ now
  now_le : now ≤ devices.storage
  devices_le : ∀ slot, devices.up ≤ checked slot
  checked_le : ∀ slot, checked slot ≤ finish

namespace TimedRound

def input (round : TimedRound) (world : DeviceWorld) : ServiceInput :=
  { round.answers with
    seen := fun slot => world.sight (round.seen slot)
    clock := fun slot => world.reading (round.clock slot)
    now := world.reading round.now
    devices := world.sight round.devices }

theorem recv_le_clock (round : TimedRound) (slot : ClientSlot) :
    round.recv slot ≤ round.clock slot :=
  (round.recv_le slot).trans ((round.seen slot).storage_le.trans
    ((round.seen slot).network_le.trans (round.seen_le slot)))

theorem clock_le_now (round : TimedRound) (slot : ClientSlot) :
    round.clock slot ≤ round.now :=
  (round.clock_le slot).trans (round.sent_le slot)

theorem start_le_now (round : TimedRound) (slot : ClientSlot) :
    round.start ≤ round.now :=
  (round.start_le slot).trans ((round.recv_le_clock slot).trans
    (round.clock_le_now slot))

theorem now_le_checked (round : TimedRound) (slot : ClientSlot) :
    round.now ≤ round.checked slot :=
  round.now_le.trans (round.devices.storage_le.trans
    (round.devices.network_le.trans (round.devices_le slot)))

def replyAt (round : TimedRound) (slot : ClientSlot) : Option Int → Nat
  | none => round.sent slot
  | some _ => round.checked slot

end TimedRound

/-- The packets that the peers of the connections sent, and when. -/
abbrev Posted := Connection → List (List Byte × Nat)

def serviceAfter (world : DeviceWorld) (rounds : List TimedRound) : Service :=
  serviceRun (rounds.map fun round => round.input world)

/-- A packet that a round receives was sent before, or is the end of the
stream. -/
def TimedRound.Receives (round : TimedRound) (world : DeviceWorld)
    (posted : Posted) (service : Service) : Prop :=
  ∀ slot packet connection, round.answers.recv slot = .packet packet →
    ((service.opened (round.input world)).clients slot).fd = some connection →
    packet = [] ∨ ∃ instant, (packet, instant) ∈ posted connection ∧
      instant ≤ round.recv slot

/-- The service and all its peers, in a world. -/
structure Execution (world : DeviceWorld) where
  rounds : List TimedRound
  order : rounds.Pairwise fun earlier later => earlier.finish ≤ later.start
  posted : Posted
  receives : ∀ (index : Nat) (round : TimedRound), rounds[index]? = some round →
    round.Receives world posted (serviceAfter world (rounds.take index))

def Execution.Replies {world : DeviceWorld} (execution : Execution world)
    (connection : Connection) (response : DeviceResponse)
    (instant : Nat) : Prop :=
  ∃ (index : Nat) (round : TimedRound) (slot : ClientSlot)
    (timer : Option Int), execution.rounds[index]? = some round ∧
    (((serviceAfter world (execution.rounds.take index)).opened
      (round.input world)).clients slot).fd = some connection ∧
    .responded response timer ∉
      (serviceAfter world (execution.rounds.take index)).history connection ∧
    .responded response timer ∈
      (serviceAfter world (execution.rounds.take (index + 1))).history
        connection ∧
    instant = round.replyAt slot timer

/-- A call of `micronux_device_wait`.  Its connection is its own: what is sent
on it is the request, after the call began; what it receives was sent by the
service, before it returned; and `poll` expires no earlier than it should. -/
structure WaitCall {world : DeviceWorld} (execution : Execution world) where
  connection : Connection
  null : Bool
  required : Word
  timeoutMs : Word
  requestId : Word
  began : Nat
  returned : Nat
  answers : ExchangeAnswers
  sends : ∀ packet instant, (packet, instant) ∈ execution.posted connection →
    packet = (exchangeRequest requestId opWait required timeoutMs).encode ∧
      began ≤ instant
  receives : ∀ response, answers.recv = some response →
    ∃ instant ≤ returned, execution.Replies connection response instant
  expires : answers.poll = .expired →
    ∃ pollMs : Nat, exchangePollMs timeoutMs = pollMs ∧
      began + pollMs * nanosPerMs ≤ returned

namespace WaitCall

variable {world : DeviceWorld} {execution : Execution world}

def result (call : WaitCall execution) : Except ClientErrno Word :=
  micronuxDeviceWait call.null call.required call.timeoutMs call.requestId
    call.answers

/-- One `current_devices` found the devices during the call. -/
def Found (call : WaitCall execution) (devices : Word) : Prop :=
  ∃ sighting : DeviceSighting, call.began ≤ sighting.storage ∧
    sighting.up ≤ call.returned ∧
    devices = currentDevices (world.sight sighting)

/-- The required devices were all there at one instant of the call. -/
def AtOnce (call : WaitCall execution) : Prop :=
  ∃ instant, call.began ≤ instant ∧ instant ≤ call.returned ∧
    holdsAll (currentDevices (world.observed instant)) call.required = true

/-- The clock could not be read at an instant of the call. -/
def ClockFailed (call : WaitCall execution) : Prop :=
  ∃ instant, call.began ≤ instant ∧ instant ≤ call.returned ∧
    world.clockFails instant = true

end WaitCall

end Micronux
