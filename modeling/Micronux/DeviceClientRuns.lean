/-
What a call of `micronux_device_wait` may rely on, in every execution of the
service and its peers.
-/
import Micronux.DeviceClient

namespace Micronux

/-- The service reads the request that the library wrote. -/
theorem requestOf_encode (request : DeviceRequest) :
    requestOf request.encode = request := by
  have hdecode : decodeRequest request.encode = request := by
    cases request
    simp only [decodeRequest, DeviceRequest.mk.injEq]
    exact ⟨le32_join _, le16_join _, le16_join _, le32_join _, le32_join _,
      le32_join _, le32_join _⟩
  exact hdecode

variable {devices timeoutMs requestId : Word} {response : DeviceResponse}
  {clock : Option Nat}

/-- A wait that is not refused is valid. -/
theorem waitStatus_valid {request : DeviceRequest}
    (hstatus : waitStatus request devices clock ≠ some .invalid) :
    request.value &&& ~~~deviceFlagMask = 0#32 := by
  by_contra hmask
  exact hstatus (if_pos (.inr (.inl hmask)))

theorem waitStatus_none {request : DeviceRequest}
    (hstatus : waitStatus request devices none = none) : False := by
  unfold waitStatus at hstatus
  have hclock : clockMs none < 0 := by decide
  rw [if_pos hclock] at hstatus
  split_ifs at hstatus

/-- A wait that is not answered at once, or is answered `OK`, has passed the
checks of `process_request`. -/
theorem directStatus_wait {uid : Uid} {packet : List Byte}
    (hwait : (requestOf packet).operation = opWait)
    (hstatus : directStatus uid packet devices clock = none ∨
      directStatus uid packet devices clock = some .ok) :
    requestSize ≤ packet.length ∧ directStatus uid packet devices clock =
      waitStatus (requestOf packet) devices clock := by
  have hrefused : ∀ status : DeviceStatus, status ≠ .ok →
      directStatus uid packet devices clock ≠ some status := by
    rintro status hne hother
    rcases hstatus with hnone | hok
    · exact absurd (hnone.symm.trans hother) (by simp)
    · exact hne (Option.some.inj (hother.symm.trans hok))
  unfold directStatus at hrefused ⊢
  dsimp only at hrefused ⊢
  rw [if_pos hwait] at hrefused ⊢
  split_ifs at hrefused ⊢ with hshort
  · exact absurd rfl (hrefused .invalid (by decide))
  · exact absurd rfl (hrefused .version (by decide))
  · exact absurd rfl (hrefused .invalid (by decide))
  · exact absurd rfl (hrefused .denied (by decide))
  · exact ⟨Nat.not_lt.mp hshort, rfl⟩

theorem checkResponse_ok {result : DeviceResponse}
    (hresult : checkResponse requestId response = .ok result) :
    response.status = .ok ∧ result = response := by
  unfold checkResponse at hresult
  split_ifs at hresult with hheader hstatus
  refine ⟨?_, (Except.ok.inj hresult).symm⟩
  cases hvalue : response.status <;> rw [hvalue] at hstatus <;>
    first | rfl | exact absurd (by decide) hstatus

theorem checkResponse_timedOut
    (hresult : checkResponse requestId response = .error .timedOut) :
    response.status = .timeout := by
  unfold checkResponse at hresult
  split_ifs at hresult with hheader hstatus
  · cases hresult
  · have herrno := Except.error.inj hresult
    cases hvalue : response.status <;> rw [hvalue] at herrno <;>
      first | rfl | cases herrno

/-- How an exchange ends. -/
inductive ExchangeEnd (requestId : Word) (answers : ExchangeAnswers) :
    Except ClientErrno DeviceResponse → Prop where
  | failed {errno : ClientErrno} (herrno : errno ≠ .timedOut) :
      ExchangeEnd requestId answers (.error errno)
  | expired (hpoll : answers.poll = .expired) :
      ExchangeEnd requestId answers (.error .timedOut)
  | answered {response : DeviceResponse}
      (hresponse : answers.recv = some response) :
      ExchangeEnd requestId answers (checkResponse requestId response)

theorem exchange_end (requestId : Word) (answers : ExchangeAnswers) :
    ExchangeEnd requestId answers (exchange requestId answers) := by
  unfold exchange
  split
  · exact .failed (by decide)
  split
  · exact .failed (by decide)
  split
  · exact .failed (by decide)
  split
  · exact .failed (by decide)
  split
  · exact .failed (by decide)
  split
  · rename_i hpoll
    exact .expired hpoll
  · exact .failed (by decide)
  split
  · exact .failed (by decide)
  split
  · exact .failed (by decide)
  · rename_i response hresponse
    exact .answered hresponse

variable {answers : ExchangeAnswers}

/-- A call that succeeds has received an `OK`. -/
theorem micronuxDeviceWait_ok {null : Bool} {required : Word}
    (hresult : micronuxDeviceWait null required timeoutMs requestId answers =
      .ok devices) :
    ∃ response, answers.recv = some response ∧ response.status = .ok ∧
      response.devices = devices := by
  unfold micronuxDeviceWait at hresult
  split_ifs at hresult
  have hend := exchange_end requestId answers
  cases hexchange : exchange requestId answers with
  | error errno =>
    rw [hexchange] at hresult
    cases hresult
  | ok result =>
    rw [hexchange] at hresult hend
    generalize hanswer : (.ok result : Except ClientErrno DeviceResponse) =
      answer at hend
    cases hend with
    | failed | expired => cases hanswer
    | @answered response hresponse =>
      obtain ⟨hstatus, rfl⟩ := checkResponse_ok hanswer.symm
      exact ⟨_, hresponse, hstatus, Except.ok.inj hresult⟩

/-- A call that times out has received a `TIMEOUT`, or nothing in time. -/
theorem micronuxDeviceWait_timedOut {null : Bool} {required : Word}
    (hresult : micronuxDeviceWait null required timeoutMs requestId answers =
      .error .timedOut) :
    timeoutMs ≤ deviceMaxWaitMs ∧ (answers.poll = .expired ∨
      ∃ response, answers.recv = some response ∧
        response.status = .timeout) := by
  unfold micronuxDeviceWait at hresult
  split_ifs at hresult with hinvalid
  · cases hresult
  push Not at hinvalid
  refine ⟨BitVec.not_lt.mp hinvalid.2.2.2, ?_⟩
  have hend := exchange_end requestId answers
  cases hexchange : exchange requestId answers with
  | ok result =>
    rw [hexchange] at hresult
    cases hresult
  | error errno =>
    rw [hexchange] at hresult hend
    obtain rfl : errno = .timedOut := Except.error.inj hresult
    generalize hanswer :
      (.error .timedOut : Except ClientErrno DeviceResponse) = answer at hend
    cases hend with
    | failed herrno => exact absurd (Except.error.inj hanswer).symm herrno
    | expired hpoll => exact .inl hpoll
    | @answered response hresponse =>
      exact .inr ⟨response, hresponse, checkResponse_timedOut hanswer.symm⟩

variable {world : DeviceWorld}

theorem serviceAfter_succ {rounds : List TimedRound} {index : Nat}
    {round : TimedRound} (hround : rounds[index]? = some round) :
    serviceAfter world (rounds.take (index + 1)) =
      (serviceAfter world (rounds.take index)).round (round.input world) := by
  rw [serviceAfter, List.take_add_one, hround, List.map_append, serviceRun,
    Machine.run_append]
  rfl

namespace Execution

variable (execution : Execution world)

def service (index : Nat) : Service :=
  serviceAfter world (execution.rounds.take index)

theorem inv_service (index : Nat) : (execution.service index).Inv
      (execution.rounds.map fun round => round.input world) :=
  serviceRun_inv_of_subset
    (List.map_subset _ (List.take_subset index execution.rounds))

variable {execution}

theorem turn {index : Nat} {round : TimedRound}
    (hround : execution.rounds[index]? = some round)
    (connection : Connection) :
    Service.RoundTurn (execution.service index) (round.input world) connection
      ((execution.service (index + 1)).history connection) := by
  have hservice : execution.service (index + 1) =
      (execution.service index).round (round.input world) :=
    serviceAfter_succ hround
  rw [hservice]
  exact Service.round_turn (execution.inv_service index)
    (List.mem_map_of_mem (List.mem_of_getElem? hround)) connection

/-- A round ends before a later one starts. -/
theorem finish_le {earlier later : Nat} {first second : TimedRound}
    (hlt : earlier < later)
    (hfirst : execution.rounds[earlier]? = some first)
    (hsecond : execution.rounds[later]? = some second) :
    first.finish ≤ second.start := by
  obtain ⟨hearlier, rfl⟩ := List.getElem?_eq_some_iff.mp hfirst
  obtain ⟨hlater, rfl⟩ := List.getElem?_eq_some_iff.mp hsecond
  exact List.pairwise_iff_getElem.mp execution.order _ _ hearlier hlater hlt

/-- A valid wait of a connection, whose packet was sent before the clock was
read, up to an instant. -/
def WaitedBy (execution : Execution world) (connection : Connection)
    (packet : List Byte) (start : Int) (bound : Nat) : Prop :=
  (requestOf packet).value &&& ~~~deviceFlagMask = 0#32 ∧
    ∃ posted instant : Nat,
      (packet, posted) ∈ execution.posted connection ∧ posted ≤ instant ∧
      instant ≤ bound ∧ start = (instant / nanosPerMs : Nat)

variable {connection : Connection} {uid : Uid} {packet : List Byte}
  {start : Int} {index : Nat} {round : TimedRound} {slot : ClientSlot}

theorem WaitedBy.mono {bound later : Nat}
    (hwaited : execution.WaitedBy connection packet start bound)
    (hle : bound ≤ later) :
    execution.WaitedBy connection packet start later := by
  obtain ⟨hvalid, posted, instant, hposted, hsent, hread, hstart⟩ := hwaited
  exact ⟨hvalid, posted, instant, hposted, hsent, hread.trans hle, hstart⟩

/-- A packet that is long enough for a request was sent by the peer. -/
theorem posted_of_recv (hround : execution.rounds[index]? = some round)
    (hfd : (((execution.service index).opened (round.input world)).clients
      slot).fd = some connection)
    (hreceived : (round.input world).recv slot = .packet packet)
    (hfull : requestSize ≤ packet.length) :
    ∃ posted, (packet, posted) ∈ execution.posted connection ∧
      posted ≤ round.recv slot := by
  rcases execution.receives index round hround slot packet connection hreceived
    hfd with rfl | hposted
  · cases hfull
  · exact hposted

theorem waitedBy_starts (hround : execution.rounds[index]? = some round)
    (hfd : (((execution.service index).opened (round.input world)).clients
      slot).fd = some connection)
    (hstarts : StartsWait (round.input world) slot uid packet start) :
    execution.WaitedBy connection packet start round.now := by
  obtain ⟨hfull, hstatus⟩ := directStatus_wait
    (directStatus_operation hstarts.waits) (.inl hstarts.waits)
  rw [hstarts.waits] at hstatus
  obtain ⟨posted, hposted, hsent⟩ :=
    posted_of_recv hround hfd hstarts.received hfull
  have hvalid : (requestOf packet).value &&& ~~~deviceFlagMask = 0#32 :=
    waitStatus_valid fun hinvalid =>
      absurd (hstatus.trans hinvalid) (by simp)
  have hread : start = (round.clock slot / nanosPerMs : Nat) := by
    have hclock : (round.input world).clock slot =
        world.reading (round.clock slot) := rfl
    rw [hstarts.start, hclock]
    rw [hclock] at hstatus
    unfold DeviceWorld.reading at hstatus ⊢
    split
    · rename_i hfails
      rw [if_pos hfails] at hstatus
      exact (waitStatus_none hstatus.symm).elim
    · rfl
  exact ⟨hvalid, posted, round.clock slot, hposted,
    hsent.trans (round.recv_le_clock slot), round.clock_le_now slot, hread⟩

/-- A connection that waits before a round has been waiting since an earlier
one. -/
theorem waitedBy_start
    (hhistory : (execution.service index).history connection =
      waitHistory uid packet start) {later : Nat} (hlater : index ≤ later)
    (hround : execution.rounds[later]? = some round) :
    execution.WaitedBy connection packet start round.start := by
  induction index with
  | zero => cases hhistory
  | succ index ih =>
    have hearlier : index < execution.rounds.length := by
      obtain ⟨hlt, -⟩ := List.getElem?_eq_some_iff.mp hround
      omega
    obtain ⟨previous, hprevious⟩ : ∃ previous,
        execution.rounds[index]? = some previous :=
      ⟨_, List.getElem?_eq_getElem hearlier⟩
    rcases (execution.turn hprevious connection).waits
      (execution.inv_service index) hhistory with hold | ⟨slot, hfd, hstarts⟩
    · exact ih hold (Nat.le_of_succ_le hlater)
    · apply (waitedBy_starts hprevious hfd hstarts).mono
      exact (previous.now_le_checked slot).trans
        ((previous.checked_le slot).trans (finish_le hlater hprevious hround))

/-- A connection that waits when a round checks it. -/
theorem waitedBy_now (hround : execution.rounds[index]? = some round)
    (hfd : (((execution.service index).opened (round.input world)).clients
      slot).fd = some connection)
    (hwaits : (execution.service index).WaitsIn (round.input world) slot
      connection uid packet start) :
    execution.WaitedBy connection packet start round.now := by
  rcases hwaits with hold | hstarts
  · exact (waitedBy_start hold le_rfl hround).mono (round.start_le_now slot)
  · exact waitedBy_starts hround hfd hstarts

end Execution

namespace WaitCall

variable {execution : Execution world} (call : WaitCall execution)

def request : DeviceRequest :=
  exchangeRequest call.requestId opWait call.required call.timeoutMs

variable {call} {packet : List Byte} {start : Int} {bound : Nat}

theorem request_posted {instant : Nat}
    (hposted : (packet, instant) ∈ execution.posted call.connection) :
    requestOf packet = call.request ∧ call.began ≤ instant := by
  obtain ⟨rfl, hbegan⟩ := call.sends packet instant hposted
  exact ⟨requestOf_encode _, hbegan⟩

/-- What the service knows of a call that waits. -/
theorem waitedBy_call
    (hwaited : execution.WaitedBy call.connection packet start bound) :
    requestOf packet = call.request ∧
      call.required &&& ~~~deviceFlagMask = 0#32 ∧
      ∃ instant : Nat, call.began ≤ instant ∧ instant ≤ bound ∧
        start = (instant / nanosPerMs : Nat) := by
  obtain ⟨hvalid, posted, instant, hposted, hsent, hread, hstart⟩ := hwaited
  obtain ⟨hrequest, hbegan⟩ := request_posted hposted
  rw [hrequest] at hvalid
  exact ⟨hrequest, hvalid, instant, hbegan.trans hsent, hread, hstart⟩

/-- A packet that is answered `OK` is that of the call. -/
theorem answered_call {index : Nat} {round : TimedRound} {slot : ClientSlot}
    {uid : Uid} (hround : execution.rounds[index]? = some round)
    (hfd : (((execution.service index).opened (round.input world)).clients
      slot).fd = some call.connection)
    (hreceived : (round.input world).recv slot = .packet packet)
    (hstatus : directStatus uid packet devices clock = some .ok) :
    devices &&& call.required = call.required ∧
      call.required &&& ~~~deviceFlagMask = 0#32 ∧
      call.began ≤ round.recv slot := by
  rcases execution.receives index round hround slot packet _ hreceived hfd
    with rfl | ⟨instant, hposted, hinstant⟩
  · rw [directStatus_short (by decide)] at hstatus
    cases hstatus
  · obtain ⟨hrequest, hbegan⟩ := request_posted hposted
    have hwait : (requestOf packet).operation = opWait := by
      rw [hrequest]
      rfl
    obtain ⟨-, hdirect⟩ := directStatus_wait hwait (.inr hstatus)
    rw [hstatus, hrequest] at hdirect
    have hvalid : call.request.value &&& ~~~deviceFlagMask = 0#32 := by
      apply waitStatus_valid
      rw [← hdirect]
      decide
    exact ⟨waitStatus_ok hdirect.symm, hvalid, hbegan.trans hinstant⟩

theorem replies_ok {instant : Nat}
    (hreply : execution.Replies call.connection response instant)
    (hinstant : instant ≤ call.returned) (hok : response.status = .ok) :
    response.devices &&& call.required = call.required ∧
      call.required &&& ~~~deviceFlagMask = 0#32 ∧
      call.Found response.devices := by
  obtain ⟨index, round, slot, timer, hround, hfd, hnew, hresponse, rfl⟩ :=
    hreply
  cases (execution.turn hround call.connection).answer
    (execution.inv_service index) hfd hresponse hnew with
  | @direct uid packet status hreceived hstatus =>
    obtain rfl : status = .ok := hok
    obtain ⟨hdevices, hvalid, hbegan⟩ :=
      answered_call hround hfd hreceived hstatus
    refine ⟨hdevices, hvalid, round.seen slot, ?_, ?_, rfl⟩
    · exact hbegan.trans (round.recv_le slot)
    · exact (round.seen_le slot).trans ((round.clock_le slot).trans hinstant)
  | @appeared uid packet start hwaits hdevices =>
    obtain ⟨hrequest, hvalid, instant, hbegan, hnow, -⟩ :=
      waitedBy_call (execution.waitedBy_now hround hfd hwaits)
    rw [hrequest] at hdevices
    refine ⟨eq_of_beq hdevices, hvalid, round.devices, ?_, ?_, rfl⟩
    · exact hbegan.trans (hnow.trans round.now_le)
    · exact (round.devices_le slot).trans hinstant
  | expired => cases hok

theorem replies_timeout {instant : Nat}
    (hreply : execution.Replies call.connection response instant)
    (hinstant : instant ≤ call.returned)
    (htimeout : response.status = .timeout) :
    call.ClockFailed ∨ call.began + call.timeoutMs.toNat * nanosPerMs <
      call.returned + nanosPerMs := by
  obtain ⟨index, round, slot, timer, hround, hfd, hnew, hresponse, rfl⟩ :=
    hreply
  cases (execution.turn hround call.connection).answer
    (execution.inv_service index) hfd hresponse hnew with
  | @direct uid packet status hreceived hstatus =>
    obtain rfl : status = .timeout := htimeout
    exact absurd hstatus directStatus_ne_timeout
  | appeared => cases htimeout
  | @expired uid packet start hwaits hnow =>
    obtain ⟨hrequest, -, instant, hbegan, hread, rfl⟩ :=
      waitedBy_call (execution.waitedBy_now hround hfd hwaits)
    have hreturned : round.now ≤ call.returned :=
      (round.now_le_checked slot).trans hinstant
    have hreading : (round.input world).now = world.reading round.now := rfl
    rw [hrequest, hreading] at hnow
    unfold DeviceWorld.reading at hnow
    split at hnow
    · rename_i hfails
      exact .inl ⟨round.now, hbegan.trans hread, hreturned, hfails⟩
    · -- two readings that differ by the time asked for
      right
      have hlate : instant / nanosPerMs + call.timeoutMs.toNat ≤
          round.now / nanosPerMs := by
        rcases hnow with hneg | hlate
        · exact absurd hneg (Int.not_lt.mpr (Int.natCast_nonneg _))
        · exact Int.ofNat_le.mp hlate
      unfold nanosPerMs at hlate ⊢
      omega

end WaitCall

theorem exchangePollMs_eq (htimeout : timeoutMs ≤ deviceMaxWaitMs) :
    exchangePollMs timeoutMs = (timeoutMs.toNat + 1000 : Nat) := by
  have hbound : timeoutMs.toNat ≤ 300000 := htimeout
  have hsum : (timeoutMs + clientResponseGraceMs).toNat =
      timeoutMs.toNat + 1000 := by
    have hgrace : clientResponseGraceMs.toNat = 1000 := rfl
    rw [BitVec.toNat_add, hgrace]
    exact Nat.mod_eq_of_lt (by omega)
  rw [exchangePollMs, BitVec.toInt_eq_toNat_of_lt (by omega), hsum]

/-- In every execution of the service and its peers, a call that returns the
devices was told so by one `current_devices` during the call, and asked for
known flags only; a call that times out has waited for its time, to the
millisecond, unless the clock could not be read. -/
theorem waitCall_returns (world : DeviceWorld) (execution : Execution world)
    (call : WaitCall execution) :
    (∀ devices, call.result = .ok devices →
      devices &&& call.required = call.required ∧
        call.required &&& ~~~deviceFlagMask = 0#32 ∧ call.Found devices) ∧
    (call.result = .error .timedOut → call.ClockFailed ∨
      call.began + call.timeoutMs.toNat * nanosPerMs <
        call.returned + nanosPerMs) := by
  refine ⟨fun devices hresult => ?_, fun hresult => ?_⟩
  · obtain ⟨response, hresponse, hok, rfl⟩ := micronuxDeviceWait_ok hresult
    obtain ⟨instant, hinstant, hreply⟩ := call.receives response hresponse
    exact WaitCall.replies_ok hreply hinstant hok
  · obtain ⟨hmax, hexpired | ⟨response, hresponse, htimeout⟩⟩ :=
      micronuxDeviceWait_timedOut hresult
    · right
      obtain ⟨pollMs, hpollMs, hlate⟩ := call.expires hexpired
      rw [exchangePollMs_eq hmax] at hpollMs
      obtain rfl := Int.natCast_inj.mp hpollMs
      unfold nanosPerMs at hlate ⊢
      omega
    · obtain ⟨instant, hinstant, hreply⟩ := call.receives response hresponse
      exact WaitCall.replies_timeout hreply hinstant htimeout

def instantRound (answers : ServiceInput) (instant : Nat) : TimedRound where
  answers := answers
  start := instant
  recv := fun _ => instant
  seen := fun _ => ⟨instant, instant, instant, le_rfl, le_rfl⟩
  clock := fun _ => instant
  sent := fun _ => instant
  now := instant
  devices := ⟨instant, instant, instant, le_rfl, le_rfl⟩
  checked := fun _ => instant
  finish := instant
  start_le := fun _ => le_rfl
  recv_le := fun _ => le_rfl
  seen_le := fun _ => le_rfl
  clock_le := fun _ => le_rfl
  sent_le := fun _ => le_rfl
  now_le := le_rfl
  devices_le := fun _ => le_rfl
  checked_le := fun _ => le_rfl

def acceptRound (instant : Nat) : TimedRound :=
  instantRound { listening := true, accept := .connected 1000 true } instant

def packetAnswers (packet : List Byte) : ServiceInput where
  readable := fun slot => slot.val = 0
  recv := fun slot => if slot.val = 0 then .packet packet else .again

def waitPacket (required timeoutMs : Word) : List Byte :=
  (exchangeRequest 1#32 opWait required timeoutMs).encode

/-- One peer is accepted and sends one packet. -/
def singlePost (packet : List Byte) (instant : Nat) : Posted :=
  fun connection => if connection = 0 then [(packet, instant)] else []

theorem acceptRound_receives (world : DeviceWorld) (accept : Nat)
    (posted : Posted) (service : Service) :
    (acceptRound accept).Receives world posted service := by
  intro slot packet connection hpacket
  have hagain : (acceptRound accept).answers.recv slot = .again := rfl
  rw [hagain] at hpacket
  cases hpacket

theorem packetRound_receives {world : DeviceWorld} {round : TimedRound}
    {packet : List Byte} {instant : Nat} {service : Service}
    (hanswers : round.answers = packetAnswers packet)
    (hsent : instant ≤ round.recv firstSlot)
    (hfd : ((service.opened (round.input world)).clients firstSlot).fd =
      some 0) :
    round.Receives world (singlePost packet instant) service := by
  intro slot bytes connection hbytes hconnection
  rw [hanswers] at hbytes
  by_cases hslot : slot.val = 0
  · obtain rfl : slot = firstSlot := Fin.ext hslot
    obtain rfl : connection = 0 :=
      Option.some.inj (hconnection.symm.trans hfd)
    obtain rfl : packet = bytes := by
      simpa [packetAnswers, firstSlot] using hbytes
    exact .inr ⟨instant, List.mem_singleton_self _, hsent⟩
  · simp [packetAnswers, hslot] at hbytes

/-- A peer is accepted, and its packet is received in a later round. -/
def singleExecution (world : DeviceWorld) (accept instant : Nat)
    (packet : List Byte) (round : TimedRound)
    (hanswers : round.answers = packetAnswers packet)
    (horder : accept ≤ round.start) (hsent : instant ≤ round.recv firstSlot)
    (hfd : (((serviceAfter world [acceptRound accept]).opened
      (round.input world)).clients firstSlot).fd = some 0) :
    Execution world where
  rounds := [acceptRound accept, round]
  order := List.pairwise_pair.mpr horder
  posted := singlePost packet instant
  receives := fun index _ hturn =>
    match index with
    | 0 => Option.some.inj hturn ▸ acceptRound_receives world accept _ _
    | 1 => Option.some.inj hturn ▸ packetRound_receives hanswers hsent hfd
    | _ + 2 => nomatch hturn

/-- A wait for the storage that is received at the end of a millisecond. -/
def earlyRound : TimedRound where
  answers := packetAnswers (waitPacket storageReady 1#32)
  start := 920000
  recv := fun _ => 920000
  seen := fun _ => ⟨930000, 930000, 930000, le_rfl, le_rfl⟩
  clock := fun _ => 999999
  sent := fun _ => 999999
  now := 1000000
  devices := ⟨1000000, 1000000, 1000000, le_rfl, le_rfl⟩
  checked := fun _ => 1000001
  finish := 1000001
  start_le := fun _ => le_rfl
  recv_le := fun _ => by decide
  seen_le := fun _ => by decide
  clock_le := fun _ => le_rfl
  sent_le := fun _ => by decide
  now_le := le_rfl
  devices_le := fun _ => by decide
  checked_le := fun _ => le_rfl

def bareWorld : DeviceWorld where
  observed := fun _ => {}

def earlyExecution : Execution bareWorld :=
  singleExecution bareWorld 905000 910000 (waitPacket storageReady 1#32)
    earlyRound rfl (by decide) (by decide) (by decide +kernel)

/-- A call for one millisecond that takes a tenth of it. -/
def earlyCall : WaitCall earlyExecution where
  connection := 0
  null := false
  required := storageReady
  timeoutMs := 1#32
  requestId := 1#32
  began := 900000
  returned := 1000002
  answers :=
    { recv := some
        (responseTo 1000 (waitPacket storageReady 1#32) .timeout 0#32) }
  sends := by
    intro packet instant hposted
    obtain ⟨rfl, rfl⟩ : packet = waitPacket storageReady 1#32 ∧
        instant = 910000 := by
      simpa [earlyExecution, singleExecution, singlePost] using hposted
    exact ⟨rfl, by decide⟩
  receives := by
    rintro response ⟨⟩
    exact ⟨1000001, by decide, 1, earlyRound, firstSlot, some 1, rfl,
      by decide +kernel, by decide +kernel, by decide +kernel, rfl⟩
  expires := fun hpoll => nomatch hpoll

/-- A wait for the storage and the network, whose first read is made before
the others. -/
def splitRound : TimedRound where
  answers := packetAnswers (waitPacket (storageReady ||| networkPresent) 5#32)
  start := 12
  recv := fun _ => 12
  seen := fun _ => ⟨15, 25, 25, by decide, le_rfl⟩
  clock := fun _ => 25
  sent := fun _ => 26
  now := 27
  devices := ⟨27, 27, 27, le_rfl, le_rfl⟩
  checked := fun _ => 28
  finish := 28
  start_le := fun _ => le_rfl
  recv_le := fun _ => by decide
  seen_le := fun _ => le_rfl
  clock_le := fun _ => by decide
  sent_le := fun _ => by decide
  now_le := le_rfl
  devices_le := fun _ => by decide
  checked_le := fun _ => le_rfl

/-- The storage is gone when the network appears. -/
def splitWorld : DeviceWorld where
  observed := fun instant =>
    { storage := decide (instant < 20), network := decide (20 ≤ instant) }

def splitExecution : Execution splitWorld :=
  singleExecution splitWorld 10 11
    (waitPacket (storageReady ||| networkPresent) 5#32) splitRound rfl
    (by decide) (by decide) (by decide +kernel)

/-- A call that is told of devices that were never there together. -/
def splitCall : WaitCall splitExecution where
  connection := 0
  null := false
  required := storageReady ||| networkPresent
  timeoutMs := 5#32
  requestId := 1#32
  began := 9
  returned := 30
  answers :=
    { recv := some
        (responseTo 1000 (waitPacket (storageReady ||| networkPresent) 5#32)
          .ok (storageReady ||| networkPresent)) }
  sends := by
    intro packet instant hposted
    obtain ⟨rfl, rfl⟩ :
        packet = waitPacket (storageReady ||| networkPresent) 5#32 ∧
          instant = 11 := by
      simpa [splitExecution, singleExecution, singlePost] using hposted
    exact ⟨rfl, by decide⟩
  receives := by
    rintro response ⟨⟩
    exact ⟨26, by decide, 1, splitRound, firstSlot, none, rfl,
      by decide +kernel, by decide +kernel, by decide +kernel, rfl⟩
  expires := fun hpoll => nomatch hpoll

theorem splitWorld_never (instant : Nat) :
    holdsAll (currentDevices (splitWorld.observed instant))
      (storageReady ||| networkPresent) = false := by
  by_cases hinstant : instant < 20
  · have hgone : ¬ 20 ≤ instant := Nat.not_le.mpr hinstant
    simp only [splitWorld, hinstant, hgone, decide_true, decide_false]
    decide
  · have hthere : 20 ≤ instant := Nat.not_lt.mp hinstant
    simp only [splitWorld, hinstant, hthere, decide_true, decide_false]
    decide

/-- A call may succeed though its devices were never there at one instant, and
may time out before its time is over though the clock is always read. -/
theorem waitCall_early :
    (splitCall.result = .ok (storageReady ||| networkPresent) ∧
      ¬ splitCall.AtOnce) ∧
    (earlyCall.result = .error .timedOut ∧ ¬ earlyCall.ClockFailed ∧
      earlyCall.returned <
        earlyCall.began + earlyCall.timeoutMs.toNat * nanosPerMs) := by
  refine ⟨⟨rfl, ?_⟩, rfl, ?_, by decide⟩
  · rintro ⟨instant, -, -, hthere⟩
    exact absurd hthere (Bool.eq_false_iff.mp (splitWorld_never instant))
  · rintro ⟨instant, -, -, hfails⟩
    cases hfails

end Micronux
