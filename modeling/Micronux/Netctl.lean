/-
The remote procedure calls of the network control program: a request is
written to the serial device, and frames are read from it until one answers.
The system's answers are a list that the calls use up; a call that needs one
more than there are is still waiting.
-/
import Micronux.Display

namespace Micronux

/-- The error numbers that the program sets itself, and those of the system. -/
inductive NetErrno where
  | msgSize
  | badMsg
  | timedOut
  | io
  | system
deriving DecidableEq

/-- `BUFFER_CAPACITY` -/
def bufferCapacity : Nat := 768

/-- `PSERIAL_ENDPOINT_CAPACITY` -/
def pserialEndpointCapacity : Nat := 16

/-- `RPC_TIMEOUT_MS` -/
def rpcTimeoutMs : Nat := 10000

/-- `RPC_TYPE_*` -/
def rpcTypeRequest : BitVec 64 := 1#64
def rpcTypeResponse : BitVec 64 := 2#64
def rpcTypeEvent : BitVec 64 := 3#64

/-- `RPC_RESPONSE_OFFSET` -/
def rpcResponseOffset : Word := 256#32

/-- `RPC_EVENT_STA_DISCONNECTED` -/
def rpcEventStaDisconnected : Word := 776#32

/-- `struct buffer` -/
structure NetBuffer where
  data : List Byte
  bound : data.length ≤ bufferCapacity

def NetBuffer.empty : NetBuffer := ⟨[], Nat.zero_le _⟩

/-- `buffer_append` -/
def bufferAppend (buffer : NetBuffer) (data : List Byte) :
    Except NetErrno NetBuffer :=
  if hlong : bufferCapacity - buffer.data.length < data.length then
    .error .msgSize
  else .ok ⟨buffer.data ++ data, by
    have hbound := buffer.bound
    rw [List.length_append]
    omega⟩

/-- `buffer_u16_le` -/
def u16Le (value : BitVec 16) : List Byte :=
  [value.setWidth 8, (value >>> 8).setWidth 8]

/-- `pb_varint` -/
def pbVarint (buffer : NetBuffer) (value : BitVec 64) :
    Except NetErrno NetBuffer :=
  let byte : Byte := (value &&& 0x7f#64).setWidth 8
  let next := value >>> 7
  if next = 0#64 then bufferAppend buffer [byte]
  else do
    let buffer ← bufferAppend buffer [byte ||| 0x80#8]
    pbVarint buffer next
termination_by value.toNat
decreasing_by
  rename_i hnext
  have hpositive : value.toNat / 128 ≠ 0 := by
    intro hzero
    apply hnext
    apply BitVec.eq_of_toNat_eq
    simpa [next, BitVec.toNat_ushiftRight, Nat.shiftRight_eq_div_pow] using hzero
  simp only [BitVec.toNat_ushiftRight, Nat.shiftRight_eq_div_pow]
  omega

/-- `pb_key` -/
def pbKey (buffer : NetBuffer) (field : Word) (wireType : BitVec 64) :
    Except NetErrno NetBuffer :=
  pbVarint buffer (field.setWidth 64 <<< 3 ||| wireType)

/-- `pb_uint` -/
def pbUint (buffer : NetBuffer) (field : Word) (value : BitVec 64) :
    Except NetErrno NetBuffer :=
  if value = 0#64 then .ok buffer
  else do
    let buffer ← pbKey buffer field 0#64
    pbVarint buffer value

/-- `pb_bytes` -/
def pbBytes (buffer : NetBuffer) (field : Word) (data : List Byte) :
    Except NetErrno NetBuffer := do
  let buffer ← pbKey buffer field 2#64
  let buffer ← pbVarint buffer (BitVec.ofNat 64 data.length)
  bufferAppend buffer data

/-- `decode_varint`, on the bytes from the offset on. -/
def decodeVarint (shift : Nat) (result : BitVec 64) :
    List Byte → Except NetErrno (BitVec 64 × List Byte)
  | [] => .error .badMsg
  | byte :: rest =>
    if 64 ≤ shift then .error .badMsg
    else
      let result := result ||| (byte &&& 0x7f#8).setWidth 64 <<< shift
      if byte &&& 0x80#8 = 0#8 then .ok (result, rest)
      else decodeVarint (shift + 7) result rest

/-- `struct pb_field` -/
structure PbField where
  number : Word
  wireType : Byte
  varint : BitVec 64 := 0#64
  bytes : List Byte := []
deriving DecidableEq

/-- `pb_next`, on the bytes from the offset on.  The number of a field is the
low word of its key. -/
def pbNext (data : List Byte) : Except NetErrno (PbField × List Byte) := do
  let (key, data) ← decodeVarint 0 0#64 data
  let number : Word := (key >>> 3).setWidth 32
  let wireType : Byte := (key &&& 7#64).setWidth 8
  if number = 0#32 then .error .badMsg
  else if wireType = 0#8 then do
    let (varint, data) ← decodeVarint 0 0#64 data
    .ok ({ number, wireType, varint }, data)
  else if wireType ≠ 2#8 then .error .badMsg
  else do
    let (length, data) ← decodeVarint 0 0#64 data
    if data.length < length.toNat then .error .badMsg
    else
      .ok ({ number, wireType, bytes := data.take length.toNat },
        data.drop length.toNat)

theorem decodeVarint_shorter {shift : Nat} {result value : BitVec 64}
    {data rest : List Byte}
    (hdecode : decodeVarint shift result data = .ok (value, rest)) :
    rest.length < data.length := by
  induction data generalizing shift result with
  | nil => cases hdecode
  | cons byte tail ih =>
    unfold decodeVarint at hdecode
    dsimp only at hdecode
    split_ifs at hdecode with hshift hlast
    · cases hdecode
      exact Nat.lt_succ_self _
    · exact Nat.lt_succ_of_lt (ih hdecode)

/-- A field is a key, and then a varint or as many bytes as a length says. -/
theorem pbNext_ok {data rest : List Byte} {field : PbField}
    (hnext : pbNext data = .ok (field, rest)) :
    ∃ key tail, decodeVarint 0 0#64 data = .ok (key, tail) ∧
      field.number = (key >>> 3).setWidth 32 ∧
      field.wireType = (key &&& 7#64).setWidth 8 ∧ field.number ≠ 0#32 ∧
      ((field.wireType = 0#8 ∧ field.bytes = [] ∧
          decodeVarint 0 0#64 tail = .ok (field.varint, rest)) ∨
        (field.wireType = 2#8 ∧ field.varint = 0#64 ∧
          ∃ length, decodeVarint 0 0#64 tail =
              .ok (length, field.bytes ++ rest) ∧
            field.bytes.length = length.toNat)) := by
  unfold pbNext at hnext
  cases hkey : decodeVarint 0 0#64 data with
  | error errno => rw [hkey] at hnext; cases hnext
  | ok decoded =>
    obtain ⟨key, tail⟩ := decoded
    rw [hkey] at hnext
    simp only [bind, Except.bind] at hnext
    split_ifs at hnext with hnumber hvarint hwire
    · cases hvalue : decodeVarint 0 0#64 tail with
      | error errno => rw [hvalue] at hnext; cases hnext
      | ok decoded =>
        rw [hvalue] at hnext
        cases hnext
        exact ⟨key, tail, rfl, rfl, rfl, hnumber, .inl ⟨hvarint, rfl, hvalue⟩⟩
    · cases hvalue : decodeVarint 0 0#64 tail with
      | error errno => rw [hvalue] at hnext; cases hnext
      | ok decoded =>
        obtain ⟨length, last⟩ := decoded
        rw [hvalue] at hnext
        dsimp only at hnext
        split_ifs at hnext with hlong
        cases hnext
        refine ⟨key, tail, rfl, rfl, rfl, hnumber,
          .inr ⟨not_not.mp hwire, rfl, length, ?_, ?_⟩⟩
        · rw [hvalue, List.take_append_drop]
        · exact List.length_take_of_le (Nat.not_lt.mp hlong)

/-- A field and what is left make up no more than the message. -/
theorem pbNext_length {data rest : List Byte} {field : PbField}
    (hnext : pbNext data = .ok (field, rest)) :
    field.bytes.length + rest.length < data.length := by
  obtain ⟨key, tail, hkey, -, -, -, hvalue⟩ := pbNext_ok hnext
  have htail := decodeVarint_shorter hkey
  rcases hvalue with ⟨-, hbytes, hvarint⟩ | ⟨-, -, length, hlength, -⟩
  · have hrest := decodeVarint_shorter hvarint
    rw [hbytes, List.length_nil]
    omega
  · have hlast := decodeVarint_shorter hlength
    rw [List.length_append] at hlast
    omega

/-- Induction over the fields of a message, up to its end or to a field that is
malformed. -/
@[elab_as_elim]
theorem message_induction {motive : List Byte → Prop} (nil : motive [])
    (malformed : ∀ data errno, data ≠ [] → pbNext data = .error errno →
      motive data)
    (field : ∀ data found rest, pbNext data = .ok (found, rest) →
      motive rest → motive data) (data : List Byte) : motive data := by
  induction hlength : data.length using Nat.strong_induction_on
    generalizing data with
  | h length ih =>
    by_cases hdata : data = []
    · rw [hdata]
      exact nil
    · cases hnext : pbNext data with
      | error errno => exact malformed data errno hdata hnext
      | ok decoded =>
        have hless := pbNext_length hnext
        exact field data decoded.1 decoded.2 hnext
          (ih decoded.2.length (by omega) decoded.2 rfl)

/-- A loop of `pb_next` over a message. -/
def pbFold {S : Type} (step : S → PbField → Except NetErrno S) (state : S)
    (data : List Byte) : Except NetErrno S :=
  if data = [] then .ok state
  else
    match _hnext : pbNext data with
    | .error errno => .error errno
    | .ok (field, rest) =>
      match step state field with
      | .error errno => .error errno
      | .ok state => pbFold step state rest
termination_by data.length
decreasing_by
  have hlength := pbNext_length _hnext
  omega

section pbFold

variable {S : Type} {step : S → PbField → Except NetErrno S}

theorem pbFold_nil (state : S) : pbFold step state [] = .ok state := by
  unfold pbFold
  rfl

theorem pbFold_error {data : List Byte} {errno : NetErrno} (hdata : data ≠ [])
    (hnext : pbNext data = .error errno) (state : S) :
    pbFold step state data = .error errno := by
  unfold pbFold
  rw [if_neg hdata]
  split
  · rename_i found hfound
    cases hfound.symm.trans hnext
    rfl
  · rename_i field rest hfound
    cases hfound.symm.trans hnext

theorem pbFold_field {data rest : List Byte} {field : PbField}
    (hnext : pbNext data = .ok (field, rest)) (state : S) :
    pbFold step state data =
      step state field >>= fun state => pbFold step state rest := by
  have hdata : data ≠ [] := by
    rintro rfl
    cases hnext
  rw [pbFold, if_neg hdata]
  split
  · rename_i errno hfound
    cases hfound.symm.trans hnext
  · rename_i found tail hfound
    cases hfound.symm.trans hnext
    cases step state field <;> rfl

end pbFold

/-- What the system answers in one turn of `read_exact`: the clock, whether
`poll` finds the device ready, and what `read` returns. -/
inductive SerialPoll where
  | ready
  | timedOut
  | hangup
  | failed
deriving DecidableEq

inductive SerialRead where
  | data (bytes : List Byte)
  | again
  | failed
deriving DecidableEq

structure SerialAnswer where
  now : Option Nat := some 0
  poll : SerialPoll := .ready
  read : SerialRead := .again
deriving DecidableEq

/-- The serial device: the answers to come, and the bytes read so far. -/
structure Serial where
  answers : List SerialAnswer
  received : List Byte
deriving DecidableEq

/-- How a call ends, if it does. -/
inductive NetResult (α : Type) where
  | waiting
  | failed (errno : NetErrno)
  | returned (value : α) (serial : Serial)
deriving DecidableEq

/-- `read_exact`, with the bytes read already.  `read` returns no more bytes
than it is asked for. -/
def readExact (deadline length : Nat) (done received : List Byte) :
    List SerialAnswer → NetResult (List Byte)
  | [] =>
    if done.length < length then .waiting
    else .returned done ⟨[], received⟩
  | answer :: answers =>
    if done.length < length then
      match answer.now with
      | none => .failed .system
      | some now =>
        if deadline ≤ now then .failed .timedOut
        else
          match answer.poll with
          | .timedOut => .failed .timedOut
          | .hangup => .failed .io
          | .failed => .failed .system
          | .ready =>
            match answer.read with
            | .again => readExact deadline length done received answers
            | .failed => .failed .system
            | .data bytes =>
              let bytes := bytes.take (length - done.length)
              if bytes = [] then .failed .io
              else
                readExact deadline length (done ++ bytes)
                  (received ++ bytes) answers
    else .returned done ⟨answer :: answers, received⟩

def NetResult.bind {α β : Type} (result : NetResult α)
    (next : α → Serial → NetResult β) : NetResult β :=
  match result with
  | .waiting => .waiting
  | .failed errno => .failed errno
  | .returned value serial => next value serial

/-- A frame of the serial protocol. -/
structure PserialFrame where
  endpoint : List Byte
  message : List Byte
deriving DecidableEq

def headerLength (header : List Byte) : Nat :=
  (header.getD 2 0#8 ++ header.getD 1 0#8).toNat

/-- `read_pserial_frame` -/
def readPserialFrame (deadline : Nat) (serial : Serial) :
    NetResult PserialFrame :=
  (readExact deadline 3 [] serial.received serial.answers).bind
    fun header serial =>
  if header.getD 0 0#8 ≠ 1#8 then .failed .badMsg
  else if headerLength header = 0 ∨
      pserialEndpointCapacity < headerLength header then .failed .badMsg
  else
    (readExact deadline (headerLength header) [] serial.received
      serial.answers).bind fun endpoint serial =>
    (readExact deadline 3 [] serial.received serial.answers).bind
      fun header serial =>
    if header.getD 0 0#8 ≠ 2#8 then .failed .badMsg
    else if bufferCapacity < headerLength header then .failed .badMsg
    else
      (readExact deadline (headerLength header) [] serial.received
        serial.answers).bind fun message serial =>
      .returned ⟨endpoint, message⟩ serial

/-- `struct station_disconnect_event` -/
structure StationDisconnect where
  seen : Bool := false
  reason : Word := 0#32
  rssi : Word := 0#32
deriving DecidableEq

/-- The variables of the first loop of `record_station_event`. -/
structure EventScan where
  messageType : BitVec 64 := 0#64
  messageId : BitVec 64 := 0#64
  payload : Option (List Byte) := none
deriving DecidableEq

def EventScan.note (scan : EventScan) (field : PbField) : EventScan :=
  if field.number = 1#32 ∧ field.wireType = 0#8 then
    { scan with messageType := field.varint }
  else if field.number = 2#32 ∧ field.wireType = 0#8 then
    { scan with messageId := field.varint }
  else if field.number = rpcEventStaDisconnected ∧ field.wireType = 2#8 then
    { scan with payload := some field.bytes }
  else scan

def noteDisconnectPayload (payload : Option (List Byte)) (field : PbField) :
    Option (List Byte) :=
  if field.number = 2#32 ∧ field.wireType = 2#8 then some field.bytes
  else payload

def StationDisconnect.note (event : StationDisconnect) (field : PbField) :
    StationDisconnect :=
  if field.number = 4#32 ∧ field.wireType = 0#8 then
    { event with reason := field.varint.setWidth 32 }
  else if field.number = 5#32 ∧ field.wireType = 0#8 then
    { event with rssi := field.varint.setWidth 32 }
  else event

/-- `record_station_event`: the event to remember, if the message has one. -/
def recordStationEvent (last : StationDisconnect) (message : List Byte) :
    Except NetErrno StationDisconnect := do
  let scan ← pbFold (fun scan field => .ok (scan.note field))
    ({} : EventScan) message
  if scan.messageType ≠ rpcTypeEvent ∨
      scan.messageId ≠ rpcEventStaDisconnected.setWidth 64 then .ok last
  else
    match scan.payload with
    | none => .error .badMsg
    | some payload => do
      let disconnect ← pbFold
        (fun found field => .ok (noteDisconnectPayload found field))
        none payload
      match disconnect with
      | none => .error .badMsg
      | some disconnect =>
        pbFold (fun event field => .ok (event.note field))
          { seen := true } disconnect

/-- What `write` returns, and whether `poll` finds room. -/
inductive SerialWrite where
  | wrote (count : Nat)
  | interrupted
  | full (room : Bool)
  | failed
deriving DecidableEq

/-- `write_all`, for the bytes still to be written. -/
def writeAll (left : Nat) : List SerialWrite → Option (Except NetErrno Unit)
  | [] => if left = 0 then some (.ok ()) else none
  | answer :: answers =>
    if left = 0 then some (.ok ())
    else
      match answer with
      | .wrote count =>
        if count = 0 then some (.error .system)
        else writeAll (left - count) answers
      | .interrupted => writeAll left answers
      | .full room =>
        if room then writeAll left answers else some (.error .system)
      | .failed => some (.error .system)

/-- "RPCRsp" -/
def responseEndpoint : List Byte :=
  [0x52#8, 0x50#8, 0x43#8, 0x52#8, 0x73#8, 0x70#8]

/-- "RPCEvt" -/
def eventEndpoint : List Byte :=
  [0x52#8, 0x50#8, 0x43#8, 0x45#8, 0x76#8, 0x74#8]

/-- The request that `rpc_exchange` writes. -/
def encodeRequest (uid requestId : Word) (payload : NetBuffer) :
    Except NetErrno NetBuffer := do
  let protobuf ← pbUint .empty 1#32 rpcTypeRequest
  let protobuf ← pbUint protobuf 2#32 (requestId.setWidth 64)
  let protobuf ← pbUint protobuf 3#32 (uid.setWidth 64)
  let protobuf ← pbBytes protobuf requestId payload.data
  let pserial ← bufferAppend .empty [1#8]
  let pserial ← bufferAppend pserial
    (u16Le (BitVec.ofNat 16 responseEndpoint.length))
  let pserial ← bufferAppend pserial responseEndpoint
  let pserial ← bufferAppend pserial [2#8]
  let pserial ← bufferAppend pserial
    (u16Le (BitVec.ofNat 16 protobuf.data.length))
  bufferAppend pserial protobuf.data

/-- The variables of a turn of `rpc_exchange`. -/
structure ResponseScan where
  messageType : BitVec 64 := 0#64
  messageId : BitVec 64 := 0#64
  responseUid : BitVec 64 := 0#64
  havePayload : Bool := false
  payload : NetBuffer := .empty

def ResponseScan.note (responseId : Word) (scan : ResponseScan)
    (field : PbField) : Except NetErrno ResponseScan :=
  if field.number = 1#32 ∧ field.wireType = 0#8 then
    .ok { scan with messageType := field.varint }
  else if field.number = 2#32 ∧ field.wireType = 0#8 then
    .ok { scan with messageId := field.varint }
  else if field.number = 3#32 ∧ field.wireType = 0#8 then
    .ok { scan with responseUid := field.varint }
  else if field.number = responseId ∧ field.wireType = 2#8 then
    match bufferAppend scan.payload field.bytes with
    | .error errno => .error errno
    | .ok payload => .ok { scan with havePayload := true, payload }
  else .ok scan

/-- What a turn of `rpc_exchange` makes of a frame. -/
inductive FrameVerdict where
  | skip (last : StationDisconnect)
  | fail (errno : NetErrno)
  | answer (payload : List Byte)

/-- A turn of `rpc_exchange`, after its frame was read. -/
def judgeFrame (uid responseId : Word) (last : StationDisconnect)
    (frame : PserialFrame) : FrameVerdict :=
  if frame.endpoint = eventEndpoint then
    match recordStationEvent last frame.message with
    | .error errno => .fail errno
    | .ok last => .skip last
  else if frame.endpoint ≠ responseEndpoint then .skip last
  else
    match pbFold (ResponseScan.note responseId) {} frame.message with
    | .error errno => .fail errno
    | .ok scan =>
      if scan.messageType ≠ rpcTypeResponse ∨
          scan.messageId ≠ responseId.setWidth 64 ∨
          scan.responseUid ≠ uid.setWidth 64 then .skip last
      else if scan.havePayload then .answer scan.payload.data
      else .fail .badMsg

/-- What `read_exact` returns, and what it takes from the device. -/
structure ReadExactly (length : Nat) (done received : List Byte)
    (answers : List SerialAnswer) (data : List Byte) (serial : Serial) :
    Prop where
  taken : ∃ bytes, data = done ++ bytes ∧ serial.received = received ++ bytes
  full : done.length ≤ length → data.length = length
  fewer : serial.answers.length ≤ answers.length
  fewerStill : done.length < length → serial.answers.length < answers.length

variable {deadline : Nat} {serial : Serial}

theorem readExact_returned {length : Nat} {done received : List Byte}
    {answers : List SerialAnswer} {data : List Byte}
    (hread : readExact deadline length done received answers =
      .returned data serial) :
    ReadExactly length done received answers data serial := by
  induction answers generalizing done received with
  | nil =>
    unfold readExact at hread
    split_ifs at hread with hmore
    cases hread
    exact ⟨⟨[], by simp⟩, fun hle => Nat.le_antisymm hle (Nat.not_lt.mp hmore),
      le_rfl, fun hlt => absurd hlt hmore⟩
  | cons answer answers ih =>
    unfold readExact at hread
    split at hread
    · rename_i hmore
      split at hread
      · cases hread
      · split at hread
        · cases hread
        · split at hread
          · cases hread
          · cases hread
          · cases hread
          · split at hread
            · obtain ⟨htaken, hfull, hfewer, -⟩ := ih hread
              exact ⟨htaken, hfull, Nat.le_succ_of_le hfewer,
                fun _ => Nat.lt_succ_of_le hfewer⟩
            · cases hread
            · rename_i bytes hbytes
              dsimp only at hread
              split at hread
              · cases hread
              · obtain ⟨⟨more, hdata, hreceived⟩, hfull, hfewer, -⟩ := ih hread
                refine ⟨⟨_, hdata.trans (List.append_assoc ..),
                  hreceived.trans (List.append_assoc ..)⟩, fun _ => hfull ?_,
                  Nat.le_succ_of_le hfewer, fun _ => Nat.lt_succ_of_le hfewer⟩
                rw [List.length_append, List.length_take]
                omega
    · rename_i hmore
      cases hread
      exact ⟨⟨[], by simp⟩,
        fun hle => Nat.le_antisymm hle (Nat.not_lt.mp hmore), le_rfl,
        fun hlt => absurd hlt hmore⟩

theorem readExact_all {length : Nat} {received : List Byte}
    {answers : List SerialAnswer} {data : List Byte}
    (hread : readExact deadline length [] received answers =
      .returned data serial) :
    data.length = length ∧ serial.received = received ++ data ∧
      serial.answers.length ≤ answers.length ∧
      (0 < length → serial.answers.length < answers.length) := by
  obtain ⟨⟨bytes, hdata, hreceived⟩, hfull, hfewer, hstill⟩ :=
    readExact_returned hread
  rw [List.nil_append] at hdata
  subst bytes
  exact ⟨hfull (Nat.zero_le _), hreceived, hfewer, hstill⟩

theorem NetResult.bind_returned {α β : Type} {result : NetResult α}
    {next : α → Serial → NetResult β} {value : β}
    (hbind : result.bind next = .returned value serial) :
    ∃ first between, result = .returned first between ∧
      next first between = .returned value serial := by
  cases result with
  | waiting | failed errno => cases hbind
  | returned first between => exact ⟨first, between, rfl, hbind⟩

def pserialPart (tag : Byte) (data : List Byte) : List Byte :=
  tag :: u16Le (BitVec.ofNat 16 data.length) ++ data

def PserialFrame.encode (frame : PserialFrame) : List Byte :=
  pserialPart 1#8 frame.endpoint ++ pserialPart 2#8 frame.message

/-- The lengths that a frame may have. -/
structure PserialFrame.Complete (frame : PserialFrame) : Prop where
  named : 0 < frame.endpoint.length
  endpoint : frame.endpoint.length ≤ pserialEndpointCapacity
  message : frame.message.length ≤ bufferCapacity

/-- A header and the data whose length it has. -/
theorem header_append {header data : List Byte} {tag : Byte}
    (hlength : header.length = 3) (htag : header.getD 0 0#8 = tag)
    (hdata : data.length = headerLength header) :
    header ++ data = pserialPart tag data := by
  obtain ⟨first, low, high, rfl⟩ : ∃ first low high,
      header = [first, low, high] := by
    match header, hlength with
    | [first, low, high], _ => exact ⟨first, low, high, rfl⟩
  have hfirst : first = tag := htag
  have hword : BitVec.ofNat 16 data.length = high ++ low := by
    rw [hdata, headerLength, BitVec.ofNat_toNat]
    exact BitVec.setWidth_eq _
  have hlow : (high ++ low).setWidth 8 = low := by
    apply BitVec.eq_of_toNat_eq
    have hbound := low.isLt
    rw [BitVec.toNat_setWidth, BitVec.toNat_append,
      ← Nat.shiftLeft_add_eq_or_of_lt hbound, Nat.shiftLeft_eq]
    omega
  have hhigh : ((high ++ low) >>> 8).setWidth 8 = high := by
    apply BitVec.eq_of_toNat_eq
    have hbound := low.isLt
    have hbound' := high.isLt
    rw [BitVec.toNat_setWidth, BitVec.toNat_ushiftRight, BitVec.toNat_append,
      ← Nat.shiftLeft_add_eq_or_of_lt hbound, Nat.shiftLeft_eq,
      Nat.shiftRight_eq_div_pow]
    omega
  rw [pserialPart, hword, u16Le, hlow, hhigh, hfirst]

/-- A frame is read whole. -/
theorem readPserialFrame_returned {next : Serial} {frame : PserialFrame}
    (hread : readPserialFrame deadline serial = .returned frame next) :
    frame.Complete ∧ next.received = serial.received ++ frame.encode ∧
      next.answers.length < serial.answers.length := by
  unfold readPserialFrame at hread
  obtain ⟨header, second, hheader, hread⟩ := NetResult.bind_returned hread
  split_ifs at hread with htag hlength
  obtain ⟨endpoint, third, hendpoint, hread⟩ := NetResult.bind_returned hread
  obtain ⟨header', fourth, hheader', hread⟩ := NetResult.bind_returned hread
  split_ifs at hread with htag' hlength'
  obtain ⟨message, fifth, hmessage, hread⟩ := NetResult.bind_returned hread
  cases hread
  obtain ⟨hthree, hreceived, -, hfewer⟩ := readExact_all hheader
  obtain ⟨hlen, hreceived₂, hfewer₂, -⟩ := readExact_all hendpoint
  obtain ⟨hthree', hreceived₃, hfewer₃, -⟩ := readExact_all hheader'
  obtain ⟨hlen', hreceived₄, hfewer₄, -⟩ := readExact_all hmessage
  refine ⟨⟨?_, ?_, ?_⟩, ?_, ?_⟩
  · show 0 < endpoint.length
    omega
  · show endpoint.length ≤ pserialEndpointCapacity
    omega
  · show message.length ≤ bufferCapacity
    omega
  · rw [hreceived₄, hreceived₃, hreceived₂, hreceived, PserialFrame.encode,
      ← header_append hthree (not_not.mp htag) hlen,
      ← header_append hthree' (not_not.mp htag') hlen']
    simp only [List.append_assoc]
  · have hless := hfewer (by decide)
    omega

/-- The loop of `rpc_exchange`. -/
def awaitResponse (deadline : Nat) (uid responseId : Word)
    (last : StationDisconnect) (serial : Serial) :
    NetResult (List Byte × StationDisconnect) :=
  match _hread : readPserialFrame deadline serial with
  | .waiting => .waiting
  | .failed errno => .failed errno
  | .returned frame next =>
    match judgeFrame uid responseId last frame with
    | .skip last => awaitResponse deadline uid responseId last next
    | .fail errno => .failed errno
    | .answer payload => .returned (payload, last) next
termination_by serial.answers.length
decreasing_by exact (readPserialFrame_returned _hread).2.2

/-- The static variables of the program. -/
structure Netctl where
  nextUid : Word := 1#32
  lastDisconnect : StationDisconnect := {}
deriving DecidableEq

/-- What the system answers during an exchange: to the writes, to the first
read of the clock, and to the reads that follow. -/
structure ExchangeInput where
  writes : List SerialWrite
  start : Option Nat
  answers : List SerialAnswer

/-- `rpc_exchange`.  The bytes received are those read after the request was
written. -/
def rpcExchange (netctl : Netctl) (requestId : Word) (payload : NetBuffer)
    (input : ExchangeInput) : NetResult (List Byte × Netctl) :=
  match encodeRequest netctl.nextUid requestId payload with
  | .error errno => .failed errno
  | .ok pserial =>
    match writeAll pserial.data.length input.writes with
    | none => .waiting
    | some (.error errno) => .failed errno
    | some (.ok ()) =>
      match input.start with
      | none => .failed .system
      | some start =>
        (awaitResponse (start + rpcTimeoutMs) netctl.nextUid
          (requestId + rpcResponseOffset) netctl.lastDisconnect
          ⟨input.answers, []⟩).bind fun (response, last) serial =>
        .returned (response, ⟨netctl.nextUid + 1, last⟩) serial

end Micronux
