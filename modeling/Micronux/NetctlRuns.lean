/-
An exchange that succeeds was answered by one frame of its own: the scan of a
frame is followed field by field, and the loop over the frames frame by frame.
-/
import Micronux.Fallible
import Micronux.Netctl

namespace Micronux

/-- The fields of a message. -/
inductive Fields : List Byte → List PbField → Prop where
  | nil : Fields [] []
  | cons {data rest : List Byte} {field : PbField} {fields : List PbField}
      (hnext : pbNext data = .ok (field, rest)) (hrest : Fields rest fields) :
      Fields data (field :: fields)

variable {errno : NetErrno} {responseId uid : Word} {message data : List Byte}
  {deadline : Nat} {serial : Serial} {S : Type} {frame : PserialFrame}
  {last next : StationDisconnect} {fields : List PbField} {scan : ResponseScan}
  {state : S} {step : S → PbField → Except NetErrno S}

/-- A loop over a message that ends well has run over its fields. -/
theorem pbFold_ok {inv : List PbField → S → Prop}
    (hstep : ∀ fields state field next, inv fields state →
      step state field = .ok next → inv (fields ++ [field]) next) {last : S}
    {before : List PbField} (hstart : inv before state)
    (hfold : pbFold step state data = .ok last) :
    ∃ fields, Fields data fields ∧ inv (before ++ fields) last := by
  induction data using message_induction generalizing state before with
  | nil =>
    rw [pbFold_nil] at hfold
    obtain rfl := Except.ok.inj hfold
    exact ⟨[], .nil, by simpa using hstart⟩
  | malformed data errno hdata hnext =>
    rw [pbFold_error hdata hnext] at hfold
    cases hfold
  | field data field rest hnext ih =>
    rw [pbFold_field hnext] at hfold
    obtain ⟨next, hone, hrest⟩ := Fallible.bind_eq_ok.mp hfold
    obtain ⟨fields, hfields, hlast⟩ := ih (hstep _ _ _ _ hstart hone) hrest
    refine ⟨field :: fields, .cons hnext hfields, ?_⟩
    rwa [List.append_assoc, List.singleton_append] at hlast

theorem decodeVarint_error {shift : Nat} {result : BitVec 64}
    (hdecode : decodeVarint shift result data = .error errno) :
    errno = .badMsg := by
  induction data generalizing shift result with
  | nil =>
    cases hdecode
    rfl
  | cons byte tail ih =>
    unfold decodeVarint at hdecode
    dsimp only at hdecode
    split_ifs at hdecode with hshift hlast
    · cases hdecode
      rfl
    · exact ih hdecode

theorem pbNext_error (hnext : pbNext data = .error errno) :
    errno = .badMsg := by
  unfold pbNext at hnext
  cases hkey : decodeVarint 0 0#64 data with
  | error found =>
    rw [hkey] at hnext
    cases hnext
    exact decodeVarint_error hkey
  | ok decoded =>
    obtain ⟨key, tail⟩ := decoded
    rw [hkey] at hnext
    simp only [bind, Except.bind] at hnext
    cases hvalue : decodeVarint 0 0#64 tail with
    | error found =>
      rw [hvalue] at hnext
      have hfound := decodeVarint_error hvalue
      split_ifs at hnext <;> cases hnext <;> first | rfl | exact hfound
    | ok decoded =>
      rw [hvalue] at hnext
      dsimp only at hnext
      split_ifs at hnext <;> cases hnext <;> rfl

/-- A loop that gathers no more than the bytes of the fields does not run out
of room on a message that fits. -/
theorem pbFold_fits (size : S → Nat)
    (hroom : ∀ state field,
      size state + field.bytes.length ≤ bufferCapacity →
      step state field ≠ .error .msgSize)
    (hsize : ∀ state field next, step state field = .ok next →
      size next ≤ size state + field.bytes.length)
    (hfits : size state + data.length ≤ bufferCapacity) :
    pbFold step state data ≠ .error .msgSize := by
  induction data using message_induction generalizing state with
  | nil =>
    rw [pbFold_nil]
    simp
  | malformed data errno hdata hnext =>
    rw [pbFold_error hdata hnext, pbNext_error hnext]
    simp
  | field data field rest hnext ih =>
    have hless := pbNext_length hnext
    rw [pbFold_field hnext]
    cases hone : step state field with
    | error errno =>
      rintro ⟨⟩
      exact hroom state field (by omega) hone
    | ok next =>
      have hnextSize := hsize state field next hone
      exact ih (by omega)

def varints (number : Word) (fields : List PbField) : List (BitVec 64) :=
  (fields.filter fun field =>
    field.number = number ∧ field.wireType = 0#8).map PbField.varint

def chunks (number : Word) (fields : List PbField) : List (List Byte) :=
  (fields.filter fun field =>
    field.number = number ∧ field.wireType = 2#8).map PbField.bytes

/-- What the loop over the fields knows after some of them. -/
structure Scanned (responseId : Word) (fields : List PbField)
    (scan : ResponseScan) : Prop where
  messageType : scan.messageType = (varints 1#32 fields).getLast?.getD 0#64
  messageId : scan.messageId = (varints 2#32 fields).getLast?.getD 0#64
  responseUid : scan.responseUid = (varints 3#32 fields).getLast?.getD 0#64
  havePayload : scan.havePayload = true ↔ chunks responseId fields ≠ []
  payload : scan.payload.data = (chunks responseId fields).flatten

theorem varints_append (number : Word) (fields : List PbField)
    (field : PbField) :
    varints number (fields ++ [field]) = varints number fields ++
      if field.number = number ∧ field.wireType = 0#8 then [field.varint]
      else [] := by
  unfold varints
  rw [List.filter_append, List.map_append]
  congr 1
  by_cases hfield : field.number = number ∧ field.wireType = 0#8
  · rw [if_pos hfield, List.filter_cons_of_pos (by simpa using hfield)]
    rfl
  · rw [if_neg hfield, List.filter_cons_of_neg (by simpa using hfield)]
    rfl

theorem chunks_append (number : Word) (fields : List PbField)
    (field : PbField) :
    chunks number (fields ++ [field]) = chunks number fields ++
      if field.number = number ∧ field.wireType = 2#8 then [field.bytes]
      else [] := by
  unfold chunks
  rw [List.filter_append, List.map_append]
  congr 1
  by_cases hfield : field.number = number ∧ field.wireType = 2#8
  · rw [if_pos hfield, List.filter_cons_of_pos (by simpa using hfield)]
    rfl
  · rw [if_neg hfield, List.filter_cons_of_neg (by simpa using hfield)]
    rfl

theorem bufferAppend_ok {buffer next : NetBuffer}
    (happend : bufferAppend buffer data = .ok next) :
    next.data = buffer.data ++ data := by
  unfold bufferAppend at happend
  split_ifs at happend
  cases happend
  rfl

theorem Scanned.note {next : ResponseScan} {field : PbField}
    (hscanned : Scanned responseId fields scan)
    (hnote : scan.note responseId field = .ok next) :
    Scanned responseId (fields ++ [field]) next := by
  obtain ⟨htype, hid, huid, hhave, hpayload⟩ := hscanned
  unfold ResponseScan.note at hnote
  split_ifs at hnote with hfirst hsecond hthird hchunk
  · cases hnote
    refine ⟨?_, ?_, ?_, ?_, ?_⟩ <;>
      simp [varints_append, chunks_append, hfirst, hid, huid, hhave, hpayload]
  · cases hnote
    refine ⟨?_, ?_, ?_, ?_, ?_⟩ <;>
      simp [varints_append, chunks_append, hsecond, htype, huid, hhave, hpayload]
  · cases hnote
    refine ⟨?_, ?_, ?_, ?_, ?_⟩ <;>
      simp [varints_append, chunks_append, hthird, htype, hid, hhave, hpayload]
  · split at hnote
    · cases hnote
    · rename_i payload happend
      cases hnote
      refine ⟨?_, ?_, ?_, ?_, ?_⟩ <;>
        simp [varints_append, chunks_append, hchunk, htype, hid, huid, hpayload,
          bufferAppend_ok happend]
  · cases hnote
    refine ⟨?_, ?_, ?_, ?_, ?_⟩ <;>
      simp [varints_append, chunks_append, hfirst, hsecond, hthird, hchunk,
        htype, hid, huid, hhave, hpayload]

/-- A frame answers a request. -/
structure Answers (uid responseId : Word) (frame : PserialFrame)
    (fields : List PbField) : Prop where
  endpoint : frame.endpoint = responseEndpoint
  parsed : Fields frame.message fields
  messageType :
    (varints 1#32 fields).getLast?.getD 0#64 = rpcTypeResponse
  messageId :
    (varints 2#32 fields).getLast?.getD 0#64 = responseId.setWidth 64
  responseUid : (varints 3#32 fields).getLast?.getD 0#64 = uid.setWidth 64

theorem Fields.unique {first second : List PbField} (hfirst : Fields data first)
    (hsecond : Fields data second) :
    first = second := by
  induction hfirst generalizing second with
  | nil =>
    cases hsecond with
    | nil => rfl
    | cons hnext hrest => cases hnext
  | cons hnext hrest ih =>
    cases hsecond with
    | nil => cases hnext
    | cons hnext' hrest' =>
      cases hnext.symm.trans hnext'
      rw [ih hrest']

/-- The fields of a message have numbers. -/
theorem Fields.number_ne (hfields : Fields data fields) :
    ∀ field ∈ fields, field.number ≠ 0#32 := by
  induction hfields with
  | nil => exact List.forall_mem_nil _
  | @cons data rest field fields hnext hrest ih =>
    intro other hother
    rcases List.mem_cons.mp hother with rfl | hlater
    · obtain ⟨key, tail, -, -, -, hnumber, -⟩ := pbNext_ok hnext
      exact hnumber
    · exact ih other hlater

theorem scan_ok
    (hscan : pbFold (ResponseScan.note responseId) {} message = .ok scan) :
    ∃ fields, Fields message fields ∧ Scanned responseId fields scan := by
  have hstart : Scanned responseId [] {} :=
    ⟨rfl, rfl, rfl, by simp [chunks], rfl⟩
  obtain ⟨fields, hfields, hscanned⟩ := pbFold_ok
    (fun _ _ _ _ hscanned hnote => Scanned.note hscanned hnote) hstart hscan
  exact ⟨fields, hfields, hscanned⟩

/-- The frame that answers has a payload, and it is returned. -/
theorem judgeFrame_answer {payload : List Byte}
    (hjudge : judgeFrame uid responseId last frame = .answer payload) :
    ∃ fields, Answers uid responseId frame fields ∧
      chunks responseId fields ≠ [] ∧
      payload = (chunks responseId fields).flatten := by
  unfold judgeFrame at hjudge
  split at hjudge
  · split at hjudge <;> cases hjudge
  · split at hjudge
    · cases hjudge
    · rename_i hendpoint
      split at hjudge
      · cases hjudge
      · rename_i scan hscan
        split_ifs at hjudge with hother hhave
        obtain ⟨fields, hfields, hscanned⟩ := scan_ok hscan
        simp only [not_or, not_not] at hother
        obtain ⟨htype, hid, huid⟩ := hother
        cases hjudge
        exact ⟨fields, ⟨not_not.mp hendpoint, hfields,
          hscanned.messageType.symm.trans htype,
          hscanned.messageId.symm.trans hid,
          hscanned.responseUid.symm.trans huid⟩,
          hscanned.havePayload.mp hhave, hscanned.payload⟩

/-- A frame that is skipped does not answer. -/
theorem judgeFrame_skip
    (hjudge : judgeFrame uid responseId last frame = .skip next)
    (fields : List PbField) : ¬ Answers uid responseId frame fields := by
  intro hanswers
  unfold judgeFrame at hjudge
  rw [if_neg (by rw [hanswers.endpoint]; decide),
    if_neg (not_not.mpr hanswers.endpoint)] at hjudge
  split at hjudge
  · cases hjudge
  · rename_i scan hscan
    obtain ⟨found, hfound, hscanned⟩ := scan_ok hscan
    obtain rfl := hfound.unique hanswers.parsed
    rw [if_neg] at hjudge
    · split at hjudge <;> cases hjudge
    · rw [hscanned.messageType, hscanned.messageId, hscanned.responseUid,
        hanswers.messageType, hanswers.messageId, hanswers.responseUid]
      simp

/-- A loop that only notes fields fails where a field is malformed. -/
theorem pbFold_notes {note : S → PbField → S}
    (hfold : pbFold (fun state field => .ok (note state field)) state data =
      .error errno) : errno = .badMsg := by
  induction data using message_induction generalizing state with
  | nil =>
    rw [pbFold_nil] at hfold
    cases hfold
  | malformed data found hdata hnext =>
    rw [pbFold_error hdata hnext] at hfold
    obtain rfl := Except.error.inj hfold
    exact pbNext_error hnext
  | field data field rest hnext ih =>
    rw [pbFold_field hnext] at hfold
    exact ih hfold

theorem recordStationEvent_error
    (hrecord : recordStationEvent last message = .error errno) :
    errno = .badMsg := by
  unfold recordStationEvent at hrecord
  cases hscan : pbFold (fun scan field => .ok (EventScan.note scan field)) {}
      message with
  | error found =>
    rw [hscan] at hrecord
    cases hrecord
    exact pbFold_notes hscan
  | ok scan =>
    rw [hscan] at hrecord
    simp only [bind, Except.bind] at hrecord
    split at hrecord
    · cases hrecord
    · split at hrecord
      · cases hrecord
        rfl
      · rename_i payload hpayload
        cases hfound : pbFold (fun found field =>
            .ok (noteDisconnectPayload found field)) none payload with
        | error found =>
          rw [hfound] at hrecord
          cases hrecord
          exact pbFold_notes hfound
        | ok found =>
          rw [hfound] at hrecord
          cases found with
          | none =>
            cases hrecord
            rfl
          | some disconnect => exact pbFold_notes hrecord

/-- The scan of a response that fits does not run out of room. -/
theorem scan_fits (hfits : message.length ≤ bufferCapacity) :
    pbFold (ResponseScan.note responseId) {} message ≠ .error .msgSize := by
  have hstart : (({} : ResponseScan).payload.data.length) + message.length ≤
      bufferCapacity := by
    simpa [NetBuffer.empty] using hfits
  refine pbFold_fits (fun scan => scan.payload.data.length) ?_ ?_ hstart
  · intro scan field hroom hnote
    unfold ResponseScan.note at hnote
    split_ifs at hnote with hfirst hsecond hthird hchunk
    unfold bufferAppend at hnote
    rw [dif_neg (by omega)] at hnote
    cases hnote
  · intro scan field next hnote
    unfold ResponseScan.note at hnote
    split_ifs at hnote with hfirst hsecond hthird hchunk
    · cases hnote
      exact Nat.le_add_right _ _
    · cases hnote
      exact Nat.le_add_right _ _
    · cases hnote
      exact Nat.le_add_right _ _
    · split at hnote
      · cases hnote
      · rename_i payload happend
        cases hnote
        rw [bufferAppend_ok happend, List.length_append]
    · cases hnote
      exact Nat.le_add_right _ _

/-- No frame makes the exchange run out of room. -/
theorem judgeFrame_fits (hcomplete : frame.Complete) :
    judgeFrame uid responseId last frame ≠ .fail .msgSize := by
  intro hjudge
  unfold judgeFrame at hjudge
  split at hjudge
  · split at hjudge
    · rename_i errno hrecord
      cases hjudge
      cases recordStationEvent_error hrecord
    · cases hjudge
  · split at hjudge
    · cases hjudge
    · split at hjudge
      · rename_i errno hscan
        cases hjudge
        exact scan_fits hcomplete.message hscan
      · split_ifs at hjudge
        cases hjudge

theorem readExact_failed {length : Nat} {done received : List Byte}
    {answers : List SerialAnswer} :
    readExact deadline length done received answers ≠ .failed .msgSize := by
  induction answers generalizing done received with
  | nil =>
    unfold readExact
    intro hread
    split at hread <;> cases hread
  | cons answer answers ih =>
    intro hread
    unfold readExact at hread
    dsimp only at hread
    split at hread
    · split at hread
      · cases hread
      · split at hread
        · cases hread
        · split at hread
          · cases hread
          · cases hread
          · cases hread
          · split at hread
            · exact ih hread
            · cases hread
            · split at hread
              · cases hread
              · exact ih hread
    · cases hread

theorem NetResult.bind_failed {α β : Type} {result : NetResult α}
    {next : α → Serial → NetResult β}
    (hbind : result.bind next = .failed errno) :
    result = .failed errno ∨ ∃ first between,
      result = .returned first between ∧ next first between = .failed errno := by
  cases result with
  | waiting => cases hbind
  | failed found =>
    cases hbind
    exact .inl rfl
  | returned first between => exact .inr ⟨first, between, rfl, hbind⟩

theorem readPserialFrame_failed :
    readPserialFrame deadline serial ≠ .failed .msgSize := by
  intro hread
  unfold readPserialFrame at hread
  rcases NetResult.bind_failed hread with hread | ⟨header, second, -, hread⟩
  · exact readExact_failed hread
  · split at hread
    · cases hread
    · split at hread
      · cases hread
      · rcases NetResult.bind_failed hread with
          hread | ⟨endpoint, third, -, hread⟩
        · exact readExact_failed hread
        · rcases NetResult.bind_failed hread with
            hread | ⟨header, fourth, -, hread⟩
          · exact readExact_failed hread
          · split at hread
            · cases hread
            · split at hread
              · cases hread
              · rcases NetResult.bind_failed hread with
                  hread | ⟨message, fifth, -, hread⟩
                · exact readExact_failed hread
                · cases hread

theorem writeAll_failed {left : Nat} {answers : List SerialWrite} :
    writeAll left answers ≠ some (.error .msgSize) := by
  induction answers generalizing left with
  | nil =>
    unfold writeAll
    intro hwrite
    split at hwrite <;> cases hwrite
  | cons answer answers ih =>
    intro hwrite
    unfold writeAll at hwrite
    split at hwrite
    · cases hwrite
    · cases answer with
      | wrote count =>
        dsimp only at hwrite
        split at hwrite
        · cases hwrite
        · exact ih hwrite
      | interrupted => exact ih hwrite
      | full room =>
        dsimp only at hwrite
        split at hwrite
        · exact ih hwrite
        · cases hwrite
      | failed => cases hwrite

/-- The loop over the frames: the frames before the answer do not answer. -/
theorem awaitResponse_returned {after : Serial} {response : List Byte}
    (hawait : awaitResponse deadline uid responseId last serial =
      .returned (response, next) after) :
    ∃ (skipped : List PserialFrame) (frame : PserialFrame)
        (fields : List PbField),
      after.received =
        serial.received ++ skipped.flatMap PserialFrame.encode ++
          frame.encode ∧
      frame.Complete ∧ Answers uid responseId frame fields ∧
      chunks responseId fields ≠ [] ∧
      response = (chunks responseId fields).flatten ∧
      ∀ other ∈ skipped, other.Complete ∧
        ∀ fields, ¬ Answers uid responseId other fields := by
  induction hlength : serial.answers.length using Nat.strong_induction_on
    generalizing serial last with
  | h length ih =>
    unfold awaitResponse at hawait
    split at hawait
    · cases hawait
    · cases hawait
    · rename_i frame between hread
      obtain ⟨hcomplete, hreceived, hfewer⟩ := readPserialFrame_returned hread
      split at hawait
      · rename_i later hjudge
        obtain ⟨skipped, answer, fields, hafter, hanswer, hanswers, hchunks,
          hresponse, hskipped⟩ := ih between.answers.length (by omega) hawait rfl
        refine ⟨frame :: skipped, answer, fields, ?_, hanswer, hanswers,
          hchunks, hresponse, ?_⟩
        · rw [hafter, hreceived, List.flatMap_cons]
          simp only [List.append_assoc]
        · intro other hother
          rcases List.mem_cons.mp hother with rfl | hlater
          · exact ⟨hcomplete, judgeFrame_skip hjudge⟩
          · exact hskipped other hlater
      · cases hawait
      · rename_i payload hjudge
        cases hawait
        obtain ⟨fields, hanswers, hchunks, hpayload⟩ := judgeFrame_answer hjudge
        exact ⟨[], frame, fields, by simpa using hreceived, hcomplete,
          hanswers, hchunks, hpayload, List.forall_mem_nil _⟩

theorem awaitResponse_failed :
    awaitResponse deadline uid responseId last serial ≠ .failed .msgSize := by
  induction hlength : serial.answers.length using Nat.strong_induction_on
    generalizing serial last with
  | h length ih =>
    intro hawait
    unfold awaitResponse at hawait
    split at hawait
    · cases hawait
    · rename_i errno hread
      cases hawait
      exact readPserialFrame_failed hread
    · rename_i frame between hread
      obtain ⟨hcomplete, -, hfewer⟩ := readPserialFrame_returned hread
      split at hawait
      · exact ih between.answers.length (by omega) rfl hawait
      · rename_i errno hjudge
        cases hawait
        exact judgeFrame_fits hcomplete hjudge
      · cases hawait

/-- A last varint that is not zero is there. -/
theorem getLast_of_getD {values : List (BitVec 64)} {value : BitVec 64}
    (hlast : values.getLast?.getD 0#64 = value) (hvalue : value ≠ 0#64) :
    values.getLast? = some value := by
  cases hfound : values.getLast? with
  | none =>
    rw [hfound] at hlast
    exact absurd hlast.symm hvalue
  | some found =>
    rw [hfound] at hlast
    exact congrArg some hlast

theorem setWidth_ne_zero {word : Word} (hword : word ≠ 0#32) :
    word.setWidth 64 ≠ 0#64 := by
  intro hzero
  apply hword
  have hnat := congrArg BitVec.toNat hzero
  apply BitVec.eq_of_toNat_eq
  have hbound := word.isLt
  rw [BitVec.toNat_setWidth, Nat.mod_eq_of_lt (by omega)] at hnat
  exact hnat

/-- A message with a payload for a response has its number. -/
theorem Fields.responseId_ne (hfields : Fields data fields)
    (hchunks : chunks responseId fields ≠ []) : responseId ≠ 0#32 := by
  obtain ⟨chunk, hchunk⟩ := List.exists_mem_of_ne_nil _ hchunks
  obtain ⟨field, hfield, -⟩ := List.mem_map.mp hchunk
  obtain ⟨hmem, hnumber⟩ := List.mem_filter.mp hfield
  have hfound : field.number = responseId ∧ field.wireType = 2#8 := by
    simpa using hnumber
  rw [← hfound.1]
  exact hfields.number_ne field hmem

/-- An exchange that returns 0 was answered by one frame of the response
endpoint, whose payload it returns; the frames before it do not answer and give
nothing to the payload.  The payload always fits.

A uid of 0 is not sent, and is then not asked for either. -/
theorem rpcExchange_response (netctl : Netctl) (requestId : Word)
    (payload : NetBuffer) (input : ExchangeInput) :
    (∀ response next serial,
      rpcExchange netctl requestId payload input =
        .returned (response, next) serial →
      ∃ (skipped : List PserialFrame) (frame : PserialFrame)
          (fields : List PbField),
        serial.received =
          skipped.flatMap PserialFrame.encode ++ frame.encode ∧
        frame.Complete ∧ frame.endpoint = responseEndpoint ∧
        Fields frame.message fields ∧
        (varints 1#32 fields).getLast? = some rpcTypeResponse ∧
        (varints 2#32 fields).getLast? =
          some ((requestId + rpcResponseOffset).setWidth 64) ∧
        (varints 3#32 fields).getLast?.getD 0#64 =
          netctl.nextUid.setWidth 64 ∧
        (netctl.nextUid ≠ 0#32 →
          (varints 3#32 fields).getLast? =
            some (netctl.nextUid.setWidth 64)) ∧
        chunks (requestId + rpcResponseOffset) fields ≠ [] ∧
        response = (chunks (requestId + rpcResponseOffset) fields).flatten ∧
        ∀ other ∈ skipped, other.Complete ∧ ∀ fields,
          ¬ Answers netctl.nextUid (requestId + rpcResponseOffset) other
            fields) ∧
      (rpcExchange netctl requestId payload input = .failed .msgSize →
        encodeRequest netctl.nextUid requestId payload =
          .error .msgSize) := by
  constructor
  · intro response next serial hreturn
    unfold rpcExchange at hreturn
    split at hreturn
    · cases hreturn
    · split at hreturn
      · cases hreturn
      · cases hreturn
      · split at hreturn
        · cases hreturn
        · obtain ⟨⟨found, last⟩, after, hawait, hlast⟩ :=
            NetResult.bind_returned hreturn
          cases hlast
          obtain ⟨skipped, frame, fields, hreceived, hcomplete, hanswers,
            hchunks, hresponse, hskipped⟩ := awaitResponse_returned hawait
          have hid := setWidth_ne_zero (hanswers.parsed.responseId_ne hchunks)
          exact ⟨skipped, frame, fields, hreceived, hcomplete,
            hanswers.endpoint, hanswers.parsed,
            getLast_of_getD hanswers.messageType (by decide),
            getLast_of_getD hanswers.messageId hid, hanswers.responseUid,
            fun huid =>
              getLast_of_getD hanswers.responseUid (setWidth_ne_zero huid),
            hchunks, hresponse, hskipped⟩
  · intro hfailed
    unfold rpcExchange at hfailed
    split at hfailed
    · rename_i errno hencode
      cases hfailed
      exact hencode
    · split at hfailed
      · cases hfailed
      · rename_i errno hwrite
        cases hfailed
        exact absurd hwrite writeAll_failed
      · split at hfailed
        · cases hfailed
        · rcases NetResult.bind_failed hfailed with
            hawait | ⟨found, after, -, hlast⟩
          · exact absurd hawait awaitResponse_failed
          · cases hlast

/-- An answer to a request of number 1 with the given uid and one byte of
payload (field 257, in the key `8a 10`). -/
def smallAnswer (uid value : Byte) : PserialFrame where
  endpoint := responseEndpoint
  message := [0x08#8, 0x02#8, 0x10#8, 0x81#8, 0x02#8, 0x18#8, uid,
    0x8a#8, 0x10#8, 0x01#8, value]

/-- The device delivers a late answer to an earlier request, then the answer,
one byte at a time. -/
def lateInput : ExchangeInput where
  writes := [.wrote 100]
  start := some 5
  answers :=
    ((smallAnswer 1#8 0x55#8).encode ++ (smallAnswer 2#8 0xaa#8).encode).map
      fun byte => { now := some 6, read := .data [byte] }

theorem lateInput_response :
    ∃ serial, rpcExchange { nextUid := 2#32 } 1#32 .empty lateInput =
        .returned ([0xaa#8], ⟨3#32, {}⟩) serial ∧
      ∃ (skipped : List PserialFrame) (frame : PserialFrame),
        serial.received =
          skipped.flatMap PserialFrame.encode ++ frame.encode := by
  have hreturn : rpcExchange { nextUid := 2#32 } 1#32 .empty lateInput =
      .returned ([0xaa#8], ⟨3#32, {}⟩)
        ⟨[], (smallAnswer 1#8 0x55#8).encode ++
          (smallAnswer 2#8 0xaa#8).encode⟩ := by
    decide +kernel
  obtain ⟨skipped, frame, -, hreceived, -⟩ :=
    (rpcExchange_response _ _ _ _).1 _ _ _ hreturn
  exact ⟨_, hreturn, skipped, frame, hreceived⟩

end Micronux
