/-
The event that the station was disconnected, as the network control program
remembers it: what a message has to say last at each of its three levels, and
what is left of a message whose innermost level is malformed.
-/
import Micronux.NetctlFields

namespace Micronux

/-- A loop over a message that notes its fields one by one.  The notes remain
where a field is malformed. -/
def pbNotes {S : Type} (note : S → PbField → S) (state : S) (data : List Byte) :
    S × Except NetErrno Unit :=
  if data = [] then (state, .ok ())
  else
    match _hnext : pbNext data with
    | .error errno => (state, .error errno)
    | .ok (field, rest) => pbNotes note (note state field) rest
termination_by data.length
decreasing_by
  have hlength := pbNext_length _hnext
  omega

/-- The notes of a loop that ends well. -/
def notesResult {S : Type} : S × Except NetErrno Unit → Except NetErrno S
  | (state, .ok ()) => .ok state
  | (_, .error errno) => .error errno

/-- `record_station_event`: the event remembered afterwards, and what the call
returns.  The event is reset before the last loop, which notes its fields. -/
def stationEvent (last : StationDisconnect) (message : List Byte) :
    StationDisconnect × Except NetErrno Unit :=
  match pbFold (fun scan field => .ok (scan.note field)) ({} : EventScan)
      message with
  | .error errno => (last, .error errno)
  | .ok scan =>
    if scan.messageType ≠ rpcTypeEvent ∨
        scan.messageId ≠ rpcEventStaDisconnected.setWidth 64 then
      (last, .ok ())
    else
      match scan.payload with
      | none => (last, .error .badMsg)
      | some payload =>
        match pbFold
            (fun found field => .ok (noteDisconnectPayload found field))
            none payload with
        | .error errno => (last, .error errno)
        | .ok none => (last, .error .badMsg)
        | .ok (some disconnect) =>
          pbNotes StationDisconnect.note { seen := true } disconnect

variable {fields : List PbField}

section pbNotes

variable {S : Type} {note : S → PbField → S}

theorem pbNotes_nil (state : S) : pbNotes note state [] = (state, .ok ()) := by
  unfold pbNotes
  rfl

theorem pbNotes_error {data : List Byte} {errno : NetErrno}
    (hdata : data ≠ []) (hnext : pbNext data = .error errno) (state : S) :
    pbNotes note state data = (state, .error errno) := by
  rw [pbNotes, if_neg hdata]
  split
  · rename_i found hfound
    cases hfound.symm.trans hnext
    rfl
  · rename_i field rest hfound
    cases hfound.symm.trans hnext

theorem pbNotes_field {data rest : List Byte} {field : PbField}
    (hnext : pbNext data = .ok (field, rest)) (state : S) :
    pbNotes note state data = pbNotes note (note state field) rest := by
  have hdata : data ≠ [] := by
    rintro rfl
    cases hnext
  rw [pbNotes, if_neg hdata]
  split
  · rename_i errno hfound
    cases hfound.symm.trans hnext
  · rename_i found tail hfound
    cases hfound.symm.trans hnext
    rfl

/-- A loop that only notes fields, without the notes where it fails. -/
theorem pbFold_eq_notes (state : S) (data : List Byte) :
    pbFold (fun state field => .ok (note state field)) state data =
      notesResult (pbNotes note state data) := by
  induction data using message_induction generalizing state with
  | nil =>
    rw [pbFold_nil, pbNotes_nil]
    rfl
  | malformed data errno hdata hnext =>
    rw [pbFold_error hdata hnext, pbNotes_error hdata hnext]
    rfl
  | field data field rest hnext ih =>
    rw [pbFold_field hnext, pbNotes_field hnext]
    exact ih (note state field)

end pbNotes

/-- The last value that the fields give to a variable. -/
theorem EventScan.foldl_note (fields : List PbField) :
    fields.foldl EventScan.note {} = ⟨(varints 1#32 fields).getLast?.getD 0#64,
        (varints 2#32 fields).getLast?.getD 0#64,
        (chunks rpcEventStaDisconnected fields).getLast?⟩ := by
  induction fields using List.reverseRecOn with
  | nil => rfl
  | append_singleton fields field ih =>
    rw [List.foldl_append, ih]
    simp only [varints_append, chunks_append, List.foldl_cons,
      List.foldl_nil, EventScan.note]
    split_ifs <;> simp_all

theorem foldl_noteDisconnectPayload (fields : List PbField) :
    fields.foldl noteDisconnectPayload none =
      (chunks 2#32 fields).getLast? := by
  induction fields using List.reverseRecOn with
  | nil => rfl
  | append_singleton fields field ih =>
    rw [List.foldl_append, ih]
    simp only [chunks_append, List.foldl_cons, List.foldl_nil,
      noteDisconnectPayload]
    split_ifs <;> simp

theorem StationDisconnect.foldl_note (fields : List PbField) :
    fields.foldl StationDisconnect.note { seen := true } =
      ⟨true, ((varints 4#32 fields).getLast?.getD 0#64).setWidth 32,
        ((varints 5#32 fields).getLast?.getD 0#64).setWidth 32⟩ := by
  induction fields using List.reverseRecOn with
  | nil => rfl
  | append_singleton fields field ih =>
    rw [List.foldl_append, ih]
    simp only [varints_append, List.foldl_cons, List.foldl_nil,
      StationDisconnect.note]
    split_ifs <;> simp_all

/-- The fields of a message say that the station was disconnected. -/
structure Recognised (fields : List PbField) : Prop where
  messageType : (varints 1#32 fields).getLast?.getD 0#64 = rpcTypeEvent
  messageId : (varints 2#32 fields).getLast?.getD 0#64 =
    rpcEventStaDisconnected.setWidth 64

/-- The innermost message of an event: the last field 2 of the last payload. -/
structure Innermost (fields : List PbField) (disconnect : List Byte) :
    Prop where
  recognised : Recognised fields
  nested : ∃ payload inner,
    (chunks rpcEventStaDisconnected fields).getLast? = some payload ∧
      Fields payload inner ∧ (chunks 2#32 inner).getLast? = some disconnect

/-- A call that succeeds remembers the event of `recordStationEvent`, and one
that fails fails as that does. -/
theorem recordStationEvent_eq (last : StationDisconnect) (message : List Byte) :
    recordStationEvent last message =
      notesResult (stationEvent last message) := by
  unfold recordStationEvent stationEvent
  cases pbFold (fun scan field => .ok (EventScan.note scan field)) {}
      message with
  | error errno => rfl
  | ok scan =>
    simp only [bind, Except.bind]
    split
    · rfl
    · cases scan.payload with
      | none => rfl
      | some payload =>
        dsimp only
        cases pbFold (fun found field =>
            .ok (noteDisconnectPayload found field)) none payload with
        | error errno => rfl
        | ok found =>
          cases found with
          | none => rfl
          | some disconnect =>
            dsimp only
            exact pbFold_eq_notes _ disconnect

/-- The fields of the innermost message are noted. -/
theorem Innermost.event {message disconnect : List Byte}
    (hinnermost : Innermost fields disconnect) (hfields : Fields message fields)
    (last : StationDisconnect) :
    stationEvent last message =
      pbNotes StationDisconnect.note { seen := true } disconnect := by
  obtain ⟨hrecognised, payload, inner, hpayload, hinner, hlast⟩ := hinnermost
  have hscan := pbFold_notes_ok.mpr ⟨fields, hfields,
    (EventScan.foldl_note fields).symm⟩
  have hfold := pbFold_notes_ok.mpr ⟨inner, hinner,
    (foldl_noteDisconnectPayload inner).symm⟩
  rw [hlast] at hfold
  rw [stationEvent, hscan]
  dsimp only
  rw [if_neg (by simp [hrecognised.messageType, hrecognised.messageId]),
    hpayload]
  dsimp only
  rw [hfold]

/-- An event whose innermost message has the reason 7 and then a key of the
number 0. -/
def brokenEvent : List Byte :=
  [0x08#8, 0x03#8, 0x10#8, 0x88#8, 0x06#8, 0xc2#8, 0x30#8, 0x05#8,
    0x12#8, 0x03#8, 0x20#8, 0x07#8, 0x00#8]

end Micronux
