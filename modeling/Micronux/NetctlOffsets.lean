/-
The decoder of the network control program at the level of its offsets: a read
outside the buffer is an error of its own, and so is a loop that has not ended
after a given number of turns.  Neither happens, and the loops compute what the
functions on lists of bytes compute.
-/
import Micronux.NetctlStation

namespace Micronux

/-- What must not happen: a read outside the buffer, or a loop that is still
running. -/
inductive Stuck where
  | outside
  | running
deriving DecidableEq

abbrev Checked := Except Stuck

/-- The offset after some more bytes, as a `size_t`. -/
def sizeAdd (width offset count : Nat) : Nat := (offset + count) % 2 ^ width

/-- What a `size_t` subtraction gives. -/
def sizeSub (width length offset : Nat) : Nat :=
  (2 ^ width + length - offset) % 2 ^ width

/-- `decode_varint`.  Without a result the call returns -1. -/
def decodeVarintAt (width : Nat) (data : List Byte)
    (length offset shift : Nat) (result : BitVec 64) :
    Checked (Option (BitVec 64 × Nat)) :=
  if offset < length ∧ shift < 64 then
    match data[offset]? with
    | none => .error .outside
    | some byte =>
      let result := result ||| (byte &&& 0x7f#8).setWidth 64 <<< shift
      let offset := sizeAdd width offset 1
      if byte &&& 0x80#8 = 0#8 then .ok (some (result, offset))
      else decodeVarintAt width data length offset (shift + 7) result
  else .ok none
termination_by 64 - shift

/-- `struct pb_field`, with the place of its bytes in the buffer. -/
structure PbFieldAt where
  number : Word
  wireType : Byte
  varint : BitVec 64 := 0#64
  start : Nat := 0
  count : Nat := 0
deriving DecidableEq

def PbFieldAt.field (found : PbFieldAt) (data : List Byte) : PbField where
  number := found.number
  wireType := found.wireType
  varint := found.varint
  bytes := (data.drop found.start).take found.count

/-- `pb_next` -/
def pbNextAt (width : Nat) (data : List Byte) (length offset : Nat) :
    Checked (Option (PbFieldAt × Nat)) := do
  match ← decodeVarintAt width data length offset 0 0#64 with
  | none => .ok none
  | some (key, offset) =>
    let number : Word := (key >>> 3).setWidth 32
    let wireType : Byte := (key &&& 7#64).setWidth 8
    if number = 0#32 then .ok none
    else if wireType = 0#8 then
      match ← decodeVarintAt width data length offset 0 0#64 with
      | none => .ok none
      | some (varint, offset) =>
        .ok (some ({ number, wireType, varint }, offset))
    else if wireType ≠ 2#8 then .ok none
    else
      match ← decodeVarintAt width data length offset 0 0#64 with
      | none => .ok none
      | some (bytesLength, offset) =>
        if sizeSub width length offset < bytesLength.toNat then .ok none
        else
          let count := bytesLength.toNat % 2 ^ width
          .ok (some ({ number, wireType, start := offset, count },
            sizeAdd width offset count))

variable {width offset next : Nat} {data rest : List Byte} {S : Type}

/-- The arithmetic of `size_t` is exact inside a buffer. -/
theorem sizeAdd_inside (hsize : data.length < 2 ^ width) {count : Nat}
    (hinside : offset + count ≤ data.length) :
    sizeAdd width offset count = offset + count :=
  Nat.mod_eq_of_lt (Nat.lt_of_le_of_lt hinside hsize)

theorem sizeSub_inside (hsize : data.length < 2 ^ width)
    (hinside : offset ≤ data.length) :
    sizeSub width data.length offset = data.length - offset := by
  have hsplit : 2 ^ width + data.length - offset =
      data.length - offset + 2 ^ width := by
    omega
  rw [sizeSub, hsplit, Nat.add_mod_right]
  exact Nat.mod_eq_of_lt (by omega)

/-- A number and the offset behind it, where the bytes behind it are left. -/
def offsetBehind (data : List Byte) :
    Except NetErrno (BitVec 64 × List Byte) → Option (BitVec 64 × Nat)
  | .error _ => none
  | .ok (value, rest) => some (value, data.length - rest.length)

/-- `decode_varint` reads the bytes from the offset on, and leaves the offset
behind those that it has read. -/
theorem decodeVarintAt_eq (hsize : data.length < 2 ^ width) (offset shift : Nat)
    (result : BitVec 64) :
    decodeVarintAt width data data.length offset shift result =
      .ok (offsetBehind data
        (decodeVarint shift result (data.drop offset))) := by
  induction hrest : data.drop offset generalizing offset shift result with
  | nil =>
    have hend : ¬ offset < data.length := by
      rw [List.drop_eq_nil_iff] at hrest
      omega
    unfold decodeVarintAt decodeVarint
    rw [if_neg (fun hinside => hend hinside.1)]
    rfl
  | cons byte tail ih =>
    have hinside : offset < data.length := by
      by_contra hend
      rw [List.drop_eq_nil_of_le (Nat.not_lt.mp hend)] at hrest
      exact List.cons_ne_nil byte tail hrest.symm
    have hbyte : data[offset]? = some byte := by
      rw [← List.head?_drop, hrest]
      rfl
    have htail : data.drop (offset + 1) = tail := by
      rw [← List.drop_drop, hrest]
      rfl
    have hnext : sizeAdd width offset 1 = offset + 1 :=
      sizeAdd_inside hsize hinside
    have hlength : data.length - tail.length = offset + 1 := by
      rw [← htail, List.length_drop]
      omega
    unfold decodeVarintAt decodeVarint
    by_cases hshift : shift < 64
    · rw [if_pos ⟨hinside, hshift⟩, if_neg (Nat.not_le.mpr hshift), hbyte,
        hnext]
      dsimp only
      split
      · rw [offsetBehind, hlength]
      · exact ih _ _ _ htail
    · rw [if_neg (fun hboth => hshift hboth.2), if_pos (Nat.not_lt.mp hshift)]
      rfl

/-- The offset has moved on, inside the buffer, to where some bytes are left. -/
structure Advances (data : List Byte) (offset next : Nat) (rest : List Byte) :
    Prop where
  left : data.drop next = rest
  more : offset < next
  inside : next ≤ data.length

theorem Advances.trans {between : Nat} {tail : List Byte}
    (hfirst : Advances data offset between tail)
    (hsecond : Advances data between next rest) :
    Advances data offset next rest :=
  ⟨hsecond.left, Nat.lt_trans hfirst.more hsecond.more, hsecond.inside⟩

theorem Advances.length_eq (hadvances : Advances data offset next rest) :
    rest.length = data.length - next := by
  rw [← hadvances.left, List.length_drop]

/-- The offset is moved over some of the bytes that are left. -/
theorem Advances.skip {count : Nat} (hadvances : Advances data offset next rest)
    (hcount : next + count ≤ data.length) :
    Advances data offset (next + count) (rest.drop count) := by
  refine ⟨?_, Nat.lt_add_right count hadvances.more, hcount⟩
  rw [← hadvances.left, List.drop_drop]

theorem decodeVarintAt_failed (hsize : data.length < 2 ^ width)
    {errno : NetErrno}
    (hdecode : decodeVarint 0 0#64 (data.drop offset) = .error errno) :
    decodeVarintAt width data data.length offset 0 0#64 = .ok none := by
  rw [decodeVarintAt_eq hsize, hdecode]
  rfl

theorem decodeVarintAt_read (hsize : data.length < 2 ^ width)
    {value : BitVec 64}
    (hdecode : decodeVarint 0 0#64 (data.drop offset) = .ok (value, rest)) :
    ∃ next, decodeVarintAt width data data.length offset 0 0#64 =
        .ok (some (value, next)) ∧ Advances data offset next rest := by
  refine ⟨data.length - rest.length, ?_, ?_⟩
  · rw [decodeVarintAt_eq hsize, hdecode]
    rfl
  · obtain ⟨digits, hdata, hdigits, -⟩ := decodeVarint_ok.mp hdecode
    have hpositive := hdigits.length_pos
    have hlength := congrArg List.length hdata
    rw [List.length_drop, List.length_append] at hlength
    refine ⟨?_, by omega, by omega⟩
    have hoffset : data.length - rest.length = offset + digits.length := by
      omega
    rw [hoffset, ← List.drop_drop, hdata, List.drop_left]

/-- `pb_next` fails where the bytes from the offset on are malformed, and
otherwise moves the offset behind the field that they begin with. -/
theorem pbNextAt_refines (hsize : data.length < 2 ^ width) (offset : Nat) :
    (∃ errno, pbNext (data.drop offset) = .error errno ∧
      pbNextAt width data data.length offset = .ok none) ∨
    ∃ found next rest,
      pbNext (data.drop offset) = .ok (found.field data, rest) ∧
      pbNextAt width data data.length offset = .ok (some (found, next)) ∧
      Advances data offset next rest ∧
      found.start + found.count ≤ data.length := by
  unfold pbNext pbNextAt
  cases hkey : decodeVarint 0 0#64 (data.drop offset) with
  | error errno =>
    rw [decodeVarintAt_failed hsize hkey]
    exact .inl ⟨errno, rfl, rfl⟩
  | ok decoded =>
    obtain ⟨key, tail⟩ := decoded
    obtain ⟨second, hsecond, hadvance⟩ := decodeVarintAt_read hsize hkey
    obtain ⟨rfl, -, -⟩ := id hadvance
    rw [hsecond]
    simp only [bind, Except.bind]
    by_cases hnumber : (key >>> 3).setWidth 32 = 0#32
    · rw [if_pos hnumber, if_pos hnumber]
      exact .inl ⟨.badMsg, rfl, rfl⟩
    rw [if_neg hnumber, if_neg hnumber]
    cases hvalue : decodeVarint 0 0#64 (data.drop second) with
    | error errno =>
      rw [decodeVarintAt_failed hsize hvalue]
      split_ifs
      · exact .inl ⟨errno, rfl, rfl⟩
      · exact .inl ⟨.badMsg, rfl, rfl⟩
      · exact .inl ⟨errno, rfl, rfl⟩
    | ok decoded =>
      obtain ⟨value, rest⟩ := decoded
      obtain ⟨next, hnext, hfurther⟩ := decodeVarintAt_read hsize hvalue
      have hadvances := hadvance.trans hfurther
      rw [hnext]
      dsimp only
      by_cases hvarint : (key &&& 7#64).setWidth 8 = 0#8
      · rw [if_pos hvarint, if_pos hvarint]
        exact .inr ⟨_, next, rest, rfl, rfl, hadvances, Nat.zero_le _⟩
      rw [if_neg hvarint, if_neg hvarint]
      by_cases hwire : (key &&& 7#64).setWidth 8 ≠ 2#8
      · rw [if_pos hwire, if_pos hwire]
        exact .inl ⟨.badMsg, rfl, rfl⟩
      rw [if_neg hwire, if_neg hwire]
      have hlength := hadvances.length_eq
      have hinside := hadvances.inside
      rw [sizeSub_inside hsize hinside, ← hlength]
      by_cases hlong : rest.length < value.toNat
      · rw [if_pos hlong, if_pos hlong]
        exact .inl ⟨.badMsg, rfl, rfl⟩
      rw [if_neg hlong, if_neg hlong]
      have hend : next + value.toNat ≤ data.length := by
        omega
      have hcount : value.toNat % 2 ^ width = value.toNat :=
        Nat.mod_eq_of_lt (by omega)
      rw [hcount, sizeAdd_inside hsize hend]
      refine .inr ⟨_, _, rest.drop value.toNat, ?_, rfl,
        hadvances.skip hend, hend⟩
      rw [← hadvances.left]
      rfl

/-- What a turn of a parsing loop does with a field: it goes on, or the
function returns. -/
inductive LoopTurn (S R : Type) where
  | next (state : S)
  | stop (result : R)

/-- How a parsing loop ends: at the end of the buffer, with a return from
inside it, or where `pb_next` fails. -/
inductive LoopEnd (S R : Type) where
  | finished (state : S)
  | stopped (result : R)
  | malformed
deriving DecidableEq

/-- `while (offset < length)` with at most so many turns, each of which begins
with `pb_next`. -/
def parseLoop {S R : Type} (width : Nat) (data : List Byte)
    (turn : S → PbField → LoopTurn S R) :
    Nat → S → Nat → Checked (LoopEnd S R)
  | 0, state, offset =>
    if offset < data.length then .error .running else .ok (.finished state)
  | turns + 1, state, offset =>
    if offset < data.length then do
      match ← pbNextAt width data data.length offset with
      | none => .ok .malformed
      | some (found, offset) =>
        match turn state (found.field data) with
        | .stop result => .ok (.stopped result)
        | .next state => parseLoop width data turn turns state offset
    else .ok (.finished state)

/-- A loop ends after no more turns than there are bytes left. -/
theorem parseLoop_ends (hsize : data.length < 2 ^ width) {R : Type}
    (turn : S → PbField → LoopTurn S R) {turns : Nat} (state : S)
    (hturns : data.length - offset ≤ turns) :
    ∃ ending, parseLoop width data turn turns state offset = .ok ending := by
  induction turns generalizing state offset with
  | zero =>
    unfold parseLoop
    rw [if_neg (by omega)]
    exact ⟨_, rfl⟩
  | succ turns ih =>
    unfold parseLoop
    split
    · rcases pbNextAt_refines hsize offset with
        ⟨errno, -, hnext⟩ | ⟨found, next, rest, -, hnext, hadvances, -⟩
      · rw [hnext]
        exact ⟨_, rfl⟩
      · rw [hnext]
        simp only [bind, Except.bind]
        split
        · exact ⟨_, rfl⟩
        · rename_i state' hturn
          have hmore := hadvances.more
          exact ih state' (by omega)
    · exact ⟨_, rfl⟩

def stepTurn {S : Type} (step : S → PbField → Except NetErrno S) (state : S)
    (field : PbField) : LoopTurn S NetErrno :=
  match step state field with
  | .error errno => .stop errno
  | .ok state => .next state

def LoopEnd.result {S : Type} : LoopEnd S NetErrno → Except NetErrno S
  | .finished state => .ok state
  | .stopped errno => .error errno
  | .malformed => .error .badMsg

/-- A loop over the offsets computes what the loop over the bytes does. -/
theorem parseLoop_eq (hsize : data.length < 2 ^ width)
    (step : S → PbField → Except NetErrno S) {turns : Nat} (state : S)
    (hturns : data.length - offset ≤ turns) :
    ∃ ending,
      parseLoop width data (stepTurn step) turns state offset = .ok ending ∧
        ending.result = pbFold step state (data.drop offset) := by
  induction turns generalizing state offset with
  | zero =>
    unfold parseLoop
    rw [if_neg (by omega), List.drop_eq_nil_of_le (by omega)]
    exact ⟨_, rfl, (pbFold_nil state).symm⟩
  | succ turns ih =>
    unfold parseLoop
    split
    · rename_i hinside
      have hbytes : data.drop offset ≠ [] := by
        rw [Ne, List.drop_eq_nil_iff]
        omega
      rcases pbNextAt_refines hsize offset with
        ⟨errno, hfail, hnext⟩ | ⟨found, next, rest, hfield, hnext, hadvances, -⟩
      · rw [hnext, pbFold_error hbytes hfail, pbNext_error hfail]
        exact ⟨_, rfl, rfl⟩
      · rw [hnext, pbFold_field hfield]
        simp only [bind, Except.bind, stepTurn]
        cases step state (found.field data) with
        | error errno => exact ⟨_, rfl, rfl⟩
        | ok state' =>
          have hmore := hadvances.more
          rw [← hadvances.left]
          exact ih state' (by omega)
    · rename_i hend
      rw [List.drop_eq_nil_of_le (Nat.not_lt.mp hend)]
      exact ⟨_, rfl, (pbFold_nil state).symm⟩

def scanLoop {S : Type} (width : Nat) (data : List Byte)
    (step : S → PbField → Except NetErrno S) (state : S) :
    Checked (Except NetErrno S) := do
  let ending ← parseLoop width data (stepTurn step) data.length state 0
  .ok ending.result

theorem scanLoop_eq (hsize : data.length < 2 ^ width)
    (step : S → PbField → Except NetErrno S) (state : S) :
    scanLoop width data step state = .ok (pbFold step state data) := by
  obtain ⟨ending, hloop, hresult⟩ := parseLoop_eq hsize step state
    (Nat.sub_le data.length 0)
  unfold scanLoop
  rw [hloop]
  exact congrArg Except.ok (hresult.trans (by rw [List.drop_zero]))

/-- `record_station_event`: its three loops, each over bytes of the one
before. -/
def recordStationEventAt (width : Nat) (last : StationDisconnect)
    (message : List Byte) : Checked (Except NetErrno StationDisconnect) := do
  match ← scanLoop width message (fun scan field => .ok (scan.note field))
      ({} : EventScan) with
  | .error errno => .ok (.error errno)
  | .ok scan =>
    if scan.messageType ≠ rpcTypeEvent ∨
        scan.messageId ≠ rpcEventStaDisconnected.setWidth 64 then
      .ok (.ok last)
    else
      match scan.payload with
      | none => .ok (.error .badMsg)
      | some payload =>
        match ← scanLoop width payload
            (fun found field => .ok (noteDisconnectPayload found field))
            none with
        | .error errno => .ok (.error errno)
        | .ok none => .ok (.error .badMsg)
        | .ok (some disconnect) =>
          scanLoop width disconnect
            (fun event field => .ok (event.note field)) { seen := true }

/-- The loop of `rpc_exchange` over the message of a frame. -/
def responseScanAt (width : Nat) (responseId : Word) (message : List Byte) :
    Checked (Except NetErrno ResponseScan) :=
  scanLoop width message (ResponseScan.note responseId) {}

/-- `response_status`, which returns at the first status. -/
def responseStatusAt (width : Nat) (response : List Byte) (number : Word) :
    Checked (Except NetErrno Word) := do
  let turn : Unit → PbField → LoopTurn Unit Word := fun _ field =>
    if field.number = number ∧ field.wireType = 0#8 then
      .stop (field.varint.setWidth 32)
    else .next ()
  match ← parseLoop width response turn response.length () 0 with
  | .finished _ => .ok (.ok 0#32)
  | .stopped status => .ok (.ok status)
  | .malformed => .ok (.error .badMsg)

/-- The variables of the loop of `rpc_get_station_mac`. -/
structure MacScan where
  mac : Option (List Byte) := none
  status : Word := 0#32
deriving DecidableEq

def MacScan.note (scan : MacScan) (field : PbField) : MacScan :=
  if field.number = 1#32 ∧ field.wireType = 2#8 ∧ field.bytes.length = 6 then
    { scan with mac := some field.bytes }
  else if field.number = 2#32 ∧ field.wireType = 0#8 then
    { scan with status := field.varint.setWidth 32 }
  else scan

/-- `rpc_get_station_mac`, after the exchange: no address where it fails with
`EREMOTEIO`. -/
def stationMacAt (width : Nat) (response : List Byte) :
    Checked (Except NetErrno (Option (List Byte))) := do
  match ← scanLoop width response (fun scan field => .ok (scan.note field))
      ({} : MacScan) with
  | .error errno => .ok (.error errno)
  | .ok scan =>
    if scan.status ≠ 0#32 then .ok (.ok none) else .ok (.ok scan.mac)

/-- The bytes of a field are no more than those of its message. -/
theorem Fields.chunk_length {fields : List PbField} {number : Word}
    {chunk : List Byte} (hfields : Fields data fields)
    (hchunk : (chunks number fields).getLast? = some chunk) :
    chunk.length ≤ data.length := by
  obtain ⟨field, hfield, rfl⟩ :=
    List.mem_map.mp (List.mem_of_getLast? hchunk)
  have hmem := (List.mem_filter.mp hfield).1
  clear hchunk hfield
  induction hfields with
  | nil => exact absurd hmem List.not_mem_nil
  | cons hnext hrest ih =>
    have hlength := pbNext_length hnext
    rcases List.mem_cons.mp hmem with rfl | hlater
    · omega
    · have hshorter := ih hlater
      omega

theorem recordStationEventAt_eq (hsize : data.length < 2 ^ width)
    (last : StationDisconnect) :
    recordStationEventAt width last data =
      .ok (recordStationEvent last data) := by
  unfold recordStationEventAt recordStationEvent
  rw [scanLoop_eq hsize]
  cases hscan : pbFold (fun scan field => .ok (EventScan.note scan field)) {}
      data with
  | error errno => rfl
  | ok scan =>
    obtain ⟨fields, hfields, rfl⟩ := pbFold_notes_ok.mp hscan
    rw [EventScan.foldl_note]
    simp only [bind, Except.bind]
    split
    · rfl
    · cases hpayload : (chunks rpcEventStaDisconnected fields).getLast? with
      | none => rfl
      | some payload =>
        have hlength := hfields.chunk_length hpayload
        dsimp only
        rw [scanLoop_eq (Nat.lt_of_le_of_lt hlength hsize)]
        cases hfold : pbFold (fun found field =>
            .ok (noteDisconnectPayload found field)) none payload with
        | error errno => rfl
        | ok found =>
          cases found with
          | none => rfl
          | some disconnect =>
            obtain ⟨inner, hinner, hfound⟩ := pbFold_notes_ok.mp hfold
            rw [foldl_noteDisconnectPayload] at hfound
            have hshorter := hinner.chunk_length hfound.symm
            exact scanLoop_eq (by omega) _ _

/-- From every offset of every buffer, `pb_next` fails or moves the offset on
inside the buffer and reports bytes inside it, and every loop of the program
ends after at most as many turns as the buffer has bytes; nothing outside it is
read. -/
theorem pbNextAt_inside (width : Nat) (data : List Byte)
    (hsize : data.length < 2 ^ width) (offset : Nat) :
    (pbNextAt width data data.length offset = .ok none ∨ ∃ found next,
        pbNextAt width data data.length offset = .ok (some (found, next)) ∧
        offset < next ∧ next ≤ data.length ∧
        found.start + found.count ≤ data.length) ∧
    (∀ (S R : Type) (turn : S → PbField → LoopTurn S R) (state : S), ∃ ending,
        parseLoop width data turn (data.length - offset) state offset =
          .ok ending) ∧
    (∀ last, ∃ result, recordStationEventAt width last data = .ok result) ∧
    (∀ responseId, ∃ result, responseScanAt width responseId data =
      .ok result) ∧
    (∀ number, ∃ result, responseStatusAt width data number = .ok result) ∧
    ∃ result, stationMacAt width data = .ok result := by
  refine ⟨?_, ?_, ?_, ?_, ?_, ?_⟩
  · rcases pbNextAt_refines hsize offset with
      ⟨errno, -, hnext⟩ | ⟨found, next, rest, -, hnext, hadvances, hinside⟩
    · exact .inl hnext
    · exact .inr ⟨found, next, hnext, hadvances.more, hadvances.inside, hinside⟩
  · exact fun S R turn state => parseLoop_ends hsize turn state le_rfl
  · exact fun last => ⟨_, recordStationEventAt_eq hsize last⟩
  · exact fun responseId => ⟨_, scanLoop_eq hsize _ _⟩
  · intro number
    unfold responseStatusAt
    dsimp only
    obtain ⟨ending, hloop⟩ := parseLoop_ends hsize (fun _ field =>
      if field.number = number ∧ field.wireType = 0#8 then
        LoopTurn.stop (field.varint.setWidth 32)
      else LoopTurn.next ()) () (Nat.sub_le data.length 0)
    rw [hloop]
    cases ending <;> exact ⟨_, rfl⟩
  · unfold stationMacAt
    rw [scanLoop_eq hsize]
    cases pbFold (fun scan field => .ok (MacScan.note scan field)) {} data with
    | error errno => exact ⟨_, rfl⟩
    | ok scan =>
      simp only [bind, Except.bind]
      split <;> exact ⟨_, rfl⟩

theorem brokenEvent_inside :
    (∃ result, recordStationEventAt 32 {} brokenEvent = .ok result) ∧
      ∃ result, responseStatusAt 32 brokenEvent 1#32 = .ok result := by
  obtain ⟨-, -, hevent, -, hstatus, -⟩ :=
    pbNextAt_inside 32 brokenEvent (by decide) 0
  exact ⟨hevent {}, hstatus 1#32⟩

end Micronux
