/-
The fields of the network control program's messages: what its encoder writes,
its decoder reads back, and what its decoder reads is what the digits denote as
long as the numbers fit the types of the program.
-/
import Micronux.Base128
import Micronux.NetctlRuns

namespace Micronux

variable {number : Word} {wireType shift : Nat} {data : List Byte}
  {result : BitVec 64}

/-- A digit is put in its place. -/
theorem accumulate_digit {byte : Byte} (hresult : result.toNat < 2 ^ shift) :
    result ||| (byte &&& 0x7f#8).setWidth 64 <<< shift =
      BitVec.ofNat 64 (result.toNat + byte.toNat % 128 * 2 ^ shift) := by
  have hbyte := byte.isLt
  have hdigit : ((byte &&& 0x7f#8).setWidth 64).toNat = byte.toNat % 128 := by
    rw [BitVec.toNat_setWidth, BitVec.toNat_and,
      show (0x7f#8).toNat = 2 ^ 7 - 1 from rfl, Nat.and_two_pow_sub_one_eq_mod]
    omega
  rw [Base128.or_shiftLeft hresult, hdigit]

theorem last_digit (byte : Byte) :
    byte &&& 0x80#8 = 0#8 ↔ byte.toNat < 128 := by
  revert byte
  decide

/-- From a shift of 64 on no digit is read. -/
theorem decodeVarint_long (hshift : 64 ≤ shift) (result : BitVec 64)
    (data : List Byte) :
    decodeVarint shift result data = .error .badMsg := by
  cases data with
  | nil => rfl
  | cons byte rest =>
    unfold decodeVarint
    exact if_pos hshift

/-- `decode_varint` with some digits read already: it reads one numeral of no
more digits than are left to ten, and adds it at its place. -/
theorem decodeVarint_from {rest : List Byte} {number : BitVec 64}
    (hresult : result.toNat < 2 ^ shift) (hshift : shift < 64) :
    decodeVarint shift result data = .ok (number, rest) ↔
      ∃ digits, data = digits ++ rest ∧ Base128.Numeral digits ∧
        shift + 7 * digits.length < 71 ∧
        number = BitVec.ofNat 64
          (result.toNat + Base128.value digits * 2 ^ shift) := by
  induction data generalizing shift result with
  | nil =>
    constructor
    · exact fun hdecode => absurd hdecode (by simp [decodeVarint])
    · rintro ⟨digits, hdata, hdigits, -⟩
      obtain ⟨rfl, -⟩ := List.append_eq_nil_iff.mp hdata.symm
      cases hdigits
  | cons byte tail ih =>
    unfold decodeVarint
    rw [if_neg (Nat.not_le.mpr hshift), Base128.exists_numeral_cons]
    dsimp only
    rw [accumulate_digit hresult]
    by_cases hlast : byte.toNat < 128
    · rw [if_pos ((last_digit byte).mpr hlast)]
      simp only [hlast, Nat.not_le.mpr hlast, Except.ok.injEq, Prod.mk.injEq,
        true_and, false_and, or_false, List.length_singleton, Base128.value,
        Nat.mul_zero, Nat.add_zero]
      constructor
      · rintro ⟨rfl, rfl⟩
        exact ⟨rfl, by omega, rfl⟩
      · rintro ⟨rfl, -, rfl⟩
        exact ⟨rfl, rfl⟩
    · rw [if_neg (mt (last_digit byte).mp hlast)]
      simp only [hlast, Nat.not_lt.mp hlast, true_and, false_and, false_or,
        List.length_cons]
      by_cases hnext : shift + 7 < 64
      · have hplaced := Base128.add_digit_lt hresult byte
        have hfits : (BitVec.ofNat 64
            (result.toNat + byte.toNat % 128 * 2 ^ shift)).toNat =
            result.toNat + byte.toNat % 128 * 2 ^ shift := by
          rw [BitVec.toNat_ofNat]
          apply Nat.mod_eq_of_lt
          exact Nat.lt_trans hplaced (Nat.pow_lt_pow_right (by decide) hnext)
        rw [ih (by rw [hfits]; exact hplaced) hnext, hfits]
        simp only [Base128.add_value_cons]
        simp only [Nat.mul_add, Nat.mul_one, Nat.add_assoc, Nat.add_comm 7]
      · rw [decodeVarint_long (Nat.not_lt.mp hnext)]
        constructor
        · exact fun hdecode => absurd hdecode (by simp)
        · rintro ⟨more, -, hmore, hlength, -⟩
          have hpositive := hmore.length_pos
          omega

/-- `decode_varint` reads one numeral of at most ten digits and keeps the low 64
bits of its number. -/
theorem decodeVarint_ok {rest : List Byte} {number : BitVec 64} :
    decodeVarint 0 0#64 data = .ok (number, rest) ↔
      ∃ digits, data = digits ++ rest ∧ Base128.Numeral digits ∧
        digits.length ≤ 10 ∧
        number = BitVec.ofNat 64 (Base128.value digits) := by
  rw [decodeVarint_from (by decide) (by decide)]
  simp only [BitVec.toNat_zero, Nat.zero_add, Nat.pow_zero, Nat.mul_one]
  constructor <;> rintro ⟨digits, hdata, hdigits, hlength, hnumber⟩ <;>
    exact ⟨digits, hdata, hdigits, by omega, hnumber⟩

/-- A number of 64 bits is read back. -/
theorem decodeVarint_encode (number : BitVec 64) (rest : List Byte) :
    decodeVarint 0 0#64 (Base128.encode number.toNat ++ rest) =
      .ok (number, rest) := by
  have hbound : number.toNat < 128 ^ (9 + 1) := by
    have hnumber := number.isLt
    omega
  refine decodeVarint_ok.mpr ⟨_, rfl, Base128.numeral_encode _,
    Base128.length_encode hbound, ?_⟩
  rw [Base128.value_encode, BitVec.ofNat_toNat, BitVec.setWidth_eq]

variable {buffer : NetBuffer}

theorem bufferAppend_fits
    (hfits : (buffer.data ++ data).length ≤ bufferCapacity) :
    bufferAppend buffer data = .ok ⟨buffer.data ++ data, hfits⟩ := by
  have hlength := hfits
  rw [List.length_append] at hlength
  unfold bufferAppend
  rw [dif_neg (by omega)]

theorem bufferAppend_long
    (hlong : bufferCapacity < (buffer.data ++ data).length) :
    bufferAppend buffer data = .error .msgSize := by
  have hbound := buffer.bound
  rw [List.length_append] at hlong
  unfold bufferAppend
  rw [dif_pos (by omega)]

/-- Two appends are one. -/
theorem bufferAppend_append (buffer : NetBuffer) (first second : List Byte) :
    bufferAppend buffer (first ++ second) =
      bufferAppend buffer first >>= fun buffer =>
        bufferAppend buffer second := by
  rcases Nat.lt_or_ge bufferCapacity (buffer.data ++ first).length with
    hlong | hfirst
  · rw [bufferAppend_long hlong, bufferAppend_long]
    · rfl
    · rw [← List.append_assoc, List.length_append]
      omega
  · rw [bufferAppend_fits hfirst]
    show _ = bufferAppend ⟨buffer.data ++ first, hfirst⟩ second
    rcases Nat.lt_or_ge bufferCapacity
        (buffer.data ++ first ++ second).length with hlong | hboth
    · rw [bufferAppend_long (by rwa [← List.append_assoc]),
        bufferAppend_long hlong]
    · rw [bufferAppend_fits (by rwa [← List.append_assoc]),
        bufferAppend_fits hboth]
      simp only [List.append_assoc]

theorem varint_byte (value : BitVec 64) :
    (value &&& 0x7f#64).setWidth 8 = BitVec.ofNat 8 (value.toNat % 128) := by
  apply BitVec.eq_of_toNat_eq
  rw [BitVec.toNat_setWidth, BitVec.toNat_and,
    show (0x7f#64).toNat = 2 ^ 7 - 1 from rfl, Nat.and_two_pow_sub_one_eq_mod,
    BitVec.toNat_ofNat]

theorem varint_more {digit : Nat} (hdigit : digit < 128) :
    BitVec.ofNat 8 digit ||| 0x80#8 = BitVec.ofNat 8 (digit + 128) := by
  have hlow : (BitVec.ofNat 8 digit).toNat < 2 ^ 7 := by
    rw [BitVec.toNat_ofNat]
    omega
  rw [show 0x80#8 = 1#8 <<< 7 from rfl, Base128.or_shiftLeft hlow]
  apply BitVec.eq_of_toNat_eq
  simp only [BitVec.toNat_ofNat]
  omega

/-- `pb_varint` appends the shortest numeral. -/
theorem pbVarint_eq (buffer : NetBuffer) (value : BitVec 64) :
    pbVarint buffer value =
      bufferAppend buffer (Base128.encode value.toNat) := by
  induction hnat : value.toNat using Nat.strong_induction_on
    generalizing value buffer with
  | h number ih =>
    have hshift : (value >>> 7).toNat = number / 128 := by
      rw [BitVec.toNat_ushiftRight, Nat.shiftRight_eq_div_pow, hnat]
    have hzero : value >>> 7 = 0#64 ↔ number < 128 := by
      rw [← BitVec.toNat_inj, hshift, BitVec.toNat_zero]
      omega
    unfold pbVarint
    dsimp only
    rw [varint_byte, hnat]
    rcases Nat.lt_or_ge number 128 with hsmall | hlarge
    · rw [if_pos (hzero.mpr hsmall), Base128.encode_small hsmall,
        Nat.mod_eq_of_lt hsmall]
    · rw [if_neg (mt hzero.mp (Nat.not_lt.mpr hlarge)),
        varint_more (Nat.mod_lt _ (by decide)), Base128.encode_large hlarge]
      have hrest : ∀ between, pbVarint between (value >>> 7) =
          bufferAppend between (Base128.encode (number / 128)) :=
        fun between => ih (number / 128) (by omega) between _ hshift
      simp only [hrest]
      exact (bufferAppend_append buffer [_] _).symm

def fieldKey (number : Word) (wireType : Nat) : List Byte :=
  Base128.encode (8 * number.toNat + wireType)

theorem key_eq (number : Word) (hwire : wireType < 8) :
    number.setWidth 64 <<< 3 ||| BitVec.ofNat 64 wireType =
      BitVec.ofNat 64 (8 * number.toNat + wireType) := by
  have hnumber := number.isLt
  have hlow : (BitVec.ofNat 64 wireType).toNat < 2 ^ 3 := by
    rw [BitVec.toNat_ofNat]
    omega
  rw [BitVec.or_comm, Base128.or_shiftLeft hlow]
  apply BitVec.eq_of_toNat_eq
  simp only [BitVec.toNat_ofNat, BitVec.toNat_setWidth]
  omega

theorem pbKey_eq (buffer : NetBuffer) (number : Word) (hwire : wireType < 8) :
    pbKey buffer number (BitVec.ofNat 64 wireType) =
      bufferAppend buffer (fieldKey number wireType) := by
  have hnumber := number.isLt
  rw [pbKey, key_eq number hwire, pbVarint_eq, fieldKey, BitVec.toNat_ofNat,
    Nat.mod_eq_of_lt (by omega)]

theorem pbUint_eq (buffer : NetBuffer) (number : Word) {value : BitVec 64}
    (hvalue : value ≠ 0#64) :
    pbUint buffer number value = bufferAppend buffer
      (fieldKey number 0 ++ Base128.encode value.toNat) := by
  rw [pbUint, if_neg hvalue, bufferAppend_append, ← pbKey_eq _ _ (by decide)]
  simp only [pbVarint_eq]

theorem pbBytes_eq (buffer : NetBuffer) (number : Word) (data : List Byte) :
    pbBytes buffer number data = bufferAppend buffer
      (fieldKey number 2 ++ (Base128.encode data.length ++ data)) := by
  have hwritten : pbBytes buffer number data = bufferAppend buffer
      (fieldKey number 2 ++
        (Base128.encode (data.length % 2 ^ 64) ++ data)) := by
    rw [bufferAppend_append, ← pbKey_eq _ _ (by decide)]
    simp only [pbBytes, pbVarint_eq, bufferAppend_append, BitVec.toNat_ofNat]
  rw [hwritten]
  rcases Nat.lt_or_ge bufferCapacity data.length with hlong | hfits
  · rw [bufferAppend_long, bufferAppend_long] <;>
      simp only [List.length_append] <;> omega
  · rw [Nat.mod_eq_of_lt]
    unfold bufferCapacity at hfits
    omega

/-- `pb_message` -/
def pbMessage (buffer : NetBuffer) (field : Word) (message : NetBuffer) :
    Except NetErrno NetBuffer :=
  pbBytes buffer field message.data

/-- The fields of a message, in order. -/
inductive PbMessage where
  | done
  | uint (number : Word) (value : BitVec 64) (rest : PbMessage)
  | bytes (number : Word) (data : List Byte) (rest : PbMessage)
  | message (number : Word) (inner rest : PbMessage)

namespace PbMessage

/-- The calls that write a message: a message inside another is written to a
buffer of its own first. -/
def write (buffer : NetBuffer) : PbMessage → Except NetErrno NetBuffer
  | done => .ok buffer
  | uint number value rest => do
    let buffer ← pbUint buffer number value
    rest.write buffer
  | bytes number data rest => do
    let buffer ← pbBytes buffer number data
    rest.write buffer
  | message number inner rest => do
    let nested ← inner.write .empty
    let buffer ← pbMessage buffer number nested
    rest.write buffer

def wire : PbMessage → List Byte
  | done => []
  | uint number value rest =>
    fieldKey number 0 ++ Base128.encode value.toNat ++ rest.wire
  | bytes number data rest =>
    fieldKey number 2 ++ (Base128.encode data.length ++ data) ++ rest.wire
  | message number inner rest =>
    fieldKey number 2 ++ (Base128.encode inner.wire.length ++ inner.wire) ++
      rest.wire

/-- No field has the number 0, and no varint is 0. -/
def Valid : PbMessage → Prop
  | done => True
  | uint number value rest => number ≠ 0#32 ∧ value ≠ 0#64 ∧ rest.Valid
  | bytes number _ rest => number ≠ 0#32 ∧ rest.Valid
  | message number inner rest => number ≠ 0#32 ∧ inner.Valid ∧ rest.Valid

/-- The fields as `pb_next` reports them. -/
def fields : PbMessage → List PbField
  | done => []
  | uint number value rest =>
    { number, wireType := 0#8, varint := value } :: rest.fields
  | bytes number data rest =>
    { number, wireType := 2#8, bytes := data } :: rest.fields
  | message number inner rest =>
    { number, wireType := 2#8, bytes := inner.wire } :: rest.fields

/-- Some bytes are read as the fields of a message, one by one up to their end,
and the bytes of a message inside it as that message. -/
def Decodes (data : List Byte) : PbMessage → Prop
  | done => data = []
  | uint number value rest => ∃ tail,
      pbNext data = .ok ({ number, wireType := 0#8, varint := value }, tail) ∧
        rest.Decodes tail
  | bytes number chunk rest => ∃ tail,
      pbNext data = .ok ({ number, wireType := 2#8, bytes := chunk }, tail) ∧
        rest.Decodes tail
  | message number inner rest => ∃ chunk tail,
      pbNext data = .ok ({ number, wireType := 2#8, bytes := chunk }, tail) ∧
        inner.Decodes chunk ∧ rest.Decodes tail

/-- Writing a message appends its bytes. -/
theorem write_eq {message : PbMessage} (hvalid : message.Valid)
    (buffer : NetBuffer) :
    message.write buffer = bufferAppend buffer message.wire := by
  induction message generalizing buffer with
  | done =>
    rw [write, wire, bufferAppend_fits (by simpa using buffer.bound)]
    simp
  | uint number value rest ih =>
    obtain ⟨-, hvalue, hrest⟩ := hvalid
    simp only [write, wire, pbUint_eq _ _ hvalue, ih hrest,
      ← bufferAppend_append]
  | bytes number data rest ih =>
    simp only [write, wire, pbBytes_eq, ih hvalid.2, ← bufferAppend_append]
  | message number inner rest hinner hrest =>
    simp only [write, hinner hvalid.2.1, hrest hvalid.2.2, pbMessage,
      pbBytes_eq, ← bufferAppend_append]
    rcases Nat.lt_or_ge bufferCapacity inner.wire.length with hlong | hfits
    · rw [bufferAppend_long (by simpa [NetBuffer.empty] using hlong),
        bufferAppend_long]
      · rfl
      · simp only [wire, List.length_append]
        omega
    · rw [bufferAppend_fits (by simpa [NetBuffer.empty] using hfits)]
      rfl

end PbMessage

/-- A key is read back. -/
theorem pbNext_key (hwire : wireType < 8) (rest : List Byte) :
    ∃ key, decodeVarint 0 0#64 (fieldKey number wireType ++ rest) =
        .ok (key, rest) ∧
      (key >>> 3).setWidth 32 = number ∧
      (key &&& 7#64).setWidth 8 = BitVec.ofNat 8 wireType := by
  have hnumber := number.isLt
  have hkey : (BitVec.ofNat 64 (8 * number.toNat + wireType)).toNat =
      8 * number.toNat + wireType := by
    rw [BitVec.toNat_ofNat]
    omega
  refine ⟨BitVec.ofNat 64 (8 * number.toNat + wireType), ?_, ?_, ?_⟩
  · have hread := decodeVarint_encode
      (BitVec.ofNat 64 (8 * number.toNat + wireType)) rest
    rwa [hkey] at hread
  · apply BitVec.eq_of_toNat_eq
    rw [BitVec.toNat_setWidth, BitVec.toNat_ushiftRight, hkey,
      Nat.shiftRight_eq_div_pow]
    omega
  · apply BitVec.eq_of_toNat_eq
    rw [BitVec.toNat_setWidth, BitVec.toNat_and, hkey,
      show (7#64).toNat = 2 ^ 3 - 1 from rfl, Nat.and_two_pow_sub_one_eq_mod,
      BitVec.toNat_ofNat]
    omega

theorem pbNext_uint (hnumber : number ≠ 0#32) (value : BitVec 64)
    (rest : List Byte) :
    pbNext (fieldKey number 0 ++ Base128.encode value.toNat ++ rest) =
      .ok ({ number, wireType := 0#8, varint := value }, rest) := by
  rw [List.append_assoc]
  obtain ⟨key, hkey, hnumber', hwire⟩ := pbNext_key (by decide : 0 < 8)
    (Base128.encode value.toNat ++ rest)
  unfold pbNext
  rw [hkey]
  simp only [bind, Except.bind, hnumber', hwire]
  rw [if_neg hnumber, if_true, decodeVarint_encode]

theorem pbNext_bytes (hnumber : number ≠ 0#32) (data : List Byte)
    (hdata : data.length < 2 ^ 64) (rest : List Byte) :
    pbNext (fieldKey number 2 ++ (Base128.encode data.length ++ data) ++ rest) =
      .ok ({ number, wireType := 2#8, bytes := data }, rest) := by
  have hlength : (BitVec.ofNat 64 data.length).toNat = data.length := by
    rw [BitVec.toNat_ofNat, Nat.mod_eq_of_lt hdata]
  have hread := decodeVarint_encode (BitVec.ofNat 64 data.length) (data ++ rest)
  rw [hlength] at hread
  rw [List.append_assoc, List.append_assoc]
  obtain ⟨key, hkey, hnumber', hwire⟩ := pbNext_key (by decide : 2 < 8)
    (Base128.encode data.length ++ (data ++ rest))
  unfold pbNext
  rw [hkey]
  simp only [bind, Except.bind, hnumber', hwire]
  rw [if_neg hnumber, if_neg (by decide), if_neg (by decide), hread]
  dsimp only
  rw [hlength, if_neg (by rw [List.length_append]; omega),
    List.take_left, List.drop_left]

namespace PbMessage

/-- The bytes of a message that fits are read as the message. -/
theorem wire_decodes {message : PbMessage} (hvalid : message.Valid)
    (hfits : message.wire.length ≤ bufferCapacity) :
    message.Decodes message.wire ∧ Fields message.wire message.fields := by
  induction message with
  | done => exact ⟨rfl, .nil⟩
  | uint number value rest ih =>
    obtain ⟨hnumber, -, hrest⟩ := hvalid
    simp only [wire, List.length_append] at hfits
    have hnext := pbNext_uint hnumber value rest.wire
    obtain ⟨hdecodes, hfields⟩ := ih hrest (by omega)
    exact ⟨⟨rest.wire, hnext, hdecodes⟩, .cons hnext hfields⟩
  | bytes number data rest ih =>
    simp only [wire, List.length_append, bufferCapacity] at hfits ih
    have hnext := pbNext_bytes hvalid.1 data (by omega) rest.wire
    obtain ⟨hdecodes, hfields⟩ := ih hvalid.2 (by omega)
    exact ⟨⟨rest.wire, hnext, hdecodes⟩, .cons hnext hfields⟩
  | message number inner rest hinner hrest =>
    simp only [wire, List.length_append, bufferCapacity] at hfits hinner hrest
    have hnext := pbNext_bytes hvalid.1 inner.wire (by omega) rest.wire
    obtain ⟨hnested, -⟩ := hinner hvalid.2.1 (by omega)
    obtain ⟨hdecodes, hfields⟩ := hrest hvalid.2.2 (by omega)
    exact ⟨⟨inner.wire, rest.wire, hnext, hnested, hdecodes⟩,
      .cons hnext hfields⟩

end PbMessage

variable {fields : List PbField}

/-- A loop over a message runs over its fields. -/
theorem Fields.fold {S : Type} {step : S → PbField → Except NetErrno S}
    (hfields : Fields data fields) (state : S) :
    pbFold step state data = fields.foldlM step state := by
  induction hfields generalizing state with
  | nil => exact pbFold_nil state
  | cons hnext hrest ih =>
    rw [pbFold_field hnext, List.foldlM_cons]
    simp only [ih]

/-- The loop of `pb_next` over a message, with the fields that it reports. -/
def pbFields (data : List Byte) : Except NetErrno (List PbField) :=
  pbFold (fun fields field => .ok (fields ++ [field])) [] data

/-- A loop that only notes fields ends well exactly on a well-formed
message. -/
theorem pbFold_notes_ok {S : Type} {note : S → PbField → S} {state last : S} :
    pbFold (fun state field => .ok (note state field)) state data = .ok last ↔
      ∃ fields, Fields data fields ∧ last = fields.foldl note state := by
  constructor
  · intro hfold
    have hstep : ∀ (fields : List PbField) (reached : S) (field : PbField)
        (next : S), reached = fields.foldl note state →
        (.ok (note reached field) : Except NetErrno S) = .ok next →
        next = (fields ++ [field]).foldl note state := by
      rintro fields _ field _ rfl ⟨⟩
      rw [List.foldl_append]
      rfl
    have hstart : state = ([] : List PbField).foldl note state := rfl
    obtain ⟨fields, hfields, hlast⟩ := pbFold_ok hstep hstart hfold
    exact ⟨fields, hfields, hlast⟩
  · rintro ⟨fields, hfields, rfl⟩
    rw [hfields.fold]
    exact List.foldlM_pure

theorem pbFields_ok : pbFields data = .ok fields ↔ Fields data fields := by
  have hcollect : ∀ found : List PbField,
      found.foldl (fun fields field => fields ++ [field]) [] = found := by
    intro found
    rw [List.foldl_append_eq_append, List.nil_append, ← List.flatMap_def,
      List.flatMap_singleton']
  rw [pbFields, pbFold_notes_ok]
  simp only [hcollect]
  constructor
  · rintro ⟨found, hfound, rfl⟩
    exact hfound
  · exact fun hfields => ⟨fields, hfields, rfl⟩

/-- A message whose bytes fit a buffer is written, and the loop of `pb_next`
over the buffer reports exactly its fields up to the end; the messages inside
it are read in the same way. -/
theorem pbMessage_round_trip (message : PbMessage) (hvalid : message.Valid)
    (hfits : message.wire.length ≤ bufferCapacity) :
    ∃ buffer, message.write .empty = .ok buffer ∧
      pbFields buffer.data = .ok message.fields ∧
      message.Decodes buffer.data := by
  obtain ⟨hdecodes, hfields⟩ := message.wire_decodes hvalid hfits
  refine ⟨⟨message.wire, hfits⟩, ?_, pbFields_ok.mpr hfields, hdecodes⟩
  rw [message.write_eq hvalid, bufferAppend_fits hfits]
  rfl

/-- A message with a varint, some bytes and a message in it. -/
def sampleMessage : PbMessage :=
  .uint 1#32 300#64 (.bytes 536870911#32 [0xaa#8]
    (.message 2#32 (.uint 4#32 18446744073709551615#64 .done) .done))

theorem sampleMessage_round_trip :
    ∃ buffer, sampleMessage.write .empty = .ok buffer ∧
      pbFields buffer.data = .ok sampleMessage.fields ∧
      sampleMessage.Decodes buffer.data :=
  pbMessage_round_trip sampleMessage
    ⟨by decide, by decide, by decide, by decide, ⟨by decide, by decide, trivial⟩,
      trivial⟩ (by decide +kernel)

/-- A field is read from the numeral of its key and a second numeral.  Its number
is the one that the key denotes exactly if the key has no more than 35 bits, and
its value or length is the second numeral's exactly if that has no more than
64. -/
theorem pbNext_denotes {data rest : List Byte} {field : PbField}
    (hnext : pbNext data = .ok (field, rest)) :
    ∃ key value tail, Base128.Numeral key ∧ Base128.Numeral value ∧
      data = key ++ (value ++ tail) ∧
      (field.number.toNat = Base128.value key / 8 ↔
        Base128.value key < 2 ^ 35) ∧
      field.wireType.toNat = Base128.value key % 8 ∧
      (field.wireType = 0#8 ∨ field.wireType = 2#8) ∧
      (field.wireType = 0#8 → rest = tail ∧
        (field.varint.toNat = Base128.value value ↔
          Base128.value value < 2 ^ 64)) ∧
      (field.wireType = 2#8 → field.bytes ++ rest = tail ∧
        (field.bytes.length = Base128.value value ↔
          Base128.value value < 2 ^ 64)) := by
  obtain ⟨found, last, hfound, hnumber, hwire, -, hrest⟩ := pbNext_ok hnext
  obtain ⟨key, rfl, hkey, -, rfl⟩ := decodeVarint_ok.mp hfound
  have hnumber' : field.number.toNat = Base128.value key / 8 ↔
      Base128.value key < 2 ^ 35 := by
    rw [hnumber, BitVec.toNat_setWidth, BitVec.toNat_ushiftRight,
      BitVec.toNat_ofNat, Nat.shiftRight_eq_div_pow]
    omega
  have hwire' : field.wireType.toNat = Base128.value key % 8 := by
    rw [hwire, BitVec.toNat_setWidth, BitVec.toNat_and,
      show (7#64).toNat = 2 ^ 3 - 1 from rfl, Nat.and_two_pow_sub_one_eq_mod,
      BitVec.toNat_ofNat]
    omega
  rcases hrest with ⟨hvarint, -, hread⟩ | ⟨hbytes, -, length, hread, hlength⟩
  · obtain ⟨value, rfl, hvalue, -, hnat⟩ := decodeVarint_ok.mp hread
    refine ⟨key, value, rest, hkey, hvalue, rfl, hnumber', hwire',
      .inl hvarint, fun _ => ⟨rfl, ?_⟩, fun hbytes => ?_⟩
    · rw [hnat, BitVec.toNat_ofNat]
      exact Nat.mod_eq_iff_lt (by decide)
    · exact absurd (hvarint.symm.trans hbytes) (by decide)
  · obtain ⟨value, rfl, hvalue, -, rfl⟩ := decodeVarint_ok.mp hread
    refine ⟨key, value, field.bytes ++ rest, hkey, hvalue, rfl, hnumber',
      hwire', .inr hbytes, fun hvarint => ?_, fun _ => ⟨rfl, ?_⟩⟩
    · exact absurd (hvarint.symm.trans hbytes) (by decide)
    · rw [hlength, BitVec.toNat_ofNat]
      exact Nat.mod_eq_iff_lt (by decide)

/-- The key of the field of number 2 ^ 32 + 1. -/
def foldedKey : List Byte := [0x88#8, 0x80#8, 0x80#8, 0x80#8, 0x80#8, 0x01#8]

/-- The digits of 2 ^ 64. -/
def foldedValue : List Byte := List.replicate 9 0x80#8 ++ [0x02#8]

/-- A number of 33 bits is reported as the field 1, and a value of 65 bits as
0. -/
theorem pbNext_folds : (Base128.value foldedKey / 8 = 2 ^ 32 + 1 ∧
      pbNext (foldedKey ++ [0x05#8]) =
        .ok ({ number := 1#32, wireType := 0#8, varint := 5#64 }, [])) ∧
    (Base128.value foldedValue = 2 ^ 64 ∧ pbNext ([0x08#8] ++ foldedValue) =
        .ok ({ number := 1#32, wireType := 0#8, varint := 0#64 }, [])) := by
  decide +kernel

/-- The bytes of an event, whose key is the numeral of 8 * 776 + 2. -/
def eventField : List Byte := [0xc2#8, 0x30#8, 0x01#8, 0xaa#8]

theorem pbNext_denotes_event :
    ∃ field rest key value tail, pbNext eventField = .ok (field, rest) ∧
      Base128.Numeral key ∧ Base128.Numeral value ∧
      eventField = key ++ (value ++ tail) ∧
      field.number.toNat = Base128.value key / 8 ∧
      field.wireType.toNat = Base128.value key % 8 ∧
      field.bytes ++ rest = tail ∧
      field.bytes.length = Base128.value value := by
  have hnext : pbNext eventField =
      .ok ({ number := 776#32, wireType := 2#8, bytes := [0xaa#8] }, []) := by
    decide +kernel
  obtain ⟨key, value, tail, hkey, hvalue, hdata, hnumber, hwire, -, -, hbytes⟩ :=
    pbNext_denotes hnext
  obtain ⟨htail, hlength⟩ := hbytes rfl
  have hshort : 4 = key.length + (value.length + tail.length) := by
    simpa [eventField] using congrArg List.length hdata
  have hsmall : ∀ digits : List Byte, digits.length ≤ 4 →
      Base128.value digits < 128 ^ 4 := fun digits hdigits =>
    (Base128.value_lt digits).trans_le (Nat.pow_le_pow_right (by decide) hdigits)
  have hkey' := hsmall key (by omega)
  have hvalue' := hsmall value (by omega)
  exact ⟨_, _, _, _, _, hnext, hkey, hvalue, hdata, hnumber.mpr (by omega),
    hwire, htail, hlength.mpr (by omega)⟩

end Micronux
