/-
The packets of the panel commands on the registers of the DSI host.  The driver
packs a command and its parameters into payload words and a header, and the
packet rules give the bytes back.
-/
import Micronux.PanelProgram

namespace Micronux

open RecordStream

/-- The writes to the generic interface of the DSI host. -/
inductive HostWrite where
  /-- `DSI_HOST_GEN_PLD_DATA` -/
  | payload (word : Word)
  /-- `DSI_HOST_GEN_HDR` -/
  | header (word : Word)
deriving DecidableEq

/-- The polls of `micronux_cold_dcs_write`. -/
inductive DcsPoll where
  | payloadRoom (byteIndex : Nat)
  | commandRoom
  | sent
  | phyReady
deriving DecidableEq

/-- How the host answers: the polls that time out, and whether it has latched
an error at the end. -/
structure DcsAnswers where
  poll : DcsPoll → Option PanelErrno
  hostStatus : Bool

/-- `MIPI_DSI_DT_DCS_SHORT_WRITE_0` -/
def dcsShortWrite0 : Word := 0x05#32

/-- `MIPI_DSI_DT_DCS_SHORT_WRITE_1` -/
def dcsShortWrite1 : Word := 0x15#32

/-- `MIPI_DSI_DT_DCS_LONG_WRITE` -/
def dcsLongWrite : Word := 0x39#32

/-- Byte `index` of the payload; only the parameters are behind the pointer. -/
def dcsByte (command : Byte) (parameters : List Byte) (index : Nat) :
    Except PanelErrno Byte :=
  if index ≠ 0 then panelByte parameters (index - 1) else .ok command

/-- The inner loop: at most `left` more bytes of the word at `byteIndex`. -/
def dcsWord (command : Byte) (parameters : List Byte)
    (payloadSize byteIndex : Nat) :
    (left byte : Nat) → Word → Except PanelErrno Word
  | 0, _, word => .ok word
  | left + 1, byte, word =>
    if byteIndex + byte < payloadSize then do
      let value ← dcsByte command parameters (byteIndex + byte)
      dcsWord command parameters payloadSize byteIndex left (byte + 1)
        (word ||| value.setWidth 32 <<< (byte * 8))
    else .ok word

/-- The outer loop, from the word at `byteIndex` on. -/
def dcsPayload (answers : DcsAnswers) (command : Byte)
    (parameters : List Byte) (payloadSize byteIndex : Nat) :
    List HostWrite × Except PanelErrno Unit :=
  if byteIndex < payloadSize then
    match dcsWord command parameters payloadSize byteIndex 4 0 0#32 with
    | .error errno => ([], .error errno)
    | .ok word =>
      match answers.poll (.payloadRoom byteIndex) with
      | some errno => ([], .error errno)
      | none =>
        let (writes, final) := dcsPayload answers command parameters
          payloadSize (byteIndex + 4)
        (.payload word :: writes, final)
  else ([], .ok ())
termination_by payloadSize - byteIndex

def dcsHeader (command : Byte) (parameters : List Byte) (payloadSize : Nat) :
    Except PanelErrno Word :=
  if 2 < payloadSize then
    .ok (dcsLongWrite ||| BitVec.ofNat 32 payloadSize <<< 8)
  else if payloadSize = 2 then do
    let parameter ← panelByte parameters 0
    .ok (dcsShortWrite1 ||| command.setWidth 32 <<< 8 |||
      parameter.setWidth 32 <<< 16)
  else .ok (dcsShortWrite0 ||| command.setWidth 32 <<< 8)

def dcsSend (answers : DcsAnswers) (header : Word) :
    List HostWrite × Except PanelErrno Unit :=
  match answers.poll .commandRoom with
  | some errno => ([], .error errno)
  | none =>
    ([.header header],
      match answers.poll .sent, answers.poll .phyReady with
      | some errno, _ | none, some errno => .error errno
      | none, none => if answers.hostStatus then .error .io else .ok ())

/-- `micronux_cold_dcs_write` on the registers; `parameters` is the array that
the pointer leads to. -/
def dcsWrite (answers : DcsAnswers) (command : Byte)
    (parameters : Option (List Byte)) (parameterCount : Nat) :
    List HostWrite × Except PanelErrno Unit :=
  let payloadSize := parameterCount + 1
  if dsiMaxParameters < parameterCount ∨
      (parameterCount ≠ 0 ∧ parameters = none) then
    ([], .error .invalid)
  else
    let bytes := parameters.getD []
    let (writes, packed) :=
      if 2 < payloadSize then
        dcsPayload answers command bytes payloadSize 0
      else ([], .ok ())
    match packed, dcsHeader command bytes payloadSize with
    | .error errno, _ | .ok (), .error errno => (writes, .error errno)
    | .ok (), .ok header =>
      let (rest, final) := dcsSend answers header
      (writes ++ rest, final)

/-- The packet rules: the bytes that some payload words and a header carry. -/
def dcsDecode (words : List Word) (header : Word) : Option (List Byte) :=
  let dataType := header.setWidth 8
  let wordCount := (header.extractLsb 23 8).toNat
  let bytes := words.flatMap le32
  if dataType = 0x39#8 then
    if words.length = (wordCount + 3) / 4 then some (bytes.take wordCount)
    else none
  else if words ≠ [] then none
  else if dataType = 0x15#8 then
    some [(header >>> 8).setWidth 8, (header >>> 16).setWidth 8]
  else if dataType = 0x05#8 then some [(header >>> 8).setWidth 8]
  else none

/-- The word of at most four bytes, lowest first. -/
def packed : List Byte → Word
  | [] => 0#32
  | byte :: rest => byte.setWidth 32 ||| packed rest <<< 8

variable {bytes : List Byte}

theorem packed_getLsbD {bit : Nat} (hbit : bit < 32) :
    (packed bytes).getLsbD bit =
      (bytes.getD (bit / 8) 0#8).getLsbD (bit % 8) := by
  induction bytes generalizing bit with
  | nil => simp [packed]
  | cons byte rest ih =>
    rw [packed, BitVec.getLsbD_or, BitVec.getLsbD_setWidth,
      BitVec.getLsbD_shiftLeft]
    by_cases hlow : bit < 8
    · have hdiv : bit / 8 = 0 := by omega
      have hmod : bit % 8 = bit := by omega
      simp [hlow, hbit, hdiv, hmod]
    · have hdiv : bit / 8 = (bit - 8) / 8 + 1 := by omega
      have hmod : bit % 8 = (bit - 8) % 8 := by omega
      rw [ih (by omega), hdiv, hmod, List.getD_cons_succ]
      simp [hlow, hbit, BitVec.getLsbD_of_ge byte bit (by omega)]

theorem le32_packed (bytes : List Byte) :
    le32 (packed bytes) = [bytes.getD 0 0#8, bytes.getD 1 0#8,
      bytes.getD 2 0#8, bytes.getD 3 0#8] := by
  have hbyte (index : Nat) (hindex : index < 4) :
      (packed bytes >>> (8 * index)).setWidth 8 = bytes.getD index 0#8 := by
    apply BitVec.eq_of_getLsbD_eq
    intro bit hbit
    have hdiv : (8 * index + bit) / 8 = index := by omega
    have hmod : (8 * index + bit) % 8 = bit := by omega
    rw [BitVec.getLsbD_setWidth, BitVec.getLsbD_ushiftRight,
      packed_getLsbD (by omega), hdiv, hmod]
    simp [hbit]
  unfold le32
  rw [← hbyte 0 (by decide), ← hbyte 1 (by decide), ← hbyte 2 (by decide),
    ← hbyte 3 (by decide)]
  simp

/-- A word that is packed from fewer than four bytes ends with zeros. -/
theorem le32_packed_take (bytes : List Byte) : le32 (packed (bytes.take 4)) =
      bytes.take 4 ++ List.replicate (4 - bytes.length) 0#8 := by
  rw [le32_packed]
  match bytes with
  | [] | [_] | [_, _] | [_, _, _] => rfl
  | _ :: _ :: _ :: _ :: _ => simp

/-- The first word of some bytes and the words of the others. -/
theorem le32_packed_append {rest : List Byte} {count : Nat}
    (hcount : count = (bytes.length - 4 + 3) / 4)
    (hrest : rest = bytes.drop 4 ++
      List.replicate (4 * count - (bytes.length - 4)) 0#8) :
    le32 (packed (bytes.take 4)) ++ rest =
      bytes ++ List.replicate (4 * (count + 1) - bytes.length) 0#8 := by
  rw [le32_packed_take, hrest]
  by_cases hlong : 4 ≤ bytes.length
  · have hnone : 4 - bytes.length = 0 := by omega
    have hpad : 4 * (count + 1) - bytes.length =
        4 * count - (bytes.length - 4) := by omega
    rw [hnone, hpad, List.replicate_zero, List.append_nil,
      ← List.append_assoc, List.take_append_drop]
  · have hlast : count = 0 := by omega
    rw [List.take_of_length_le (by omega), List.drop_eq_nil_of_le (by omega),
      hlast]
    simp

theorem setWidth_or_shiftLeft (low high : Word) :
    (low ||| high <<< 8).setWidth 8 = low.setWidth 8 := by
  apply BitVec.eq_of_getLsbD_eq
  intro bit hbit
  simp [hbit]

theorem extractLsb_or_shiftLeft {low : Word} (hlow : low >>> 8 = 0#32)
    (high : Word) :
    (low ||| high <<< 8).extractLsb 23 8 = high.setWidth 16 := by
  apply BitVec.eq_of_getLsbD_eq
  intro bit hbit
  have hzero : low.getLsbD (8 + bit) = false := by
    rw [← BitVec.getLsbD_ushiftRight, hlow, BitVec.getLsbD_zero]
  rw [BitVec.extractLsb, BitVec.getLsbD_extractLsb', BitVec.getLsbD_or, hzero,
    BitVec.getLsbD_shiftLeft, BitVec.getLsbD_setWidth]
  have hbound : 8 + bit < 32 := by omega
  simp [hbit, hbound]

/-- The header of a long packet says how many bytes the words carry. -/
theorem dcsDecode_long {words : List Word} (hfew : bytes.length < 65536)
    (hlength : words.length = (bytes.length + 3) / 4)
    (hwords : words.flatMap le32 =
      bytes ++ List.replicate (4 * words.length - bytes.length) 0#8) :
    dcsDecode words (dcsLongWrite ||| BitVec.ofNat 32 bytes.length <<< 8) =
      some bytes := by
  have htype : (dcsLongWrite ||| BitVec.ofNat 32 bytes.length <<< 8).setWidth
      8 = 0x39#8 := by
    rw [setWidth_or_shiftLeft]
    rfl
  have hcount : ((dcsLongWrite ||| BitVec.ofNat 32 bytes.length <<< 8
      ).extractLsb 23 8).toNat = bytes.length := by
    rw [extractLsb_or_shiftLeft (by decide), BitVec.toNat_setWidth,
      BitVec.toNat_ofNat]
    omega
  unfold dcsDecode
  dsimp only
  rw [if_pos htype, hcount, if_pos hlength, hwords, List.take_left]

/-- The bytes of the header of a short packet. -/
theorem dcsDecode_short {header : Word} (dataType : Byte)
    (hheader : header = packed (dataType :: bytes))
    (hbytes : dataType = 0x15#8 ∧ bytes.length = 2 ∨
      dataType = 0x05#8 ∧ bytes.length = 1) :
    dcsDecode [] header = some bytes := by
  have hle := le32_packed (dataType :: bytes)
  rw [← hheader, le32] at hle
  simp only [List.cons.injEq, List.getD_cons_zero, List.getD_cons_succ,
    and_true] at hle
  obtain ⟨htype, hfirst, hsecond, -⟩ := hle
  unfold dcsDecode
  dsimp only
  rw [htype, hfirst, hsecond]
  rcases hbytes with ⟨rfl, htwo⟩ | ⟨rfl, hone⟩
  · obtain ⟨first, second, rfl⟩ := List.length_eq_two.mp htwo
    rfl
  · obtain ⟨first, rfl⟩ := List.length_eq_one_iff.mp hone
    rfl

section

variable {answers : DcsAnswers} (command : Byte) (parameters : List Byte)

/-- Inside the payload the command comes first and no read is out of
bounds. -/
theorem dcsByte_eq {index : Nat}
    (hindex : index < (command :: parameters).length) :
    dcsByte command parameters index =
      .ok ((command :: parameters).get ⟨index, hindex⟩) := by
  unfold dcsByte
  cases index with
  | zero => rfl
  | succ index =>
    have hbound : index < parameters.length := by
      simpa using hindex
    rw [if_pos (Nat.succ_ne_zero index), Nat.add_sub_cancel, panelByte,
      List.getElem?_eq_getElem hbound]
    rfl

/-- The invariant of the inner loop: the bytes still to come are packed above
those that the word has. -/
theorem dcsWord_eq (byteIndex left byte : Nat) (word : Word) :
    dcsWord command parameters (command :: parameters).length byteIndex left
        byte word =
      .ok (word ||| packed (((command :: parameters).drop
        (byteIndex + byte)).take left) <<< (byte * 8)) := by
  induction left generalizing byte word with
  | zero => simp [dcsWord, packed]
  | succ left ih =>
    rw [dcsWord]
    by_cases hmore : byteIndex + byte < (command :: parameters).length
    · have hshift (high : Word) : high <<< ((byte + 1) * 8) =
          high <<< 8 <<< (byte * 8) := by
        rw [← BitVec.shiftLeft_add]
        congr 1
        omega
      rw [if_pos hmore, dcsByte_eq command parameters hmore,
        List.drop_eq_getElem_cons hmore, List.take_succ_cons, packed,
        BitVec.shiftLeft_or_distrib, ← BitVec.or_assoc, ← hshift]
      exact ih (byte + 1) _
    · rw [if_neg hmore, List.drop_eq_nil_of_le (Nat.not_lt.mp hmore)]
      simp [packed]

variable (hpolls : ∀ poll, answers.poll poll = none)

include hpolls

/-- The outer loop writes the bytes that are left, in words, with zeros behind
the last one. -/
theorem dcsPayload_words (byteIndex : Nat) : ∃ words : List Word,
      dcsPayload answers command parameters (command :: parameters).length
          byteIndex = (words.map .payload, .ok ()) ∧
        words.length = ((command :: parameters).length - byteIndex + 3) / 4 ∧
        words.flatMap le32 = (command :: parameters).drop byteIndex ++
          List.replicate (4 * words.length -
            ((command :: parameters).length - byteIndex)) 0#8 := by
  generalize hbytes : command :: parameters = bytes
  generalize hleft : bytes.length - byteIndex = left
  induction left using Nat.strong_induction_on generalizing byteIndex with
  | _ left ih =>
    rw [dcsPayload]
    by_cases hmore : byteIndex < bytes.length
    · obtain ⟨words, hrest, hlength, hwords⟩ :=
        ih (bytes.length - (byteIndex + 4)) (by omega) (byteIndex + 4) rfl
      have hword := dcsWord_eq command parameters byteIndex 4 0 0#32
      rw [hbytes] at hword
      refine ⟨packed ((bytes.drop byteIndex).take 4) :: words, ?_, ?_, ?_⟩
      · rw [if_pos hmore, hword, hpolls, hrest]
        simp
      · rw [List.length_cons, hlength]
        omega
      · have hdrop : (bytes.drop byteIndex).length = left := by
          rw [List.length_drop, hleft]
        rw [List.flatMap_cons, List.length_cons, ← hdrop]
        apply le32_packed_append
        · rw [hlength, hdrop]
          omega
        · rw [hwords, List.drop_drop, hdrop]
          congr 3
          omega
    · have hnone : left = 0 := by omega
      refine ⟨[], ?_, ?_, ?_⟩
      · rw [if_neg hmore]
        rfl
      · rw [hnone]
        rfl
      · rw [List.drop_eq_nil_of_le (Nat.not_lt.mp hmore), hnone]
        rfl

end

theorem dcsSend_eq {answers : DcsAnswers}
    (hpolls : ∀ poll, answers.poll poll = none) (header : Word) :
    dcsSend answers header = ([.header header],
      if answers.hostStatus then .error .io else .ok ()) := by
  unfold dcsSend
  simp only [hpolls]

/-- A packet with at most one parameter is its header alone. -/
theorem dcsHeader_short (command : Byte) (hshort : bytes.length < 2) :
    ∃ header, dcsHeader command bytes (bytes.length + 1) = .ok header ∧
      dcsDecode [] header = some (command :: bytes) := by
  match bytes with
  | [] =>
    refine ⟨_, rfl, dcsDecode_short 0x05#8 ?_ (by simp)⟩
    simp [packed, dcsShortWrite0]
  | [parameter] =>
    refine ⟨_, rfl, dcsDecode_short 0x15#8 ?_ (by simp)⟩
    simp [packed, dcsShortWrite1, BitVec.shiftLeft_or_distrib,
      BitVec.or_assoc, ← BitVec.shiftLeft_add]
  | _ :: _ :: _ => exact absurd hshort (by simp)

/-- Writes that carry some bytes: payload words and then one header. -/
def Carries (bytes : List Byte) (writes : List HostWrite) : Prop :=
  ∃ (words : List Word) (header : Word),
    writes = words.map .payload ++ [.header header] ∧
      dcsDecode words header = some bytes ∧
      words.length = (if 3 ≤ bytes.length then (bytes.length + 3) / 4 else 0) ∧
      (words.flatMap le32).drop bytes.length =
        List.replicate (4 * words.length - bytes.length) 0#8

theorem dcsWrite_carries {answers : DcsAnswers}
    (hpolls : ∀ poll, answers.poll poll = none) (command : Byte)
    (parameters : Option (List Byte))
    (hcount : (parameters.getD []).length ≤ dsiMaxParameters) :
    Carries (command :: parameters.getD []) (dcsWrite answers command parameters
          (parameters.getD []).length).1 ∧
      (dcsWrite answers command parameters (parameters.getD []).length).2 =
        if answers.hostStatus then .error .io else .ok () := by
  have hallowed : ¬ (dsiMaxParameters < (parameters.getD []).length ∨
      ((parameters.getD []).length ≠ 0 ∧ parameters = none)) := by
    rintro (hlong | ⟨hsome, rfl⟩)
    · omega
    · exact hsome rfl
  unfold dcsWrite
  simp only [if_neg hallowed]
  generalize parameters.getD [] = bytes at hcount ⊢
  by_cases hlong : 2 ≤ bytes.length
  · obtain ⟨words, hpayload, hlength, hwords⟩ :=
      dcsPayload_words command bytes hpolls 0
    rw [Nat.sub_zero] at hlength hwords
    rw [List.drop_zero] at hwords
    rw [List.length_cons] at hpayload
    rw [if_pos (by omega), hpayload, dcsHeader, if_pos (by omega)]
    simp only [dcsSend_eq hpolls]
    refine ⟨⟨words, _, rfl, ?_, ?_, ?_⟩, trivial⟩
    · apply dcsDecode_long _ hlength hwords
      rw [List.length_cons]
      exact Nat.lt_of_le_of_lt (Nat.succ_le_succ hcount) (by decide)
    · rw [List.length_cons, if_pos (by omega), hlength, List.length_cons]
    · rw [hwords, List.drop_left]
  · obtain ⟨header, hheader, hdecode⟩ :=
      dcsHeader_short command (Nat.lt_of_not_le hlong)
    rw [if_neg (by omega), hheader]
    simp only [dcsSend_eq hpolls]
    refine ⟨⟨[], header, rfl, hdecode, ?_, by simp⟩, trivial⟩
    rw [List.length_cons, if_neg (by omega)]
    rfl

/-- A packet that the host has room for: the payload words and then the
header carry exactly the command and its parameters, in as few words as they
need, with zeros behind them.  A read outside the array would be a fault. -/
theorem dcsWrite_decodes (answers : DcsAnswers)
    (hpolls : ∀ poll, answers.poll poll = none) (command : Byte)
    (parameters : Option (List Byte))
    (hcount : (parameters.getD []).length ≤ dsiMaxParameters) :
    ∃ (words : List Word) (header : Word),
      dcsWrite answers command parameters (parameters.getD []).length =
          (words.map .payload ++ [.header header],
            if answers.hostStatus then .error .io else .ok ()) ∧
        dcsDecode words header = some (command :: parameters.getD []) ∧
        words.length = (if 2 ≤ (parameters.getD []).length then
          ((parameters.getD []).length + 1 + 3) / 4 else 0) ∧
        (words.flatMap le32).drop ((parameters.getD []).length + 1) =
          List.replicate (4 * words.length -
            ((parameters.getD []).length + 1)) 0#8 := by
  obtain ⟨⟨words, header, hwrites, hdecode, hlength, hzeros⟩, hreply⟩ :=
    dcsWrite_carries hpolls command parameters hcount
  refine ⟨words, header, Prod.ext hwrites hreply, hdecode, ?_, hzeros⟩
  rw [hlength, List.length_cons]
  simp only [Nat.succ_le_succ_iff]

/-- A long packet of three words, whose last word carries one parameter. -/
theorem dcsWrite_decodes_nine : ∃ (words : List Word) (header : Word),
      dcsWrite ⟨fun _ => none, false⟩ 0xf0#8
          (some [1#8, 2#8, 3#8, 4#8, 5#8, 6#8, 7#8, 8#8]) 8 =
        (words.map .payload ++ [.header header], .ok ()) ∧
      dcsDecode words header =
        some [0xf0#8, 1#8, 2#8, 3#8, 4#8, 5#8, 6#8, 7#8, 8#8] ∧
      words.length = 3 := by
  obtain ⟨words, header, hwrites, hdecode, hlength, -⟩ :=
    dcsWrite_decodes ⟨fun _ => none, false⟩ (fun _ => rfl) 0xf0#8
      (some [1#8, 2#8, 3#8, 4#8, 5#8, 6#8, 7#8, 8#8]) (by decide)
  exact ⟨words, header, hwrites, hdecode, hlength⟩

/-- What the panel program sends for a record of the firmware is what the
registers carry. -/
theorem dcsWrite_at {payload : List Byte} {cursor : Nat}
    {record : PanelRecord} (hat : At payload cursor record.encode)
    {answers : DcsAnswers} (hpolls : ∀ poll, answers.poll poll = none) :
    coldDcsWrite none payload record.command (some (cursor + 4))
        record.data.length =
      ([.dcsWrite record.command record.data], .ok ()) ∧
    Carries (record.command :: record.data) (dcsWrite answers record.command
        (some ((payload.drop (cursor + 4)).take record.data.length))
        record.data.length).1 := by
  have hdata : (payload.drop (cursor + 4)).take record.data.length =
      record.data := (at_encode.mp hat).2.2.2.2
  rw [hdata]
  exact ⟨coldDcsWrite_at hat,
    (dcsWrite_carries hpolls record.command (some record.data)
      record.data_le).1⟩

end Micronux
