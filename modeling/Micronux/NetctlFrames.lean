/-
The frames on the serial device: what one side writes as frames the other side
reads as the same frames, however the device cuts the bytes into pieces.
-/
import Micronux.NetctlRuns

namespace Micronux

/-- The answers of the device until it has delivered some bytes, and those that
are left.  A read is asked for no more than the rest of these bytes, so that no
piece goes beyond them. -/
inductive Delivers (deadline : Nat) :
    List Byte → List SerialAnswer → List SerialAnswer → Prop where
  | done (rest : List SerialAnswer) : Delivers deadline [] rest rest
  | again {data : List Byte} {answers rest : List SerialAnswer} {now : Nat}
      (hdata : data ≠ []) (hnow : now < deadline)
      (hlater : Delivers deadline data answers rest) :
      Delivers deadline data
        ({ now := some now, poll := .ready, read := .again } :: answers) rest
  | piece {bytes data : List Byte} {answers rest : List SerialAnswer}
      {now : Nat} (hbytes : bytes ≠ []) (hnow : now < deadline)
      (hlater : Delivers deadline data answers rest) :
      Delivers deadline (bytes ++ data)
        ({ now := some now, poll := .ready, read := .data bytes } :: answers)
        rest

def DeliversFrame (deadline : Nat) (frame : PserialFrame)
    (answers rest : List SerialAnswer) : Prop :=
  ∃ second third fourth,
    Delivers deadline (1#8 :: u16Le (BitVec.ofNat 16 frame.endpoint.length))
      answers second ∧
    Delivers deadline frame.endpoint second third ∧
    Delivers deadline (2#8 :: u16Le (BitVec.ofNat 16 frame.message.length))
      third fourth ∧
    Delivers deadline frame.message fourth rest

/-- Calls of `read_pserial_frame` with their deadlines, and the frames that are
delivered to them. -/
inductive DeliversFrames : List (Nat × PserialFrame) → List SerialAnswer →
    List SerialAnswer → Prop where
  | nil (rest : List SerialAnswer) : DeliversFrames [] rest rest
  | cons {deadline : Nat} {frame : PserialFrame}
      {calls : List (Nat × PserialFrame)}
      {answers between rest : List SerialAnswer}
      (hframe : DeliversFrame deadline frame answers between)
      (hcalls : DeliversFrames calls between rest) :
      DeliversFrames ((deadline, frame) :: calls) answers rest

/-- Calls of `read_pserial_frame`, one after another. -/
def readFrames : List Nat → Serial → NetResult (List PserialFrame)
  | [], serial => .returned [] serial
  | deadline :: deadlines, serial =>
    (readPserialFrame deadline serial).bind fun frame serial =>
    (readFrames deadlines serial).bind fun frames serial =>
    .returned (frame :: frames) serial

variable {answers rest : List SerialAnswer} {deadline : Nat}
  {header : List Byte}

/-- `read_exact` reads what is delivered. -/
theorem readExact_delivered {data : List Byte}
    (hdelivers : Delivers deadline data answers rest)
    (done received : List Byte) :
    readExact deadline (done.length + data.length) done received answers =
      .returned (done ++ data) ⟨rest, received ++ data⟩ := by
  induction hdelivers generalizing done received with
  | done rest =>
    cases rest <;> simp [readExact]
  | @again data answers rest now hdata hnow hlater ih =>
    have hmore : done.length < done.length + data.length :=
      Nat.lt_add_of_pos_right (List.length_pos_of_ne_nil hdata)
    unfold readExact
    simp only [if_pos hmore, if_neg (Nat.not_le.mpr hnow)]
    exact ih done received
  | @piece bytes data answers rest now hbytes hnow hlater ih =>
    have hpositive := List.length_pos_of_ne_nil hbytes
    have hwhole : bytes.take
        (done.length + (bytes ++ data).length - done.length) = bytes := by
      rw [Nat.add_sub_cancel_left, List.length_append]
      exact List.take_of_length_le (Nat.le_add_right _ _)
    unfold readExact
    simp only [if_neg (Nat.not_le.mpr hnow), hwhole, if_neg hbytes]
    rw [if_pos (by rw [List.length_append]; omega)]
    have hrest := ih (done ++ bytes) (received ++ bytes)
    simp only [List.length_append, List.append_assoc] at hrest ⊢
    rwa [Nat.add_assoc] at hrest

theorem readExact_whole {data : List Byte}
    (hdelivers : Delivers deadline data answers rest) (received : List Byte) :
    readExact deadline data.length [] received answers =
      .returned data ⟨rest, received ++ data⟩ := by
  have hread := readExact_delivered hdelivers [] received
  rwa [List.length_nil, Nat.zero_add, List.nil_append] at hread

/-- The length in a header is the one that was written. -/
theorem headerLength_u16Le (tag : Byte) {length : Nat}
    (hlength : length < 2 ^ 16) :
    headerLength (tag :: u16Le (BitVec.ofNat 16 length)) = length := by
  show ((BitVec.ofNat 16 length >>> 8).setWidth 8 ++
    (BitVec.ofNat 16 length).setWidth 8).toNat = length
  rw [BitVec.toNat_append, ← Nat.shiftLeft_add_eq_or_of_lt (BitVec.isLt _),
    Nat.shiftLeft_eq, BitVec.toNat_setWidth, BitVec.toNat_setWidth,
    BitVec.toNat_ushiftRight, Nat.shiftRight_eq_div_pow, BitVec.toNat_ofNat]
  omega

/-- A frame that is delivered is read, and nothing beyond it. -/
theorem readPserialFrame_delivered {frame : PserialFrame}
    (hcomplete : frame.Complete)
    (hdelivers : DeliversFrame deadline frame answers rest)
    (received : List Byte) :
    readPserialFrame deadline ⟨answers, received⟩ =
      .returned frame ⟨rest, received ++ frame.encode⟩ := by
  obtain ⟨second, third, fourth, hfirst, hendpoint, hsecond, hmessage⟩ :=
    hdelivers
  have hnamed := hcomplete.named
  have hshort := hcomplete.endpoint
  have hfits := hcomplete.message
  have hlength := headerLength_u16Le 1#8 (show frame.endpoint.length < 2 ^ 16 by
      unfold pserialEndpointCapacity at hshort; omega)
  have hlength' := headerLength_u16Le 2#8 (show frame.message.length < 2 ^ 16 by
      unfold bufferCapacity at hfits; omega)
  have hheader : ∀ received, readExact deadline 3 [] received answers =
      .returned _ ⟨second, _⟩ := readExact_whole hfirst
  have hheader' : ∀ received, readExact deadline 3 [] received third =
      .returned _ ⟨fourth, _⟩ := readExact_whole hsecond
  unfold readPserialFrame
  rw [hheader]
  simp only [NetResult.bind]
  rw [List.getD_cons_zero, if_neg (not_not.mpr rfl), hlength,
    if_neg (by omega), readExact_whole hendpoint]
  dsimp only
  rw [hheader']
  dsimp only
  rw [List.getD_cons_zero, if_neg (not_not.mpr rfl), hlength',
    if_neg (by omega), readExact_whole hmessage]
  simp only [PserialFrame.encode, pserialPart, List.append_assoc,
    List.cons_append]

/-- Frames that are delivered one after another are read one after another. -/
theorem readFrames_delivered {calls : List (Nat × PserialFrame)}
    (hcomplete : ∀ call ∈ calls, call.2.Complete)
    (hdelivers : DeliversFrames calls answers rest) (received : List Byte) :
    readFrames (calls.map Prod.fst) ⟨answers, received⟩ =
      .returned (calls.map Prod.snd)
        ⟨rest, received ++ calls.flatMap fun call => call.2.encode⟩ := by
  induction hdelivers generalizing received with
  | nil rest => simp [readFrames]
  | cons hframe hcalls ih =>
    have hread := readPserialFrame_delivered
      (hcomplete _ List.mem_cons_self) hframe received
    have hlater := ih (fun call hcall =>
      hcomplete call (List.mem_cons_of_mem _ hcall))
    simp only [List.map_cons, readFrames, hread, NetResult.bind, hlater,
      List.flatMap_cons, List.append_assoc]

/-- The buffers that a frame is read into. -/
inductive FrameBuffer where
  | header
  | endpoint
  | protobuf
deriving DecidableEq

def FrameBuffer.capacity : FrameBuffer → Nat
  | .header => 3
  | .endpoint => pserialEndpointCapacity
  | .protobuf => bufferCapacity

/-- The part of a buffer that a `read` may store to. -/
structure ReadRegion where
  buffer : FrameBuffer
  offset : Nat
  count : Nat
deriving DecidableEq

def ReadRegion.Inside (region : ReadRegion) : Prop :=
  region.offset + region.count ≤ region.buffer.capacity

/-- What the reads of `read_exact` may store to. -/
def readExactRegions (buffer : FrameBuffer) (deadline length : Nat)
    (done : List Byte) : List SerialAnswer → List ReadRegion
  | [] => []
  | answer :: answers =>
    if done.length < length then
      match answer.now, answer.poll with
      | some now, .ready =>
        if deadline ≤ now then []
        else
          ⟨buffer, done.length, length - done.length⟩ ::
            match answer.read with
            | .again =>
              readExactRegions buffer deadline length done answers
            | .failed => []
            | .data bytes =>
              let bytes := bytes.take (length - done.length)
              if bytes = [] then []
              else
                readExactRegions buffer deadline length (done ++ bytes) answers
      | _, _ => []
    else []

/-- What the reads may store to that follow a read which returns. -/
def NetResult.regions {α : Type} (result : NetResult α)
    (next : α → Serial → List ReadRegion) : List ReadRegion :=
  match result with
  | .returned value serial => next value serial
  | _ => []

/-- What the reads of `read_pserial_frame` may store to. -/
def readPserialRegions (deadline : Nat) (serial : Serial) : List ReadRegion :=
  readExactRegions .header deadline 3 [] serial.answers ++
  (readExact deadline 3 [] serial.received serial.answers).regions
    fun header serial =>
  if header.getD 0 0#8 ≠ 1#8 then []
  else if headerLength header = 0 ∨
      pserialEndpointCapacity < headerLength header then []
  else
    readExactRegions .endpoint deadline (headerLength header) []
      serial.answers ++
    (readExact deadline (headerLength header) [] serial.received
      serial.answers).regions fun _ serial =>
    readExactRegions .header deadline 3 [] serial.answers ++
    (readExact deadline 3 [] serial.received serial.answers).regions
      fun header serial =>
    if header.getD 0 0#8 ≠ 2#8 then []
    else if bufferCapacity < headerLength header then []
    else
      readExactRegions .protobuf deadline (headerLength header) []
        serial.answers

theorem readExactRegions_inside {buffer : FrameBuffer} {length : Nat}
    (hlength : length ≤ buffer.capacity) (done : List Byte)
    (answers : List SerialAnswer) :
    ∀ region ∈ readExactRegions buffer deadline length done answers,
      region.Inside := by
  induction answers generalizing done with
  | nil => exact List.forall_mem_nil _
  | cons answer answers ih =>
    unfold readExactRegions
    split
    · rename_i hmore
      split
      · split
        · exact List.forall_mem_nil _
        · refine List.forall_mem_cons.mpr ⟨?_, ?_⟩
          · show done.length + (length - done.length) ≤ buffer.capacity
            omega
          · split
            · exact ih done
            · exact List.forall_mem_nil _
            · dsimp only
              split
              · exact List.forall_mem_nil _
              · exact ih _
      · exact List.forall_mem_nil _
    · exact List.forall_mem_nil _

theorem NetResult.regions_inside {α : Type} {result : NetResult α}
    {next : α → Serial → List ReadRegion}
    (hnext : ∀ value serial, ∀ region ∈ next value serial, region.Inside) :
    ∀ region ∈ result.regions next, region.Inside := by
  cases result with
  | waiting | failed errno => exact List.forall_mem_nil _
  | returned value serial => exact hnext value serial

/-- Whatever the device delivers, a frame is stored in its buffers. -/
theorem readPserialRegions_inside (deadline : Nat) (serial : Serial) :
    ∀ region ∈ readPserialRegions deadline serial, region.Inside := by
  unfold readPserialRegions
  refine List.forall_mem_append.mpr ⟨readExactRegions_inside le_rfl _ _, ?_⟩
  apply NetResult.regions_inside
  intro header serial
  split_ifs with htag hlength
  · exact List.forall_mem_nil _
  · exact List.forall_mem_nil _
  · have hshort : headerLength header ≤ FrameBuffer.endpoint.capacity :=
      Nat.not_lt.mp (not_or.mp hlength).2
    refine List.forall_mem_append.mpr ⟨readExactRegions_inside hshort _ _, ?_⟩
    apply NetResult.regions_inside
    intro endpoint serial
    refine List.forall_mem_append.mpr ⟨readExactRegions_inside le_rfl _ _, ?_⟩
    apply NetResult.regions_inside
    intro header serial
    split_ifs with htag' hlength'
    · exact List.forall_mem_nil _
    · exact List.forall_mem_nil _
    · exact readExactRegions_inside (Nat.not_lt.mp hlength') _ _

/-- The request that is written is one frame. -/
theorem encodeRequest_frame {uid requestId : Word} {payload pserial : NetBuffer}
    (hencode : encodeRequest uid requestId payload = .ok pserial) :
    ∃ frame : PserialFrame, frame.endpoint = responseEndpoint ∧
      pserial.data = frame.encode := by
  unfold encodeRequest at hencode
  obtain ⟨typed, -, hencode⟩ := Fallible.bind_eq_ok.mp hencode
  obtain ⟨named, -, hencode⟩ := Fallible.bind_eq_ok.mp hencode
  obtain ⟨numbered, -, hencode⟩ := Fallible.bind_eq_ok.mp hencode
  obtain ⟨protobuf, -, hencode⟩ := Fallible.bind_eq_ok.mp hencode
  obtain ⟨first, hfirst, hencode⟩ := Fallible.bind_eq_ok.mp hencode
  obtain ⟨second, hsecond, hencode⟩ := Fallible.bind_eq_ok.mp hencode
  obtain ⟨third, hthird, hencode⟩ := Fallible.bind_eq_ok.mp hencode
  obtain ⟨fourth, hfourth, hencode⟩ := Fallible.bind_eq_ok.mp hencode
  obtain ⟨fifth, hfifth, hlast⟩ := Fallible.bind_eq_ok.mp hencode
  refine ⟨⟨responseEndpoint, protobuf.data⟩, rfl, ?_⟩
  rw [bufferAppend_ok hlast, bufferAppend_ok hfifth, bufferAppend_ok hfourth,
    bufferAppend_ok hthird, bufferAppend_ok hsecond, bufferAppend_ok hfirst]
  simp only [NetBuffer.empty, PserialFrame.encode, pserialPart,
    List.nil_append, List.append_assoc, List.cons_append]

/-- The headers that `read_pserial_frame` refuses. -/
def BadEndpointHeader (header : List Byte) : Prop :=
  header.getD 0 0#8 ≠ 1#8 ∨ headerLength header = 0 ∨
    pserialEndpointCapacity < headerLength header

def BadMessageHeader (header : List Byte) : Prop :=
  header.getD 0 0#8 ≠ 2#8 ∨ bufferCapacity < headerLength header

theorem readExact_header (hlength : header.length = 3)
    (hdelivers : Delivers deadline header answers rest) (received : List Byte) :
    readExact deadline 3 [] received answers =
      .returned header ⟨rest, received ++ header⟩ := by
  rw [← hlength]
  exact readExact_whole hdelivers received

theorem readPserialFrame_bad_endpoint (hlength : header.length = 3)
    (hbad : BadEndpointHeader header)
    (hdelivers : Delivers deadline header answers rest) (received : List Byte) :
    readPserialFrame deadline ⟨answers, received⟩ = .failed .badMsg := by
  unfold readPserialFrame
  rw [readExact_header hlength hdelivers]
  simp only [NetResult.bind]
  rcases hbad with htag | hrange
  · rw [if_pos htag]
  · rw [if_pos hrange, ite_self]

theorem readPserialFrame_bad_message {endpoint later : List Byte}
    {second third : List SerialAnswer} (hlength : header.length = 3)
    (hgood : ¬ BadEndpointHeader header)
    (hheader : Delivers deadline header answers second)
    (hnamed : endpoint.length = headerLength header)
    (hendpoint : Delivers deadline endpoint second third)
    (hlater : later.length = 3) (hbad : BadMessageHeader later)
    (hdelivers : Delivers deadline later third rest) (received : List Byte) :
    readPserialFrame deadline ⟨answers, received⟩ = .failed .badMsg := by
  obtain ⟨htag, hrange⟩ := not_or.mp hgood
  unfold readPserialFrame
  rw [readExact_header hlength hheader]
  simp only [NetResult.bind]
  rw [if_neg htag, if_neg hrange, ← hnamed, readExact_whole hendpoint]
  dsimp only
  rw [readExact_header hlater hdelivers]
  dsimp only
  rcases hbad with htag' | hlong
  · rw [if_pos htag']
  · rw [if_pos hlong, ite_self]

/-- Frames of the form that requests are written in are read back, one by one
and to the byte, however the device cuts them into pieces; a header that is out
of range is refused; and no read may store outside its buffer. -/
theorem readFrames_round_trip : (∀ uid requestId payload pserial,
      encodeRequest uid requestId payload = .ok pserial →
      ∃ frame : PserialFrame, frame.endpoint = responseEndpoint ∧
        pserial.data = frame.encode) ∧
    (∀ calls answers rest received, (∀ call ∈ calls, call.2.Complete) →
      DeliversFrames calls answers rest →
      readFrames (calls.map Prod.fst) ⟨answers, received⟩ =
        .returned (calls.map Prod.snd)
          ⟨rest, received ++ calls.flatMap fun call => call.2.encode⟩) ∧
    (∀ deadline header answers rest received, header.length = 3 →
      BadEndpointHeader header → Delivers deadline header answers rest →
      readPserialFrame deadline ⟨answers, received⟩ = .failed .badMsg) ∧
    (∀ deadline header endpoint later answers second third rest received,
      header.length = 3 → ¬ BadEndpointHeader header →
      Delivers deadline header answers second →
      endpoint.length = headerLength header →
      Delivers deadline endpoint second third →
      later.length = 3 → BadMessageHeader later →
      Delivers deadline later third rest →
      readPserialFrame deadline ⟨answers, received⟩ = .failed .badMsg) ∧
    ∀ deadline serial, ∀ region ∈ readPserialRegions deadline serial,
      region.Inside := by
  refine ⟨fun _ _ _ _ => encodeRequest_frame, ?_, ?_, ?_,
    readPserialRegions_inside⟩
  · exact fun calls answers rest received hcomplete hdelivers =>
      readFrames_delivered hcomplete hdelivers received
  · exact fun deadline header answers rest received hlength hbad hdelivers =>
      readPserialFrame_bad_endpoint hlength hbad hdelivers received
  · intro deadline header endpoint later answers second third rest received
      hlength hgood hheader hnamed hendpoint hlater hbad hdelivers
    exact readPserialFrame_bad_message hlength hgood hheader hnamed hendpoint
      hlater hbad hdelivers received

theorem Delivers.last {now : Nat} {bytes : List Byte} (hbytes : bytes ≠ [])
    (hnow : now < deadline) (rest : List SerialAnswer) :
    Delivers deadline bytes
      ({ now := some now, read := .data bytes } :: rest) rest := by
  have hpiece := (Delivers.done rest).piece hbytes hnow
  rwa [List.append_nil] at hpiece

/-- A frame whose first header and whose message are cut. -/
def cutFrame : PserialFrame := ⟨[0x41#8, 0x42#8], [0x08#8, 0x01#8, 0x10#8]⟩

def wholeFrame : PserialFrame := ⟨[0x43#8], [0x0a#8, 0x00#8]⟩

def cutAnswers : List SerialAnswer :=
  [{ now := some 1, read := .data [0x01#8, 0x02#8] },
    { now := some 1, read := .again },
    { now := some 2, read := .data [0x00#8] },
    { now := some 3, read := .data [0x41#8, 0x42#8] },
    { now := some 3, read := .data [0x02#8, 0x03#8, 0x00#8] },
    { now := some 4, read := .data [0x08#8] },
    { now := some 4, read := .data [0x01#8, 0x10#8] },
    { now := some 5, read := .data [0x01#8, 0x01#8, 0x00#8] },
    { now := some 6, read := .data [0x43#8] },
    { now := some 6, read := .data [0x02#8, 0x02#8, 0x00#8] },
    { now := some 7, read := .data [0x0a#8, 0x00#8] }]

theorem cutFrame_round_trip : readFrames [5, 8] ⟨cutAnswers, []⟩ =
      .returned [cutFrame, wholeFrame]
        ⟨[], cutFrame.encode ++ wholeFrame.encode⟩ := by
  have hcomplete : ∀ call ∈ [(5, cutFrame), (8, wholeFrame)], call.2.Complete :=
    List.forall_mem_cons.mpr ⟨⟨by decide, by decide, by decide⟩,
      List.forall_mem_singleton.mpr ⟨by decide, by decide, by decide⟩⟩
  have hheader : Delivers 5 ([0x01#8, 0x02#8] ++ [0x00#8]) cutAnswers
      (cutAnswers.drop 3) :=
    .piece (by decide) (by decide) (.again (by decide) (by decide)
      (.last (by decide) (by decide) _))
  have hmessage : Delivers 5 ([0x08#8] ++ [0x01#8, 0x10#8])
      (cutAnswers.drop 5) (cutAnswers.drop 7) :=
    .piece (by decide) (by decide) (.last (by decide) (by decide) _)
  have hdelivers : DeliversFrames [(5, cutFrame), (8, wholeFrame)]
      cutAnswers [] :=
    .cons ⟨_, _, _, hheader, .last (by decide) (by decide) _,
        .last (by decide) (by decide) _, hmessage⟩
      (.cons ⟨_, _, _, .last (by decide) (by decide) _,
        .last (by decide) (by decide) _, .last (by decide) (by decide) _,
        .last (by decide) (by decide) _⟩ (.nil []))
  exact readFrames_round_trip.2.1 _ _ _ [] hcomplete hdelivers

end Micronux
