/-
The kernel and the panel firmware: it accepts what the generator's parser
accepts, and sends the panel the records that the parser returns.
-/
import Micronux.Checksum
import Micronux.PanelFirmwareCodec

namespace Micronux

open RecordStream

/-- The checksum of the generator, and the kernel's with its first register:
both compute the same function. -/
structure PanelChecksum where
  crc32 : List Byte → Word
  crc32Le : Word → List Byte → Word
  agree : ∀ data, crc32Le 0xffffffff#32 data ^^^ 0xffffffff#32 = crc32 data

/-- What the functions return; a read outside the payload is a fault. -/
inductive PanelErrno where
  | invalid
  | badMessage
  | io
  | timedOut
  | fault
deriving DecidableEq

/-- `MICRONUX_PANEL_FIRMWARE_TOTAL_BYTES` -/
def panelTotalBytes : Nat := 1052

/-- `MICRONUX_PANEL_FIRMWARE_RECORDS` -/
def panelRecords : Nat := 204

/-- `MICRONUX_PANEL_FIRMWARE_PRELUDE_RECORDS` -/
def panelPreludeRecords : Nat := 4

/-- `MICRONUX_PANEL_FIRMWARE_PAYLOAD_BYTES` -/
def panelPayloadBytes : Nat := 1020

/-- `MICRONUX_PANEL_FIRMWARE_MAX_PARAMETERS` -/
def panelMaxParameters : Nat := 1

/-- `MICRONUX_PANEL_FIRMWARE_MAX_DELAY_MS` -/
def panelMaxDelayMs : Nat := 120

/-- `MICRONUX_DISPLAY_COLD_PANEL_PAYLOAD_CRC32` -/
def coldPanelPayloadCrc32 : Word := 0xcea07f9b#32

/-- `MICRONUX_DSI_MAX_PARAMETERS` -/
def dsiMaxParameters : Nat := 64

/-- `MICRONUX_DISPLAY_COLD_SWRESET_MS` -/
def coldSwresetMs : Nat := 120

/-- `struct micronux_panel_firmware` -/
structure KernelPanel where
  payload : List Byte
  payloadBytes : Nat
  recordCount : Nat
deriving DecidableEq

def panelByte (payload : List Byte) (cursor : Nat) :
    Except PanelErrno Byte :=
  match payload[cursor]? with
  | some byte => .ok byte
  | none => .error .fault

/-- `get_unaligned_le16` -/
def panelHalfword (payload : List Byte) (cursor : Nat) :
    Except PanelErrno Nat := do
  let low ← panelByte payload cursor
  let high ← panelByte payload (cursor + 1)
  .ok (high ++ low).toNat

/-- A record that the profile fixes. -/
structure FixedRecord where
  command : Byte
  parameter : Byte
  delay : Nat
deriving DecidableEq

/-- `prelude_commands` and `prelude_parameters` -/
def preludeRecord (index : Nat) : FixedRecord where
  command := [0xe0#8, 0x36#8, 0x3a#8, 0x80#8].getD index 0#8
  parameter := [0x00#8, 0x00#8, 0x55#8, 0x01#8].getD index 0#8
  delay := 0

def sleepOutRecord : FixedRecord := ⟨0x11#8, 0#8, 120⟩

def displayOnRecord : FixedRecord := ⟨0x29#8, 0#8, 20⟩

/-- A record differs from a fixed one; `cursor` points to its parameters. -/
def recordDiffers (payload : List Byte) (cursor : Nat) (command : Byte)
    (parameters delay : Nat) (fixed : FixedRecord) :
    Except PanelErrno Bool :=
  if command ≠ fixed.command then .ok true
  else if parameters ≠ 1 then .ok true
  else do
    let parameter ← panelByte payload cursor
    if parameter ≠ fixed.parameter then .ok true
    else .ok (delay != fixed.delay)

/-- A record at a fixed place has to be the fixed one. -/
def requireRecord (fixedHere : Bool) (payload : List Byte) (cursor : Nat)
    (command : Byte) (parameters delay : Nat) (fixed : FixedRecord) :
    Except PanelErrno Unit :=
  if fixedHere = false then .ok ()
  else do
    let differs ← recordDiffers payload cursor command parameters delay fixed
    if differs = true then .error .invalid else .ok ()

/-- The variables of the loop of `micronux_panel_firmware_validate`. -/
structure PanelScan where
  cursor : Nat
  maxParameters : Nat
  maxDelay : Nat
deriving DecidableEq

def validateRecord (payload : List Byte) (payloadBytes recordCount : Nat)
    (index : Nat) (scan : PanelScan) : Except PanelErrno PanelScan :=
  if payloadBytes - scan.cursor < 4 then .error .invalid
  else do
    let command ← panelByte payload scan.cursor
    let byte ← panelByte payload (scan.cursor + 1)
    let delay ← panelHalfword payload (scan.cursor + 2)
    let parameters := byte.toNat
    let cursor := scan.cursor + 4
    if panelMaxParameters < parameters ∨ payloadBytes - cursor < parameters ∨
        panelMaxDelayMs < delay then .error .invalid
    else do
      requireRecord (index < 4) payload cursor command parameters delay
        (preludeRecord index)
      requireRecord (index + 2 = recordCount) payload cursor command
        parameters delay sleepOutRecord
      requireRecord (index + 1 = recordCount) payload cursor command
        parameters delay displayOnRecord
      .ok
        { cursor := cursor + parameters
          maxParameters := max scan.maxParameters parameters
          maxDelay := max scan.maxDelay delay }

def validateLoop (payload : List Byte) (payloadBytes recordCount : Nat) :
    (count index : Nat) → PanelScan → Except PanelErrno PanelScan
  | 0, _, scan => .ok scan
  | count + 1, index, scan => do
    let next ← validateRecord payload payloadBytes recordCount index scan
    validateLoop payload payloadBytes recordCount count (index + 1) next

/-- `micronux_panel_firmware_validate` -/
def panelFirmwareValidate (checksum : PanelChecksum) (handoffCrc32 : Word)
    (data : List Byte) : Except PanelErrno KernelPanel :=
  if data.length ≠ panelTotalBytes then .error .invalid
  else if data.take 8 ≠ panelMagic ∨
      halfwordAt data 8 ≠ panelFormatVersion ∨
      (halfwordAt data 10).toNat ≠ panelHeaderSize then .error .invalid
  else
    let recordCount := (halfwordAt data 12).toNat
    if recordCount ≠ panelRecords ∨
        (halfwordAt data 14).toNat ≠ panelPreludeRecords then
      .error .invalid
    else
      let payloadBytes := (wordAt data 16).toNat
      let payloadCrc := wordAt data 20
      if payloadBytes ≠ panelPayloadBytes ∨
          payloadCrc ≠ coldPanelPayloadCrc32 ∨ payloadCrc ≠ handoffCrc32 ∨
          wordAt data 24 ≠ panelFlags ∨
          (halfwordAt data 28).toNat ≠ panelMaxParameters ∨
          (halfwordAt data 30).toNat ≠ panelMaxDelayMs ∨
          data.length ≠ panelHeaderSize + payloadBytes then
        .error .invalid
      else
        let payload := data.drop panelHeaderSize
        if checksum.crc32Le 0xffffffff#32 (payload.take payloadBytes) ^^^
            0xffffffff#32 ≠ payloadCrc then .error .badMessage
        else do
          let scan ← validateLoop payload payloadBytes recordCount recordCount
            0 ⟨0, 0, 0⟩
          if scan.cursor ≠ payloadBytes ∨
              scan.maxParameters ≠ panelMaxParameters ∨
              scan.maxDelay ≠ panelMaxDelayMs then .error .invalid
          else
            .ok
              { payload := payload
                payloadBytes := payloadBytes
                recordCount := recordCount }

/-- What is done to the panel. -/
inductive PanelAction where
  | dcsWrite (command : Byte) (parameters : List Byte)
  | sleep (ms : Nat)
deriving DecidableEq

def panelBytes (payload : List Byte) (cursor : Nat) :
    Nat → Except PanelErrno (List Byte)
  | 0 => .ok []
  | count + 1 => do
    let byte ← panelByte payload cursor
    let bytes ← panelBytes payload (cursor + 1) count
    .ok (byte :: bytes)

/-- `micronux_cold_dcs_write`, with how the hardware takes the packet. -/
def coldDcsWrite (answer : Option PanelErrno) (payload : List Byte)
    (command : Byte) (parameters : Option Nat) (count : Nat) :
    List PanelAction × Except PanelErrno Unit :=
  if dsiMaxParameters < count ∨ (count ≠ 0 ∧ parameters = none) then
    ([], .error .invalid)
  else
    match panelBytes payload (parameters.getD 0) count, answer with
    | .error errno, _ => ([], .error errno)
    | .ok bytes, some errno => ([.dcsWrite command bytes], .error errno)
    | .ok bytes, none => ([.dcsWrite command bytes], .ok ())

def programHeader (payload : List Byte) (cursor : Nat) :
    Except PanelErrno (Byte × Nat × Nat) := do
  let delay ← panelHalfword payload (cursor + 2)
  let command ← panelByte payload cursor
  let parameters ← panelByte payload (cursor + 1)
  .ok (command, parameters.toNat, delay)

/-- `if (delay) msleep(delay)` -/
def sleepActions (delay : Nat) : List PanelAction :=
  if delay = 0 then [] else [.sleep delay]

/-- The loop of `micronux_cold_program_panel`, which checks nothing; `answers`
is how the hardware takes each packet. -/
def programRecords (answers : Nat → Option PanelErrno) (payload : List Byte) :
    (count index cursor : Nat) → List PanelAction × Except PanelErrno Nat
  | 0, _, cursor => ([], .ok cursor)
  | count + 1, index, cursor =>
    match programHeader payload cursor with
    | .error errno => ([], .error errno)
    | .ok (command, parameters, delay) =>
      match coldDcsWrite (answers (index + 1)) payload command
          (some (cursor + 4)) parameters with
      | (actions, .error errno) => (actions, .error errno)
      | (actions, .ok ()) =>
        let (rest, final) := programRecords answers payload count
          (index + 1) (cursor + 4 + parameters)
        (actions ++ sleepActions delay ++ rest, final)

/-- `micronux_cold_program_panel` -/
def coldProgramPanel (answers : Nat → Option PanelErrno)
    (panel : KernelPanel) : List PanelAction × Except PanelErrno Unit :=
  match coldDcsWrite (answers 0) panel.payload 0x01#8 none 0 with
  | (actions, .error errno) => (actions, .error errno)
  | (actions, .ok ()) =>
    let (rest, final) :=
      programRecords answers panel.payload panel.recordCount 0 0
    (actions ++ .sleep coldSwresetMs :: rest, do
      let cursor ← final
      if cursor ≠ panel.payloadBytes then .error .invalid else .ok ())

def PanelRecord.actions (record : PanelRecord) : List PanelAction :=
  .dcsWrite record.command record.data :: sleepActions record.delayMs

variable {payload : List Byte} {cursor offset : Nat}

theorem panelByte_eq_ok {byte : Byte} :
    panelByte payload cursor = .ok byte ↔
      cursor < payload.length ∧ payload.getD cursor 0#8 = byte := by
  unfold panelByte
  rw [List.getD_eq_getElem?_getD]
  by_cases hcursor : cursor < payload.length
  · rw [List.getElem?_eq_getElem hcursor]
    simp [hcursor]
  · rw [List.getElem?_eq_none (Nat.not_lt.mp hcursor)]
    simp [hcursor]

theorem panelByte_at {byte : Byte} :
    panelByte payload cursor = .ok byte ↔ At payload cursor [byte] := by
  rw [at_singleton, panelByte]
  cases payload[cursor]? with
  | none | some other => simp

theorem panelHalfword_eq_ok {value : Nat} :
    panelHalfword payload cursor = .ok value ↔
      cursor + 2 ≤ payload.length ∧
        (halfwordAt payload cursor).toNat = value := by
  unfold panelHalfword
  simp only [Fallible.bind_eq_ok, panelByte_eq_ok, Except.ok.injEq]
  constructor
  · rintro ⟨low, ⟨-, rfl⟩, high, ⟨hcursor, rfl⟩, hvalue⟩
    exact ⟨hcursor, hvalue⟩
  · rintro ⟨hcursor, hvalue⟩
    exact ⟨_, ⟨Nat.lt_of_succ_lt hcursor, rfl⟩, _, ⟨hcursor, rfl⟩, hvalue⟩

theorem panelBytes_at {bytes : List Byte} (hat : At payload cursor bytes) :
    panelBytes payload cursor bytes.length = .ok bytes := by
  induction bytes generalizing cursor with
  | nil => rfl
  | cons byte bytes ih =>
    obtain ⟨hfirst, hrest⟩ := at_append.mp
      (show At payload cursor ([byte] ++ bytes) from hat)
    have hbytes : panelBytes payload (cursor + 1) bytes.length = .ok bytes :=
      ih hrest
    simp only [panelBytes, List.length_cons, panelByte_at.mpr hfirst, hbytes]
    rfl

/-- A record is a fixed one. -/
structure PanelRecord.Is (record : PanelRecord) (fixed : FixedRecord) :
    Prop where
  command : record.command = fixed.command
  data : record.data = [fixed.parameter]
  delay : record.delayMs = fixed.delay

/-- What the check asks of the record at an index. -/
structure Passes (recordCount index : Nat) (record : PanelRecord) :
    Prop where
  parameters : record.data.length ≤ panelMaxParameters
  delay : record.delayMs ≤ panelMaxDelayMs
  isPrelude : index < 4 → record.Is (preludeRecord index)
  isSleepOut : index + 2 = recordCount → record.Is sleepOutRecord
  isDisplayOn : index + 1 = recordCount → record.Is displayOnRecord

instance (record : PanelRecord) (fixed : FixedRecord) :
    Decidable (record.Is fixed) :=
  decidable_of_iff (record.command = fixed.command ∧
      record.data = [fixed.parameter] ∧ record.delayMs = fixed.delay)
    ⟨fun his => ⟨his.1, his.2.1, his.2.2⟩,
      fun his => ⟨his.command, his.data, his.delay⟩⟩

instance (recordCount index : Nat) (record : PanelRecord) :
    Decidable (Passes recordCount index record) :=
  decidable_of_iff (record.data.length ≤ panelMaxParameters ∧
      record.delayMs ≤ panelMaxDelayMs ∧
      (index < 4 → record.Is (preludeRecord index)) ∧
      (index + 2 = recordCount → record.Is sleepOutRecord) ∧
      (index + 1 = recordCount → record.Is displayOnRecord))
    ⟨fun hpasses => ⟨hpasses.1, hpasses.2.1, hpasses.2.2.1, hpasses.2.2.2.1,
        hpasses.2.2.2.2⟩,
      fun hpasses => ⟨hpasses.parameters, hpasses.delay, hpasses.isPrelude,
        hpasses.isSleepOut, hpasses.isDisplayOn⟩⟩

variable {fixed : FixedRecord} {answers : Nat → Option PanelErrno}
  {recordCount : Nat}

theorem recordDiffers_eq_false {record : PanelRecord}
    (hat : At payload cursor record.data) :
    recordDiffers payload cursor record.command record.data.length
        record.delayMs fixed = .ok false ↔ record.Is fixed := by
  unfold recordDiffers
  constructor
  · intro hdiffers
    split_ifs at hdiffers with hcommand hcount
    · cases hdiffers
    · cases hdiffers
    · obtain ⟨parameter, hbyte, hsame⟩ := Fallible.bind_eq_ok.mp hdiffers
      obtain ⟨single, hdata⟩ :=
        List.length_eq_one_iff.mp (not_not.mp hcount)
      rw [hdata, ← panelByte_at, hbyte] at hat
      obtain rfl := Except.ok.inj hat
      split_ifs at hsame with hparameter
      · cases hsame
      · rw [not_not.mp hparameter] at hdata
        exact ⟨not_not.mp hcommand, hdata,
          bne_eq_false_iff_eq.mp (Except.ok.inj hsame)⟩
  · rintro ⟨hcommand, hdata, hdelay⟩
    rw [hdata, ← panelByte_at] at hat
    simp only [hcommand, hdata, hat, hdelay, bne_self_eq_false, ne_eq,
      not_true_eq_false, if_false, List.length_singleton]
    exact if_neg (not_not.mpr rfl)

theorem requireRecord_eq_ok {record : PanelRecord} {fixedHere : Prop}
    [Decidable fixedHere] (hat : At payload cursor record.data) :
    requireRecord fixedHere payload cursor record.command record.data.length
        record.delayMs fixed = .ok () ↔
      (fixedHere → record.Is fixed) := by
  rw [← recordDiffers_eq_false hat]
  unfold requireRecord
  by_cases hfixed : fixedHere
  · simp only [hfixed, decide_true, Bool.true_eq_false, if_false,
      Fallible.bind_eq_ok, forall_true_left]
    constructor
    · rintro ⟨differs, hdiffers, hsame⟩
      cases differs with
      | false => exact hdiffers
      | true => cases hsame
    · intro hsame
      exact ⟨false, hsame, rfl⟩
  · simp [hfixed]

variable {index : Nat} {records : List PanelRecord}

theorem at_encodeRecords_cons {record : PanelRecord} :
    At payload cursor (encodeRecords (record :: records)) ↔
      At payload cursor record.encode ∧
        At payload (cursor + record.encode.length) (encodeRecords records) :=
  at_append

/-- A turn of the loop of the check passes a record. -/
theorem validateRecord_eq_ok {scan next : PanelScan} :
    validateRecord payload payload.length recordCount index scan = .ok next ↔
      ∃ record : PanelRecord, Passes recordCount index record ∧
        At payload scan.cursor record.encode ∧
        next = ⟨scan.cursor + record.encode.length,
          max scan.maxParameters record.data.length,
          max scan.maxDelay record.delayMs⟩ := by
  unfold validateRecord
  simp only [Fallible.unless_eq_ok, Fallible.bind_eq_ok, panelByte_eq_ok,
    panelHalfword_eq_ok, not_or, Nat.not_lt, Except.ok.injEq]
  constructor
  · rintro ⟨hheader, command, ⟨-, hcommand⟩, byte, ⟨-, hbyte⟩, delay,
      ⟨-, hdelay⟩, ⟨hcount, hrest, hmillis⟩, _, hprelude, _, hsleepOut, _,
      hdisplayOn, rfl⟩
    let data := (payload.drop (scan.cursor + recordHeaderSize)).take byte.toNat
    have hlength : data.length = byte.toNat := by
      rw [List.length_take, List.length_drop]
      exact Nat.min_eq_left hrest
    have hdata : (payload.drop (scan.cursor + recordHeaderSize)).take
        data.length = data := by
      rw [hlength]
    rw [← hlength] at hcount hprelude hsleepOut hdisplayOn ⊢
    let record : PanelRecord :=
      { command := command
        data := data
        delayMs := delay
        data_le := hcount.trans (by decide)
        delay_le := hmillis.trans (by decide) }
    have hat : At payload (scan.cursor + 4) record.data := at_iff_take.mpr hdata
    refine ⟨record, ⟨hcount, hmillis, (requireRecord_eq_ok hat).mp hprelude,
      (requireRecord_eq_ok hat).mp hsleepOut,
      (requireRecord_eq_ok hat).mp hdisplayOn⟩,
      at_encode.mpr ⟨?_, hcommand, hbyte ▸ hlength.symm, hdelay, hdata⟩, ?_⟩
    · show scan.cursor + 4 + data.length ≤ payload.length
      omega
    · rw [record.encode_length, ← Nat.add_assoc]
      rfl
  · rintro ⟨record, hpasses, hat, rfl⟩
    obtain ⟨hlength, hcommand, hcount, hdelay, hdata⟩ := at_encode.mp hat
    have hrest : At payload (scan.cursor + 4) record.data :=
      at_iff_take.mpr hdata
    unfold recordHeaderSize at hlength
    refine ⟨by omega, record.command, ⟨by omega, hcommand⟩, _,
      ⟨by omega, rfl⟩, record.delayMs, ⟨by omega, hdelay⟩, ?_⟩
    rw [hcount, record.encode_length, ← Nat.add_assoc]
    exact ⟨⟨hpasses.parameters, by omega, hpasses.delay⟩,
      (), (requireRecord_eq_ok hrest).mpr hpasses.isPrelude,
      (), (requireRecord_eq_ok hrest).mpr hpasses.isSleepOut,
      (), (requireRecord_eq_ok hrest).mpr hpasses.isDisplayOn, rfl⟩

/-- What the loop of the check makes of the records it passes. -/
def PanelScan.after (scan : PanelScan) (records : List PanelRecord) :
    PanelScan where
  cursor := scan.cursor + (encodeRecords records).length
  maxParameters := (records.map fun record =>
    record.data.length).foldl max scan.maxParameters
  maxDelay := (records.map fun record =>
    record.delayMs).foldl max scan.maxDelay

theorem PanelScan.after_cons (scan : PanelScan) (record : PanelRecord)
    (records : List PanelRecord) :
    PanelScan.after ⟨scan.cursor + record.encode.length,
        max scan.maxParameters record.data.length,
        max scan.maxDelay record.delayMs⟩ records =
      scan.after (record :: records) := by
  simp only [after, encodeRecords, List.flatMap_cons, List.length_append,
    Nat.add_assoc]
  rfl

/-- The loop of the check passes as many records as it counts. -/
theorem validateLoop_eq_ok {count : Nat} {scan final : PanelScan} :
    validateLoop payload payload.length recordCount count index scan =
        .ok final ↔
      ∃ records : List PanelRecord, records.length = count ∧
        (∀ (position : Nat) (record : PanelRecord),
          records[position]? = some record →
          Passes recordCount (index + position) record) ∧
        At payload scan.cursor (encodeRecords records) ∧
        final = scan.after records := by
  induction count generalizing index scan with
  | zero =>
    constructor
    · intro hloop
      obtain rfl := Except.ok.inj hloop
      exact ⟨[], rfl, fun _ _ hrecord => (nomatch hrecord), at_nil, rfl⟩
    · rintro ⟨records, hlength, -, -, rfl⟩
      obtain rfl := List.length_eq_zero_iff.mp hlength
      rfl
  | succ count ih =>
    unfold validateLoop
    simp only [Fallible.bind_eq_ok, validateRecord_eq_ok, ih]
    constructor
    · rintro ⟨_, ⟨record, hpasses, hat, rfl⟩, records, hlength, hall, hats,
        rfl⟩
      refine ⟨record :: records, congrArg Nat.succ hlength, ?_,
        at_encodeRecords_cons.mpr ⟨hat, hats⟩, scan.after_cons record records⟩
      intro position other hother
      cases position with
      | zero =>
        obtain rfl := Option.some.inj hother
        exact hpasses
      | succ position =>
        have hnext := hall position other hother
        rwa [Nat.add_assoc, Nat.add_comm 1 position] at hnext
    · rintro ⟨records, hlength, hall, hat, rfl⟩
      cases records with
      | nil => cases hlength
      | cons record records =>
        obtain ⟨hfirst, hrest⟩ := at_encodeRecords_cons.mp hat
        refine ⟨_, ⟨record, hall 0 record rfl, hfirst, rfl⟩, records,
          Nat.succ.inj hlength, ?_, hrest,
          (scan.after_cons record records).symm⟩
        intro position other hother
        rw [Nat.add_assoc, Nat.add_comm 1 position]
        exact hall (position + 1) other hother

/-- The header of a record that stands in the payload. -/
theorem programHeader_at {record : PanelRecord}
    (hat : At payload cursor record.encode) :
    programHeader payload cursor =
      .ok (record.command, record.data.length, record.delayMs) := by
  obtain ⟨hlength, hcommand, hcount, hdelay, -⟩ := at_encode.mp hat
  unfold recordHeaderSize at hlength
  have hhalfword : panelHalfword payload (cursor + 2) = .ok record.delayMs :=
    panelHalfword_eq_ok.mpr ⟨by omega, hdelay⟩
  have hfirst : panelByte payload cursor = .ok record.command :=
    panelByte_eq_ok.mpr ⟨by omega, hcommand⟩
  have hsecond : panelByte payload (cursor + 1) =
      .ok (payload.getD (cursor + 1) 0#8) :=
    panelByte_eq_ok.mpr ⟨by omega, rfl⟩
  unfold programHeader
  rw [hhalfword, hfirst, hsecond, ← hcount]
  rfl

/-- The parameters of a record that stands in the payload are sent. -/
theorem coldDcsWrite_at {record : PanelRecord}
    (hat : At payload cursor record.encode) :
    coldDcsWrite none payload record.command (some (cursor + 4))
        record.data.length =
      ([.dcsWrite record.command record.data], .ok ()) := by
  obtain ⟨-, -, -, -, hdata⟩ := at_encode.mp hat
  have hbytes : panelBytes payload (cursor + 4) record.data.length =
      .ok record.data := panelBytes_at (at_iff_take.mpr hdata)
  have hallowed : ¬ (dsiMaxParameters < record.data.length ∨
      (record.data.length ≠ 0 ∧ some (cursor + 4) = none)) := by
    rintro (hlong | ⟨-, hnull⟩)
    · exact absurd record.data_le (Nat.not_le.mpr hlong)
    · cases hnull
  unfold coldDcsWrite
  rw [if_neg hallowed, Option.getD_some, hbytes]

/-- The program sends the records that stand in the payload. -/
theorem programRecords_at (hanswers : ∀ packet, answers packet = none)
    (hat : At payload cursor (encodeRecords records)) :
    programRecords answers payload records.length index cursor =
      (records.flatMap PanelRecord.actions,
        .ok (cursor + (encodeRecords records).length)) := by
  induction records generalizing index cursor with
  | nil => rfl
  | cons record records ih =>
    obtain ⟨hfirst, hrest⟩ := at_encodeRecords_cons.mp hat
    rw [record.encode_length, ← Nat.add_assoc] at hrest
    have htail : programRecords answers payload records.length (index + 1)
        (cursor + 4 + record.data.length) = _ := ih hrest
    have hlength : (encodeRecords (record :: records)).length =
        4 + record.data.length + (encodeRecords records).length := by
      rw [encodeRecords, List.flatMap_cons, List.length_append,
        record.encode_length]
      rfl
    rw [List.length_cons, programRecords, programHeader_at hfirst]
    dsimp only
    rw [hanswers, coldDcsWrite_at hfirst]
    dsimp only
    rw [htail, hlength, ← Nat.add_assoc, ← Nat.add_assoc]
    rfl

/-- The records of the panel that the kernel is built for. -/
structure PanelProfile (records : List PanelRecord) : Prop where
  length : records.length = panelRecords
  payload : (encodeRecords records).length = panelPayloadBytes
  passes : ∀ (index : Nat) (record : PanelRecord),
    records[index]? = some record → Passes panelRecords index record
  most : maxParams records = panelMaxParameters
  longest : maxDelay records = panelMaxDelayMs

theorem PanelProfile.writable (hprofile : PanelProfile records) :
    Writable records panelPreludeRecords := by
  refine ⟨?_, ?_, ?_, ?_⟩
  · rw [hprofile.length]
    decide
  · rw [hprofile.length]
    decide
  · rw [hprofile.length]
    decide
  · rw [hprofile.payload]
    decide

/-- The kernel accepts the artifacts of the panel it is built for, with the
checksum that the loader and the driver agree on, and nothing else. -/
theorem panelFirmwareValidate_eq_ok {checksum : PanelChecksum}
    {handoffCrc32 : Word} {data : List Byte} {panel : KernelPanel} :
    panelFirmwareValidate checksum handoffCrc32 data = .ok panel ↔
      ∃ records, PanelProfile records ∧
        checksum.crc32 (encodeRecords records) = coldPanelPayloadCrc32 ∧
        handoffCrc32 = coldPanelPayloadCrc32 ∧
        data = encodeBlob checksum.crc32 records panelPreludeRecords ∧
        panel = ⟨encodeRecords records, (encodeRecords records).length,
          records.length⟩ := by
  unfold panelFirmwareValidate
  simp only [Fallible.unless_eq_ok, Fallible.bind_eq_ok, not_or, not_not,
    ne_eq, Except.ok.injEq]
  constructor
  · rintro ⟨hsize, ⟨hmagic, hversion, hheader⟩, ⟨hcount, hprelude⟩,
      ⟨hbytes, hfixed, hhandoff, hflags, hparams, hdelay, htotal⟩, hcrc, scan,
      hloop, ⟨hcursor, hmost, hlongest⟩, rfl⟩
    have hlength : (wordAt data 16).toNat =
        (data.drop panelHeaderSize).length := by
      rw [List.length_drop, htotal, Nat.add_sub_cancel_left]
    rw [hlength] at hloop hcrc hcursor
    obtain ⟨records, hrecords, hpasses, hat, rfl⟩ := validateLoop_eq_ok.mp hloop
    -- the records fill the payload, since the cursor has reached its end
    have hpayload : (data.drop panelHeaderSize).length =
        (encodeRecords records).length :=
      hcursor.symm.trans (Nat.zero_add _)
    have hdrop : data.drop panelHeaderSize = encodeRecords records :=
      hat.drop_eq hpayload.le
    rw [List.take_length, checksum.agree, hdrop] at hcrc
    have hprofile : PanelProfile records := by
      refine ⟨hrecords.trans hcount, ?_, ?_, hmost, hlongest⟩
      · rw [← hpayload, ← hlength, hbytes]
      · intro index record hrecord
        have hpass := hpasses index record hrecord
        rwa [hcount, Nat.zero_add] at hpass
    refine ⟨records, hprofile, hcrc.trans hfixed, hhandoff.symm.trans hfixed,
      eq_encodeBlob_iff.mpr ⟨?_, hdrop⟩, ?_⟩
    · exact (at_panelHeader hprofile.writable).mpr ⟨hsize ▸ by decide, hmagic,
        hversion, hheader, hrecords.symm, hprelude, hlength.trans hpayload,
        hcrc.symm, hflags, hparams.trans hmost.symm,
        hdelay.trans hlongest.symm⟩
    · rw [hlength, hdrop, hrecords]
  · rintro ⟨records, hprofile, hcrc, rfl, hdata, rfl⟩
    obtain ⟨hat, hdrop⟩ := eq_encodeBlob_iff.mp hdata
    obtain ⟨hsize, hmagic, hversion, hheader, hcount, hprelude, hbytes, hsum,
      hflags, hparams, hdelay⟩ := (at_panelHeader hprofile.writable).mp hat
    have htotal : data.length =
        panelHeaderSize + (encodeRecords records).length := by
      rw [← hdrop, List.length_drop, Nat.add_sub_cancel' hsize]
    have hloop : validateLoop (encodeRecords records)
        (encodeRecords records).length records.length records.length 0
        ⟨0, 0, 0⟩ = .ok (PanelScan.after ⟨0, 0, 0⟩ records) := by
      refine validateLoop_eq_ok.mpr ⟨records, rfl, ?_, List.prefix_rfl, rfl⟩
      intro index record hrecord
      rw [hprofile.length, Nat.zero_add]
      exact hprofile.passes index record hrecord
    rw [hdrop, hcount, hbytes, hsum, hprelude, hcrc, hflags, hparams, hdelay,
      List.take_length, checksum.agree, hcrc]
    refine ⟨?_, ⟨hmagic, hversion, hheader⟩, ⟨hprofile.length, rfl⟩,
      ⟨hprofile.payload, rfl, rfl, rfl, hprofile.most, hprofile.longest,
        htotal⟩, rfl, _, hloop,
      ⟨Nat.zero_add _, hprofile.most, hprofile.longest⟩, rfl⟩
    rw [htotal, hprofile.payload]
    rfl

/-- The program on a payload that is made of records. -/
theorem coldProgramPanel_records (hanswers : ∀ packet, answers packet = none)
    (records : List PanelRecord) :
    coldProgramPanel answers ⟨encodeRecords records,
        (encodeRecords records).length, records.length⟩ =
      (.dcsWrite 0x01#8 [] :: .sleep coldSwresetMs ::
        records.flatMap PanelRecord.actions, .ok ()) := by
  have hreset : coldDcsWrite (answers 0) (encodeRecords records) 0x01#8
      none 0 = ([.dcsWrite 0x01#8 []], .ok ()) := by
    rw [hanswers]
    rfl
  have hat : At (encodeRecords records) 0 (encodeRecords records) :=
    List.prefix_rfl
  unfold coldProgramPanel
  dsimp only
  rw [hreset, programRecords_at hanswers hat, Nat.zero_add]
  exact congrArg _ (if_neg (not_not.mpr rfl))

/-- Every artifact that the kernel accepts is accepted by the generator's
parser, and the program of the panel, where every packet is taken, reads the
payload only, sends the reset and the records that the parser returns, and
ends at the end of the payload. -/
theorem validated_program (checksum : PanelChecksum) (handoffCrc32 : Word)
    (data : List Byte) (panel : KernelPanel)
    (hvalid : panelFirmwareValidate checksum handoffCrc32 data = .ok panel)
    (answers : Nat → Option PanelErrno)
    (hanswers : ∀ packet, answers packet = none) :
    ∃ parsed, parseBlob checksum.crc32 data = .ok parsed ∧
      parsed.records.length = panelRecords ∧
      coldProgramPanel answers panel =
        (.dcsWrite 0x01#8 [] :: .sleep coldSwresetMs ::
          parsed.records.flatMap PanelRecord.actions, .ok ()) := by
  obtain ⟨records, hprofile, -, -, hdata, rfl⟩ :=
    panelFirmwareValidate_eq_ok.mp hvalid
  exact ⟨describe checksum.crc32 records panelPreludeRecords,
    parseBlob_eq_ok.mpr ⟨hprofile.writable, hdata, rfl⟩, hprofile.length,
    coldProgramPanel_records hanswers records⟩

/-- A record with one parameter. -/
def FixedRecord.record (fixed : FixedRecord)
    (hdelay : fixed.delay ≤ maxDelayMs) : PanelRecord where
  command := fixed.command
  data := [fixed.parameter]
  delayMs := fixed.delay
  data_le := (by decide : 1 ≤ maxParamBytes)
  delay_le := hdelay

/-- The commands and parameters of `jd9365-waveshare-10.1-v2.json`, twelve
records to a line. -/
def shippedWords : List Nat := List.flatMap
  (fun line => (List.range 12).reverse.map fun i => line / 2 ^ (16 * i))
  [0xe00036003a558001e000e193e265e3f88001e00100000138,
   0x031004380c74170018af19001a001baf1c00352637093804,
   0x39003a013c783dff3eff3f7f400641a04281431e440d4528,
   0x55025769590a5a2a5b175d7f5e6a5f5b604f614a623d6341,
   0x642a654466436744686269526a596b4c6c486d3a6e266f00,
   0x707f716a725b734f744a753d7641772a784479437a447b62,
   0x7c527d597e4c7f48803a81268200e0020042014202400340,
   0x045e055e065f075f085f09570a570b770c770d470e470f45,
   0x1045114b124b13491449155f16411741184019401a5e1b5e,
   0x1c5f1d5f1e5f1f572057217722772346244625442644274a,
   0x284a29482a482b5f2c012d012e002f00301f311f321e331e,
   0x341f351736173737383739083a083b0a3c0a3d043e043f06,
   0x4006411f4202430244004500461f471f481e491e4a1f4b17,
   0x4c174d374e374f095009510b520b5305540555075607571f,
   0x58405b305c005d345e055f026300646a6773680769086a6a,
   0x6b086c006d006e006f8875ff77dd782c79157a177d147e82,
   0xe004000e02b309610e4837582b0fe000e602e70c11002900]

def shippedRecord (word index : Nat) : PanelRecord :=
  FixedRecord.record
    { command := BitVec.ofNat 8 (word / 256)
      parameter := BitVec.ofNat 8 word
      delay := if index = 202 then 120 else if index = 203 then 20 else 0 }
    (by dsimp only; split_ifs <;> decide)

def shippedRecords : List PanelRecord :=
  shippedWords.zipIdx.map fun (word, index) => shippedRecord word index

theorem shippedRecords_profile : PanelProfile shippedRecords := by
  have hpasses : ∀ index < 204, ∀ record ∈ shippedRecords[index]?,
      Passes panelRecords index record := by decide +kernel
  have hlength : shippedRecords.length = 204 := by decide +kernel
  refine ⟨hlength, by decide +kernel, ?_, by decide +kernel,
    by decide +kernel⟩
  intro index record hrecord
  obtain ⟨hindex, -⟩ := List.getElem?_eq_some_iff.mp hrecord
  exact hpasses index (hlength ▸ hindex) record hrecord

def standardChecksum : PanelChecksum where
  crc32 := Checksum.crc32
  crc32Le := Checksum.crc32Le
  agree := fun _ => rfl

theorem shippedRecords_program :
    ∃ parsed,
      parseBlob standardChecksum.crc32 (encodeBlob standardChecksum.crc32
        shippedRecords panelPreludeRecords) = .ok parsed ∧
      parsed.records.length = panelRecords ∧
      coldProgramPanel (fun _ => none) ⟨encodeRecords shippedRecords,
          (encodeRecords shippedRecords).length, shippedRecords.length⟩ =
        (.dcsWrite 0x01#8 [] :: .sleep coldSwresetMs ::
          parsed.records.flatMap PanelRecord.actions, .ok ()) := by
  have hcrc : standardChecksum.crc32 (encodeRecords shippedRecords) =
      coldPanelPayloadCrc32 := by
    decide +kernel
  exact validated_program standardChecksum coldPanelPayloadCrc32 _ _
    (panelFirmwareValidate_eq_ok.mpr ⟨shippedRecords, shippedRecords_profile,
      hcrc, rfl, rfl, rfl⟩) (fun _ => none) fun _ => rfl

end Micronux
