/-
The generator of the panel firmware: the source document, its records, and the
codec of the artifact.
-/
import Micronux.PayloadPack
import Micronux.RecordStream

namespace Micronux

/-- What `json.load` returns; of a number that is no integer, the integer that
it equals, if any. -/
inductive Json where
  | null
  | bool (value : Bool)
  | int (value : Int)
  | real (value : Option Int)
  | str (text : String)
  | list (items : List Json)
  | obj (fields : List (String × Json))

/-- The functions of the language that read and show texts. -/
structure PythonText where
  int : String → Option Int
  fromHex : String → Option (List Byte)
  repr : String → String

/-- `FirmwareFormatError`, or the error of a `get` on what is no object. -/
inductive FirmwareError where
  | format (message : String)
  | attribute
deriving DecidableEq

/-- `MAGIC` -/
def panelMagic : List Byte :=
  [0x4d#8, 0x4e#8, 0x4a#8, 0x44#8, 0x39#8, 0x33#8, 0x36#8, 0x35#8]

/-- `FORMAT_VERSION` -/
def panelFormatVersion : BitVec 16 := 1#16

/-- `FLAGS` -/
def panelFlags : Word := 7#32

/-- `HEADER.size` -/
def panelHeaderSize : Nat := 32

/-- `RECORD_HEADER.size` -/
def recordHeaderSize : Nat := 4

/-- `MAX_RECORDS` -/
def maxRecords : Nat := 512

/-- `MAX_PAYLOAD_BYTES` -/
def maxPayloadBytes : Nat := 65536

/-- `MAX_PARAM_BYTES` -/
def maxParamBytes : Nat := 64

/-- `MAX_DELAY_MS` -/
def maxDelayMs : Nat := 5000

/-- A record that is within its bounds. -/
structure PanelRecord where
  command : Byte
  data : List Byte
  delayMs : Nat
  data_le : data.length ≤ maxParamBytes
  delay_le : delayMs ≤ maxDelayMs
deriving DecidableEq

def Json.fields : Json → Except FirmwareError (List (String × Json))
  | .obj fields => .ok fields
  | _ => .error .attribute

def isText (value : Option Json) (text : String) : Bool :=
  match value with
  | some (.str other) => other == text
  | _ => false

def isCount (value : Option Json) (count : Nat) : Bool :=
  match value with
  | some (.int other) | some (.real (some other)) => other == count
  | some (.bool other) => other.toNat == count
  | _ => false

/-- `_integer` -/
def integer (python : PythonText) (value : Option Json) (field : String) :
    Except FirmwareError Int :=
  match value with
  | some (.int value) => .ok value
  | some (.bool value) => .ok value.toNat
  | some (.str text) =>
    match python.int text with
    | some value => .ok value
    | none =>
      .error (.format ("invalid " ++ field ++ ": " ++ python.repr text))
  | _ => .error (.format ("invalid " ++ field ++ " type"))

def recordError (index : Nat) (message : String) : FirmwareError :=
  .format ("record " ++ toString index ++ " " ++ message)

def recordData (python : PythonText) (value : Option Json) (index : Nat) :
    Except FirmwareError (List Byte) :=
  match value with
  | some (.str text) =>
    match python.fromHex text with
    | some data => .ok data
    | none => .error (recordError index "data is not hexadecimal")
  | _ => .error (recordError index "data must be a hex string")

/-- `_record` -/
def record (python : PythonText) (item : Json) (index : Nat) :
    Except FirmwareError PanelRecord := do
  let fields ← item.fields
  let command ← integer python (fields.lookup "command")
    ("record " ++ toString index ++ " command")
  let delay ← integer python (fields.lookup "delay_ms")
    ("record " ++ toString index ++ " delay")
  let data ← recordData python (fields.lookup "data") index
  if ¬ (0 ≤ command ∧ command ≤ 0xff) then
    .error (recordError index "command is out of range")
  else if hdata : maxParamBytes < data.length then
    .error (recordError index "has too many parameter bytes")
  else if hdelay : ¬ (0 ≤ delay ∧ delay ≤ maxDelayMs) then
    .error (recordError index "delay is out of range")
  else
    .ok
      { command := BitVec.ofInt 8 command
        data := data
        delayMs := delay.toNat
        data_le := Nat.not_lt.mp hdata
        delay_le := Int.toNat_le.mpr (not_not.mp hdelay).2 }

/-- The records of `prelude` and `vendor_records`. -/
def recordList (python : PythonText) :
    (items : List Json) → (index : Nat) →
      Except FirmwareError (List PanelRecord)
  | [], _ => .ok []
  | item :: items, index => do
    let first ← record python item index
    let rest ← recordList python items (index + 1)
    .ok (first :: rest)

/-- `normalize_source` -/
def normalizeSource (python : PythonText) (document : Json) :
    Except FirmwareError (List PanelRecord × Nat) := do
  let fields ← document.fields
  if isText (fields.lookup "schema") "micronux-jd9365-command-source-v1" =
      false then
    .error (.format "unknown source schema")
  else if isText (fields.lookup "license") "Apache-2.0" = false then
    .error (.format "source must retain its Apache-2.0 license")
  else
    match fields.lookup "prelude", fields.lookup "vendor_records" with
    | some (.list prelude), some (.list vendor) => do
      let expected ← ((fields.lookup "profile").getD (.obj [])).fields
      if isCount (expected.lookup "prelude_records") prelude.length =
          false then
        .error (.format "prelude record count mismatch")
      else if isCount (expected.lookup "vendor_records") vendor.length =
          false then
        .error (.format "vendor record count mismatch")
      else do
        let records ← recordList python (prelude ++ vendor) 0
        if ¬ (0 < records.length ∧ records.length ≤ maxRecords) then
          .error (.format "total record count is out of range")
        else .ok (records, prelude.length)
    | _, _ =>
      .error (.format "prelude and vendor_records must be arrays")

def PanelRecord.encode (record : PanelRecord) : List Byte :=
  [record.command, BitVec.ofNat 8 record.data.length] ++
    le16 (BitVec.ofNat 16 record.delayMs) ++ record.data

def encodeRecords (records : List PanelRecord) : List Byte :=
  records.flatMap PanelRecord.encode

def maximum (values : List Nat) : Nat :=
  values.foldl max 0

def maxParams (records : List PanelRecord) : Nat :=
  maximum (records.map fun record => record.data.length)

def maxDelay (records : List PanelRecord) : Nat :=
  maximum (records.map fun record => record.delayMs)

/-- `HEADER.pack` -/
def panelHeader (crc32 : List Byte → Word) (records : List PanelRecord)
    (preludeCount : Nat) : List Byte :=
  panelMagic ++ (le16 panelFormatVersion ++
    (le16 (BitVec.ofNat 16 panelHeaderSize) ++
    (le16 (BitVec.ofNat 16 records.length) ++
    (le16 (BitVec.ofNat 16 preludeCount) ++
    (le32 (BitVec.ofNat 32 (encodeRecords records).length) ++
    (le32 (crc32 (encodeRecords records)) ++ (le32 panelFlags ++
    (le16 (BitVec.ofNat 16 (maxParams records)) ++
    le16 (BitVec.ofNat 16 (maxDelay records))))))))))

def encodeBlob (crc32 : List Byte → Word) (records : List PanelRecord)
    (preludeCount : Nat) : List Byte :=
  panelHeader crc32 records preludeCount ++ encodeRecords records

/-- `build_blob` -/
def buildBlob (python : PythonText) (crc32 : List Byte → Word)
    (document : Json) : Except FirmwareError (List Byte) := do
  let (records, preludeCount) ← normalizeSource python document
  if maxPayloadBytes < (encodeRecords records).length then
    .error (.format "record payload is too large")
  else .ok (encodeBlob crc32 records preludeCount)

/-- What `parse_blob` returns. -/
structure ParsedFirmware where
  recordCount : Nat
  preludeCount : Nat
  payloadBytes : Nat
  payloadCrc32 : Word
  flags : Word
  maxParams : Nat
  maxDelayMs : Nat
  records : List PanelRecord
deriving DecidableEq

/-- A turn of the loop of `parse_blob`. -/
def parseRecord (payload : List Byte) (index offset : Nat) :
    Except FirmwareError (PanelRecord × Nat) :=
  if payload.length - offset < recordHeaderSize then
    .error (recordError index "header is truncated")
  else
    let paramBytes := (payload.getD (offset + 1) 0#8).toNat
    let delay := (halfwordAt payload (offset + 2)).toNat
    let data := (payload.drop (offset + recordHeaderSize)).take paramBytes
    if hbounds : maxParamBytes < paramBytes ∨ maxDelayMs < delay then
      .error (recordError index "exceeds format bounds")
    else if payload.length - (offset + recordHeaderSize) < paramBytes then
      .error (recordError index "data is truncated")
    else
      .ok
        ({ command := payload.getD offset 0#8
           data := data
           delayMs := delay
           data_le := (List.length_take_le _ _).trans
            (Nat.not_lt.mp fun hdata => hbounds (.inl hdata))
           delay_le := Nat.not_lt.mp fun hdelay => hbounds (.inr hdelay) },
          offset + recordHeaderSize + paramBytes)

/-- `parse_blob` -/
def parseBlob (crc32 : List Byte → Word) (blob : List Byte) :
    Except FirmwareError ParsedFirmware :=
  if blob.length < panelHeaderSize then
    .error (.format "truncated header")
  else
    let recordCount := (halfwordAt blob 12).toNat
    let preludeCount := (halfwordAt blob 14).toNat
    let payloadBytes := (wordAt blob 16).toNat
    let payloadCrc32 := wordAt blob 20
    let flags := wordAt blob 24
    if blob.take 8 ≠ panelMagic ∨ halfwordAt blob 8 ≠ panelFormatVersion ∨
        (halfwordAt blob 10).toNat ≠ panelHeaderSize then
      .error (.format "unsupported header")
    else if flags ≠ panelFlags then .error (.format "unsupported flags")
    else if ¬ (0 < recordCount ∧ recordCount ≤ maxRecords) ∨
        recordCount < preludeCount then
      .error (.format "record count is out of range")
    else if maxPayloadBytes < payloadBytes ∨
        blob.length ≠ panelHeaderSize + payloadBytes then
      .error (.format "payload length mismatch")
    else
      let payload := blob.drop panelHeaderSize
      if crc32 payload ≠ payloadCrc32 then
        .error (.format "payload CRC32 mismatch")
      else do
        let (records, offset) ←
          RecordStream.readMany (parseRecord payload) recordCount 0 0
        if offset ≠ payload.length then
          .error (.format "trailing payload bytes")
        else if (halfwordAt blob 28).toNat ≠ maxParams records ∨
            (halfwordAt blob 30).toNat ≠ maxDelay records then
          .error (.format "encoded maxima do not match records")
        else
          .ok
            { recordCount := recordCount
              preludeCount := preludeCount
              payloadBytes := payloadBytes
              payloadCrc32 := payloadCrc32
              flags := flags
              maxParams := maxParams records
              maxDelayMs := maxDelay records
              records := records }

end Micronux
