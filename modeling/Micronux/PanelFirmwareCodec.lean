/-
The codec of the panel firmware is a bijection between the well-formed lists of
records and the artifacts that are accepted.
-/
import Micronux.Checksum
import Micronux.PanelFirmware

namespace Micronux

open RecordStream

variable {buffer : List Byte} {offset : Nat}

theorem getD_drop (buffer : List Byte) (offset index : Nat) (byte : Byte) :
    (buffer.drop offset).getD index byte =
      buffer.getD (offset + index) byte := by
  rw [List.getD_eq_getElem?_getD, List.getD_eq_getElem?_getD,
    List.getElem?_drop]

theorem at_pair {first second : Byte} :
    At buffer offset [first, second] ↔ offset + 2 ≤ buffer.length ∧
      buffer.getD offset 0#8 = first ∧
      buffer.getD (offset + 1) 0#8 = second := by
  have hfirst := getD_drop buffer offset 0 0#8
  have hsecond := getD_drop buffer offset 1 0#8
  have hlength := List.length_drop (i := offset) (l := buffer)
  rw [Nat.add_zero] at hfirst
  rw [← hfirst, ← hsecond, At]
  match hdrop : buffer.drop offset with
  | [] =>
    rw [hdrop, List.length_nil] at hlength
    simp
    omega
  | [single] =>
    rw [hdrop, List.length_singleton] at hlength
    simp
    omega
  | left :: right :: rest =>
    rw [hdrop, List.length_cons, List.length_cons] at hlength
    have hle : offset + 2 ≤ buffer.length := by omega
    simp [hle, eq_comm]

theorem le16_append (high low : Byte) : le16 (high ++ low) = [low, high] := by
  have hlow := low.isLt
  have hhigh := high.isLt
  have hfirst : (high ++ low).setWidth 8 = low := by
    apply BitVec.eq_of_toNat_eq
    rw [BitVec.toNat_setWidth, toNat_append_eq]
    omega
  have hsecond : ((high ++ low) >>> 8).setWidth 8 = high := by
    apply BitVec.eq_of_toNat_eq
    rw [BitVec.toNat_setWidth, BitVec.toNat_ushiftRight, toNat_append_eq,
      Nat.shiftRight_eq_div_pow]
    omega
  rw [le16, hfirst, hsecond]

theorem at_le16 {halfword : BitVec 16} :
    At buffer offset (le16 halfword) ↔ offset + 2 ≤ buffer.length ∧
      halfwordAt buffer offset = halfword := by
  unfold halfwordAt
  constructor
  · intro hat
    obtain ⟨hle, hlow, hhigh⟩ := at_pair.mp hat
    rw [hlow, hhigh]
    exact ⟨hle, le16_join halfword⟩
  · rintro ⟨hle, rfl⟩
    rw [le16_append]
    exact at_pair.mpr ⟨hle, rfl, rfl⟩

theorem le32_append (high low : BitVec 16) :
    le32 (high ++ low) = le16 low ++ le16 high := by
  have hlow := low.isLt
  have hhigh := high.isLt
  simp only [le32, le16, List.cons_append, List.nil_append, List.cons.injEq,
    and_true]
  refine ⟨?_, ?_, ?_, ?_⟩
  all_goals
    apply BitVec.eq_of_toNat_eq
    simp only [BitVec.toNat_setWidth, BitVec.toNat_ushiftRight,
      toNat_append_eq, Nat.shiftRight_eq_div_pow]
    omega

theorem exists_append (word : Word) :
    ∃ high low : BitVec 16, high ++ low = word :=
  ⟨_, _, le32_join word⟩

theorem at_le32 {word : Word} :
    At buffer offset (le32 word) ↔ offset + 4 ≤ buffer.length ∧
      wordAt buffer offset = word := by
  have hlength : ∀ halfword, (le16 halfword).length = 2 := fun _ => rfl
  unfold wordAt
  constructor
  · intro hat
    obtain ⟨high, low, rfl⟩ := exists_append word
    rw [le32_append, at_append, hlength] at hat
    obtain ⟨-, hlow⟩ := at_le16.mp hat.1
    obtain ⟨hle, hhigh⟩ := at_le16.mp hat.2
    exact ⟨hle, by rw [hlow, hhigh]⟩
  · rintro ⟨hle, rfl⟩
    rw [le32_append, at_append, hlength]
    exact ⟨at_le16.mpr ⟨Nat.le_of_add_right_le (k := 2) hle, rfl⟩,
      at_le16.mpr ⟨hle, rfl⟩⟩

theorem at_iff_take {chunk : List Byte} :
    At buffer offset chunk ↔
      (buffer.drop offset).take chunk.length = chunk :=
  List.prefix_iff_eq_take.trans eq_comm

theorem PanelRecord.encode_length (record : PanelRecord) :
    record.encode.length = recordHeaderSize + record.data.length := by
  simp [encode, le16, recordHeaderSize]
  omega

theorem eq_ofNat_iff {width value : Nat} {bits : BitVec width}
    (hvalue : value < 2 ^ width) :
    bits = BitVec.ofNat width value ↔ bits.toNat = value := by
  rw [← BitVec.toNat_inj, BitVec.toNat_ofNat, Nat.mod_eq_of_lt hvalue]

theorem at_encode {payload : List Byte} {record : PanelRecord} :
    At payload offset record.encode ↔
      offset + recordHeaderSize + record.data.length ≤ payload.length ∧
      payload.getD offset 0#8 = record.command ∧
      (payload.getD (offset + 1) 0#8).toNat = record.data.length ∧
      (halfwordAt payload (offset + 2)).toNat = record.delayMs ∧
      (payload.drop (offset + recordHeaderSize)).take record.data.length =
        record.data := by
  have hdata : record.data.length < 2 ^ 8 :=
    Nat.lt_of_le_of_lt record.data_le (by decide)
  have hdelay : record.delayMs < 2 ^ 16 :=
    Nat.lt_of_le_of_lt record.delay_le (by decide)
  have hfields : At payload offset record.encode ↔
      (offset + 2 ≤ payload.length ∧
        payload.getD offset 0#8 = record.command ∧
        payload.getD (offset + 1) 0#8 =
          BitVec.ofNat 8 record.data.length) ∧
      (offset + 2 + 2 ≤ payload.length ∧
        halfwordAt payload (offset + 2) =
          BitVec.ofNat 16 record.delayMs) ∧
      At payload (offset + recordHeaderSize) record.data := by
    rw [PanelRecord.encode, List.append_assoc, at_append, at_append, at_pair,
      at_le16]
    rfl
  rw [hfields, eq_ofNat_iff hdata, eq_ofNat_iff hdelay]
  constructor
  · rintro ⟨⟨-, hcommand, hcount⟩, ⟨hheader, hmillis⟩, hrest⟩
    have hlength := hrest.length_le
    unfold recordHeaderSize at hlength ⊢
    exact ⟨by omega, hcommand, hcount, hmillis, at_iff_take.mp hrest⟩
  · rintro ⟨hlength, hcommand, hcount, hmillis, hrest⟩
    unfold recordHeaderSize at hlength
    exact ⟨⟨by omega, hcommand, hcount⟩, ⟨by omega, hmillis⟩,
      at_iff_take.mpr hrest⟩

/-- The loop of `parse_blob` reads the records that were written. -/
theorem parseRecord_inverts (payload : List Byte) :
    Inverts (parseRecord payload) PanelRecord.encode payload := by
  intro index offset record next
  rw [at_encode, PanelRecord.encode_length]
  unfold parseRecord
  dsimp only
  constructor
  · intro hparse
    split_ifs at hparse with hheader hbounds hdata
    obtain ⟨hrecord, rfl⟩ := Prod.mk.inj (Except.ok.inj hparse)
    have hlength : record.data.length =
        (payload.getD (offset + 1) 0#8).toNat := by
      rw [← hrecord, List.length_take, List.length_drop]
      exact Nat.min_eq_left (Nat.not_lt.mp hdata)
    have htake : (payload.drop (offset + recordHeaderSize)).take
        record.data.length = record.data := by
      rw [hlength, ← hrecord]
    rw [← hlength] at hdata ⊢
    refine ⟨⟨?_, ?_, rfl, ?_, htake⟩, Nat.add_assoc _ _ _⟩
    · unfold recordHeaderSize at hheader hdata ⊢
      omega
    · rw [← hrecord]
    · rw [← hrecord]
  · rintro ⟨⟨hlength, hcommand, hcount, hmillis, hrest⟩, rfl⟩
    have hheader : ¬ payload.length - offset < recordHeaderSize := by omega
    have hdata : ¬ payload.length - (offset + recordHeaderSize) <
        (payload.getD (offset + 1) 0#8).toNat := by omega
    have hbounds : ¬ (maxParamBytes < (payload.getD (offset + 1) 0#8).toNat ∨
        maxDelayMs < (halfwordAt payload (offset + 2)).toNat) := by
      rw [hcount, hmillis]
      exact not_or.mpr ⟨Nat.not_lt.mpr record.data_le,
        Nat.not_lt.mpr record.delay_le⟩
    rw [if_neg hheader, dif_neg hbounds, if_neg hdata]
    refine congrArg Except.ok (Prod.ext ?_ ?_)
    · cases record
      simp only [PanelRecord.mk.injEq]
      exact ⟨hcommand, by rw [hcount]; exact hrest, hmillis⟩
    · dsimp only
      rw [hcount, Nat.add_assoc]

/-- The records that can be written. -/
structure Writable (records : List PanelRecord) (preludeCount : Nat) :
    Prop where
  some : 0 < records.length
  records_le : records.length ≤ maxRecords
  prelude_le : preludeCount ≤ records.length
  payload_le : (encodeRecords records).length ≤ maxPayloadBytes

/-- What `parse_blob` returns for some records. -/
def describe (crc32 : List Byte → Word) (records : List PanelRecord)
    (preludeCount : Nat) : ParsedFirmware where
  recordCount := records.length
  preludeCount := preludeCount
  payloadBytes := (encodeRecords records).length
  payloadCrc32 := crc32 (encodeRecords records)
  flags := panelFlags
  maxParams := maxParams records
  maxDelayMs := maxDelay records
  records := records

theorem maximum_le {values : List Nat} {bound : Nat}
    (hvalues : ∀ value ∈ values, value ≤ bound) : maximum values ≤ bound := by
  have hfold : ∀ (values : List Nat) (first : Nat), first ≤ bound →
      (∀ value ∈ values, value ≤ bound) → values.foldl max first ≤ bound := by
    intro values
    induction values with
    | nil => exact fun _ hfirst _ => hfirst
    | cons value values ih =>
      intro first hfirst hvalues
      refine ih _ (max_le hfirst (hvalues value List.mem_cons_self)) ?_
      exact fun other hother =>
        hvalues other (List.mem_cons_of_mem value hother)
  exact hfold values 0 (Nat.zero_le _) hvalues

theorem maxParams_le (records : List PanelRecord) :
    maxParams records ≤ maxParamBytes := by
  apply maximum_le
  intro value hvalue
  obtain ⟨record, -, rfl⟩ := List.mem_map.mp hvalue
  exact record.data_le

theorem maxDelay_le (records : List PanelRecord) :
    maxDelay records ≤ maxDelayMs := by
  apply maximum_le
  intro value hvalue
  obtain ⟨record, -, rfl⟩ := List.mem_map.mp hvalue
  exact record.delay_le

theorem panelHeader_length (crc32 : List Byte → Word)
    (records : List PanelRecord) (preludeCount : Nat) :
    (panelHeader crc32 records preludeCount).length = panelHeaderSize :=
  rfl

variable {crc32 : List Byte → Word} {blob : List Byte}
  {records : List PanelRecord} {preludeCount : Nat} {python : PythonText}

/-- The header of an artifact says what its records are. -/
theorem at_panelHeader (hwritable : Writable records preludeCount) :
    At blob 0 (panelHeader crc32 records preludeCount) ↔
      panelHeaderSize ≤ blob.length ∧ blob.take 8 = panelMagic ∧
      halfwordAt blob 8 = panelFormatVersion ∧
      (halfwordAt blob 10).toNat = panelHeaderSize ∧
      (halfwordAt blob 12).toNat = records.length ∧
      (halfwordAt blob 14).toNat = preludeCount ∧
      (wordAt blob 16).toNat = (encodeRecords records).length ∧
      wordAt blob 20 = crc32 (encodeRecords records) ∧
      wordAt blob 24 = panelFlags ∧
      (halfwordAt blob 28).toNat = maxParams records ∧
      (halfwordAt blob 30).toNat = maxDelay records := by
  have hheader : panelHeaderSize < 2 ^ 16 := by decide
  have hrecords : records.length < 2 ^ 16 :=
    Nat.lt_of_le_of_lt hwritable.records_le (by decide)
  have hprelude : preludeCount < 2 ^ 16 :=
    Nat.lt_of_le_of_lt hwritable.prelude_le hrecords
  have hpayload : (encodeRecords records).length < 2 ^ 32 :=
    Nat.lt_of_le_of_lt hwritable.payload_le (by decide)
  have hparams : maxParams records < 2 ^ 16 :=
    Nat.lt_of_le_of_lt (maxParams_le records) (by decide)
  have hdelay : maxDelay records < 2 ^ 16 :=
    Nat.lt_of_le_of_lt (maxDelay_le records) (by decide)
  rw [← eq_ofNat_iff hheader, ← eq_ofNat_iff hrecords,
    ← eq_ofNat_iff hprelude, ← eq_ofNat_iff hpayload, ← eq_ofNat_iff hparams,
    ← eq_ofNat_iff hdelay]
  have hmagic : At blob 0 panelMagic ↔ blob.take 8 = panelMagic :=
    at_iff_take
  rw [panelHeader, at_append, hmagic]
  simp only [at_append, at_le16, at_le32]
  constructor
  · rintro ⟨htake, ⟨-, hversion⟩, ⟨-, hsize⟩, ⟨-, hcount⟩, ⟨-, hfirst⟩,
      ⟨-, hbytes⟩, ⟨-, hcrc⟩, ⟨-, hflags⟩, ⟨-, hmost⟩, hlength, hlongest⟩
    exact ⟨hlength, htake, hversion, hsize, hcount, hfirst, hbytes, hcrc,
      hflags, hmost, hlongest⟩
  · rintro ⟨hlength, htake, hversion, hsize, hcount, hfirst, hbytes, hcrc,
      hflags, hmost, hlongest⟩
    have hle : ∀ size ≤ panelHeaderSize, size ≤ blob.length :=
      fun size hsize => hsize.trans hlength
    exact ⟨htake, ⟨hle 10 (by decide), hversion⟩,
      ⟨hle 12 (by decide), hsize⟩, ⟨hle 14 (by decide), hcount⟩,
      ⟨hle 16 (by decide), hfirst⟩, ⟨hle 20 (by decide), hbytes⟩,
      ⟨hle 24 (by decide), hcrc⟩, ⟨hle 28 (by decide), hflags⟩,
      ⟨hle 30 (by decide), hmost⟩, hlength, hlongest⟩

theorem eq_encodeBlob_iff :
    blob = encodeBlob crc32 records preludeCount ↔
      At blob 0 (panelHeader crc32 records preludeCount) ∧
        blob.drop panelHeaderSize = encodeRecords records := by
  constructor
  · rintro rfl
    exact ⟨⟨_, rfl⟩, List.drop_left' (panelHeader_length _ _ _)⟩
  · rintro ⟨⟨rest, hrest⟩, hdrop⟩
    rw [List.drop_zero] at hrest
    subst hrest
    rw [encodeBlob, ← hdrop]
    exact congrArg _ (List.drop_left' (panelHeader_length _ _ _)).symm

/-- `parse_blob` accepts the artifacts of the records that can be written, and
returns what they were made of. -/
theorem parseBlob_eq_ok {parsed : ParsedFirmware} :
    parseBlob crc32 blob = .ok parsed ↔
      Writable parsed.records parsed.preludeCount ∧
        blob = encodeBlob crc32 parsed.records parsed.preludeCount ∧
        parsed = describe crc32 parsed.records parsed.preludeCount := by
  unfold parseBlob
  simp only [Fallible.unless_eq_ok, Fallible.bind_eq_ok, Prod.exists,
    readMany_eq_ok (parseRecord_inverts _), not_or, not_not, ne_eq,
    Nat.not_lt, Except.ok.injEq]
  constructor
  · rintro ⟨hsize, ⟨hmagic, hversion, hheader⟩, hflags,
      ⟨⟨hsome, hmost⟩, hprelude⟩, ⟨hpayload, hlength⟩, hcrc, records, _,
      ⟨hcount, hat, rfl⟩, hend, ⟨hparams, hdelay⟩, rfl⟩
    have hdrop : blob.drop panelHeaderSize = encodeRecords records :=
      hat.drop_eq (by omega)
    have hbytes : (wordAt blob 16).toNat = (encodeRecords records).length := by
      rw [← hdrop, List.length_drop, hlength, Nat.add_sub_cancel_left]
    have hwritable : Writable records (halfwordAt blob 14).toNat :=
      ⟨hcount ▸ hsome, hcount ▸ hmost, hcount ▸ hprelude, hbytes ▸ hpayload⟩
    rw [hdrop] at hcrc
    refine ⟨hwritable, eq_encodeBlob_iff.mpr ⟨?_, hdrop⟩, ?_⟩
    · exact (at_panelHeader hwritable).mpr ⟨hsize, hmagic, hversion, hheader,
        hcount.symm, rfl, hbytes, hcrc.symm, hflags, hparams, hdelay⟩
    · simp only [describe, ParsedFirmware.mk.injEq, true_and, and_true]
      exact ⟨hcount.symm, hbytes, hcrc.symm, hflags⟩
  · rintro ⟨hwritable, hblob, hparsed⟩
    obtain ⟨hat, hdrop⟩ := eq_encodeBlob_iff.mp hblob
    obtain ⟨hsize, hmagic, hversion, hheader, hcount, hprelude, hbytes, hcrc,
      hflags, hparams, hdelay⟩ := (at_panelHeader hwritable).mp hat
    have hlength : blob.length =
        panelHeaderSize + (encodeRecords parsed.records).length := by
      rw [← hdrop, List.length_drop, Nat.add_sub_cancel' hsize]
    refine ⟨hsize, ⟨hmagic, hversion, hheader⟩, hflags, ?_, ?_, ?_,
      parsed.records, _, ⟨hcount.symm, ?_, rfl⟩, ?_, ⟨hparams, hdelay⟩, ?_⟩
    · rw [hcount, hprelude]
      exact ⟨⟨hwritable.some, hwritable.records_le⟩, hwritable.prelude_le⟩
    · rw [hbytes]
      exact ⟨hwritable.payload_le, hlength⟩
    · rw [hdrop, hcrc]
    · rw [hdrop]
      exact List.prefix_rfl
    · rw [hdrop, Nat.zero_add]
      rfl
    · conv_rhs => rw [hparsed]
      simp only [describe, ParsedFirmware.mk.injEq, and_true]
      exact ⟨hcount, hprelude, hbytes, hcrc, hflags⟩

theorem recordList_length {items : List Json} {index : Nat}
    (hrecords : recordList python items index = .ok records) :
    records.length = items.length := by
  induction items generalizing index records with
  | nil =>
    obtain rfl := Except.ok.inj hrecords
    rfl
  | cons item items ih =>
    unfold recordList at hrecords
    obtain ⟨first, -, hrest⟩ := Fallible.bind_eq_ok.mp hrecords
    obtain ⟨rest, hitems, hcons⟩ := Fallible.bind_eq_ok.mp hrest
    obtain rfl := Except.ok.inj hcons
    rw [List.length_cons, List.length_cons, ih hitems]

/-- A source that is accepted has few enough records, and its prelude is a
part of them. -/
theorem normalizeSource_ok {document : Json}
    (hsource : normalizeSource python document =
      .ok (records, preludeCount)) :
    0 < records.length ∧ records.length ≤ maxRecords ∧
      preludeCount ≤ records.length := by
  unfold normalizeSource at hsource
  obtain ⟨fields, -, hschema⟩ := Fallible.bind_eq_ok.mp hsource
  obtain ⟨-, hlicense⟩ := Fallible.unless_eq_ok.mp hschema
  obtain ⟨-, hlists⟩ := Fallible.unless_eq_ok.mp hlicense
  split at hlists
  · rename_i prelude vendor hprelude hvendor
    obtain ⟨expected, -, hcounts⟩ := Fallible.bind_eq_ok.mp hlists
    obtain ⟨-, hcounts⟩ := Fallible.unless_eq_ok.mp hcounts
    obtain ⟨-, hrecords⟩ := Fallible.unless_eq_ok.mp hcounts
    obtain ⟨built, hbuilt, hrange⟩ := Fallible.bind_eq_ok.mp hrecords
    obtain ⟨hlength, hresult⟩ := Fallible.unless_eq_ok.mp hrange
    obtain ⟨rfl, rfl⟩ := Prod.mk.inj (Except.ok.inj hresult)
    obtain ⟨hsome, hmost⟩ := not_not.mp hlength
    refine ⟨hsome, hmost, ?_⟩
    rw [recordList_length hbuilt, List.length_append]
    exact Nat.le_add_right _ _
  · cases hlists

/-- What is built can be written. -/
theorem buildBlob_ok {crc32 : List Byte → Word} {document : Json}
    {blob : List Byte} (hbuild : buildBlob python crc32 document = .ok blob) :
    ∃ records preludeCount,
      normalizeSource python document = .ok (records, preludeCount) ∧
      Writable records preludeCount ∧
      blob = encodeBlob crc32 records preludeCount := by
  unfold buildBlob at hbuild
  obtain ⟨⟨records, preludeCount⟩, hsource, hpayload⟩ :=
    Fallible.bind_eq_ok.mp hbuild
  obtain ⟨hlength, hblob⟩ := Fallible.unless_eq_ok.mp hpayload
  obtain ⟨hsome, hmost, hprelude⟩ := normalizeSource_ok hsource
  exact ⟨records, preludeCount, hsource,
    ⟨hsome, hmost, hprelude, Nat.not_lt.mp hlength⟩,
    (Except.ok.inj hblob).symm⟩

/-- The codec of the panel firmware is a bijection: what is built is parsed
back to the records and the prelude of the source, and what is parsed is the
artifact of its records. -/
theorem panelFirmware_round_trip (python : PythonText)
    (crc32 : List Byte → Word) :
    (∀ document blob, buildBlob python crc32 document = .ok blob →
      ∃ records preludeCount parsed,
        normalizeSource python document = .ok (records, preludeCount) ∧
        parseBlob crc32 blob = .ok parsed ∧ parsed.records = records ∧
        parsed.preludeCount = preludeCount) ∧
    ∀ blob parsed, parseBlob crc32 blob = .ok parsed →
      encodeBlob crc32 parsed.records parsed.preludeCount = blob := by
  refine ⟨fun document blob hbuild => ?_, fun blob parsed hparse => ?_⟩
  · obtain ⟨records, preludeCount, hsource, hwritable, hblob⟩ :=
      buildBlob_ok hbuild
    exact ⟨records, preludeCount, describe crc32 records preludeCount,
      hsource, parseBlob_eq_ok.mpr ⟨hwritable, hblob, rfl⟩, rfl, rfl⟩
  · obtain ⟨-, hblob, -⟩ := parseBlob_eq_ok.mp hparse
    exact hblob.symm

/-- A document with a record in each list. -/
def smallDocument : Json :=
  .obj
    [("schema", .str "micronux-jd9365-command-source-v1"),
      ("license", .str "Apache-2.0"),
      ("profile", .obj [("prelude_records", .int 1),
        ("vendor_records", .int 1)]),
      ("prelude", .list [.obj [("command", .int 0xe0), ("data", .str "00"),
        ("delay_ms", .int 0)]]),
      ("vendor_records", .list [.obj [("command", .str "0x11"),
        ("data", .str ""), ("delay_ms", .int 120)]])]

/-- Python on the texts of the document. -/
def smallPython : PythonText where
  int text := if text = "0x11" then some 0x11 else none
  fromHex text := if text = "00" then some [0#8] else some []
  repr text := text

def smallBlob : List Byte :=
  [0x4d#8, 0x4e#8, 0x4a#8, 0x44#8, 0x39#8, 0x33#8, 0x36#8, 0x35#8,
    1#8, 0#8, 32#8, 0#8, 2#8, 0#8, 1#8, 0#8, 9#8, 0#8, 0#8, 0#8,
    0xdf#8, 0x56#8, 0xd6#8, 0x1f#8, 7#8, 0#8, 0#8, 0#8, 1#8, 0#8, 120#8, 0#8,
    0xe0#8, 1#8, 0#8, 0#8, 0#8, 0x11#8, 0#8, 120#8, 0#8]

theorem smallDocument_round_trip :
    buildBlob smallPython Checksum.crc32 smallDocument = .ok smallBlob ∧
    ∃ parsed, parseBlob Checksum.crc32 smallBlob = .ok parsed ∧
      normalizeSource smallPython smallDocument =
        .ok (parsed.records, parsed.preludeCount) ∧
      encodeBlob Checksum.crc32 parsed.records parsed.preludeCount =
        smallBlob := by
  have hbuild : buildBlob smallPython Checksum.crc32 smallDocument =
      .ok smallBlob := by decide +kernel
  obtain ⟨hbuilt, hparsed⟩ := panelFirmware_round_trip smallPython
    Checksum.crc32
  obtain ⟨_, _, parsed, hsource, hparse, rfl, rfl⟩ := hbuilt _ _ hbuild
  exact ⟨hbuild, parsed, hparse, hsource, hparsed _ _ hparse⟩

end Micronux
