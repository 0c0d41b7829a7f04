/-
`check-bflt-wx.py`, the audit of the images in a built root file system, beside
the checks by which `load_flat_file` decides whether W^X can be applied.
-/
import Micronux.FlatChecks

namespace Micronux

/-- The big-endian word at `offset`; the buffer of an exec is zero behind the
end of a short file. -/
def beWord (bytes : List (BitVec 8)) (offset : Nat) : Word :=
  bytes.getD offset 0 ++ bytes.getD (offset + 1) 0 ++
    bytes.getD (offset + 2) 0 ++ bytes.getD (offset + 3) 0

theorem beWord_take {bytes : List (BitVec 8)} {offset length : Nat}
    (hinside : offset + 4 ≤ length) :
    beWord (bytes.take length) offset = beWord bytes offset := by
  have hbyte : ∀ index, index < length →
      (bytes.take length).getD index 0 = bytes.getD index 0 := fun index hlt => by
    rw [List.getD_eq_getElem?_getD, List.getD_eq_getElem?_getD,
      List.getElem?_take_of_lt hlt]
  unfold beWord
  rw [hbyte offset (by omega), hbyte (offset + 1) (by omega),
    hbyte (offset + 2) (by omega), hbyte (offset + 3) (by omega)]

/-- What `load_flat_file` asks of the format, the entry and the text. -/
def flatSplitOk (hdr : FlatHeader) : Bool :=
  hdr.flags &&& flatFlagRam != 0 &&
    hdr.flags &&& (flatFlagGzip ||| flatFlagGzdata) == 0 &&
    flatHeaderSize ≤ hdr.entry && hdr.entry < hdr.dataStart &&
    flatHeaderSize ≤ hdr.dataStart && isAligned hdr.dataStart pmpGranularity

theorem flatBoundsOk_eq_split (hdr : FlatHeader) :
    flatBoundsOk hdr = (flatSplitOk hdr && (hdr.dataStart ≤ hdr.dataEnd &&
      hdr.dataEnd ≤ hdr.bssEnd && hdr.relocStart == hdr.dataEnd)) := by
  simp only [flatBoundsOk, flatSplitOk, Bool.and_assoc]
  rw [Bool.and_comm (isAligned _ _)]
  simp only [Bool.and_assoc]

theorem flatChecks_refuses {hdr : FlatHeader} (hsplit : flatSplitOk hdr = false)
    (offset extraStack : Word) (fileSize : Nat) :
    flatChecks offset hdr fileSize extraStack = .error .enoexec := by
  have hbounds : flatBoundsOk hdr = false := by
    rw [flatBoundsOk_eq_split, hsplit, Bool.false_and]
  have hsizes : flatSizes hdr fileSize extraStack = none := by
    unfold flatSizes
    rw [hbounds]
    cases checkAdd hdr.stackSize extraStack with
    | none | some stackLen => rfl
  unfold flatChecks
  rw [hsizes]

namespace BfltAudit

/-- A path of the audited tree. -/
structure TreePath where
  path : String
  isFile : Bool
  isSymlink : Bool
  content : List (BitVec 8)

/-- `HEADER_SIZE` -/
def headerSize : Nat := 44

/-- `b"bFLT"` -/
def magic : List (BitVec 8) := [0x62#8, 0x46#8, 0x4c#8, 0x54#8]

/-- `struct.unpack(">10I", header[4:])` -/
def field (header : List (BitVec 8)) (index : Nat) : Word :=
  beWord header (4 + 4 * index)

def hexDigits (value : Word) : String :=
  String.ofList (Nat.toDigits 16 value.toNat)

def validate (file : TreePath) : Except String Bool :=
  if !file.isFile || file.isSymlink then .ok false
  else
    let header := file.content.take headerSize
    if header.length < 4 || header.take 4 != magic then .ok false
    else if header.length != headerSize then
      .error (file.path ++ ": truncated bFLT header")
    else
      let revision := field header 0
      let entry := field header 1
      let dataStart := field header 2
      let flags := field header 8
      if revision != 4#32 || flags &&& flatFlagRam == 0 then
        .error (file.path ++ ": expected bFLT v4 FLAT_FLAG_RAM")
      else if entry.toNat < headerSize || dataStart ≤ entry then
        .error (file.path ++ ": invalid entry/data boundary")
      else if dataStart.toNat % pmpGranularity != 0 then
        .error (file.path ++ ": data_start 0x" ++ hexDigits dataStart ++
          " is not 128-byte aligned")
      else .ok true

/-- The header that the loader finds in the same bytes, as far as the audit
reads it. -/
structure HeaderOf (content : List (BitVec 8)) (hdr : FlatHeader) : Prop where
  entry : hdr.entry = beWord content 8
  dataStart : hdr.dataStart = beWord content 12
  flags : hdr.flags = beWord content 36

theorem field_take (content : List (BitVec 8)) {index : Nat}
    (hindex : index < 10) :
    field (content.take headerSize) index = beWord content (4 + 4 * index) :=
  beWord_take (by unfold headerSize; omega)

/-- What a passed audit has seen in the header. -/
theorem validate_true {file : TreePath} {hdr : FlatHeader}
    (hhdr : HeaderOf file.content hdr) (htrue : validate file = .ok true) :
    hdr.flags &&& flatFlagRam ≠ 0 ∧ 44 ≤ hdr.entry.toNat ∧
      hdr.entry.toNat < hdr.dataStart.toNat ∧ 128 ∣ hdr.dataStart.toNat := by
  obtain ⟨hentryWord, hstartWord, hflagsWord⟩ := hhdr
  rw [hentryWord, hstartWord, hflagsWord,
    ← field_take file.content (by decide : 1 < 10),
    ← field_take file.content (by decide : 2 < 10),
    ← field_take file.content (by decide : 8 < 10)]
  unfold validate at htrue
  simp only at htrue
  -- one split for each test of the script, in its order
  split at htrue
  · exact absurd (Except.ok.inj htrue) Bool.false_ne_true
  split at htrue
  · exact absurd (Except.ok.inj htrue) Bool.false_ne_true
  split at htrue
  · cases htrue
  split at htrue
  · cases htrue
  next hformat =>
  split at htrue
  · cases htrue
  next hentry =>
  split at htrue
  · cases htrue
  next haligned =>
  have hlow : 44 = headerSize := rfl
  have hgranule : 128 = pmpGranularity := rfl
  simp only [Bool.or_eq_true, beq_iff_eq, not_or] at hformat
  simp only [Bool.or_eq_true, decide_eq_true_eq, not_or, BitVec.le_def,
    Nat.not_lt, Nat.not_le] at hentry
  simp only [bne_iff_ne, ne_eq, not_not] at haligned
  rw [hlow, hgranule]
  exact ⟨hformat.2, hentry.1, hentry.2, Nat.dvd_of_mod_eq_zero haligned⟩

theorem flatSplitOk_iff (hdr : FlatHeader) :
    flatSplitOk hdr = true ↔ hdr.flags &&& flatFlagRam ≠ 0 ∧
      hdr.flags &&& (flatFlagGzip ||| flatFlagGzdata) = 0 ∧
      64 ≤ hdr.entry.toNat ∧ hdr.entry.toNat < hdr.dataStart.toNat ∧
      64 ≤ hdr.dataStart.toNat ∧ 128 ∣ hdr.dataStart.toNat := by
  have hsize : flatHeaderSize.toNat = 64 := rfl
  have hgranule : pmpGranularity = 128 := rfl
  simp only [flatSplitOk, isAligned, Bool.and_eq_true, bne_iff_ne, beq_iff_eq,
    decide_eq_true_eq, BitVec.le_def, BitVec.lt_def, hsize, hgranule,
    Nat.dvd_iff_mod_eq_zero, and_assoc]

/-- An image that the audit passes has the format, the entry and the text that
the loader asks for exactly if it enters behind the loader's header and is not
compressed. -/
theorem validate_agrees {file : TreePath} {hdr : FlatHeader}
    (hhdr : HeaderOf file.content hdr) (htrue : validate file = .ok true) :
    (flatSplitOk hdr = true ↔ hdr.flags &&& flatFlagRam ≠ 0 ∧
      hdr.flags &&& (flatFlagGzip ||| flatFlagGzdata) = 0 ∧
      64 ≤ hdr.entry.toNat ∧ hdr.entry.toNat < hdr.dataStart.toNat ∧
      64 ≤ hdr.dataStart.toNat ∧ 128 ∣ hdr.dataStart.toNat) ∧
    (flatSplitOk hdr = true ↔ 64 ≤ hdr.entry.toNat ∧
      hdr.flags &&& (flatFlagGzip ||| flatFlagGzdata) = 0) := by
  obtain ⟨hram, -, hbelow, haligned⟩ := validate_true hhdr htrue
  refine ⟨flatSplitOk_iff hdr, (flatSplitOk_iff hdr).trans ⟨?_, ?_⟩⟩
  · rintro ⟨-, hplain, hentry, -⟩
    exact ⟨hentry, hplain⟩
  · rintro ⟨hentry, hplain⟩
    exact ⟨hram, hplain, hentry, hbelow, by omega, haligned⟩

/-- An image of a header and its text: the fields that the audit reads, the
others zero. -/
def headerImage (entry dataStart flags : BitVec 8) : TreePath where
  path := "init"
  isFile := true
  isSymlink := false
  content := magic ++ [0, 0, 0, 4, 0, 0, 0, entry, 0, 0, 0, dataStart] ++
    List.replicate 23 0 ++ [flags] ++ List.replicate 88 0

/-- `headerImage` as the loader reads it. -/
def headerImageHdr (entry dataStart flags : BitVec 8) : FlatHeader where
  flags := flags.setWidth 32
  entry := entry.setWidth 32
  dataStart := dataStart.setWidth 32
  dataEnd := 0
  bssEnd := 0
  stackSize := 0
  relocStart := 0
  relocCount := 0

theorem headerImage_validate_agrees :
    flatSplitOk (headerImageHdr 64 128 1) = true :=
  (validate_agrees (⟨by decide, by decide, by decide⟩ :
      HeaderOf (headerImage 64 128 1).content (headerImageHdr 64 128 1))
    (by decide)).2.mpr (by decide)

/-- The audit passes an image that enters right behind the header that the
audit reads, and a compressed one; the loader refuses both. -/
theorem validate_passes_refused : (validate (headerImage 44 128 1) = .ok true ∧
      HeaderOf (headerImage 44 128 1).content (headerImageHdr 44 128 1) ∧
      ∀ offset extraStack fileSize, flatChecks offset (headerImageHdr 44 128 1)
        fileSize extraStack = .error .enoexec) ∧
    (validate (headerImage 64 128 5) = .ok true ∧
      HeaderOf (headerImage 64 128 5).content (headerImageHdr 64 128 5) ∧
      ∀ offset extraStack fileSize, flatChecks offset (headerImageHdr 64 128 5)
        fileSize extraStack = .error .enoexec) :=
  ⟨⟨by decide, ⟨by decide, by decide, by decide⟩,
      flatChecks_refuses (by decide)⟩,
    ⟨by decide, ⟨by decide, by decide, by decide⟩,
      flatChecks_refuses (by decide)⟩⟩

end BfltAudit

end Micronux
