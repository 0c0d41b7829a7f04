/-
The packer of the payload, and that the loader accepts what it packs.
-/
import Micronux.Checksum
import Micronux.PayloadRuns

namespace Micronux

open ByteMemory

/-- The errors of the packer. -/
inductive PackError where
  | imageTooShort
  | imageMagic
  | imageTextOffset
  | imageSpan
  | imageBoundary
  | dtbFormat
  | dtbSize
  | packRange
deriving DecidableEq

/-- A little-endian word, as `struct.pack` writes it. -/
def le32 (word : Word) : List Byte :=
  [word.setWidth 8, (word >>> 8).setWidth 8, (word >>> 16).setWidth 8,
    (word >>> 24).setWidth 8]

def le16 (halfword : BitVec 16) : List Byte :=
  [halfword.setWidth 8, (halfword >>> 8).setWidth 8]

def doubleWordAt (bytes : List Byte) (offset : Nat) : BitVec 64 :=
  wordAt bytes (offset + 4) ++ wordAt bytes offset

def bigWordAt (bytes : List Byte) (offset : Nat) : Word :=
  (bytes.getD offset 0#8 ++ bytes.getD (offset + 1) 0#8) ++
    (bytes.getD (offset + 2) 0#8 ++ bytes.getD (offset + 3) 0#8)

/-- `RISCV_IMAGE_MAGIC` -/
def riscvImageMagic : List Byte :=
  [0x52#8, 0x49#8, 0x53#8, 0x43#8, 0x56#8, 0#8, 0#8, 0#8]

/-- `read_image`: the memory size of an image. -/
def readImage (image : List Byte) (maxMemoryEnd : Nat) : Except PackError Nat :=
  let textOffset := doubleWordAt image 8
  let memorySize := (doubleWordAt image 16).toNat
  if image.length < 64 then .error .imageTooShort
  else if (image.drop 48).take 8 ≠ riscvImageMagic then .error .imageMagic
  else if textOffset ≠ 0#64 then .error .imageTextOffset
  else if memorySize < image.length then .error .imageSpan
  else if maxMemoryEnd < kernelVaddr + memorySize then .error .imageBoundary
  else .ok memorySize

/-- `read_dtb` -/
def readDtb (dtb : List Byte) : Except PackError Unit :=
  if dtb.length < 40 ∨ dtb.take 4 ≠ fdtMagic then .error .dtbFormat
  else if (bigWordAt dtb 4).toNat ≠ dtb.length then .error .dtbSize
  else .ok ()

/-- What `make_manifest` hashes. -/
def manifestPayload (digests : Digests) (image : List Byte) (memorySize : Nat)
    (dtb : List Byte) : List Byte :=
  le32 payloadMagic ++ le32 payloadAbiVersion ++
    le32 (BitVec.ofNat 32 payloadSize) ++ le32 payloadFlagDtbPresent ++
    le32 (BitVec.ofNat 32 kernelVaddr) ++
    le32 (BitVec.ofNat 32 image.length) ++
    le32 (BitVec.ofNat 32 memorySize) ++ le32 (BitVec.ofNat 32 dtb.length) ++
    digests.sha256 image ++ digests.sha256 dtb ++ List.replicate 28 0#8

/-- `make_manifest`; `struct.pack` refuses what is not a word. -/
def makeManifest (digests : Digests) (image : List Byte) (memorySize : Nat)
    (dtb : List Byte) : Except PackError (List Byte) :=
  if 2 ^ 32 ≤ image.length ∨ 2 ^ 32 ≤ memorySize ∨ 2 ^ 32 ≤ dtb.length then
    .error .packRange
  else
    let payload := manifestPayload digests image memorySize dtb
    .ok (payload ++ le32 (digests.crc32 payload))

/-- `main` of the packer. -/
def pack (digests : Digests) (image dtb : List Byte) (maxMemoryEnd : Nat) :
    Except PackError (List Byte) := do
  let memorySize ← readImage image maxMemoryEnd
  readDtb dtb
  makeManifest digests image memorySize dtb

theorem toNat_append_eq {left right : Nat} (high : BitVec left)
    (low : BitVec right) :
    (high ++ low).toNat = high.toNat * 2 ^ right + low.toNat := by
  rw [BitVec.toNat_append, ← Nat.shiftLeft_add_eq_or_of_lt low.isLt,
    Nat.shiftLeft_eq]

theorem le32_length (word : Word) : (le32 word).length = 4 :=
  rfl

/-- A word is put together from its bytes. -/
theorem le32_join (word : Word) :
    (((word >>> 24).setWidth 8 ++ (word >>> 16).setWidth 8 : BitVec 16) ++
      ((word >>> 8).setWidth 8 ++ word.setWidth 8 : BitVec 16) : Word) =
      word := by
  apply BitVec.eq_of_toNat_eq
  have hbound := word.isLt
  simp only [toNat_append_eq, BitVec.toNat_setWidth, BitVec.toNat_ushiftRight,
    Nat.shiftRight_eq_div_pow]
  omega

theorem le16_join (halfword : BitVec 16) :
    ((halfword >>> 8).setWidth 8 ++ halfword.setWidth 8 : BitVec 16) =
      halfword := by
  apply BitVec.eq_of_toNat_eq
  have hbound := halfword.isLt
  simp only [toNat_append_eq, BitVec.toNat_setWidth, BitVec.toNat_ushiftRight,
    Nat.shiftRight_eq_div_pow]
  omega

/-- A word is read where it was packed. -/
theorem wordAt_le32 (before after : List Byte) (word : Word) :
    wordAt (before ++ (le32 word ++ after)) before.length = word := by
  have hbyte : ∀ index, (before ++ (le32 word ++ after)).getD
      (before.length + index) 0#8 = (le32 word ++ after).getD index 0#8 := by
    intro index
    rw [List.getD_eq_getElem?_getD, List.getD_eq_getElem?_getD,
      List.getElem?_append_right (Nat.le_add_right _ _),
      Nat.add_sub_cancel_left]
  have hfirst := hbyte 0
  have hsecond := hbyte 1
  have hthird := hbyte 2
  have hfourth := hbyte 3
  unfold wordAt halfwordAt
  rw [Nat.add_assoc before.length 2 1, hfourth, hthird, hsecond]
  rw [Nat.add_zero] at hfirst
  rw [hfirst]
  exact le32_join word

/-- A packed manifest is valid, and says what was packed. -/
structure Packed (digests : Digests) (image dtb manifest : List Byte)
    (memorySize : Nat) : Prop where
  length : manifest.length = payloadSize
  magic : (decodeManifest manifest).magic = payloadMagic
  abiVersion : (decodeManifest manifest).abiVersion = payloadAbiVersion
  structSize : (decodeManifest manifest).structSize.toNat = payloadSize
  flags : (decodeManifest manifest).flags = payloadFlagDtbPresent
  load : (decodeManifest manifest).kernelLoadVaddr.toNat = kernelVaddr
  file : (decodeManifest manifest).kernelFileSize.toNat = image.length
  memory : (decodeManifest manifest).kernelMemorySize.toNat = memorySize
  tree : (decodeManifest manifest).dtbSize.toNat = dtb.length
  kernelSha256 : (decodeManifest manifest).kernelSha256 = digests.sha256 image
  dtbSha256 : (decodeManifest manifest).dtbSha256 = digests.sha256 dtb
  crc : (decodeManifest manifest).crc32 =
    digests.crc32 (manifest.take payloadCrcOffset)

theorem manifestPayload_length (digests : Digests) (image : List Byte)
    (memorySize : Nat) (dtb : List Byte) :
    (manifestPayload digests image memorySize dtb).length =
      payloadCrcOffset := by
  simp [manifestPayload, digests.length_sha256, le32_length, payloadCrcOffset]

def manifestWords (image dtb : List Byte) (memorySize : Nat) : List Word :=
  [payloadMagic, payloadAbiVersion, BitVec.ofNat 32 payloadSize,
    payloadFlagDtbPresent, BitVec.ofNat 32 kernelVaddr,
    BitVec.ofNat 32 image.length, BitVec.ofNat 32 memorySize,
    BitVec.ofNat 32 dtb.length]

theorem manifestPayload_eq (digests : Digests) (image dtb : List Byte)
    (memorySize : Nat) :
    manifestPayload digests image memorySize dtb =
      (manifestWords image dtb memorySize).flatMap le32 ++
        (digests.sha256 image ++ (digests.sha256 dtb ++
          List.replicate 28 0#8)) := by
  simp [manifestPayload, manifestWords]

theorem length_flatMap_le32 (words : List Word) :
    (words.flatMap le32).length = 4 * words.length := by
  induction words with
  | nil => rfl
  | cons word words ih =>
    rw [List.flatMap_cons, List.length_append, ih, le32_length,
      List.length_cons]
    omega

/-- The words at the front of some bytes. -/
theorem wordAt_flatMap (before : List Word) (word : Word) (after : List Word)
    (rest : List Byte) :
    wordAt ((before ++ word :: after).flatMap le32 ++ rest)
      (4 * before.length) = word := by
  rw [List.flatMap_append, List.flatMap_cons, List.append_assoc,
    List.append_assoc, ← length_flatMap_le32]
  exact wordAt_le32 _ _ word

theorem toNat_ofNat_of_lt {value : Nat} (hvalue : value < 2 ^ 32) :
    (BitVec.ofNat 32 value).toNat = value := by
  rw [BitVec.toNat_ofNat, Nat.mod_eq_of_lt hvalue]

variable {input : LoaderInput} {image dtb rest manifest : List Byte}
  {digests : Digests} {earlyDeny : Bool} {memorySize : Nat}

theorem makeManifest_packed
    (hmake : makeManifest digests image memorySize dtb = .ok manifest) :
    Packed digests image dtb manifest memorySize := by
  unfold makeManifest at hmake
  split_ifs at hmake with hrange
  cases hmake
  simp only [not_or, Nat.not_le] at hrange
  obtain ⟨himage, hmemory, hdtb⟩ := hrange
  have hlength := manifestPayload_length digests image memorySize dtb
  have hcrc := wordAt_le32 (manifestPayload digests image memorySize dtb) []
    (digests.crc32 (manifestPayload digests image memorySize dtb))
  rw [List.append_nil, hlength] at hcrc
  have htake : (manifestPayload digests image memorySize dtb ++ le32
      (digests.crc32 (manifestPayload digests image memorySize dtb))).take
        payloadCrcOffset = manifestPayload digests image memorySize dtb :=
    List.take_left' hlength
  set checksum := le32
    (digests.crc32 (manifestPayload digests image memorySize dtb))
  have hsplit : manifestPayload digests image memorySize dtb ++ checksum =
      (manifestWords image dtb memorySize).flatMap le32 ++
        (digests.sha256 image ++ (digests.sha256 dtb ++
          (List.replicate 28 0#8 ++ checksum))) := by
    rw [manifestPayload_eq]
    simp only [List.append_assoc]
  have hwords : ((manifestWords image dtb memorySize).flatMap le32).length =
      32 := rfl
  have hword := fun before word after => wordAt_flatMap before word after
    (digests.sha256 image ++ (digests.sha256 dtb ++
      (List.replicate 28 0#8 ++ checksum)))
  refine ⟨?_, ?_, ?_, ?_, ?_, ?_, ?_, ?_, ?_, ?_, ?_, ?_⟩
  · rw [List.length_append, hlength]
    rfl
  · rw [hsplit]
    exact hword [] _ _
  · rw [hsplit]
    exact hword [payloadMagic] _ _
  · rw [hsplit]
    exact congrArg BitVec.toNat (hword [payloadMagic, payloadAbiVersion] _ _)
  · rw [hsplit]
    exact hword [payloadMagic, payloadAbiVersion,
      BitVec.ofNat 32 payloadSize] _ _
  · rw [hsplit]
    exact congrArg BitVec.toNat (hword [payloadMagic, payloadAbiVersion,
      BitVec.ofNat 32 payloadSize, payloadFlagDtbPresent] _ _)
  · rw [hsplit]
    refine (congrArg BitVec.toNat (hword [payloadMagic, payloadAbiVersion,
      BitVec.ofNat 32 payloadSize, payloadFlagDtbPresent,
      BitVec.ofNat 32 kernelVaddr] _ _)).trans (toNat_ofNat_of_lt himage)
  · rw [hsplit]
    refine (congrArg BitVec.toNat (hword [payloadMagic, payloadAbiVersion,
      BitVec.ofNat 32 payloadSize, payloadFlagDtbPresent,
      BitVec.ofNat 32 kernelVaddr, BitVec.ofNat 32 image.length] _ _)).trans
      (toNat_ofNat_of_lt hmemory)
  · rw [hsplit]
    refine (congrArg BitVec.toNat (hword [payloadMagic, payloadAbiVersion,
      BitVec.ofNat 32 payloadSize, payloadFlagDtbPresent,
      BitVec.ofNat 32 kernelVaddr, BitVec.ofNat 32 image.length,
      BitVec.ofNat 32 memorySize] _ _)).trans (toNat_ofNat_of_lt hdtb)
  · rw [hsplit]
    unfold decodeManifest
    dsimp only
    rw [List.drop_left' hwords, List.take_left' (digests.length_sha256 image)]
  · rw [hsplit, ← List.append_assoc]
    unfold decodeManifest
    dsimp only
    rw [List.drop_left' (by
        rw [List.length_append, hwords, digests.length_sha256]),
      List.take_left' (digests.length_sha256 dtb)]
  · rw [htake]
    exact hcrc

/-- What the packer has checked. -/
structure Packable (image dtb : List Byte) (memorySize maxMemoryEnd : Nat) :
    Prop where
  imageSize : 64 ≤ image.length
  span : image.length ≤ memorySize
  boundary : kernelVaddr + memorySize ≤ maxMemoryEnd
  treeSize : 40 ≤ dtb.length
  magic : dtb.take 4 = fdtMagic

theorem pack_ok {maxMemoryEnd : Nat}
    (hpack : pack digests image dtb maxMemoryEnd = .ok manifest) :
    ∃ memorySize, Packable image dtb memorySize maxMemoryEnd ∧
      Packed digests image dtb manifest memorySize := by
  unfold pack at hpack
  cases himage : readImage image maxMemoryEnd with
  | error failure =>
    rw [himage] at hpack
    cases hpack
  | ok memorySize =>
    cases hdtb : readDtb dtb with
    | error failure =>
      rw [himage, hdtb] at hpack
      cases hpack
    | ok checked =>
      rw [himage, hdtb] at hpack
      unfold readImage at himage
      dsimp only at himage
      split_ifs at himage with hshort hmagic htext hspan hboundary
      cases himage
      unfold readDtb at hdtb
      split_ifs at hdtb with hformat hsize
      simp only [not_or, not_not, Nat.not_lt] at hformat
      exact ⟨_, ⟨Nat.not_lt.mp hshort, Nat.not_lt.mp hspan,
        Nat.not_lt.mp hboundary, hformat.1, hformat.2⟩,
        makeManifest_packed hpack⟩

/-- The payload is in flash, the reads succeed, and the allocator returns the
addresses that the loader needs.  Nothing is drawn on the kernel. -/
structure Installed (input : LoaderInput) (image dtb manifest : List Byte) :
    Prop where
  metadata : ∃ rest, input.metadata = some (manifest ++ rest)
  linux : ∃ rest, input.linux = some (image ++ rest)
  tree : ∃ rest, input.dtb = some (dtb ++ rest)
  readMetadata : input.readMetadata = true
  readDtb : input.readDtb = true
  readKernel : ∀ offset, input.readKernel offset = true
  dtbAlloc : ∃ place, input.dtbAlloc = some place ∧ place < kernelVaddr
  kernelAlloc : input.kernelAlloc = some kernelVaddr
  draws : ∀ percent, Clear kernelVaddr image.length (input.draws percent)

theorem kernelCeiling_le (earlyDeny : Bool) :
    kernelCeiling earlyDeny ≤ commsVaddr := by
  cases earlyDeny <;> decide

theorem validateManifest_packed
    (hpackable : Packable image dtb memorySize (kernelCeiling earlyDeny))
    (hpacked : Packed digests image dtb manifest memorySize)
    (hmetadata : input.metadata = some (manifest ++ rest))
    (hread : input.readMetadata = true) :
    validateManifest digests earlyDeny input =
      .ok (decodeManifest manifest) := by
  have htake : (manifest ++ rest).take payloadSize = manifest :=
    List.take_left' hpacked.length
  have himage := hpackable.imageSize
  have hspan := hpackable.span
  have hdtb := hpackable.treeSize
  have hboundary := hpackable.boundary
  have hfile := hpacked.file
  have hmemory := hpacked.memory
  have htree := hpacked.tree
  unfold validateManifest
  rw [hmetadata]
  dsimp only
  rw [htake, if_neg (by rw [List.length_append, hpacked.length]; omega),
    if_neg (by simp [hread]), if_neg (by
      simp [hpacked.magic, hpacked.abiVersion, hpacked.structSize,
        hpacked.crc]), if_neg ?_, if_neg ?_]
  · rw [hpacked.load]
    omega
  · simp only [not_or, not_not]
    refine ⟨hpacked.flags, hpacked.load, fun hzero => ?_, fun hless => ?_,
      fun hless => ?_⟩
    · rw [hzero] at hfile
      exact absurd hfile (by
        rw [BitVec.toNat_ofNat]
        omega)
    · have hlt := BitVec.lt_def.mp hless
      omega
    · have hlt := BitVec.lt_def.mp hless
      have hforty : (40#32).toNat = 40 := rfl
      omega

theorem loadDtb_packed (hdtb : 40 ≤ dtb.length) (hmagic : dtb.take 4 = fdtMagic)
    (hpacked : Packed digests image dtb manifest memorySize)
    (hread : input.readDtb = true)
    (halloc : ∃ place, input.dtbAlloc = some place ∧ place < kernelVaddr)
    (memory : LoaderMemory) :
    ∃ loaded, loadDtb digests input (decodeManifest manifest) (dtb ++ rest)
      memory = .ok loaded := by
  obtain ⟨place, hplace, hbelow⟩ := halloc
  have htake : (dtb ++ rest).take (decodeManifest manifest).dtbSize.toNat =
      dtb := List.take_left' hpacked.tree.symm
  unfold loadDtb
  rw [hplace]
  dsimp only
  rw [htake, if_neg (Nat.not_le.mpr hbelow), if_neg (by simp [hread])]
  have hbytes : load (store (store memory place dtb)
      (place + (decodeManifest manifest).dtbSize.toNat)
      (List.replicate (alignUp (decodeManifest manifest).dtbSize
        cacheAlignment - (decodeManifest manifest).dtbSize).toNat 0#8)) place
      (decodeManifest manifest).dtbSize.toNat = dtb :=
    load_store_padded hpacked.tree.symm
  have hfour : 4 ≤ (decodeManifest manifest).dtbSize.toNat := by
    have htree := hpacked.tree
    omega
  rw [← load_take hfour, hbytes, if_neg (not_not.mpr hmagic),
    if_neg (not_not.mpr hpacked.dtbSha256.symm)]
  exact ⟨_, rfl⟩

theorem loadKernelPayload_packed
    (hpackable : Packable image dtb memorySize (kernelCeiling earlyDeny))
    (hpacked : Packed digests image dtb manifest memorySize)
    (hread : ∀ offset, input.readKernel offset = true)
    (halloc : input.kernelAlloc = some kernelVaddr)
    (hdraws : ∀ percent, Clear kernelVaddr image.length (input.draws percent))
    (loading : Loading) :
    ∃ loaded, loadKernelPayload digests earlyDeny input
      (decodeManifest manifest) (image ++ rest) loading = .ok loaded := by
  have hmemory := hpacked.memory
  have hboundary := hpackable.boundary
  have hceiling := kernelCeiling_le earlyDeny
  have hround : (decodeManifest manifest).kernelMemorySize.toNat + 127 <
      2 ^ 32 := by
    unfold commsVaddr at hceiling
    unfold kernelVaddr at hboundary
    omega
  have hallocation := alignUp_cache hround
  unfold loadKernelPayload
  rw [halloc]
  dsimp only
  rw [if_neg (not_not.mpr hpacked.load.symm), if_neg ?_,
    kernelBufferHolds_fill, hpacked.file]
  · set filled := (fillKernelBuffer kernelVaddr
      ((alignUp (decodeManifest manifest).kernelMemorySize
        cacheAlignment).toNat / 4) (loading.draw (input.draws 25))).draw
          (input.draws 30)
    obtain ⟨loaded, hload⟩ := loadKernel_total hread (image ++ rest)
      kernelVaddr image.length 0 filled
    have hfits : image.length ≤ (image ++ rest).length := by
      rw [List.length_append]
      exact Nat.le_add_right _ _
    -- no block below the kernel is of interest here: an empty one will do
    have hnone : ∀ percent, Clear 0 0 (input.draws percent) :=
      fun _ _ _ => .inr (Nat.zero_le _)
    have hbelow : 0 + 0 ≤ kernelVaddr := Nat.zero_le _
    obtain ⟨hbytes, -, -⟩ := loadKernel_ok hfits le_rfl (Nat.zero_le _) hdraws
      hnone hbelow rfl hload
    rw [List.take_left' rfl] at hbytes
    simp only [Bool.not_true, Bool.false_eq_true, if_false, hload, bind,
      Except.bind]
    rw [load_draw _ (hdraws 85)]
    rw [if_neg]
    · exact ⟨_, rfl⟩
    · rw [not_not]
      refine (congrArg digests.sha256 ?_).trans hpacked.kernelSha256.symm
      exact (load_store_apart (.inl le_rfl)).trans hbytes
  · rintro ⟨hdeny, hlt⟩
    subst hdeny
    have hpool : kernelCeiling true = displayPoolVaddr := rfl
    rw [hpool] at hboundary
    unfold kernelVaddr displayPoolVaddr at *
    omega

/-- A packed payload that is installed passes every check of the payload. -/
theorem loadPayload_packed
    (hpack : pack digests image dtb (kernelCeiling earlyDeny) = .ok manifest)
    (hinstalled : Installed input image dtb manifest) (memory : LoaderMemory) :
    ∃ loaded, loadPayload digests earlyDeny input memory = .ok loaded := by
  obtain ⟨memorySize, hpackable, hpacked⟩ := pack_ok hpack
  obtain ⟨metadataRest, hmetadata⟩ := hinstalled.metadata
  obtain ⟨linuxRest, hlinux⟩ := hinstalled.linux
  obtain ⟨dtbRest, hdtb⟩ := hinstalled.tree
  have hvalid := validateManifest_packed hpackable hpacked hmetadata
    hinstalled.readMetadata
  obtain ⟨⟨place, allocation, loading⟩, htree⟩ := loadDtb_packed
    hpackable.treeSize hpackable.magic hpacked hinstalled.readDtb
    hinstalled.dtbAlloc (scatter memory (input.draws 10))
  obtain ⟨⟨kernelAllocation, loaded⟩, hkernel⟩ := loadKernelPayload_packed
    hpackable hpacked hinstalled.readKernel hinstalled.kernelAlloc
    hinstalled.draws loading
  have hlinuxSize : ¬ (image ++ linuxRest).length <
      (decodeManifest manifest).kernelFileSize.toNat := by
    rw [hpacked.file, List.length_append]
    omega
  have hdtbSize : ¬ (dtb ++ dtbRest).length <
      (decodeManifest manifest).dtbSize.toNat := by
    rw [hpacked.tree, List.length_append]
    omega
  unfold loadPayload
  rw [hvalid, hlinux, hdtb]
  simp only [bind, Except.bind]
  rw [if_neg hlinuxSize, if_neg hdtbSize, htree]
  dsimp only
  rw [hkernel]
  exact ⟨_, rfl⟩

/-- The loader passes every check of a payload that the packer has packed for
its ceiling, whatever the files are. -/
theorem packed_payload_accepted (digests : Digests) (earlyDeny : Bool)
    (input : LoaderInput) (image dtb manifest : List Byte)
    (memory : LoaderMemory)
    (hpack : pack digests image dtb (kernelCeiling earlyDeny) = .ok manifest)
    (hinstalled : Installed input image dtb manifest) :
    ∃ loaded, loadPayload digests earlyDeny input memory = .ok loaded :=
  loadPayload_packed hpack hinstalled memory

def standardDigests : Digests where
  crc32 := Checksum.crc32
  sha256 := Checksum.sha256
  length_sha256 := Checksum.length_sha256

/-- An image of 64 bytes for 100 bytes of memory. -/
def smallImage : List Byte :=
  List.replicate 16 0#8 ++ le32 100#32 ++ List.replicate 28 0#8 ++
    riscvImageMagic ++ List.replicate 8 7#8

/-- A device tree of 40 bytes. -/
def smallDtb : List Byte :=
  fdtMagic ++ [0#8, 0#8, 0#8, 40#8] ++ List.replicate 32 9#8

def smallManifest : List Byte :=
  manifestPayload standardDigests smallImage 100 smallDtb ++
    le32 (standardDigests.crc32
      (manifestPayload standardDigests smallImage 100 smallDtb))

theorem pack_small : pack standardDigests smallImage smallDtb
    (kernelCeiling true) = .ok smallManifest := by
  decide +kernel

def smallHandoff : List (Nat × Byte) := [(commsVaddr, 0x44#8)]

/-- The small payload in partitions of any size, with a framebuffer on which
the progress is drawn. -/
def smallInput (metadata linux dtb : Nat) : LoaderInput where
  metadata := some (smallManifest ++ List.replicate metadata 0xff#8)
  linux := some (smallImage ++ List.replicate linux 0xff#8)
  dtb := some (smallDtb ++ List.replicate dtb 0xff#8)
  dtbAlloc := some 0x48001000
  kernelAlloc := some kernelVaddr
  draws := fun percent => [(0x48010000, BitVec.ofNat 8 percent)]
  mapped := some (loaderReserveSize, 0x1000)
  handoff := some smallHandoff

theorem smallInput_installed (metadata linux dtb : Nat) :
    Installed (smallInput metadata linux dtb) smallImage smallDtb
      smallManifest := by
  refine ⟨⟨_, rfl⟩, ⟨_, rfl⟩, ⟨_, rfl⟩, rfl, rfl, fun _ => rfl,
    ⟨_, rfl, by decide⟩, rfl, ?_⟩
  intro percent cell hcell
  obtain rfl := List.mem_singleton.mp hcell
  have hframe : 0x48010000 < kernelVaddr := by decide
  exact .inl hframe

theorem smallInput_accepted : ∃ loaded, loadPayload standardDigests true
    (smallInput 0 0 0) (fun _ => 0#8) = .ok loaded :=
  packed_payload_accepted standardDigests true (smallInput 0 0 0) smallImage
    smallDtb smallManifest _ pack_small (smallInput_installed 0 0 0)

end Micronux
