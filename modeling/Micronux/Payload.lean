/-
The payload of the loader: the manifest that the packer writes, and the part of
`app_main` that reads the manifest, the device tree and the kernel from flash
and checks them.  The hash functions are parameters; the packer's and the
loader's are taken to be the same.
-/
import Micronux.ByteMemory
import Micronux.DeviceService

namespace Micronux

/-- `esp_rom_crc32_le` from 0, and SHA-256. -/
structure Digests where
  crc32 : List Byte → Word
  sha256 : List Byte → List Byte
  length_sha256 : ∀ data, (sha256 data).length = 32

/-- `MICRONUX_KERNEL_VADDR` -/
def kernelVaddr : Nat := 0x48400000

/-- `MICRONUX_DISPLAY_POOL_VADDR` -/
def displayPoolVaddr : Nat := 0x49300000

/-- `MICRONUX_COMMS_VADDR` -/
def commsVaddr : Nat := 0x49f00000

/-- `MICRONUX_PSRAM_END` -/
def psramEnd : Nat := 0x4a000000

/-- `MICRONUX_LOADER_RESERVE_SIZE` -/
def loaderReserveSize : Nat := 0x00400000

/-- `MICRONUX_CACHE_ALIGNMENT` -/
def cacheAlignment : Word := 128#32

/-- `MICRONUX_KERNEL_READ_CHUNK` -/
def kernelReadChunk : Nat := 512 * 1024

/-- `sizeof(micronux_payload_v1_t)` -/
def payloadSize : Nat := 128

/-- `offsetof(micronux_payload_v1_t, crc32)` -/
def payloadCrcOffset : Nat := 124

def payloadMagic : Word := 0x33584e4d#32
def payloadAbiVersion : Word := 1#32
def payloadFlagDtbPresent : Word := 1#32

def fdtMagic : List Byte := [0xd0#8, 0x0d#8, 0xfe#8, 0xed#8]

/-- `micronux_payload_v1_t` -/
structure PayloadManifest where
  magic : Word
  abiVersion : Word
  structSize : Word
  flags : Word
  kernelLoadVaddr : Word
  kernelFileSize : Word
  kernelMemorySize : Word
  dtbSize : Word
  kernelSha256 : List Byte
  dtbSha256 : List Byte
  crc32 : Word
deriving DecidableEq

def decodeManifest (bytes : List Byte) : PayloadManifest where
  magic := wordAt bytes 0
  abiVersion := wordAt bytes 4
  structSize := wordAt bytes 8
  flags := wordAt bytes 12
  kernelLoadVaddr := wordAt bytes 16
  kernelFileSize := wordAt bytes 20
  kernelMemorySize := wordAt bytes 24
  dtbSize := wordAt bytes 28
  kernelSha256 := (bytes.drop 32).take 32
  dtbSha256 := (bytes.drop 64).take 32
  crc32 := wordAt bytes payloadCrcOffset

/-- The reasons of `fail`. -/
inductive LoadFailure where
  | metadataPartition
  | metadataRead
  | metadataValidation
  | metadataContract
  | kernelMemorySpan
  | linuxPartition
  | dtbPartition
  | dtbBufferAllocation
  | dtbRead
  | dtbMagic
  | payloadSha256
  | kernelBufferAllocation
  | kernelLoadAddress
  | kernelAllocationSpan
  | psramIntegrity
  | kernelRead
  | mmuTranslation
  | psramMapContract
  | handoff
deriving DecidableEq

/-- `align_up` -/
def alignUp (value alignment : Word) : Word :=
  (value + alignment - 1#32) &&& ~~~(alignment - 1#32)

/-- The ceiling of the kernel, with `CONFIG_MICRONUX_M7_EARLY_UMODE_DENY` and
without. -/
def kernelCeiling (earlyDeny : Bool) : Nat :=
  if earlyDeny then displayPoolVaddr else commsVaddr

/-- Where the calls of the loader get to: the partitions, whether reads of
them succeed, what the allocator returns, and the rest of the loader's writes
and checks. -/
structure LoaderInput where
  metadata : Option (List Byte)
  linux : Option (List Byte)
  dtb : Option (List Byte)
  readMetadata : Bool := true
  readDtb : Bool := true
  readKernel : Nat → Bool := fun _ => true
  dtbAlloc : Option Nat
  kernelAlloc : Option Nat
  /-- What `micronux_mipi_dsi_progress` draws at a percentage. -/
  draws : Nat → List (Nat × Byte) := fun _ => []
  /-- The physical addresses of the kernel and the device tree, in PSRAM. -/
  mapped : Option (Nat × Nat) := none
  /-- What the display handoff writes, if every check after the payload's
  passes. -/
  handoff : Option (List (Nat × Byte)) := none

/-- `validate_manifest` -/
def validateManifest (digests : Digests) (earlyDeny : Bool)
    (input : LoaderInput) : Except LoadFailure PayloadManifest :=
  match input.metadata with
  | none => .error .metadataPartition
  | some metadata =>
    let bytes := metadata.take payloadSize
    let payload := decodeManifest bytes
    if metadata.length < payloadSize then .error .metadataPartition
    else if !input.readMetadata then .error .metadataRead
    else if payload.magic ≠ payloadMagic ∨
        payload.abiVersion ≠ payloadAbiVersion ∨
        payload.structSize.toNat ≠ payloadSize ∨
        payload.crc32 ≠ digests.crc32 (bytes.take payloadCrcOffset) then
      .error .metadataValidation
    else if payload.flags ≠ payloadFlagDtbPresent ∨
        payload.kernelLoadVaddr.toNat ≠ kernelVaddr ∨
        payload.kernelFileSize = 0#32 ∨
        payload.kernelMemorySize < payload.kernelFileSize ∨
        payload.dtbSize < 40#32 then
      .error .metadataContract
    else if kernelCeiling earlyDeny <
        payload.kernelLoadVaddr.toNat + payload.kernelMemorySize.toNat then
      .error .kernelMemorySpan
    else .ok payload

abbrev LoaderMemory := Nat → Byte

/-- The pattern of `test_kernel_buffer`, in memory order. -/
def testPattern (index : Nat) : List Byte :=
  let word : Word :=
    0xa5a55a5a#32 ^^^ BitVec.ofNat 32 index * 0x9e3779b1#32
  [word.setWidth 8, (word >>> 8).setWidth 8, (word >>> 16).setWidth 8,
    (word >>> 24).setWidth 8]

/-- The memory, and the ranges written through the pointer to the kernel. -/
structure Loading where
  memory : LoaderMemory
  kernelWrites : List (Nat × Nat) := []

def Loading.writeKernel (loading : Loading) (address : Nat)
    (data : List Byte) : Loading where
  memory := ByteMemory.store loading.memory address data
  kernelWrites := (address, data.length) :: loading.kernelWrites

def Loading.draw (loading : Loading) (cells : List (Nat × Byte)) : Loading :=
  { loading with memory := ByteMemory.scatter loading.memory cells }

/-- The first loop of `test_kernel_buffer` -/
def fillKernelBuffer (kernel words : Nat) (loading : Loading) : Loading :=
  (List.range words).foldl (fun loading index =>
    loading.writeKernel (kernel + 4 * index) (testPattern index)) loading

/-- The second loop of `test_kernel_buffer` -/
def kernelBufferHolds (kernel words : Nat) (memory : LoaderMemory) : Bool :=
  (List.range words).all fun index =>
    ByteMemory.load memory (kernel + 4 * index) 4 == testPattern index

/-- `load_kernel` -/
def loadKernel (input : LoaderInput) (linux : List Byte) (kernel size : Nat)
    (offset : Nat) (loading : Loading) : Except LoadFailure Loading :=
  if offset < size then
    let chunk := min (size - offset) kernelReadChunk
    if input.readKernel offset then
      let loading :=
        loading.writeKernel (kernel + offset) ((linux.drop offset).take chunk)
      let loading := loading.draw
        (input.draws (30 + (offset + chunk) * 50 / size))
      loadKernel input linux kernel size (offset + chunk) loading
    else .error .kernelRead
  else .ok loading
termination_by size - offset
decreasing_by
  have hchunk : 0 < min (size - offset) kernelReadChunk := by
    rw [Nat.lt_min]
    exact ⟨by omega, by decide⟩
  omega

/-- What the loader has when it has checked the payload. -/
structure LoadedPayload where
  payload : PayloadManifest
  dtb : Nat
  dtbAllocation : Nat
  kernelAllocation : Nat
  loading : Loading

/-- `app_main`, the device tree. -/
def loadDtb (digests : Digests) (input : LoaderInput)
    (payload : PayloadManifest) (contents : List Byte)
    (memory : LoaderMemory) : Except LoadFailure (Nat × Nat × Loading) :=
  let size := payload.dtbSize.toNat
  let allocation := alignUp payload.dtbSize cacheAlignment
  match input.dtbAlloc with
  | none => .error .dtbBufferAllocation
  | some dtb =>
    if kernelVaddr ≤ dtb then .error .dtbBufferAllocation
    else if !input.readDtb then .error .dtbRead
    else
      let memory := ByteMemory.store memory dtb (contents.take size)
      let memory := ByteMemory.store memory (dtb + size)
        (List.replicate (allocation - payload.dtbSize).toNat 0#8)
      if ByteMemory.load memory dtb 4 ≠ fdtMagic then .error .dtbMagic
      else if digests.sha256 (ByteMemory.load memory dtb size) ≠
          payload.dtbSha256 then .error .payloadSha256
      else .ok (dtb, allocation.toNat, (⟨memory, []⟩ : Loading).draw
        (input.draws 20))

/-- `app_main`, the kernel. -/
def loadKernelPayload (digests : Digests) (earlyDeny : Bool)
    (input : LoaderInput) (payload : PayloadManifest) (contents : List Byte)
    (loading : Loading) : Except LoadFailure (Nat × Loading) :=
  let size := payload.kernelFileSize.toNat
  let allocation := alignUp payload.kernelMemorySize cacheAlignment
  match input.kernelAlloc with
  | none => .error .kernelBufferAllocation
  | some kernel =>
    if kernel ≠ payload.kernelLoadVaddr.toNat then .error .kernelLoadAddress
    else if earlyDeny = true ∧ displayPoolVaddr < kernel + allocation.toNat then
      .error .kernelAllocationSpan
    else
      let loading := fillKernelBuffer kernel (allocation.toNat / 4)
        (loading.draw (input.draws 25))
      if !kernelBufferHolds kernel (allocation.toNat / 4) loading.memory then
        .error .psramIntegrity
      else do
        let loading ← loadKernel input contents kernel size 0
          (loading.draw (input.draws 30))
        let loading := loading.writeKernel (kernel + size)
          (List.replicate (allocation - payload.kernelFileSize).toNat 0#8)
        let loading := loading.draw (input.draws 85)
        if digests.sha256 (ByteMemory.load loading.memory kernel size) ≠
            payload.kernelSha256 then .error .payloadSha256
        else .ok (allocation.toNat, loading.draw (input.draws 90))

/-- `app_main` up to and including the hash of the kernel. -/
def loadPayload (digests : Digests) (earlyDeny : Bool) (input : LoaderInput)
    (memory : LoaderMemory) : Except LoadFailure LoadedPayload := do
  let payload ← validateManifest digests earlyDeny input
  match input.linux, input.dtb with
  | none, _ => .error .linuxPartition
  | some linux, tree =>
    if linux.length < payload.kernelFileSize.toNat then
      .error .linuxPartition
    else
      match tree with
      | none => .error .dtbPartition
      | some contents =>
        if contents.length < payload.dtbSize.toNat then
          .error .dtbPartition
        else do
          let (dtb, dtbAllocation, loading) ← loadDtb digests input
            payload contents (ByteMemory.scatter memory (input.draws 10))
          let (kernelAllocation, loading) ← loadKernelPayload digests
            earlyDeny input payload linux loading
          .ok { payload, dtb, dtbAllocation, kernelAllocation, loading }

/-- `app_main` up to `micronux_handoff_jump`: the checks of the memory map and
the display handoff follow. -/
def appMain (digests : Digests) (earlyDeny : Bool) (input : LoaderInput)
    (memory : LoaderMemory) : Except LoadFailure LoadedPayload := do
  let loaded ← loadPayload digests earlyDeny input memory
  match input.mapped with
  | none => .error .mmuTranslation
  | some (kernelPaddr, dtbPaddr) =>
    if kernelPaddr ≠ loaderReserveSize ∨ loaderReserveSize ≤ dtbPaddr then
      .error .psramMapContract
    else
      let loading := (loaded.loading.draw (input.draws 92)).draw
        (input.draws 100)
      match input.handoff with
      | none => .error .handoff
      | some cells => .ok { loaded with loading := loading.draw cells }

end Micronux
