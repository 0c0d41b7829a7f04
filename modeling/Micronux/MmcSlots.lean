/-
The physical slots of the MMC controller.  A dual-slot node has a child for
each of its slots; initializing them may fail before a slot is registered,
after it, or at a later child.
-/
import Micronux.UserPool

namespace Micronux

/-- What the functions return: the errors of this driver, and those that it
passes on. -/
inductive MmcErrno where
  | einval
  | enomem
  | other (code : Nat)
deriving DecidableEq

/-- `struct dw_mci_slot`, which lies in the private part of its mmc host. -/
structure MciSlot where
  mmc : Nat
  id : Fin 2
deriving DecidableEq

/-- `struct dw_mci`, with what the mmc core knows: how many hosts were
allocated, which are added, and how often each was freed. -/
structure MciHost where
  slots : Fin 2 → Option MciSlot
  numSlots : Word
  slot : Option MciSlot
  allocated : Nat
  added : Nat → Bool
  frees : Nat → Nat

def MciHost.zeroed : MciHost where
  slots := fun _ => none
  numSlots := 0
  slot := none
  allocated := 0
  added := fun _ => false
  frees := fun _ => 0

/-- A node of the device tree with the answers to the calls for it.  `setup` is
an error between the allocation of the mmc host and the registration of the
slot; `requests` are the slots whose requests start before the node is
reached. -/
structure SlotNode where
  reg : Option Word
  slotId : Option Word
  allocates : Bool
  setup : Option MmcErrno
  add : Option MmcErrno
  requests : List (Fin 2)

/-- `mmc_alloc_host` -/
def MciHost.mmcAllocHost (host : MciHost) : MciHost :=
  { host with allocated := host.allocated + 1 }

/-- `mmc_free_host` -/
def MciHost.mmcFreeHost (host : MciHost) (mmc : Nat) : MciHost :=
  { host with frees := Function.update host.frees mmc (host.frees mmc + 1) }

/-- `mmc_add_host` where it succeeds -/
def MciHost.mmcAddHost (host : MciHost) (mmc : Nat) : MciHost :=
  { host with added := Function.update host.added mmc true }

/-- `mmc_remove_host` -/
def MciHost.mmcRemoveHost (host : MciHost) (mmc : Nat) : MciHost :=
  { host with added := Function.update host.added mmc false }

/-- The registration of a slot in `dw_mci_init_slot`. -/
def MciHost.register (host : MciHost) (slot : MciSlot) : MciHost :=
  { host with
    slots := Function.update host.slots slot.id (some slot)
    numSlots := host.numSlots + 1
    slot := if host.slot = none then some slot else host.slot }

/-- The label `err_slot_registered`, and the same lines of
`dw_mci_cleanup_slot`. -/
def MciHost.unregister (host : MciHost) (slot : MciSlot) : MciHost :=
  { host with
    slots := Function.update host.slots slot.id none
    numSlots := host.numSlots - 1
    slot := if host.slot = some slot then none else host.slot }

/-- `__dw_mci_start_request` for requests of the given slots, where they are
registered. -/
def MciHost.startRequests (host : MciHost) (requests : List (Fin 2)) :
    MciHost :=
  requests.foldl (fun host index =>
    match host.slots index with
    | none => host
    | some slot => { host with slot := some slot }) host

/-- The slot of a number, which `slot_id > 1` refuses. -/
def slotIndex (slotId : Word) : Option (Fin 2) :=
  if hslot : slotId.toNat > 1 then none
  else some ⟨slotId.toNat, Nat.lt_succ_of_le (Nat.le_of_not_gt hslot)⟩

/-- `dw_mci_init_slot` -/
def dwMciInitSlot (node : SlotNode) (slotId : Word) (childNode : Bool)
    (host : MciHost) : MciHost × Except MmcErrno Unit :=
  if node.allocates then
    let mmc := host.allocated
    let host := host.mmcAllocHost
    let slotId := if childNode then slotId else node.slotId.getD slotId
    match slotIndex slotId, node.setup with
    | none, _ => (host.mmcFreeHost mmc, .error .einval)
    | some _, some errno => (host.mmcFreeHost mmc, .error errno)
    | some index, none =>
      let slot : MciSlot := ⟨mmc, index⟩
      if host.slots index ≠ none then
        (host.mmcFreeHost mmc, .error .einval)
      else
        let host := host.register slot
        match node.add with
        | some errno =>
          ((host.unregister slot).mmcFreeHost mmc, .error errno)
        | none => (host.mmcAddHost mmc, .ok ())
  else (host, .error .enomem)

/-- `dw_mci_cleanup_slot` -/
def dwMciCleanupSlot (host : MciHost) (slot : MciSlot) : MciHost :=
  ((host.mmcRemoveHost slot.mmc).unregister slot).mmcFreeHost slot.mmc

/-- The body of the loop of `dw_mci_cleanup_slots`, behind the requests that
still start. -/
def dwMciCleanupEntry (requests : Fin 2 → List (Fin 2)) (host : MciHost)
    (index : Fin 2) : MciHost :=
  let host := host.startRequests (requests index)
  match host.slots index with
  | none => host
  | some slot => dwMciCleanupSlot host slot

/-- `dw_mci_cleanup_slots` -/
def dwMciCleanupSlots (requests : Fin 2 → List (Fin 2)) (host : MciHost) :
    MciHost :=
  (List.finRange 2).foldl (dwMciCleanupEntry requests) host

/-- The loop over the available children of a dual-slot node. -/
def dwMciInitChildren : List SlotNode → MciHost → MciHost × Except MmcErrno Unit
  | [], host => (host, .ok ())
  | child :: rest, host =>
    let host := host.startRequests child.requests
    match child.reg with
    | none => (host, .error .einval)
    | some slotId =>
      if slotId.toNat ≥ 2 then (host, .error .einval)
      else
        match dwMciInitSlot child slotId true host with
        | (host, .error errno) => (host, .error errno)
        | (host, .ok ()) => dwMciInitChildren rest host

/-- The node of the controller.  `dualSlot` is the condition of `multi_slot`,
and the last two fields are the requests that start behind the last child and
during a cleanup. -/
structure MciNode where
  dualSlot : Bool
  allowSingleSlot : Bool
  self : SlotNode
  children : List SlotNode
  requests : List (Fin 2)
  cleanupRequests : Fin 2 → List (Fin 2)

/-- `dw_mci_init_slots` -/
def dwMciInitSlots (node : MciNode) (host : MciHost) :
    MciHost × Except MmcErrno Unit :=
  if node.dualSlot then
    match dwMciInitChildren node.children host with
    | (host, .error errno) =>
      (dwMciCleanupSlots node.cleanupRequests host, .error errno)
    | (host, .ok ()) =>
      let host := host.startRequests node.requests
      if host.numSlots = 0 ∨
          (host.numSlots ≠ 2 ∧ node.allowSingleSlot = false) then
        (dwMciCleanupSlots node.cleanupRequests host, .error .einval)
      else (host, .ok ())
  else dwMciInitSlot node.self 0 false host

def MciHost.registered (host : MciHost) : Nat :=
  ((List.finRange 2).filter fun index => (host.slots index).isSome).length

def MciHost.Owns (host : MciHost) (mmc : Nat) : Prop :=
  ∃ index slot, host.slots index = some slot ∧ slot.mmc = mmc

/-- What holds between any two steps: the entries, their number, the current
slot and the mmc hosts agree. -/
structure SlotsInv (host : MciHost) : Prop where
  id : ∀ {index slot}, host.slots index = some slot → slot.id = index
  added : ∀ {index slot}, host.slots index = some slot →
    host.added slot.mmc = true
  apart : ∀ {first second left right}, host.slots first = some left →
    host.slots second = some right → left.mmc = right.mmc → first = second
  number : host.numSlots = BitVec.ofNat 32 host.registered
  current : ∀ {slot}, host.slot = some slot →
    ∃ index, host.slots index = some slot
  held : ∀ {mmc}, host.Owns mmc → mmc < host.allocated ∧ host.frees mmc = 0
  freed : ∀ {mmc}, mmc < host.allocated → ¬ host.Owns mmc → host.frees mmc = 1
  beyond : ∀ {mmc}, host.allocated ≤ mmc → host.frees mmc = 0

theorem zeroed_inv : SlotsInv .zeroed where
  id := fun hslot => (nomatch hslot)
  added := fun hslot => (nomatch hslot)
  apart := fun hslot => (nomatch hslot)
  number := rfl
  current := fun hslot => (nomatch hslot)
  held := fun ⟨_, _, hslot, _⟩ => (nomatch hslot)
  freed := fun hmmc => absurd hmmc (Nat.not_lt_zero _)
  beyond := fun _ => rfl

variable {host : MciHost}

/-- A request selects a slot that is registered. -/
theorem SlotsInv.startRequests (hinv : SlotsInv host)
    (requests : List (Fin 2)) : SlotsInv (host.startRequests requests) := by
  unfold MciHost.startRequests
  induction requests generalizing host with
  | nil => exact hinv
  | cons index rest ih =>
    rw [List.foldl_cons]
    apply ih
    split
    · exact hinv
    · next slot hslot =>
        exact { hinv with
          current := fun hsame => ⟨index, hslot.trans hsame⟩ }

theorem SlotsInv.freed_again (hinv : SlotsInv host) :
    SlotsInv (host.mmcAllocHost.mmcFreeHost host.allocated) where
  id := hinv.id
  added := hinv.added
  apart := hinv.apart
  number := hinv.number
  current := hinv.current
  held := fun howns => by
    obtain ⟨hmmc, hfrees⟩ := hinv.held howns
    exact ⟨Nat.lt_succ_of_lt hmmc,
      (Function.update_of_ne (Nat.ne_of_lt hmmc) _ _).trans hfrees⟩
  freed := fun {mmc} hmmc howns => by
    rcases Nat.lt_succ_iff_lt_or_eq.mp hmmc with hold | rfl
    · exact (Function.update_of_ne (Nat.ne_of_lt hold) _ _).trans
        (hinv.freed hold howns)
    · exact (Function.update_self _ _ _).trans
        (congrArg Nat.succ (hinv.beyond (Nat.le_refl _)))
  beyond := fun hmmc => (Function.update_of_ne
    (Nat.ne_of_gt (Nat.lt_of_succ_le hmmc)) _ _).trans
      (hinv.beyond (Nat.le_of_succ_le hmmc))

/-- A slot whose mmc host could not be added leaves no trace. -/
theorem unregister_register {slot : MciSlot}
    (hfree : host.slots slot.id = none) (hother : host.slot ≠ some slot) :
    (host.register slot).unregister slot = host := by
  have hslots : Function.update (Function.update host.slots slot.id
      (some slot)) slot.id none = host.slots := by
    rw [Function.update_idem, ← hfree, Function.update_eq_self]
  have hnumber : host.numSlots + 1 - 1 = host.numSlots :=
    BitVec.add_sub_cancel _ _
  have hcurrent : (if (if host.slot = none then some slot else host.slot) =
      some slot then none
      else if host.slot = none then some slot else host.slot) = host.slot := by
    by_cases hnone : host.slot = none
    · rw [if_pos hnone, if_pos rfl, hnone]
    · rw [if_neg hnone, if_neg hother]
  unfold MciHost.register MciHost.unregister
  rw [hslots, hnumber, hcurrent]

theorem registered_register {slot : MciSlot}
    (hfree : host.slots slot.id = none) :
    (host.register slot).registered = host.registered + 1 := by
  unfold MciHost.registered MciHost.register
  generalize slot.id = index at hfree ⊢
  match index with
  | 0 =>
    cases hsecond : host.slots 1 <;>
      simp [List.finRange_succ, hfree, hsecond]
  | 1 =>
    cases hfirst : host.slots 0 <;>
      simp [List.finRange_succ, hfree, hfirst]

theorem registered_unregister {slot : MciSlot}
    (hslot : host.slots slot.id = some slot) :
    (host.unregister slot).registered + 1 = host.registered := by
  unfold MciHost.registered MciHost.unregister
  generalize slot.id = index at hslot ⊢
  match index with
  | 0 =>
    cases hsecond : host.slots 1 <;>
      simp [List.finRange_succ, hslot, hsecond]
  | 1 =>
    cases hfirst : host.slots 0 <;>
      simp [List.finRange_succ, hslot, hfirst]

variable {index : Fin 2}

theorem update_eq_some {slots : Fin 2 → Option MciSlot} {place : Fin 2}
    {entry : Option MciSlot} {slot : MciSlot}
    (hslot : Function.update slots place entry index = some slot) :
    index = place ∧ entry = some slot ∨
      index ≠ place ∧ slots index = some slot := by
  by_cases hplace : index = place
  · rw [hplace, Function.update_self] at hslot
    exact .inl ⟨hplace, hslot⟩
  · rw [Function.update_of_ne hplace] at hslot
    exact .inr ⟨hplace, hslot⟩

theorem SlotsInv.lt_allocated (hinv : SlotsInv host) {slot : MciSlot}
    (hslot : host.slots index = some slot) :
    slot.mmc < host.allocated :=
  (hinv.held ⟨index, slot, hslot, rfl⟩).1

section

variable {slot : MciSlot}

/-- The other entries stay where a slot is registered. -/
theorem entry_register (hfree : host.slots slot.id = none) {other : MciSlot}
    (hentry : host.slots index = some other) :
    (host.register slot).slots index = some other := by
  have hplace : index ≠ slot.id := by
    rintro rfl
    exact absurd (hfree.symm.trans hentry) (by simp)
  exact (Function.update_of_ne hplace _ _).trans hentry

theorem owns_register (hfree : host.slots slot.id = none) {mmc : Nat} :
    (host.register slot).Owns mmc ↔ mmc = slot.mmc ∨ host.Owns mmc := by
  constructor
  · rintro ⟨index, other, hentry, rfl⟩
    rcases update_eq_some hentry with ⟨-, hsame⟩ | ⟨-, hold⟩
    · exact .inl (congrArg MciSlot.mmc (Option.some.inj hsame)).symm
    · exact .inr ⟨index, other, hold, rfl⟩
  · rintro (rfl | ⟨index, other, hentry, hmmc⟩)
    · exact ⟨slot.id, slot, Function.update_self _ _ _, rfl⟩
    · exact ⟨index, other, entry_register hfree hentry, hmmc⟩

/-- The other entries stay where a slot is removed. -/
theorem entry_unregister (hslot : host.slots slot.id = some slot)
    {other : MciSlot} (hentry : host.slots index = some other)
    (hother : other ≠ slot) :
    (host.unregister slot).slots index = some other := by
  have hplace : index ≠ slot.id := by
    rintro rfl
    exact hother (Option.some.inj (hentry.symm.trans hslot))
  exact (Function.update_of_ne hplace _ _).trans hentry

theorem SlotsInv.owns_unregister (hinv : SlotsInv host)
    (hslot : host.slots slot.id = some slot) {mmc : Nat} :
    (host.unregister slot).Owns mmc ↔ host.Owns mmc ∧ mmc ≠ slot.mmc := by
  constructor
  · rintro ⟨index, other, hentry, rfl⟩
    rcases update_eq_some hentry with ⟨-, hnone⟩ | ⟨hplace, hold⟩
    · cases hnone
    · exact ⟨⟨index, other, hold, rfl⟩,
        fun hsame => hplace (hinv.apart hold hslot hsame)⟩
  · rintro ⟨⟨index, other, hentry, rfl⟩, hmmc⟩
    exact ⟨index, other, entry_unregister hslot hentry
      fun hsame => hmmc (congrArg MciSlot.mmc hsame), rfl⟩

/-- A slot that is registered with an mmc host of its own. -/
theorem SlotsInv.register (hinv : SlotsInv host)
    (hmmc : slot.mmc = host.allocated) (hfree : host.slots slot.id = none) :
    SlotsInv ((host.mmcAllocHost.register slot).mmcAddHost slot.mmc) where
  id := fun hentry => by
    rcases update_eq_some hentry with ⟨rfl, hsame⟩ | ⟨-, hold⟩
    · exact congrArg MciSlot.id (Option.some.inj hsame).symm
    · exact hinv.id hold
  added := fun hentry => by
    rcases update_eq_some hentry with ⟨-, hsame⟩ | ⟨-, hold⟩
    · rw [← Option.some.inj hsame]
      exact Function.update_self _ _ _
    · have hlt := hinv.lt_allocated hold
      exact (Function.update_of_ne (by omega) _ _).trans (hinv.added hold)
  apart := fun hfirst hsecond hsame => by
    rcases update_eq_some hfirst with ⟨rfl, hnew⟩ | ⟨-, hold⟩
    · rcases update_eq_some hsecond with ⟨rfl, -⟩ | ⟨-, hold⟩
      · rfl
      · have hlt := hinv.lt_allocated hold
        rw [← Option.some.inj hnew] at hsame
        omega
    · rcases update_eq_some hsecond with ⟨rfl, hnew⟩ | ⟨-, hold'⟩
      · have hlt := hinv.lt_allocated hold
        rw [← Option.some.inj hnew] at hsame
        omega
      · exact hinv.apart hold hold' hsame
  number := by
    have hcount : (host.mmcAllocHost.register slot).registered =
        host.registered + 1 := registered_register hfree
    have hnumber : host.numSlots + 1 =
        BitVec.ofNat 32 (host.registered + 1) := by
      rw [hinv.number, BitVec.ofNat_add]
      rfl
    exact hnumber.trans (congrArg (BitVec.ofNat 32) hcount.symm)
  current := fun {other} hother => by
    have hchosen : (if host.slot = none then some slot else host.slot) =
        some other := hother
    by_cases hnone : host.slot = none
    · rw [if_pos hnone] at hchosen
      exact ⟨slot.id, (Function.update_self _ _ _).trans hchosen⟩
    · rw [if_neg hnone] at hchosen
      obtain ⟨index, hentry⟩ := hinv.current hchosen
      exact ⟨index, entry_register hfree hentry⟩
  held := fun howns => by
    rcases (owns_register hfree).mp howns with rfl | hold
    · rw [hmmc]
      exact ⟨Nat.lt_succ_self _, hinv.beyond (Nat.le_refl _)⟩
    · obtain ⟨hlt, hfrees⟩ := hinv.held hold
      exact ⟨Nat.lt_succ_of_lt hlt, hfrees⟩
  freed := fun {mmc} hlt howns => by
    have hnew : mmc ≠ host.allocated := fun hsame =>
      howns ((owns_register hfree).mpr (.inl (hsame.trans hmmc.symm)))
    exact hinv.freed (Nat.lt_of_le_of_ne (Nat.le_of_lt_succ hlt) hnew)
      fun hold => howns ((owns_register hfree).mpr (.inr hold))
  beyond := fun hmmc => hinv.beyond (Nat.le_of_succ_le hmmc)

/-- A slot that is removed gives its mmc host back. -/
theorem SlotsInv.cleanupSlot (hinv : SlotsInv host)
    (hslot : host.slots slot.id = some slot) :
    SlotsInv (dwMciCleanupSlot host slot) where
  id := fun hentry => by
    rcases update_eq_some hentry with ⟨-, hnone⟩ | ⟨-, hold⟩
    · cases hnone
    · exact hinv.id hold
  added := fun hentry => by
    rcases update_eq_some hentry with ⟨-, hnone⟩ | ⟨hplace, hold⟩
    · cases hnone
    · exact (Function.update_of_ne
        (fun hsame => hplace (hinv.apart hold hslot hsame)) _ _).trans
          (hinv.added hold)
  apart := fun hfirst hsecond hsame => by
    rcases update_eq_some hfirst with ⟨-, hnone⟩ | ⟨-, hold⟩
    · cases hnone
    · rcases update_eq_some hsecond with ⟨-, hnone⟩ | ⟨-, hold'⟩
      · cases hnone
      · exact hinv.apart hold hold' hsame
  number := by
    have hcount : (dwMciCleanupSlot host slot).registered + 1 =
        host.registered := registered_unregister hslot
    have hnumber : host.numSlots - 1 =
        BitVec.ofNat 32 (dwMciCleanupSlot host slot).registered := by
      rw [hinv.number, ← hcount, BitVec.ofNat_add]
      exact BitVec.add_sub_cancel _ _
    exact hnumber
  current := fun {other} hother => by
    have hchosen : (if host.slot = some slot then none else host.slot) =
        some other := hother
    by_cases hgone : host.slot = some slot
    · rw [if_pos hgone] at hchosen
      cases hchosen
    · rw [if_neg hgone] at hchosen
      obtain ⟨index, hentry⟩ := hinv.current hchosen
      exact ⟨index, entry_unregister hslot hentry fun hsame =>
        hgone (hchosen.trans (congrArg some hsame))⟩
  held := fun howns => by
    obtain ⟨hold, hmmc⟩ := (hinv.owns_unregister hslot).mp howns
    obtain ⟨hlt, hfrees⟩ := hinv.held hold
    exact ⟨hlt, (Function.update_of_ne hmmc _ _).trans hfrees⟩
  freed := fun {mmc} hlt howns => by
    by_cases hmmc : mmc = slot.mmc
    · have hfrees := (hinv.held ⟨slot.id, slot, hslot, rfl⟩).2
      rw [hmmc]
      exact (Function.update_self _ _ _).trans (congrArg Nat.succ hfrees)
    · refine (Function.update_of_ne hmmc _ _).trans (hinv.freed hlt ?_)
      exact fun hold =>
        howns ((hinv.owns_unregister hslot).mpr ⟨hold, hmmc⟩)
  beyond := fun {mmc} hmmc => by
    have hlt := Nat.lt_of_lt_of_le (hinv.lt_allocated hslot) hmmc
    exact (Function.update_of_ne (Nat.ne_of_gt hlt) _ _).trans
      (hinv.beyond hmmc)

end

/-- As long as nothing is cleaned up, the current slot is null only if there is
no slot. -/
structure SlotsReady (host : MciHost) : Prop extends SlotsInv host where
  chosen : ∀ {index slot}, host.slots index = some slot → host.slot ≠ none

theorem startRequests_slots (host : MciHost) (requests : List (Fin 2)) :
    (host.startRequests requests).slots = host.slots := by
  unfold MciHost.startRequests
  induction requests generalizing host with
  | nil => rfl
  | cons index rest ih =>
    rw [List.foldl_cons, ih]
    split <;> rfl

theorem startRequests_slot_ne_none (hslot : host.slot ≠ none)
    (requests : List (Fin 2)) : (host.startRequests requests).slot ≠ none := by
  unfold MciHost.startRequests
  induction requests generalizing host with
  | nil => exact hslot
  | cons index rest ih =>
    rw [List.foldl_cons]
    apply ih
    split
    · exact hslot
    · simp

theorem SlotsReady.startRequests (hready : SlotsReady host)
    (requests : List (Fin 2)) : SlotsReady (host.startRequests requests) where
  toSlotsInv := hready.toSlotsInv.startRequests requests
  chosen := fun {index slot} hentry => by
    rw [startRequests_slots] at hentry
    exact startRequests_slot_ne_none (hready.chosen hentry) requests

theorem register_slot_ne_none (host : MciHost) (slot : MciSlot) :
    (host.register slot).slot ≠ none := by
  unfold MciHost.register
  split
  · simp
  · assumption

theorem SlotsReady.initSlot (hready : SlotsReady host) (node : SlotNode)
    (slotId : Word) (childNode : Bool) :
    SlotsReady (dwMciInitSlot node slotId childNode host).1 := by
  have hagain : SlotsReady (host.mmcAllocHost.mmcFreeHost host.allocated) :=
    ⟨hready.freed_again, hready.chosen⟩
  unfold dwMciInitSlot
  split
  · dsimp only
    split
    · exact hagain
    · exact hagain
    · next index _ _ =>
        split
        · exact hagain
        · next hentry =>
            have hfree : host.slots index = none := not_not.mp hentry
            split
            · have hother : host.slot ≠ some ⟨host.allocated, index⟩ := by
                intro hsame
                obtain ⟨_, hheld⟩ := hready.current hsame
                exact absurd (hready.lt_allocated hheld) (Nat.lt_irrefl _)
              have hundone : (host.mmcAllocHost.register
                  ⟨host.allocated, index⟩).unregister ⟨host.allocated, index⟩ =
                    host.mmcAllocHost := unregister_register hfree hother
              rw [hundone]
              exact hagain
            · exact ⟨hready.register rfl hfree,
                fun _ => register_slot_ne_none _ _⟩
  · exact hready

theorem SlotsReady.initChildren (hready : SlotsReady host)
    (children : List SlotNode) :
    SlotsReady (dwMciInitChildren children host).1 := by
  induction children generalizing host with
  | nil => exact hready
  | cons child rest ih =>
    have hstarted := hready.startRequests child.requests
    rw [dwMciInitChildren]
    split
    · exact hstarted
    · next slotId _ =>
        split
        · exact hstarted
        · have hinit := hstarted.initSlot child slotId true
          split
          · next hresult =>
              rw [hresult] at hinit
              exact hinit
          · next hresult =>
              rw [hresult] at hinit
              exact ih hinit

/-- One turn of the cleanup empties one entry. -/
theorem SlotsInv.cleanupEntry (hinv : SlotsInv host)
    (requests : Fin 2 → List (Fin 2)) (index : Fin 2) :
    SlotsInv (dwMciCleanupEntry requests host index) ∧
      (dwMciCleanupEntry requests host index).slots =
        Function.update host.slots index none := by
  have hstarted := hinv.startRequests (requests index)
  have hslots := startRequests_slots host (requests index)
  unfold dwMciCleanupEntry
  dsimp only
  split
  · next hnone =>
      refine ⟨hstarted, ?_⟩
      rw [hslots] at hnone
      rw [hslots, ← hnone, Function.update_eq_self]
  · next slot hentry =>
      obtain rfl := hstarted.id hentry
      refine ⟨hstarted.cleanupSlot hentry, ?_⟩
      rw [← hslots]
      rfl

/-- The cleanup empties every entry. -/
theorem SlotsInv.cleanupSlots (hinv : SlotsInv host)
    (requests : Fin 2 → List (Fin 2)) :
    SlotsInv (dwMciCleanupSlots requests host) ∧
      ∀ index, (dwMciCleanupSlots requests host).slots index = none := by
  obtain ⟨hfirst, hslots⟩ := hinv.cleanupEntry requests 0
  obtain ⟨hsecond, hboth⟩ := hfirst.cleanupEntry requests 1
  refine ⟨hsecond, fun index => ?_⟩
  have hentries : (dwMciCleanupSlots requests host).slots =
      Function.update (Function.update host.slots 0 none) 1 none := by
    rw [← hslots, ← hboth]
    rfl
  rw [hentries]
  match index with
  | 0 | 1 => rfl

/-- What the failed call leaves behind. -/
structure SlotsReleased (host : MciHost) : Prop where
  entries : ∀ index, host.slots index = none
  current : host.slot = none
  number : host.numSlots = 0
  freedOnce : ∀ mmc < host.allocated, host.frees mmc = 1

theorem SlotsInv.released (hinv : SlotsInv host)
    (hentries : ∀ index, host.slots index = none) : SlotsReleased host where
  entries := hentries
  current := by
    cases hslot : host.slot with
    | none => rfl
    | some slot =>
      obtain ⟨index, hentry⟩ := hinv.current hslot
      exact absurd ((hentries index).symm.trans hentry) (by simp)
  number := by
    have hcount : host.registered = 0 := by
      simp [MciHost.registered, hentries]
    rw [hinv.number, hcount]
    rfl
  freedOnce := fun mmc hmmc => hinv.freed hmmc fun ⟨index, slot, hentry, _⟩ =>
    absurd ((hentries index).symm.trans hentry) (by simp)

/-- What the successful call leaves behind. -/
structure SlotsRegistered (node : MciNode) (host : MciHost) : Prop where
  number : host.numSlots = BitVec.ofNat 32 host.registered
  entries : ∀ index slot, host.slots index = some slot →
    slot.id = index ∧ host.added slot.mmc = true
  current : ∃ index slot, host.slots index = some slot ∧ host.slot = some slot
  profile : host.numSlots = 2 ∨
    (node.allowSingleSlot = true ∧ host.numSlots = 1)

theorem registered_le_two (host : MciHost) : host.registered ≤ 2 :=
  (List.length_filter_le _ _).trans (Nat.le_of_eq (List.length_finRange))

/-- The check behind the loop lets one or two slots through. -/
theorem SlotsReady.registered {node : MciNode} (hready : SlotsReady host)
    (hprofile : ¬ (host.numSlots = 0 ∨
      (host.numSlots ≠ 2 ∧ node.allowSingleSlot = false))) :
    SlotsRegistered node host := by
  have hnumber := hready.number
  have hle := registered_le_two host
  obtain ⟨hnonzero, hsingle⟩ := not_or.mp hprofile
  have hsome : host.registered ≠ 0 := by
    intro hzero
    rw [hzero] at hnumber
    exact hnonzero hnumber
  obtain ⟨index, hindex⟩ := List.length_pos_iff_exists_mem.mp
    (Nat.pos_of_ne_zero hsome)
  obtain ⟨slot, hentry⟩ :=
    Option.isSome_iff_exists.mp (List.mem_filter.mp hindex).2
  obtain ⟨current, hcurrent⟩ :=
    Option.ne_none_iff_exists'.mp (hready.chosen hentry)
  obtain ⟨place, hplace⟩ := hready.current hcurrent
  refine ⟨hnumber, fun index slot hslot =>
    ⟨hready.id hslot, hready.added hslot⟩,
    ⟨place, current, hplace, hcurrent⟩, ?_⟩
  by_cases htwo : host.numSlots = 2
  · exact .inl htwo
  · have hone : host.registered = 1 := by
      by_contra hother
      have hboth : host.registered = 2 := by omega
      exact htwo (hnumber.trans (congrArg (BitVec.ofNat 32) hboth))
    have hallowed : node.allowSingleSlot = true :=
      Bool.of_not_eq_false fun hfalse => hsingle ⟨htwo, hfalse⟩
    exact .inr ⟨hallowed, hnumber.trans (congrArg (BitVec.ofNat 32) hone)⟩

/-- For every list of children and every failure, the slots of a dual-slot node
are all registered or all released. -/
theorem dwMciInitSlots_all_or_nothing (node : MciNode)
    (hdual : node.dualSlot = true) :
    ((dwMciInitSlots node .zeroed).2 = .ok () →
      SlotsRegistered node (dwMciInitSlots node .zeroed).1) ∧
    ∀ errno, (dwMciInitSlots node .zeroed).2 = .error errno →
      SlotsReleased (dwMciInitSlots node .zeroed).1 := by
  have hzeroed : SlotsReady .zeroed :=
    ⟨zeroed_inv, fun hslot => (nomatch hslot)⟩
  have hchildren := hzeroed.initChildren node.children
  have hreleased {host : MciHost} (hinv : SlotsInv host) :
      SlotsReleased (dwMciCleanupSlots node.cleanupRequests host) :=
    have hcleaned := hinv.cleanupSlots node.cleanupRequests
    hcleaned.1.released hcleaned.2
  unfold dwMciInitSlots
  rw [if_pos hdual]
  split
  · next host errno hresult =>
      rw [hresult] at hchildren
      exact ⟨fun hok => (nomatch hok),
        fun _ _ => hreleased hchildren.toSlotsInv⟩
  · next host hresult =>
      rw [hresult] at hchildren
      have hstarted := hchildren.startRequests node.requests
      dsimp only
      split
      · exact ⟨fun hok => (nomatch hok),
          fun _ _ => hreleased hstarted.toSlotsInv⟩
      · next hprofile =>
          exact ⟨fun _ => hstarted.registered hprofile,
            fun _ herror => (nomatch herror)⟩

def workingChild (slotId : Word) : SlotNode :=
  ⟨some slotId, none, true, none, none, []⟩

def dualSlotNode (children : List SlotNode) : MciNode :=
  ⟨true, false, workingChild 0, children, [], fun _ => []⟩

/-- Both slots come up; a second child for slot 0 takes the first one down
again. -/
theorem dwMciInitSlots_two_children :
    ((dwMciInitSlots (dualSlotNode [workingChild 1, workingChild 0])
        .zeroed).2 = .ok () ∧
      SlotsRegistered (dualSlotNode [workingChild 1, workingChild 0])
        (dwMciInitSlots (dualSlotNode [workingChild 1, workingChild 0])
          .zeroed).1) ∧
    (dwMciInitSlots (dualSlotNode [workingChild 0, workingChild 0])
        .zeroed).2 = .error .einval ∧
      SlotsReleased
        (dwMciInitSlots (dualSlotNode [workingChild 0, workingChild 0])
          .zeroed).1 :=
  ⟨⟨rfl, (dwMciInitSlots_all_or_nothing _ rfl).1 rfl⟩, rfl,
    (dwMciInitSlots_all_or_nothing _ rfl).2 _ rfl⟩

end Micronux
