/-
The physical memory protection of an RV32 hart with sixteen entries, as user
mode sees it: how a pmpcfg byte and a pmpaddr register decode to a range of
byte addresses at a granularity of `2 ^ (grain + 2)` bytes, and that the
lowest-numbered entry that covers an address decides about it.
-/
import Mathlib.Algebra.Order.Ring.Nat
import Mathlib.Data.Fin.Tuple.Basic

namespace Pmp

inductive Access where
  | read
  | write
  | exec
deriving Repr, DecidableEq

/-- The field A of a configuration byte. -/
inductive Mode where
  | off
  | tor
  | na4
  | napot
deriving Repr, DecidableEq

def mode (cfg : BitVec 8) : Mode :=
  match cfg.toNat / 8 % 4 with
  | 0 => .off
  | 1 => .tor
  | 2 => .na4
  | _ => .napot

def grants (cfg : BitVec 8) : Access → Bool
  | .read => cfg.getLsbD 0
  | .write => cfg.getLsbD 1
  | .exec => cfg.getLsbD 2

instance neZeroCfg : NeZero (4 : Nat) := ⟨by decide⟩

instance neZeroEntries : NeZero (16 : Nat) := ⟨by decide⟩

inductive Csr where
  | cfg (index : Fin 4)
  | addr (entry : Fin 16)
deriving Repr, DecidableEq

/-- What the registers hold.  Reads of a pmpaddr register go through
`Registers.read`. -/
structure Registers where
  cfg : Fin 4 → BitVec 32
  addr : Fin 16 → BitVec 32

namespace Registers

def get (regs : Registers) : Csr → BitVec 32
  | .cfg index => regs.cfg index
  | .addr entry => regs.addr entry

def entryCfg (regs : Registers) (entry : Fin 16) : BitVec 8 :=
  (regs.cfg ⟨entry / 4, by omega⟩).extractLsb' (8 * (entry % 4)) 8

section Decode

variable (grain : Nat)

/-- The low bits of a pmpaddr register read as zeros in the modes off and
TOR, and as ones in the naturally aligned modes. -/
def read (regs : Registers) : Csr → BitVec 32
  | .cfg index => regs.cfg index
  | .addr entry =>
    match mode (regs.entryCfg entry) with
    | .off | .tor => regs.addr entry >>> grain <<< grain
    | .na4 | .napot =>
      regs.addr entry >>> (grain - 1) <<< (grain - 1) +
        BitVec.ofNat 32 (2 ^ (grain - 1) - 1)

end Decode

end Registers

/-- The number of ones at the low end, at most `fuel`. -/
def trailingOnes : Nat → Nat → Nat
  | 0, _ => 0
  | fuel + 1, value =>
    if value % 2 = 1 then trailingOnes fuel (value / 2) + 1 else 0

/-- The first byte of a naturally aligned range and the byte behind it. -/
def napotRegion (value : BitVec 32) : Nat × Nat :=
  let order := trailingOnes 32 value.toNat
  let base := value.toNat / 2 ^ (order + 1) * 2 ^ (order + 1) * 4
  (base, base + 2 ^ (order + 3))

/-- A bound of a TOR range in bytes; the low bits play no part. -/
def torBound (grain : Nat) (value : BitVec 32) : Nat :=
  value.toNat / 2 ^ grain * 2 ^ grain * 4

namespace Registers

variable (grain : Nat)

/-- The lower bound of a TOR entry: the register of the entry before, whatever
the mode of that entry is. -/
def torBase (regs : Registers) (entry : Fin 16) : Nat :=
  if entry = 0 then 0 else torBound grain (regs.read grain (.addr (entry - 1)))

/-- The bytes that an entry covers, as first byte and byte behind. -/
def region (regs : Registers) (entry : Fin 16) : Nat × Nat :=
  let value := regs.read grain (.addr entry)
  match mode (regs.entryCfg entry) with
  | .off => (0, 0)
  | .tor => (regs.torBase grain entry, torBound grain value)
  | .na4 => (value.toNat * 4, value.toNat * 4 + 4)
  | .napot => napotRegion value

def Covers (regs : Registers) (entry : Fin 16) (address : Nat) : Prop :=
  (regs.region grain entry).1 ≤ address ∧ address < (regs.region grain entry).2

instance (regs : Registers) (entry : Fin 16) (address : Nat) :
    Decidable (regs.Covers grain entry address) :=
  inferInstanceAs (Decidable (_ ∧ _))

/-- Whether user mode may access a byte: the first entry that covers it
decides, and a byte that no entry covers is denied. -/
def permits (regs : Registers) (access : Access) (address : Nat) : Bool :=
  match Fin.find? fun entry => decide (regs.Covers grain entry address) with
  | some entry => grants (regs.entryCfg entry) access
  | none => false

variable {grain} {regs : Registers} {entry : Fin 16}

theorem region_off (hmode : mode (regs.entryCfg entry) = .off) :
    regs.region grain entry = (0, 0) := by
  simp only [region, hmode]

theorem region_tor (hmode : mode (regs.entryCfg entry) = .tor) :
    regs.region grain entry = (regs.torBase grain entry,
      torBound grain (regs.read grain (.addr entry))) := by
  simp only [region, hmode]

theorem region_napot (hmode : mode (regs.entryCfg entry) = .napot) :
    regs.region grain entry = napotRegion (regs.read grain (.addr entry)) := by
  simp only [region, hmode]

theorem permits_iff {access : Access} {address : Nat} :
    regs.permits grain access address = true ↔
      ∃ entry, regs.Covers grain entry address ∧
        (∀ earlier, earlier < entry → ¬ regs.Covers grain earlier address) ∧
        grants (regs.entryCfg entry) access = true := by
  unfold permits
  constructor
  · intro hpermits
    split at hpermits
    · next entry hfind =>
        obtain ⟨hcovers, hearlier⟩ := Fin.find?_eq_some_iff.mp hfind
        exact ⟨entry, of_decide_eq_true hcovers,
          fun earlier hlt => of_decide_eq_false (by simpa using hearlier earlier hlt),
          hpermits⟩
    · cases hpermits
  · rintro ⟨entry, hcovers, hearlier, hgrants⟩
    have hfind : (Fin.find? fun entry =>
        decide (regs.Covers grain entry address)) = some entry :=
      Fin.find?_eq_some_iff.mpr ⟨decide_eq_true hcovers,
        fun earlier hlt => by simpa using hearlier earlier hlt⟩
    rw [hfind]
    exact hgrants

end Registers

/-- What a CSR holds after a write.  The fields are WARL: locked entries and
reserved encodings may keep the write from taking effect. -/
abbrev Warl := Registers → Csr → BitVec 32 → BitVec 32

namespace Registers

variable (warl : Warl)

def write (regs : Registers) (csr : Csr) (value : BitVec 32) : Registers :=
  match csr with
  | .cfg index =>
    { regs with cfg := Function.update regs.cfg index (warl regs csr value) }
  | .addr entry =>
    { regs with
      addr := Function.update regs.addr entry (warl regs csr value) }

def writeAll (regs : Registers) (writes : List (Csr × BitVec 32)) :
    Registers :=
  writes.foldl (fun regs write => regs.write warl write.1 write.2) regs

theorem get_write_of_ne (regs : Registers) {csr other : Csr}
    (value : BitVec 32) (hne : other ≠ csr) :
    (regs.write warl csr value).get other = regs.get other := by
  cases csr with
  | cfg index =>
    cases other with
    | cfg other =>
      have hindex : other ≠ index := fun heq => hne (heq ▸ rfl)
      exact Function.update_of_ne hindex _ _
    | addr other => rfl
  | addr entry =>
    cases other with
    | cfg other => rfl
    | addr other =>
      have hentry : other ≠ entry := fun heq => hne (heq ▸ rfl)
      exact Function.update_of_ne hentry _ _

/-- A register that is not written keeps its value. -/
theorem get_writeAll (regs : Registers) {writes : List (Csr × BitVec 32)}
    {csr : Csr} (hother : csr ∉ writes.map Prod.fst) :
    (regs.writeAll warl writes).get csr = regs.get csr := by
  induction writes generalizing regs with
  | nil => rfl
  | cons first rest ih =>
    simp only [List.map_cons, List.mem_cons, not_or] at hother
    have hrest := ih (regs.write warl first.1 first.2) hother.2
    exact hrest.trans (regs.get_write_of_ne warl first.2 hother.1)

end Registers

section Words

def cfgByte (words : Fin 4 → BitVec 32) (entry : Fin 16) : BitVec 8 :=
  (words ⟨entry / 4, by omega⟩).extractLsb' (8 * (entry % 4)) 8

theorem forall_word {holds : Fin 4 → Prop} (hzero : holds 0) (hone : holds 1)
    (htwo : holds 2) (hthree : holds 3) : ∀ index, holds index
  | 0 => hzero
  | 1 => hone
  | 2 => htwo
  | 3 => hthree

variable {regs after : Registers} {mask value : Fin 4 → BitVec 32}

/-- Words that are masked and added to, byte by byte. -/
theorem entryCfg_of_words (hwords : ∀ index,
      after.cfg index = regs.cfg index &&& mask index ||| value index)
    (entry : Fin 16) : after.entryCfg entry =
      regs.entryCfg entry &&& cfgByte mask entry ||| cfgByte value entry := by
  simp only [Registers.entryCfg, cfgByte, hwords, BitVec.extractLsb'_or,
    BitVec.extractLsb'_and]

theorem grants_or (left right : BitVec 8) (access : Access) :
    grants (left ||| right) access =
      (grants left access || grants right access) := by
  cases access with
  | read | write | exec => exact BitVec.getLsbD_or

theorem grants_and (left right : BitVec 8) (access : Access) :
    grants (left &&& right) access =
      (grants left access && grants right access) := by
  cases access with
  | read | write | exec => exact BitVec.getLsbD_and

theorem grants_zero (access : Access) : grants 0#8 access = false := by
  cases access with
  | read | write | exec => rfl

end Words

end Pmp
