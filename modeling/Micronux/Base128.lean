/-
Natural numbers in base 128, lowest digit first.  A digit is the low seven bits
of a byte, and the top bit says that another digit follows.
-/
import Mathlib.Algebra.Order.Ring.Nat
import Mathlib.Tactic.Ring

namespace Base128

/-- The bytes of one number: every byte but the last says that one follows. -/
inductive Numeral : List (BitVec 8) → Prop where
  | last {byte : BitVec 8} (hbyte : byte.toNat < 128) : Numeral [byte]
  | more {byte : BitVec 8} {rest : List (BitVec 8)} (hbyte : 128 ≤ byte.toNat)
      (hrest : Numeral rest) : Numeral (byte :: rest)

def value : List (BitVec 8) → Nat
  | [] => 0
  | byte :: rest => byte.toNat % 128 + 128 * value rest

theorem value_lt (digits : List (BitVec 8)) :
    value digits < 128 ^ digits.length := by
  induction digits with
  | nil => exact Nat.one_pos
  | cons byte rest ih =>
    rw [value, List.length_cons, pow_succ]
    omega

def encode (number : Nat) : List (BitVec 8) :=
  if number < 128 then [BitVec.ofNat 8 number]
  else BitVec.ofNat 8 (number % 128 + 128) :: encode (number / 128)
termination_by number
decreasing_by omega

theorem Numeral.length_pos {digits : List (BitVec 8)}
    (hdigits : Numeral digits) : 0 < digits.length := by
  cases hdigits <;> exact Nat.succ_pos _

/-- The numeral at the front of some bytes, by its first byte. -/
theorem exists_numeral_cons {byte : BitVec 8} {tail rest : List (BitVec 8)}
    {prop : List (BitVec 8) → Prop} :
    (∃ digits, byte :: tail = digits ++ rest ∧ Numeral digits ∧ prop digits) ↔
      (byte.toNat < 128 ∧ tail = rest ∧ prop [byte]) ∨ (128 ≤ byte.toNat ∧
          ∃ more, tail = more ++ rest ∧ Numeral more ∧ prop (byte :: more)) := by
  constructor
  · rintro ⟨digits, hbytes, hdigits, hprop⟩
    cases hdigits with
    | last hbyte =>
      obtain ⟨rfl, rfl⟩ := List.cons.inj hbytes
      exact .inl ⟨hbyte, rfl, hprop⟩
    | more hbyte hmore =>
      obtain ⟨rfl, rfl⟩ := List.cons.inj hbytes
      exact .inr ⟨hbyte, _, rfl, hmore, hprop⟩
  · rintro (⟨hbyte, rfl, hprop⟩ | ⟨hbyte, more, rfl, hmore, hprop⟩)
    · exact ⟨[byte], rfl, .last hbyte, hprop⟩
    · exact ⟨byte :: more, rfl, .more hbyte hmore, hprop⟩

variable {number : Nat}

theorem encode_small (hsmall : number < 128) :
    encode number = [BitVec.ofNat 8 number] := by
  rw [encode, if_pos hsmall]

theorem encode_large (hlarge : 128 ≤ number) : encode number =
      BitVec.ofNat 8 (number % 128 + 128) :: encode (number / 128) := by
  rw [encode, if_neg (Nat.not_lt.mpr hlarge)]

theorem numeral_encode (number : Nat) : Numeral (encode number) := by
  induction number using Nat.strong_induction_on with
  | h number ih =>
    rcases Nat.lt_or_ge number 128 with hsmall | hlarge
    · rw [encode_small hsmall]
      apply Numeral.last
      rw [BitVec.toNat_ofNat]
      omega
    · rw [encode_large hlarge]
      refine .more ?_ (ih (number / 128) (by omega))
      rw [BitVec.toNat_ofNat]
      omega

@[simp]
theorem value_encode (number : Nat) : value (encode number) = number := by
  induction number using Nat.strong_induction_on with
  | h number ih =>
    rcases Nat.lt_or_ge number 128 with hsmall | hlarge
    · rw [encode_small hsmall, value, value, BitVec.toNat_ofNat]
      omega
    · rw [encode_large hlarge, value, ih (number / 128) (by omega),
        BitVec.toNat_ofNat]
      omega

/-- A number below `128 ^ (count + 1)` has at most `count + 1` digits. -/
theorem length_encode {count : Nat} (hnumber : number < 128 ^ (count + 1)) :
    (encode number).length ≤ count + 1 := by
  induction count generalizing number with
  | zero =>
    rw [encode_small (by simpa using hnumber)]
    exact Nat.le_refl 1
  | succ count ih =>
    rcases Nat.lt_or_ge number 128 with hsmall | hlarge
    · rw [encode_small hsmall]
      exact Nat.succ_le_succ (Nat.zero_le _)
    · rw [encode_large hlarge]
      apply Nat.succ_le_succ
      apply ih
      rw [pow_succ] at hnumber
      exact Nat.div_lt_of_lt_mul (by rwa [Nat.mul_comm] at hnumber)

/-- A digit above some bits takes seven more. -/
theorem add_digit_lt {low shift : Nat} (hlow : low < 2 ^ shift)
    (byte : BitVec 8) :
    low + byte.toNat % 128 * 2 ^ shift < 2 ^ (shift + 7) := by
  have hdigit : byte.toNat % 128 ≤ 127 := by omega
  have hproduct := Nat.mul_le_mul_right (2 ^ shift) hdigit
  rw [Nat.pow_add]
  omega

/-- The first digit at its place, and the others above it. -/
theorem add_value_cons (low shift : Nat) (byte : BitVec 8)
    (digits : List (BitVec 8)) :
    low + byte.toNat % 128 * 2 ^ shift + value digits * 2 ^ (shift + 7) =
      low + value (byte :: digits) * 2 ^ shift := by
  rw [value, Nat.pow_add]
  ring

/-- Bits put above a number are added to it. -/
theorem or_shiftLeft {width shift : Nat} {low high : BitVec width}
    (hlow : low.toNat < 2 ^ shift) :
    low ||| high <<< shift =
      BitVec.ofNat width (low.toNat + high.toNat * 2 ^ shift) := by
  have hapart : low &&& high <<< shift = BitVec.ofNat width 0 := by
    apply BitVec.eq_of_getLsbD_eq
    intro index hindex
    rw [BitVec.getLsbD_and, BitVec.getLsbD_shiftLeft, BitVec.getLsbD_zero]
    rcases Nat.lt_or_ge index shift with hbelow | habove
    · simp [hbelow]
    · have hbound : low.toNat < 2 ^ index :=
        Nat.lt_of_lt_of_le hlow (Nat.pow_le_pow_right (by decide) habove)
      rw [← BitVec.testBit_toNat low, Nat.testBit_lt_two_pow hbound,
        Bool.false_and]
  rw [← BitVec.add_eq_or_of_and_eq_zero _ _ hapart]
  apply BitVec.eq_of_toNat_eq
  rw [BitVec.toNat_add, BitVec.toNat_shiftLeft, BitVec.toNat_ofNat,
    Nat.shiftLeft_eq, Nat.add_mod_mod]

end Base128
