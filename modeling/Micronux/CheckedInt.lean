/-
Arithmetic of a signed 32-bit integer type on which an overflow is undefined:
an operation has a result only if the exact one fits.
-/
import Mathlib.Algebra.Order.Ring.Int

namespace CheckedInt

def Fits (value : Int) : Prop := -2147483648 ≤ value ∧ value ≤ 2147483647

instance (value : Int) : Decidable (Fits value) :=
  inferInstanceAs (Decidable (_ ∧ _))

/-- An exact result, if it is a value of the type. -/
def checked (value : Int) : Option Int :=
  if Fits value then some value else none

def add (left right : Int) : Option Int := checked (left + right)

def sub (left right : Int) : Option Int := checked (left - right)

def mul (left right : Int) : Option Int := checked (left * right)

def neg (value : Int) : Option Int := checked (-value)

variable {value left right : Int}

theorem checked_eq_some (hfits : Fits value) : checked value = some value :=
  if_pos hfits

theorem add_eq_some (hfits : Fits (left + right)) :
    add left right = some (left + right) :=
  checked_eq_some hfits

theorem sub_eq_some (hfits : Fits (left - right)) :
    sub left right = some (left - right) :=
  checked_eq_some hfits

theorem mul_eq_some (hfits : Fits (left * right)) :
    mul left right = some (left * right) :=
  checked_eq_some hfits

theorem neg_eq_some (hfits : Fits (-value)) : neg value = some (-value) :=
  checked_eq_some hfits

/-- A value between two others that fit. -/
theorem fits_of_le {low high : Int} (hlow : low ≤ value) (hhigh : value ≤ high)
    (hmin : -2147483648 ≤ low) (hmax : high ≤ 2147483647) : Fits value :=
  ⟨hmin.trans hlow, hhigh.trans hmax⟩

/-- A product of values between bounds that are not negative. -/
theorem mul_between {low high least most : Int} (hlow : 0 ≤ low)
    (hleft : low ≤ left ∧ left ≤ high) (hleast : 0 ≤ least)
    (hright : least ≤ right ∧ right ≤ most) :
    low * least ≤ left * right ∧ left * right ≤ high * most := by
  constructor
  · exact Int.mul_le_mul hleft.1 hright.1 hleast (hlow.trans hleft.1)
  · exact Int.mul_le_mul hleft.2 hright.2 (hleast.trans hright.1)
      (hlow.trans (hleft.1.trans hleft.2))

end CheckedInt
