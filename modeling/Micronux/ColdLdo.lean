/-
The settings of the panel's supply.  `micronux_cold_ldo_calculate` reads the
calibration of the regulator from the eFuses and searches the pair of settings
whose output is closest to the rail of the panel.
-/
import Micronux.CheckedInt
import Micronux.FirstMinimum
import Micronux.Fallible

namespace Micronux

open CheckedInt FirstMinimum

/-- `struct micronux_ldo_calibration`. -/
structure LdoCalibration where
  blockVersion : Nat
  k1000 : Int
  vos1000 : Int
  c1000 : Int
  dref : Nat
  mul : Nat
deriving DecidableEq, Repr

/-- `FIELD_GET` of the bits from `low` to `high`, kept in a `u8`. -/
def efuseField (high low : Nat) (word : BitVec 32) : BitVec 8 :=
  (word.extractLsb high low).setWidth 8

/-- The version of the block: the major version is in bits 12 and 11 and the
minor one in bits 10 to 8. -/
def efuseBlockVersion (sys2 : BitVec 32) : Nat :=
  (efuseField 12 11 sys2).toNat * 100 + (efuseField 10 8 sys2).toNat

def efuseLdoVo3K (sys3 : BitVec 32) : BitVec 8 := efuseField 13 6 sys3

def efuseLdoVo3Vos (sys3 : BitVec 32) : BitVec 8 := efuseField 19 14 sys3

def efuseLdoVo3C (sys3 : BitVec 32) : BitVec 8 := efuseField 25 20 sys3

/-- A calibration value with a sign bit and a magnitude around an offset, or
the default if the field is zero. -/
def ldoCalibrated (sign magnitude : BitVec 8) (offset default : Int)
    (efuse : BitVec 8) : Option Int :=
  if efuse ≠ 0 then
    if efuse &&& sign ≠ 0 then do
      let negative ← CheckedInt.mul (-1) (efuse &&& magnitude).toNat
      CheckedInt.add negative offset
    else CheckedInt.add efuse.toNat offset
  else some default

/-- The calibration before the search: the defaults, or what the eFuses of a
versioned block say. -/
def ldoCalibration (sys2 sys3 : BitVec 32) : Option LdoCalibration :=
  let version := efuseBlockVersion sys2
  if version ≥ 1 then do
    let k ← ldoCalibrated 0x80 0x7f 975 1000 (efuseLdoVo3K sys3)
    let vos ← ldoCalibrated 0x20 0x1f (-3) 0 (efuseLdoVo3Vos sys3)
    let c ← ldoCalibrated 0x20 0x1f 990 1000 (efuseLdoVo3C sys3)
    some ⟨version, k, vos, c, 0, 0⟩
  else some ⟨version, 1000, 0, 1000, 0, 0⟩

/-- `MICRONUX_DISPLAY_COLD_LDO_MV`. -/
def coldLdoMv : Int := 2500

/-- The reference voltage of a setting, in twentieths. -/
def ldoVref20 (dref : Nat) : Option Int :=
  if dref < 9 then CheckedInt.add 10 dref
  else do
    let above ← CheckedInt.sub dref 9
    let doubled ← CheckedInt.mul above 2
    CheckedInt.add 20 doubled

def ldoDiff (cal : LdoCalibration) (vref20 : Int) (mul : Nat) : Option Int := do
  let scaled ← CheckedInt.mul vref20 cal.k1000
  let offset ← CheckedInt.mul 20 cal.vos1000
  let reference ← CheckedInt.add scaled offset
  let step ← CheckedInt.mul mul cal.c1000
  let gain ← CheckedInt.add 4000 step
  let vout ← CheckedInt.mul reference gain
  let rail ← CheckedInt.mul coldLdoMv 80000
  let diff ← CheckedInt.sub rail vout
  if diff < 0 then CheckedInt.neg diff else some diff

/-- The body of the inner loop: `min_diff` and the best pair of settings. -/
def ldoTry (cal : LdoCalibration) (vref20 : Int) (dref : Nat)
    (best : Int × Nat × Nat) (mul : Nat) : Option (Int × Nat × Nat) := do
  let diff ← ldoDiff cal vref20 mul
  if diff < best.1 then some (diff, dref, mul) else some best

def ldoTryDref (cal : LdoCalibration) (best : Int × Nat × Nat) (dref : Nat) :
    Option (Int × Nat × Nat) := do
  let vref20 ← ldoVref20 dref
  (List.range 8).foldlM (ldoTry cal vref20 dref) best

/-- `micronux_cold_ldo_calculate`, without a result where its arithmetic
overflows. -/
def coldLdoCalculate (sys2 sys3 : BitVec 32) : Option LdoCalibration := do
  let cal ← ldoCalibration sys2 sys3
  let best ← (List.range 16).foldlM (ldoTryDref cal) (400000000, 0, 0)
  some { cal with dref := best.2.1, mul := best.2.2 }

def signMagnitude (sign magnitude efuse : BitVec 8) : Int :=
  if efuse &&& sign ≠ 0 then -(efuse &&& magnitude).toNat
  else (efuse &&& magnitude).toNat

theorem signMagnitude_bounds (sign magnitude efuse : BitVec 8) :
    -(magnitude.toNat : Int) ≤ signMagnitude sign magnitude efuse ∧
      signMagnitude sign magnitude efuse ≤ magnitude.toNat := by
  have hle : (efuse &&& magnitude).toNat ≤ magnitude.toNat := by
    rw [BitVec.toNat_and]
    exact Nat.and_le_right
  unfold signMagnitude
  split <;> omega

/-- The decoded value of a field that has no bits beside its sign and its
magnitude. -/
theorem ldoCalibrated_eq {sign magnitude efuse : BitVec 8}
    (offset default : Int) (hoffset : -1000 ≤ offset ∧ offset ≤ 1000)
    (hfield : efuse &&& sign = 0 → efuse &&& magnitude = efuse) :
    ldoCalibrated sign magnitude offset default efuse =
      some (if efuse = 0 then default
        else signMagnitude sign magnitude efuse + offset) := by
  have hmagnitude := (efuse &&& magnitude).isLt
  have hefuse := efuse.isLt
  unfold ldoCalibrated signMagnitude
  by_cases hzero : efuse = 0
  · simp [hzero]
  · by_cases hsign : efuse &&& sign = 0
    · rw [if_pos hzero, if_neg hzero, if_neg (not_not.mpr hsign),
        if_neg (not_not.mpr hsign), hfield hsign]
      exact add_eq_some ⟨by omega, by omega⟩
    · rw [if_pos hzero, if_neg hzero, if_pos hsign, if_pos hsign,
        mul_eq_some ⟨by omega, by omega⟩, neg_one_mul]
      exact add_eq_some ⟨by omega, by omega⟩

/-- A field of six bits has its sign at bit 5. -/
theorem sixBits_magnitude (field : BitVec 6) : field.setWidth 8 &&& 0x20 = 0 →
      field.setWidth 8 &&& 0x1f = field.setWidth 8 := by
  revert field
  decide

theorem eightBits_magnitude (field : BitVec 8) :
    field &&& 0x80 = 0 → field &&& 0x7f = field := by
  revert field
  decide

/-- What the eFuses say about a value, or its default if the field is zero or
the block has no version. -/
def ldoDecoded (sys2 : BitVec 32) (sign magnitude : BitVec 8)
    (offset default : Int) (efuse : BitVec 8) : Int :=
  if efuseBlockVersion sys2 = 0 ∨ efuse = 0 then default
  else signMagnitude sign magnitude efuse + offset

theorem ldoDecoded_bounds {sys2 : BitVec 32} {sign magnitude efuse : BitVec 8}
    {offset default : Int} (hdefault : offset - magnitude.toNat ≤ default ∧
      default ≤ offset + magnitude.toNat) :
    offset - magnitude.toNat ≤
        ldoDecoded sys2 sign magnitude offset default efuse ∧
      ldoDecoded sys2 sign magnitude offset default efuse ≤
        offset + magnitude.toNat := by
  have hbounds := signMagnitude_bounds sign magnitude efuse
  unfold ldoDecoded
  split
  · exact hdefault
  · omega

/-- The calibration that the search starts with. -/
theorem ldoCalibration_eq (sys2 sys3 : BitVec 32) :
    ldoCalibration sys2 sys3 = some ⟨efuseBlockVersion sys2,
        ldoDecoded sys2 0x80 0x7f 975 1000 (efuseLdoVo3K sys3),
        ldoDecoded sys2 0x20 0x1f (-3) 0 (efuseLdoVo3Vos sys3),
        ldoDecoded sys2 0x20 0x1f 990 1000 (efuseLdoVo3C sys3), 0, 0⟩ := by
  unfold ldoCalibration
  by_cases hversion : efuseBlockVersion sys2 ≥ 1
  · have hnonzero : efuseBlockVersion sys2 ≠ 0 := by omega
    have hk := ldoCalibrated_eq 975 1000 (by decide)
      (eightBits_magnitude (efuseLdoVo3K sys3))
    have hvos : ldoCalibrated _ _ _ _ (efuseLdoVo3Vos sys3) = _ :=
      ldoCalibrated_eq (-3) 0 (by decide) (sixBits_magnitude _)
    have hc : ldoCalibrated _ _ _ _ (efuseLdoVo3C sys3) = _ :=
      ldoCalibrated_eq 990 1000 (by decide) (sixBits_magnitude _)
    simp only [if_pos hversion, ldoDecoded, hnonzero, false_or, hk, hvos, hc]
    rfl
  · have hzero : efuseBlockVersion sys2 = 0 := by omega
    simp [hzero, ldoDecoded]

/-- The reference voltage without a bound on the arithmetic. -/
def ldoReference (dref : Nat) : Int :=
  if dref < 9 then 10 + dref else 20 + (dref - 9) * 2

def LdoCalibration.vout (cal : LdoCalibration) (setting : Nat × Nat) : Int :=
  (ldoReference setting.1 * cal.k1000 + 20 * cal.vos1000) *
    (4000 + setting.2 * cal.c1000)

def LdoCalibration.distance (cal : LdoCalibration) (setting : Nat × Nat) :
    Int :=
  (2500 * 80000 - cal.vout setting).natAbs

/-- The ranges of the calibration values. -/
structure LdoCalibration.Decoded (cal : LdoCalibration) : Prop where
  k : 848 ≤ cal.k1000 ∧ cal.k1000 ≤ 1102
  vos : -34 ≤ cal.vos1000 ∧ cal.vos1000 ≤ 28
  c : 959 ≤ cal.c1000 ∧ cal.c1000 ≤ 1021

theorem ldoVref20_eq {dref : Nat} (hdref : dref < 16) :
    ldoVref20 dref = some (ldoReference dref) := by
  unfold ldoVref20 ldoReference
  by_cases hlow : dref < 9
  · rw [if_pos hlow, if_pos hlow]
    exact add_eq_some ⟨by omega, by omega⟩
  · rw [if_neg hlow, if_neg hlow]
    rw [sub_eq_some ⟨by omega, by omega⟩]
    simp only [Option.bind_eq_bind, Option.bind_some]
    rw [mul_eq_some ⟨by omega, by omega⟩]
    exact add_eq_some ⟨by omega, by omega⟩

theorem ldoReference_bounds {dref : Nat} (hdref : dref < 16) :
    10 ≤ ldoReference dref ∧ ldoReference dref ≤ 32 := by
  unfold ldoReference
  split <;> omega

section

variable {cal : LdoCalibration} (hcal : cal.Decoded) {dref mul : Nat}
  (hdref : dref < 16) (hmul : mul < 8)

include hcal

theorem LdoCalibration.Decoded.scaled_bounds (hdref : dref < 16) :
    8480 ≤ ldoReference dref * cal.k1000 ∧
      ldoReference dref * cal.k1000 ≤ 35264 :=
  mul_between (by decide) (ldoReference_bounds hdref) (by decide) hcal.k

theorem LdoCalibration.Decoded.step_bounds (hmul : mul < 8) :
    0 ≤ (mul : Int) * cal.c1000 ∧ (mul : Int) * cal.c1000 ≤ 7147 := by
  have hstep : 0 * 959 ≤ (mul : Int) * cal.c1000 ∧
      (mul : Int) * cal.c1000 ≤ 7 * 1021 :=
    mul_between (Int.le_refl 0) ⟨by omega, by omega⟩ (by decide) hcal.c
  rw [Int.zero_mul] at hstep
  exact hstep

theorem LdoCalibration.Decoded.reference_bounds (hdref : dref < 16) :
    7800 ≤ ldoReference dref * cal.k1000 + 20 * cal.vos1000 ∧
      ldoReference dref * cal.k1000 + 20 * cal.vos1000 ≤ 35824 := by
  have hscaled := hcal.scaled_bounds hdref
  have hvos := hcal.vos
  omega

theorem LdoCalibration.Decoded.gain_bounds (hmul : mul < 8) :
    4000 ≤ 4000 + (mul : Int) * cal.c1000 ∧
      4000 + (mul : Int) * cal.c1000 ≤ 11147 := by
  have hstep := hcal.step_bounds hmul
  omega

include hdref hmul

/-- No output is further from the rail than the rail from zero. -/
theorem LdoCalibration.Decoded.vout_bounds :
    31200000 ≤ cal.vout (dref, mul) ∧ cal.vout (dref, mul) ≤ 399330128 :=
  mul_between (by decide) (hcal.reference_bounds hdref) (by decide)
    (hcal.gain_bounds hmul)

/-- The arithmetic of the loop does not overflow. -/
theorem LdoCalibration.Decoded.diff_eq :
    ldoDiff cal (ldoReference dref) mul = some (cal.distance (dref, mul)) := by
  have hscaled := hcal.scaled_bounds hdref
  have hstep := hcal.step_bounds hmul
  have hreference := hcal.reference_bounds hdref
  have hgain := hcal.gain_bounds hmul
  have hvos := hcal.vos
  have hvout := hcal.vout_bounds hdref hmul
  have hproduct : CheckedInt.mul
      (ldoReference dref * cal.k1000 + 20 * cal.vos1000)
      (4000 + mul * cal.c1000) = some (cal.vout (dref, mul)) :=
    mul_eq_some (fits_of_le hvout.1 hvout.2 (by decide) (by decide))
  have hrail : CheckedInt.mul coldLdoMv 80000 = some 200000000 := by decide
  unfold ldoDiff LdoCalibration.distance
  simp only [Option.bind_eq_bind]
  rw [mul_eq_some ⟨by omega, by omega⟩, Option.bind_some,
    mul_eq_some ⟨by omega, by omega⟩, Option.bind_some,
    add_eq_some ⟨by omega, by omega⟩, Option.bind_some,
    mul_eq_some ⟨by omega, by omega⟩, Option.bind_some,
    add_eq_some ⟨by omega, by omega⟩, Option.bind_some, hproduct,
    Option.bind_some, hrail, Option.bind_some,
    sub_eq_some ⟨by omega, by omega⟩, Option.bind_some]
  by_cases hbelow : 200000000 - cal.vout (dref, mul) < 0
  · rw [if_pos hbelow, neg_eq_some ⟨by omega, by omega⟩]
    exact congrArg some (by omega)
  · rw [if_neg hbelow]
    exact congrArg some (by omega)

theorem LdoCalibration.Decoded.distance_lt :
    cal.distance (dref, mul) < 400000000 := by
  have hvout := hcal.vout_bounds hdref hmul
  unfold LdoCalibration.distance
  omega

end

/-- The pairs of settings, in the order of the loops. -/
def ldoSettings : List (Nat × Nat) :=
  (List.range 16).flatMap fun dref => (List.range 8).map fun mul => (dref, mul)

theorem mem_ldoSettings {dref mul : Nat} :
    (dref, mul) ∈ ldoSettings ↔ dref < 16 ∧ mul < 8 := by
  simp [ldoSettings]

/-- The order of the loops is the lexicographic one. -/
theorem ldoSettings_sorted : ldoSettings.Pairwise fun left right =>
      left.1 < right.1 ∨ left.1 = right.1 ∧ left.2 < right.2 := by
  rw [ldoSettings, List.pairwise_flatMap]
  constructor
  · intro dref _
    rw [List.pairwise_map]
    exact List.pairwise_lt_range.imp fun hlt => .inr ⟨rfl, hlt⟩
  · refine List.pairwise_lt_range.imp fun hlt left hleft right hright => ?_
    obtain ⟨_, -, rfl⟩ := List.mem_map.mp hleft
    obtain ⟨_, -, rfl⟩ := List.mem_map.mp hright
    exact .inl hlt

/-- One turn of the inner loop is one turn of the search. -/
theorem LdoCalibration.Decoded.try_eq {cal : LdoCalibration}
    (hcal : cal.Decoded) {dref mul : Nat} (hdref : dref < 16) (hmul : mul < 8)
    (best : Int × Nat × Nat) :
    ldoTry cal (ldoReference dref) dref best mul =
      some (improve cal.distance best (dref, mul)) := by
  unfold ldoTry improve
  rw [hcal.diff_eq hdref hmul]
  simp only [Option.bind_eq_bind, Option.bind_some]
  split <;> rfl

theorem LdoCalibration.Decoded.tryDref_eq {cal : LdoCalibration}
    (hcal : cal.Decoded) {dref : Nat} (hdref : dref < 16)
    (best : Int × Nat × Nat) :
    ldoTryDref cal best dref =
      some (((List.range 8).map fun mul => (dref, mul)).foldl
        (improve cal.distance) best) := by
  unfold ldoTryDref
  rw [ldoVref20_eq hdref, Option.bind_eq_bind, Option.bind_some, List.foldl_map]
  exact Fallible.foldlM_eq_some (fun state mul hmem =>
    hcal.try_eq hdref (List.mem_range.mp hmem) state) best

/-- The two loops search the settings in their order. -/
theorem LdoCalibration.Decoded.search_eq {cal : LdoCalibration}
    (hcal : cal.Decoded) (best : Int × Nat × Nat) :
    (List.range 16).foldlM (ldoTryDref cal) best =
      some (ldoSettings.foldl (improve cal.distance) best) := by
  rw [ldoSettings, List.foldl_flatMap]
  exact Fallible.foldlM_eq_some (fun state dref hmem =>
    hcal.tryDref_eq (List.mem_range.mp hmem) state) best

/-- The bound that the search starts with lies above every distance. -/
theorem LdoCalibration.Decoded.search_first {cal : LdoCalibration}
    (hcal : cal.Decoded) :
    IsFirst cal.distance ldoSettings
      (ldoSettings.foldl (improve cal.distance) (400000000, 0, 0)).2 :=
  isFirst_foldl
    (mem_ldoSettings.mpr ⟨show 0 < 16 by decide, show 0 < 8 by decide⟩)
    (hcal.distance_lt (by decide) (by decide))

/-- The values that the eFuses decode to lie in their ranges. -/
theorem decoded_of_ldoCalibration (sys2 sys3 : BitVec 32) :
    LdoCalibration.Decoded ⟨efuseBlockVersion sys2,
        ldoDecoded sys2 0x80 0x7f 975 1000 (efuseLdoVo3K sys3),
        ldoDecoded sys2 0x20 0x1f (-3) 0 (efuseLdoVo3Vos sys3),
        ldoDecoded sys2 0x20 0x1f 990 1000 (efuseLdoVo3C sys3), 0, 0⟩ where
  k := ldoDecoded_bounds (by decide)
  vos := ldoDecoded_bounds (by decide)
  c := ldoDecoded_bounds (by decide)

/-- The lexicographically first pair of settings, of sixteen and eight, with
the least distance from the rail. -/
structure LdoCalibration.Closest (cal : LdoCalibration) : Prop where
  inRange : cal.dref < 16 ∧ cal.mul < 8
  least : ∀ dref < 16, ∀ mul < 8,
    cal.distance (cal.dref, cal.mul) ≤ cal.distance (dref, mul)
  first : ∀ dref < 16, ∀ mul < 8,
    dref < cal.dref ∨ dref = cal.dref ∧ mul < cal.mul →
      cal.distance (cal.dref, cal.mul) < cal.distance (dref, mul)

theorem closest_of_isFirst {cal : LdoCalibration} {winner : Nat × Nat}
    (hfirst : IsFirst cal.distance ldoSettings winner) :
    LdoCalibration.Closest { cal with dref := winner.1, mul := winner.2 } where
  inRange := mem_ldoSettings.mp hfirst.mem
  least := fun dref hdref mul hmul =>
    hfirst.le (dref, mul) (mem_ldoSettings.mpr ⟨hdref, hmul⟩)
  first := fun dref hdref mul hmul hbefore =>
    hfirst.lt_of_before ldoSettings_sorted (by omega)
      (mem_ldoSettings.mpr ⟨hdref, hmul⟩) hbefore

/-- For every value of the eFuses the calculation has a result, so none of its
`int` operations overflows.  It decodes the calibration and selects the first
pair of settings whose output is closest to the rail. -/
theorem coldLdoCalculate_closest (sys2 sys3 : BitVec 32) :
    ∃ cal, coldLdoCalculate sys2 sys3 = some cal ∧
      cal.blockVersion = efuseBlockVersion sys2 ∧
      cal.k1000 = ldoDecoded sys2 0x80 0x7f 975 1000 (efuseLdoVo3K sys3) ∧
      cal.vos1000 = ldoDecoded sys2 0x20 0x1f (-3) 0 (efuseLdoVo3Vos sys3) ∧
      cal.c1000 = ldoDecoded sys2 0x20 0x1f 990 1000 (efuseLdoVo3C sys3) ∧
      cal.Closest := by
  have hcal := decoded_of_ldoCalibration sys2 sys3
  unfold coldLdoCalculate
  rw [ldoCalibration_eq]
  simp only [Option.bind_eq_bind, Option.bind_some, hcal.search_eq]
  exact ⟨_, rfl, rfl, rfl, rfl, rfl, closest_of_isFirst hcal.search_first⟩

-- The default calibration meets the rail exactly.
example : (coldLdoCalculate 0 0).map (fun cal => (cal.dref, cal.mul)) =
    some (9, 6) := by decide

end Micronux
