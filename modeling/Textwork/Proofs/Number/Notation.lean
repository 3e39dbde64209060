/-
  What the three notations of a positive quotient write.

  * `isNearest_fixedNumber`: fixed notation writes the nearest number with its
    places;
  * `IsScientific`: a mantissa and an exponent that come of rounding a number
    once; `isScientific_scientificParts`: scientific notation has them, also
    where the mantissa is rounded up to ten;
  * `short_eq`, `value_shortNumber`: short notation writes the same rounded
    number in one of the two ways, without zeros at the end of its fraction.
-/
import Textwork.Proofs.Number.Positional

namespace Textwork

namespace Decimals

variable {num den : ℕ} (places : ℕ)

/-! ## Fixed notation -/

/-- The number that fixed notation writes. -/
def fixedNumber (num den places : ℕ) : Positional :=
  .placed (Rounding.toNearestAway (num * 10 ^ places) den) places

theorem text_fixedNumber : (fixedNumber num den places).text = fixed num den places :=
  Positional.text_placed _ _

theorem length_fraction_fixedNumber : (fixedNumber num den places).fraction.length = places :=
  Positional.length_fraction_placed _ _

theorem isNearest_fixedNumber (num : ℕ) (hden : 0 < den) :
    IsNearest (-places) ((num : ℚ) / den) (fixedNumber num den places).value := by
  have h := Rounding.isNearest_toNearestAway (num * 10 ^ places) (-places : ℤ) hden
  have hpow : (10 : ℚ) ^ places ≠ 0 := by positivity
  rw [zpow_neg, zpow_natCast, ← div_eq_mul_inv, ← div_eq_mul_inv] at h
  rw [fixedNumber, Positional.value_placed]
  convert h using 1
  push_cast
  field_simp

/-- Equal quotients are written alike. -/
theorem fixedNumber_congr {num' den' : ℕ} (hden : 0 < den) (hden' : 0 < den')
    (h : (num : ℚ) / den = num' / den') :
    fixedNumber num den places = fixedNumber num' den' places := by
  rw [fixedNumber, fixedNumber, Rounding.toNearestAway_congr hden hden']
  push_cast
  rw [mul_div_right_comm, mul_div_right_comm, h]

/-! ## Scientific notation -/

theorem isNearest_mantissaAt (num : ℕ) (e : ℤ) (hden : 0 < den) :
    IsNearest (e - places) ((num : ℚ) / den) (mantissaAt num den places e * 10 ^ (e - places)) := by
  have hscale := Rounding.quotient_scale (by decide : 0 < 10) (places - e) num den
  have hpos := Rounding.scale_snd_pos (by decide : 0 < 10) (places - e) num hden
  have h := Rounding.isNearest_toNearestAway (Rounding.scale 10 (places - e) num den).1
    (e - places) hpos
  have hcancel : (10 : ℚ) ^ ((places : ℤ) - e) * 10 ^ (e - places) = 1 := by
    rw [← zpow_add₀ (by norm_num), sub_add_sub_cancel, sub_self, zpow_zero]
  rw [hscale, Nat.cast_ofNat, mul_assoc, hcancel, mul_one] at h
  exact h

section Mantissa

variable {places : ℕ} {x : ℚ} {m : ℕ} {e : ℤ}

/-- A mantissa of `places + 1` digits, as an integer, and an exponent that stand for the number `x`
    rounded once. -/
structure IsScientific (places : ℕ) (x : ℚ) (m : ℕ) (e : ℤ) : Prop where
  pow_le : 10 ^ places ≤ m
  lt_pow : m < 10 ^ (places + 1)
  /-- the last place of the mantissa is the unit -/
  nearest : IsNearest (e - places) x (m * 10 ^ (e - places))
  /-- the last of the significant digits of `x` is the unit -/
  rounded : IsNearest (Int.log 10 x - places) x (m * 10 ^ (e - places))

theorem IsScientific.zpow_le (h : IsScientific places x m e) :
    (10 : ℚ) ^ e ≤ m * 10 ^ (e - places) :=
  (zpow_le_mul_iff (by omega)).2 h.pow_le

theorem IsScientific.lt_zpow (h : IsScientific places x m e) :
    (m : ℚ) * 10 ^ (e - places) < 10 ^ (e + 1) :=
  (mul_lt_zpow_iff (by push_cast; omega)).2 h.lt_pow

/-- The exponent is that of the number, or the next one behind the mantissa `1.00…`. -/
theorem IsScientific.carried (h : IsScientific places x m e) (hx : 0 < x) :
    e = Int.log 10 x ∨ e = Int.log 10 x + 1 ∧ m = 10 ^ places := by
  have hlow := h.rounded.zpow_le (by omega) (Rounding.zpow_log_le hx)
  have hhigh := h.rounded.le_zpow (by omega) (Rounding.lt_zpow_log x).le
  have hle : Int.log 10 x ≤ e := by
    rw [Rounding.eq_log h.zpow_le h.lt_zpow]
    exact (Int.zpow_le_iff_le_log (by decide) (lt_of_lt_of_le (ten_zpow_pos _) hlow)).1
      (by exact_mod_cast hlow)
  rcases hle.eq_or_lt with heq | hlt
  · exact .inl heq.symm
  · have hexp : e ≤ Int.log 10 x + 1 :=
      (zpow_le_zpow_iff_right₀ (by norm_num : (1 : ℚ) < 10)).1 (h.zpow_le.trans hhigh)
    obtain rfl : e = Int.log 10 x + 1 := by omega
    exact .inr ⟨rfl, le_antisymm ((mul_le_zpow_iff (by omega)).1 hhigh) h.pow_le⟩

end Mantissa

theorem scientificParts_eq (hnum : 0 < num) (hden : 0 < den) :
    scientificParts num den places =
      if 10 ^ (places + 1) ≤ mantissaAt num den places (Int.log 10 ((num : ℚ) / den)) then
        (mantissaAt num den places (Int.log 10 ((num : ℚ) / den) + 1),
          Int.log 10 ((num : ℚ) / den) + 1)
      else (mantissaAt num den places (Int.log 10 ((num : ℚ) / den)),
        Int.log 10 ((num : ℚ) / den)) := by
  rw [scientificParts, if_neg hnum.ne', Rounding.decimalExponent_eq_log hnum hden]
  rfl

/-- **Scientific notation rounds once**, also where the mantissa is rounded up to ten and written
    with the next exponent. -/
theorem isScientific_scientificParts (hnum : 0 < num) (hden : 0 < den) :
    IsScientific places ((num : ℚ) / den) (scientificParts num den places).1
      (scientificParts num den places).2 := by
  have hx : (0 : ℚ) < (num : ℚ) / den := by positivity
  set x : ℚ := (num : ℚ) / den with hxdef
  have h : IsNearest (Int.log 10 x - places) x _ :=
    isNearest_mantissaAt places num (Int.log 10 x) hden
  have hlow := h.zpow_le (by omega) (Rounding.zpow_log_le hx)
  have hhigh := h.le_zpow (by omega) (Rounding.lt_zpow_log x).le
  rw [scientificParts_eq places hnum hden, ← hxdef]
  split
  · next hcarry =>
    -- The number is rounded up to a power of ten, which has a place less to be rounded to.
    have hten : (mantissaAt num den places (Int.log 10 x) : ℚ) * 10 ^ (Int.log 10 x - places) =
        10 ^ (Int.log 10 x + 1) :=
      le_antisymm hhigh ((zpow_le_mul_iff (by push_cast; omega)).2 hcarry)
    rw [hten] at h
    have hcoarse : IsNearest (Int.log 10 x + 1 - places) x (10 ^ (Int.log 10 x + 1)) :=
      h.coarsen (by omega) (IsNearest.zpow (by omega)).multiple
    have hnext := isNearest_mantissaAt places num (Int.log 10 x + 1) hden
    have hvalue := hnext.unique hcoarse
    have hm : mantissaAt num den places (Int.log 10 x + 1) = 10 ^ places :=
      le_antisymm ((mul_le_zpow_iff (by omega)).1 hvalue.le)
        ((zpow_le_mul_iff (by omega)).1 hvalue.ge)
    refine ⟨hm.ge, ?_, hnext, ?_⟩
    · rw [hm]
      exact Nat.pow_lt_pow_right (by decide) (Nat.lt_succ_self _)
    · rw [hvalue]
      exact h
  · next hcarry => exact ⟨(zpow_le_mul_iff (by omega)).1 hlow, not_le.1 hcarry, h, h⟩

/-! ## Short notation -/

section Short

variable (precision : ℕ)

/-- The exponent that short notation writes: one that is small, or beyond the significant digits. -/
def shortExponent (precision : ℕ) (e : ℤ) : Option ℤ :=
  if e < -6 ∨ (max precision 1 : ℕ) ≤ e then some e else none

/-- The number that short notation writes, before the exponent if there is one. -/
def shortNumber (num den precision : ℕ) : Positional :=
  let (m, e) := scientificParts num den (max precision 1 - 1)
  if e < -6 ∨ (max precision 1 : ℕ) ≤ e then (Positional.placed m (max precision 1 - 1)).stripped
  else (fixedNumber num den (max precision 1 - 1 - e : ℤ).toNat).stripped

theorem short_eq (den : ℕ) (hnum : 0 < num) :
    short num den precision = (shortNumber num den precision).text ++ Positional.exponentText
      (shortExponent precision (scientificParts num den (max precision 1 - 1)).2) := by
  unfold short shortNumber scientific shortExponent
  simp only [if_neg hnum.ne']
  split
  · rw [Positional.text_stripped, Positional.text_placed]
    rfl
  · rw [Positional.text_stripped, text_fixedNumber, Positional.exponentText, Option.map_none,
      Option.getD_none, List.append_nil]

theorem isStripped_shortNumber : (shortNumber num den precision).IsStripped := by
  unfold shortNumber
  dsimp only
  split <;> exact Positional.isStripped_stripped _

/-- Both ways write the number that is rounded once to the significant digits. -/
theorem value_shortNumber (hnum : 0 < num) (hden : 0 < den) :
    (shortNumber num den precision).value *
        10 ^ (shortExponent precision (scientificParts num den (max precision 1 - 1)).2).getD 0 =
      (scientificParts num den (max precision 1 - 1)).1 *
        10 ^ ((scientificParts num den (max precision 1 - 1)).2 - (max precision 1 - 1 : ℕ)) := by
  have h := isScientific_scientificParts (max precision 1 - 1) hnum hden
  unfold shortNumber shortExponent
  dsimp only
  generalize scientificParts num den (max precision 1 - 1) = parts at h ⊢
  obtain ⟨m, e⟩ := parts
  dsimp only at h ⊢
  split
  · rw [Positional.value_stripped, Positional.value_placed, Option.getD_some,
      zpow_sub₀ (by norm_num), zpow_natCast]
    ring
  · next he =>
    have hplaces :
        -((max precision 1 - 1 - e : ℤ).toNat : ℤ) = e - (max precision 1 - 1 : ℕ) := by
      omega
    have hfixed := isNearest_fixedNumber (max precision 1 - 1 - e : ℤ).toNat num hden
    rw [hplaces] at hfixed
    rw [Positional.value_stripped, Option.getD_none, zpow_zero, mul_one]
    exact hfixed.unique h.nearest

/-- With an exponent, the number that is written is a mantissa. -/
theorem mantissa_shortNumber {e : ℤ} (hnum : 0 < num) (hden : 0 < den)
    (he : (scientificParts num den (max precision 1 - 1)).2 = e)
    (h : e < -6 ∨ (max precision 1 : ℕ) ≤ e) :
    1 ≤ (shortNumber num den precision).value ∧ (shortNumber num den precision).value < 10 := by
  have hparts := isScientific_scientificParts (max precision 1 - 1) hnum hden
  have hlow := hparts.zpow_le
  have hhigh := hparts.lt_zpow
  have hexponent : shortExponent precision e = some e := if_pos h
  rw [← value_shortNumber precision hnum hden, he, hexponent, Option.getD_some] at hlow hhigh
  rw [zpow_add_one₀ (by norm_num), mul_comm] at hhigh
  exact ⟨(le_mul_iff_one_le_left (ten_zpow_pos e)).1 hlow,
    lt_of_mul_lt_mul_left hhigh (ten_zpow_pos e).le⟩

/-- What short notation writes: a mantissa and the exponent, or all of the number. -/
theorem exists_short_eq {e : ℤ} (hnum : 0 < num) (hden : 0 < den)
    (he : (scientificParts num den (max precision 1 - 1)).2 = e) :
    ∃ n : Positional, n.IsStripped ∧
      if e < -6 ∨ (max precision 1 : ℕ) ≤ e then
        1 ≤ n.value ∧ n.value < 10 ∧ short num den precision = withExponent n.text e
      else short num den precision = n.text := by
  refine ⟨shortNumber num den precision, isStripped_shortNumber precision, ?_⟩
  rw [short_eq precision den hnum, he, shortExponent]
  split
  · next h =>
    obtain ⟨hone, hten⟩ := mantissa_shortNumber precision hnum hden he h
    exact ⟨hone, hten, rfl⟩
  · exact List.append_nil _

end Short

end Decimals

end Textwork
