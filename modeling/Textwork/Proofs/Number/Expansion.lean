/-
  Decimal arithmetic that keeps a limited number of digits.

  * `DecimalNumeral.cut` and `quantized?` are its operations: a numeral is
    rounded to the digits that are kept, and a number of places is refused if it
    needs more of them;
  * `quantized?_fixed`, `scientificParts?_eq`: with digits enough for the
    expansion of the number and for the places, this arithmetic gives what exact
    arithmetic gives;
  * `Binary64.coefficient_expansion_lt`: 767 digits are enough for every binary
    floating point number.
-/
import Textwork.Number.Reading
import Textwork.Proofs.Number.Notation

namespace Textwork

namespace DecimalNumeral

open Rounding

/-- The number that a numeral stands for. -/
def value (c : DecimalNumeral) : ℚ := c.coefficient * 10 ^ c.exponent

/-! ## Operations -/

/-- The numeral rounded to a number of digits, if it has more. -/
def cut (digits : ℕ) (c : DecimalNumeral) : DecimalNumeral :=
  let extra := decimalLength c.coefficient - digits
  let kept := toNearestAway c.coefficient (10 ^ extra)
  if kept = 10 ^ digits then ⟨10 ^ (digits - 1), c.exponent + extra + 1⟩
  else ⟨kept, c.exponent + extra⟩

/-- The numeral times `10 ^ k`. -/
def shifted (digits : ℕ) (k : ℤ) (c : DecimalNumeral) : DecimalNumeral :=
  cut digits ⟨c.coefficient, c.exponent + k⟩

/-- The numeral with a number of places, as an integer number of the last place; refused if it has
    too many digits. -/
def quantized? (digits places : ℕ) (c : DecimalNumeral) : Option ℕ :=
  let (n, d) := scale 10 (c.exponent + places) c.coefficient 1
  let rounded := toNearestAway n d
  if decimalLength rounded ≤ digits then some rounded else none

/-- The exponent of the leading digit. -/
def leadingExponent (c : DecimalNumeral) : ℤ := c.exponent + decimalLength c.coefficient - 1

/-- The mantissa of `places + 1` digits, as an integer, and the exponent, from the leading digit on:
    the numeral is moved there and rounded, and once more if this gives ten. -/
def scientificParts? (digits places : ℕ) (c : DecimalNumeral) : Option (ℕ × ℤ) := do
  let e := c.leadingExponent
  let m ← (c.shifted digits (-e)).quantized? digits places
  if 10 ^ (places + 1) ≤ m then
    let m ← (c.shifted digits (-(e + 1))).quantized? digits places
    some (m, e + 1)
  else some (m, e)

/-! ## Enough digits -/

variable {digits places num den : ℕ} {c : DecimalNumeral}

theorem toNearestAway_one (n : ℕ) : toNearestAway n 1 = n := by
  unfold toNearestAway
  omega

/-- **No digit is lost** of a numeral that has not more of them than are kept. -/
theorem cut_eq_self (hd : 0 < digits) (h : c.coefficient < 10 ^ digits) : c.cut digits = c := by
  have hextra : decimalLength c.coefficient - digits = 0 :=
    Nat.sub_eq_zero_of_le ((decimalLength_le_iff hd).2 h)
  simp only [cut, hextra, pow_zero, toNearestAway_one, if_neg h.ne, Nat.cast_zero, add_zero]

theorem value_shifted (hd : 0 < digits) (h : c.coefficient < 10 ^ digits) (k : ℤ) :
    (c.shifted digits k).value = c.value * 10 ^ k := by
  have hcut : c.shifted digits k = ⟨c.coefficient, c.exponent + k⟩ := cut_eq_self hd h
  rw [hcut, value, value, mul_assoc, zpow_add₀ (by norm_num)]

theorem quantized?_eq (hd : 0 < digits) (hden : 0 < den)
    (hvalue : c.value * 10 ^ places = (num : ℚ) / den) (h : toNearestAway num den < 10 ^ digits) :
    c.quantized? digits places = some (toNearestAway num den) := by
  have hpos := scale_snd_pos (by decide : 0 < 10) (c.exponent + places) c.coefficient Nat.one_pos
  have hquotient := quotient_scale_one (by decide : 0 < 10) (c.exponent + places) c.coefficient
  rw [Nat.cast_ofNat, zpow_add₀ (by norm_num), zpow_natCast, ← mul_assoc] at hquotient
  have hrounded := toNearestAway_congr hpos hden (hquotient.trans hvalue)
  simp only [quantized?, hrounded, if_pos ((decimalLength_le_iff hd).2 h)]

theorem coefficient_pos (h : 0 < c.value) : 0 < c.coefficient := by
  rw [value, mul_pos_iff_of_pos_right (ten_zpow_pos _)] at h
  exact_mod_cast h

theorem leadingExponent_eq (hc : 0 < c.coefficient) : c.leadingExponent = Int.log 10 c.value := by
  obtain ⟨k, hk, hlow, hhigh⟩ := exists_decimalLength hc
  have hexp : c.leadingExponent = k + c.exponent := by
    rw [leadingExponent, hk]
    push_cast
    ring
  have hunit := ten_zpow_pos c.exponent
  rw [hexp]
  refine eq_log ?_ ?_
  · rw [zpow_add₀ (by norm_num), zpow_natCast]
    exact mul_le_mul_of_nonneg_right (by exact_mod_cast hlow) hunit.le
  · rw [add_right_comm, zpow_add₀ (by norm_num), ← Nat.cast_succ, zpow_natCast]
    exact mul_lt_mul_of_pos_right (by exact_mod_cast hhigh) hunit

theorem quantized?_shifted (hd : 0 < digits) (hc : c.coefficient < 10 ^ digits) (hden : 0 < den)
    (hvalue : c.value = (num : ℚ) / den) (e : ℤ)
    (h : Decimals.mantissaAt num den places e < 10 ^ digits) :
    (c.shifted digits (-e)).quantized? digits places =
      some (Decimals.mantissaAt num den places e) := by
  have hpos := scale_snd_pos (by decide : 0 < 10) (places - e) num hden
  have hquotient := quotient_scale (by decide : 0 < 10) (places - e) num den
  refine quantized?_eq hd hpos (Eq.trans ?_ hquotient.symm) h
  rw [value_shifted hd hc, hvalue, Nat.cast_ofNat, mul_assoc, ← zpow_natCast,
    ← zpow_add₀ (by norm_num), neg_add_eq_sub]

/-- **Scientific notation needs the digits of the number, and two more than the places.** -/
theorem scientificParts?_eq (hc : c.coefficient < 10 ^ digits) (hd : places + 1 < digits)
    (hnum : 0 < num) (hden : 0 < den) (hvalue : c.value = (num : ℚ) / den) :
    c.scientificParts? digits places = some (Decimals.scientificParts num den places) := by
  have hx : (0 : ℚ) < (num : ℚ) / den := by positivity
  have hpos : 0 < c.coefficient := coefficient_pos (hvalue ▸ hx)
  have hlog : c.leadingExponent = Int.log 10 ((num : ℚ) / den) := hvalue ▸ leadingExponent_eq hpos
  have hmantissa (e : ℤ) (h : (num : ℚ) / den ≤ 10 ^ (e + 1)) :
      Decimals.mantissaAt num den places e < 10 ^ digits := by
    have hle := (Decimals.isNearest_mantissaAt places num e hden).le_zpow (by omega) h
    have hten : Decimals.mantissaAt num den places e ≤ 10 ^ (places + 1) :=
      (mul_le_zpow_iff (by push_cast; omega)).1 hle
    exact hten.trans_lt (Nat.pow_lt_pow_right (by decide) hd)
  have hlt := (lt_zpow_log ((num : ℚ) / den)).le
  have hmantissa₀ := hmantissa _ hlt
  have hmantissa₁ := hmantissa (Int.log 10 ((num : ℚ) / den) + 1)
    (hlt.trans (zpow_le_zpow_right₀ (by norm_num) (by omega)))
  rw [scientificParts?, hlog, Decimals.scientificParts_eq places hnum hden,
    quantized?_shifted (by omega) hc hden hvalue _ hmantissa₀,
    quantized?_shifted (by omega) hc hden hvalue _ hmantissa₁]
  simp only [Option.bind_eq_bind, Option.bind_some]
  split <;> rfl

/-- **Fixed notation needs the places, and the digits before the point.** -/
theorem quantized?_fixed {k : ℕ} (hlt : c.value < 10 ^ k) (hd : places + k < digits)
    (hden : 0 < den) (hvalue : c.value = (num : ℚ) / den) :
    c.quantized? digits places = some (toNearestAway (num * 10 ^ places) den) := by
  have hvalue' : c.value * 10 ^ places = ((num * 10 ^ places : ℕ) : ℚ) / den := by
    rw [hvalue]
    push_cast
    ring
  refine quantized?_eq (by omega) hden hvalue' ?_
  have hbound : ((num * 10 ^ places : ℕ) : ℚ) / den ≤ 10 ^ (k + places : ℤ) := by
    rw [← hvalue', zpow_add₀ (by norm_num), zpow_natCast, zpow_natCast]
    exact mul_le_mul_of_nonneg_right hlt.le (by positivity)
  have hle := (isNearest_toNearestAway (num * 10 ^ places) 0 hden).le_zpow (f := k + places)
    (by omega) (by simpa using hbound)
  exact ((mul_le_zpow_iff (k := k + places) (by push_cast; omega)).1 hle).trans_lt
    (Nat.pow_lt_pow_right (by decide) (by omega))

end DecimalNumeral

/-! ## Binary floating point numbers -/

namespace Binary64

/-- The decimal expansion of `m * 2 ^ q`. -/
def expansion (m : ℕ) (q : ℤ) : DecimalNumeral :=
  if 0 ≤ q then ⟨m * 2 ^ q.toNat, 0⟩ else ⟨m * 5 ^ (-q).toNat, q⟩

variable {m : ℕ} {q : ℤ}

theorem value_expansion (m : ℕ) (q : ℤ) : (expansion m q).value = m * 2 ^ q := by
  unfold expansion DecimalNumeral.value
  split
  · next h =>
    obtain ⟨n, rfl⟩ := Int.eq_ofNat_of_zero_le h
    simp
  · next h =>
    obtain ⟨n, hn⟩ := Int.eq_ofNat_of_zero_le (show 0 ≤ -q by omega)
    obtain rfl : q = -(n : ℤ) := by omega
    have hten : (10 : ℚ) ^ n = 5 ^ n * 2 ^ n := by rw [← mul_pow]; norm_num
    simp only [neg_neg, Int.toNat_natCast, zpow_neg, zpow_natCast, Nat.cast_mul, Nat.cast_pow,
      Nat.cast_ofNat, hten]
    field_simp

/-- **767 digits hold every binary floating point number.** -/
theorem coefficient_expansion_lt (fits : m < 2 ^ 53 ∧ -1074 ≤ q ∧ q ≤ 971) :
    (expansion m q).coefficient < 10 ^ 767 := by
  obtain ⟨hm, hlow, hhigh⟩ := fits
  unfold expansion
  split
  · calc m * 2 ^ q.toNat < 2 ^ 53 * 2 ^ q.toNat := Nat.mul_lt_mul_of_pos_right hm (by positivity)
      _ ≤ 2 ^ 53 * 2 ^ 971 := Nat.mul_le_mul_left _ (Nat.pow_le_pow_right (by decide) (by omega))
      _ < 10 ^ 767 := by decide +kernel
  · calc m * 5 ^ (-q).toNat < 2 ^ 53 * 5 ^ (-q).toNat :=
          Nat.mul_lt_mul_of_pos_right hm (by positivity)
      _ ≤ 2 ^ 53 * 5 ^ 1074 := Nat.mul_le_mul_left _ (Nat.pow_le_pow_right (by decide) (by omega))
      _ < 10 ^ 767 := by decide +kernel

/-- No finite number has more than 309 digits before the point. -/
theorem value_expansion_lt (fits : m < 2 ^ 53 ∧ -1074 ≤ q ∧ q ≤ 971) :
    (expansion m q).value < 10 ^ 309 := by
  have hm : (m : ℚ) < 2 ^ 53 := by exact_mod_cast fits.1
  have hq : (2 : ℚ) ^ q ≤ 2 ^ 971 := by
    rw [← zpow_natCast]
    exact zpow_le_zpow_right₀ (by norm_num) fits.2.2
  have hpow : 2 ^ 53 * 2 ^ 971 < 10 ^ 309 := by decide +kernel
  rw [value_expansion]
  calc (m : ℚ) * 2 ^ q < 2 ^ 53 * 2 ^ q := mul_lt_mul_of_pos_right hm (zpow_pos (by norm_num) q)
    _ ≤ 2 ^ 53 * 2 ^ 971 := mul_le_mul_of_nonneg_left hq (by positivity)
    _ < 10 ^ 309 := by exact_mod_cast hpow

end Binary64

end Textwork
