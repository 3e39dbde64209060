/-
  Rounding of quotients as a matter of rational numbers.

  * `IsNearest e x y`: `y` is the multiple of `10 ^ e` nearest to `x`, a half
    going away from zero; there is one (`isNearest_toNearestAway`), there is no
    other (`IsNearest.unique`), and it grows with `x` (`IsNearest.le`);
  * `quotient_scale`: what scaling does to a quotient;
  * `decimalExponent_eq_log`: the decimal exponent is the integer logarithm;
  * `toRat?_finite`: the value of a finite binary number is its significand
    times a power of two.
-/
import Textwork.Number.Binary64
import Mathlib.Algebra.Order.Round
import Mathlib.Data.Int.Log
import Mathlib.Data.Rat.Floor
import Mathlib.Tactic.FieldSimp
import Mathlib.Tactic.Linarith
import Mathlib.Tactic.NormNum
import Mathlib.Tactic.Positivity
import Mathlib.Tactic.Ring

namespace Textwork

/-! ## Multiples of a power of ten -/

theorem ten_zpow_pos (e : ℤ) : (0 : ℚ) < 10 ^ e := zpow_pos (by norm_num) e

section Multiples

variable {m k : ℕ} {e f : ℤ}

theorem pow_mul_zpow (h : f = k + e) : (10 : ℚ) ^ k * 10 ^ e = 10 ^ f := by
  rw [h, zpow_add₀ (by norm_num), zpow_natCast]

theorem zpow_le_mul_iff (h : f = k + e) : 10 ^ f ≤ (m : ℚ) * 10 ^ e ↔ 10 ^ k ≤ m := by
  rw [← pow_mul_zpow h, mul_le_mul_iff_left₀ (ten_zpow_pos _)]
  exact_mod_cast Iff.rfl

theorem mul_le_zpow_iff (h : f = k + e) : (m : ℚ) * 10 ^ e ≤ 10 ^ f ↔ m ≤ 10 ^ k := by
  rw [← pow_mul_zpow h, mul_le_mul_iff_left₀ (ten_zpow_pos _)]
  exact_mod_cast Iff.rfl

theorem mul_lt_zpow_iff (h : f = k + e) : (m : ℚ) * 10 ^ e < 10 ^ f ↔ m < 10 ^ k := by
  rw [← not_le, zpow_le_mul_iff h, not_le]

end Multiples

/-! ## The nearest multiple -/

/-- `y` is the multiple of `10 ^ e` nearest to `x`, a half going away from zero. -/
structure IsNearest (e : ℤ) (x y : ℚ) : Prop where
  multiple : ∃ n : ℤ, y = n * 10 ^ e
  near : |x - y| ≤ 10 ^ e / 2
  away : |x - y| = 10 ^ e / 2 → |x| < |y|

namespace IsNearest

variable {e f : ℤ} {x x' y y' : ℚ}

theorem neg (h : IsNearest e x y) : IsNearest e (-x) (-y) := by
  have hdist : |-x - -y| = |x - y| := by rw [← abs_neg (x - y)]; congr 1; ring
  refine ⟨?_, hdist ▸ h.near, ?_⟩
  · obtain ⟨n, rfl⟩ := h.multiple
    exact ⟨-n, by push_cast; ring⟩
  · rw [hdist, abs_neg, abs_neg]
    exact h.away

/-- Powers of ten from the unit on are not changed. -/
theorem zpow (h : e ≤ f) : IsNearest e (10 ^ f) (10 ^ f) := by
  have hpos := ten_zpow_pos e
  have hf : f = (f - e).toNat + e := by omega
  refine ⟨⟨10 ^ (f - e).toNat, ?_⟩, ?_, fun h => ?_⟩
  · rw [← pow_mul_zpow hf]
    push_cast
    rfl
  · rw [sub_self, abs_zero]
    linarith
  · rw [sub_self, abs_zero] at h
    linarith

/-- Two multiples in the wrong order would be a unit apart with the number half-way between them,
    and it cannot be rounded both ways. -/
theorem le (h : IsNearest e x y) (h' : IsNearest e x' y') (hx : x ≤ x') : y ≤ y' := by
  by_contra hlt
  obtain ⟨n, hn⟩ := h.multiple
  obtain ⟨n', hn'⟩ := h'.multiple
  have hpos := ten_zpow_pos e
  have hstep : n' + 1 ≤ n := by
    rw [hn, hn', not_le] at hlt
    exact_mod_cast lt_of_mul_lt_mul_right hlt hpos.le
  have hgap : y' + 10 ^ e ≤ y := by
    have hcast : ((n' : ℚ) + 1) * 10 ^ e ≤ n * 10 ^ e :=
      mul_le_mul_of_nonneg_right (by exact_mod_cast hstep) hpos.le
    rw [hn, hn']
    linarith
  have hnear := abs_le.1 h.near
  have hnear' := abs_le.1 h'.near
  have hdown : x - y = -(10 ^ e / 2) := by linarith
  have hup : x' - y' = 10 ^ e / 2 := by linarith
  have haway := h.away (by rw [hdown, abs_neg, abs_of_pos (by linarith)])
  have haway' := h'.away (by rw [hup, abs_of_pos (by linarith)])
  rcases le_or_gt y 0 with hy | hy
  · rw [abs_of_nonpos hy] at haway
    linarith [neg_le_abs x]
  · have hunit : 10 ^ e ≤ y := by
      rw [hn] at hy ⊢
      have hn0 : 0 < n := by exact_mod_cast pos_of_mul_pos_left hy hpos.le
      exact le_mul_of_one_le_left hpos.le (by exact_mod_cast hn0)
    have hy' : 0 ≤ y' := by linarith
    rw [abs_of_nonneg hy'] at haway'
    linarith [le_abs_self x']

theorem unique (h : IsNearest e x y) (h' : IsNearest e x y') : y = y' :=
  le_antisymm (h.le h' le_rfl) (h'.le h le_rfl)

theorem zpow_le (h : IsNearest e x y) (hf : e ≤ f) (hx : 10 ^ f ≤ x) : 10 ^ f ≤ y :=
  (zpow hf).le h hx

theorem le_zpow (h : IsNearest e x y) (hf : e ≤ f) (hx : x ≤ 10 ^ f) : y ≤ 10 ^ f :=
  h.le (zpow hf) hx

/-- A rounded number that has fewer places is also what rounding to these places gives. -/
theorem coarsen (h : IsNearest e x y) (hle : e ≤ f) (hy : ∃ n : ℤ, y = n * 10 ^ f) :
    IsNearest f x y := by
  have hunit : (10 : ℚ) ^ e ≤ 10 ^ f := zpow_le_zpow_right₀ (by norm_num) hle
  refine ⟨hy, by linarith [h.near], fun htie => h.away ?_⟩
  linarith [h.near]

end IsNearest

namespace Rounding

variable {num den : ℕ}

theorem toNearestAway_bounds (num : ℕ) (hden : 0 < den) :
    (toNearestAway num den : ℚ) - 1 / 2 ≤ num / den ∧
      (num : ℚ) / den < toNearestAway num den + 1 / 2 := by
  have hpos : (0 : ℚ) < den := by exact_mod_cast hden
  have hlow : toNearestAway num den * (2 * den) ≤ 2 * num + den := Nat.div_mul_le_self _ _
  have hhigh : 2 * num + den < (toNearestAway num den + 1) * (2 * den) :=
    Nat.lt_mul_of_div_lt (Nat.lt_succ_self _) (by omega)
  have hlow' : (toNearestAway num den : ℚ) * (2 * den) ≤ 2 * num + den := by exact_mod_cast hlow
  have hhigh' : (2 * num + den : ℚ) < (toNearestAway num den + 1) * (2 * den) := by
    exact_mod_cast hhigh
  rw [le_div_iff₀ hpos, div_lt_iff₀ hpos]
  constructor <;> linarith

theorem isNearest_toNearestAway (num : ℕ) (e : ℤ) (hden : 0 < den) :
    IsNearest e (num / den * 10 ^ e) (toNearestAway num den * 10 ^ e) := by
  obtain ⟨hlow, hhigh⟩ := toNearestAway_bounds num hden
  have hpos := ten_zpow_pos e
  have hx : (0 : ℚ) ≤ num / den := by positivity
  set x : ℚ := num / den
  set n : ℚ := (toNearestAway num den : ℚ) with hn
  have hdist : |x * 10 ^ e - n * 10 ^ e| = |x - n| * 10 ^ e := by
    rw [← sub_mul, abs_mul, abs_of_pos hpos]
  refine ⟨⟨toNearestAway num den, by simp [hn]⟩, ?_, fun h => ?_⟩
  · rw [hdist, div_eq_inv_mul]
    refine mul_le_mul_of_nonneg_right (abs_le.2 ⟨?_, ?_⟩) hpos.le <;> linarith
  · have hhalf : |x - n| = 1 / 2 := by
      rw [hdist] at h
      field_simp at h ⊢
      linarith
    have hlt : x < n := by
      rcases abs_cases (x - n) with ⟨ha, -⟩ | ⟨ha, -⟩ <;> linarith
    rw [abs_of_nonneg (by positivity), abs_of_nonneg (by positivity)]
    exact mul_lt_mul_of_pos_right hlt hpos

/-- Equal quotients are rounded alike. -/
theorem toNearestAway_congr {num' den' : ℕ} (hden : 0 < den) (hden' : 0 < den')
    (h : (num : ℚ) / den = num' / den') : toNearestAway num den = toNearestAway num' den' := by
  have hn := isNearest_toNearestAway num 0 hden
  have hn' := isNearest_toNearestAway num' 0 hden'
  rw [h] at hn
  simpa using hn.unique hn'

/-! ## Scaling -/

theorem scale_snd_pos {base : ℕ} (hbase : 0 < base) (e : ℤ) (num : ℕ) (hden : 0 < den) :
    0 < (scale base e num den).2 := by
  unfold scale
  split
  · exact hden
  · exact Nat.mul_pos hden (Nat.pow_pos hbase)

theorem quotient_scale {base : ℕ} (hbase : 0 < base) (e : ℤ) (num den : ℕ) :
    ((scale base e num den).1 : ℚ) / (scale base e num den).2 = num / den * base ^ e := by
  have hpos : (base : ℚ) ≠ 0 := by exact_mod_cast hbase.ne'
  unfold scale
  split
  · next h =>
    obtain ⟨n, rfl⟩ := Int.eq_ofNat_of_zero_le h
    simp only [Int.toNat_natCast, Nat.pow_eq, Nat.cast_mul, Nat.cast_pow, zpow_natCast]
    ring
  · next h =>
    obtain ⟨n, hn⟩ := Int.eq_ofNat_of_zero_le (show 0 ≤ -e by omega)
    have he : e = -(n : ℤ) := by omega
    subst he
    simp only [neg_neg, Int.toNat_natCast, Nat.pow_eq, Nat.cast_mul, Nat.cast_pow, zpow_neg,
      zpow_natCast]
    rw [div_mul_eq_div_div, div_eq_mul_inv _ ((base : ℚ) ^ n)]

theorem quotient_scale_one {base : ℕ} (hbase : 0 < base) (e : ℤ) (n : ℕ) :
    ((scale base e n 1).1 : ℚ) / (scale base e n 1).2 = n * base ^ e := by
  rw [quotient_scale hbase, Nat.cast_one, div_one]

/-- `1` or `-1`. -/
def signOf (negative : Bool) : ℚ := if negative then -1 else 1

theorem abs_signOf_mul {negative : Bool} {x : ℚ} (hx : 0 ≤ x) : |signOf negative * x| = x := by
  cases negative <;> simp [signOf, abs_of_nonneg hx]

theorem signOf_mul_natAbs (n : ℤ) : signOf (n < 0) * (n.natAbs : ℚ) = n := by
  rcases lt_or_ge n 0 with hn | hn
  · simp [signOf, hn, Nat.cast_natAbs, abs_of_neg hn]
  · simp [signOf, not_lt.2 hn, Nat.cast_natAbs, abs_of_nonneg hn]

/-- Rounding treats both signs alike. -/
theorem isNearest_of_abs {e : ℤ} {x y : ℚ} (h : IsNearest e |x| y) :
    IsNearest e x (signOf (x < 0) * y) := by
  unfold signOf
  rcases lt_or_ge x 0 with hx | hx
  · rw [abs_of_neg hx] at h
    rw [if_pos (decide_eq_true hx), neg_one_mul]
    simpa using h.neg
  · rw [abs_of_nonneg hx] at h
    rwa [if_neg (by simpa using hx), one_mul]

theorem mkRat_scale {base : ℕ} (hbase : 0 < base) (negative : Bool) (e : ℤ) (n : ℕ) :
    mkRat (Numeral.withSign negative (scale base e n 1).1) (scale base e n 1).2 =
      signOf negative * (n * base ^ e) := by
  rw [Rat.mkRat_eq_div, ← quotient_scale_one hbase, signOf]
  cases negative with
  | false => simp [Numeral.withSign]
  | true => simp [Numeral.withSign, neg_div]

/-! ## Decimal sizes -/

theorem decimalLength_le_iff {n k : ℕ} (hk : 0 < k) : decimalLength n ≤ k ↔ n < 10 ^ k :=
  Nat.length_toDigits_le_iff (by decide) hk

/-- The numeral of `n` has `k + 1` digits for the `k` with `10 ^ k ≤ n < 10 ^ (k + 1)`. -/
theorem exists_decimalLength {n : ℕ} (hn : 0 < n) :
    ∃ k, decimalLength n = k + 1 ∧ 10 ^ k ≤ n ∧ n < 10 ^ (k + 1) := by
  obtain ⟨k, hk⟩ := Nat.exists_eq_succ_of_ne_zero (Nat.length_toDigits_pos (b := 10) (n := n)).ne'
  have hlength : decimalLength n = k + 1 := hk
  refine ⟨k, hlength, ?_, (decimalLength_le_iff k.succ_pos).1 hlength.le⟩
  by_contra hlt
  rcases Nat.eq_zero_or_pos k with rfl | hpos
  · exact hlt hn
  · have hle := (decimalLength_le_iff hpos).2 (not_le.1 hlt)
    omega

theorem zpow_log_le {x : ℚ} (hx : 0 < x) : 10 ^ Int.log 10 x ≤ x := by
  exact_mod_cast Int.zpow_log_le_self (by decide : 1 < 10) hx

theorem lt_zpow_log (x : ℚ) : x < 10 ^ (Int.log 10 x + 1) := by
  exact_mod_cast Int.lt_zpow_succ_log_self (by decide : 1 < 10) x

theorem eq_log {x : ℚ} {z : ℤ} (hlow : 10 ^ z ≤ x) (hhigh : x < 10 ^ (z + 1)) :
    z = Int.log 10 x := by
  have hx : 0 < x := lt_of_lt_of_le (ten_zpow_pos z) hlow
  have hle : z ≤ Int.log 10 x := (Int.zpow_le_iff_le_log (by decide) hx).1 (by exact_mod_cast hlow)
  have hlt : Int.log 10 x < z + 1 :=
    (Int.lt_zpow_iff_log_lt (by decide) hx).1 (by exact_mod_cast hhigh)
  omega

/-- **The decimal exponent is the integer logarithm.** -/
theorem decimalExponent_eq_log (hnum : 0 < num) (hden : 0 < den) :
    decimalExponent num den = Int.log 10 ((num : ℚ) / den) := by
  have hn : (0 : ℚ) < num := by exact_mod_cast hnum
  have hd : (0 : ℚ) < den := by exact_mod_cast hden
  unfold decimalExponent
  split
  · next h =>
    obtain ⟨k, hk, hlow, hhigh⟩ := exists_decimalLength (Nat.div_pos h hden)
    have hlow' : 10 ^ k * den ≤ num := (Nat.le_div_iff_mul_le hden).1 hlow
    have hhigh' : num < 10 ^ (k + 1) * den := (Nat.div_lt_iff_lt_mul hden).1 hhigh
    have hexp : ((decimalLength (num / den) : ℤ) - 1) = k := by omega
    rw [hexp]
    refine eq_log ?_ ?_
    · rw [le_div_iff₀ hd, zpow_natCast]
      exact_mod_cast hlow'
    · rw [div_lt_iff₀ hd, ← Nat.cast_add_one, zpow_natCast]
      exact_mod_cast hhigh'
  · next h =>
    obtain ⟨k, hk, hlow, hhigh⟩ :=
      exists_decimalLength (Nat.div_pos (Nat.le_sub_one_of_lt (not_le.1 h)) hnum)
    have hlow' : 10 ^ k * num ≤ den - 1 := (Nat.le_div_iff_mul_le hnum).1 hlow
    have hhigh' : den - 1 < 10 ^ (k + 1) * num := (Nat.div_lt_iff_lt_mul hnum).1 hhigh
    have hup : den ≤ 10 ^ (k + 1) * num := by omega
    have hdown : 10 ^ k * num < den := by omega
    rw [hk]
    refine eq_log ?_ ?_
    · rw [le_div_iff₀ hd, zpow_neg, zpow_natCast, inv_mul_le_iff₀ (by positivity)]
      exact_mod_cast hup
    · have hexp : -((k + 1 : ℕ) : ℤ) + 1 = -(k : ℤ) := by push_cast; ring
      rw [hexp, div_lt_iff₀ hd, zpow_neg, zpow_natCast, lt_inv_mul_iff₀ (by positivity)]
      exact_mod_cast hdown

end Rounding

/-! ## Binary numbers -/

namespace Binary64

open Rounding

theorem magnitude_snd_pos (m : ℕ) (q : ℤ) : 0 < (magnitude m q).2 :=
  scale_snd_pos (by decide) q m Nat.one_pos

theorem quotient_magnitude (m : ℕ) (q : ℤ) :
    ((magnitude m q).1 : ℚ) / (magnitude m q).2 = m * 2 ^ q := by
  rw [magnitude, quotient_scale_one (by decide), Nat.cast_ofNat]

theorem toRat?_finite (negative : Bool) (m : ℕ) (q : ℤ) (fits) :
    (finite negative m q fits).toRat? = some (signOf negative * (m * 2 ^ q)) := by
  have h := mkRat_scale (by decide : 0 < 2) negative q m
  rw [Nat.cast_ofNat] at h
  simp only [toRat?, magnitude, h]

variable {x : Binary64} {r : ℚ}

theorem exists_finite (hx : x.toRat? = some r) :
    ∃ negative m q fits, x = finite negative m q fits ∧ r = signOf negative * (m * 2 ^ q) := by
  cases x with
  | finite negative m q fits =>
    rw [toRat?_finite, Option.some.injEq] at hx
    exact ⟨negative, m, q, fits, rfl, hx.symm⟩
  | infinite | nan => cases hx

end Binary64

end Textwork
