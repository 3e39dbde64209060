/-
  The binary floating point number nearest to a rational number.

  * `Binary64.Rounds r x`: `x` is the finite number nearest to `r`, with an even
    significand if another one is as near, or an infinity from half a unit past
    the greatest finite number on; there is no other one (`Rounds.unique`);
  * `rounds_ofRatio`: quotients are rounded so;
  * `rounds_ofDecimal`: so are decimal fractions, those far out of range too.
-/
import Textwork.Proofs.Number.Rounding

namespace Textwork

/-! ## The nearest integer -/

namespace Rounding

/-- `k` is the integer nearest to `x`, the even one if there are two. -/
structure IsNearestEven (x : ℚ) (k : ℕ) : Prop where
  near : |x - k| ≤ 1 / 2
  even : |x - k| = 1 / 2 → Even k

theorem isNearestEven_toNearestEven (num : ℕ) {den : ℕ} (hden : 0 < den) :
    IsNearestEven (num / den) (toNearestEven num den) := by
  have hpos : (0 : ℚ) < den := by exact_mod_cast hden
  have hnum : (num : ℚ) = den * (num / den : ℕ) + (num % den : ℕ) := by
    exact_mod_cast (Nat.div_add_mod num den).symm
  have hquotient : (num : ℚ) / den = (num / den : ℕ) + ((num % den : ℕ) : ℚ) / den := by
    rw [div_eq_iff hpos.ne', add_mul, div_mul_cancel₀ _ hpos.ne']
    linarith
  have hrest : (0 : ℚ) ≤ ((num % den : ℕ) : ℚ) / den := by positivity
  have hless : ((num % den : ℕ) : ℚ) / den < 1 := by
    rw [div_lt_one hpos]
    exact_mod_cast Nat.mod_lt num hden
  unfold toNearestEven
  generalize num / den = w at hquotient ⊢
  generalize num % den = r at hquotient hrest hless ⊢
  have hhalf : ((r : ℚ) / den < 1 / 2 ↔ 2 * r < den) ∧ ((r : ℚ) / den = 1 / 2 ↔ 2 * r = den) := by
    rw [div_lt_iff₀ hpos, div_eq_iff hpos.ne']
    constructor
    · rw [← @Nat.cast_lt ℚ, Nat.cast_mul, Nat.cast_ofNat]
      constructor <;> intro h <;> linarith
    · rw [← @Nat.cast_inj ℚ, Nat.cast_mul, Nat.cast_ofNat]
      constructor <;> intro h <;> linarith
  rw [hquotient]
  dsimp only
  split_ifs with hlt heq
  · have hsmall := hhalf.1.2 hlt
    have hdist : |(w : ℚ) + r / den - w| = r / den := by
      rw [add_sub_cancel_left, abs_of_nonneg hrest]
    constructor
    · rw [hdist]
      exact hsmall.le
    · rw [hdist]
      intro h
      exact absurd h hsmall.ne
  · have hhalf' := hhalf.2.2 heq.1
    constructor
    · rw [add_sub_cancel_left, hhalf', abs_of_pos (by norm_num)]
    · intro _
      exact Nat.even_iff.2 heq.2
  · have hlarge : 1 / 2 ≤ (r : ℚ) / den := not_lt.1 fun h => hlt (hhalf.1.1 h)
    have hdist : |(w : ℚ) + r / den - ((w + 1 : ℕ) : ℚ)| = 1 - r / den := by
      rw [Nat.cast_add_one, abs_of_nonpos (by linarith)]
      ring
    constructor
    · rw [hdist]
      linarith
    · rw [hdist]
      intro h
      have htie := hhalf.2.1 (by linarith : (r : ℚ) / den = 1 / 2)
      have hodd : w % 2 ≠ 0 := fun hw => heq ⟨htie, hw⟩
      exact Nat.even_iff.2 (by omega)

variable {x : ℚ} {k : ℕ}

theorem IsNearestEven.le (h : IsNearestEven x k) (z : ℤ) :
    |x - k| ≤ |x - z| ∧ ((z : ℚ) ≠ k → |x - k| = |x - z| → Even k) := by
  by_cases hz : z = k
  · subst hz
    simp
  · have hunit : (1 : ℚ) ≤ |(k : ℚ) - z| := by
      have : (1 : ℤ) ≤ |(k : ℤ) - z| := Int.one_le_abs (sub_ne_zero.2 (Ne.symm hz))
      exact_mod_cast this
    have htriangle : |(k : ℚ) - z| ≤ |x - k| + |x - z| := by
      rw [abs_sub_comm x k]
      exact abs_sub_le _ _ _
    have hnear := h.near
    refine ⟨by linarith, fun _ heq => h.even ?_⟩
    linarith

theorem IsNearestEven.natCast_le (h : IsNearestEven x k) {n : ℕ} (hx : n ≤ x) : n ≤ k := by
  by_contra hlt
  have hstep : ((k + 1 : ℕ) : ℚ) ≤ n := by exact_mod_cast not_le.1 hlt
  have hnear := abs_le.1 h.near
  push_cast at hstep
  linarith

theorem IsNearestEven.le_natCast (h : IsNearestEven x k) {n : ℕ} (hx : x ≤ n) : k ≤ n := by
  by_contra hlt
  have hstep : ((n + 1 : ℕ) : ℚ) ≤ k := by exact_mod_cast not_le.1 hlt
  have hnear := abs_le.1 h.near
  push_cast at hstep
  linarith

end Rounding

open Rounding

namespace Binary64

/-! ## The nearest number with an exponent -/

theorem two_zpow_pos (q : ℤ) : (0 : ℚ) < 2 ^ q := zpow_pos (by norm_num) q

theorem zpow_succ (e : ℤ) : (2 : ℚ) ^ (e + 1) = 2 * 2 ^ e := by
  rw [zpow_add_one₀ (by norm_num), mul_comm]

theorem abs_sub_mul_zpow (x z : ℚ) (q : ℤ) : |x - z * 2 ^ q| = |x / 2 ^ q - z| * 2 ^ q := by
  have hpos := two_zpow_pos q
  conv_rhs => rw [← abs_of_pos hpos, ← abs_mul, sub_mul, abs_of_pos hpos,
    div_mul_cancel₀ _ hpos.ne']

/-- No number with a significand below `2 ^ 53` is closer to `x`, whatever its exponent, and where
    one is as close the significand is even. -/
structure IsClosest (x : ℚ) (m : ℕ) (q : ℤ) : Prop where
  near : ∀ z q₀ : ℤ, |z| < 2 ^ 53 → -1074 ≤ q₀ → |x - m * 2 ^ q| ≤ |x - z * 2 ^ q₀|
  even : ∀ z q₀ : ℤ, |z| < 2 ^ 53 → -1074 ≤ q₀ → (z : ℚ) * 2 ^ q₀ ≠ m * 2 ^ q →
    |x - m * 2 ^ q| = |x - z * 2 ^ q₀| → Even m

variable {x r : ℚ} {m : ℕ} {q z q₀ : ℤ} {negative : Bool}

theorem mul_zpow_eq (z : ℤ) (h : q ≤ q₀) :
    (z : ℚ) * 2 ^ q₀ = ((z * 2 ^ (q₀ - q).toNat : ℤ) : ℚ) * 2 ^ q := by
  obtain ⟨n, hn⟩ := Int.eq_ofNat_of_zero_le (show 0 ≤ q₀ - q by omega)
  obtain rfl : q₀ = n + q := by omega
  rw [add_sub_cancel_right, Int.toNat_natCast, zpow_add₀ (by norm_num), zpow_natCast]
  push_cast
  ring

/-- Numbers of a smaller exponent lie below all numbers with 53 bits. -/
theorem mul_zpow_lt (hz : |z| < 2 ^ 53) (h : q₀ < q) : (z : ℚ) * 2 ^ q₀ < 2 ^ 52 * 2 ^ q := by
  have hz' : (z : ℚ) < 2 ^ 53 := by exact_mod_cast (le_abs_self z).trans_lt hz
  have hstep : (2 : ℚ) ^ q₀ ≤ 2 ^ (q - 1) := zpow_le_zpow_right₀ (by norm_num) (by omega)
  have hhalf := zpow_succ (q - 1)
  rw [sub_add_cancel] at hhalf
  calc (z : ℚ) * 2 ^ q₀ < 2 ^ 53 * 2 ^ q₀ := mul_lt_mul_of_pos_right hz' (two_zpow_pos q₀)
    _ ≤ 2 ^ 53 * 2 ^ (q - 1) := mul_le_mul_of_nonneg_left hstep (by positivity)
    _ = 2 ^ 52 * 2 ^ q := by rw [hhalf]; ring

/-- **Rounding at the last of 53 bits is rounding to the nearest number.** -/
theorem isClosest_of_isNearestEven (h : IsNearestEven (x / 2 ^ q) m)
    (hx : q = -1074 ∨ 2 ^ 52 * 2 ^ q ≤ x) : IsClosest x m q := by
  have hpos := two_zpow_pos q
  have hcompare : ∀ z q₀ : ℤ, |z| < 2 ^ 53 → -1074 ≤ q₀ →
      (∃ k : ℤ, (z : ℚ) * 2 ^ q₀ = k * 2 ^ q) ∨ |x - m * 2 ^ q| < |x - z * 2 ^ q₀| := by
    intro z q₀ hz hq₀
    rcases le_or_gt q q₀ with hq | hq
    · exact .inl ⟨_, mul_zpow_eq z hq⟩
    · right
      have hlow : 2 ^ 52 * 2 ^ q ≤ x := hx.resolve_left (by omega)
      have hbelow := mul_zpow_lt hz hq
      have hbound : |x - m * 2 ^ q| ≤ |x - 2 ^ 52 * 2 ^ q| := by
        rw [abs_sub_mul_zpow, abs_sub_mul_zpow]
        have hnear := (h.le (2 ^ 52)).1
        rw [Int.cast_pow, Int.cast_ofNat] at hnear
        exact mul_le_mul_of_nonneg_right hnear hpos.le
      rw [abs_of_nonneg (sub_nonneg.2 hlow)] at hbound
      rw [abs_of_pos (sub_pos.2 (hbelow.trans_le hlow))]
      linarith
  constructor
  · intro z q₀ hz hq₀
    rcases hcompare z q₀ hz hq₀ with ⟨k, hk⟩ | hlt
    · rw [hk, abs_sub_mul_zpow, abs_sub_mul_zpow]
      exact mul_le_mul_of_nonneg_right (h.le k).1 hpos.le
    · exact hlt.le
  · intro z q₀ hz hq₀ hne heq
    rcases hcompare z q₀ hz hq₀ with ⟨k, hk⟩ | hlt
    · rw [hk, abs_sub_mul_zpow, abs_sub_mul_zpow] at heq
      refine (h.le k).2 (fun hkm => hne (by rw [hk, hkm])) ?_
      exact mul_right_cancel₀ hpos.ne' heq
    · exact absurd heq hlt.ne

/-- A significand of 54 bits that is a power of two loses its last bit. -/
theorem IsClosest.carry (h : IsClosest x (2 ^ 53) q) : IsClosest x (2 ^ 52) (q + 1) := by
  have hvalue : ((2 ^ 52 : ℕ) : ℚ) * 2 ^ (q + 1) = (2 ^ 53 : ℕ) * 2 ^ q := by
    rw [zpow_succ]
    push_cast
    ring
  constructor
  · rw [hvalue]
    exact h.near
  · intro _ _ _ _ _ _
    decide

/-! ## Correct rounding -/

/-- Half a unit past the greatest finite number. -/
def overflow : ℚ := (2 ^ 54 - 1) * 2 ^ (970 : ℤ)

/-- No finite number is nearer to `r` than `± m * 2 ^ q`, with an even significand if another one is
    as near.  The significand has all bits that it can have, and the sign of a zero is left open. -/
structure RoundsFinite (r : ℚ) (negative : Bool) (m : ℕ) (q : ℤ) : Prop where
  bound : |r| < overflow
  normal : 2 ^ 52 ≤ m ∨ q = -1074
  sign : m ≠ 0 → negative = decide (r < 0)
  near : ∀ y v, toRat? y = some v → |r - signOf negative * (m * 2 ^ q)| ≤ |r - v|
  even : ∀ y v, toRat? y = some v → v ≠ signOf negative * (m * 2 ^ q) →
    |r - signOf negative * (m * 2 ^ q)| = |r - v| → Even m

/-- What a rational number is rounded to. -/
inductive Rounds (r : ℚ) : Binary64 → Prop
  | finite {negative : Bool} {m : ℕ} {q : ℤ} {fits} (h : RoundsFinite r negative m q) :
      Rounds r (.finite negative m q fits)
  | infinite {negative : Bool} (bound : overflow ≤ |r|) (sign : negative = decide (r < 0)) :
      Rounds r (.infinite negative)

theorem overflow_pos : 0 < overflow := by
  have hunit : (1 : ℚ) ≤ 2 ^ 54 - 1 := by norm_num
  exact mul_pos (by linarith) (two_zpow_pos 970)

/-- It lies in the middle between the greatest number and the next one of 53 bits. -/
theorem two_mul_overflow :
    2 * overflow = ((2 ^ 53 - 1 : ℤ) : ℚ) * 2 ^ (971 : ℤ) + ((2 ^ 52 : ℤ) : ℚ) * 2 ^ (972 : ℤ) := by
  have h971 : (2 : ℚ) ^ (971 : ℤ) = 2 * 2 ^ (970 : ℤ) := zpow_succ 970
  have h972 : (2 : ℚ) ^ (972 : ℤ) = 2 * 2 ^ (971 : ℤ) := zpow_succ 971
  rw [overflow, h972, h971]
  generalize (2 : ℚ) ^ (970 : ℤ) = u
  push_cast
  ring

section Halves

variable {a b v : ℚ}

/-- Beyond the middle between `a` and `b` no number up to `a` is closer than `b`. -/
theorem eq_of_half_le (hab : a < b) (hx : a + b ≤ 2 * x) (hv : v ≤ a) (h : |x - v| ≤ |x - b|) :
    v = a ∧ |x - v| = |x - b| := by
  rw [abs_of_nonneg (by linarith : 0 ≤ x - v)] at h ⊢
  rcases abs_cases (x - b) with ⟨habs, -⟩ | ⟨habs, -⟩
  · rw [habs] at h
    linarith
  · rw [habs] at h ⊢
    constructor <;> linarith

theorem abs_sub_lt_of_lt_half (hab : a < b) (hx : 2 * x < a + b) (hv : b ≤ v) :
    |x - a| < |x - v| := by
  rw [abs_of_nonpos (by linarith : x - v ≤ 0)]
  refine abs_lt.2 ⟨?_, ?_⟩ <;> linarith

end Halves

theorem mul_zpow_le (hm : m < 2 ^ 53) (h : q ≤ q₀) :
    (m : ℚ) * 2 ^ q ≤ ((2 ^ 53 - 1 : ℤ) : ℚ) * 2 ^ q₀ := by
  have hm' : (m : ℤ) ≤ 2 ^ 53 - 1 := by omega
  refine mul_le_mul ?_ (zpow_le_zpow_right₀ (by norm_num) h) (two_zpow_pos q).le (by norm_num)
  exact_mod_cast hm'

/-- The nearest number has a greater exponent than all finite ones exactly from `overflow` on: at
    `overflow` itself the greatest finite number is as near, but its significand is odd. -/
theorem IsClosest.le_iff (h : IsClosest x m q) (hm : m < 2 ^ 53) (hnormal : 2 ^ 52 ≤ m ∨ q = -1074) :
    q ≤ 971 ↔ x < overflow := by
  have hgap : ((2 ^ 53 - 1 : ℤ) : ℚ) * 2 ^ (971 : ℤ) < ((2 ^ 52 : ℤ) : ℚ) * 2 ^ (972 : ℤ) := by
    have := mul_zpow_lt (z := 2 ^ 53 - 1) (by norm_num) (by norm_num : (971 : ℤ) < 972)
    rwa [Int.cast_pow, Int.cast_ofNat]
  have htwice := two_mul_overflow
  constructor
  · intro hq
    by_contra hx
    obtain ⟨hvalue, htie⟩ := eq_of_half_le (x := x) hgap (by linarith) (mul_zpow_le hm hq)
      (h.near (2 ^ 52) 972 (by norm_num) (by norm_num))
    have heven := h.even (2 ^ 52) 972 (by norm_num) (by norm_num) (by linarith) htie
    have hq971 : q = 971 := by
      by_contra hne
      have hless := mul_zpow_le hm (by omega : q ≤ 970)
      have hstep : (2 : ℚ) ^ (970 : ℤ) < 2 ^ (971 : ℤ) :=
        zpow_lt_zpow_right₀ (by norm_num) (by norm_num)
      have hmul := mul_lt_mul_of_pos_left hstep
        (by norm_num : (0 : ℚ) < ((2 ^ 53 - 1 : ℤ) : ℚ))
      exact absurd hvalue (hless.trans_lt hmul).ne
    subst hq971
    have hodd : (m : ℤ) = 2 ^ 53 - 1 := by
      exact_mod_cast mul_right_cancel₀ (two_zpow_pos 971).ne' hvalue
    rw [Nat.even_iff] at heven
    omega
  · intro hx
    by_contra hq
    have hm52 : 2 ^ 52 ≤ m := hnormal.resolve_right (by omega)
    have hlow : ((2 ^ 52 : ℤ) : ℚ) * 2 ^ (972 : ℤ) ≤ m * 2 ^ q := by
      refine mul_le_mul (by exact_mod_cast hm52)
        (zpow_le_zpow_right₀ (by norm_num) (by omega)) (two_zpow_pos 972).le (by positivity)
    have hcloser := abs_sub_lt_of_lt_half (x := x) hgap (by linarith) hlow
    exact absurd (h.near (2 ^ 53 - 1) 971 (by norm_num) (by norm_num)) (not_le.2 hcloser)

/-! ## Both signs -/

theorem signOf_mul_self (negative : Bool) : signOf negative * signOf negative = 1 := by
  cases negative <;> norm_num [signOf]

theorem abs_signOf_mul_sub (negative : Bool) (x v : ℚ) :
    |signOf negative * x - v| = |x - signOf negative * v| := by
  have habs : |signOf negative| = 1 := by cases negative <;> norm_num [signOf]
  have hfactor : signOf negative * x - v = signOf negative * (x - signOf negative * v) := by
    rw [mul_sub, ← mul_assoc, signOf_mul_self, one_mul]
  rw [hfactor, abs_mul, habs, one_mul]

theorem signOf_mul_lt_zero (hx : 0 < x) (negative : Bool) :
    decide (signOf negative * x < 0) = negative := by
  cases negative
  · simpa [signOf] using hx.le
  · simpa [signOf] using hx

theorem signOf_mul_natCast (negative : Bool) (m : ℕ) :
    signOf negative * (m : ℚ) = (Numeral.withSign negative m : ℤ) := by
  cases negative <;> simp [signOf, Numeral.withSign]

theorem abs_withSign (negative : Bool) (m : ℕ) : |Numeral.withSign negative m| = m := by
  cases negative <;> simp [Numeral.withSign]

/-- A finite number with either sign is a significand times a power of two. -/
theorem exists_significand {y : Binary64} {v : ℚ} (hy : y.toRat? = some v) (negative : Bool) :
    ∃ z q₀ : ℤ, |z| < 2 ^ 53 ∧ -1074 ≤ q₀ ∧ signOf negative * v = z * 2 ^ q₀ := by
  obtain ⟨sign, m, q, fits, -, rfl⟩ := exists_finite hy
  refine ⟨Numeral.withSign (negative != sign) m, q, ?_, fits.2.1, ?_⟩
  · rw [abs_withSign]
    exact_mod_cast fits.1
  · rw [← signOf_mul_natCast]
    cases negative <;> cases sign <;> simp [signOf]

/-- A number is packed as it is rounded if it is closest with 53 bits. -/
theorem rounds_pack (hx : 0 ≤ x) (h : IsClosest x m q) (hm : m < 2 ^ 53) (hq : -1074 ≤ q)
    (hnormal : 2 ^ 52 ≤ m ∨ q = -1074) (negative : Bool) :
    Rounds (signOf negative * x) (pack negative m q) := by
  have hoverflow := h.le_iff hm hnormal
  have hvalue (v : ℚ) : signOf negative * (signOf negative * v) = v := by
    rw [← mul_assoc, signOf_mul_self, one_mul]
  unfold pack
  split_ifs with hfits
  · have hsign : m ≠ 0 → negative = decide (signOf negative * x < 0) := by
      intro hm0
      have hpos : 0 < x := by
        refine hx.lt_of_ne fun hx0 => ?_
        have hnear := h.near 0 (-1074) (by norm_num) le_rfl
        rw [← hx0, Int.cast_zero, zero_mul, sub_zero, abs_zero, zero_sub, abs_neg] at hnear
        have := mul_ne_zero (Nat.cast_ne_zero.2 hm0) (two_zpow_pos q).ne'
        exact this (abs_nonpos_iff.1 hnear)
      exact (signOf_mul_lt_zero hpos negative).symm
    refine .finite ⟨?_, hnormal, hsign, ?_, ?_⟩
    · rw [abs_signOf_mul hx]
      exact hoverflow.1 hfits.2.2
    · intro y v hy
      obtain ⟨z, q₀, hz, hq₀, hv⟩ := exists_significand hy negative
      rw [abs_signOf_mul_sub, abs_signOf_mul_sub, hvalue, hv]
      exact h.near z q₀ hz hq₀
    · intro y v hy hne
      obtain ⟨z, q₀, hz, hq₀, hv⟩ := exists_significand hy negative
      rw [abs_signOf_mul_sub, abs_signOf_mul_sub, hvalue, hv]
      refine h.even z q₀ hz hq₀ fun heq => hne ?_
      rw [← heq, ← hv, hvalue]
  · have hbound : overflow ≤ x := by
      refine not_lt.1 fun hlt => hfits ⟨hm, hq, hoverflow.2 hlt⟩
    refine .infinite ?_ (signOf_mul_lt_zero (overflow_pos.trans_le hbound) negative).symm
    rwa [abs_signOf_mul hx]

theorem rounds_zero (hx : 0 ≤ x) (hsmall : x ≤ 2 ^ (-1075 : ℤ)) (negative : Bool) :
    Rounds (signOf negative * x) (zero negative) := by
  have hhalf : (2 : ℚ) ^ (-1074 : ℤ) = 2 * 2 ^ (-1075 : ℤ) := by
    rw [← zpow_succ]
    norm_num only
  have hnearest : IsNearestEven (x / 2 ^ (-1074 : ℤ)) 0 := by
    refine ⟨?_, fun _ => Even.zero⟩
    rw [Nat.cast_zero, sub_zero, abs_of_nonneg (div_nonneg hx (two_zpow_pos _).le),
      div_le_iff₀ (two_zpow_pos _), hhalf]
    linarith
  have hzero : zero negative = pack negative 0 (-1074) := rfl
  rw [hzero]
  exact rounds_pack hx (isClosest_of_isNearestEven hnearest (.inl rfl)) (by decide) le_rfl
    (.inr rfl) negative

/-! ## Rounding of quotients -/

variable {num den : ℕ}

/-- The size of a quotient is that of the quotient of the sizes, or half of it. -/
theorem quotient_log2 (hnum : 0 < num) (hden : 0 < den) :
    (2 : ℚ) ^ (Nat.log2 num - Nat.log2 den - 1 : ℤ) < num / den ∧
      (num : ℚ) / den < 2 ^ (Nat.log2 num - Nat.log2 den + 1 : ℤ) := by
  have hden' : (0 : ℚ) < den := by exact_mod_cast hden
  have hnlow : (2 : ℚ) ^ (Nat.log2 num : ℤ) ≤ num := by
    rw [zpow_natCast]
    exact_mod_cast Nat.log2_self_le hnum.ne'
  have hnhigh : (num : ℚ) < 2 ^ (Nat.log2 num + 1 : ℤ) := by
    exact_mod_cast Nat.lt_log2_self
  have hdlow : (2 : ℚ) ^ (Nat.log2 den : ℤ) ≤ den := by
    rw [zpow_natCast]
    exact_mod_cast Nat.log2_self_le hden.ne'
  have hdhigh : (den : ℚ) < 2 ^ (Nat.log2 den + 1 : ℤ) := by
    exact_mod_cast Nat.lt_log2_self
  constructor
  · rw [lt_div_iff₀ hden', sub_sub, zpow_sub₀ (by norm_num), div_mul_eq_mul_div,
      div_lt_iff₀ (two_zpow_pos _)]
    exact mul_lt_mul' hnlow hdhigh hden'.le (by positivity)
  · rw [div_lt_iff₀ hden', sub_add_eq_add_sub, zpow_sub₀ (by norm_num), div_mul_eq_mul_div,
      lt_div_iff₀ (two_zpow_pos _)]
    exact mul_lt_mul hnhigh hdlow (two_zpow_pos _) (two_zpow_pos _).le

theorem pow_mul_two_zpow (k : ℕ) (e : ℤ) : (2 : ℚ) ^ k * 2 ^ e = 2 ^ (k + e) := by
  rw [zpow_add₀ (by norm_num), zpow_natCast]

/-- The last of 53 bits, or the last one that can be represented. -/
theorem exists_lastBit (hnum : 0 < num) (hden : 0 < den) :
    ∃ e, lastBit num den = max (-1074) e ∧ 2 ^ 52 * 2 ^ e ≤ (num : ℚ) / den ∧
      (num : ℚ) / den < 2 ^ 53 * 2 ^ e := by
  obtain ⟨hlow, hhigh⟩ := quotient_log2 hnum hden
  obtain ⟨low, hlog⟩ : ∃ low, low = (Nat.log2 num : ℤ) - Nat.log2 den - 53 := ⟨_, rfl⟩
  have hpos : (0 : ℚ) < (scale 2 (-low) num den).2 := by
    exact_mod_cast scale_snd_pos (by decide : 0 < 2) (-low) num hden
  have hquotient := quotient_scale (by decide : 0 < 2) (-low) num den
  have htest : Nat.pow 2 53 * (scale 2 (-low) num den).2 ≤ (scale 2 (-low) num den).1 ↔
      2 ^ 53 * 2 ^ low ≤ (num : ℚ) / den := by
    rw [Nat.cast_ofNat, zpow_neg, div_eq_iff hpos.ne'] at hquotient
    rw [← le_mul_inv_iff₀ (two_zpow_pos low), ← mul_le_mul_iff_left₀ hpos, ← hquotient]
    exact_mod_cast Iff.rfl
  refine ⟨if 2 ^ 53 * 2 ^ low ≤ (num : ℚ) / den then low + 1 else low, ?_, ?_⟩
  · unfold lastBit
    rw [← hlog]
    simp only [htest]
  · split_ifs with h
    · refine ⟨(le_of_eq ?_).trans h, hhigh.trans_eq ?_⟩
      · rw [zpow_succ]
        ring
      · rw [pow_mul_two_zpow]
        congr 1
        omega
    · refine ⟨(le_of_eq ?_).trans hlow.le, not_le.1 h⟩
      rw [pow_mul_two_zpow]
      congr 1
      omega

theorem lastBit_spec (hnum : 0 < num) (hden : 0 < den) :
    -1074 ≤ lastBit num den ∧ (num : ℚ) / den < 2 ^ 53 * 2 ^ lastBit num den ∧
      (lastBit num den = -1074 ∨ 2 ^ 52 * 2 ^ lastBit num den ≤ (num : ℚ) / den) := by
  obtain ⟨e, he, hlow, hhigh⟩ := exists_lastBit hnum hden
  rw [he]
  refine ⟨le_max_left _ _, hhigh.trans_le ?_, ?_⟩
  · exact mul_le_mul_of_nonneg_left (zpow_le_zpow_right₀ (by norm_num) (le_max_right _ _))
      (by positivity)
  · rcases le_total e (-1074) with hle | hle
    · exact .inl (max_eq_left hle)
    · rw [max_eq_right hle]
      exact .inr hlow

/-- **A quotient is rounded to the nearest number.** -/
theorem rounds_ofRatio (negative : Bool) (num : ℕ) (hden : 0 < den) :
    Rounds (signOf negative * (num / den)) (ofRatio negative num den) := by
  unfold ofRatio
  split_ifs with h0
  · subst h0
    refine rounds_zero ?_ ?_ negative
    · simp
    · simp
  · obtain ⟨hq, hhigh, hlow⟩ := lastBit_spec (Nat.pos_of_ne_zero h0) hden
    have hx : (0 : ℚ) ≤ num / den := by positivity
    dsimp only
    generalize lastBit num den = q at hq hhigh hlow ⊢
    have hnearest := isNearestEven_toNearestEven (scale 2 (-q) num den).1
      (scale_snd_pos (by decide : 0 < 2) (-q) num hden)
    rw [quotient_scale (by decide), Nat.cast_ofNat, zpow_neg, ← div_eq_mul_inv] at hnearest
    generalize toNearestEven (scale 2 (-q) num den).1 (scale 2 (-q) num den).2 = m at hnearest ⊢
    generalize (num : ℚ) / den = x at hx hlow hhigh hnearest ⊢
    have hclosest := isClosest_of_isNearestEven hnearest hlow
    have hle : m ≤ 2 ^ 53 := hnearest.le_natCast (by
      rw [div_le_iff₀ (two_zpow_pos q)]
      exact_mod_cast hhigh.le)
    have hnormal : 2 ^ 52 ≤ m ∨ q = -1074 := by
      refine hlow.symm.imp_left fun hlow => hnearest.natCast_le ?_
      rw [le_div_iff₀ (two_zpow_pos q)]
      exact_mod_cast hlow
    split_ifs with hm
    · have hm : m = 2 ^ 53 := hm
      subst hm
      exact rounds_pack hx hclosest.carry (by decide) (by omega) (.inl le_rfl) negative
    · exact rounds_pack hx hclosest (lt_of_le_of_ne hle hm) hq hnormal negative

theorem overflow_le : overflow ≤ 10 ^ (400 : ℤ) := by
  have hpow : 2 ^ 54 * 2 ^ 970 ≤ 10 ^ 400 := by decide +kernel
  have hunit : (2 : ℚ) ^ 54 - 1 ≤ 2 ^ 54 := by linarith
  calc overflow ≤ 2 ^ 54 * 2 ^ (970 : ℤ) := mul_le_mul_of_nonneg_right hunit (two_zpow_pos _).le
    _ ≤ 10 ^ (400 : ℤ) := by exact_mod_cast hpow

theorem least_le : (10 : ℚ) ^ (-400 : ℤ) ≤ 2 ^ (-1075 : ℤ) := by
  have hpow : 2 ^ 1075 ≤ 10 ^ 400 := by decide +kernel
  rw [zpow_neg, zpow_neg]
  exact inv_anti₀ (two_zpow_pos _) (by exact_mod_cast hpow)

/-- **A decimal fraction is rounded to the nearest number.**  The fractions that are not looked at
    are too large or too small. -/
theorem rounds_ofDecimal (negative : Bool) (c : ℕ) (e : ℤ) :
    Rounds (signOf negative * (c * 10 ^ e)) (ofDecimal negative c e) := by
  have hx : (0 : ℚ) ≤ c * 10 ^ e := mul_nonneg (Nat.cast_nonneg c) (ten_zpow_pos e).le
  unfold ofDecimal
  dsimp only
  by_cases h0 : c = 0
  · rw [if_pos h0, h0, Nat.cast_zero, zero_mul]
    exact rounds_zero le_rfl (two_zpow_pos _).le negative
  obtain ⟨k, hk, hlow, hhigh⟩ := exists_decimalLength (Nat.pos_of_ne_zero h0)
  rw [if_neg h0, hk]
  split_ifs with hlarge hsmall
  · have hbound : overflow ≤ c * 10 ^ e := by
      calc overflow ≤ 10 ^ (400 : ℤ) := overflow_le
        _ ≤ 10 ^ (k + e) := zpow_le_zpow_right₀ (by norm_num) (by push_cast at hlarge; omega)
        _ ≤ c * 10 ^ e := (zpow_le_mul_iff rfl).2 hlow
    refine .infinite ?_ (signOf_mul_lt_zero (overflow_pos.trans_le hbound) negative).symm
    rwa [abs_signOf_mul hx]
  · refine rounds_zero hx ?_ negative
    calc (c : ℚ) * 10 ^ e ≤ 10 ^ ((k + 1 : ℕ) + e) := (mul_le_zpow_iff rfl).2 hhigh.le
      _ ≤ 10 ^ (-400 : ℤ) := zpow_le_zpow_right₀ (by norm_num) (by omega)
      _ ≤ 2 ^ (-1075 : ℤ) := least_le
  · have hquotient := quotient_scale_one (by decide : 0 < 10) e c
    rw [Nat.cast_ofNat] at hquotient
    rw [← hquotient]
    exact rounds_ofRatio negative _ (scale_snd_pos (by decide) e c Nat.one_pos)

/-! ## There is no other -/

theorem exists_toRat? (hz : |z| < 2 ^ 53) (hq : -1074 ≤ q ∧ q ≤ 971) :
    ∃ y, toRat? y = some ((z : ℚ) * 2 ^ q) := by
  have hfits : z.natAbs < Nat.pow 2 53 := by
    rw [Int.abs_eq_natAbs] at hz
    exact_mod_cast hz
  refine ⟨.finite (z < 0) z.natAbs q ⟨hfits, hq⟩, ?_⟩
  rw [toRat?_finite, ← mul_assoc, signOf_mul_natAbs]

/-- Between two numbers with even significands there is a third one. -/
theorem exists_between {z' q' : ℤ} (hz : |z| < 2 ^ 53) (hz' : |z'| < 2 ^ 53)
    (hq : -1074 ≤ q ∧ q ≤ 971) (hq' : -1074 ≤ q' ∧ q' ≤ 971) (heven : Even z) (heven' : Even z')
    (h : (z : ℚ) * 2 ^ q < z' * 2 ^ q') :
    ∃ y v, toRat? y = some v ∧ (z : ℚ) * 2 ^ q < v ∧ v < z' * 2 ^ q' := by
  have hlt {k l e : ℤ} (hkl : k < l) : (k : ℚ) * 2 ^ e < l * 2 ^ e :=
    mul_lt_mul_of_pos_right (by exact_mod_cast hkl) (two_zpow_pos e)
  have hgap {k l e : ℤ} (hk : Even k) (hl : Even l) (hkl : (k : ℚ) * 2 ^ e < l * 2 ^ e) :
      k + 1 < l := by
    have hless : k < l := by exact_mod_cast lt_of_mul_lt_mul_right hkl (two_zpow_pos e).le
    rw [Int.even_iff] at hk hl
    omega
  have habove : |z + 1| < 2 ^ 53 := by
    rw [Int.even_iff] at heven
    rw [abs_lt] at hz ⊢
    omega
  have hbelow : |z' - 1| < 2 ^ 53 := by
    rw [Int.even_iff] at heven'
    rw [abs_lt] at hz' ⊢
    omega
  rcases le_total q q' with hle | hle
  · rw [mul_zpow_eq z' hle] at h ⊢
    have hstep := hgap heven (heven'.mul_right _) h
    obtain ⟨y, hy⟩ := exists_toRat? habove hq
    exact ⟨y, _, hy, hlt (lt_add_one z), hlt hstep⟩
  · rw [mul_zpow_eq z hle] at h ⊢
    have hstep := hgap (heven.mul_right _) heven' h
    obtain ⟨y, hy⟩ := exists_toRat? hbelow hq'
    exact ⟨y, _, hy, hlt (lt_sub_iff_add_lt.2 hstep), hlt (sub_one_lt z')⟩

/-- Of two numbers with even significands that are as near to `r` not both are nearest. -/
theorem not_lt_of_near {z' q' : ℤ} (hz : |z| < 2 ^ 53) (hz' : |z'| < 2 ^ 53)
    (hq : -1074 ≤ q ∧ q ≤ 971) (hq' : -1074 ≤ q' ∧ q' ≤ 971) (heven : Even z) (heven' : Even z')
    (hnear : ∀ y v, toRat? y = some v → |r - z * 2 ^ q| ≤ |r - v|)
    (hdist : |r - z * 2 ^ q| = |r - z' * 2 ^ q'|) : ¬(z : ℚ) * 2 ^ q < z' * 2 ^ q' := by
  intro h
  obtain ⟨y, v, hy, hlow, hhigh⟩ := exists_between hz hz' hq hq' heven heven' h
  have hle := hnear y v hy
  rcases abs_eq_abs.1 hdist with hsame | hopposite
  · linarith
  · rw [abs_of_pos (by linarith : 0 < r - z * 2 ^ q)] at hle
    have hless : |r - v| < r - z * 2 ^ q := abs_lt.2 ⟨by linarith, by linarith⟩
    linarith

theorem even_withSign (h : Even m) (negative : Bool) : Even (Numeral.withSign negative m) := by
  have hm : Even (m : ℤ) := by exact_mod_cast h
  cases negative
  · exact hm
  · exact hm.neg

/-- A number is written with one exponent only if its significand has all bits that it can have. -/
theorem exponent_le {m' : ℕ} {q' : ℤ} (hm : m < 2 ^ 53) (hq : -1074 ≤ q)
    (hnormal : 2 ^ 52 ≤ m' ∨ q' = -1074) (h : (m : ℚ) * 2 ^ q = m' * 2 ^ q') : q' ≤ q := by
  by_contra hlt
  have hbits : 2 ^ 52 ≤ m' := hnormal.resolve_right (by omega)
  have hless := mul_zpow_lt (z := m) (by simpa using mod_cast hm) (not_le.1 hlt)
  have hge : (2 : ℚ) ^ 52 * 2 ^ q' ≤ m' * 2 ^ q' :=
    mul_le_mul_of_nonneg_right (by exact_mod_cast hbits) (two_zpow_pos q').le
  rw [Int.cast_natCast] at hless
  linarith

/-- Two finite numbers that a rational number is rounded to are equal as numbers. -/
theorem RoundsFinite.value_eq {negative negative' : Bool} {m m' : ℕ} {q q' : ℤ}
    (h : RoundsFinite r negative m q) (h' : RoundsFinite r negative' m' q')
    (fits : m < Nat.pow 2 53 ∧ -1074 ≤ q ∧ q ≤ 971)
    (fits' : m' < Nat.pow 2 53 ∧ -1074 ≤ q' ∧ q' ≤ 971) :
    signOf negative * ((m : ℚ) * 2 ^ q) = signOf negative' * (m' * 2 ^ q') := by
  have hx := toRat?_finite negative m q fits
  have hy := toRat?_finite negative' m' q' fits'
  have hless : |Numeral.withSign negative m| < 2 ^ 53 := by
    rw [abs_withSign]
    exact_mod_cast fits.1
  have hless' : |Numeral.withSign negative' m'| < 2 ^ 53 := by
    rw [abs_withSign]
    exact_mod_cast fits'.1
  have hdist := le_antisymm (h.near _ _ hy) (h'.near _ _ hx)
  have hnear := h.near
  have hnear' := h'.near
  by_contra hne
  have heven := even_withSign (h.even _ _ hy (Ne.symm hne) hdist) negative
  have heven' := even_withSign (h'.even _ _ hx hne hdist.symm) negative'
  simp only [← mul_assoc, signOf_mul_natCast] at hne hdist hnear hnear'
  rcases lt_or_gt_of_ne hne with hlt | hlt
  · exact not_lt_of_near hless hless' fits.2 fits'.2 heven heven' hnear hdist hlt
  · exact not_lt_of_near hless' hless fits'.2 fits.2 heven' heven hnear' hdist.symm hlt

/-- **There is no other number** that a rational number is rounded to, but for the sign of zero. -/
theorem Rounds.unique {x y : Binary64} (hx : Rounds r x) (hy : Rounds r y) :
    x.unsignedZero = y.unsignedZero := by
  cases hx with
  | @finite negative m q fits h =>
    cases hy with
    | @finite negative' m' q' fits' h' =>
      have hvalue := congrArg abs (h.value_eq h' fits fits')
      rw [abs_signOf_mul (mul_nonneg (Nat.cast_nonneg m) (two_zpow_pos q).le),
        abs_signOf_mul (mul_nonneg (Nat.cast_nonneg m') (two_zpow_pos q').le)] at hvalue
      obtain rfl : q = q' := le_antisymm (exponent_le fits'.1 fits'.2.1 h.normal hvalue.symm)
        (exponent_le fits.1 fits.2.1 h'.normal hvalue)
      obtain rfl : m = m' := by
        exact_mod_cast mul_right_cancel₀ (two_zpow_pos q).ne' hvalue
      by_cases hm : m = 0
      · simp [unsignedZero, hm]
      · rw [h.sign hm, h'.sign hm]
    | infinite bound => exact absurd h.bound (not_lt.2 bound)
  | infinite bound sign =>
    cases hy with
    | finite h => exact absurd h.bound (not_lt.2 bound)
    | infinite _ sign' => rw [sign, sign']

end Binary64

end Textwork
