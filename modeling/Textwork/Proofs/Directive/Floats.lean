/-
  Finite numbers with a point, as the three notations write them.

  * `exists_quotient`: a finite number is written as the quotient that it is,
    with a minus sign if it is below zero;
  * `fixed_nearest`, `scientific_nearest`, `short_nearest`: the text denotes the
    nearest number with the digits that are asked for, a half going away from
    zero, and has the form of its notation; and which precisions are refused.
-/
import Textwork.Proofs.Directive.Failures
import Textwork.Proofs.Number.Rounding
import Textwork.Proofs.Number.Expansion

namespace Textwork

open Rounding

/-! ## Quotients -/

namespace Binary64

variable {x : Binary64} {r : ℚ}

/-- **A finite number has a decimal expansion** of at most 767 digits, at most 309 of them before
    the point. -/
theorem exists_expansion (hx : x.toRat? = some r) :
    ∃ c : DecimalNumeral, c.value = |r| ∧ c.coefficient < 10 ^ 767 ∧ |r| < 10 ^ 309 := by
  obtain ⟨negative, m, q, fits, -, rfl⟩ := exists_finite hx
  have hvalue : (expansion m q).value = |signOf negative * (m * 2 ^ q)| := by
    rw [value_expansion, abs_signOf_mul (mul_nonneg m.cast_nonneg (zpow_nonneg (by norm_num) q))]
  exact ⟨expansion m q, hvalue, coefficient_expansion_lt fits, hvalue ▸ value_expansion_lt fits⟩

theorem unsignedZero_of_ne (hx : x.toRat? = some r) (hr : r ≠ 0) : x.unsignedZero = x := by
  obtain ⟨negative, m, q, fits, rfl, rfl⟩ := exists_finite hx
  have hm : m ≠ 0 := by
    rintro rfl
    simp at hr
  exact if_neg hm

/-- Without the sign of zero, the sign tells whether the number is below zero. -/
theorem exists_unsignedZero (hx : x.toRat? = some r) :
    ∃ m q fits, x.unsignedZero = finite (r < 0) m q fits ∧ (m * 2 ^ q : ℚ) = |r| := by
  obtain ⟨negative, m, q, fits, rfl, rfl⟩ := exists_finite hx
  by_cases hm : m = 0
  · subst hm
    refine ⟨0, -1074, by decide, ?_, by simp⟩
    simp [unsignedZero, zero]
  · have hpos : (0 : ℚ) < m * 2 ^ q :=
      mul_pos (by exact_mod_cast Nat.pos_of_ne_zero hm) (zpow_pos (by norm_num) q)
    have hsign : decide (signOf negative * (m * 2 ^ q) < 0) = negative := by
      cases negative <;> simp [signOf, hpos, hpos.le]
    exact ⟨m, q, fits, by rw [hsign]; exact if_neg hm, (abs_signOf_mul hpos.le).symm⟩

end Binary64

namespace Directive

variable {d : Defaults} {s : Specification} {k : Conversion} {x y : Binary64} {r r' : ℚ} {p : ℕ}

theorem lookedUp_eq {num : ℕ} (h : needsPrecision k num = true) :
    lookedUp d s k num = s.precision.elim d.precision .ok := by
  unfold lookedUp
  cases s.precision with
  | some p => rfl
  | none => exact if_pos h

/-- The text of a finite number is that of the quotient which is its magnitude, with a minus sign
    if the number is below zero. -/
theorem exists_quotient (hx : x.toRat? = some r) :
    ∃ num den : ℕ, 0 < den ∧ (num : ℚ) / den = |r| ∧ ∀ d s k,
      binaryText d s k x.unsignedZero = lookedUp d s k num >>= fun p =>
        checkPrecision k num den p >>= fun _ =>
          .ok (Positional.minus (r < 0) (floatText k num den p)) := by
  obtain ⟨m, q, fits, hzero, hvalue⟩ := Binary64.exists_unsignedZero hx
  refine ⟨(Binary64.magnitude m q).1, (Binary64.magnitude m q).2, Binary64.magnitude_snd_pos m q,
    ?_, fun d s k => ?_⟩
  · rw [Binary64.quotient_magnitude, hvalue]
  · rw [hzero, binaryText_finite _ _ _ rfl]
    rfl

theorem exists_quotient_of_ne (hp : s.precision.elim d.precision .ok = .ok p)
    (hx : x.toRat? = some r) (hr : r ≠ 0) :
    ∃ num den : ℕ, 0 < num ∧ 0 < den ∧ (num : ℚ) / den = |r| ∧ ∀ k,
      binaryText d s k x = checkPrecision k num den p >>= fun _ =>
        .ok (Positional.minus (r < 0) (floatText k num den p)) := by
  obtain ⟨num, den, hden, hquotient, htext⟩ := exists_quotient hx
  have hnum : num ≠ 0 := by
    rintro rfl
    rw [Nat.cast_zero, zero_div] at hquotient
    exact hr (abs_eq_zero.1 hquotient.symm)
  have hneeds (k : Conversion) : needsPrecision k num = true := by simp [needsPrecision, hnum]
  refine ⟨num, den, Nat.pos_of_ne_zero hnum, hden, hquotient, fun k => ?_⟩
  have h := htext d s k
  rwa [Binary64.unsignedZero_of_ne hx hr, lookedUp_eq (hneeds k), hp, ok_bind] at h

/-! ## Refused precisions -/

theorem checkPlaces_eq_ok_iff : checkPlaces p = .ok () ↔ p ≤ maxPlaces := by
  unfold checkPlaces
  split <;> simp_all

theorem checkQuotient_eq_ok_iff : checkQuotient p = .ok () ↔ p ≤ maxPlaces := by
  have hmax : maxPlaces = 2000054 := rfl
  by_cases h : p + 800 < 10 ^ 18
  · rw [checkQuotient_eq h, checkPlaces_eq_ok_iff]
  · have hrange : Nat.pow 10 18 ≤ p + 800 := not_lt.1 h
    refine iff_of_false (fun hok => ?_) (by omega)
    unfold checkQuotient at hok
    rw [if_pos hrange] at hok
    split at hok <;> cases hok

/-! ## Fixed notation -/

/-- `n` is the magnitude of `r` with `places` digits behind the point: the nearest number that has
    them, a half going away from zero. -/
structure IsFixedForm (places : ℕ) (r : ℚ) (n : Positional) : Prop where
  length_fraction : n.fraction.length = places
  nearest : IsNearest (-places) |r| n.value

theorem IsFixedForm.denoted {places : ℕ} {n : Positional} (h : IsFixedForm places r n) :
    ∃ a, denoted? (Positional.minus (r < 0) n.text) = some a ∧ IsNearest (-places) r a :=
  ⟨_, n.denoted?_minus_text _, isNearest_of_abs h.nearest⟩

section Fixed

variable (hp : s.precision.elim d.precision .ok = .ok p)

include hp

theorem exists_fixedNumber (hx : x.toRat? = some r) :
    ∃ num den : ℕ, 0 < den ∧ (num : ℚ) / den = |r| ∧
      binaryText d s .fixed x.unsignedZero = (checkPlaces p >>= fun _ =>
        .ok (Positional.minus (r < 0)
          (Decimals.fixedNumber num den (min p keptPlaces)).text)) := by
  obtain ⟨num, den, hden, hr, htext⟩ := exists_quotient hx
  have hneeds : needsPrecision .fixed num = true := Bool.or_true _
  refine ⟨num, den, hden, hr, ?_⟩
  rw [htext, lookedUp_eq hneeds, hp, ok_bind, Decimals.text_fixedNumber]
  rfl

theorem exists_isFixedForm (hle : p ≤ maxPlaces) (hx : x.toRat? = some r) :
    ∃ n : Positional, IsFixedForm (min p keptPlaces) r n ∧
      binaryText d s .fixed x.unsignedZero = .ok (Positional.minus (r < 0) n.text) ∧
      ∃ c : DecimalNumeral, c.value = |r| ∧ c.coefficient < 10 ^ 767 ∧
        c.quantized? (p + 800) (min p keptPlaces) = some n.units := by
  obtain ⟨num, den, hden, hr, htext⟩ := exists_fixedNumber hp hx
  obtain ⟨c, hvalue, hcoefficient, hlt⟩ := Binary64.exists_expansion hx
  rw [checkPlaces_eq_ok_iff.2 hle, ok_bind] at htext
  have hquantized : c.quantized? (p + 800) (min p keptPlaces) = _ :=
    DecimalNumeral.quantized?_fixed (hvalue ▸ hlt) (by omega) hden (hvalue.trans hr.symm)
  refine ⟨_, ⟨Decimals.length_fraction_fixedNumber _,
    hr ▸ Decimals.isNearest_fixedNumber _ _ hden⟩, htext, c, hvalue, hcoefficient, ?_⟩
  rw [hquantized, Decimals.fixedNumber, Positional.units_placed]

theorem binaryText_fixed_neg (hle : p ≤ maxPlaces) (hr : 0 < r) (hx : x.toRat? = some r)
    (hy : y.toRat? = some (-r)) :
    ∃ t, binaryText d s .fixed x.unsignedZero = .ok t ∧
      binaryText d s .fixed y.unsignedZero = .ok ('-' :: t) := by
  obtain ⟨num, den, hden, hquotient, htext⟩ := exists_fixedNumber hp hx
  obtain ⟨num', den', hden', hquotient', htext'⟩ := exists_fixedNumber hp hy
  have hsame : (num' : ℚ) / den' = num / den := by rw [hquotient', hquotient, abs_neg]
  rw [checkPlaces_eq_ok_iff.2 hle, ok_bind] at htext htext'
  rw [Decimals.fixedNumber_congr _ hden' hden hsame] at htext'
  refine ⟨_, htext, htext'.trans ?_⟩
  simp [Positional.minus, hr, hr.le]

/-- **Fixed notation writes the nearest number**, whatever the digits behind the point are that it
    is asked for: there are as many of them, up to a limit beyond which digits are left out, and
    then a greater one from which on the number is refused.  Arithmetic that keeps 800 digits more
    is exact enough; opposite numbers differ in their signs only, and texts grow with numbers. -/
theorem fixed_nearest :
    (p ≤ maxPlaces →
      (∀ x r, Binary64.toRat? x = some r → ∃ n : Positional, IsFixedForm (min p keptPlaces) r n ∧
        binaryText d s .fixed x.unsignedZero = .ok (Positional.minus (r < 0) n.text) ∧
        ∃ c : DecimalNumeral, c.value = |r| ∧ c.coefficient < 10 ^ 767 ∧
          c.quantized? (p + 800) (min p keptPlaces) = some n.units) ∧
      (∀ x y r, 0 < r → Binary64.toRat? x = some r → Binary64.toRat? y = some (-r) →
        ∃ t, binaryText d s .fixed x.unsignedZero = .ok t ∧
          binaryText d s .fixed y.unsignedZero = .ok ('-' :: t)) ∧
      (∀ x y r r', Binary64.toRat? x = some r → Binary64.toRat? y = some r' → r ≤ r' →
        ∃ t t' a a', binaryText d s .fixed x.unsignedZero = .ok t ∧
          binaryText d s .fixed y.unsignedZero = .ok t' ∧
          denoted? t = some a ∧ denoted? t' = some a' ∧ a ≤ a')) ∧
    (maxPlaces < p → ∀ x r, Binary64.toRat? x = some r →
      binaryText d s .fixed x.unsignedZero = .error .tooPrecise) := by
  refine ⟨fun hle => ⟨fun x r => exists_isFixedForm hp hle,
    fun x y r => binaryText_fixed_neg hp hle, fun x y r r' hx hy hrr => ?_⟩, fun hlt x r hx => ?_⟩
  · obtain ⟨n, hform, htext, -⟩ := exists_isFixedForm hp hle hx
    obtain ⟨n', hform', htext', -⟩ := exists_isFixedForm hp hle hy
    obtain ⟨a, ha, hnear⟩ := hform.denoted
    obtain ⟨a', ha', hnear'⟩ := hform'.denoted
    exact ⟨_, _, a, a', htext, htext', ha, ha', hnear.le hnear' hrr⟩
  · obtain ⟨num, den, -, -, htext⟩ := exists_fixedNumber hp hx
    rw [htext, checkPlaces_eq_error_iff.2 ⟨rfl, hlt⟩, error_bind]

end Fixed

/-- A half goes away from zero, on both sides of it. -/
theorem fixed_nearest_half :
    Binary64.toRat? (.finite false 5 (-1) (by decide)) = some (5 / 2) ∧
      Binary64.toRat? (.finite true 5 (-1) (by decide)) = some (-(5 / 2)) ∧
      ∃ t, binaryText Settings.standard.defaults { Specification.bare with precision := some 0 }
          .fixed (.finite false 5 (-1) (by decide)) = .ok t ∧
        binaryText Settings.standard.defaults { Specification.bare with precision := some 0 }
          .fixed (.finite true 5 (-1) (by decide)) = .ok ('-' :: t) ∧ t = ['3'] := by
  have hx : Binary64.toRat? (.finite false 5 (-1) (by decide)) = some (5 / 2) := by
    rw [Binary64.toRat?_finite]
    norm_num [signOf]
  have hy : Binary64.toRat? (.finite true 5 (-1) (by decide)) = some (-(5 / 2)) := by
    rw [Binary64.toRat?_finite]
    norm_num [signOf]
  obtain ⟨t, ht, hneg⟩ := ((fixed_nearest (d := Settings.standard.defaults)
    (s := { Specification.bare with precision := some 0 }) rfl).1 (by decide)).2.1 _ _ (5 / 2)
    (by norm_num) hx hy
  have htext : binaryText Settings.standard.defaults
      { Specification.bare with precision := some 0 } .fixed (.finite false 5 (-1) (by decide)) =
      .ok ['3'] := by decide
  exact ⟨hx, hy, t, ht, hneg, Except.ok.inj (ht.symm.trans htext)⟩

/-- So many digits are refused. -/
theorem fixed_refused :
    binaryText Settings.standard.defaults { Specification.bare with precision := some 2000055 }
      .fixed (.finite false 1 (-1) (by decide)) = .error .tooPrecise := rfl

/-! ## Scientific notation -/

/-- `n` and `e` are the mantissa with `places` digits behind the point and the exponent of the
    magnitude of `r`, which is rounded once. -/
structure IsScientificForm (places : ℕ) (r : ℚ) (n : Positional) (e : ℤ) : Prop where
  length_fraction : n.fraction.length = places
  whole : ∃ c, n.whole = [c] ∧ c ≠ '0'
  /-- the last place of the mantissa is the unit -/
  nearest : IsNearest (e - places) |r| (n.value * 10 ^ e)
  /-- the last of the significant digits of the number is the unit -/
  rounded : IsNearest (Int.log 10 |r| - places) |r| (n.value * 10 ^ e)
  /-- the exponent is that of the number, or the next one behind the mantissa `1.00…` -/
  carried : e = Int.log 10 |r| ∨ e = Int.log 10 |r| + 1 ∧ n.value = 1

theorem isScientificForm_placed {places m : ℕ} {e : ℤ} (hr : r ≠ 0)
    (h : Decimals.IsScientific places |r| m e) :
    IsScientificForm places r (.placed m places) e := by
  have hvalue : (Positional.placed m places).value * 10 ^ e = m * 10 ^ (e - places) := by
    rw [Positional.value_placed, zpow_sub₀ (by norm_num), zpow_natCast]
    ring
  refine ⟨Positional.length_fraction_placed m places, Positional.whole_placed h.pow_le h.lt_pow,
    hvalue ▸ h.nearest, hvalue ▸ h.rounded, ?_⟩
  refine (h.carried (abs_pos.2 hr)).imp id (And.imp id fun hm => ?_)
  rw [Positional.value_placed, hm]
  push_cast
  exact div_self (by positivity)

/-- **Scientific notation rounds the exact number once**, whatever the digits behind the point are
    that it is asked for: there are as many of them, up to a limit beyond which digits are left out,
    and then a greater one from which on the number is refused.  Arithmetic that keeps 800 digits
    more is exact enough. -/
theorem scientific_nearest (hk : k = .scientific ∨ k = .scientificUpper)
    (hp : s.precision.elim d.precision .ok = .ok p) (hx : x.toRat? = some r) (hr : r ≠ 0) :
    (p ≤ maxPlaces → ∃ (n : Positional) (e : ℤ), IsScientificForm (min p keptPlaces) r n e ∧
      binaryText d s k x = .ok (Positional.minus (r < 0) (Decimals.withExponent n.text e)) ∧
      ∃ c : DecimalNumeral, c.value = |r| ∧ c.coefficient < 10 ^ 767 ∧
        c.scientificParts? (p + 800) (min p keptPlaces) = some (n.units, e)) ∧
    (maxPlaces < p → ∀ t, binaryText d s k x ≠ .ok t) := by
  obtain ⟨num, den, hnum, hden, hquotient, htext⟩ := exists_quotient_of_ne hp hx hr
  have hcheck : checkPrecision k num den p = checkQuotient p := by
    rcases hk with rfl | rfl <;> exact if_neg hnum.ne'
  have hfloat : floatText k num den p =
      Decimals.withExponent (Decimals.scientific num den (min p keptPlaces)).1
        (Decimals.scientific num den (min p keptPlaces)).2 := by
    rcases hk with rfl | rfl <;> rfl
  rw [htext k, hcheck, hfloat]
  constructor
  · intro hle
    obtain ⟨c, hvalue, hcoefficient, -⟩ := Binary64.exists_expansion hx
    have hc : c.coefficient < 10 ^ (p + 800) :=
      hcoefficient.trans_le (pow_le_pow_right₀ (by decide) (by omega))
    have hparts := Decimals.isScientific_scientificParts (min p keptPlaces) hnum hden
    rw [hquotient] at hparts
    rw [checkQuotient_eq_ok_iff.2 hle, ok_bind]
    refine ⟨_, _, isScientificForm_placed hr hparts, ?_, c, hvalue, hcoefficient, ?_⟩
    · rw [Positional.text_placed]
      rfl
    · rw [Positional.units_placed]
      exact DecimalNumeral.scientificParts?_eq hc (by omega) hnum hden (hvalue.trans hquotient.symm)
  · intro hlt t ht
    obtain ⟨u, hu, -⟩ := bind_eq_ok_iff.1 ht
    exact absurd (checkQuotient_eq_ok_iff.1 hu) (not_le.2 hlt)

/-- `9.5` is rounded up to ten. -/
theorem scientific_nearest_carried :
    Binary64.toRat? (.finite true 19 (-1) (by decide)) = some (-(19 / 2)) ∧
      ∃ (n : Positional) (e : ℤ), IsScientificForm 0 (-(19 / 2)) n e ∧
        binaryText Settings.standard.defaults { Specification.bare with precision := some 0 }
          .scientific (.finite true 19 (-1) (by decide)) =
            .ok ('-' :: Decimals.withExponent n.text e) ∧
        '-' :: Decimals.withExponent n.text e = "-1e+1".toList := by
  have hx : Binary64.toRat? (.finite true 19 (-1) (by decide)) = some (-(19 / 2)) := by
    rw [Binary64.toRat?_finite]
    norm_num [signOf]
  obtain ⟨n, e, hform, htext, -⟩ := (scientific_nearest (d := Settings.standard.defaults)
    (s := { Specification.bare with precision := some 0 }) (.inl rfl) rfl hx
    (by norm_num)).1 (by decide)
  have hminus : Positional.minus (-(19 / 2 : ℚ) < 0) (Decimals.withExponent n.text e) =
      '-' :: Decimals.withExponent n.text e := if_pos (by norm_num)
  have hten : binaryText Settings.standard.defaults
      { Specification.bare with precision := some 0 } .scientific
      (.finite true 19 (-1) (by decide)) = .ok "-1e+1".toList := by decide
  rw [hminus] at htext
  exact ⟨hx, n, e, hform, htext, Except.ok.inj (htext.symm.trans hten)⟩

/-- So many digits are refused. -/
theorem scientific_refused :
    binaryText Settings.standard.defaults { Specification.bare with precision := some 2000055 }
      .scientific (.finite false 1 (-1) (by decide)) = .error .tooPrecise := rfl

/-! ## Short notation -/

theorem shortPlaces_le_iff {num den precision n : ℕ} {e : ℤ}
    (he : (Decimals.scientificParts num den (max precision 1 - 1)).2 = e) :
    Decimals.shortPlaces num den precision ≤ n ↔
      (-6 ≤ e → e < (max precision 1 : ℕ) → (max precision 1 : ℕ) - 1 - e ≤ n) := by
  unfold Decimals.shortPlaces
  simp only [he]
  split <;> omega

theorem checkPrecision_short_eq_ok_iff {num den : ℕ} (hk : k = .short ∨ k = .shortUpper)
    (hnum : 0 < num) :
    checkPrecision k num den p = .ok () ↔
      p - 1 ≤ maxPlaces ∧ Decimals.shortPlaces num den p ≤ maxPlaces := by
  have hcheck : checkPrecision k num den p = (do
      checkQuotient (p - 1)
      checkPlaces (Decimals.shortPlaces num den p)) := by
    rcases hk with rfl | rfl <;> exact if_neg hnum.ne'
  rw [hcheck, bind_eq_ok_iff, ← checkQuotient_eq_ok_iff, ← checkPlaces_eq_ok_iff]
  exact ⟨fun ⟨_, hquotient, hplaces⟩ => ⟨hquotient, hplaces⟩,
    fun ⟨hquotient, hplaces⟩ => ⟨_, hquotient, hplaces⟩⟩

/-- **Short notation writes the number that is rounded once to the significant digits**, with an
    exponent if it is small or beyond them, and without zeros at the end of its fraction; it is
    refused exactly if one of its two roundings is to too many places. -/
theorem short_nearest (hk : k = .short ∨ k = .shortUpper)
    (hp : s.precision.elim d.precision .ok = .ok p) (hx : x.toRat? = some r) (hr : r ≠ 0) :
    ∃ (y : ℚ) (e : ℤ), IsNearest (Int.log 10 |r| - (max p 1 - 1 : ℕ)) r y ∧
      10 ^ e ≤ |y| ∧ |y| < 10 ^ (e + 1) ∧
      ((∃ t, binaryText d s k x = .ok t) ↔ p - 1 ≤ maxPlaces ∧
        (-6 ≤ e → e < (max p 1 : ℕ) → (max p 1 : ℕ) - 1 - e ≤ maxPlaces)) ∧
      ∀ t, binaryText d s k x = .ok t → denoted? t = some y ∧ (t.head? = some '-' ↔ r < 0) ∧
        ∃ n : Positional, n.IsStripped ∧
          if e < -6 ∨ (max p 1 : ℕ) ≤ e then
            1 ≤ n.value ∧ n.value < 10 ∧
              t = Positional.minus (r < 0) (Decimals.withExponent n.text e)
          else t = Positional.minus (r < 0) n.text := by
  obtain ⟨num, den, hnum, hden, hquotient, htext⟩ := exists_quotient_of_ne hp hx hr
  have hfloat : floatText k num den p = Decimals.short num den p := by
    rcases hk with rfl | rfl <;> rfl
  have hparts := Decimals.isScientific_scientificParts (max p 1 - 1) hnum hden
  have hvalue := Decimals.value_shortNumber p hnum hden
  have hshort := Decimals.short_eq p den hnum
  obtain ⟨e, he⟩ : ∃ e, (Decimals.scientificParts num den (max p 1 - 1)).2 = e := ⟨_, rfl⟩
  obtain ⟨n, hstripped, hform⟩ := Decimals.exists_short_eq p hnum hden he
  rw [he] at hparts hvalue hshort
  rw [hquotient] at hparts
  generalize (Decimals.scientificParts num den (max p 1 - 1)).1 = m at hparts hvalue
  have hmagnitude : |signOf (r < 0) * (m * 10 ^ (e - (max p 1 - 1 : ℕ)))| =
      m * 10 ^ (e - (max p 1 - 1 : ℕ)) :=
    abs_signOf_mul (mul_nonneg m.cast_nonneg (ten_zpow_pos _).le)
  refine ⟨signOf (r < 0) * (m * 10 ^ (e - (max p 1 - 1 : ℕ))), e, ?_, ?_, ?_, ?_, ?_⟩
  · exact isNearest_of_abs hparts.rounded
  · exact hmagnitude.symm ▸ hparts.zpow_le
  · exact hmagnitude.symm ▸ hparts.lt_zpow
  · rw [htext k, ← shortPlaces_le_iff he, ← checkPrecision_short_eq_ok_iff hk hnum]
    constructor
    · rintro ⟨t, ht⟩
      obtain ⟨u, hu, -⟩ := bind_eq_ok_iff.1 ht
      exact hu
    · intro hok
      exact ⟨_, by rw [hok, ok_bind]⟩
  · intro t ht
    rw [htext k] at ht
    obtain ⟨u, -, ht⟩ := bind_eq_ok_iff.1 ht
    rw [hfloat, Except.ok.injEq] at ht
    subst ht
    refine ⟨?_, ?_, n, hstripped, ?_⟩
    · rw [hshort, Positional.denoted?_minus, hvalue]
    · rw [hshort, Positional.head?_minus, decide_eq_true_iff]
    · split_ifs at hform ⊢
      · exact ⟨hform.1, hform.2.1, congrArg _ hform.2.2⟩
      · exact congrArg _ hform

/-- `9.5` is rounded up to ten, which has more than one significant digit. -/
theorem short_nearest_carried :
    Binary64.toRat? (.finite true 19 (-1) (by decide)) = some (-(19 / 2)) ∧
      ∃ t y, binaryText Settings.standard.defaults
          { Specification.bare with precision := some 1 } .short
          (.finite true 19 (-1) (by decide)) = .ok t ∧ denoted? t = some y ∧
        IsNearest (Int.log 10 |(-(19 / 2) : ℚ)| - 0) (-(19 / 2)) y ∧ t = "-1e+1".toList := by
  have hx : Binary64.toRat? (.finite true 19 (-1) (by decide)) = some (-(19 / 2)) := by
    rw [Binary64.toRat?_finite]
    norm_num [signOf]
  have hten : binaryText Settings.standard.defaults
      { Specification.bare with precision := some 1 } .short
      (.finite true 19 (-1) (by decide)) = .ok "-1e+1".toList := by decide
  obtain ⟨y, e, hnear, -, -, -, hform⟩ := short_nearest (d := Settings.standard.defaults)
    (s := { Specification.bare with precision := some 1 }) (.inl rfl) rfl hx (by norm_num)
  exact ⟨hx, _, y, hten, (hform _ hten).1, hnear, rfl⟩

/-- So many digits are refused. -/
theorem short_refused :
    binaryText Settings.standard.defaults { Specification.bare with precision := some 2000056 }
      .short (.finite false 1 (-1) (by decide)) = .error .tooPrecise := rfl

end Directive

end Textwork
