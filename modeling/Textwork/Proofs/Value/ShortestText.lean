/-
  The shortest decimal texts of binary numbers.

  * `Interval.holds_iff`: the test of a decimal on a grid is the comparison with
    the ends of the interval;
  * `digits_spec`: the digits that are found are not zero, or stand for an integer,
    and their value is below `Binary64.overflow`;
  * `magnitude_write`: written with or without an exponent they are a numeral of
    their value, so that the text of a finite number is a number in the grammar
    (`floatText_text`).
-/
import Textwork.Number.Shortest
import Textwork.Proofs.Number.Positional
import Textwork.Proofs.Value.FloatText
import Mathlib.Data.Nat.Cast.Order.Field

namespace Textwork

open Directive (IsNumber)
open DecimalNumeral (Exponent Mantissa)
open Rounding

namespace Shortest

/-! ## The interval of a number -/

namespace Interval

variable {i : Interval} {d : ℕ} {k : ℤ}

theorem quotient_locate (i : Interval) (d : ℕ) (k : ℤ) :
    0 < (i.locate d k).2 ∧
      ((i.locate d k).1 : ℚ) / (i.locate d k).2 = d * 10 ^ k / 2 ^ i.exponent := by
  have hpos := scale_snd_pos (by decide : 0 < 10) k d Nat.one_pos
  have hten := quotient_scale_one (by decide : 0 < 10) k d
  refine ⟨scale_snd_pos (by decide : 0 < 2) _ _ hpos, ?_⟩
  rw [locate, quotient_scale (by decide), hten, Nat.cast_ofNat, Nat.cast_ofNat, zpow_neg,
    div_eq_mul_inv]

/-- **A decimal passes the test if it lies between the ends of the interval.** -/
theorem holds_iff : i.holds d k = true ↔
    if i.closed = true then
      i.low * 2 ^ i.exponent ≤ (d * 10 ^ k : ℚ) ∧ (d * 10 ^ k : ℚ) ≤ i.high * 2 ^ i.exponent
    else i.low * 2 ^ i.exponent < (d * 10 ^ k : ℚ) ∧ (d * 10 ^ k : ℚ) < i.high * 2 ^ i.exponent := by
  obtain ⟨hden, hquotient⟩ := i.quotient_locate d k
  unfold holds
  generalize (d * 10 ^ k : ℚ) = x at hquotient ⊢
  generalize i.locate d k = p at hden hquotient ⊢
  have hunit := Binary64.two_zpow_pos i.exponent
  have hden' : (0 : ℚ) < p.2 := by exact_mod_cast hden
  have hle (a : ℕ) : a * p.2 ≤ p.1 ↔ a * 2 ^ i.exponent ≤ x := by
    rw [← le_div_iff₀ hunit, ← hquotient, le_div_iff₀ hden']
    exact_mod_cast Iff.rfl
  have hge (a : ℕ) : p.1 ≤ a * p.2 ↔ x ≤ a * 2 ^ i.exponent := by
    rw [← div_le_iff₀ hunit, ← hquotient, div_le_iff₀ hden']
    exact_mod_cast Iff.rfl
  cases hclosed : i.closed <;> simp [hle, hge, ← not_le]

/-- What is picked has passed the test. -/
theorem holds_of_pick? {d' : ℕ} (h : i.pick? d k = some d') : i.holds d' k = true := by
  unfold pick? at h
  split at h
  · next hlow hhigh =>
    dsimp only at h
    split_ifs at h
    all_goals
      cases h
      first | exact hlow | exact hhigh
  · next hlow _ =>
    cases h
    exact hlow
  · next _ hhigh =>
    cases h
    exact hhigh
  · cases h

/-- The search ends with a decimal that has passed the test, or takes the integer part. -/
theorem search_spec (i : Interval) (num den : ℕ) (top : ℤ) (count room : ℕ) :
    i.holds (i.search num den top count room).1 (i.search num den top count room).2 = true ∨
      i.search num den top count room = (num / den, 0) := by
  induction room generalizing count with
  | zero => exact .inr rfl
  | succ room ih =>
    unfold search
    dsimp only
    split
    · next hpick => exact .inl (holds_of_pick? hpick)
    · exact ih (count + 1)

end Interval

/-! ## The digits -/

variable {m : ℕ} {q : ℤ}

/-- The upper end lies half a unit above the number. -/
theorem high_eq (m : ℕ) (q : ℤ) :
    ((Interval.of m q).high : ℚ) * 2 ^ (Interval.of m q).exponent =
      ((2 * m + 1 : ℕ) : ℚ) * 2 ^ (q - 1) := by
  have hunit := Binary64.zpow_succ (q - 2)
  rw [sub_add, show (2 : ℤ) - 1 = 1 from rfl] at hunit
  rw [hunit, Interval.of]
  push_cast
  ring

/-- Half a unit above a finite number is not beyond the bound of all of them, and at this bound only
    for the greatest one, whose significand is odd. -/
theorem half_above_le (hm : m < 2 ^ 53) (hq : q ≤ 971) :
    ((2 * m + 1 : ℕ) : ℚ) * 2 ^ (q - 1) ≤ Binary64.overflow ∧
      (m % 2 = 0 → ((2 * m + 1 : ℕ) : ℚ) * 2 ^ (q - 1) < Binary64.overflow) := by
  have hpos := Binary64.two_zpow_pos 970
  have hmax : (2 : ℚ) ^ 54 - 1 = ((2 ^ 54 - 1 : ℕ) : ℚ) := by norm_num
  have hunit : (2 : ℚ) ^ (q - 1) ≤ 2 ^ (970 : ℤ) :=
    zpow_le_zpow_right₀ (by norm_num) (by omega)
  have hstep : ((2 * m + 1 : ℕ) : ℚ) * 2 ^ (q - 1) ≤ ((2 * m + 1 : ℕ) : ℚ) * 2 ^ (970 : ℤ) :=
    mul_le_mul_of_nonneg_left hunit (Nat.cast_nonneg _)
  rw [Binary64.overflow, hmax]
  constructor
  · refine hstep.trans (mul_le_mul_of_nonneg_right ?_ hpos.le)
    exact_mod_cast (by omega : 2 * m + 1 ≤ 2 ^ 54 - 1)
  · intro heven
    refine hstep.trans_lt (mul_lt_mul_of_pos_right ?_ hpos)
    exact_mod_cast (by omega : 2 * m + 1 < 2 ^ 54 - 1)

theorem mul_zpow_lt_overflow (hm : m < 2 ^ 53) (hq : q ≤ 971) :
    (m : ℚ) * 2 ^ q < Binary64.overflow := by
  have hunit := Binary64.zpow_succ (q - 1)
  rw [sub_add_cancel] at hunit
  calc (m : ℚ) * 2 ^ q = ((2 * m : ℕ) : ℚ) * 2 ^ (q - 1) := by
        rw [hunit]
        push_cast
        ring
    _ < ((2 * m + 1 : ℕ) : ℚ) * 2 ^ (q - 1) :=
        mul_lt_mul_of_pos_right (by exact_mod_cast Nat.lt_succ_self _) (Binary64.two_zpow_pos _)
    _ ≤ Binary64.overflow := (half_above_le hm hq).1

/-- **The digits of a finite number stand for a finite number.** -/
theorem digits_spec (hm0 : m ≠ 0) (hm : m < 2 ^ 53) (hq : q ≤ 971) :
    ((digits m q).1 ≠ 0 ∨ (digits m q).2 = 0) ∧
      ((digits m q).1 : ℚ) * 10 ^ (digits m q).2 < Binary64.overflow := by
  obtain ⟨hhigh, heven⟩ := half_above_le hm hq
  have hmagnitude := Binary64.quotient_magnitude m q
  have hlow : 0 < (Interval.of m q).low := by
    change 0 < 4 * m - _
    split_ifs <;> omega
  have hlow' : (0 : ℚ) < (Interval.of m q).low * 2 ^ (Interval.of m q).exponent :=
    mul_pos (by exact_mod_cast hlow) (Binary64.two_zpow_pos _)
  rcases (Interval.of m q).search_spec (Binary64.magnitude m q).1 (Binary64.magnitude m q).2
      (decimalExponent (Binary64.magnitude m q).1 (Binary64.magnitude m q).2) 1 17 with h | h
  · change (Interval.of m q).holds (digits m q).1 (digits m q).2 = true at h
    rw [Interval.holds_iff, high_eq] at h
    have hpos : (0 : ℚ) < (digits m q).1 * 10 ^ (digits m q).2 := by
      split_ifs at h <;> linarith [h.1]
    refine ⟨.inl fun h0 => ?_, ?_⟩
    · rw [h0, Nat.cast_zero, zero_mul] at hpos
      exact lt_irrefl _ hpos
    · split_ifs at h with hclosed
      · exact h.2.trans_lt (heven (of_decide_eq_true hclosed))
      · exact h.2.trans_le hhigh
  · -- Without a hit the integer part is taken, which is not above the number itself.
    change digits m q = _ at h
    rw [h]
    refine ⟨.inr rfl, ?_⟩
    rw [zpow_zero, mul_one]
    exact (Nat.cast_div_le.trans_eq hmagnitude).trans_lt (mul_zpow_lt_overflow hm hq)

end Shortest

/-! ## Numerals -/

namespace DecimalNumeral

variable {a v : ℚ} {ds fs t : Text}

theorem isNumber_zero : IsNumber ['0'] := ⟨by simp, by simp⟩

/-- A mantissa and an exponent, and the number that they are. -/
def Magnitude (t : Text) (v : ℚ) : Prop :=
  ∃ m a x e, Mantissa m a ∧ Exponent x e ∧ t = m ++ x ∧ v = a * 10 ^ e

theorem magnitude_of_mantissa (h : Mantissa t v) : Magnitude t v :=
  ⟨t, v, [], 0, h, .absent, (List.append_nil t).symm, by rw [zpow_zero, mul_one]⟩

theorem Magnitude.floatText (h : Magnitude t v) {s : Text} {negative : Bool}
    (hs : Numeral.IsSign s negative) : FloatText (s ++ t) negative (some v) := by
  obtain ⟨m, a, x, e, hm, hx, rfl, rfl⟩ := h
  exact .number hs hm hx

/-- Digits around a point are those of an integer with as many places as stand behind it. -/
theorem mantissa_pointed (hds : IsNumber ds) (hfs : ∀ c ∈ fs, c.isDigit = true) :
    Mantissa (ds ++ '.' :: fs) (Numeral.value (ds ++ fs) * 10 ^ (-fs.length : ℤ)) := by
  have h := Mantissa.pointed hds hfs
  rwa [← value_pointed] at h

end DecimalNumeral

namespace Shortest

open DecimalNumeral (Magnitude isNumber_zero magnitude_of_mantissa mantissa_pointed)

/-! ## Digits without the zeros at the end -/

/-- The digits of a number without the zeros at the end. -/
def kept (d : ℕ) : Text := Text.trimEnd (· == '0') (Numeral.ofNat d)

theorem isDigit_of_mem_kept {d : ℕ} {c : Char} (h : c ∈ kept d) : c.isDigit = true :=
  Numeral.isDigit_of_mem_ofNat (Text.mem_of_mem_trimEnd h)

theorem isDigit_of_mem_zeros {n : ℕ} {c : Char} (h : c ∈ List.replicate n '0') :
    c.isDigit = true := by
  rw [List.eq_of_mem_replicate h]
  rfl

theorem value_append_zeros (t : Text) (n : ℕ) :
    Numeral.value (t ++ List.replicate n '0') = Numeral.value t * 10 ^ n := by
  rw [Numeral.value_append, Numeral.value_replicate_zero, List.length_replicate, Nat.add_zero]

theorem value_zeros_append (n : ℕ) (t : Text) :
    Numeral.value (List.replicate n '0' ++ t) = Numeral.value t := by
  rw [Numeral.value_append, Numeral.value_replicate_zero, Nat.zero_mul, Nat.zero_add]

/-- The value of the digits that are kept, with the point where it stands among all of them. -/
theorem value_kept (d : ℕ) (k : ℤ) :
    (d : ℚ) * 10 ^ k =
      Numeral.value (kept d) * 10 ^ (k + (Numeral.ofNat d).length - (kept d).length) := by
  obtain ⟨z, hz⟩ := Text.exists_trimEnd_append_replicate '0' (Numeral.ofNat d)
  have hlength : (Numeral.ofNat d).length = (kept d).length + z := by
    conv_lhs => rw [hz]
    rw [List.length_append, List.length_replicate, kept]
  have hvalue : d = Numeral.value (kept d) * 10 ^ z := by
    conv_lhs => rw [← Numeral.value_ofNat d, hz]
    exact value_append_zeros _ _
  have hexponent : k + ((kept d).length + z : ℕ) - (kept d).length = z + k := by
    push_cast
    ring
  rw [hlength, hexponent, zpow_add₀ (by norm_num), zpow_natCast, ← mul_assoc]
  congr 1
  exact_mod_cast hvalue

theorem kept_ne_nil {d : ℕ} (hd : d ≠ 0) : kept d ≠ [] := by
  intro hnil
  have h := value_kept d 0
  rw [hnil, zpow_zero, mul_one] at h
  have hzero : ((Numeral.value [] : ℕ) : ℚ) = 0 := Nat.cast_zero
  rw [hzero, zero_mul] at h
  exact hd (by exact_mod_cast h)

/-! ## Both notations -/

variable {d : ℕ} {k point : ℤ} {ds : Text}

/-- The digits with the point behind `point` of them, without an exponent. -/
def positional (ds : Text) (point : ℤ) : Text :=
  let places := point.toNat
  if point ≤ 0 then '0' :: '.' :: (List.replicate (-point).toNat '0' ++ ds)
  else if ds.length ≤ places then ds ++ List.replicate (places - ds.length) '0' ++ ['.', '0']
  else ds.take places ++ '.' :: ds.drop places

/-- The digits with a point behind the first one, if there are more. -/
def leadingDigit (ds : Text) : Text :=
  match ds with
  | c :: rest => if rest.isEmpty then [c] else c :: '.' :: rest
  | [] => []

/-- An exponent with its mark, its sign and at least two digits. -/
def exponentText (e : ℤ) : Text :=
  let size := Numeral.ofNat e.natAbs
  'e' :: (if e < 0 then '-' else '+') :: (if size.length < 2 then '0' :: size else size)

theorem write_eq (d : ℕ) (k : ℤ) :
    write d k =
      if -4 < k + (Numeral.ofNat d).length ∧ k + (Numeral.ofNat d).length ≤ 16 then
        positional (kept d) (k + (Numeral.ofNat d).length)
      else leadingDigit (kept d) ++ exponentText (k + (Numeral.ofNat d).length - 1) := rfl

theorem mantissa_positional (hds : ∀ c ∈ ds, c.isDigit = true) (point : ℤ) :
    Mantissa (positional ds point) (Numeral.value ds * 10 ^ (point - ds.length)) := by
  unfold positional
  dsimp only
  split_ifs with hbefore hbehind
  · -- The point stands before the digits, with zeros between.
    have hfraction : ∀ c ∈ List.replicate (-point).toNat '0' ++ ds, c.isDigit = true := by
      intro c hc
      rcases List.mem_append.1 hc with hc | hc
      · exact isDigit_of_mem_zeros hc
      · exact hds c hc
    have h := mantissa_pointed isNumber_zero hfraction
    have hvalue : Numeral.value (['0'] ++ (List.replicate (-point).toNat '0' ++ ds)) =
        Numeral.value ds := by
      rw [← List.append_assoc]
      exact value_zeros_append ((-point).toNat + 1) ds
    have hexponent : (-(List.replicate (-point).toNat '0' ++ ds).length : ℤ) =
        point - ds.length := by
      rw [List.length_append, List.length_replicate]
      omega
    rwa [hvalue, hexponent] at h
  · -- It stands behind the digits, with zeros between and one behind it.
    have hwhole : IsNumber (ds ++ List.replicate (point.toNat - ds.length) '0') := by
      refine ⟨List.ne_nil_of_length_pos ?_, fun c hc => ?_⟩
      · rw [List.length_append, List.length_replicate]
        omega
      · rcases List.mem_append.1 hc with hc | hc
        · exact hds c hc
        · exact isDigit_of_mem_zeros hc
    have h := mantissa_pointed hwhole isNumber_zero.isDigit
    have hvalue : Numeral.value (ds ++ List.replicate (point.toNat - ds.length) '0' ++ ['0']) =
        Numeral.value ds * 10 ^ (point.toNat - ds.length + 1) := by
      rw [← value_append_zeros, List.replicate_succ', List.append_assoc]
    have hpow : (10 : ℚ) ^ (point.toNat - ds.length + 1) * 10 ^ (-(['0'] : Text).length : ℤ) =
        10 ^ (point - ds.length) := by
      rw [← zpow_natCast, ← zpow_add₀ (by norm_num)]
      congr 1
      rw [List.length_singleton]
      omega
    rwa [hvalue, Nat.cast_mul, Nat.cast_pow, Nat.cast_ofNat, mul_assoc, hpow] at h
  · -- It stands among the digits.
    have hwhole : IsNumber (ds.take point.toNat) := by
      refine ⟨List.ne_nil_of_length_pos ?_, fun c hc => hds c (List.mem_of_mem_take hc)⟩
      rw [List.length_take]
      omega
    have hplaces : ∀ c ∈ ds.drop point.toNat, c.isDigit = true :=
      fun c hc => hds c (List.mem_of_mem_drop hc)
    have h := mantissa_pointed hwhole hplaces
    have hexponent : (-(ds.drop point.toNat).length : ℤ) = point - ds.length := by
      rw [List.length_drop]
      omega
    rwa [List.take_append_drop, hexponent] at h

theorem mantissa_leadingDigit (hds : IsNumber ds) :
    Mantissa (leadingDigit ds) (Numeral.value ds * 10 ^ (1 - ds.length : ℤ)) := by
  obtain ⟨c, rest, rfl, hc⟩ := Numeral.exists_cons_of_isNumber hds
  have hrest : ∀ a ∈ rest, a.isDigit = true := fun a ha => hds.isDigit a (List.mem_cons_of_mem c ha)
  cases rest with
  | nil => simpa [leadingDigit] using Mantissa.whole hds
  | cons b rest =>
    have hfirst : IsNumber [c] := ⟨by simp, by simpa using hc⟩
    have h := mantissa_pointed hfirst hrest
    have hexponent : (-(b :: rest).length : ℤ) = 1 - (c :: b :: rest).length := by
      simp only [List.length_cons]
      omega
    rwa [hexponent] at h

theorem exponent_exponentText (e : ℤ) : Exponent (exponentText e) e := by
  have hsign : Numeral.IsSign [if e < 0 then '-' else '+'] (decide (e < 0)) := by
    split_ifs with he
    · rw [decide_eq_true he]
      exact .minus
    · rw [decide_eq_false he]
      exact .plus
  have hsize : IsNumber (Numeral.ofNat e.natAbs) :=
    ⟨Numeral.ofNat_ne_nil _, fun c hc => Numeral.isDigit_of_mem_ofNat hc⟩
  have hnumber : IsNumber (if (Numeral.ofNat e.natAbs).length < 2 then
      '0' :: Numeral.ofNat e.natAbs else Numeral.ofNat e.natAbs) := by
    split_ifs
    · exact ⟨List.cons_ne_nil _ _, List.forall_mem_cons.2 ⟨rfl, hsize.isDigit⟩⟩
    · exact hsize
  have hvalue : Numeral.value (if (Numeral.ofNat e.natAbs).length < 2 then
      '0' :: Numeral.ofNat e.natAbs else Numeral.ofNat e.natAbs) = e.natAbs := by
    split_ifs
    · exact (value_zeros_append 1 _).trans (Numeral.value_ofNat _)
    · exact Numeral.value_ofNat _
  have h := Exponent.written (.inl rfl) hsign hnumber
  rwa [hvalue, Positional.withSign_natAbs] at h

/-- **The digits are written as a numeral of their value.** -/
theorem magnitude_write (h : d ≠ 0 ∨ k = 0) : Magnitude (write d k) (d * 10 ^ k) := by
  rw [write_eq, value_kept]
  split_ifs with hpositional
  · exact magnitude_of_mantissa (mantissa_positional (fun _ => isDigit_of_mem_kept) _)
  · have hd : d ≠ 0 := by
      rcases h with h | rfl
      · exact h
      · rintro rfl
        exact hpositional (by decide)
    have hmantissa := mantissa_leadingDigit ⟨kept_ne_nil hd, fun _ => isDigit_of_mem_kept⟩
    refine ⟨_, _, _, _, hmantissa, exponent_exponentText _, rfl, ?_⟩
    rw [mul_assoc, ← zpow_add₀ (by norm_num)]
    congr 2
    ring

end Shortest

/-! ## The text of a number -/

namespace Binary64

open DecimalNumeral (Magnitude isNumber_zero magnitude_of_mantissa)

/-- **The text of a finite number is that of a number that is not too large.** -/
theorem floatText_text (negative : Bool) (m : ℕ) (q : ℤ) (fits) :
    ∃ v : ℚ, FloatText (finite negative m q fits).text negative (some v) ∧ |v| < overflow := by
  obtain ⟨v, hv, hvalue⟩ : ∃ v : ℚ, Magnitude (if m = 0 then ['0', '.', '0'] else
      Shortest.write (Shortest.digits m q).1 (Shortest.digits m q).2) v ∧ |v| < overflow := by
    split_ifs with hm
    · have hzero := Mantissa.pointed isNumber_zero isNumber_zero.isDigit
      exact ⟨_, magnitude_of_mantissa hzero, by simpa [Numeral.value] using overflow_pos⟩
    · obtain ⟨hdigits, hlt⟩ := Shortest.digits_spec hm fits.1 fits.2.2
      refine ⟨_, Shortest.magnitude_write hdigits, ?_⟩
      rwa [abs_of_nonneg (mul_nonneg (Nat.cast_nonneg _) (ten_zpow_pos _).le)]
  refine ⟨v, ?_, hvalue⟩
  cases negative with
  | false => exact hv.floatText .absent
  | true => exact hv.floatText .minus

end Binary64

end Textwork
