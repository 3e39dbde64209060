/-
  The integers of numbers.

  * `Rounding.towardZero` is a number without its fraction, `Value.number?` the
    number that a value is;
  * `result_leadingInt_decimal`: of a decimal number the digits at the start of
    its text are read, which are those before the point or, in front of an
    exponent, the first one;
  * `leadingInt_number`: all other numbers are truncated toward zero, and which
    decimal numbers are.
-/
import Textwork.Directive.Rendering
import Textwork.Proofs.Number.Rounding
import Textwork.Proofs.Number.Leading
import Textwork.Proofs.Number.Positional
import Textwork.Proofs.Value.Plain

namespace Textwork

/-! ## Truncation -/

namespace Rounding

/-- A number without its fraction. -/
def towardZero (r : ℚ) : ℤ := if 0 ≤ r then ⌊r⌋ else ⌈r⌉

theorem towardZero_natCast_div (n d : ℕ) : towardZero (n / d) = n / d := by
  rw [towardZero, if_pos (by positivity), Rat.floor_natCast_div_natCast]

theorem towardZero_neg (r : ℚ) : towardZero (-r) = -towardZero r := by
  rcases lt_trichotomy r 0 with h | rfl | h
  · simp [towardZero, h.le, not_le.2 h, Int.floor_neg]
  · simp [towardZero]
  · simp [towardZero, h.le, not_le.2 h, Int.ceil_neg]

theorem towardZero_intCast (n : ℤ) : towardZero n = n := by
  simp [towardZero]

theorem towardZero_signOf_mul (negative : Bool) (n d : ℕ) :
    towardZero (signOf negative * (n / d)) = Numeral.withSign negative (n / d) := by
  cases negative with
  | false => simp [signOf, Numeral.withSign, towardZero_natCast_div]
  | true => simp [signOf, Numeral.withSign, towardZero_neg, towardZero_natCast_div]

theorem tdiv_eq_towardZero (r : ℚ) : Int.tdiv r.num r.den = towardZero r := by
  have hr : r = signOf (r.num < 0) * (r.num.natAbs / r.den) := by
    rw [← mul_div_assoc, signOf_mul_natAbs, Rat.num_div_den]
  have htdiv : ∀ (negative : Bool) (n d : ℕ),
      Int.tdiv (Numeral.withSign negative n) d = Numeral.withSign negative (n / d) := by
    intro negative n d
    cases negative <;> simp [Numeral.withSign, Int.neg_tdiv]
  conv_rhs => rw [hr]
  rw [towardZero_signOf_mul, ← htdiv, Positional.withSign_natAbs]

end Rounding

/-! ## Texts of decimal numbers -/

namespace Numeral

variable {c : ℕ}

theorem length_ofNat_pos (n : ℕ) : 0 < (ofNat n).length :=
  List.length_pos_iff.2 (ofNat_ne_nil n)

theorem withSign_inj {negative : Bool} {n m : ℕ} :
    withSign negative n = withSign negative m ↔ n = m := by
  cases negative <;> simp [withSign]

theorem lt_pow_length (n : ℕ) : n < 10 ^ (ofNat n).length :=
  (Rounding.decimalLength_le_iff (length_ofNat_pos n)).1 le_rfl

theorem isNumber_take_ofNat (c : ℕ) {k : ℕ} (hk : 0 < k) :
    Directive.IsNumber ((ofNat c).take k) := by
  refine ⟨?_, fun d hd => isDigit_of_mem_ofNat (List.mem_of_mem_take hd)⟩
  rw [← List.length_pos_iff, List.length_take]
  have := length_ofNat_pos c
  omega

/-- The first digits of a numeral are the numeral of a quotient by a power of ten. -/
theorem value_take_ofNat (c k : ℕ) :
    value ((ofNat c).take k) = c / 10 ^ ((ofNat c).length - k) := by
  have hvalue := value_append ((ofNat c).take k) ((ofNat c).drop k)
  have hlt := value_lt fun d (hd : d ∈ (ofNat c).drop k) =>
    isDigit_of_mem_ofNat (List.mem_of_mem_drop hd)
  rw [List.take_append_drop, value_ofNat, List.length_drop] at hvalue
  rw [List.length_drop] at hlt
  generalize 10 ^ ((ofNat c).length - k) = p at hvalue hlt ⊢
  conv_rhs => rw [hvalue]
  rw [Nat.mul_comm, Nat.mul_add_div (by omega), Nat.div_eq_of_lt hlt, Nat.add_zero]

end Numeral

namespace Decimal

open Numeral Rounding

variable {negative : Bool} {c : ℕ} {e : ℤ}

/-- The exponent of the last place before the point, counted from the first digit. -/
def left (c : ℕ) (e : ℤ) : ℤ := e + (ofNat c).length

/-- A number that is written without an exponent. -/
def IsPlain (c : ℕ) (e : ℤ) : Prop := e ≤ 0 ∧ -6 < left c e

instance (c : ℕ) (e : ℤ) : Decidable (IsPlain c e) :=
  inferInstanceAs (Decidable (e ≤ 0 ∧ -6 < left c e))

/-- Where the point is written, counted from the first digit. -/
def pointOf (c : ℕ) (e : ℤ) : ℤ := if IsPlain c e then left c e else 1

/-- The digits before the point. -/
def wholeDigits (c : ℕ) (e : ℤ) : Text :=
  if pointOf c e ≤ 0 then ['0'] else (ofNat c).take (pointOf c e).toNat

theorem pointOf_le (c : ℕ) (e : ℤ) : pointOf c e ≤ (ofNat c).length := by
  have hlen := length_ofNat_pos c
  unfold pointOf
  split_ifs with h
  · have := h.1
    unfold left
    omega
  · omega

theorem isNumber_wholeDigits (c : ℕ) (e : ℤ) : Directive.IsNumber (wholeDigits c e) := by
  unfold wholeDigits
  split_ifs with h
  · exact ⟨by simp, by simp⟩
  · exact isNumber_take_ofNat c (by omega)

theorem exists_placePoint (c : ℕ) (e : ℤ) :
    ∃ rest, placePoint (ofNat c) (pointOf c e) = wholeDigits c e ++ rest ∧
      (rest = [] ∨ ∃ more, rest = '.' :: more) := by
  have hle := pointOf_le c e
  unfold placePoint wholeDigits
  split_ifs with h hlen
  · exact ⟨_, rfl, .inr ⟨_, rfl⟩⟩
  · refine ⟨[], ?_, .inl rfl⟩
    rw [List.take_of_length_le hlen, Nat.sub_eq_zero_of_le (by omega)]
    rfl
  · exact ⟨_, rfl, .inr ⟨_, rfl⟩⟩

/-- A number is written as a sign, the digits before the point and what follows them. -/
theorem exists_text (negative : Bool) (c : ℕ) (e : ℤ) :
    ∃ s rest, IsSign s negative ∧ EndsDigits rest ∧
      text (finite negative c e) = s ++ (wholeDigits c e ++ rest) := by
  obtain ⟨rest, hplaced, hrest⟩ := exists_placePoint c e
  have htext : ∃ tail, (tail = [] ∨ ∃ more, tail = 'E' :: more) ∧
      text (finite negative c e) =
        (if negative then ['-'] else []) ++ (placePoint (ofNat c) (pointOf c e) ++ tail) := by
    refine ⟨if left c e = pointOf c e then [] else 'E' :: signed (left c e - pointOf c e), ?_, ?_⟩
    · split_ifs
      · exact .inl rfl
      · exact .inr ⟨_, rfl⟩
    · exact List.append_assoc ..
  obtain ⟨tail, htail, htext⟩ := htext
  refine ⟨if negative then ['-'] else [], rest ++ tail, ?_, ?_, ?_⟩
  · cases negative
    · exact .absent
    · exact .minus
  · rcases hrest with rfl | ⟨more, rfl⟩
    · rcases htail with rfl | ⟨more, rfl⟩ <;> simp [EndsDigits]
    · simp [EndsDigits]
  · rw [htext, hplaced, List.append_assoc]

theorem value_wholeDigits (h : IsPlain c e) :
    value (wholeDigits c e) = c / 10 ^ (-e).toNat := by
  have hlt := lt_pow_length c
  have hle := h.1
  unfold wholeDigits
  rw [pointOf, if_pos h]
  unfold left
  split_ifs with hpoint
  · refine (Nat.div_eq_of_lt (hlt.trans_le ?_)).symm
    exact Nat.pow_le_pow_right (by decide) (by omega)
  · rw [value_take_ofNat]
    congr 2
    omega

theorem value_wholeDigits_of_not_isPlain (h : ¬IsPlain c e) :
    value (wholeDigits c e) = c / 10 ^ ((ofNat c).length - 1) := by
  unfold wholeDigits
  rw [pointOf, if_neg h, if_neg (by decide), value_take_ofNat]
  rfl

theorem maxDigits_lt_length_wholeDigits_iff :
    maxDigits < (wholeDigits c e).length ↔ IsPlain c e ∧ maxDigits < left c e := by
  have hle := pointOf_le c e
  have hmax : maxDigits = 4300 := rfl
  unfold wholeDigits
  split_ifs with hpoint
  · unfold pointOf at hpoint
    split_ifs at hpoint with hplain
    · simp [hplain]
      omega
    · omega
  · rw [List.length_take, Nat.min_eq_left (by omega)]
    unfold pointOf
    split_ifs with hplain
    · simp [hplain]
    · simp [hplain, hmax]

/-! ## Integer parts -/

/-- The integer part of `c * 10 ^ e`. -/
def whole (c : ℕ) (e : ℤ) : ℕ := (scale 10 e c 1).1 / (scale 10 e c 1).2

theorem whole_of_nonpos (h : e ≤ 0) : whole c e = c / 10 ^ (-e).toNat := by
  unfold whole scale
  split_ifs with h0
  · obtain rfl : e = 0 := by omega
    simp
  · simp

theorem whole_of_pos (h : 0 < e) : whole c e = c * 10 ^ e.toNat := by
  simp [whole, scale, h.le]

theorem whole_zero (e : ℤ) : whole 0 e = 0 := by
  rcases lt_or_ge 0 e with he | he
  · simp [whole_of_pos he]
  · simp [whole_of_nonpos he]

theorem toRat?_finite (negative : Bool) (c : ℕ) (e : ℤ) :
    (finite negative c e).toRat? = some (signOf negative * (c * 10 ^ e)) := by
  have h := mkRat_scale (by decide : 0 < 10) negative e c
  rw [Nat.cast_ofNat] at h
  simp only [toRat?, h]

theorem towardZero_finite (negative : Bool) (c : ℕ) (e : ℤ) :
    towardZero (signOf negative * (c * 10 ^ e)) = withSign negative (whole c e) := by
  have h := quotient_scale_one (by decide : 0 < 10) e c
  rw [Nat.cast_ofNat] at h
  rw [← h, towardZero_signOf_mul]
  rfl

/-- With an exponent behind it, one digit is before the point, and it is not the integer part. -/
theorem value_wholeDigits_ne (hc : c ≠ 0) (h : ¬IsPlain c e) :
    value (wholeDigits c e) ≠ whole c e := by
  obtain ⟨k, hk, hlow, hhigh⟩ := exists_decimalLength (Nat.pos_of_ne_zero hc)
  have hlen : (ofNat c).length = k + 1 := hk
  rw [value_wholeDigits_of_not_isPlain h, hlen, Nat.add_sub_cancel]
  rcases lt_or_ge 0 e with he | he
  · have hdigit : c / 10 ^ k ≤ c := Nat.div_le_self c _
    have hten : 10 ≤ 10 ^ e.toNat := Nat.le_self_pow (by omega) 10
    have hwhole : c * 10 ≤ c * 10 ^ e.toNat := Nat.mul_le_mul_left c hten
    rw [whole_of_pos he]
    omega
  · have hdigit : 0 < c / 10 ^ k := Nat.div_pos hlow (by positivity)
    have hleft : left c e ≤ -6 := not_lt.1 fun hlt => h ⟨he, hlt⟩
    have hsmall : c < 10 ^ (-e).toNat :=
      hhigh.trans_le (Nat.pow_le_pow_right (by decide) (by unfold left at hleft; omega))
    rw [whole_of_nonpos he, Nat.div_eq_of_lt hsmall]
    omega

end Decimal

namespace Value

open Numeral Rounding

variable {negative : Bool} {c : ℕ} {e : ℤ}

/-- The text of a decimal number is read. -/
theorem result_leadingInt_decimal (d : Decimal) :
    (decimal d).leadingInt.result = (text d.text).leadingInt.result := by
  rw [result_leadingInt_text]
  simp only [leadingInt, toText, textOr, display, Traced.result_bind, Traced.result_ofExcept,
    ok_bind]
  cases leadingInteger? d.text with
  | none => rfl
  | some p =>
    simp only [Traced.result_bind, Traced.result_ofExcept]
    cases read? p.2 <;> rfl

/-- Of a decimal number the digits before the point are read. -/
theorem result_leadingInt_finite (negative : Bool) (c : ℕ) (e : ℤ) :
    (decimal (.finite negative c e)).leadingInt.result =
      (read? (Decimal.wholeDigits c e)).map (withSign negative ·) := by
  obtain ⟨s, rest, hs, hrest, htext⟩ := Decimal.exists_text negative c e
  have hread := leadingInteger?_append (List.forall_mem_nil _) hs (Decimal.isNumber_wholeDigits c e)
    hrest
  rw [List.nil_append, ← htext] at hread
  rw [result_leadingInt_decimal, result_leadingInt_text, hread]

/-- The digits before the point are the integer part, and few enough to be read. -/
def ReadsWhole (c : ℕ) (e : ℤ) : Prop :=
  c = 0 ∨ Decimal.IsPlain c e ∧ Decimal.left c e ≤ maxDigits

instance (c : ℕ) (e : ℤ) : Decidable (ReadsWhole c e) :=
  inferInstanceAs (Decidable (c = 0 ∨ Decimal.IsPlain c e ∧ Decimal.left c e ≤ maxDigits))

theorem result_leadingInt_finite_iff (negative : Bool) (c : ℕ) (e : ℤ) :
    (decimal (.finite negative c e)).leadingInt.result =
      .ok (withSign negative (Decimal.whole c e)) ↔ ReadsWhole c e := by
  have hlong := Decimal.maxDigits_lt_length_wholeDigits_iff (c := c) (e := e)
  rw [result_leadingInt_finite, read?, ReadsWhole]
  by_cases hread : maxDigits < (Decimal.wholeDigits c e).length
  · obtain ⟨hplain, hleft⟩ := hlong.1 hread
    have hc : c ≠ 0 := by
      rintro rfl
      have hone : (ofNat 0).length = 1 := rfl
      have hmax : maxDigits = 4300 := rfl
      have := hplain.1
      unfold Decimal.left at hleft
      omega
    rw [if_pos hread]
    simp [Except.map, hc, not_le.2 hleft]
  · rw [if_neg hread]
    simp only [Except.map, Except.ok.injEq, withSign_inj]
    by_cases hplain : Decimal.IsPlain c e
    · have hleft : Decimal.left c e ≤ maxDigits := not_lt.1 fun hlt => hread (hlong.2 ⟨hplain, hlt⟩)
      rw [Decimal.value_wholeDigits hplain, Decimal.whole_of_nonpos hplain.1]
      simp [hplain, hleft]
    · by_cases hc : c = 0
      · subst hc
        simp [Decimal.value_wholeDigits_of_not_isPlain hplain, Decimal.whole_zero]
      · simp [hc, hplain, Decimal.value_wholeDigits_ne hc hplain]

/-! ## All numbers -/

/-- The number that a value is. -/
def number? : Value → Option ℚ
  | bool b => some (if b then 1 else 0)
  | int n => some n
  | float x => x.toRat?
  | fraction r => some r
  | decimal d => d.toRat?
  | _ => none

/-- An infinity or a NaN. -/
inductive IsNonFinite : Value → Prop
  | infiniteFloat (negative : Bool) : IsNonFinite (float (.infinite negative))
  | nanFloat : IsNonFinite (float .nan)
  | infiniteDecimal (negative : Bool) : IsNonFinite (decimal (.infinite negative))
  | nanDecimal (negative signaling : Bool) (payload : Text) :
    IsNonFinite (decimal (.nan negative signaling payload))

/-- If the value is a decimal number, it starts with its integer part. -/
def StartsWhole (v : Value) : Prop :=
  ∀ negative c e, v = decimal (.finite negative c e) → ReadsWhole c e

theorem truncated?_of_toRat? {x : Binary64} {r : ℚ} (h : x.toRat? = some r) :
    x.truncated? = some (towardZero r) := by
  obtain ⟨negative, m, q, fits, rfl, rfl⟩ := Binary64.exists_finite h
  rw [← Binary64.quotient_magnitude, towardZero_signOf_mul]
  rfl

theorem leadingInt_eq_towardZero_iff {v : Value} {r : ℚ} (h : v.number? = some r) :
    v.leadingInt.result = .ok (towardZero r) ↔ v.StartsWhole := by
  have htruncated {v : Value} (hv : ∀ d, v ≠ decimal d)
      (hresult : v.leadingInt.result = .ok (towardZero r)) :
      v.leadingInt.result = .ok (towardZero r) ↔ v.StartsWhole :=
    iff_of_true hresult fun _ _ _ hd => absurd hd (hv _)
  cases v with
  | decimal d =>
    cases d with
    | finite negative c e =>
      obtain rfl : _ = r := Option.some.inj ((Decimal.toRat?_finite negative c e).symm.trans h)
      rw [Decimal.towardZero_finite, result_leadingInt_finite_iff]
      constructor
      · rintro hread _ _ _ ⟨⟩
        exact hread
      · intro hstarts
        exact hstarts negative c e rfl
    | infinite | nan => cases h
  | bool b =>
    obtain rfl := Option.some.inj h
    refine htruncated (by simp) ?_
    cases b
    · rfl
    · exact congrArg Except.ok (towardZero_intCast 1).symm
  | int n =>
    obtain rfl := Option.some.inj h
    exact htruncated (by simp) (congrArg Except.ok (towardZero_intCast n).symm)
  | float x =>
    refine htruncated (by simp) ?_
    simp only [leadingInt, truncated?_of_toRat? h]
    rfl
  | fraction r' =>
    obtain rfl := Option.some.inj h
    exact htruncated (by simp) (congrArg Except.ok (tdiv_eq_towardZero _))
  | _ => cases h

theorem leadingInt_of_isNonFinite {v : Value} (h : v.IsNonFinite) :
    v.leadingInt.result = .ok 0 := by
  cases h with
  | infiniteFloat | nanFloat => rfl
  | infiniteDecimal negative => cases negative <;> rfl
  | nanDecimal negative signaling payload =>
    rw [result_leadingInt_decimal, result_leadingInt_text]
    cases negative <;> cases signaling <;> rfl

/-- **The integer of a number is the number truncated toward zero**, of infinities and NaNs it is
    zero, and the directives of decimal integers print it.  Decimal numbers are read from their
    texts: this is right for zero and if the digits before the point are written out, and no more
    than can be read. -/
theorem leadingInt_number (v : Value) :
    (∀ r, v.number? = some r → (v.leadingInt.result = .ok (towardZero r) ↔ v.StartsWhole)) ∧
      (v.IsNonFinite → v.leadingInt.result = .ok 0) ∧
      ∀ n, v.leadingInt.result = .ok n → ∀ d s k, k = .decimal ∨ k = .integer →
        (Directive.render d s k v).result = (write? n).map (Directive.withPlus s (n < 0)) := by
  refine ⟨fun _ => leadingInt_eq_towardZero_iff, leadingInt_of_isNonFinite, ?_⟩
  rintro n hn d s k (rfl | rfl)
  all_goals
    simp only [Directive.render, Directive.renderDecimal, Traced.result_bind,
      Traced.result_ofExcept, hn, ok_bind]
    cases write? n <;> rfl

/-- The text `1E+3` of a decimal number starts with another integer than its own. -/
theorem leadingInt_decimal_exponent :
    (decimal (.finite false 1 3)).number? = some 1000 ∧
      (decimal (.finite false 1 3)).leadingInt.result ≠ .ok (towardZero 1000) := by
  have hnumber : (decimal (.finite false 1 3)).number? = some 1000 :=
    (Decimal.toRat?_finite false 1 3).trans (by norm_num [signOf])
  refine ⟨hnumber, fun h => ?_⟩
  have hread := (leadingInt_eq_towardZero_iff hnumber).1 h _ _ _ rfl
  revert hread
  decide

end Value

end Textwork
