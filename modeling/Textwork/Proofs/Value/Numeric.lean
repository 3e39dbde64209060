/-
  Values that are numbers, and texts that are numbers as a whole.

  * `exists_ofText?`: every number of the grammar is read as a whole text, and
    correctly rounded;
  * `isNumeric_text`: such a text is numeric if its number is not too large;
  * `Untested` are the values that are neither numeric nor not: integers beyond
    all binary numbers, and values that cannot be written;
  * `isNumeric_numbers`: integers, binary numbers and their texts are numeric
    alike, up to the size that binary numbers have.
-/
import Textwork.Catalogue.Listing
import Textwork.Proofs.Unicode.Ascii
import Textwork.Proofs.Value.Overlong
import Textwork.Proofs.Value.ShortestText

namespace Textwork

open DecimalNumeral (Exponent Mantissa leading?_append)
open Numeral (IsSign)

/-! ## The characters of numbers -/

namespace Numeral

/-- The character is neither blank nor an underscore, and stands for itself in a numeral. -/
def IsPlain (c : Char) : Prop :=
  Unicode.isBlank c = false ∧ isAsciiBlank c = false ∧ asciiForm c = c ∧ c ≠ '_'

instance (c : Char) : Decidable (IsPlain c) := inferInstanceAs (Decidable (_ ∧ _ ∧ _ ∧ _))

variable {c : Char} {t : Text}

theorem isPlain_of_isAlphanum (hc : c.isAlphanum = true) : IsPlain c :=
  isAlphanum_ascii (P := IsPlain) (by decide) hc

theorem isPlain_of_isDigit (hc : c.isDigit = true) : IsPlain c :=
  isPlain_of_isAlphanum (by simp [Char.isAlphanum, hc])

theorem withoutUnderscores?_eq_some (h : ∀ c ∈ t, c ≠ '_') (afterDigit : Bool) :
    withoutUnderscores? afterDigit t = some t := by
  induction t generalizing afterDigit with
  | nil => rfl
  | cons c rest ih =>
    obtain ⟨hc, hrest⟩ := List.forall_mem_cons.1 h
    rw [withoutUnderscores?_cons hc, ih hrest, Option.map_some]

/-- A text of plain characters is read as it is. -/
theorem plain_of_isPlain (h : ∀ c ∈ t, IsPlain c) :
    withoutUnderscores? false (normalized (Text.trimBoth Unicode.isBlank t)) = some t := by
  have hmap : t.map asciiForm = t :=
    (List.map_congr_left fun c hc => (h c hc).2.2.1).trans t.map_id
  rw [Text.trimBoth_eq_self fun c hc => (h c hc).1, normalized, hmap,
    Text.trimBoth_eq_self fun c hc => (h c hc).2.1]
  exact withoutUnderscores?_eq_some (fun c hc => (h c hc).2.2.2) false

end Numeral

open Numeral (IsPlain isPlain_of_isAlphanum isPlain_of_isDigit)

variable {a r : ℚ} {c : Char} {e n : ℤ} {m s t x : Text} {negative : Bool} {v : Option ℚ}

theorem isPlain_of_mem_sign (h : IsSign s negative) (hc : c ∈ s) : IsPlain c := by
  cases h with
  | absent => cases hc
  | plus | minus =>
    obtain rfl := List.mem_singleton.1 hc
    decide

theorem isPlain_of_mem_mantissa (h : Mantissa m a) (hc : c ∈ m) : IsPlain c := by
  have hpoint : IsPlain '.' := by decide
  cases h with
  | whole hds => exact isPlain_of_isDigit (hds.isDigit c hc)
  | pointed hds hfs =>
    rcases List.mem_append.1 hc with hc | hc
    · exact isPlain_of_isDigit (hds.isDigit c hc)
    · rcases List.mem_cons.1 hc with rfl | hc
      · exact hpoint
      · exact isPlain_of_isDigit (hfs c hc)
  | bare hfs =>
    rcases List.mem_cons.1 hc with rfl | hc
    · exact hpoint
    · exact isPlain_of_isDigit (hfs.isDigit c hc)

theorem isPlain_of_mem_exponent (h : Exponent x e) (hc : c ∈ x) : IsPlain c := by
  cases h with
  | absent => cases hc
  | written hmark hs hds =>
    rcases List.mem_cons.1 hc with rfl | hc
    · rcases hmark with rfl | rfl <;> exact isPlain_of_isAlphanum rfl
    · rcases List.mem_append.1 hc with hc | hc
      · exact isPlain_of_mem_sign hs hc
      · exact isPlain_of_isDigit (hds.isDigit c hc)

theorem FloatText.isPlain (h : FloatText t negative v) (hc : c ∈ t) : IsPlain c := by
  cases h with
  | number hs hm hx =>
    rcases List.mem_append.1 hc with hc | hc
    · exact isPlain_of_mem_sign hs hc
    · rcases List.mem_append.1 hc with hc | hc
      · exact isPlain_of_mem_mantissa hm hc
      · exact isPlain_of_mem_exponent hx hc
  | infinity hs =>
    rcases List.mem_append.1 hc with hc | hc
    · exact isPlain_of_mem_sign hs hc
    · have hletters : "Infinity".toList.all Char.isAlphanum = true := rfl
      exact isPlain_of_isAlphanum (List.all_eq_true.1 hletters c hc)

/-! ## Reading whole texts -/

namespace Binary64

/-- **A number of the grammar is read as a whole.** -/
theorem exists_ofText? (h : FloatText t negative v) :
    ∃ x, ofText? (Text.trimBoth Unicode.isBlank t) = some x ∧ Denotes negative v x := by
  unfold ofText?
  rw [Numeral.plain_of_isPlain fun c hc => h.isPlain hc]
  dsimp only
  cases h with
  | @number s m x negative a e hs hm hx =>
    obtain ⟨d, after, hread, hsuffix, hvalue⟩ := leading?_append hm hx []
    obtain rfl : after = [] := List.suffix_nil.1 hsuffix
    rw [List.append_nil] at hread
    rw [hs.splitSign_append (unsigned_mantissa hm x)]
    simp only [hread]
    refine ⟨_, rfl, ?_⟩
    rw [Denotes, ← hvalue rfl]
    exact rounds_ofDecimal negative d.coefficient d.exponent
  | infinity hs =>
    have hword : Numeral.Unsigned "Infinity".toList := by
      rintro c ⟨⟩
      decide
    rw [hs.splitSign_append hword]
    exact ⟨_, rfl, rfl⟩

/-- What is rounded is finite if it is smaller than the bound of the finite numbers. -/
theorem Rounds.isFinite_iff {x : Binary64} (h : Rounds r x) :
    x.isFinite = true ↔ |r| < overflow := by
  cases h with
  | finite h => exact iff_of_true rfl h.bound
  | infinite bound => exact iff_of_false Bool.false_ne_true (not_lt.2 bound)

theorem Denotes.isFinite_iff {x : Binary64} (h : Denotes negative (some a) x) :
    x.isFinite = true ↔ |a| < overflow := by
  have habs : |Rounding.signOf negative * a| = |a| := by
    cases negative <;> simp [Rounding.signOf]
  rw [← habs]
  exact Rounds.isFinite_iff h

theorem isFinite_ofInt (n : ℤ) : (ofInt n).isFinite = true ↔ |(n : ℚ)| < overflow := by
  have h := rounds_ofRatio (n < 0) n.natAbs Nat.one_pos
  rw [Nat.cast_one, div_one, Rounding.signOf_mul_natAbs] at h
  exact h.isFinite_iff

theorem ten_pow_lt_overflow : (10 : ℚ) ^ 300 < overflow := by
  have hpow : 10 ^ 300 < (2 ^ 54 - 1) * 2 ^ 970 := by decide +kernel
  rw [overflow, show (2 : ℚ) ^ 54 - 1 = ((2 ^ 54 - 1 : ℕ) : ℚ) by norm_num]
  exact_mod_cast hpow

end Binary64

open Binary64 (overflow)

theorem Numeral.isShort_of_abs_lt {k : ℕ} (h : |(n : ℚ)| < 10 ^ (k : ℤ)) (hk : k ≤ maxDigits) :
    IsShort n := by
  have habs : ((n.natAbs : ℕ) : ℚ) = |(n : ℚ)| := by rw [Nat.cast_natAbs, Int.cast_abs]
  rw [← habs, zpow_natCast] at h
  have hnat : n.natAbs < 10 ^ k := by exact_mod_cast h
  exact isShort_iff.2 (hnat.trans_le (Nat.pow_le_pow_right (by decide) hk))

/-- A binary number can be written as an integer. -/
theorem isShort_of_lt_overflow (h : |(n : ℚ)| < overflow) : Numeral.IsShort n := by
  have hlt : |(n : ℚ)| < 10 ^ ((400 : ℕ) : ℤ) := h.trans_le Binary64.overflow_le
  exact Numeral.isShort_of_abs_lt hlt (by decide)

theorem floatText_write? (h : Numeral.write? n = .ok t) :
    FloatText t (decide (n < 0)) (some (n.natAbs : ℕ)) := by
  have hdigits : Directive.IsNumber (Numeral.ofNat n.natAbs) :=
    ⟨Numeral.ofNat_ne_nil _, fun c hc => Numeral.isDigit_of_mem_ofNat hc⟩
  have hmagnitude := DecimalNumeral.magnitude_of_mantissa (Mantissa.whole hdigits)
  rw [Numeral.value_ofNat] at hmagnitude
  unfold Numeral.write? at h
  dsimp only at h
  split_ifs at h with hlong hneg
  · cases h
    rw [decide_eq_true hneg]
    exact hmagnitude.floatText .minus
  · cases h
    rw [decide_eq_false hneg]
    exact hmagnitude.floatText .absent

/-! ## Numeric values -/

namespace Value

theorem isNumeric_text (h : FloatText t negative (some a)) :
    (text t).isNumeric = .ok (decide (|a| < overflow)) := by
  obtain ⟨x, hx, hdenotes⟩ := Binary64.exists_ofText? h
  have hread : (text t).isNumeric =
      .ok ((Binary64.ofText? (Text.trimBoth Unicode.isBlank t)).any (·.isFinite)) := rfl
  rw [hread, hx, Option.any_some]
  exact congrArg Except.ok (Bool.eq_iff_iff.2 (hdenotes.isFinite_iff.trans decide_eq_true_iff.symm))

theorem isNumeric_int (n : ℤ) :
    (int n).isNumeric = if |(n : ℚ)| < overflow then .ok true else .error .tooLarge := by
  simp only [isNumeric, Binary64.isFinite_ofInt]

theorem refusedIff_isNumeric {v : Value} (hv : ∀ n, v ≠ .int n) :
    RefusedIff v.HoldsOverlong v.isNumeric := by
  cases v with
  | int n => exact absurd rfl (hv n)
  | bool b => exact refusedIff_of_own rfl (.ok false)
  | float x => exact refusedIff_of_own rfl (.ok x.isFinite)
  | _ => exact (refusedIff_toText _).map fun _ => rfl

/-- The text of an integer is numeric as the integer is. -/
theorem isNumeric_write? (h : Numeral.write? n = .ok t) :
    (text t).isNumeric = .ok (decide (|(n : ℚ)| < overflow)) := by
  have habs : |((n.natAbs : ℕ) : ℚ)| = |(n : ℚ)| := by
    rw [Nat.cast_natAbs, Int.cast_abs, abs_abs]
  rw [isNumeric_text (floatText_write? h), habs]

theorem display_float (x : Binary64) : (float x).display = .ok x.text := by
  simp [display, shown]

/-- The text of a binary number is numeric as the number is. -/
theorem isNumeric_float_text (x : Binary64) : (text x.text).isNumeric = .ok x.isFinite := by
  cases x with
  | finite negative m q fits =>
    obtain ⟨v, hv, hlt⟩ := Binary64.floatText_text negative m q fits
    rw [isNumeric_text hv, decide_eq_true hlt]
    rfl
  | infinite negative => cases negative <;> rfl
  | nan => rfl

/-- The values that are not tested: integers beyond all binary numbers, and other values with an
    integer that is too long to be written. -/
inductive Untested : Value → Fault → Prop
  | tooLarge {n : ℤ} (h : overflow ≤ |(n : ℚ)|) : Untested (int n) .tooLarge
  | overlong {v : Value} (hv : ∀ n, v ≠ int n) (h : v.HoldsOverlong) : Untested v .numeral

theorem isNumeric_eq_error_iff {v : Value} {e : Fault} :
    v.isNumeric = .error e ↔ Untested v e := by
  by_cases hint : ∃ n, v = int n
  · obtain ⟨n, rfl⟩ := hint
    rw [isNumeric_int]
    constructor
    · intro h
      split_ifs at h with hlt
      cases h
      exact .tooLarge (not_lt.1 hlt)
    · rintro (h | ⟨hne, -⟩)
      · exact if_neg (not_lt.2 h)
      · exact absurd rfl (hne n)
  · have hne : ∀ n, v ≠ int n := fun n hn => hint ⟨n, hn⟩
    rw [refusedIff_isNumeric hne]
    constructor
    · rintro ⟨rfl, h⟩
      exact .overlong hne h
    · rintro (h | ⟨-, h⟩)
      · exact absurd rfl (hne _)
      · exact ⟨rfl, h⟩

end Value

namespace Catalogue

theorem call_isNumeric (v : Value) :
    (call "is_numeric".toList [v] []).result = v.isNumeric.map .bool := rfl

/-- **Numbers and their texts are numeric alike.** A value is numeric or not, unless it is an
    integer that is no finite binary number, or has an integer in it that is too long to be
    written. -/
theorem isNumeric_numbers (v : Value) :
    let numeric (u : Value) := (call "is_numeric".toList [u] []).result
    ((∃ b, numeric v = .ok (.bool b)) ↔ ∀ e, ¬v.Untested e) ∧
    (∀ e, numeric v = .error e ↔ v.Untested e) ∧
    (∀ b, v = .bool b → numeric v = .ok (.bool false)) ∧
    (∀ n : ℤ, v = .int n → |(n : ℚ)| < overflow → numeric v = .ok (.bool true) ∧
      ∃ t, v.display = .ok t ∧ numeric (.text t) = numeric v) ∧
    (∀ x, v = .float x → numeric v = .ok (.bool x.isFinite) ∧
      v.display = .ok x.text ∧ numeric (.text x.text) = numeric v) ∧
    (10 : ℚ) ^ 300 < overflow := by
  intro numeric
  have hnumeric : ∀ u, numeric u = u.isNumeric.map .bool := call_isNumeric
  have herror (e : Fault) : numeric v = .error e ↔ v.Untested e := by
    rw [hnumeric, ← Value.isNumeric_eq_error_iff]
    cases v.isNumeric <;> simp
  refine ⟨?_, herror, ?_, ?_, ?_, Binary64.ten_pow_lt_overflow⟩
  · simp only [← herror]
    rw [hnumeric]
    cases v.isNumeric <;> simp
  · rintro b rfl
    exact hnumeric (.bool b)
  · rintro n rfl hn
    obtain ⟨t, ht⟩ := (refusedIff_write? n).exists_ok (not_not.2 (isShort_of_lt_overflow hn))
    have htrue : numeric (.int n) = .ok (.bool true) := by
      rw [hnumeric, Value.isNumeric_int, if_pos hn, map_ok]
    refine ⟨htrue, t, ht, ?_⟩
    rw [htrue, hnumeric, Value.isNumeric_write? ht, decide_eq_true hn, map_ok]
  · rintro x rfl
    have hfloat : numeric (.float x) = .ok (.bool x.isFinite) := hnumeric (.float x)
    refine ⟨hfloat, Value.display_float x, ?_⟩
    rw [hfloat, hnumeric, Value.isNumeric_float_text, map_ok]

/-- The greatest binary number is numeric, and so is its text. -/
theorem isNumeric_numbers_greatest :
    let x : Binary64 := .finite false (2 ^ 53 - 1) 971 (by decide)
    (call "is_numeric".toList [.float x] []).result = .ok (.bool x.isFinite) ∧
      (Value.float x).display = .ok x.text ∧
      (call "is_numeric".toList [.text x.text] []).result =
        (call "is_numeric".toList [.float x] []).result :=
  (isNumeric_numbers (.float _)).2.2.2.2.1 _ rfl

/-- An integer is refused where it is larger than all binary numbers. -/
theorem isNumeric_beyond :
    (call "is_numeric".toList [.int (10 ^ 400)] []).result = .error .tooLarge := by
  have hcast (k : ℕ) : |(((10 : ℤ) ^ k : ℤ) : ℚ)| = 10 ^ (k : ℤ) := by
    rw [Int.cast_pow, Int.cast_ofNat, zpow_natCast, abs_of_pos (by positivity)]
  rw [call_isNumeric, Value.isNumeric_int, hcast, Nat.cast_ofNat, if_neg (not_lt.2 Binary64.overflow_le)]
  rfl

end Catalogue

end Textwork
