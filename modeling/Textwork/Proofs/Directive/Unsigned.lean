/-
  Integers under the unsigned conversions.

  * `unsignedForm_cast`, `unsignedForm_eq_land`: the unsigned form of an integer
    is its remainder by the size of the word, which is what a mask leaves of it;
  * `IsWritable k r`: the number `r` can be written under the conversion `k`;
  * `unsignedText_eq`: then an unsigned conversion writes the numeral in its
    digits;
  * `render_unsigned`: the text of an integer is that of its two's complement,
    so that integers have the same text when they are congruent.
-/
import Textwork.Proofs.Number.Numeral
import Textwork.Proofs.Value.Plain
import Textwork.Directive.Rendering
import Mathlib.Data.Int.Bitwise
import Mathlib.Data.Int.ModEq

namespace Textwork.Directive

variable {st : Settings} {s : Specification} {k : Conversion} {v : Value} {alphabet t : Text}
  {bits r : ℕ} {n n' : ℤ}

/-! ## The unsigned form -/

theorem unsignedForm_cast (bits : ℕ) (n : ℤ) : (unsignedForm bits n : ℤ) = n % 2 ^ bits := by
  have hpow : ((Nat.pow 2 bits : ℕ) : ℤ) = 2 ^ bits := Nat.cast_pow 2 bits
  rw [unsignedForm, hpow]
  exact Int.toNat_of_nonneg (Int.emod_nonneg _ (by positivity))

theorem unsignedForm_lt (bits : ℕ) (n : ℤ) : unsignedForm bits n < 2 ^ bits := by
  have h := Int.emod_lt_of_pos n (show (0 : ℤ) < 2 ^ bits by positivity)
  rw [← unsignedForm_cast] at h
  exact_mod_cast h

theorem unsignedForm_modEq (bits : ℕ) (n : ℤ) : (unsignedForm bits n : ℤ) ≡ n [ZMOD 2 ^ bits] := by
  rw [unsignedForm_cast]
  exact Int.mod_modEq n _

theorem unsignedForm_eq_iff :
    unsignedForm bits n' = unsignedForm bits n ↔ n' ≡ n [ZMOD 2 ^ bits] := by
  rw [← Int.natCast_inj, unsignedForm_cast, unsignedForm_cast]
  rfl

theorem eq_unsignedForm (hr : r < 2 ^ bits) (h : (r : ℤ) ≡ n [ZMOD 2 ^ bits]) :
    r = unsignedForm bits n := by
  rw [← unsignedForm_eq_iff.2 h, ← Int.natCast_inj, unsignedForm_cast]
  exact (Int.emod_eq_of_lt r.cast_nonneg (by exact_mod_cast hr)).symm

theorem unsignedForm_of_nonneg (h : 0 ≤ n) (hn : n < 2 ^ bits) : (unsignedForm bits n : ℤ) = n := by
  rw [unsignedForm_cast, Int.emod_eq_of_lt h hn]

theorem unsignedForm_of_neg (h : -2 ^ bits ≤ n) (hn : n < 0) :
    (unsignedForm bits n : ℤ) = n + 2 ^ bits := by
  rw [unsignedForm_cast, ← Int.add_emod_right, Int.emod_eq_of_lt (by omega) (by omega)]

theorem ldiff_two_pow_sub_one (bits a : ℕ) :
    Nat.ldiff (2 ^ bits - 1) a = 2 ^ bits - (a % 2 ^ bits + 1) := by
  refine Nat.eq_of_testBit_eq fun i => ?_
  rw [Nat.testBit_ldiff, Nat.testBit_two_pow_sub_one,
    Nat.testBit_two_pow_sub_succ (Nat.mod_lt _ (Nat.two_pow_pos bits)), Nat.testBit_mod_two_pow]
  cases decide (i < bits) <;> rfl

/-- **A mask of ones leaves the unsigned form** of an integer of any size and sign. -/
theorem unsignedForm_eq_land (bits : ℕ) (n : ℤ) :
    (unsignedForm bits n : ℤ) = Int.land n (2 ^ bits - 1) := by
  have hmask : (2 ^ bits - 1 : ℤ) = ((2 ^ bits - 1 : ℕ) : ℤ) := by
    rw [Nat.cast_sub Nat.one_le_two_pow]
    push_cast
    rfl
  rw [unsignedForm_cast, hmask]
  cases n with
  | ofNat a =>
    have hland : Int.land (Int.ofNat a) ((2 ^ bits - 1 : ℕ) : ℤ) = (a &&& (2 ^ bits - 1) : ℕ) := rfl
    rw [hland, Nat.and_two_pow_sub_one_eq_mod]
    push_cast
    rfl
  | negSucc a =>
    have hland : Int.land (Int.negSucc a) ((2 ^ bits - 1 : ℕ) : ℤ) =
        Nat.ldiff (2 ^ bits - 1) a := rfl
    have hlt := Nat.mod_lt a (Nat.two_pow_pos bits)
    rw [hland, ldiff_two_pow_sub_one, Int.negSucc_emod _ (by positivity), Nat.cast_sub hlt]
    push_cast
    ring

/-! ## Digits -/

/-- The digits that an unsigned conversion writes. -/
def digitsOf? : Conversion → Option Text
  | .binary => some "01".toList
  | .octal => some "01234567".toList
  | .unsigned => some "0123456789".toList
  | .hexadecimal => some "0123456789abcdef".toList
  | .hexadecimalUpper => some "0123456789ABCDEF".toList
  | _ => none

/-- How an unsigned conversion shows the digits of `Numeral.inBase`. -/
def shownBy (k : Conversion) : Char → Char := if k = .hexadecimalUpper then Char.toUpper else id

theorem isAlphabet (hk : digitsOf? k = some alphabet) :
    Numeral.IsAlphabet alphabet (shownBy k) := by
  cases k with
  | binary | octal | unsigned | hexadecimal | hexadecimalUpper =>
    cases hk
    exact ⟨by decide, by decide, by decide⟩
  | _ => cases hk

/-- A number can be written under a conversion: in base ten it does not have too many digits, in the
    other bases not too many bits. -/
def IsWritable (k : Conversion) (r : ℕ) : Prop :=
  if k = .unsigned then r < 10 ^ Numeral.maxDigits else Numeral.bitLength r ≤ maxDigitBits

/-- The refusal of a number that cannot be written. -/
def unwritable (k : Conversion) : Fault := if k = .unsigned then .numeral else .tooLarge

theorem unsignedText_of_isWritable (hk : digitsOf? k = some alphabet) (hr : IsWritable k r) :
    unsignedText k r = .ok ((Numeral.inBase alphabet.length r).map (shownBy k)) := by
  cases k with
  | unsigned =>
    cases hk
    have hshort : Numeral.IsShort r := Numeral.isShort_iff.2 hr
    have hdecimal : (Numeral.inBase "0123456789".toList.length r).map (shownBy .unsigned) =
        Numeral.ofNat r := List.map_id _
    rw [hdecimal]
    exact Numeral.write?_natCast_eq_ok_iff.2 ⟨hshort, rfl⟩
  | binary | octal | hexadecimal | hexadecimalUpper =>
    cases hk
    have hbits : ¬maxDigitBits < Numeral.bitLength r := Nat.not_lt.2 hr
    simp [unsignedText, inBitBase, hbits, shownBy]
  | _ => cases hk

theorem unsignedText_of_not_isWritable (hk : digitsOf? k = some alphabet) (hr : ¬IsWritable k r) :
    unsignedText k r = .error (unwritable k) := by
  cases k with
  | unsigned =>
    have hlong : ¬Numeral.IsShort r := mt Numeral.isShort_iff.1 hr
    exact Numeral.write?_eq_error_iff.2 ⟨rfl, hlong⟩
  | binary | octal | hexadecimal | hexadecimalUpper =>
    have hbits : maxDigitBits < Numeral.bitLength r := Nat.not_le.1 hr
    simp [unsignedText, inBitBase, hbits, unwritable]
  | _ => cases hk

theorem isNumeralIn_of_unsignedText (hk : digitsOf? k = some alphabet)
    (h : unsignedText k r = .ok t) : Numeral.IsNumeralIn alphabet r t := by
  by_cases hr : IsWritable k r
  · obtain rfl := Except.ok.inj ((unsignedText_of_isWritable hk hr).symm.trans h)
    exact (isAlphabet hk).isNumeralIn_inBase r
  · cases (unsignedText_of_not_isWritable hk hr).symm.trans h

/-! ## Rendered integers -/

theorem render_of_digitsOf? (d : Defaults) (s : Specification) (hk : digitsOf? k = some alphabet)
    (hv : v.leadingInt.result = .ok n) :
    (render d s k v).result =
      d.integerBits >>= fun bits => unsignedText k (unsignedForm bits n) := by
  have hunsigned : render d s k v = renderUnsigned d k v := by
    cases k with
    | binary | octal | unsigned | hexadecimal | hexadecimalUpper => rfl
    | _ => cases hk
  rw [hunsigned, renderUnsigned, Traced.result_bind, hv, ok_bind, Traced.result_bind,
    Traced.result_ofExcept]
  rfl

theorem integerBits_defaults (h : st.integerBits ≤ maxWordSize) :
    st.defaults.integerBits = .ok st.integerBits :=
  if_neg (not_lt.2 h)

/-- Integers have the same text under an unsigned conversion exactly if they are congruent. -/
theorem render_eq_ok_iff_modEq {s' : Specification} {v' : Value} (h : st.integerBits ≤ maxWordSize)
    (hk : digitsOf? k = some alphabet) (hv' : v'.leadingInt.result = .ok n')
    (ht : unsignedText k (unsignedForm st.integerBits n) = .ok t) :
    (render st.defaults s' k v').result = .ok t ↔ n' ≡ n [ZMOD 2 ^ st.integerBits] := by
  rw [render_of_digitsOf? st.defaults s' hk hv', integerBits_defaults h, ok_bind,
    ← unsignedForm_eq_iff]
  constructor
  · intro ht'
    rw [← (isNumeralIn_of_unsignedText hk ht').value, (isNumeralIn_of_unsignedText hk ht).value]
  · intro hsame
    rw [hsame, ht]

/-- **An integer is rendered as the numeral of its two's complement**, which a mask of ones leaves
    of it, so that integers have the same text exactly if they are congruent.  Words that cannot be
    addressed are refused, and so are numbers that cannot be written. -/
theorem render_unsigned (st : Settings) (s : Specification) (hk : digitsOf? k = some alphabet)
    (hv : v.leadingInt.result = .ok n) :
    (st.integerBits ≤ maxWordSize → ∃ r : ℕ,
      r < 2 ^ st.integerBits ∧ (r : ℤ) ≡ n [ZMOD 2 ^ st.integerBits] ∧
      (∀ r' : ℕ, r' < 2 ^ st.integerBits → (r' : ℤ) ≡ n [ZMOD 2 ^ st.integerBits] → r' = r) ∧
      (r : ℤ) = Int.land n (2 ^ st.integerBits - 1) ∧
      (0 ≤ n → n < 2 ^ st.integerBits → (r : ℤ) = n) ∧
      (-2 ^ st.integerBits ≤ n → n < 0 → (r : ℤ) = n + 2 ^ st.integerBits) ∧
      (IsWritable k r → ∃ t,
        (render st.defaults s k v).result = .ok t ∧ Numeral.IsNumeralIn alphabet r t ∧
        ∀ (s' : Specification) (v' : Value) (n' : ℤ), v'.leadingInt.result = .ok n' →
          ((render st.defaults s' k v').result = .ok t ↔ n' ≡ n [ZMOD 2 ^ st.integerBits])) ∧
      (¬IsWritable k r → (render st.defaults s k v).result = .error (unwritable k))) ∧
    (maxWordSize < st.integerBits → (render st.defaults s k v).result = .error .tooLarge) := by
  constructor
  · intro hbits
    refine ⟨unsignedForm st.integerBits n, unsignedForm_lt _ n, unsignedForm_modEq _ n,
      fun r' => eq_unsignedForm, unsignedForm_eq_land _ n, unsignedForm_of_nonneg,
      unsignedForm_of_neg, fun hr => ?_, fun hr => ?_⟩
    · have ht := unsignedText_of_isWritable hk hr
      exact ⟨_, (render_eq_ok_iff_modEq hbits hk hv ht).2 (Int.ModEq.refl n),
        isNumeralIn_of_unsignedText hk ht, fun s' v' n' hv' =>
          render_eq_ok_iff_modEq hbits hk hv' ht⟩
    · rw [render_of_digitsOf? st.defaults s hk hv, integerBits_defaults hbits, ok_bind,
        unsignedText_of_not_isWritable hk hr]
  · intro hbits
    have hword : st.defaults.integerBits = .error .tooLarge := if_pos hbits
    rw [render_of_digitsOf? st.defaults s hk hv, hword, error_bind]

/-- A byte of ones. -/
theorem render_unsigned_negative :
    ∃ r : ℕ, (r : ℤ) = -1 + 2 ^ 8 ∧ ∃ t,
      (render (Settings.defaults ⟨6, 8, ' ', by decide⟩) Specification.bare .hexadecimalUpper
        (.int (-1))).result = .ok t ∧
      Numeral.IsNumeralIn "0123456789ABCDEF".toList r t ∧ t = "FF".toList := by
  obtain ⟨r, hr, -, -, -, -, hneg, htext, -⟩ := (render_unsigned ⟨6, 8, ' ', by decide⟩
    Specification.bare (k := .hexadecimalUpper) (v := .int (-1)) rfl rfl).1 (by decide)
  have hbyte : Numeral.bitLength r ≤ 8 := Numeral.bitLength_le_iff.2 hr
  have hwritable : IsWritable .hexadecimalUpper r := hbyte.trans (by decide)
  obtain ⟨t, ht, hnumeral, -⟩ := htext hwritable
  have hones : (render (Settings.defaults ⟨6, 8, ' ', by decide⟩) Specification.bare
      .hexadecimalUpper (.int (-1))).result = .ok "FF".toList := by decide
  exact ⟨r, hneg (by decide) (by decide), t, ht, hnumeral, Except.ok.inj (ht.symm.trans hones)⟩

/-- A word of so many bits cannot be addressed. -/
theorem render_unsigned_refused :
    (render (Settings.defaults ⟨6, 10 ^ 20, ' ', by decide⟩) Specification.bare .hexadecimal
      (.int 5)).result = .error .tooLarge := by
  decide

end Textwork.Directive
