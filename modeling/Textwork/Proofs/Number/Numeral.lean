/-
  Numerals and their values, in base ten and with the digits of an alphabet.

  * `value_ofNat`, `isDigit_of_mem_ofNat`, `head?_ofNat_ne`: the numeral of a
    number consists of digits, without a leading zero, and has its value;
  * `value_append`: the value of digits behind digits;
  * `withoutUnderscores?_cons`: all characters but underscores are left;
  * `bitLength_le_iff`: the number of binary digits bounds a number;
  * `valueIn` reads digits of an alphabet, `IsNumeralIn` says what the numeral
    of a number is;
  * `isNumeralIn_inBase`: `inBase` writes it, and so it does with other
    characters in place of the digits.
-/
import Textwork.Number.Numeral
import Mathlib.Data.List.Basic
import Mathlib.Tactic.IntervalCases
import Mathlib.Tactic.Ring

namespace Textwork.Numeral

/-! ## Decimal numerals -/

theorem value_ofNat (n : Nat) : value (ofNat n) = n := Nat.ofDigitChars_ten_toDigits

theorem ofNat_ne_nil (n : Nat) : ofNat n ≠ [] := Nat.toDigits_ne_nil

theorem isDigit_of_mem_ofNat {n : Nat} {c : Char} (h : c ∈ ofNat n) : c.isDigit = true :=
  Nat.isDigit_of_mem_toDigits (by decide) (by decide) h

/-- The decimal numeral of a positive number has no leading zero. -/
theorem head?_ofNat_ne {n : Nat} (h : n ≠ 0) : (ofNat n).head? ≠ some '0' := by
  induction n using Nat.strong_induction_on with
  | _ n ih =>
    by_cases hlt : n < 10
    · unfold ofNat
      rw [Nat.toDigits_of_lt_base hlt]
      interval_cases n <;> simp_all
    · unfold ofNat at ih ⊢
      rw [Nat.toDigits_of_base_le (by decide) (by omega),
        List.head?_append_of_ne_nil _ Nat.toDigits_ne_nil]
      exact ih (n / 10) (by omega) (by omega)

theorem value_append (s t : Text) : value (s ++ t) = value s * 10 ^ t.length + value t := by
  have h : value (s ++ t) = Nat.ofDigitChars 10 t (value s) := Nat.ofDigitChars_append 0
  rw [h, Nat.ofDigitChars_eq_ofDigitChars_zero, Nat.mul_comm]
  rfl

theorem value_replicate_zero (k : Nat) : value (List.replicate k '0') = 0 := by
  have h : value (List.replicate k '0') = 10 ^ k * 0 := Nat.ofDigitChars_replicate_zero
  rw [h, Nat.mul_zero]

theorem withoutUnderscores?_cons {c : Char} (hc : c ≠ '_') (afterDigit : Bool) (t : Text) :
    withoutUnderscores? afterDigit (c :: t) = (withoutUnderscores? c.isDigit t).map (c :: ·) := by
  rw [withoutUnderscores?.eq_def]
  split
  · next heq => cases heq
  · next heq =>
    cases heq
    exact absurd rfl hc
  · next heq =>
    cases heq
    exact if_neg hc

/-! ## Numerals in a base -/

theorem bitLength_le_iff {n k : ℕ} : bitLength n ≤ k ↔ n < 2 ^ k := by
  unfold bitLength
  split
  · next hn =>
    subst hn
    exact iff_of_true (Nat.zero_le k) (Nat.two_pow_pos k)
  · next hn => exact Nat.log2_lt hn

/-- The value of a text of digits, in the base that has as many digits as the alphabet. -/
def valueIn (alphabet t : Text) : ℕ :=
  t.foldl (fun n c => alphabet.length * n + alphabet.idxOf c) 0

/-- The text is the numeral of `n` in the digits of the alphabet.  No zero stands in front, unless
    it is the only digit. -/
structure IsNumeralIn (alphabet : Text) (n : ℕ) (t : Text) : Prop where
  ne_nil : t ≠ []
  mem : ∀ c ∈ t, c ∈ alphabet
  head?_ne : t = ['0'] ∨ t.head? ≠ some '0'
  value : valueIn alphabet t = n

theorem valueIn_append_singleton (alphabet t : Text) (c : Char) :
    valueIn alphabet (t ++ [c]) = alphabet.length * valueIn alphabet t + alphabet.idxOf c := by
  simp [valueIn]

/-- The alphabet has the digits in their order, each shown by `f`. -/
structure IsAlphabet (alphabet : Text) (f : Char → Char) : Prop where
  one_lt : 1 < alphabet.length
  zero : f '0' = '0'
  idxOf_digit : ∀ d < alphabet.length, alphabet.idxOf (f (Nat.digitChar d)) = d

namespace IsAlphabet

variable {alphabet t : Text} {f : Char → Char} {n d : ℕ}

theorem idxOf_zero (h : IsAlphabet alphabet f) : alphabet.idxOf '0' = 0 := by
  have hfirst := h.idxOf_digit 0 (by have := h.one_lt; omega)
  rwa [show Nat.digitChar 0 = '0' from rfl, h.zero] at hfirst

theorem digit_mem (h : IsAlphabet alphabet f) (hd : d < alphabet.length) :
    f (Nat.digitChar d) ∈ alphabet := by
  rw [← List.idxOf_lt_length_iff, h.idxOf_digit d hd]
  exact hd

theorem isNumeralIn_digit (h : IsAlphabet alphabet f) (hd : d < alphabet.length) :
    IsNumeralIn alphabet d [f (Nat.digitChar d)] where
  ne_nil := List.cons_ne_nil _ _
  mem c hc := List.mem_singleton.1 hc ▸ h.digit_mem hd
  head?_ne := by
    by_cases hzero : f (Nat.digitChar d) = '0'
    · exact .inl (by rw [hzero])
    · exact .inr fun heq => hzero (Option.some.inj heq)
  value := by simp [valueIn, h.idxOf_digit d hd]

theorem isNumeralIn_append (h : IsAlphabet alphabet f) (ht : IsNumeralIn alphabet n t) (hn : 0 < n)
    (hd : d < alphabet.length) :
    IsNumeralIn alphabet (alphabet.length * n + d) (t ++ [f (Nat.digitChar d)]) where
  ne_nil := List.append_ne_nil_of_left_ne_nil ht.ne_nil _
  mem c hc := by
    rcases List.mem_append.1 hc with hc | hc
    · exact ht.mem c hc
    · exact List.mem_singleton.1 hc ▸ h.digit_mem hd
  head?_ne := by
    rw [List.head?_append_of_ne_nil _ ht.ne_nil]
    refine .inr (ht.head?_ne.resolve_left fun hzero => ?_)
    -- A single zero would be the numeral of zero.
    have hvalue := ht.value
    rw [hzero] at hvalue
    simp [valueIn, h.idxOf_zero] at hvalue
    omega
  value := by rw [valueIn_append_singleton, ht.value, h.idxOf_digit d hd]

/-- **A number is written with its numeral.** -/
theorem isNumeralIn_inBase (h : IsAlphabet alphabet f) (n : ℕ) :
    IsNumeralIn alphabet n ((inBase alphabet.length n).map f) := by
  unfold inBase
  induction n using Nat.strong_induction_on with
  | _ n ih =>
    have hbase := h.one_lt
    by_cases hlt : n < alphabet.length
    · rw [Nat.toDigits_of_lt_base hlt]
      exact h.isNumeralIn_digit hlt
    · have hpos : 0 < n / alphabet.length := Nat.div_pos (Nat.not_lt.1 hlt) (by omega)
      have htail := h.isNumeralIn_append (ih _ (Nat.div_lt_self (by omega) hbase)) hpos
        (Nat.mod_lt n (by omega))
      rw [Nat.div_add_mod] at htail
      rw [Nat.toDigits_of_base_le hbase (Nat.not_lt.1 hlt), List.map_append]
      exact htail

end IsAlphabet

end Textwork.Numeral
