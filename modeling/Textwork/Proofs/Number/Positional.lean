/-
  Numbers in positional notation and the numbers that they denote.

  * `Positional` is such a number, well formed by construction; `text` writes it
    and `value` is what it stands for;
  * `text_placed`, `text_stripped`: the texts with a given number of places, and
    those without the zeros at the end of the fraction, are of this form;
  * `denoted?_minus`: read back, a number with a sign and an exponent denotes
    its value.
-/
import Textwork.Number.Decimal
import Textwork.Number.Quotient
import Textwork.Proofs.Number.Leading
import Textwork.Proofs.Number.Numeral
import Textwork.Proofs.Number.Rounding
import Mathlib.Data.List.DropRight

namespace Textwork

/-! ## Trimmed ends -/

namespace Text

variable {p : Char → Bool} {s t : Text}

theorem trimEnd_eq_self (h : ∀ c ∈ t, p c = false) : trimEnd p t = t :=
  List.rdropWhile_eq_self_iff.2 fun ht => by simp [h _ (List.getLast_mem ht)]

theorem trimStart_eq_self (h : ∀ c ∈ t, p c = false) : trimStart p t = t := by
  cases t with
  | nil => rfl
  | cons c t => exact List.dropWhile_cons_of_neg (by simp [h c])

theorem trimBoth_eq_self (h : ∀ c ∈ t, p c = false) : trimBoth p t = t := by
  rw [trimBoth, trimStart_eq_self h, trimEnd_eq_self h]

theorem trimEnd_append (p : Char → Bool) (s t : Text) :
    trimEnd p (s ++ t) = if trimEnd p t = [] then trimEnd p s else s ++ trimEnd p t := by
  simp only [trimEnd, List.reverse_append, List.dropWhile_append, List.reverse_eq_nil_iff,
    List.isEmpty_iff]
  split <;> simp

theorem mem_of_mem_trimEnd {c : Char} (h : c ∈ trimEnd p t) : c ∈ t :=
  (List.rdropWhile_prefix p t).subset h

/-- What is cut off are copies of the character. -/
theorem exists_trimEnd_append_replicate (a : Char) (t : Text) :
    ∃ k, t = trimEnd (· == a) t ++ List.replicate k a := by
  refine ⟨(t.rtakeWhile (· == a)).length, ?_⟩
  rw [← List.eq_replicate_of_mem fun c hc => by simpa using List.mem_rtakeWhile_imp hc]
  exact (List.rdropWhile_append_rtakeWhile ..).symm

end Text

/-! ## Positional notation -/

/-- Digits, and the digits behind the point if there are any.  No zero stands in front, unless it is
    the only digit before the point. -/
structure Positional where
  whole : Text
  fraction : Text
  whole_ne_nil : whole ≠ []
  isDigit : ∀ c ∈ whole ++ fraction, c.isDigit = true
  head?_ne : whole = ['0'] ∨ whole.head? ≠ some '0'

namespace Positional

/-- The point and the digits behind it. -/
def pointed (fraction : Text) : Text := if fraction = [] then [] else '.' :: fraction

@[simp] theorem pointed_nil : pointed [] = [] := rfl

theorem pointed_of_ne_nil {fraction : Text} (h : fraction ≠ []) :
    pointed fraction = '.' :: fraction := if_neg h

/-- The number as it is written. -/
def text (p : Positional) : Text := p.whole ++ pointed p.fraction

/-- The number of units in the last place. -/
def units (p : Positional) : ℕ := Numeral.value (p.whole ++ p.fraction)

/-- The number that is written. -/
def value (p : Positional) : ℚ := p.units / 10 ^ p.fraction.length

theorem point_notMem (p : Positional) : '.' ∉ p.whole ++ p.fraction := fun h => by
  cases p.isDigit '.' h

/-! ### A given number of places -/

section Placed

variable (n places : ℕ)

/-- The digits of `n`, with zeros before them so that one is left before the point. -/
def padded : Text :=
  List.replicate (places + 1 - (Numeral.ofNat n).length) '0' ++ Numeral.ofNat n

/-- The number of digits before the point. -/
def wholeLength : ℕ := (padded n places).length - places

theorem value_padded : Numeral.value (padded n places) = n := by
  rw [padded, Numeral.value_append, Numeral.value_replicate_zero, Numeral.value_ofNat,
    Nat.zero_mul, Nat.zero_add]

theorem length_padded : (padded n places).length = max (places + 1) (Numeral.ofNat n).length := by
  simp only [padded, List.length_append, List.length_replicate]
  omega

theorem isDigit_of_mem_padded {c : Char} (h : c ∈ padded n places) : c.isDigit = true := by
  rcases List.mem_append.1 h with h | h
  · rw [List.eq_of_mem_replicate h]
    rfl
  · exact Numeral.isDigit_of_mem_ofNat h

theorem wholeLength_pos : 0 < wholeLength n places := by
  rw [wholeLength, length_padded]
  omega

theorem length_take_padded :
    ((padded n places).take (wholeLength n places)).length =
      max 1 ((Numeral.ofNat n).length - places) := by
  simp only [List.length_take, wholeLength, length_padded]
  omega

theorem padded_eq_ofNat (h : places < (Numeral.ofNat n).length) :
    padded n places = Numeral.ofNat n := by
  rw [padded, Nat.sub_eq_zero_of_le h, List.replicate_zero, List.nil_append]

theorem head?_take_padded :
    ((padded n places).take (wholeLength n places)).head? = (padded n places).head? := by
  rw [List.head?_take, if_neg (wholeLength_pos n places).ne']

theorem take_padded_eq_or :
    (padded n places).take (wholeLength n places) = ['0'] ∨
      ((padded n places).take (wholeLength n places)).head? ≠ some '0' := by
  have hlength := length_take_padded n places
  have hhead := head?_take_padded n places
  by_cases hzero : (padded n places).head? = some '0'
  · left
    have hone : (Numeral.ofNat n).length - places ≤ 1 := by
      by_contra hlong
      have hplain := padded_eq_ofNat n places (by omega)
      rcases Nat.eq_zero_or_pos n with rfl | hn
      · exact hlong (Nat.sub_le_of_le_add (by simp [Numeral.ofNat]))
      · exact Numeral.head?_ofNat_ne hn.ne' (hplain ▸ hzero)
    rw [max_eq_left hone] at hlength
    obtain ⟨c, hc⟩ := List.length_eq_one_iff.1 hlength
    rw [hc, hzero] at hhead
    rw [hc]
    simpa using hhead
  · right
    rwa [hhead]

/-- `n / 10 ^ places` with that many digits behind the point. -/
def placed : Positional where
  whole := (padded n places).take (wholeLength n places)
  fraction := (padded n places).drop (wholeLength n places)
  whole_ne_nil := by
    rw [← List.length_pos_iff, length_take_padded]
    omega
  isDigit c hc := by
    rw [List.take_append_drop] at hc
    exact isDigit_of_mem_padded n places hc
  head?_ne := take_padded_eq_or n places

theorem length_whole_placed :
    (placed n places).whole.length = max 1 ((Numeral.ofNat n).length - places) :=
  length_take_padded n places

theorem length_fraction_placed : (placed n places).fraction.length = places := by
  simp only [placed, List.length_drop, wholeLength, length_padded]
  omega

theorem units_placed : (placed n places).units = n := by
  rw [units, placed, List.take_append_drop, value_padded]

theorem value_placed : (placed n places).value = n / 10 ^ places := by
  rw [value, length_fraction_placed, units_placed]

/-- A number of `places + 1` digits has one of them before the point, and it is not zero. -/
theorem whole_placed {n places : ℕ} (hlow : 10 ^ places ≤ n) (hhigh : n < 10 ^ (places + 1)) :
    ∃ c, (placed n places).whole = [c] ∧ c ≠ '0' := by
  have hn : n ≠ 0 := (lt_of_lt_of_le (Nat.pow_pos (by decide)) hlow).ne'
  have hle : (Numeral.ofNat n).length ≤ places + 1 :=
    (Rounding.decimalLength_le_iff places.succ_pos).2 hhigh
  have hlt : places < (Numeral.ofNat n).length := by
    rcases Nat.eq_zero_or_pos places with rfl | hpos
    · exact Nat.length_toDigits_pos
    · exact not_le.1 fun h => absurd ((Rounding.decimalLength_le_iff hpos).1 h) (not_lt.2 hlow)
  have hlength : (placed n places).whole.length = 1 := by
    rw [length_whole_placed]
    omega
  obtain ⟨c, hc⟩ := List.length_eq_one_iff.1 hlength
  refine ⟨c, hc, ?_⟩
  rintro rfl
  refine Numeral.head?_ofNat_ne hn ?_
  rw [← padded_eq_ofNat n places hlt, ← head?_take_padded]
  exact congrArg List.head? hc

theorem text_placed : (placed n places).text = Decimals.placed n places := by
  have hdef : Decimals.placed n places = if places = 0 then padded n places else
    (padded n places).take (wholeLength n places) ++
      '.' :: (padded n places).drop (wholeLength n places) := rfl
  rw [hdef, text]
  split
  · next h =>
    have hnil : (placed n places).fraction = [] := by
      rw [← List.length_eq_zero_iff, length_fraction_placed, h]
    rw [hnil, pointed_nil, ← hnil]
    exact List.take_append_drop ..
  · next h =>
    have hne : (placed n places).fraction ≠ [] := by
      rwa [ne_eq, ← List.length_eq_zero_iff, length_fraction_placed]
    rw [pointed_of_ne_nil hne]
    rfl

end Placed

/-! ### Without the zeros at the end -/

section

variable {whole fraction : Text}

theorem trimEnd_zero (whole fraction : Text) :
    Text.trimEnd (· == '0') (whole ++ '.' :: fraction) =
      whole ++ '.' :: Text.trimEnd (· == '0') fraction := by
  have htail : Text.trimEnd (· == '0') (['.'] ++ fraction) =
      '.' :: Text.trimEnd (· == '0') fraction := by
    rw [Text.trimEnd_append]
    split
    · next h =>
      rw [h]
      rfl
    · rfl
  rw [Text.trimEnd_append, ← List.singleton_append, htail, if_neg (List.cons_ne_nil _ _)]

theorem trimEnd_point (hw : '.' ∉ whole) (hf : '.' ∉ fraction) :
    Text.trimEnd (· == '.') (whole ++ '.' :: fraction) = whole ++ pointed fraction := by
  have hself {t : Text} (ht : '.' ∉ t) : Text.trimEnd (· == '.') t = t :=
    Text.trimEnd_eq_self fun c hc => beq_eq_false_iff_ne.2 fun h => ht (h ▸ hc)
  have htail : Text.trimEnd (· == '.') (['.'] ++ fraction) = pointed fraction := by
    rw [Text.trimEnd_append, hself hf]
    rfl
  rw [Text.trimEnd_append, ← List.singleton_append, htail, hself hw]
  split
  · next h => rw [h, List.append_nil]
  · rfl

theorem stripFractionZeros_pointed (hw : '.' ∉ whole) (hf : '.' ∉ fraction) :
    Decimals.stripFractionZeros (whole ++ pointed fraction) =
      whole ++ pointed (Text.trimEnd (· == '0') fraction) := by
  unfold Decimals.stripFractionZeros
  by_cases hnil : fraction = []
  · have hpoint : ¬(whole ++ pointed fraction).elem '.' = true := by
      rw [hnil, pointed_nil, List.append_nil, List.elem_iff]
      exact hw
    rw [if_neg hpoint, hnil]
    rfl
  · have hpoint : (whole ++ pointed fraction).elem '.' = true := by
      rw [pointed_of_ne_nil hnil]
      simp
    rw [if_pos hpoint, pointed_of_ne_nil hnil, trimEnd_zero, trimEnd_point hw]
    exact fun h => hf (Text.mem_of_mem_trimEnd h)

end

variable (p : Positional)

/-- The number without the zeros at the end of its fraction. -/
def stripped : Positional where
  whole := p.whole
  fraction := Text.trimEnd (· == '0') p.fraction
  whole_ne_nil := p.whole_ne_nil
  isDigit c hc := by
    refine p.isDigit c ?_
    rcases List.mem_append.1 hc with h | h
    · exact List.mem_append_left _ h
    · exact List.mem_append_right _ (Text.mem_of_mem_trimEnd h)
  head?_ne := p.head?_ne

/-- The fraction does not end in a zero. -/
def IsStripped : Prop := p.fraction.getLast? ≠ some '0'

theorem isStripped_stripped : p.stripped.IsStripped := by
  intro h
  have hne : Text.trimEnd (· == '0') p.fraction ≠ [] := fun hnil => by
    simp [stripped, hnil] at h
  refine List.rdropWhile_last_not _ _ hne ?_
  rw [stripped, List.getLast?_eq_some_getLast hne, Option.some.injEq] at h
  exact beq_iff_eq.2 h

theorem value_stripped : p.stripped.value = p.value := by
  obtain ⟨k, hk⟩ := Text.exists_trimEnd_append_replicate '0' p.fraction
  have hunits : p.units = p.stripped.units * 10 ^ k := by
    rw [units]
    conv_lhs => rw [hk]
    rw [← List.append_assoc, Numeral.value_append, Numeral.value_replicate_zero,
      List.length_replicate, Nat.add_zero]
    rfl
  have hlength : p.fraction.length = p.stripped.fraction.length + k := by
    conv_lhs => rw [hk]
    rw [List.length_append, List.length_replicate]
    rfl
  rw [value, value, hunits, hlength, pow_add, Nat.cast_mul, Nat.cast_pow]
  exact (mul_div_mul_right _ _ (by positivity)).symm

theorem text_stripped : p.stripped.text = Decimals.stripFractionZeros p.text :=
  (stripFractionZeros_pointed (fun h => p.point_notMem (List.mem_append_left _ h))
    fun h => p.point_notMem (List.mem_append_right _ h)).symm

end Positional

/-! ## The number of a text -/

/-- The number that a text denotes, if it denotes one. -/
def denoted? (t : Text) : Option ℚ := (Decimal.ofText? t).bind Decimal.toRat?

namespace Positional

/-- The characters of numbers: digits, point, exponent mark and signs. -/
def isMark (c : Char) : Bool := c.isDigit || ['.', 'e', '+', '-'].elem c

theorem isMark_plain {c : Char} (h : isMark c = true) :
    Unicode.isBlank c = false ∧ Numeral.isAsciiBlank c = false ∧ Numeral.asciiForm c = c ∧
      c ≠ '_' := by
  have hlt : c.toNat < 128 := by
    rcases Bool.or_eq_true_iff.1 h with h | h
    · have h9 : '9'.toNat = 57 := rfl
      have := (Char.isDigit_iff_toNat.1 h).2
      omega
    · have hall : ['.', 'e', '+', '-'].all (·.toNat < 128) = true := rfl
      exact of_decide_eq_true (List.all_eq_true.1 hall c (List.elem_iff.1 h))
  have hall : ∀ n < 128, isMark (Char.ofNat n) = true → Unicode.isBlank (Char.ofNat n) = false ∧
      Numeral.isAsciiBlank (Char.ofNat n) = false ∧
      Numeral.asciiForm (Char.ofNat n) = Char.ofNat n ∧ Char.ofNat n ≠ '_' := by
    decide
  have := hall c.toNat hlt
  rw [Char.ofNat_toNat] at this
  exact this h

/-- A text of such characters is read as it is. -/
theorem normalized_of_isMark {t : Text} (h : ∀ c ∈ t, isMark c = true) :
    (Numeral.normalized (Text.trimBoth Unicode.isBlank t)).filter (· != '_') = t := by
  have hmap : t.map Numeral.asciiForm = t :=
    (List.map_congr_left fun c hc => (isMark_plain (h c hc)).2.2.1).trans t.map_id
  rw [Text.trimBoth_eq_self fun c hc => (isMark_plain (h c hc)).1, Numeral.normalized, hmap,
    Text.trimBoth_eq_self fun c hc => (isMark_plain (h c hc)).2.1, List.filter_eq_self]
  exact fun c hc => by simpa using (isMark_plain (h c hc)).2.2.2

/-- An exponent with its mark, if there is one. -/
def exponentText (e : Option ℤ) : Text := (e.map fun e => 'e' :: Numeral.signed e).getD []

theorem signed_eq (e : ℤ) :
    Numeral.signed e = (if e < 0 then '-' else '+') :: Numeral.ofNat e.natAbs := by
  cases e with
  | ofNat n => simp [Numeral.signed, Numeral.ofInt, Int.not_lt.2 (Int.natCast_nonneg n)]
  | negSucc n => simp [Numeral.signed, Numeral.ofInt, Int.negSucc_lt_zero, Int.natAbs_negSucc]

theorem splitSign_signed (e : ℤ) :
    Numeral.splitSign (Numeral.signed e) = (decide (e < 0), Numeral.ofNat e.natAbs) := by
  rw [signed_eq]
  split <;> simp_all [Numeral.splitSign]

theorem takeWhile_isDigit_ofNat (n : ℕ) :
    (Numeral.ofNat n).takeWhile Char.isDigit = Numeral.ofNat n :=
  List.takeWhile_eq_self_iff.2 fun _ hc => Numeral.isDigit_of_mem_ofNat hc

theorem dropWhile_isDigit_ofNat (n : ℕ) : (Numeral.ofNat n).dropWhile Char.isDigit = [] :=
  List.dropWhile_eq_nil_iff.2 fun _ hc => Numeral.isDigit_of_mem_ofNat hc

theorem withSign_natAbs (e : ℤ) : Numeral.withSign (decide (e < 0)) e.natAbs = e := by
  unfold Numeral.withSign
  by_cases h : e < 0
  · rw [if_pos (decide_eq_true h)]
    omega
  · rw [if_neg (by simpa using h)]
    omega

theorem takeExponent_exponentText (e : Option ℤ) :
    DecimalNumeral.takeExponent (exponentText e) = (e.getD 0, []) := by
  cases e with
  | none => rfl
  | some e =>
    simp only [exponentText, Option.map_some, Option.getD_some, DecimalNumeral.takeExponent,
      true_or, if_true, splitSign_signed, takeWhile_isDigit_ofNat, dropWhile_isDigit_ofNat]
    split
    · next h => exact absurd h (Numeral.ofNat_ne_nil _)
    · rw [Numeral.value_ofNat, withSign_natAbs]

theorem dropWhile_isDigit_append {ds : Text} (h : ∀ c ∈ ds, c.isDigit = true) (e : Option ℤ) :
    (ds ++ exponentText e).takeWhile Char.isDigit = ds ∧
      (ds ++ exponentText e).dropWhile Char.isDigit = exponentText e := by
  have hends : Numeral.EndsDigits (exponentText e) := by
    cases e <;> simp [Numeral.EndsDigits, exponentText]
  exact ⟨Numeral.takeWhile_digits h hends, Numeral.dropWhile_digits h hends⟩

variable (p : Positional) (e : Option ℤ)

theorem takeFraction?_exponentText (bare : Bool) :
    DecimalNumeral.takeFraction? bare (exponentText e) = none := by
  cases e <;> rfl

theorem takeFraction?_append {ds : Text} (h : ∀ c ∈ ds, c.isDigit = true) (hne : ds ≠ [])
    (bare : Bool) :
    DecimalNumeral.takeFraction? bare ('.' :: (ds ++ exponentText e)) =
      some (ds, exponentText e) := by
  obtain ⟨htake, hdrop⟩ := dropWhile_isDigit_append h e
  simp [DecimalNumeral.takeFraction?, htake, hdrop, hne]

theorem leading?_text :
    DecimalNumeral.leading? (p.text ++ exponentText e) =
      some (⟨p.units, e.getD 0 - p.fraction.length⟩, []) := by
  have hwhole : ∀ c ∈ p.whole, c.isDigit = true := fun c hc =>
    p.isDigit c (List.mem_append_left _ hc)
  have hfraction : ∀ c ∈ p.fraction, c.isDigit = true := fun c hc =>
    p.isDigit c (List.mem_append_right _ hc)
  have hne := p.whole_ne_nil
  unfold DecimalNumeral.leading? text units
  by_cases hnil : p.fraction = []
  · obtain ⟨htake, hdrop⟩ := dropWhile_isDigit_append hwhole e
    simp [hnil, htake, hdrop, takeFraction?_exponentText, takeExponent_exponentText, hne]
  · have hends : Numeral.EndsDigits ('.' :: (p.fraction ++ exponentText e)) := by
      simp [Numeral.EndsDigits]
    have htake := Numeral.takeWhile_digits hwhole hends
    have hdrop := Numeral.dropWhile_digits hwhole hends
    simp [pointed_of_ne_nil hnil, htake, hdrop, takeFraction?_append e hfraction hnil,
      takeExponent_exponentText]

/-- A text with a minus sign before it, if the number is below zero. -/
def minus (negative : Bool) (t : Text) : Text := if negative then '-' :: t else t

theorem isMark_of_isDigit {c : Char} (h : c.isDigit = true) : isMark c = true := by
  simp [isMark, h]

theorem isMark_of_mem_text {c : Char} (h : c ∈ p.text ++ exponentText e) : isMark c = true := by
  have hexponent : ∀ c ∈ exponentText e, isMark c = true := by
    cases e with
    | none => simp [exponentText]
    | some e =>
      simp only [exponentText, Option.map_some, Option.getD_some, signed_eq, List.forall_mem_cons]
      refine ⟨rfl, ?_, fun c hc => isMark_of_isDigit (Numeral.isDigit_of_mem_ofNat hc)⟩
      split <;> rfl
  have hfraction : ∀ c ∈ pointed p.fraction, c = '.' ∨ c ∈ p.fraction := by
    unfold pointed
    split <;> simp
  rw [text, List.append_assoc, List.mem_append, List.mem_append] at h
  rcases h with h | h | h
  · exact isMark_of_isDigit (p.isDigit c (List.mem_append_left _ h))
  · rcases hfraction c h with rfl | h
    · rfl
    · exact isMark_of_isDigit (p.isDigit c (List.mem_append_right _ h))
  · exact hexponent c h

theorem exists_text_eq_cons : ∃ c t, p.text = c :: t ∧ c.isDigit = true := by
  obtain ⟨c, ds, hwhole⟩ := List.exists_cons_of_ne_nil p.whole_ne_nil
  refine ⟨c, ds ++ pointed p.fraction, ?_, p.isDigit c (by simp [hwhole])⟩
  rw [text, hwhole, List.cons_append]

theorem splitSign_minus (negative : Bool) (t : Text) :
    Numeral.splitSign (minus negative (p.text ++ t)) = (negative, p.text ++ t) := by
  cases negative with
  | true => rfl
  | false =>
    obtain ⟨c, rest, htext, hc⟩ := p.exists_text_eq_cons
    rw [minus, if_neg Bool.false_ne_true, htext, List.cons_append]
    exact Numeral.splitSign_of_unsigned (Numeral.unsigned_of_isDigit hc _)

/-- **What a number denotes**, with its sign and its exponent. -/
theorem denoted?_minus (negative : Bool) :
    denoted? (minus negative (p.text ++ exponentText e)) =
      some (Rounding.signOf negative * (p.value * 10 ^ e.getD 0)) := by
  have hmark : ∀ c ∈ minus negative (p.text ++ exponentText e), isMark c = true := by
    unfold minus
    split
    · exact List.forall_mem_cons.2 ⟨rfl, fun c => p.isMark_of_mem_text e⟩
    · exact fun c => p.isMark_of_mem_text e
  have hread : Decimal.ofText? (minus negative (p.text ++ exponentText e)) =
      some (.finite negative p.units (e.getD 0 - p.fraction.length)) := by
    simp only [Decimal.ofText?, normalized_of_isMark hmark, splitSign_minus, leading?_text]
  have hpow : (10 : ℚ) ^ (e.getD 0 - p.fraction.length : ℤ) =
      10 ^ e.getD 0 / 10 ^ p.fraction.length := by
    rw [zpow_sub₀ (by norm_num), zpow_natCast]
  simp only [denoted?, hread, Option.bind_some, Decimal.toRat?, value]
  rw [Rounding.mkRat_scale (by decide), Nat.cast_ofNat, hpow]
  congr 2
  ring

theorem denoted?_minus_text (negative : Bool) :
    denoted? (minus negative p.text) = some (Rounding.signOf negative * p.value) := by
  have h := p.denoted?_minus none negative
  rwa [exponentText, Option.map_none, Option.getD_none, List.append_nil, Option.getD_none,
    zpow_zero, mul_one] at h

theorem head?_minus (negative : Bool) (t : Text) :
    (minus negative (p.text ++ t)).head? = some '-' ↔ negative = true := by
  cases negative with
  | true => exact iff_of_true rfl rfl
  | false =>
    obtain ⟨c, rest, htext, hc⟩ := p.exists_text_eq_cons
    refine iff_of_false (fun h => ?_) Bool.false_ne_true
    rw [minus, if_neg Bool.false_ne_true, htext, List.cons_append, List.head?_cons,
      Option.some.injEq] at h
    rw [h] at hc
    cases hc

end Positional

end Textwork
