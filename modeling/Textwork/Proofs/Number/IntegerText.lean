/-
  Texts that are integers as a whole.

  * `IntegerText` is the grammar of integers: blanks, a sign, digits of any
    script with single underscores between them, blanks;
  * `decimalValue?_asciiForm`, `isAsciiBlank_asciiForm`: the ASCII form of a
    character is a digit or a blank as the character is;
  * `integer?_eq_some_iff`: a text denotes an integer exactly if it is in the
    grammar, with no more digits than can be read.
-/
import Mathlib.Data.Nat.Digits.Defs
import Textwork.Proofs.Number.Positional
import Textwork.Proofs.Unicode.LowerForms

namespace Textwork

/-! ## Blanks at both ends -/

namespace Text

variable {p : Char → Bool} {t u v : Text}

theorem exists_trimBoth (p : Char → Bool) (t : Text) :
    ∃ u v, (∀ c ∈ u, p c = true) ∧ (∀ c ∈ v, p c = true) ∧ t = u ++ (trimBoth p t ++ v) := by
  refine ⟨t.takeWhile p, (trimStart p t).rtakeWhile p, ?_, ?_, ?_⟩
  · intro c hc
    exact List.mem_takeWhile_imp hc
  · intro c hc
    exact List.mem_rtakeWhile_imp hc
  · have hend : trimBoth p t ++ (trimStart p t).rtakeWhile p = trimStart p t :=
      List.rdropWhile_append_rtakeWhile ..
    rw [hend]
    exact List.takeWhile_append_dropWhile.symm

theorem trimBoth_append (hu : ∀ c ∈ u, p c = true) (ht : ∀ c ∈ t, p c = false)
    (hv : ∀ c ∈ v, p c = true) : trimBoth p (u ++ (t ++ v)) = t := by
  have hstart : trimStart p (u ++ (t ++ v)) = trimStart p (t ++ v) :=
    List.dropWhile_append_of_pos hu
  have hend : trimEnd p v = [] := List.rdropWhile_eq_nil_iff.2 hv
  rw [trimBoth, hstart]
  cases t with
  | nil =>
    have hnil : trimStart p v = [] := List.dropWhile_eq_nil_iff.2 hv
    rw [List.nil_append, hnil]
    rfl
  | cons c t =>
    have hkept : trimStart p (c :: t ++ v) = c :: t ++ v :=
      List.dropWhile_cons_of_neg (by simp [ht c])
    rw [hkept, trimEnd_append, if_pos hend, trimEnd_eq_self ht]

end Text

namespace Numeral

open Unicode (decimalValue? isBlank)

variable {a c : Char} {b negative : Bool} {d : ℕ} {ds : List ℕ} {m s t u : Text} {n : ℤ}

/-! ## The grammar -/

/-- Digits that follow a digit, an underscore or nothing before each, and their values. -/
inductive DigitsAfter : Text → List ℕ → Prop
  | nil : DigitsAfter [] []
  | digit {c : Char} {d : ℕ} {t : Text} {ds : List ℕ} (hc : decimalValue? c = some d)
      (ht : DigitsAfter t ds) : DigitsAfter (c :: t) (d :: ds)
  | underscored {c : Char} {d : ℕ} {t : Text} {ds : List ℕ} (hc : decimalValue? c = some d)
      (ht : DigitsAfter t ds) : DigitsAfter ('_' :: c :: t) (d :: ds)

/-- Digits of any script with single underscores between them, and their values. -/
inductive Digits : Text → List ℕ → Prop
  | mk {c : Char} {d : ℕ} {t : Text} {ds : List ℕ} (hc : decimalValue? c = some d)
      (ht : DigitsAfter t ds) : Digits (c :: t) (d :: ds)

/-- White space, but of the characters in ASCII only the space and those from tab to return. -/
def IsSpace (c : Char) : Prop := isAsciiBlank c = true ∨ 127 ≤ c.toNat ∧ isBlank c = true

/-- An integer with blanks around it: whether its sign is a minus, and the values of its digits. -/
inductive IntegerText : Text → Bool → List ℕ → Prop
  | mk {before s m after : Text} {negative : Bool} {ds : List ℕ}
      (hbefore : ∀ c ∈ before, IsSpace c) (hs : IsSign s negative) (hm : Digits m ds)
      (hafter : ∀ c ∈ after, IsSpace c) :
      IntegerText (before ++ (s ++ (m ++ after))) negative ds

/-! ## Digits -/

theorem decimalValue?_lt (h : decimalValue? c = some d) : d < 10 := by
  unfold decimalValue? at h
  generalize Unicode.decimalZeros = zeros at h
  induction zeros with
  | nil => cases h
  | cons row rest ih =>
    rw [Unicode.decimalValueFrom?] at h
    split_ifs at h with hbelow hrow
    · cases h
      omega
    · exact ih h

theorem decimalValue?_of_isBlank (h : isBlank c = true) : decimalValue? c = none := by
  have hrows : Unicode.blanks.rows.contains c.toNat = true := by
    rw [Unicode.Ranges.contains_rows]
    exact h
  have hdigit := Unicode.not_isDigit_of_apart (by decide +kernel) hrows
  exact Option.isNone_iff_eq_none.1 (Option.isSome_eq_false_iff.1 (Bool.or_eq_false_iff.1 hdigit).1)

theorem decimalValue?_ascii (hc : c.toNat < 128) :
    decimalValue? c = if c.isDigit then some (c.toNat - '0'.toNat) else none :=
  forall_ascii
    (P := fun c => decimalValue? c = if c.isDigit then some (c.toNat - '0'.toNat) else none)
    (by decide) hc

theorem decimalValue?_digitChar (hd : d < 10) : decimalValue? (Nat.digitChar d) = some d := by
  have hall : ∀ d < 10, decimalValue? (Nat.digitChar d) = some d := by decide
  exact hall d hd

/-! ## Forms in ASCII -/

/-- The four ways in which a character gets its form. -/
theorem asciiForm_cases (c : Char) :
    (c.toNat < 127 ∧ asciiForm c = c) ∨
    (127 ≤ c.toNat ∧ isBlank c = true ∧ asciiForm c = ' ') ∨
    (127 ≤ c.toNat ∧ isBlank c = false ∧
      ∃ d, decimalValue? c = some d ∧ asciiForm c = Nat.digitChar d) ∨
    (127 ≤ c.toNat ∧ isBlank c = false ∧ decimalValue? c = none ∧ asciiForm c = '?') := by
  have hdigit : ∀ d < 10, Char.ofNat ('0'.toNat + d) = Nat.digitChar d := by decide
  unfold asciiForm
  split_ifs with hlt hblank
  · exact .inl ⟨hlt, rfl⟩
  · exact .inr (.inl ⟨Nat.le_of_not_lt hlt, hblank, rfl⟩)
  · have hge := Nat.le_of_not_lt hlt
    have hblank := Bool.eq_false_iff.2 hblank
    cases hd : decimalValue? c with
    | some d => exact .inr (.inr (.inl ⟨hge, hblank, d, rfl, hdigit d (decimalValue?_lt hd)⟩))
    | none => exact .inr (.inr (.inr ⟨hge, hblank, rfl, rfl⟩))

theorem asciiForm_lt (c : Char) : (asciiForm c).toNat < 128 := by
  rcases asciiForm_cases c with ⟨hlt, h⟩ | ⟨-, -, h⟩ | ⟨-, -, d, hd, h⟩ | ⟨-, -, -, h⟩
  · rw [h]
    omega
  · rw [h]
    decide
  · have hall : ∀ d < 10, (Nat.digitChar d).toNat < 128 := by decide
    rw [h]
    exact hall d (decimalValue?_lt hd)
  · rw [h]
    decide

/-- A character and its form are the same digit, or none of them is a digit. -/
theorem decimalValue?_asciiForm (c : Char) : decimalValue? (asciiForm c) = decimalValue? c := by
  rcases asciiForm_cases c with ⟨-, h⟩ | ⟨-, hblank, h⟩ | ⟨-, -, d, hd, h⟩ | ⟨-, -, hd, h⟩
  · rw [h]
  · rw [h, decimalValue?_of_isBlank hblank]
    decide
  · rw [h, hd, decimalValue?_digitChar (decimalValue?_lt hd)]
  · rw [h, hd]
    decide

theorem isAsciiBlank_eq_false (hc : 127 ≤ c.toNat) : isAsciiBlank c = false := by
  refine Bool.eq_false_iff.2 fun h => ?_
  have hle : c.toNat ≤ 32 := by
    rcases Bool.or_eq_true_iff.1 h with h | h
    · obtain rfl := beq_iff_eq.1 h
      decide
    · have hlast := of_decide_eq_true (Bool.and_eq_true_iff.1 h).2
      have hr : '\r'.toNat = 13 := rfl
      have := UInt32.le_iff_toNat_le.1 hlast
      change c.val.toNat ≤ 32
      change c.val.toNat ≤ '\r'.toNat at this
      omega
  omega

theorem isAsciiBlank_digitChar (hd : d < 10) : isAsciiBlank (Nat.digitChar d) = false := by
  have hall : ∀ d < 10, isAsciiBlank (Nat.digitChar d) = false := by decide
  exact hall d hd

/-- The form of a character is blank if the character is. -/
theorem isAsciiBlank_asciiForm (c : Char) : isAsciiBlank (asciiForm c) = true ↔ IsSpace c := by
  have hspace : isAsciiBlank ' ' = true := rfl
  have hmark : isAsciiBlank '?' = false := rfl
  unfold IsSpace
  rcases asciiForm_cases c with ⟨hlt, h⟩ | ⟨hge, hblank, h⟩ | ⟨hge, hblank, d, hd, h⟩ |
    ⟨hge, hblank, -, h⟩
  · simp [h, Nat.not_le.2 hlt]
  · simp [h, hspace, hge, hblank]
  · simp [h, isAsciiBlank_digitChar (decimalValue?_lt hd), isAsciiBlank_eq_false hge, hblank]
  · simp [h, hmark, isAsciiBlank_eq_false hge, hblank]

/-- Signs and underscores are forms of themselves only. -/
theorem asciiForm_eq_iff (ha : a = '+' ∨ a = '-' ∨ a = '_') : asciiForm c = a ↔ c = a := by
  have hdigit : ∀ d < 10,
      Nat.digitChar d ≠ '+' ∧ Nat.digitChar d ≠ '-' ∧ Nat.digitChar d ≠ '_' := by decide
  have hne (hge : 127 ≤ c.toNat) : c ≠ a := by
    rintro rfl
    rcases ha with rfl | rfl | rfl <;> exact absurd hge (by decide)
  rcases asciiForm_cases c with ⟨-, h⟩ | ⟨hge, -, h⟩ | ⟨hge, -, d, hd, h⟩ | ⟨hge, -, -, h⟩
  · rw [h]
  · refine iff_of_false ?_ (hne hge)
    rw [h]
    rcases ha with rfl | rfl | rfl <;> decide
  · obtain ⟨hplus, hminus, hunderscore⟩ := hdigit d (decimalValue?_lt hd)
    refine iff_of_false ?_ (hne hge)
    rw [h]
    rcases ha with rfl | rfl | rfl <;> assumption
  · refine iff_of_false ?_ (hne hge)
    rw [h]
    rcases ha with rfl | rfl | rfl <;> decide

/-- The form of a digit is the ASCII digit of its value. -/
theorem asciiForm_of_decimalValue? (h : decimalValue? c = some d) :
    asciiForm c = Nat.digitChar d := by
  rw [← decimalValue?_asciiForm, decimalValue?_ascii (asciiForm_lt c)] at h
  split_ifs at h with hdigit
  obtain rfl := Option.some.inj h
  have hbounds := Char.isDigit_iff_toNat.1 hdigit
  have h0 : '0'.toNat = 48 := rfl
  have h9 : '9'.toNat = 57 := rfl
  refine Char.toNat_inj.1 ?_
  rw [Nat.toNat_digitChar_of_lt_ten (by omega)]
  omega

theorem isAsciiBlank_of_decimalValue? (h : decimalValue? c = some d) :
    isAsciiBlank (asciiForm c) = false := by
  rw [asciiForm_of_decimalValue? h, isAsciiBlank_digitChar (decimalValue?_lt h)]

theorem isDigit_asciiForm_iff : (asciiForm c).isDigit = true ↔ ∃ d, decimalValue? c = some d := by
  rw [← decimalValue?_asciiForm, decimalValue?_ascii (asciiForm_lt c)]
  cases (asciiForm c).isDigit <;> simp

/-! ## Underscores -/

/-- An underscore has a digit on both sides. -/
theorem withoutUnderscores?_underscore (h : withoutUnderscores? b ('_' :: t) = some u) :
    b = true ∧ ∃ c rest v, t = c :: rest ∧ c.isDigit = true ∧ u = c :: v ∧
      withoutUnderscores? true rest = some v := by
  cases t with
  | nil => cases h
  | cons c rest =>
    rw [withoutUnderscores?] at h
    split_ifs at h with hbetween
    obtain ⟨hb, hc⟩ := Bool.and_eq_true_iff.1 hbetween
    obtain ⟨v, hv, rfl⟩ := Option.map_eq_some_iff.1 h
    exact ⟨hb, c, rest, v, rfl, hc, rfl, hv⟩

/-- The digits of the given values. -/
def digitsOf (ds : List ℕ) : Text := ds.map Nat.digitChar

theorem withoutUnderscores?_digit (hc : decimalValue? c = some d)
    (ht : withoutUnderscores? true t = some (digitsOf ds)) :
    withoutUnderscores? b (asciiForm c :: t) = some (digitsOf (d :: ds)) := by
  have hdigit : (asciiForm c).isDigit = true := isDigit_asciiForm_iff.2 ⟨d, hc⟩
  have hne : asciiForm c ≠ '_' := fun h => by
    rw [h] at hdigit
    cases hdigit
  rw [withoutUnderscores?_cons hne, hdigit, ht, asciiForm_of_decimalValue? hc]
  rfl

theorem DigitsAfter.withoutUnderscores?_eq (h : DigitsAfter t ds) :
    withoutUnderscores? true (t.map asciiForm) = some (digitsOf ds) := by
  induction h with
  | nil => rfl
  | digit hc _ ih => exact withoutUnderscores?_digit hc ih
  | @underscored c d t ds hc _ ih =>
    have hunderscore : asciiForm '_' = '_' := rfl
    have hdigit : (asciiForm c).isDigit = true := isDigit_asciiForm_iff.2 ⟨d, hc⟩
    rw [List.map_cons, List.map_cons, hunderscore, withoutUnderscores?, hdigit, Bool.and_self,
      if_pos rfl, ih, asciiForm_of_decimalValue? hc]
    rfl

theorem Digits.withoutUnderscores?_eq (h : Digits t ds) :
    withoutUnderscores? false (t.map asciiForm) = some (digitsOf ds) := by
  cases h with
  | mk hc ht => exact withoutUnderscores?_digit hc ht.withoutUnderscores?_eq

/-- The first character is a digit if it is no underscore and all that is left are digits. -/
theorem exists_digit (hc : asciiForm c ≠ '_')
    (h : withoutUnderscores? b ((c :: t).map asciiForm) = some u) (hu : ∀ c ∈ u, c.isDigit = true) :
    ∃ d v, decimalValue? c = some d ∧ u = Nat.digitChar d :: v ∧ (∀ c ∈ v, c.isDigit = true) ∧
      withoutUnderscores? true (t.map asciiForm) = some v := by
  rw [List.map_cons, withoutUnderscores?_cons hc] at h
  obtain ⟨v, hv, rfl⟩ := Option.map_eq_some_iff.1 h
  obtain ⟨hdigit, hdigits⟩ := List.forall_mem_cons.1 hu
  obtain ⟨d, hd⟩ := isDigit_asciiForm_iff.1 hdigit
  rw [hdigit] at hv
  exact ⟨d, v, hd, by rw [asciiForm_of_decimalValue? hd], hdigits, hv⟩

/-- Digits that are left behind a digit are those of the grammar.  The recursion takes an underscore
    together with the digit behind it. -/
theorem exists_digitsAfter : ∀ {t u : Text},
    withoutUnderscores? true (t.map asciiForm) = some u → (∀ c ∈ u, c.isDigit = true) →
      ∃ ds, DigitsAfter t ds ∧ u = digitsOf ds
  | [], u, h, _ => by
    cases h
    exact ⟨[], .nil, rfl⟩
  | c :: t, u, h, hu => by
    by_cases hc : asciiForm c = '_'
    · rw [List.map_cons, hc] at h
      obtain ⟨-, a, rest, v, ht, ha, rfl, hv⟩ := withoutUnderscores?_underscore h
      obtain ⟨c', t', rfl, rfl, rfl⟩ := List.map_eq_cons_iff.1 ht
      obtain ⟨d, hd⟩ := isDigit_asciiForm_iff.1 ha
      obtain ⟨ds, hds, rfl⟩ := exists_digitsAfter hv (List.forall_mem_cons.1 hu).2
      obtain rfl := (asciiForm_eq_iff (.inr (.inr rfl))).1 hc
      exact ⟨d :: ds, .underscored hd hds, by rw [asciiForm_of_decimalValue? hd]; rfl⟩
    · obtain ⟨d, v, hd, rfl, hdigits, hv⟩ := exists_digit hc h hu
      obtain ⟨ds, hds, rfl⟩ := exists_digitsAfter hv hdigits
      exact ⟨d :: ds, .digit hd hds, rfl⟩

theorem exists_digits (h : withoutUnderscores? false (t.map asciiForm) = some u)
    (hu : Directive.IsNumber u) : ∃ ds, Digits t ds ∧ u = digitsOf ds := by
  cases t with
  | nil =>
    cases h
    exact absurd rfl hu.ne_nil
  | cons c t =>
    have hc : asciiForm c ≠ '_' := fun hc => by
      rw [List.map_cons, hc] at h
      cases (withoutUnderscores?_underscore h).1
    obtain ⟨d, v, hd, rfl, hdigits, hv⟩ := exists_digit hc h hu.isDigit
    obtain ⟨ds, hds, rfl⟩ := exists_digitsAfter hv hdigits
    exact ⟨d :: ds, .mk hd hds, rfl⟩

/-! ## Values -/

theorem DigitsAfter.lt (h : DigitsAfter t ds) : ∀ d ∈ ds, d < 10 := by
  induction h with
  | nil => exact List.forall_mem_nil _
  | digit hc _ ih | underscored hc _ ih => exact List.forall_mem_cons.2 ⟨decimalValue?_lt hc, ih⟩

theorem Digits.lt (h : Digits t ds) : ∀ d ∈ ds, d < 10 := by
  cases h with
  | mk hc ht => exact List.forall_mem_cons.2 ⟨decimalValue?_lt hc, ht.lt⟩

theorem Digits.isNumber (h : Digits t ds) : Directive.IsNumber (digitsOf ds) := by
  have hall : ∀ d < 10, (Nat.digitChar d).isDigit = true := by decide
  constructor
  · cases h
    exact List.cons_ne_nil _ _
  · intro c hc
    obtain ⟨d, hd, rfl⟩ := List.mem_map.1 hc
    exact hall d (h.lt d hd)

theorem value_digitsOf (h : ∀ d ∈ ds, d < 10) :
    value (digitsOf ds) = Nat.ofDigits 10 ds.reverse := by
  induction ds with
  | nil => rfl
  | cons d ds ih =>
    obtain ⟨hd, hds⟩ := List.forall_mem_cons.1 h
    have hdigit : ∀ d < 10, value [Nat.digitChar d] = d := by decide
    have hcons : digitsOf (d :: ds) = [Nat.digitChar d] ++ digitsOf ds := rfl
    rw [hcons, value_append, hdigit d hd, ih hds, Nat.ofDigits_reverse_cons, digitsOf,
      List.length_map]
    ring

/-! ## Signs and blanks -/

theorem IsSign.map_asciiForm (h : IsSign s negative) : s.map asciiForm = s := by
  cases h <;> rfl

/-- Only a sign has the form of a sign. -/
theorem IsSign.eq_of_map_eq (h : IsSign s negative) (ht : t.map asciiForm = s) : t = s := by
  cases h with
  | absent => exact List.map_eq_nil_iff.1 ht
  | plus | minus =>
    obtain ⟨c, rfl, hc⟩ := List.map_eq_singleton_iff.1 ht
    rw [(asciiForm_eq_iff (by simp)).1 hc]

theorem IsSign.not_isAsciiBlank (h : IsSign s negative) : ∀ c ∈ s, isAsciiBlank c = false := by
  cases h with
  | absent => exact List.forall_mem_nil _
  | plus | minus => exact List.forall_mem_singleton.2 rfl

theorem DigitsAfter.not_isAsciiBlank (h : DigitsAfter t ds) :
    ∀ c ∈ t.map asciiForm, isAsciiBlank c = false := by
  induction h with
  | nil => exact List.forall_mem_nil _
  | digit hc _ ih => exact List.forall_mem_cons.2 ⟨isAsciiBlank_of_decimalValue? hc, ih⟩
  | underscored hc _ ih =>
    exact List.forall_mem_cons.2
      ⟨rfl, List.forall_mem_cons.2 ⟨isAsciiBlank_of_decimalValue? hc, ih⟩⟩

theorem Digits.not_isAsciiBlank (h : Digits t ds) :
    ∀ c ∈ t.map asciiForm, isAsciiBlank c = false := by
  cases h with
  | mk hc ht => exact List.forall_mem_cons.2 ⟨isAsciiBlank_of_decimalValue? hc, ht.not_isAsciiBlank⟩

theorem Digits.unsigned (h : Digits t ds) : Unsigned (t.map asciiForm) := by
  cases h with
  | mk hc => exact unsigned_of_isDigit (isDigit_asciiForm_iff.2 ⟨_, hc⟩) _

/-! ## Whole texts -/

theorem IntegerText.exists_splitSign (h : IntegerText t negative ds) :
    ∃ m, Digits m ds ∧ splitSign (normalized t) = (negative, m.map asciiForm) := by
  cases h with
  | @mk before s m after negative ds hbefore hs hm hafter =>
    have hblank {u : Text} (hu : ∀ c ∈ u, IsSpace c) :
        ∀ c ∈ u.map asciiForm, isAsciiBlank c = true := by
      intro c hc
      obtain ⟨a, ha, rfl⟩ := List.mem_map.1 hc
      exact (isAsciiBlank_asciiForm a).2 (hu a ha)
    have hcore : ∀ c ∈ s ++ m.map asciiForm, isAsciiBlank c = false :=
      List.forall_mem_append.2 ⟨hs.not_isAsciiBlank, hm.not_isAsciiBlank⟩
    refine ⟨m, hm, ?_⟩
    rw [normalized, List.map_append, List.map_append, List.map_append, hs.map_asciiForm,
      ← List.append_assoc s, Text.trimBoth_append (hblank hbefore) hcore (hblank hafter),
      hs.splitSign_append hm.unsigned]

theorem exists_integerText (h : withoutUnderscores? false (splitSign (normalized t)).2 = some u)
    (hu : Directive.IsNumber u) :
    ∃ ds, IntegerText t (splitSign (normalized t)).1 ds ∧ u = digitsOf ds ∧ ∀ d ∈ ds, d < 10 := by
  obtain ⟨before, after, hbefore, hafter, hmap⟩ :=
    Text.exists_trimBoth isAsciiBlank (t.map asciiForm)
  obtain ⟨s, hs, hsigned⟩ := exists_isSign (normalized t)
  rw [← normalized, ← hsigned] at hmap
  obtain ⟨before, rest, ht, rfl, hrest⟩ := List.map_eq_append_iff.1 hmap
  obtain ⟨core, after, rfl, hcore, rfl⟩ := List.map_eq_append_iff.1 hrest
  obtain ⟨s', m, rfl, hs', hm⟩ := List.map_eq_append_iff.1 hcore
  obtain rfl := hs.eq_of_map_eq hs'
  rw [← hm] at h
  obtain ⟨ds, hds, rfl⟩ := exists_digits h hu
  have hspace {v : Text} (hv : ∀ c ∈ v.map asciiForm, isAsciiBlank c = true) : ∀ c ∈ v, IsSpace c :=
    fun c hc => (isAsciiBlank_asciiForm c).1 (hv _ (List.mem_map_of_mem hc))
  have htext := IntegerText.mk (hspace hbefore) hs hds (hspace hafter)
  rw [← List.append_assoc s', ← ht] at htext
  exact ⟨ds, htext, rfl, hds.lt⟩

theorem integer?_eq_some_iff_exists :
    integer? t = some n ↔ ∃ u,
      withoutUnderscores? false (splitSign (normalized t)).2 = some u ∧ Directive.IsNumber u ∧
        u.length ≤ maxDigits ∧ n = withSign (splitSign (normalized t)).1 (value u) := by
  unfold integer?
  cases hu : withoutUnderscores? false (splitSign (normalized t)).2 with
  | none => simp [hu]
  | some u =>
    have hnumber : Directive.IsNumber u ↔ u.isEmpty = false ∧ u.all Char.isDigit = true := by
      rw [List.isEmpty_eq_false_iff, List.all_eq_true]
      exact ⟨fun h => ⟨h.ne_nil, h.isDigit⟩, fun h => ⟨h.1, h.2⟩⟩
    simp only [hu, Option.some.injEq, exists_eq_left', hnumber]
    cases u.isEmpty <;> cases u.all Char.isDigit <;> simp [eq_comm, and_comm]

/-- **A text denotes an integer exactly if it is one in the grammar**, with no more digits than can
    be read. -/
theorem integer?_eq_some_iff :
    integer? t = some n ↔ ∃ negative ds, IntegerText t negative ds ∧ ds.length ≤ maxDigits ∧
      n = withSign negative (Nat.ofDigits 10 ds.reverse) := by
  rw [integer?_eq_some_iff_exists]
  constructor
  · rintro ⟨u, hu, hnumber, hlen, rfl⟩
    obtain ⟨ds, htext, rfl, hds⟩ := exists_integerText hu hnumber
    rw [digitsOf, List.length_map] at hlen
    exact ⟨_, ds, htext, hlen, by rw [value_digitsOf hds]⟩
  · rintro ⟨negative, ds, h, hlen, rfl⟩
    obtain ⟨m, hm, hsplit⟩ := h.exists_splitSign
    rw [hsplit]
    refine ⟨digitsOf ds, hm.withoutUnderscores?_eq, hm.isNumber, ?_, ?_⟩
    · rwa [digitsOf, List.length_map]
    · rw [value_digitsOf hm.lt]

end Numeral

end Textwork
