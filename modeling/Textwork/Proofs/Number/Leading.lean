/-
  Signs and digits at the start of a text.

  * `IsSign` are the signs that a number can have;
  * `IsSign.splitSign_append`: a sign is read with any text behind it that does
    not begin with a sign itself;
  * `leadingInteger?_append`: blanks, a sign and digits are read with any text
    behind them that does not begin with a digit.
-/
import Textwork.Number.Numeral
import Textwork.Proofs.Directive.Grammar

namespace Textwork.Numeral

open Directive (IsNumber)

variable {c : Char} {ds s t ws : Text} {negative : Bool}

/-- No sign, a plus or a minus, and whether it is a minus. -/
inductive IsSign : Text → Bool → Prop
  | absent : IsSign [] false
  | plus : IsSign ['+'] false
  | minus : IsSign ['-'] true

/-- The text does not begin with a sign. -/
def Unsigned (t : Text) : Prop := ∀ c ∈ t.head?, c ≠ '+' ∧ c ≠ '-'

/-- The text does not begin with a digit. -/
def EndsDigits (t : Text) : Prop := ∀ c ∈ t.head?, c.isDigit = false

theorem endsDigits_nil : EndsDigits [] := by simp [EndsDigits]

theorem unsigned_of_isDigit (hc : c.isDigit = true) (t : Text) : Unsigned (c :: t) := by
  intro a ha
  obtain rfl : c = a := by simpa using ha
  constructor
  · rintro rfl
    cases hc
  · rintro rfl
    cases hc

theorem splitSign_of_unsigned (h : Unsigned t) : splitSign t = (false, t) := by
  unfold splitSign
  split
  · exact absurd rfl (h '-' rfl).2
  · exact absurd rfl (h '+' rfl).1
  · rfl

/-- A sign is read with any text behind it that has none. -/
theorem IsSign.splitSign_append (h : IsSign s negative) (ht : Unsigned t) :
    splitSign (s ++ t) = (negative, t) := by
  rcases h with _ | _ | _
  · exact splitSign_of_unsigned ht
  · rfl
  · rfl

/-- Every text is a sign and what follows it. -/
theorem exists_isSign (t : Text) : ∃ s, IsSign s (splitSign t).1 ∧ s ++ (splitSign t).2 = t := by
  unfold splitSign
  split
  · exact ⟨['-'], .minus, rfl⟩
  · exact ⟨['+'], .plus, rfl⟩
  · exact ⟨[], .absent, rfl⟩

theorem exists_cons_of_isNumber (h : IsNumber ds) :
    ∃ c rest, ds = c :: rest ∧ c.isDigit = true := by
  obtain ⟨c, rest, rfl⟩ := List.exists_cons_of_ne_nil h.ne_nil
  exact ⟨c, rest, rfl, h.isDigit c List.mem_cons_self⟩

theorem takeWhile_digits (h : ∀ c ∈ ds, c.isDigit = true) (ht : EndsDigits t) :
    (ds ++ t).takeWhile Char.isDigit = ds := by
  rw [List.takeWhile_append_of_pos h]
  rcases t with _ | ⟨c, t⟩
  · simp
  · simp [ht c rfl]

theorem EndsDigits.dropWhile_eq (h : EndsDigits t) : t.dropWhile Char.isDigit = t := by
  rcases t with _ | ⟨c, t⟩
  · rfl
  · simp [h c rfl]

theorem dropWhile_digits (h : ∀ c ∈ ds, c.isDigit = true) (ht : EndsDigits t) :
    (ds ++ t).dropWhile Char.isDigit = t := by
  rw [List.dropWhile_append_of_pos h, ht.dropWhile_eq]

theorem isBlank_of_isDigit {c : Char} (h : c.isDigit = true) : Unicode.isBlank c = false := by
  have hbelow : ∀ n < 58, 48 ≤ n → Unicode.blanks.contains n = false := by decide
  obtain ⟨hlow, hhigh⟩ := Char.isDigit_iff_toNat.1 h
  exact hbelow c.toNat (Nat.lt_succ_of_le hhigh) hlow

/-- A sign and digits behind blanks are read up to the first character that is no digit. -/
theorem leadingInteger?_append (hws : ∀ c ∈ ws, Unicode.isBlank c = true)
    (hs : IsSign s negative) (hds : IsNumber ds) (ht : EndsDigits t) :
    leadingInteger? (ws ++ (s ++ (ds ++ t))) = some (negative, ds) := by
  obtain ⟨d, rest, rfl, hd⟩ := exists_cons_of_isNumber hds
  have hsigned : splitSign (s ++ (d :: rest ++ t)) = (negative, d :: rest ++ t) :=
    hs.splitSign_append (unsigned_of_isDigit hd _)
  have htrim : Text.trimStart Unicode.isBlank (ws ++ (s ++ (d :: rest ++ t))) =
      s ++ (d :: rest ++ t) := by
    rw [Text.trimStart, List.dropWhile_append_of_pos hws]
    rcases hs with _ | _ | _
    · simp [isBlank_of_isDigit hd]
    · rfl
    · rfl
  rw [leadingInteger?, htrim, hsigned]
  simp only [takeWhile_digits hds.isDigit ht]

end Textwork.Numeral
