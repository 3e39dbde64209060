/-
  Texts in lower case, character by character.

  * `lower_lower`: lower casing twice is lower casing once, since it leaves what
    it has written;
  * `Lowers` says what may stand for a character, `forall₂_lower`: a text without
    `İ` in lower case is such a character for each of its own.
-/
import Textwork.Proofs.Text.SingleWords
import Textwork.Proofs.Unicode.LowerForms

namespace Textwork.Text

open Unicode

variable {c d : Char} {t before after : Text}

/-- A first piece is one element if what is put behind it is not too short for that. -/
theorem append_eq_cons_iff_of_length_le {α : Type} {u v w : List α} {a : α} (hu : u ≠ [])
    (hle : w.length ≤ v.length) : u ++ v = a :: w ↔ u = [a] ∧ v = w := by
  constructor
  · intro h
    obtain ⟨b, rest, rfl⟩ := List.exists_cons_of_ne_nil hu
    rw [List.cons_append] at h
    obtain ⟨rfl, hrest⟩ := List.cons.inj h
    have hlength := congrArg List.length hrest
    rw [List.length_append] at hlength
    obtain rfl : rest = [] := List.eq_nil_of_length_eq_zero (by omega)
    exact ⟨rfl, hrest⟩
  · rintro ⟨rfl, rfl⟩
    rfl

theorem forall_mem_mapInContext {P : Char → Prop} {f : Text → Char → Text → Text}
    (h : ∀ c ∈ t, ∀ before after, ∀ d ∈ f before c after, P d) :
    ∀ before, ∀ d ∈ mapInContext f before t, P d := by
  induction t with
  | nil => nofun
  | cons c t ih =>
    intro before d hd
    obtain ⟨hc, ht⟩ := List.forall_mem_cons.1 h
    rcases List.mem_append.1 hd with hd | hd
    · exact hc before t d hd
    · exact ih ht _ d hd

theorem ne_sigma_of_lowerOf (h : lowerOf c = [c]) : c ≠ 'Σ' := by
  rintro rfl
  exact absurd h (by decide)

theorem lowerBetween_sigma (before after : Text) :
    lowerBetween before 'Σ' after = ['ς'] ∨ lowerBetween before 'Σ' after = ['σ'] := by
  rw [lowerBetween, if_pos rfl]
  split_ifs
  · exact .inl rfl
  · exact .inr rfl

theorem lowerBetween_of_ne (h : c ≠ 'Σ') : lowerBetween before c after = lowerOf c := if_neg h

theorem lowerBetween_own (h : lowerOf c = [c]) : lowerBetween before c after = [c] := by
  rw [lowerBetween_of_ne (ne_sigma_of_lowerOf h), h]

/-! ## What stands for a character -/

/-- What stands for a character of a text in lower case: the character itself, or a lower case letter
    for another one. -/
inductive Lowers (c : Char) : Char → Prop
  | own : lowerOf c = [c] → Lowers c c
  | small {d : Char} : lowerOf c ≠ [c] → isDigit c = false → isLowercase d = true →
      (isAlphanumeric c = true → isAlphanumeric d = true) → Lowers c d

namespace Lowers

theorem lowerOf_eq (h : Lowers c d) : lowerOf d = [d] := by
  cases h with
  | own h => exact h
  | small _ _ hd _ => exact lowerOf_of_isLowercase hd

theorem isDigit_eq (h : Lowers c d) : isDigit d = isDigit c := by
  cases h with
  | own => rfl
  | small _ hc hd _ => rw [hc, not_isDigit_of_isLowercase hd]

theorem isAlphanumeric (h : Lowers c d) (hc : isAlphanumeric c = true) :
    isAlphanumeric d = true := by
  cases h with
  | own => exact hc
  | small _ _ _ hd => exact hd hc

end Lowers

theorem exists_lowers (hc : c ≠ 'İ') (before after : Text) :
    ∃ d, lowerBetween before c after = [d] ∧ Lowers c d := by
  by_cases hsigma : c = 'Σ'
  · subst hsigma
    have hmoved : lowerOf 'Σ' ≠ ['Σ'] := by decide
    have hletter : Unicode.isDigit 'Σ' = false := by decide
    rcases lowerBetween_sigma before after with h | h
    · exact ⟨'ς', h, .small hmoved hletter (by decide) fun _ => by decide⟩
    · exact ⟨'σ', h, .small hmoved hletter (by decide) fun _ => by decide⟩
  · rw [lowerBetween_of_ne hsigma]
    rcases lowerOf_cases c with h | rfl | ⟨d, h, hsmall, hdigit, hd⟩
    · exact ⟨c, h, .own h⟩
    · exact absurd rfl hc
    · by_cases hown : lowerOf c = [c]
      · exact ⟨c, hown, .own hown⟩
      · exact ⟨d, h, .small hown hdigit hsmall hd⟩

theorem forall₂_mapInContext (h : 'İ' ∉ t) :
    ∀ before, List.Forall₂ Lowers t (mapInContext lowerBetween before t) := by
  induction t with
  | nil => exact fun _ => .nil
  | cons c t ih =>
    intro before
    obtain ⟨hc, ht⟩ := not_or.1 (mt List.mem_cons.2 h)
    obtain ⟨d, hd, hlowers⟩ := exists_lowers (Ne.symm hc) before t
    rw [mapInContext, hd]
    exact .cons hlowers (ih ht _)

theorem forall₂_lower (h : 'İ' ∉ t) : List.Forall₂ Lowers t (lower t) := forall₂_mapInContext h []

/-- `İ` is written as a letter and the dot above it. -/
theorem lowerBetween_dotted : lowerBetween before 'İ' after = ['i', '\u0307'] := by
  rw [lowerBetween_of_ne (by decide), lowerOf_dotted]

theorem forall_mem_lowerBetween {P : Char → Prop} (hi : P 'i') (hdot : P '\u0307')
    (h : ∀ d, Lowers c d → P d) : ∀ d ∈ lowerBetween before c after, P d := by
  by_cases hc : c = 'İ'
  · subst hc
    rw [lowerBetween_dotted]
    simpa using ⟨hi, hdot⟩
  · obtain ⟨d, hd, hlowers⟩ := exists_lowers hc before after
    rw [hd]
    simpa using h d hlowers

/-! ## Lower casing again -/

theorem lowerOf_of_mem_lower : ∀ d ∈ lower t, lowerOf d = [d] :=
  forall_mem_mapInContext (fun _ _ _ _ => forall_mem_lowerBetween (by decide) (by decide)
    fun _ => Lowers.lowerOf_eq) []

theorem mapInContext_own (h : ∀ c ∈ t, lowerOf c = [c]) :
    ∀ before, mapInContext lowerBetween before t = t := by
  induction t with
  | nil => exact fun _ => rfl
  | cons c t ih =>
    intro before
    obtain ⟨hc, ht⟩ := List.forall_mem_cons.1 h
    rw [mapInContext, lowerBetween_own hc, ih ht]
    rfl

theorem lower_own (h : ∀ c ∈ t, lowerOf c = [c]) : lower t = t := mapInContext_own h []

theorem lower_lower (t : Text) : lower (lower t) = lower t := lower_own lowerOf_of_mem_lower

/-- The words of a text in lower case are in lower case. -/
theorem map_lower_words (h : ∀ c ∈ t, lowerOf c = [c]) : (words t).map lower = words t := by
  refine (List.map_congr_left fun w hw => lower_own fun c hc => ?_).trans (List.map_id _)
  exact h c (mem_of_mem_words hw hc).1

end Textwork.Text
