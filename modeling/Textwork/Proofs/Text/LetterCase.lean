/-
  Texts in letters of one case.

  * `mapInContext_eq_self_iff`: a text is left as it is exactly if each of its characters is;
  * `LacksLowerForm`, `LacksUpperForm`: the characters that a mapping to a case leaves as they are
    although they are not in that case;
  * `letterCase_tests`: which texts pass as lower case, as upper case, and as both.
-/
import Textwork.Catalogue.Listing
import Textwork.Proofs.Text.LowerCase
import Textwork.Proofs.Text.TitleCase

namespace Textwork.Text

open Unicode

variable {c : Char} {t before after : Text}

/-! ## Texts that are left as they are -/

section
variable {f : Text → Char → Text → Text} {P : Char → Prop}

theorem length_le_mapInContext (hne : ∀ before c after, f before c after ≠ []) (t : Text) :
    ∀ before, t.length ≤ (mapInContext f before t).length := by
  induction t with
  | nil => exact fun _ => Nat.le_refl 0
  | cons c t ih =>
    intro before
    have hpiece := List.length_pos_iff.2 (hne before c t)
    have hrest := ih (c :: before)
    rw [mapInContext, List.length_append, List.length_cons]
    omega

/-- No piece can make up for a longer one, since none is empty. -/
theorem mapInContext_eq_self_iff (hne : ∀ before c after, f before c after ≠ [])
    (hself : ∀ before c after, f before c after = [c] ↔ P c) :
    ∀ before, mapInContext f before t = t ↔ ∀ c ∈ t, P c := by
  induction t with
  | nil => exact fun _ => iff_of_true rfl nofun
  | cons c t ih =>
    intro before
    rw [mapInContext, List.forall_mem_cons, ← hself before c t, ← ih (c :: before)]
    exact append_eq_cons_iff_of_length_le (hne before c t) (length_le_mapInContext hne t _)

end

theorem lowerBetween_ne_nil (before : Text) (c : Char) (after : Text) :
    lowerBetween before c after ≠ [] := by
  by_cases hc : c = 'Σ'
  · subst hc
    rcases lowerBetween_sigma before after with h | h <;> simp [h]
  · rw [lowerBetween_of_ne hc]
    exact mapCase_ne_nil (by decide) _ c

theorem lowerBetween_eq_singleton_iff (before : Text) (c : Char) (after : Text) :
    lowerBetween before c after = [c] ↔ lowerOf c = [c] := by
  refine ⟨fun h => ?_, lowerBetween_own⟩
  by_cases hc : c = 'Σ'
  · subst hc
    rcases lowerBetween_sigma before after with h' | h' <;> cases h.symm.trans h'
  · rwa [lowerBetween_of_ne hc] at h

theorem lower_eq_self_iff : lower t = t ↔ ∀ c ∈ t, lowerOf c = [c] :=
  mapInContext_eq_self_iff lowerBetween_ne_nil lowerBetween_eq_singleton_iff []

theorem upper_eq_mapInContext (t : Text) :
    ∀ before, upper t = mapInContext (fun _ c _ => upperOf c) before t := by
  induction t with
  | nil => exact fun _ => rfl
  | cons c t ih => exact fun before => congrArg (upperOf c ++ ·) (ih (c :: before))

theorem upper_eq_self_iff : upper t = t ↔ ∀ c ∈ t, upperOf c = [c] := by
  rw [upper_eq_mapInContext t []]
  exact mapInContext_eq_self_iff (fun _ c _ => mapCase_ne_nil (by decide) _ c)
    (fun _ _ _ => Iff.rfl) []

/-! ## Letters without a form of their own -/

/-- Not in lower case, and without a lower case form of its own: a letter in upper case that has none,
    or a character without case. -/
def LacksLowerForm (c : Char) : Prop := isLowercase c = false ∧ lowerOf c = [c]

/-- Not in upper case, and without an upper case form of its own: a letter in lower case that has
    none, or a character without case. -/
def LacksUpperForm (c : Char) : Prop := isUppercase c = false ∧ upperOf c = [c]

/-- What mapping to a case leaves as it is, if it leaves what is in that case. -/
theorem form_eq_singleton_iff {inCase : Char → Bool} {form : Char → Text}
    (h : inCase c = true → form c = [c]) :
    form c = [c] ↔ inCase c = true ∨ (inCase c = false ∧ form c = [c]) := by
  cases hc : inCase c with
  | true => exact iff_of_true (h hc) (.inl rfl)
  | false => simp

theorem isAlphabetic_and_eq_iff {P : Char → Prop} {form : Text}
    (h : form = t ↔ ∀ c ∈ t, P c) :
    (t.isAlphabetic && t == form) = true ↔ t ≠ [] ∧ ∀ c ∈ t, isLetter c = true ∧ P c := by
  have hletters : t.isAlphabetic = true ↔ t ≠ [] ∧ ∀ c ∈ t, isLetter c = true := by
    simp [isAlphabetic]
  rw [Bool.and_eq_true, beq_iff_eq, hletters, eq_comm, h, and_assoc, ← forall₂_and]

theorem isLower_iff :
    isLower t = true ↔
      t ≠ [] ∧ ∀ c ∈ t, isLetter c = true ∧ (isLowercase c = true ∨ LacksLowerForm c) :=
  isAlphabetic_and_eq_iff <| lower_eq_self_iff.trans <|
    forall₂_congr fun _ _ => form_eq_singleton_iff lowerOf_of_isLowercase

theorem isUpper_iff :
    isUpper t = true ↔
      t ≠ [] ∧ ∀ c ∈ t, isLetter c = true ∧ (isUppercase c = true ∨ LacksUpperForm c) :=
  isAlphabetic_and_eq_iff <| upper_eq_self_iff.trans <|
    forall₂_congr fun _ _ => form_eq_singleton_iff upperOf_of_isUppercase

/-- A character that passes for lower case and for upper case lacks at least one of the forms. -/
theorem passes_both_iff :
    ((isLowercase c = true ∨ LacksLowerForm c) ∧ (isUppercase c = true ∨ LacksUpperForm c)) ↔
      ((isLowercase c = true ∧ LacksUpperForm c) ∨ (isUppercase c = true ∧ LacksLowerForm c) ∨
        (LacksLowerForm c ∧ LacksUpperForm c)) := by
  have hone : ¬(isLowercase c = true ∧ isUppercase c = true) := fun ⟨hlow, hup⟩ =>
    Bool.false_ne_true ((not_isUppercase_of_isLowercase hlow).symm.trans hup)
  tauto

theorem isLower_and_isUpper_iff :
    (isLower t = true ∧ isUpper t = true) ↔
      t ≠ [] ∧ ∀ c ∈ t, isLetter c = true ∧
        ((isLowercase c = true ∧ LacksUpperForm c) ∨ (isUppercase c = true ∧ LacksLowerForm c) ∨
          (LacksLowerForm c ∧ LacksUpperForm c)) := by
  rw [isLower_iff, isUpper_iff, ← and_and_left, ← forall₂_and]
  simp only [← and_and_left, passes_both_iff]

end Textwork.Text

namespace Textwork.Catalogue

open Unicode Text

/-- **The tests for a case ask for letters that mapping to the case leaves as they are.**  These are
    the letters in that case and those that lack a form in it; so both tests hold of a text whose
    letters each lack one of the forms. -/
theorem letterCase_tests (t : Text) :
    ∃ low up : Bool,
      (call "is_lower_case".toList [.text t] []).result = .ok (.bool low) ∧
      (call "is_upper_case".toList [.text t] []).result = .ok (.bool up) ∧
      (low = true ↔
        t ≠ [] ∧ ∀ c ∈ t, isLetter c = true ∧ (isLowercase c = true ∨ LacksLowerForm c)) ∧
      (up = true ↔
        t ≠ [] ∧ ∀ c ∈ t, isLetter c = true ∧ (isUppercase c = true ∨ LacksUpperForm c)) ∧
      ((low = true ∧ up = true) ↔
        t ≠ [] ∧ ∀ c ∈ t, isLetter c = true ∧
          ((isLowercase c = true ∧ LacksUpperForm c) ∨ (isUppercase c = true ∧ LacksLowerForm c) ∨
            (LacksLowerForm c ∧ LacksUpperForm c))) :=
  ⟨_, _, rfl, rfl, isLower_iff, isUpper_iff, isLower_and_isUpper_iff⟩

/-- The double-struck capital is in upper case, and passes as lower case too. -/
theorem doubleStruck_tests :
    (call "is_lower_case".toList [.text "ℂ".toList] []).result = .ok (.bool true) ∧
      (call "is_upper_case".toList [.text "ℂ".toList] []).result = .ok (.bool true) ∧
      isUppercase 'ℂ' = true ∧ isLowercase 'ℂ' = false := by
  have hlow : isLower "ℂ".toList = true := by decide +kernel
  have hup : isUpper "ℂ".toList = true := by decide +kernel
  exact ⟨congrArg (fun b => Except.ok (Value.bool b)) hlow,
    congrArg (fun b => Except.ok (Value.bool b)) hup, by decide +kernel, by decide +kernel⟩

end Textwork.Catalogue
