/-
  Characters of ASCII and their letter case.

  * `forall_ascii`: what holds of 128 characters holds of all of ASCII;
  * `lower_ascii`: in ASCII, lower casing is that of letters one by one;
  * `sameFolded_iff`: where no character beyond ASCII has a part in it, equality
    without letter case is that of lower case forms.
-/
import Textwork.Text.Casing
import Mathlib.Tactic.Common

namespace Textwork

variable {c : Char} {t u : Text}

theorem forall_ascii {P : Char → Prop} (h : ∀ n < 128, P (Char.ofNat n)) (hc : c.toNat < 128) :
    P c := by
  have := h c.toNat hc
  rwa [Char.ofNat_toNat] at this

theorem toNat_lt_of_isAlphanum (hc : c.isAlphanum = true) : c.toNat < 128 := by
  change (decide ('A'.val ≤ c.val ∧ c.val ≤ 'Z'.val) ||
    decide ('a'.val ≤ c.val) && decide (c.val ≤ 'z'.val) ||
    decide ('0'.val ≤ c.val) && decide (c.val ≤ '9'.val)) = true at hc
  simp only [Bool.or_eq_true, Bool.and_eq_true, decide_eq_true_eq, UInt32.le_iff_toNat_le] at hc
  have hZ : 'Z'.val.toNat = 90 := rfl
  have hz : 'z'.val.toNat = 122 := rfl
  have h9 : '9'.val.toNat = 57 := rfl
  change c.val.toNat < 128
  omega

theorem isAlphanum_ascii {P : Char → Prop}
    (h : ∀ n < 128, (Char.ofNat n).isAlphanum = true → P (Char.ofNat n))
    (hc : c.isAlphanum = true) : P c :=
  forall_ascii (P := fun c => c.isAlphanum = true → P c) h (toNat_lt_of_isAlphanum hc) hc

theorem isAlphanum_of_isAlpha (hc : c.isAlpha = true) : c.isAlphanum = true :=
  Bool.or_eq_true_iff.2 (.inl hc)

theorem isAlpha_of_isUpper (h : c.isUpper = true) : c.isAlpha = true :=
  Bool.or_eq_true_iff.2 (.inl h)

theorem toLower_of_not_isUpper (h : c.isUpper ≠ true) : c.toLower = c :=
  dif_neg fun hc => h (decide_eq_true hc)

theorem toNat_lt_of_toLower (h : c.toLower.toNat < 128) : c.toNat < 128 := by
  by_cases hu : c.isUpper = true
  · exact toNat_lt_of_isAlphanum (isAlphanum_of_isAlpha (isAlpha_of_isUpper hu))
  · rwa [toLower_of_not_isUpper hu] at h

/-! ## Lower case -/

theorem lowerOf_ascii (hc : c.toNat < 128) : Unicode.lowerOf c = [c.toLower] :=
  forall_ascii (P := fun c => Unicode.lowerOf c = [c.toLower]) (by decide) hc

namespace Text

theorem lowerBetween_ascii (hc : c.toNat < 128) (before after : Text) :
    lowerBetween before c after = [c.toLower] := by
  have hne : c ≠ 'Σ' := by
    rintro rfl
    exact absurd hc (by decide)
  rw [lowerBetween, if_neg hne, lowerOf_ascii hc]

/-- Characters of ASCII are in lower case whatever stands around them. -/
theorem mapInContext_ascii (hu : ∀ c ∈ u, c.toNat < 128) (rest : Text) :
    ∀ before, mapInContext lowerBetween before (u ++ rest) =
      u.asciiLower ++ mapInContext lowerBetween (u.reverse ++ before) rest := by
  induction u with
  | nil => exact fun _ => rfl
  | cons c u ih =>
    intro before
    obtain ⟨hc, hu⟩ := List.forall_mem_cons.1 hu
    rw [List.cons_append, mapInContext, lowerBetween_ascii hc, ih hu]
    simp [asciiLower]

theorem lower_ascii (hu : ∀ c ∈ u, c.toNat < 128) : u.lower = u.asciiLower := by
  have h := mapInContext_ascii hu [] []
  rw [List.append_nil] at h
  rw [lower, h, mapInContext, List.append_nil]

end Text

/-! ## Equality without letter case -/

namespace Unicode

theorem Shifts.mem_preimages_of_image? {shifts : Shifts} {m n : Nat}
    (h : shifts.image? n = some m) : n ∈ shifts.preimages m := by
  induction shifts with
  | nil => cases h
  | cons row rest ih =>
    obtain ⟨first, last, step, image⟩ := row
    rw [Shifts.image?] at h
    rw [Shifts.preimages]
    split_ifs at h with hlt hin
    · obtain rfl := Option.some.inj h
      simp only [Bool.and_eq_true, decide_eq_true_eq, beq_iff_eq] at hin
      have hrow : (image ≤ image + (n - first) && image + (n - first) - image ≤ last - first &&
          (image + (n - first) - image) % step == 0) = true := by
        simp only [Nat.add_sub_cancel_left, hin.2, Bool.and_eq_true, decide_eq_true_eq,
          beq_self_eq_true, and_true]
        omega
      rw [if_pos hrow, Nat.add_sub_cancel_left, Nat.add_sub_cancel' (Nat.le_of_not_lt hlt)]
      exact List.mem_cons_self
    · split_ifs
      · exact List.mem_cons_of_mem _ (ih h)
      · exact ih h

theorem Expansions.mem_of_image? {expansions : Expansions} {n : Nat} {ns : List Nat}
    (h : expansions.image? n = some ns) : (n, ns) ∈ expansions := by
  induction expansions with
  | nil => cases h
  | cons row rest ih =>
    obtain ⟨point, image⟩ := row
    rw [Expansions.image?] at h
    split_ifs at h with hlt heq
    · obtain rfl := Option.some.inj h
      rw [heq]
      exact List.mem_cons_self
    · exact List.mem_cons_of_mem _ (ih h)

/-- A character of ASCII, in lower case if it is a letter, that no character beyond ASCII equals
    when case is ignored. -/
def FoldsInAscii (c : Char) : Prop :=
  0 < c.toNat ∧ c.toNat < 128 ∧ c.toLower = c ∧ (∀ o ∈ caseOrbits, c ∉ o.map Char.ofNat) ∧
    (∀ n ∈ lowerShifts.preimages c.toNat, n < 128) ∧
      ∀ row ∈ lowerExpansions, (row.2.map Char.ofNat).head? ≠ some c

instance (c : Char) : Decidable (FoldsInAscii c) :=
  inferInstanceAs (Decidable (0 < c.toNat ∧ c.toNat < 128 ∧ c.toLower = c ∧
    (∀ o ∈ caseOrbits, c ∉ o.map Char.ofNat) ∧ (∀ n ∈ lowerShifts.preimages c.toNat, n < 128) ∧
      ∀ row ∈ lowerExpansions, (row.2.map Char.ofNat).head? ≠ some c))

theorem eq_toNat_of_ofNat {n : Nat} (h : Char.ofNat n = c) (hc : 0 < c.toNat) : n = c.toNat := by
  subst h
  by_cases hn : n.isValidChar
  · rw [Char.ofNat, dif_pos hn]
    rfl
  · rw [Char.ofNat, dif_neg hn] at hc
    exact absurd hc (by decide)

theorem simpleLower_ascii (hc : c.toNat < 128) : simpleLower c = c.toLower := by
  rw [simpleLower, lowerOf_ascii hc, List.headD_cons]

namespace FoldsInAscii

variable {a : Char}

/-- Only characters of ASCII have such a lower case form. -/
theorem toNat_lt (hc : FoldsInAscii c) (h : simpleLower a = c) : a.toNat < 128 := by
  obtain ⟨hpos, hlt, -, -, hshifts, hexpansions⟩ := hc
  rw [simpleLower, lowerOf, mapCase] at h
  split at h
  · next n hn =>
    obtain rfl := eq_toNat_of_ofNat h hpos
    exact hshifts _ (Shifts.mem_preimages_of_image? hn)
  · split at h
    · next ns hns =>
      have hhead := hexpansions _ (Expansions.mem_of_image? hns)
      cases ns with
      | nil => rwa [← (h : a = c)] at hlt
      | cons n ns => exact absurd (congrArg some h) hhead
    · rwa [← (h : a = c)] at hlt

theorem simpleLower_eq_iff (hc : FoldsInAscii c) : simpleLower a = c ↔ a.toLower = c := by
  constructor
  · intro h
    rw [← simpleLower_ascii (hc.toNat_lt h), h]
  · intro h
    rw [simpleLower_ascii (toNat_lt_of_toLower (h ▸ hc.2.1)), h]

theorem sameFolded_iff (hc : FoldsInAscii c) : sameFolded a c = true ↔ a.toLower = c := by
  have hself : simpleLower c = c := hc.simpleLower_eq_iff.2 hc.2.2.1
  rw [← hc.simpleLower_eq_iff, sameFolded, hself, foldClass, List.elem_iff, List.mem_cons]
  refine ⟨fun h => h.elim Eq.symm fun hmem => absurd hmem ?_, fun h => .inl h.symm⟩
  rw [caseOrbit]
  cases ho : caseOrbits.find? (·.elem (simpleLower a).toNat) with
  | none => exact List.not_mem_nil
  | some o => exact hc.2.2.2.1 o (List.mem_of_find?_eq_some ho)

end FoldsInAscii

end Unicode

end Textwork
