/-
  The occurrences of a text in another one, from left to right.

  * `IsFirst` says that an occurrence has none to its left; `cut?_eq_some_iff`,
    `cut?_eq_none_iff`: this is the one that `cut?` cuts out, if there is one;
  * `Splits` says what the stretches of text between occurrences are, each
    occurrence the first one behind the one before; `splits_pieces`,
    `Splits.replaceAll_eq_join`, `Splits.length_eq`: splitting gives them, replacing
    joins them, and counting counts what stands between them;
  * `split_sameOccurrences`: splitting, replacing, counting and searching go by
    the same occurrences.
-/
import Mathlib.Data.List.Infix
import Textwork.Catalogue.Matching
import Textwork.Catalogue.Positions

namespace Textwork.Text

variable {w t before after : Text} {parts : List Text}

/-! ## The first occurrence -/

/-- The text `w` stands between `before` and `after` in `t`, and nowhere further to the left. -/
structure IsFirst (w t before after : Text) : Prop where
  eq_append : t = before ++ w ++ after
  length_le : ∀ b a, t = b ++ w ++ a → before.length ≤ b.length

namespace IsFirst

theorem of_append (w after : Text) : IsFirst w (w ++ after) [] after :=
  ⟨rfl, fun _ _ _ => Nat.zero_le _⟩

/-- A character more in front makes no difference, if nothing begins with it. -/
theorem cons {c : Char} (hc : ¬w <+: c :: t) (h : IsFirst w t before after) :
    IsFirst w (c :: t) (c :: before) after := by
  refine ⟨by rw [h.eq_append]; rfl, fun b a hba => ?_⟩
  cases b with
  | nil => exact absurd ⟨a, hba.symm⟩ hc
  | cons d b =>
    obtain ⟨rfl, ht⟩ := List.cons_eq_cons.1 hba
    exact Nat.succ_le_succ (h.length_le b a ht)

theorem unique {before' after' : Text} (h : IsFirst w t before after)
    (h' : IsFirst w t before' after') : before = before' ∧ after = after' := by
  have hlength : before.length = before'.length :=
    Nat.le_antisymm (h.length_le _ _ h'.eq_append) (h'.length_le _ _ h.eq_append)
  have heq := h.eq_append.symm.trans h'.eq_append
  obtain ⟨hleft, hafter⟩ := List.append_inj heq (by simp [hlength])
  exact ⟨List.append_cancel_right hleft, hafter⟩

/-- Nothing occurs before the first occurrence. -/
theorem not_infix (h : IsFirst w t before after) (hw : w ≠ []) : ¬w <:+: before := by
  rintro ⟨b, a, hba⟩
  have hle := h.length_le b (a ++ w ++ after) (by simp [h.eq_append, ← hba])
  have hlength := congrArg List.length hba
  have hpos := List.length_pos_iff.2 hw
  simp only [List.length_append] at hlength
  omega

theorem take_eq (h : IsFirst w t before after) : t.take before.length = before := by
  rw [h.eq_append, List.append_assoc, List.take_left]

theorem drop_eq (h : IsFirst w t before after) : t.drop (before.length + w.length) = after := by
  rw [h.eq_append, ← List.length_append, List.drop_left]

end IsFirst

theorem cut?_eq_none_iff : cut? w t = none ↔ ¬w <:+: t := by
  induction t with
  | nil => cases w <;> simp [cut?]
  | cons c t ih =>
    rw [cut?, List.infix_cons_iff, ← List.isPrefixOf_iff_prefix]
    split_ifs with hc
    · simp [hc]
    · simp [hc, ih]

theorem isFirst_of_cut? (h : cut? w t = some (before, after)) : IsFirst w t before after := by
  induction t generalizing before after with
  | nil =>
    obtain ⟨rfl, rfl, rfl⟩ : w = [] ∧ [] = before ∧ [] = after := by simpa [cut?] using h
    exact .of_append [] []
  | cons c t ih =>
    rw [cut?] at h
    split_ifs at h with hc
    · obtain ⟨rfl, rfl⟩ := Prod.mk.inj (Option.some.inj h)
      have hsplit := List.prefix_iff_eq_append.1 (List.isPrefixOf_iff_prefix.1 hc)
      have hfirst := IsFirst.of_append w ((c :: t).drop w.length)
      rwa [hsplit] at hfirst
    · obtain ⟨⟨b, a⟩, hcut, heq⟩ := Option.map_eq_some_iff.1 h
      obtain ⟨rfl, rfl⟩ := Prod.mk.inj heq
      exact (ih hcut).cons fun hbegins => hc (List.isPrefixOf_iff_prefix.2 hbegins)

/-- **A text is cut at the first occurrence.** -/
theorem cut?_eq_some_iff : cut? w t = some (before, after) ↔ IsFirst w t before after := by
  refine ⟨isFirst_of_cut?, fun h => ?_⟩
  have hinfix : w <:+: t := ⟨before, after, h.eq_append.symm⟩
  cases hcut : cut? w t with
  | none => exact absurd hinfix (cut?_eq_none_iff.1 hcut)
  | some p =>
    obtain ⟨rfl, rfl⟩ := (isFirst_of_cut? hcut).unique h
    rfl

/-! ## The stretches between occurrences -/

/-- The stretches of text around the occurrences of `w`, from left to right: behind the first
    occurrence they go on in the text that is left. -/
inductive Splits (w : Text) : Text → List Text → Prop
  | whole {t : Text} : ¬w <:+: t → Splits w t [t]
  | cut {t before after : Text} {parts : List Text} : IsFirst w t before after →
      Splits w after parts → Splits w t (before :: parts)

theorem pieces_eq (hw : w ≠ []) (t : Text) :
    pieces w t = match cut? w t with
      | none => [t]
      | some (before, after) => before :: pieces w after := by
  rw [pieces, dif_neg hw]
  split <;> next h => simp [h]

theorem occurrences_eq (hw : w ≠ []) (t : Text) :
    occurrences w t = match cut? w t with
      | none => 0
      | some (_, after) => occurrences w after + 1 := by
  rw [occurrences, dif_neg hw]
  split <;> next h => simp [h]

theorem replaceAll_eq (hw : w ≠ []) (r t : Text) :
    replaceAll w r t = match cut? w t with
      | none => t
      | some (before, after) => before ++ r ++ replaceAll w r after := by
  rw [replaceAll, dif_neg hw]
  split <;> next h => simp [h]

theorem splits_pieces (hw : w ≠ []) (t : Text) : Splits w t (pieces w t) := by
  induction t using pieces.induct w with
  | case1 t h => exact absurd h hw
  | case2 t _ h =>
    rw [pieces_eq hw, h]
    exact .whole (cut?_eq_none_iff.1 h)
  | case3 t _ before after h _ ih =>
    rw [pieces_eq hw, h]
    exact .cut (isFirst_of_cut? h) ih

namespace Splits

theorem ne_nil (h : Splits w t parts) : parts ≠ [] := by
  cases h <;> simp

/-- No stretch holds an occurrence. -/
theorem not_infix (h : Splits w t parts) (hw : w ≠ []) : ∀ p ∈ parts, ¬w <:+: p := by
  induction h with
  | whole ht => simpa using ht
  | cut hfirst _ ih => exact List.forall_mem_cons.2 ⟨hfirst.not_infix hw, ih⟩

/-- There is one stretch more than occurrences. -/
theorem length_eq (h : Splits w t parts) (hw : w ≠ []) : parts.length = occurrences w t + 1 := by
  induction h with
  | whole ht => rw [occurrences_eq hw, cut?_eq_none_iff.2 ht]; rfl
  | cut hfirst _ ih => rw [occurrences_eq hw, cut?_eq_some_iff.2 hfirst, List.length_cons, ih]

/-- Replacing puts the replacement between the stretches. -/
theorem replaceAll_eq_join (h : Splits w t parts) (hw : w ≠ []) (r : Text) :
    replaceAll w r t = join r parts := by
  induction h with
  | whole ht => rw [replaceAll_eq hw, cut?_eq_none_iff.2 ht]; rfl
  | cut hfirst hsplits ih =>
    obtain ⟨p, ps, rfl⟩ := List.exists_cons_of_ne_nil hsplits.ne_nil
    rw [replaceAll_eq hw, cut?_eq_some_iff.2 hfirst, join, ← ih]
    simp

/-- With the text itself between them the stretches make up the whole. -/
theorem join_eq (h : Splits w t parts) : join w parts = t := by
  induction h with
  | whole ht => rfl
  | cut hfirst hsplits ih =>
    obtain ⟨p, ps, rfl⟩ := List.exists_cons_of_ne_nil hsplits.ne_nil
    rw [join, ih, hfirst.eq_append]
    simp

end Splits

theorem length_join_add (r : Text) (hparts : parts ≠ []) :
    (join r parts).length + r.length = parts.flatten.length + parts.length * r.length := by
  induction parts with
  | nil => exact absurd rfl hparts
  | cons p ps ih =>
    cases ps with
    | nil => simp [join]
    | cons q ps =>
      have hps := ih (List.cons_ne_nil q ps)
      have hjoin : join r (p :: q :: ps) = p ++ r ++ join r (q :: ps) := rfl
      rw [hjoin, List.length_append, List.length_append, List.flatten_cons, List.length_append,
        List.length_cons, Nat.succ_mul]
      omega

/-- Each replacement adds its own length and takes away that of what it replaces. -/
theorem Splits.length_join (h : Splits w t parts) (hw : w ≠ []) (r : Text) :
    ((join r parts).length : Int) =
      t.length + occurrences w t * ((r.length : Int) - w.length) := by
  have hr := length_join_add r h.ne_nil
  have ht := length_join_add w h.ne_nil
  rw [h.join_eq] at ht
  rw [h.length_eq hw, Nat.succ_mul] at hr ht
  rw [Int.mul_sub]
  omega

/-- The position of the first occurrence, and the text around it. -/
theorem indexOf_zero (t w : Text) :
    (t.indexOf w 0 = -1 ∧ ¬w <:+: t) ∨
      ∃ before after, t.indexOf w 0 = before.length ∧ IsFirst w t before after := by
  have hindex : t.indexOf w 0 = orMinusOne (find? w t) := by simp [indexOf]
  rw [hindex, find?]
  cases hcut : cut? w t with
  | none => exact .inl ⟨rfl, cut?_eq_none_iff.1 hcut⟩
  | some p => exact .inr ⟨p.1, p.2, rfl, isFirst_of_cut? hcut⟩

end Textwork.Text

namespace Textwork.Catalogue

open Text (Splits IsFirst)

variable {w : Text}

/-- **Splitting, replacing, counting and searching go by the same occurrences**: those from left to
    right, each the first one behind the one before. -/
theorem split_sameOccurrences (hw : w ≠ []) (t : Text) :
    ∃ (parts : List Text) (n : Nat) (i : Int),
      split (.text t) (.text w) .nothing = .ok (.ofTexts parts) ∧
      countSubstrings (.text t) (.text w) = .ok (.int n) ∧
      indexOf (.text t) (.text w) (.int 0) = .ok (.int i) ∧
      Splits w t parts ∧ parts.length = n + 1 ∧ (∀ p ∈ parts, ¬w <:+: p) ∧
      ((i = -1 ∧ ¬w <:+: t) ∨ ∃ before after, i = before.length ∧ IsFirst w t before after) ∧
      ∀ r : Text,
        replaced false (.text t) (.text w) (.text r) = .ok (.text (Text.join r parts)) ∧
        ((Text.join r parts).length : Int) = t.length + n * ((r.length : Int) - w.length) ∧
        replaced true (.text t) (.text w) (.text r) = .ok (.text
          (if i = -1 then t else t.take i.toNat ++ r ++ t.drop (i.toNat + w.length))) := by
  have hsplits := Text.splits_pieces hw t
  have hindex := Text.indexOf_zero t w
  obtain ⟨c, u, rfl⟩ := List.exists_cons_of_ne_nil hw
  refine ⟨Text.pieces (c :: u) t, Text.occurrences (c :: u) t, t.indexOf (c :: u) 0, rfl, rfl, rfl,
    hsplits, hsplits.length_eq hw, hsplits.not_infix hw, hindex,
    fun r => ⟨?_, hsplits.length_join hw r, ?_⟩⟩
  · rw [← hsplits.replaceAll_eq_join hw]
    rfl
  · change Except.ok (Value.text (Text.replaceFirst (c :: u) r t)) = _
    rw [Text.replaceFirst]
    obtain ⟨hi, hnot⟩ | ⟨before, after, hi, hfirst⟩ := hindex
    · rw [if_pos hi, Text.cut?_eq_none_iff.2 hnot]
    · have hne : t.indexOf (c :: u) 0 ≠ -1 := by omega
      rw [if_neg hne, hi, Int.toNat_natCast, hfirst.take_eq, hfirst.drop_eq,
        Text.cut?_eq_some_iff.2 hfirst]

/-- Two occurrences that overlap: the first one counts. -/
theorem split_sameOccurrences_overlap :
    "ana".toList ≠ [] ∧ Splits "ana".toList "bananas".toList ["b".toList, "nas".toList] ∧
      replaced false (.text "bananas".toList) (.text "ana".toList) (.text "ananas".toList) =
        .ok (.text "bananasnas".toList) := by
  have hw : "ana".toList ≠ [] := by decide
  obtain ⟨parts, n, i, hsplit, -, -, hsplits, -, -, -, hr⟩ :=
    split_sameOccurrences hw "bananas".toList
  have hrun : split (.text "bananas".toList) (.text "ana".toList) .nothing =
      .ok (.ofTexts ["b".toList, "nas".toList]) := by
    cbv
  have hparts : parts = ["b".toList, "nas".toList] := by
    have hmap := Value.list.inj (Except.ok.inj (hsplit.symm.trans hrun))
    exact List.map_injective_iff.2 (fun _ _ => Value.text.inj) hmap
  subst hparts
  exact ⟨hw, hsplits, (hr "ananas".toList).1⟩

end Textwork.Catalogue
