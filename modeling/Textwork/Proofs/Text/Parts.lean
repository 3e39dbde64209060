/-
  A text in parts: where a part begins, and which positions one part holds.
  Positions are those of the parts one after the other.
-/
import Mathlib.Data.List.SplitBy
import Mathlib.Tactic.Common
import Textwork.Text.Basic

namespace Textwork.Text

variable {parts : List Text} {part : Text} {i j : Nat}

/-- A part begins at position `i`. -/
def StartsAt (parts : List Text) (i : Nat) : Prop :=
  ∃ before part after, parts = before ++ part :: after ∧ before.flatten.length = i

/-- One part holds the positions from `i` to `j`. -/
def InOne (parts : List Text) (i j : Nat) : Prop :=
  ∃ before part after, parts = before ++ part :: after ∧ before.flatten.length ≤ i ∧
    j < before.flatten.length + part.length

/-- The first part holds the positions, or they lie behind it. -/
theorem inOne_cons (hij : i ≤ j) :
    InOne (part :: parts) i j ↔
      j < part.length ∨ part.length ≤ i ∧ InOne parts (i - part.length) (j - part.length) := by
  constructor
  · rintro ⟨before, p, after, h, hi, hj⟩
    cases before with
    | nil =>
      obtain ⟨rfl, rfl⟩ := List.cons_eq_cons.1 h
      exact .inl (by simpa using hj)
    | cons b before =>
      obtain ⟨rfl, rfl⟩ := List.cons_eq_cons.1 h
      rw [List.flatten_cons, List.length_append] at hi hj
      exact .inr ⟨by omega, before, p, after, rfl, by omega, by omega⟩
  · rintro (hj | ⟨hi, before, p, after, rfl, hi', hj⟩)
    · exact ⟨[], part, parts, rfl, Nat.zero_le i, by simpa using hj⟩
    · refine ⟨part :: before, p, after, rfl, ?_, ?_⟩ <;>
        rw [List.flatten_cons, List.length_append] <;> omega

/-- A position later in the first part. -/
theorem inOne_cons_cons {c : Char} (hij : i ≤ j) :
    InOne ((c :: part) :: parts) (i + 1) (j + 1) ↔ InOne (part :: parts) i j := by
  simp [inOne_cons, hij]

/-- No part holds a position before its beginning. -/
theorem StartsAt.not_inOne (h : StartsAt parts j) (hij : i < j) : ¬InOne parts i j := by
  obtain ⟨before, part, after, rfl, rfl⟩ := h
  induction before generalizing i with
  | nil => simp at hij
  | cons b before ih =>
    rw [List.flatten_cons, List.length_append] at hij ⊢
    rw [List.cons_append, inOne_cons (Nat.le_of_lt hij), Nat.add_sub_cancel_left]
    rintro (hj | ⟨hi, hin⟩)
    · omega
    · exact ih (by omega) hin

/-! ## Parts between neighbours that are not related -/

theorem exists_neighbours {t : Text} {a b : Char} (ha : t[i]? = some a) (hb : t[i + 1]? = some b) :
    ∃ u v, t = (u ++ [a]) ++ b :: v ∧ u.length = i := by
  obtain ⟨hi, rfl⟩ := List.getElem?_eq_some_iff.1 ha
  obtain ⟨hi', rfl⟩ := List.getElem?_eq_some_iff.1 hb
  refine ⟨t.take i, t.drop (i + 2), ?_, by simp; omega⟩
  calc t = t.take i ++ t.drop i := (List.take_append_drop i t).symm
    _ = _ := by rw [List.drop_eq_getElem_cons hi, List.drop_eq_getElem_cons hi']; simp

/-- A part begins between two neighbours exactly if they are not related. -/
theorem startsAt_splitBy {r : Char → Char → Bool} {t : Text} {a b : Char} (ha : t[i]? = some a)
    (hb : t[i + 1]? = some b) : StartsAt (t.splitBy r) (i + 1) ↔ r a b = false := by
  obtain ⟨u, v, rfl, rfl⟩ := exists_neighbours ha hb
  constructor
  · rintro ⟨before, part, after, hparts, hlen⟩
    have hchain := List.isChain_getLast_head_splitBy r ((u ++ [a]) ++ b :: v)
    have hflat := List.flatten_splitBy r ((u ++ [a]) ++ b :: v)
    rw [hparts] at hchain hflat
    rw [List.flatten_append, List.flatten_cons] at hflat
    obtain ⟨hu, hv⟩ := List.append_inj hflat (by simpa using hlen)
    -- The part before ends with `a`, the part that begins here with `b`.
    obtain ⟨init, last, rfl⟩ : ∃ init last, before = init ++ [last] := by
      rcases List.eq_nil_or_concat' before with rfl | h
      · simp at hu
      · exact h
    obtain ⟨hlast, hpart, hr⟩ : ∃ ha hb, r (last.getLast ha) (part.head hb) = false :=
      (List.isChain_append.1 hchain).2.2 last (by simp) part (by simp)
    have hend : last.getLast? = some a := by
      have := congrArg List.getLast? hu
      simpa [List.getLast?_append, hlast] using this
    have hbegin : part.head? = some b := by
      have := congrArg List.head? hv
      rwa [List.head?_append_of_ne_nil _ hpart] at this
    rwa [List.getLast_of_getLast?_eq_some hend, List.head_of_head?_eq_some hbegin] at hr
  · intro hr
    have hsplit := List.splitBy_append_cons (r := r) v (l := u ++ [a]) (a := b) (by simpa using hr)
    obtain ⟨part, after, hafter⟩ := List.exists_cons_of_ne_nil
      (List.splitBy_ne_nil.2 (List.cons_ne_nil b v) : (b :: v).splitBy r ≠ [])
    exact ⟨(u ++ [a]).splitBy r, part, after, by rw [hsplit, hafter], by simp⟩

end Textwork.Text
