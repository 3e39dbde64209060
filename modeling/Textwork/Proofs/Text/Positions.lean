/-
  The positions at which a text occurs in another one.

  * `OccursAt` says where; `occursAt_drop`, `occursAt_take`, `occursAt_reverse`: where
    it does so in what is left of a text, in its beginning, and backwards;
  * `isLeast_of_find?`, `isGreatest_of_findLast?`: the first and the last of them
    are found;
  * `search_bounds`: a search from a position on gives the least one there, a
    search up to a position the greatest, and each is the other one backwards.
-/
import Mathlib.Order.Bounds.Basic
import Textwork.Catalogue.Listing
import Textwork.Proofs.Text.Occurrences

namespace Textwork.Text

variable {w t : Text} {c : Char} {i k n : Nat} {s : Set Nat}

/-! ## Positions of occurrences -/

/-- The text `w` stands in `t` behind the first `n` characters. -/
def OccursAt (w t : Text) (n : Nat) : Prop :=
  ∃ before after, t = before ++ w ++ after ∧ before.length = n

theorem OccursAt.add_length_le (h : OccursAt w t n) : n + w.length ≤ t.length := by
  obtain ⟨before, after, rfl, rfl⟩ := h
  simp

theorem occursAt_zero : OccursAt w t 0 ↔ w <+: t := by
  constructor
  · rintro ⟨before, after, rfl, hlength⟩
    obtain rfl := List.length_eq_zero_iff.1 hlength
    exact ⟨after, rfl⟩
  · rintro ⟨after, rfl⟩
    exact ⟨[], after, rfl, rfl⟩

theorem occursAt_append (u : Text) : OccursAt w (u ++ t) (n + u.length) ↔ OccursAt w t n := by
  constructor
  · rintro ⟨before, after, h, hlength⟩
    have hu : u <+: before ++ (w ++ after) := ⟨t, by rw [h, List.append_assoc]⟩
    obtain ⟨b, rfl⟩ := List.prefix_of_prefix_length_le hu (List.prefix_append _ _) (by omega)
    rw [List.length_append] at hlength
    refine ⟨b, after, ?_, by omega⟩
    simpa only [List.append_assoc, List.append_cancel_left_eq] using h
  · rintro ⟨before, after, rfl, rfl⟩
    exact ⟨u ++ before, after, by simp, by simp [Nat.add_comm]⟩

theorem occursAt_succ : OccursAt w (c :: t) (n + 1) ↔ OccursAt w t n := occursAt_append [c]

theorem occursAt_drop (hk : k ≤ t.length) : OccursAt w (t.drop k) n ↔ OccursAt w t (n + k) := by
  have h := occursAt_append (w := w) (t := t.drop k) (n := n) (t.take k)
  rwa [List.take_append_drop, List.length_take_of_le hk, Iff.comm] at h

/-- What ends within the first characters begins early enough to do so. -/
theorem occursAt_take : OccursAt w (t.take (k + w.length)) n ↔ n ≤ k ∧ OccursAt w t n := by
  constructor
  · intro h
    have hle := h.add_length_le
    rw [List.length_take] at hle
    obtain ⟨before, after, heq, hlength⟩ := h
    refine ⟨by omega, before, after ++ t.drop (k + w.length), ?_, hlength⟩
    rw [← List.append_assoc, ← heq, List.take_append_drop]
  · rintro ⟨hnk, before, after, rfl, rfl⟩
    refine ⟨before, after.take (k - before.length), ?_, rfl⟩
    have hlength : (before ++ w).length ≤ k + w.length := by rw [List.length_append]; omega
    have hrest : k + w.length - (before ++ w).length = k - before.length := by
      rw [List.length_append]
      omega
    rw [List.take_append, List.take_of_length_le hlength, hrest]

theorem occursAt_reverse :
    OccursAt w.reverse t.reverse n ↔
      n + w.length ≤ t.length ∧ OccursAt w t (t.length - w.length - n) := by
  constructor
  · intro h
    refine ⟨by simpa using h.add_length_le, ?_⟩
    obtain ⟨before, after, heq, rfl⟩ := h
    have ht : t = after.reverse ++ w ++ before.reverse := by
      rw [← List.reverse_reverse t, heq]
      simp
    refine ⟨after.reverse, before.reverse, ht, ?_⟩
    rw [ht]
    simp only [List.length_append, List.length_reverse]
    omega
  · rintro ⟨hle, before, after, rfl, hlength⟩
    refine ⟨after.reverse, before.reverse, by simp, ?_⟩
    simp only [List.length_append, List.length_reverse] at hle hlength ⊢
    omega

/-! ## The first and the last one -/

/-- What a search among the positions of a set gives: the one that is best, or `-1` if there is
    none. -/
def Finds (best : Set Nat → Nat → Prop) (s : Set Nat) (i : Int) : Prop :=
  (i = -1 ∧ s = ∅) ∨ ∃ n : Nat, i = n ∧ best s n

theorem finds_orMinusOne {best : Set Nat → Nat → Prop} {o : Option Nat}
    (hsome : ∀ n, o = some n → best s n) (hnone : o = none → s = ∅) :
    Finds best s (orMinusOne o) := by
  cases o with
  | none => exact .inl ⟨rfl, hnone rfl⟩
  | some n => exact .inr ⟨n, rfl, hsome n rfl⟩

theorem isLeast_of_find? (h : find? w t = some n) : IsLeast {n | OccursAt w t n} n := by
  obtain ⟨⟨before, after⟩, hcut, rfl⟩ := Option.map_eq_some_iff.1 h
  have hfirst := isFirst_of_cut? hcut
  refine ⟨⟨before, after, hfirst.eq_append, rfl⟩, ?_⟩
  rintro m ⟨b, a, heq, rfl⟩
  exact hfirst.length_le b a heq

theorem eq_empty_of_find? (h : find? w t = none) : {n | OccursAt w t n} = ∅ := by
  have hnot := cut?_eq_none_iff.1 (Option.map_eq_none_iff.1 h)
  refine Set.eq_empty_iff_forall_notMem.2 fun n hn => hnot ?_
  obtain ⟨before, after, heq, -⟩ := hn
  exact ⟨before, after, heq.symm⟩

theorem eq_empty_of_findLast? (h : findLast? w t = none) : {n | OccursAt w t n} = ∅ := by
  refine Set.eq_empty_iff_forall_notMem.2 fun n hn => ?_
  induction t generalizing n with
  | nil =>
    have hw : w ≠ [] := by
      rintro rfl
      cases h
    have hle := OccursAt.add_length_le hn
    exact hw (List.length_eq_zero_iff.1 (by simpa using Nat.le_of_add_left_le hle))
  | cons c t ih =>
    rw [findLast?] at h
    split at h
    · cases h
    · next ht =>
      split_ifs at h with hc
      cases n with
      | zero => exact hc (List.isPrefixOf_iff_prefix.2 (occursAt_zero.1 hn))
      | succ n => exact ih ht n (occursAt_succ.1 hn)

theorem isGreatest_of_findLast? (h : findLast? w t = some n) :
    IsGreatest {n | OccursAt w t n} n := by
  induction t generalizing n with
  | nil =>
    obtain ⟨rfl, rfl⟩ : w = [] ∧ 0 = n := by simpa [findLast?] using h
    exact ⟨occursAt_zero.2 List.prefix_rfl, fun m hm => OccursAt.add_length_le hm⟩
  | cons c t ih =>
    rw [findLast?] at h
    split at h
    · next i hi =>
      obtain rfl := Option.some.inj h
      have hlast := ih hi
      refine ⟨occursAt_succ.2 hlast.1, fun m hm => ?_⟩
      cases m with
      | zero => exact Nat.zero_le _
      | succ m => exact Nat.succ_le_succ (hlast.2 (occursAt_succ.1 hm))
    · next ht =>
      split_ifs at h with hc
      obtain rfl := Option.some.inj h
      refine ⟨occursAt_zero.2 (List.isPrefixOf_iff_prefix.1 hc), fun m hm => ?_⟩
      cases m with
      | zero => exact Nat.le_refl 0
      | succ m =>
        have hm : m ∈ {n | OccursAt w t n} := occursAt_succ.1 hm
        rw [eq_empty_of_findLast? ht] at hm
        cases hm

/-! ## Searches -/

theorem finds_indexOf (t w : Text) (k : Int) :
    Finds IsLeast {n | max k 0 ≤ n ∧ n ≤ t.length ∧ OccursAt w t n} (t.indexOf w k) := by
  rw [indexOf]
  split_ifs with hk
  · refine .inl ⟨rfl, Set.eq_empty_iff_forall_notMem.2 fun n hn => ?_⟩
    obtain ⟨hkn, hn, -⟩ := hn
    omega
  · rw [Nat.not_lt] at hk
    have hset : {n : Nat | max k 0 ≤ n ∧ n ≤ t.length ∧ OccursAt w t n} =
        (· + k.toNat) '' {n | OccursAt w (t.drop k.toNat) n} := by
      ext n
      simp only [Set.mem_ofPred_eq, Set.mem_image, occursAt_drop hk]
      constructor
      · rintro ⟨hkn, -, h⟩
        have hn : n - k.toNat + k.toNat = n := by omega
        exact ⟨n - k.toNat, by rwa [hn], hn⟩
      · rintro ⟨m, h, rfl⟩
        have hle := h.add_length_le
        exact ⟨by omega, by omega, h⟩
    rw [hset]
    refine finds_orMinusOne (fun n hn => ?_) fun hnone => ?_
    · obtain ⟨m, hm, rfl⟩ := Option.map_eq_some_iff.1 hn
      have hleast := isLeast_of_find? hm
      refine ⟨⟨m, hleast.1, rfl⟩, ?_⟩
      rintro _ ⟨j, hj, rfl⟩
      exact Nat.add_le_add_right (hleast.2 hj) _
    · rw [eq_empty_of_find? (Option.map_eq_none_iff.1 hnone), Set.image_empty]

theorem finds_lastIndexOf (t w : Text) :
    Finds IsGreatest {n | OccursAt w t n} (t.lastIndexOf w none) :=
  finds_orMinusOne (fun _ => isGreatest_of_findLast?) eq_empty_of_findLast?

theorem finds_lastIndexOf_upTo (t w : Text) (k : Int) :
    Finds IsGreatest {n : Nat | n ≤ max k 0 ∧ OccursAt w t n} (t.lastIndexOf w (some k)) := by
  have hset : {n : Nat | (n : Int) ≤ max k 0 ∧ OccursAt w t n} =
      {n | OccursAt w (t.take (k.toNat + w.length)) n} := by
    ext n
    rw [Set.mem_ofPred_eq, Set.mem_ofPred_eq, occursAt_take]
    exact and_congr_left fun _ => by omega
  rw [hset]
  exact finds_lastIndexOf _ w

/-- The last position is that of the first one backwards. -/
theorem lastIndexOf_eq (t w : Text) :
    (t.indexOf w 0 = -1 ∧ t.lastIndexOf w none = -1) ∨
      t.lastIndexOf w none = t.length - w.length - indexOf t.reverse w.reverse 0 := by
  have hfirst (t w : Text) : Finds IsLeast {n | OccursAt w t n} (t.indexOf w 0) := by
    have hset : {n | OccursAt w t n} =
        {n : Nat | max (0 : Int) 0 ≤ n ∧ n ≤ t.length ∧ OccursAt w t n} := by
      ext n
      exact ⟨fun h => ⟨by omega, Nat.le_of_add_right_le h.add_length_le, h⟩, fun h => h.2.2⟩
    rw [hset]
    exact finds_indexOf t w 0
  obtain ⟨hlast, hnone⟩ | ⟨j, hlast, hj, hgreatest⟩ := finds_lastIndexOf t w
  · obtain ⟨hi, -⟩ | ⟨i, -, hi, -⟩ := hfirst t w
    · exact .inl ⟨hi, hlast⟩
    · rw [hnone] at hi
      cases hi
  · right
    have hle := OccursAt.add_length_le hj
    have hback : OccursAt w.reverse t.reverse (t.length - w.length - j) := by
      refine occursAt_reverse.2 ⟨by omega, ?_⟩
      rwa [Nat.sub_sub_self (by omega)]
    obtain ⟨-, hnone⟩ | ⟨i, hfound, hi, hleast⟩ := hfirst t.reverse w.reverse
    · exact absurd hback (Set.eq_empty_iff_forall_notMem.1 hnone _)
    · have hij : i ≤ t.length - w.length - j := hleast hback
      obtain ⟨-, hforth⟩ := occursAt_reverse.1 hi
      have hji : t.length - w.length - i ≤ j := hgreatest hforth
      rw [hlast, hfound]
      omega

end Textwork.Text

namespace Textwork.Catalogue

open Text (OccursAt Finds)

/-- **Forward and backward search are exact and dual.**  A search from a position on finds the least
    position there at which the text occurs, a search up to a position the greatest, and without one
    the greatest of all; and searching backwards is searching the reversed texts. -/
theorem search_bounds (t w : Text) :
    (∀ k : Int, ∃ i, (call "index_of".toList [.text t, .text w, .int k] []).result = .ok (.int i) ∧
      Finds IsLeast {n | max k 0 ≤ n ∧ n ≤ t.length ∧ OccursAt w t n} i) ∧
    (∀ k : Int, ∃ i,
      (call "last_index_of".toList [.text t, .text w, .int k] []).result = .ok (.int i) ∧
      Finds IsGreatest {n | n ≤ max k 0 ∧ OccursAt w t n} i) ∧
    ∃ first last back : Int, ∃ u v : Text,
      (call "index_of".toList [.text t, .text w] []).result = .ok (.int first) ∧
      (call "last_index_of".toList [.text t, .text w] []).result = .ok (.int last) ∧
      (call "reverse".toList [.text t] []).result = .ok (.text u) ∧
      (call "reverse".toList [.text w] []).result = .ok (.text v) ∧
      (call "index_of".toList [.text u, .text v] []).result = .ok (.int back) ∧
      Finds IsGreatest {n | OccursAt w t n} last ∧
      ((first = -1 ∧ last = -1) ∨ last = t.length - w.length - back) :=
  ⟨fun k => ⟨_, rfl, Text.finds_indexOf t w k⟩,
    fun k => ⟨_, rfl, Text.finds_lastIndexOf_upTo t w k⟩,
    _, _, _, _, _, rfl, rfl, rfl, rfl, rfl, Text.finds_lastIndexOf t w, Text.lastIndexOf_eq t w⟩

end Textwork.Catalogue
