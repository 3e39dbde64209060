/-
  Tests for a text at or behind a position, and the search for it.

  * `includes_iff`, `startsWith_iff`: what the two tests say of the positions at which the
    text occurs;
  * `includes_iff_indexOf`, `startsWith_iff_indexOf`: what they say of the one that a search
    finds;
  * `contains_indexOf`: a test behind a position and the search from it on agree, but for the
    empty text beyond the end.
-/
import Textwork.Proofs.Text.Positions

namespace Textwork.Text

variable {w t : Text} {k : Int} {i : Int} {s : Set Nat}

theorem occurs_iff : occurs w t = true ↔ ∃ n, OccursAt w t n := by
  have hfind : occurs w t = (find? w t).isSome := Option.isSome_map.symm
  rw [hfind]
  cases h : find? w t with
  | some n => exact iff_of_true rfl ⟨n, (isLeast_of_find? h).1⟩
  | none =>
    refine iff_of_false Bool.false_ne_true ?_
    rintro ⟨n, hn⟩
    exact Set.eq_empty_iff_forall_notMem.1 (eq_empty_of_find? h) n hn

theorem occursAt_nil {n : Nat} : OccursAt w [] n ↔ w = [] ∧ n = 0 := by
  constructor
  · intro h
    have hle := h.add_length_le
    rw [List.length_nil] at hle
    exact ⟨List.length_eq_zero_iff.1 (by omega), by omega⟩
  · rintro ⟨rfl, rfl⟩
    exact occursAt_zero.2 List.prefix_rfl

/-- A test behind a position asks for an occurrence there; beyond the end there is nothing left, in
    which only the empty text occurs. -/
theorem includes_iff :
    includes t w k = true ↔
      (∃ n : Nat, max k 0 ≤ n ∧ n ≤ t.length ∧ OccursAt w t n) ∨
        (w = [] ∧ (t.length : Int) < k) := by
  rw [includes, occurs_iff]
  by_cases hk : k.toNat ≤ t.length
  · rw [or_iff_left (by omega)]
    simp only [occursAt_drop hk]
    constructor
    · rintro ⟨n, hn⟩
      have hle := hn.add_length_le
      exact ⟨n + k.toNat, by omega, by omega, hn⟩
    · rintro ⟨n, hkn, -, hn⟩
      have hsplit : n - k.toNat + k.toNat = n := by omega
      exact ⟨n - k.toNat, by rwa [hsplit]⟩
  · rw [List.drop_of_length_le (by omega)]
    simp only [occursAt_nil]
    constructor
    · rintro ⟨-, hw, -⟩
      exact .inr ⟨hw, by omega⟩
    · rintro (⟨n, hkn, hn, -⟩ | ⟨hw, -⟩)
      · omega
      · exact ⟨0, hw, rfl⟩

theorem startsWith_iff :
    startsWith t w k = true ↔ k.toNat ≤ t.length ∧ OccursAt w t k.toNat := by
  rw [startsWith, Bool.and_eq_true, decide_eq_true_eq, List.isPrefixOf_iff_prefix]
  refine and_congr_right fun hk => ?_
  rw [← occursAt_zero, occursAt_drop hk, Nat.zero_add]

/-! ## The position found -/

theorem Finds.ne_neg_one_iff (h : Finds IsLeast s i) : i ≠ -1 ↔ s.Nonempty := by
  obtain ⟨rfl, rfl⟩ | ⟨n, rfl, hn⟩ := h
  · simp
  · exact iff_of_true (by omega) ⟨n, hn.1⟩

theorem includes_iff_indexOf :
    includes t w k = true ↔ t.indexOf w k ≠ -1 ∨ (w = [] ∧ (t.length : Int) < k) := by
  rw [includes_iff, (finds_indexOf t w k).ne_neg_one_iff]
  rfl

theorem indexOf_beyond (hk : (t.length : Int) < k) : t.indexOf w k = -1 := by
  rw [indexOf, if_pos (by omega)]

/-- The test and the search differ on the empty text beyond the end, and on nothing else. -/
theorem includes_agrees_iff :
    (includes t w k = true ↔ t.indexOf w k ≠ -1) ↔ ¬(w = [] ∧ (t.length : Int) < k) := by
  rw [includes_iff_indexOf]
  constructor
  · intro h hbeyond
    exact h.1 (.inr hbeyond) (indexOf_beyond hbeyond.2)
  · exact fun h => or_iff_left h

theorem startsWith_iff_indexOf : startsWith t w k = true ↔ t.indexOf w k = max k 0 := by
  have hpos : (k.toNat : Int) = max k 0 := by omega
  rw [startsWith_iff]
  obtain ⟨hi, hnone⟩ | ⟨n, hi, ⟨hkn, hn, hoccurs⟩, hleast⟩ := finds_indexOf t w k
  · rw [hi]
    refine iff_of_false ?_ (by omega)
    rintro ⟨hk, hoccurs⟩
    exact Set.eq_empty_iff_forall_notMem.1 hnone k.toNat ⟨hpos.ge, hk, hoccurs⟩
  · rw [hi]
    constructor
    · rintro ⟨hk, hoccurs⟩
      have hle : n ≤ k.toNat := hleast ⟨hpos.ge, hk, hoccurs⟩
      omega
    · intro hn'
      obtain rfl : n = k.toNat := by omega
      exact ⟨hn, hoccurs⟩

end Textwork.Text

namespace Textwork.Catalogue

/-- **A test and the search agree on what stands behind a position**, except for the empty text
    beyond the end: the test finds it in what is left there, the search does not go there.  A text
    starts at a position exactly if the search from there on finds it at once. -/
theorem contains_indexOf (t w : Text) (k : Int) :
    ∃ (i : Int) (found starts : Bool),
      (call "index_of".toList [.text t, .text w, .int k] []).result = .ok (.int i) ∧
      (call "includes".toList [.text t, .text w, .int k] []).result = .ok (.bool found) ∧
      (call "starts_with".toList [.text t, .text w, .int k] []).result = .ok (.bool starts) ∧
      (found = true ↔ i ≠ -1 ∨ (w = [] ∧ (t.length : Int) < k)) ∧
      ((found = true ↔ i ≠ -1) ↔ ¬(w = [] ∧ (t.length : Int) < k)) ∧
      (starts = true ↔ i = max k 0) :=
  ⟨_, _, _, rfl, rfl, rfl, Text.includes_iff_indexOf, Text.includes_agrees_iff,
    Text.startsWith_iff_indexOf⟩

/-- The empty text is included beyond the end, where no search finds it. -/
theorem includes_empty_beyond :
    (call "includes".toList [.text "abc".toList, .text [], .int 4] []).result = .ok (.bool true) ∧
      (call "index_of".toList [.text "abc".toList, .text [], .int 4] []).result = .ok (.int (-1)) :=
  ⟨rfl, rfl⟩

end Textwork.Catalogue
