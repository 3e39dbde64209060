/-
  Texts cut to a limit.

  * `IsRun` are the runs of word characters that cannot be made longer, `EndsRun`
    says where one ends; `mem_wordEnds`: these are the positions that `wordEnds`
    lists, in increasing order;
  * `isGreatest_lastFitting`: of those that leave room for the marker the last one
    is the greatest;
  * `shortened_fits`: what is cut fits, and `prune` cuts at the end of a run.
-/
import Mathlib.Data.List.Basic
import Mathlib.Order.Bounds.Basic
import Textwork.Catalogue.Layout

namespace Textwork.Text

open Unicode (isWordChar)

variable {t : Text} {a e i k : Nat} {inWord : Bool}

/-! ## Runs of word characters -/

/-- A word character stands at position `k`. -/
def wordAt (t : Text) (k : Nat) : Bool := (t[k]?).any isWordChar

/-- The positions from `a` up to `e` hold word characters, and the run goes on at neither end. -/
structure IsRun (t : Text) (a e : Nat) : Prop where
  lt : a < e
  word : ∀ k, a ≤ k → k < e → wordAt t k = true
  start : ∀ k, k + 1 = a → wordAt t k = false
  stop : wordAt t e = false

/-- A run of word characters ends before position `e`. -/
def EndsRun (t : Text) (e : Nat) : Prop := ∃ a, IsRun t a e

theorem wordAt_cons_zero (c : Char) (t : Text) : wordAt (c :: t) 0 = isWordChar c := rfl

theorem wordAt_cons_succ (c : Char) (t : Text) (k : Nat) : wordAt (c :: t) (k + 1) = wordAt t k :=
  rfl

/-- Every word character lies in a run, which begins there or earlier. -/
theorem exists_start (h : wordAt t k = true) :
    ∃ a ≤ k, (∀ i, a ≤ i → i ≤ k → wordAt t i = true) ∧ ∀ i, i + 1 = a → wordAt t i = false := by
  induction k with
  | zero =>
    refine ⟨0, Nat.le_refl 0, fun i _ hi => ?_, fun i hi => by omega⟩
    rwa [Nat.le_zero.1 hi]
  | succ k ih =>
    by_cases hk : wordAt t k = true
    · obtain ⟨a, ha, hword, hstart⟩ := ih hk
      refine ⟨a, Nat.le_succ_of_le ha, fun i hai hi => ?_, hstart⟩
      rcases Nat.le_succ_iff.1 hi with hi | rfl
      · exact hword i hai hi
      · exact h
    · refine ⟨k + 1, Nat.le_refl _, fun i hai hi => ?_, fun i hi => ?_⟩
      · rwa [Nat.le_antisymm hi hai]
      · rw [Nat.succ_inj.1 hi]
        exact Bool.eq_false_of_not_eq_true hk

theorem endsRun_succ_iff : EndsRun t (k + 1) ↔ wordAt t k = true ∧ wordAt t (k + 1) = false := by
  constructor
  · rintro ⟨a, h⟩
    exact ⟨h.word k (Nat.le_of_lt_succ h.lt) (Nat.lt_succ_self k), h.stop⟩
  · rintro ⟨hk, hstop⟩
    obtain ⟨a, ha, hword, hstart⟩ := exists_start hk
    exact ⟨a, Nat.lt_succ_of_le ha, fun i hai hi => hword i hai (Nat.le_of_lt_succ hi), hstart,
      hstop⟩

theorem not_endsRun_zero : ¬EndsRun t 0 := fun ⟨_, h⟩ => Nat.not_lt_zero _ h.lt

/-- No run goes on where one ends. -/
theorem IsRun.not_inside (h : IsRun t a e) (hk : k = 0 ∨ EndsRun t k) : ¬(a < k ∧ k < e) := by
  rintro ⟨hak, hke⟩
  rcases hk with rfl | ⟨b, hb⟩
  · exact Nat.not_lt_zero a hak
  · have hword := h.word k (Nat.le_of_lt hak) hke
    rw [hb.stop] at hword
    cases hword

/-! ## The list of ends -/

/-- A run that is open ends at once if no word character follows; all others end behind a word
    character of the text. -/
theorem mem_wordEndsFrom :
    e ∈ wordEndsFrom i inWord t ↔
      (inWord = true ∧ e = i ∧ wordAt t 0 = false) ∨
        ∃ k, e = i + (k + 1) ∧ wordAt t k = true ∧ wordAt t (k + 1) = false := by
  induction t generalizing i inWord with
  | nil => cases inWord <;> simp [wordEndsFrom, wordAt]
  | cons c t ih =>
    -- An end behind the first character, or behind one of the others.
    rw [← Nat.or_exists_add_one]
    simp only [wordAt_cons_zero, wordAt_cons_succ]
    rw [wordEndsFrom]
    by_cases hc : isWordChar c = true
    · rw [if_pos hc, ih]
      simp [hc, Nat.add_assoc, Nat.add_comm 1]
    · cases inWord with
      | true =>
        rw [if_neg hc, if_pos rfl, List.mem_cons, ih]
        simp [hc, Nat.add_assoc, Nat.add_comm 1]
      | false =>
        rw [if_neg hc, if_neg Bool.false_ne_true, ih]
        simp [hc, Nat.add_assoc, Nat.add_comm 1]

theorem mem_wordEnds : e ∈ wordEnds t ↔ EndsRun t e := by
  rw [wordEnds, mem_wordEndsFrom]
  cases e with
  | zero => simp [not_endsRun_zero]
  | succ k => simp [endsRun_succ_iff]

theorem pairwise_wordEndsFrom : (wordEndsFrom i inWord t).Pairwise (· < ·) := by
  induction t generalizing i inWord with
  | nil => cases inWord <;> simp [wordEndsFrom]
  | cons c t ih =>
    rw [wordEndsFrom]
    split_ifs
    · exact ih
    · refine List.pairwise_cons.2 ⟨fun e he => ?_, ih⟩
      rcases mem_wordEndsFrom.1 he with ⟨_, rfl, -⟩ | ⟨k, rfl, -⟩ <;> omega
    · exact ih

/-- The last entry of an increasing list is the greatest. -/
theorem isGreatest_getLastD {l : List Nat} (h : l.Pairwise (· < ·)) :
    IsGreatest {e | e = 0 ∨ e ∈ l} (l.getLastD 0) := by
  rcases List.eq_nil_or_concat' l with rfl | ⟨init, last, rfl⟩
  · simp [IsGreatest, upperBounds]
  · have hlt := (List.pairwise_append.1 h).2.2
    rw [List.getLastD_concat]
    refine ⟨.inr (by simp), fun e he => ?_⟩
    rcases he with rfl | he
    · exact Nat.zero_le last
    · rcases List.mem_append.1 he with he | he
      · exact Nat.le_of_lt (hlt e he last (List.mem_singleton_self last))
      · exact Nat.le_of_eq (List.mem_singleton.1 he)

/-- The end after which `prune` cuts is the greatest that leaves room for the marker. -/
theorem isGreatest_lastFitting (t : Text) (n m : Nat) :
    IsGreatest {e | e = 0 ∨ (EndsRun t e ∧ e + m ≤ n)}
      ((t.wordEnds.filter fun e => e + m ≤ n).getLastD 0) := by
  have hsorted : (t.wordEnds.filter fun e => e + m ≤ n).Pairwise (· < ·) :=
    pairwise_wordEndsFrom.filter _
  simpa [mem_wordEnds] using isGreatest_getLastD hsorted

theorem length_take_append_le {t m : Text} {n k : Nat} (h : k ≤ n - m.length) :
    (t.take k ++ m).length ≤ max n m.length := by
  rw [List.length_append, List.length_take]
  omega

end Textwork.Text

namespace Textwork.Catalogue

open Text (IsRun EndsRun)

/-- **A text that exceeds the limit is cut so that it fits with the marker**, if the marker alone
    does: anywhere, or at the last end of a run of word characters that leaves room for the
    marker, and at the start if there is none. -/
theorem shortened_fits (t m : Text) (limit : Int) :
    (t.length ≤ limit.toNat →
      shortened Text.truncate (.text t) (.int limit) (.text m) = .ok (.text t) ∧
      shortened Text.prune (.text t) (.int limit) (.text m) = .ok (.text t)) ∧
    (limit.toNat < t.length → ∃ k j : Nat,
      k = limit.toNat - m.length ∧
      IsGreatest {e | e = 0 ∨ (EndsRun t e ∧ e + m.length ≤ limit.toNat)} j ∧
      shortened Text.truncate (.text t) (.int limit) (.text m) = .ok (.text (t.take k ++ m)) ∧
      shortened Text.prune (.text t) (.int limit) (.text m) = .ok (.text (t.take j ++ m)) ∧
      (t.take k ++ m).length ≤ max limit.toNat m.length ∧
      (t.take j ++ m).length ≤ max limit.toNat m.length ∧
      j ≤ k ∧ ∀ a e, IsRun t a e → ¬(a < j ∧ j < e)) := by
  have htruncate : shortened Text.truncate (.text t) (.int limit) (.text m) =
      .ok (.text (if t.length ≤ limit.toNat then t
        else t.take (limit.toNat - m.length) ++ m)) := rfl
  have hprune : shortened Text.prune (.text t) (.int limit) (.text m) =
      .ok (.text (if t.length ≤ limit.toNat then t
        else t.take ((t.wordEnds.filter fun e => e + m.length ≤ limit.toNat).getLastD 0) ++ m)) :=
    rfl
  rw [htruncate, hprune]
  refine ⟨fun hle => ?_, fun hlt => ?_⟩
  · rw [if_pos hle, if_pos hle]
    exact ⟨rfl, rfl⟩
  · rw [if_neg (Nat.not_le.2 hlt), if_neg (Nat.not_le.2 hlt)]
    have hgreatest := Text.isGreatest_lastFitting t limit.toNat m.length
    generalize (t.wordEnds.filter fun e => e + m.length ≤ limit.toNat).getLastD 0 = j at hgreatest ⊢
    have hle : j ≤ limit.toNat - m.length := by
      rcases hgreatest.1 with rfl | ⟨-, hfits⟩
      · exact Nat.zero_le _
      · exact Nat.le_sub_of_add_le hfits
    exact ⟨_, j, rfl, hgreatest, rfl, rfl, Text.length_take_append_le (Nat.le_refl _),
      Text.length_take_append_le hle, hle,
      fun a e hrun => hrun.not_inside (hgreatest.1.imp_right fun h => h.1)⟩

/-- A limit inside the second word. -/
theorem shortened_fits_secondWord :
    (9 : Int).toNat < "Hello World".toList.length ∧
      IsGreatest {e | e = 0 ∨ (EndsRun "Hello World".toList e ∧ e + 2 ≤ 9)} 5 ∧
      shortened Text.prune (.text "Hello World".toList) (.int 9) (.text "..".toList) =
        .ok (.text "Hello..".toList) := by
  have hlt : (9 : Int).toNat < "Hello World".toList.length := by decide
  have hrun : shortened Text.prune (.text "Hello World".toList) (.int 9) (.text "..".toList) =
      .ok (.text "Hello..".toList) := by
    cbv
  obtain ⟨k, j, rfl, hgreatest, -, hprune, -⟩ :=
    (shortened_fits "Hello World".toList "..".toList 9).2 hlt
  have hlength := congrArg List.length (Value.text.inj (Except.ok.inj (hprune.symm.trans hrun)))
  obtain rfl : j = 5 := by
    simp at hlength
    omega
  exact ⟨hlt, hgreatest, hrun⟩

end Textwork.Catalogue
