/-
  Texts without diacritics.

  * `latinise_eq`: what is left of a text are the characters of its decomposition that are
    no marks, in their order;
  * `latinise_laws`: nothing is left to be done a second time, no mark is left, ASCII stays as
    it is, and texts can be treated piece by piece.
-/
import Textwork.Proofs.Text.Slugs

namespace Textwork.Text

open Unicode

variable {c : Char} {t u : Text}

/-- The order that marks are brought into does not show. -/
theorem latinise_eq (t : Text) : latinise t = starters (decompose t) := starters_reorder _

theorem latinise_append (t u : Text) : latinise (t ++ u) = latinise t ++ latinise u := by
  rw [latinise_eq, decompose, List.flatMap_append, starters_append, latinise_eq, latinise_eq]
  rfl

theorem combiningClass_of_mem_latinise (h : c ∈ latinise t) : combiningClass c = 0 := by
  rw [latinise_eq, mem_starters] at h
  exact h.2

theorem decomposeChar_of_mem_latinise (h : c ∈ latinise t) : decomposeChar c = [c] := by
  rw [latinise_eq, mem_starters] at h
  obtain ⟨d, -, hc⟩ := List.mem_flatMap.1 h.1
  exact decomposeChar_of_mem hc

/-- A text of characters that are their own decomposition, without marks, is left as it is. -/
theorem latinise_eq_self (hdecompose : ∀ c ∈ t, decomposeChar c = [c])
    (hclass : ∀ c ∈ t, combiningClass c = 0) : latinise t = t := by
  rw [latinise_eq, decompose_eq_self hdecompose]
  exact List.filter_eq_self.2 fun c hc => beq_iff_eq.2 (hclass c hc)

theorem latinise_latinise (t : Text) : latinise (latinise t) = latinise t :=
  latinise_eq_self (fun _ => decomposeChar_of_mem_latinise) fun _ =>
    combiningClass_of_mem_latinise

end Textwork.Text

namespace Textwork.Catalogue

open Text

theorem call_latinise (t : Text) :
    (call "latinise".toList [.text t] []).result = .ok (.text (latinise t)) := rfl

/-- **Diacritics are removed at once and for good.**  A second time changes nothing, and no
    character left has a combining class; ASCII stays as it is; and texts are treated piece by
    piece, although marks are sorted across the seam. -/
theorem latinise_laws (t u : Text) :
    ∃ v w : Text,
      (call "latinise".toList [.text t] []).result = .ok (.text v) ∧
      (call "latinise".toList [.text u] []).result = .ok (.text w) ∧
      (call "latinise".toList [.text v] []).result = .ok (.text v) ∧
      (∀ c ∈ v, Unicode.combiningClass c = 0) ∧
      ((∀ c ∈ t, c.toNat < 128) → v = t) ∧
      (call "latinise".toList [.text (t ++ u)] []).result = .ok (.text (v ++ w)) := by
  refine ⟨latinise t, latinise u, call_latinise t, call_latinise u, ?_,
    fun _ => combiningClass_of_mem_latinise, latinise_ascii, ?_⟩
  · rw [call_latinise, latinise_latinise]
  · rw [call_latinise, latinise_append]

/-- Marks of a seam that are sorted, behind a text in ASCII. -/
theorem latinise_laws_seam :
    (∀ c ∈ "cafe".toList, c.toNat < 128) ∧ 'e' ∈ "cafe".toList ∧
      Unicode.combiningClass 'e' = 0 ∧
      ∃ w : Text,
        (call "latinise".toList [.text "\u0301\u0323\uFB01".toList] []).result = .ok (.text w) ∧
        (call "latinise".toList [.text ("cafe".toList ++ "\u0301\u0323\uFB01".toList)] []).result =
          .ok (.text ("cafe".toList ++ w)) := by
  have hascii : ∀ c ∈ "cafe".toList, c.toNat < 128 := by simp
  have he : 'e' ∈ "cafe".toList := by decide
  obtain ⟨v, w, -, hw, -, hclass, hself, happend⟩ :=
    latinise_laws "cafe".toList "\u0301\u0323\uFB01".toList
  obtain rfl := hself hascii
  exact ⟨hascii, he, hclass 'e' he, w, hw, happend⟩

end Textwork.Catalogue
