/-
  Pieces of texts.

  * `Extracts` says which piece of a text is meant by a position and a number of
    characters, and what stands before and behind it;
  * `extracts_substr`: `substr` gives that piece, and `splice` replaces it;
  * `extraction_agrees`: putting the piece back gives the text again, and the other
    functions that extract a piece agree with `substr` where they mean the same.
-/
import Textwork.Catalogue.Listing
import Mathlib.Tactic.Common

namespace Textwork.Text

variable {t : Text} {a b : Nat}

/-! ## The piece at a position -/

/-- The text is `before`, `piece` and `after`, and the piece begins at a position, counted from the
    end if it is negative, and has a number of characters, or all that follow; both are moved to
    the nearest bounds of the text. -/
structure Extracts (t : Text) (start : Int) (count : Option Int) (before piece after : Text) :
    Prop where
  eq_append : t = before ++ piece ++ after
  length_before : (before.length : Int) =
    if start < 0 then max (t.length + start) 0 else min start t.length
  length_piece : (piece.length : Int) =
    match count with
    | none => t.length - before.length
    | some n => min (max n 0) (t.length - before.length)

/-- The number of characters of the piece. -/
def extent (t : Text) (start : Int) (count : Option Int) : Nat :=
  let rest := t.length - position t.length start
  match count with
  | none => rest
  | some n => min n.toNat rest

theorem position_cast (size : Nat) (start : Int) :
    (position size start : Int) = if start < 0 then max (size + start) 0 else min start size := by
  unfold position
  split_ifs <;> omega

theorem position_le (size : Nat) (start : Int) : position size start ≤ size := by
  unfold position
  split_ifs <;> omega

theorem position_natCast (size k : Nat) : position size k = min k size := by
  rw [position, if_neg (by omega), Int.toNat_natCast]

theorem bound_natCast (size k : Nat) : bound size k = min k size := by
  rw [bound, Int.toNat_natCast]

theorem extent_le (t : Text) (start : Int) (count : Option Int) :
    t.extent start count ≤ t.length - position t.length start := by
  cases count with
  | none => exact Nat.le_refl _
  | some n => exact Nat.min_le_right _ _

theorem substr_eq (t : Text) (start : Int) (count : Option Int) :
    t.substr start count = (t.drop (position t.length start)).take (t.extent start count) := by
  have hlength : (t.drop (position t.length start)).length =
      t.length - position t.length start := List.length_drop
  cases count with
  | none => exact (List.take_of_length_le (Nat.le_of_eq hlength)).symm
  | some n =>
    change (t.drop _).take n.toNat = (t.drop _).take (min n.toNat _)
    rw [← hlength, ← List.take_eq_take_min]

theorem splice_eq (t : Text) (start : Int) (count : Option Int) (addition : Text) :
    t.splice start count addition =
      t.take (position t.length start) ++ addition ++
        t.drop (position t.length start + t.extent start count) := by
  cases count <;> rfl

/-- **What `substr` extracts is what `splice` replaces.** -/
theorem extracts_substr (t : Text) (start : Int) (count : Option Int) :
    ∃ before after, Extracts t start count before (t.substr start count) after ∧
      ∀ addition, t.splice start count addition = before ++ addition ++ after := by
  have hposition := position_le t.length start
  have hextent := extent_le t start count
  have hbefore : (t.take (position t.length start)).length = position t.length start :=
    List.length_take_of_le hposition
  have hpiece : (t.substr start count).length = t.extent start count := by
    rw [substr_eq, List.length_take, List.length_drop, Nat.min_eq_left hextent]
  refine ⟨t.take (position t.length start),
    t.drop (position t.length start + t.extent start count), ⟨?_, ?_, ?_⟩, t.splice_eq start count⟩
  · rw [substr_eq, ← List.drop_drop, List.append_assoc, List.take_append_drop,
      List.take_append_drop]
  · rw [hbefore, position_cast]
  · rw [hbefore, hpiece]
    cases count <;> simp only [extent] <;> omega

/-! ## Pieces between two positions -/

theorem slice_natCast (t : Text) (a b : Nat) :
    t.slice (some a) (some b) = t.between (min a t.length) (min b t.length) := by
  rw [slice, Option.map_some, Option.map_some, Option.getD_some, Option.getD_some,
    position_natCast, position_natCast]

theorem substring_natCast (t : Text) (a b : Nat) :
    t.substring a (some b) =
      t.between (min (min a t.length) (min b t.length)) (max (min a t.length) (min b t.length)) := by
  simp only [substring, Option.map_some, Option.getD_some, bound_natCast]

/-- A piece is given by its two ends in either order, or by the first one and its length. -/
theorem slice_eq_of_le (t : Text) (hab : a ≤ b) :
    t.substring a (some b) = t.slice (some a) (some b) ∧
      t.substring b (some a) = t.slice (some a) (some b) ∧
      t.substr a (some (b - a)) = t.slice (some a) (some b) := by
  have hle : min a t.length ≤ min b t.length := by omega
  refine ⟨?_, ?_, ?_⟩
  · rw [substring_natCast, slice_natCast, Nat.min_eq_left hle, Nat.max_eq_right hle]
  · rw [substring_natCast, slice_natCast, Nat.min_eq_right hle, Nat.max_eq_left hle]
  · rw [slice_natCast, between, List.drop_take, substr, position_natCast]
    refine List.take_eq_take_iff.2 ?_
    rw [List.length_drop]
    omega

/-- The characters at the end of a text. -/
theorem slice_neg (t : Text) (ha : 1 ≤ a) :
    t.slice (some (-a)) none = t.last a ∧ t.substr (-a) none = t.last a := by
  have hposition : position t.length (-a) = t.length - a := by
    rw [position, if_pos (by omega)]
    omega
  constructor
  · rw [slice, Option.map_some, Option.getD_some, hposition, Option.map_none, Option.getD_none,
      between, List.take_length, last, Int.toNat_natCast]
  · rw [substr, hposition, last, Int.toNat_natCast]

theorem first_append_last (ha : a ≤ t.length) : t.first a ++ t.last (t.length - a) = t := by
  have hrest : (t.length - a : Int).toNat = t.length - a := by omega
  rw [first, last, Int.toNat_natCast, hrest, Nat.sub_sub_self ha, List.take_append_drop]

end Textwork.Text

namespace Textwork.Catalogue

open Text (Extracts)

/-- A number that may be left out, as a value. -/
def optionalNumber (n : Option Int) : Value := (n.map .int).getD .nothing

section Calls

variable (t : Text) (a b start : Int) (count : Option Int)

theorem call_slice :
    (call "slice".toList [.text t, .int a, .int b] []).result =
      .ok (.text (t.slice (some a) (some b))) := rfl

theorem call_slice_toEnd :
    (call "slice".toList [.text t, .int a] []).result = .ok (.text (t.slice (some a) none)) := rfl

theorem call_substring :
    (call "substring".toList [.text t, .int a, .int b] []).result =
      .ok (.text (t.substring a (some b))) := rfl

theorem call_substr :
    (call "substr".toList [.text t, .int start, optionalNumber count] []).result =
      .ok (.text (t.substr start count)) := by
  cases count <;> rfl

theorem call_splice (addition : Text) :
    (call "splice".toList [.text t, .int start, optionalNumber count, .text addition] []).result =
      .ok (.text (t.splice start count addition)) := by
  cases count <;> rfl

end Calls

/-- **The functions that extract a piece of a text agree, and `splice` removes exactly what `substr`
    extracts.**  Putting the piece back gives the text, and any other text changes the length by
    the difference. -/
theorem extraction_agrees (t : Text) :
    (∀ (start : Int) (count : Option Int), ∃ before piece after : Text,
      Extracts t start count before piece after ∧
      (call "substr".toList [.text t, .int start, optionalNumber count] []).result =
        .ok (.text piece) ∧
      (call "splice".toList [.text t, .int start, optionalNumber count, .text piece] []).result =
        .ok (.text t) ∧
      ∀ addition : Text, ∃ u : Text,
        (call "splice".toList
          [.text t, .int start, optionalNumber count, .text addition] []).result = .ok (.text u) ∧
        u = before ++ addition ++ after ∧
        (u.length : Int) = t.length - piece.length + addition.length) ∧
    (∀ a b : Int, 0 ≤ a → a ≤ b → ∃ u : Text,
      (call "slice".toList [.text t, .int a, .int b] []).result = .ok (.text u) ∧
      (call "substring".toList [.text t, .int a, .int b] []).result = .ok (.text u) ∧
      (call "substring".toList [.text t, .int b, .int a] []).result = .ok (.text u) ∧
      (call "substr".toList [.text t, .int a, .int (b - a)] []).result = .ok (.text u)) ∧
    (∀ a : Int, 1 ≤ a → ∃ u : Text,
      (call "slice".toList [.text t, .int (-a)] []).result = .ok (.text u) ∧
      (call "substr".toList [.text t, .int (-a)] []).result = .ok (.text u) ∧
      (call "last".toList [.text t, .int a] []).result = .ok (.text u)) ∧
    ∀ n : Int, 0 ≤ n → n ≤ t.length → ∃ u v : Text,
      (call "first".toList [.text t, .int n] []).result = .ok (.text u) ∧
      (call "last".toList [.text t, .int (t.length - n)] []).result = .ok (.text v) ∧
      u ++ v = t := by
  refine ⟨fun start count => ?_, fun a b ha hab => ?_, fun a ha => ?_, fun n hn hle => ?_⟩
  · obtain ⟨before, after, hextracts, hsplice⟩ := t.extracts_substr start count
    refine ⟨before, _, after, hextracts, call_substr t start count, ?_, fun addition =>
      ⟨_, call_splice t start count addition, hsplice addition, ?_⟩⟩
    · rw [call_splice, hsplice, ← hextracts.eq_append]
    · have hlength := congrArg List.length hextracts.eq_append
      rw [hsplice]
      simp only [List.length_append] at hlength ⊢
      omega
  · obtain ⟨a, rfl⟩ := Int.eq_ofNat_of_zero_le ha
    obtain ⟨b, rfl⟩ := Int.eq_ofNat_of_zero_le (Int.le_trans ha hab)
    obtain ⟨hforth, hback, hsubstr⟩ := t.slice_eq_of_le (Int.ofNat_le.1 hab)
    refine ⟨t.slice (some a) (some b), call_slice t a b, ?_, ?_, ?_⟩
    · rw [call_substring, hforth]
    · rw [call_substring, hback]
    · rw [← hsubstr]
      exact call_substr t a (some (b - a))
  · obtain ⟨a, rfl⟩ := Int.eq_ofNat_of_zero_le (by omega : 0 ≤ a)
    obtain ⟨hslice, hsubstr⟩ := t.slice_neg (Int.ofNat_le.1 ha)
    refine ⟨t.last a, ?_, ?_, rfl⟩
    · rw [call_slice_toEnd, hslice]
    · rw [← hsubstr]
      exact call_substr t (-a) none
  · obtain ⟨n, rfl⟩ := Int.eq_ofNat_of_zero_le hn
    exact ⟨t.first n, t.last (t.length - n), rfl, rfl, Text.first_append_last (Int.ofNat_le.1 hle)⟩

/-- Positions beyond the end of a text, before its start and at its end. -/
theorem extraction_agrees_beyond :
    ((0 : Int) ≤ 2 ∧ (2 : Int) ≤ 100 ∧
      (call "substring".toList [.text "dreams".toList, .int 100, .int 2] []).result =
        .ok (.text "eams".toList)) ∧
    ((1 : Int) ≤ 9 ∧
      (call "last".toList [.text "dreams".toList, .int 9] []).result =
        .ok (.text "dreams".toList)) ∧
    ((0 : Int) ≤ 6 ∧ (6 : Int) ≤ "dreams".toList.length ∧
      (call "first".toList [.text "dreams".toList, .int 6] []).result =
        .ok (.text "dreams".toList)) := by
  obtain ⟨-, hbetween, hlast, hfirst⟩ := extraction_agrees "dreams".toList
  obtain ⟨u, hslice, -, hback, -⟩ := hbetween 2 100 (by decide) (by decide)
  obtain ⟨v, hnegative, -, hend⟩ := hlast 9 (by decide)
  obtain ⟨w, rest, hstart, hrest, happend⟩ := hfirst 6 (by decide) (by decide)
  cases hslice
  cases hnegative
  cases hrest
  obtain rfl : w = "dreams".toList := (List.append_nil w).symm.trans happend
  exact ⟨⟨by decide, by decide, hback⟩, ⟨by decide, hend⟩, by decide, by decide, hstart⟩

end Textwork.Catalogue
