/-
  Padded texts.

  * `IsFill p n f`: the text `f` has `n` characters and repeats `p` from its
    beginning;
  * `isFill_fill`: copies of the pattern, cut to a length, are such a text;
  * `CanFill p n kept`: the copies that a fill is cut from can be addressed, and
    so can the fill together with what is kept beside it;
  * `padding_reaches`: the padding functions put fills beside the whole text and
    reach the length asked for, where copies and text can be addressed.
-/
import Textwork.Catalogue.Listing
import Textwork.Proofs.Traversal
import Mathlib.Tactic.Common

namespace Textwork

namespace Text

variable {p : Text} {n m kept kept' : Nat}

/-! ## Fills -/

/-- The text has `n` characters and repeats a pattern from the pattern's beginning. -/
structure IsFill (p : Text) (n : Nat) (f : Text) : Prop where
  length_eq : f.length = n
  getElem?_eq : ∀ j < n, f[j]? = p[j % p.length]?

theorem length_times (p : Text) (k : Nat) : (p.times k).length = k * p.length := by
  simp [times]

theorem getElem?_times (p : Text) (k : Nat) {j : Nat} (hj : j < k * p.length) :
    (p.times k)[j]? = p[j % p.length]? := by
  induction k generalizing j with
  | zero => omega
  | succ k ih =>
    rw [Nat.succ_mul] at hj
    rw [times, List.replicate_succ, List.flatten_cons, ← times]
    by_cases hfirst : j < p.length
    · rw [List.getElem?_append_left hfirst, Nat.mod_eq_of_lt hfirst]
    · rw [List.getElem?_append_right (by omega), ih (by omega), ← Nat.mod_eq_sub_mod (by omega)]

/-- **The copies that the number of characters asks for, cut to that number, are a fill.** -/
theorem isFill_fill (hp : p ≠ []) (n : Nat) : IsFill p n (fill p n) := by
  have hfill : fill p n = (p.times (n / p.length + 1)).take n := if_neg (by simpa using hp)
  have henough : n < (n / p.length + 1) * p.length :=
    Nat.lt_mul_of_div_lt (Nat.lt_succ_self _) (List.length_pos_iff.2 hp)
  rw [hfill]
  refine ⟨?_, fun j hj => ?_⟩
  · rw [List.length_take, length_times, Nat.min_eq_left (Nat.le_of_lt henough)]
  · rw [List.getElem?_take_of_lt hj, getElem?_times p _ (Nat.lt_trans hj henough)]

/-! ## Fills that can be made -/

/-- A fill of `n` characters can be made beside `kept` others: the copies of the pattern that it is cut
    from can be addressed, and so can the characters together. -/
def CanFill (p : Text) (n kept : Nat) : Prop :=
  n = 0 ∨ p.length * (n / p.length + 1) ≤ maxLength ∧ n + kept ≤ maxLength

instance (p : Text) (n kept : Nat) : Decidable (CanFill p n kept) :=
  inferInstanceAs (Decidable (_ ∨ _))

/-- A shorter fill can be made where a longer one can, in a text that is no longer. -/
theorem CanFill.mono (h : CanFill p m kept) (hle : n ≤ m) (hsum : n + kept' ≤ m + kept) :
    CanFill p n kept' := by
  rcases h with rfl | ⟨hcopies, hlength⟩
  · exact .inl (Nat.le_zero.1 hle)
  · have hcount : n / p.length + 1 ≤ m / p.length + 1 :=
      Nat.succ_le_succ (Nat.div_le_div_right hle)
    exact .inr ⟨Nat.le_trans (Nat.mul_le_mul_left _ hcount) hcopies, Nat.le_trans hsum hlength⟩

/-- Of two fills in one text it is the longer one that matters. -/
theorem canFill_max : CanFill p (max n m) (kept + min n m) ↔
    CanFill p n (kept + m) ∧ CanFill p m (kept + n) := by
  constructor
  · intro h
    exact ⟨h.mono (Nat.le_max_left _ _) (by omega), h.mono (Nat.le_max_right _ _) (by omega)⟩
  · rintro ⟨hn, hm⟩
    rcases Nat.le_total n m with h | h
    · rwa [Nat.max_eq_right h, Nat.min_eq_left h]
    · rwa [Nat.max_eq_left h, Nat.min_eq_right h]

/-- A fill is refused only if it cannot be made. -/
theorem checkFill_eq (hp : p ≠ []) (n kept : Nat) :
    checkFill p n kept = if CanFill p n kept then .ok () else .error .tooLarge := by
  have hpos : 0 < p.length := List.length_pos_iff.2 hp
  by_cases hn : n = 0
  · subst hn
    rw [if_pos (.inl rfl), checkFill, if_pos (by simp)]
  · have hcopies : n / p.length + 1 ≤ p.length * (n / p.length + 1) :=
      Nat.le_mul_of_pos_left _ hpos
    have hcan : CanFill p n kept ↔ p.length * (n / p.length + 1) ≤ maxLength ∧
        n + kept ≤ maxLength := or_iff_right hn
    rw [checkFill, if_neg (by simp [hp, hn]), if_congr hcan rfl rfl, checkCopies, checkLength]
    by_cases hfits : p.length * (n / p.length + 1) ≤ maxLength
    · rw [if_neg (by omega), ok_bind]
      by_cases hlength : n + kept ≤ maxLength
      · rw [if_neg (Nat.not_lt.2 hlength), if_pos ⟨hfits, hlength⟩]
      · rw [if_pos (Nat.not_le.1 hlength), if_neg (mt And.right hlength)]
    · rw [if_pos (by omega), if_neg (mt And.left hfits), error_bind]

end Text

/-! ## The padding functions -/

namespace Catalogue

open Text

variable {t p : Text} {target : Int} {left right : Nat}

/-- The text between two fills, as long as was asked for; or a refusal, if the fills cannot be made
    beside the text and each other. -/
def Pads (t p : Text) (target : Int) (left right : Nat) (r : Except Fault Value) : Prop :=
  if CanFill p left (t.length + right) ∧ CanFill p right (t.length + left) then
    ∃ f g, IsFill p left f ∧ IsFill p right g ∧ r = .ok (.text (f ++ t ++ g)) ∧
      ((f ++ t ++ g).length : Int) = max target t.length
  else r = .error .tooLarge

theorem pads_padded (hp : p ≠ []) {longest : Nat → Nat} {pad : Text → Int → Text → Text}
    (hpad : pad t target p = fill p left ++ t ++ fill p right)
    (hsum : left + right = t.missing target)
    (hlongest : longest (t.missing target) = max left right) :
    Pads t p target left right (padded longest pad (.text t) (.int target) (.text p)) := by
  have hpadded : padded longest pad (.text t) (.int target) (.text p) =
      (checkFill p (longest (t.missing target))
        (t.length + (t.missing target - longest (t.missing target))) >>=
          fun _ => .ok (.text (pad t target p))) := rfl
  have hshorter : t.missing target - max left right = min left right := by omega
  rw [hpadded, checkFill_eq hp, hlongest, hshorter, hpad, Pads]
  simp only [canFill_max]
  split_ifs
  · have hleft := isFill_fill hp left
    have hright := isFill_fill hp right
    refine ⟨_, _, hleft, hright, rfl, ?_⟩
    simp only [List.length_append, hleft.length_eq, hright.length_eq]
    unfold missing at hsum
    omega
  · rfl

/-- **Padding reaches the target and keeps the text whole**, if what is made can be addressed.  Each
    fill repeats the pattern from its beginning; on both sides, the right one takes an odd character.
    Without a pattern nothing is put beside the text. -/
theorem padding_reaches (t p : Text) (target : Int) :
    let padding (name : String) := (call name.toList [.text t, .int target, .text p] []).result
    let m := (target - t.length).toNat
    (p ≠ [] → Pads t p target m 0 (padding "pad_left") ∧
      Pads t p target 0 m (padding "pad_right") ∧
      Pads t p target (m / 2) (m - m / 2) (padding "pad")) ∧
    (p = [] → padding "pad_left" = .ok (.text t) ∧ padding "pad_right" = .ok (.text t) ∧
      padding "pad" = .ok (.text t)) := by
  intro padding m
  have hleft : padding "pad_left" = padded id padLeft (.text t) (.int target) (.text p) := rfl
  have hright : padding "pad_right" = padded id padRight (.text t) (.int target) (.text p) := rfl
  have hboth : padding "pad" =
      padded (fun n => n - n / 2) padBoth (.text t) (.int target) (.text p) := rfl
  rw [hleft, hright, hboth]
  constructor
  · intro hp
    have hnone : fill p 0 = [] := List.length_eq_zero_iff.1 (isFill_fill hp 0).length_eq
    refine ⟨pads_padded hp ?_ rfl ?_, pads_padded hp ?_ ?_ ?_, pads_padded hp rfl ?_ ?_⟩
    · rw [hnone, List.append_nil]
      rfl
    · exact (Nat.max_zero _).symm
    · rw [hnone, List.nil_append]
      rfl
    · exact Nat.zero_add _
    · exact (Nat.zero_max _).symm
    · exact Nat.add_sub_cancel' (Nat.div_le_self _ _)
    · change m - m / 2 = max (m / 2) (m - m / 2)
      omega
  · rintro rfl
    refine ⟨?_, ?_, ?_⟩
    · rfl
    · exact congrArg (fun u => Except.ok (Value.text u)) (List.append_nil t)
    · exact congrArg (fun u => Except.ok (Value.text u)) (List.append_nil t)

theorem padding_reaches_dog :
    "-=".toList ≠ [] ∧ CanFill "-=".toList 2 (3 + 3) ∧ CanFill "-=".toList 3 (3 + 2) ∧
      Pads "dog".toList "-=".toList 8 2 3
        (call "pad".toList [.text "dog".toList, .int 8, .text "-=".toList] []).result ∧
      (call "pad".toList [.text "dog".toList, .int 8, .text "-=".toList] []).result =
        .ok (.text "-=dog-=-".toList) :=
  ⟨by decide, by decide, by decide,
    ((padding_reaches "dog".toList "-=".toList 8).1 (by decide)).2.2, rfl⟩

/-- A fill of `2 ^ 63` characters, more than can be addressed, is refused. -/
theorem padding_tooLong :
    (call "pad_left".toList [.text [], .int 9223372036854775808, .text [' ']] []).result =
      .error .tooLarge := rfl

end Catalogue

end Textwork
