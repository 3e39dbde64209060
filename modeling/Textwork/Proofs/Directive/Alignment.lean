/-
  Rendered values brought to the width of a directive.

  * `ReachesWidth w n`: a text of `n` characters can be filled up to the width
    `w` with copies of one character;
  * `align_eq`: with such a fill the missing characters are added on one side;
  * `FillsWith` says which character a fill stands for, as it is written;
  * `compute_width`: what a match of a template makes of a value has the width that
    it asks for, or the length of the value if that is greater.
-/
import Textwork.Directive.Template
import Textwork.Proofs.Directive.Outcome

namespace Textwork

/-! ## Fills of one character -/

namespace Text

theorem fill_singleton (c : Char) (n : Nat) : fill [c] n = List.replicate n c := by
  simp [fill, List.flatten_replicate_singleton]

theorem missing_natCast (t : Text) (w : Nat) : t.missing w = w - t.length := by
  unfold missing
  omega

/-- A text of `n` characters can be filled up to the width `w` with copies of one character: nothing
    is missing, or the text of that width can be addressed, and so can the copies, of which one more is
    made than is missing. -/
def ReachesWidth (w n : Nat) : Prop := w ≤ n ∨ w ≤ maxLength ∧ w - n < maxLength

instance (w n : Nat) : Decidable (ReachesWidth w n) := inferInstanceAs (Decidable (_ ∨ _))

theorem reachesWidth_of_lt {w : Nat} (h : w < maxLength) (n : Nat) : ReachesWidth w n :=
  .inr ⟨Nat.le_of_lt h, Nat.lt_of_le_of_lt (Nat.sub_le w n) h⟩

theorem checkFill_singleton (c : Char) (w n : Nat) :
    checkFill [c] (w - n) n = if ReachesWidth w n then .ok () else .error .tooLarge := by
  by_cases hw : w ≤ n
  · rw [if_pos (.inl hw), Nat.sub_eq_zero_of_le hw]
    rfl
  · have hlong : ReachesWidth w n ↔ w ≤ maxLength ∧ w - n < maxLength := or_iff_right hw
    have hsum : w - n + n = w := by omega
    have hcheck : checkFill [c] (w - n) n =
        (checkCopies 1 (w - n + 1) >>= fun _ => checkLength (w - n + n)) := by
      simp [checkFill, Nat.sub_eq_zero_iff_le, hw]
    rw [hcheck, hsum, if_congr hlong rfl rfl, checkCopies, checkLength]
    by_cases hcopies : w - n < maxLength
    · rw [if_neg (by omega), ok_bind]
      by_cases hlength : w ≤ maxLength
      · rw [if_neg (Nat.not_lt.2 hlength), if_pos ⟨hlength, hcopies⟩]
      · rw [if_pos (Nat.not_le.1 hlength), if_neg (mt And.left hlength)]
    · rw [if_pos (by omega), if_neg (mt And.right hcopies), error_bind]

end Text

namespace Directive

open Template

variable {c : Char} {spec : Specification} {k : Conversion} {v : Value} {r t : Text}

/-- A text with `n` copies of a character behind it or before it. -/
def filled (left : Bool) (n : Nat) (c : Char) (t : Text) : Text :=
  if left then t ++ List.replicate n c else List.replicate n c ++ t

theorem length_filled (left : Bool) (n : Nat) (c : Char) (t : Text) :
    (filled left n c t).length = n + t.length := by
  unfold filled
  split_ifs <;> simp [Nat.add_comm]

theorem aligned_singleton (left : Bool) (w : Nat) (c : Char) (t : Text) :
    aligned left w [c] t = filled left (w - t.length) c t := by
  unfold aligned filled Text.padRight Text.padLeft
  rw [Text.missing_natCast, Text.fill_singleton]

/-- **A text is filled up to the width**, if a text of that width can be made. -/
theorem align_eq {default : Text} (hc : spec.fill default = [c]) (t : Text) :
    align spec default t =
      if Text.ReachesWidth (spec.width.getD 0) t.length then
        .ok (filled spec.leftAligned (spec.width.getD 0 - t.length) c t)
      else .error .tooLarge := by
  unfold align
  cases hw : spec.width with
  | none =>
    have hreaches : Text.ReachesWidth 0 t.length := .inl (Nat.zero_le _)
    rw [Option.getD_none, if_pos hreaches, Nat.zero_sub]
    simp [filled]
  | some w =>
    simp only [hc, Text.missing_natCast, Text.checkFill_singleton, aligned_singleton,
      Option.getD_some]
    split_ifs <;> rfl

/-! ## Fills that are written -/

/-- The character that a fill stands for: a zero, a space, the one behind a quote, or a default one
    where no fill is written. -/
inductive FillsWith (default : Char) : Option Text → Char → Prop
  | absent : FillsWith default none default
  | zero : FillsWith default (some ['0']) '0'
  | space : FillsWith default (some [' ']) ' '
  | quoted (c : Char) : FillsWith default (some ['\'', c]) c

theorem FillsWith.fill_eq {default : Char} (h : FillsWith default spec.padding c) :
    spec.fill [default] = [c] := by
  unfold Specification.fill
  generalize spec.padding = padding at h
  cases h <;> rfl

theorem exists_fillsWith (default : Char) (fill : Option Fill) :
    ∃ c, FillsWith default (fill.map Fill.written) c := by
  rcases fill with _ | _ | _ | c
  · exact ⟨default, .absent⟩
  · exact ⟨'0', .zero⟩
  · exact ⟨' ', .space⟩
  · exact ⟨c, .quoted c⟩

theorem padding_of_specification? {dir : Directive} (h : dir.specification? = .ok spec) :
    spec.padding = dir.fill.map Fill.written := by
  obtain ⟨width, -, h⟩ := bind_eq_ok_iff.1 h
  obtain ⟨precision, -, h⟩ := bind_eq_ok_iff.1 h
  obtain rfl := Except.ok.inj h
  rfl

/-- With a letter a match is a directive, so that it has one of these fills. -/
theorem exists_fillsWith_found {m : Found} (h : m.specification? = .ok spec)
    (hk : spec.conversion = some k) (default : Char) : ∃ c, FillsWith default spec.padding c := by
  unfold Found.specification? at h
  split at h
  · obtain rfl := Except.ok.inj h
    cases hk
  · next dir _ =>
    rw [padding_of_specification? h]
    exact exists_fillsWith default dir.fill

/-! ## Rendered values -/

theorem result_compute {d : Defaults} (hk : spec.conversion = some k)
    (hr : (render d spec k v).result = .ok r) :
    (compute d spec v).result = align spec d.padding r := by
  simp [compute, hk, hr]

theorem exists_of_renderString (h : (renderString spec v).result = .ok r) :
    ∃ u, v.toText = .ok u ∧ (∀ p, spec.precision = some p → r = u.take p) ∧
      (spec.precision = none → r = u) := by
  rw [renderString, Traced.result_bind] at h
  obtain ⟨u, hu, h⟩ := bind_eq_ok_iff.1 h
  obtain rfl := Except.ok.inj h
  exact ⟨u, hu, fun p hp => by rw [hp]; rfl, fun hp => by rw [hp]; rfl⟩

/-- **A rendered value is filled up to the width of its directive**, on the right with `-` and on
    the left without, if a text of that width can be made. -/
theorem compute_width (s : Settings) {m : Found} (hm : m.specification? = .ok spec)
    (hk : spec.conversion = some k) (hr : (render s.defaults spec k v).result = .ok r) :
    ∃ f, FillsWith s.padding spec.padding f ∧
      (Text.ReachesWidth (spec.width.getD 0) r.length →
        (compute s.defaults spec v).result =
          .ok (filled (spec.alignment = some ['-']) (spec.width.getD 0 - r.length) f r)) ∧
      (¬Text.ReachesWidth (spec.width.getD 0) r.length →
        (compute s.defaults spec v).result = .error .tooLarge) ∧
      (∀ out, (compute s.defaults spec v).result = .ok out →
        out.length = max (spec.width.getD 0) r.length) ∧
      (k = .string → ∃ u, v.toText = .ok u ∧
        (∀ p, spec.precision = some p → r = u.take p) ∧ (spec.precision = none → r = u)) := by
  obtain ⟨f, hf⟩ := exists_fillsWith_found hm hk s.padding
  have hcompute : (compute s.defaults spec v).result = align spec [s.padding] r :=
    result_compute hk hr
  have hleft : spec.leftAligned = decide (spec.alignment = some ['-']) :=
    Bool.beq_eq_decide_eq _ _
  rw [hcompute, align_eq hf.fill_eq, hleft]
  refine ⟨f, hf, fun hreaches => if_pos hreaches, fun hreaches => if_neg hreaches,
    fun out hout => ?_, fun hstring => ?_⟩
  · split_ifs at hout
    obtain rfl := Except.ok.inj hout
    rw [length_filled]
    omega
  · subst hstring
    exact exists_of_renderString hr

/-- Stars behind a text. -/
theorem compute_width_stars :
    (compute (Settings.defaults ⟨6, 32, ' ', by decide⟩)
      { Specification.bare with
        padding := some ['\'', '*'], alignment := some ['-'], width := some 5
        conversion := some .string }
      (.text "ab".toList)).result = .ok "ab***".toList := by
  obtain ⟨f, hf, hfilled, -⟩ := compute_width ⟨6, 32, ' ', by decide⟩
    (m := ⟨0, 7, some (read "'*-5s".toList).1⟩) (k := .string) (v := .text "ab".toList)
    (r := "ab".toList) rfl rfl rfl
  cases hf
  exact hfilled (by decide)

/-- A text of that width cannot be addressed. -/
theorem compute_tooWide :
    ∃ m ∈ directives "%9223372036854775808s".toList, ∃ spec : Specification,
      m.specification? = .ok spec ∧ spec.conversion = some .string ∧
      (render Settings.standard.defaults spec .string (.text ['a'])).result = .ok ['a'] ∧
      (compute Settings.standard.defaults spec (.text ['a'])).result = .error .tooLarge := by
  refine ⟨⟨0, 21, some (read "9223372036854775808s".toList).1⟩, by decide +kernel,
    { Specification.bare with width := some (2 ^ 63), conversion := some .string }, ?_⟩
  decide +kernel

end Directive

end Textwork
