/-
  Texts searched for through patterns.

  * `compile?_escapeText`: an escaped text is read as this text;
  * `search_escapeText`: searching for it, and matching it as a whole, is searching
    for the text itself and comparing with it.
-/
import Textwork.Catalogue.Matching
import Textwork.Catalogue.Positions
import Textwork.Proofs.Pattern.Reading

namespace Textwork

open Pattern

variable {t w : Text}

/-! ## Occurrences -/

namespace Text

theorem find?_nil (w : Text) : find? w [] = if w = [] then some 0 else none := by
  cases w <;> rfl

theorem find?_cons (w : Text) (c : Char) (t : Text) :
    find? w (c :: t) =
      if w.isPrefixOf (c :: t) then some 0 else (find? w t).map (· + 1) := by
  rw [find?, cut?]
  split_ifs
  · rfl
  · rw [find?, Option.map_map, Option.map_map]
    rfl

end Text

namespace Pattern

theorem begins_exact (w t : Text) : Folding.exact.begins w t = w.isPrefixOf t := by
  induction w generalizing t with
  | nil => rfl
  | cons c w ih =>
    cases t with
    | nil => rfl
    | cons d t =>
      rw [Folding.begins, ih, List.isPrefixOf_cons_cons, Folding.same, Bool.beq_comm]

/-- A text is found first where it occurs first. -/
theorem firstStretch_exact (w t : Text) :
    firstStretch (Folding.exact.leading? w) t = (Text.find? w t).map (·, w.length) := by
  induction t with
  | nil =>
    rw [firstStretch, Text.find?_nil, Folding.leading?, begins_exact]
    cases w <;> rfl
  | cons c t ih =>
    rw [firstStretch, Text.find?_cons, Folding.leading?, begins_exact, ih]
    split_ifs
    · rfl
    · rw [Option.map_map, Option.map_map]
      rfl

/-! ## Escaped texts -/

theorem quotes_specials : Quotes specials.elem := quotes_elem (by decide) (by decide)

/-- An escaped text is read as the tree of the text. -/
theorem compile?_escapeText (w : Text) :
    compile? (escapeText w) .plain =
      .ok ⟨escapeText w, .plain, literals .exact w, 0, []⟩ :=
  compile?_alternatives quotes_specials rfl rfl w []

theorem matchesWhole_escapeText {p : Pattern} (hp : compile? (escapeText w) .plain = .ok p) :
    p.matchesWhole t = true ↔ t = w := by
  obtain rfl := Except.ok.inj ((compile?_escapeText w).symm.trans hp)
  rw [(reads_literals .exact w).matchesWhole_iff, Folding.leading?, begins_exact]
  constructor
  · intro h
    split_ifs at h with hw
    exact ((List.isPrefixOf_iff_prefix.1 hw).eq_of_length (Option.some.inj h)).symm
  · rintro rfl
    rw [if_pos (List.isPrefixOf_iff_prefix.2 (List.prefix_refl t))]

end Pattern

namespace Catalogue

theorem patternOf_text (w : Text) : patternOf (.text w) (.int 0) = compile? w .plain := by
  have hflags : Flags.ofInt? 0 = .ok .plain := rfl
  have hrange : (-2147483648 : Int) ≤ 0 ∧ (0 : Int) ≤ 2147483647 := by decide
  change compileWith? w 0 = _
  simp only [compileWith?, hflags, if_pos hrange]
  cases compile? w .plain <;> rfl

theorem search_of_le {p : Pattern} (hp : compile? w .plain = .ok p) {k : Nat} (hk : k ≤ t.length) :
    search (.text t) (.text w) (.int k) =
      .ok (.int (Text.orMinusOne ((p.search? t k).map (·.start)))) := by
  have hrange : ¬((k : Int) < 0 ∨ (t.length : Int) < k) := by omega
  change (if (k : Int) < 0 ∨ (t.length : Int) < k then _ else _) = _
  rw [if_neg hrange, patternOf_text, hp]
  rfl

/-- **An escaped text is a pattern for the text itself**: it is found where the text is found, and
    matches nothing else. -/
theorem search_escapeText (t w : Text) :
    (∀ k : Int, 0 ≤ k → k ≤ t.length → ∃ i : Int,
      search (.text t) (.text (escapeText w)) (.int k) = .ok (.int i) ∧
      indexOf (.text t) (.text w) (.int k) = .ok (.int i)) ∧
    ∃ p, compile? (escapeText w) .plain = .ok p ∧ (p.matchesWhole t = true ↔ t = w) := by
  have hcompile := compile?_escapeText w
  refine ⟨fun k hk hle => ?_, _, hcompile, matchesWhole_escapeText hcompile⟩
  obtain ⟨k, rfl⟩ := Int.eq_ofNat_of_zero_le hk
  have hk : k ≤ t.length := Int.ofNat_le.1 hle
  refine ⟨t.indexOf w k, ?_, rfl⟩
  have hreads := reads_literals .exact w
  rw [search_of_le hcompile hk, Reads.search?_eq hreads hk, firstStretch_exact,
    Text.indexOf, Int.toNat_natCast, if_neg (Nat.not_lt.2 hk), Option.map_map, Option.map_map]
  simp [Function.comp_def, Nat.add_comm]

/-- Signs that would be a set and its repetition, from the second position on. -/
theorem search_escapeText_signs :
    (0 : Int) ≤ 1 ∧ (1 : Int) ≤ "[^a]+\\[^a]+".toList.length ∧
      search (.text "[^a]+\\[^a]+".toList) (.text (escapeText "[^a]+".toList)) (.int 1) =
        .ok (.int 6) := by
  have hindex : indexOf (.text "[^a]+\\[^a]+".toList) (.text "[^a]+".toList) (.int 1) =
      .ok (.int 6) := by
    cbv
  obtain ⟨i, hsearch, hi⟩ :=
    (search_escapeText "[^a]+\\[^a]+".toList "[^a]+".toList).1 1 (by decide) (by decide)
  exact ⟨by decide, by decide, hsearch.trans (hi.symm.trans hindex)⟩

end Catalogue

end Textwork
