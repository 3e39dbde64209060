/-
  A text in lines of bounded width.

  * `wordWrap_layout`: the lines take all of the text but spaces, and fit;
  * `WholeLines`: lines of a text that all have a body, none followed by a break
    that no line follows;
  * `wordWrap_wholeLines`: wrapping gives such lines, unless the text ends with a
    space behind a line that is full.
-/
import Textwork.Catalogue.Layout
import Textwork.Proofs.Text.Lines

namespace Textwork.Text

open Template (weave)

variable {t out separator indent : Text} {gaps bodies : List Text}

/-! ## Lines that all have a body -/

/-- Pieces of the text `t` in their order, none of them empty, each behind the indent, with a
    separator between neighbours. -/
def WholeLines (separator indent t out : Text) : Prop :=
  ∃ gaps bodies : List Text, gaps.length = bodies.length + 1 ∧ weave gaps bodies = t ∧
    bodies ≠ [] ∧ [] ∉ bodies ∧ out = join separator (bodies.map (indent ++ ·))

theorem mem_weave (hlen : gaps.length = bodies.length + 1) {b : Text} (hb : b ∈ bodies) {c : Char}
    (hc : c ∈ b) : c ∈ weave gaps bodies := by
  induction bodies generalizing gaps with
  | nil => simp at hb
  | cons b' bodies ih =>
    obtain ⟨d, ds, rfl⟩ := List.exists_cons_of_length_pos (by omega : 0 < gaps.length)
    rw [weave, List.mem_append, List.mem_append]
    rcases List.mem_cons.1 hb with rfl | hb
    · exact .inl (.inr hc)
    · exact .inr (ih (by simpa using hlen) hb)

/-- Such lines end as one of the bodies does. -/
theorem getLast?_join (separator indent : Text) (hne : bodies ≠ []) (hn : [] ∉ bodies) :
    ∃ b ∈ bodies, b ≠ [] ∧ (join separator (bodies.map (indent ++ ·))).getLast? = b.getLast? := by
  induction bodies with
  | nil => exact absurd rfl hne
  | cons b bodies ih =>
    obtain ⟨hb, hn⟩ : b ≠ [] ∧ [] ∉ bodies := by simpa [eq_comm] using hn
    cases bodies with
    | nil => exact ⟨b, by simp, hb, List.getLast?_append_of_ne_nil indent hb⟩
    | cons b' bodies =>
      obtain ⟨e, he, hene, hlast⟩ := ih (by simp) hn
      have hjoin : join separator ((b' :: bodies).map (indent ++ ·)) ≠ [] := fun hnil => by
        rw [hnil] at hlast
        exact hene (List.getLast?_eq_none_iff.1 hlast.symm)
      exact ⟨e, List.mem_cons_of_mem _ he, hene,
        (List.getLast?_append_of_ne_nil (indent ++ b ++ separator) hjoin).trans hlast⟩

theorem WholeLines.mem_of_getLast? (h : WholeLines separator indent t out) {c : Char}
    (hc : c ∈ out.getLast?) : c ∈ t := by
  obtain ⟨gaps, bodies, hlen, rfl, hne, hn, rfl⟩ := h
  obtain ⟨b, hb, -, hlast⟩ := getLast?_join separator indent hne hn
  rw [hlast] at hc
  exact mem_weave hlen hb (List.mem_of_getLast? hc)

/-- A separator at the end shows, if the text has not its last character. -/
theorem not_wholeLines_append {c : Char} (hc : c ∈ separator.getLast?) (ht : c ∉ t) (u : Text) :
    ¬WholeLines separator indent t (u ++ separator) := by
  intro h
  have hne : separator ≠ [] := by
    rintro rfl
    cases hc
  exact ht (h.mem_of_getLast? (by rwa [List.getLast?_append_of_ne_nil u hne]))

end Textwork.Text

namespace Textwork.Catalogue

open Text
open Template (weave)

variable {t : Text} {width : ℕ}

/-! ## Wrapping -/

/-- The text of the lines, with one separator more if a break ends the last of them. -/
theorem wordWrap_eq (ht : t ≠ []) (hw : 0 < width) (separator indent : Text) (cut : Value) :
    wordWrap (.text t) (.int width) (.text separator) (.text indent) cut =
      .ok (.text (join separator
        ((wrapLines width hw cut.isTrue t).map fun l => indent ++ l.body) ++
          (if Dangles (wrapLines width hw cut.isTrue t) then separator else []))) := by
  have hwrap : t.wrap width separator indent cut.isTrue =
      (wrapLines width hw cut.isTrue t).flatMap (Line.text separator indent) := by
    simp [Text.wrap, hw, ht]
  rw [← flatMap_text _ _ (wraps_wrapLines hw cut.isTrue t).broken_of_mem_dropLast, ← hwrap]
  rfl

/-- The lines of a text are pieces of it. -/
theorem exists_layout (ht : t ≠ []) (hw : 0 < width) (separator indent : Text) (cut : Value) :
    ∃ gaps bodies : List Text, bodies ≠ [] ∧ IsLayout width cut.isTrue gaps bodies t ∧
      wordWrap (.text t) (.int width) (.text separator) (.text indent) cut =
        .ok (.text (join separator (bodies.map (indent ++ ·)) ++
          (if Dangles (wrapLines width hw cut.isTrue t) then separator else []))) := by
  have hwraps := wraps_wrapLines hw cut.isTrue t
  obtain ⟨gaps, hlayout⟩ := hwraps.exists_isLayout hw
  refine ⟨gaps, _, ?_, hlayout, ?_⟩
  · simpa using hwraps.ne_nil hw ht
  · rw [wordWrap_eq ht hw, List.map_map]
    rfl

/-- **Wrapping keeps to the width and leaves out nothing but spaces.** -/
theorem wordWrap_layout (ht : t ≠ []) (hw : 0 < width) (separator indent : Text) (cut : Value) :
    ∃ (gaps bodies : List Text) (final : Text), bodies ≠ [] ∧
      IsLayout width cut.isTrue gaps bodies t ∧
      bodies.flatten.filter (· ≠ ' ') = t.filter (· ≠ ' ') ∧
      (final = [] ∨ final = separator) ∧
      wordWrap (.text t) (.int width) (.text separator) (.text indent) cut =
        .ok (.text (join separator (bodies.map (indent ++ ·)) ++ final)) := by
  obtain ⟨gaps, bodies, hne, hlayout, hwrap⟩ := exists_layout ht hw separator indent cut
  refine ⟨gaps, bodies, _, hne, hlayout, ?_, ?_, hwrap⟩
  · rw [← filter_weave hlayout.length_eq hlayout.spaces, hlayout.weave_eq]
  · split_ifs
    · exact .inr rfl
    · exact .inl rfl

/-- A word that is too long, between two breaks. -/
theorem wordWrap_layout_longWord :
    "to  uninitiated, ".toList ≠ [] ∧ 0 < 4 ∧
      ∃ (gaps bodies : List Text) (final : Text), bodies ≠ [] ∧
        IsLayout 4 false gaps bodies "to  uninitiated, ".toList ∧
        join ['\n'] (bodies.map (['*'] ++ ·)) ++ final = "*to \n*uninitiated,\n".toList := by
  have ht : "to  uninitiated, ".toList ≠ [] := by decide
  have hrun : wordWrap (.text "to  uninitiated, ".toList) (.int 4) (.text ['\n']) (.text ['*'])
      (.bool false) = .ok (.text "*to \n*uninitiated,\n".toList) := by
    cbv
  obtain ⟨gaps, bodies, final, hne, hlayout, -, -, hwrap⟩ :=
    wordWrap_layout ht (by decide : 0 < 4) ['\n'] ['*'] (.bool false)
  exact ⟨ht, by decide, gaps, bodies, final, hne, hlayout,
    Value.text.inj (Except.ok.inj (hwrap.symm.trans hrun))⟩

/-- **Every line has the indent and a body, and a separator stands between neighbours only**, unless
    the text ends with a space behind a line that is full: then a separator ends the text, which
    shows if its last character is not one of the text. -/
theorem wordWrap_wholeLines (ht : t ≠ []) (hw : 0 < width) (separator indent : Text) (cut : Value) :
    ∃ u, WholeLines separator indent t u ∧
      (¬EndsBehindFull width cut.isTrue t →
        wordWrap (.text t) (.int width) (.text separator) (.text indent) cut = .ok (.text u)) ∧
      (EndsBehindFull width cut.isTrue t →
        wordWrap (.text t) (.int width) (.text separator) (.text indent) cut =
          .ok (.text (u ++ separator)) ∧
        ∀ c ∈ separator.getLast?, c ∉ t → ¬WholeLines separator indent t (u ++ separator)) := by
  obtain ⟨gaps, bodies, hne, hlayout, hwrap⟩ := exists_layout ht hw separator indent cut
  have hn : [] ∉ bodies := fun hmem => (hlayout.fits [] hmem).1 rfl
  refine ⟨_, ⟨gaps, bodies, hlayout.length_eq, hlayout.weave_eq, hne, hn, rfl⟩, fun hfull => ?_,
    fun hfull => ⟨?_, fun c hc hct => not_wholeLines_append hc hct _⟩⟩
  · rw [hwrap, if_neg (mt (dangles_wrapLines_iff hw).1 hfull), List.append_nil]
  · rw [hwrap, if_pos ((dangles_wrapLines_iff hw).2 hfull)]

/-- A full line at the end of the text. -/
theorem wordWrap_wholeLines_words :
    "Hello World".toList ≠ [] ∧ 0 < 5 ∧ ∃ u, WholeLines ['\n'] ['*'] "Hello World".toList u ∧
      wordWrap (.text "Hello World".toList) (.int 5) (.text ['\n']) (.text ['*'])
        (.bool false) = .ok (.text u) := by
  have ht : "Hello World".toList ≠ [] := by decide
  obtain ⟨u, hwhole, hwrap, -⟩ :=
    wordWrap_wholeLines ht (by decide : 0 < 5) ['\n'] ['*'] (.bool false)
  refine ⟨ht, by decide, u, hwhole, hwrap ?_⟩
  rintro ⟨v, ls, hv, -⟩
  have hlast := congrArg List.getLast? hv
  simp at hlast

/-- One space more behind a full line. -/
theorem wordWrap_dangling :
    wordWrap (.text "Hello ".toList) (.int 5) (.text ['\n']) (.text ['*']) (.bool false) =
        .ok (.text "*Hello\n".toList) ∧
      ¬WholeLines ['\n'] ['*'] "Hello ".toList "*Hello\n".toList := by
  constructor
  · cbv
  · exact not_wholeLines_append (c := '\n') (by decide) (by decide) "*Hello".toList

end Textwork.Catalogue
