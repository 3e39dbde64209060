/-
  How the lines of a text come about.

  * `FirstLine` says what the first line of a text that is too long takes, and
    what is left behind the break;
  * `Wraps` are the lines of a whole text by that rule; `wrapLines_eq_iff`:
    these are the lines that `wrapLines` gives;
  * `Wraps.exists_isLayout`: the lines take all of the text but spaces;
  * `dangles_wrapLines_iff`: a break ends the last line exactly if that line is
    full and one space more ends the text.
-/
import Textwork.Proofs.Directive.Gaps
import Textwork.Proofs.Text.Occurrences
import Textwork.Text.Layout

namespace Textwork.Text

open Template (weave)

variable {width : Nat} {cut : Bool} {c : Char} {t u b rest before after : Text} {ls : List Line}

/-! ## Search for a character -/

theorem cut?_char_eq_none : cut? [c] t = none ↔ c ∉ t := by
  rw [cut?_eq_none_iff, List.singleton_infix_iff]

theorem cut?_char_eq_some (h : cut? [c] t = some (before, after)) :
    t = before ++ c :: after ∧ c ∉ before := by
  have hfirst := isFirst_of_cut? h
  refine ⟨by simpa using hfirst.eq_append, fun hc => ?_⟩
  exact hfirst.not_infix (List.cons_ne_nil c []) ((List.singleton_infix_iff c before).2 hc)

theorem findLast?_char_eq_none : findLast? [c] t = none ↔ c ∉ t := by
  induction t with
  | nil => simp [findLast?]
  | cons d t ih => by_cases hd : c = d <;> cases hf : findLast? [c] t <;> simp_all [findLast?]

theorem findLast?_char_eq_some {k : Nat} (h : findLast? [c] t = some k) :
    ∃ before after, t = before ++ c :: after ∧ before.length = k ∧ c ∉ after := by
  induction t generalizing k with
  | nil => simp [findLast?] at h
  | cons d t ih =>
    cases hf : findLast? [c] t with
    | some i =>
      obtain ⟨before, after, rfl, rfl, hn⟩ := ih hf
      obtain rfl : before.length + 1 = k := by simpa [findLast?, hf] using h
      exact ⟨d :: before, after, rfl, rfl, hn⟩
    | none =>
      obtain ⟨rfl, rfl⟩ : c = d ∧ 0 = k := by simpa [findLast?, hf] using h
      exact ⟨[], t, rfl, rfl, findLast?_char_eq_none.1 hf⟩

/-- What stands at the end of the shorter of two beginnings of a text is in the longer one. -/
theorem exists_append_of_length_lt {a : Text} (h : a ++ c :: u = b ++ rest)
    (hlt : a.length < b.length) : ∃ w, b = a ++ c :: w ∧ u = w ++ rest := by
  obtain ⟨w, rfl, hw⟩ | ⟨w, rfl, -⟩ := List.append_eq_append_iff.1 h
  · cases w with
    | nil => simp at hlt
    | cons d w =>
      obtain ⟨rfl, rfl⟩ := List.cons_eq_cons.1 hw
      exact ⟨w, rfl, rfl⟩
  · rw [List.length_append] at hlt
    omega

theorem mem_take_of_length_lt {n : Nat} (h : b.length < n) : c ∈ (b ++ c :: rest).take n :=
  List.mem_take_iff_getElem.2 ⟨b.length, by simp; omega, by simp⟩

/-! ## The rule -/

/-- A line of the width at most, or a word that is too long and left whole. -/
def Fits (width : Nat) (cut : Bool) (b : Text) : Prop :=
  b.length ≤ width ∨ cut = false ∧ ' ' ∉ b

theorem not_fits_cons (h : width ≤ t.length) : ¬Fits width cut (' ' :: t) := by
  rintro (hle | ⟨-, hs⟩)
  · exact Nat.not_succ_le_self _ (Nat.le_trans hle h)
  · exact hs List.mem_cons_self

/-- The first line of a text that is longer than the width: its body, and the text left behind the
    break. -/
inductive FirstLine (width : Nat) (cut : Bool) : Text → Text → Text → Prop
  /-- The last space that lets the line fit is the break. -/
  | space (b rest : Text) : b.length ≤ width → width ≤ b.length + rest.length →
      ' ' ∉ rest.take (width - b.length) → FirstLine width cut (b ++ ' ' :: rest) b rest
  /-- A word that is too long is broken. -/
  | broken (b rest : Text) : cut = true → b.length = width → ' ' ∉ b → rest ≠ [] →
      rest.head? ≠ some ' ' → FirstLine width cut (b ++ rest) b rest
  /-- A word that is too long is left whole. -/
  | whole (b rest : Text) : cut = false → width < b.length → ' ' ∉ b →
      FirstLine width cut (b ++ ' ' :: rest) b rest

/-- The lines of a text. -/
inductive Wraps (width : Nat) (cut : Bool) : Text → List Line → Prop
  | nil : Wraps width cut [] []
  | last (t : Text) : t ≠ [] → Fits width cut t → Wraps width cut t [⟨t, false⟩]
  | skip (t : Text) (ls : List Line) : width ≤ t.length → Wraps width cut t ls →
      Wraps width cut (' ' :: t) ls
  | line (t b rest : Text) (ls : List Line) : t.head? ≠ some ' ' → FirstLine width cut t b rest →
      Wraps width cut rest ls → Wraps width cut t (⟨b, true⟩ :: ls)

namespace FirstLine

theorem lt_length (h : FirstLine width cut t b rest) : width < t.length := by
  cases h with
  | space _ _ hb hr => simp; omega
  | broken _ _ _ hb _ hr =>
    have := List.length_pos_iff.2 hr
    simp; omega
  | whole _ _ _ hb => simp; omega

theorem fits (h : FirstLine width cut t b rest) : Fits width cut b := by
  cases h with
  | space _ _ hb => exact .inl hb
  | broken _ _ _ hb => exact .inl (Nat.le_of_eq hb)
  | whole _ _ hc _ hs => exact .inr ⟨hc, hs⟩

theorem not_fits (h : FirstLine width cut t b rest) : ¬Fits width cut t := by
  rintro (hle | ⟨hc, hs⟩)
  · exact Nat.not_lt_of_le hle h.lt_length
  · cases h with
    | space | whole => simp at hs
    | broken _ _ hc' => simp [hc] at hc'

theorem ne_nil (positive : 0 < width) (hn : t.head? ≠ some ' ')
    (h : FirstLine width cut t b rest) : b ≠ [] := by
  rintro rfl
  cases h with
  | space => exact hn rfl
  | broken _ _ _ hb => exact Nat.ne_of_lt positive hb
  | whole _ _ _ hb => exact Nat.not_lt_zero _ hb

/-- Nothing is lost at a break but a space, and without breaks in words it is there. -/
theorem exists_gap (h : FirstLine width cut t b rest) :
    ∃ gap : Text, t = b ++ gap ++ rest ∧ (∀ c ∈ gap, c = ' ') ∧ (cut = false → gap ≠ []) := by
  cases h with
  | space | whole => exact ⟨[' '], by simp, by simp, by simp⟩
  | broken _ _ hc => exact ⟨[], by simp, by simp, by simp [hc]⟩

theorem body_eq (h : FirstLine width cut t b rest) : b = t.take b.length := by
  cases h <;> simp

/-- A space at the break is dropped. -/
theorem rest_eq (h : FirstLine width cut t b rest) :
    rest = t.drop (if (t.drop b.length).head? = some ' ' then b.length + 1 else b.length) := by
  cases h with
  | space | whole => simp [← List.drop_drop]
  | broken _ _ _ _ _ _ hn => simp [hn]

/-- Two breaks that the rule allows are not apart: a longer body would hold the space behind the
    shorter one. -/
theorem length_le (h : FirstLine width cut t b rest) {b' rest' : Text}
    (h' : FirstLine width cut t b' rest') : b'.length ≤ b.length := by
  refine Nat.le_of_not_lt fun hlt => ?_
  generalize ht : t = t' at h'
  cases h with
  | space _ _ hb _ hs =>
    cases h' with
    | space _ u hb' =>
      obtain ⟨w, rfl, rfl⟩ := exists_append_of_length_lt ht hlt
      exact hs (mem_take_of_length_lt (by simp at hb'; omega))
    | broken _ _ _ _ hs' | whole _ _ _ _ hs' =>
      obtain ⟨w, rfl, -⟩ := exists_append_of_length_lt ht hlt
      simp at hs'
  | broken _ _ hc hb =>
    cases h' with
    | space _ _ hb' | broken _ _ _ hb' => omega
    | whole _ _ hc' => simp [hc] at hc'
  | whole _ _ hc hb =>
    cases h' with
    | space _ _ hb' => omega
    | broken _ _ hc' => simp [hc] at hc'
    | whole _ _ _ _ hs' =>
      obtain ⟨w, rfl, -⟩ := exists_append_of_length_lt ht hlt
      simp at hs'

/-- A space behind a line that fills the width is a break. -/
theorem of_fits (hfits : Fits width cut t) (hge : width ≤ t.length) :
    FirstLine width cut (t ++ [' ']) t [] := by
  have hspace (hle : t.length ≤ width) : FirstLine width cut (t ++ [' ']) t [] :=
    .space t [] hle (by simpa using hge) (by simp)
  rcases hfits with hle | ⟨hcut, hn⟩
  · exact hspace hle
  · rcases Nat.lt_or_ge width t.length with hlt | hle
    · exact .whole t [] hcut hlt hn
    · exact hspace hle

/-- The break is the only one that the rule allows. -/
theorem unique {b' rest' : Text} (h : FirstLine width cut t b rest)
    (h' : FirstLine width cut t b' rest') : b = b' ∧ rest = rest' := by
  have hlen : b.length = b'.length := Nat.le_antisymm (h'.length_le h) (h.length_le h')
  exact ⟨by rw [h.body_eq, h'.body_eq, hlen], by rw [h.rest_eq, h'.rest_eq, hlen]⟩

/-- What follows a text does not change its first line. -/
theorem append (h : FirstLine width cut t b rest) (u : Text) :
    FirstLine width cut (t ++ u) b (rest ++ u) := by
  cases h with
  | space _ _ hb hr hs =>
    rw [List.append_assoc, List.cons_append]
    refine .space _ _ hb (by simp; omega) ?_
    rwa [List.take_append_of_le_length (by omega)]
  | broken _ _ hc hb hs hr hn =>
    rw [List.append_assoc]
    refine .broken _ _ hc hb hs (by simp [hr]) ?_
    rwa [List.head?_append_of_ne_nil _ hr]
  | whole _ _ hc hb hs =>
    rw [List.append_assoc, List.cons_append]
    exact .whole _ _ hc hb hs

/-- The last space among the first characters, one more than the width, is the break. -/
theorem of_findLast? {k : Nat} (hlen : width < t.length)
    (h : findLast? [' '] (t.take (width + 1)) = some k) :
    FirstLine width cut t (t.take k) (t.drop (k + 1)) := by
  obtain ⟨b, after, htake, rfl, hafter⟩ := findLast?_char_eq_some h
  have hsplit : t = b ++ ' ' :: (after ++ t.drop (width + 1)) := by
    calc t = t.take (width + 1) ++ t.drop (width + 1) := (List.take_append_drop _ t).symm
      _ = b ++ ' ' :: (after ++ t.drop (width + 1)) := by rw [htake]; simp
  have hb : b.length + after.length = width := by
    have := congrArg List.length htake
    simp at this
    omega
  -- From here on the text behind the first characters may be any.
  generalize t.drop (width + 1) = u at hsplit
  subst hsplit
  have hrest : (b ++ ' ' :: (after ++ u)).drop (b.length + 1) = after ++ u := by
    rw [← List.drop_drop, List.drop_left, List.drop_one, List.tail_cons]
  rw [List.take_left, hrest]
  refine .space b _ (by omega) (by simp; omega) ?_
  rwa [← hb, Nat.add_sub_cancel_left, List.take_left]

/-- Without a space among them the text is broken at the width, if it may be. -/
theorem of_notMem_take (hlen : width < t.length) (hs : ' ' ∉ t.take (width + 1))
    (hcut : cut = true) : FirstLine width cut t (t.take width) (t.drop width) := by
  have hlast : t.take (width + 1) = t.take width ++ (t.drop width).take 1 := List.take_add
  rw [hlast, List.mem_append, not_or] at hs
  have h : FirstLine width cut (t.take width ++ t.drop width) (t.take width) (t.drop width) := by
    refine .broken _ _ hcut (by simp; omega) hs.1 (by simpa using hlen) fun hhead => hs.2 ?_
    cases hd : t.drop width with
    | nil => rw [hd] at hhead; cases hhead
    | cons d rest =>
      rw [hd] at hhead
      simpa using hhead.symm
  rwa [List.take_append_drop] at h

/-- Else the first space behind the width is the break. -/
theorem of_cut? (hlen : width < t.length) (hs : ' ' ∉ t.take (width + 1)) (hcut : cut = false)
    (h : cut? [' '] t = some (b, rest)) : FirstLine width cut t b rest := by
  obtain ⟨rfl, hb⟩ := cut?_char_eq_some h
  refine .whole b rest hcut (Nat.lt_of_not_le fun hle => hs ?_) hb
  exact mem_take_of_length_lt (Nat.lt_succ_of_le hle)

end FirstLine

/-! ## The lines by the rule -/

namespace Wraps

theorem ne_nil (h : Wraps width cut t ls) (positive : 0 < width) (ht : t ≠ []) : ls ≠ [] := by
  induction h with
  | nil => exact absurd rfl ht
  | last | line => simp
  | skip t ls hlen _ ih => exact ih (List.length_pos_iff.1 (Nat.lt_of_lt_of_le positive hlen))

/-- A break follows every line but the last. -/
theorem broken_of_mem_dropLast (h : Wraps width cut t ls) : ∀ l ∈ ls.dropLast, l.broken = true := by
  induction h with
  | nil | last => simp
  | skip _ _ _ _ ih => exact ih
  | line t b rest ls _ _ _ ih =>
    cases ls with
    | nil => simp
    | cons l ls => simpa using ih

end Wraps

/-- The lines that `wrapLines` gives are those of the rule. -/
theorem wraps_wrapLines (positive : 0 < width) (cut : Bool) (t : Text) :
    Wraps width cut t (wrapLines width positive cut t) := by
  fun_induction wrapLines width positive cut t with
  | case1 t hlen he =>
    obtain rfl := List.isEmpty_iff.1 he
    exact .nil
  | case2 t hlen he => exact .last t (by simpa using he) (.inl hlen)
  | case3 hlen => simp at hlen
  | case4 rest hlen ih => exact .skip _ _ (Nat.le_of_lt_succ (Nat.lt_of_not_le hlen)) ih
  | case5 c rest hc k hk hlen ih =>
    exact .line _ _ _ _ (by simpa using hc) (.of_findLast? (Nat.lt_of_not_le hlen) hk) ih
  | case6 c rest hc hk hcut hlen ih =>
    have hline := FirstLine.of_notMem_take (Nat.lt_of_not_le hlen) (findLast?_char_eq_none.1 hk)
      hcut
    have hdrop : (c :: rest).drop width = rest.drop (width - 1) := List.drop_cons positive
    exact .line _ _ _ _ (by simpa using hc) (hdrop ▸ hline) ih
  | case7 c rest hc hk hcut hnone hlen =>
    exact .last _ (by simp) (.inr ⟨by simpa using hcut, cut?_char_eq_none.1 hnone⟩)
  | case8 c rest hc hk hcut before after hsome hlen ih =>
    have hline := FirstLine.of_cut? (Nat.lt_of_not_le hlen) (findLast?_char_eq_none.1 hk)
      (by simpa using hcut) hsome
    have hafter : rest.drop before.length = after := by
      have hdrop := congrArg (List.drop (before.length + 1)) (cut?_char_eq_some hsome).1
      simpa using hdrop
    exact .line _ _ _ _ (by simpa using hc) hline (hafter ▸ ih)

theorem Wraps.unique {ls' : List Line} (h : Wraps width cut t ls) (h' : Wraps width cut t ls') :
    ls = ls' := by
  induction h generalizing ls' with
  | nil =>
    cases h' with
    | nil => rfl
    | last _ ht => exact absurd rfl ht
    | line _ _ _ _ _ hline => exact absurd hline.lt_length (Nat.not_lt_zero _)
  | last t ht hfits =>
    cases h' with
    | nil => exact absurd rfl ht
    | last => rfl
    | skip _ _ hlen => exact absurd hfits (not_fits_cons hlen)
    | line _ _ _ _ _ hline => exact absurd hfits hline.not_fits
  | skip t ls hlen _ ih =>
    cases h' with
    | last _ _ hfits => exact absurd hfits (not_fits_cons hlen)
    | skip _ _ _ h' => exact ih h'
    | line _ _ _ _ hn => exact absurd rfl hn
  | line t b rest ls hn hline _ ih =>
    cases h' with
    | nil => exact absurd hline.lt_length (Nat.not_lt_zero _)
    | last _ _ hfits => exact absurd hfits hline.not_fits
    | skip => exact absurd rfl hn
    | line _ _ _ _ _ hline' h' =>
      obtain ⟨rfl, rfl⟩ := hline.unique hline'
      rw [ih h']

/-- `wrapLines` gives the lines of the rule and no others. -/
theorem wrapLines_eq_iff (positive : 0 < width) :
    wrapLines width positive cut t = ls ↔ Wraps width cut t ls :=
  ⟨fun h => h ▸ wraps_wrapLines positive cut t, (wraps_wrapLines positive cut t).unique⟩

/-! ## What the lines take -/

/-- A text as the bodies of lines and the gaps before, between and behind them: the gaps are spaces,
    and without breaks in words there is one between neighbours. -/
structure IsLayout (width : Nat) (cut : Bool) (gaps bodies : List Text) (t : Text) : Prop where
  length_eq : gaps.length = bodies.length + 1
  weave_eq : weave gaps bodies = t
  spaces : ∀ gap ∈ gaps, ∀ c ∈ gap, c = ' '
  fits : ∀ b ∈ bodies, b ≠ [] ∧ Fits width cut b
  parted : cut = false → ∀ gap ∈ gaps.tail.dropLast, gap ≠ []

theorem weave_append_cons (u gap : Text) (gaps bodies : List Text) :
    weave ((u ++ gap) :: gaps) bodies = u ++ weave (gap :: gaps) bodies :=
  Template.weave_modifyHead u (List.cons_ne_nil gap gaps) bodies

theorem Wraps.exists_isLayout (h : Wraps width cut t ls) (positive : 0 < width) :
    ∃ gaps, IsLayout width cut gaps (ls.map Line.body) t := by
  induction h with
  | nil => exact ⟨[[]], rfl, rfl, by simp, by simp, by simp⟩
  | last t ht hfits => exact ⟨[[], []], rfl, by simp [weave], by simp, by simp [ht, hfits], by simp⟩
  | skip t ls _ _ ih =>
    obtain ⟨gaps, hlen, rfl, hspaces, hfits, hparted⟩ := ih
    obtain ⟨d, ds, rfl⟩ := List.exists_cons_of_length_pos (by omega : 0 < gaps.length)
    refine ⟨(' ' :: d) :: ds, hlen, weave_append_cons [' '] d ds _, ?_, hfits, hparted⟩
    simpa using hspaces
  | line t b rest ls hn hline _ ih =>
    obtain ⟨gaps, hlen, rfl, hspaces, hfits, hparted⟩ := ih
    obtain ⟨d, ds, rfl⟩ := List.exists_cons_of_length_pos (by omega : 0 < gaps.length)
    have hb : b ≠ [] ∧ Fits width cut b := ⟨hline.ne_nil positive hn, hline.fits⟩
    obtain ⟨gap, rfl, hgap, hne⟩ := hline.exists_gap
    -- The gap at the break comes in front of the spaces that are left out behind it.
    refine ⟨[] :: (gap ++ d) :: ds, by simpa using hlen, ?_, ?_, ?_, fun hcut => ?_⟩
    · rw [List.map_cons, Template.weave_nil_cons, weave_append_cons, List.append_assoc]
    · have hd := List.forall_mem_cons.1 hspaces
      simp only [List.forall_mem_cons, List.forall_mem_append]
      exact ⟨by simp, ⟨hgap, hd.1⟩, hd.2⟩
    · simpa [hb] using hfits
    · cases ds with
      | nil => simp
      | cons d' ds => simpa [hne hcut] using hparted hcut

/-- The bodies hold all that is no space, in its order. -/
theorem filter_weave {gaps bodies : List Text} (hlen : gaps.length = bodies.length + 1)
    (hspaces : ∀ gap ∈ gaps, ∀ c ∈ gap, c = ' ') :
    (weave gaps bodies).filter (· ≠ ' ') = bodies.flatten.filter (· ≠ ' ') := by
  induction bodies generalizing gaps with
  | nil =>
    obtain ⟨d, rfl⟩ := List.length_eq_one_iff.1 hlen
    simpa [weave] using hspaces
  | cons b bodies ih =>
    obtain ⟨d, ds, rfl⟩ := List.exists_cons_of_length_pos (by omega : 0 < gaps.length)
    obtain ⟨hd, hds⟩ := List.forall_mem_cons.1 hspaces
    have hgap : d.filter (· ≠ ' ') = [] := by simpa using hd
    rw [weave, List.filter_append, List.filter_append, hgap, ih (by simpa using hlen) hds,
      List.flatten_cons, List.filter_append, List.nil_append]

/-! ## The end of the last line -/

/-- A break ends the last line. -/
def Dangles (ls : List Line) : Prop := ∃ l ∈ ls.getLast?, l.broken = true

instance (ls : List Line) : Decidable (Dangles ls) :=
  inferInstanceAs (Decidable (∃ l ∈ ls.getLast?, l.broken = true))

/-- The last line fills the width, begins with no space, and is not ended by a break. -/
def EndsFull (width : Nat) (ls : List Line) : Prop :=
  ∃ l ∈ ls.getLast?, l.broken = false ∧ width ≤ l.body.length ∧ l.body.head? ≠ some ' '

theorem dangles_cons (l : Line) (h : ls ≠ []) : Dangles (l :: ls) ↔ Dangles ls := by
  rw [Dangles, Dangles, ← List.getLast?_append_of_ne_nil [l] h, List.singleton_append]

theorem endsFull_cons (l : Line) (h : ls ≠ []) : EndsFull width (l :: ls) ↔ EndsFull width ls := by
  rw [EndsFull, EndsFull, ← List.getLast?_append_of_ne_nil [l] h, List.singleton_append]

/-- A break that ends the last line has taken the last space of the text. -/
theorem Wraps.exists_of_dangles (h : Wraps width cut t ls) (positive : 0 < width)
    (hd : Dangles ls) : ∃ u, t = u ++ [' '] := by
  induction h with
  | nil | last => simp [Dangles] at hd
  | skip t ls _ _ ih =>
    obtain ⟨u, rfl⟩ := ih hd
    exact ⟨' ' :: u, rfl⟩
  | line t b rest ls _ hline hw ih =>
    by_cases hls : ls = []
    · obtain rfl : rest = [] := by_contra fun hr => hw.ne_nil positive hr hls
      cases hline with
      | space | whole => exact ⟨b, rfl⟩
      | broken _ _ _ _ _ hr => exact absurd rfl hr
    · obtain ⟨u, rfl⟩ := ih ((dangles_cons _ hls).1 hd)
      obtain ⟨gap, rfl, -⟩ := hline.exists_gap
      exact ⟨b ++ gap ++ u, by simp⟩

/-- With a space more at its end, the last line of a text is ended by a break exactly if it was full
    before. -/
theorem Wraps.append_space (h : Wraps width cut t ls) (positive : 0 < width) :
    ∃ ls', Wraps width cut (t ++ [' ']) ls' ∧ (Dangles ls' ↔ EndsFull width ls) := by
  induction h with
  | nil =>
    refine ⟨[⟨[' '], false⟩], .last _ (by simp) (.inl positive), ?_⟩
    simp [Dangles, EndsFull]
  | last t ht hfits =>
    -- The text with the space fits, or a space at its start is left out, or the new one is a break.
    rcases Nat.lt_or_ge t.length width with hlt | hge
    · have hlen : (t ++ [' ']).length ≤ width := by rwa [List.length_append]
      refine ⟨[⟨t ++ [' '], false⟩], .last _ (by simp) (.inl hlen), ?_⟩
      simp [Dangles, EndsFull]
      omega
    · by_cases hs : t.head? = some ' '
      · obtain ⟨u, rfl⟩ := List.head?_eq_some_iff.1 hs
        have hlen : u.length + 1 ≤ width := by simpa [Fits] using hfits
        refine ⟨[⟨u ++ [' '], false⟩], .skip _ _ (by simpa using hge)
          (.last _ (by simp) (.inl (by simpa using hlen))), ?_⟩
        simp [Dangles, EndsFull]
      · refine ⟨[⟨t, true⟩], .line _ _ _ _ ?_ (.of_fits hfits hge) .nil, ?_⟩
        · rwa [List.head?_append_of_ne_nil _ ht]
        · simp [Dangles, EndsFull, hge, hs]
  | skip t ls hlen _ ih =>
    obtain ⟨ls', hw, hiff⟩ := ih
    refine ⟨ls', .skip _ _ (by simp; omega) hw, hiff⟩
  | line t b rest ls hn hline hw ih =>
    obtain ⟨ls', hw', hiff⟩ := ih
    refine ⟨⟨b, true⟩ :: ls', .line _ _ _ _ ?_ (hline.append [' ']) hw', ?_⟩
    · have ht : t ≠ [] := List.length_pos_iff.1 (Nat.zero_lt_of_lt hline.lt_length)
      rwa [List.head?_append_of_ne_nil _ ht]
    · have hls' : ls' ≠ [] := hw'.ne_nil positive (by simp)
      rw [dangles_cons _ hls', hiff]
      by_cases hls : ls = []
      · simp [EndsFull, hls]
      · rw [endsFull_cons _ hls]

/-- The text ends with a space behind a line that is full. -/
def EndsBehindFull (width : Nat) (cut : Bool) (t : Text) : Prop :=
  ∃ (u : Text) (ls : List Line), t = u ++ [' '] ∧ Wraps width cut u ls ∧ EndsFull width ls

/-- A break ends the last line exactly if it is full and one more space follows it. -/
theorem dangles_wrapLines_iff (positive : 0 < width) :
    Dangles (wrapLines width positive cut t) ↔ EndsBehindFull width cut t := by
  constructor
  · intro hd
    obtain ⟨u, rfl⟩ := (wraps_wrapLines positive cut t).exists_of_dangles positive hd
    obtain ⟨ls', hw, hiff⟩ := (wraps_wrapLines positive cut u).append_space positive
    rw [(wrapLines_eq_iff positive).2 hw] at hd
    exact ⟨u, _, rfl, wraps_wrapLines positive cut u, hiff.1 hd⟩
  · rintro ⟨u, ls, rfl, hu, hfull⟩
    obtain ⟨ls', hw, hiff⟩ := hu.append_space positive
    rw [(wrapLines_eq_iff positive).2 hw]
    exact hiff.2 hfull

/-! ## The text of the lines -/

/-- The lines with separators between them, and one more if a break ends the last line. -/
theorem flatMap_text (separator indent : Text) (h : ∀ l ∈ ls.dropLast, l.broken = true) :
    ls.flatMap (Line.text separator indent) =
      join separator (ls.map fun l => indent ++ l.body) ++
        (if Dangles ls then separator else []) := by
  induction ls with
  | nil => simp [join, Dangles]
  | cons l ls ih =>
    cases ls with
    | nil => by_cases hl : l.broken <;> simp [Line.text, join, Dangles, hl]
    | cons l' ls =>
      obtain ⟨hl, h⟩ : l.broken = true ∧ ∀ l ∈ (l' :: ls).dropLast, l.broken = true := by
        simpa using h
      have htext : l.text separator indent = indent ++ l.body ++ separator := by
        rw [Line.text, hl, if_pos rfl]
      have hd : Dangles (l :: l' :: ls) ↔ Dangles (l' :: ls) := dangles_cons l (by simp)
      rw [List.flatMap_cons, ih h, htext, ← List.append_assoc, if_congr hd rfl rfl]
      rfl

end Textwork.Text
