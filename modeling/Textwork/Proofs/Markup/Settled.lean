/-
  Settled texts: those in which the reader finds nothing to remove.

  In a settled text each opening bracket stands before a space or starts a tag
  that is kept.  The main statements:

  * `settled_scan`: under a safe policy every run writes a settled text;
  * `scan_settled`: a run over a settled text writes it as it is;
  * `sublist_scan`: without a replacement nothing is written that was not read.
-/
import Textwork.Proofs.Markup.Reader

namespace Textwork.Markup

/-! ## Brackets before spaces -/

/-- Each opening bracket has a space behind it. -/
def AnglesSpaced (t : Text) : Prop := ∀ x y, t = x ++ '<' :: y → y.head? = some ' '

theorem anglesSpaced_nil : AnglesSpaced [] := fun x y h => by simp at h

theorem anglesSpaced_cons {c : Char} {t : Text} :
    AnglesSpaced (c :: t) ↔ (c = '<' → t.head? = some ' ') ∧ AnglesSpaced t := by
  constructor
  · intro h
    refine ⟨?_, fun x y hxy => h (c :: x) y (by rw [hxy, List.cons_append])⟩
    rintro rfl
    exact h [] t rfl
  · rintro ⟨hc, ht⟩ x y hxy
    cases x with
    | nil =>
      obtain ⟨rfl, rfl⟩ := List.cons.inj hxy
      exact hc rfl
    | cons d x => exact ht x y (List.cons.inj hxy).2

instance decidableAnglesSpaced : (t : Text) → Decidable (AnglesSpaced t)
  | [] => .isTrue anglesSpaced_nil
  | _ :: t =>
    have := decidableAnglesSpaced t
    decidable_of_iff _ anglesSpaced_cons.symm

theorem anglesSpaced_of_notMem {t : Text} (h : '<' ∉ t) : AnglesSpaced t := by
  rintro x y rfl
  simp at h

theorem AnglesSpaced.concat {t : Text} (ht : AnglesSpaced t) {c : Char} (hc : c ≠ '<') :
    AnglesSpaced (t ++ [c]) := by
  induction t with
  | nil => exact anglesSpaced_cons.2 ⟨fun h => absurd h hc, anglesSpaced_nil⟩
  | cons d t ih =>
    obtain ⟨hd, ht⟩ := anglesSpaced_cons.1 ht
    rw [List.cons_append]
    refine anglesSpaced_cons.2 ⟨fun h => ?_, ih ht⟩
    rw [List.head?_append, hd h, Option.some_or]

theorem Collects.anglesSpaced {w : Text} {quote : Option Char} (h : Collects w quote []) :
    AnglesSpaced w := fun x y hxy => by simpa using (h.angle x y hxy).2

/-! ## Settled texts -/

/-- Each opening bracket stands before a space or starts a tag that is kept. -/
inductive Settled (kept : List Text) : Text → Prop
  | nil : Settled kept []
  | plain {c : Char} {t : Text} (hc : c ≠ '<') (ht : Settled kept t) : Settled kept (c :: t)
  | angle {t : Text} (h : t.head? = some ' ') (ht : Settled kept t) : Settled kept ('<' :: t)
  | tag {w t : Text} (hw : Collects w none []) (hs : w.head? ≠ some ' ') (hx : w.head? ≠ some '!')
      (hk : tagName ('<' :: (w ++ ['>'])) ∈ kept) (ht : Settled kept t) :
      Settled kept ('<' :: (w ++ '>' :: t))

namespace Settled

variable {kept : List Text} {t u w : Text}

theorem append_left (hu : AnglesSpaced u) (ht : Settled kept t) : Settled kept (u ++ t) := by
  induction u with
  | nil => exact ht
  | cons c u ih =>
    obtain ⟨hc, hu'⟩ := anglesSpaced_cons.1 hu
    rw [List.cons_append]
    by_cases h : c = '<'
    · subst h
      refine .angle ?_ (ih hu')
      rw [List.head?_append, hc rfl, Option.some_or]
    · exact .plain h (ih hu')

theorem of_anglesSpaced (ht : AnglesSpaced t) : Settled kept t := by
  have h : Settled kept (t ++ []) := append_left ht .nil
  simpa using h

/-- A kept tag before a settled text.  A tag may come to start with a space, and is plain text
    then. -/
theorem kept_append (hw : Collects w none []) (hx : w.head? ≠ some '!')
    (hk : tagName ('<' :: (w ++ ['>'])) ∈ kept) (ht : Settled kept t) :
    Settled kept ('<' :: (w ++ '>' :: t)) := by
  by_cases hs : w.head? = some ' '
  · have hspaced : AnglesSpaced ('<' :: (w ++ ['>'])) := by
      refine anglesSpaced_cons.2 ⟨fun _ => ?_, hw.anglesSpaced.concat (by decide)⟩
      rw [List.head?_append, hs, Option.some_or]
    simpa using append_left hspaced ht
  · exact .tag hw hs hx hk ht

/-- Where no tag is kept, all brackets of a settled text have spaces behind them. -/
theorem anglesSpaced (h : Settled [] t) : AnglesSpaced t := by
  induction h with
  | nil => exact anglesSpaced_nil
  | plain hc _ ih => exact anglesSpaced_cons.2 ⟨fun h => absurd h hc, ih⟩
  | angle h _ ih => exact anglesSpaced_cons.2 ⟨fun _ => h, ih⟩
  | tag _ _ _ hk => simp at hk

end Settled

/-! ## Runs -/

theorem scan_cons (p : Policy) (before : Text) (s : State) (c : Char) (rest : Text) :
    scan p before s (c :: rest) =
      ((scan p (c :: before) (step p before c rest s).1 rest).1,
        (step p before c rest s).2 ++ (scan p (c :: before) (step p before c rest s).1 rest).2) :=
  rfl

/-- A step that writes nothing. -/
theorem scan_cons_of_silent {p : Policy} {before rest : Text} {s s' : State} {c : Char}
    (h : step p before c rest s = (s', [])) :
    scan p before s (c :: rest) = scan p (c :: before) s' rest := by
  rw [scan_cons, h]
  rfl

theorem head?_scan_initial {rest : Text} (p : Policy) (before : Text)
    (h : rest.head? = some ' ') : (scan p before .initial rest).2.head? = some ' ' := by
  obtain ⟨t, rfl⟩ := List.head?_eq_some_iff.1 h
  rw [scan_cons, step_initial, if_neg fun h => absurd h.1 (by decide)]
  rfl

theorem Policy.collects_of_mem {p : Policy} {name : Text} (h : name ∈ p.kept) :
    p.collects = true := by
  cases hk : p.kept <;> simp_all [Policy.collects]

/-- What the tag remover is asked to do is safe: no opening bracket in the replacement, and only
    letters and digits in the names. -/
structure Policy.Safe (p : Policy) : Prop where
  replacement : '<' ∉ p.replacement
  kept : ∀ name ∈ p.kept, ∀ c ∈ name, c.isAlphanum = true

/-- A mark behind the opening bracket is part of the name. -/
theorem exclamation_mem_tagName (t : Text) : '!' ∈ tagName ('<' :: '!' :: t) := by
  have hl : Text.lower ('<' :: '!' :: t) =
      '<' :: '!' :: Text.mapInContext Text.lowerBetween ['!', '<'] t := by
    simp only [Text.lower, Text.mapInContext]
    rfl
  have hb : Unicode.isBlank '!' = false := by decide
  rw [tagName, hl]
  simp [tagNameFrom, hb]

theorem Policy.Safe.head?_ne {p : Policy} (hp : p.Safe) {w : Text}
    (hk : tagName ('<' :: (w ++ ['>'])) ∈ p.kept) : w.head? ≠ some '!' := by
  intro hw
  obtain ⟨t, rfl⟩ := List.head?_eq_some_iff.1 hw
  have := hp.kept _ hk '!' (exclamation_mem_tagName (t ++ ['>']))
  exact absurd this (by decide)

/-- What is written at the end of a tag stands before a settled text. -/
theorem settled_closing {p : Policy} (hp : p.Safe) {s : State} {after t : Text}
    (hs : s.Holds p ('>' :: after)) (hq : s.quote = none) (ht : Settled p.kept t) :
    Settled p.kept (closing p s ++ t) := by
  unfold closing
  split_ifs with h
  · simp only [Bool.and_eq_true] at h
    obtain ⟨w, hw, hc⟩ := (by simpa [State.Holds, h.1] using hs :
      ∃ w, s.collected = '<' :: w ∧ Collects w s.quote ('>' :: after))
    rw [hw, List.cons_append] at h ⊢
    have hk : tagName ('<' :: (w ++ ['>'])) ∈ p.kept := List.elem_iff.1 h.2
    rw [hq] at hc
    simpa using Settled.kept_append (hc.skip (by decide)) (hp.head?_ne hk) hk ht
  · exact Settled.append_left (anglesSpaced_of_notMem hp.replacement) ht

/-- **Every run writes a settled text.** -/
theorem settled_scan {p : Policy} (hp : p.Safe) (t : Text) :
    ∀ (before : Text) (s : State), s.Coherent p t → Settled p.kept (scan p before s t).2 := by
  induction t with
  | nil => exact fun _ _ _ => .nil
  | cons c rest ih =>
    intro before s hs
    have hm := step_move before hs
    have ht := ih (c :: before) _ (hm.coherent hs)
    rw [scan_cons]
    generalize step p before c rest s = r at hm ht
    obtain ⟨s', written⟩ := r
    cases hm with
    | write ha =>
      by_cases hc : c = '<'
      · subst hc
        exact .angle (head?_scan_initial p _ (ha rfl)) ht
      · exact .plain hc ht
    | enter | collect | pass | leave => exact ht
    | close hm hq hc =>
      subst hc
      exact settled_closing hp ((State.coherent_of_tag hm).1 hs) hq ht

/-! ## Runs over settled texts -/

section
variable {p : Policy} {w t : Text}

/-- A run over what is left of a kept tag collects it and writes the tag at its end. -/
theorem scan_kept (hw : Collects w none []) (hx : w.head? ≠ some '!')
    (hk : tagName ('<' :: (w ++ ['>'])) ∈ p.kept) (before : Text) (todo : Text) :
    ∀ done, w = done ++ todo →
      scan p (done.reverse ++ '<' :: before) ⟨.tag, 0, quoteAfter done, '<' :: done⟩
          (todo ++ '>' :: t) =
        ((scan p ('>' :: (w.reverse ++ '<' :: before)) .initial t).1,
          '<' :: (w ++ '>' :: (scan p ('>' :: (w.reverse ++ '<' :: before)) .initial t).2)) := by
  have hp := p.collects_of_mem hk
  induction todo with
  | nil =>
    intro done hd
    obtain rfl : w = done := by simpa using hd
    have hstep : step p (w.reverse ++ '<' :: before) '>' t ⟨.tag, 0, quoteAfter w, '<' :: w⟩ =
        (.initial, '<' :: (w ++ ['>'])) := by
      simp [step, closeAngle, closeTag, hw.quote_eq, hp, hk, State.initial]
    rw [List.nil_append, scan_cons, hstep]
    simp
  | cons c todo ih =>
    intro done hd
    have hb : c = '!' → (done.reverse ++ '<' :: before).head? ≠ some '<' := by
      rintro rfl
      rcases List.eq_nil_or_concat done with rfl | ⟨d, e, rfl⟩
      · exact absurd (by rw [hd]; rfl) hx
      · simp only [List.concat_eq_append, List.reverse_append, List.reverse_singleton,
          List.cons_append, List.head?_cons, ne_eq, Option.some.injEq]
        rintro rfl
        obtain ⟨-, hs⟩ := hw.angle d ('!' :: todo) (by rw [hd]; simp)
        simp at hs
    have hc : c ≠ '>' := by
      rintro rfl
      exact hw.noClose (by rw [hd]; simp)
    have ha : c = '<' → quoteAfter done = none ∧ (todo ++ '>' :: t).head? = some ' ' := by
      rintro rfl
      obtain ⟨hq, hs⟩ := hw.angle done todo hd
      refine ⟨hq, ?_⟩
      rw [List.append_nil] at hs
      rw [List.head?_append, hs, Option.some_or]
    rw [List.cons_append, scan_cons_of_silent (step_collect rfl hc ha hb)]
    simpa [State.collect, hp] using ih (done ++ [c]) (by simpa using hd)

/-- **A run over a settled text writes it as it is.** -/
theorem scan_settled (h : Settled p.kept t) :
    ∀ before, scan p before .initial t = (.initial, t) := by
  induction h with
  | nil => exact fun _ => rfl
  | plain hc _ ih =>
    intro before
    rw [scan_cons, step_initial, if_neg fun h => hc h.1, ih]
    rfl
  | angle h _ ih =>
    intro before
    rw [scan_cons, step_initial, if_neg fun h' => h'.2 h, ih]
    rfl
  | @tag w t hw hs hx hk _ ih =>
    intro before
    have hp := p.collects_of_mem hk
    have hhead : (w ++ '>' :: t).head? ≠ some ' ' := by
      cases w with
      | nil => simp
      | cons d w => simpa using hs
    have hrun := scan_kept (t := t) hw hx hk before w [] rfl
    rw [ih] at hrun
    have hstep := step_initial p before '<' (w ++ '>' :: t)
    rw [if_pos ⟨rfl, hhead⟩, if_pos hp] at hstep
    rw [scan_cons_of_silent hstep]
    simpa using hrun

theorem removeTags_of_anglesSpaced (p : Policy) (h : AnglesSpaced t) : removeTags p t = t := by
  rw [removeTags, scan_settled (Settled.of_anglesSpaced h)]

theorem settled_removeTags (hp : p.Safe) (t : Text) : Settled p.kept (removeTags p t) :=
  settled_scan hp t [] .initial (State.coherent_initial p t)

end

/-! ## Nothing is invented -/

/-- Without a replacement, what a move writes and keeps was read. -/
theorem Move.sublist {p : Policy} {c : Char} {after t : Text} {s s' : State}
    (h : Move p c after s s' t) (hr : p.replacement = []) :
    (t ++ s'.collected).Sublist (s.collected ++ [c]) := by
  cases h with
  | write => simp [State.initial]
  | enter hc =>
    subst hc
    cases p.collects <;> simp [State.initial]
  | collect => cases hp : p.collects <;> simp [State.collect, hp]
  | pass _ _ _ _ hs => simp [hs]
  | close _ _ hc =>
    subst hc
    unfold closing
    split_ifs <;> simp [State.initial, hr]
  | leave => simp [State.initial]

/-- **Without a replacement nothing is written that was not read.** -/
theorem sublist_scan {p : Policy} (hr : p.replacement = []) (t : Text) :
    ∀ (before : Text) (s : State), s.Coherent p t →
      (scan p before s t).2.Sublist (s.collected ++ t) := by
  induction t with
  | nil => exact fun _ _ _ => List.nil_sublist _
  | cons c rest ih =>
    intro before s hs
    have hm := step_move before hs
    have ht := ih (c :: before) _ (hm.coherent hs)
    have hstep := (hm.sublist hr).append (List.Sublist.refl rest)
    rw [scan_cons]
    refine ((List.Sublist.refl _).append ht).trans ?_
    simpa using hstep

end Textwork.Markup
