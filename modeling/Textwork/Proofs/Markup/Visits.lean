/-
  The states that the reader of marked up text comes to.

  * `Visits p t before after s`: a run over `t` is in the state `s` between what it has
    read and what is left;
  * `depth_step`, `quote_step`: what any step does to the depth and to the open quote;
  * `Visits.coherent`: what the reader remembers fits together wherever it comes to;
    `stripTags_visits` says so of the removal of tags.
-/
import Textwork.Proofs.Markup.Seams

namespace Textwork.Markup

variable {p : Policy} {s : State} {t before after : Text} {c : Char}

/-! ## Depth -/

/-- What a step adds to the depth: a bracket opened inside a tag counts, and a bracket closed inside
    of it counts back. -/
def depthChange (c : Char) (after : Text) (s : State) : Int :=
  if c = '<' ∧ s.mode = .tag ∧ s.quote = none ∧ after.head? ≠ some ' ' then 1
  else if c = '>' ∧ 0 < s.depth then -1
  else 0

theorem depth_take (p : Policy) (s : State) (c : Char) : (take p s c).1.depth = s.depth := by
  unfold take
  split
  · rfl
  · split_ifs <;> rfl
  · rfl

theorem depth_openAngle (p : Policy) (s : State) (after : Text) :
    ((openAngle p s after).1.depth : Int) = s.depth + depthChange '<' after s := by
  unfold openAngle depthChange
  cases hq : s.quote with
  | some q => simp [skip]
  | none =>
    by_cases ha : after.head? = some ' '
    · simp [ha, depth_take]
    · cases hm : s.mode <;> simp [ha, depth_take, skip]

theorem depth_closeAngle (p : Policy) (s : State) (before after : Text) :
    ((closeAngle p s before).1.depth : Int) = s.depth + depthChange '>' after s := by
  have hchange : depthChange '>' after s = if 0 < s.depth then -1 else 0 := by
    simp [depthChange]
  rw [hchange]
  unfold closeAngle closeTag
  split_ifs with hd <;> simp [skip, depth_take]
  omega

/-- The depth is counted up and down, and never below zero. -/
theorem depth_step (p : Policy) (before : Text) (c : Char) (after : Text) (s : State) :
    ((step p before c after s).1.depth : Int) = s.depth + depthChange c after s := by
  by_cases ho : c = '<'
  · subst ho
    exact depth_openAngle p s after
  by_cases hc : c = '>'
  · subst hc
    exact depth_closeAngle p s before after
  have hnone : depthChange c after s = 0 := by simp [depthChange, ho, hc]
  rw [hnone, Int.add_zero]
  unfold step
  rw [if_neg ho, if_neg hc]
  split_ifs <;> simp [skip, depth_take]

/-! ## The open quote -/

theorem quote_take (p : Policy) (s : State) (c : Char) : (take p s c).1.quote = s.quote := by
  unfold take
  split
  · rfl
  · split_ifs <;> rfl
  · rfl

theorem quote_openAngle (p : Policy) (s : State) (after : Text) :
    (openAngle p s after).1.quote = s.quote := by
  unfold openAngle
  split_ifs
  · rfl
  · exact quote_take p s '<'
  · split
    · exact quote_take p _ '<'
    · rfl
    · exact quote_take p s '<'

/-- A closing bracket that ends something meets no open quote. -/
theorem quote_closeAngle (p : Policy) (s : State) (before : Text) :
    (closeAngle p s before).1.quote = s.quote := by
  unfold closeAngle
  split_ifs with hd hq
  · rfl
  · rfl
  · have hq : s.quote = none := by simpa using hq
    unfold closeTag
    split_ifs <;> exact hq.symm
  · have hq : s.quote = none := by simpa using hq
    exact hq.symm
  · exact quote_take p s '>'

/-- A quote character is taken, and inside a tag it opens or closes a quote. -/
theorem step_quoteChar (hc : c = '\'' ∨ c = '"') (p : Policy) (before after : Text) (s : State) :
    step p before c after s =
      take p (if s.mode = .tag then { s with quote := toggleQuote c s.quote } else s) c := by
  rcases hc with rfl | rfl <;> rfl

/-- Only inside a tag the open quote changes. -/
theorem quote_step (p : Policy) (before : Text) (c : Char) (after : Text) (s : State) :
    (step p before c after s).1.quote =
      if s.mode = .tag then quoteAfterChar s.quote c else s.quote := by
  by_cases hquote : c = '\'' ∨ c = '"'
  · rw [step_quoteChar hquote, quote_take, quoteAfterChar, if_pos hquote]
    split_ifs <;> rfl
  · rw [quoteAfterChar_of_ne hquote, ite_self]
    unfold step
    split_ifs
    · exact quote_openAngle p s after
    · exact quote_closeAngle p s before
    all_goals first | rfl | exact quote_take p s c

/-- A quote is opened and closed by a quote character inside a tag, which does not end there. -/
theorem of_quote_step_ne (h : (step p before c after s).1.quote ≠ s.quote) :
    s.mode = .tag ∧ (step p before c after s).1.mode = .tag ∧ (c = '\'' ∨ c = '"') := by
  have hm : s.mode = .tag := by
    by_contra hm
    exact h (by rw [quote_step, if_neg hm])
  have hc : c = '\'' ∨ c = '"' := by
    by_contra hc
    exact h (by rw [quote_step, if_pos hm, quoteAfterChar_of_ne hc])
  refine ⟨hm, ?_, hc⟩
  rw [step_quoteChar hc, if_pos hm, mode_take]
  exact hm

/-! ## Visited states -/

/-- A run over the text `t` comes to the state `s` when the characters `before` have been read,
    nearest first, and `after` is left. -/
inductive Visits (p : Policy) (t : Text) : Text → Text → State → Prop
  | start : Visits p t [] t .initial
  | next {before after : Text} {c : Char} {s : State} (h : Visits p t before (c :: after) s) :
      Visits p t (c :: before) after (step p before c after s).1

namespace Visits

/-- The rest of a run is the run from the state it has come to. -/
theorem exists_scan_eq (h : Visits p t before after s) :
    ∃ written, scan p [] .initial t =
      ((scan p before s after).1, written ++ (scan p before s after).2) := by
  induction h with
  | start => exact ⟨[], rfl⟩
  | @next before after c s _ ih =>
    obtain ⟨written, hscan⟩ := ih
    rw [scan_cons] at hscan
    exact ⟨written ++ (step p before c after s).2, by rw [hscan, List.append_assoc]⟩

theorem coherent (h : Visits p t before after s) : s.Coherent p after := by
  induction h with
  | start => exact State.coherent_initial p t
  | next _ ih => exact (step_move _ ih).coherent ih

theorem eq_initial (h : Visits p t before after s) (hm : s.mode = .outside) : s = .initial := by
  simpa [State.Coherent, hm] using h.coherent

/-- Inside a tag that is collected, its text starts with the bracket that opened it. -/
theorem exists_collected (h : Visits p t before after s) (hp : p.collects = true)
    (hm : s.mode = .tag) : ∃ w, s.collected = '<' :: w ∧ '>' ∉ w := by
  have hholds := (State.coherent_of_tag hm).1 h.coherent
  rw [State.Holds, if_pos hp] at hholds
  obtain ⟨w, hw, hcollects⟩ := hholds
  exact ⟨w, hw, hcollects.noClose⟩

end Visits

end Textwork.Markup

namespace Textwork.Catalogue

open Markup

/-- **What the reader remembers anywhere in any text.**  Outside of tags it is at rest: no depth, no
    open quote, nothing collected.  Where tags may be kept, a tag is collected from its opening
    bracket on and without a closing one.  The depth is counted in the integers and never below
    zero, and quotes are opened and closed inside tags only. -/
theorem stripTags_visits {kept replacement : Value} {names : List Text} {fill : Text}
    (hk : keptTags kept = .ok names) (hr : replacement.toText = .ok fill)
    {t before after : Text} {s : State} (h : Visits ⟨names, fill⟩ t before after s) :
    (∃ written, stripTags (.text t) kept replacement =
        .ok (.text (written ++ (scan ⟨names, fill⟩ before s after).2))) ∧
      (s.mode = .outside → s.depth = 0 ∧ s.quote = none ∧ s.collected = []) ∧
      (names ≠ [] → s.mode = .tag → s.collected.head? = some '<' ∧ '>' ∉ s.collected) ∧
      ∀ c rest next written, after = c :: rest →
        step ⟨names, fill⟩ before c rest s = (next, written) →
        Visits ⟨names, fill⟩ t (c :: before) rest next ∧
          (next.depth : Int) = s.depth + depthChange c rest s ∧
          0 ≤ s.depth + depthChange c rest s ∧
          (next.quote ≠ s.quote → s.mode = .tag ∧ next.mode = .tag ∧ (c = '\'' ∨ c = '"')) := by
  refine ⟨?_, fun hm => ?_, fun hnames hm => ?_, ?_⟩
  · obtain ⟨written, hscan⟩ := h.exists_scan_eq
    exact ⟨written, by rw [stripTags_text hk hr, removeTags, hscan]⟩
  · rw [h.eq_initial hm]
    exact ⟨rfl, rfl, rfl⟩
  · have hcollects : Policy.collects ⟨names, fill⟩ = true := by
      simpa [Policy.collects] using hnames
    obtain ⟨w, hw, hclose⟩ := h.exists_collected hcollects hm
    rw [hw]
    exact ⟨rfl, by simpa using hclose⟩
  · rintro c rest next written rfl hstep
    have hnext : (step ⟨names, fill⟩ before c rest s).1 = next := congrArg Prod.fst hstep
    have hdepth := depth_step ⟨names, fill⟩ before c rest s
    have hvisits := h.next
    rw [hnext] at hdepth hvisits
    refine ⟨hvisits, hdepth, ?_, fun hquote => ?_⟩
    · rw [← hdepth]
      exact Int.natCast_nonneg _
    · rw [← hnext] at hquote ⊢
      exact of_quote_step_ne hquote

/-- In a tag opened inside another one, behind an open quote. -/
theorem stripTags_visits_nested :
    keptTags (.text "<b>".toList) = .ok [['b']] ∧ (Value.text ['*']).toText = .ok ['*'] ∧
      Visits ⟨[['b']], ['*']⟩ "<i<b '>'>>x".toList "' b<i<".toList ">'>>x".toList
        ⟨.tag, 1, some '\'', "<ib '".toList⟩ ∧
      (∃ written, stripTags (.text "<i<b '>'>>x".toList) (.text "<b>".toList) (.text ['*']) =
        .ok (.text (written ++ (scan ⟨[['b']], ['*']⟩ "' b<i<".toList
          ⟨.tag, 1, some '\'', "<ib '".toList⟩ ">'>>x".toList).2))) ∧
      "<ib '".toList.head? = some '<' ∧ '>' ∉ "<ib '".toList ∧
      Visits ⟨[['b']], ['*']⟩ "<i<b '>'>>x".toList ">' b<i<".toList "'>>x".toList
        ⟨.tag, 0, some '\'', "<ib '".toList⟩ := by
  have hk : keptTags (.text "<b>".toList) = .ok [['b']] := rfl
  have hr : (Value.text ['*']).toText = .ok ['*'] := rfl
  have h : Visits ⟨[['b']], ['*']⟩ "<i<b '>'>>x".toList "' b<i<".toList ">'>>x".toList
      ⟨.tag, 1, some '\'', "<ib '".toList⟩ := .next (.next (.next (.next (.next (.next .start)))))
  obtain ⟨hscan, -, hcollected, hnext⟩ := stripTags_visits hk hr h
  obtain ⟨hfirst, hclose⟩ := hcollected (by decide) rfl
  exact ⟨hk, hr, h, hscan, hfirst, hclose, (hnext '>' "'>>x".toList _ _ rfl rfl).1⟩

end Textwork.Catalogue
