/-
  The moves of the reader that removes tags, and what it remembers on the way.

  * `Collects w quote after`: `w` is what may be collected of a tag behind its
    opening bracket when `quote` is open and `after` is still to be read;
  * `State.Coherent`: what a state remembers fits together;
  * `Move` lists what one step can do, `step_move` says that a step from a
    coherent state does nothing else, `Move.coherent` that coherence is kept.
-/
import Textwork.Markup.Tag
import Mathlib.Tactic.Common

namespace Textwork.Markup

/-! ## Quotes inside a tag -/

/-- The quote that is open after the character `c` of a tag. -/
def quoteAfterChar (quote : Option Char) (c : Char) : Option Char :=
  if c = '\'' ∨ c = '"' then toggleQuote c quote else quote

/-- The quote that is open after a text inside a tag. -/
def quoteAfter (t : Text) : Option Char := t.foldl quoteAfterChar none

@[simp] theorem quoteAfter_nil : quoteAfter [] = none := rfl

@[simp] theorem quoteAfter_append_singleton (t : Text) (c : Char) :
    quoteAfter (t ++ [c]) = quoteAfterChar (quoteAfter t) c := by
  simp [quoteAfter]

theorem quoteAfterChar_of_ne {c : Char} (h : ¬ (c = '\'' ∨ c = '"')) (quote : Option Char) :
    quoteAfterChar quote c = quote := by
  simp [quoteAfterChar, h]

/-! ## Collected text -/

/-- The text `w` collected of a tag behind its opening bracket, when `quote` is open and `after`
    is still to be read: no closing bracket, and opening ones outside of quotes and before a space
    only. -/
structure Collects (w : Text) (quote : Option Char) (after : Text) : Prop where
  noClose : '>' ∉ w
  quote_eq : quoteAfter w = quote
  angle : ∀ x y, w = x ++ '<' :: y → quoteAfter x = none ∧ (y ++ after).head? = some ' '

namespace Collects

variable {w after : Text} {quote : Option Char} {c : Char}

theorem nil (after : Text) : Collects [] none after :=
  ⟨by simp, rfl, fun x y h => by simp at h⟩

/-- One more character is collected. -/
theorem snoc (h : Collects w quote (c :: after)) (hc : c ≠ '>')
    (ha : c = '<' → quote = none ∧ after.head? = some ' ') :
    Collects (w ++ [c]) (quoteAfterChar quote c) after := by
  refine ⟨?_, by simp [h.quote_eq], fun x y hxy => ?_⟩
  · simp only [List.mem_append, List.mem_singleton, not_or]
    exact ⟨h.noClose, hc.symm⟩
  · rcases List.eq_nil_or_concat y with rfl | ⟨y', d, rfl⟩
    · obtain ⟨rfl, hc'⟩ := List.append_inj' hxy rfl
      obtain ⟨hq, hs⟩ := ha (by simpa using hc')
      exact ⟨h.quote_eq.trans hq, hs⟩
    · rw [List.concat_eq_append, ← List.cons_append, ← List.append_assoc] at hxy
      obtain ⟨hw, hd⟩ := List.append_inj' hxy rfl
      obtain rfl : c = d := by simpa using hd
      obtain ⟨hq, hs⟩ := h.angle x y' hw
      exact ⟨hq, by simpa using hs⟩

/-- A character other than a space is left out; what follows it does not matter. -/
theorem skip (h : Collects w quote (c :: after)) (hc : c ≠ ' ') : Collects w quote [] := by
  refine ⟨h.noClose, h.quote_eq, fun x y hxy => ?_⟩
  obtain ⟨hq, hs⟩ := h.angle x y hxy
  cases y with
  | nil => exact absurd (by simpa using hs) hc
  | cons d y => exact ⟨hq, by simpa using hs⟩

theorem weaken (h : Collects w quote []) (after : Text) : Collects w quote after := by
  refine ⟨h.noClose, h.quote_eq, fun x y hxy => ?_⟩
  obtain ⟨hq, hs⟩ := h.angle x y hxy
  cases y with
  | nil => simp at hs
  | cons d y => exact ⟨hq, by simpa using hs⟩

end Collects

/-! ## Coherent states -/

namespace State

/-- The collected text is that of a tag, if tags are collected. -/
def Holds (p : Policy) (after : Text) (s : State) : Prop :=
  if p.collects then ∃ w, s.collected = '<' :: w ∧ Collects w s.quote after else s.collected = []

/-- What the reader remembers fits together, `after` being still to be read. -/
def Coherent (p : Policy) (after : Text) (s : State) : Prop :=
  match s.mode with
  | .outside => s = initial
  | .tag => s.Holds p after
  | .declaration | .comment => s.Holds p []

theorem coherent_initial (p : Policy) (after : Text) : initial.Coherent p after := rfl

theorem coherent_of_tag {p : Policy} {after : Text} {s : State} (hm : s.mode = .tag) :
    s.Coherent p after ↔ s.Holds p after := by
  simp [Coherent, hm]

theorem coherent_of_hidden {p : Policy} {after : Text} {s : State} (ho : s.mode ≠ .outside)
    (ht : s.mode ≠ .tag) : s.Coherent p after ↔ s.Holds p [] := by
  cases hm : s.mode <;> simp_all [Coherent]

theorem Holds.weaken {p : Policy} {s : State} (h : s.Holds p []) (after : Text) :
    s.Holds p after := by
  unfold Holds at h ⊢
  split at h
  · next hp =>
    obtain ⟨w, hw, hc⟩ := h
    rw [if_pos hp]
    exact ⟨w, hw, hc.weaken after⟩
  · next hp => rwa [if_neg hp]

theorem Holds.skip {p : Policy} {s : State} {c : Char} {after : Text}
    (h : s.Holds p (c :: after)) (hc : c ≠ ' ') : s.Holds p [] := by
  unfold Holds at h ⊢
  split at h
  · next hp =>
    obtain ⟨w, hw, hh⟩ := h
    rw [if_pos hp]
    exact ⟨w, hw, hh.skip hc⟩
  · next hp => rwa [if_neg hp]

/-- A state after the character `c` of a tag was taken. -/
def collect (p : Policy) (s : State) (c : Char) : State :=
  { s with
    quote := quoteAfterChar s.quote c
    collected := if p.collects then s.collected ++ [c] else s.collected }

theorem Holds.collect {p : Policy} {s : State} {c : Char} {after : Text}
    (h : s.Holds p (c :: after)) (hc : c ≠ '>')
    (ha : c = '<' → s.quote = none ∧ after.head? = some ' ') : (s.collect p c).Holds p after := by
  unfold Holds at h ⊢
  split at h
  · next hp =>
    obtain ⟨w, hw, hh⟩ := h
    rw [if_pos hp]
    exact ⟨w ++ [c], by simp [State.collect, hp, hw], hh.snoc hc ha⟩
  · next hp =>
    rw [if_neg hp]
    simp [State.collect, hp, h]

end State

/-! ## Moves -/

/-- What is written for a tag that ends. -/
def closing (p : Policy) (s : State) : Text :=
  if p.collects && p.kept.elem (tagName (s.collected ++ ['>'])) then s.collected ++ ['>']
  else p.replacement

/-- What one step can do at the character `c` before `after`: the states before and after it, and
    what it writes. -/
inductive Move (p : Policy) (c : Char) (after : Text) : State → State → Text → Prop
  /-- outside of tags a character is written -/
  | write (ha : c = '<' → after.head? = some ' ') : Move p c after .initial .initial [c]
  /-- a tag is opened -/
  | enter (hc : c = '<') :
      Move p c after .initial ⟨.tag, 0, none, if p.collects then ['<'] else []⟩ []
  /-- a character of a tag is taken -/
  | collect {s : State} (hm : s.mode = .tag) (hc : c ≠ '>')
      (ha : c = '<' → s.quote = none ∧ after.head? = some ' ') :
      Move p c after s (s.collect p c) []
  /-- a character is left out -/
  | pass {s s' : State} (ho : s.mode ≠ .outside) (hc : s.mode = .tag → c ≠ ' ')
      (ho' : s'.mode ≠ .outside) (hq : s'.quote = s.quote) (hs : s'.collected = s.collected) :
      Move p c after s s' []
  /-- a tag ends -/
  | close {s : State} (hm : s.mode = .tag) (hq : s.quote = none) (hc : c = '>') :
      Move p c after s .initial (closing p s)
  /-- a declaration or comment ends -/
  | leave {s : State} (ho : s.mode ≠ .outside) : Move p c after s .initial []

variable {p : Policy} {before after : Text} {c : Char}

/-- A step outside of tags. -/
theorem step_initial (p : Policy) (before : Text) (c : Char) (after : Text) :
    step p before c after .initial =
      if c = '<' ∧ after.head? ≠ some ' ' then
        (⟨.tag, 0, none, if p.collects then ['<'] else []⟩, [])
      else (.initial, [c]) := by
  by_cases hc : c = '<'
  · subst hc
    by_cases ha : after.head? = some ' '
    · simp [step, openAngle, take, State.initial, ha]
    · cases hp : p.collects <;> simp [step, openAngle, take, State.initial, ha, hp]
  · by_cases hg : c = '>' <;> simp [step, closeAngle, take, State.initial, hc, hg]

/-- A step inside a tag at a character that is taken. -/
theorem step_collect {s : State} (hm : s.mode = .tag) (hc : c ≠ '>')
    (ha : c = '<' → s.quote = none ∧ after.head? = some ' ')
    (hb : c = '!' → before.head? ≠ some '<') :
    step p before c after s = (s.collect p c, []) := by
  obtain ⟨mode, depth, quote, collected⟩ := s
  obtain rfl : mode = .tag := hm
  by_cases hl : c = '<'
  · obtain ⟨hq, hs⟩ := ha hl
    subst hl
    obtain rfl : quote = none := hq
    cases hp : p.collects <;> simp [step, openAngle, take, State.collect, quoteAfterChar, hs, hp]
  · by_cases hq : c = '\'' ∨ c = '"'
    · rcases hq with rfl | rfl <;> cases hp : p.collects <;>
        simp [step, take, State.collect, quoteAfterChar, hp]
    · by_cases hx : c = '!'
      · subst hx
        cases hp : p.collects <;>
          simp [step, take, State.collect, quoteAfterChar, hb rfl, hp]
      · cases hp : p.collects <;>
          simp [step, take, State.collect, quoteAfterChar, hl, hc, hq, hx, hp]

/-- The end of a tag, with no bracket and no quote open inside it. -/
theorem closeTag_eq {s : State} (hd : ¬ 0 < s.depth) (hs : s.Holds p after) :
    closeTag p s = (.initial, closing p s) := by
  have hd : s.depth = 0 := by omega
  cases hp : p.collects with
  | true => simp [closeTag, closing, State.initial, hp, hd]
  | false =>
    have hs : s.collected = [] := by simpa [State.Holds, hp] using hs
    simp [closeTag, closing, State.initial, hp, hd, hs]

theorem step_move_tag {s : State} (hm : s.mode = .tag) (h : s.Holds p (c :: after)) :
    Move p c after s (step p before c after s).1 (step p before c after s).2 := by
  have ho : s.mode ≠ .outside := by simp [hm]
  by_cases hl : c = '<'
  · subst hl
    by_cases hq : s.quote.isSome
    · rw [show step p before '<' after s = skip s by simp [step, openAngle, hq]]
      exact .pass ho (by simp) ho rfl rfl
    · by_cases ha : after.head? = some ' '
      · have hq : s.quote = none := by simpa using hq
        rw [step_collect hm (by decide) (fun _ => ⟨hq, ha⟩) (by simp)]
        exact .collect hm (by decide) fun _ => ⟨hq, ha⟩
      · rw [show step p before '<' after s = skip { s with depth := s.depth + 1 } by
          simp [step, openAngle, hq, ha, hm]]
        exact .pass ho (by simp) ho rfl rfl
  by_cases hg : c = '>'
  · subst hg
    have hstep : step p before '>' after s = closeAngle p s before := by simp [step]
    rw [hstep]
    unfold closeAngle
    split_ifs with hd hq
    · exact .pass ho (by simp) ho rfl rfl
    · exact .pass ho (by simp) ho rfl rfl
    · rw [closeTag_eq hd h]
      exact .close hm (by simpa using hq) rfl
  by_cases hx : c = '!' ∧ before.head? = some '<'
  · obtain ⟨rfl, hb⟩ := hx
    rw [show step p before '!' after s = skip { s with mode := .declaration } by
      simp [step, hm, hb]]
    exact .pass ho (by simp) (by simp [skip]) rfl rfl
  · rw [step_collect hm hg (fun h => absurd h hl) fun h hb => hx ⟨h, hb⟩]
    exact .collect hm hg fun h => absurd h hl

theorem take_hidden {s : State} (ho : s.mode ≠ .outside) (ht : s.mode ≠ .tag) :
    take p s c = (s, []) := by
  cases hm : s.mode <;> simp_all [take]

theorem openAngle_hidden {s : State} (ho : s.mode ≠ .outside) (ht : s.mode ≠ .tag) :
    openAngle p s after = (s, []) := by
  unfold openAngle
  rw [take_hidden ho ht]
  cases hm : s.mode <;> simp_all [skip]

/-- Inside a declaration or comment a closing bracket ends it or is left out. -/
theorem closeAngle_hidden {s : State} (before : Text) (ho : s.mode ≠ .outside)
    (ht : s.mode ≠ .tag) :
    closeAngle p s before = (.initial, []) ∨
      ∃ depth, closeAngle p s before = ({ s with depth }, []) := by
  unfold closeAngle
  rw [take_hidden ho ht, if_neg ht]
  split_ifs with hd
  · exact .inr ⟨s.depth - 1, rfl⟩
  · exact .inr ⟨s.depth, rfl⟩
  · have hd : s.depth = 0 := by omega
    exact .inl (by simp [skip, State.initial, hd])
  · exact .inr ⟨s.depth, rfl⟩

theorem step_move_hidden {s : State} (ho : s.mode ≠ .outside) (ht : s.mode ≠ .tag) :
    Move p c after s (step p before c after s).1 (step p before c after s).2 := by
  have hpass : Move p c after s s [] := .pass ho (fun h => absurd h ht) ho rfl rfl
  unfold step
  split_ifs
  · rwa [openAngle_hidden ho ht]
  · rcases closeAngle_hidden (p := p) before ho ht with h | ⟨depth, h⟩
    · rw [h]
      exact .leave ho
    · rw [h]
      exact .pass ho (fun h => absurd h ht) ho rfl rfl
  all_goals first
    | rwa [take_hidden ho ht]
    | exact .pass ho (fun h => absurd h ht) (by simp [skip]) rfl rfl

/-- **A step does what a move allows.** -/
theorem step_move {s : State} (before : Text) (h : s.Coherent p (c :: after)) :
    Move p c after s (step p before c after s).1 (step p before c after s).2 := by
  by_cases ht : s.mode = .tag
  · exact step_move_tag ht ((State.coherent_of_tag ht).1 h)
  by_cases ho : s.mode = .outside
  · obtain rfl : s = .initial := by simpa [State.Coherent, ho] using h
    rw [step_initial]
    by_cases hc : c = '<' ∧ after.head? ≠ some ' '
    · rw [if_pos hc]
      exact .enter hc.1
    · rw [if_neg hc]
      exact .write fun h => by_contra fun ha => hc ⟨h, ha⟩
  · exact step_move_hidden ho ht

/-- A move keeps the state coherent. -/
theorem Move.coherent {s s' : State} {t : Text} (h : Move p c after s s' t)
    (hs : s.Coherent p (c :: after)) : s'.Coherent p after := by
  cases h with
  | write | close | leave => exact State.coherent_initial p after
  | enter =>
    refine (State.coherent_of_tag rfl).2 ?_
    unfold State.Holds
    split_ifs with hp
    · exact ⟨[], by simp, .nil after⟩
    · rfl
  | collect hm hc ha =>
    have hm' : (s.collect p c).mode = .tag := hm
    exact (State.coherent_of_tag hm').2 (((State.coherent_of_tag hm).1 hs).collect hc ha)
  | pass ho hc ho' hq hcol =>
    have hh : s.Holds p [] := by
      by_cases ht : s.mode = .tag
      · exact ((State.coherent_of_tag ht).1 hs).skip (hc ht)
      · exact (State.coherent_of_hidden ho ht).1 hs
    have hh' : s'.Holds p [] := by simpa only [State.Holds, hq, hcol] using hh
    by_cases ht : s'.mode = .tag
    · exact (State.coherent_of_tag ht).2 (hh'.weaken after)
    · exact (State.coherent_of_hidden ho' ht).2 hh'

end Textwork.Markup
