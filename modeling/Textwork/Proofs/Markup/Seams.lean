/-
  Texts read one behind the other.

  Outside of tags the reader remembers nothing, and none of its looks at
  neighbouring characters reaches back over the place where a tag began or
  forward out of a tag that ended.  The main statements:

  * `scan_append`: a run over two texts is a run over the one and then over the
    other, if the seam does not follow an opening bracket;
  * `scan_lookBehind`: what stood before a tag does not matter inside of it;
  * `removeTags_append`, `scan_comment`: texts can be cut where the reader is
    outside of tags, and a comment leaves nothing behind.
-/
import Textwork.Proofs.Markup.Stripping

namespace Textwork.Markup

variable {p : Policy} {s : State} {c : Char} {a r t before after : Text}

/-! ## The seam seen from the front -/

/-- Only at an opening bracket the reader looks at the character behind. -/
theorem step_lookAhead {after' : Text} (h : c = '<' → after.head? = after'.head?) :
    step p before c after s = step p before c after' s := by
  by_cases hc : c = '<'
  · have ho : openAngle p s after = openAngle p s after' := by
      unfold openAngle
      rw [h hc]
    simp [step, hc, ho]
  · simp [step, hc]

theorem scan_append (b : Text) : ∀ (before : Text) (s : State), a.getLast? ≠ some '<' →
    scan p before s (a ++ b) =
      ((scan p (a.reverse ++ before) (scan p before s a).1 b).1,
        (scan p before s a).2 ++ (scan p (a.reverse ++ before) (scan p before s a).1 b).2) := by
  induction a with
  | nil => intro before s _; rfl
  | cons c a ih =>
    intro before s ha
    have hstep : step p before c (a ++ b) s = step p before c a s := by
      refine step_lookAhead fun hc => ?_
      cases a with
      | nil => exact absurd (by rw [hc]; rfl) ha
      | cons d a => rfl
    have ha' : a.getLast? ≠ some '<' := by
      cases a with
      | nil => simp
      | cons d a => rwa [List.getLast?_cons_cons] at ha
    rw [List.cons_append, scan_cons, hstep, ih _ _ ha', scan_cons]
    simp

/-- At the end of a text an opening bracket leaves the reader in a tag, declaration or comment. -/
theorem mode_openAngle_nil (hs : s.Coherent p ['<']) : (openAngle p s []).1.mode ≠ .outside := by
  by_cases ho : s.mode = .outside
  · obtain rfl : s = .initial := by simpa [State.Coherent, ho] using hs
    cases hp : p.collects <;> simp [openAngle, take, State.initial, hp]
  · by_cases ht : s.mode = .tag
    · unfold openAngle
      split_ifs <;> simp_all [skip]
    · rwa [openAngle_hidden ho ht]

theorem getLast?_ne_of_outside : ∀ (before : Text) (s : State), s.Coherent p a →
    (scan p before s a).1.mode = .outside → a.getLast? ≠ some '<' := by
  induction a with
  | nil => simp
  | cons c a ih =>
    intro before s hs h
    rw [scan_cons] at h
    cases a with
    | nil =>
      rintro hc
      obtain rfl : c = '<' := by simpa using hc
      have hstep : step p before '<' [] s = openAngle p s [] := by simp [step]
      rw [hstep] at h
      exact mode_openAngle_nil hs h
    | cons d a =>
      rw [List.getLast?_cons_cons]
      exact ih _ _ ((step_move before hs).coherent hs) h

/-! ## The seam seen from behind -/

theorem prefix_two_append {d e : Char} (hr : 2 ≤ r.length) (x : Text) :
    [d, e].isPrefixOf (r ++ x) = [d, e].isPrefixOf r := by
  match r, hr with
  | _ :: _ :: _, _ => simp [List.isPrefixOf]

/-- The word that starts a document type is looked for behind the mark of the declaration; `u` are
    the characters since then, nearest first. -/
theorem endsDoctype_iff (u rest : Text) (c : Char) :
    endsDoctype (u ++ '!' :: rest) c = true ↔
      "epytcod".toList <+: Text.asciiLower (c :: u) := by
  have hword : "epytcod".toList = ['e', 'p', 'y', 't', 'c', 'o', 'd'] := by decide
  have hseven : "epytcod".toList.length = 6 + 1 := by decide
  rw [endsDoctype, beq_iff_eq, List.prefix_iff_eq_take, eq_comm, hseven]
  unfold Text.asciiLower
  rw [← List.map_take, List.take_succ_cons]
  by_cases hu : 6 ≤ u.length
  · rw [List.take_append_of_le_length hu]
  · -- the word would reach over the mark
    have hmark : '!' ∈ (u ++ '!' :: rest).take 6 := by
      rw [List.take_append, List.mem_append]
      obtain ⟨k, hk⟩ : ∃ k, 6 - u.length = k + 1 := ⟨5 - u.length, by omega⟩
      rw [hk]
      simp
    have hleft : "epytcod".toList ≠ (c :: (u ++ '!' :: rest).take 6).map Char.toLower := by
      intro h
      have : '!' ∈ "epytcod".toList := by
        rw [h]
        exact List.mem_map.2 ⟨'!', by simp [hmark], by decide⟩
      exact absurd this (by decide)
    have hright : "epytcod".toList ≠ (c :: u.take 6).map Char.toLower := by
      intro h
      have := congrArg List.length h
      rw [hseven] at this
      simp at this
      omega
    exact ⟨fun h => absurd h hleft, fun h => absurd h hright⟩

theorem endsDoctype_append (hr : '!' ∈ r) (x : Text) (c : Char) :
    endsDoctype (r ++ x) c = endsDoctype r c := by
  obtain ⟨u, v, rfl⟩ := List.append_of_mem hr
  rw [Bool.eq_iff_iff, List.append_assoc, List.cons_append, endsDoctype_iff, endsDoctype_iff]

/-- The reader is inside a declaration or a comment. -/
def Mode.isHidden : Mode → Bool
  | .declaration | .comment => true
  | _ => false

/-- The characters `r` read so far, nearest first, reach as far back as the reader looks. -/
structure State.Reaches (s : State) (r : Text) : Prop where
  ne_nil : s.mode ≠ .outside → r ≠ []
  hidden : s.mode.isHidden = true → '!' ∈ r ∧ 2 ≤ r.length

theorem step_lookBehind (hs : s.Coherent p (c :: after)) (hr : s.Reaches r) (x : Text) :
    step p (r ++ x) c after s = step p r c after s := by
  cases hm : s.mode with
  | outside =>
    obtain rfl : s = .initial := by simpa [State.Coherent, hm] using hs
    rw [step_initial, step_initial]
  | tag =>
    obtain ⟨d, r, rfl⟩ := List.exists_cons_of_ne_nil (hr.ne_nil (by simp [hm]))
    simp [step, closeAngle, hm]
  | declaration | comment =>
    obtain ⟨hmark, hlen⟩ := hr.hidden (by simp [hm, Mode.isHidden])
    simp only [step, closeAngle, hm, prefix_two_append hlen, endsDoctype_append hmark, reduceCtorEq,
      false_and]

theorem mode_take (p : Policy) (s : State) (c : Char) : (take p s c).1.mode = s.mode := by
  obtain ⟨mode, depth, quote, collected⟩ := s
  cases mode with
  | tag => cases hp : p.collects <;> simp [take, hp]
  | _ => rfl

theorem isHidden_openAngle (h : (openAngle p s after).1.mode.isHidden = true) :
    s.mode.isHidden = true := by
  unfold openAngle at h
  split_ifs at h
  · exact h
  · rwa [mode_take] at h
  · cases hm : s.mode with
    | outside =>
      rw [hm, mode_take] at h
      cases h
    | tag =>
      rw [hm] at h
      cases h
    | declaration | comment => rfl

theorem isHidden_closeAngle (h : (closeAngle p s before).1.mode.isHidden = true) :
    s.mode.isHidden = true := by
  unfold closeAngle at h
  split_ifs at h
  · exact h
  · exact h
  · cases hp : p.collects <;> simp [closeTag, hp, Mode.isHidden] at h
  · cases h
  · rwa [mode_take] at h

/-- A declaration is entered at its mark only. -/
theorem isHidden_step (h : (step p before c after s).1.mode.isHidden = true) :
    s.mode.isHidden = true ∨ c = '!' ∧ before.head? = some '<' := by
  unfold step at h
  split_ifs at h with hopen hclose hbang hmark hdash hcomment hquote htag he hword
  · exact .inl (isHidden_openAngle h)
  · exact .inl (isHidden_closeAngle h)
  · exact .inr ⟨hbang, hmark.2⟩
  · exact .inl (by rwa [mode_take] at h)
  · exact .inl (by rw [hcomment.1]; rfl)
  · exact .inl (by rwa [mode_take] at h)
  · exact .inl (by rwa [mode_take] at h)
  · exact .inl (by rwa [mode_take] at h)
  · cases h
  · exact .inl (by rwa [mode_take] at h)
  · exact .inl (by rwa [mode_take] at h)

theorem State.Reaches.step (hs : s.Coherent p (c :: after)) (hr : s.Reaches r) :
    (Markup.step p r c after s).1.Reaches (c :: r) := by
  refine ⟨fun _ => List.cons_ne_nil c r, fun h => ?_⟩
  rcases isHidden_step h with h | ⟨rfl, hb⟩
  · obtain ⟨hmark, hlen⟩ := hr.hidden h
    exact ⟨List.mem_cons_of_mem c hmark, by rw [List.length_cons]; omega⟩
  · obtain ⟨r, rfl⟩ := List.head?_eq_some_iff.1 hb
    exact ⟨List.mem_cons_self, by simp⟩

theorem scan_lookBehind (x : Text) : ∀ (r : Text) (s : State), s.Coherent p t → s.Reaches r →
    scan p (r ++ x) s t = scan p r s t := by
  induction t with
  | nil => intro r s _ _; rfl
  | cons c t ih =>
    intro r s hs hr
    have hnext := ih (c :: r) _ ((step_move r hs).coherent hs) (hr.step hs)
    rw [scan_cons, scan_cons, step_lookBehind hs hr, ← List.cons_append, hnext]

/-- A run that starts outside of tags does not depend on what stands before. -/
theorem scan_initial (p : Policy) (before t : Text) :
    scan p before .initial t = scan p [] .initial t :=
  scan_lookBehind before [] .initial (State.coherent_initial p t)
    ⟨fun h => absurd rfl h, fun h => by cases h⟩

/-! ## Cuts -/

theorem coherent_scan : ∀ (before : Text) (s : State), s.Coherent p t →
    (scan p before s t).1.Coherent p [] := by
  induction t with
  | nil => exact fun _ _ hs => hs
  | cons c t ih => exact fun before s hs => ih _ _ ((step_move before hs).coherent hs)

/-- A text that leaves the reader outside of tags leaves it as it was at the start. -/
theorem scan_eq_initial (h : (scan p [] .initial a).1.mode = .outside) :
    scan p [] .initial a = (.initial, removeTags p a) := by
  have hs := coherent_scan [] .initial (State.coherent_initial p a)
  rw [removeTags]
  exact Prod.ext (by simpa [State.Coherent, h] using hs) rfl

theorem scan_append_of_outside (h : (scan p [] .initial a).1.mode = .outside) (b : Text) :
    scan p [] .initial (a ++ b) = ((scan p [] .initial b).1, removeTags p a ++ removeTags p b) := by
  have ha := getLast?_ne_of_outside [] .initial (State.coherent_initial p a) h
  rw [scan_append b [] .initial ha, scan_eq_initial h, scan_initial]
  rfl

/-- **A text can be cut where the reader is outside of tags.** -/
theorem removeTags_append (h : (scan p [] .initial a).1.mode = .outside) (b : Text) :
    removeTags p (a ++ b) = removeTags p a ++ removeTags p b := by
  rw [removeTags, scan_append_of_outside h]

/-! ## Comments -/

/-- A run over a text at which the reader writes nothing; `state` is its state behind each start of
    the text. -/
theorem scan_silent (before rest : Text) (state : Text → State)
    (h : ∀ x c y, t = x ++ c :: y →
      step p (x.reverse ++ before) c (y ++ rest) (state x) = (state (x ++ [c]), [])) :
    scan p before (state []) (t ++ rest) = scan p (t.reverse ++ before) (state t) rest := by
  suffices hrun : ∀ todo done, t = done ++ todo →
      scan p (done.reverse ++ before) (state done) (todo ++ rest) =
        scan p (t.reverse ++ before) (state t) rest from hrun t [] rfl
  intro todo
  induction todo with
  | nil =>
    intro done hd
    rw [List.append_nil] at hd
    rw [hd, List.nil_append]
  | cons c todo ih =>
    intro done hd
    rw [List.cons_append, scan_cons_of_silent (h done c todo hd)]
    simpa using ih (done ++ [c]) (by simpa using hd)

theorem step_comment (hm : s.mode = .comment) (hd : s.depth = 0) (hq : s.quote = none)
    (hc : c = '>' → ['-', '-'].isPrefixOf before = false) : step p before c after s = (s, []) := by
  by_cases hg : c = '>'
  · simp [step, closeAngle, take, hm, hd, hq, hg, hc hg]
  · simp [step, openAngle, take, hm, hq, hg]

/-- The four characters that open a comment. -/
theorem scan_commentStart (p : Policy) (t : Text) :
    ∃ collected, scan p [] .initial ("<!--".toList ++ t) =
      scan p "--!<".toList ⟨.comment, 0, none, collected⟩ t := by
  refine ⟨if p.collects then ['<'] else [], ?_⟩
  generalize hk : (if p.collects then ['<'] else []) = collected
  have hopen : "<!--".toList = ['<', '!', '-', '-'] := by decide
  have hread : "--!<".toList = ['-', '-', '!', '<'] := by decide
  have henter := step_initial p [] '<' (['!', '-', '-'] ++ t)
  rw [if_pos ⟨rfl, by simp⟩, hk] at henter
  have hmark : step p ['<'] '!' ('-' :: '-' :: t) ⟨.tag, 0, none, collected⟩ =
      (⟨.declaration, 0, none, collected⟩, []) := by simp [step, skip]
  have hdash : step p ['!', '<'] '-' ('-' :: t) ⟨.declaration, 0, none, collected⟩ =
      (⟨.declaration, 0, none, collected⟩, []) := by simp [step, take]
  have hcomment : step p ['-', '!', '<'] '-' t ⟨.declaration, 0, none, collected⟩ =
      (⟨.comment, 0, none, collected⟩, []) := by simp [step, skip]
  rw [hopen, hread, List.cons_append, scan_cons_of_silent henter]
  simp only [List.cons_append, List.nil_append]
  rw [scan_cons_of_silent hmark, scan_cons_of_silent hdash, scan_cons_of_silent hcomment]

/-- A closing bracket that ends a comment stands behind two dashes of it. -/
theorem isPrefixOf_dashes {x y : Text} (hc : ¬ "-->".toList <:+: "--".toList ++ (x ++ '>' :: y)) :
    ['-', '-'].isPrefixOf (x.reverse ++ "--!<".toList) = false := by
  have hend : "-->".toList = ['-', '-', '>'] := by decide
  have hdashes : "--".toList = ['-', '-'] := by decide
  have hread : "--!<".toList = ['-', '-', '!', '<'] := by decide
  rw [Bool.eq_false_iff]
  intro h
  rw [List.isPrefixOf_iff_prefix, hread] at h
  have hsuffix : ['-', '-'] <:+ ['<', '!'] ++ (['-', '-'] ++ x) := by
    rw [← List.reverse_prefix]
    simpa using h
  obtain ⟨w, hw⟩ := List.suffix_of_suffix_length_le hsuffix (List.suffix_append _ _) (by simp)
  refine hc ⟨w, y, ?_⟩
  rw [hend, hdashes, ← List.append_assoc, ← hw]
  simp

/-- **A comment leaves nothing behind**, whatever brackets and quotes it holds. -/
theorem scan_comment (p : Policy) (hc : ¬ "-->".toList <:+: "--".toList ++ t) :
    scan p [] .initial ("<!--".toList ++ t ++ "-->".toList) = (.initial, []) := by
  have hend : "-->".toList = ['-', '-'] ++ ['>'] := by decide
  obtain ⟨collected, hstart⟩ := scan_commentStart p (t ++ "-->".toList)
  have hbody := scan_silent (p := p) (t := t ++ ['-', '-']) "--!<".toList ['>']
    (fun _ => ⟨.comment, 0, none, collected⟩) fun x c y hxy => by
      refine step_comment rfl rfl rfl ?_
      rintro rfl
      -- the bracket is one of the comment, since the last two characters are dashes
      rcases List.append_eq_append_iff.1 hxy with ⟨z, rfl, hz⟩ | ⟨z, rfl, hz⟩
      · match z, hz with
        | [], hz => simp at hz
        | [_], hz => simp at hz
        | _ :: _ :: z, hz => simp at hz
      · cases z with
        | nil => simp at hz
        | cons d z =>
          obtain ⟨rfl, -⟩ := List.cons.inj hz
          exact isPrefixOf_dashes hc
  have hclose : step p ((t ++ ['-', '-']).reverse ++ "--!<".toList) '>' []
      ⟨.comment, 0, none, collected⟩ = (.initial, []) := by
    simp [step, closeAngle, skip, State.initial]
  rw [List.append_assoc, hstart, hend, ← List.append_assoc, hbody, scan_cons_of_silent hclose]
  rfl

end Textwork.Markup

namespace Textwork.Catalogue

open Markup

/-- **Texts are stripped of tags piece by piece.**  Behind a text that leaves the reader outside of
    tags, any other text comes to what it comes to alone; a comment between the two comes to
    nothing, whatever it holds and whatever replaces tags. -/
theorem stripTags_append {kept : Value} {names : List Text} (hk : Keeps kept names)
    {replacement : Value} {fill : Text} (hr : replacement.toText = .ok fill) {a : Text}
    (ha : (scan ⟨names, fill⟩ [] .initial a).1.mode = .outside) (b : Text) :
    ∃ u v, stripTags (.text a) kept replacement = .ok (.text u) ∧
      stripTags (.text b) kept replacement = .ok (.text v) ∧
      stripTags (.text (a ++ b)) kept replacement = .ok (.text (u ++ v)) ∧
      ∀ c, ¬ "-->".toList <:+: "--".toList ++ c →
        stripTags (.text (a ++ ("<!--".toList ++ c ++ "-->".toList) ++ b)) kept replacement =
          .ok (.text (u ++ v)) := by
  have hstrip (t : Text) := stripTags_text hk.names_eq hr t
  refine ⟨_, _, hstrip a, hstrip b, ?_, fun c hc => ?_⟩
  · rw [hstrip, removeTags_append ha]
  · have hcomment := scan_comment ⟨names, fill⟩ hc
    have hout : (scan ⟨names, fill⟩ [] .initial
        (a ++ ("<!--".toList ++ c ++ "-->".toList))).1.mode = .outside := by
      rw [scan_append_of_outside ha, hcomment]
      rfl
    have hnothing : removeTags ⟨names, fill⟩ ("<!--".toList ++ c ++ "-->".toList) = [] :=
      congrArg Prod.snd hcomment
    rw [hstrip, removeTags_append hout, removeTags_append ha, hnothing, List.append_nil]

/-- A comment that holds quotes and tags, between two tags of which one is kept. -/
theorem stripTags_append_quotes :
    Keeps (.text "<b>".toList) [['b']] ∧ (Value.text ['*']).toText = .ok ['*'] ∧
      (scan ⟨[['b']], ['*']⟩ [] .initial "x<i a='>'>".toList).1.mode = .outside ∧
      ¬ "-->".toList <:+: "--".toList ++ " '<i> -- > ".toList ∧
      ∃ u v, stripTags (.text "x<i a='>'>".toList) (.text "<b>".toList) (.text ['*']) =
          .ok (.text u) ∧
        stripTags (.text "<b>y".toList) (.text "<b>".toList) (.text ['*']) = .ok (.text v) ∧
        stripTags (.text ("x<i a='>'>".toList ++
            ("<!--".toList ++ " '<i> -- > ".toList ++ "-->".toList) ++ "<b>y".toList))
          (.text "<b>".toList) (.text ['*']) = .ok (.text (u ++ v)) := by
  have hk : Keeps (.text "<b>".toList) [['b']] := ⟨rfl, rfl⟩
  have hr : (Value.text ['*']).toText = .ok ['*'] := rfl
  have ha : (scan ⟨[['b']], ['*']⟩ [] .initial "x<i a='>'>".toList).1.mode = .outside := by
    decide +kernel
  have hc : ¬ "-->".toList <:+: "--".toList ++ " '<i> -- > ".toList := by decide +kernel
  obtain ⟨u, v, hu, hv, -, huv⟩ := stripTags_append hk hr ha "<b>y".toList
  exact ⟨hk, hr, ha, hc, u, v, hu, hv, huv _ hc⟩

end Textwork.Catalogue
