/-
  Tags that are kept.

  A well-formed text is made of plain stretches and of tags with quoted values.
  With all its tags kept it is copied, but for the brackets in quoted values,
  which are passed over.

  * `Attribute`, `TagName`, `Piece`: what a well-formed text is made of, as it is
    written and as it is copied;
  * `scan_written`: the reader copies it;
  * `stripTags_written`: the text is copied as it is just if no value holds a
    bracket.
-/
import Mathlib.Data.Bool.AllAny
import Textwork.Proofs.Markup.Values
import Textwork.Proofs.Traversal

namespace Textwork.Markup

variable {p : Policy} {k t before rest : Text}

/-! ## Well-formed texts -/

/-- An attribute: its name, and its value between quotes, in which no declaration starts. -/
structure Attribute where
  name : Text
  quote : Char
  value : Text
  isAlpha : ∀ c ∈ name, c.isAlpha = true
  isQuote : quote = '\'' ∨ quote = '"'
  closed : quote ∉ value
  undeclared : ¬ "<!".toList <:+: value

/-- The name of a tag. -/
structure TagName where
  letters : Text
  ne_nil : letters ≠ []
  isAlpha : ∀ c ∈ letters, c.isAlpha = true

/-- A piece of a well-formed text. -/
inductive Piece where
  /-- a stretch without brackets -/
  | plain (t : Text) (h : '<' ∉ t ∧ '>' ∉ t)
  | opening (name : TagName) (attributes : List Attribute)
  | closing (name : TagName)

namespace Attribute

/-- The attribute with the text `v` between its quotes. -/
def around (a : Attribute) (v : Text) : Text :=
  ' ' :: (a.name ++ '=' :: a.quote :: (v ++ [a.quote]))

/-- The attribute as it is written. -/
def written (a : Attribute) : Text := a.around a.value

/-- The attribute without the brackets in its value. -/
def copied (a : Attribute) : Text := a.around (a.value.filter fun c => ¬IsBracket c)

theorem length_copied_le (a : Attribute) : a.copied.length ≤ a.written.length := by
  have := a.value.length_filter_le fun c => ¬IsBracket c
  simp only [copied, written, around, List.length_cons, List.length_append]
  omega

theorem copied_eq_written_iff {a : Attribute} :
    a.copied = a.written ↔ '<' ∉ a.value ∧ '>' ∉ a.value := by
  have hfilter : a.copied = a.written ↔ (a.value.filter fun c => ¬IsBracket c) = a.value := by
    simp [copied, written, around]
  rw [hfilter, List.filter_eq_self]
  constructor
  · intro h
    exact ⟨fun hm => by simpa [IsBracket] using h _ hm, fun hm => by simpa [IsBracket] using h _ hm⟩
  · rintro ⟨hl, hg⟩ c hc
    simp only [IsBracket, decide_eq_true_eq, not_or]
    exact ⟨fun h => hl (h ▸ hc), fun h => hg (h ▸ hc)⟩

end Attribute

namespace Piece

/-- The attributes of a piece. -/
def attributes : Piece → List Attribute
  | opening _ attributes => attributes
  | _ => []

/-- The name of a tag. -/
def name? : Piece → Option TagName
  | plain .. => none
  | opening name _ => some name
  | closing name => some name

/-- The piece with its attributes as `f` has them. -/
def textWith (f : Attribute → Text) : Piece → Text
  | plain t _ => t
  | opening name attributes => '<' :: (name.letters ++ attributes.flatMap f ++ ['>'])
  | closing name => '<' :: ('/' :: name.letters ++ ['>'])

/-- The piece as it is written. -/
def written : Piece → Text := textWith Attribute.written

/-- The piece without the brackets in its values. -/
def copied : Piece → Text := textWith Attribute.copied

end Piece

theorem length_flatMap_le {α : Type} {f g : α → Text} {l : List α}
    (h : ∀ a ∈ l, (f a).length ≤ (g a).length) : (l.flatMap f).length ≤ (l.flatMap g).length := by
  induction l with
  | nil => exact Nat.le_refl _
  | cons a l ih =>
    obtain ⟨ha, hl⟩ := List.forall_mem_cons.1 h
    simpa using Nat.add_le_add ha (ih hl)

/-- Two ways to write the members of a list, the one never longer than the other, agree on the whole
    just if they agree on each member. -/
theorem flatMap_eq_flatMap_iff {α : Type} {f g : α → Text} {l : List α}
    (h : ∀ a ∈ l, (f a).length ≤ (g a).length) :
    l.flatMap f = l.flatMap g ↔ ∀ a ∈ l, f a = g a := by
  induction l with
  | nil => simp
  | cons a l ih =>
    obtain ⟨ha, hl⟩ := List.forall_mem_cons.1 h
    rw [List.flatMap_cons, List.flatMap_cons, List.forall_mem_cons, ← ih hl]
    constructor
    · intro heq
      have hlen := congrArg List.length heq
      have hrest := length_flatMap_le hl
      simp only [List.length_append] at hlen
      exact List.append_inj heq (by omega)
    · rintro ⟨h₁, h₂⟩
      rw [h₁, h₂]

namespace Piece

theorem length_copied_le (x : Piece) : x.copied.length ≤ x.written.length := by
  cases x with
  | plain | closing => exact Nat.le_refl _
  | opening name attributes =>
    have := length_flatMap_le (l := attributes) fun a _ => a.length_copied_le
    simp only [copied, written, textWith, List.length_cons, List.length_append]
    omega

theorem copied_eq_written_iff {x : Piece} :
    x.copied = x.written ↔ ∀ a ∈ x.attributes, '<' ∉ a.value ∧ '>' ∉ a.value := by
  cases x with
  | plain | closing => simp [copied, written, textWith, attributes]
  | opening name as =>
    have hlen : ∀ a ∈ as, a.copied.length ≤ a.written.length := fun a _ => a.length_copied_le
    have hflat := flatMap_eq_flatMap_iff hlen
    simp only [Attribute.copied_eq_written_iff] at hflat
    simpa [copied, written, textWith, attributes] using hflat

end Piece

/-- A text is copied as it is just if no value holds a bracket. -/
theorem flatMap_copied_eq_iff {pieces : List Piece} :
    pieces.flatMap (·.copied) = pieces.flatMap (·.written) ↔
      ∀ x ∈ pieces, ∀ a ∈ x.attributes, '<' ∉ a.value ∧ '>' ∉ a.value := by
  rw [flatMap_eq_flatMap_iff fun x _ => x.length_copied_le]
  simp only [Piece.copied_eq_written_iff]

/-! ## The name of a tag -/

theorem toNat_lt_of_isAlpha {t : Text} (h : ∀ c ∈ t, c.isAlpha = true) : ∀ c ∈ t, c.toNat < 128 :=
  fun c hc => toNat_lt_of_isAlphanum (isAlphanum_of_isAlpha (h c hc))

/-- The signs that make up a tag have no case. -/
theorem lowerBetween_sign {c : Char} (hc : c ∈ ['<', '>', '/', ' ']) (before after : Text) :
    Text.lowerBetween before c after = [c] := by
  have hsigns : ∀ d ∈ ['<', '>', '/', ' '], d.toNat < 128 ∧ d.toLower = d :=
    List.all_iff_forall_prop.1 (by decide)
  obtain ⟨hlt, hlower⟩ := hsigns c hc
  rw [Text.lowerBetween_ascii hlt, hlower]

theorem tagNameFrom_letters {name : Text} (hn : ∀ c ∈ name, c.isAlpha = true) (rest : Text)
    (started : Bool) (hs : started = true ∨ name ≠ []) :
    tagNameFrom started (name ++ rest) = name ++ tagNameFrom true rest := by
  induction name generalizing started with
  | nil =>
    obtain rfl : started = true := by simpa using hs
    rfl
  | cons c name ih =>
    obtain ⟨hc, hn⟩ := List.forall_mem_cons.1 hn
    have hother : c ≠ '<' ∧ c ≠ '>' ∧ Unicode.isBlank c = false ∧ c ≠ '/' :=
      isAlphanum_ascii (P := fun c => c ≠ '<' ∧ c ≠ '>' ∧ Unicode.isBlank c = false ∧ c ≠ '/')
        (by decide) (by simp [Char.isAlphanum, hc])
    obtain ⟨hl, hg, hb, hs⟩ := hother
    rw [List.cons_append, tagNameFrom, if_neg hl, if_neg hg, hb, if_neg (by decide), if_neg hs,
      ih hn true (.inl rfl)]
    rfl

/-- Behind a name comes a space, or the end of the tag. -/
def EndsName (rest : Text) : Prop := rest.head? = some ' ' ∨ rest.head? = some '>'

theorem tagNameFrom_endsName (h : EndsName rest) (before : Text) :
    tagNameFrom true (Text.mapInContext Text.lowerBetween before rest) = [] := by
  have hblank : Unicode.isBlank ' ' = true := by decide
  rcases h with h | h
  · obtain ⟨t, rfl⟩ := List.head?_eq_some_iff.1 h
    rw [Text.mapInContext, lowerBetween_sign (by decide)]
    simp [tagNameFrom, hblank]
  · obtain ⟨t, rfl⟩ := List.head?_eq_some_iff.1 h
    rw [Text.mapInContext, lowerBetween_sign (by decide)]
    simp [tagNameFrom]

theorem isAlpha_asciiLower {name : Text} (hn : ∀ c ∈ name, c.isAlpha = true) :
    ∀ c ∈ name.asciiLower, c.isAlpha = true := by
  intro d hd
  obtain ⟨c, hc, rfl⟩ := List.mem_map.1 hd
  exact isAlphanum_ascii (P := fun c => c.isAlpha = true → c.toLower.isAlpha = true) (by decide)
    (isAlphanum_of_isAlpha (hn c hc)) (hn c hc)

theorem isAlpha_of_toLower {c : Char} (h : c.toLower.isAlpha = true) : c.isAlpha = true := by
  by_cases hu : c.isUpper = true
  · exact isAlpha_of_isUpper hu
  · rwa [toLower_of_not_isUpper hu] at h

theorem tagNameFrom_lower (name : TagName) (h : EndsName rest) (before : Text) (started : Bool) :
    tagNameFrom started (Text.mapInContext Text.lowerBetween before (name.letters ++ rest)) =
      name.letters.asciiLower := by
  have hne : name.letters.asciiLower ≠ [] := by simpa [Text.asciiLower] using name.ne_nil
  rw [Text.mapInContext_ascii (toNat_lt_of_isAlpha name.isAlpha),
    tagNameFrom_letters (isAlpha_asciiLower name.isAlpha) _ started (.inr hne),
    tagNameFrom_endsName h, List.append_nil]

/-- The name of a tag is that behind its bracket, in lower case. -/
theorem tagName_opening (name : TagName) (h : EndsName rest) :
    tagName ('<' :: (name.letters ++ rest)) = name.letters.asciiLower := by
  rw [tagName, Text.lower, Text.mapInContext, lowerBetween_sign (by decide), List.singleton_append,
    tagNameFrom, if_pos rfl, tagNameFrom_lower name h]

theorem tagName_closing (name : TagName) (h : EndsName rest) :
    tagName ('<' :: '/' :: (name.letters ++ rest)) = name.letters.asciiLower := by
  have hslash : Unicode.isBlank '/' = false := by decide
  rw [tagName, Text.lower, Text.mapInContext, lowerBetween_sign (by decide), Text.mapInContext,
    lowerBetween_sign (by decide)]
  simp only [List.singleton_append, tagNameFrom, hslash, if_true, if_false,
    Char.reduceEq, Bool.false_eq_true]
  exact tagNameFrom_lower name h _ true

/-! ## Copies -/

theorem scan_quotedValue {q : Char} {v : Text} (hq : q ≠ '<') (hv : q ∉ v)
    (hfree : ¬ "<!".toList <:+: v) :
    scan p (q :: before) ⟨.tag, 0, some q, k⟩ (v ++ rest) =
      scan p (v.reverse ++ q :: before)
        ⟨.tag, 0, some q, gathered p k (v.filter fun c => ¬IsBracket c)⟩ rest := by
  have hmode {x y : Text} (hxy : v = x ++ y) : valueMode (q :: before) .tag x = .tag :=
    valueMode_eq_tag hq fun h => hfree (h.holdsMark.trans ⟨[], y, by simp [hxy]⟩)
  have hrun := scan_silent (p := p) (t := v) (q :: before) rest
    (fun x => ⟨.tag, 0, some q, gathered p k (x.filter fun c => ¬IsBracket c)⟩) fun x c y hxy => by
      have hc : c ≠ q := fun h => hv (by simp [hxy, h])
      have hnext : turned (x.reverse ++ q :: before) c .tag = .tag := by
        have hx := hmode hxy
        have hxc := hmode (x := x ++ [c]) (y := y) (by simp [hxy])
        rwa [valueMode_append_singleton, hx] at hxc
      rw [step_quoted (by decide) hc, hnext]
      by_cases hb : IsBracket c <;> simp [hb]
  simpa using hrun

theorem scan_attribute (a : Attribute) :
    scan p before ⟨.tag, 0, none, k⟩ (a.written ++ rest) =
      scan p (a.written.reverse ++ before) ⟨.tag, 0, none, gathered p k a.copied⟩ rest := by
  have hname : ∀ c ∈ ' ' :: (a.name ++ ['=']), IsPlain c := by
    have hsigns : IsPlain ' ' ∧ IsPlain '=' := by decide
    simp only [List.forall_mem_cons, List.forall_mem_append]
    exact ⟨hsigns.1, fun c hc => isPlain_of_isAlpha (a.isAlpha c hc), hsigns.2, by simp⟩
  have hopen (before after k : Text) : step p before a.quote after ⟨.tag, 0, none, k⟩ =
      (⟨.tag, 0, some a.quote, gathered p k [a.quote]⟩, []) := step_quote a.isQuote none
  have hclose (before after k : Text) : step p before a.quote after ⟨.tag, 0, some a.quote, k⟩ =
      (⟨.tag, 0, none, gathered p k [a.quote]⟩, []) := by
    rw [step_quote a.isQuote]
    simp [toggleQuote]
  have hparts : a.written ++ rest =
      (' ' :: (a.name ++ ['='])) ++ a.quote :: (a.value ++ a.quote :: rest) := by
    simp [Attribute.written, Attribute.around]
  rw [hparts, scan_plain hname, scan_cons_of_silent (hopen ..),
    scan_quotedValue (quote_ne a.isQuote).1 a.closed a.undeclared, scan_cons_of_silent (hclose ..)]
  simp [Attribute.written, Attribute.copied, Attribute.around]

theorem scan_attributes (as : List Attribute) : ∀ before k,
    scan p before ⟨.tag, 0, none, k⟩ (as.flatMap Attribute.written ++ rest) =
      scan p ((as.flatMap Attribute.written).reverse ++ before)
        ⟨.tag, 0, none, gathered p k (as.flatMap Attribute.copied)⟩ rest := by
  induction as with
  | nil => simp
  | cons a as ih =>
    intro before k
    rw [List.flatMap_cons, List.append_assoc, scan_attribute, ih]
    simp

/-- A tag that is kept is copied; `w` is its name, and a stroke before it if it closes. -/
theorem scan_keptTag {w : Text} (as : List Attribute) (hne : w ≠ []) (hw : ∀ c ∈ w, IsPlain c)
    (hs : ' ' ∉ w) (hk : tagName ('<' :: (w ++ as.flatMap Attribute.copied ++ ['>'])) ∈ p.kept) :
    scan p [] .initial ('<' :: (w ++ as.flatMap Attribute.written ++ ['>'])) =
      (.initial, '<' :: (w ++ as.flatMap Attribute.copied ++ ['>'])) := by
  have hp := p.collects_of_mem hk
  have hhead : (w ++ (as.flatMap Attribute.written ++ ['>'])).head? ≠ some ' ' := by
    obtain ⟨d, w, rfl⟩ := List.exists_cons_of_ne_nil hne
    intro h
    obtain rfl : d = ' ' := by simpa using h
    exact hs List.mem_cons_self
  have henter := step_initial p [] '<' (w ++ (as.flatMap Attribute.written ++ ['>']))
  rw [if_pos ⟨rfl, hhead⟩, if_pos hp] at henter
  have hclose (before : Text) : step p before '>' []
      ⟨.tag, 0, none, '<' :: (w ++ as.flatMap Attribute.copied)⟩ =
        (.initial, '<' :: (w ++ as.flatMap Attribute.copied ++ ['>'])) := by
    simp only [List.append_assoc] at hk
    simp [step, closeAngle, closeTag, hp, hk, State.initial]
  rw [List.append_assoc, scan_cons_of_silent henter, scan_plain hw, scan_attributes]
  simp only [gathered, hp, if_true, List.cons_append, List.nil_append]
  rw [scan_cons, hclose]
  simp [scan]

/-- A piece whose tag is kept is copied. -/
theorem scan_piece (x : Piece) (hk : ∀ name ∈ x.name?, name.letters.asciiLower ∈ p.kept) :
    scan p [] .initial x.written = (.initial, x.copied) := by
  cases x with
  | plain t h => exact scan_settled (Settled.of_anglesSpaced (anglesSpaced_of_notMem h.1)) []
  | opening name as =>
    have hend : EndsName (as.flatMap Attribute.copied ++ ['>']) := by
      cases as with
      | nil => exact .inr rfl
      | cons a as => exact .inl rfl
    refine scan_keptTag as name.ne_nil (fun c hc => isPlain_of_isAlpha (name.isAlpha c hc))
      (fun h => absurd (name.isAlpha _ h) (by decide)) ?_
    rw [List.append_assoc, tagName_opening name hend]
    exact hk name rfl
  | closing name =>
    have hrun := scan_keptTag (p := p) (w := '/' :: name.letters) [] (by simp)
      (List.forall_mem_cons.2 ⟨by decide, fun c hc => isPlain_of_isAlpha (name.isAlpha c hc)⟩)
      (by
        rw [List.mem_cons, not_or]
        exact ⟨by decide, fun h => absurd (name.isAlpha _ h) (by decide)⟩)
      (by
        simp only [List.flatMap_nil, List.append_nil, List.cons_append]
        rw [tagName_closing name (.inr rfl)]
        exact hk name rfl)
    simpa [Piece.written, Piece.copied, Piece.textWith] using hrun

/-- **A well-formed text whose tags are kept is copied.** -/
theorem scan_written {pieces : List Piece}
    (hk : ∀ x ∈ pieces, ∀ name ∈ x.name?, name.letters.asciiLower ∈ p.kept) :
    scan p [] .initial (pieces.flatMap (·.written)) = (.initial, pieces.flatMap (·.copied)) := by
  induction pieces with
  | nil => rfl
  | cons x pieces ih =>
    obtain ⟨hx, hpieces⟩ := List.forall_mem_cons.1 hk
    have hscan := scan_piece x hx
    rw [List.flatMap_cons, List.flatMap_cons, scan_append_of_outside (by rw [hscan]; rfl), removeTags,
      removeTags, hscan, ih hpieces]

/-! ## Listed names -/

theorem tagNamesFrom_bracket (open? : Option Text) (t : Text) :
    tagNamesFrom open? ('<' :: t) = tagNamesFrom (some []) t := by
  cases open? <;> rw [tagNamesFrom, if_pos rfl]

theorem tagNamesFrom_letters {n : Text} (hn : ∀ c ∈ n, c.isAlpha = true) (y : Text) :
    ∀ w, w ++ n ≠ [] → tagNamesFrom (some w) (n ++ '>' :: y) =
      Text.asciiLower (w.reverse ++ n) :: tagNamesFrom none y := by
  induction n with
  | nil =>
    intro w hw
    have hw : w.isEmpty = false := by simpa using hw
    rw [List.nil_append, tagNamesFrom, if_neg (by decide)]
    simp [hw]
  | cons c n ih =>
    intro w hw
    obtain ⟨hc, hn⟩ := List.forall_mem_cons.1 hn
    have halnum : c.isAlphanum = true := by simp [Char.isAlphanum, hc]
    obtain ⟨hl, hg, -⟩ := isPlain_of_isAlpha hc
    rw [List.cons_append, tagNamesFrom, if_neg hl]
    simp only [if_neg hg, halnum, if_true]
    rw [ih hn (c :: w) (by simp)]
    simp

/-- A name between brackets is found, whatever stands around it. -/
theorem mem_tagNames {n t : Text} (hn : ∀ c ∈ n, c.isAlpha = true) (hne : n ≠ [])
    (h : '<' :: (n ++ ['>']) <:+: t) : n.asciiLower ∈ tagNames t := by
  obtain ⟨x, y, rfl⟩ := h
  suffices hfound : ∀ open?, n.asciiLower ∈ tagNamesFrom open? (x ++ '<' :: (n ++ '>' :: y)) by
    simpa [tagNames] using hfound none
  induction x with
  | nil =>
    intro open?
    rw [List.nil_append, tagNamesFrom_bracket, tagNamesFrom_letters hn y [] (by simpa using hne)]
    exact List.mem_cons_self
  | cons c x ih =>
    intro open?
    rw [List.cons_append]
    cases open? with
    | none =>
      rw [tagNamesFrom]
      split_ifs
      · exact ih _
      · exact ih _
    | some w =>
      rw [tagNamesFrom]
      split_ifs
      · exact ih _
      · exact ih _
      · exact List.mem_cons_of_mem _ (ih _)
      · exact ih _
      · exact ih _

end Textwork.Markup

namespace Textwork.Catalogue

open Markup

/-- A name is among the tags to keep: between brackets in a text, or as an item; case does not
    matter. -/
inductive ListsName (kept : Value) (name : Text) : Prop
  | inText {t n : Text} (hv : kept = .text t) (hn : n.asciiLower = name.asciiLower)
      (h : '<' :: (n ++ ['>']) <:+: t)
  | inItems {items : List Value} {n : Text} (ht : ∀ t, kept ≠ .text t)
      (hv : kept.items? = some items) (hn : n.asciiLower = name.asciiLower) (h : .text n ∈ items)

theorem mem_of_listsName {kept : Value} {names : List Text} (hk : keptTags kept = .ok names)
    {name : TagName} (h : ListsName kept name.letters) : name.letters.asciiLower ∈ names := by
  have hletters {n : Text} (hn : n.asciiLower = name.letters.asciiLower) :
      (∀ c ∈ n, c.isAlpha = true) ∧ n ≠ [] := by
    refine ⟨fun c hc => isAlpha_of_toLower ?_, ?_⟩
    · refine isAlpha_asciiLower name.isAlpha _ ?_
      rw [← hn]
      exact List.mem_map_of_mem hc
    · rintro rfl
      exact name.ne_nil (List.map_eq_nil_iff.1 hn.symm)
  cases h with
  | @inText t n hv hn h =>
    subst hv
    obtain rfl : tagNames t = names := Except.ok.inj hk
    rw [← hn]
    exact mem_tagNames (hletters hn).1 (hletters hn).2 h
  | @inItems items n ht hv hn h =>
    have hitems : kept.items = .ok items := by rw [Value.items, hv]
    have hmap : items.mapM (fun tag => tag.toText.map Text.lower) = .ok names := by
      unfold keptTags at hk
      split at hk
      · simp [Value.items?] at hv
      · exact absurd rfl (ht _)
      · rwa [hitems] at hk
    obtain ⟨r, hr, hlower⟩ := exists_mem_of_mapM_eq_ok hmap h
    obtain rfl : n.lower = r := Except.ok.inj hlower
    rwa [← hn, ← Text.lower_ascii (toNat_lt_of_isAlpha (hletters hn).1)]

/-- **Kept tags are copied, but for the brackets in quoted values.**  A well-formed text whose tags
    are all to be kept comes to itself without these brackets; so it comes to itself just if there
    are none. -/
theorem stripTags_written {kept : Value} {names : List Text} (hk : keptTags kept = .ok names)
    {replacement : Value} {fill : Text} (hr : replacement.toText = .ok fill) {pieces : List Piece}
    (hn : ∀ x ∈ pieces, ∀ name ∈ x.name?, ListsName kept name.letters) :
    stripTags (.text (pieces.flatMap (·.written))) kept replacement =
        .ok (.text (pieces.flatMap (·.copied))) ∧
      (stripTags (.text (pieces.flatMap (·.written))) kept replacement =
          .ok (.text (pieces.flatMap (·.written))) ↔
        ∀ x ∈ pieces, ∀ a ∈ x.attributes, '<' ∉ a.value ∧ '>' ∉ a.value) := by
  have hcopied : stripTags (.text (pieces.flatMap (·.written))) kept replacement =
      .ok (.text (pieces.flatMap (·.copied))) := by
    rw [stripTags_text hk hr, removeTags,
      scan_written (p := ⟨names, fill⟩) fun x hx name h => mem_of_listsName hk (hn x hx name h)]
  refine ⟨hcopied, ?_⟩
  rw [hcopied, Except.ok.injEq, Value.text.injEq]
  exact flatMap_copied_eq_iff

/-- A closing bracket in the value of a link. -/
def arrowAttribute : Attribute :=
  ⟨"title".toList, '"', "x->y".toList, List.all_eq_true.1 (by decide), .inr rfl, by decide,
    by decide +kernel⟩

/-- The name of a link. -/
def linkName : TagName := ⟨['a'], by decide, List.forall_mem_singleton.2 (by decide)⟩

/-- The arrow in the value comes to a dash. -/
theorem stripTags_written_arrow :
    keptTags (.list [.text ['A']]) = .ok [['a']] ∧ (Value.text ['*']).toText = .ok ['*'] ∧
      (∀ x ∈ [Piece.opening linkName [arrowAttribute], .closing linkName], ∀ name ∈ x.name?,
        ListsName (.list [.text ['A']]) name.letters) ∧
      stripTags (.text "<a title=\"x->y\"></a>".toList) (.list [.text ['A']]) (.text ['*']) =
        .ok (.text "<a title=\"x-y\"></a>".toList) := by
  have hk : keptTags (.list [.text ['A']]) = .ok [['a']] := rfl
  have hr : (Value.text ['*']).toText = .ok ['*'] := rfl
  have hlink : ListsName (.list [.text ['A']]) linkName.letters :=
    .inItems (n := ['A']) (fun t => by simp) rfl rfl (by simp)
  have hn : ∀ x ∈ [Piece.opening linkName [arrowAttribute], .closing linkName], ∀ name ∈ x.name?,
      ListsName (.list [.text ['A']]) name.letters := by
    simpa [Piece.name?] using hlink
  exact ⟨hk, hr, hn, (stripTags_written hk hr hn).1⟩

/-- A bracket in a quoted value is lost, though the tag is kept. -/
theorem stripTags_loses_bracket :
    stripTags (.text "<a title=\">\">x</a>".toList) (.text "<a>".toList) (.text []) =
        .ok (.text "<a title=\"\">x</a>".toList) ∧
      "<a title=\"\">x</a>".toList ≠ "<a title=\">\">x</a>".toList := by
  have hremoved : removeTags ⟨[['a']], []⟩ "<a title=\">\">x</a>".toList =
      "<a title=\"\">x</a>".toList := by
    decide +kernel
  have hkept : keptTags (.text "<a>".toList) = .ok [['a']] := rfl
  exact ⟨by rw [stripTags_text hkept rfl, hremoved], by decide⟩

end Textwork.Catalogue
