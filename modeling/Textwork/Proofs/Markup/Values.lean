/-
  Quoted values of attributes.

  Brackets between quotes are passed over, but `<!` is not: the reader takes it
  for the start of a declaration, in which the quote is never closed, unless
  the word `doctype` comes before a comment is opened.

  * `HidesTag`: the values behind which the reader has lost the tag;
  * `isHidden_valueMode_iff`: it loses the tag behind these values only;
  * `stripTags_quotedValue`: a tag with a quoted value is removed, and what follows
    it kept, unless the value hides the tag.
-/
import Textwork.Proofs.Markup.Seams
import Mathlib.Data.List.Induction

namespace Textwork.Markup

variable {p : Policy} {m : Mode} {c q : Char} {k t v before after rest : Text}

/-! ## Characters of a tag outside of quotes -/

/-- A character that is no bracket, no quote and no mark of a declaration. -/
def IsPlain (c : Char) : Prop := c ≠ '<' ∧ c ≠ '>' ∧ c ≠ '!' ∧ ¬(c = '\'' ∨ c = '"')

instance (c : Char) : Decidable (IsPlain c) := inferInstanceAs (Decidable (_ ∧ _))

theorem isPlain_of_isAlphanum (hc : c.isAlphanum = true) : IsPlain c :=
  isAlphanum_ascii (P := IsPlain) (by decide) hc

theorem isPlain_of_isAlpha (hc : c.isAlpha = true) : IsPlain c :=
  isPlain_of_isAlphanum (by simp [Char.isAlphanum, hc])

/-- The text `k` collected of a tag and `w` behind it, if tags are collected. -/
def gathered (p : Policy) (k w : Text) : Text := if p.collects then k ++ w else k

@[simp] theorem gathered_nil : gathered p k [] = k := by simp [gathered]

@[simp] theorem gathered_gathered (u w : Text) :
    gathered p (gathered p k u) w = gathered p k (u ++ w) := by
  cases hp : p.collects <;> simp [gathered, hp]

theorem step_plain (hc : IsPlain c) :
    step p before c after ⟨.tag, 0, none, k⟩ = (⟨.tag, 0, none, gathered p k [c]⟩, []) := by
  obtain ⟨hl, hg, hx, hq⟩ := hc
  rw [step_collect rfl hg (fun h => absurd h hl) fun h => absurd h hx]
  simp [State.collect, gathered, quoteAfterChar_of_ne hq]

theorem scan_plain (ht : ∀ c ∈ t, IsPlain c) :
    scan p before ⟨.tag, 0, none, k⟩ (t ++ rest) =
      scan p (t.reverse ++ before) ⟨.tag, 0, none, gathered p k t⟩ rest := by
  have hrun := scan_silent (p := p) (t := t) before rest
    (fun x => ⟨.tag, 0, none, gathered p k x⟩) fun x c y hxy => by
      rw [step_plain (ht c (by simp [hxy])), gathered_gathered]
  simpa using hrun

/-- A quote opens a value or closes it. -/
theorem step_quote (hq : q = '\'' ∨ q = '"') (quote : Option Char) :
    step p before q after ⟨.tag, 0, quote, k⟩ =
      (⟨.tag, 0, toggleQuote q quote, gathered p k [q]⟩, []) := by
  rw [step_collect rfl (by rcases hq with rfl | rfl <;> decide)
    (by rcases hq with rfl | rfl <;> simp) (by rcases hq with rfl | rfl <;> simp)]
  simp [State.collect, gathered, quoteAfterChar, hq]

/-! ## Characters of a quoted value -/

/-- The mode behind a character `c` of a quoted value. -/
def turned (before : Text) (c : Char) : Mode → Mode
  | .tag => if c = '!' ∧ before.head? = some '<' then .declaration else .tag
  | .declaration =>
    if c = '-' ∧ ['-', '!'].isPrefixOf before then .comment
    else if (c = 'e' ∨ c = 'E') ∧ endsDoctype before c then .tag
    else .declaration
  | m => m

theorem turned_tag : turned before c .tag =
    if c = '!' ∧ before.head? = some '<' then .declaration else .tag := rfl

theorem turned_declaration : turned before c .declaration =
    if c = '-' ∧ ['-', '!'].isPrefixOf before then .comment
    else if (c = 'e' ∨ c = 'E') ∧ endsDoctype before c then .tag
    else .declaration := rfl

/-- The mode behind a part of a quoted value. -/
def valueMode (before : Text) (m : Mode) : Text → Mode
  | [] => m
  | c :: v => valueMode (c :: before) (turned before c m) v

/-- Brackets are not collected within quotes. -/
def IsBracket (c : Char) : Prop := c = '<' ∨ c = '>'

instance (c : Char) : Decidable (IsBracket c) := inferInstanceAs (Decidable (_ ∨ _))

theorem step_quoted (ho : m ≠ .outside) (hc : c ≠ q) :
    step p before c after ⟨m, 0, some q, k⟩ =
      (⟨turned before c m, 0, some q,
        if m = .tag ∧ turned before c m = .tag ∧ ¬IsBracket c then gathered p k [c] else k⟩,
        []) := by
  cases m with
  | outside => exact absurd rfl ho
  | tag =>
    by_cases hb : IsBracket c
    · rcases hb with rfl | rfl <;> simp [step, openAngle, closeAngle, skip, turned, IsBracket]
    · obtain ⟨hl, hg⟩ := not_or.1 hb
      by_cases hx : c = '!' ∧ before.head? = some '<'
      · simp [step, skip, turned, hx]
      · rw [step_collect rfl hg (fun h => absurd h hl) fun h hh => hx ⟨h, hh⟩]
        simp [State.collect, gathered, quoteAfterChar, toggleQuote, turned, hx, hb, Ne.symm hc]
  | declaration =>
    by_cases hd : c = '-'
    · subst hd
      by_cases hp : ['-', '!'].isPrefixOf before <;> simp [step, take, skip, turned, hp]
    · by_cases he : c = 'e' ∨ c = 'E'
      · by_cases hdoc : endsDoctype before c <;>
          rcases he with rfl | rfl <;> simp [step, take, skip, turned, hdoc]
      · simp [step, openAngle, closeAngle, take, skip, turned, hd, he]
  | comment => simp [step, openAngle, closeAngle, take, skip, turned]

theorem turned_ne_outside (hm : m ≠ .outside) : turned before c m ≠ .outside := by
  cases m with
  | outside => exact absurd rfl hm
  | tag => rw [turned_tag]; split_ifs <;> simp
  | declaration => rw [turned_declaration]; split_ifs <;> simp
  | comment => simp [turned]

theorem valueMode_append (w : Text) : ∀ before m,
    valueMode before m (v ++ w) = valueMode (v.reverse ++ before) (valueMode before m v) w := by
  induction v with
  | nil => exact fun _ _ => rfl
  | cons c v ih =>
    intro before m
    rw [List.cons_append, valueMode, ih, valueMode]
    simp

@[simp] theorem valueMode_append_singleton :
    valueMode before m (v ++ [c]) = turned (v.reverse ++ before) c (valueMode before m v) := by
  rw [valueMode_append, valueMode, valueMode]

theorem valueMode_ne_outside (hm : m ≠ .outside) : valueMode before m v ≠ .outside := by
  induction v using List.reverseRecOn with
  | nil => exact hm
  | append_singleton v c ih =>
    rw [valueMode_append_singleton]
    exact turned_ne_outside ih

/-! ## Values that hide the tag -/

/-- No part of the text is the word that starts a document type, in any case. -/
def NamesNoDoctype (t : Text) : Prop := ¬ "doctype".toList <:+: t.asciiLower

/-- The value has the start of a declaration in it, and no document type is named behind. -/
def LeavesDeclaration (v : Text) : Prop :=
  ∃ x y, v = x ++ ("<!".toList ++ y) ∧ NamesNoDoctype y

/-- The value has the start of a declaration in it and then that of a comment, and no document type
    is named between the two. -/
def LeavesComment (v : Text) : Prop :=
  ∃ x y z, v = x ++ ("<!".toList ++ (y ++ z)) ∧ NamesNoDoctype y ∧ "!--".toList <:+ '!' :: y

/-- The values behind which the reader has lost the tag. -/
def HidesTag (v : Text) : Prop := LeavesDeclaration v ∨ LeavesComment v

/-- A value without the start of a declaration hides nothing. -/
theorem HidesTag.holdsMark (h : HidesTag v) : "<!".toList <:+: v := by
  rcases h with ⟨x, y, rfl, -⟩ | ⟨x, y, z, rfl, -, -⟩
  · exact ⟨x, y, List.append_assoc ..⟩
  · exact ⟨x, y ++ z, List.append_assoc ..⟩

theorem asciiLower_append (t u : Text) : (t ++ u).asciiLower = t.asciiLower ++ u.asciiLower :=
  List.map_append

theorem NamesNoDoctype.of_append {t u : Text} (h : NamesNoDoctype (t ++ u)) : NamesNoDoctype t :=
  fun ht => h (ht.trans (by rw [asciiLower_append]; exact (List.prefix_append _ _).isInfix))

/-- The word ends at `c` if the text up to `c` ends in it. -/
theorem endsDoctype_iff_suffix (y rest : Text) (c : Char) :
    endsDoctype (y.reverse ++ '!' :: rest) c = true ↔
      "doctype".toList <:+ (y ++ [c]).asciiLower := by
  have hword : "epytcod".toList = "doctype".toList.reverse := by decide
  have hread : Text.asciiLower (c :: y.reverse) = (y ++ [c]).asciiLower.reverse := by
    simp [Text.asciiLower]
  rw [endsDoctype_iff, hword, hread, List.reverse_prefix]

theorem eq_e_of_endsDoctype (h : endsDoctype before c = true) : c = 'e' ∨ c = 'E' := by
  have hword : "epytcod".toList = ['e', 'p', 'y', 't', 'c', 'o', 'd'] := by decide
  rw [endsDoctype, hword, beq_iff_eq] at h
  have hlower : c.toLower = 'e' := (List.cons.inj h).1
  by_cases hu : c.isUpper = true
  · exact isAlphanum_ascii (P := fun c => c.toLower = 'e' → c = 'e' ∨ c = 'E') (by decide)
      (isAlphanum_of_isAlpha (isAlpha_of_isUpper hu)) hlower
  · exact .inl ((toLower_of_not_isUpper hu).symm.trans hlower)

theorem NamesNoDoctype.append_singleton {y : Text} (hy : NamesNoDoctype y) (rest : Text)
    (hc : ¬((c = 'e' ∨ c = 'E') ∧ endsDoctype (y.reverse ++ '!' :: rest) c = true)) :
    NamesNoDoctype (y ++ [c]) := by
  intro h
  rw [asciiLower_append] at h
  rcases List.infix_concat_iff.1 h with h | h
  · have hends := (endsDoctype_iff_suffix y rest c).2 (by rwa [asciiLower_append])
    exact hc ⟨eq_e_of_endsDoctype hends, hends⟩
  · exact hy h

/-- Behind the mark of a declaration the reader is not in the tag. -/
theorem isHidden_turned_mark (hm : m ≠ .outside) :
    (turned ('<' :: before) '!' m).isHidden = true := by
  cases m with
  | outside => exact absurd rfl hm
  | tag => rfl
  | declaration => rfl
  | comment => rfl

/-- Where no document type is named, the reader does not get back into the tag. -/
theorem isHidden_valueMode {y : Text} (hy : NamesNoDoctype y) (hm : m.isHidden = true) :
    (valueMode ('!' :: before) m y).isHidden = true := by
  induction y using List.reverseRecOn with
  | nil => exact hm
  | append_singleton y c ih =>
    have hends : endsDoctype (y.reverse ++ '!' :: before) c = false := by
      rw [Bool.eq_false_iff, ne_eq, endsDoctype_iff_suffix]
      exact fun h => hy h.isInfix
    have hlast := ih hy.of_append
    rw [valueMode_append_singleton]
    cases hmode : valueMode ('!' :: before) m y with
    | outside | tag => simp [hmode, Mode.isHidden] at hlast
    | declaration =>
      rw [turned_declaration, hends]
      split_ifs <;> simp_all [Mode.isHidden]
    | comment => rfl

theorem valueMode_comment (z : Text) : ∀ before, valueMode before .comment z = .comment := by
  induction z with
  | nil => exact fun _ => rfl
  | cons c z ih => exact fun before => ih (c :: before)

/-- Two dashes behind the mark open a comment. -/
theorem valueMode_dashes {y : Text} (hy : NamesNoDoctype y) (hd : "!--".toList <:+ '!' :: y)
    (hm : m.isHidden = true) : valueMode ('!' :: before) m y = .comment := by
  have hmark : "!--".toList = ['!', '-'] ++ ['-'] := by decide
  cases y using List.reverseRecOn with
  | nil => exact absurd hd.length_le (by rw [hmark]; simp)
  | append_singleton y c =>
    rw [hmark, ← List.cons_append, List.suffix_concat_iff] at hd
    obtain hd | ⟨w, hw, hd⟩ := hd
    · simp at hd
    · obtain ⟨rfl, hc⟩ := List.append_inj' hw rfl
      obtain rfl : '-' = c := by simpa using hc
      have hdash : ['-', '!'].isPrefixOf (y.reverse ++ '!' :: before) = true := by
        rw [← List.reverse_prefix] at hd
        have hread : y.reverse ++ '!' :: before = ('!' :: y).reverse ++ before := by simp
        rw [List.isPrefixOf_iff_prefix, hread]
        exact hd.trans (List.prefix_append _ _)
      have hlast : (valueMode ('!' :: before) m y).isHidden = true :=
        isHidden_valueMode hy.of_append hm
      rw [valueMode_append_singleton]
      cases hmode : valueMode ('!' :: before) m y with
      | outside | tag => simp [hmode, Mode.isHidden] at hlast
      | declaration => simp [turned, hdash]
      | comment => rfl

theorem valueMode_mark (before : Text) (hm : m ≠ .outside) (x y : Text) :
    ∃ before' m', m'.isHidden = true ∧
      valueMode before m (x ++ ("<!".toList ++ y)) = valueMode ('!' :: before') m' y := by
  have hopen : "<!".toList = ['<', '!'] := by decide
  have hx : turned (x.reverse ++ before) '<' (valueMode before m x) ≠ .outside :=
    turned_ne_outside (valueMode_ne_outside hm)
  exact ⟨'<' :: (x.reverse ++ before), _, isHidden_turned_mark hx, by
    rw [valueMode_append, hopen]; rfl⟩

/-- Behind a value that hides the tag the reader is not in the tag. -/
theorem HidesTag.isHidden (h : HidesTag v) (hm : m ≠ .outside) :
    (valueMode before m v).isHidden = true := by
  rcases h with ⟨x, y, rfl, hy⟩ | ⟨x, y, z, rfl, hy, hd⟩
  · obtain ⟨before', m', hm', hmode⟩ := valueMode_mark before hm x y
    rw [hmode]
    exact isHidden_valueMode hy hm'
  · obtain ⟨before', m', hm', hmode⟩ := valueMode_mark before hm x (y ++ z)
    rw [hmode, valueMode_append, valueMode_dashes hy hd hm', valueMode_comment]
    rfl

/-! ## No other value hides the tag -/

theorem LeavesComment.append_singleton (h : LeavesComment v) (c : Char) :
    LeavesComment (v ++ [c]) := by
  obtain ⟨x, y, z, rfl, hy, hd⟩ := h
  exact ⟨x, y, z ++ [c], by simp, hy, hd⟩

/-- A declaration goes on, unless `c` ends the name of a document type. -/
theorem LeavesDeclaration.append_singleton (h : LeavesDeclaration v)
    (hc : ¬((c = 'e' ∨ c = 'E') ∧ endsDoctype (v.reverse ++ before) c = true)) :
    LeavesDeclaration (v ++ [c]) := by
  have hopen : "<!".toList = ['<', '!'] := by decide
  obtain ⟨x, y, rfl, hy⟩ := h
  refine ⟨x, y ++ [c], by simp, hy.append_singleton ('<' :: (x.reverse ++ before)) ?_⟩
  simpa [hopen] using hc

/-- A declaration becomes a comment behind two dashes. -/
theorem LeavesDeclaration.leavesComment (h : LeavesDeclaration v)
    (hd : ['-', '!'].isPrefixOf (v.reverse ++ before) = true) : LeavesComment (v ++ ['-']) := by
  have hopen : "<!".toList = ['<', '!'] := by decide
  have hmark : "!--".toList = ['!', '-', '-'] := by decide
  obtain ⟨x, y, rfl, hy⟩ := h
  refine ⟨x, y ++ ['-'], [], by simp, hy.append_singleton [] (by simp), ?_⟩
  have hread : ['-', '!'] <+: y.reverse ++ '!' :: '<' :: (x.reverse ++ before) := by
    rw [← List.isPrefixOf_iff_prefix]
    simpa [hopen] using hd
  have hshort : ['-', '!'] <+: ('!' :: y).reverse := by
    rw [List.reverse_cons]
    refine List.prefix_of_prefix_length_le hread ⟨_, List.append_assoc ..⟩ ?_
    cases y with
    | nil => exact absurd (List.cons_prefix_cons.1 hread).1 (by decide)
    | cons d y => simp
  rw [← List.reverse_prefix, hmark, ← List.cons_append, List.reverse_append]
  exact List.cons_prefix_cons.2 ⟨rfl, hshort⟩

/-- A mark behind an opening bracket of the value starts a declaration. -/
theorem leavesDeclaration_of_mark (hq : q ≠ '<')
    (hb : (v.reverse ++ q :: before).head? = some '<') : LeavesDeclaration (v ++ ['!']) := by
  cases v using List.reverseRecOn with
  | nil => exact absurd (by simpa using hb) hq
  | append_singleton v d =>
    obtain rfl : d = '<' := by simpa using hb
    exact ⟨v, [], by simp, by unfold NamesNoDoctype; decide⟩

/-- In a declaration or comment of a value, one was started there. -/
theorem leaves_of_valueMode (before : Text) (hq : q ≠ '<') :
    (valueMode (q :: before) .tag v = .declaration → LeavesDeclaration v) ∧
      (valueMode (q :: before) .tag v = .comment → LeavesComment v) := by
  induction v using List.reverseRecOn with
  | nil => exact ⟨nofun, nofun⟩
  | append_singleton v c ih =>
    rw [valueMode_append_singleton]
    cases hmode : valueMode (q :: before) .tag v with
    | outside => exact absurd hmode (valueMode_ne_outside (by decide))
    | tag =>
      rw [turned_tag]
      split_ifs with hb
      · obtain ⟨rfl, hb⟩ := hb
        exact ⟨fun _ => leavesDeclaration_of_mark hq hb, nofun⟩
      · exact ⟨nofun, nofun⟩
    | declaration =>
      have hv := ih.1 hmode
      rw [turned_declaration]
      split_ifs with hd he
      · obtain ⟨rfl, hb⟩ := hd
        exact ⟨nofun, fun _ => hv.leavesComment hb⟩
      · exact ⟨nofun, nofun⟩
      · exact ⟨fun _ => hv.append_singleton he, nofun⟩
    | comment => exact ⟨nofun, fun _ => (ih.2 hmode).append_singleton c⟩

/-- **The reader loses the tag behind the values that hide it, and behind no others.** -/
theorem isHidden_valueMode_iff (before : Text) (hq : q ≠ '<') :
    (valueMode (q :: before) .tag v).isHidden = true ↔ HidesTag v := by
  refine ⟨fun h => ?_, fun h => h.isHidden (by decide)⟩
  have hleaves := leaves_of_valueMode (v := v) before hq
  cases hmode : valueMode (q :: before) .tag v with
  | outside | tag => simp [hmode, Mode.isHidden] at h
  | declaration => exact .inl (hleaves.1 hmode)
  | comment => exact .inr (hleaves.2 hmode)

theorem valueMode_eq_tag (hq : q ≠ '<') (hv : ¬HidesTag v) :
    valueMode (q :: before) .tag v = .tag := by
  have hhidden := mt (isHidden_valueMode_iff (v := v) before hq).1 hv
  have hout : valueMode (q :: before) .tag v ≠ .outside := valueMode_ne_outside (by decide)
  cases hmode : valueMode (q :: before) .tag v with
  | outside => exact absurd hmode hout
  | tag => rfl
  | declaration | comment => exact absurd (by rw [hmode]; rfl) hhidden

/-! ## Tags with a quoted value -/

theorem quote_ne (hq : q = '\'' ∨ q = '"') : q ≠ '<' ∧ q ≠ '>' := by
  rcases hq with rfl | rfl <;> decide

/-- A run that collects nothing, up to the end of a quoted value; `w` is what stands before it in
    the tag. -/
theorem scan_value {w : Text} (hp : p.collects = false) (hw : ∀ c ∈ w, IsPlain c)
    (hs : (w ++ [q]).head? ≠ some ' ') (hq : q = '\'' ∨ q = '"') (hv : q ∉ v) :
    scan p [] .initial ('<' :: (w ++ q :: (v ++ rest))) =
      scan p (v.reverse ++ q :: (w.reverse ++ ['<']))
        ⟨valueMode (q :: (w.reverse ++ ['<'])) .tag v, 0, some q, []⟩ rest := by
  have hhead : (w ++ q :: (v ++ rest)).head? ≠ some ' ' := by
    cases w with
    | nil => simpa using hs
    | cons d w => simpa using hs
  have henter := step_initial p [] '<' (w ++ q :: (v ++ rest))
  rw [if_pos ⟨rfl, hhead⟩, if_neg (by simp [hp])] at henter
  have hopen : step p (w.reverse ++ ['<']) q (v ++ rest) ⟨.tag, 0, none, gathered p [] w⟩ = _ :=
    step_quote hq none
  have hvalue := scan_silent (p := p) (t := v) (q :: (w.reverse ++ ['<'])) rest
    (fun x => ⟨valueMode (q :: (w.reverse ++ ['<'])) .tag x, 0, some q, []⟩) fun x c y hxy => by
      have hc : c ≠ q := fun h => hv (by simp [hxy, h])
      rw [step_quoted (valueMode_ne_outside (by decide)) hc, valueMode_append_singleton]
      simp [gathered, hp]
  have hnothing (w : Text) : gathered p [] w = [] := by simp [gathered, hp]
  rw [scan_cons_of_silent henter, scan_plain hw, scan_cons_of_silent hopen, hnothing, hnothing]
  exact hvalue

/-- Behind a value that does not hide the tag, the quote and the bracket end it. -/
theorem scan_valueEnd (hp : p.collects = false) (hq : q = '\'' ∨ q = '"') :
    scan p before ⟨.tag, 0, some q, []⟩ (q :: '>' :: rest) =
      ((scan p [] .initial rest).1, p.replacement ++ (scan p [] .initial rest).2) := by
  have hquote : step p before q ('>' :: rest) ⟨.tag, 0, some q, []⟩ = _ := step_quote hq (some q)
  have hclose : step p (q :: before) '>' rest ⟨.tag, 0, none, []⟩ = (.initial, p.replacement) := by
    simp [step, closeAngle, closeTag, hp, State.initial]
  simp only [toggleQuote, if_pos, gathered, hp, Bool.false_eq_true, if_false] at hquote
  rw [scan_cons_of_silent hquote, scan_cons, hclose, scan_initial]

/-- Behind a value that hides the tag, they do not. -/
theorem scan_hiddenEnd (before rest : Text) (hm : m.isHidden = true) (hq : q = '\'' ∨ q = '"') :
    ∃ before', scan p before ⟨m, 0, some q, k⟩ (q :: '>' :: rest) =
      scan p before' ⟨m, 0, some q, k⟩ rest := by
  have hquote : step p before q ('>' :: rest) ⟨m, 0, some q, k⟩ = (⟨m, 0, some q, k⟩, []) := by
    rcases hq with rfl | rfl <;> cases m <;> simp_all [step, take, Mode.isHidden]
  have hclose : step p (q :: before) '>' rest ⟨m, 0, some q, k⟩ = (⟨m, 0, some q, k⟩, []) := by
    simp [step, closeAngle, skip]
  exact ⟨_, by rw [scan_cons_of_silent hquote, scan_cons_of_silent hclose]⟩

theorem State.Coherent.collected_eq_nil {s : State} (h : s.Coherent p after)
    (hp : p.collects = false) : s.collected = [] := by
  by_cases ho : s.mode = .outside
  · obtain rfl : s = .initial := by simpa [State.Coherent, ho] using h
    rfl
  · by_cases ht : s.mode = .tag
    · simpa [State.Holds, hp] using (State.coherent_of_tag ht).1 h
    · simpa [State.Holds, hp] using (State.coherent_of_hidden ho ht).1 h

theorem Move.written_eq_nil {s s' : State} {w : Text} (h : Move p c after s s' w)
    (ho : s.mode ≠ .outside) (hp : p.collects = false) (hr : p.replacement = []) : w = [] := by
  cases h with
  | write => exact absurd rfl ho
  | enter | collect | pass | leave => rfl
  | close => simp [closing, hp, hr]

/-- Inside of a tag, declaration or comment a character is lost, where nothing is put in place of
    tags and none is kept. -/
theorem length_scan_lt {s : State} (hp : p.collects = false) (hr : p.replacement = [])
    (hs : s.Coherent p t) (ho : s.mode ≠ .outside) (ht : t ≠ []) :
    (scan p before s t).2.length < t.length := by
  obtain ⟨c, t, rfl⟩ := List.exists_cons_of_ne_nil ht
  have hm := step_move before hs
  have hnext := hm.coherent hs
  have hlen := (sublist_scan hr t (c :: before) _ hnext).length_le
  rw [hnext.collected_eq_nil hp, List.nil_append] at hlen
  rw [scan_cons, hm.written_eq_nil ho hp hr, List.nil_append]
  simpa using Nat.lt_succ_of_le hlen

/-- A tag with a quoted value and the text behind it, with no other tag: the text is left, unless
    the value hides the tag. -/
theorem removeTags_quotedValue {w post : Text} (hw : ∀ c ∈ w, IsPlain c)
    (hs : (w ++ [q]).head? ≠ some ' ') (hq : q = '\'' ∨ q = '"') (hv : q ∉ v)
    (hpost : '<' ∉ post) :
    removeTags ⟨[], []⟩ ('<' :: (w ++ q :: (v ++ q :: '>' :: post))) = post ↔
      post = [] ∨ ¬HidesTag v := by
  have hne := (quote_ne hq).1
  rw [removeTags, scan_value rfl hw hs hq hv]
  by_cases hh : HidesTag v
  · have hm := (isHidden_valueMode_iff (w.reverse ++ ['<']) hne).2 hh
    obtain ⟨before', hend⟩ := scan_hiddenEnd (p := ⟨[], []⟩) (k := [])
      (v.reverse ++ q :: (w.reverse ++ ['<'])) post hm hq
    rw [hend]
    generalize valueMode (q :: (w.reverse ++ ['<'])) .tag v = m at hm
    have ho : m ≠ .outside := by rintro rfl; cases hm
    have ht : m ≠ .tag := by rintro rfl; cases hm
    constructor
    · intro heq
      by_contra hn
      have hlt : (scan ⟨[], []⟩ before' ⟨m, 0, some q, []⟩ post).2.length < post.length :=
        length_scan_lt rfl rfl ((State.coherent_of_hidden ho ht).2 rfl) ho (not_or.1 hn).1
      rw [heq] at hlt
      exact Nat.lt_irrefl _ hlt
    · rintro (rfl | hv')
      · rfl
      · exact absurd hh hv'
  · rw [valueMode_eq_tag hne hh, scan_valueEnd rfl hq,
      scan_settled (Settled.of_anglesSpaced (anglesSpaced_of_notMem hpost))]
    simp [hh]

end Textwork.Markup

namespace Textwork.Catalogue

open Markup

/-- **Quoted values are opaque, but for the start of a declaration.**  A tag with a quoted value is
    removed, and the text around it is left, if nothing follows or if the value does not hide the
    tag; without `<!` it does not. -/
theorem stripTags_quotedValue {pre name v post : Text} {q : Char} (hpre : '<' ∉ pre)
    (hname : name ≠ []) (hletters : ∀ c ∈ name, c.isAlpha = true) (hq : q = '\'' ∨ q = '"')
    (hv : q ∉ v) (hpost : '<' ∉ post) :
    ∃ u, stripTags (.text (pre ++ '<' :: (name ++ " title=".toList ++ q :: (v ++ q :: '>' :: post))))
        .nothing (.text []) = .ok (.text u) ∧
      (u = pre ++ post ↔ post = [] ∨ ¬HidesTag v) ∧ (¬ "<!".toList <:+: v → u = pre ++ post) := by
  have hscan := scan_settled (p := ⟨[], []⟩)
    (Settled.of_anglesSpaced (anglesSpaced_of_notMem hpre)) []
  have hw : ∀ c ∈ name ++ " title=".toList, IsPlain c := by
    have htitle : (" title=".toList.all fun c => IsPlain c) = true := by decide
    intro c hc
    rcases List.mem_append.1 hc with hc | hc
    · exact isPlain_of_isAlpha (hletters c hc)
    · exact of_decide_eq_true (List.all_eq_true.1 htitle c hc)
  have hs : (name ++ " title=".toList ++ [q]).head? ≠ some ' ' := by
    obtain ⟨d, name, rfl⟩ := List.exists_cons_of_ne_nil hname
    intro h
    obtain rfl : d = ' ' := by simpa using h
    exact absurd (hletters ' ' (by simp)) (by decide)
  have hexact := removeTags_quotedValue hw hs hq hv hpost
  refine ⟨_, stripTags_text rfl rfl _, ?_, fun hfree => ?_⟩
  · rw [removeTags_append (by rw [hscan]; rfl), removeTags, hscan, List.append_cancel_left_eq]
    exact hexact
  · rw [removeTags_append (by rw [hscan]; rfl), removeTags, hscan,
      hexact.2 (.inr fun h => hfree h.holdsMark)]

/-- Brackets, dashes and the other quote in a value do not show. -/
theorem stripTags_quotedBrackets :
    '<' ∉ ['x', '>'] ∧ ['i'] ≠ [] ∧ (∀ c ∈ ['i'], c.isAlpha = true) ∧ '"' ∉ "</i><-!-->'".toList ∧
      '<' ∉ ['y'] ∧ ¬ "<!".toList <:+: "</i><-!-->'".toList ∧
      stripTags (.text (['x', '>'] ++ '<' :: (['i'] ++ " title=".toList ++
        '"' :: ("</i><-!-->'".toList ++ '"' :: '>' :: ['y'])))) .nothing (.text []) =
          .ok (.text ['x', '>', 'y']) := by
  have hpre : '<' ∉ ['x', '>'] := by decide
  have hletters : ∀ c ∈ ['i'], c.isAlpha = true := List.forall_mem_singleton.2 (by decide)
  have hv : '"' ∉ "</i><-!-->'".toList := by decide
  have hpost : '<' ∉ ['y'] := by decide
  have hfree : ¬ "<!".toList <:+: "</i><-!-->'".toList := by decide +kernel
  obtain ⟨u, hu, -, hopaque⟩ :=
    stripTags_quotedValue hpre (by decide) hletters (.inr rfl) hv hpost
  refine ⟨hpre, by decide, hletters, hv, hpost, hfree, ?_⟩
  rw [hu, hopaque hfree]
  rfl

/-- The start of a declaration in a value swallows what follows the tag. -/
theorem stripTags_quotedDeclaration :
    '"' ∉ "<!".toList ∧
      stripTags (.text (['x'] ++ '<' :: (['i'] ++ " title=".toList ++
        '"' :: ("<!".toList ++ '"' :: '>' :: ['y'])))) .nothing (.text []) = .ok (.text ['x']) ∧
      ['x'] ≠ ['x'] ++ ['y'] := by
  have hremoved : removeTags ⟨[], []⟩ (['x'] ++ '<' :: (['i'] ++ " title=".toList ++
      '"' :: ("<!".toList ++ '"' :: '>' :: ['y']))) = ['x'] := by
    decide +kernel
  exact ⟨by decide, by rw [stripTags_text rfl rfl, hremoved], by decide⟩

end Textwork.Catalogue
