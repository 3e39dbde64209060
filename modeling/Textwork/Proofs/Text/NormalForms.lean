/-
  Texts written with hyphens or underscores, written so again.

  * `KeepsWhole` says which words lower casing leaves one word,
    `isWord_lower_iff`;
  * `join_again`: words in lower case that are joined, read and joined again are
    what they were exactly if lower casing leaves each one word;
  * `kebab_snake_again`: the four ways to write a text with hyphens or underscores
    twice; `kebab_splits` is a text that is not the same then.
-/
import Textwork.Catalogue.Listing
import Textwork.Proofs.Text.LowerCase

namespace Textwork.Text

open Unicode

variable {a b c d : Char} {t u w : Text} {ws vs : List Text} {k : Nat}

/-! ## Words in lower case -/

/-- The character is an upper case letter without a lower case form. -/
def LacksLower (c : Char) : Prop := isUppercase c = true ∧ lowerOf c = [c]

/-- Lower casing leaves the word one word: no dot is written above an `i`, no letter stays in upper
    case behind one in lower case, and no two stay so before one in lower case. -/
structure KeepsWhole (w : Text) : Prop where
  not_dotted : 'İ' ∉ w
  not_behind : ∀ k a b, w[k]? = some a → w[k + 1]? = some b → lowerOf a ≠ [a] → ¬LacksLower b
  not_before : ∀ k a b c, w[k]? = some a → w[k + 1]? = some b → w[k + 2]? = some c →
    LacksLower a → LacksLower b → lowerOf c = [c]

namespace Lowers

theorem eq_of_own (h : Lowers c d) (hc : lowerOf c = [c]) : d = c := by
  cases h with
  | own => rfl
  | small hn => exact absurd hc hn

theorem isLowercase (h : Lowers c d) (hc : lowerOf c ≠ [c]) : isLowercase d = true := by
  cases h with
  | own h => exact absurd h hc
  | small _ _ hd _ => exact hd

/-- Only letters without a lower case form stay in upper case. -/
theorem lacksLower (h : Lowers c d) (hd : isUppercase d = true) : d = c ∧ LacksLower c := by
  cases h with
  | own h => exact ⟨rfl, hd, h⟩
  | small _ _ hsmall _ => cases hd.symm.trans (not_isUppercase_of_isLowercase hsmall)

end Lowers

/-- The characters at one position of two texts. -/
theorem rel_getElem? {R : Char → Char → Prop} (h : List.Forall₂ R t u) (k : Nat) :
    Option.Rel R t[k]? u[k]? := by
  induction h generalizing k with
  | nil => exact .none
  | cons hcd _ ih =>
    cases k with
    | zero => exact .some hcd
    | succ k => simpa using ih k

theorem exists_of_getElem?_lower (hw : 'İ' ∉ w) (hd : (lower w)[k]? = some d) :
    ∃ c, w[k]? = some c ∧ Lowers c d := by
  have h := rel_getElem? (forall₂_lower hw) k
  rw [hd] at h
  generalize w[k]? = x at h
  obtain ⟨hcd⟩ := h
  exact ⟨_, rfl, hcd⟩

theorem exists_getElem?_lower (hw : 'İ' ∉ w) (hc : w[k]? = some c) :
    ∃ d, (lower w)[k]? = some d ∧ Lowers c d := by
  have h := rel_getElem? (forall₂_lower hw) k
  rw [hc] at h
  generalize (lower w)[k]? = x at h
  obtain ⟨hcd⟩ := h
  exact ⟨_, rfl, hcd⟩

theorem KeepsWhole.isWord_lower (h : KeepsWhole w) (hw : IsWord w) : IsWord (lower w) := by
  have hforall := forall₂_lower h.not_dotted
  refine ⟨fun hnil => hw.ne_nil ?_, fun d hd => ?_, fun k hk => ?_⟩
  · rw [hnil] at hforall
    cases hforall
    rfl
  · obtain ⟨k, hk⟩ := List.mem_iff_getElem?.1 hd
    obtain ⟨c, hc, hcd⟩ := exists_of_getElem?_lower h.not_dotted hk
    exact hcd.isAlphanumeric (hw.alphanumeric c (List.mem_of_getElem? hc))
  · obtain ⟨a', b', ha', hb', hbegins⟩ := hk
    obtain ⟨a, ha, haa⟩ := exists_of_getElem?_lower h.not_dotted ha'
    obtain ⟨b, hb, hbb⟩ := exists_of_getElem?_lower h.not_dotted hb'
    -- A word that begins in the word in lower case begins in the word itself, or at a letter that
    -- stays in upper case.
    obtain hdigit | ⟨hlower, hupper⟩ | ⟨haupper, hbupper, c', hc', halpha, hlower⟩ := hbegins
    · rw [haa.isDigit_eq, hbb.isDigit_eq] at hdigit
      exact hw.not_beginsBehind k ⟨a, b, ha, hb, .inl hdigit⟩
    · obtain ⟨rfl, hlacks⟩ := hbb.lacksLower hupper
      have hown : lowerOf a = [a] := by
        by_contra hmoved
        exact h.not_behind k a b' ha hb hmoved hlacks
      obtain rfl := haa.eq_of_own hown
      exact hw.not_beginsBehind k ⟨a', b', ha, hb, .inr (.inl ⟨hlower, hupper⟩)⟩
    · obtain ⟨rfl, halacks⟩ := haa.lacksLower haupper
      obtain ⟨rfl, hblacks⟩ := hbb.lacksLower hbupper
      obtain ⟨c, hc, hcc⟩ := exists_of_getElem?_lower h.not_dotted hc'
      obtain rfl := hcc.eq_of_own (h.not_before k a' b' c ha hb hc halacks hblacks)
      exact hw.not_beginsBehind k
        ⟨a', b', ha, hb, .inr (.inr ⟨haupper, hbupper, c', hc, halpha, hlower⟩)⟩

/-- The dot above is neither a letter nor a digit. -/
theorem dot_mem_mapInContext (h : 'İ' ∈ t) :
    ∀ before, '\u0307' ∈ mapInContext lowerBetween before t := by
  induction t with
  | nil => cases h
  | cons c t ih =>
    intro before
    rw [mapInContext]
    rcases List.mem_cons.1 h with rfl | h
    · rw [lowerBetween_dotted]
      simp
    · exact List.mem_append_right _ (ih h _)

theorem keepsWhole_of_isWord_lower (hw : IsWord w) (h : IsWord (lower w)) : KeepsWhole w := by
  have hdotted : 'İ' ∉ w := fun hi =>
    absurd (h.alphanumeric _ (dot_mem_mapInContext hi [])) (by decide +kernel)
  refine ⟨hdotted, fun k a b ha hb hmoved hlacks => ?_, fun k a b c ha hb hc halacks hblacks => ?_⟩
  · obtain ⟨a', ha', haa⟩ := exists_getElem?_lower hdotted ha
    obtain ⟨b', hb', hbb⟩ := exists_getElem?_lower hdotted hb
    obtain rfl := hbb.eq_of_own hlacks.2
    exact h.not_beginsBehind k
      ⟨a', b', ha', hb', .inr (.inl ⟨haa.isLowercase hmoved, hlacks.1⟩)⟩
  · by_contra hmoved
    obtain ⟨a', ha', haa⟩ := exists_getElem?_lower hdotted ha
    obtain ⟨b', hb', hbb⟩ := exists_getElem?_lower hdotted hb
    obtain ⟨c', hc', hcc⟩ := exists_getElem?_lower hdotted hc
    obtain rfl := haa.eq_of_own halacks.2
    obtain rfl := hbb.eq_of_own hblacks.2
    have halpha : isAlphanumeric c' = true :=
      hcc.isAlphanumeric (hw.alphanumeric c (List.mem_of_getElem? hc))
    exact h.not_beginsBehind k ⟨a', b', ha', hb',
      .inr (.inr ⟨halacks.1, hblacks.1, c', hc', halpha, hcc.isLowercase hmoved⟩)⟩

/-- **Lower casing leaves a word one word** exactly if the word keeps whole. -/
theorem isWord_lower_iff (hw : IsWord w) : IsWord (lower w) ↔ KeepsWhole w :=
  ⟨keepsWhole_of_isWord_lower hw, fun h => h.isWord_lower hw⟩

theorem words_lower_ne_nil (hw : IsWord w) : words (lower w) ≠ [] := by
  obtain ⟨c, t, rfl⟩ := List.exists_cons_of_ne_nil hw.ne_nil
  have hc : isAlphanumeric c = true := hw.alphanumeric c List.mem_cons_self
  obtain ⟨d, hd, halpha⟩ : ∃ d ∈ lowerBetween [] c t, isAlphanumeric d = true := by
    by_cases hdotted : c = 'İ'
    · subst hdotted
      exact ⟨'i', by simp [lowerBetween_dotted], by decide⟩
    · obtain ⟨d, hd, hcd⟩ := exists_lowers hdotted [] t
      exact ⟨d, by simp [hd], hcd.isAlphanumeric hc⟩
  exact words_ne_nil (List.mem_append_left _ hd) halpha

/-! ## Joining again -/

/-- The character is neither a letter nor a digit, nor the dot that lower casing writes. -/
def Parts (c : Char) : Prop := isAlphanumeric c = false ∧ c ≠ '\u0307'

theorem notMem_lower (ha : Parts a) (hw : ∀ c ∈ w, isAlphanumeric c = true) : a ∉ lower w := by
  intro hmem
  have hall : ∀ d ∈ lower w, isAlphanumeric d = true ∨ d = '\u0307' :=
    forall_mem_mapInContext (fun c hc _ _ => forall_mem_lowerBetween (.inl (by decide)) (.inr rfl)
      fun _ hd => .inl (hd.isAlphanumeric (hw c hc))) []
  rcases hall a hmem with halpha | hdot
  · cases halpha.symm.trans ha.1
  · exact ha.2 hdot

theorem join_eq_intercalate (u : Text) (ws : List Text) : join u ws = u.intercalate ws := by
  induction ws with
  | nil => rfl
  | cons w ws ih =>
    cases ws with
    | nil => simp [join]
    | cons v ws =>
      have hjoin : join u (w :: v :: ws) = w ++ u ++ join u (v :: ws) := rfl
      rw [hjoin, ih, List.intercalate_cons_cons]

theorem splitOn_join (hne : ws ≠ []) (hws : ∀ w ∈ ws, b ∉ w) : (join [b] ws).splitOn b = ws := by
  rw [join_eq_intercalate]
  exact List.splitOn_intercalate b hws hne

theorem join_eq_nil_iff (hws : [] ∉ ws) : join u ws = [] ↔ ws = [] := by
  rw [join_eq_intercalate]
  cases ws with
  | nil => simp
  | cons w ws =>
    obtain ⟨hw, -⟩ := not_or.1 (mt List.mem_cons.2 hws)
    cases ws <;> simp [Ne.symm hw]

/-- The pieces can be read off what they are joined to. -/
theorem join_inj (hws : ∀ w ∈ ws, w ≠ [] ∧ b ∉ w) (hvs : ∀ v ∈ vs, v ≠ [] ∧ b ∉ v) :
    join [b] ws = join [b] vs ↔ ws = vs := by
  refine ⟨fun h => ?_, fun h => by rw [h]⟩
  have hwnil : [] ∉ ws := fun hmem => (hws _ hmem).1 rfl
  have hvnil : [] ∉ vs := fun hmem => (hvs _ hmem).1 rfl
  by_cases hw : ws = []
  · subst hw
    exact ((join_eq_nil_iff hvnil).1 h.symm).symm
  · have hv : vs ≠ [] := fun hv => hw ((join_eq_nil_iff hwnil).1 (by rw [h, hv]; rfl))
    rw [← splitOn_join hw fun w hmem => (hws w hmem).2, h,
      splitOn_join hv fun v hmem => (hvs v hmem).2]

theorem length_le_length_flatMap {f : Text → List Text} (hf : ∀ w ∈ ws, f w ≠ []) :
    ws.length ≤ (ws.flatMap f).length := by
  induction ws with
  | nil => exact Nat.zero_le _
  | cons w ws ih =>
    obtain ⟨hw, hws⟩ := List.forall_mem_cons.1 hf
    have hpos : 0 < (f w).length := List.length_pos_iff.2 hw
    have hrest := ih hws
    simp only [List.flatMap_cons, List.length_append, List.length_cons]
    omega

theorem flatMap_eq_map_iff {f : Text → List Text} {g : Text → Text} (hf : ∀ w ∈ ws, f w ≠ []) :
    ws.flatMap f = ws.map g ↔ ∀ w ∈ ws, f w = [g w] := by
  induction ws with
  | nil => simp
  | cons w ws ih =>
    obtain ⟨hw, hws⟩ := List.forall_mem_cons.1 hf
    rw [List.forall_mem_cons, ← ih hws, List.flatMap_cons, List.map_cons]
    -- The pieces of the later words are as many as these at least.
    have hle := length_le_length_flatMap hws
    exact append_eq_cons_iff_of_length_le hw (by rwa [List.length_map])

/-- **Words in lower case that are joined, read and joined again** are what they were exactly if
    lower casing leaves each one word. -/
theorem join_again (ha : Parts a) (hb : Parts b) (t : Text) :
    join [b] ((words (join [a] ((words t).map lower))).map lower) =
        join [b] ((words t).map lower) ↔ ∀ w ∈ words t, KeepsWhole w := by
  have hword : ∀ w ∈ words t, IsWord w := fun w => isWord_of_mem_words
  have hread : (words (join [a] ((words t).map lower))).map lower =
      (words t).flatMap fun w => words (lower w) := by
    rw [words_join (List.cons_ne_nil a []) (by simpa using ha.1), List.flatMap_map,
      List.map_flatMap]
    simp only [map_lower_words lowerOf_of_mem_lower]
  have hpieces : ∀ v ∈ (words t).flatMap fun w => words (lower w), v ≠ [] ∧ b ∉ v := by
    intro v hv
    obtain ⟨w, -, hv⟩ := List.mem_flatMap.1 hv
    have hv := isWord_of_mem_words hv
    exact ⟨hv.ne_nil, fun hmem => by cases (hv.alphanumeric b hmem).symm.trans hb.1⟩
  have hlower : ∀ v ∈ (words t).map lower, v ≠ [] ∧ b ∉ v := by
    intro v hv
    obtain ⟨w, hw, rfl⟩ := List.mem_map.1 hv
    refine ⟨fun hnil => words_lower_ne_nil (hword w hw) (by rw [hnil]; rfl),
      notMem_lower hb (hword w hw).alphanumeric⟩
  rw [hread, join_inj hpieces hlower,
    flatMap_eq_map_iff fun w hw => words_lower_ne_nil (hword w hw)]
  refine forall₂_congr fun w hw => ?_
  rw [words_eq_singleton_iff, isWord_lower_iff (hword w hw)]

end Textwork.Text

namespace Textwork.Catalogue

open Text (KeepsWhole)

/-- A function of the catalogue applied to a text alone. -/
def applied (name : String) (t : Text) : Except Fault Value :=
  (call name.toList [.text t] []).result

/-- A function of the catalogue applied to what another gives for a text. -/
def appliedTo (name inner : String) (t : Text) : Except Fault Value := do
  let v ← applied inner t
  (call name.toList [v] []).result

/-- **Writing a text with hyphens or underscores a second time changes nothing** exactly if lower
    casing leaves each of its words one word, whichever of the two is done first. -/
theorem kebab_snake_again (t : Text) :
    (appliedTo "kebab_case" "kebab_case" t = applied "kebab_case" t ↔
      ∀ w ∈ t.words, KeepsWhole w) ∧
    (appliedTo "snake_case" "snake_case" t = applied "snake_case" t ↔
      ∀ w ∈ t.words, KeepsWhole w) ∧
    (appliedTo "snake_case" "kebab_case" t = applied "snake_case" t ↔
      ∀ w ∈ t.words, KeepsWhole w) ∧
    (appliedTo "kebab_case" "snake_case" t = applied "kebab_case" t ↔
      ∀ w ∈ t.words, KeepsWhole w) := by
  have hok (u v : Text) : (Except.ok (.text u) : Except Fault Value) = .ok (.text v) ↔ u = v := by
    simp
  have hhyphen : Text.Parts '-' := ⟨by decide, by decide⟩
  have hunderscore : Text.Parts '_' := ⟨by decide, by decide⟩
  exact ⟨(hok _ _).trans (Text.join_again hhyphen hhyphen t),
    (hok _ _).trans (Text.join_again hunderscore hunderscore t),
    (hok _ _).trans (Text.join_again hhyphen hunderscore t),
    (hok _ _).trans (Text.join_again hunderscore hhyphen t)⟩

/-- An upper case letter without a lower case form begins a word once the letter before it is in
    lower case. -/
theorem kebab_snake_split :
    applied "kebab_case" "A\u2102".toList = .ok (.text "a\u2102".toList) ∧
      applied "snake_case" "A\u2102".toList = .ok (.text "a\u2102".toList) ∧
      appliedTo "kebab_case" "kebab_case" "A\u2102".toList = .ok (.text "a-\u2102".toList) ∧
      appliedTo "snake_case" "snake_case" "A\u2102".toList = .ok (.text "a_\u2102".toList) ∧
      appliedTo "snake_case" "kebab_case" "A\u2102".toList = .ok (.text "a_\u2102".toList) ∧
      appliedTo "kebab_case" "snake_case" "A\u2102".toList = .ok (.text "a-\u2102".toList) := by
  have hfirst : (Text.words "A\u2102".toList).map Text.lower = ["a\u2102".toList] := by
    decide +kernel
  have hagain : (Text.words "a\u2102".toList).map Text.lower = ["a".toList, "\u2102".toList] := by
    decide +kernel
  have hkebab : Text.kebab "A\u2102".toList = "a\u2102".toList := congrArg (Text.join ['-']) hfirst
  have hsnake : Text.snake "A\u2102".toList = "a\u2102".toList := congrArg (Text.join ['_']) hfirst
  have hkebab' : Text.kebab "a\u2102".toList = "a-\u2102".toList :=
    congrArg (Text.join ['-']) hagain
  have hsnake' : Text.snake "a\u2102".toList = "a_\u2102".toList :=
    congrArg (Text.join ['_']) hagain
  have hok {u v : Text} (h : u = v) :
      (Except.ok (.text u) : Except Fault Value) = .ok (.text v) := by rw [h]
  exact ⟨hok hkebab, hok hsnake, hok ((congrArg Text.kebab hkebab).trans hkebab'),
    hok ((congrArg Text.snake hsnake).trans hsnake'),
    hok ((congrArg Text.snake hkebab).trans hsnake'),
    hok ((congrArg Text.kebab hsnake).trans hkebab')⟩

end Textwork.Catalogue
