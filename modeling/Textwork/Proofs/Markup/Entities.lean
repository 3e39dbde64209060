/-
  Characters written as entities and read back.

  * `entity?` is the entity with which a text begins, in any letter case:
    `entity?_eq_some_iff`, there is no more than one;
  * `unescape_entity`, `unescape_plain`: what is read of a text from its beginning;
  * `substitute_entities`: reading entities is replacing the matches of the
    pattern of all of them, letter case being ignored, each by the character
    looked up for its lower case form;
  * `escape_reversible`: what is written as entities is read back.
-/
import Mathlib.Data.Bool.AllAny
import Textwork.Markup.Entity
import Textwork.Proofs.Pattern.Reading
import Textwork.Proofs.Unicode.Ascii

namespace Textwork.Markup

open Pattern (Flags Folding Node Quotes Reads Replaces compile? literals quoted)
open Unicode (FoldsInAscii)

variable {c : Char} {t w : Text} {e e' : Text × Char} {i : Nat} {p : Pattern}

/-! ## The entity at the start of a text -/

/-- The entity with which a text begins, in any letter case. -/
def entity? (t : Text) : Option (Text × Char) :=
  entities.find? fun e => e.1.isPrefixOf t.asciiLower

/-- Its length. -/
def entitySize? (t : Text) : Option Nat := (entity? t).map fun e => e.1.length

/-- A text begins with one entity at most, since none begins with another one. -/
theorem entity_unique (he : e ∈ entities) (he' : e' ∈ entities) (h : e.1 <+: t)
    (h' : e'.1 <+: t) : e = e' := by
  have hall : ∀ e ∈ entities, ∀ e' ∈ entities, e.1 <+: e'.1 → e = e' := by decide
  rcases List.prefix_or_prefix_of_prefix h h' with hp | hp
  · exact hall e he e' he' hp
  · exact (hall e' he' e he hp).symm

theorem entity?_eq_some_iff : entity? t = some e ↔ e ∈ entities ∧ e.1 <+: t.asciiLower := by
  constructor
  · intro h
    have hp := List.find?_some h
    exact ⟨List.mem_of_find?_eq_some h, List.isPrefixOf_iff_prefix.1 hp⟩
  · rintro ⟨he, hp⟩
    cases h : entity? t with
    | none =>
      have hnone := List.find?_eq_none.1 h e he
      exact absurd (List.isPrefixOf_iff_prefix.2 hp) hnone
    | some e' =>
      have hp' := List.find?_some h
      rw [entity_unique (List.mem_of_find?_eq_some h) he (List.isPrefixOf_iff_prefix.1 hp') hp]

theorem mem_of_entity? (h : entity? t = some e) : e ∈ entities := (entity?_eq_some_iff.1 h).1

/-- Tests that agree on all entities find the same one. -/
theorem find?_entities {P : Text × Char → Bool}
    (h : ∀ e ∈ entities, (P e = true ↔ e.1 <+: t.asciiLower)) : entities.find? P = entity? t := by
  cases hf : entities.find? P with
  | none =>
    refine (List.find?_eq_none.2 fun e he hp => ?_).symm
    exact List.find?_eq_none.1 hf e he ((h e he).2 (List.isPrefixOf_iff_prefix.1 hp))
  | some e =>
    have he := List.mem_of_find?_eq_some hf
    have hp := List.find?_some hf
    exact (entity?_eq_some_iff.2 ⟨he, (h e he).1 hp⟩).symm

theorem leadingEntity?_eq (t : Text) :
    leadingEntity? t = (entity? t).map fun e => (e.1.length, e.2) := by
  have hlen : ∀ e ∈ entities, e.1.length ≤ 6 := by decide
  have hfind := find?_entities (t := t)
    (P := fun e => e.1.isPrefixOf (Text.asciiLower (t.take 6))) fun e he => by
      rw [List.isPrefixOf_iff_prefix, Text.asciiLower, List.map_take, List.prefix_take_iff]
      exact and_iff_left (hlen e he)
  exact congrArg (Option.map fun e => (e.1.length, e.2)) hfind

/-- Nothing beyond ASCII has a part in an entity. -/
theorem foldsInAscii_entity (he : e ∈ entities) : ∀ c ∈ e.1, FoldsInAscii c := by
  have hall : ∀ c ∈ entities.flatMap Prod.fst, FoldsInAscii c :=
    List.all_iff_forall_prop.1 (by decide +kernel)
  exact fun c hc => hall c (List.mem_flatMap_of_mem he hc)

theorem eq_ampersand_of_toLower (h : c.toLower = '&') : c = '&' := by
  have hlt : c.toNat < 128 := toNat_lt_of_toLower (h ▸ by decide)
  exact forall_ascii (P := fun c => c.toLower = '&' → c = '&') (by decide) hlt h

/-- An entity begins with an ampersand. -/
theorem entity?_cons (hc : c ≠ '&') (u : Text) : entity? (c :: u) = none := by
  have hhead : ∀ e ∈ entities, e.1.head? = some '&' := by decide
  cases h : entity? (c :: u) with
  | none => rfl
  | some e =>
    obtain ⟨he, rest, hp⟩ := entity?_eq_some_iff.1 h
    have hne := hhead e he
    cases hn : e.1 with
    | nil => simp [hn] at hne
    | cons d n =>
      rw [hn, List.head?_cons] at hne
      rw [hn, List.cons_append] at hp
      have hd : d = c.toLower := (List.cons.inj hp).1
      exact absurd (eq_ampersand_of_toLower (hd.symm.trans (Option.some.inj hne))) hc

theorem length_pos_of_entity? (h : entity? t = some e) : 0 < e.1.length := by
  have hall : ∀ e ∈ entities, 0 < e.1.length := by decide
  exact hall e (mem_of_entity? h)

/-- The part of the text that is an entity is this entity in lower case. -/
theorem lower_take_of_entity? (h : entity? t = some e) : Text.lower (t.take e.1.length) = e.1 := by
  obtain ⟨he, hp⟩ := entity?_eq_some_iff.1 h
  have hlow : Text.asciiLower (t.take e.1.length) = e.1 := by
    rw [Text.asciiLower, List.map_take]
    exact (List.prefix_iff_eq_take.1 hp).symm
  rw [Text.lower_ascii, hlow]
  intro c hc
  have hmem : c.toLower ∈ e.1 := hlow ▸ List.mem_map_of_mem hc
  exact toNat_lt_of_toLower (foldsInAscii_entity he _ hmem).2.1

theorem length_le_of_entity? (h : entity? t = some e) : e.1.length ≤ t.length := by
  simpa [Text.asciiLower] using (entity?_eq_some_iff.1 h).2.length_le

theorem bounds_entitySize? (t : Text) (size : Nat) (h : entitySize? t = some size) :
    0 < size ∧ size ≤ t.length := by
  obtain ⟨e, he, rfl⟩ := Option.map_eq_some_iff.1 h
  exact ⟨length_pos_of_entity? he, length_le_of_entity? he⟩

/-! ## Reading -/

theorem unescapeFrom_eq (held : Nat) (t : Text) : unescapeFrom held t = unescape (t.drop held) := by
  induction t generalizing held with
  | nil => rw [List.drop_nil, unescape, unescapeFrom, unescapeFrom]
  | cons c t ih =>
    cases held with
    | zero => rfl
    | succ held => exact ih held

theorem unescape_cons (c : Char) (t : Text) :
    unescape (c :: t) = match entity? (c :: t) with
      | some e => e.2 :: unescape ((c :: t).drop e.1.length)
      | none => c :: unescape t := by
  -- Only ampersands are looked at, but no other character begins an entity.
  have hleading : (if c = '&' then leadingEntity? (c :: t) else none) =
      (entity? (c :: t)).map fun e => (e.1.length, e.2) := by
    rw [leadingEntity?_eq]
    split_ifs with hc
    · rfl
    · rw [entity?_cons hc, Option.map_none]
  rw [unescape, unescapeFrom, hleading]
  cases h : entity? (c :: t) with
  | none => rfl
  | some e =>
    obtain ⟨n, hn⟩ := Nat.exists_eq_add_of_lt (length_pos_of_entity? h)
    simp only [Option.map_some, unescapeFrom_eq, hn, Nat.zero_add, Nat.add_sub_cancel,
      List.drop_succ_cons]

theorem unescape_entity (h : entity? t = some e) :
    unescape t = e.2 :: unescape (t.drop e.1.length) := by
  cases t with
  | nil => exact absurd (length_le_of_entity? h) (Nat.not_le.2 (length_pos_of_entity? h))
  | cons c t => rw [unescape_cons, h]

theorem unescape_plain (h : entity? (c :: t) = none) : unescape (c :: t) = c :: unescape t := by
  rw [unescape_cons, h]

/-! ## The pattern of all entities -/

/-- The characters that are put behind backslashes in the pattern. -/
def patternSigns : Text := "()[]\x7b\x7d?*+-|^$\\.&~# \t\n\r\x0b\x0c".toList

/-- The entities as alternatives of a pattern. -/
def entitySource : Text := Text.join ['|'] (entities.map fun e => quoted patternSigns.elem e.1)

/-- Letter case is ignored. -/
def entityFlags : Flags := { Flags.plain with ignoreCase := true }

/-- The tree of the pattern: the first entity, and all the others behind it. -/
def entityTree : Node :=
  .anyOf (literals .unicode "&lt;".toList)
    ((entities.tail.map Prod.fst).map (literals .unicode))

/-- The character looked up for an entity in any letter case, `missing` if there is none. -/
def characterOf (missing : Fault) (w : Text) : Except Fault Text :=
  match entities.lookup w.lower with
  | some c => .ok [c]
  | none => .error missing

theorem quotes_patternSigns : Quotes patternSigns.elem :=
  Pattern.quotes_elem (by decide) (by decide)

theorem begins_unicode_iff (hw : ∀ c ∈ w, FoldsInAscii c) :
    Folding.unicode.begins w t = true ↔ w <+: t.asciiLower := by
  induction w generalizing t with
  | nil => simp [Folding.begins]
  | cons c w ih =>
    obtain ⟨hc, hw⟩ := List.forall_mem_cons.1 hw
    cases t with
    | nil => simp [Folding.begins, Text.asciiLower]
    | cons d t =>
      have hsame : Folding.unicode.same d c = true ↔ c = d.toLower :=
        hc.sameFolded_iff.trans eq_comm
      have hlow : Text.asciiLower (d :: t) = d.toLower :: Text.asciiLower t := rfl
      rw [Folding.begins, Bool.and_eq_true, hsame, ih hw, hlow, List.cons_prefix_cons]

/-- The pattern reads the entity with which a text begins. -/
theorem reads_entities : Reads entityTree entitySize? := by
  have hbegins : ∀ t, ∀ e ∈ entities, (Folding.unicode.begins e.1 t = true ↔
      e.1 <+: t.asciiLower) := fun t e he => begins_unicode_iff (foldsInAscii_entity he)
  -- The entities differ, and a text begins with one of them at most.
  have hone (t : Text) : (entities.map Prod.fst).Pairwise fun v v' =>
      Folding.unicode.begins v t = true → Folding.unicode.begins v' t = false := by
    have hnodup : entities.Pairwise fun e e' => e.1 ≠ e'.1 := by decide
    refine List.pairwise_map.2 (hnodup.imp_of_mem fun he he' hne hv => ?_)
    refine Bool.eq_false_iff.2 fun hv' => hne ?_
    rw [entity_unique he he' ((hbegins t _ he).1 hv) ((hbegins t _ he').1 hv')]
  have hsize : entitySize? = fun t =>
      ((entities.map Prod.fst).find? (Folding.unicode.begins · t)).map List.length := by
    funext t
    rw [entitySize?, List.find?_map, Option.map_map]
    exact congrArg (Option.map fun e => e.1.length) (find?_entities (hbegins t)).symm
  rw [hsize]
  exact Pattern.reads_anyOf .unicode "&lt;".toList (entities.tail.map Prod.fst) hone

theorem compile?_entitySource :
    compile? entitySource entityFlags = .ok ⟨entitySource, entityFlags, entityTree, 0, []⟩ :=
  Pattern.compile?_alternatives quotes_patternSigns rfl rfl "&lt;".toList
    (entities.tail.map Prod.fst)

theorem characterOf_entity (missing : Fault) (he : e ∈ entities) (hw : w.lower = e.1) :
    characterOf missing w = .ok [e.2] := by
  have hall : ∀ e ∈ entities, entities.lookup e.1 = some e.2 := by decide
  rw [characterOf, hw, hall e he]

theorem replaces_entities (missing : Fault) :
    Replaces entitySize? (characterOf missing) unescape where
  nil := rfl
  stretch u size h := by
    obtain ⟨e, he, rfl⟩ := Option.map_eq_some_iff.1 h
    have hchar := characterOf_entity missing (mem_of_entity? he) (lower_take_of_entity? he)
    exact ⟨[e.2], hchar, unescape_entity he⟩
  plain _ _ h := unescape_plain (Option.map_eq_none_iff.1 h)

/-- What the pattern matches is an entity in lower case. -/
theorem lower_match_of_entities (hp : compile? entitySource entityFlags = .ok p)
    {m : Pattern.Match} (hm : m ∈ p.allMatches t) :
    ∃ c, (Text.lower (t.between m.start m.stop), c) ∈ entities := by
  obtain rfl := Except.ok.inj (compile?_entitySource.symm.trans hp)
  have hpos (u : Text) : entitySize? u ≠ some 0 := fun h =>
    Nat.lt_irrefl 0 (bounds_entitySize? u 0 h).1
  obtain ⟨size, hsize, hstop⟩ := reads_entities.stretch?_of_mem_matchesFrom hpos hm
  obtain ⟨e, he, rfl⟩ := Option.map_eq_some_iff.1 hsize
  refine ⟨e.2, ?_⟩
  rw [hstop, Pattern.between_add, lower_take_of_entity? he]
  exact mem_of_entity? he

/-- Reading entities is replacing the matches of the pattern. -/
theorem substitute_entities (hp : compile? entitySource entityFlags = .ok p) (missing : Fault)
    (t : Text) :
    p.substitute t false (fun m => characterOf missing (t.between m.start m.stop)) =
      .ok (unescape t) := by
  obtain rfl := Except.ok.inj (compile?_entitySource.symm.trans hp)
  exact Reads.substitute_eq reads_entities (replaces_entities missing) bounds_entitySize? t

/-! ## Writing -/

/-- The characters that are written as entities. -/
def marked : Text := ['<', '>', '&', '"', '\'', '\x60']

theorem entityOf_marked : ∀ c ∈ marked, (entityOf c, c) ∈ entities :=
  List.all_iff_forall_prop.1 (by decide)

theorem entityOf_plain (hc : c ∉ marked) : entityOf c = [c] := by
  simp only [marked, List.mem_cons, List.not_mem_nil, or_false, not_or] at hc
  simp [entityOf, hc]

theorem escape_cons (c : Char) (t : Text) : escape (c :: t) = entityOf c ++ escape t :=
  List.flatMap_cons

/-- An entity is in lower case. -/
theorem asciiLower_entityOf : ∀ c ∈ marked, Text.asciiLower (entityOf c) = entityOf c :=
  List.all_iff_forall_prop.1 (by decide)

/-- A character that is written is read back, whatever follows. -/
theorem unescape_entityOf (c : Char) (t : Text) : unescape (entityOf c ++ t) = c :: unescape t := by
  by_cases hc : c ∈ marked
  · have he : entity? (entityOf c ++ t) = some (entityOf c, c) := by
      refine entity?_eq_some_iff.2 ⟨entityOf_marked c hc, t.asciiLower, ?_⟩
      rw [Text.asciiLower, Text.asciiLower, List.map_append]
      exact congrArg (· ++ _) (asciiLower_entityOf c hc).symm
    rw [unescape_entity he, List.drop_left]
  · have hne : c ≠ '&' := by
      rintro rfl
      exact hc (by decide)
    rw [entityOf_plain hc, List.singleton_append, unescape_plain (entity?_cons hne t)]

theorem unescape_escape (t : Text) : unescape (escape t) = t := by
  induction t with
  | nil => rfl
  | cons c t ih => rw [escape_cons, unescape_entityOf, ih]

theorem not_mem_escape {d : Char} (hd : d ∈ marked) (hne : d ≠ '&') (t : Text) : d ∉ escape t := by
  have hall : ∀ d ∈ marked.flatMap entityOf, d = '&' ∨ d ∉ marked :=
    List.all_iff_forall_prop.1 (by decide)
  intro h
  obtain ⟨c, -, hc⟩ := List.mem_flatMap.1 h
  by_cases hm : c ∈ marked
  · rcases hall d (List.mem_flatMap_of_mem hm hc) with hamp | hplain
    · exact hne hamp
    · exact hplain hd
  · rw [entityOf_plain hm, List.mem_singleton] at hc
    exact hm (hc ▸ hd)

/-- An ampersand in what is written for a character begins it. -/
theorem ampersand_entityOf (h : (entityOf c)[i]? = some '&') : i = 0 ∧ c ∈ marked := by
  have hall : ∀ c ∈ marked, ∀ i < (entityOf c).length, (entityOf c)[i]? = some '&' → i = 0 :=
    List.all_iff_forall_prop.1 (by decide)
  by_cases hc : c ∈ marked
  · exact ⟨hall c hc i (List.getElem?_eq_some_iff.1 h).1 h, hc⟩
  · rw [entityOf_plain hc] at h
    obtain rfl := List.mem_singleton.1 (List.mem_of_getElem? h)
    exact absurd (by decide) hc

/-- Ampersands begin what is written for a special character. -/
theorem ampersand_escape (h : (escape t)[i]? = some '&') :
    ∃ c ∈ marked, entityOf c <+: (escape t).drop i := by
  induction t generalizing i with
  | nil => cases h
  | cons c t ih =>
    rw [escape_cons] at h ⊢
    rcases Nat.lt_or_ge i (entityOf c).length with hi | hi
    · rw [List.getElem?_append_left hi] at h
      obtain ⟨rfl, hc⟩ := ampersand_entityOf h
      exact ⟨c, hc, List.prefix_append _ _⟩
    · rw [List.getElem?_append_right hi] at h
      obtain ⟨d, hd, hp⟩ := ih h
      refine ⟨d, hd, ?_⟩
      rwa [List.drop_append, List.drop_eq_nil_of_le hi, List.nil_append]

/-- **Writing characters as entities can be undone**: reading the entities gives the text back,
    no special character is left but the ampersands that begin an entity, and reading replaces the
    matches of the pattern of all entities, each of which is one. -/
theorem escape_reversible :
    (∀ t, unescape (escape t) = t) ∧ Function.Injective escape ∧
    (∀ t, ∀ d ∈ marked, d ≠ '&' → d ∉ escape t) ∧
    (∀ t (i : Nat), (escape t)[i]? = some '&' → ∃ c ∈ marked, entityOf c <+: (escape t).drop i) ∧
    ∃ p, compile? entitySource entityFlags = .ok p ∧ ∀ t,
      (∀ m ∈ p.allMatches t, ∃ c, (Text.lower (t.between m.start m.stop), c) ∈ entities) ∧
      ∀ missing, p.substitute t false
        (fun m => characterOf missing (t.between m.start m.stop)) = .ok (unescape t) := by
  have hinj : Function.LeftInverse unescape escape := unescape_escape
  exact ⟨unescape_escape, hinj.injective, fun t d hd hne => not_mem_escape hd hne t,
    fun t i h => ampersand_escape h, _, compile?_entitySource, fun t =>
    ⟨fun m hm => lower_match_of_entities compile?_entitySource hm, fun missing =>
      substitute_entities compile?_entitySource missing t⟩⟩

/-- An entity in the text written, and one in capitals read. -/
theorem escape_reversible_capitals :
    '<' ∈ marked ∧ '<' ≠ '&' ∧ '<' ∉ escape "<&lt;".toList ∧
      (escape "<&lt;".toList)[4]? = some '&' ∧
      (∃ c ∈ marked, entityOf c <+: (escape "<&lt;".toList).drop 4) ∧
      ∃ p m, compile? entitySource entityFlags = .ok p ∧ m ∈ p.allMatches "x&LT;".toList ∧
        ∃ c, (Text.lower (Text.between "x&LT;".toList m.start m.stop), c) ∈ entities := by
  obtain ⟨-, -, hnone, hampersand, p, hp, hmatches⟩ := escape_reversible
  obtain rfl := Except.ok.inj (compile?_entitySource.symm.trans hp)
  have hm : ⟨1, 5, []⟩ ∈ Pattern.allMatches ⟨entitySource, entityFlags, entityTree, 0, []⟩
      "x&LT;".toList := by
    decide +kernel
  exact ⟨by decide, by decide, hnone _ '<' (by decide) (by decide), by decide,
    hampersand _ 4 (by decide), _, _, hp, hm, (hmatches _).1 _ hm⟩

end Textwork.Markup
