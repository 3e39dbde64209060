/-
  Words capitalized in place.

  * `titlePiece` is what a character stands for by the character before it in the
    text, and `titled` puts these pieces one behind the other;
  * `head?_upperOf_ne`: two forms of a letter differ in their first characters;
  * `titleCase_subject`: title case is this text exactly if no letter with two
    forms stands behind a letter whose form holds a mark, since title case looks
    at what it has written.
-/
import Mathlib.Data.List.Infix
import Textwork.Catalogue.Letters
import Textwork.Proofs.Unicode.Ascii

namespace Textwork

open Unicode

/-! ## Forms of a letter -/

namespace Unicode

/-- A mapping gives one character or a row of its table. -/
theorem mapCase_cases (expansions : Expansions) (shifts : Shifts) (c : Char) :
    (∃ d, mapCase expansions shifts c = [d]) ∨
      ∃ row ∈ expansions, c = Char.ofNat row.1 ∧
        mapCase expansions shifts c = row.2.map Char.ofNat := by
  unfold mapCase
  split
  · exact .inl ⟨_, rfl⟩
  · split
    · next ns hns =>
      exact .inr ⟨_, Expansions.mem_of_image? hns, (Char.ofNat_toNat c).symm, rfl⟩
    · exact .inl ⟨_, rfl⟩

theorem mapCase_ne_nil {expansions : Expansions} (h : ∀ row ∈ expansions, row.2 ≠ [])
    (shifts : Shifts) (c : Char) : mapCase expansions shifts c ≠ [] := by
  rcases mapCase_cases expansions shifts c with ⟨d, hd⟩ | ⟨row, hrow, -, hc⟩
  · simp [hd]
  · simp [hc, h row hrow]

/-- Two forms of a character differ in their first characters.  Forms of one character each do so
    anyway, so that only the rows of the tables are looked at. -/
theorem head?_upperOf_ne {c : Char} (h : upperOf c ≠ lowerOf c) :
    (upperOf c).head? ≠ (lowerOf c).head? := by
  have hupper : ∀ row ∈ upperExpansions,
      (row.2.map Char.ofNat).head? ≠ (lowerOf (Char.ofNat row.1)).head? := by decide +kernel
  have hlower : ∀ row ∈ lowerExpansions,
      (upperOf (Char.ofNat row.1)).head? ≠ (row.2.map Char.ofNat).head? := by decide +kernel
  rcases mapCase_cases upperExpansions upperShifts c with ⟨u, hu⟩ | ⟨row, hrow, rfl, hu⟩
  · rcases mapCase_cases lowerExpansions lowerShifts c with ⟨l, hl⟩ | ⟨row, hrow, rfl, hl⟩
    · intro heads
      simp only [upperOf, lowerOf, hu, hl, List.head?_cons, Option.some.injEq] at h heads
      exact h (by rw [heads])
    · intro heads
      rw [show lowerOf (Char.ofNat row.1) = _ from hl] at heads
      exact hlower row hrow heads
  · intro heads
    rw [show upperOf (Char.ofNat row.1) = _ from hu] at heads
    exact hupper row hrow heads

end Unicode

namespace Text

variable {joining written t : Text} {c p : Char} {o : Option Char}

theorem upper_singleton (c : Char) : upper [c] = upperOf c := by simp [upper]

theorem lower_singleton (c : Char) : lower [c] = lowerOf c := by
  by_cases h : c = 'Σ'
  · subst h
    rfl
  · simp [lower, mapInContext, lowerBetween, h]

theorem upper_append_ne (h : upper [c] ≠ lower [c]) (u l : Text) :
    upper [c] ++ u ≠ lower [c] ++ l := by
  rw [upper_singleton, lower_singleton] at h ⊢
  have hupper : upperOf c ≠ [] := mapCase_ne_nil (by decide) _ c
  have hlower : lowerOf c ≠ [] := mapCase_ne_nil (by decide) _ c
  intro heq
  have heads := congrArg List.head? heq
  rw [List.head?_append_of_ne_nil _ hupper, List.head?_append_of_ne_nil _ hlower] at heads
  exact head?_upperOf_ne h heads

/-! ## Pieces by the characters before them -/

/-- A letter behind this character starts a word: there is none, or it is neither a letter nor one
    that joins words. -/
def StartsWord (joining : Text) (previous : Option Char) : Prop :=
  ∀ p ∈ previous, isLetter p = false ∧ p ∉ joining

instance (joining : Text) : (previous : Option Char) → Decidable (StartsWord joining previous)
  | none => .isTrue nofun
  | some p => decidable_of_iff (isLetter p = false ∧ p ∉ joining) (by simp [StartsWord])

/-- What a character stands for behind another one: a letter in upper case if it starts a word and
    in lower case otherwise, all else unchanged. -/
def titlePiece (joining : Text) (previous : Option Char) (c : Char) : Text :=
  if isLetter c then (if StartsWord joining previous then upper [c] else lower [c]) else [c]

/-- The character before a position of a text that stands behind `previous`. -/
def before? (previous : Option Char) (t : Text) (i : Nat) : Option Char :=
  if i = 0 then previous else t[i - 1]?

/-- The pieces of a text that stands behind `previous`. -/
def titledFrom (joining : Text) (previous : Option Char) (t : Text) : Text :=
  t.zipIdx.flatMap fun (c, i) => titlePiece joining (before? previous t i) c

/-- The pieces of a text, one behind the other. -/
def titled (joining t : Text) : Text := titledFrom joining none t

theorem before?_cons_succ (c : Char) (t : Text) (i : Nat) :
    before? o (c :: t) (i + 1) = before? (some c) t i := by
  cases i <;> simp [before?]

theorem titledFrom_cons (joining : Text) (o : Option Char) (c : Char) (t : Text) :
    titledFrom joining o (c :: t) = titlePiece joining o c ++ titledFrom joining (some c) t := by
  have hbehind : ∀ q : Char × Nat, titlePiece joining (before? o (c :: t) (q.2 + 1)) q.1 =
      titlePiece joining (before? (some c) t q.2) q.1 := fun q => by rw [before?_cons_succ]
  unfold titledFrom
  rw [List.zipIdx_cons', List.flatMap_cons, List.flatMap_map]
  exact congrArg₂ _ rfl (List.flatMap_congr fun q _ => hbehind q)

/-! ## What was written before -/

theorem isInfix_iff {needle : Text} :
    startsTitleWord.isInfix needle t = true ↔ needle <:+: t := by
  induction t with
  | nil => simp [startsTitleWord.isInfix, List.infix_nil]
  | cons c t ih => simp [startsTitleWord.isInfix, List.infix_cons_iff, ih]

/-- What is taken for a part of a word: letters only, or a text in which words are joined. -/
def HoldsWord (joining written : Text) : Prop :=
  written.isAlphabetic = true ∨ written ≠ [] ∧ written <:+: joining

theorem startsTitleWord_eq_false_iff :
    startsTitleWord joining written = false ↔ HoldsWord joining written := by
  cases h : written.isAlphabetic <;>
    simp [startsTitleWord, HoldsWord, h, ← isInfix_iff]

theorem holdsWord_singleton : HoldsWord joining [p] ↔ ¬StartsWord joining (some p) := by
  cases h : isLetter p <;> simp [HoldsWord, isAlphabetic, StartsWord, List.singleton_infix_iff, h]

/-- What was written for the character before: the character itself, unless it is a letter. -/
def WrittenFor (written : Text) : Option Char → Prop
  | none => written = []
  | some p => isLetter p = false → written = [p]

theorem writtenFor_titlePiece : WrittenFor (titlePiece joining o c) (some c) := by
  intro hc
  simp [titlePiece, hc]

/-- Only behind a letter can what was written decide otherwise than what stands in the text. -/
theorem WrittenFor.startsTitleWord_eq (h : WrittenFor written o)
    (ho : ∀ p ∈ o, isLetter p = true → HoldsWord joining written) :
    startsTitleWord joining written = decide (StartsWord joining o) := by
  rcases o with _ | p
  · obtain rfl : written = [] := h
    simp [startsTitleWord, isAlphabetic, StartsWord]
  · cases hp : isLetter p with
    | true =>
      have hword := startsTitleWord_eq_false_iff.2 (ho p rfl hp)
      simp [hword, StartsWord, hp]
    | false =>
      rw [h hp, Bool.eq_iff_iff, ← not_iff_not, Bool.not_eq_true, startsTitleWord_eq_false_iff,
        holdsWord_singleton, decide_eq_true_iff]

/-! ## Where the two agree -/

/-- A letter with two forms behind another letter, for which `written` stands, is taken for a part
    of its word. -/
def JoinsWord (joining : Text) (p : Char) (written : Text) (c : Char) : Prop :=
  isLetter p = true → isLetter c = true → upper [c] ≠ lower [c] → HoldsWord joining written

/-- So are all such letters of a text that stands behind `previous`. -/
def KeepsWordsFrom (joining : Text) (previous : Option Char) (t : Text) : Prop :=
  ∀ i p c, t[i]? = some p → t[i + 1]? = some c →
    JoinsWord joining p (titlePiece joining (before? previous t i) p) c

theorem keepsWordsFrom_cons :
    KeepsWordsFrom joining o (c :: t) ↔
      (∀ d ∈ t.head?, JoinsWord joining c (titlePiece joining o c) d) ∧
        KeepsWordsFrom joining (some c) t := by
  constructor
  · intro h
    refine ⟨fun d hd => h 0 c d rfl (by simpa [List.head?_eq_getElem?] using hd), ?_⟩
    intro i p d hp hd
    have := h (i + 1) p d (by simpa using hp) (by simpa using hd)
    rwa [before?_cons_succ] at this
  · rintro ⟨hhead, htail⟩ i p d hp hd
    rcases i with _ | i
    · obtain rfl : c = p := by simpa using hp
      exact hhead d (by simpa [List.head?_eq_getElem?] using hd)
    · rw [before?_cons_succ]
      exact htail i p d (by simpa using hp) (by simpa using hd)

/-- One step: what is written for a character is its piece exactly if the character is taken for
    a part of its word; otherwise the two begin with different characters. -/
theorem titleFrom_cons_eq_iff (h : WrittenFor written o) :
    titleFrom (startsTitleWord joining) written (c :: t) = titledFrom joining o (c :: t) ↔
      (∀ p ∈ o, JoinsWord joining p written c) ∧
        titleFrom (startsTitleWord joining) (titlePiece joining o c) t =
          titledFrom joining (some c) t := by
  rw [titleFrom, titledFrom_cons]
  by_cases hforms : isLetter c = true ∧ upper [c] ≠ lower [c]
  · obtain ⟨hc, hne⟩ := hforms
    by_cases hword : ∀ p ∈ o, isLetter p = true → HoldsWord joining written
    · have hjoins : ∀ p ∈ o, JoinsWord joining p written c := fun p hp hletter _ _ =>
        hword p hp hletter
      rw [and_iff_right hjoins]
      simp [titlePiece, hc, h.startsTitleWord_eq hword]
    · push Not at hword
      obtain ⟨p, hp, hletter, hholds⟩ := hword
      have hstarts : startsTitleWord joining written = true := by
        by_contra hfalse
        exact hholds (startsTitleWord_eq_false_iff.1 (by simpa using hfalse))
      have hpiece : ¬StartsWord joining o := fun hstart => by simp [hstart p hp] at hletter
      refine iff_of_false ?_ fun hjoins => hholds (hjoins.1 p hp hletter hc hne)
      simp only [titlePiece, hc, hstarts, hpiece, if_true, if_false]
      exact upper_append_ne hne _ _
  · have hjoins : ∀ p ∈ o, JoinsWord joining p written c := fun p _ _ hc hne =>
      absurd ⟨hc, hne⟩ hforms
    have hpiece : (if isLetter c then
        (if startsTitleWord joining written then upper [c] else lower [c]) else [c]) =
          titlePiece joining o c := by
      unfold titlePiece
      split_ifs with hc <;> simp_all
    rw [and_iff_right hjoins]
    simp [hpiece]

theorem titleFrom_eq_iff (h : WrittenFor written o) :
    titleFrom (startsTitleWord joining) written t = titledFrom joining o t ↔
      (∀ p ∈ o, ∀ c ∈ t.head?, JoinsWord joining p written c) ∧ KeepsWordsFrom joining o t := by
  induction t generalizing written o with
  | nil => simp [titleFrom, titledFrom, KeepsWordsFrom]
  | cons c t ih =>
    rw [titleFrom_cons_eq_iff h, ih writtenFor_titlePiece, keepsWordsFrom_cons]
    simp

end Text

namespace Catalogue

open Text

/-- **Title case is decided by the subject alone** exactly if no letter with two forms stands behind
    a letter whose form holds another character than letters: what was written for the character
    before is looked at, not the character itself. -/
theorem titleCase_subject (t joining : Text) :
    ∃ out, titleCase (.text t) (.text joining) = .ok (.text out) ∧
      (out = titled joining t ↔ KeepsWordsFrom joining none t) := by
  refine ⟨t.title joining, rfl, ?_⟩
  have hstart : WrittenFor [] none := rfl
  rw [title, titled, titleFrom_eq_iff hstart]
  simp

/-- A letter inside of a word is capitalized behind a letter whose form holds a mark. -/
theorem titleCase_behind_mark :
    titleCase (.text "\u01F0a".toList) (.text []) ≠
      .ok (.text (titled [] "\u01F0a".toList)) := by
  intro h
  have htitle : title "\u01F0a".toList [] = titled [] "\u01F0a".toList :=
    Value.text.inj (Except.ok.inj h)
  revert htitle
  decide +kernel

end Catalogue

end Textwork
