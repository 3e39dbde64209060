/-
  The words of a text by position.

  * `words_of_staysWith` and its neighbours give the words of a text from those
    of the text without its first character;
  * `sameWord_iff`: two characters lie in one word exactly if they lie in one run
    of letters and digits and no word begins between them;
  * `words_exact`: the words hold the letters and digits, and each is of one kind.
-/
import Textwork.Catalogue.Matching
import Textwork.Proofs.Text.Parts

namespace Textwork.Text

open Unicode

variable {c d : Char} {t w : Text} {ws : List Text} {i j k : Nat}

/-! ## The first character -/

theorem consFirst_eq (c : Char) (ws : List Text) :
    consFirst c ws = (c :: ws.headD []) :: ws.tail := by
  cases ws <;> rfl

theorem consFirst_append {us : List Text} (h : us ≠ []) :
    consFirst c us ++ ws = consFirst c (us ++ ws) := by
  cases us with
  | nil => exact absurd rfl h
  | cons => rfl

theorem splitRun_ne_nil (c : Char) (t : Text) : splitRun (c :: t) ≠ [] := by
  cases t with
  | nil => simp [splitRun]
  | cons d t =>
    rw [splitRun]
    split_ifs
    · simp
    · simp [consFirst_eq]

/-- The first run goes on for as long as there are characters of the class. -/
theorem exists_runs_cons {p : Char → Bool} (hc : p c = true) (t : Text) :
    ∃ rs, runs p (c :: t) = (c :: t.takeWhile p) :: rs := by
  induction t generalizing c with
  | nil => exact ⟨[], by simp [runs, hc]⟩
  | cons d t ih =>
    by_cases hd : p d = true
    · obtain ⟨rs, hrs⟩ := ih hd
      exact ⟨rs, by simp [runs, hc, hd, hrs, consFirst]⟩
    · exact ⟨runs p (d :: t), by simp [runs, hc, hd]⟩

/-- Whether a character lies in the word that the text behind it begins with. -/
def staysWith (c : Char) : Text → Bool
  | [] => false
  | d :: t => isAlphanumeric d && !beginsWord c d (t.head?.filter isAlphanumeric)

theorem words_of_not_alphanumeric (hc : isAlphanumeric c = false) (t : Text) :
    words (c :: t) = words t := by
  cases t <;> simp [words, runs, hc]

theorem words_cons_cons (hc : isAlphanumeric c = true) (hd : isAlphanumeric d = true) (t : Text) :
    words (c :: d :: t) =
      if beginsWord c d (t.head?.filter isAlphanumeric) then [c] :: words (d :: t)
      else consFirst c (words (d :: t)) := by
  obtain ⟨rs, hrs⟩ := exists_runs_cons hd t
  have hruns : runs isAlphanumeric (c :: d :: t) =
      (c :: d :: t.takeWhile isAlphanumeric) :: rs := by
    simp [runs, hc, hd, hrs, consFirst]
  rw [words, words, hrs, hruns, List.flatMap_cons, List.flatMap_cons, splitRun,
    List.head?_takeWhile]
  split_ifs
  · rfl
  · exact consFirst_append (splitRun_ne_nil d _)

theorem words_of_staysWith (hc : isAlphanumeric c = true) (h : staysWith c t = true) :
    words (c :: t) = consFirst c (words t) := by
  cases t with
  | nil => cases h
  | cons d t =>
    obtain ⟨hd, hb⟩ : isAlphanumeric d = true ∧
        beginsWord c d (t.head?.filter isAlphanumeric) = false := by simpa [staysWith] using h
    rw [words_cons_cons hc hd, hb, if_neg Bool.false_ne_true]

theorem words_of_not_staysWith (hc : isAlphanumeric c = true) (h : staysWith c t = false) :
    words (c :: t) = [c] :: words t := by
  cases t with
  | nil => simp [words, runs, splitRun, hc]
  | cons d t =>
    by_cases hd : isAlphanumeric d = true
    · have hb : beginsWord c d (t.head?.filter isAlphanumeric) = true := by
        simpa [staysWith, hd] using h
      rw [words_cons_cons hc hd, if_pos hb]
    · simp [words, runs, splitRun, hc, hd]

theorem exists_words_cons (hc : isAlphanumeric c = true) (t : Text) :
    ∃ w ws, words (c :: t) = (c :: w) :: ws := by
  by_cases h : staysWith c t = true
  · exact ⟨_, _, by rw [words_of_staysWith hc h, consFirst_eq]⟩
  · exact ⟨[], words t, words_of_not_staysWith hc (by simpa using h)⟩

/-- Induction over a text and its words: the first character is outside of all words, stays with the
    first word of the text behind it, or is a word on its own. -/
theorem words_induction {P : Text → List Text → Prop} (nil : P [] [])
    (outside : ∀ c t, isAlphanumeric c = false → P t (words t) → P (c :: t) (words t))
    (stays : ∀ c t d w ws, isAlphanumeric c = true → staysWith c t = true → t.head? = some d →
      P t ((d :: w) :: ws) → P (c :: t) ((c :: d :: w) :: ws))
    (begins : ∀ c t, isAlphanumeric c = true → staysWith c t = false → P t (words t) →
      P (c :: t) ([c] :: words t)) (t : Text) : P t (words t) := by
  induction t with
  | nil => exact nil
  | cons c t ih =>
    by_cases hc : isAlphanumeric c = true
    · by_cases h : staysWith c t = true
      · rw [words_of_staysWith hc h]
        cases t with
        | nil => cases h
        | cons d t =>
          have hd : isAlphanumeric d = true := (Bool.and_eq_true_iff.1 h).1
          obtain ⟨w, ws, hw⟩ := exists_words_cons hd t
          rw [hw] at ih ⊢
          exact stays c (d :: t) d w ws hc h rfl ih
      · have hn : staysWith c t = false := by simpa using h
        rw [words_of_not_staysWith hc hn]
        exact begins c t hc hn ih
    · have hn : isAlphanumeric c = false := by simpa using hc
      rw [words_of_not_alphanumeric hn]
      exact outside c t hn ih

/-! ## The characters of the words -/

theorem nil_notMem_words (t : Text) : [] ∉ t.words := by
  induction t using words_induction with
  | nil => simp
  | outside _ _ _ ih => exact ih
  | stays _ _ _ _ _ _ _ _ ih | begins _ _ _ _ ih => simpa using ih

theorem flatten_words (t : Text) : t.words.flatten = t.filter isAlphanumeric := by
  induction t using words_induction with
  | nil => rfl
  | outside c t hc ih => simp [hc, ih]
  | stays c t d w ws hc _ _ ih => simpa [hc] using ih
  | begins c t hc _ ih => simp [hc, ih]

/-- Neighbours in a word are both digits or both none, and no upper case letter follows a lower case
    one. -/
def Alike (a b : Char) : Prop :=
  isDigit a = isDigit b ∧ ¬(isLowercase a = true ∧ isUppercase b = true)

theorem alike_of_staysWith (h : staysWith c t = true) (hd : t.head? = some d) : Alike c d := by
  obtain ⟨u, rfl⟩ := List.head?_eq_some_iff.1 hd
  obtain ⟨-, ⟨hdigit, hcase⟩, -⟩ : isAlphanumeric d = true ∧ (isDigit c = isDigit d ∧
      (isLowercase c = false ∨ isUppercase d = false)) ∧ _ := by
    simpa [staysWith, beginsWord] using h
  exact ⟨hdigit, fun hu => by simp [hu] at hcase⟩

theorem isChain_of_mem_words (t : Text) : ∀ w ∈ t.words, w.IsChain Alike := by
  induction t using words_induction with
  | nil => simp
  | outside _ _ _ ih => exact ih
  | stays c t d w ws _ hs hd ih =>
    obtain ⟨hw, hws⟩ := List.forall_mem_cons.1 ih
    exact List.forall_mem_cons.2 ⟨List.isChain_cons_cons.2 ⟨alike_of_staysWith hs hd, hw⟩, hws⟩
  | begins c t _ _ ih => exact List.forall_mem_cons.2 ⟨List.isChain_singleton c, ih⟩

/-- A word is all digits or has none. -/
theorem digits_or_none (h : w.IsChain Alike) :
    (∀ c ∈ w, isDigit c = true) ∨ ∀ c ∈ w, isDigit c = false := by
  cases w with
  | nil => simp
  | cons c w =>
    have hchain : (c :: w).IsChain fun a b => isDigit a = isDigit b := h.imp fun _ _ hab => hab.1
    have hsame : ∀ d ∈ w, isDigit c = isDigit d :=
      (List.pairwise_cons.1 (List.isChain_iff_pairwise.1 hchain)).1
    cases hc : isDigit c with
    | true => exact .inl (List.forall_mem_cons.2 ⟨hc, fun d hd => (hsame d hd).symm.trans hc⟩)
    | false => exact .inr (List.forall_mem_cons.2 ⟨hc, fun d hd => (hsame d hd).symm.trans hc⟩)

/-! ## Two characters in one word -/

/-- The number of letters and digits before position `i`: the position, among the characters of
    the words, of the one that stands there. -/
def rank (t : Text) (i : Nat) : Nat := (t.take i).countP isAlphanumeric

/-- The characters at `i` and `j` lie in one of the words `ws` of a text. -/
def SameWord (ws : List Text) (t : Text) (i j : Nat) : Prop :=
  t[i]?.any isAlphanumeric = true ∧ t[j]?.any isAlphanumeric = true ∧ InOne ws (rank t i) (rank t j)

/-- The characters at `i` and `j` lie in one run of letters and digits. -/
def SameRun (t : Text) (i j : Nat) : Prop :=
  ∀ k, i ≤ k → k ≤ j → t[k]?.any isAlphanumeric = true

/-- A word begins behind position `k`, inside of a run: where digits meet other characters, where an
    upper case letter follows a lower case one, and at the last of several upper case letters if a
    lower case one of the run follows it. -/
def BeginsBehind (t : Text) (k : Nat) : Prop :=
  ∃ a b, t[k]? = some a ∧ t[k + 1]? = some b ∧
    (isDigit a ≠ isDigit b ∨ isLowercase a = true ∧ isUppercase b = true ∨
      isUppercase a = true ∧ isUppercase b = true ∧
        ∃ c, t[k + 2]? = some c ∧ isAlphanumeric c = true ∧ isLowercase c = true)

/-- One run holds the characters from `i` to `j`, and no word begins between them. -/
def Together (t : Text) (i j : Nat) : Prop :=
  SameRun t i j ∧ ∀ k, i ≤ k → k < j → ¬BeginsBehind t k

theorem staysWith_iff :
    staysWith c t = true ↔ t[0]?.any isAlphanumeric = true ∧ ¬BeginsBehind (c :: t) 0 := by
  cases t with
  | nil => simp [staysWith]
  | cons d t =>
    have hbegins : BeginsBehind (c :: d :: t) 0 ↔
        beginsWord c d (t.head?.filter isAlphanumeric) = true := by
      cases t <;> simp [BeginsBehind, beginsWord, or_assoc, and_assoc]
    simp [staysWith, hbegins]

theorem together_succ : Together (c :: t) (i + 1) (j + 1) ↔ Together t i j := by
  constructor
  · rintro ⟨hrun, hbegins⟩
    exact ⟨fun k hi hj => hrun (k + 1) (Nat.succ_le_succ hi) (Nat.succ_le_succ hj),
      fun k hi hj => hbegins (k + 1) (Nat.succ_le_succ hi) (Nat.succ_lt_succ hj)⟩
  · rintro ⟨hrun, hbegins⟩
    refine ⟨fun k hi hj => ?_, fun k hi hj => ?_⟩ <;>
      obtain ⟨k, rfl⟩ := Nat.exists_eq_succ_of_ne_zero (Nat.ne_zero_of_lt hi)
    · exact hrun k (Nat.le_of_succ_le_succ hi) (Nat.le_of_succ_le_succ hj)
    · exact hbegins k (Nat.le_of_succ_le_succ hi) (Nat.lt_of_succ_lt_succ hj)

theorem together_zero_zero : Together (c :: t) 0 0 ↔ isAlphanumeric c = true := by
  simp [Together, SameRun]

theorem together_zero_succ :
    Together (c :: t) 0 (j + 1) ↔
      isAlphanumeric c = true ∧ staysWith c t = true ∧ Together t 0 j := by
  rw [staysWith_iff]
  constructor
  · rintro ⟨hrun, hbegins⟩
    exact ⟨hrun 0 (Nat.le_refl 0) (Nat.zero_le _),
      ⟨hrun 1 (Nat.zero_le 1) (by omega), hbegins 0 (Nat.le_refl 0) (Nat.zero_lt_succ j)⟩,
      fun k _ hk => hrun (k + 1) (Nat.zero_le _) (Nat.succ_le_succ hk),
      fun k _ hk => hbegins (k + 1) (Nat.zero_le _) (Nat.succ_lt_succ hk)⟩
  · rintro ⟨hc, ⟨-, hb⟩, hrun, hbegins⟩
    refine ⟨fun k _ hk => ?_, fun k _ hk => ?_⟩
    · cases k with
      | zero => exact hc
      | succ k => exact hrun k (Nat.zero_le k) (Nat.le_of_succ_le_succ hk)
    · cases k with
      | zero => exact hb
      | succ k => exact hbegins k (Nat.zero_le k) (Nat.lt_of_succ_lt_succ hk)

theorem rank_cons (hc : isAlphanumeric c = true) (t : Text) (i : Nat) :
    rank (c :: t) (i + 1) = rank t i + 1 := by
  simp [rank, hc]

theorem rank_cons_of_not (hc : isAlphanumeric c = false) (t : Text) (i : Nat) :
    rank (c :: t) (i + 1) = rank t i := by
  simp [rank, hc]

theorem rank_le_rank (hij : i ≤ j) : rank t i ≤ rank t j :=
  (List.take_sublist_take_left hij).countP_le

/-- **Two characters lie in one word exactly if one run holds them and no word begins between
    them.** -/
theorem sameWord_iff (t : Text) : ∀ i j, i ≤ j → (SameWord t.words t i j ↔ Together t i j) := by
  induction t using words_induction with
  | nil =>
    intro i j hij
    exact ⟨fun h => absurd h.1 (by simp), fun h => absurd (h.1 i (Nat.le_refl i) hij) (by simp)⟩
  | outside c t hc ih =>
    rintro (_ | i) (_ | j) hij
    · simp [SameWord, together_zero_zero, hc]
    · simp [SameWord, together_zero_succ, hc]
    · cases hij
    · rw [together_succ, ← ih i j (Nat.le_of_succ_le_succ hij)]
      simp [SameWord, rank_cons_of_not hc]
  | stays c t d w ws hc hs _ ih =>
    rintro (_ | i) (_ | j) hij
    · simp [SameWord, together_zero_zero, inOne_cons, rank, hc]
    · rw [together_zero_succ, ← ih 0 j (Nat.zero_le j)]
      simp [SameWord, inOne_cons, hc, hs, (staysWith_iff.1 hs).1, rank]
    · cases hij
    · rw [together_succ, ← ih i j (Nat.le_of_succ_le_succ hij)]
      simp [SameWord, rank_cons hc, inOne_cons_cons (rank_le_rank (Nat.le_of_succ_le_succ hij))]
  | begins c t hc hs ih =>
    rintro (_ | i) (_ | j) hij
    · simp [SameWord, together_zero_zero, inOne_cons, rank, hc]
    · simp [SameWord, together_zero_succ, inOne_cons, rank, hc, hs]
    · cases hij
    · have hle : rank t i ≤ rank t j := rank_le_rank (Nat.le_of_succ_le_succ hij)
      rw [together_succ, ← ih i j (Nat.le_of_succ_le_succ hij)]
      simp [SameWord, rank_cons hc, inOne_cons (Nat.succ_le_succ hle)]

end Textwork.Text

namespace Textwork.Catalogue

open Unicode
open Text (SameWord SameRun BeginsBehind)

/-- **Words hold the letters and digits, cut exactly where a word begins.**  Two characters lie in
    one word if and only if one run holds them and no word begins between them; so a word is all
    digits or has none, and no upper case letter follows a lower case one in it. -/
theorem words_lossless (t : Text) (flags : Value) :
    words (.text t) .nothing flags = .ok t.words ∧ [] ∉ t.words ∧
      t.words.flatten = t.filter isAlphanumeric ∧
      (∀ i j, i ≤ j → (SameWord t.words t i j ↔
        SameRun t i j ∧ ∀ k, i ≤ k → k < j → ¬BeginsBehind t k)) ∧
      ∀ w ∈ t.words, ((∀ c ∈ w, isDigit c = true) ∨ ∀ c ∈ w, isDigit c = false) ∧
        w.IsChain fun a b => ¬(isLowercase a = true ∧ isUppercase b = true) := by
  refine ⟨rfl, Text.nil_notMem_words t, Text.flatten_words t, Text.sameWord_iff t, fun w hw => ?_⟩
  have hchain := Text.isChain_of_mem_words t w hw
  exact ⟨Text.digits_or_none hchain, hchain.imp fun _ _ h => h.2⟩

/-- The last of several upper case letters begins a word, and so does a digit behind a letter. -/
theorem words_lossless_acronym :
    ¬SameWord (Text.words "XMLHttp2".toList) "XMLHttp2".toList 2 3 ∧
      ¬SameWord (Text.words "XMLHttp2".toList) "XMLHttp2".toList 6 7 := by
  have hwords := (words_lossless "XMLHttp2".toList (.int 0)).2.2.2.1
  have hletter : BeginsBehind "XMLHttp2".toList 2 :=
    ⟨'L', 'H', rfl, rfl, .inr (.inr ⟨by decide, by decide, 't', rfl, by decide, by decide⟩)⟩
  have hdigit : BeginsBehind "XMLHttp2".toList 6 := ⟨'p', '2', rfl, rfl, .inl (by decide)⟩
  exact ⟨fun h => ((hwords 2 3 (by decide)).1 h).2 2 (by decide) (by decide) hletter,
    fun h => ((hwords 6 7 (by decide)).1 h).2 6 (by decide) (by decide) hdigit⟩

end Textwork.Catalogue
