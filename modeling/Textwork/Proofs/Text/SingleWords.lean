/-
  Texts that are one word, and the words of texts put together.

  * `words_eq_singleton_iff`: `IsWord` says which texts are their own only word;
    `isWord_of_mem_words`: the words of a text are such texts;
  * `words_append_break`, `words_join`: signs between two texts part their words.
-/
import Textwork.Proofs.Text.Words

namespace Textwork.Text

open Unicode

variable {c d : Char} {t u w s : Text} {ws : List Text} {k : Nat}

/-! ## Characters of words -/

theorem mem_of_mem_words (hw : w ∈ words t) (hc : c ∈ w) : c ∈ t ∧ isAlphanumeric c = true := by
  have hmem : c ∈ (words t).flatten := List.mem_flatten.2 ⟨w, hw, hc⟩
  rw [flatten_words] at hmem
  exact List.mem_filter.1 hmem

theorem words_ne_nil (hc : c ∈ t) (halpha : isAlphanumeric c = true) : words t ≠ [] := by
  intro hnil
  have hmem : c ∈ t.filter isAlphanumeric := List.mem_filter.2 ⟨hc, halpha⟩
  rw [← flatten_words, hnil] at hmem
  cases hmem

/-! ## One word -/

/-- The text is one run of letters and digits, and no word begins inside of it. -/
structure IsWord (w : Text) : Prop where
  ne_nil : w ≠ []
  alphanumeric : ∀ c ∈ w, isAlphanumeric c = true
  not_beginsBehind : ∀ k, ¬BeginsBehind w k

theorem beginsBehind_succ : BeginsBehind (c :: t) (k + 1) ↔ BeginsBehind t k := by
  simp [BeginsBehind]

theorem not_beginsBehind_singleton : ¬BeginsBehind [c] k := by
  simp [BeginsBehind]

theorem isWord_singleton : IsWord [c] ↔ isAlphanumeric c = true :=
  ⟨fun h => h.alphanumeric c (by simp), fun h => ⟨by simp, by simpa using h,
    fun _ => not_beginsBehind_singleton⟩⟩

theorem isWord_cons (ht : t ≠ []) :
    IsWord (c :: t) ↔ isAlphanumeric c = true ∧ staysWith c t = true ∧ IsWord t := by
  rw [staysWith_iff]
  constructor
  · intro h
    obtain ⟨hc, hall⟩ := List.forall_mem_cons.1 h.alphanumeric
    refine ⟨hc, ⟨?_, h.not_beginsBehind 0⟩, ht, hall, fun k hk =>
      h.not_beginsBehind (k + 1) (beginsBehind_succ.2 hk)⟩
    obtain ⟨d, u, rfl⟩ := List.exists_cons_of_ne_nil ht
    exact hall d List.mem_cons_self
  · rintro ⟨hc, ⟨-, hbegins⟩, h⟩
    refine ⟨List.cons_ne_nil c t, List.forall_mem_cons.2 ⟨hc, h.alphanumeric⟩, fun k hk => ?_⟩
    cases k with
    | zero => exact hbegins hk
    | succ k => exact h.not_beginsBehind k (beginsBehind_succ.1 hk)

/-- **The texts that are their own only word.** -/
theorem words_eq_singleton_iff : words w = [w] ↔ IsWord w := by
  induction w with
  | nil => exact iff_of_false (by simp [words, runs]) fun h => h.ne_nil rfl
  | cons c t ih =>
    by_cases hc : isAlphanumeric c = true
    · rcases eq_or_ne t [] with rfl | ht
      · simp [isWord_singleton, hc, words, runs, splitRun]
      · rw [isWord_cons ht, ← ih, and_iff_right hc]
        by_cases hs : staysWith c t = true
        · rw [words_of_staysWith hc hs, consFirst_eq, and_iff_right hs]
          cases words t <;> simp [ht.symm]
        · have hn : staysWith c t = false := by simpa using hs
          simp [words_of_not_staysWith hc hn, hn, ht.symm]
    · refine iff_of_false (fun h => hc ?_) fun h => hc (h.alphanumeric c List.mem_cons_self)
      have hmem : c :: t ∈ words (c :: t) := h ▸ List.mem_cons_self
      exact (mem_of_mem_words hmem List.mem_cons_self).2

/-- A shorter text behind a character gives no further reason for a word to begin. -/
theorem staysWith_of_prefix (h : staysWith c t = true) (hu : u ≠ []) (hp : u <+: t) :
    staysWith c u = true := by
  obtain ⟨d, u, rfl⟩ := List.exists_cons_of_ne_nil hu
  obtain ⟨rest, rfl⟩ := hp
  cases u with
  | nil =>
    simp only [staysWith, beginsWord, List.cons_append, List.nil_append, List.head?_nil] at h ⊢
    grind
  | cons e u => simpa [staysWith] using h

theorem isWord_of_mem_words (hw : w ∈ words t) : IsWord w := by
  -- The word that a text begins with is a beginning of the text.
  suffices h : (∀ w ∈ words t, IsWord w) ∧
      ∀ d ∈ t.head?, isAlphanumeric d = true → ∀ w ∈ (words t).head?, w <+: t from h.1 w hw
  clear hw
  induction t using words_induction with
  | nil => simp
  | outside c t hc ih =>
    refine ⟨ih.1, fun d hd halpha => ?_⟩
    obtain rfl : c = d := by simpa using hd
    cases halpha.symm.trans hc
  | stays c t d w ws hc hs hd ih =>
    obtain ⟨hwords, hprefix⟩ := ih
    obtain ⟨hword, hrest⟩ := List.forall_mem_cons.1 hwords
    have hdw : d :: w <+: t :=
      hprefix d hd (hword.alphanumeric d List.mem_cons_self) _ rfl
    have hne : d :: w ≠ [] := List.cons_ne_nil d w
    refine ⟨List.forall_mem_cons.2 ⟨(isWord_cons hne).2
      ⟨hc, staysWith_of_prefix hs hne hdw, hword⟩, hrest⟩, fun _ _ _ v hv => ?_⟩
    obtain rfl : c :: d :: w = v := by simpa using hv
    exact List.cons_prefix_cons.2 ⟨rfl, hdw⟩
  | begins c t hc _ ih =>
    refine ⟨List.forall_mem_cons.2 ⟨isWord_singleton.2 hc, ih.1⟩, fun _ _ _ v hv => ?_⟩
    obtain rfl : [c] = v := by simpa using hv
    exact ⟨t, rfl⟩

/-! ## Texts put together -/

theorem words_of_forall_not_alphanumeric (hs : ∀ c ∈ s, isAlphanumeric c = false) (t : Text) :
    words (s ++ t) = words t := by
  induction s with
  | nil => rfl
  | cons c s ih =>
    obtain ⟨hc, hs⟩ := List.forall_mem_cons.1 hs
    rw [List.cons_append, words_of_not_alphanumeric hc, ih hs]

theorem staysWith_append_break (hd : isAlphanumeric d = false) (c : Char) (u t : Text) :
    staysWith c (u ++ d :: t) = staysWith c u := by
  cases u with
  | nil => simp [staysWith, hd]
  | cons e u =>
    cases u with
    | nil => simp [staysWith, Option.filter, hd]
    | cons f u => rfl

theorem words_append_cons (hd : isAlphanumeric d = false) (u t : Text) :
    words (u ++ d :: t) = words u ++ words t := by
  induction u with
  | nil => exact words_of_not_alphanumeric hd t
  | cons c u ih =>
    rw [List.cons_append]
    by_cases hc : isAlphanumeric c = true
    · have hstays := staysWith_append_break hd c u t
      by_cases hs : staysWith c u = true
      · rw [words_of_staysWith hc (hstays.trans hs), words_of_staysWith hc hs, ih]
        refine (consFirst_append fun hnil => ?_).symm
        cases u with
        | nil => cases hs
        | cons e u =>
          obtain ⟨v, vs, hv⟩ := exists_words_cons (Bool.and_eq_true_iff.1 hs).1 u
          cases hnil.symm.trans hv
      · have hn : staysWith c u = false := by simpa using hs
        rw [words_of_not_staysWith hc (hstays.trans hn), words_of_not_staysWith hc hn, ih]
        rfl
    · have hn : isAlphanumeric c = false := by simpa using hc
      rw [words_of_not_alphanumeric hn, words_of_not_alphanumeric hn, ih]

/-- Signs part the words before them from those behind them. -/
theorem words_append_break (hne : s ≠ []) (hs : ∀ c ∈ s, isAlphanumeric c = false) (u t : Text) :
    words (u ++ s ++ t) = words u ++ words t := by
  obtain ⟨c, s, rfl⟩ := List.exists_cons_of_ne_nil hne
  obtain ⟨hc, hs⟩ := List.forall_mem_cons.1 hs
  rw [List.append_assoc, List.cons_append, words_append_cons hc,
    words_of_forall_not_alphanumeric hs]

theorem words_join (hne : s ≠ []) (hs : ∀ c ∈ s, isAlphanumeric c = false) :
    words (join s ws) = ws.flatMap words := by
  induction ws with
  | nil => rfl
  | cons w ws ih =>
    cases ws with
    | nil => simp [join]
    | cons v ws =>
      have hjoin : join s (w :: v :: ws) = w ++ s ++ join s (v :: ws) := rfl
      rw [hjoin, words_append_break hne hs, ih, ← List.flatMap_cons]

theorem join_nil (ws : List Text) : join [] ws = ws.flatten := by
  induction ws with
  | nil => rfl
  | cons w ws ih =>
    cases ws with
    | nil => simp [join]
    | cons v ws =>
      have hjoin : join [] (w :: v :: ws) = w ++ [] ++ join [] (v :: ws) := rfl
      rw [hjoin, ih, List.append_nil, ← List.flatten_cons]

end Textwork.Text
