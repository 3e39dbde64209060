/-
  Slugs in ASCII.

  * `nfkd_ascii`, `slugWords_ascii`: ASCII decomposes into itself, and is only
    cut into words and put in lower case;
  * `IsSlugWord` says what the words of a slug are, `slug_join`: joined by signs,
    they are their own slug;
  * `slugify_stable`: a value has such a slug unless it cannot be written.
-/
import Mathlib.Algebra.Group.Int.Defs
import Textwork.Catalogue.Listing
import Textwork.Proofs.Text.LowerCase
import Textwork.Proofs.Unicode.Decomposed
import Textwork.Proofs.Value.Overlong

namespace Textwork

variable {c : Char} {s t w : Text} {ws : List Text}

/-! ## Normalization -/

namespace Unicode

theorem isAlphanumeric_ascii (hc : c.toNat < 128) : isAlphanumeric c = c.isAlphanum :=
  forall_ascii (P := fun c => isAlphanumeric c = c.isAlphanum) (by decide +kernel) hc

theorem isDigit_ascii (hc : c.toNat < 128) : isDigit c = c.isDigit :=
  forall_ascii (P := fun c => isDigit c = c.isDigit) (by decide +kernel) hc

theorem decomposeChar_ascii (hc : c.toNat < 128) : decomposeChar c = [c] :=
  forall_ascii (P := fun c => decomposeChar c = [c]) (by decide +kernel) hc

theorem combiningClass_ascii (hc : c.toNat < 128) : combiningClass c = 0 :=
  forall_ascii (P := fun c => combiningClass c = 0) (by decide +kernel) hc

theorem reorder_of_starters (ht : ∀ c ∈ t, combiningClass c = 0) : reorder t = t := by
  induction t with
  | nil => rfl
  | cons c t ih =>
    obtain ⟨hc, ht⟩ := List.forall_mem_cons.1 ht
    rw [reorder, reorderFrom, if_pos hc]
    exact congrArg (c :: ·) (ih ht)

theorem nfkd_ascii (ht : ∀ c ∈ t, c.toNat < 128) : nfkd t = t := by
  rw [nfkd, decompose_eq_self fun c hc => decomposeChar_ascii (ht c hc)]
  exact reorder_of_starters fun c hc => combiningClass_ascii (ht c hc)

end Unicode

namespace Text

open Unicode

theorem toNat_lt_of_mem_asciiOnly : ∀ c ∈ asciiOnly t, c.toNat < 128 := by
  simp [asciiOnly]

theorem latinise_ascii (ht : ∀ c ∈ t, c.toNat < 128) : latinise t = t := by
  rw [latinise, nfkd_ascii ht]
  exact List.filter_eq_self.2 fun c hc => beq_iff_eq.2 (combiningClass_ascii (ht c hc))

theorem asciiOnly_latinise (ht : ∀ c ∈ t, c.toNat < 128) : asciiOnly (latinise t) = t := by
  rw [latinise_ascii ht]
  exact List.filter_eq_self.2 fun c hc => decide_eq_true (ht c hc)

/-- A text in ASCII is only cut into words and put in lower case. -/
theorem slugWords_ascii (ht : ∀ c ∈ t, c.toNat < 128) :
    slugWords t false = (words t).map lower := by
  rw [slugWords, if_neg Bool.false_ne_true, asciiOnly_latinise ht]

/-! ## The words of a slug -/

/-- The text consists of the letters `a` to `z`, or of the digits `0` to `9`. -/
structure IsSlugWord (w : Text) : Prop where
  ne_nil : w ≠ []
  letters_or_digits : (∀ c ∈ w, c.isLower = true) ∨ ∀ c ∈ w, c.isDigit = true

/-- A letter `a` to `z` or a digit is its own lower case form. -/
structure IsSlugChar (c : Char) : Prop where
  toNat_lt : c.toNat < 128
  isAlphanumeric : isAlphanumeric c = true
  not_isUppercase : isUppercase c = false
  toLower_eq : c.toLower = c

theorem isSlugChar_of_isAlphanum (hc : c.isAlphanum = true) (hlower : c.toLower = c) :
    IsSlugChar c := by
  have hascii := toNat_lt_of_isAlphanum hc
  refine ⟨hascii, (isAlphanumeric_ascii hascii).trans hc, ?_, hlower⟩
  exact forall_ascii (P := fun c => c.toLower = c → isUppercase c = false) (by decide +kernel)
    hascii hlower

theorem isSlugChar_of_isLower (hc : c.isLower = true) : IsSlugChar c := by
  have halpha : c.isAlphanum = true := isAlphanum_of_isAlpha (Bool.or_eq_true_iff.2 (.inr hc))
  refine isSlugChar_of_isAlphanum halpha ?_
  exact isAlphanum_ascii (P := fun c => c.isLower = true → c.toLower = c) (by decide) halpha hc

theorem isSlugChar_of_isDigit (hc : c.isDigit = true) : IsSlugChar c := by
  have halpha : c.isAlphanum = true := Bool.or_eq_true_iff.2 (.inr hc)
  refine isSlugChar_of_isAlphanum halpha ?_
  exact isAlphanum_ascii (P := fun c => c.isDigit = true → c.toLower = c) (by decide) halpha hc

namespace IsSlugWord

theorem isSlugChar (hw : IsSlugWord w) : ∀ c ∈ w, IsSlugChar c := by
  rcases hw.letters_or_digits with h | h
  · exact fun c hc => isSlugChar_of_isLower (h c hc)
  · exact fun c hc => isSlugChar_of_isDigit (h c hc)

/-- No upper case letter and no digit behind a letter begins another word. -/
theorem isWord (hw : IsSlugWord w) : IsWord w := by
  refine ⟨hw.ne_nil, fun c hc => (hw.isSlugChar c hc).isAlphanumeric, fun k hk => ?_⟩
  obtain ⟨a, b, ha, hb, hbegins⟩ := hk
  have ha := List.mem_of_getElem? ha
  have hb := List.mem_of_getElem? hb
  have hupper := (hw.isSlugChar b hb).not_isUppercase
  have hdigit : isDigit a = isDigit b := by
    rw [isDigit_ascii (hw.isSlugChar a ha).toNat_lt, isDigit_ascii (hw.isSlugChar b hb).toNat_lt]
    rcases hw.letters_or_digits with h | h
    · have hletter (c : Char) (hc : c.isLower = true) : c.isDigit = false :=
        forall_ascii (P := fun c => c.isLower = true → c.isDigit = false) (by decide)
          (isSlugChar_of_isLower hc).toNat_lt hc
      rw [hletter a (h a ha), hletter b (h b hb)]
    · rw [h a ha, h b hb]
  rcases hbegins with h | ⟨-, h⟩ | ⟨-, h, -⟩
  · exact h hdigit
  · cases h.symm.trans hupper
  · cases h.symm.trans hupper

end IsSlugWord

/-- In ASCII, a word in lower case consists of letters or of digits. -/
theorem isSlugWord_lower (ht : ∀ c ∈ t, c.toNat < 128) (hw : w ∈ words t) :
    IsSlugWord (lower w) := by
  have hascii : ∀ c ∈ w, c.toNat < 128 := fun c hc => ht c (mem_of_mem_words hw hc).1
  rw [lower_ascii hascii]
  refine ⟨fun hnil => (isWord_of_mem_words hw).ne_nil (List.map_eq_nil_iff.1 hnil), ?_⟩
  rcases digits_or_none (isChain_of_mem_words t w hw) with h | h
  · refine .inr (List.forall_mem_map.2 fun c hc => ?_)
    have hdigit : c.isDigit = true := (isDigit_ascii (hascii c hc)).symm.trans (h c hc)
    rwa [(isSlugChar_of_isDigit hdigit).toLower_eq]
  · refine .inl (List.forall_mem_map.2 fun c hc => ?_)
    have hletter : c.isAlphanum = true ∧ c.isDigit = false :=
      ⟨(isAlphanumeric_ascii (hascii c hc)).symm.trans (mem_of_mem_words hw hc).2,
        (isDigit_ascii (hascii c hc)).symm.trans (h c hc)⟩
    exact forall_ascii
      (P := fun c => c.isAlphanum = true ∧ c.isDigit = false → c.toLower.isLower = true)
      (by decide) (hascii c hc) hletter

theorem isSlugWord_of_mem_slugWords : ∀ w ∈ slugWords t false, IsSlugWord w := by
  rw [slugWords, if_neg Bool.false_ne_true]
  exact List.forall_mem_map.2 fun w hw => isSlugWord_lower toNat_lt_of_mem_asciiOnly hw

/-! ## Slugs of slugs -/

/-- The characters are signs of ASCII, neither letters nor digits. -/
def IsSign (s : Text) : Prop := ∀ c ∈ s, c.toNat < 128 ∧ c.isAlphanum = false

theorem IsSign.not_isAlphanumeric (hs : IsSign s) : ∀ c ∈ s, isAlphanumeric c = false :=
  fun c hc => (isAlphanumeric_ascii (hs c hc).1).trans (hs c hc).2

theorem mem_join (h : c ∈ join s ws) : c ∈ s ∨ ∃ w ∈ ws, c ∈ w := by
  induction ws with
  | nil => cases h
  | cons w ws ih =>
    cases ws with
    | nil => exact .inr ⟨w, List.mem_cons_self, h⟩
    | cons v ws =>
      have hjoin : join s (w :: v :: ws) = w ++ s ++ join s (v :: ws) := rfl
      rw [hjoin, List.mem_append, List.mem_append] at h
      rcases h with (h | h) | h
      · exact .inr ⟨w, List.mem_cons_self, h⟩
      · exact .inl h
      · exact (ih h).imp id fun ⟨u, hu, hc⟩ => ⟨u, List.mem_cons_of_mem _ hu, hc⟩

theorem toLower_of_mem_join (hs : IsSign s) (hws : ∀ w ∈ ws, IsSlugWord w) :
    ∀ c ∈ join s ws, c.toNat < 128 ∧ c.toLower = c := by
  intro c hc
  rcases mem_join hc with hc | ⟨w, hw, hc⟩
  · have hsign := hs c hc
    refine ⟨hsign.1, ?_⟩
    exact forall_ascii (P := fun c => c.isAlphanum = false → c.toLower = c) (by decide) hsign.1
      hsign.2
  · exact ⟨((hws w hw).isSlugChar c hc).toNat_lt, ((hws w hw).isSlugChar c hc).toLower_eq⟩

/-- **The words of a slug, joined by signs, are their own slug.**  Without signs between them they
    may be cut anew, but hold the same letters and digits. -/
theorem slug_join (hs : IsSign s) (hws : ∀ w ∈ ws, IsSlugWord w) :
    slug (join s ws) s false = join s ws := by
  have hjoin := toLower_of_mem_join hs hws
  have hlower : (words (join s ws)).map lower = words (join s ws) :=
    map_lower_words fun c hc => by rw [lowerOf_ascii (hjoin c hc).1, (hjoin c hc).2]
  rw [slug, slugWords_ascii fun c hc => (hjoin c hc).1, hlower]
  rcases eq_or_ne s [] with rfl | hne
  · rw [join_nil, join_nil, flatten_words]
    refine List.filter_eq_self.2 fun c hc => ?_
    obtain ⟨w, hw, hc⟩ := List.mem_flatten.1 hc
    exact ((hws w hw).isSlugChar c hc).isAlphanumeric
  · have hwords : ws.flatMap words = ws := by
      rw [List.flatMap_congr fun w hw => words_eq_singleton_iff.2 (hws w hw).isWord]
      exact List.flatMap_singleton' ws
    rw [words_join hne hs.not_isAlphanumeric, hwords]

/-! ## The ends of a slug -/

theorem exists_prefix_join (hne : ws ≠ []) : ∃ w ∈ ws, w <+: join s ws := by
  obtain ⟨w, ws, rfl⟩ := List.exists_cons_of_ne_nil hne
  refine ⟨w, List.mem_cons_self, ?_⟩
  cases ws with
  | nil => exact List.prefix_refl w
  | cons v ws => exact ⟨s ++ join s (v :: ws), (List.append_assoc _ _ _).symm⟩

theorem exists_suffix_join (hne : ws ≠ []) : ∃ w ∈ ws, w <:+ join s ws := by
  induction ws with
  | nil => exact absurd rfl hne
  | cons w ws ih =>
    cases ws with
    | nil => exact ⟨w, List.mem_cons_self, List.suffix_refl w⟩
    | cons v ws =>
      obtain ⟨u, hu, hsuffix⟩ := ih (List.cons_ne_nil v ws)
      exact ⟨u, List.mem_cons_of_mem _ hu, hsuffix.trans (List.suffix_append _ _)⟩

/-- A text of signs and a word have no character in common. -/
theorem not_subset_of_isSign (hs : IsSign s) (hne : s ≠ []) (hw : IsSlugWord w) :
    ¬s ⊆ w ∧ ¬w ⊆ s := by
  have hdisjoint : ∀ c ∈ s, c ∉ w := fun c hc hcw => by
    cases ((hw.isSlugChar c hcw).isAlphanumeric).symm.trans (hs.not_isAlphanumeric c hc)
  constructor
  · intro h
    obtain ⟨c, s, rfl⟩ := List.exists_cons_of_ne_nil hne
    exact hdisjoint c List.mem_cons_self (h List.mem_cons_self)
  · intro h
    obtain ⟨c, w, rfl⟩ := List.exists_cons_of_ne_nil hw.ne_nil
    exact hdisjoint c (h List.mem_cons_self) List.mem_cons_self

theorem not_prefix_join (hs : IsSign s) (hne : s ≠ []) (hws : ∀ w ∈ ws, IsSlugWord w) :
    ¬s <+: join s ws := by
  intro h
  rcases eq_or_ne ws [] with rfl | hnil
  · exact hne (List.prefix_nil.1 h)
  · obtain ⟨w, hw, hprefix⟩ := exists_prefix_join (s := s) hnil
    obtain ⟨hsw, hws⟩ := not_subset_of_isSign hs hne (hws w hw)
    rcases List.prefix_or_prefix_of_prefix h hprefix with h | h
    · exact hsw h.subset
    · exact hws h.subset

theorem not_suffix_join (hs : IsSign s) (hne : s ≠ []) (hws : ∀ w ∈ ws, IsSlugWord w) :
    ¬s <:+ join s ws := by
  intro h
  rcases eq_or_ne ws [] with rfl | hnil
  · exact hne (List.suffix_nil.1 h)
  · obtain ⟨w, hw, hsuffix⟩ := exists_suffix_join (s := s) hnil
    obtain ⟨hsw, hws⟩ := not_subset_of_isSign hs hne (hws w hw)
    rcases List.suffix_or_suffix_of_suffix h hsuffix with h | h
    · exact hsw h.subset
    · exact hws h.subset

end Text

namespace Catalogue

open Text (IsSign IsSlugWord)

variable {v : Value}

/-- The values that a slug is made of: the members of a sequence, the keys of a table, or the value
    itself. -/
def slugParts : Value → List Value
  | .list items | .tuple items | .iterator items => items
  | .dict entries => entries.map Prod.fst
  | v => [v]

theorem refusedIff_joined (items : List Value) :
    RefusedIff (∃ u ∈ items, u.HoldsOverlong) (slugSource.joined items) :=
  (RefusedIff.mapM fun u _ => u.refusedIff_display).map fun _ => rfl

theorem refusedIff_slugSource (v : Value) :
    RefusedIff (∃ u ∈ slugParts v, u.HoldsOverlong) (slugSource v) := by
  cases v with
  | list items | tuple items | iterator items => exact refusedIff_joined items
  | dict entries => exact refusedIff_joined _
  | _ => exact (Value.refusedIff_toText _).congr (by simp [slugParts])

/-- A slug in ASCII, with the given text between its words. -/
def slugged (v : Value) (s : Text) : Except Fault Value :=
  (call "slugify".toList [v] [("separator".toList, .text s),
    ("allow_unicode".toList, .bool false)]).result

theorem slugged_eq (v : Value) (s : Text) :
    slugged v s = slugSource v >>= fun t => .ok (.text (t.slug s false)) := (rfl)

theorem refusedIff_slugged (v : Value) (s : Text) :
    RefusedIff (∃ u ∈ slugParts v, u.HoldsOverlong) (slugged v s) := by
  rw [slugged_eq]
  exact (refusedIff_slugSource v).map fun _ => rfl

/-- **A value has a slug unless an integer in it is too long to be written.**  The slug consists of
    words of letters `a` to `z` or of digits, with the separator between them and at neither end,
    and is its own slug. -/
theorem slugify_stable (v : Value) (s : Text) (hs : IsSign s) :
    RefusedIff (∃ u ∈ slugParts v, u.HoldsOverlong) (slugged v s) ∧
      ((∀ u ∈ slugParts v, ¬u.HoldsOverlong) → ∃ ws : List Text,
        slugged v s = .ok (.text (Text.join s ws)) ∧ (∀ w ∈ ws, IsSlugWord w) ∧
          (s ≠ [] → ¬s <+: Text.join s ws ∧ ¬s <:+ Text.join s ws) ∧
            slugged (.text (Text.join s ws)) s = slugged v s) := by
  refine ⟨refusedIff_slugged v s, fun hv => ?_⟩
  obtain ⟨t, ht⟩ := (refusedIff_slugSource v).exists_ok (by simpa using hv)
  have hslug : slugged v s = .ok (.text (t.slug s false)) := by
    rw [slugged_eq, ht, ok_bind]
  have hws : ∀ w ∈ t.slugWords false, IsSlugWord w := Text.isSlugWord_of_mem_slugWords
  refine ⟨t.slugWords false, hslug, hws, fun hne =>
    ⟨Text.not_prefix_join hs hne hws, Text.not_suffix_join hs hne hws⟩, ?_⟩
  have hagain : slugged (.text (Text.join s (t.slugWords false))) s =
      .ok (.text (Text.slug (Text.join s (t.slugWords false)) s false)) := by
    rw [slugged_eq]
    rfl
  rw [hslug, hagain, Text.slug_join hs hws]
  rfl

/-- A list of a name with a mark and of a number. -/
theorem slugify_stable_list :
    slugged (.list [.text "Ça va".toList, .int 7]) ['-'] = .ok (.text "ca-va-7".toList) ∧
      slugged (.text "ca-va-7".toList) ['-'] = .ok (.text "ca-va-7".toList) := by
  have hslug : slugged (.list [.text "Ça va".toList, .int 7]) ['-'] =
      .ok (.text "ca-va-7".toList) := by
    have htext : Text.slug "Ça va 7".toList ['-'] false = "ca-va-7".toList := by decide +kernel
    have hsource : slugSource (.list [.text "Ça va".toList, .int 7]) = .ok "Ça va 7".toList := by
      decide +kernel
    rw [slugged_eq, hsource, ok_bind, htext]
  have hshort : ∀ u ∈ slugParts (.list [.text "Ça va".toList, .int 7]), ¬u.HoldsOverlong := by
    have htext := (Value.refusedIff_display (.text "Ça va".toList)).not_of_ok rfl
    have hint := (Value.refusedIff_display (.int 7)).not_of_ok rfl
    simpa [slugParts] using ⟨htext, hint⟩
  have hsign : IsSign ['-'] := List.forall_mem_singleton.2 (by decide)
  obtain ⟨ws, hws, -, -, hagain⟩ :=
    (slugify_stable (.list [.text "Ça va".toList, .int 7]) ['-'] hsign).2 hshort
  have hjoin : Text.join ['-'] ws = "ca-va-7".toList := by simpa using hws.symm.trans hslug
  rw [hjoin] at hagain
  exact ⟨hslug, hagain.trans hslug⟩

/-- An integer of 4301 digits has no slug. -/
theorem slugify_overlong : slugged (.int (10 ^ Numeral.maxDigits)) ['-'] = .error .numeral := by
  have hlong : ¬Numeral.IsShort (10 ^ Numeral.maxDigits) := fun h =>
    absurd (Numeral.isShort_iff.1 h) (by simp)
  have hsource : slugSource (.int (10 ^ Numeral.maxDigits)) = .error .numeral :=
    (Value.refusedIff_toText _ _).2 ⟨rfl, .own hlong⟩
  rw [slugged_eq, hsource, error_bind]

end Catalogue

end Textwork
