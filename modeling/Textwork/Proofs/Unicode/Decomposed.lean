/-
  Decompositions that cannot be decomposed further, and what is left of them without marks.

  * `bits` is a set of numbers as the bits of one number, so that two large sets are compared
    by one operation: `notMem_of_land_bits`;
  * `decomposeChar_of_mem`: a character of a decomposition is its own decomposition;
  * `starters_reorder`: the characters that are no marks keep their order while marks are
    sorted.
-/
import Textwork.Proofs.Unicode.LowerForms
import Textwork.Unicode.Normalization

namespace Textwork.Unicode

variable {c d m : Char} {k n : Nat} {ks ns : List Nat} {marks t : Text}

/-! ## Sets of numbers as bits -/

/-- The number whose bits at the places in a list are set. -/
def bits (ns : List Nat) : Nat := ns.foldr (fun n b => 1 <<< n ||| b) 0

theorem testBit_bits : (bits ns).testBit n = true ↔ n ∈ ns := by
  induction ns with
  | nil => simp [bits]
  | cons k ns ih =>
    have hbits : bits (k :: ns) = 2 ^ k ||| bits ns := by
      rw [← Nat.one_shiftLeft]
      rfl
    rw [hbits, Nat.testBit_or, Bool.or_eq_true, ih, Nat.testBit_two_pow, decide_eq_true_eq,
      List.mem_cons, eq_comm]

theorem notMem_of_land_bits (h : bits ks &&& bits ns = 0) (hn : n ∈ ks) : n ∉ ns := by
  intro hn'
  have hbit := Nat.testBit_and (bits ks) (bits ns) n
  rw [h, testBit_bits.2 hn, testBit_bits.2 hn', Nat.zero_testBit] at hbit
  cases hbit

/-! ## The tables of decompositions -/

/-- The tables of decompositions into one character. -/
def imageTables : List (List (Nat × Nat)) :=
  [alphabetImages, ideographImages, presentationImages, symbolImages, supplementImages]

/-- The tables of decompositions into several characters. -/
def expansionTables : List Expansions :=
  [alphabetExpansions, extendedExpansions, squareExpansions, presentationExpansions]

/-- The code points of a row of a mapping, each with what it is moved to. -/
def shifted (row : Nat × Nat × Nat × Nat) : Expansions :=
  (members (source row)).map fun n => (n, [moved row n])

/-- All decompositions, the Hangul syllables apart. -/
def decompositions : List Expansions :=
  compatibilityShifts.flatMap shifted ::
    (imageTables.map (·.map fun row => (row.1, [row.2])) ++ expansionTables)

/-- The code points that are decomposed. -/
def points (table : Expansions) : List Nat := table.map Prod.fst

/-- The code points that the decompositions are made of. -/
def parts (table : Expansions) : List Nat := table.flatMap Prod.snd

theorem imagesNear_mem (n : Nat) : imagesNear n ∈ imageTables := by
  unfold imagesNear
  split_ifs <;> simp [imageTables]

theorem expansionsNear_mem (n : Nat) : expansionsNear n ∈ expansionTables := by
  unfold expansionsNear
  split_ifs <;> simp [expansionTables]

theorem mem_of_imageIn? {rows : List (Nat × Nat)} (h : imageIn? n rows = some k) :
    (n, k) ∈ rows := by
  induction rows with
  | nil => cases h
  | cons row rest ih =>
    obtain ⟨point, value⟩ := row
    rw [imageIn?] at h
    split_ifs at h with hlt heq
    · obtain rfl := Option.some.inj h
      rw [heq]
      exact List.mem_cons_self
    · exact List.mem_cons_of_mem _ (ih h)

/-- A decomposition is read off one of the tables. -/
theorem exists_table (h : compatibilityDecomposition? n = some ns) :
    ∃ table ∈ decompositions, (n, ns) ∈ table := by
  unfold compatibilityDecomposition? at h
  split at h
  · next k hk =>
    obtain rfl := Option.some.inj h
    obtain ⟨row, hrow, hlies, rfl⟩ := Shifts.exists_row hk
    have hshifted : (n, [moved row n]) ∈ shifted row :=
      List.mem_map.2 ⟨n, mem_members hlies, rfl⟩
    exact ⟨_, List.mem_cons_self, List.mem_flatMap.2 ⟨row, hrow, hshifted⟩⟩
  · split at h
    · next k hk =>
      obtain rfl := Option.some.inj h
      have htable := List.mem_map_of_mem
        (f := fun rows => rows.map fun row => (row.1, [row.2])) (imagesNear_mem n)
      exact ⟨_, List.mem_cons_of_mem _ (List.mem_append_left _ htable),
        List.mem_map.2 ⟨(n, k), mem_of_imageIn? hk, rfl⟩⟩
    · exact ⟨_, List.mem_cons_of_mem _ (List.mem_append_right _ (expansionsNear_mem n)),
        Expansions.mem_of_image? h⟩

theorem exists_points (h : compatibilityDecomposition? n = some ns) :
    ∃ table ∈ decompositions, n ∈ points table := by
  obtain ⟨table, htable, hrow⟩ := exists_table h
  exact ⟨table, htable, List.mem_map_of_mem hrow⟩

theorem exists_parts (h : compatibilityDecomposition? n = some ns) (hk : k ∈ ns) :
    ∃ table ∈ decompositions, k ∈ parts table := by
  obtain ⟨table, htable, hrow⟩ := exists_table h
  exact ⟨table, htable, List.mem_flatMap.2 ⟨_, hrow, hk⟩⟩

/-! ## Decompositions of decompositions -/

/-- Neither a syllable of Hangul nor a code point of the tables. -/
def IsUndecomposed (n : Nat) : Prop :=
  hangulLetters? n = none ∧ compatibilityDecomposition? n = none

theorem hangulLetters?_eq_none (h : n < hangulBase ∨ hangulBase + 11172 ≤ n) :
    hangulLetters? n = none := by
  rw [hangulLetters?, if_neg (by omega)]

/-- Code points that the tables do not hold are not decomposed by them. -/
theorem compatibilityDecomposition?_eq_none
    (h : ∀ table ∈ decompositions, bits ks &&& bits (points table) = 0) (hk : k ∈ ks) :
    compatibilityDecomposition? k = none := by
  cases hdecomposition : compatibilityDecomposition? k with
  | none => rfl
  | some ns =>
    obtain ⟨table, htable, hpoint⟩ := exists_points hdecomposition
    exact absurd hpoint (notMem_of_land_bits (h table htable) hk)

theorem isUndecomposed_of_parts (h : compatibilityDecomposition? n = some ns) (hk : k ∈ ns) :
    IsUndecomposed k := by
  have hsyllables : ∀ s ∈ decompositions, (parts s).all fun k =>
      Nat.blt k hangulBase || Nat.ble (hangulBase + 11172) k := by decide +kernel
  have hapart : ∀ s ∈ decompositions, ∀ t ∈ decompositions,
      bits (parts s) &&& bits (points t) = 0 := by decide +kernel
  obtain ⟨table, htable, hpart⟩ := exists_parts h hk
  have houtside := List.all_eq_true.1 (hsyllables table htable) k hpart
  rw [Bool.or_eq_true, Nat.blt_eq, Nat.ble_eq] at houtside
  exact ⟨hangulLetters?_eq_none houtside,
    compatibilityDecomposition?_eq_none (hapart table htable) hpart⟩

/-- The letters that syllables of Hangul are made of, and others of their block. -/
def conjoiningLetters : List Nat := List.range' 0x1100 0x100

theorem mem_conjoiningLetters (h : hangulLetters? n = some ns) (hk : k ∈ ns) :
    k ∈ conjoiningLetters := by
  unfold hangulLetters? at h
  split_ifs at h with hn
  obtain rfl := Option.some.inj h
  rw [conjoiningLetters, List.mem_range'_1]
  split_ifs at hk <;> simp only [List.mem_cons, List.not_mem_nil, or_false] at hk <;> omega

theorem isUndecomposed_of_conjoining (hk : k ∈ conjoiningLetters) : IsUndecomposed k := by
  have hapart : ∀ t ∈ decompositions, bits conjoiningLetters &&& bits (points t) = 0 := by
    decide +kernel
  refine ⟨hangulLetters?_eq_none (.inl ?_), compatibilityDecomposition?_eq_none hapart hk⟩
  have hlast := (List.mem_range'_1.1 hk).2
  have hbase : hangulBase = 0xAC00 := rfl
  omega

theorem decomposeChar_eq_self (h : IsUndecomposed c.toNat) : decomposeChar c = [c] := by
  simp [decomposeChar, h.1, h.2]

/-- Every number stands for a character; those that are no code point stand for the first one. -/
theorem decomposeChar_ofNat (h : IsUndecomposed k) :
    decomposeChar (Char.ofNat k) = [Char.ofNat k] := by
  by_cases hvalid : k.isValidChar
  · have hpoint : (Char.ofNat k).toNat = k := by
      rw [Char.ofNat, dif_pos hvalid]
      rfl
    exact decomposeChar_eq_self (by rwa [hpoint])
  · rw [Char.ofNat, dif_neg hvalid]
    decide +kernel

/-- **A character of a decomposition is its own decomposition.** -/
theorem decomposeChar_of_mem (h : d ∈ decomposeChar c) : decomposeChar d = [d] := by
  unfold decomposeChar at h
  dsimp only at h
  split at h
  · next ns hns =>
    obtain ⟨k, hk, rfl⟩ := List.mem_map.1 h
    exact decomposeChar_ofNat (isUndecomposed_of_conjoining (mem_conjoiningLetters hns hk))
  · next hhangul =>
    split at h
    · next ns hns =>
      obtain ⟨k, hk, rfl⟩ := List.mem_map.1 h
      exact decomposeChar_ofNat (isUndecomposed_of_parts hns hk)
    · next hnone =>
      obtain rfl := List.mem_singleton.1 h
      exact decomposeChar_eq_self ⟨hhangul, hnone⟩

theorem decompose_eq_self (h : ∀ c ∈ t, decomposeChar c = [c]) : decompose t = t := by
  rw [decompose, List.flatMap_congr h]
  exact List.flatMap_singleton' t

/-! ## Characters between marks -/

/-- The characters of combining class zero. -/
def starters (t : Text) : Text := t.filter fun c => combiningClass c == 0

theorem mem_starters : c ∈ starters t ↔ c ∈ t ∧ combiningClass c = 0 := by simp [starters]

theorem starters_append (t u : Text) : starters (t ++ u) = starters t ++ starters u :=
  List.filter_append ..

theorem starters_cons (c : Char) (t : Text) : starters (c :: t) = starters [c] ++ starters t :=
  starters_append [c] t

theorem starters_mark (hm : combiningClass m ≠ 0) : starters [m] = [] := by simp [starters, hm]

theorem starters_insertMark (hm : combiningClass m ≠ 0) (marks : Text) :
    starters (insertMark m marks) = starters marks := by
  induction marks with
  | nil => exact starters_mark hm
  | cons x rest ih =>
    rw [insertMark]
    split_ifs
    · rw [starters_cons, ih, ← starters_cons]
    · rw [starters_cons, starters_mark hm, List.nil_append]

theorem starters_reorderFrom (marks t : Text) :
    starters (reorderFrom marks t) = starters marks ++ starters t := by
  induction t generalizing marks with
  | nil => exact (List.append_nil _).symm
  | cons c t ih =>
    rw [reorderFrom, starters_cons c t]
    split_ifs with hc
    · rw [starters_append, starters_cons, ih]
      rfl
    · rw [ih, starters_insertMark hc, starters_mark hc, List.nil_append]

/-- **Characters between marks keep their order** while the marks are sorted. -/
theorem starters_reorder (t : Text) : starters (reorder t) = starters t :=
  starters_reorderFrom [] t

end Textwork.Unicode
