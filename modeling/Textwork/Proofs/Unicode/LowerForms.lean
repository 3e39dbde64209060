/-
  Forms of characters in lower case and in upper case, read off the tables.

  * `not_contains_of_apart` and `mem_missing_or_contains` compare two tables by
    going through both of them once, row by row instead of number by number;
  * `lowerOf_of_isLowercase`, `upperOf_of_isUppercase`: letters of one case are
    their own forms in that case;
  * `lowerOf_cases`: every character is its own lower case form, or its form is
    a lower case letter, `İ` apart.
-/
import Mathlib.Data.List.Sort
import Textwork.Proofs.Unicode.Ascii

namespace Textwork.Unicode

variable {p : Nat × Nat × Nat} {ps qs : Progressions} {n m first last step : Nat}

/-! ## Progressions -/

/-- The number is a member of the progression. -/
def Lies (p : Nat × Nat × Nat) (n : Nat) : Prop :=
  p.1 ≤ n ∧ n ≤ p.2.1 ∧ (n - p.1) % p.2.2 = 0

/-- A search meets the first row that holds the number, if no row before it begins behind it. -/
theorem Progressions.contains_cons :
    Progressions.contains (p :: ps) n = true ↔ p.1 ≤ n ∧ (Lies p n ∨ ps.contains n = true) := by
  obtain ⟨first, last, step⟩ := p
  rw [Progressions.contains, Lies]
  split_ifs with hlt hin
  · simp [Nat.not_le.2 hlt]
  · simp only [Bool.and_eq_true, decide_eq_true_eq, beq_iff_eq] at hin
    simp [Nat.le_of_not_lt hlt, hin]
  · simp only [Bool.and_eq_true, decide_eq_true_eq, beq_iff_eq] at hin
    simp [Nat.le_of_not_lt hlt, hin]

theorem Progressions.exists_of_contains (h : ps.contains n = true) : ∃ p ∈ ps, Lies p n := by
  induction ps with
  | nil => cases h
  | cons p ps ih =>
    obtain ⟨-, hlies | hrest⟩ := Progressions.contains_cons.1 h
    · exact ⟨p, List.mem_cons_self, hlies⟩
    · obtain ⟨q, hq, hlies⟩ := ih hrest
      exact ⟨q, List.mem_cons_of_mem _ hq, hlies⟩

/-- The rows of a table are in the order of their first numbers. -/
def InOrder (ps : Progressions) : Prop := (ps.map Prod.fst).IsChain (· ≤ ·)

instance (ps : Progressions) : Decidable (InOrder ps) :=
  inferInstanceAs (Decidable ((ps.map Prod.fst).IsChain (· ≤ ·)))

theorem Progressions.contains_of_lies (horder : InOrder ps) (hp : p ∈ ps) (h : Lies p n) :
    ps.contains n = true := by
  induction ps with
  | nil => cases hp
  | cons q ps ih =>
    obtain ⟨hq, hps⟩ := List.pairwise_cons.1 (List.isChain_iff_pairwise.1 horder)
    rw [Progressions.contains_cons]
    rcases List.mem_cons.1 hp with rfl | hp
    · exact ⟨h.1, .inl h⟩
    · exact ⟨Nat.le_trans (hq _ (List.mem_map_of_mem hp)) h.1,
        .inr (ih (List.isChain_iff_pairwise.2 hps) hp)⟩

/-! ## Tables apart from each other -/

/-- All members are odd or all are even. -/
def keepsParity (p : Nat × Nat × Nat) : Bool := p.2.2 % 2 == 0 || p.1 == p.2.1

theorem mod_two_of_keepsParity (hp : keepsParity p = true) (h : Lies p n) : n % 2 = p.1 % 2 := by
  obtain ⟨hfirst, hlast, hstep⟩ := h
  rcases Bool.or_eq_true_iff.1 hp with heven | hone
  · have hdvd : 2 ∣ n - p.1 :=
      Nat.dvd_trans (Nat.dvd_of_mod_eq_zero (beq_iff_eq.1 heven)) (Nat.dvd_of_mod_eq_zero hstep)
    omega
  · have := beq_iff_eq.1 hone
    omega

/-- One progression ends before the other begins, or one holds odd numbers and the other even
    ones. -/
def rowsApart (p q : Nat × Nat × Nat) : Bool :=
  Nat.blt p.2.1 q.1 || Nat.blt q.2.1 p.1 ||
    (keepsParity p && keepsParity q && (p.1 + q.1) % 2 == 1)

theorem not_lies_of_rowsApart {q : Nat × Nat × Nat} (h : rowsApart p q = true) (hp : Lies p n) :
    ¬Lies q n := by
  intro hq
  simp only [rowsApart, Bool.or_eq_true, Bool.and_eq_true, Nat.blt_eq, beq_iff_eq] at h
  rcases h with (h | h) | ⟨⟨hpp, hqp⟩, h⟩
  · have := hp.2.1
    have := hq.1
    omega
  · have := hp.1
    have := hq.2.1
    omega
  · have := mod_two_of_keepsParity hpp hp
    have := mod_two_of_keepsParity hqp hq
    omega

/-- The rows of a table from the first one on that does not end before `first`. -/
def rowsFrom (first : Nat) (qs : Progressions) : Progressions :=
  qs.dropWhile fun q => Nat.blt q.2.1 first

theorem contains_rowsFrom (hfirst : first ≤ n) (h : qs.contains n = true) :
    (rowsFrom first qs).contains n = true := by
  induction qs with
  | nil => cases h
  | cons q qs ih =>
    rw [rowsFrom, List.dropWhile_cons]
    split_ifs with hbefore
    · obtain ⟨-, hlies | hrest⟩ := Progressions.contains_cons.1 h
      · have := hlies.2.1
        rw [Nat.blt_eq] at hbefore
        omega
      · exact ih hrest
    · exact h

/-- The rows of a table that overlap a progression, the ones before it being dropped. -/
def overlapping (p : Nat × Nat × Nat) (qs : Progressions) : Progressions :=
  (rowsFrom p.1 qs).takeWhile fun q => Nat.ble q.1 p.2.1

theorem exists_of_contains_of_le (hlast : n ≤ last) (h : qs.contains n = true) :
    ∃ q ∈ qs.takeWhile fun q => Nat.ble q.1 last, Lies q n := by
  induction qs with
  | nil => cases h
  | cons q qs ih =>
    obtain ⟨hfirst, hin⟩ := Progressions.contains_cons.1 h
    have hle : Nat.ble q.1 last = true := by
      rw [Nat.ble_eq]
      exact Nat.le_trans hfirst hlast
    rw [List.takeWhile_cons, if_pos hle]
    rcases hin with hlies | hrest
    · exact ⟨q, List.mem_cons_self, hlies⟩
    · obtain ⟨r, hr, hlies⟩ := ih hrest
      exact ⟨r, List.mem_cons_of_mem _ hr, hlies⟩

/-- The two tables have no number in common.  Both are gone through in order, so that each row is
    compared with the few that overlap it. -/
def apart : Progressions → Progressions → Bool
  | [], _ => true
  | p :: ps, qs =>
    (overlapping p qs).all (rowsApart p) && apart ps (rowsFrom p.1 qs)

theorem not_contains_of_apart (h : apart ps qs = true) (hn : ps.contains n = true) :
    qs.contains n = false := by
  rw [← Bool.not_eq_true]
  induction ps generalizing qs with
  | nil => cases hn
  | cons p ps ih =>
    intro hqs
    obtain ⟨hrow, hrest⟩ := Bool.and_eq_true_iff.1 h
    obtain ⟨hfirst, hin⟩ := Progressions.contains_cons.1 hn
    -- The rows dropped end before this row begins, and all that is found in it or behind it.
    have hfrom := contains_rowsFrom hfirst hqs
    rcases hin with hlies | hps
    · obtain ⟨q, hq, hlies'⟩ := exists_of_contains_of_le hlies.2.1 hfrom
      exact not_lies_of_rowsApart (List.all_eq_true.1 hrow q hq) hlies hlies'
    · exact ih hrest hps hfrom

/-! ## Tables within each other -/

/-- All members of the first progression are members of the second. -/
def within (p q : Nat × Nat × Nat) : Bool :=
  Nat.ble q.1 p.1 && Nat.ble p.2.1 q.2.1 && (p.1 - q.1) % q.2.2 == 0 &&
    (p.1 == p.2.1 || p.2.2 % q.2.2 == 0)

theorem lies_of_within {q : Nat × Nat × Nat} (h : within p q = true) (hp : Lies p n) :
    Lies q n := by
  simp only [within, Bool.or_eq_true, Bool.and_eq_true, Nat.ble_eq, beq_iff_eq] at h
  obtain ⟨⟨⟨hfirst, hlast⟩, hstart⟩, hstep⟩ := h
  obtain ⟨hpfirst, hplast, hpstep⟩ := hp
  refine ⟨by omega, by omega, ?_⟩
  have hsplit : n - q.1 = (p.1 - q.1) + (n - p.1) := by omega
  refine Nat.mod_eq_zero_of_dvd ?_
  rw [hsplit]
  refine Nat.dvd_add (Nat.dvd_of_mod_eq_zero hstart) ?_
  rcases hstep with hone | hstep
  · have : n - p.1 = 0 := by omega
    simp [this]
  · exact Nat.dvd_trans (Nat.dvd_of_mod_eq_zero hstep) (Nat.dvd_of_mod_eq_zero hpstep)

/-- The rows of a table that no row of the other one holds.  Both are gone through in order. -/
def uncovered : Progressions → Progressions → Progressions
  | [], _ => []
  | p :: ps, qs =>
    bif (overlapping p qs).any (within p) then uncovered ps (rowsFrom p.1 qs)
    else p :: uncovered ps (rowsFrom p.1 qs)

theorem mem_uncovered_or (qs : Progressions) (h : p ∈ ps) :
    p ∈ uncovered ps qs ∨ ∃ q ∈ qs, within p q = true := by
  induction ps generalizing qs with
  | nil => cases h
  | cons r ps ih =>
    have hsub : rowsFrom r.1 qs ⊆ qs := (List.dropWhile_sublist _).subset
    have hlater (hp : p ∈ ps) :
        p ∈ uncovered ps (rowsFrom r.1 qs) ∨ ∃ q ∈ qs, within p q = true :=
      (ih _ hp).imp_right fun ⟨q, hq, hwithin⟩ => ⟨q, hsub hq, hwithin⟩
    rw [uncovered]
    cases hany : (overlapping r qs).any (within r) with
    | true =>
      rcases List.mem_cons.1 h with rfl | hp
      · obtain ⟨q, hq, hwithin⟩ := List.any_eq_true.1 hany
        exact .inr ⟨q, hsub ((List.takeWhile_sublist _).subset hq), hwithin⟩
      · exact hlater hp
    | false =>
      rcases List.mem_cons.1 h with rfl | hp
      · exact .inl List.mem_cons_self
      · exact (hlater hp).imp_left (List.mem_cons_of_mem _)

/-- The members of a progression. -/
def members (p : Nat × Nat × Nat) : List Nat :=
  (List.range ((p.2.1 - p.1) / p.2.2 + 1)).map fun k => p.1 + p.2.2 * k

theorem mem_members (h : Lies p n) : n ∈ members p := by
  obtain ⟨hfirst, hlast, hstep⟩ := h
  have hle : (n - p.1) / p.2.2 ≤ (p.2.1 - p.1) / p.2.2 := Nat.div_le_div_right (by omega)
  have hmul : p.2.2 * ((n - p.1) / p.2.2) = n - p.1 :=
    Nat.mul_div_cancel' (Nat.dvd_of_mod_eq_zero hstep)
  exact List.mem_map.2 ⟨_, List.mem_range.2 (Nat.lt_succ_of_le hle), by omega⟩

/-- A number, as a progression. -/
def single (n : Nat) : Nat × Nat × Nat := (n, n, 1)

theorem lies_single : Lies (single n) m ↔ m = n := by
  simp only [Lies, single, Nat.mod_one, and_true]
  omega

/-- The numbers of a table that no row of the other one holds. -/
def missing (ps qs : Progressions) : Progressions :=
  (uncovered ps qs).flatMap fun p => uncovered ((members p).map single) qs

theorem mem_missing_or_contains (horder : InOrder qs) (hp : p ∈ ps) (hn : Lies p n) :
    single n ∈ missing ps qs ∨ qs.contains n = true := by
  have hheld {r : Nat × Nat × Nat} (hr : Lies r n) :
      (∃ q ∈ qs, within r q = true) → qs.contains n = true := fun ⟨q, hq, hwithin⟩ =>
    Progressions.contains_of_lies horder hq (lies_of_within hwithin hr)
  rcases mem_uncovered_or qs hp with hp | hin
  · rcases mem_uncovered_or qs (List.mem_map_of_mem (mem_members hn)) with hsingle | hin
    · exact .inl (List.mem_flatMap.2 ⟨p, hp, hsingle⟩)
    · exact .inr (hheld (lies_single.2 rfl) hin)
  · exact .inr (hheld hn hin)

/-! ## Other tables as progressions -/

/-- The rows of a table of ranges, as progressions. -/
def Ranges.rows (r : Ranges) : Progressions := r.map fun (first, last) => (first, last, 1)

theorem Ranges.contains_rows (r : Ranges) (n : Nat) : r.rows.contains n = r.contains n := by
  induction r with
  | nil => rfl
  | cons row rest ih =>
    obtain ⟨first, last⟩ := row
    have hrows : Ranges.rows ((first, last) :: rest) = (first, last, 1) :: Ranges.rows rest := rfl
    simp [hrows, Progressions.contains, Ranges.contains, ih, Nat.mod_one]

/-- The decimal digits from the given zeros on, as progressions. -/
def tens (zeros : List Nat) : Progressions := zeros.map fun z => (z, z + 9, 1)

theorem contains_tens (n : Nat) (zeros : List Nat) :
    (tens zeros).contains n = (decimalValueFrom? n zeros).isSome := by
  induction zeros with
  | nil => rfl
  | cons z zeros ih =>
    have htens : tens (z :: zeros) = (z, z + 9, 1) :: tens zeros := rfl
    have hle : n ≤ z + 9 ↔ n < z + 10 := by omega
    simp only [htens, Progressions.contains, decimalValueFrom?, ih, hle, Nat.mod_one]
    split_ifs <;> simp_all

/-- The code points that a mapping moves. -/
def Shifts.sources (shifts : Shifts) : Progressions :=
  shifts.map fun (first, last, step, _) => (first, last, step)

theorem Shifts.contains_sources (shifts : Shifts) (n : Nat) :
    shifts.sources.contains n = (shifts.image? n).isSome := by
  induction shifts with
  | nil => rfl
  | cons row rest ih =>
    obtain ⟨first, last, step, image⟩ := row
    have hsources : Shifts.sources ((first, last, step, image) :: rest) =
        (first, last, step) :: Shifts.sources rest := rfl
    rw [hsources, Progressions.contains, Shifts.image?, ih]
    split_ifs <;> rfl

/-- The code points that a row of a mapping moves. -/
def source (row : Nat × Nat × Nat × Nat) : Nat × Nat × Nat := (row.1, row.2.1, row.2.2.1)

/-- The code points that they are moved to. -/
def image (row : Nat × Nat × Nat × Nat) : Nat × Nat × Nat :=
  (row.2.2.2, row.2.2.2 + (row.2.1 - row.1), row.2.2.1)

/-- What the rows of a mapping are moved to, in order. -/
def Shifts.images (shifts : Shifts) : Progressions :=
  (shifts.map image).insertionSort fun p q => p.1 ≤ q.1

/-- Where a row moves a code point of it. -/
def moved (row : Nat × Nat × Nat × Nat) (n : Nat) : Nat := row.2.2.2 + (n - row.1)

theorem lies_image {row : Nat × Nat × Nat × Nat} (h : Lies (source row) n) :
    Lies (image row) (moved row n) := by
  obtain ⟨-, hlast, hstep⟩ := h
  have hmove : moved row n - row.2.2.2 = n - row.1 := Nat.add_sub_cancel_left _ _
  refine ⟨Nat.le_add_right _ _, Nat.add_le_add_left (Nat.sub_le_sub_right hlast _) _, ?_⟩
  change (moved row n - row.2.2.2) % row.2.2.1 = 0
  rw [hmove]
  exact hstep

/-- An image is read off one row of the mapping. -/
theorem Shifts.exists_row {shifts : Shifts} (h : shifts.image? n = some m) :
    ∃ row ∈ shifts, Lies (source row) n ∧ m = moved row n := by
  induction shifts with
  | nil => cases h
  | cons row rest ih =>
    obtain ⟨first, last, step, start⟩ := row
    rw [Shifts.image?] at h
    split_ifs at h with hlt hin
    · simp only [Bool.and_eq_true, decide_eq_true_eq, beq_iff_eq] at hin
      exact ⟨_, List.mem_cons_self, ⟨Nat.le_of_not_lt hlt, hin.1, hin.2⟩, (Option.some.inj h).symm⟩
    · obtain ⟨row, hrow, hrest⟩ := ih h
      exact ⟨row, List.mem_cons_of_mem _ hrow, hrest⟩

theorem Shifts.exists_of_image? {shifts : Shifts} (h : shifts.image? n = some m) :
    ∃ row ∈ shifts, Lies (source row) n ∧ Lies (image row) m := by
  obtain ⟨row, hrow, hlies, rfl⟩ := Shifts.exists_row h
  exact ⟨row, hrow, hlies, lies_image hlies⟩

theorem Shifts.image_mem_images {shifts : Shifts} {row : Nat × Nat × Nat × Nat}
    (h : row ∈ shifts) : image row ∈ shifts.images :=
  (List.mem_insertionSort _).2 (List.mem_map_of_mem h)

/-! ## Lower case letters -/

variable {c : Char}

/-- The digits of decimal numbers, and the others. -/
def digitTables : List Progressions := [tens decimalZeros, otherDigits.rows]

/-- Letters of one case are no letters of the other case, are not moved to their own case, and are no
    digits; letters that are moved to lower case are no digits either. -/
theorem apart_tables :
    (∀ qs ∈ uppercases :: lowerShifts.sources :: digitTables, apart lowercases qs = true) ∧
    (∀ qs ∈ digitTables, apart lowerShifts.sources qs = true) ∧
    apart uppercases upperShifts.sources = true := by
  decide +kernel

theorem not_isUppercase_of_isLowercase (h : isLowercase c = true) : isUppercase c = false :=
  not_contains_of_apart (apart_tables.1 uppercases (.head _)) h

theorem not_isDigit_of_apart {table : Progressions}
    (hapart : ∀ qs ∈ digitTables, apart table qs = true) (h : table.contains c.toNat = true) :
    isDigit c = false := by
  have htens := not_contains_of_apart (hapart (tens decimalZeros) (.head _)) h
  have hrows := not_contains_of_apart (hapart otherDigits.rows (.tail _ (.head _))) h
  rw [contains_tens] at htens
  rw [Ranges.contains_rows] at hrows
  exact Bool.or_eq_false_iff.2 ⟨htens, hrows⟩

theorem not_isDigit_of_isLowercase (h : isLowercase c = true) : isDigit c = false :=
  not_isDigit_of_apart (fun qs hqs => apart_tables.1 qs (.tail _ (.tail _ hqs))) h

theorem not_isDigit_of_image? (h : lowerShifts.image? c.toNat = some m) : isDigit c = false := by
  refine not_isDigit_of_apart apart_tables.2.1 ?_
  rw [Shifts.contains_sources, h]
  rfl

theorem eq_dotted_of_image? {ns : List Nat} (h : lowerExpansions.image? c.toNat = some ns) :
    c = 'İ' := by
  have hdotted : (c.toNat, ns) ∈ lowerExpansions := Expansions.mem_of_image? h
  obtain ⟨hc, -⟩ := Prod.mk.inj (List.mem_singleton.1 hdotted)
  rw [← Char.ofNat_toNat c, hc]

/-- A mapping leaves the characters that neither of its tables holds. -/
theorem mapCase_of_apart {table : Progressions} {shifts : Shifts} {expansions : Expansions}
    (hshifts : apart table shifts.sources = true)
    (hexpansions : ∀ row ∈ expansions, table.contains row.1 = false)
    (h : table.contains c.toNat = true) : mapCase expansions shifts c = [c] := by
  have hsources := not_contains_of_apart hshifts h
  rw [Shifts.contains_sources, Option.isSome_eq_false_iff, Option.isNone_iff_eq_none] at hsources
  cases hexpansion : expansions.image? c.toNat with
  | some ns =>
    have hrow := hexpansions _ (Expansions.mem_of_image? hexpansion)
    cases h.symm.trans hrow
  | none => simp [mapCase, hsources, hexpansion]

/-- Letters of one case have no longer form in that case. -/
theorem apart_expansions :
    (∀ row ∈ lowerExpansions, lowercases.contains row.1 = false) ∧
    ∀ row ∈ upperExpansions, uppercases.contains row.1 = false := by
  decide +kernel

/-- **A lower case letter is its own lower case form.** -/
theorem lowerOf_of_isLowercase (h : isLowercase c = true) : lowerOf c = [c] :=
  mapCase_of_apart (apart_tables.1 lowerShifts.sources (.tail _ (.head _))) apart_expansions.1 h

/-- **An upper case letter is its own upper case form.** -/
theorem upperOf_of_isUppercase (h : isUppercase c = true) : upperOf c = [c] :=
  mapCase_of_apart apart_tables.2.2 apart_expansions.2 h

/-! ## Letters that are moved -/

theorem inOrder_tables :
    ∀ ps ∈ [lowercases, letters.rows, nonLetterNumerics.rows], InOrder ps := by
  decide +kernel

theorem lowercases_of_image? (h : lowerShifts.image? n = some m) :
    lowercases.contains m = true := by
  have horder : InOrder lowercases := inOrder_tables lowercases (.head _)
  have hnone : missing lowerShifts.images lowercases = [] := by decide +kernel
  obtain ⟨row, hrow, -, hm⟩ := Shifts.exists_of_image? h
  have hcases := mem_missing_or_contains horder (Shifts.image_mem_images hrow) hm
  rw [hnone] at hcases
  exact hcases.resolve_left List.not_mem_nil

/-- A letter or a character with a numeric value, by its code point. -/
def isAlphanumericPoint (n : Nat) : Bool := letters.contains n || nonLetterNumerics.contains n

/-- The circled letters, which are no letters. -/
def circled : Nat × Nat × Nat × Nat := (0x24B6, 0x24CF, 1, 0x24D0)

/-- A letter or a number is moved to a letter or a number. -/
theorem isAlphanumeric_of_image? (hn : isAlphanumericPoint n = true)
    (h : lowerShifts.image? n = some m) : isAlphanumericPoint m = true := by
  have hletters : InOrder letters.rows := inOrder_tables letters.rows (.tail _ (.head _))
  have hnumerics : InOrder nonLetterNumerics.rows :=
    inOrder_tables nonLetterNumerics.rows (.tail _ (.tail _ (.head _)))
  have hnone : missing (missing (Shifts.images (lowerShifts.filter (· != circled))) letters.rows)
      nonLetterNumerics.rows = [] := by decide +kernel
  have hcircled : ∀ n ∈ members (source circled), isAlphanumericPoint n = false := by
    decide +kernel
  obtain ⟨row, hrow, hsource, himage⟩ := Shifts.exists_of_image? h
  by_cases hcirc : row = circled
  · subst hcirc
    cases hn.symm.trans (hcircled n (mem_members hsource))
  · have hrow : row ∈ lowerShifts.filter (· != circled) := List.mem_filter.2 ⟨hrow, by simpa⟩
    have hcases := mem_missing_or_contains hletters (Shifts.image_mem_images hrow) himage
    rw [Ranges.contains_rows] at hcases
    rw [isAlphanumericPoint, Bool.or_eq_true]
    refine hcases.symm.imp id fun hmissing => ?_
    have hcases := mem_missing_or_contains hnumerics hmissing (lies_single.2 rfl)
    rw [Ranges.contains_rows, hnone] at hcases
    exact hcases.resolve_left List.not_mem_nil

theorem toNat_ofNat_of_image? (h : lowerShifts.image? n = some m) :
    (Char.ofNat m).toNat = m := by
  have hvalid : ∀ row ∈ lowercases, row.2.1 < 0xD800 ∨ 0xDFFF < row.1 ∧ row.2.1 < 0x110000 := by
    decide +kernel
  obtain ⟨row, hrow, hfirst, hlast, -⟩ :=
    Progressions.exists_of_contains (lowercases_of_image? h)
  have hm : m.isValidChar := by
    rcases hvalid row hrow with hlow | ⟨hhigh, hbound⟩
    · exact .inl (Nat.lt_of_le_of_lt hlast hlow)
    · exact .inr ⟨Nat.lt_of_lt_of_le hhigh hfirst, Nat.lt_of_le_of_lt hlast hbound⟩
  rw [Char.ofNat, dif_pos hm]
  rfl

/-- **A character is its own lower case form, or this form is one lower case letter**, `İ` apart. -/
theorem lowerOf_cases (c : Char) :
    lowerOf c = [c] ∨ c = 'İ' ∨ ∃ d, lowerOf c = [d] ∧ isLowercase d = true ∧
      isDigit c = false ∧ (isAlphanumeric c = true → isAlphanumeric d = true) := by
  cases hshift : lowerShifts.image? c.toNat with
  | some m =>
    have hpoint := toNat_ofNat_of_image? hshift
    have hlower : isLowercase (Char.ofNat m) = true := by
      rw [isLowercase, hpoint]
      exact lowercases_of_image? hshift
    have hletter (hc : isAlphanumericPoint c.toNat = true) :
        isAlphanumericPoint (Char.ofNat m).toNat = true := by
      rw [hpoint]
      exact isAlphanumeric_of_image? hc hshift
    exact .inr (.inr ⟨_, by simp [lowerOf, mapCase, hshift], hlower,
      not_isDigit_of_image? hshift, hletter⟩)
  | none =>
    cases hexpansion : lowerExpansions.image? c.toNat with
    | some ns => exact .inr (.inl (eq_dotted_of_image? hexpansion))
    | none => exact .inl (by simp [lowerOf, mapCase, hshift, hexpansion])

theorem lowerOf_dotted : lowerOf 'İ' = ['i', '\u0307'] := by decide +kernel

end Textwork.Unicode
