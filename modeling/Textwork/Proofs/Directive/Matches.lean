/-
  The signs and directives that the scan of a text finds.

  * `IsMatch` says what stands at the place of a match: two percent signs, or
    the longest directive of the grammar;
  * `exists_mem_locate`, `notMem_gaps`: the matches take up every percent sign;
  * `directives_longest`: the matches of a text are of that kind and stand in
    order, and one without a letter never becomes text.
-/
import Textwork.Proofs.Directive.Formatted
import Textwork.Proofs.Directive.Grammar

namespace Textwork.Template

open Directive

/-! ## Following the scan -/

/-- Induction along the scan of a text. -/
@[elab_as_elim]
theorem scan_induction {P : Text → Prop} (nil : P [])
    (percent : ∀ after, P after → P ('%' :: '%' :: after))
    (directive : ∀ rest, rest.head? ≠ some '%' → P (read rest).2 → P ('%' :: rest))
    (plain : ∀ c rest, c ≠ '%' → P (rest.dropWhile (· != '%')) → P (c :: rest)) (t : Text) :
    P t := by
  induction t using scan.induct with
  | case1 => exact nil
  | case2 after ih => exact percent after ih
  | case3 rest hne _ ih =>
    refine directive rest (fun h => ?_) ih
    cases rest with
    | nil => cases h
    | cons c after =>
      obtain rfl : c = '%' := by simpa using h
      exact hne after rfl
  | case4 c rest h _ ih => exact plain c rest h ih

/-- Behind what is written at a position. -/
theorem drop_add_of_append {t p q : Text} {i : Nat} (h : t.drop i = p ++ q) :
    t.drop (i + p.length) = q := by
  rw [← List.drop_drop, h, List.drop_left]

theorem drop_plain {t rest : Text} {i : Nat} {c : Char} (h : t.drop i = c :: rest) :
    t.drop (i + (c :: rest.takeWhile (· != '%')).length) = rest.dropWhile (· != '%') :=
  drop_add_of_append (by rw [h, List.cons_append, List.takeWhile_append_dropWhile])

theorem notMem_plain {c : Char} (rest : Text) (h : c ≠ '%') :
    '%' ∉ c :: rest.takeWhile (· != '%') := by
  intro hmem
  rcases List.mem_cons.1 hmem with rfl | hmem
  · exact h rfl
  · simpa using List.mem_takeWhile_imp hmem

theorem drop_directive {t rest : Text} {i : Nat} (h : t.drop i = '%' :: rest) :
    t.drop (i + (read rest).1.written.length) = (read rest).2 :=
  drop_add_of_append (by rw [h, written, List.cons_append, written_read])

/-! ## What is found -/

/-- What the scan finds at the start of a text. -/
inductive FoundAt : Text → Option Directive → Prop
  | percent (after : Text) : FoundAt ('%' :: '%' :: after) none
  | directive {rest : Text} : rest.head? ≠ some '%' → FoundAt ('%' :: rest) (some (read rest).1)

/-- The matches found from position `i` on are found at their places. -/
theorem foundAt_of_mem_locate (rest t : Text) : ∀ i, t.drop i = rest →
    ∀ m ∈ locate i (scan rest),
      FoundAt (t.drop m.start) m.directive ∧ m.stop = m.start + m.written.length := by
  induction rest using scan_induction with
  | nil => intro i _ m hm; simp [scan, locate] at hm
  | percent after ih =>
    intro i hi m hm
    rw [scan_percent, locate, List.mem_cons] at hm
    rcases hm with rfl | hm
    · exact ⟨hi ▸ .percent after, rfl⟩
    · exact ih (i + 2) (drop_add_of_append (p := ['%', '%']) hi) m hm
  | directive rest h ih =>
    intro i hi m hm
    rw [scan_directive h, locate, List.mem_cons] at hm
    rcases hm with rfl | hm
    · exact ⟨hi ▸ .directive h, rfl⟩
    · exact ih _ (drop_directive hi) m hm
  | plain c rest h ih =>
    intro i hi m hm
    rw [scan_plain rest h, locate] at hm
    exact ih _ (drop_plain hi) m hm

/-- What a match of the grammar is at the start of a text: two percent signs, or the longest
    directive at a percent sign that no other one follows. -/
inductive IsMatch : Text → Option Directive → Prop
  | percent (after : Text) : IsMatch ('%' :: '%' :: after) none
  | longest {t : Text} {d : Directive} : t[1]? ≠ some '%' → d.WellFormed → d.ZeroFills →
      d.written <+: t →
      (∀ d' : Directive, d'.WellFormed → d'.written <+: t → d'.written.length ≤ d.written.length) →
      IsMatch t (some d)

theorem FoundAt.isMatch {t : Text} {o : Option Directive} (h : FoundAt t o) : IsMatch t o := by
  cases h with
  | percent after => exact .percent after
  | @directive rest h =>
    have hread := written_read rest
    have hprefix : (read rest).1.written <+: '%' :: rest :=
      ⟨(read rest).2, by simp [written, hread]⟩
    refine .longest ?_ (wellFormed_read rest) (zeroFills_read rest) hprefix fun d' hd' hle => ?_
    · cases rest with
      | nil => simp
      | cons c rest => simpa using h
    · obtain ⟨q, hq⟩ := hle
      obtain rfl : d'.tail ++ q = rest := by simpa [written] using hq
      have hrest := length_rest_read_le hd' q
      have hlength := congrArg List.length hread
      simp only [List.length_append] at hlength
      simp only [written, List.length_cons]
      omega

theorem FoundAt.written_prefix {t : Text} {m : Found} (h : FoundAt t m.directive) :
    m.written <+: t := by
  unfold Found.written
  generalize m.directive = o at h
  cases h with
  | percent after => exact ⟨after, rfl⟩
  | @directive rest h => exact ⟨(read rest).2, by simp [written, written_read]⟩

/-- A directive is found without a letter only where the grammar allows none with a letter. -/
theorem FoundAt.conversion_eq_none_iff {t : Text} {d : Directive} (h : FoundAt t (some d)) :
    d.conversion = none ↔
      ∀ d' : Directive, d'.WellFormed → d'.written <+: t → d'.conversion = none := by
  obtain ⟨rest, rfl, rfl⟩ : ∃ rest, t = '%' :: rest ∧ d = (read rest).1 := by
    cases h with
    | directive h => exact ⟨_, rfl, rfl⟩
  constructor
  · rintro hnone d' hd' ⟨q, hq⟩
    obtain rfl : d'.tail ++ q = rest := by simpa [written] using hq
    by_contra hk
    exact hk ((conversion_read hd' hk q).symm.trans hnone)
  · intro hall
    exact hall _ (wellFormed_read rest) ⟨(read rest).2, by simp [written, written_read]⟩

/-- A match in a text: where it stands, and that the grammar has it there. -/
structure Found.IsIn (m : Found) (t : Text) : Prop where
  start_lt : m.start < m.stop
  stop_le : m.stop ≤ t.length
  opens : t[m.start]? = some '%'
  between : t.between m.start m.stop = m.written
  isMatch : IsMatch (t.drop m.start) m.directive

theorem isIn_of_foundAt {m : Found} {t : Text} (h : FoundAt (t.drop m.start) m.directive)
    (hstop : m.stop = m.start + m.written.length) : m.IsIn t := by
  have hprefix := h.written_prefix
  have hpercent : m.written.head? = some '%' := by
    unfold Found.written
    cases m.directive <;> rfl
  have hpos : 0 < m.written.length := by
    cases hw : m.written with
    | nil => simp [hw] at hpercent
    | cons c w => simp
  have hle := hprefix.length_le
  rw [List.length_drop] at hle
  refine ⟨by omega, by omega, ?_, ?_, h.isMatch⟩
  · obtain ⟨q, hq⟩ := hprefix
    have hhead := congrArg List.head? hq
    rw [List.head?_append, hpercent, List.head?_drop] at hhead
    exact hhead.symm
  · rw [Text.between, hstop, List.drop_take, Nat.add_sub_cancel_left]
    exact (List.prefix_iff_eq_take.1 hprefix).symm

/-! ## Order and coverage -/

/-- A percent sign from position `i` on lies in a match. -/
theorem exists_mem_locate (rest t : Text) : ∀ i, t.drop i = rest →
    ∀ j, i ≤ j → t[j]? = some '%' → ∃ m ∈ locate i (scan rest), m.start ≤ j ∧ j < m.stop := by
  induction rest using scan_induction with
  | nil =>
    intro i hi j hij hj
    have hlt := (List.getElem?_eq_some_iff.1 hj).1
    have := List.drop_eq_nil_iff.1 hi
    omega
  | percent after ih =>
    intro i hi j hij hj
    rw [scan_percent, locate]
    by_cases hlt : j < i + 2
    · exact ⟨_, List.mem_cons_self, hij, hlt⟩
    · obtain ⟨m, hm, hle⟩ := ih (i + 2) (drop_add_of_append (p := ['%', '%']) hi) j (by omega) hj
      exact ⟨m, List.mem_cons_of_mem _ hm, hle⟩
  | directive rest h ih =>
    intro i hi j hij hj
    rw [scan_directive h, locate]
    by_cases hlt : j < i + (read rest).1.written.length
    · exact ⟨_, List.mem_cons_self, hij, hlt⟩
    · obtain ⟨m, hm, hle⟩ := ih _ (drop_directive hi) j (by omega) hj
      exact ⟨m, List.mem_cons_of_mem _ hm, hle⟩
  | plain c rest h ih =>
    intro i hi j hij hj
    rw [scan_plain rest h, locate]
    refine ih _ (drop_plain hi) j ?_ hj
    -- The sign is not among the plain characters.
    by_contra hlt
    have hsplit : t.drop i = (c :: rest.takeWhile (· != '%')) ++ rest.dropWhile (· != '%') := by
      rw [hi, List.cons_append, List.takeWhile_append_dropWhile]
    have hget : (t.drop i)[j - i]? = some '%' := by
      rw [List.getElem?_drop, Nat.add_sub_cancel' hij, hj]
    rw [hsplit, List.getElem?_append_left (by omega)] at hget
    exact notMem_plain rest h (List.mem_of_getElem? hget)

/-- The matches follow one another. -/
theorem pairwise_locate (segs : List Segment) :
    ∀ i, (locate i segs).Pairwise fun a b => a.stop ≤ b.start := by
  induction segs with
  | nil => intro i; exact .nil
  | cons seg rest ih =>
    intro i
    cases seg with
    | plain t => exact ih _
    | percent | directive d =>
      exact List.pairwise_cons.2 ⟨fun m hm => le_start_of_mem_locate rest hm, ih _⟩

theorem notMem_plainStretches (segs : List Segment) (h : ∀ u, .plain u ∈ segs → '%' ∉ u) :
    ∀ g ∈ plainStretches segs, '%' ∉ g := by
  induction segs with
  | nil => simp [plainStretches]
  | cons seg rest ih =>
    have hrest := ih fun u hu => h u (List.mem_cons_of_mem _ hu)
    cases seg with
    | plain u =>
      have hu := h u List.mem_cons_self
      rw [plainStretches]
      cases hs : plainStretches rest with
      | nil => exact absurd hs (plainStretches_ne_nil rest)
      | cons g gs =>
        rw [hs] at hrest
        intro g' hg'
        rcases List.mem_cons.1 hg' with rfl | hg'
        · simpa using ⟨hu, hrest g List.mem_cons_self⟩
        · exact hrest g' (List.mem_cons_of_mem _ hg')
    | percent | directive d =>
      intro g hg
      rcases List.mem_cons.1 hg with rfl | hg
      · simp
      · exact hrest g hg

theorem notMem_plain_scan (t : Text) : ∀ u, .plain u ∈ scan t → '%' ∉ u := by
  induction t using scan_induction with
  | nil => simp [scan]
  | percent after ih => simpa [scan_percent] using ih
  | directive rest h ih => simpa [scan_directive h] using ih
  | plain c rest h ih =>
    intro u hu
    rw [scan_plain rest h] at hu
    rcases List.mem_cons.1 hu with heq | hu
    · obtain rfl := Segment.plain.inj heq
      exact notMem_plain rest h
    · exact ih u hu

theorem notMem_gaps (t : Text) : ∀ g ∈ gaps t, '%' ∉ g := by
  rw [gaps_eq]
  exact notMem_plainStretches _ (notMem_plain_scan t)

/-! ## Directives without a letter -/

variable {d : Defaults} {arguments : List Value} {dir : Directive}

theorem exists_outcome_eq_error (hk : dir.conversion = none) (index : Int) :
    ∃ e, outcome d arguments index dir = .error e := by
  unfold outcome
  cases dir.specification? with
  | error e => exact ⟨e, rfl⟩
  | ok spec =>
    cases dir.position? with
    | error e => exact ⟨e, rfl⟩
    | ok position => exact ⟨.noTypeLetter, by rw [hk]; rfl⟩

/-- A directive without a letter never becomes text. -/
theorem exists_formatted_eq_error {t : Text} {m : Found} (hm : m ∈ directives t)
    (hd : dir ∈ m.directive) (hk : dir.conversion = none) :
    ∃ e, formatted d t arguments = .error e := by
  obtain ⟨i, hi⟩ := List.mem_iff_getElem?.1 hm
  have hat : ∃ e, outcomeAt d arguments (directives t) m i = .error e := by
    rw [outcomeAt, Option.mem_def.1 hd]
    exact exists_outcome_eq_error hk _
  obtain ⟨e, he⟩ := hat
  have hmem : (m, i) ∈ (directives t).zipIdx := List.mem_zipIdx_iff_getElem?.2 hi
  obtain ⟨e', he'⟩ :=
    exists_mapM_eq_error (f := fun p => outcomeAt d arguments (directives t) p.1 p.2) hmem he
  exact ⟨e', formatted_eq_error_iff.2 he'⟩

/-- **The scan finds the longest directives.**  Its matches stand in order and take up every percent
    sign; each is two percent signs or the longest directive of the grammar at its place.  One
    without a letter stands where the grammar allows none with a letter, and is refused. -/
theorem directives_longest (t : Text) :
    (directives t).Pairwise (fun a b => a.stop ≤ b.start) ∧
      (∀ g ∈ gaps t, '%' ∉ g) ∧
      (∀ i, t[i]? = some '%' → ∃ m ∈ directives t, m.start ≤ i ∧ i < m.stop) ∧
      (∀ m ∈ directives t, m.IsIn t) ∧
      (∀ m ∈ directives t, ∀ dir ∈ m.directive,
        (dir.conversion = none ↔
          ∀ d' : Directive, d'.WellFormed → d'.written <+: t.drop m.start → d'.conversion = none) ∧
        (dir.conversion = none → ∀ d arguments, ∃ e, formatted d t arguments = .error e)) := by
  have hfound := foundAt_of_mem_locate t t 0 rfl
  refine ⟨pairwise_locate _ _, notMem_gaps t, fun i hi => ?_, fun m hm => ?_,
    fun m hm dir hd => ⟨?_, fun hk d arguments => ?_⟩⟩
  · exact exists_mem_locate t t 0 rfl i (Nat.zero_le i) hi
  · exact isIn_of_foundAt (hfound m hm).1 (hfound m hm).2
  · exact (Option.mem_def.1 hd ▸ (hfound m hm).1).conversion_eq_none_iff
  · exact exists_formatted_eq_error hm hd hk

end Textwork.Template
