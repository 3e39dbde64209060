/-
  Which directives are refused, and with which fault.

  * `IsFaulty` lists the three objections to a directive, `Refused` puts them in
    order: `check_eq_error_iff`, `exists_refused_iff`;
  * `outcomeAt_eq_error`: a match has the fault of a template only if it is
    refused;
  * `exists_outcomeAt_iff`: it comes to a text if there is no objection to it and
    its argument has a rendering.
-/
import Textwork.Proofs.Directive.Faults
import Textwork.Proofs.Directive.Outcome

namespace Textwork.Directive

open Template

/-! ## Directives with readable numbers -/

/-- The numbers of a directive, as they are written. -/
def numbers (dir : Directive) : List Text :=
  dir.position.toList ++ dir.width.toList ++ dir.precision.toList

/-- No number of the directive is too long to be read. -/
def IsReadable (dir : Directive) : Prop := ∀ ds ∈ dir.numbers, ds.length ≤ Numeral.maxDigits

instance (dir : Directive) : Decidable dir.IsReadable :=
  inferInstanceAs (Decidable (∀ ds ∈ dir.numbers, ds.length ≤ Numeral.maxDigits))

/-- What a directive asks for, its numbers having any length. -/
def specification (dir : Directive) : Specification where
  percent := ['%']
  sign := if dir.plus then some ['+'] else none
  padding := dir.fill.map Fill.written
  alignment := if dir.minus then some ['-'] else none
  width := dir.width.map Numeral.value
  precision := dir.precision.map Numeral.value
  conversion := dir.conversion

variable {dir : Directive}

theorem position?_of_isReadable (h : dir.IsReadable) :
    dir.position? = .ok (dir.position.map Numeral.value) :=
  number?_eq_ok_iff.2 ⟨fun ds hds => h ds (by simp_all [numbers]), rfl⟩

theorem specification?_of_isReadable (h : dir.IsReadable) :
    dir.specification? = .ok dir.specification := by
  have hw : number? dir.width = .ok (dir.width.map Numeral.value) :=
    number?_eq_ok_iff.2 ⟨fun ds hds => h ds (by simp_all [numbers]), rfl⟩
  have hp : number? dir.precision = .ok (dir.precision.map Numeral.value) :=
    number?_eq_ok_iff.2 ⟨fun ds hds => h ds (by simp_all [numbers]), rfl⟩
  rw [specification?, hw, hp]
  rfl

theorem outcome_of_isReadable (h : dir.IsReadable) (d : Defaults) (arguments : List Value)
    (index : Int) :
    outcome d arguments index dir =
      check index arguments.length dir.conversion >>= fun _ =>
        (compute d dir.specification (argumentAt arguments index)).result := by
  rw [outcome, specification?_of_isReadable h, position?_of_isReadable h]
  rfl

theorem failsOnly_number? (n : Option Text) : FailsOnly (· = .numeral) (number? n) := by
  cases n with
  | none => exact .ok _
  | some ds => exact (failsOnly_read? ds).map some

theorem failsOnly_specification? (dir : Directive) :
    FailsOnly (· = .numeral) dir.specification? :=
  (failsOnly_number? _).bind fun _ => (failsOnly_number? _).bind fun _ => .ok _

theorem isReadable_of_ok {spec : Specification} {position : Option Nat}
    (hs : dir.specification? = .ok spec) (hp : dir.position? = .ok position) :
    dir.IsReadable := by
  obtain ⟨width, hwidth, hs⟩ := bind_eq_ok_iff.1 hs
  obtain ⟨precision, hprecision, -⟩ := bind_eq_ok_iff.1 hs
  intro ds hds
  simp only [numbers, List.mem_append, Option.mem_toList] at hds
  rcases hds with (hds | hds) | hds
  · exact (number?_eq_ok_iff.1 hp).1 ds hds
  · exact (number?_eq_ok_iff.1 hwidth).1 ds hds
  · exact (number?_eq_ok_iff.1 hprecision).1 ds hds

/-- A number that is too long decides the outcome, whichever it is. -/
theorem outcome_of_not_isReadable (d : Defaults) (arguments : List Value) (index : Int)
    (h : ¬dir.IsReadable) : outcome d arguments index dir = .error .numeral := by
  unfold outcome
  cases hs : dir.specification? with
  | error e =>
    rw [failsOnly_specification? dir e hs]
    rfl
  | ok spec =>
    cases hp : dir.position? with
    | error e =>
      rw [failsOnly_number? _ e hp]
      rfl
    | ok position => exact absurd (isReadable_of_ok hs hp) h

/-! ## Objections -/

variable {count before : Nat} {index : Int} {e : Fault}

/-- There is an objection to the directive, `index` being the one that it resolves to. -/
def IsFaulty (count : Nat) (index : Int) (dir : Directive) : Prop :=
  dir.conversion = none ∨ count ≤ index ∨ dir.position.map Numeral.value = some 0

instance (count : Nat) (index : Int) (dir : Directive) : Decidable (dir.IsFaulty count index) :=
  inferInstanceAs (Decidable (_ ∨ _ ∨ _))

/-- The directive is refused with a fault: a missing letter comes first, then an index past the last
    argument, then the position zero. -/
inductive Refused (count : Nat) (index : Int) (dir : Directive) : Fault → Prop
  | noLetter : dir.conversion = none → Refused count index dir .noTypeLetter
  | pastLast {k} : dir.conversion = some k → count ≤ index →
      Refused count index dir .tooFewArguments
  | zero {k} : dir.conversion = some k → index < count →
      dir.position.map Numeral.value = some 0 → Refused count index dir .positionZero

theorem exists_refused_iff : (∃ e, Refused count index dir e) ↔ dir.IsFaulty count index := by
  constructor
  · rintro ⟨e, h⟩
    cases h with
    | noLetter h => exact .inl h
    | pastLast _ h => exact .inr (.inl h)
    | zero _ _ h => exact .inr (.inr h)
  · intro h
    cases hk : dir.conversion with
    | none => exact ⟨_, .noLetter hk⟩
    | some k =>
      by_cases hi : count ≤ index
      · exact ⟨_, .pastLast hk hi⟩
      · rcases h with h | h | h
        · cases hk.symm.trans h
        · exact absurd h hi
        · exact ⟨_, .zero hk (by omega) h⟩

theorem Refused.isTemplateFault (h : Refused count index dir e) : e.isTemplateFault := by
  cases h <;> rfl

/-- Only the position zero gives a negative index. -/
theorem argumentIndex_neg_iff :
    argumentIndex dir before < 0 ↔ dir.position.map Numeral.value = some 0 := by
  unfold argumentIndex
  cases dir.position with
  | none => simp
  | some ds =>
    simp only [Option.map_some, Option.some.injEq]
    omega

/-- The check of a directive refuses it as `Refused` says. -/
theorem check_eq_error_iff :
    check (argumentIndex dir before) count dir.conversion = .error e ↔
      Refused count (argumentIndex dir before) dir e := by
  unfold check
  constructor
  · intro h
    cases hk : dir.conversion with
    | none =>
      rw [hk] at h
      cases h
      exact .noLetter hk
    | some k =>
      simp only [hk] at h
      split_ifs at h with hc hn
      · cases h
        exact .pastLast hk hc
      · cases h
        exact .zero hk (by omega) (argumentIndex_neg_iff.1 hn)
  · intro h
    cases h with
    | noLetter hk => rw [hk]
    | pastLast hk hc => simp only [hk, if_pos hc]
    | zero hk hc hz =>
      simp only [hk, if_neg (Int.not_le.2 hc), if_pos (argumentIndex_neg_iff.2 hz)]

theorem check_of_not_refused (h : ∀ e, ¬Refused count (argumentIndex dir before) dir e) :
    ∃ k, check (argumentIndex dir before) count dir.conversion = .ok k := by
  cases hc : check (argumentIndex dir before) count dir.conversion with
  | error e => exact absurd (check_eq_error_iff.1 hc) (h e)
  | ok k => exact ⟨k, rfl⟩

/-! ## Matches -/

variable {d : Defaults} {arguments : List Value} {ms : List Found} {m : Found} {i : Nat}

/-- No number in the matches is too long to be read. -/
def AllReadable (ms : List Found) : Prop := ∀ m ∈ ms, ∀ dir ∈ m.directive, dir.IsReadable

instance (ms : List Found) : Decidable (AllReadable ms) :=
  inferInstanceAs (Decidable (∀ m ∈ ms, ∀ dir ∈ m.directive, dir.IsReadable))

/-- There is an objection to the match `i`; a literal percent sign has none. -/
def FaultyAt (ms : List Found) (count i : Nat) : Prop :=
  ∃ m ∈ ms[i]?, ∃ dir ∈ m.directive,
    dir.IsFaulty count (argumentIndex dir (sequentialBefore ms i))

instance (ms : List Found) (count i : Nat) : Decidable (FaultyAt ms count i) :=
  inferInstanceAs (Decidable (∃ m ∈ ms[i]?, ∃ dir ∈ m.directive,
    dir.IsFaulty count (argumentIndex dir (sequentialBefore ms i))))

/-- The match `i` is refused with a fault. -/
def RefusedAt (ms : List Found) (count i : Nat) (e : Fault) : Prop :=
  ∃ m ∈ ms[i]?, ∃ dir ∈ m.directive,
    Refused count (argumentIndex dir (sequentialBefore ms i)) dir e

/-- The text that the match `i` stands for, whether it is refused or not. -/
def rendering (d : Defaults) (arguments : List Value) (ms : List Found) (m : Found) (i : Nat) :
    Except Fault Text :=
  match m.directive with
  | none => .ok ['%']
  | some dir =>
    (compute d dir.specification
      (argumentAt arguments (argumentIndex dir (sequentialBefore ms i)))).result

/-- The texts that all matches stand for, in order. -/
def renderings (d : Defaults) (arguments : List Value) (ms : List Found) :
    Except Fault (List Text) :=
  ms.zipIdx.mapM fun (m, i) => rendering d arguments ms m i

/-- The match `i` has a rendering. -/
def RendersAt (d : Defaults) (arguments : List Value) (ms : List Found) (i : Nat) : Prop :=
  ∃ m ∈ ms[i]?, ∃ r, rendering d arguments ms m i = .ok r

theorem exists_refusedAt_iff : (∃ e, RefusedAt ms count i e) ↔ FaultyAt ms count i := by
  constructor
  · rintro ⟨e, m, hm, dir, hd, h⟩
    exact ⟨m, hm, dir, hd, exists_refused_iff.1 ⟨e, h⟩⟩
  · rintro ⟨m, hm, dir, hd, h⟩
    obtain ⟨e, he⟩ := exists_refused_iff.2 h
    exact ⟨e, m, hm, dir, hd, he⟩

theorem FaultyAt.lt_length (h : FaultyAt ms count i) : i < ms.length := by
  obtain ⟨m, hm, -⟩ := h
  exact (List.getElem?_eq_some_iff.1 hm).1

theorem outcomeAt_of_refusedAt (hn : AllReadable ms) (hm : ms[i]? = some m)
    (h : RefusedAt ms arguments.length i e) : outcomeAt d arguments ms m i = .error e := by
  obtain ⟨m', hm', dir, hd, h⟩ := h
  obtain rfl : m' = m := Option.some.inj (hm'.symm.trans hm)
  have hread := hn m' (List.mem_of_getElem? hm) dir hd
  rw [outcomeAt, hd]
  simp only [outcome_of_isReadable hread, check_eq_error_iff.2 h, error_bind]

theorem outcomeAt_of_not_faultyAt (hn : AllReadable ms) (hm : ms[i]? = some m)
    (h : ¬FaultyAt ms arguments.length i) :
    outcomeAt d arguments ms m i = rendering d arguments ms m i := by
  unfold outcomeAt rendering
  cases hd : m.directive with
  | none => rfl
  | some dir =>
    have hread := hn m (List.mem_of_getElem? hm) dir hd
    obtain ⟨k, hk⟩ := check_of_not_refused
      fun e he => h (exists_refusedAt_iff.1 ⟨e, m, hm, dir, hd, he⟩)
    simp only [outcome_of_isReadable hread, hk, ok_bind]

theorem outcomes_of_not_faultyAt (hn : AllReadable ms) (hf : ∀ i, ¬FaultyAt ms arguments.length i) :
    outcomes d arguments ms = renderings d arguments ms := by
  refine mapM_congr_of_forall fun ⟨m, i⟩ hmi => ?_
  exact outcomeAt_of_not_faultyAt hn (List.mem_zipIdx_iff_getElem?.1 hmi) (hf i)

/-- The fault of a match is a rendering's, or it is refused. -/
theorem outcomeAt_eq_error {s : Settings} (hn : AllReadable ms) (hm : ms[i]? = some m)
    (he : e.isTemplateFault) :
    outcomeAt s.defaults arguments ms m i = .error e ↔ RefusedAt ms arguments.length i e := by
  refine ⟨fun h => ?_, outcomeAt_of_refusedAt hn hm⟩
  by_cases hf : FaultyAt ms arguments.length i
  · obtain ⟨e', h'⟩ := exists_refusedAt_iff.2 hf
    rw [outcomeAt_of_refusedAt hn hm h', Except.error.injEq] at h
    exact h ▸ h'
  · rw [outcomeAt_of_not_faultyAt hn hm hf] at h
    unfold rendering at h
    cases hd : m.directive with
    | none =>
      rw [hd] at h
      cases h
    | some dir =>
      rw [hd] at h
      have hr := Fault.isTemplateFault_eq_false (renders_compute s _ _ e h)
      rw [hr] at he
      cases he

/-- A match comes to a text if it is not faulty and has a rendering. -/
theorem exists_outcomeAt_iff {s : Settings} (hn : AllReadable ms) (hm : ms[i]? = some m) :
    (∃ r, outcomeAt s.defaults arguments ms m i = .ok r) ↔
      ¬FaultyAt ms arguments.length i ∧ RendersAt s.defaults arguments ms i := by
  constructor
  · rintro ⟨r, hr⟩
    have hf : ¬FaultyAt ms arguments.length i := by
      intro hf
      obtain ⟨e, he⟩ := exists_refusedAt_iff.2 hf
      cases hr.symm.trans (outcomeAt_of_refusedAt hn hm he)
    rw [outcomeAt_of_not_faultyAt hn hm hf] at hr
    exact ⟨hf, m, hm, r, hr⟩
  · rintro ⟨hf, m', hm', r, hr⟩
    obtain rfl : m' = m := Option.some.inj (hm'.symm.trans hm)
    exact ⟨r, (outcomeAt_of_not_faultyAt hn hm hf).trans hr⟩

end Textwork.Directive
