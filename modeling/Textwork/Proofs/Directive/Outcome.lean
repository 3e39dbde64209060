/-
  What each directive of a template comes to, said without the state that is
  carried from one directive to the next.

  * `outcome` is what a directive comes to with the argument of an index,
    `outcomeAt` what a match does among all matches of the template;
  * `result_format`: the result of a template is woven from its gaps and the
    outcomes of its matches;
  * `outcomes_append_arguments`, `outcomes_append_matches`: what may stand behind
    the arguments and the matches.
-/
import Textwork.Directive.Formatting
import Textwork.Proofs.Directive.Gaps
import Textwork.Proofs.Traversal

namespace Textwork.Directive

open Template

/-! ## One directive -/

variable {d : Defaults} {arguments : List Value} {dir : Directive} {index : Int} {e : Fault}

/-- The argument of an index. -/
def argumentAt (arguments : List Value) (index : Int) : Value :=
  (arguments[index.toNat]?).getD .nothing

theorem argumentAt_of_lt (h₀ : 0 ≤ index) (h : index < arguments.length) :
    ∃ (j : Nat) (v : Value), index = j ∧ arguments[j]? = some v ∧ argumentAt arguments index = v := by
  have hj : index.toNat < arguments.length := by omega
  refine ⟨index.toNat, arguments[index.toNat], by omega, List.getElem?_eq_getElem hj, ?_⟩
  simp [argumentAt, hj]

/-- What a directive comes to with the argument `index`. -/
def outcome (d : Defaults) (arguments : List Value) (index : Int) (dir : Directive) :
    Except Fault Text := do
  let spec ← dir.specification?
  let _ ← dir.position?
  let _ ← check index arguments.length dir.conversion
  (compute d spec (argumentAt arguments index)).result

theorem check_eq_ok_iff {count : Int} {conversion : Option Conversion} {k : Conversion} :
    check index count conversion = .ok k ↔ conversion = some k ∧ 0 ≤ index ∧ index < count := by
  unfold check
  cases conversion with
  | none => simp
  | some k' =>
    simp only [Option.some.injEq]
    split_ifs with hc hn
    · simp [Int.not_lt.2 hc]
    · simp [Int.not_le.2 hn]
    · simp [Int.not_lt.1 hn, Int.not_le.1 hc]

/-- The index for a directive without a position behind `dir`. -/
def nextIndex (dir : Directive) (next : Nat) : Nat :=
  if dir.position.isNone then next + 1 else next

theorem number?_eq_ok_iff {n : Option Text} {v : Option Nat} :
    number? n = .ok v ↔ (∀ ds ∈ n, ds.length ≤ Numeral.maxDigits) ∧ v = n.map Numeral.value := by
  cases n with
  | none => simp [number?, eq_comm]
  | some ds =>
    unfold number? Numeral.read?
    by_cases h : ds.length > Numeral.maxDigits
    · simp [h, Nat.not_le_of_lt h]
    · simp [h, Nat.le_of_not_lt h, eq_comm]

theorem conversion_of_specification? {spec : Specification} (h : dir.specification? = .ok spec) :
    spec.conversion = dir.conversion := by
  obtain ⟨width, -, h⟩ := bind_eq_ok_iff.1 h
  obtain ⟨precision, -, h⟩ := bind_eq_ok_iff.1 h
  cases h
  rfl

theorem resolve_position {position : Option Nat}
    (h : dir.position? = .ok position) (next : Nat) :
    resolve (position.map Int.ofNat) next =
      (argumentIndex dir next, (nextIndex dir next : Int)) := by
  obtain ⟨-, rfl⟩ := number?_eq_ok_iff.1 h
  cases hp : dir.position <;> simp [resolve, argumentIndex, nextIndex, hp]

/-- The state only chooses the index. -/
theorem result_formatDirective (d : Defaults) (arguments : List Value) (next : Nat)
    (dir : Directive) :
    (formatDirective d arguments next dir).result =
      (outcome d arguments (argumentIndex dir next) dir).map
        fun t => (t, (nextIndex dir next : Int)) := by
  unfold formatDirective outcome argumentAt
  cases hs : dir.specification? with
  | error e => simp
  | ok spec =>
    cases hp : dir.position? with
    | error e => simp
    | ok position =>
      simp only [Traced.result_bind, Traced.result_ofExcept, Traced.result_note, ok_bind,
        resolve_position hp next, conversion_of_specification? hs]
      cases check (argumentIndex dir next) arguments.length dir.conversion with
      | error e => rfl
      | ok k =>
        simp only [ok_bind]
        cases (compute d spec _).result <;> rfl

/-- A directive and what is behind it, which goes on with the next index. -/
theorem result_formatFrom_directive (d : Defaults) (arguments : List Value) (next : Nat)
    (dir : Directive) (rest : List Segment) :
    (formatFrom d arguments next (.directive dir :: rest)).result =
      outcome d arguments (argumentIndex dir next) dir >>= fun t =>
        (formatFrom d arguments (nextIndex dir next : Nat) rest).result.map (t ++ ·) := by
  rw [formatFrom, Traced.result_bind, result_formatDirective]
  cases outcome d arguments (argumentIndex dir next) dir with
  | error e => rfl
  | ok t => exact Traced.result_map _ _

/-! ## All directives -/

variable {ms : List Found} {m : Found} {i : Nat}

/-- What the match `i` comes to among all matches `ms` of a template. -/
def outcomeAt (d : Defaults) (arguments : List Value) (ms : List Found) (m : Found) (i : Nat) :
    Except Fault Text :=
  match m.directive with
  | none => .ok ['%']
  | some dir => outcome d arguments (argumentIndex dir (sequentialBefore ms i)) dir

/-- What all matches come to, in order. -/
def outcomes (d : Defaults) (arguments : List Value) (ms : List Found) :
    Except Fault (List Text) :=
  ms.zipIdx.mapM fun (m, i) => outcomeAt d arguments ms m i

theorem outcomes_eq_error_iff :
    outcomes d arguments ms = .error e ↔
      ∃ i m, ms[i]? = some m ∧ outcomeAt d arguments ms m i = .error e ∧
        ∀ j < i, ∀ m', ms[j]? = some m' → ∃ r, outcomeAt d arguments ms m' j = .ok r := by
  have hat (j : Nat) (p : Found × Nat) : ms.zipIdx[j]? = some p ↔ ms[j]? = some p.1 ∧ p.2 = j := by
    rw [List.getElem?_zipIdx, Option.map_eq_some_iff]
    constructor
    · rintro ⟨m, hm, rfl⟩
      exact ⟨hm, Nat.zero_add j⟩
    · rintro ⟨hm, hj⟩
      exact ⟨p.1, hm, by rw [Nat.zero_add, ← hj]⟩
  rw [outcomes, mapM_eq_error_iff]
  constructor
  · rintro ⟨i, ⟨m, k⟩, hmk, he, hlt⟩
    obtain ⟨hm, rfl⟩ := (hat i _).1 hmk
    exact ⟨k, m, hm, he, fun j hj m' hm' => hlt j hj (m', j) ((hat j _).2 ⟨hm', rfl⟩)⟩
  · rintro ⟨i, m, hm, he, hlt⟩
    refine ⟨i, (m, i), (hat i _).2 ⟨hm, rfl⟩, he, fun j hj ⟨m', k⟩ hmk => ?_⟩
    obtain ⟨hm', rfl⟩ := (hat j _).1 hmk
    exact hlt k hj m' hm'

theorem sequentialBefore_length (done rest : List Found) :
    sequentialBefore (done ++ rest) done.length = done.countP Found.isSequential := by
  simp [sequentialBefore]

theorem countP_concat_directive (done : List Found) (start stop : Nat) (dir : Directive) :
    (done ++ [Found.mk start stop (some dir)]).countP Found.isSequential =
      nextIndex dir (done.countP Found.isSequential) := by
  cases hp : dir.position <;> simp [nextIndex, Found.isSequential, hp]

theorem map_weave_cons (x : Except Fault Text) (y : Except Fault (List Text)) (gs : List Text) :
    (do let r ← x; let rs ← y; pure (r :: rs)).map (weave ([] :: gs)) =
      x >>= fun r => (y.map (weave gs)).map (r ++ ·) := by
  cases x <;> cases y <;> simp [pure, Except.pure]

/-- **The state that is carried along is the number of directives without a position so far.** -/
theorem result_formatFrom (d : Defaults) (arguments : List Value) (segs : List Segment) :
    ∀ (i : Nat) (done : List Found),
      (formatFrom d arguments (done.countP Found.isSequential : Nat) segs).result =
        (((locate i segs).zipIdx done.length).mapM
          fun (m, j) => outcomeAt d arguments (done ++ locate i segs) m j).map
            (weave (plainStretches segs)) := by
  induction segs with
  | nil => intro i done; rfl
  | cons seg rest ih =>
    intro i done
    cases seg with
    | plain t =>
      rw [formatFrom, Traced.result_map, ih (i + t.length) done, locate]
      generalize (List.mapM _ _ : Except Fault (List Text)) = rs
      cases rs with
      | error e => rfl
      | ok rs => simp [plainStretches, weave_modifyHead t (plainStretches_ne_nil rest)]
    | percent =>
      have hrest := ih (i + 2) (done ++ [⟨i, i + 2, none⟩])
      simp only [List.append_assoc, List.singleton_append, List.length_append,
        List.length_singleton] at hrest
      have hcount : (done ++ [Found.mk i (i + 2) none]).countP Found.isSequential =
          done.countP Found.isSequential := by simp [Found.isSequential]
      rw [hcount] at hrest
      rw [formatFrom, Traced.result_map, hrest, locate, List.zipIdx_cons, List.mapM_cons,
        plainStretches, map_weave_cons]
      rfl
    | directive dir =>
      have hrest := ih (i + dir.written.length) (done ++ [⟨i, i + dir.written.length, some dir⟩])
      simp only [List.append_assoc, List.singleton_append, List.length_append,
        List.length_singleton, countP_concat_directive] at hrest
      rw [result_formatFrom_directive, locate, List.zipIdx_cons, List.mapM_cons, plainStretches,
        map_weave_cons, ← hrest]
      simp only [outcomeAt, sequentialBefore_length]

/-- **The result of a template is woven from its gaps and what its matches come to.** -/
theorem result_format (d : Defaults) (template : Text) (arguments : List Value) :
    (format d template arguments).result =
      (outcomes d arguments (directives template)).map (weave (gaps template)) := by
  rw [gaps_eq]
  exact result_formatFrom d arguments (scan template) 0 []

theorem format_nil (d : Defaults) (arguments : List Value) :
    (format d [] arguments).result = .ok [] := by
  simp [format, scan, formatFrom]

theorem formatArguments_text (d : Defaults) (template : Text) (arguments : List Value) :
    (formatArguments d (.text template) arguments).result =
      (format d template arguments).result := by
  cases template with
  | nil => exact (format_nil d arguments).symm
  | cons c rest => rfl

theorem formatValue_text_list (d : Defaults) (template : Text) (arguments : List Value) :
    (formatValue d (.text template) (.list arguments)).result =
      (format d template arguments).result := by
  cases template with
  | nil => exact (format_nil d arguments).symm
  | cons c rest => cases arguments <;> rfl

/-! ## Arguments and text behind -/

theorem outcome_append {r : Text} (more : List Value)
    (h : outcome d arguments index dir = .ok r) :
    outcome d (arguments ++ more) index dir = .ok r := by
  obtain ⟨spec, hs, h⟩ := bind_eq_ok_iff.1 h
  obtain ⟨position, hp, h⟩ := bind_eq_ok_iff.1 h
  obtain ⟨k, hc, h⟩ := bind_eq_ok_iff.1 h
  obtain ⟨hk, h₀, hlt⟩ := check_eq_ok_iff.1 hc
  have hc' : check index (arguments ++ more).length dir.conversion = .ok k :=
    check_eq_ok_iff.2 ⟨hk, h₀, by rw [List.length_append]; omega⟩
  have hv : argumentAt (arguments ++ more) index = argumentAt arguments index := by
    have hj : index.toNat < arguments.length := by omega
    rw [argumentAt, List.getElem?_append_left hj, argumentAt]
  rw [outcome, hs, hp, hc', hv]
  exact h

theorem outcomeAt_append {r : Text} (more : List Value)
    (h : outcomeAt d arguments ms m i = .ok r) :
    outcomeAt d (arguments ++ more) ms m i = .ok r := by
  unfold outcomeAt at h ⊢
  cases hd : m.directive with
  | none =>
    rw [hd] at h
    exact h
  | some dir =>
    rw [hd] at h
    exact outcome_append more h

theorem outcomes_append_arguments {rs : List Text} (more : List Value)
    (h : outcomes d arguments ms = .ok rs) : outcomes d (arguments ++ more) ms = .ok rs :=
  mapM_eq_ok_of_forall (fun ⟨_, _⟩ _ _ => outcomeAt_append more) h

theorem sequentialBefore_append (rest : List Found) (h : i ≤ ms.length) :
    sequentialBefore (ms ++ rest) i = sequentialBefore ms i := by
  rw [sequentialBefore, List.take_append_of_le_length h, sequentialBefore]

theorem outcomes_append_matches (rest : List Found) (h : outcomes d arguments ms = .error e) :
    outcomes d arguments (ms ++ rest) = .error e := by
  unfold outcomes at h ⊢
  rw [List.zipIdx_append]
  refine mapM_append_eq_error _ ?_
  rw [← h]
  refine mapM_congr_of_forall fun ⟨m, i⟩ hmi => ?_
  have hi : i < ms.length := (List.getElem?_eq_some_iff.1 (List.mem_zipIdx_iff_getElem?.1 hmi)).1
  simp only [outcomeAt, sequentialBefore_append rest (Nat.le_of_lt hi)]

end Textwork.Directive
