/-
  Templates applied to no arguments.

  * `refusal` is why a directive is refused where there is nothing that it could
    take;
  * `formatFrom_nil`: the first directive decides, and nothing is noted; without
    directives a template comes out with its percent signs halved.
-/
import Textwork.Proofs.Directive.Failures

namespace Textwork.Directive

open Template

/-! ## One directive -/

variable {dir : Directive}

/-- Why a directive is refused where there are no arguments: one of its numbers is too long, it has
    no letter, its position is zero, or its argument is missing. -/
def refusal (dir : Directive) : Fault :=
  if ¬dir.IsReadable then .numeral
  else if dir.conversion = none then .noTypeLetter
  else if dir.position.map Numeral.value = some 0 then .positionZero
  else .tooFewArguments

theorem check_zero (hread : dir.IsReadable) (next : Nat) :
    check (argumentIndex dir next) (0 : Nat) dir.conversion = .error dir.refusal := by
  refine check_eq_error_iff.2 ?_
  unfold refusal
  rw [if_neg (not_not_intro hread)]
  cases hk : dir.conversion with
  | none => exact .noLetter hk
  | some k =>
    rw [if_neg nofun]
    split_ifs with hz
    · exact .zero hk (argumentIndex_neg_iff.2 hz) hz
    · exact .pastLast hk (Int.not_lt.1 fun h => hz (argumentIndex_neg_iff.1 h))

/-- Every directive is refused, and before it is noted. -/
theorem formatDirective_nil (d : Defaults) (next : Nat) (dir : Directive) :
    formatDirective d [] next dir = Traced.fail dir.refusal := by
  unfold formatDirective
  cases hs : dir.specification? with
  | error e =>
    have hread : ¬dir.IsReadable := fun h => by
      cases (specification?_of_isReadable h).symm.trans hs
    rw [Traced.ofExcept_error_bind, failsOnly_specification? dir e hs, refusal, if_pos hread]
  | ok spec =>
    cases hp : dir.position? with
    | error e =>
      have hread : ¬dir.IsReadable := fun h => by
        cases (position?_of_isReadable h).symm.trans hp
      rw [Traced.ofExcept_ok_bind, Traced.ofExcept_error_bind, failsOnly_number? _ e hp, refusal,
        if_pos hread]
    | ok position =>
      have hcheck := check_zero (isReadable_of_ok hs hp) next
      rw [← conversion_of_specification? hs] at hcheck
      simp only [Traced.ofExcept_ok_bind, resolve_position hp next]
      rw [List.length_nil, hcheck, Traced.ofExcept_error_bind]

/-! ## Whole templates -/

/-- The directive of a segment. -/
def directive? : Segment → Option Directive
  | .directive dir => some dir
  | _ => none

/-- The text of a segment that is no directive. -/
def literal : Segment → Text
  | .plain t => t
  | .percent => ['%']
  | .directive _ => []

/-- The first directive of a template, literal percent signs apart. -/
def first? (template : Text) : Option Directive := (scan template).findSome? directive?

/-- What a template comes to without arguments. -/
def unsupplied (template : Text) : Except Fault Text :=
  match first? template with
  | some dir => .error dir.refusal
  | none => .ok ((scan template).flatMap literal)

theorem unsupplied_nil : unsupplied [] = .ok [] := by
  simp [unsupplied, first?, scan]

theorem unsupplied_eq_error_iff {template : Text} {e : Fault} :
    unsupplied template = .error e ↔ ∃ dir, first? template = some dir ∧ dir.refusal = e := by
  unfold unsupplied
  cases first? template <;> simp

/-- **The first directive decides**, whatever is carried along, and nothing is noted. -/
theorem formatFrom_nil (d : Defaults) (next : Nat) (segs : List Segment) :
    formatFrom d [] next segs =
      match segs.findSome? directive? with
      | some dir => Traced.fail dir.refusal
      | none => pure (segs.flatMap literal) := by
  induction segs with
  | nil => rfl
  | cons seg rest ih =>
    cases seg with
    | plain t | percent =>
      rw [formatFrom, ih, List.findSome?_cons_of_isNone rfl]
      cases rest.findSome? directive? <;> rfl
    | directive dir =>
      rw [formatFrom, formatDirective_nil, Traced.fail_bind]
      rfl

theorem format_nil_arguments (d : Defaults) (template : Text) :
    format d template [] = Traced.ofExcept (unsupplied template) := by
  refine (formatFrom_nil d 0 (scan template)).trans ?_
  unfold unsupplied first?
  cases (scan template).findSome? directive? <;> rfl

theorem formatArguments_nil (d : Defaults) (v : Value) :
    formatArguments d v [] = Traced.ofExcept (v.toText >>= unsupplied) := by
  unfold formatArguments
  cases v.toText with
  | error e => rfl
  | ok t =>
    rw [Traced.ofExcept_ok_bind, ok_bind, format_nil_arguments]
    split_ifs with ht
    · rw [List.isEmpty_iff.1 ht, unsupplied_nil]
      rfl
    · rfl

end Textwork.Directive
