/-
  Templates: plain text, literal percent signs and directives in turn.

  * `Template.scan` cuts a text into segments; `written_scan` says that the
    segments, as they are written, make up the text;
  * `Template.directives` lists the segments other than plain text with their
    bounds in the text.
-/
import Textwork.Directive.Basic

namespace Textwork.Template

/-- A segment of a template. -/
inductive Segment where
  | plain (t : Text)
  | percent
  | directive (d : Directive)
  deriving DecidableEq, Repr

/-- A segment as it is written. -/
def Segment.written : Segment → Text
  | plain t => t
  | percent => ['%', '%']
  | directive d => d.written

/-- The segments of a text. -/
def scan : Text → List Segment
  | [] => []
  | c :: rest =>
    if c = '%' then
      match rest with
      | '%' :: after => .percent :: scan after
      | rest =>
        have := Directive.length_rest_le rest
        .directive (Directive.read rest).1 :: scan (Directive.read rest).2
    else
      have := (List.dropWhile_sublist (· != '%') (l := rest)).length_le
      .plain (c :: rest.takeWhile (· != '%')) :: scan (rest.dropWhile (· != '%'))
termination_by t => t.length

theorem scan_percent (after : Text) : scan ('%' :: '%' :: after) = .percent :: scan after := by
  rw [scan]
  simp

theorem scan_directive {rest : Text} (h : rest.head? ≠ some '%') :
    scan ('%' :: rest) = .directive (Directive.read rest).1 :: scan (Directive.read rest).2 := by
  rw [scan]
  · simp
  · rintro after rfl
    simp at h

theorem scan_plain {c : Char} (rest : Text) (h : c ≠ '%') :
    scan (c :: rest) =
      .plain (c :: rest.takeWhile (· != '%')) :: scan (rest.dropWhile (· != '%')) := by
  cases rest with
  | nil => simp [scan, h]
  | cons d rest => by_cases hd : d = '%' <;> simp [scan, h, hd]

/-- Nothing of the text is lost. -/
theorem written_scan (t : Text) : (scan t).flatMap Segment.written = t := by
  induction t using scan.induct with
  | case1 => simp [scan]
  | case2 after ih => simp [scan_percent, Segment.written, ih]
  | case3 rest hne _ ih =>
    have h : rest.head? ≠ some '%' := fun h => by
      cases rest with
      | nil => simp at h
      | cons c after =>
        simp only [List.head?_cons, Option.some.injEq] at h
        exact hne after (by rw [h])
    simp [scan_directive h, Segment.written, Directive.written, ih, Directive.written_read]
  | case4 c rest h _ ih =>
    simp [scan_plain rest h, Segment.written, ih, List.takeWhile_append_dropWhile]

/-- A literal percent sign or a directive (`none` for the first), with its bounds in the text. -/
structure Found where
  start : Nat
  stop : Nat
  directive : Option Directive
  deriving DecidableEq, Repr

/-- The signs and directives among segments that start at position `i`. -/
def locate (i : Nat) : List Segment → List Found
  | [] => []
  | .plain t :: rest => locate (i + t.length) rest
  | .percent :: rest => ⟨i, i + 2, none⟩ :: locate (i + 2) rest
  | .directive d :: rest =>
    let stop := i + d.written.length
    ⟨i, stop, some d⟩ :: locate stop rest

/-- The literal percent signs and directives of a text, in order. -/
def directives (t : Text) : List Found := locate 0 (scan t)

/-- What a sign or directive asks for. -/
def Found.specification? (f : Found) : Except Fault Specification :=
  match f.directive with
  | none => .ok .literalPercent
  | some d => d.specification?

/-- The position as it is written. -/
def Found.position (f : Found) : Option Text := f.directive.bind (·.position)

end Textwork.Template
