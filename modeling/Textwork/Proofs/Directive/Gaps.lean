/-
  The stretches of text between the signs and directives of a template.

  * `gaps t` are these stretches, cut out of `t` by position, `weave` puts texts
    between them;
  * `gaps_eq`: they are the plain segments of the scan; `weave_gaps_written`: the
    matches between them make up the template;
  * `argumentIndex` is the index of the argument that a directive asks for, by
    the directives before it.
-/
import Textwork.Directive.Template
import Mathlib.Tactic.Common
import Textwork.Text.Basic

namespace Textwork.Template

/-! ## Gaps -/

/-- The stretches of a text before, between and behind the matches `ms`, from position `i` on. -/
def gapsFrom (t : Text) (i : Nat) : List Found → List Text
  | [] => [t.drop i]
  | m :: ms => t.between i m.start :: gapsFrom t m.stop ms

/-- The stretches of a template before, between and behind its signs and directives. -/
def gaps (t : Text) : List Text := gapsFrom t 0 (directives t)

/-- Stretches of text with other texts between them. -/
def weave : List Text → List Text → Text
  | g :: gs, r :: rs => g ++ r ++ weave gs rs
  | gs, _ => gs.flatten

/-- The stretches of plain text among segments. -/
def plainStretches : List Segment → List Text
  | [] => [[]]
  | .plain t :: rest => (plainStretches rest).modifyHead (t ++ ·)
  | .percent :: rest | .directive _ :: rest => [] :: plainStretches rest

theorem plainStretches_ne_nil (segs : List Segment) : plainStretches segs ≠ [] := by
  induction segs with
  | nil => simp [plainStretches]
  | cons seg rest ih => cases seg <;> simp [plainStretches, ih]

@[simp] theorem weave_nil_cons (r : Text) (gs rs : List Text) :
    weave ([] :: gs) (r :: rs) = r ++ weave gs rs := by
  simp [weave]

theorem weave_modifyHead (t : Text) {gs : List Text} (h : gs ≠ []) (rs : List Text) :
    weave (gs.modifyHead (t ++ ·)) rs = t ++ weave gs rs := by
  cases gs with
  | nil => exact absurd rfl h
  | cons g gs => cases rs <;> simp [weave]

theorem between_self (t : Text) (i : Nat) : t.between i i = [] := by
  simp [Text.between]

theorem between_of_drop {t a b : Text} {i j : Nat} (h : t.drop i = a ++ b) (hj : i + a.length ≤ j) :
    t.between i j = a ++ t.between (i + a.length) j := by
  have hb : t.drop (i + a.length) = b := by rw [← List.drop_drop, h, List.drop_left]
  simp only [Text.between, List.drop_take, h, hb, List.take_append]
  rw [List.take_of_length_le (by omega)]
  congr 2
  omega

/-- A position in front of all matches. -/
theorem le_start_of_mem_locate (segs : List Segment) :
    ∀ {i : Nat} {m : Found}, m ∈ locate i segs → i ≤ m.start := by
  induction segs with
  | nil => intro i m h; simp [locate] at h
  | cons seg rest ih =>
    intro i m h
    cases seg with
    | plain t => exact Nat.le_trans (Nat.le_add_right i t.length) (ih h)
    | percent | directive d =>
      rcases List.mem_cons.1 h with rfl | h
      · exact Nat.le_refl _
      · exact Nat.le_trans (Nat.le_add_right _ _) (ih h)

theorem gapsFrom_locate (t : Text) (segs : List Segment) :
    ∀ i, t.drop i = segs.flatMap Segment.written →
      gapsFrom t i (locate i segs) = plainStretches segs := by
  induction segs with
  | nil => intro i h; simpa [gapsFrom, locate, plainStretches] using h
  | cons seg rest ih =>
    intro i h
    rw [List.flatMap_cons] at h
    have hrest : t.drop (i + seg.written.length) = rest.flatMap Segment.written := by
      rw [← List.drop_drop, h, List.drop_left]
    have hgaps := ih _ hrest
    cases seg with
    | percent | directive d =>
      rw [plainStretches, ← hgaps, locate, gapsFrom, between_self]
      rfl
    | plain t' =>
      rw [plainStretches, ← hgaps, locate]
      cases hl : locate (i + t'.length) rest with
      | nil =>
        have hdrop : t.drop (i + t'.length) = rest.flatMap Segment.written := hrest
        simp [gapsFrom, Segment.written, hl, h, hdrop]
      | cons m ms =>
        have hj := le_start_of_mem_locate rest (hl ▸ List.mem_cons_self)
        simp [gapsFrom, Segment.written, hl, between_of_drop h hj]

/-- The stretches cut out by position are the plain segments of the scan. -/
theorem gaps_eq (t : Text) : gaps t = plainStretches (scan t) :=
  gapsFrom_locate t (scan t) 0 (by rw [List.drop_zero, written_scan])

/-- A match as it is written. -/
def Found.written (m : Found) : Text :=
  match m.directive with
  | none => ['%', '%']
  | some d => d.written

theorem weave_plainStretches (segs : List Segment) :
    ∀ i, weave (plainStretches segs) ((locate i segs).map Found.written) =
      segs.flatMap Segment.written := by
  induction segs with
  | nil => intro i; rfl
  | cons seg rest ih =>
    intro i
    rw [List.flatMap_cons]
    cases seg with
    | plain t =>
      rw [plainStretches, locate, weave_modifyHead t (plainStretches_ne_nil rest), ih]
      rfl
    | percent | directive d =>
      rw [plainStretches, locate, List.map_cons, weave_nil_cons, ih]
      rfl

/-- **The gaps and the matches between them make up the template.** -/
theorem weave_gaps_written (t : Text) :
    weave (gaps t) ((directives t).map Found.written) = t := by
  rw [gaps_eq, directives, weave_plainStretches, written_scan]

/-! ## Indexes of arguments -/

/-- A directive without a position. -/
def Found.isSequential (m : Found) : Bool := m.directive.any (·.position.isNone)

/-- The number of directives without a position before the match `i`. -/
def sequentialBefore (ms : List Found) (i : Nat) : Nat := (ms.take i).countP Found.isSequential

/-- The index of the argument that a directive asks for: by its position, which counts from one, or
    by the number `before` of directives before it that have none. -/
def argumentIndex (d : Directive) (before : Nat) : Int :=
  match d.position with
  | some ds => (Numeral.value ds : Int) - 1
  | none => before

end Textwork.Template
