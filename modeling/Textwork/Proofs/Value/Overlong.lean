/-
  Values with an integer that is too long to be written.

  * `HoldsOverlong` says which these are;
  * `RefusedIff p r`: the computation fails exactly if `p` holds, and then on a
    numeral;
  * `refusedIff_display`: a value has a text unless it holds such an integer.
-/
import Textwork.Proofs.Value.Plain

namespace Textwork

/-! ## Computations that fail on a numeral -/

/-- The computation fails exactly if `p` holds, and then on a numeral. -/
def RefusedIff {α : Type} (p : Prop) (r : Except Fault α) : Prop :=
  ∀ e, r = .error e ↔ e = .numeral ∧ p

namespace RefusedIff

variable {α β : Type} {p q : Prop} {r : Except Fault α}

theorem ok (a : α) : RefusedIff False (.ok a) := by simp [RefusedIff]

theorem congr (h : RefusedIff p r) (hpq : p ↔ q) : RefusedIff q r := fun e => by
  rw [h e, hpq]

/-- What succeeds is not refused. -/
theorem not_of_ok {a : α} (h : RefusedIff p r) (hr : r = .ok a) : ¬p := fun hp => by
  cases hr.symm.trans ((h .numeral).2 ⟨rfl, hp⟩)

/-- What is not refused succeeds. -/
theorem exists_ok (h : RefusedIff p r) (hp : ¬p) : ∃ a, r = .ok a := by
  cases hr : r with
  | error e => exact absurd ((h e).1 hr).2 hp
  | ok a => exact ⟨a, rfl⟩

theorem bind {f : α → Except Fault β} (hr : RefusedIff p r) (hf : ∀ a, RefusedIff q (f a)) :
    RefusedIff (p ∨ q) (r >>= f) := by
  intro e
  cases hok : r with
  | error e' =>
    obtain ⟨rfl, hp⟩ := (hr e').1 hok
    simp [hp, eq_comm]
  | ok a => rw [ok_bind, hf a e, or_iff_right (hr.not_of_ok hok)]

/-- A result that is only wrapped fails as it does. -/
theorem map {f : α → Except Fault β} {g : α → β} (hr : RefusedIff p r)
    (hf : ∀ a, f a = .ok (g a)) : RefusedIff p (r >>= f) :=
  (hr.bind fun a => by rw [hf a]; exact .ok (g a)).congr (or_iff_left id)

theorem mapM {P : α → Prop} {f : α → Except Fault β} {l : List α}
    (h : ∀ a ∈ l, RefusedIff (P a) (f a)) : RefusedIff (∃ a ∈ l, P a) (l.mapM f) := by
  induction l with
  | nil => exact (RefusedIff.ok []).congr (by simp)
  | cons a l ih =>
    obtain ⟨ha, hl⟩ := List.forall_mem_cons.1 h
    rw [List.mapM_cons]
    refine (ha.bind fun b => (ih hl).map (g := (b :: ·)) fun _ => rfl).congr ?_
    rw [List.exists_mem_cons_iff]

end RefusedIff

theorem refusedIff_write? (n : Int) : RefusedIff (¬Numeral.IsShort n) (Numeral.write? n) :=
  fun _ => Numeral.write?_eq_error_iff

namespace Value

/-! ## Values as text -/

/-- The values that are written inside of a value. -/
def inside : Value → List Value
  | list items | tuple items => items
  | dict entries => entries.flatMap fun (k, v) => [k, v]
  | _ => []

/-- An integer that is too long to be written, or a fraction with one. -/
def IsUnwritable : Value → Prop
  | int n => ¬Numeral.IsShort n
  | fraction r => ¬Numeral.IsShort r.num ∨ ¬Numeral.IsShort r.den
  | _ => False

/-- The value is such a number, or one is written inside of it. -/
inductive HoldsOverlong : Value → Prop
  | own {v : Value} : v.IsUnwritable → HoldsOverlong v
  | inside {v u : Value} : u ∈ v.inside → HoldsOverlong u → HoldsOverlong v

theorem holdsOverlong_iff {v : Value} :
    HoldsOverlong v ↔ v.IsUnwritable ∨ ∃ u ∈ v.inside, HoldsOverlong u := by
  constructor
  · intro h
    cases h with
    | own h => exact .inl h
    | inside hu h => exact .inr ⟨_, hu, h⟩
  · rintro (h | ⟨u, hu, h⟩)
    · exact .own h
    · exact .inside hu h

/-- Nothing is written inside of a number or a text. -/
theorem refusedIff_of_own {α : Type} {v : Value} {r : Except Fault α} (hv : v.inside = [])
    (h : RefusedIff v.IsUnwritable r) : RefusedIff v.HoldsOverlong r := by
  refine h.congr ?_
  rw [holdsOverlong_iff, hv]
  simp

/-- A value that is no number holds what is written inside of it. -/
theorem refusedIff_of_inside {α : Type} {v : Value} {r : Except Fault α} (hv : ¬v.IsUnwritable)
    (h : RefusedIff (∃ u ∈ v.inside, u.HoldsOverlong) r) : RefusedIff v.HoldsOverlong r := by
  refine h.congr ?_
  rw [holdsOverlong_iff (v := v), or_iff_right hv]

theorem refusedIff_fractionShown (r : Rat) :
    RefusedIff (IsUnwritable (fraction r)) (fractionShown r) :=
  (refusedIff_write? r.num).bind fun n => (refusedIff_write? r.den).map
    (g := fun d => "Fraction(".toList ++ n ++ [',', ' '] ++ d ++ [')']) fun _ => rfl

/-- A denominator of one is not written. -/
theorem refusedIff_fractionText (r : Rat) :
    RefusedIff (IsUnwritable (fraction r)) (fractionText r) := by
  refine (refusedIff_write? r.num).bind fun n => ?_
  split_ifs with hone
  · refine (RefusedIff.ok n).congr ?_
    rw [hone]
    decide
  · exact (refusedIff_write? r.den).map fun _ => rfl

mutual

theorem refusedIff_shown : (v : Value) → RefusedIff v.HoldsOverlong v.shown
  | int n => by rw [shown]; exact refusedIff_of_own rfl (refusedIff_write? n)
  | fraction r => by rw [shown]; exact refusedIff_of_own rfl (refusedIff_fractionShown r)
  | list items | tuple items => by
    rw [shown]
    exact refusedIff_of_inside id ((refusedIff_shownAll items).map fun _ => rfl)
  | dict entries => by
    rw [shown]
    exact refusedIff_of_inside id ((refusedIff_shownEntries entries).map fun _ => rfl)
  | nothing | bool _ | float _ | text _ | decimal _ | bytes _ | iterator _ | pattern _
  | callback _ => by rw [shown]; exact refusedIff_of_own rfl (.ok _)

theorem refusedIff_shownAll :
    (vs : List Value) → RefusedIff (∃ v ∈ vs, v.HoldsOverlong) (shownAll vs)
  | [] => by rw [shownAll]; exact (RefusedIff.ok _).congr (by simp)
  | v :: rest => by
    rw [shownAll, List.exists_mem_cons_iff]
    exact (refusedIff_shown v).bind fun t =>
      (refusedIff_shownAll rest).map (g := (t :: ·)) fun _ => rfl

theorem refusedIff_shownEntries : (entries : List (Value × Value)) →
    RefusedIff (∃ v ∈ (dict entries).inside, v.HoldsOverlong) (shownEntries entries)
  | [] => by rw [shownEntries]; exact (RefusedIff.ok _).congr (by simp [inside])
  | (k, v) :: rest => by
    have hinside : (dict ((k, v) :: rest)).inside = k :: v :: (dict rest).inside := rfl
    rw [shownEntries, hinside, List.exists_mem_cons_iff, List.exists_mem_cons_iff]
    exact (refusedIff_shown k).bind fun key => (refusedIff_shown v).bind fun value =>
      (refusedIff_shownEntries rest).map (g := ((key ++ [':', ' '] ++ value) :: ·)) fun _ => rfl

end

/-- **A value has a text unless an integer in it is too long to be written.** -/
theorem refusedIff_display (v : Value) : RefusedIff v.HoldsOverlong v.display := by
  cases v with
  | text t => exact refusedIff_of_own rfl (.ok t)
  | fraction r => exact refusedIff_of_own rfl (refusedIff_fractionText r)
  | decimal d => exact refusedIff_of_own rfl (.ok d.text)
  | _ => exact refusedIff_shown _

theorem refusedIff_textOr (default : Text) (v : Value) :
    RefusedIff v.HoldsOverlong (v.textOr default) := by
  cases v with
  | nothing => exact refusedIff_of_own rfl (.ok default)
  | _ => exact refusedIff_display _

theorem refusedIff_toText (v : Value) : RefusedIff v.HoldsOverlong v.toText :=
  refusedIff_textOr [] v

end Value

end Textwork
