/-
  Values taken for integers.

  * `DenotesInteger`: a number denotes itself without its fraction, and a text or
    bytes denote the integer that they spell;
  * `toInt?_eq_ok_iff`, `toInt?_eq_error_iff`: that integer is read, and only an
    infinite number is refused;
  * `lenient?` reads an infinite binary number as none, which the lenient
    readings have in common: `lenient?_eq_error_iff`, `lenient?_eq_some_iff`.
-/
import Textwork.Proofs.Number.IntegerText
import Textwork.Proofs.Value.Truncation

namespace Textwork.Value

open Numeral Rounding

variable {v : Value} {e : Fault} {n : ℤ} {r : ℚ}

/-! ## Numbers -/

/-- The value is an infinite number. -/
def IsInfinite : Value → Prop
  | float (.infinite _) | decimal (.infinite _) => True
  | _ => False

theorem toInt?_eq_error_iff : v.toInt? = .error e ↔ e = .tooLarge ∧ v.IsInfinite := by
  cases v with
  | float x => cases x <;> simp [toInt?, IsInfinite, eq_comm]
  | decimal d => cases d <;> simp [toInt?, IsInfinite, eq_comm]
  | _ => simp [toInt?, IsInfinite]

/-- A number is truncated toward zero. -/
theorem toInt?_of_number? (h : v.number? = some r) : v.toInt? = .ok (some (towardZero r)) := by
  cases v with
  | bool b =>
    obtain rfl := Option.some.inj h
    cases b
    · rfl
    · exact congrArg (fun n => Except.ok (some n)) (towardZero_intCast 1).symm
  | int n =>
    obtain rfl := Option.some.inj h
    exact congrArg (fun n => Except.ok (some n)) (towardZero_intCast n).symm
  | float x =>
    have htruncated := truncated?_of_toRat? h
    cases x with
    | finite negative m q fits => exact congrArg Except.ok htruncated
    | infinite | nan => cases h
  | fraction q =>
    obtain rfl := Option.some.inj h
    exact congrArg (fun n => Except.ok (some n)) (tdiv_eq_towardZero _)
  | decimal d =>
    cases d with
    | finite negative c x =>
      obtain rfl : _ = r := Option.some.inj ((Decimal.toRat?_finite negative c x).symm.trans h)
      rw [Decimal.towardZero_finite]
      rfl
    | infinite | nan => cases h
  | _ => cases h

/-! ## Texts and bytes -/

theorem asciiText?_eq_some_iff {b : List UInt8} {t : Text} :
    asciiText? b = some t ↔ (∀ x ∈ b, x < 128) ∧ b.map (fun x => Char.ofNat x.toNat) = t := by
  unfold asciiText?
  by_cases h : ∀ x ∈ b, x < 128 <;> simp [h]

/-- The integer that a value denotes: the number itself without its fraction, or the integer that a
    text spells in any script, and bytes in ASCII, with no more digits than can be read. -/
inductive DenotesInteger : Value → ℤ → Prop
  | number {v : Value} {r : ℚ} (h : v.number? = some r) : DenotesInteger v (towardZero r)
  | text {t : Text} {negative : Bool} {ds : List ℕ} (h : IntegerText t negative ds)
      (hlength : ds.length ≤ maxDigits) :
      DenotesInteger (text t) (withSign negative (Nat.ofDigits 10 ds.reverse))
  | bytes {b : List UInt8} {negative : Bool} {ds : List ℕ} (hascii : ∀ x ∈ b, x < 128)
      (h : IntegerText (b.map fun x => Char.ofNat x.toNat) negative ds)
      (hlength : ds.length ≤ maxDigits) :
      DenotesInteger (bytes b) (withSign negative (Nat.ofDigits 10 ds.reverse))

/-- **The integer that a value denotes is read**, and no other value is one. -/
theorem toInt?_eq_ok_iff : v.toInt? = .ok (some n) ↔ v.DenotesInteger n := by
  constructor
  · intro h
    cases hv : v.number? with
    | some r =>
      rw [toInt?_of_number? hv] at h
      cases h
      exact .number hv
    | none =>
      cases v with
      | text t =>
        obtain ⟨negative, ds, ht, hlength, rfl⟩ := integer?_eq_some_iff.1 (Except.ok.inj h)
        exact .text ht hlength
      | bytes b =>
        obtain ⟨t, hb, hinteger⟩ := Option.bind_eq_some_iff.1 (Except.ok.inj h)
        obtain ⟨hascii, rfl⟩ := asciiText?_eq_some_iff.1 hb
        obtain ⟨negative, ds, ht, hlength, rfl⟩ := integer?_eq_some_iff.1 hinteger
        exact .bytes hascii ht hlength
      | float x => cases x <;> cases hv <;> cases h
      | decimal d => cases d <;> cases hv <;> cases h
      | bool | int | fraction => cases hv
      | _ => cases h
  · intro h
    cases h with
    | number h => exact toInt?_of_number? h
    | text h hlength =>
      exact congrArg Except.ok (integer?_eq_some_iff.2 ⟨_, _, h, hlength, rfl⟩)
    | bytes hascii h hlength =>
      have htext := asciiText?_eq_some_iff.2 ⟨hascii, rfl⟩
      have hinteger := integer?_eq_some_iff.2 ⟨_, _, h, hlength, rfl⟩
      exact congrArg Except.ok (Option.bind_eq_some_iff.2 ⟨_, htext, hinteger⟩)

/-! ## Lenient readings -/

/-- The integer that a value denotes; an infinite binary number denotes none. -/
def lenient? : Value → Except Fault (Option ℤ)
  | float (.infinite _) => .ok none
  | v => v.toInt?

/-- The value is an infinite decimal number. -/
def IsInfiniteDecimal : Value → Prop
  | decimal (.infinite _) => True
  | _ => False

theorem lenient?_eq_error_iff : v.lenient? = .error e ↔ e = .tooLarge ∧ v.IsInfiniteDecimal := by
  cases v with
  | float x => cases x <;> simp [lenient?, toInt?, IsInfiniteDecimal]
  | decimal d => cases d <;> simp [lenient?, toInt?, IsInfiniteDecimal, eq_comm]
  | _ => simp [lenient?, toInt?, IsInfiniteDecimal]

theorem lenient?_eq_some_iff : v.lenient? = .ok (some n) ↔ v.DenotesInteger n := by
  rw [← toInt?_eq_ok_iff]
  cases v with
  | float x => cases x <;> simp [lenient?, toInt?]
  | _ => rfl

theorem lenient?_eq_none (hv : ¬v.IsInfiniteDecimal) (hn : ∀ n, ¬v.DenotesInteger n) :
    v.lenient? = .ok none := by
  rcases h : v.lenient? with e | _ | n
  · exact absurd (lenient?_eq_error_iff.1 h).2 hv
  · rfl
  · exact absurd (lenient?_eq_some_iff.1 h) (hn n)

theorem toIntOr_eq (d : ℤ) (v : Value) : v.toIntOr d = v.lenient?.map (·.getD d) := by
  cases v with
  | float x => cases x <;> rfl
  | _ => rfl

end Textwork.Value
