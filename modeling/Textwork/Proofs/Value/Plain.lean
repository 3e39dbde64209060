/-
  Plain values: nothing, truth values, integers, binary numbers and texts.

  * `Numeral.IsShort` integers can be written; `value_lt`: digits that can be
    read have such a value;
  * `toText_eq_error_iff`, `leadingInt_eq_error_iff`: a plain value has a text
    and an integer, unless the numeral that is written or read is too long;
  * `exists_leadingFloat`: it always has a binary number.
-/
import Textwork.Proofs.Number.Leading
import Textwork.Proofs.Traversal
import Textwork.Value.Numbers
import Mathlib.Algebra.Group.Nat.Defs
import Mathlib.Data.List.Induction

namespace Textwork

variable {e : Fault}

/-! ## Lengths of numerals -/

namespace Numeral

/-- The decimal numeral of the integer is not too long. -/
def IsShort (n : Int) : Prop := (ofNat n.natAbs).length ≤ maxDigits

instance (n : Int) : Decidable (IsShort n) :=
  inferInstanceAs (Decidable ((ofNat n.natAbs).length ≤ maxDigits))

theorem isShort_iff {n : Int} : IsShort n ↔ n.natAbs < 10 ^ maxDigits :=
  Nat.length_toDigits_le_iff (by decide) (by decide)

theorem write?_eq_error_iff {n : Int} : write? n = .error e ↔ e = .numeral ∧ ¬IsShort n := by
  unfold write? IsShort
  by_cases h : (ofNat n.natAbs).length > maxDigits
  · simp [h, eq_comm]
  · simp [h, Nat.le_of_not_lt h]

theorem write?_natCast_eq_ok_iff {n : Nat} {t : Text} :
    write? n = .ok t ↔ IsShort n ∧ ofNat n = t := by
  have hneg : ¬(n : Int) < 0 := by omega
  unfold write? IsShort
  by_cases h : (ofNat n).length > maxDigits
  · simp [h, Nat.not_le.2 h]
  · simp [h, hneg, Nat.le_of_not_lt h]

theorem read?_eq_error_iff {ds : Text} :
    read? ds = .error e ↔ e = .numeral ∧ maxDigits < ds.length := by
  unfold read?
  by_cases h : ds.length > maxDigits <;> simp [h, eq_comm]

theorem value_append_singleton (ds : Text) (c : Char) :
    value (ds ++ [c]) = 10 * value ds + (c.toNat - '0'.toNat) := by
  simp [value]

theorem value_lt {ds : Text} (h : ∀ c ∈ ds, c.isDigit = true) : value ds < 10 ^ ds.length := by
  induction ds using List.reverseRecOn with
  | nil => simp [value]
  | append_singleton ds c ih =>
    have hds := ih fun a ha => h a (by simp [ha])
    have hc : c.toNat - '0'.toNat < 10 := by
      have hle := (Char.isDigit_iff_toNat.1 (h c (by simp))).2
      have h9 : '9'.toNat = '0'.toNat + 9 := rfl
      omega
    rw [value_append_singleton, List.length_append, List.length_singleton, Nat.pow_succ]
    omega

theorem isShort_withSign {negative : Bool} {n : Nat} (h : n < 10 ^ maxDigits) :
    IsShort (withSign negative n) := by
  refine isShort_iff.2 ?_
  cases negative <;> simpa [withSign] using h

theorem leadingInteger?_of_digits {ds : Text} (hne : ds ≠ []) (h : ∀ c ∈ ds, c.isDigit = true) :
    leadingInteger? ds = some (false, ds) := by
  have hread := leadingInteger?_append (List.forall_mem_nil _) .absent ⟨hne, h⟩ endsDigits_nil
  simpa using hread

theorem isDigit_of_leadingInteger? {t : Text} {p : Bool × Text} (h : leadingInteger? t = some p) :
    ∀ c ∈ p.2, c.isDigit = true := by
  unfold leadingInteger? at h
  simp only [] at h
  split at h
  · cases h
  · cases h
    exact List.all_eq_true.1 List.all_takeWhile

/-- An integer that is read can be written. -/
theorem isShort_of_read? {t : Text} {negative : Bool} {ds : Text} {n : Nat}
    (h : leadingInteger? t = some (negative, ds)) (hn : read? ds = .ok n) :
    IsShort (withSign negative n) := by
  unfold read? at hn
  split_ifs at hn with hlen
  cases hn
  have hlt : value ds < 10 ^ ds.length := value_lt (isDigit_of_leadingInteger? h)
  exact isShort_withSign
    (Nat.lt_of_lt_of_le hlt (Nat.pow_le_pow_right (by decide) (Nat.le_of_not_lt hlen)))

end Numeral

/-- A number of `a + b` bits has no more decimal digits than bits. -/
theorem mul_two_pow_lt {m q a b k : Nat} (hm : m < 2 ^ a) (hq : q ≤ b) (hk : a + b ≤ k) :
    m * 2 ^ q < 10 ^ k := by
  calc m * 2 ^ q < 2 ^ a * 2 ^ b :=
        Nat.mul_lt_mul_of_lt_of_le hm (Nat.pow_le_pow_right (by decide) hq) (Nat.two_pow_pos b)
    _ = 2 ^ (a + b) := (Nat.pow_add 2 a b).symm
    _ ≤ 2 ^ k := Nat.pow_le_pow_right (by decide) hk
    _ ≤ 10 ^ k := Nat.pow_le_pow_left (by decide) k

/-- A binary number has at most 1024 bits before its point. -/
theorem Binary64.isShort_of_truncated? {x : Binary64} {n : Int} (h : x.truncated? = some n) :
    Numeral.IsShort n := by
  cases x with
  | infinite negative => cases h
  | nan => cases h
  | finite negative m q fits =>
    simp only [truncated?, Option.some.injEq] at h
    subst h
    have hbits : m * 2 ^ q.toNat < 10 ^ Numeral.maxDigits :=
      mul_two_pow_lt (a := 53) (b := 971) fits.1 (Int.toNat_le.2 fits.2.2) (by decide)
    have hwhole : (magnitude m q).1 / (magnitude m q).2 ≤ m * 2 ^ q.toNat := by
      refine Nat.le_trans (Nat.div_le_self _ _) ?_
      unfold magnitude Rounding.scale
      split
      · exact Nat.le_refl _
      · exact Nat.le_mul_of_pos_right m (Nat.two_pow_pos _)
    exact Numeral.isShort_withSign (Nat.lt_of_le_of_lt hwhole hbits)

namespace Value

/-! ## Plain values -/

/-- Nothing, a truth value, an integer, a binary number or a text. -/
def isPlain : Value → Bool
  | nothing | bool _ | int _ | float _ | text _ => true
  | _ => false

/-- An integer that is too long to be written. -/
def isOverlong : Value → Bool
  | int n => !decide (Numeral.IsShort n)
  | _ => false

/-- A text that starts with an integer that is too long to be read. -/
def startsOverlong : Value → Bool
  | text t => (Numeral.leadingInteger? t).any fun (_, ds) => Numeral.maxDigits < ds.length
  | _ => false

theorem startsOverlong_of_digits {ds : Text} (h : ∀ c ∈ ds, c.isDigit = true)
    (hlong : Numeral.maxDigits < ds.length) : (text ds).startsOverlong := by
  have hne : ds ≠ [] := List.ne_nil_of_length_pos (Nat.lt_of_le_of_lt (Nat.zero_le _) hlong)
  simpa [startsOverlong, Numeral.leadingInteger?_of_digits hne h] using hlong

theorem result_leadingInt_text (t : Text) :
    (text t).leadingInt.result =
      match Numeral.leadingInteger? t with
      | some (negative, ds) => (Numeral.read? ds).map (Numeral.withSign negative ·)
      | none => .ok 0 := by
  simp only [leadingInt, toText, textOr, display, Traced.result_bind, Traced.result_ofExcept,
    ok_bind]
  cases Numeral.leadingInteger? t with
  | none => rfl
  | some p =>
    simp only [Traced.result_bind, Traced.result_ofExcept]
    cases Numeral.read? p.2 <;> rfl

variable {v : Value}

theorem toText_eq_error_iff (hv : v.isPlain) :
    v.toText = .error e ↔ e = .numeral ∧ v.isOverlong := by
  cases v with
  | int n => simp [toText, textOr, display, shown, isOverlong, Numeral.write?_eq_error_iff]
  | nothing | bool b | float x | text t => simp [toText, textOr, display, shown, isOverlong]
  | _ => cases hv

theorem leadingInt_eq_error_iff (hv : v.isPlain) :
    v.leadingInt.result = .error e ↔ e = .numeral ∧ v.startsOverlong := by
  cases v with
  | nothing =>
    have h : leadingInt nothing = ⟨[.noInteger nothing], .ok 0⟩ := rfl
    simp [h, startsOverlong]
  | bool b | int n => simp [leadingInt, startsOverlong]
  | float x =>
    simp only [leadingInt, startsOverlong]
    split <;> simp
  | text t =>
    rw [result_leadingInt_text, startsOverlong]
    cases Numeral.leadingInteger? t with
    | none => simp
    | some p =>
      have hread : Numeral.read? p.2 = .error e ↔ _ := Numeral.read?_eq_error_iff
      cases hr : Numeral.read? p.2 with
      | error e' => simpa [hr] using hread
      | ok n => simpa [hr] using hread
  | _ => cases hv

/-- Only an integer that is given can be too long to be written. -/
theorem isShort_of_leadingInt {n : Int} (hv : v.isPlain) (h : v.leadingInt.result = .ok n) :
    v = .int n ∨ Numeral.IsShort n := by
  cases v with
  | nothing =>
    have h0 : leadingInt nothing = ⟨[.noInteger nothing], .ok 0⟩ := rfl
    rw [h0] at h
    cases h
    exact .inr (by decide)
  | bool b =>
    cases h
    cases b <;> exact .inr (by decide)
  | int m =>
    cases h
    exact .inl rfl
  | float x =>
    right
    cases ht : x.truncated? with
    | none =>
      simp only [leadingInt, ht, Traced.result_bind, Traced.result_note, ok_bind] at h
      cases h
      decide
    | some m =>
      simp only [leadingInt, ht] at h
      cases h
      exact Binary64.isShort_of_truncated? ht
  | text t =>
    right
    rw [result_leadingInt_text] at h
    cases hl : Numeral.leadingInteger? t with
    | none =>
      rw [hl] at h
      cases h
      decide
    | some p =>
      rw [hl] at h
      cases hr : Numeral.read? p.2 with
      | error e =>
        simp only [hr] at h
        cases h
      | ok m =>
        simp only [hr] at h
        cases h
        exact Numeral.isShort_of_read? hl hr
  | _ => cases hv

theorem exists_leadingFloat (hv : v.isPlain) : ∃ x, v.leadingFloat.result = .ok x := by
  have hnearest : ∃ x, v.nearestFloat.result = .ok x := by
    cases v with
    | nothing | bool b | float x | text t => exact ⟨_, rfl⟩
    | int n =>
      refine ⟨Binary64.ofInt n, ?_⟩
      simp only [nearestFloat]
      cases Binary64.ofInt n <;> rfl
    | _ => cases hv
  obtain ⟨x, hx⟩ := hnearest
  rw [leadingFloat, Traced.result_bind, hx]
  cases x <;> exact ⟨_, rfl⟩

end Value

end Textwork
