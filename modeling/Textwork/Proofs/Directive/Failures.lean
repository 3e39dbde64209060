/-
  How a template with plain arguments can fail.

  * `checkPrecision_eq`, `exists_align`: a width and a precision that can be
    addressed are only refused for the places that a number is rounded to;
  * `render_eq_error_iff`: a plain value has a text, unless a numeral is too
    long or the precision too high;
  * `Fails` adds the objections to a directive; `formatted_failures`: a template
    fails as the first of its directives that does, and it comes to a text or is
    refused unless that is for such a numeral or precision.
-/
import Textwork.Proofs.Directive.Alignment
import Textwork.Proofs.Directive.Formatted
import Textwork.Proofs.Number.Numeral
import Textwork.Proofs.Value.Plain

namespace Textwork

/-- The width can be addressed, and so can the precision: it is one that exact arithmetic has, with
    the 800 digits more that a division keeps. -/
def Specification.IsAddressable (s : Specification) : Prop :=
  (∀ w ∈ s.width, w < Text.maxLength) ∧ ∀ p ∈ s.precision, p + 800 < 10 ^ 18

instance (s : Specification) : Decidable s.IsAddressable :=
  inferInstanceAs (Decidable (_ ∧ _))

namespace Directive

open Template

variable {e : Fault} {s : Specification} {k : Conversion} {v : Value}

/-! ## Precisions -/

/-- The digits after the point that a quotient is rounded to under a conversion. -/
def places (k : Conversion) (num den precision : Nat) : Nat :=
  match k with
  | .fixed | .scientific | .scientificUpper => precision
  | _ => if num = 0 then 0 else max (precision - 1) (Decimals.shortPlaces num den precision)

theorem places_le (k : Conversion) (num den precision : Nat) :
    places k num den precision ≤ max precision 1 + 5 := by
  have hshort : Decimals.shortPlaces num den precision ≤ max precision 1 + 5 := by
    unfold Decimals.shortPlaces
    simp only []
    split <;> omega
  unfold places
  split
  · omega
  · omega
  · omega
  · split <;> omega

theorem checkPlaces_eq_error_iff {n : Nat} :
    checkPlaces n = .error e ↔ e = .tooPrecise ∧ maxPlaces < n := by
  unfold checkPlaces
  split <;> simp_all [eq_comm]

theorem checkPlaces_bind (a b : Nat) :
    (do checkPlaces a; checkPlaces b) = checkPlaces (max a b) := by
  unfold checkPlaces
  by_cases ha : maxPlaces < a
  · have hb : maxPlaces < max a b := by omega
    simp only [if_pos ha, if_pos hb, error_bind]
  · have hb : maxPlaces < max a b ↔ maxPlaces < b := by omega
    simp only [if_neg ha, hb, ok_bind]

theorem checkQuotient_eq {n : Nat} (h : n + 800 < 10 ^ 18) : checkQuotient n = checkPlaces n := by
  have hlength : ¬Text.maxLength < n + 800 := by
    have : Text.maxLength = 2 ^ 63 - 1 := rfl
    omega
  have hrange : ¬Nat.pow 10 18 ≤ n + 800 := Nat.not_le.2 h
  rw [checkQuotient, if_neg hlength, if_neg hrange]

theorem checkPrecision_eq {num den p : Nat} (h : p + 800 < 10 ^ 18) :
    checkPrecision k num den p = checkPlaces (places k num den p) := by
  have hshort : (if num = 0 then .ok () else do
        checkQuotient (p - 1)
        checkPlaces (Decimals.shortPlaces num den p)) =
      checkPlaces (if num = 0 then 0 else max (p - 1) (Decimals.shortPlaces num den p)) := by
    split
    · rfl
    · rw [checkQuotient_eq (by omega), checkPlaces_bind]
  cases k with
  | fixed => rfl
  | scientific | scientificUpper =>
    simp only [checkPrecision, places, checkQuotient_eq h, ite_self]
  | _ => exact hshort

/-- The number of a value would be rounded to more digits after the point than there can be. -/
def exceedsPlaces (s : Specification) (k : Conversion) (v : Value) : Bool :=
  match s.precision, v.leadingFloat.result with
  | some p, .ok (.finite _ m q _) =>
    maxPlaces < places k (Binary64.magnitude m q).1 (Binary64.magnitude m q).2 p
  | _, _ => false

theorem exceedsPlaces_eq_false (hp : ∀ p ∈ s.precision, p + 5 ≤ maxPlaces) :
    exceedsPlaces s k v = false := by
  unfold exceedsPlaces
  split
  · next p negative m q fits h _ =>
    have hle := hp p h
    have hplaces := places_le k (Binary64.magnitude m q).1 (Binary64.magnitude m q).2 p
    have hmax : maxPlaces = 2000054 := rfl
    exact decide_eq_false (by omega)
  · rfl

/-- The precision of a number, or the one to fall back to. -/
def lookedUp (d : Defaults) (s : Specification) (k : Conversion) (num : Nat) : Except Fault Nat :=
  match s.precision with
  | some p => .ok p
  | none => if needsPrecision k num then d.precision else .ok 0

theorem exists_lookedUp (s : Specification) (k : Conversion) (num : Nat) :
    ∃ p, lookedUp Settings.standard.defaults s k num = .ok p ∧
      (p ∈ s.precision ∨ s.precision = none ∧ p ≤ 6) := by
  unfold lookedUp
  cases s.precision with
  | some p => exact ⟨p, rfl, .inl rfl⟩
  | none =>
    by_cases h : needsPrecision k num
    · exact ⟨6, if_pos h, .inr ⟨rfl, Nat.le_refl 6⟩⟩
    · exact ⟨0, if_neg h, .inr ⟨rfl, Nat.zero_le 6⟩⟩

theorem binaryText_finite (d : Defaults) (s : Specification) (k : Conversion) {negative : Bool}
    {m num den : Nat} {q : Int} {fits} (hm : Binary64.magnitude m q = (num, den)) :
    binaryText d s k (.finite negative m q fits) =
      lookedUp d s k num >>= fun p => checkPrecision k num den p >>= fun _ =>
        .ok (if negative then '-' :: floatText k num den p else floatText k num den p) := by
  simp only [binaryText, lookedUp, hm]
  cases s.precision with
  | some p => rfl
  | none => split_ifs <;> rfl

/-- Only a precision that is asked for can be too high, not the standard one. -/
theorem binaryText_eq_error_iff (hs : s.IsAddressable) {x : Binary64}
    (hx : v.leadingFloat.result = .ok x) :
    binaryText Settings.standard.defaults s k x = .error e ↔
      e = .tooPrecise ∧ exceedsPlaces s k v := by
  unfold exceedsPlaces
  rw [hx]
  cases x with
  | infinite negative | nan =>
    cases s.precision <;> simp only [binaryText, Bool.false_eq_true, and_false, reduceCtorEq]
  | finite negative m q fits =>
    obtain ⟨num, den, hm⟩ : ∃ num den, Binary64.magnitude m q = (num, den) := ⟨_, _, rfl⟩
    obtain ⟨p, hp, hasked⟩ := exists_lookedUp s k num
    have haddr : p + 800 < 10 ^ 18 := by
      rcases hasked with h | ⟨-, h⟩
      · exact hs.2 p h
      · omega
    rw [binaryText_finite _ _ _ hm, hp, ok_bind, checkPrecision_eq haddr, bind_eq_error_iff,
      checkPlaces_eq_error_iff]
    rcases hasked with h | ⟨h, hle⟩
    · simp [Option.mem_def.1 h, hm]
    · have hlow : ¬maxPlaces < places k num den p := by
        have hplaces := places_le k num den p
        have hmax : maxPlaces = 2000054 := rfl
        omega
      simp [h, hlow]

/-! ## Renderings -/

/-- The conversion writes or reads an integer that is too long. -/
def isOverlong (k : Conversion) (v : Value) : Bool :=
  match k with
  | .string => v.isOverlong
  | .decimal | .integer => v.isOverlong || v.startsOverlong
  | .binary | .character | .octal | .unsigned | .hexadecimal | .hexadecimalUpper =>
    v.startsOverlong
  | .scientific | .scientificUpper | .fixed | .short | .shortUpper => false

/-- The conversion asks for too many digits after the point. -/
def isTooFine (s : Specification) (k : Conversion) (v : Value) : Bool :=
  match k with
  | .scientific | .scientificUpper | .fixed | .short | .shortUpper => exceedsPlaces s k v
  | _ => false

/-- Why a plain value has no text under a conversion. -/
inductive Unrendered (s : Specification) (k : Conversion) (v : Value) : Fault → Prop
  | overlong : isOverlong k v → Unrendered s k v .numeral
  | tooFine : isTooFine s k v → Unrendered s k v .tooPrecise

theorem unrendered_iff :
    Unrendered s k v e ↔ e = .numeral ∧ isOverlong k v ∨ e = .tooPrecise ∧ isTooFine s k v := by
  constructor
  · intro h
    cases h with
    | overlong h => exact .inl ⟨rfl, h⟩
    | tooFine h => exact .inr ⟨rfl, h⟩
  · rintro (⟨rfl, h⟩ | ⟨rfl, h⟩)
    · exact .overlong h
    · exact .tooFine h

theorem renderString_eq_error_iff (hv : v.isPlain) :
    (renderString s v).result = .error e ↔ e = .numeral ∧ v.isOverlong := by
  rw [renderString, Traced.result_bind, bind_eq_error_iff, Traced.result_ofExcept,
    Value.toText_eq_error_iff hv]
  simp

theorem renderDecimal_eq_error_iff (hv : v.isPlain) :
    (renderDecimal s v).result = .error e ↔
      e = .numeral ∧ (v.isOverlong || v.startsOverlong) := by
  have hwrite : (∃ n, v.leadingInt.result = .ok n ∧ Numeral.write? n = .error e) ↔
      e = .numeral ∧ v.isOverlong := by
    simp only [Numeral.write?_eq_error_iff]
    constructor
    · rintro ⟨n, hn, he, hlong⟩
      rcases Value.isShort_of_leadingInt hv hn with rfl | hshort
      · exact ⟨he, by simpa [Value.isOverlong] using hlong⟩
      · exact absurd hshort hlong
    · rintro ⟨he, hlong⟩
      cases v with
      | int n => exact ⟨n, rfl, he, by simpa [Value.isOverlong] using hlong⟩
      | _ => cases hlong
  have hresult : (renderDecimal s v).result = .error e ↔
      v.leadingInt.result = .error e ∨
        ∃ n, v.leadingInt.result = .ok n ∧ Numeral.write? n = .error e := by
    simp [renderDecimal, bind_eq_error_iff]
  rw [hresult, hwrite, Value.leadingInt_eq_error_iff hv, Bool.or_eq_true]
  tauto

theorem unsignedForm_lt_word (n : Int) : unsignedForm 32 n < 2 ^ 32 := by
  have hpow : ((Nat.pow 2 32 : Nat) : Int) = 4294967296 := rfl
  rw [unsignedForm, hpow]
  omega

theorem isShort_unsignedForm (n : Int) : Numeral.IsShort (unsignedForm 32 n) := by
  have hlt : unsignedForm 32 n * 2 ^ 0 < 10 ^ Numeral.maxDigits :=
    mul_two_pow_lt (b := 0) (unsignedForm_lt_word n) (Nat.le_refl 0) (by decide)
  exact Numeral.isShort_iff.2 (by simpa using hlt)

/-- An integer of the standard word size can be written under every unsigned conversion. -/
theorem exists_unsignedText (k : Conversion) (n : Int) :
    ∃ t, unsignedText k (unsignedForm 32 n) = .ok t := by
  have hbits (base : Nat) : ∃ t, inBitBase base (unsignedForm 32 n) = .ok t := by
    have hword : Numeral.bitLength (unsignedForm 32 n) ≤ 32 :=
      Numeral.bitLength_le_iff.2 (unsignedForm_lt_word n)
    have hlength : ¬maxDigitBits < Numeral.bitLength (unsignedForm 32 n) :=
      Nat.not_lt.2 (Nat.le_trans hword (by decide))
    exact ⟨_, if_neg hlength⟩
  cases k with
  | character => exact ⟨_, rfl⟩
  | binary | octal | hexadecimal => exact hbits _
  | hexadecimalUpper =>
    obtain ⟨t, ht⟩ := hbits 16
    exact ⟨t.map Char.toUpper, by rw [unsignedText, ht, map_ok]⟩
  | _ => exact ⟨_, Numeral.write?_natCast_eq_ok_iff.2 ⟨isShort_unsignedForm n, rfl⟩⟩

theorem renderUnsigned_eq_error_iff (hv : v.isPlain) :
    (renderUnsigned Settings.standard.defaults k v).result = .error e ↔
      e = .numeral ∧ v.startsOverlong := by
  have htext (n : Int) : unsignedText k (unsignedForm 32 n) ≠ .error e := by
    obtain ⟨t, ht⟩ := exists_unsignedText k n
    simp [ht]
  have hbits : Settings.standard.defaults.integerBits = .ok 32 := rfl
  rw [← Value.leadingInt_eq_error_iff hv]
  simp [renderUnsigned, bind_eq_error_iff, hbits, htext]

theorem renderFloat_eq_error_iff (hv : v.isPlain) (hs : s.IsAddressable) :
    (renderFloat Settings.standard.defaults s k v).result = .error e ↔
      e = .tooPrecise ∧ exceedsPlaces s k v := by
  obtain ⟨x, hx⟩ := Value.exists_leadingFloat hv
  rw [← binaryText_eq_error_iff hs hx]
  simp [renderFloat, bind_eq_error_iff, hx]

/-- **A plain value has a text under a conversion**, unless a numeral is too long or too many digits
    are asked for. -/
theorem render_eq_error_iff (hv : v.isPlain) (hs : s.IsAddressable) :
    (render Settings.standard.defaults s k v).result = .error e ↔ Unrendered s k v e := by
  rw [unrendered_iff]
  cases k with
  | string => simpa [render, isOverlong, isTooFine] using renderString_eq_error_iff hv
  | decimal | integer => simpa [render, isOverlong, isTooFine] using renderDecimal_eq_error_iff hv
  | binary | character | octal | unsigned | hexadecimal | hexadecimalUpper =>
    simpa [render, isOverlong, isTooFine] using renderUnsigned_eq_error_iff hv
  | scientific | scientificUpper | fixed | short | shortUpper =>
    simpa [render, isOverlong, isTooFine] using renderFloat_eq_error_iff hv hs

/-! ## Directives -/

variable {arguments : List Value} {dir : Directive} {index : Int}

/-- A text can be filled up to such a width with copies of one character. -/
theorem exists_align (hs : dir.specification.IsAddressable) (c : Char) (t : Text) :
    ∃ r, align dir.specification [c] t = .ok r := by
  obtain ⟨f, hf⟩ := exists_fillsWith c dir.fill
  have hwidth : dir.specification.width.getD 0 < Text.maxLength := by
    cases hw : dir.specification.width with
    | none => decide
    | some w => exact hs.1 w hw
  exact ⟨_, by rw [align_eq hf.fill_eq, if_pos (Text.reachesWidth_of_lt hwidth t.length)]⟩

theorem compute_eq_error_iff (hv : v.isPlain) (hs : dir.specification.IsAddressable)
    (hk : dir.conversion = some k) :
    (compute Settings.standard.defaults dir.specification v).result = .error e ↔
      Unrendered dir.specification k v e := by
  have hconversion : dir.specification.conversion = some k := hk
  rw [← render_eq_error_iff hv hs, compute, hconversion]
  simp only [Traced.result_bind, bind_eq_error_iff, Traced.result_ofExcept]
  constructor
  · rintro (h | ⟨t, -, h⟩)
    · exact h
    · obtain ⟨r, hr⟩ := exists_align hs ' ' t
      cases hr.symm.trans h
  · exact .inl

/-- How a directive with plain arguments fails, `index` being the one that it resolves to: a number
    in it is too long, or it is refused, or its argument has no text. -/
inductive Fails (arguments : List Value) (index : Int) (dir : Directive) : Fault → Prop
  | unreadable : ¬dir.IsReadable → Fails arguments index dir .numeral
  | refused {f : Fault} : dir.IsReadable → Refused arguments.length index dir f →
      Fails arguments index dir f
  | unrendered {f : Fault} {c : Conversion} : dir.IsReadable →
      ¬dir.IsFaulty arguments.length index → dir.conversion = some c →
      Unrendered dir.specification c (argumentAt arguments index) f → Fails arguments index dir f

theorem argumentAt_mem_or (arguments : List Value) (index : Int) :
    argumentAt arguments index ∈ arguments ∨ argumentAt arguments index = .nothing := by
  unfold argumentAt
  cases h : arguments[index.toNat]? with
  | none => exact .inr rfl
  | some v => exact .inl (List.mem_of_getElem? h)

theorem isPlain_argumentAt (hv : ∀ v ∈ arguments, v.isPlain) (index : Int) :
    (argumentAt arguments index).isPlain := by
  rcases argumentAt_mem_or arguments index with h | h
  · exact hv _ h
  · rw [h]
    rfl

theorem outcome_eq_error_iff {before : Nat} (hv : ∀ v ∈ arguments, v.isPlain)
    (hs : dir.specification.IsAddressable) :
    outcome Settings.standard.defaults arguments (argumentIndex dir before) dir = .error e ↔
      Fails arguments (argumentIndex dir before) dir e := by
  by_cases hread : dir.IsReadable
  · rw [outcome_of_isReadable hread, bind_eq_error_iff, check_eq_error_iff]
    have hplain := isPlain_argumentAt hv (argumentIndex dir before)
    constructor
    · rintro (h | ⟨k, hk, h⟩)
      · exact .refused hread h
      · have hconversion := (check_eq_ok_iff.1 hk).1
        refine .unrendered hread (fun hf => ?_) hconversion
          ((compute_eq_error_iff hplain hs hconversion).1 h)
        obtain ⟨e', he⟩ := exists_refused_iff.2 hf
        cases hk.symm.trans (check_eq_error_iff.2 he)
    · intro h
      cases h with
      | unreadable h => exact absurd hread h
      | refused _ h => exact .inl h
      | unrendered _ hf hconversion h =>
        obtain ⟨k, hk⟩ := check_of_not_refused fun e' he => hf (exists_refused_iff.1 ⟨e', he⟩)
        exact .inr ⟨k, hk, (compute_eq_error_iff hplain hs hconversion).2 h⟩
  · rw [outcome_of_not_isReadable _ _ _ hread, Except.error.injEq]
    constructor
    · rintro rfl
      exact .unreadable hread
    · intro h
      cases h with
      | unreadable => rfl
      | refused h | unrendered h => exact absurd h hread

/-! ## Templates -/

variable {template : Text} {ms : List Found} {m : Found} {i : Nat}

/-- The match `i` fails; a literal percent sign does not. -/
def FailsAt (ms : List Found) (arguments : List Value) (i : Nat) (e : Fault) : Prop :=
  ∃ m ∈ ms[i]?, ∃ dir ∈ m.directive,
    Fails arguments (argumentIndex dir (sequentialBefore ms i)) dir e

/-- The match `i` fails with a fault, and no match before it fails. -/
def FailsFirst (ms : List Found) (arguments : List Value) (i : Nat) (e : Fault) : Prop :=
  FailsAt ms arguments i e ∧ ∀ j < i, ∀ e', ¬FailsAt ms arguments j e'

/-- The widths and precisions in the matches can be addressed. -/
def AllAddressable (ms : List Found) : Prop :=
  ∀ m ∈ ms, ∀ dir ∈ m.directive, dir.specification.IsAddressable

instance (ms : List Found) : Decidable (AllAddressable ms) :=
  inferInstanceAs (Decidable (∀ m ∈ ms, ∀ dir ∈ m.directive, dir.specification.IsAddressable))

theorem outcomeAt_eq_error_iff (hv : ∀ v ∈ arguments, v.isPlain) (hs : AllAddressable ms)
    (hm : ms[i]? = some m) :
    outcomeAt Settings.standard.defaults arguments ms m i = .error e ↔
      FailsAt ms arguments i e := by
  unfold outcomeAt FailsAt
  cases hd : m.directive with
  | none => simp [hm, hd]
  | some dir =>
    rw [outcome_eq_error_iff hv (hs m (List.mem_of_getElem? hm) dir hd)]
    simp [hm, hd]

theorem formatted_eq_error_iff_failsFirst (hv : ∀ v ∈ arguments, v.isPlain)
    (hs : AllAddressable (directives template)) :
    formatted Settings.standard.defaults template arguments = .error e ↔
      ∃ i, FailsFirst (directives template) arguments i e := by
  rw [formatted_eq_error_iff, outcomes_eq_error_iff]
  constructor
  · rintro ⟨i, m, hm, h, hlt⟩
    refine ⟨i, (outcomeAt_eq_error_iff hv hs hm).1 h, fun j hj e' h' => ?_⟩
    obtain ⟨m', hm', -⟩ := id h'
    obtain ⟨r, hr⟩ := hlt j hj m' hm'
    cases hr.symm.trans ((outcomeAt_eq_error_iff hv hs hm').2 h')
  · rintro ⟨i, h, hlt⟩
    obtain ⟨m, hm, -⟩ := id h
    refine ⟨i, m, hm, (outcomeAt_eq_error_iff hv hs hm).2 h, fun j hj m' hm' => ?_⟩
    cases h' : outcomeAt Settings.standard.defaults arguments (directives template) m' j with
    | ok r => exact ⟨r, rfl⟩
    | error e' => exact absurd ((outcomeAt_eq_error_iff hv hs hm').1 h') (hlt j hj e')

/-- No other failures than these three kinds. -/
theorem Fails.isTemplateFault_or (h : Fails arguments index dir e) :
    e.isTemplateFault ∨ e = .numeral ∨ e = .tooPrecise := by
  cases h with
  | unreadable => exact .inr (.inl rfl)
  | refused _ h => exact .inl h.isTemplateFault
  | unrendered _ _ _ h =>
    cases h with
    | overlong => exact .inr (.inl rfl)
    | tooFine => exact .inr (.inr rfl)

theorem isOverlong_eq_false (k : Conversion)
    (hv : ∀ v ∈ arguments, v.isOverlong = false ∧ v.startsOverlong = false) (index : Int) :
    isOverlong k (argumentAt arguments index) = false := by
  have hshort : (argumentAt arguments index).isOverlong = false ∧
      (argumentAt arguments index).startsOverlong = false := by
    rcases argumentAt_mem_or arguments index with h | h
    · exact hv _ h
    · rw [h]
      exact ⟨rfl, rfl⟩
  cases k <;> simp [isOverlong, hshort]

/-- With short numbers in the template and in the arguments, and with precisions within reach, a
    directive fails only by being refused. -/
theorem Fails.isTemplateFault (h : Fails arguments index dir e) (hread : dir.IsReadable)
    (hp : ∀ p ∈ dir.specification.precision, p + 5 ≤ maxPlaces)
    (hv : ∀ v ∈ arguments, v.isOverlong = false ∧ v.startsOverlong = false) :
    e.isTemplateFault := by
  cases h with
  | unreadable h => exact absurd hread h
  | refused _ h => exact h.isTemplateFault
  | @unrendered _ k _ _ _ h =>
    cases h with
    | overlong h =>
      rw [isOverlong_eq_false k hv index] at h
      cases h
    | tooFine h =>
      have hfalse : isTooFine dir.specification k (argumentAt arguments index) = false := by
        cases k with
        | scientific | scientificUpper | fixed | short | shortUpper =>
          exact exceedsPlaces_eq_false hp
        | _ => rfl
      rw [hfalse] at h
      cases h

/-- A text, or the fault of a directive that is refused. -/
def IsTextOrRefusal (r : Except Fault Text) : Prop :=
  (∃ t, r = .ok t) ∨ ∃ e, e.isTemplateFault ∧ r = .error e

theorem isTextOrRefusal_iff {r : Except Fault Text} :
    IsTextOrRefusal r ↔ FailsOnly (·.isTemplateFault) r := by
  unfold IsTextOrRefusal FailsOnly
  cases r <;> simp

/-- **The failures of a template with plain arguments**, its widths and precisions being ones that
    can be addressed.  The first directive that fails decides, so that the template comes to a text
    or is refused unless this is for a number that is too long or a precision that is too high. -/
theorem formatted_failures (hv : ∀ v ∈ arguments, v.isPlain)
    (hs : AllAddressable (directives template)) :
    (∀ e, formatted Settings.standard.defaults template arguments = .error e ↔
        ∃ i, FailsFirst (directives template) arguments i e) ∧
      (IsTextOrRefusal (formatted Settings.standard.defaults template arguments) ↔
        ¬∃ i, FailsFirst (directives template) arguments i .numeral ∨
          FailsFirst (directives template) arguments i .tooPrecise) ∧
      (AllReadable (directives template) →
        (∀ m ∈ directives template, ∀ dir ∈ m.directive, ∀ p ∈ dir.specification.precision,
          p + 5 ≤ maxPlaces) →
        (∀ v ∈ arguments, v.isOverlong = false ∧ v.startsOverlong = false) →
        IsTextOrRefusal (formatted Settings.standard.defaults template arguments)) := by
  have hexact (e : Fault) := formatted_eq_error_iff_failsFirst (e := e) hv hs
  simp only [isTextOrRefusal_iff]
  refine ⟨hexact, ⟨?_, ?_⟩, ?_⟩
  · rintro h ⟨i, hi | hi⟩
    · cases h _ ((hexact _).2 ⟨i, hi⟩)
    · cases h _ ((hexact _).2 ⟨i, hi⟩)
  · intro h e he
    obtain ⟨i, hi⟩ := (hexact e).1 he
    obtain ⟨m, hm, dir, hd, hfails⟩ := hi.1
    rcases hfails.isTemplateFault_or with he | rfl | rfl
    · exact he
    · exact absurd ⟨i, .inl hi⟩ h
    · exact absurd ⟨i, .inr hi⟩ h
  · intro hread hp hshort e he
    obtain ⟨i, ⟨m, hm, dir, hd, hfails⟩, -⟩ := (hexact e).1 he
    have hmem := List.mem_of_getElem? hm
    exact hfails.isTemplateFault (hread m hmem dir hd) (hp m hmem dir hd) hshort

/-- So many zeros are not read as a zero. -/
theorem formatted_zeros :
    (∀ v ∈ [Value.text (List.replicate 4301 '0')], v.isPlain) ∧
      AllAddressable (directives "%d".toList) ∧
      formatted Settings.standard.defaults "%d".toList [.text (List.replicate 4301 '0')] =
        .error .numeral := by
  have hd : directives "%d".toList =
      [⟨0, 2, some ⟨none, false, none, false, none, none, some .decimal⟩⟩] := by decide +kernel
  have hv : ∀ v ∈ [Value.text (List.replicate 4301 '0')], v.isPlain := by
    intro v hv
    obtain rfl := List.mem_singleton.1 hv
    rfl
  have hs : AllAddressable (directives "%d".toList) := by
    rw [hd]
    decide
  have hlong : isOverlong .decimal (.text (List.replicate 4301 '0')) := by
    have hstarts : (Value.text (List.replicate 4301 '0')).startsOverlong :=
      Value.startsOverlong_of_digits (fun c hc => by rw [List.eq_of_mem_replicate hc]; rfl)
        (by rw [List.length_replicate]; decide)
    rw [isOverlong, hstarts, Bool.or_true]
  refine ⟨hv, hs, ((formatted_failures hv hs).1 .numeral).2
    ⟨0, ?_, fun j hj => absurd hj (Nat.not_lt_zero j)⟩⟩
  rw [hd]
  exact ⟨_, rfl, _, rfl, .unrendered (by decide) (by decide) rfl (.overlong hlong)⟩

end Directive

end Textwork
