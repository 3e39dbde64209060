/-
  Templates that are written out.

  * `Directive.Parts` are the parts that a directive can be made of;
    `directives_written`: written out between other texts the directive is the
    first match, and it asks for just these parts;
  * `escaped` doubles the percent signs of a text; `formatArguments_escaped`: a
    template made of escaped texts with `%s` between them puts texts between
    these texts.
-/
import Textwork.Proofs.Directive.Matches
import Textwork.Proofs.Number.Numeral

namespace Textwork

namespace Directive

theorem isNumber_ofNat (n : Nat) : IsNumber (Numeral.ofNat n) :=
  ⟨Numeral.ofNat_ne_nil n, fun _ hc => Numeral.isDigit_of_mem_ofNat hc⟩

theorem isNumber_map_ofNat {n : Option Nat} : ∀ ds ∈ n.map Numeral.ofNat, IsNumber ds := by
  intro ds hds
  obtain ⟨m, -, rfl⟩ := Option.map_eq_some_iff.1 hds
  exact isNumber_ofNat m

theorem number?_map_ofNat {n : Option Nat}
    (h : ∀ m ∈ n, (Numeral.ofNat m).length ≤ Numeral.maxDigits) :
    number? (n.map Numeral.ofNat) = .ok n := by
  refine number?_eq_ok_iff.2 ⟨fun ds hds => ?_, ?_⟩
  · obtain ⟨m, hm, rfl⟩ := Option.map_eq_some_iff.1 hds
    exact h m hm
  · cases n <;> simp [Numeral.value_ofNat]

/-! ## Directives with chosen parts -/

/-- The parts of a directive: any choice of them, but that a zero in the place of the fill would be
    the fill. -/
structure Parts where
  position : Option Nat
  plus : Bool
  fill : Option Fill
  minus : Bool
  width : Option Nat
  precision : Option Nat
  conversion : Conversion
  fill_ne : fill ≠ some (.custom '\n')
  width_ne : fill = none → minus = false → width ≠ some 0
  length_le : ∀ n ∈ position.toList ++ width.toList ++ precision.toList,
    (Numeral.ofNat n).length ≤ Numeral.maxDigits

namespace Parts

/-- The directive with these parts, its numbers in decimal. -/
def directive (c : Parts) : Directive where
  position := c.position.map Numeral.ofNat
  plus := c.plus
  fill := c.fill
  minus := c.minus
  width := c.width.map Numeral.ofNat
  precision := c.precision.map Numeral.ofNat
  conversion := some c.conversion

/-- What these parts ask for, apart from the choice of the argument. -/
def specification (c : Parts) : Specification where
  percent := ['%']
  sign := if c.plus then some ['+'] else none
  padding := c.fill.map Fill.written
  alignment := if c.minus then some ['-'] else none
  width := c.width
  precision := c.precision
  conversion := some c.conversion

variable (c : Parts)

theorem wellFormed_directive : c.directive.WellFormed :=
  ⟨isNumber_map_ofNat, c.fill_ne, isNumber_map_ofNat, isNumber_map_ofNat⟩

theorem zeroFills_directive : c.directive.ZeroFills := by
  intro hf hm ds hds
  obtain ⟨n, hn, rfl⟩ := Option.map_eq_some_iff.1 hds
  refine Numeral.head?_ofNat_ne fun h0 => ?_
  exact c.width_ne hf hm (by rw [hn, h0])

theorem specification?_directive : c.directive.specification? = .ok c.specification := by
  have hw : number? c.directive.width = .ok c.width :=
    number?_map_ofNat fun n hn => c.length_le n (by simp_all)
  have hp : number? c.directive.precision = .ok c.precision :=
    number?_map_ofNat fun n hn => c.length_le n (by simp_all)
  rw [specification?, hw, hp]
  rfl

theorem position?_directive : c.directive.position? = .ok c.position :=
  number?_map_ofNat fun n hn => c.length_le n (by simp_all)

end Parts

end Directive

namespace Template

open Directive

/-- Plain text only moves what is found behind it. -/
theorem locate_scan_append {p : Text} (hp : '%' ∉ p) (q : Text) (i : Nat) :
    locate i (scan (p ++ '%' :: q)) = locate (i + p.length) (scan ('%' :: q)) := by
  cases p with
  | nil => rfl
  | cons c p =>
    have hc : c ≠ '%' := fun h => hp (h ▸ List.mem_cons_self)
    have hplain : ∀ a ∈ p, (a != '%') = true := fun a ha => by
      have : a ≠ '%' := fun h => hp (h ▸ List.mem_cons_of_mem _ ha)
      simpa using this
    rw [List.cons_append, scan_plain _ hc, List.takeWhile_append_of_pos hplain,
      List.dropWhile_append_of_pos hplain, locate]
    simp

/-- A directive with a letter is found where it is written. -/
theorem scan_written_append {d : Directive} (h : d.WellFormed) (hz : d.ZeroFills)
    (hk : d.conversion ≠ none) (q : Text) :
    scan (d.written ++ q) = .directive d :: scan q := by
  have hhead : (d.tail ++ q).head? ≠ some '%' := by
    rw [List.head?_append_of_ne_nil _ (tail_ne_nil hk)]
    exact head?_tail_ne h
  rw [written, List.cons_append, scan_directive hhead, read_tail_append h hz hk q]

/-- **A directive written out between other texts is the first match**, if no percent sign comes
    before it, and it asks for just its parts. -/
theorem directives_written (c : Parts) {p : Text} (hp : '%' ∉ p) (q : Text) :
    (∃ more, directives (p ++ c.directive.written ++ q) =
        ⟨p.length, p.length + c.directive.written.length, some c.directive⟩ :: more) ∧
      c.directive.specification? = .ok c.specification ∧
      c.directive.position? = .ok c.position := by
  have hscan := scan_written_append c.wellFormed_directive c.zeroFills_directive
    (Option.some_ne_none c.conversion) q
  refine ⟨?_, c.specification?_directive, c.position?_directive⟩
  have hplain := locate_scan_append hp (c.directive.tail ++ q) 0
  rw [Nat.zero_add] at hplain
  rw [directives, List.append_assoc, written, List.cons_append, hplain]
  rw [written, List.cons_append] at hscan
  rw [hscan, locate]
  exact ⟨_, rfl⟩

/-- A fill that is a percent sign, behind a text with a dollar sign and before another directive. -/
theorem directives_written_percent :
    '%' ∉ "cost $".toList ∧
      ∃ more, directives "cost $%2$+'%-10.3f%d".toList =
        ⟨6, 18, some ⟨some ['2'], true, some (.custom '%'), true, some ['1', '0'], some ['3'],
          some .fixed⟩⟩ :: more := by
  have hp : '%' ∉ "cost $".toList := by decide
  obtain ⟨more, hmore⟩ := (directives_written
    ⟨some 2, true, some (.custom '%'), true, some 10, some 3, .fixed, by decide, by decide,
      by decide⟩ hp "%d".toList).1
  exact ⟨hp, more, hmore⟩

end Template

namespace Directive

open Template

/-! ## Escaped text -/

/-- A text with every percent sign doubled. -/
def escaped (t : Text) : Text := t.flatMap fun c => if c = '%' then ['%', '%'] else [c]

theorem escaped_cons (c : Char) (t : Text) :
    escaped (c :: t) = (if c = '%' then ['%', '%'] else [c]) ++ escaped t := rfl

variable (d : Defaults) (arguments : List Value)

/-- A plain character stands for itself, whatever follows it. -/
theorem result_formatFrom_plain {c : Char} (hc : c ≠ '%') (next : Int) (rest : Text) :
    (formatFrom d arguments next (scan (c :: rest))).result =
      (formatFrom d arguments next (scan rest)).result.map (c :: ·) := by
  rw [scan_plain rest hc, formatFrom, Traced.result_map]
  cases rest with
  | nil => simp [scan, formatFrom]
  | cons a rest =>
    by_cases ha : a = '%'
    · subst ha
      rfl
    · -- The plain text goes on, so that both scans end it in the same place.
      rw [scan_plain rest ha, formatFrom, Traced.result_map]
      simp only [List.takeWhile_cons, List.dropWhile_cons, bne_iff_ne, ne_eq, ha,
        not_false_eq_true, if_true]
      cases (formatFrom d arguments next (scan (rest.dropWhile (· != '%')))).result <;> rfl

/-- Escaped text stands for the text, whatever follows it. -/
theorem result_formatFrom_escaped (t : Text) (next : Int) (rest : Text) :
    (formatFrom d arguments next (scan (escaped t ++ rest))).result =
      (formatFrom d arguments next (scan rest)).result.map (t ++ ·) := by
  have hcomp (c : Char) (t : Text) (r : Except Fault Text) :
      (r.map (t ++ ·)).map (c :: ·) = r.map ((c :: t) ++ ·) := by cases r <;> rfl
  induction t with
  | nil =>
    change (formatFrom d arguments next (scan rest)).result = _
    cases (formatFrom d arguments next (scan rest)).result <;> rfl
  | cons c t ih =>
    rw [escaped_cons, List.append_assoc, ← hcomp, ← ih]
    by_cases hc : c = '%'
    · subst hc
      rw [if_pos rfl, List.cons_append, List.cons_append, List.nil_append, scan_percent, formatFrom,
        Traced.result_map]
    · rw [if_neg hc, List.singleton_append, result_formatFrom_plain d arguments hc]

/-- The directive `%s`. -/
def plainString : Directive := { bare with conversion := some .string }

theorem scan_plainString (rest : Text) :
    scan ('%' :: 's' :: rest) = .directive plainString :: scan rest := by
  have hwell : plainString.WellFormed := by constructor <;> simp [plainString, bare]
  have hzero : plainString.ZeroFills := fun _ _ ds hds => by simp [plainString, bare] at hds
  exact scan_written_append hwell hzero (by simp [plainString]) rest

theorem outcome_plainString {n : Nat} {v : Text} (hv : arguments[n]? = some (.text v)) :
    outcome d arguments n plainString = .ok v := by
  have hlt := (List.getElem?_eq_some_iff.1 hv).1
  have hcheck : check n arguments.length plainString.conversion = .ok .string :=
    check_eq_ok_iff.2 ⟨rfl, by omega, by omega⟩
  have hat : argumentAt arguments n = .text v := by simp [argumentAt, hv]
  rw [outcome_of_isReadable (by decide), hcheck, hat]
  rfl

/-- The directive `%s` stands for the text that is its argument. -/
theorem result_formatFrom_string {n : Nat} {v : Text} (hv : arguments[n]? = some (.text v))
    (rest : Text) :
    (formatFrom d arguments n (scan ('%' :: 's' :: rest))).result =
      (formatFrom d arguments (n + 1 : Nat) (scan rest)).result.map (v ++ ·) := by
  have hindex : argumentIndex plainString n = n := rfl
  have hnext : nextIndex plainString n = n + 1 := rfl
  rw [scan_plainString, result_formatFrom_directive, hindex, hnext,
    outcome_plainString d arguments hv, ok_bind]

/-- The arguments before those of the parts that are left have been taken. -/
theorem result_formatFrom_parts (left : List (Text × Text)) (taken : List Value) :
    (formatFrom d (taken ++ left.map fun (v, _) => .text v) taken.length
        (scan (left.flatMap fun (_, t) => '%' :: 's' :: escaped t))).result =
      .ok (left.flatMap fun (v, t) => v ++ t) := by
  induction left generalizing taken with
  | nil => simp [scan, formatFrom]
  | cons p left ih =>
    obtain ⟨v, t⟩ := p
    have hv : (taken ++ ((v, t) :: left).map fun (v, _) => Value.text v)[taken.length]? =
        some (.text v) := by simp
    have hleft := ih (taken ++ [.text v])
    simp only [List.append_assoc, List.singleton_append, List.length_append,
      List.length_singleton] at hleft
    rw [List.flatMap_cons, List.cons_append, List.cons_append, result_formatFrom_string d _ hv,
      result_formatFrom_escaped, List.map_cons, hleft]
    simp

/-- **A template of escaped texts with `%s` between them** puts its arguments between the texts. -/
theorem formatArguments_escaped (t₀ : Text) (parts : List (Text × Text)) :
    (formatArguments d (.text (escaped t₀ ++ parts.flatMap fun (_, t) => '%' :: 's' :: escaped t))
        (parts.map fun (v, _) => .text v)).result =
      .ok (t₀ ++ parts.flatMap fun (v, t) => v ++ t) := by
  have hparts := result_formatFrom_parts d parts []
  rw [formatArguments_text, format, result_formatFrom_escaped]
  exact congrArg (Except.map (t₀ ++ ·)) hparts

/-- Percent signs in the texts and in the argument. -/
example :
    (formatArguments Settings.standard.defaults (.text "%%%s%%%%".toList)
        [.text "100%d".toList]).result = .ok "%100%d%%".toList := by
  decide +kernel

end Directive

end Textwork
