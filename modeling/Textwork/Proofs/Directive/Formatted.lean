/-
  Templates with a list of arguments.

  * `formatted` is the text that they come to;
  * `formatted_of_not_faulty`: without faulty directives it is woven from the
    gaps of the template and the renderings of its arguments;
  * `formatted_refused`: the first faulty directive decides the fault, if those
    before it can be rendered.
-/
import Textwork.Proofs.Directive.Refusal

namespace Textwork.Directive

open Template

variable {d : Defaults} {arguments : List Value} {e : Fault}

/-- The text of a template with a list of arguments. -/
def formatted (d : Defaults) (template : Text) (arguments : List Value) : Except Fault Text :=
  (formatValue d (.text template) (.list arguments)).result

theorem formatted_eq (template : Text) :
    formatted d template arguments =
      (outcomes d arguments (directives template)).map (weave (gaps template)) := by
  rw [formatted, formatValue_text_list, result_format]

theorem formatted_eq_error_iff {template : Text} :
    formatted d template arguments = .error e ↔
      outcomes d arguments (directives template) = .error e := by
  rw [formatted_eq]
  cases outcomes d arguments (directives template) <;> simp

/-! ## Templates without faulty directives -/

/-- **A template without faulty directives is woven from its gaps and its renderings**, each of an
    argument that is there; it does not matter whether the arguments come as a list. -/
theorem formatted_of_not_faulty (d : Defaults) {template : Text} {arguments : List Value}
    (hn : AllReadable (directives template))
    (hf : ∀ i, ¬FaultyAt (directives template) arguments.length i) :
    formatted d template arguments =
        (renderings d arguments (directives template)).map (weave (gaps template)) ∧
      (∀ i m dir, (directives template)[i]? = some m → m.directive = some dir →
        ∃ (j : Nat) (v : Value),
          argumentIndex dir (sequentialBefore (directives template) i) = j ∧
          arguments[j]? = some v ∧
          argumentAt arguments (argumentIndex dir (sequentialBefore (directives template) i)) = v) ∧
      (formatArguments d (.text template) arguments).result =
        formatted d template arguments := by
  refine ⟨?_, fun i m dir hm hd => ?_, ?_⟩
  · rw [formatted_eq, outcomes_of_not_faultyAt hn hf]
  · obtain ⟨k, hk⟩ := check_of_not_refused
      fun e he => hf i (exists_refusedAt_iff.1 ⟨e, m, hm, dir, hd, he⟩)
    obtain ⟨-, h₀, hlt⟩ := check_eq_ok_iff.1 hk
    exact argumentAt_of_lt h₀ hlt
  · rw [formatArguments_text, formatted, formatValue_text_list]

/-- Arguments in exchanged order, and a percent sign. -/
theorem formatted_swapped :
    AllReadable (directives "%2$s is %s%%".toList) ∧
      (∀ i, ¬FaultyAt (directives "%2$s is %s%%".toList) 2 i) ∧
      formatted Settings.standard.defaults "%2$s is %s%%".toList [.text ['a'], .text ['b']] =
        .ok "b is a%".toList := by
  have hd : directives "%2$s is %s%%".toList =
      [⟨0, 4, some ⟨some ['2'], false, none, false, none, none, some .string⟩⟩,
        ⟨8, 10, some ⟨none, false, none, false, none, none, some .string⟩⟩,
        ⟨10, 12, none⟩] := by decide +kernel
  have hn : AllReadable (directives "%2$s is %s%%".toList) := by
    rw [hd]
    decide
  have hlt : ∀ i < (directives "%2$s is %s%%".toList).length,
      ¬FaultyAt (directives "%2$s is %s%%".toList) [Value.text ['a'], .text ['b']].length i := by
    rw [hd]
    decide
  have hf (i : Nat) : ¬FaultyAt (directives "%2$s is %s%%".toList)
      [Value.text ['a'], .text ['b']].length i := fun h => hlt i h.lt_length h
  refine ⟨hn, hf, ?_⟩
  rw [(formatted_of_not_faulty Settings.standard.defaults hn hf).1, gaps, hd]
  rfl

/-! ## The fault of a template -/

/-- The first faulty match decides, if the matches before it have renderings. -/
theorem formatted_eq_templateFault_iff (s : Settings) {template : Text} {arguments : List Value}
    (hn : AllReadable (directives template)) {e : Fault} (he : e.isTemplateFault) :
    formatted s.defaults template arguments = .error e ↔
      ∃ i, RefusedAt (directives template) arguments.length i e ∧
        ∀ j < i, ¬FaultyAt (directives template) arguments.length j ∧
          RendersAt s.defaults arguments (directives template) j := by
  rw [formatted_eq_error_iff, outcomes_eq_error_iff]
  constructor
  · rintro ⟨i, m, hm, h, hlt⟩
    refine ⟨i, (outcomeAt_eq_error hn hm he).1 h, fun j hj => ?_⟩
    obtain ⟨hi, -⟩ := List.getElem?_eq_some_iff.1 hm
    have hm' : (directives template)[j]? = some (directives template)[j] :=
      List.getElem?_eq_getElem (by omega)
    exact (exists_outcomeAt_iff hn hm').1 (hlt j hj _ hm')
  · rintro ⟨i, h, hlt⟩
    have ⟨m, hm, _⟩ := h
    exact ⟨i, m, hm, outcomeAt_of_refusedAt hn hm h, fun j hj m' hm' =>
      (exists_outcomeAt_iff hn hm').2 (hlt j hj)⟩

/-- **The first faulty directive decides the fault of a template**, whatever follows it, if those
    before it have renderings.  So arguments behind those of a call that succeeds change nothing,
    and text behind a template that fails changes nothing if it leaves the matches as they are. -/
theorem formatted_refused (s : Settings) {template : Text} {arguments : List Value}
    (hn : AllReadable (directives template)) :
    ((∃ e, e.isTemplateFault ∧ formatted s.defaults template arguments = .error e) ↔
        ∃ i, FaultyAt (directives template) arguments.length i ∧
          ∀ j < i, ¬FaultyAt (directives template) arguments.length j ∧
            RendersAt s.defaults arguments (directives template) j) ∧
      (∀ e, e.isTemplateFault →
        (formatted s.defaults template arguments = .error e ↔
          ∃ i, RefusedAt (directives template) arguments.length i e ∧
            ∀ j < i, ¬FaultyAt (directives template) arguments.length j ∧
              RendersAt s.defaults arguments (directives template) j)) ∧
      (∀ more r, formatted s.defaults template arguments = .ok r →
        formatted s.defaults template (arguments ++ more) = .ok r) ∧
      (∀ behind e, directives template <+: directives (template ++ behind) →
        formatted s.defaults template arguments = .error e →
        formatted s.defaults (template ++ behind) arguments = .error e) := by
  refine ⟨⟨?_, ?_⟩, fun e he => formatted_eq_templateFault_iff s hn he, ?_, ?_⟩
  · rintro ⟨e, he, h⟩
    obtain ⟨i, hi, hlt⟩ := (formatted_eq_templateFault_iff s hn he).1 h
    exact ⟨i, exists_refusedAt_iff.1 ⟨e, hi⟩, hlt⟩
  · rintro ⟨i, hi, hlt⟩
    obtain ⟨e, h⟩ := exists_refusedAt_iff.2 hi
    have he : e.isTemplateFault := by
      obtain ⟨m, -, dir, -, h⟩ := h
      exact h.isTemplateFault
    exact ⟨e, he, (formatted_eq_templateFault_iff s hn he).2 ⟨i, h, hlt⟩⟩
  · intro more r h
    rw [formatted_eq] at h ⊢
    cases ho : outcomes s.defaults arguments (directives template) with
    | error e =>
      rw [ho] at h
      cases h
    | ok rs => rw [outcomes_append_arguments more ho, ← ho, h]
  · rintro behind e ⟨rest, hrest⟩ h
    rw [formatted_eq_error_iff] at h ⊢
    rw [← hrest]
    exact outcomes_append_matches rest h

/-- The second directive has no letter; it does not matter that the third has no argument. -/
theorem formatted_first_refused :
    AllReadable (directives "%s %y %s".toList) ∧
      formatted Settings.standard.defaults "%s %y %s".toList [.text "only one".toList] =
        .error .noTypeLetter := by
  have hd : directives "%s %y %s".toList =
      [⟨0, 2, some ⟨none, false, none, false, none, none, some .string⟩⟩,
        ⟨3, 4, some ⟨none, false, none, false, none, none, none⟩⟩,
        ⟨6, 8, some ⟨none, false, none, false, none, none, some .string⟩⟩] := by decide +kernel
  have hn : AllReadable (directives "%s %y %s".toList) := by
    rw [hd]
    decide
  refine ⟨hn, ((formatted_refused Settings.standard hn).2.1 .noTypeLetter rfl).2 ?_⟩
  rw [hd]
  refine ⟨1, ⟨_, rfl, _, rfl, .noLetter rfl⟩, fun j hj => ?_⟩
  obtain rfl : j = 0 := by omega
  exact ⟨by decide, _, rfl, _, rfl⟩

/-- A width out of reach ends the template before its second directive is looked at. -/
theorem formatted_before_faulty :
    AllReadable (directives "%1000000000000000000000000000000s%".toList) ∧
      ¬((∃ e, e.isTemplateFault ∧
          formatted Settings.standard.defaults "%1000000000000000000000000000000s%".toList
            [.text ['a']] = .error e) ↔
        ∃ i, FaultyAt (directives "%1000000000000000000000000000000s%".toList) 1 i) := by
  have hd : directives "%1000000000000000000000000000000s%".toList =
      [⟨0, 33, some ⟨none, false, none, false, some "1000000000000000000000000000000".toList,
          none, some .string⟩⟩,
        ⟨33, 34, some ⟨none, false, none, false, none, none, none⟩⟩] := by decide +kernel
  have hr : formatted Settings.standard.defaults "%1000000000000000000000000000000s%".toList
      [.text ['a']] = .error .tooLarge := by
    rw [formatted_eq_error_iff, hd]
    rfl
  refine ⟨by rw [hd]; decide, fun h => ?_⟩
  obtain ⟨e, he, h'⟩ := h.2 ⟨1, by rw [hd]; decide⟩
  rw [hr] at h'
  cases h'
  cases he

end Textwork.Directive
