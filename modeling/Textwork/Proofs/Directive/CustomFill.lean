/-
  The characters that can be the fill of a directive.

  * `formatArguments_written`: a template that is one directive comes to what the
    directive comes to;
  * `formatArguments_filling`: a text is filled up to a width with the character
    behind a quote, whichever it is, but for a line feed, which is not read as a
    fill.
-/
import Textwork.Proofs.Directive.Alignment
import Textwork.Proofs.Directive.Writing

namespace Textwork.Directive

open Template

variable {d : Defaults} {arguments : List Value} {dir : Directive}

/-! ## Templates of one directive -/

theorem result_format_of_scan {template : Text} {rest : List Segment}
    (h : scan template = .directive dir :: rest) :
    (format d template arguments).result =
      outcome d arguments (argumentIndex dir 0) dir >>= fun t =>
        (formatFrom d arguments (nextIndex dir 0 : Nat) rest).result.map (t ++ ·) := by
  rw [format, h]
  exact result_formatFrom_directive d arguments 0 dir rest

/-- A template that is a directive with a letter comes to what the directive comes to. -/
theorem formatArguments_written (h : dir.WellFormed) (hz : dir.ZeroFills)
    (hk : dir.conversion ≠ none) :
    (formatArguments d (.text dir.written) arguments).result =
      outcome d arguments (argumentIndex dir 0) dir := by
  have hscan : scan dir.written = [.directive dir] := by
    have hnil : scan [] = [] := by simp [scan]
    rw [← hnil, ← scan_written_append h hz hk, List.append_nil]
  rw [formatArguments_text, result_format_of_scan hscan]
  cases outcome d arguments (argumentIndex dir 0) dir with
  | error e => rfl
  | ok t => simp [formatFrom]

/-! ## Fills behind a quote -/

/-- The directive for texts with a fill, an alignment and a width. -/
def filling (c : Char) (minus : Bool) (w : Nat) : Directive :=
  { bare with
    fill := some (.custom c), minus, width := some (Numeral.ofNat w), conversion := some .string }

variable {c : Char} {minus : Bool} {w : Nat}

theorem written_filling :
    (filling c minus w).written =
      "%'".toList ++ c :: (flag minus '-' ++ (Numeral.ofNat w ++ ['s'])) := rfl

theorem wellFormed_filling (hc : c ≠ '\n') : (filling c minus w).WellFormed where
  position := by simp [filling, bare]
  fill := by simpa [filling] using hc
  width := by simpa [filling] using isNumber_ofNat w
  precision := by simp [filling, bare]

theorem isReadable_filling_iff :
    (filling c minus w).IsReadable ↔ (Numeral.ofNat w).length ≤ Numeral.maxDigits := by
  simp [IsReadable, numbers, filling, bare]

theorem align_filling (default v : Text) :
    align (filling c minus w).specification default v =
      if Text.ReachesWidth w v.length then .ok (filled minus (w - v.length) c v)
      else .error .tooLarge := by
  have hwidth : (filling c minus w).specification.width = some w :=
    congrArg some (Numeral.value_ofNat w)
  have hleft : (filling c minus w).specification.leftAligned = minus := by
    cases minus <;> rfl
  rw [align_eq rfl, hwidth, hleft, Option.getD_some]

/-- A text is filled up, unless the width is too long to be read or a text of that width cannot be
    made. -/
theorem outcome_filling (d : Defaults) (v : Text) :
    outcome d [.text v] 0 (filling c minus w) =
      if Numeral.maxDigits < (Numeral.ofNat w).length then .error .numeral
      else if Text.ReachesWidth w v.length then .ok (filled minus (w - v.length) c v)
      else .error .tooLarge := by
  by_cases hw : Numeral.maxDigits < (Numeral.ofNat w).length
  · rw [if_pos hw, outcome_of_not_isReadable]
    rw [isReadable_filling_iff]
    exact Nat.not_le.2 hw
  · have hcheck : check 0 [Value.text v].length (filling c minus w).conversion = .ok .string := rfl
    rw [if_neg hw, outcome_of_isReadable (isReadable_filling_iff.2 (Nat.not_lt.1 hw)), hcheck,
      ok_bind, ← align_filling d.padding]
    exact result_compute (k := .string) rfl rfl

/-- A line feed behind a quote is not read as a fill, so that the percent sign stands alone. -/
theorem scan_lineFeed (rest : Text) :
    scan ("%'".toList ++ '\n' :: rest) = .directive bare :: scan ('\'' :: '\n' :: rest) := by
  have hread : read ('\'' :: '\n' :: rest) = (bare, '\'' :: '\n' :: rest) := rfl
  have hhead : ('\'' :: '\n' :: rest).head? ≠ some '%' := by simp
  have hscan := scan_directive hhead
  rw [hread] at hscan
  exact hscan

/-- **Any character but a line feed can be the fill**: a text is filled up to the width with it, on
    the right with `-` and on the left without, unless the width is too long to be read or a text of
    that width cannot be made. -/
theorem formatArguments_filling (d : Defaults) (c : Char) (minus : Bool) (w : Nat) (v : Text) :
    (formatArguments d
        (.text ("%'".toList ++ c :: (flag minus '-' ++ (Numeral.ofNat w ++ ['s']))))
        [.text v]).result =
      if c = '\n' then .error .noTypeLetter
      else if Numeral.maxDigits < (Numeral.ofNat w).length then .error .numeral
      else if Text.ReachesWidth w v.length then
        .ok (if minus then v ++ List.replicate (w - v.length) c
          else List.replicate (w - v.length) c ++ v)
      else .error .tooLarge := by
  by_cases hc : c = '\n'
  · subst hc
    have hbare : outcome d [.text v] (argumentIndex bare 0) bare = .error .noTypeLetter := rfl
    rw [if_pos rfl, formatArguments_text, result_format_of_scan (scan_lineFeed _), hbare,
      error_bind]
  · have hzero : (filling c minus w).ZeroFills := fun hfill => by cases hfill
    rw [if_neg hc, ← written_filling,
      formatArguments_written (wellFormed_filling hc) hzero (Option.some_ne_none _)]
    exact outcome_filling d v

/-- Line feeds are not filled in. -/
theorem lineFeed_not_filled :
    (formatArguments Settings.standard.defaults
        (.text ("%'".toList ++ '\n' :: (flag false '-' ++ (Numeral.ofNat 5 ++ ['s']))))
        [.text "ab".toList]).result ≠ .ok "\n\n\nab".toList := by
  decide +kernel

end Textwork.Directive
