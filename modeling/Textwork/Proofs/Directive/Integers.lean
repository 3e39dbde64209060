/-
  Integers that are printed and read again.

  * `PrintsInteger` are the directives of decimal integers whose fill is a space;
    `formatArguments_integer`: they print the integer of a value with its sign
    and with spaces on one side, so that values with the same integer are printed
    alike;
  * `leadingInt_filled`: an integer between spaces and with any text behind it is
    read as that integer;
  * `printed_leadingInt`: so the integer that is printed is read again, and
    printing what was printed changes nothing.
-/
import Textwork.Proofs.Directive.CustomFill
import Textwork.Proofs.Number.Leading
import Textwork.Proofs.Number.Positional
import Textwork.Proofs.Value.Plain

namespace Textwork.Directive

open Template

variable {dir : Directive} {n : ℤ} {v : Value} {junk ws : Text}

/-! ## What is printed -/

/-- The sign of an integer, from zero on only if a plus sign is asked for. -/
def signText (plus : Bool) (n : ℤ) : Text :=
  if n < 0 then ['-'] else if plus then ['+'] else []

/-- The decimal numeral of an integer with its sign. -/
def integerText (plus : Bool) (n : ℤ) : Text := signText plus n ++ Numeral.ofNat n.natAbs

/-- The directives of decimal integers that are filled with spaces and take the first argument. -/
structure PrintsInteger (dir : Directive) : Prop where
  wellFormed : dir.WellFormed
  zeroFills : dir.ZeroFills
  conversion : dir.conversion = some .decimal ∨ dir.conversion = some .integer
  fill : ∀ f ∈ dir.fill, f = .space ∨ f = .custom ' '
  first : argumentIndex dir 0 = 0

/-- The width of a directive, zero if it has none. -/
def leastWidth (dir : Directive) : ℕ := (dir.width.map Numeral.value).getD 0

theorem withPlus_eq (s : Specification) (n : ℤ) :
    withPlus s (n < 0) (if n < 0 then '-' :: Numeral.ofNat n.natAbs else Numeral.ofNat n.natAbs) =
      integerText s.forcesSign n := by
  unfold withPlus integerText signText
  by_cases hn : n < 0
  · simp [hn]
  · cases s.forcesSign <;> simp [hn]

theorem result_renderDecimal (s : Specification) (hv : v.leadingInt.result = .ok n)
    (hn : Numeral.IsShort n) :
    (renderDecimal s v).result = .ok (integerText s.forcesSign n) := by
  have hwrite : Numeral.write? n =
      .ok (if n < 0 then '-' :: Numeral.ofNat n.natAbs else Numeral.ofNat n.natAbs) :=
    if_neg (Nat.not_lt.2 hn)
  simp only [renderDecimal, Traced.result_bind, Traced.result_ofExcept, hv, hwrite, ok_bind,
    withPlus_eq]
  rfl

namespace PrintsInteger

theorem fill_eq (h : dir.PrintsInteger) : dir.specification.fill [' '] = [' '] := by
  have hfill := h.fill
  unfold Specification.fill specification
  cases hf : dir.fill with
  | none => rfl
  | some f =>
    rcases hfill f hf with rfl | rfl
    · rfl
    · rfl

/-- The rendering of a value depends on its integer only. -/
theorem result_compute (h : dir.PrintsInteger) (hv : v.leadingInt.result = .ok n)
    (hn : Numeral.IsShort n) :
    (compute Settings.standard.defaults dir.specification v).result =
      align dir.specification [' '] (integerText dir.plus n) := by
  have hplus : dir.specification.forcesSign = dir.plus := by
    unfold Specification.forcesSign specification
    cases dir.plus <;> rfl
  have hrender := result_renderDecimal dir.specification hv hn
  rw [hplus] at hrender
  rcases h.conversion with hk | hk
  · exact Directive.result_compute (k := .decimal) hk hrender
  · exact Directive.result_compute (k := .integer) hk hrender

/-- **A directive of decimal integers prints the integer of its argument**, with spaces on one side
    up to the width, unless a number in it is too long to be read or a text of that width cannot be
    made. -/
theorem formatArguments_integer (h : dir.PrintsInteger) (hv : v.leadingInt.result = .ok n)
    (hn : Numeral.IsShort n) :
    (formatArguments Settings.standard.defaults (.text dir.written) [v]).result =
      if ¬dir.IsReadable then .error .numeral
      else if Text.ReachesWidth dir.leastWidth (integerText dir.plus n).length then
        .ok (filled dir.minus (dir.leastWidth - (integerText dir.plus n).length) ' '
          (integerText dir.plus n))
      else .error .tooLarge := by
  have hletter : ∃ k, dir.conversion = some k := h.conversion.elim (⟨_, ·⟩) (⟨_, ·⟩)
  obtain ⟨k, hk⟩ := hletter
  rw [formatArguments_written h.wellFormed h.zeroFills (by simp [hk]), h.first]
  by_cases hread : dir.IsReadable
  · have hcheck : check 0 [v].length dir.conversion = .ok k :=
      check_eq_ok_iff.2 ⟨hk, le_rfl, by simp⟩
    have hleft : dir.specification.leftAligned = dir.minus := by
      unfold Specification.leftAligned specification
      cases dir.minus <;> rfl
    have hargument : argumentAt [v] 0 = v := rfl
    rw [outcome_of_isReadable hread, hcheck, ok_bind, hargument, h.result_compute hv hn,
      align_eq h.fill_eq, hleft, if_neg (not_not.2 hread)]
    rfl
  · rw [outcome_of_not_isReadable _ _ _ hread, if_pos hread]

end PrintsInteger

/-! ## What is read -/

theorem isSign_signText (plus : Bool) (n : ℤ) : Numeral.IsSign (signText plus n) (n < 0) := by
  unfold signText
  by_cases hn : n < 0
  · simpa [hn] using Numeral.IsSign.minus
  · cases plus
    · simpa [hn] using Numeral.IsSign.absent
    · simpa [hn] using Numeral.IsSign.plus

/-- An integer behind blanks is read, whatever follows it but a digit. -/
theorem leadingInt_integerText (plus : Bool) (hn : Numeral.IsShort n)
    (hws : ∀ c ∈ ws, Unicode.isBlank c = true) (hjunk : Numeral.EndsDigits junk) :
    (Value.text (ws ++ (integerText plus n ++ junk))).leadingInt.result = .ok n := by
  have hread := Numeral.leadingInteger?_append hws (isSign_signText plus n)
    (isNumber_ofNat n.natAbs) hjunk
  have hvalue : Numeral.read? (Numeral.ofNat n.natAbs) = .ok n.natAbs := by
    rw [Numeral.read?, if_neg (Nat.not_lt.2 hn), Numeral.value_ofNat]
  rw [Value.result_leadingInt_text, integerText, List.append_assoc, hread]
  simp only [hvalue, Except.map, Positional.withSign_natAbs]

/-- So it is between spaces. -/
theorem leadingInt_filled (left plus : Bool) (k : ℕ) (hn : Numeral.IsShort n) (ws junk : Text)
    (hws : ∀ c ∈ ws, Unicode.isBlank c = true) (hjunk : Numeral.EndsDigits junk) :
    (Value.text (ws ++ (filled left k ' ' (integerText plus n) ++ junk))).leadingInt.result =
      .ok n := by
  cases left with
  | false =>
    have hblank : ∀ c ∈ ws ++ List.replicate k ' ', Unicode.isBlank c = true := by
      intro c hc
      rcases List.mem_append.1 hc with hc | hc
      · exact hws c hc
      · obtain rfl := List.eq_of_mem_replicate hc
        rfl
    have hread := leadingInt_integerText plus hn hblank hjunk
    rwa [List.append_assoc, ← List.append_assoc _ (integerText plus n)] at hread
  | true =>
    have hends : Numeral.EndsDigits (List.replicate k ' ' ++ junk) := by
      rcases k with _ | k
      · exact hjunk
      · rintro c ⟨⟩
        rfl
    have hread := leadingInt_integerText plus hn hws hends
    rwa [← List.append_assoc _ _ junk] at hread

/-- **An integer that is printed is read again**, behind blanks and before any text that does not
    begin with a digit, and printing what was printed changes nothing.  Nothing is printed only if a
    number in the directive is too long to be read or a text of its width cannot be made. -/
theorem printed_leadingInt (h : dir.PrintsInteger) (hn : Numeral.IsShort n) :
    (dir.IsReadable → Text.ReachesWidth dir.leastWidth (integerText dir.plus n).length →
      ∃ out, (formatArguments Settings.standard.defaults (.text dir.written) [.int n]).result =
          .ok out ∧
        (∀ ws junk, (∀ c ∈ ws, Unicode.isBlank c = true) → Numeral.EndsDigits junk →
          (Value.text (ws ++ (out ++ junk))).leadingInt.result = .ok n) ∧
        (formatArguments Settings.standard.defaults (.text dir.written) [.text out]).result =
          .ok out) ∧
      (¬dir.IsReadable →
        (formatArguments Settings.standard.defaults (.text dir.written) [.int n]).result =
          .error .numeral) ∧
      (dir.IsReadable → ¬Text.ReachesWidth dir.leastWidth (integerText dir.plus n).length →
        (formatArguments Settings.standard.defaults (.text dir.written) [.int n]).result =
          .error .tooLarge) := by
  have hprinted := h.formatArguments_integer (v := .int n) rfl hn
  refine ⟨fun hread hwidth => ?_, fun hread => ?_, fun hread hwidth => ?_⟩
  · rw [if_neg (not_not.2 hread), if_pos hwidth] at hprinted
    have hreads := leadingInt_filled dir.minus dir.plus
      (dir.leastWidth - (integerText dir.plus n).length) hn
    refine ⟨_, hprinted, hreads, ?_⟩
    have hagain := hreads [] [] (List.forall_mem_nil _) Numeral.endsDigits_nil
    rw [List.nil_append, List.append_nil] at hagain
    rw [h.formatArguments_integer hagain hn, if_neg (not_not.2 hread), if_pos hwidth]
  · rw [hprinted, if_pos hread]
  · rw [hprinted, if_neg (not_not.2 hread), if_neg hwidth]

/-- An integer with a sign and spaces behind it. -/
theorem printed_leadingInt_plus :
    (formatArguments Settings.standard.defaults (.text "%+-5i".toList) [.int 42]).result =
        .ok "+42  ".toList ∧
      (Value.text "\t+42  px".toList).leadingInt.result = .ok 42 ∧
      (formatArguments Settings.standard.defaults (.text "%+-5i".toList)
        [.text "+42  ".toList]).result = .ok "+42  ".toList := by
  let parts : Parts := ⟨none, true, none, true, some 5, none, .integer, by decide, by decide,
    by decide⟩
  have hprints : PrintsInteger parts.directive :=
    ⟨parts.wellFormed_directive, parts.zeroFills_directive, .inr rfl, nofun, rfl⟩
  obtain ⟨out, hout, hread, hagain⟩ :=
    (printed_leadingInt (n := 42) hprints (by decide)).1 (by decide) (by decide)
  have hprinted := hprints.formatArguments_integer (v := .int 42) rfl (by decide)
  obtain rfl : out = "+42  ".toList := Except.ok.inj (hout.symm.trans hprinted)
  have htab : ∀ c ∈ ['\t'], Unicode.isBlank c = true := by
    intro c hc
    obtain rfl : c = '\t' := by simpa using hc
    rfl
  have hjunk : Numeral.EndsDigits "px".toList := by
    rintro c ⟨⟩
    rfl
  exact ⟨hout, hread ['\t'] "px".toList htab hjunk, hagain⟩

/-- The directive of decimal integers with spaces up to a width that is written with these digits. -/
def spaced (width : Text) : Directive :=
  { bare with fill := some .space, width := some width, conversion := some .decimal }

theorem printsInteger_spaced {width : Text} (h : IsNumber width) : (spaced width).PrintsInteger where
  wellFormed := ⟨nofun, nofun, fun _ hds => Option.some.inj hds ▸ h, nofun⟩
  zeroFills := nofun
  conversion := .inl rfl
  fill _ hf := .inl (Option.some.inj hf).symm
  first := rfl

/-- A width of five is not read behind so many zeros. -/
theorem printed_longWidth :
    ∃ dir : Directive, dir.PrintsInteger ∧ dir.leastWidth = 5 ∧
      dir.written = "% ".toList ++ (List.replicate Numeral.maxDigits '0' ++ ['5'] ++ ['d']) ∧
      (formatArguments Settings.standard.defaults (.text dir.written) [.int 7]).result =
        .error .numeral := by
  generalize hzeros : List.replicate Numeral.maxDigits '0' = zeros
  have hvalue : Numeral.value zeros = 0 := hzeros ▸ Numeral.value_replicate_zero _
  have hnumber : IsNumber (zeros ++ ['5']) := by
    refine ⟨by simp, fun c hc => ?_⟩
    rcases List.mem_append.1 hc with hc | hc
    · rw [← hzeros] at hc
      rw [List.eq_of_mem_replicate hc]
      rfl
    · rw [List.mem_singleton.1 hc]
      rfl
  have hprints := printsInteger_spaced hnumber
  have hlong : ¬(spaced (zeros ++ ['5'])).IsReadable := fun h => by
    have hlength : (zeros ++ ['5']).length ≤ Numeral.maxDigits :=
      h _ (List.mem_append_left _ (List.mem_singleton_self _))
    simp [← hzeros] at hlength
  refine ⟨spaced (zeros ++ ['5']), hprints, ?_, rfl, ?_⟩
  · change Numeral.value (zeros ++ ['5']) = 5
    rw [Numeral.value_append, hvalue]
    rfl
  · rw [hprints.formatArguments_integer (v := .int 7) rfl (by decide), if_pos hlong]

end Textwork.Directive
