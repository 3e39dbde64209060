/-
  The faults that the rendering of an argument can have.

  * `failsOnly_shown`: a value is shown unless an integer in it is too long;
  * `failsOnly_compute`: rendering an argument fails on a numeral, a size or a
    precision out of reach, or on a missing letter, and so never as a directive
    that is refused (`isTemplateFault_eq_false`).
-/
import Textwork.Directive.Rendering
import Textwork.Proofs.Traversal

namespace Textwork

/-- The faults of an argument that is rendered. -/
def Fault.isRenderingFault : Fault → Bool
  | numeral | tooLarge | tooPrecise | precisionRange | noRendering => true
  | _ => false

theorem Fault.isTemplateFault_eq_false {e : Fault} (h : e.isRenderingFault) :
    e.isTemplateFault = false := by
  cases e <;> first | rfl | cases h

/-- A computation on arguments, whose faults are those of renderings. -/
def Renders {α : Type} (r : Except Fault α) : Prop := FailsOnly (·.isRenderingFault) r

/-! ## Values as text -/

theorem failsOnly_write? (n : Int) : FailsOnly (· = .numeral) (Numeral.write? n) :=
  .ite (.error rfl) (.ok _)

theorem failsOnly_read? (digits : Text) : FailsOnly (· = .numeral) (Numeral.read? digits) :=
  .ite (.error rfl) (.ok _)

namespace Value

theorem failsOnly_fractionText (r : Rat) : FailsOnly (· = .numeral) (fractionText r) := by
  refine (failsOnly_write? _).bind fun n => .ite (.ok _) ?_
  exact (failsOnly_write? _).bind fun d => .ok _

theorem failsOnly_fractionShown (r : Rat) : FailsOnly (· = .numeral) (fractionShown r) :=
  (failsOnly_write? _).bind fun _ => (failsOnly_write? _).bind fun _ => .ok _

mutual

theorem failsOnly_shown : (v : Value) → FailsOnly (· = .numeral) v.shown
  | nothing | bool _ | float _ | text _ | decimal _ | bytes _ | iterator _ | pattern _
  | callback _ => by rw [shown]; exact .ok _
  | int n => by rw [shown]; exact failsOnly_write? n
  | fraction r => by rw [shown]; exact failsOnly_fractionShown r
  | list items => by rw [shown]; exact (failsOnly_shownAll items).bind fun _ => .ok _
  | tuple items => by rw [shown]; exact (failsOnly_shownAll items).bind fun _ => .ok _
  | dict entries => by rw [shown]; exact (failsOnly_shownEntries entries).bind fun _ => .ok _

theorem failsOnly_shownAll : (vs : List Value) → FailsOnly (· = .numeral) (shownAll vs)
  | [] => by rw [shownAll]; exact .ok _
  | v :: rest => by
    rw [shownAll]
    exact (failsOnly_shown v).bind fun _ => (failsOnly_shownAll rest).bind fun _ => .ok _

theorem failsOnly_shownEntries :
    (entries : List (Value × Value)) → FailsOnly (· = .numeral) (shownEntries entries)
  | [] => by rw [shownEntries]; exact .ok _
  | (k, v) :: rest => by
    rw [shownEntries]
    exact (failsOnly_shown k).bind fun _ => (failsOnly_shown v).bind fun _ =>
      (failsOnly_shownEntries rest).bind fun _ => .ok _

end

theorem failsOnly_display (v : Value) : FailsOnly (· = .numeral) v.display := by
  cases v with
  | text t => exact .ok _
  | fraction r => exact failsOnly_fractionText r
  | decimal d => exact .ok _
  | _ => exact failsOnly_shown _

theorem failsOnly_toText (v : Value) : FailsOnly (· = .numeral) v.toText := by
  unfold toText textOr
  split
  · exact .ok _
  · exact failsOnly_display v

end Value

/-! ## Numbers -/

namespace Value

theorem failsOnly_leadingInt (v : Value) : FailsOnly (· = .numeral) v.leadingInt.result := by
  unfold leadingInt
  split
  · exact .ok _
  · exact .ok _
  · exact .ok _
  · split <;> exact .ok _
  · rw [Traced.result_bind]
    refine (failsOnly_toText v).bind fun t => ?_
    split
    · rw [Traced.result_bind]
      exact (failsOnly_read? _).bind fun _ => .ok _
    · exact .ok _

theorem failsOnly_rounded (v : Value) (x : Binary64) :
    FailsOnly (· = .numeral) (rounded v x).result := by
  cases x <;> exact .ok _

theorem failsOnly_nearestFloat (v : Value) : FailsOnly (· = .numeral) v.nearestFloat.result := by
  unfold nearestFloat
  split
  · exact .ok _
  · exact failsOnly_rounded _ _
  · exact failsOnly_rounded _ _
  · exact .ok _
  · rw [Traced.result_bind]
    exact (failsOnly_toText v).bind fun t => .ok _

theorem failsOnly_leadingFloat (v : Value) : FailsOnly (· = .numeral) v.leadingFloat.result := by
  unfold leadingFloat
  rw [Traced.result_bind]
  refine (failsOnly_nearestFloat v).bind fun x => ?_
  cases x <;> exact .ok _

end Value

/-! ## Renderings -/

theorem renders_of_numeral {α : Type} {r : Except Fault α} (h : FailsOnly (· = .numeral) r) :
    Renders r :=
  h.mono fun e he => by rw [he]; rfl

theorem renders_checkLength (n : Nat) : Renders (Text.checkLength n) := .ite (.error rfl) (.ok _)

theorem renders_checkCopies (length count : Nat) : Renders (Text.checkCopies length count) :=
  .ite (.error rfl) (.ok _)

theorem renders_checkFill (pattern : Text) (n kept : Nat) :
    Renders (Text.checkFill pattern n kept) :=
  .ite (.ok _) ((renders_checkCopies _ _).bind fun _ => renders_checkLength _)

namespace Directive

theorem renders_renderString (s : Specification) (v : Value) : Renders (renderString s v).result := by
  unfold renderString
  rw [Traced.result_bind]
  exact (renders_of_numeral v.failsOnly_toText).bind fun _ => .ok _

theorem renders_renderDecimal (s : Specification) (v : Value) :
    Renders (renderDecimal s v).result := by
  unfold renderDecimal
  simp only [Traced.result_bind]
  exact (renders_of_numeral v.failsOnly_leadingInt).bind fun n =>
    (renders_of_numeral (failsOnly_write? n)).bind fun _ => .ok _

theorem renders_wordSize (bits : Nat) : Renders (wordSize bits) := .ite (.error rfl) (.ok _)

theorem renders_inBitBase (base n : Nat) : Renders (inBitBase base n) :=
  .ite (.error rfl) (.ok _)

theorem renders_unsignedText (k : Conversion) (n : Nat) : Renders (unsignedText k n) := by
  cases k with
  | character => exact .ok _
  | binary | octal | hexadecimal => exact renders_inBitBase _ n
  | hexadecimalUpper => exact (renders_inBitBase 16 n).map fun t => t.map Char.toUpper
  | _ => exact renders_of_numeral (failsOnly_write? n)

theorem renders_renderUnsigned (s : Settings) (k : Conversion) (v : Value) :
    Renders (renderUnsigned s.defaults k v).result := by
  unfold renderUnsigned
  simp only [Traced.result_bind]
  exact (renders_of_numeral v.failsOnly_leadingInt).bind fun n =>
    (renders_wordSize _).bind fun bits => renders_unsignedText k _

theorem renders_checkPlaces (places : Nat) : Renders (checkPlaces places) :=
  .ite (.error rfl) (.ok _)

theorem renders_checkQuotient (places : Nat) : Renders (checkQuotient places) :=
  .ite (.error rfl) (.ite (.error rfl) (renders_checkPlaces places))

theorem renders_checkPrecision (k : Conversion) (num den precision : Nat) :
    Renders (checkPrecision k num den precision) := by
  unfold checkPrecision
  split
  · exact renders_checkPlaces precision
  · exact .ite (renders_checkPlaces precision) (renders_checkQuotient precision)
  · exact .ite (renders_checkPlaces precision) (renders_checkQuotient precision)
  · exact .ite (.ok _) ((renders_checkQuotient _).bind fun _ => renders_checkPlaces _)

theorem renders_binaryText (s : Settings) (spec : Specification) (k : Conversion) (x : Binary64) :
    Renders (binaryText s.defaults spec k x) := by
  cases x with
  | finite negative m q _ =>
    -- The precision is looked up in three ways, and each goes on in the same way.
    have hrest {r : Except Fault Nat} (hr : Renders r) (num den : Nat) (f : Nat → Text) :
        Renders (do
          let precision ← r
          checkPrecision k num den precision
          .ok (f precision)) :=
      hr.bind fun precision => (renders_checkPrecision k num den precision).bind fun _ => .ok _
    unfold binaryText
    simp only []
    split
    · exact hrest (.ok _) _ _ _
    · exact .ite (hrest (.ok _) _ _ _) (hrest (.ok _) _ _ _)
  | infinite negative => exact .ok _
  | nan => exact .ok _

theorem renders_renderFloat (s : Settings) (spec : Specification) (k : Conversion) (v : Value) :
    Renders (renderFloat s.defaults spec k v).result := by
  unfold renderFloat
  simp only [Traced.result_bind]
  exact (renders_of_numeral v.failsOnly_leadingFloat).bind fun x =>
    (renders_binaryText s spec k x).bind fun _ => .ok _

theorem renders_render (s : Settings) (spec : Specification) (k : Conversion) (v : Value) :
    Renders (render s.defaults spec k v).result := by
  cases k with
  | string => exact renders_renderString spec v
  | decimal | integer => exact renders_renderDecimal spec v
  | binary | character | octal | unsigned | hexadecimal | hexadecimalUpper =>
    exact renders_renderUnsigned s _ v
  | scientific | scientificUpper | fixed | short | shortUpper =>
    exact renders_renderFloat s spec _ v

theorem renders_align (spec : Specification) (default t : Text) : Renders (align spec default t) := by
  unfold align
  split
  · exact .ok _
  · exact (renders_checkFill _ _ _).bind fun _ => .ok _

/-- **A rendering never fails as a refused directive does.** -/
theorem renders_compute (s : Settings) (spec : Specification) (v : Value) :
    Renders (compute s.defaults spec v).result := by
  unfold compute
  split
  · exact .error rfl
  · rw [Traced.result_bind]
    exact (renders_render s spec _ v).bind fun t => renders_align spec _ t

end Directive

end Textwork
