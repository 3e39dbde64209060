/-
  The functions of the catalogue called with a subject alone.

  * `Flat` are the values that such calls give;
  * `Ordinary r`: the result is flat, or the fault is not that of a template;
  * `call_subject`: every function that a chain offers is ordinary and notes
    nothing, apart from the two that apply templates and the one that gives its
    clusters one by one.
-/
import Textwork.Catalogue.Listing
import Textwork.Proofs.Directive.NoArguments
import Textwork.Proofs.Value.Plain

namespace Textwork

/-! ## Flat values -/

namespace Value

/-- A text, or an integer that can be written. -/
def IsItem : Value → Prop
  | text _ => True
  | int n => Numeral.IsShort n
  | _ => False

/-- Nothing, a truth value, an integer, a text, or a list of texts and of integers that can be
    written. -/
inductive Flat : Value → Prop
  | nothing : Flat nothing
  | bool (b : Bool) : Flat (bool b)
  | int (n : Int) : Flat (int n)
  | text (t : Text) : Flat (text t)
  | list {items : List Value} : (∀ v ∈ items, v.IsItem) → Flat (list items)

theorem flat_ofTexts (ts : List Text) : (ofTexts ts).Flat := by
  refine .list fun v hv => ?_
  obtain ⟨t, -, rfl⟩ := List.mem_map.1 hv
  trivial

theorem isShort_toNat (c : Char) : Numeral.IsShort c.toNat := by
  refine Numeral.isShort_iff.2 ?_
  calc c.toNat < 2 ^ 32 := c.val.toNat_lt
    _ ≤ 10 ^ 32 := Nat.pow_le_pow_left (by decide) 32
    _ ≤ 10 ^ Numeral.maxDigits := Nat.pow_le_pow_right (by decide) (by decide)

theorem flat_codePoints (t : Text) : (list (t.map fun c => int c.toNat)).Flat := by
  refine .list fun v hv => ?_
  obtain ⟨c, -, rfl⟩ := List.mem_map.1 hv
  exact isShort_toNat c

end Value

namespace Catalogue

/-! ## Ordinary results -/

/-- The fault, if there is one, is not that of a template. -/
def Untemplated {α : Type} (r : Except Fault α) : Prop := FailsOnly (·.isTemplateFault = false) r

/-- A flat value, or a fault that is not that of a template. -/
inductive Ordinary : Except Fault Value → Prop
  | ok {v : Value} : v.Flat → Ordinary (.ok v)
  | error {e : Fault} : e.isTemplateFault = false → Ordinary (.error e)

variable {α : Type} {r : Except Fault α} {v : Value}

theorem untemplated_of_renders (h : Renders r) : Untemplated r :=
  h.mono fun _ he => Fault.isTemplateFault_eq_false he

theorem untemplated_of_numeral (h : FailsOnly (· = .numeral) r) : Untemplated r :=
  untemplated_of_renders (renders_of_numeral h)

namespace Ordinary

theorem bind {f : α → Except Fault Value} (h : Untemplated r) (hf : ∀ a, Ordinary (f a)) :
    Ordinary (r >>= f) := by
  cases r with
  | error e => exact .error (h e rfl)
  | ok a => exact hf a

theorem map {f : α → Value} (h : Untemplated r) (hf : ∀ a, (f a).Flat) : Ordinary (r.map f) := by
  cases r with
  | error e => exact .error (h e rfl)
  | ok a => exact .ok (hf a)

/-- Most functions begin with the text of their subject. -/
theorem ofText {f : Text → Except Fault Value} (hf : ∀ t, Ordinary (f t)) :
    Ordinary (v.toText >>= f) :=
  bind (untemplated_of_numeral v.failsOnly_toText) hf

end Ordinary

/-! ## Functions of one kind -/

/-- The function notes nothing when it is called with a subject alone, and its result is
    ordinary. -/
def Entry.IsOrdinary (e : Entry) : Prop :=
  ∀ v, ∃ r, e.call [v] [] = .ofExcept r ∧ Ordinary r

theorem isOrdinary₁ {name : String} {f : Value → Except Fault Value} (h : ∀ v, Ordinary (f v)) :
    (entry₁ name f).IsOrdinary :=
  fun v => ⟨f v, rfl, h v⟩

theorem isOrdinary_onText {name : String} {f : Text → Value} (h : ∀ t, (f t).Flat) :
    (entry₁ name (onText f)).IsOrdinary :=
  isOrdinary₁ fun v => .map (untemplated_of_numeral v.failsOnly_toText) h

theorem isOrdinary₂ {name p : String} {d : Value} {f : Value → Value → Except Fault Value}
    (h : ∀ v, Ordinary (f v d)) : (entry₂ name (optional p d) f).IsOrdinary :=
  fun v => ⟨f v d, rfl, h v⟩

theorem isOrdinary₃ {name p q : String} {d e : Value}
    {f : Value → Value → Value → Except Fault Value} (h : ∀ v, Ordinary (f v d e)) :
    (entry₃ name (optional p d) (optional q e) f).IsOrdinary :=
  fun v => ⟨f v d e, rfl, h v⟩

theorem isOrdinary₄ {name p q s : String} {d e g : Value}
    {f : Value → Value → Value → Value → Except Fault Value} (h : ∀ v, Ordinary (f v d e g)) :
    (entry₄ name (optional p d) (optional q e) (optional s g) f).IsOrdinary :=
  fun v => ⟨f v d e g, rfl, h v⟩

/-! ## The entries

One step for each entry, in the order of the list: it says how the function goes about its subject,
and of which kind its value is. -/

theorem isOrdinary_letterEntries :
    ∀ e ∈ letterEntries, e.name = "iter_graphemes" ∨ e.IsOrdinary := by
  simp only [letterEntries, List.forall_mem_cons]
  and_intros
  · exact .inr (isOrdinary_onText fun _ => .text _)
  · exact .inr (isOrdinary_onText fun _ => .text _)
  · exact .inr (isOrdinary_onText fun _ => .text _)
  · exact .inr (isOrdinary₂ fun v => .ofText fun _ => .ok (.text _))
  · exact .inr (isOrdinary₂ fun v => .ofText fun _ => .ok (.text _))
  · exact .inr (isOrdinary_onText fun _ => .text _)
  · exact .inr (isOrdinary_onText fun _ => .text _)
  · exact .inr (isOrdinary_onText fun _ => .text _)
  · exact .inr (isOrdinary_onText fun _ => .text _)
  · exact .inr (isOrdinary_onText fun _ => .bool _)
  · exact .inr (isOrdinary_onText fun _ => .bool _)
  · exact .inr (isOrdinary_onText fun _ => .bool _)
  · exact .inr (isOrdinary_onText fun _ => .bool _)
  · exact .inr (isOrdinary_onText fun _ => .bool _)
  · exact .inr (isOrdinary_onText fun _ => .bool _)
  · exact .inr (isOrdinary_onText fun _ => .bool _)
  · exact .inr fun v => ⟨_, rfl, .ok (.bool _)⟩
  · exact .inr (isOrdinary_onText fun _ => Value.flat_ofTexts _)
  · exact .inr (isOrdinary_onText fun _ => Value.flat_codePoints _)
  · exact .inr (isOrdinary_onText fun _ => Value.flat_ofTexts _)
  · exact .inl rfl
  · exact .inr (isOrdinary_onText fun _ => .text _)
  · exact .inr (isOrdinary_onText fun _ => .text _)
  · exact .inr (isOrdinary_onText fun _ => .int _)
  · exact .inr (isOrdinary_onText fun _ => .int _)
  · exact .inr (isOrdinary₂ fun v => .ok (.int _))
  · nofun

theorem untemplated_charAt (v : Value) : Untemplated (charAt v (.int 0)) :=
  (untemplated_of_numeral v.failsOnly_toText).bind fun _ => .ok _

theorem isOrdinary_positionEntries : ∀ e ∈ positionEntries, e.IsOrdinary := by
  simp only [positionEntries, List.forall_mem_cons]
  and_intros
  · exact isOrdinary₂ fun v => .map (untemplated_charAt v) fun _ => .text _
  · refine isOrdinary₂ fun v => .bind (untemplated_charAt v) fun c => ?_
    cases c with
    | none => exact .ok .nothing
    | some c => exact .ok (.int _)
  · exact isOrdinary₂ fun v => .ofText fun _ => .ok (.text _)
  · exact isOrdinary₂ fun v => .ofText fun _ => .ok (.text _)
  · exact isOrdinary₂ fun v => .ofText fun _ => .ok (.text _)
  · exact isOrdinary₃ fun v => .ofText fun _ => .ok (.text _)
  · exact isOrdinary₃ fun v => .ofText fun _ => .ok (.text _)
  · exact isOrdinary₃ fun v => .ofText fun _ => .ok (.text _)
  · exact isOrdinary₃ fun v => .ofText fun _ => .ok (.text _)
  · exact isOrdinary₄ fun v => .ofText fun _ => .ok (.text _)
  · exact isOrdinary₃ fun v => .ofText fun _ => .ok (.int _)
  · exact isOrdinary₃ fun v => .ofText fun _ => .ok (.int _)
  · exact isOrdinary₃ fun v => .ofText fun _ => .ok (.bool _)
  · exact isOrdinary₃ fun v => .ofText fun _ => .ok (.bool _)
  · exact isOrdinary₃ fun v => .ofText fun _ => .ok (.bool _)
  · exact isOrdinary₂ fun v => .ok (.int _)
  · nofun

theorem untemplated_slugSource (v : Value) : Untemplated (slugSource v) := by
  refine untemplated_of_numeral ?_
  have hjoined (items : List Value) : FailsOnly (· = .numeral) (slugSource.joined items) := by
    refine .bind (fun e he => ?_) fun ts => .ok _
    obtain ⟨i, item, -, hitem, -⟩ := mapM_eq_error_iff.1 he
    exact item.failsOnly_display e hitem
  unfold slugSource
  split
  · exact hjoined _
  · exact hjoined _
  · exact hjoined _
  · exact hjoined _
  · exact v.failsOnly_toText

theorem isOrdinary_layoutEntries : ∀ e ∈ layoutEntries, e.IsOrdinary := by
  have hpad (name : String) (longest : Nat → Nat) (pad : Text → Int → Text → Text) :
      (paddingEntry name longest pad).IsOrdinary :=
    isOrdinary₃ fun v => .ofText fun _ => .bind (.ok _) fun _ => .bind (.ok _) fun _ =>
      .bind (untemplated_of_renders (renders_checkFill _ _ _)) fun _ => .ok (.text _)
  have htrim (name : String) (trim : (Char → Bool) → Text → Text) :
      (trimmingEntry name trim).IsOrdinary :=
    isOrdinary₂ fun v => .ofText fun _ => .ok (.text _)
  have hcut (name : String) (cut : Text → Option Int → Text → Text) :
      (cuttingEntry name cut).IsOrdinary :=
    isOrdinary₃ fun v => .ofText fun _ => .ok (.text _)
  simp only [layoutEntries, List.forall_mem_cons]
  and_intros
  · exact fun v => ⟨.error .wrongKind, rfl, .error rfl⟩
  · exact hpad _ _ _
  · exact hpad _ _ _
  · exact hpad _ _ _
  · exact isOrdinary₂ fun v => .ofText fun _ => .bind (.ok _) fun _ =>
      .bind (untemplated_of_renders (renders_checkCopies _ _)) fun _ => .ok (.text _)
  · exact htrim _ _
  · exact htrim _ _
  · exact htrim _ _
  · exact hcut _ _
  · exact hcut _ _
  · exact fun v => ⟨_, rfl, .ofText fun _ => .ok (.text _)⟩
  · exact isOrdinary_onText fun _ => .text _
  · exact fun v => ⟨_, rfl, .bind (untemplated_slugSource v) fun _ => .ok (.text _)⟩
  · exact isOrdinary_onText fun _ => .text _
  · exact isOrdinary_onText fun _ => .text _
  · exact isOrdinary_onText fun _ => .text _
  · refine isOrdinary₃ fun v => .ofText fun t => ?_
    cases t with
    | nil => exact .ok (.text _)
    | cons c t => exact .ok (.text _)
  · nofun

theorem untemplated_words (v : Value) : Untemplated (words v .nothing (.int 0)) :=
  (untemplated_of_numeral v.failsOnly_toText).bind fun _ => .ok _

/-- The empty text is a pattern. -/
theorem exists_patternOf_nil : ∃ p, patternOf (.text []) (.int 0) = .ok p := ⟨_, rfl⟩

theorem isOrdinary_matchingEntries : ∀ e ∈ matchingEntries, e.IsOrdinary := by
  simp only [matchingEntries, List.forall_mem_cons]
  and_intros
  · refine isOrdinary₃ fun v => .ofText fun t => .bind (.ok _) fun i => ?_
    obtain ⟨p, hp⟩ := exists_patternOf_nil
    split_ifs
    · exact .ok (.int _)
    · rw [hp]
      exact .ok (.int _)
  · exact isOrdinary₃ fun v => .ok (.bool _)
  · exact isOrdinary₃ fun v => .map (untemplated_words v) fun _ => Value.flat_ofTexts _
  · exact isOrdinary₃ fun v => .map (untemplated_words v) fun _ => .int _
  · exact isOrdinary₃ fun v => .ofText fun t => .ok (Value.flat_ofTexts [t])
  · exact isOrdinary₃ fun v => .ofText fun _ => .ok (.text _)
  · exact isOrdinary₃ fun v => .ofText fun _ => .ok (.text _)
  · nofun

theorem untemplated_isNumeric (v : Value) : Untemplated v.isNumeric := by
  unfold Value.isNumeric
  split
  · exact .ok _
  · exact .ite (.ok _) (.error rfl)
  · exact .ok _
  · exact (untemplated_of_numeral v.failsOnly_toText).bind fun _ => .ok _

/-! ## Calls by name -/

/-- The name of a function that applies templates. -/
def AppliesTemplates (name : Text) : Prop := name = "sprintf".toList ∨ name = "vprintf".toList

variable {name : Text}

theorem callIn_of_appliesTemplates (h : AppliesTemplates name) (v : Value) :
    callIn functions name [v] [] =
      .ofExcept ((v.toText >>= Directive.unsupplied).map .text) := by
  have hcall : callIn functions name [v] [] =
      .text <$> Directive.formatArguments Settings.standard.defaults v [] := by
    rcases h with rfl | rfl <;> rfl
  rw [hcall, Directive.formatArguments_nil]
  rfl

theorem isOrdinary_of_mem {e : Entry} (he : e ∈ functions) (hiter : e.name ≠ "iter_graphemes") :
    AppliesTemplates e.name.toList ∨ e.IsOrdinary := by
  simp only [functions, List.mem_append, List.mem_singleton] at he
  rcases he with ((((he | he) | he) | he) | rfl) | he
  · exact .inr ((isOrdinary_letterEntries e he).resolve_left hiter)
  · exact .inr (isOrdinary_positionEntries e he)
  · exact .inr (isOrdinary_layoutEntries e he)
  · exact .inr (isOrdinary_matchingEntries e he)
  · exact .inr (isOrdinary₁ fun v => .map (untemplated_isNumeric v) fun _ => .bool _)
  · left
    simp only [formatting, List.mem_cons, List.not_mem_nil, or_false] at he
    rcases he with rfl | rfl
    · exact .inl rfl
    · exact .inr rfl

/-- A name that no function has is ordinary too: its call fails. -/
theorem callIn_ordinary (hiter : name ≠ "iter_graphemes".toList) (h : ¬AppliesTemplates name)
    (v : Value) : ∃ r, callIn functions name [v] [] = .ofExcept r ∧ Ordinary r := by
  unfold callIn
  cases hfind : find? functions name with
  | none => exact ⟨.error (.noFunction name), rfl, .error rfl⟩
  | some e =>
    have hname : e.name.toList = name := by simpa using List.find?_some hfind
    subst hname
    have he := isOrdinary_of_mem (List.mem_of_find?_eq_some hfind) fun h => hiter (by rw [h])
    exact he.resolve_left h v

/-- **A function that is called with a subject alone notes nothing and gives a flat value.** -/
theorem callIn_subject (hiter : name ≠ "iter_graphemes".toList) (v : Value) :
    ∃ r, callIn functions name [v] [] = .ofExcept r ∧ ∀ w, r = .ok w → w.Flat := by
  by_cases h : AppliesTemplates name
  · refine ⟨_, callIn_of_appliesTemplates h v, fun w hw => ?_⟩
    cases hr : v.toText >>= Directive.unsupplied with
    | error e =>
      rw [hr] at hw
      cases hw
    | ok t =>
      rw [hr] at hw
      cases hw
      exact .text t
  · obtain ⟨r, hcall, hr⟩ := callIn_ordinary hiter h v
    refine ⟨r, hcall, fun w hw => ?_⟩
    cases hr with
    | ok hflat =>
      cases hw
      exact hflat
    | error => cases hw

/-- **Only the two functions that apply templates fail as templates do**: at the first directive of
    the text that the subject has become. -/
theorem callIn_eq_templateFault_iff (hiter : name ≠ "iter_graphemes".toList) {e : Fault}
    (he : e.isTemplateFault) :
    (callIn functions name [v] []).result = .error e ↔
      AppliesTemplates name ∧ ∃ t dir, v.toText = .ok t ∧ Directive.first? t = some dir ∧
        dir.refusal = e := by
  by_cases h : AppliesTemplates name
  · have hmap (r : Except Fault Text) : r.map Value.text = .error e ↔ r = .error e := by
      cases r <;> simp
    rw [callIn_of_appliesTemplates h, Traced.result_ofExcept, hmap, bind_eq_error_iff]
    constructor
    · rintro (hv | ⟨t, ht, hu⟩)
      · have := untemplated_of_numeral v.failsOnly_toText e hv
        cases he.symm.trans this
      · obtain ⟨dir, hdir, hf⟩ := Directive.unsupplied_eq_error_iff.1 hu
        exact ⟨h, t, dir, ht, hdir, hf⟩
    · rintro ⟨-, t, dir, ht, hdir, hf⟩
      exact .inr ⟨t, ht, Directive.unsupplied_eq_error_iff.2 ⟨dir, hdir, hf⟩⟩
  · obtain ⟨r, hcall, hr⟩ := callIn_ordinary hiter h v
    rw [hcall, Traced.result_ofExcept]
    refine ⟨fun hre => ?_, fun h' => absurd h'.1 h⟩
    subst hre
    cases hr with
    | error h' => cases he.symm.trans h'

end Catalogue
end Textwork
