/-
  Patterns written for texts: signs behind backslashes, alternatives between
  bars.

  * `literals` and `anyOf` are the trees of a text and of alternatives;
  * `Quotes signs`: writing the characters of `signs` behind backslashes leaves
    nothing that means something in a pattern;
  * `compile?_alternatives`: alternatives so written are read as just these texts.
-/
import Textwork.Pattern.Basic
import Textwork.Proofs.Traversal

namespace Textwork.Pattern

variable {signs : Char → Bool} {p : Progress} {c : Char} {w rest : Text} {fuel : Nat}

/-! ## Trees -/

/-- The tree that matches the characters of a text one after the other. -/
def literals (folding : Folding) (w : Text) : Node :=
  Node.ofList (w.map fun c => .single (.literal folding c))

/-- The tree that tries nodes in order, of which there is a first. -/
def Node.anyOf (n : Node) : List Node → Node
  | [] => n
  | m :: ns => .alt n (anyOf m ns)

/-! ## Quoted texts -/

/-- A text with the characters of `signs` behind backslashes. -/
def quoted (signs : Char → Bool) (w : Text) : Text :=
  w.flatMap fun c => if signs c then ['\\', c] else [c]

/-- The characters that mean something outside of a set. -/
def metacharacters : Text := ['\\', '|', '(', ')', '[', '.', '^', '$', '*', '+', '?', '{']

/-- No letter or digit is put behind a backslash, where it would mean something, and every character
    is that means something. -/
structure Quotes (signs : Char → Bool) : Prop where
  not_alphanum : ∀ c, signs c = true → c.isAlphanum = false
  covers : ∀ c ∈ metacharacters, signs c = true

theorem quotes_elem {signs : Text} (hs : signs.all (fun c => !c.isAlphanum) = true)
    (hc : metacharacters.all signs.elem = true) : Quotes signs.elem where
  not_alphanum c h := by
    have hsign := List.all_eq_true.1 hs c (List.mem_of_elem_eq_true h)
    simpa using hsign
  covers := List.all_eq_true.1 hc

theorem Quotes.ne (h : Quotes signs) (hc : signs c = false) :
    ∀ d ∈ metacharacters, c ≠ d := by
  rintro d hd rfl
  cases hc.symm.trans (h.covers c hd)

theorem quoted_cons (signs : Char → Bool) (c : Char) (w : Text) :
    quoted signs (c :: w) = (if signs c then ['\\', c] else [c]) ++ quoted signs w :=
  List.flatMap_cons

theorem length_le_quoted (signs : Char → Bool) (w : Text) : w.length ≤ (quoted signs w).length := by
  induction w with
  | nil => exact Nat.zero_le _
  | cons c w ih =>
    rw [quoted_cons, List.length_append, List.length_cons]
    split_ifs <;> simp <;> omega

/-! ## Escapes of signs -/

theorem anchorEscape?_sign (hc : c.isAlphanum = false) (f : Flags) : anchorEscape? f c = none := by
  unfold anchorEscape?
  split <;> first | rfl | cases hc

theorem categoryEscape?_sign (hc : c.isAlphanum = false) : categoryEscape? c = none := by
  unfold categoryEscape?
  split <;> first | rfl | cases hc

theorem controlEscape?_sign (hc : c.isAlphanum = false) : controlEscape? c = none := by
  unfold controlEscape?
  split <;> first | rfl | cases hc

theorem codeEscape?_sign (hc : c.isAlphanum = false) (rest : Text) : codeEscape? c rest = none := by
  unfold codeEscape?
  split <;> first | rfl | cases hc

/-- A sign behind a backslash stands for itself. -/
theorem escape_sign (hc : c.isAlphanum = false) (p : Progress) (rest : Text) :
    escape p (c :: rest) = .ok ((.atom, literal p.flags c), rest) := by
  obtain ⟨halpha, hdigit⟩ : c.isAlpha = false ∧ c.isDigit = false := by
    simpa [Char.isAlphanum] using hc
  have hzero : c ≠ '0' := by
    rintro rfl
    cases hdigit
  simp only [escape, anchorEscape?_sign hc, categoryEscape?_sign hc, controlEscape?_sign hc,
    codeEscape?_sign hc, if_neg hzero, hdigit, halpha, if_false, Bool.false_eq_true]

/-! ## Reading -/

/-- What may stand behind a sequence: a bar, a closing parenthesis or nothing. -/
def EndsSequence (rest : Text) : Prop := ∀ c ∈ rest.head?, c = '|' ∨ c = ')'

theorem sequence_end (hv : p.flags.verbose = false) (hrest : EndsSequence rest) (first : Bool)
    (read : List Item) :
    sequence (fuel + 1) first read { p with rest } =
      .ok (Node.ofList (read.reverse.map Prod.snd), { p with rest }) := by
  cases rest with
  | nil => simp [sequence, hv]
  | cons c rest =>
    have hc : c = '|' ∨ c = ')' := hrest c rfl
    simp [sequence, hv, hc]

theorem sequence_sign (hq : Quotes signs) (hc : signs c = true) (hv : p.flags.verbose = false)
    (first : Bool) (read : List Item) (rest : Text) :
    sequence (fuel + 1) first read { p with rest := '\\' :: c :: rest } =
      sequence fuel first ((.atom, literal p.flags c) :: read) { p with rest } := by
  have hescape := escape_sign (hq.not_alphanum c hc) { p with rest := '\\' :: c :: rest } rest
  simp [sequence, hv, hescape]

theorem sequence_plain (hq : Quotes signs) (hc : signs c = false) (hv : p.flags.verbose = false)
    (first : Bool) (read : List Item) (rest : Text) :
    sequence (fuel + 1) first read { p with rest := c :: rest } =
      sequence fuel first ((.atom, literal p.flags c) :: read) { p with rest } := by
  have hne := hq.ne hc
  simp only [metacharacters, List.forall_mem_cons] at hne
  simp [sequence, quantifier?, hv, hne]

/-- A sequence of quoted characters is read as these characters. -/
theorem sequence_quoted (hq : Quotes signs) (hv : p.flags.verbose = false)
    (hrest : EndsSequence rest) (hf : w.length < fuel) (first : Bool) (read : List Item) :
    sequence fuel first read { p with rest := quoted signs w ++ rest } =
      .ok (Node.ofList (read.reverse.map Prod.snd ++ w.map (literal p.flags)),
        { p with rest }) := by
  induction w generalizing fuel read with
  | nil =>
    obtain ⟨fuel, rfl⟩ := Nat.exists_eq_add_of_lt hf
    simpa [quoted] using sequence_end hv hrest first read
  | cons c w ih =>
    obtain ⟨fuel, rfl⟩ := Nat.exists_eq_add_one_of_ne_zero (Nat.ne_zero_of_lt hf)
    have hstep : sequence (fuel + 1) first read { p with rest := quoted signs (c :: w) ++ rest } =
        sequence fuel first ((.atom, literal p.flags c) :: read)
          { p with rest := quoted signs w ++ rest } := by
      rw [quoted_cons]
      cases hc : signs c with
      | true => exact sequence_sign hq hc hv first read _
      | false => exact sequence_plain hq hc hv first read _
    rw [hstep, ih (Nat.lt_of_succ_lt_succ hf)]
    simp

/-- Alternatives are read one by one, the fuel being more than their characters. -/
theorem choice_alternatives (hq : Quotes signs) (p : Progress) (hv : p.flags.verbose = false)
    (w : Text) (ws : List Text)
    (hf : (Text.join ['|'] ((w :: ws).map (quoted signs))).length + 1 < fuel) (first : Bool) :
    choice fuel first { p with rest := Text.join ['|'] ((w :: ws).map (quoted signs)) } =
      .ok (.anyOf (literals p.flags.folding w) (ws.map (literals p.flags.folding)),
        { p with rest := [] }) := by
  induction ws generalizing w fuel first with
  | nil =>
    obtain ⟨fuel, rfl⟩ := Nat.exists_eq_add_one_of_ne_zero (Nat.ne_zero_of_lt hf)
    have hsource : Text.join ['|'] ([w].map (quoted signs)) = quoted signs w ++ [] := by
      simp [Text.join]
    rw [hsource, List.append_nil] at hf
    have hlen : w.length < fuel := by
      have := length_le_quoted signs w
      omega
    have hend : EndsSequence [] := by simp [EndsSequence]
    rw [hsource, choice, sequence_quoted hq hv hend hlen]
    rfl
  | cons v ws ih =>
    obtain ⟨fuel, rfl⟩ := Nat.exists_eq_add_one_of_ne_zero (Nat.ne_zero_of_lt hf)
    have hsource : Text.join ['|'] ((w :: v :: ws).map (quoted signs)) =
        quoted signs w ++ '|' :: Text.join ['|'] ((v :: ws).map (quoted signs)) := by
      simp [Text.join]
    rw [hsource, List.length_append, List.length_cons] at hf
    have hlen : w.length < fuel := by
      have := length_le_quoted signs w
      omega
    have hend : EndsSequence ('|' :: Text.join ['|'] ((v :: ws).map (quoted signs))) := by
      simp [EndsSequence]
    have hroom : (Text.join ['|'] ((v :: ws).map (quoted signs))).length + 1 < fuel := by omega
    rw [hsource, choice, sequence_quoted hq hv hend hlen]
    simp only [ok_bind, ih v hroom]
    rfl

/-- **Quoted alternatives are read as they are.** -/
theorem compile?_alternatives (hq : Quotes signs) {f : Flags} (hv : f.verbose = false)
    (hf : (f.ascii && f.unicode) = false) (w : Text) (ws : List Text) :
    compile? (Text.join ['|'] ((w :: ws).map (quoted signs))) f =
      .ok ⟨Text.join ['|'] ((w :: ws).map (quoted signs)), f,
        .anyOf (literals f.folding w) (ws.map (literals f.folding)), 0, []⟩ := by
  rw [compile?, parse?, choice_alternatives hq ⟨[], f, 0, [], [], none⟩ hv w ws (by omega)]
  simp only [ok_bind, List.isEmpty_nil, Bool.not_true, hf, Bool.false_eq_true, if_false]

end Textwork.Pattern
