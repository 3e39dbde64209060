/-
  The grammar of directives, and its reader.

  * `WellFormed` lists the directives of the grammar; under `ZeroFills` a zero
    in the place of the fill is the fill and not a digit of the width;
  * `read_tail_append`: a directive with a letter is read back, whatever text
    follows it;
  * `length_rest_read_le`: no directive at the start of a text is longer than
    the one that is read;
  * `wellFormed_read`, `zeroFills_read`: what is read is a directive of the
    grammar.

  A directive is followed part by part.  `place` numbers the parts by the
  characters that can open them, and a part ends where a later one opens.
-/
import Textwork.Directive.Basic
import Mathlib.Data.List.Basic
import Mathlib.Data.List.TakeWhile

namespace Textwork.Directive

/-! ## The grammar -/

/-- A run of digits with at least one of them. -/
structure IsNumber (ds : Text) : Prop where
  ne_nil : ds ≠ []
  isDigit : ∀ c ∈ ds, c.isDigit = true

/-- A directive that the grammar allows: its numbers are runs of digits and its fill is no line
    feed. -/
structure WellFormed (d : Directive) : Prop where
  position : ∀ ds ∈ d.position, IsNumber ds
  fill : d.fill ≠ some (.custom '\n')
  width : ∀ ds ∈ d.width, IsNumber ds
  precision : ∀ ds ∈ d.precision, IsNumber ds

/-- A zero in the place of the fill is the fill, so that no width starts there with one. -/
def ZeroFills (d : Directive) : Prop :=
  d.fill = none → d.minus = false → ∀ ds ∈ d.width, ds.head? ≠ some '0'

/-! ## Places -/

/-- The last part of a directive that a character can open, from the sign on. -/
def place (c : Char) : Nat :=
  if (Conversion.ofLetter? c).isSome then 6
  else if c = '.' then 5
  else if c.isDigit then 4
  else if c = '-' then 3
  else if c = ' ' ∨ c = '\'' then 2
  else if c = '+' then 1
  else 0

@[simp] theorem place_letter (k : Conversion) : place k.letter = 6 := by
  simp [place, Conversion.ofLetter?_letter]

theorem letter_of_ofLetter? {c : Char} {k : Conversion} (h : Conversion.ofLetter? c = some k) :
    k.letter = c := by
  have := List.find?_some h
  simpa using this

theorem isDigit_letter (k : Conversion) : k.letter.isDigit = false := by
  cases k <;> rfl

theorem place_of_isDigit {c : Char} (h : c.isDigit = true) : place c = 4 := by
  have hk : Conversion.ofLetter? c = none := by
    cases hk : Conversion.ofLetter? c with
    | none => rfl
    | some k =>
      rw [← letter_of_ofLetter? hk, isDigit_letter] at h
      cases h
  have hp : c ≠ '.' := by
    rintro rfl
    cases h
  simp [place, hk, hp, h]

/-- The text is empty, or opens a part behind the part `n`. -/
def OpensAfter (n : Nat) (t : Text) : Prop := ∀ c ∈ t.head?, n < place c

theorem OpensAfter.mono {m n : Nat} {t : Text} (h : OpensAfter n t) (hmn : m ≤ n) :
    OpensAfter m t :=
  fun c hc => Nat.lt_of_le_of_lt hmn (h c hc)

theorem opensAfter_nil (n : Nat) : OpensAfter n [] := fun c hc => by simp at hc

@[simp] theorem opensAfter_cons {n : Nat} {c : Char} {t : Text} :
    OpensAfter n (c :: t) ↔ n < place c := by
  simp [OpensAfter]

/-- A text that is not empty hides what is behind it. -/
theorem OpensAfter.append {n : Nat} {t : Text} (h : OpensAfter n t) (ht : t ≠ []) (q : Text) :
    OpensAfter n (t ++ q) := by
  cases t with
  | nil => exact absurd rfl ht
  | cons c t => simpa using h

/-! ## One part -/

variable {n : Option Text} {ds q x : Text}

theorem length_le_of_append {p t rest : Text} (h : p ++ rest = t) : rest.length ≤ t.length := by
  have := congrArg List.length h
  simp only [List.length_append] at this
  omega

theorem takeWhile_isDigit_of_opensAfter (hx : OpensAfter 4 x) : x.takeWhile Char.isDigit = [] := by
  cases x with
  | nil => rfl
  | cons c x =>
    have hc : c.isDigit = false := by
      by_contra hc
      have hlt := opensAfter_cons.1 hx
      rw [place_of_isDigit (by simpa using hc)] at hlt
      omega
    simp [hc]

theorem dropWhile_isDigit_of_opensAfter (hx : OpensAfter 4 x) : x.dropWhile Char.isDigit = x := by
  have := List.takeWhile_append_dropWhile (p := Char.isDigit) (l := x)
  rwa [takeWhile_isDigit_of_opensAfter hx, List.nil_append] at this

theorem takeDigits_number (h : IsNumber ds) (q : Text) :
    takeDigits (ds ++ q) =
      (some (ds ++ q.takeWhile Char.isDigit), q.dropWhile Char.isDigit) := by
  rw [takeDigits, List.takeWhile_append_of_pos h.isDigit, List.dropWhile_append_of_pos h.isDigit]
  split
  · next h0 => exact absurd (List.append_eq_nil_iff.1 h0).1 h.ne_nil
  · rfl

theorem takeDigits_part (hn : ∀ ds ∈ n, IsNumber ds) (hx : OpensAfter 4 x) :
    takeDigits (n.getD [] ++ x) = (n, x) := by
  cases n with
  | none => simp [takeDigits, takeWhile_isDigit_of_opensAfter hx]
  | some ds =>
    simp [takeDigits_number (hn ds rfl), takeWhile_isDigit_of_opensAfter hx,
      dropWhile_isDigit_of_opensAfter hx]

theorem takePosition_number (h : IsNumber ds) (x : Text) :
    takePosition (ds ++ '$' :: x) = (some ds, x) := by
  simp [takePosition, takeDigits_number h]

/-- Digits without a dollar sign behind them are no position. -/
theorem takePosition_of_head?_ne {t : Text} (h : (t.dropWhile Char.isDigit).head? ≠ some '$') :
    takePosition t = (none, t) := by
  unfold takePosition
  split
  · next ds rest heq =>
    unfold takeDigits at heq
    split at heq
    · cases heq
    · obtain ⟨-, hrest⟩ := Prod.mk.inj heq
      exact absurd (by rw [hrest]; rfl) h
  · rfl

theorem takeSign_part {sign : Char} (b : Bool) (hx : x.head? ≠ some sign) :
    takeSign sign (flag b sign ++ x) = (b, x) := by
  cases b with
  | true => simp [flag, takeSign]
  | false =>
    cases x with
    | nil => rfl
    | cons c x =>
      have hc : c ≠ sign := by simpa using hx
      simp [flag, takeSign, hc]

theorem takeFill_some {f : Fill} (hf : f ≠ .custom '\n') (x : Text) :
    takeFill (f.written ++ x) = (some f, x) := by
  cases f with
  | digitZero => rfl
  | space => rfl
  | custom c =>
    have hc : c ≠ '\n' := by
      rintro rfl
      exact hf rfl
    simp [Fill.written, takeFill, hc]

theorem takeFill_of_opensAfter (hx : OpensAfter 2 x) (h0 : x.head? ≠ some '0') :
    takeFill x = (none, x) := by
  unfold takeFill
  split
  · exact absurd rfl h0
  · exact absurd (opensAfter_cons.1 hx) (by decide)
  · exact absurd (opensAfter_cons.1 hx) (by decide)
  · rfl

theorem takeFill_part {f : Option Fill} (hf : f ≠ some (.custom '\n')) (hx : OpensAfter 2 x)
    (h0 : f = none → x.head? ≠ some '0') :
    takeFill ((f.map Fill.written).getD [] ++ x) = (f, x) := by
  cases f with
  | none => exact takeFill_of_opensAfter hx (h0 rfl)
  | some f => exact takeFill_some (fun h => hf (by rw [h])) x

theorem takePrecision_part (hn : ∀ ds ∈ n, IsNumber ds) (hx : OpensAfter 5 x) :
    takePrecision ((n.map ('.' :: ·)).getD [] ++ x) = (n, x) := by
  cases n with
  | none =>
    simp only [Option.map_none, Option.getD_none, List.nil_append]
    unfold takePrecision
    split
    · exact absurd (opensAfter_cons.1 hx) (by decide)
    · rfl
  | some ds =>
    have hd := takeDigits_part hn (hx.mono (Nat.le_succ 4))
    simp only [Option.getD_some] at hd
    simp [takePrecision, hd]

theorem takeConversion_letter (k : Conversion) (x : Text) :
    takeConversion (k.letter :: x) = (some k, x) := by
  simp [takeConversion, Conversion.ofLetter?_letter]

/-! ## The parts behind a part -/

/-- The letter of a directive. -/
def fromConversion (d : Directive) : Text := (d.conversion.map fun k => [k.letter]).getD []

/-- A directive from the precision on. -/
def fromPrecision (d : Directive) : Text :=
  ((d.precision.map ('.' :: ·)).getD []) ++ fromConversion d

/-- A directive from the width on. -/
def fromWidth (d : Directive) : Text := d.width.getD [] ++ fromPrecision d

/-- A directive from the alignment on. -/
def fromMinus (d : Directive) : Text := flag d.minus '-' ++ fromWidth d

/-- A directive from the fill on. -/
def fromFill (d : Directive) : Text := ((d.fill.map Fill.written).getD []) ++ fromMinus d

/-- A directive from the sign on. -/
def fromPlus (d : Directive) : Text := flag d.plus '+' ++ fromFill d

theorem tail_eq (d : Directive) :
    d.tail = ((d.position.map (· ++ ['$'])).getD []) ++ fromPlus d := rfl

variable {d : Directive}

theorem opensAfter_fromConversion (d : Directive) : OpensAfter 5 (fromConversion d) := by
  unfold fromConversion
  cases d.conversion with
  | none => exact opensAfter_nil 5
  | some k => simp

theorem opensAfter_fromPrecision (d : Directive) : OpensAfter 4 (fromPrecision d) := by
  unfold fromPrecision
  cases d.precision with
  | none => exact (opensAfter_fromConversion d).mono (by omega)
  | some ds => exact opensAfter_cons.2 (by decide)

theorem opensAfter_fromWidth (h : d.WellFormed) : OpensAfter 3 (fromWidth d) := by
  unfold fromWidth
  cases hw : d.width with
  | none => exact (opensAfter_fromPrecision d).mono (by omega)
  | some ds =>
    have hds := h.width ds hw
    refine OpensAfter.append ?_ hds.ne_nil _
    intro c hc
    rw [place_of_isDigit (hds.isDigit c (List.mem_of_mem_head? hc))]
    omega

theorem opensAfter_fromMinus (h : d.WellFormed) : OpensAfter 2 (fromMinus d) := by
  unfold fromMinus
  cases d.minus with
  | false => exact (opensAfter_fromWidth h).mono (by omega)
  | true => exact opensAfter_cons.2 (by decide)

theorem opensAfter_fromFill (h : d.WellFormed) : OpensAfter 1 (fromFill d) := by
  unfold fromFill
  cases d.fill with
  | none => exact (opensAfter_fromMinus h).mono (by omega)
  | some f => cases f <;> exact opensAfter_cons.2 (by decide)

theorem OpensAfter.head?_ne {n : Nat} {c : Char} (h : OpensAfter n x) (hc : place c ≤ n) :
    x.head? ≠ some c :=
  fun hx => absurd (h c hx) (Nat.not_lt.2 hc)

/-- Where there is no fill, no zero stands in its place. -/
theorem head?_fromMinus_ne (hz : d.ZeroFills) (hf : d.fill = none) :
    (fromMinus d).head? ≠ some '0' := by
  unfold fromMinus fromWidth
  cases hm : d.minus with
  | true => simp [flag]
  | false =>
    cases hw : d.width with
    | none => exact (opensAfter_fromPrecision d).head?_ne (by decide)
    | some ds =>
      have h0 := hz hf hm ds hw
      cases ds with
      | nil => exact (opensAfter_fromPrecision d).head?_ne (by decide)
      | cons c ds => simpa [flag] using h0

/-- Behind the digits that open a directive without a position there is no dollar sign. -/
theorem head?_dropWhile_fromPlus_ne (h : d.WellFormed) :
    ((fromPlus d).dropWhile Char.isDigit).head? ≠ some '$' := by
  have hprecision : ((fromPrecision d).dropWhile Char.isDigit).head? ≠ some '$' := by
    rw [dropWhile_isDigit_of_opensAfter (opensAfter_fromPrecision d)]
    exact (opensAfter_fromPrecision d).head?_ne (by decide)
  have hwidth : ((fromWidth d).dropWhile Char.isDigit).head? ≠ some '$' := by
    unfold fromWidth
    cases hw : d.width with
    | none => exact hprecision
    | some ds => rwa [Option.getD_some, List.dropWhile_append_of_pos (h.width ds hw).isDigit]
  have hminus : ((fromMinus d).dropWhile Char.isDigit).head? ≠ some '$' := by
    unfold fromMinus
    cases d.minus with
    | false => exact hwidth
    | true => simp [flag]
  unfold fromPlus fromFill
  cases d.plus with
  | true => simp [flag]
  | false =>
    cases d.fill with
    | none => exact hminus
    | some f =>
      cases f with
      | digitZero => simpa [flag, Fill.written] using hminus
      | space | custom c => simp [flag, Fill.written]

theorem takePosition_tail (h : d.WellFormed)
    (hne : d.position = none → (fromPlus d).dropWhile Char.isDigit ≠ []) (q : Text) :
    takePosition (d.tail ++ q) = (d.position, fromPlus d ++ q) := by
  rw [tail_eq]
  cases hp : d.position with
  | none =>
    refine takePosition_of_head?_ne ?_
    have hne' := hne hp
    have hhead := head?_dropWhile_fromPlus_ne h
    simp only [Option.map_none, Option.getD_none, List.nil_append, List.dropWhile_append,
      List.isEmpty_iff, if_neg hne', List.head?_append_of_ne_nil _ hne']
    exact hhead
  | some ds => simpa using takePosition_number (h.position ds hp) (fromPlus d ++ q)

/-! ## Reading back -/

/-- **A directive with a letter is read back, whatever follows it.** -/
theorem read_tail_append (h : d.WellFormed) (hz : d.ZeroFills) (hk : d.conversion ≠ none)
    (q : Text) : read (d.tail ++ q) = (d, q) := by
  obtain ⟨k, hk⟩ := Option.ne_none_iff_exists'.1 hk
  have hconversion : fromConversion d = [k.letter] := by simp [fromConversion, hk]
  -- Since the letter is there, no part is empty from where it starts.
  have hprecision : fromPrecision d ≠ [] := by simp [fromPrecision, hconversion]
  have hwidth : fromWidth d ≠ [] := by simp [fromWidth, hprecision]
  have hminus : fromMinus d ≠ [] := by simp [fromMinus, hwidth]
  have hfill : fromFill d ≠ [] := by simp [fromFill, hminus]
  have hdigits : (fromPlus d).dropWhile Char.isDigit ≠ [] := by
    intro hnil
    have hmem : k.letter ∈ fromPlus d := by
      simp [fromPlus, fromFill, fromMinus, fromWidth, fromPrecision, hconversion]
    have := List.dropWhile_eq_nil_iff.1 hnil _ hmem
    rw [isDigit_letter] at this
    cases this
  have h₁ := takePosition_tail h (fun _ => hdigits) q
  have h₂ : takeSign '+' (fromPlus d ++ q) = (d.plus, fromFill d ++ q) := by
    rw [fromPlus, List.append_assoc]
    exact takeSign_part _ (((opensAfter_fromFill h).append hfill q).head?_ne (by decide))
  have h₃ : takeFill (fromFill d ++ q) = (d.fill, fromMinus d ++ q) := by
    rw [fromFill, List.append_assoc]
    refine takeFill_part h.fill ((opensAfter_fromMinus h).append hminus q) fun hf => ?_
    rw [List.head?_append_of_ne_nil _ hminus]
    exact head?_fromMinus_ne hz hf
  have h₄ : takeSign '-' (fromMinus d ++ q) = (d.minus, fromWidth d ++ q) := by
    rw [fromMinus, List.append_assoc]
    exact takeSign_part _ (((opensAfter_fromWidth h).append hwidth q).head?_ne (by decide))
  have h₅ : takeDigits (fromWidth d ++ q) = (d.width, fromPrecision d ++ q) := by
    rw [fromWidth, List.append_assoc]
    exact takeDigits_part h.width ((opensAfter_fromPrecision d).append hprecision q)
  have h₆ : takePrecision (fromPrecision d ++ q) = (d.precision, fromConversion d ++ q) := by
    rw [fromPrecision, List.append_assoc]
    refine takePrecision_part h.precision ((opensAfter_fromConversion d).append ?_ q)
    simp [hconversion]
  have h₇ : takeConversion (fromConversion d ++ q) = (d.conversion, q) := by
    rw [hconversion, hk]
    exact takeConversion_letter k q
  simp only [read, h₁, h₂, h₃, h₄, h₅, h₆, h₇]

/-! ## The longest directive -/

/-- What a reader leaves of a text that starts with `w` lies behind `w`. -/
def Covers (rest : Text → Text) (w : Text) : Prop := ∀ q, (rest (w ++ q)).length ≤ q.length

/-- A reader of one part, and then the reader of the parts behind it. -/
theorem Covers.step {take rest : Text → Text} {p w : Text} (hp : Covers take p)
    (hnil : Covers rest []) (hw : Covers rest w)
    (hsync : w ≠ [] → ∀ q, take (p ++ (w ++ q)) = w ++ q) :
    Covers (fun t => rest (take t)) (p ++ w) := by
  intro q
  rw [List.append_assoc]
  by_cases hempty : w = []
  · subst hempty
    exact Nat.le_trans (hnil _) (hp q)
  · simp only [hsync hempty q]
    exact hw q

theorem covers_takeDigits (hn : ∀ ds ∈ n, IsNumber ds) :
    Covers (fun t => (takeDigits t).2) (n.getD []) := by
  intro q
  cases n with
  | none => exact length_le_of_append (takeDigits_append q)
  | some ds =>
    simp only [Option.getD_some, takeDigits_number (hn ds rfl)]
    exact (List.dropWhile_sublist _).length_le

theorem covers_takePrecision (hn : ∀ ds ∈ n, IsNumber ds) :
    Covers (fun t => (takePrecision t).2) ((n.map ('.' :: ·)).getD []) := by
  intro q
  cases n with
  | none => exact length_le_of_append (takePrecision_append q)
  | some ds =>
    simp only [Option.map_some, Option.getD_some, List.cons_append, takePrecision,
      takeDigits_number (hn ds rfl)]
    exact (List.dropWhile_sublist _).length_le

theorem covers_takeSign (sign : Char) (b : Bool) :
    Covers (fun t => (takeSign sign t).2) (flag b sign) := by
  intro q
  cases b with
  | false => exact length_le_of_append (takeSign_append sign q)
  | true => simp [flag, takeSign]

theorem covers_takeFill {f : Option Fill} (hf : f ≠ some (.custom '\n')) :
    Covers (fun t => (takeFill t).2) ((f.map Fill.written).getD []) := by
  intro q
  cases f with
  | none => exact length_le_of_append (takeFill_append q)
  | some f =>
    have hread := takeFill_some (f := f) (fun h => hf (by rw [h])) q
    simp [hread]

/-! What is left of a text that is read from one of the parts on. -/

def restFromConversion (t : Text) : Text := (takeConversion t).2

def restFromPrecision (t : Text) : Text := restFromConversion (takePrecision t).2

def restFromWidth (t : Text) : Text := restFromPrecision (takeDigits t).2

def restFromMinus (t : Text) : Text := restFromWidth (takeSign '-' t).2

def restFromFill (t : Text) : Text := restFromMinus (takeFill t).2

def restFromPlus (t : Text) : Text := restFromFill (takeSign '+' t).2

theorem rest_read (t : Text) : (read t).2 = restFromPlus (takePosition t).2 := rfl

/-- The directive without any part. -/
def bare : Directive := ⟨none, false, none, false, none, none, none⟩

theorem wellFormed_bare : bare.WellFormed := by
  constructor <;> simp [bare]

theorem zeroFills_bare : bare.ZeroFills := fun _ _ ds hds => by simp [bare] at hds

theorem covers_fromConversion (d : Directive) : Covers restFromConversion (fromConversion d) := by
  intro q
  unfold restFromConversion fromConversion
  cases d.conversion with
  | none => exact length_le_of_append (takeConversion_append q)
  | some k => simp [takeConversion_letter]

theorem covers_fromPrecision (h : d.WellFormed) : Covers restFromPrecision (fromPrecision d) := by
  have hnil : Covers restFromConversion (fromConversion bare) := covers_fromConversion bare
  refine (covers_takePrecision h.precision).step hnil (covers_fromConversion d) fun hne q => ?_
  rw [takePrecision_part h.precision ((opensAfter_fromConversion d).append hne q)]

theorem covers_fromWidth (h : d.WellFormed) : Covers restFromWidth (fromWidth d) := by
  have hnil : Covers restFromPrecision (fromPrecision bare) := covers_fromPrecision wellFormed_bare
  refine (covers_takeDigits h.width).step hnil (covers_fromPrecision h) fun hne q => ?_
  rw [takeDigits_part h.width ((opensAfter_fromPrecision d).append hne q)]

theorem covers_fromMinus (h : d.WellFormed) : Covers restFromMinus (fromMinus d) := by
  have hnil : Covers restFromWidth (fromWidth bare) := covers_fromWidth wellFormed_bare
  refine (covers_takeSign '-' d.minus).step hnil (covers_fromWidth h) fun hne q => ?_
  rw [takeSign_part _ (((opensAfter_fromWidth h).append hne q).head?_ne (by decide))]

theorem covers_fromFill (h : d.WellFormed) (hz : d.ZeroFills) :
    Covers restFromFill (fromFill d) := by
  have hnil : Covers restFromMinus (fromMinus bare) := covers_fromMinus wellFormed_bare
  refine (covers_takeFill h.fill).step hnil (covers_fromMinus h) fun hne q => ?_
  rw [takeFill_part h.fill ((opensAfter_fromMinus h).append hne q)]
  intro hf
  rw [List.head?_append_of_ne_nil _ hne]
  exact head?_fromMinus_ne hz hf

theorem covers_fromPlus (h : d.WellFormed) (hz : d.ZeroFills) :
    Covers restFromPlus (fromPlus d) := by
  have hnil : Covers restFromFill (fromFill bare) := covers_fromFill wellFormed_bare zeroFills_bare
  refine (covers_takeSign '+' d.plus).step hnil (covers_fromFill h hz) fun hne q => ?_
  rw [takeSign_part _ (((opensAfter_fromFill h).append hne q).head?_ne (by decide))]

/-- Digits may be read as a position because of the text behind them, but then all of them are. -/
theorem takePosition_digits {w : Text} (hw : ∀ c ∈ w, c.isDigit = true) (q : Text) :
    takePosition (w ++ q) = (none, w ++ q) ∨ (takePosition (w ++ q)).2.length ≤ q.length := by
  by_cases hne : w = []
  · subst hne
    exact .inr (length_le_of_append (takePosition_append q))
  · unfold takePosition
    rw [takeDigits_number ⟨hne, hw⟩ q]
    split
    · next ds rest heq =>
      have hle := (List.dropWhile_sublist Char.isDigit (l := q)).length_le
      rw [(Prod.mk.inj heq).2] at hle
      exact .inr (Nat.le_of_succ_le hle)
    · exact .inl rfl

theorem covers_tail (h : d.WellFormed) (hz : d.ZeroFills) :
    Covers (fun t => (read t).2) d.tail := by
  intro q
  simp only [rest_read]
  by_cases hsync : d.position = none → (fromPlus d).dropWhile Char.isDigit ≠ []
  · rw [takePosition_tail h hsync]
    exact covers_fromPlus h hz q
  · push Not at hsync
    obtain ⟨hp, hdigits⟩ := hsync
    have htail : d.tail = fromPlus d := by simp [tail_eq, hp]
    rw [htail]
    obtain hnone | hle := takePosition_digits (List.dropWhile_eq_nil_iff.1 hdigits) q
    · rw [hnone]
      exact covers_fromPlus h hz q
    · have hnil : Covers restFromPlus (fromPlus bare) :=
        covers_fromPlus wellFormed_bare zeroFills_bare
      exact Nat.le_trans (hnil _) hle

/-- Digits as a number, if there are any. -/
def asNumber (ds : Text) : Option Text := if ds = [] then none else some ds

theorem getD_asNumber (ds : Text) : (asNumber ds).getD [] = ds := by
  by_cases h : ds = [] <;> simp [asNumber, h]

theorem isNumber_asNumber (h : ∀ c ∈ ds, c.isDigit = true) : ∀ ds' ∈ asNumber ds, IsNumber ds' := by
  intro ds' hds'
  by_cases hnil : ds = []
  · simp [asNumber, hnil] at hds'
  · obtain rfl : ds = ds' := by simpa [asNumber, hnil] using hds'
    exact ⟨hnil, h⟩

/-- A zero at the start of the width can be taken for the fill. -/
theorem exists_zeroFills (h : d.WellFormed) :
    ∃ d' : Directive, d'.WellFormed ∧ d'.ZeroFills ∧ d'.tail = d.tail ∧
      d'.conversion = d.conversion := by
  by_cases hz : d.ZeroFills
  · exact ⟨d, h, hz, rfl, rfl⟩
  · simp only [ZeroFills, not_forall, not_not] at hz
    obtain ⟨hf, hm, ds, hw, h0⟩ := hz
    obtain ⟨rest, rfl⟩ : ∃ rest, ds = '0' :: rest := by
      cases ds with
      | nil => cases h0
      | cons c rest => exact ⟨rest, by simpa using h0⟩
    have hrest : ∀ c ∈ rest, c.isDigit = true := fun c hc =>
      (h.width _ hw).isDigit c (List.mem_cons_of_mem _ hc)
    refine ⟨{ d with fill := some .digitZero, width := asNumber rest }, ?_, ?_, ?_, rfl⟩
    · exact ⟨h.position, by simp, isNumber_asNumber hrest, h.precision⟩
    · intro hfill
      cases hfill
    · simp only [tail, hf, hm, Option.mem_def.1 hw, getD_asNumber, Option.map_some,
        Option.map_none, Option.getD_some, Option.getD_none]
      rfl

/-- **No directive at the start of a text is longer than the one that is read.** -/
theorem length_rest_read_le (h : d.WellFormed) (q : Text) :
    (read (d.tail ++ q)).2.length ≤ q.length := by
  obtain ⟨d', h', hz, htail, -⟩ := exists_zeroFills h
  rw [← htail]
  exact covers_tail h' hz q

/-- Whatever stands before its letter, a directive with a letter is read to the letter. -/
theorem conversion_read (h : d.WellFormed) (hk : d.conversion ≠ none) (q : Text) :
    (read (d.tail ++ q)).1.conversion = d.conversion := by
  obtain ⟨d', h', hz, htail, hconversion⟩ := exists_zeroFills h
  rw [← htail, read_tail_append h' hz (hconversion ▸ hk), hconversion]

theorem tail_ne_nil (hk : d.conversion ≠ none) : d.tail ≠ [] := by
  obtain ⟨k, hk⟩ := Option.ne_none_iff_exists'.1 hk
  simp [tail, hk]

/-- No directive opens with a percent sign. -/
theorem head?_tail_ne (h : d.WellFormed) : d.tail.head? ≠ some '%' := by
  rw [tail_eq]
  cases hp : d.position with
  | none =>
    unfold fromPlus
    cases d.plus with
    | true => simp [flag]
    | false => exact (opensAfter_fromFill h).head?_ne (by decide)
  | some ds =>
    have hds := h.position ds hp
    intro hhead
    simp only [Option.map_some, Option.getD_some, List.append_assoc,
      List.head?_append_of_ne_nil _ hds.ne_nil] at hhead
    have := hds.isDigit _ (List.mem_of_mem_head? hhead)
    cases this

/-! ## What is read -/

theorem isNumber_takeDigits {t : Text} : ∀ ds ∈ (takeDigits t).1, IsNumber ds := by
  intro ds hds
  unfold takeDigits at hds
  split at hds
  · cases hds
  · next h0 =>
    obtain rfl : t.takeWhile Char.isDigit = ds := by simpa using hds
    exact ⟨h0, fun c hc => List.mem_takeWhile_imp hc⟩

theorem isNumber_takePosition {t : Text} : ∀ ds ∈ (takePosition t).1, IsNumber ds := by
  intro ds hds
  unfold takePosition at hds
  split at hds
  · next ds' rest h =>
    obtain rfl : ds' = ds := by simpa using hds
    exact isNumber_takeDigits ds' (by rw [h]; rfl)
  · cases hds

theorem isNumber_takePrecision {t : Text} : ∀ ds ∈ (takePrecision t).1, IsNumber ds := by
  intro ds hds
  unfold takePrecision at hds
  split at hds
  · next rest =>
    split at hds
    · next ds' rest' h =>
      obtain rfl : ds' = ds := by simpa using hds
      exact isNumber_takeDigits ds' (by rw [h]; rfl)
    · cases hds
  · cases hds

theorem takeFill_ne {t : Text} : (takeFill t).1 ≠ some (.custom '\n') := by
  unfold takeFill
  split
  · simp
  · simp
  · split
    · simp
    · next c rest hc => simpa using hc
  · simp

theorem wellFormed_read (t : Text) : (read t).1.WellFormed :=
  ⟨isNumber_takePosition, takeFill_ne, isNumber_takeDigits, isNumber_takePrecision⟩

theorem takeFill_eq_none {t : Text} (h : (takeFill t).1 = none) :
    (takeFill t).2 = t ∧ t.head? ≠ some '0' := by
  unfold takeFill at h ⊢
  split at h
  · cases h
  · cases h
  · next c rest =>
    split at h
    · next hc => simp [hc]
    · cases h
  · next hzero _ _ =>
    refine ⟨rfl, fun h0 => ?_⟩
    cases t with
    | nil => cases h0
    | cons c rest =>
      obtain rfl : c = '0' := by simpa using h0
      exact hzero rest rfl

theorem takeSign_eq_false {sign : Char} {t : Text} (h : (takeSign sign t).1 = false) :
    (takeSign sign t).2 = t := by
  have := takeSign_append sign t
  simpa [flag, h] using this

theorem head?_of_takeDigits {t : Text} (h : ds ∈ (takeDigits t).1) : ds.head? = t.head? := by
  have happend := takeDigits_append t
  rw [Option.mem_def.1 h, Option.getD_some] at happend
  rw [← happend, List.head?_append_of_ne_nil _ (isNumber_takeDigits ds h).ne_nil]

theorem zeroFills_read (t : Text) : (read t).1.ZeroFills := by
  intro hf hm ds hds
  simp only [read] at hf hm hds
  obtain ⟨hfill, h0⟩ := takeFill_eq_none hf
  have hminus := takeSign_eq_false hm
  have hhead := head?_of_takeDigits hds
  rw [hminus, hfill] at hhead
  rw [hhead]
  exact h0

end Textwork.Directive
