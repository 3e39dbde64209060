/-
  Texts that begin with a number.

  * `FloatText` is the grammar of numbers with a point: a sign, then a mantissa
    with an exponent, or the word `Infinity`;
  * `leading?_append`, `exists_of_leading?`: a mantissa and an exponent are read
    with any text behind them, unless a longer start of the text is one, and
    what is read is in the grammar;
  * `leadingFloat_text`: the number of a text is the one that its longest start
    in the grammar denotes, correctly rounded, or zero.
-/
import Textwork.Proofs.Number.Expansion
import Textwork.Proofs.Number.Leading
import Textwork.Proofs.Number.NearestBinary
import Textwork.Proofs.Value.Plain

namespace Textwork

open Directive (IsNumber)
open Numeral (EndsDigits IsSign Unsigned)

/-! ## The grammar -/

namespace DecimalNumeral

/-- Digits with an optional point and digits, or a point and digits; and the number. -/
inductive Mantissa : Text → ℚ → Prop
  | whole {ds : Text} (hds : IsNumber ds) : Mantissa ds (Numeral.value ds)
  | pointed {ds fs : Text} (hds : IsNumber ds) (hfs : ∀ c ∈ fs, c.isDigit = true) :
      Mantissa (ds ++ '.' :: fs) (Numeral.value ds + Numeral.value fs / 10 ^ fs.length)
  | bare {fs : Text} (hfs : IsNumber fs) :
      Mantissa ('.' :: fs) (Numeral.value fs / 10 ^ fs.length)

/-- Nothing, or an exponent mark with a sign and digits; and the exponent. -/
inductive Exponent : Text → ℤ → Prop
  | absent : Exponent [] 0
  | written {c : Char} {s ds : Text} {negative : Bool} (hc : c = 'e' ∨ c = 'E')
      (hs : IsSign s negative) (hds : IsNumber ds) :
      Exponent (c :: (s ++ ds)) (Numeral.withSign negative (Numeral.value ds))

end DecimalNumeral

open DecimalNumeral

/-- A number as it is written, with its sign and its magnitude; an infinity has none. -/
inductive FloatText : Text → Bool → Option ℚ → Prop
  | number {s m x : Text} {negative : Bool} {a : ℚ} {e : ℤ} (hs : IsSign s negative)
      (hm : Mantissa m a) (hx : Exponent x e) :
      FloatText (s ++ (m ++ x)) negative (some (a * 10 ^ e))
  | infinity {s : Text} {negative : Bool} (hs : IsSign s negative) :
      FloatText (s ++ "Infinity".toList) negative none

/-- `p` is the longest start of `t` that is a number. -/
structure IsLongestNumber (t p : Text) (negative : Bool) (v : Option ℚ) : Prop where
  number : FloatText p negative v
  isPrefix : p <+: t
  longest : ∀ p' negative' v', FloatText p' negative' v' → p' <+: t → p'.length ≤ p.length

/-! ## Exponents -/

namespace DecimalNumeral

variable {a : ℚ} {c : Char} {d : DecimalNumeral} {e : ℤ} {after ds fs m rest s t x : Text}
  {negative : Bool}

theorem isNumber_takeWhile (h : t.takeWhile Char.isDigit ≠ []) :
    IsNumber (t.takeWhile Char.isDigit) :=
  ⟨h, fun _ hc => List.mem_takeWhile_imp hc⟩

theorem unsigned_append (h : IsNumber ds) (t : Text) : Unsigned (ds ++ t) := by
  obtain ⟨c, ds, rfl, hc⟩ := Numeral.exists_cons_of_isNumber h
  exact Numeral.unsigned_of_isDigit hc _

/-- Nothing is taken, or an exponent of the grammar. -/
theorem exists_exponent (t : Text) :
    ∃ x, Exponent x (takeExponent t).1 ∧ x ++ (takeExponent t).2 = t := by
  rcases t with _ | ⟨c, t⟩
  · exact ⟨[], .absent, rfl⟩
  · unfold takeExponent
    dsimp only
    split_ifs with hc
    · obtain ⟨s, hs, hsigned⟩ := Numeral.exists_isSign t
      split
      · exact ⟨[], .absent, rfl⟩
      · next ds hne =>
        refine ⟨c :: (s ++ (Numeral.splitSign t).2.takeWhile Char.isDigit),
          .written hc hs (isNumber_takeWhile hne), ?_⟩
        rw [List.cons_append, List.append_assoc, List.takeWhile_append_dropWhile, hsigned]
    · exact ⟨[], .absent, rfl⟩

/-- A written exponent is read with all digits behind it. -/
theorem takeExponent_written (hc : c = 'e' ∨ c = 'E') (hs : IsSign s negative) (hds : IsNumber ds)
    (rest : Text) :
    takeExponent (c :: (s ++ (ds ++ rest))) =
      (Numeral.withSign negative (Numeral.value (ds ++ rest.takeWhile Char.isDigit)),
        rest.dropWhile Char.isDigit) := by
  have htake : (ds ++ rest).takeWhile Char.isDigit = ds ++ rest.takeWhile Char.isDigit :=
    List.takeWhile_append_of_pos hds.isDigit
  have hdrop : (ds ++ rest).dropWhile Char.isDigit = rest.dropWhile Char.isDigit :=
    List.dropWhile_append_of_pos hds.isDigit
  unfold takeExponent
  dsimp only
  rw [if_pos hc, hs.splitSign_append (unsigned_append hds rest)]
  dsimp only
  rw [htake, hdrop]
  split
  · next hnil => exact absurd (List.append_eq_nil_iff.1 hnil).1 hds.ne_nil
  · rfl

theorem takeWhile_eq_nil (h : rest.dropWhile Char.isDigit = rest) :
    rest.takeWhile Char.isDigit = [] := by
  have happend := List.takeWhile_append_dropWhile (p := Char.isDigit) (l := rest)
  rw [h] at happend
  simpa using happend

/-- An exponent is read with any text behind it, unless it goes on there. -/
theorem takeExponent_append (hx : Exponent x e) (rest : Text) :
    (takeExponent (x ++ rest)).2 <:+ rest ∧
      ((takeExponent (x ++ rest)).2 = rest → (takeExponent (x ++ rest)).1 = e) := by
  cases hx with
  | absent =>
    obtain ⟨x, hx, happend⟩ := exists_exponent rest
    rw [List.nil_append]
    refine ⟨⟨x, happend⟩, fun hrest => ?_⟩
    rw [hrest, List.append_left_eq_self] at happend
    subst happend
    generalize (takeExponent rest).1 = e at hx ⊢
    cases hx
    rfl
  | written hc hs hds =>
    rw [List.cons_append, List.append_assoc, takeExponent_written hc hs hds]
    refine ⟨List.dropWhile_suffix _, fun hrest => ?_⟩
    rw [takeWhile_eq_nil hrest, List.append_nil]

/-! ## Mantissas -/

/-- The mantissa at the start of a text and the rest of the text. -/
def mantissa? (t : Text) : Option (DecimalNumeral × Text) :=
  let whole := t.takeWhile Char.isDigit
  let rest := t.dropWhile Char.isDigit
  match takeFraction? (!whole.isEmpty) rest with
  | some (fraction, after) => some (⟨Numeral.value (whole ++ fraction), -fraction.length⟩, after)
  | none => if whole.isEmpty then none else some (⟨Numeral.value whole, 0⟩, rest)

theorem leading?_eq (t : Text) :
    leading? t = (mantissa? t).map fun (d, after) =>
      (⟨d.coefficient, (takeExponent after).1 + d.exponent⟩, (takeExponent after).2) := by
  unfold leading? mantissa?
  dsimp only
  cases takeFraction? (!(t.takeWhile Char.isDigit).isEmpty) (t.dropWhile Char.isDigit) with
  | some p => simp [sub_eq_add_neg]
  | none =>
    dsimp only
    split_ifs <;> simp

theorem value_pointed (ds fs : Text) :
    value ⟨Numeral.value (ds ++ fs), -fs.length⟩ =
      Numeral.value ds + Numeral.value fs / 10 ^ fs.length := by
  rw [value, Numeral.value_append]
  push_cast
  rw [zpow_neg, zpow_natCast, add_mul, mul_assoc, mul_inv_cancel₀ (by positivity), mul_one,
    div_eq_mul_inv]

theorem takeFraction?_point (bare : Bool) (rest : Text) :
    takeFraction? bare ('.' :: rest) =
      if (rest.takeWhile Char.isDigit).isEmpty && !bare then none
      else some (rest.takeWhile Char.isDigit, rest.dropWhile Char.isDigit) := rfl

theorem exists_fraction {bare : Bool} (h : takeFraction? bare t = some (fs, after)) :
    t = '.' :: (fs ++ after) ∧ (∀ c ∈ fs, c.isDigit = true) ∧ (fs ≠ [] ∨ bare = true) := by
  unfold takeFraction? at h
  split at h
  · next rest =>
    dsimp only at h
    split_ifs at h with hbare
    obtain ⟨rfl, rfl⟩ := Prod.mk.inj (Option.some.inj h)
    refine ⟨by rw [List.takeWhile_append_dropWhile], fun _ hc => List.mem_takeWhile_imp hc, ?_⟩
    simpa [or_iff_not_imp_left] using hbare
  · cases h

/-- What is read is a mantissa of the grammar. -/
theorem exists_mantissa (h : mantissa? t = some (d, after)) :
    ∃ m, Mantissa m d.value ∧ m ++ after = t := by
  have happend := List.takeWhile_append_dropWhile (p := Char.isDigit) (l := t)
  have hdigits : ∀ c ∈ t.takeWhile Char.isDigit, c.isDigit = true := fun c hc =>
    List.mem_takeWhile_imp hc
  unfold mantissa? at h
  dsimp only at h
  generalize t.takeWhile Char.isDigit = ds at h happend hdigits
  generalize t.dropWhile Char.isDigit = rest at h happend
  split at h
  · next fs after' hfraction =>
    obtain ⟨rfl, hfs, hsome⟩ := exists_fraction hfraction
    obtain ⟨rfl, rfl⟩ := Prod.mk.inj (Option.some.inj h)
    rw [value_pointed]
    refine ⟨ds ++ '.' :: fs, ?_, ?_⟩
    · rcases ds with _ | ⟨c, ds⟩
      · have hbare := Mantissa.bare ⟨by simpa using hsome, hfs⟩
        simpa [Numeral.value] using hbare
      · exact .pointed ⟨by simp, hdigits⟩ hfs
    · rw [List.append_assoc, List.cons_append, happend]
  · split_ifs at h with hempty
    obtain ⟨rfl, rfl⟩ := Prod.mk.inj (Option.some.inj h)
    refine ⟨ds, ?_, happend⟩
    have hds : IsNumber ds := ⟨by simpa using hempty, hdigits⟩
    simpa [value] using Mantissa.whole hds

/-- Digits around a point are read with all digits behind them. -/
theorem mantissa?_pointed (hds : ∀ c ∈ ds, c.isDigit = true) (hfs : ∀ c ∈ fs, c.isDigit = true)
    (hne : ds ≠ [] ∨ fs ≠ []) (rest : Text) :
    mantissa? (ds ++ '.' :: (fs ++ rest)) =
      some (⟨Numeral.value (ds ++ (fs ++ rest.takeWhile Char.isDigit)),
        -(fs ++ rest.takeWhile Char.isDigit).length⟩, rest.dropWhile Char.isDigit) := by
  have hpoint : EndsDigits ('.' :: (fs ++ rest)) := by
    rintro c ⟨⟩
    rfl
  have htake : (fs ++ rest).takeWhile Char.isDigit = fs ++ rest.takeWhile Char.isDigit :=
    List.takeWhile_append_of_pos hfs
  have hdrop : (fs ++ rest).dropWhile Char.isDigit = rest.dropWhile Char.isDigit :=
    List.dropWhile_append_of_pos hfs
  have hfraction : takeFraction? (!ds.isEmpty) ('.' :: (fs ++ rest)) =
      some (fs ++ rest.takeWhile Char.isDigit, rest.dropWhile Char.isDigit) := by
    rw [takeFraction?_point, htake, hdrop, if_neg]
    rcases hne with hne | hne <;> simp [hne]
  unfold mantissa?
  dsimp only
  rw [Numeral.takeWhile_digits hds hpoint, Numeral.dropWhile_digits hds hpoint, hfraction]

/-- Digits are read with all digits and the point behind them. -/
theorem mantissa?_whole (hds : IsNumber ds) (rest : Text) :
    ∃ d after, mantissa? (ds ++ rest) = some (d, after) ∧ after <:+ rest ∧
      (after = rest → d.value = Numeral.value ds) ∧
      (EndsDigits rest → rest.head? ≠ some '.' → after = rest) := by
  have htake : (ds ++ rest).takeWhile Char.isDigit = ds ++ rest.takeWhile Char.isDigit :=
    List.takeWhile_append_of_pos hds.isDigit
  have hdrop : (ds ++ rest).dropWhile Char.isDigit = rest.dropWhile Char.isDigit :=
    List.dropWhile_append_of_pos hds.isDigit
  have hsuffix : rest.dropWhile Char.isDigit <:+ rest := List.dropWhile_suffix _
  unfold mantissa?
  dsimp only
  rw [htake, hdrop]
  cases hfraction : takeFraction? (!(ds ++ rest.takeWhile Char.isDigit).isEmpty)
      (rest.dropWhile Char.isDigit) with
  | some p =>
    obtain ⟨fs, after⟩ := p
    obtain ⟨hpoint, -⟩ := exists_fraction hfraction
    rw [hpoint, ← List.cons_append] at hsuffix
    refine ⟨_, after, rfl, (List.suffix_append _ _).trans hsuffix, ?_, ?_⟩
    · rintro rfl
      have hlength := hsuffix.length_le
      simp only [List.cons_append, List.length_cons, List.length_append] at hlength
      omega
    · intro h hhead
      rw [h.dropWhile_eq] at hpoint
      simp [hpoint] at hhead
  | none =>
    refine ⟨_, _, if_neg (by simp [hds.ne_nil]), hsuffix, ?_, fun h _ => h.dropWhile_eq⟩
    intro hrest
    simp [value, takeWhile_eq_nil hrest]

/-- A mantissa is read with any text behind it, unless it goes on there. -/
theorem mantissa?_append (hm : Mantissa m a) (rest : Text) :
    ∃ d after, mantissa? (m ++ rest) = some (d, after) ∧ after <:+ rest ∧
      (after = rest → d.value = a) ∧
      (EndsDigits rest → rest.head? ≠ some '.' → after = rest) := by
  have hpointed {ds fs : Text} (hds : ∀ c ∈ ds, c.isDigit = true)
      (hfs : ∀ c ∈ fs, c.isDigit = true) (hne : ds ≠ [] ∨ fs ≠ []) :
      ∃ d after, mantissa? ((ds ++ '.' :: fs) ++ rest) = some (d, after) ∧ after <:+ rest ∧
        (after = rest → d.value = Numeral.value ds + Numeral.value fs / 10 ^ fs.length) ∧
        (EndsDigits rest → rest.head? ≠ some '.' → after = rest) := by
    rw [List.append_assoc, List.cons_append]
    refine ⟨_, _, mantissa?_pointed hds hfs hne rest, List.dropWhile_suffix _, ?_, ?_⟩
    · intro hrest
      rw [takeWhile_eq_nil hrest, List.append_nil, value_pointed]
    · intro hends _
      exact hends.dropWhile_eq
  cases hm with
  | pointed hds hfs => exact hpointed hds.isDigit hfs (.inl hds.ne_nil)
  | bare hfs =>
    have hbare := hpointed (List.forall_mem_nil _) hfs.isDigit (.inr hfs.ne_nil)
    simpa [Numeral.value] using hbare
  | whole hds => exact mantissa?_whole hds rest

/-! ## Numerals -/

/-- What is read is a mantissa and an exponent of the grammar. -/
theorem exists_of_leading? (h : leading? t = some (d, after)) :
    ∃ m a x e, Mantissa m a ∧ Exponent x e ∧ m ++ (x ++ after) = t := by
  rw [leading?_eq, Option.map_eq_some_iff] at h
  obtain ⟨⟨d', after'⟩, hmantissa, h⟩ := h
  obtain ⟨-, rfl⟩ := Prod.mk.inj h
  obtain ⟨m, hm, happend⟩ := exists_mantissa hmantissa
  obtain ⟨x, hx, happend'⟩ := exists_exponent after'
  exact ⟨m, _, x, _, hm, hx, by rw [happend', happend]⟩

/-- A mantissa and an exponent are read with any text behind them, unless they go on there. -/
theorem leading?_append (hm : Mantissa m a) (hx : Exponent x e) (rest : Text) :
    ∃ d after, leading? (m ++ (x ++ rest)) = some (d, after) ∧ after <:+ rest ∧
      (after = rest → d.value = a * 10 ^ e) := by
  obtain ⟨d, after, hmantissa, hsuffix, hvalue, hstops⟩ := mantissa?_append hm (x ++ rest)
  rw [leading?_eq, hmantissa]
  refine ⟨_, _, rfl, ?_⟩
  have hscaled (k : ℤ) : value ⟨d.coefficient, k + d.exponent⟩ = d.value * 10 ^ k := by
    rw [value, value, add_comm, zpow_add₀ (by norm_num), mul_assoc]
  rw [hscaled]
  have hexponent : after = x ++ rest → (takeExponent after).2 <:+ rest ∧
      ((takeExponent after).2 = rest → d.value * 10 ^ (takeExponent after).1 = a * 10 ^ e) := by
    intro hafter
    obtain ⟨hrest, he⟩ := takeExponent_append hx rest
    rw [hvalue hafter, hafter]
    exact ⟨hrest, fun h => by rw [he h]⟩
  cases hx with
  | absent =>
    by_cases hafter : after = rest
    · exact hexponent hafter
    · -- Something behind the mantissa was read, so that less than `rest` is left.
      obtain ⟨x, -, happend⟩ := exists_exponent after
      have hless : (takeExponent after).2 <:+ after := ⟨x, happend⟩
      refine ⟨hless.trans hsuffix, fun hrest => absurd ?_ hafter⟩
      rw [hrest] at hless
      exact hsuffix.eq_of_length_le hless.length_le
  | written hc hs hds =>
    refine hexponent (hstops ?_ ?_)
    · rintro c ⟨⟩
      rcases hc with rfl | rfl <;> rfl
    · rintro ⟨⟩
      rcases hc with hc | hc <;> cases hc

end DecimalNumeral

/-! ## Numbers with a sign -/

namespace Binary64

variable {negative : Bool} {p rest t : Text} {v : Option ℚ}

/-- The number with a sign and a magnitude, correctly rounded, or the infinity. -/
def Denotes (negative : Bool) : Option ℚ → Binary64 → Prop
  | some a, x => Rounds (Rounding.signOf negative * a) x
  | none, x => x = .infinite negative

theorem Denotes.unique {x y : Binary64} (hx : Denotes negative v x) (hy : Denotes negative v y) :
    x.unsignedZero = y.unsignedZero := by
  cases v with
  | none =>
    obtain rfl : x = y := Eq.trans hx (Eq.symm hy)
    rfl
  | some a => exact Rounds.unique hx hy

theorem denotes_nan : ¬Denotes negative v .nan := by
  intro h
  cases v with
  | none => cases h
  | some a =>
    have hrounds : Rounds _ .nan := h
    cases hrounds

theorem unsigned_mantissa {m : Text} {a : ℚ} (h : Mantissa m a) (rest : Text) :
    Unsigned (m ++ rest) := by
  cases h with
  | whole hds => exact unsigned_append hds rest
  | pointed hds hfs =>
    rw [List.append_assoc]
    exact unsigned_append hds _
  | bare hfs =>
    rintro c ⟨⟩
    decide

/-- The longest number at the start of a text is read. -/
theorem exists_ofPrefix? (h : IsLongestNumber (Text.trimStart Unicode.isBlank t) p negative v) :
    ∃ x, ofPrefix? t = some x ∧ Denotes negative v x := by
  obtain ⟨hnumber, ⟨rest, hrest⟩, hlongest⟩ := h
  rw [← hrest] at hlongest
  unfold ofPrefix?
  rw [← hrest]
  cases hnumber with
  | @number s m x negative a e hs hm hx =>
    obtain ⟨d, after, hread, hsuffix, hvalue⟩ := leading?_append hm hx rest
    have hafter : after = rest := by
      obtain ⟨m', a', x', e', hm', hx', happend⟩ := exists_of_leading? hread
      have hle := hlongest _ _ _ (.number hs hm' hx') ⟨after, by simp [happend]⟩
      have hlength := congrArg List.length happend
      simp only [List.length_append] at hle hlength
      exact hsuffix.eq_of_length_le (by omega)
    have hsigned : Numeral.splitSign (s ++ (m ++ x) ++ rest) = (negative, m ++ (x ++ rest)) := by
      rw [List.append_assoc, List.append_assoc]
      exact hs.splitSign_append (unsigned_mantissa hm _)
    rw [hsigned]
    simp only [hread]
    refine ⟨_, rfl, ?_⟩
    rw [Denotes, ← hvalue hafter]
    exact rounds_ofDecimal negative d.coefficient d.exponent
  | @infinity s negative hs =>
    have hword : Unsigned ("Infinity".toList ++ rest) := by
      rintro c ⟨⟩
      decide
    have hnone : leading? ("Infinity".toList ++ rest) = none := rfl
    rw [List.append_assoc, hs.splitSign_append hword]
    simp only [hnone]
    exact ⟨_, if_pos (by simp), rfl⟩

/-- Nothing is read if no number is at the start of the text. -/
theorem ofPrefix?_eq_none
    (h : ∀ p negative v, FloatText p negative v → ¬p <+: Text.trimStart Unicode.isBlank t) :
    ofPrefix? t = none := by
  obtain ⟨s, hs, hsigned⟩ := Numeral.exists_isSign (Text.trimStart Unicode.isBlank t)
  unfold ofPrefix?
  dsimp only
  cases hread : leading? (Numeral.splitSign (Text.trimStart Unicode.isBlank t)).2 with
  | some q =>
    obtain ⟨m, a, x, e, hm, hx, happend⟩ := exists_of_leading? hread
    refine absurd ?_ (h _ _ _ (.number hs hm hx))
    exact ⟨q.2, by rw [List.append_assoc, List.append_assoc, happend, hsigned]⟩
  | none =>
    refine if_neg fun hword => ?_
    obtain ⟨rest, hrest⟩ := List.isPrefixOf_iff_prefix.1 hword
    refine absurd ?_ (h _ _ _ (.infinity hs))
    exact ⟨rest, by rw [List.append_assoc, hrest, hsigned]⟩

end Binary64

namespace Value

open Binary64

theorem result_leadingFloat_text (t : Text) :
    (text t).leadingFloat.result =
      .ok (match (ofPrefix? t).getD .nan with
        | .nan => zero false
        | x => x.unsignedZero) := by
  have hnearest : (text t).nearestFloat.result = .ok ((ofPrefix? t).getD .nan) := rfl
  rw [leadingFloat, Traced.result_bind, hnearest, ok_bind]
  cases (ofPrefix? t).getD .nan <;> rfl

/-- **The number of a text is its longest start that is a number**, behind blanks and correctly
    rounded, a negative zero being zero; it is zero if there is none. -/
theorem leadingFloat_text (t : Text) :
    ∃ x, (text t).leadingFloat.result = .ok x ∧
      (∀ p negative v, IsLongestNumber (t.dropWhile Unicode.isBlank) p negative v →
        (∃ y, Denotes negative v y) ∧ ∀ y, Denotes negative v y → x = y.unsignedZero) ∧
      ((∀ p negative v, FloatText p negative v → ¬p <+: t.dropWhile Unicode.isBlank) →
        x = zero false) := by
  refine ⟨_, result_leadingFloat_text t, ?_, ?_⟩
  · intro p negative v h
    obtain ⟨y, hy, hdenotes⟩ := exists_ofPrefix? h
    refine ⟨⟨y, hdenotes⟩, fun y' hdenotes' => ?_⟩
    rw [← hdenotes.unique hdenotes', hy]
    cases y with
    | finite | infinite => rfl
    | nan => exact absurd hdenotes denotes_nan
  · intro h
    rw [ofPrefix?_eq_none h]
    rfl

/-- An exponent without digits is not a part of the number. -/
example : (text "  5e+.5".toList).leadingFloat.result = .ok (Binary64.ofInt 5) := by
  decide +kernel

end Value

end Textwork
