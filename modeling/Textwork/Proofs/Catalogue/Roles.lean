/-
  Calls of the functions that take lengths, positions and counts.

  * `SucceedsIff p r`: the computation gives a result exactly if `p` holds;
  * a `Role` is what an argument is taken for, and `Role.Admits` says which values
    can be; `contracts` are the functions with the roles of their parameters and
    what has to be addressed for them;
  * `exists_contract_holds`: a function gives a result exactly if its arguments
    can be taken for what it needs, and what it makes can be addressed;
  * `coerceToInt_outcome`: of all values, only an infinite decimal number can not
    be taken for a length, a position or a count.
-/
import Textwork.Proofs.Text.Padding
import Textwork.Proofs.Value.Coercion
import Textwork.Proofs.Value.Overlong

namespace Textwork

/-! ## Computations that give a result -/

/-- The computation gives a result exactly if `p` holds. -/
def SucceedsIff {α : Type} (p : Prop) (r : Except Fault α) : Prop := (∃ a, r = .ok a) ↔ p

theorem RefusedIff.succeedsIff {α : Type} {p : Prop} {r : Except Fault α} (h : RefusedIff p r) :
    SucceedsIff (¬p) r := by
  constructor
  · rintro ⟨a, ha⟩
    exact h.not_of_ok ha
  · exact h.exists_ok

namespace SucceedsIff

variable {α β : Type} {p q : Prop} {r : Except Fault α}

theorem ok (a : α) : SucceedsIff True (.ok a) := iff_of_true ⟨a, rfl⟩ trivial

theorem congr (h : SucceedsIff p r) (hpq : p ↔ q) : SucceedsIff q r := h.trans hpq

theorem of_error_iff {P : Fault → Prop} (h : ∀ e, r = .error e ↔ P e) :
    SucceedsIff (∀ e, ¬P e) r := by
  cases r with
  | error e =>
    have he : P e := (h e).1 rfl
    exact iff_of_false (by simp) fun hall => hall e he
  | ok a => exact iff_of_true ⟨a, rfl⟩ fun e he => by cases (h e).2 he

theorem bind {f : α → Except Fault β} (hr : SucceedsIff p r)
    (hf : ∀ a, r = .ok a → SucceedsIff q (f a)) : SucceedsIff (p ∧ q) (r >>= f) := by
  cases hok : r with
  | error e =>
    have hp : ¬p := fun hp => by
      obtain ⟨a, ha⟩ := hr.2 hp
      cases hok.symm.trans ha
    exact iff_of_false (by simp) fun h => hp h.1
  | ok a =>
    have hp : p := hr.1 ⟨a, hok⟩
    exact (hf a hok).congr (and_iff_right hp).symm

theorem map {f : α → β} (hr : SucceedsIff p r) : SucceedsIff p (r.map f) := by
  refine Iff.trans ?_ hr
  cases r <;> simp

end SucceedsIff

namespace Catalogue

open Text (CanFill maxLength)

variable {α : Type} {name : String}

/-! ## Roles -/

/-- What an argument is taken for: a text, a number of some kind, or a truth value. -/
inductive Role where
  | text
  | number
  | flag

/-- The values that can be taken for it. -/
def Role.Admits : Role → Value → Prop
  | text, v => ¬v.HoldsOverlong
  | number, v => ¬v.IsInfiniteDecimal
  | flag, _ => True

theorem succeedsIff_textOr (default : Text) (v : Value) :
    SucceedsIff (Role.text.Admits v) (v.textOr default) :=
  (Value.refusedIff_textOr default v).succeedsIff

theorem succeedsIff_toText (v : Value) : SucceedsIff (Role.text.Admits v) v.toText :=
  succeedsIff_textOr [] v

theorem succeedsIff_lenient? (v : Value) : SucceedsIff (Role.number.Admits v) v.lenient? :=
  (SucceedsIff.of_error_iff fun _ => Value.lenient?_eq_error_iff).congr (by simp [Role.Admits])

theorem succeedsIff_toIntOr (default : ℤ) (v : Value) :
    SucceedsIff (Role.number.Admits v) (v.toIntOr default) := by
  rw [Value.toIntOr_eq]
  exact (succeedsIff_lenient? v).map

theorem succeedsIff_optionalInt (default : ℤ) (v : Value) :
    SucceedsIff (Role.number.Admits v) (optionalInt default v) := by
  cases v with
  | nothing => exact iff_of_true ⟨none, rfl⟩ not_false
  | _ => exact (succeedsIff_toIntOr default _).map

/-! ## Contracts -/

/-- The roles of the parameters of a function, and which values of them leave what it makes within
    what can be addressed. -/
structure Contract where
  name : String
  roles : List Role
  fits : List Value → Prop

/-- No number asks for a length: what is made is as long as the texts that are given and made of, and
    assumed to fit in memory. -/
def unlimited (name : String) (roles : List Role) : Contract := ⟨name, roles, fun _ => True⟩

/-- The longest fill can be made beside the text and the rest of the missing characters. -/
def FillFits (longest : ℕ → ℕ) : List Value → Prop
  | [v, target, pattern] => ∀ t n p, v.toText = .ok t → target.toIntOr 0 = .ok n →
      pattern.textOr [' '] = .ok p → p = [] ∨
        CanFill p (longest (t.missing n)) (t.length + (t.missing n - longest (t.missing n)))
  | _ => True

/-- The copies of a text can be addressed, and so can their number. -/
def CopiesFit : List Value → Prop
  | [v, times] => ∀ t n, v.toText = .ok t → times.toIntOr 1 = .ok n →
      n.toNat ≤ maxLength ∧ t.length * n.toNat ≤ maxLength
  | _ => True

/-- The functions that take lengths, positions and counts, but for the search for a pattern. -/
def contracts : List Contract := [
  ⟨"pad", [.text, .number, .text], FillFits fun n => n - n / 2⟩,
  ⟨"pad_left", [.text, .number, .text], FillFits id⟩,
  ⟨"pad_right", [.text, .number, .text], FillFits id⟩,
  ⟨"repeat", [.text, .number], CopiesFit⟩,
  unlimited "insert" [.text, .text, .number],
  unlimited "splice" [.text, .number, .number, .text],
  unlimited "first" [.text, .number],
  unlimited "last" [.text, .number],
  unlimited "substr" [.text, .number, .number],
  unlimited "substring" [.text, .number, .number],
  unlimited "truncate" [.text, .number, .text],
  unlimited "prune" [.text, .number, .text],
  unlimited "char_at" [.text, .number],
  unlimited "code_point_at" [.text, .number],
  unlimited "grapheme_at" [.text, .number],
  unlimited "index_of" [.text, .text, .number],
  unlimited "last_index_of" [.text, .text, .number],
  unlimited "includes" [.text, .text, .number],
  unlimited "starts_with" [.text, .text, .number],
  unlimited "ends_with" [.text, .text, .number],
  unlimited "word_wrap" [.text, .number, .text, .text, .flag]]

/-- Whatever the values of its parameters, the function gives a result exactly if they can be taken
    for what they are needed and what it makes can be addressed. -/
def Contract.Holds (k : Contract) (e : Entry) : Prop :=
  ∀ values more, values.length = e.signature.parameters.length →
    SucceedsIff (List.Forall₂ Role.Admits k.roles values ∧ k.fits values)
      (e.body.apply values more).result

section Holds

variable {fits : List Value → Prop} {p q s : Parameter} {r₁ r₂ r₃ r₄ : Role}

theorem holds₂ {f : Value → Value → Except Fault Value}
    (h : ∀ a b, SucceedsIff (r₁.Admits a ∧ r₂.Admits b ∧ fits [a, b]) (f a b)) :
    Contract.Holds ⟨name, [r₁, r₂], fits⟩ (entry₂ name p f) := by
  intro values more hlength
  match values, hlength with
  | [a, b], _ => exact (h a b).congr (by simp [and_assoc])

theorem holds₃ {f : Value → Value → Value → Except Fault Value}
    (h : ∀ a b c, SucceedsIff (r₁.Admits a ∧ r₂.Admits b ∧ r₃.Admits c ∧ fits [a, b, c])
      (f a b c)) :
    Contract.Holds ⟨name, [r₁, r₂, r₃], fits⟩ (entry₃ name p q f) := by
  intro values more hlength
  match values, hlength with
  | [a, b, c], _ => exact (h a b c).congr (by simp [and_assoc])

theorem holds₄ {f : Value → Value → Value → Value → Except Fault Value}
    (h : ∀ a b c d, SucceedsIff
      (r₁.Admits a ∧ r₂.Admits b ∧ r₃.Admits c ∧ r₄.Admits d ∧ fits [a, b, c, d]) (f a b c d)) :
    Contract.Holds ⟨name, [r₁, r₂, r₃, r₄], fits⟩ (entry₄ name p q s f) := by
  intro values more hlength
  match values, hlength with
  | [a, b, c, d], _ => exact (h a b c d).congr (by simp [and_assoc])

end Holds

/-! ## Copies -/

theorem succeedsIff_checkFill (p : Text) (n kept : ℕ) :
    SucceedsIff (p = [] ∨ CanFill p n kept) (Text.checkFill p n kept) := by
  by_cases hp : p = []
  · subst hp
    exact iff_of_true ⟨(), rfl⟩ (.inl rfl)
  · rw [Text.checkFill_eq hp]
    split_ifs with hn
    · exact iff_of_true ⟨(), rfl⟩ (.inr hn)
    · exact iff_of_false (by simp) (by simp [hp, hn])

theorem succeedsIff_checkCopies (length count : ℕ) :
    SucceedsIff (count ≤ maxLength ∧ length * count ≤ maxLength)
      (Text.checkCopies length count) := by
  unfold Text.checkCopies
  split_ifs with h
  · exact iff_of_false (by simp) (by omega)
  · exact iff_of_true ⟨(), rfl⟩ (by omega)

theorem succeedsIff_padded (longest : ℕ → ℕ) (pad : Text → ℤ → Text → Text)
    (v target pattern : Value) :
    SucceedsIff (Role.text.Admits v ∧ Role.number.Admits target ∧ Role.text.Admits pattern ∧
      FillFits longest [v, target, pattern]) (padded longest pad v target pattern) := by
  refine (succeedsIff_toText v).bind fun t ht => (succeedsIff_toIntOr 0 target).bind fun n hn =>
    (succeedsIff_textOr [' '] pattern).bind fun p hp => ?_
  have hfits : FillFits longest [v, target, pattern] ↔
      p = [] ∨
        CanFill p (longest (t.missing n)) (t.length + (t.missing n - longest (t.missing n))) := by
    simp [FillFits, ht, hn, hp]
  refine ((succeedsIff_checkFill p _ _).bind fun _ _ => .ok _).congr ?_
  rw [hfits, and_iff_left trivial]

theorem succeedsIff_repeated (v times : Value) :
    SucceedsIff (Role.text.Admits v ∧ Role.number.Admits times ∧ CopiesFit [v, times])
      (repeated v times) := by
  refine (succeedsIff_toText v).bind fun t ht => (succeedsIff_toIntOr 1 times).bind fun n hn => ?_
  have hfits : CopiesFit [v, times] ↔ n.toNat ≤ maxLength ∧ t.length * n.toNat ≤ maxLength := by
    simp [CopiesFit, ht, hn]
  refine ((succeedsIff_checkCopies t.length n.toNat).bind fun _ _ => .ok _).congr ?_
  rw [hfits, and_iff_left trivial]

/-! ## Pieces and lines -/

theorem succeedsIff_shortened (cut : Text → Option ℤ → Text → Text) (v limit marker : Value) :
    SucceedsIff (Role.text.Admits v ∧ Role.number.Admits limit ∧ Role.text.Admits marker ∧ True)
      (shortened cut v limit marker) := by
  have hshortened : shortened cut v limit marker = (do
      let t ← v.toText
      let n ← optionalInt 0 limit
      let m ← marker.textOr "...".toList
      .ok (.text (cut t n m))) := by
    cases limit <;> rfl
  rw [hshortened]
  exact (succeedsIff_toText v).bind fun _ _ => (succeedsIff_optionalInt 0 limit).bind fun _ _ =>
    (succeedsIff_textOr _ marker).bind fun _ _ => .ok _

/-- The functions of a text and a number. -/
theorem succeedsIff_textInt (f : Text → ℤ → α) (d : ℤ) (v number : Value) :
    SucceedsIff (Role.text.Admits v ∧ Role.number.Admits number ∧ True) (do
      let t ← v.toText
      let n ← number.toIntOr d
      .ok (f t n)) :=
  (succeedsIff_toText v).bind fun _ _ => (succeedsIff_toIntOr d number).bind fun _ _ => .ok _

/-- The functions of a text and two bounds, of which the second may be left out. -/
theorem succeedsIff_bounds (f : Text → ℤ → Option ℤ → Value) (v first second : Value) :
    SucceedsIff (Role.text.Admits v ∧ Role.number.Admits first ∧ Role.number.Admits second ∧ True)
      (do
        let t ← v.toText
        let a ← first.toIntOr 0
        let b ← optionalInt 0 second
        .ok (f t a b)) :=
  (succeedsIff_toText v).bind fun _ _ => (succeedsIff_toIntOr 0 first).bind fun _ _ =>
    (succeedsIff_optionalInt 0 second).bind fun _ _ => .ok _

section Position

variable {read : Value → Except Fault α}
  (hread : ∀ v, SucceedsIff (Role.number.Admits v) (read v)) (f : Text → Text → α → Value)
  (v other position : Value)
include hread

/-- The functions of two texts and a position. -/
theorem succeedsIff_textsInt :
    SucceedsIff (Role.text.Admits v ∧ Role.text.Admits other ∧ Role.number.Admits position ∧ True)
      (do
        let t ← v.toText
        let s ← other.toText
        let i ← read position
        .ok (f t s i)) :=
  (succeedsIff_toText v).bind fun _ _ => (succeedsIff_toText other).bind fun _ _ =>
    (hread position).bind fun _ _ => .ok _

/-- Some of them read the position before the second text. -/
theorem succeedsIff_textIntText :
    SucceedsIff (Role.text.Admits v ∧ Role.text.Admits other ∧ Role.number.Admits position ∧ True)
      (do
        let t ← v.toText
        let i ← read position
        let s ← other.toText
        .ok (f t s i)) := by
  refine ((succeedsIff_toText v).bind fun _ _ => (hread position).bind fun _ _ =>
    (succeedsIff_toText other).bind fun _ _ => .ok _).congr ?_
  exact and_congr_right' and_left_comm

end Position

theorem succeedsIff_wordWrap (v width newLine indent cut : Value) :
    SucceedsIff (Role.text.Admits v ∧ Role.number.Admits width ∧ Role.text.Admits newLine ∧
      Role.text.Admits indent ∧ True) (wordWrap v width newLine indent cut) :=
  (succeedsIff_toText v).bind fun _ _ => (succeedsIff_toIntOr 75 width).bind fun _ _ =>
    (succeedsIff_textOr _ newLine).bind fun _ _ => (succeedsIff_toText indent).bind fun _ _ => .ok _

/-- **Every contract holds of the function of its name.**  One step for each function: it says how
    the arguments are read. -/
theorem exists_contract_holds :
    ∀ k ∈ contracts, ∃ e, find? all k.name.toList = some e ∧ k.Holds e := by
  simp only [contracts, List.forall_mem_cons]
  and_intros
  · exact ⟨_, rfl, holds₃ fun v n p => succeedsIff_padded _ _ v n p⟩
  · exact ⟨_, rfl, holds₃ fun v n p => succeedsIff_padded _ _ v n p⟩
  · exact ⟨_, rfl, holds₃ fun v n p => succeedsIff_padded _ _ v n p⟩
  · exact ⟨_, rfl, holds₂ fun v n => succeedsIff_repeated v n⟩
  · exact ⟨_, rfl, holds₃ fun v a i => succeedsIff_textsInt (succeedsIff_optionalInt 0) _ v a i⟩
  · refine ⟨_, rfl, holds₄ fun v a n s => ?_⟩
    exact (succeedsIff_toText v).bind fun _ _ => (succeedsIff_toIntOr 0 a).bind fun _ _ =>
      (succeedsIff_optionalInt 0 n).bind fun _ _ => (succeedsIff_toText s).bind fun _ _ => .ok _
  · exact ⟨_, rfl, holds₂ fun v n => succeedsIff_textInt _ 1 v n⟩
  · exact ⟨_, rfl, holds₂ fun v n => succeedsIff_textInt _ 1 v n⟩
  · exact ⟨_, rfl, holds₃ fun v a n => succeedsIff_bounds _ v a n⟩
  · exact ⟨_, rfl, holds₃ fun v a b => succeedsIff_bounds _ v a b⟩
  · exact ⟨_, rfl, holds₃ fun v n m => succeedsIff_shortened _ v n m⟩
  · exact ⟨_, rfl, holds₃ fun v n m => succeedsIff_shortened _ v n m⟩
  · exact ⟨_, rfl, holds₂ fun v i => (succeedsIff_textInt Text.at? 0 v i).map⟩
  · refine ⟨_, rfl, holds₂ fun v i => ?_⟩
    refine ((succeedsIff_textInt Text.at? 0 v i).bind fun c _ => ?_).congr (and_iff_left trivial)
    cases c <;> exact .ok _
  · exact ⟨_, rfl, holds₂ fun v i => succeedsIff_textInt _ 0 v i⟩
  · exact ⟨_, rfl, holds₃ fun v n i => succeedsIff_textIntText (succeedsIff_toIntOr 0) _ v n i⟩
  · exact ⟨_, rfl, holds₃ fun v n i => succeedsIff_textsInt (succeedsIff_optionalInt 0) _ v n i⟩
  · exact ⟨_, rfl, holds₃ fun v n i => succeedsIff_textsInt (succeedsIff_toIntOr 0) _ v n i⟩
  · exact ⟨_, rfl, holds₃ fun v n i => succeedsIff_textsInt (succeedsIff_toIntOr 0) _ v n i⟩
  · exact ⟨_, rfl, holds₃ fun v n i => succeedsIff_textIntText (succeedsIff_optionalInt 0) _ v n i⟩
  · refine ⟨_, rfl, fun values more hlength => ?_⟩
    match values, hlength with
    | [v, w, n, i, c], _ =>
      exact (succeedsIff_wordWrap v w n i c).congr (by simp [unlimited, Role.Admits])
  · exact List.forall_mem_nil _

/-! ## Calls -/

/-- The parameters of the function of a name take these values, from arguments in order and by
    name and from their defaults. -/
def Binds (name : Text) (args : List Value) (byName : List (Text × Value)) (values : List Value) :
    Prop :=
  ∃ e more, find? all name = some e ∧ e.signature.bind args byName = .ok (values, more)

theorem length_matchInOrder (ps : List Parameter) (args : List Value) :
    (matchInOrder ps args).1.length = ps.length := by
  fun_induction matchInOrder ps args with
  | case1 => rfl
  | case2 | case3 => simp_all

section Call

variable {e : Entry} {k : Contract} {d v : Value} {args values more : List Value}
  {byName : List (Text × Value)}

theorem length_of_bind {s : Signature} (h : s.bind args byName = .ok (values, more)) :
    values.length = s.parameters.length := by
  unfold Signature.bind at h
  dsimp only at h
  split_ifs at h
  obtain ⟨values', hvalues, h⟩ := bind_eq_ok_iff.1 h
  cases h
  rw [← length_matchInOrder s.parameters args]
  exact (mapM_eq_ok_iff.1 hvalues).length_eq.symm

theorem result_call {name : Text} (he : find? all name = some e) (args : List Value)
    (byName : List (Text × Value)) :
    (call name args byName).result =
      e.signature.bind args byName >>= fun (values, more) => (e.body.apply values more).result := by
  simp [call, callIn, he, Entry.call]

theorem exists_call_iff (hk : k ∈ contracts) (args : List Value) (byName : List (Text × Value)) :
    (∃ w, (call k.name.toList args byName).result = .ok w) ↔
      ∃ values, Binds k.name.toList args byName values ∧
        List.Forall₂ Role.Admits k.roles values ∧ k.fits values := by
  obtain ⟨e, he, hholds⟩ := exists_contract_holds k hk
  rw [result_call he]
  constructor
  · rintro ⟨w, hw⟩
    obtain ⟨⟨values, more⟩, hbind, happly⟩ := bind_eq_ok_iff.1 hw
    exact ⟨values, ⟨e, more, he, hbind⟩, (hholds values more (length_of_bind hbind)).1 ⟨w, happly⟩⟩
  · rintro ⟨values, ⟨e', more, he', hbind⟩, hvalues⟩
    obtain rfl := Option.some.inj (he.symm.trans he')
    obtain ⟨w, hw⟩ := (hholds values more (length_of_bind hbind)).2 hvalues
    exact ⟨w, bind_eq_ok_iff.2 ⟨(values, more), hbind, hw⟩⟩

/-! ## The coercion -/

theorem coerceToInt_eq (v d : Value) :
    coerceToInt v d = v.lenient?.map fun n => (n.map .int).getD d := by
  cases v with
  | float x => cases x <;> rfl
  | _ => rfl

theorem call_coerceToInt (h : Binds "coerce_to_int".toList args byName [v, d]) :
    (call "coerce_to_int".toList args byName).result =
      v.lenient?.map fun n => (n.map .int).getD d := by
  obtain ⟨e, more, he, hbind⟩ := h
  rw [result_call he, hbind, ok_bind, ← coerceToInt_eq]
  cases he
  rfl

end Call

/-- **Every value but an infinite decimal number can be taken for a length, a position or a count.**
    The integer that it denotes is taken, or the default if it denotes none.  The functions that
    take such numbers give a result exactly if none of them is an infinite decimal number, their
    other arguments have a text, and what they make can be addressed. -/
theorem coerceToInt_outcome (args : List Value) (byName : List (Text × Value)) :
    (∀ v d, Binds "coerce_to_int".toList args byName [v, d] →
      let r := (call "coerce_to_int".toList args byName).result
      (∀ n, v.DenotesInteger n → r = .ok (.int n)) ∧
      (v.IsInfiniteDecimal → r = .error .tooLarge) ∧
      ((∀ n, ¬v.DenotesInteger n) → ¬v.IsInfiniteDecimal → r = .ok d)) ∧
    ∀ k ∈ contracts,
      (∃ w, (call k.name.toList args byName).result = .ok w) ↔
        ∃ values, Binds k.name.toList args byName values ∧
          List.Forall₂ Role.Admits k.roles values ∧ k.fits values := by
  refine ⟨fun v d h => ?_, fun k hk => exists_call_iff hk args byName⟩
  simp only [call_coerceToInt h]
  refine ⟨fun n hn => ?_, fun hv => ?_, fun hn hv => ?_⟩
  · rw [Value.lenient?_eq_some_iff.2 hn]
    rfl
  · rw [Value.lenient?_eq_error_iff.2 ⟨rfl, hv⟩]
    rfl
  · rw [Value.lenient?_eq_none hv hn]
    rfl

theorem coerceToInt_outcome_spaced :
    (call "coerce_to_int".toList [.text " -٤_2\n".toList] []).result = .ok (.int (-42)) ∧
    ∃ w, (call "pad_left".toList [.text "dog".toList, .decimal (.finite false 49 (-1))] []).result =
      .ok w := by
  constructor
  · have hdigits : Numeral.Digits "٤_2".toList [4, 2] :=
      .mk (by decide) (.underscored (by decide) .nil)
    have htext : Numeral.IntegerText ([' '] ++ (['-'] ++ ("٤_2".toList ++ ['\n']))) true [4, 2] :=
      .mk (List.forall_mem_singleton.2 (.inl rfl)) .minus hdigits
        (List.forall_mem_singleton.2 (.inl rfl))
    have hbinds : Binds "coerce_to_int".toList [.text " -٤_2\n".toList] []
        [.text " -٤_2\n".toList, .int 0] := ⟨_, _, rfl, rfl⟩
    exact ((coerceToInt_outcome _ _).1 _ _ hbinds).1 (-42) (.text htext (by decide))
  · refine ((coerceToInt_outcome _ _).2 _ (.tail _ (.head _))).2
      ⟨[.text "dog".toList, .decimal (.finite false 49 (-1)), .text [' ']],
        ⟨_, _, rfl, rfl⟩, ?_, ?_⟩
    · exact .cons (by nofun) (.cons not_false (.cons (by nofun) .nil))
    · rintro t n p ⟨⟩ ⟨⟩ ⟨⟩
      exact .inr (by decide)

/-- An infinite decimal number is refused, also as the length of a text. -/
theorem coerceToInt_infinite :
    (call "coerce_to_int".toList [.decimal (.infinite false), .int 7] []).result =
      .error .tooLarge ∧
    (call "pad_left".toList [.text "dog".toList, .decimal (.infinite false)] []).result =
      .error .tooLarge :=
  ⟨rfl, rfl⟩

end Catalogue

end Textwork
