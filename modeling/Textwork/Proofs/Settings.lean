/-
  Settings read from a table.

  * `Options.field` is an option by its name, and `put_eq_ok_iff` says what an
    assignment changes;
  * `given entries name` is the value that a table gives for a name, if it leaves
    the name not open;
  * `readAll_eq_ok_iff`: reading the entries one by one gives each option what the
    table gives for its name;
  * `ofEntries_outcome`: the settings are those that the table describes; without
    such settings the fault is one of values, unless a number is infinite.
-/
import Textwork.Settings
import Textwork.Proofs.Value.Coercion
import Textwork.Proofs.Value.Overlong

namespace Textwork

/-! ## Values that cannot be read -/

/-- The faults of a value that an option cannot take, or that is too long to be shown. -/
def Fault.IsOfValue (e : Fault) : Prop := e.isSettingsFault = true ∨ e = .numeral

/-! ## Options by name -/

theorem mem_settingNames {name : Text} :
    name ∈ settingNames ↔ name = "float_precision".toList ∨ name = "integer_bits".toList ∨
      name = "padding".toList := by
  simp [settingNames]

namespace Options

variable {o o' : Options} {name : Text} {u : Value}

/-- The option of a name. -/
def field (o : Options) (name : Text) : Value :=
  if name = "float_precision".toList then o.floatPrecision
  else if name = "integer_bits".toList then o.integerBits
  else o.padding

theorem ext_field (h : ∀ name ∈ settingNames, o.field name = o'.field name) : o = o' := by
  have hprecision := h _ (by decide : "float_precision".toList ∈ settingNames)
  have hbits := h _ (by decide : "integer_bits".toList ∈ settingNames)
  have hpadding := h _ (by decide : "padding".toList ∈ settingNames)
  cases o
  cases o'
  cases hprecision
  cases hbits
  cases hpadding
  rfl

/-- An assignment gives one option a value and leaves the others. -/
theorem put_spec (o : Options) (hname : name ∈ settingNames) (u : Value) :
    ∃ o', o.put name u = .ok o' ∧ o'.field name = u ∧
      ∀ other ∈ settingNames, other ≠ name → o'.field other = o.field other := by
  rcases mem_settingNames.1 hname with rfl | rfl | rfl
  all_goals
    refine ⟨_, rfl, rfl, fun other hother hne => ?_⟩
    rcases mem_settingNames.1 hother with rfl | rfl | rfl <;> first | rfl | exact absurd rfl hne

theorem put_eq_ok_iff (hname : name ∈ settingNames) :
    o.put name u = .ok o' ↔ o'.field name = u ∧
      ∀ other ∈ settingNames, other ≠ name → o'.field other = o.field other := by
  obtain ⟨o'', hput, hown, hothers⟩ := put_spec o hname u
  rw [hput, Except.ok.injEq]
  constructor
  · rintro rfl
    exact ⟨hown, hothers⟩
  · rintro ⟨hown', hothers'⟩
    refine ext_field fun other hother => ?_
    by_cases h : other = name
    · rw [h, hown, hown']
    · rw [hothers other hother h, hothers' other hother h]

end Options

namespace Settings

variable {entries : List (Text × Value)} {name k : Text} {v u : Value} {o o' : Options} {e : Fault}

/-! ## One entry -/

/-- The value of an option read from a given value: the text of a fill, the integer of a number. -/
def convert (name : Text) (v : Value) : Except Fault Value :=
  if name = "padding".toList then v.display.map .text else (readNumber name v).map .int

theorem readOption_eq (o : Options) (name : Text) (hv : v ≠ .nothing) :
    readOption o name v = convert name v >>= fun u => o.put name u := by
  have hread : readOption o name v =
      if name = "padding".toList then v.display >>= fun t => o.put name (.text t)
      else readNumber name v >>= fun n => o.put name (.int n) := by
    cases v <;> first | rfl | exact absurd rfl hv
  rw [hread, convert]
  split_ifs
  · cases v.display <;> rfl
  · cases readNumber name v <;> rfl

/-- The value of an option whose entry gives a value, or gives none and leaves the option as it
    was. -/
def FieldFrom (name : Text) (standard u : Value) : Option Value → Prop
  | none => u = standard
  | some v => convert name v = .ok u

/-- Nothing is no value of an option. -/
def given? : Value → Option Value
  | .nothing => none
  | v => some v

theorem given?_of_ne (hv : v ≠ .nothing) : given? v = some v := by
  cases v <;> first | rfl | exact absurd rfl hv

theorem readOption_eq_ok_iff (hname : name ∈ settingNames) :
    readOption o name v = .ok o' ↔ FieldFrom name (o.field name) (o'.field name) (given? v) ∧
      ∀ other ∈ settingNames, other ≠ name → o'.field other = o.field other := by
  by_cases hv : v = .nothing
  · subst hv
    have hread : readOption o name .nothing = .ok o := rfl
    rw [hread, Except.ok.injEq]
    constructor
    · rintro rfl
      exact ⟨rfl, fun _ _ _ => rfl⟩
    · rintro ⟨hown, hothers⟩
      refine Options.ext_field fun other hother => ?_
      by_cases h : other = name
      · rw [h]
        exact hown.symm
      · exact (hothers other hother h).symm
  · rw [readOption_eq o name hv, given?_of_ne hv, bind_eq_ok_iff]
    simp only [Options.put_eq_ok_iff hname]
    constructor
    · rintro ⟨u, hu, rfl, hothers⟩
      exact ⟨hu, hothers⟩
    · rintro ⟨hown, hothers⟩
      exact ⟨_, hown, rfl, hothers⟩

/-- Whether an entry can be read does not depend on the options before it. -/
theorem readOption_eq_error_iff (hname : name ∈ settingNames) :
    readOption o name v = .error e ↔ v ≠ .nothing ∧ convert name v = .error e := by
  by_cases hv : v = .nothing
  · subst hv
    have hread : readOption o name .nothing = .ok o := rfl
    simp [hread]
  · rw [readOption_eq o name hv, bind_eq_error_iff, and_iff_right hv, or_iff_left]
    rintro ⟨u, -, hput⟩
    obtain ⟨o', hok, -⟩ := o.put_spec hname u
    cases hok.symm.trans hput

/-! ## All entries -/

/-- Options with all entries of a table read one by one. -/
def readAll (o : Options) (entries : List (Text × Value)) : Except Fault Options :=
  entries.foldlM (fun o (name, v) => readOption o name v) o

theorem readAll_cons (o : Options) (name : Text) (v : Value) (rest : List (Text × Value)) :
    readAll o ((name, v) :: rest) = readOption o name v >>= fun o' => readAll o' rest :=
  List.foldlM_cons

/-- The value that a table gives an option. -/
def given (entries : List (Text × Value)) (name : Text) : Option Value :=
  (entries.lookup name).bind given?

theorem given_cons (name : Text) :
    given ((k, v) :: entries) name = if name = k then given? v else given entries name := by
  rw [given, List.lookup_cons]
  by_cases h : name = k
  · subst h
    simp
  · rw [if_neg h, beq_eq_false_iff_ne.2 h]
    rfl

theorem given_eq_none (h : name ∉ entries.map Prod.fst) : given entries name = none := by
  rw [given, List.lookup_eq_none_iff.2 fun e he => ?_]
  · rfl
  · exact bne_iff_ne.2 fun heq => h (List.mem_map.2 ⟨e, he, heq.symm⟩)

/-- **Each option is read from the entry of its name.** The induction is on the entries; the first
    one is the only one of its name, so that the others leave what it gives. -/
theorem readAll_eq_ok_iff (hknown : ∀ e ∈ entries, e.1 ∈ settingNames)
    (hdistinct : (entries.map Prod.fst).Nodup) :
    readAll o entries = .ok o' ↔
      ∀ name ∈ settingNames,
        FieldFrom name (o.field name) (o'.field name) (given entries name) := by
  induction entries generalizing o with
  | nil =>
    refine ⟨?_, fun h => ?_⟩
    · intro h name _
      cases h
      rfl
    · exact congrArg Except.ok (Options.ext_field fun name hname => (h name hname).symm)
  | cons entry rest ih =>
    obtain ⟨k, v⟩ := entry
    obtain ⟨hk, hrest⟩ := List.forall_mem_cons.1 hknown
    obtain ⟨hfresh, hdistinct⟩ := List.nodup_cons.1 hdistinct
    have hnone : given rest k = none := given_eq_none hfresh
    rw [readAll_cons, bind_eq_ok_iff]
    simp only [ih hrest hdistinct, given_cons, readOption_eq_ok_iff hk]
    constructor
    · rintro ⟨o₁, ⟨hown, hothers⟩, hlater⟩ name hname
      have hlater := hlater name hname
      split_ifs with h
      · subst h
        rw [hnone] at hlater
        rwa [show o'.field name = o₁.field name from hlater]
      · rwa [hothers name hname h] at hlater
    · intro h
      obtain ⟨o₁, -, hown, hothers⟩ := o.put_spec hk (o'.field k)
      refine ⟨o₁, ⟨?_, hothers⟩, fun name hname => ?_⟩
      · have hfirst := h k hk
        rwa [if_pos rfl, ← hown] at hfirst
      · have hname' := h name hname
        split_ifs at hname' with hne
        · subst hne
          rw [hnone]
          exact hown.symm
        · rwa [hothers name hname hne]

/-! ## Values read -/

/-- The number that a value denotes, or the standard one without a value. -/
def NumberFrom (standard n : Int) : Option Value → Prop
  | none => n = standard
  | some v => v.toInt? = .ok (some n)

/-- The text of a value, or the standard one without a value. -/
def TextFrom (standard t : Text) : Option Value → Prop
  | none => t = standard
  | some v => v.display = .ok t

theorem readNumber_eq_ok_iff (name : Text) {n : Int} :
    readNumber name v = .ok n ↔ v.toInt? = .ok (some n) := by
  rw [readNumber, bind_eq_ok_iff]
  constructor
  · rintro ⟨r, hr, h⟩
    cases r with
    | some m =>
      cases h
      exact hr
    | none =>
      obtain ⟨t, -, ht⟩ := bind_eq_ok_iff.1 h
      cases ht
  · intro h
    exact ⟨some n, h, rfl⟩

theorem fieldFrom_number_iff (hname : name ≠ "padding".toList) (standard : Int) (u : Value)
    (g : Option Value) :
    FieldFrom name (.int standard) u g ↔ ∃ n, u = .int n ∧ NumberFrom standard n g := by
  cases g with
  | none => simp [FieldFrom, NumberFrom]
  | some v =>
    simp only [FieldFrom, NumberFrom, ← readNumber_eq_ok_iff name, convert, if_neg hname]
    cases readNumber name v <;> simp [eq_comm]

theorem fieldFrom_padding_iff (standard : Text) (u : Value) (g : Option Value) :
    FieldFrom "padding".toList (.text standard) u g ↔ ∃ t, u = .text t ∧ TextFrom standard t g := by
  cases g with
  | none => simp [FieldFrom, TextFrom]
  | some v =>
    simp only [FieldFrom, TextFrom, convert, if_pos]
    cases v.display <;> simp [eq_comm]

/-- What the entries make of the standard options. -/
theorem readAll_standard_eq_ok_iff (hknown : ∀ e ∈ entries, e.1 ∈ settingNames)
    (hdistinct : (entries.map Prod.fst).Nodup) :
    readAll Options.standard entries = .ok o ↔
      ∃ precision bits padding, o = ⟨.int precision, .int bits, .text padding⟩ ∧
        NumberFrom 6 precision (given entries "float_precision".toList) ∧
        NumberFrom 32 bits (given entries "integer_bits".toList) ∧
        TextFrom [' '] padding (given entries "padding".toList) := by
  have hprecision_ne : "float_precision".toList ≠ "padding".toList := by decide
  have hbits_ne : "integer_bits".toList ≠ "padding".toList := by decide
  have hprecision := fieldFrom_number_iff hprecision_ne 6 o.floatPrecision
    (given entries "float_precision".toList)
  have hbits := fieldFrom_number_iff hbits_ne 32 o.integerBits
    (given entries "integer_bits".toList)
  have hpadding := fieldFrom_padding_iff [' '] o.padding (given entries "padding".toList)
  rw [readAll_eq_ok_iff hknown hdistinct]
  constructor
  · intro h
    obtain ⟨precision, hp, hp'⟩ := hprecision.1 (h _ (by decide))
    obtain ⟨bits, hb, hb'⟩ := hbits.1 (h _ (by decide))
    obtain ⟨padding, ht, ht'⟩ := hpadding.1 (h _ (by decide))
    refine ⟨precision, bits, padding, ?_, hp', hb', ht'⟩
    rw [← hp, ← hb, ← ht]
  · rintro ⟨precision, bits, padding, rfl, hp, hb, ht⟩ name hname
    rcases mem_settingNames.1 hname with rfl | rfl | rfl
    · exact hprecision.2 ⟨precision, rfl, hp⟩
    · exact hbits.2 ⟨bits, rfl, hb⟩
    · exact hpadding.2 ⟨padding, rfl, ht⟩

/-! ## Checks and faults -/

theorem make_eq_ok_iff {precision bits : Int} {padding : Text} {s : Settings} :
    make precision bits padding = .ok s ↔
      precision = s.floatPrecision ∧ bits = s.integerBits ∧ padding = [s.padding] := by
  unfold make
  constructor
  · intro h
    split_ifs at h with hneg hbits
    split at h
    · cases h
      refine ⟨(Int.toNat_of_nonneg (by omega)).symm, (Int.toNat_of_nonneg ?_).symm, rfl⟩
      omega
    · cases h
  · rintro ⟨rfl, rfl, rfl⟩
    rw [if_neg (by omega), dif_pos (by simpa using s.integerBits_pos)]
    rfl

theorem failsOnly_make (precision bits : Int) (padding : Text) :
    FailsOnly Fault.IsOfValue (make precision bits padding) := by
  intro e he
  unfold make at he
  split_ifs at he
  · cases he
    exact .inl rfl
  · split at he <;> cases he
    exact .inl rfl
  · cases he
    exact .inl rfl

theorem readNumber_eq_tooLarge_iff (name : Text) :
    readNumber name v = .error .tooLarge ↔ v.IsInfinite := by
  rw [readNumber, bind_eq_error_iff, Value.toInt?_eq_error_iff, and_iff_right rfl, or_iff_left]
  rintro ⟨_ | n, -, h⟩
  · rcases bind_eq_error_iff.1 h with hshown | ⟨t, -, ht⟩
    · cases ((Value.refusedIff_shown v _).1 hshown).1
    · cases ht
  · cases h

theorem failsOnly_readNumber (name : Text) (v : Value) :
    FailsOnly (fun e => e.IsOfValue ∨ e = .tooLarge) (readNumber name v) := by
  intro e he
  rcases bind_eq_error_iff.1 he with hint | ⟨_ | n, -, h⟩
  · exact .inr (Value.toInt?_eq_error_iff.1 hint).1
  · rcases bind_eq_error_iff.1 h with hshown | ⟨t, -, ht⟩
    · exact .inl (.inr ((Value.refusedIff_shown v e).1 hshown).1)
    · cases ht
      exact .inl (.inl rfl)
  · cases h

theorem convert_eq_tooLarge_iff :
    convert name v = .error .tooLarge ↔ name ≠ "padding".toList ∧ v.IsInfinite := by
  unfold convert
  split_ifs with hname
  · have hnever : v.display.map Value.text ≠ .error .tooLarge := fun h => by
      cases hv : v.display with
      | ok t => simp [hv] at h
      | error e =>
        rw [hv, map_error, Except.error.injEq] at h
        cases h.symm.trans ((Value.refusedIff_display v e).1 hv).1
    simp [hname, hnever]
  · rw [← readNumber_eq_tooLarge_iff name, and_iff_right hname]
    cases readNumber name v <;> simp

theorem failsOnly_convert (name : Text) (v : Value) :
    FailsOnly (fun e => e.IsOfValue ∨ e = .tooLarge) (convert name v) := by
  have hdisplay : FailsOnly (fun e => e.IsOfValue ∨ e = .tooLarge) v.display :=
    fun e he => .inl (.inr ((Value.refusedIff_display v e).1 he).1)
  exact .ite (hdisplay.map _) ((failsOnly_readNumber name v).map _)

/-- The entry leaves the option open, or its value has a text for a fill, an integer for a number. -/
def Readable (name : Text) (v : Value) : Prop :=
  v = .nothing ∨
    if name = "padding".toList then ∃ t, v.display = .ok t else ∃ n, v.toInt? = .ok (some n)

theorem readable_iff (hname : name ∈ settingNames) (o : Options) :
    Readable name v ↔ ∃ o', readOption o name v = .ok o' := by
  have hconvert : (∃ u, convert name v = .ok u) ↔
      if name = "padding".toList then ∃ t, v.display = .ok t else ∃ n, v.toInt? = .ok (some n) := by
    unfold convert
    split_ifs
    · cases v.display <;> simp
    · simp only [← readNumber_eq_ok_iff name]
      cases readNumber name v <;> simp
  rw [Readable, ← hconvert]
  cases hread : readOption o name v with
  | error e =>
    obtain ⟨hv, he⟩ := (readOption_eq_error_iff hname).1 hread
    simp [hv, he]
  | ok o' =>
    simp only [Except.ok.injEq, exists_eq', iff_true]
    by_cases hv : v = .nothing
    · exact .inl hv
    · have hown := ((readOption_eq_ok_iff hname).1 hread).1
      rw [given?_of_ne hv] at hown
      exact .inr ⟨_, hown⟩

theorem forall_readable_iff (hknown : ∀ e ∈ entries, e.1 ∈ settingNames) (o : Options) :
    (∀ e ∈ entries, Readable e.1 e.2) ↔ ∃ o', readAll o entries = .ok o' := by
  induction entries generalizing o with
  | nil => exact iff_of_true (by simp) ⟨o, rfl⟩
  | cons entry rest ih =>
    obtain ⟨hk, hrest⟩ := List.forall_mem_cons.1 hknown
    rw [List.forall_mem_cons, readable_iff hk o, readAll_cons]
    simp only [bind_eq_ok_iff]
    constructor
    · rintro ⟨⟨o₁, h₁⟩, hreadable⟩
      obtain ⟨o', h'⟩ := (ih hrest o₁).1 hreadable
      exact ⟨o', o₁, h₁, h'⟩
    · rintro ⟨o', o₁, h₁, h'⟩
      exact ⟨⟨o₁, h₁⟩, (ih hrest o₁).2 ⟨o', h'⟩⟩

/-! ## The outcome -/

/-- The settings are those that a table describes: all its names are those of settings, and each
    setting is the value given for it, or the standard one. -/
structure Describes (entries : List (Text × Value)) (s : Settings) : Prop where
  known : ∀ e ∈ entries, e.1 ∈ settingNames
  precision : NumberFrom standard.floatPrecision s.floatPrecision
    (given entries "float_precision".toList)
  bits : NumberFrom standard.integerBits s.integerBits (given entries "integer_bits".toList)
  padding : TextFrom [standard.padding] [s.padding] (given entries "padding".toList)

/-- The first entry that cannot be read is an infinite number for a setting that is a number. -/
def StopsAtInfinite (entries : List (Text × Value)) : Prop :=
  ∃ before name v after, entries = before ++ (name, v) :: after ∧
    (∀ e ∈ before, Readable e.1 e.2) ∧ name ≠ "padding".toList ∧ v.IsInfinite

theorem ofEntries_of_unknown (h : ¬∀ e ∈ entries, e.1 ∈ settingNames) :
    ∃ names, ofEntries entries = .error (.unknownOptions names) := by
  refine ⟨_, if_pos ?_⟩
  push Not at h
  obtain ⟨e, he, hname⟩ := h
  have hmem : e.1 ∈ (entries.map Prod.fst).filter fun name => !settingNames.elem name :=
    List.mem_filter.2 ⟨List.mem_map_of_mem he, by simpa using hname⟩
  simpa using List.ne_nil_of_mem hmem

theorem ofEntries_of_known (h : ∀ e ∈ entries, e.1 ∈ settingNames) :
    ofEntries entries = readAll Options.standard entries >>= ofOptions := by
  have hnone : ((entries.map Prod.fst).filter fun name => !settingNames.elem name) = [] := by
    rw [List.filter_eq_nil_iff]
    intro name hname
    obtain ⟨e, he, rfl⟩ := List.mem_map.1 hname
    simpa using h e he
  rw [ofEntries, hnone]
  rfl

theorem ofEntries_eq_ok_iff (hdistinct : (entries.map Prod.fst).Nodup) (s : Settings) :
    ofEntries entries = .ok s ↔ Describes entries s := by
  by_cases hknown : ∀ e ∈ entries, e.1 ∈ settingNames
  · rw [ofEntries_of_known hknown, bind_eq_ok_iff]
    simp only [readAll_standard_eq_ok_iff hknown hdistinct]
    constructor
    · rintro ⟨o, ⟨precision, bits, padding, rfl, hp, hb, ht⟩, h⟩
      obtain ⟨rfl, rfl, rfl⟩ := make_eq_ok_iff.1 h
      exact ⟨hknown, hp, hb, ht⟩
    · intro h
      exact ⟨_, ⟨_, _, _, rfl, h.precision, h.bits, h.padding⟩, make_eq_ok_iff.2 ⟨rfl, rfl, rfl⟩⟩
  · obtain ⟨names, hnames⟩ := ofEntries_of_unknown hknown
    rw [hnames]
    exact iff_of_false (by simp) fun h => hknown h.known

theorem readAll_eq_tooLarge_iff (hknown : ∀ e ∈ entries, e.1 ∈ settingNames) (o : Options) :
    readAll o entries = .error .tooLarge ↔ StopsAtInfinite entries := by
  rw [readAll, foldlM_eq_error_iff]
  constructor
  · rintro ⟨before, ⟨name, v⟩, after, o', rfl, hbefore, h⟩
    obtain ⟨hknown_before, hrest⟩ := List.forall_mem_append.1 hknown
    obtain ⟨hname, -⟩ := List.forall_mem_cons.1 hrest
    exact ⟨before, name, v, after, rfl, (forall_readable_iff hknown_before o).2 ⟨o', hbefore⟩,
      convert_eq_tooLarge_iff.1 ((readOption_eq_error_iff hname).1 h).2⟩
  · rintro ⟨before, name, v, after, rfl, hbefore, hpadding, hv⟩
    obtain ⟨hknown_before, hrest⟩ := List.forall_mem_append.1 hknown
    obtain ⟨hname, -⟩ := List.forall_mem_cons.1 hrest
    obtain ⟨o', ho'⟩ := (forall_readable_iff hknown_before o).1 hbefore
    have hne : v ≠ .nothing := by
      rintro rfl
      exact hv
    exact ⟨before, (name, v), after, o', rfl, ho',
      (readOption_eq_error_iff hname).2 ⟨hne, convert_eq_tooLarge_iff.2 ⟨hpadding, hv⟩⟩⟩

theorem failsOnly_readAll (hknown : ∀ e ∈ entries, e.1 ∈ settingNames) (o : Options) :
    FailsOnly (fun e => e.IsOfValue ∨ e = .tooLarge) (readAll o entries) := by
  intro e he
  obtain ⟨before, ⟨name, v⟩, after, o', rfl, -, h⟩ := foldlM_eq_error_iff.1 he
  have hname : name ∈ settingNames := hknown (name, v) (by simp)
  exact failsOnly_convert name v e ((readOption_eq_error_iff hname).1 h).2

/-- Options that have been read have the kinds that settings have. -/
theorem failsOnly_ofOptions (hknown : ∀ e ∈ entries, e.1 ∈ settingNames)
    (hdistinct : (entries.map Prod.fst).Nodup)
    (h : readAll Options.standard entries = .ok o) :
    FailsOnly Fault.IsOfValue (ofOptions o) := by
  obtain ⟨precision, bits, padding, rfl, -⟩ := (readAll_standard_eq_ok_iff hknown hdistinct).1 h
  exact failsOnly_make precision bits padding

/-- **Settings are read, or refused as values.** Only an infinite number for a precision or a word
    size, where everything before it can be read, is refused as too large. -/
theorem ofEntries_outcome (hdistinct : (entries.map Prod.fst).Nodup) :
    (∀ s, ofEntries entries = .ok s ↔ Describes entries s) ∧
    (∀ e, ofEntries entries = .error e → e.IsOfValue ∨ e = .tooLarge) ∧
    (ofEntries entries = .error .tooLarge ↔
      (∀ e ∈ entries, e.1 ∈ settingNames) ∧ StopsAtInfinite entries) := by
  refine ⟨ofEntries_eq_ok_iff hdistinct, ?_⟩
  by_cases hknown : ∀ e ∈ entries, e.1 ∈ settingNames
  · rw [ofEntries_of_known hknown]
    have hlast {o : Options} (ho : readAll Options.standard entries = .ok o) :
        FailsOnly Fault.IsOfValue (ofOptions o) := failsOnly_ofOptions hknown hdistinct ho
    constructor
    · intro e he
      rcases bind_eq_error_iff.1 he with h | ⟨o, ho, h⟩
      · exact failsOnly_readAll hknown Options.standard e h
      · exact .inl (hlast ho e h)
    · rw [bind_eq_error_iff, readAll_eq_tooLarge_iff hknown, and_iff_right hknown, or_iff_left]
      rintro ⟨o, ho, h⟩
      rcases hlast ho _ h with h | h <;> cases h
  · obtain ⟨names, hnames⟩ := ofEntries_of_unknown hknown
    rw [hnames]
    refine ⟨?_, iff_of_false (by simp) fun h => hknown h.1⟩
    rintro e ⟨⟩
    exact .inl (.inl rfl)

theorem ofEntries_outcome_mixed :
    let entries : List (Text × Value) := [("integer_bits".toList, .text " 8 ".toList),
      ("padding".toList, .nothing), ("float_precision".toList, .decimal (.finite false 29 (-1)))]
    (entries.map Prod.fst).Nodup ∧ Describes entries ⟨2, 8, ' ', by decide⟩ :=
  ⟨by decide, ((ofEntries_outcome (by decide)).1 _).1 rfl⟩

/-- The fault of an infinite word size is not that of a value. -/
theorem ofEntries_infinite :
    ∃ e, ofEntries [("integer_bits".toList, .float (.infinite false))] = .error e ∧
      ¬e.IsOfValue :=
  ⟨.tooLarge, rfl, by simp [Fault.IsOfValue, Fault.isSettingsFault]⟩

end Settings

end Textwork
