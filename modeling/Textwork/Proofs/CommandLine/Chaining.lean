/-
  Functions applied to a text on the command line.

  * `ReadsChain`: a command line asks for functions to be applied to a text;
    every text and every list of names can be asked for;
  * `composed` applies functions one after the other, `Shows` says what is
    printed of a value;
  * `run_chain`: what such a command line comes to.  A template that cannot be
    applied ends it with the fault itself.
-/
import Textwork.CommandLine.Command
import Textwork.Proofs.Catalogue.Subject

namespace Textwork.CommandLine

/-! ## Reading -/

/-- A command line asks for the functions `names` to be applied to the text `t`, one after the
    other. -/
def ReadsChain (args : List Text) (t : Text) (names : List Text) : Prop :=
  ∃ verbose rest p, readCommand args = .ok (verbose, false, "chain".toList, rest) ∧
    parse chainSwitches rest = .ok p ∧ p.leftOver = false ∧ p.operand = some t ∧ p.operands = names

variable {known : Switches} {args : List Text} {t : Text} {names : List Text}

theorem classify_of_head?_ne (h : t.head? ≠ some '-') : classify known t = .operand t := by
  simp [classify, h]

theorem tokens_of_head?_ne (h : ∀ a ∈ args, a.head? ≠ some '-') :
    tokens known args = args.map .operand := by
  induction args with
  | nil => rfl
  | cons a args ih =>
    obtain ⟨ha, hargs⟩ := List.forall_mem_cons.1 h
    have hne : a ≠ "--".toList := by
      rintro rfl
      exact ha rfl
    rw [tokens, if_neg hne, classify_of_head?_ne ha, ih hargs, List.map_cons]

/-- All tokens are operands or terminators. -/
def AllWritten (ts : List Token) : Prop := ∀ token ∈ ts, token.written?.isSome

theorem AllWritten.cons {ts : List Token} {token : Token} (htoken : token.written?.isSome)
    (h : AllWritten ts) : AllWritten (token :: ts) :=
  List.forall_mem_cons.2 ⟨htoken, h⟩

theorem allWritten_operands (args : List Text) : AllWritten (args.map .operand) := by
  intro token htoken
  obtain ⟨a, -, rfl⟩ := List.mem_map.1 htoken
  rfl

theorem AllWritten.elem_ambiguous {ts : List Token} (h : AllWritten ts) :
    ts.elem .ambiguous = false := by
  have hmem : Token.ambiguous ∉ ts := fun hmem => by cases h _ hmem
  simpa using hmem

/-- Operands and terminators are taken together. -/
theorem readTokens_of_allWritten (p : Parsed) {ts : List Token} (h : AllWritten ts) :
    ∀ run, readTokens known p run ts = .ok (p.takeRun (run.reverse ++ ts)) := by
  induction ts with
  | nil => intro run; simp [readTokens]
  | cons token ts ih =>
    intro run
    obtain ⟨htoken, hts⟩ := List.forall_mem_cons.1 h
    have hrest := ih hts (token :: run)
    rw [List.reverse_cons, List.append_assoc] at hrest
    cases token with
    | operand a => exact hrest
    | terminator => exact hrest
    | _ => cases htoken

theorem filterMap_written? (args : List Text) :
    (args.map Token.operand).filterMap (·.written?) = args := by
  rw [List.filterMap_map]
  exact List.filterMap_some

theorem takeWhile_operands (args : List Text) :
    (args.map Token.operand).takeWhile (!·.isOperand) = [] := by
  cases args <;> rfl

theorem dropWhile_operands (args : List Text) :
    (args.map Token.operand).dropWhile (!·.isOperand) = args.map .operand := by
  cases args <;> rfl

/-- The terminator before the text and the one before the names are lost. -/
theorem splitRun_terminated (t : Text) (names : List Text) :
    splitRun (.terminator :: (t :: "--".toList :: names).map .operand) = some (t, names) := by
  simp [splitRun, Token.isOperand, Token.written?]

theorem splitRun_plain (ht : t ≠ "--".toList) (hnames : "--".toList ∉ names) :
    splitRun ((t :: names).map .operand) = some (t, names) := by
  have hfirst : [t].erase "--".toList = [t] := List.erase_of_not_mem (by simpa using ht.symm)
  unfold splitRun
  rw [dropWhile_operands, List.map_cons]
  simp only [takeWhile_operands, dropWhile_operands, filterMap_written?]
  rw [List.erase_of_not_mem hnames]
  change ([t].erase "--".toList).head?.map _ = _
  rw [hfirst]
  rfl

/-- The arguments of a command, all operands or terminators. -/
theorem parse_of_allWritten {ts : List Token} (htokens : tokens known args = ts)
    (h : AllWritten ts) (hsplit : splitRun ts = some (t, names)) :
    ∃ p, parse known args = .ok p ∧ p.leftOver = false ∧ p.operand = some t ∧
      p.operands = names := by
  let p : Parsed := { Parsed.start with operand := some t, operands := names, taken := true }
  have htaken : Parsed.start.takeRun ts = p := by
    cases ts with
    | nil => cases hsplit
    | cons token ts =>
      unfold Parsed.takeRun
      rw [hsplit]
      rfl
  refine ⟨p, ?_, rfl, rfl, rfl⟩
  unfold parse
  simp only []
  rw [htokens, h.elem_ambiguous, readTokens_of_allWritten _ h, List.reverse_nil, List.nil_append,
    htaken]
  rfl

/-- The command and its arguments. -/
theorem readCommand_chain {rest : List Text} {ts : List Token}
    (htokens : tokens generalSwitches rest = ts) (h : AllWritten ts) :
    readCommand ("chain".toList :: rest) = .ok (false, false, "chain".toList, rest) := by
  have hne : "chain".toList ≠ "--".toList := by decide
  have hclass : classify generalSwitches "chain".toList = .operand "chain".toList :=
    classify_of_head?_ne (by decide)
  have hall : tokens generalSwitches ("chain".toList :: rest) = .operand "chain".toList :: ts := by
    rw [tokens, if_neg hne, hclass, htokens]
  have hamb : (Token.operand "chain".toList :: ts).elem .ambiguous = false :=
    AllWritten.elem_ambiguous (.cons rfl h)
  rw [readCommand, hall, hamb, if_neg nofun, readGeneral, if_neg hne, hclass]

theorem tokens_terminated (args : List Text) :
    tokens known ("--".toList :: args) = .terminator :: args.map .operand := by
  rw [tokens, if_pos rfl]

/-- **Every text and all names can be asked for**, behind terminators. -/
theorem readsChain_terminated (t : Text) (names : List Text) :
    ReadsChain ("chain".toList :: "--".toList :: t :: "--".toList :: names) t names := by
  have h : AllWritten (.terminator :: (t :: "--".toList :: names).map .operand) :=
    .cons rfl (allWritten_operands _)
  obtain ⟨p, hp⟩ := parse_of_allWritten (tokens_terminated _) h (splitRun_terminated t names)
  exact ⟨false, _, p, readCommand_chain (tokens_terminated _) h, hp⟩

/-- Without a hyphen at their start, a text and names are read as they stand. -/
theorem readsChain_plain (h : ∀ a ∈ t :: names, a.head? ≠ some '-') :
    ReadsChain ("chain".toList :: t :: names) t names := by
  have ht : t ≠ "--".toList := by
    rintro rfl
    exact h _ List.mem_cons_self rfl
  have hnames : "--".toList ∉ names := fun hmem => h _ (List.mem_cons_of_mem _ hmem) rfl
  have hw := allWritten_operands (t :: names)
  obtain ⟨p, hp⟩ := parse_of_allWritten (tokens_of_head?_ne h) hw (splitRun_plain ht hnames)
  exact ⟨false, _, p, readCommand_chain (tokens_of_head?_ne h) hw, hp⟩

/-! ## Printing -/

/-- A list or a tuple. -/
def IsSequence : Value → Prop
  | .list _ | .tuple _ => True
  | _ => False

/-- What is printed of a value: the items of a sequence on lines of their own; of any other value
    its text, a line feed being added only if the text does not end with one. -/
inductive Shows : Value → Text → Prop
  | list {items : List Value} {ts : List Text} :
      List.Forall₂ (fun item t => item.display = .ok t) items ts → Shows (.list items) (lines ts)
  | tuple {items : List Value} {ts : List Text} :
      List.Forall₂ (fun item t => item.display = .ok t) items ts → Shows (.tuple items) (lines ts)
  | ended {v : Value} {t : Text} : ¬IsSequence v → v.toText = .ok t → t.getLast? = some '\n' →
      Shows v t
  | unended {v : Value} {t : Text} : ¬IsSequence v → v.toText = .ok t → t.getLast? ≠ some '\n' →
      Shows v (t ++ ['\n'])

variable {v : Value} {out : Text}

theorem printed_of_not_isSequence (h : ¬IsSequence v) :
    printed v = v.toText.map fun t => if t.getLast? = some '\n' then t else t ++ ['\n'] := by
  unfold printed
  split
  · exact absurd trivial h
  · exact absurd trivial h
  · cases v.toText <;> rfl

theorem printed_of_shows (h : Shows v out) : printed v = .ok out := by
  cases h with
  | list hitems | tuple hitems => exact congrArg (Except.map lines) (mapM_eq_ok_iff.2 hitems)
  | ended hv ht hend => rw [printed_of_not_isSequence hv, ht, map_ok, if_pos hend]
  | unended hv ht hend => rw [printed_of_not_isSequence hv, ht, map_ok, if_neg hend]

theorem exists_shows {t : Text} (hv : ¬IsSequence v) (ht : v.toText = .ok t) :
    ∃ out, Shows v out := by
  by_cases hend : t.getLast? = some '\n'
  · exact ⟨t, .ended hv ht hend⟩
  · exact ⟨_, .unended hv ht hend⟩

theorem exists_display {item : Value} (h : item.IsItem) : ∃ t, item.display = .ok t := by
  cases item with
  | text t => exact ⟨t, rfl⟩
  | int n =>
    refine ⟨_, if_neg (Nat.not_lt_of_le ?_)⟩
    exact h
  | _ => cases h

theorem exists_shows_list {items : List Value} (h : ∀ item ∈ items, item.IsItem) :
    ∃ out, Shows (.list items) out := by
  cases hts : items.mapM Value.display with
  | ok ts => exact ⟨_, .list (mapM_eq_ok_iff.1 hts)⟩
  | error e =>
    obtain ⟨i, item, hitem, he, -⟩ := mapM_eq_error_iff.1 hts
    obtain ⟨t, ht⟩ := exists_display (h item (List.mem_of_getElem? hitem))
    cases ht.symm.trans he

/-- A flat value can be printed, unless it is an integer that is too long. -/
theorem shows_or_overlong (h : v.Flat) :
    (∃ out, Shows v out) ∨ ∃ n, v = .int n ∧ ¬Numeral.IsShort n ∧ printed v = .error .numeral := by
  cases h with
  | nothing => exact .inl (exists_shows id rfl)
  | bool b => exact .inl (exists_shows id rfl)
  | text t => exact .inl (exists_shows id rfl)
  | list hitems => exact .inl (exists_shows_list hitems)
  | int n =>
    cases hn : Numeral.write? n with
    | ok t => exact .inl (exists_shows id hn)
    | error e =>
      obtain ⟨rfl, hlong⟩ := Numeral.write?_eq_error_iff.1 hn
      refine .inr ⟨n, rfl, hlong, ?_⟩
      have htext : (Value.int n).toText = .error .numeral := hn
      rw [printed_of_not_isSequence id, htext, map_error]

/-! ## Applying -/

/-- The names that no function has. -/
def unknownNames (names : List Text) : List Text :=
  names.filter fun name => (Catalogue.find? Catalogue.functions name).isNone

/-- The functions of the names applied one after the other, each to what the one before gave. -/
def composed (v : Value) (names : List Text) : Except Fault Value :=
  names.foldlM (fun w name => (Catalogue.callIn Catalogue.functions name [w] []).result) v

/-- Nothing is noted on the way. -/
theorem applyAll_eq (hiter : "iter_graphemes".toList ∉ names) :
    ∀ v, applyAll v names = .ofExcept (composed v names) := by
  induction names with
  | nil => intro v; rfl
  | cons name names ih =>
    intro v
    obtain ⟨hname, hnames⟩ := not_or.1 (mt List.mem_cons.2 hiter)
    obtain ⟨r, hr, -⟩ := Catalogue.callIn_subject (Ne.symm hname) v
    rw [applyAll, composed, List.foldlM_cons, hr, Traced.result_ofExcept]
    cases r with
    | error e => rfl
    | ok w => exact ih hnames w

theorem flat_composed (hiter : "iter_graphemes".toList ∉ names) {w : Value} (hv : v.Flat)
    (h : composed v names = .ok w) : w.Flat := by
  refine foldlM_invariant (fun name hname u u' _ hu => ?_) hv h
  have hne : name ≠ "iter_graphemes".toList := fun heq => hiter (heq ▸ hname)
  obtain ⟨r, hr, hflat⟩ := Catalogue.callIn_subject hne u
  rw [hr, Traced.result_ofExcept] at hu
  exact hflat u' hu

/-- A composition fails as a template does where a template is applied whose first directive is
    refused. -/
theorem composed_eq_templateFault_iff (hiter : "iter_graphemes".toList ∉ names) {e : Fault}
    (he : e.isTemplateFault) :
    composed v names = .error e ↔
      ∃ before name after w t dir, names = before ++ name :: after ∧
        Catalogue.AppliesTemplates name ∧ composed v before = .ok w ∧ w.toText = .ok t ∧
          Directive.first? t = some dir ∧ dir.refusal = e := by
  have hne {before after : List Text} {name : Text} (h : names = before ++ name :: after) :
      name ≠ "iter_graphemes".toList := by
    rintro rfl
    exact hiter (by simp [h])
  rw [composed, foldlM_eq_error_iff]
  constructor
  · rintro ⟨before, name, after, w, hnames, hw, hcall⟩
    obtain ⟨happ, t, dir, ht, hdir, hf⟩ :=
      (Catalogue.callIn_eq_templateFault_iff (hne hnames) he).1 hcall
    exact ⟨before, name, after, w, t, dir, hnames, happ, hw, ht, hdir, hf⟩
  · rintro ⟨before, name, after, w, t, dir, hnames, happ, hw, ht, hdir, hf⟩
    exact ⟨before, name, after, w, hnames, hw,
      (Catalogue.callIn_eq_templateFault_iff (hne hnames) he).2 ⟨happ, t, dir, ht, hdir, hf⟩⟩

/-! ## Running -/

theorem run_of_readsChain (h : ReadsChain args t names) :
    ∃ verbose p, run args = runChain verbose p ∧ p.operand = some t ∧ p.operands = names := by
  obtain ⟨verbose, rest, p, hread, hparse, hleft, ht, hnames⟩ := h
  have hne : "chain".toList ≠ "sprintf".toList := by decide
  refine ⟨verbose, p, ?_, ht, hnames⟩
  simp only [run, hread, if_neg hne, if_pos, runParsed, hparse, hleft]
  rfl

theorem printedNotes_nil (verbose : Bool) : printedNotes verbose [] = .ok [] := by
  cases verbose <;> rfl

theorem runChain_of_unknown {verbose : Bool} {p : Parsed} (h : unknownNames p.operands ≠ []) :
    runChain verbose p = .ok (.finished 2 [] ("error: unknown function(s): ".toList ++
      Fault.listed (unknownNames p.operands) ++ ['\n'])) := by
  unfold runChain
  exact if_pos (by simpa [unknownNames] using h)

theorem runChain_of_known {verbose : Bool} {p : Parsed} (h : unknownNames p.operands = [])
    (hiter : "iter_graphemes".toList ∉ p.operands) :
    runChain verbose p =
      composed (.text (p.operand.getD [])) p.operands >>= fun v =>
        (printed v).map fun out => .finished 0 out [] := by
  unfold runChain
  refine (if_neg (by simpa [unknownNames] using h)).trans ?_
  simp only [applyAll_eq hiter, Traced.ofExcept, printedNotes_nil, ok_bind]
  refine congrArg _ (funext fun v => ?_)
  cases printed v <;> rfl

/-- **What a command line that asks for functions comes to**, every text and all names being
    possible.  Unknown names are reported before any function is applied; otherwise the value that
    the functions give in turn is printed, and nothing else.  A fault on the way ends the whole with
    that fault, also where a template cannot be applied: its first directive has nothing to take. -/
theorem run_chain (hiter : "iter_graphemes".toList ∉ names) :
    ReadsChain ("chain".toList :: "--".toList :: t :: "--".toList :: names) t names ∧
      ((∀ a ∈ t :: names, a.head? ≠ some '-') → ReadsChain ("chain".toList :: t :: names) t names) ∧
      (∀ args, ReadsChain args t names →
        (unknownNames names ≠ [] →
          run args = .ok (.finished 2 [] ("error: unknown function(s): ".toList ++
            Fault.listed (unknownNames names) ++ ['\n']))) ∧
        (unknownNames names = [] →
          (∀ e, composed (.text t) names = .error e → run args = .error e) ∧
          (∀ v, composed (.text t) names = .ok v →
            (∃ out, Shows v out ∧ run args = .ok (.finished 0 out [])) ∨
              ∃ n, v = .int n ∧ ¬Numeral.IsShort n ∧ run args = .error .numeral))) ∧
      (∀ e, e.isTemplateFault →
        (composed (.text t) names = .error e ↔
          ∃ before name after w s dir, names = before ++ name :: after ∧
            Catalogue.AppliesTemplates name ∧ composed (.text t) before = .ok w ∧
              w.toText = .ok s ∧ Directive.first? s = some dir ∧ dir.refusal = e)) := by
  refine ⟨readsChain_terminated t names, readsChain_plain, fun args hargs => ⟨?_, ?_⟩,
    fun e he => composed_eq_templateFault_iff hiter he⟩
  · intro hunknown
    obtain ⟨verbose, p, hrun, -, rfl⟩ := run_of_readsChain hargs
    rw [hrun, runChain_of_unknown hunknown]
  · intro hknown
    obtain ⟨verbose, p, hrun, ht, rfl⟩ := run_of_readsChain hargs
    rw [runChain_of_known hknown hiter, ht, Option.getD_some] at hrun
    refine ⟨fun e he => by rw [hrun, he, error_bind], fun v hv => ?_⟩
    rw [hv, ok_bind] at hrun
    rcases shows_or_overlong (flat_composed hiter (.text t) hv) with ⟨out, hout⟩ | ⟨n, rfl, hn, hout⟩
    · exact .inl ⟨out, hout, by rw [hrun, printed_of_shows hout, map_ok]⟩
    · exact .inr ⟨n, rfl, hn, by rw [hrun, hout, map_error]⟩

/-- The characters of the text are a list, and the count is that of the text of this list. -/
theorem run_chain_count :
    "iter_graphemes".toList ∉ ["chars".toList, "count".toList] ∧
      run ["chain".toList, "ab".toList, "chars".toList, "count".toList] =
        .ok (.finished 0 "10\n".toList []) := by
  have hiter : "iter_graphemes".toList ∉ ["chars".toList, "count".toList] := by decide
  obtain ⟨-, hplain, hrun, -⟩ := run_chain (t := "ab".toList) hiter
  have hargs := hplain (by decide)
  have hknown : unknownNames ["chars".toList, "count".toList] = [] := by decide +kernel
  have hcomposed : composed (.text "ab".toList) ["chars".toList, "count".toList] =
      .ok (.int 10) := by rfl
  refine ⟨hiter, ?_⟩
  rcases ((hrun _ hargs).2 hknown).2 _ hcomposed with ⟨out, hout, h⟩ | ⟨n, hn, hlong, -⟩
  · have hprinted : printed (.int 10) = .ok "10\n".toList := by rfl
    cases (printed_of_shows hout).symm.trans hprinted
    exact h
  · cases hn
    exact absurd (by decide) hlong

/-- The fault of a template is reported where the template is the command's own, and ends the
    program where a function applies it. -/
theorem run_chain_uncaught :
    run ["sprintf".toList, "%s".toList] =
        .ok (.finished 1 [] "sprintf(): Too few arguments\n".toList) ∧
      unknownNames ["sprintf".toList] = [] ∧
      composed (.text "%s".toList) ["sprintf".toList] = .error .tooFewArguments ∧
      run ["chain".toList, "%s".toList, "sprintf".toList] = .error .tooFewArguments := by
  have hfirst : Directive.first? "%s".toList =
      some ⟨none, false, none, false, none, none, some .string⟩ := by decide +kernel
  refine ⟨by decide +kernel, by decide +kernel, ?_, by decide +kernel⟩
  refine (composed_eq_templateFault_iff (by decide) rfl).2 ?_
  exact ⟨[], _, [], _, _, _, rfl, .inl rfl, rfl, rfl, hfirst, by decide⟩

end Textwork.CommandLine
