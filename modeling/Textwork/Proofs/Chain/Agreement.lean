/-
  Chains that wrap every result, and chains that wrap only texts.

  * `Call` is a call of a function on a chain, `results` are what calls in a row
    give and `valueAfter` is the value behind them; every function but one can be
    called so (`exists_call`);
  * `run_explicit`: an explicit chain wraps these results; `agree_run`: an
    implicit chain gives the same up to the first result that is no text;
  * `run_append`: a sequence goes on from the chain that was `reached`, and
    `afterFault_eq` says when a step that fails leaves this as it was;
  * `chains_agree` puts them together; `walked_through` are steps that fail and
    do not leave everything as it was.

  What a callback gives for a value is any function `calls`.
-/
import Textwork.Chain
import Textwork.Proofs.Value.Overlong
import Mathlib.Algebra.Group.Int.Defs

namespace Textwork.Chain

variable {calls : Callback → Value → Except Fault Value} {v w : Value} {c d : Chain} {s : Step}
  {e : Fault}

/-! ## Calls of functions -/

/-- The names that a chain has itself. -/
def operationNames : List Text := ["value", "chain", "thru", "explicit"].map (·.toList)

/-- A call of a function on a chain, with arguments behind the wrapped value.  The function may be
    unknown, but is not the one that gives its results one by one. -/
structure Call where
  name : Name
  args : List Value
  byName : List (Text × Value)
  notMem_operationNames : name.1 ∉ operationNames
  ne_oneByOne : name.1 ≠ "iter_graphemes".toList

namespace Call

variable (k : Call)

/-- The call as a step of a sequence. -/
def step : Step := .call k.name k.args k.byName

/-- The function applied to a value. -/
def onto (v : Value) : Except Fault Value :=
  (Catalogue.callIn Catalogue.functions k.name.1 (v :: k.args) k.byName).result

/-- The value behind the call: its result, or what it leaves of the value if it fails. -/
def valueAfter (v : Value) : Value :=
  match k.onto v with
  | .ok w => w
  | .error _ => (afterFault ⟨v, true⟩ k.step).wrapped

end Call

variable {k : Call} {ks : List Call}

theorem notMem_objectNames {name : Text} (h : name.head? ≠ some '_') : name ∉ objectNames := by
  have hall : ∀ n ∈ objectNames, n.head? = some '_' := by decide +kernel
  exact fun hmem => h (hall name hmem)

/-- No function is hidden by a name that every object has, or by an operation of the chain. -/
theorem visible_of_mem_functions :
    ∀ f ∈ Catalogue.functions,
      f.name.toList.head? ≠ some '_' ∧ f.name.toList ∉ operationNames := by
  decide +kernel

/-- **Every function but one can be called on a chain**, with any arguments. -/
theorem exists_call {f : Catalogue.Entry} (hf : f ∈ Catalogue.functions)
    (hone : f.name.toList ≠ "iter_graphemes".toList) (args : List Value)
    (byName : List (Text × Value)) :
    ∃ k : Call, k.name.1 = f.name.toList ∧ k.args = args ∧ k.byName = byName := by
  obtain ⟨hobject, hoperation⟩ := visible_of_mem_functions f hf
  exact ⟨⟨⟨f.name.toList, notMem_objectNames hobject⟩, args, byName, hoperation, hone⟩,
    rfl, rfl, rfl⟩

theorem onto_of_find? {f : Catalogue.Entry}
    (h : Catalogue.find? Catalogue.functions k.name.1 = some f) (v : Value) :
    k.onto v = (f.call (v :: k.args) k.byName).result := by
  simp only [Call.onto, Catalogue.callIn, h]

/-- A call of a name that no function has is refused. -/
theorem onto_of_unknown (h : Catalogue.find? Catalogue.functions k.name.1 = none) (v : Value) :
    k.onto v = .error (.noFunction k.name.1) := by
  simp only [Call.onto, Catalogue.callIn, h]
  rfl

theorem operation?_eq_none {name : Name} (h : name.1 ∉ operationNames) (args : List Value)
    (byName : List (Text × Value)) : c.operation? calls name args byName = none := by
  have hnames : name.1 ≠ "value".toList ∧ name.1 ≠ "chain".toList ∧ name.1 ≠ "thru".toList ∧
      name.1 ≠ "explicit".toList := by simpa [operationNames] using h
  simp only [operation?, if_neg hnames.1, if_neg hnames.2.1, if_neg hnames.2.2.1,
    if_neg hnames.2.2.2]

theorem step_call (c : Chain) (k : Call) :
    c.step calls k.step = answer ((k.onto c.wrapped).map c.wrapResult) := by
  have hcall : c.step calls k.step = c.call calls k.name k.args k.byName := rfl
  rw [hcall, call, operation?_eq_none k.notMem_operationNames]
  rfl

/-! ## Steps that fail -/

theorem afterFault_explicit (c : Chain) (s : Step) : (c.afterFault s).explicit = c.explicit := by
  cases s with
  | call name args byName =>
    rw [afterFault]
    split_ifs <;> rfl
  | _ => rfl

/-- What is left of the wrapped value does not depend on the mode. -/
theorem afterFault_mk (v : Value) (explicit : Bool) (s : Step) :
    afterFault ⟨v, explicit⟩ s = ⟨(afterFault ⟨v, true⟩ s).wrapped, explicit⟩ := by
  cases s with
  | call name args byName =>
    have hfits : fits ⟨v, explicit⟩ name.1 args byName = fits ⟨v, true⟩ name.1 args byName := rfl
    simp only [afterFault, hfits]
    split_ifs <;> rfl
  | _ => rfl

/-- The step makes a slug of a sequence that can be walked through once. -/
def WalksThrough (c : Chain) (s : Step) : Prop :=
  ∃ items name args byName, c.wrapped = .iterator items ∧ s = .call name args byName ∧
    name.1 = "slugify".toList ∧ c.fits name.1 args byName = true

theorem unread_of_ne_iterator (h : ∀ items, v ≠ .iterator items) : v.unread = v := by
  cases v with
  | iterator items => exact absurd rfl (h items)
  | _ => rfl

/-- **A step that fails leaves the chain as it was**, unless it has walked through the wrapped
    sequence. -/
theorem afterFault_eq (h : ¬c.WalksThrough s) : c.afterFault s = c := by
  cases s with
  | call name args byName =>
    rw [afterFault]
    split_ifs with hslug
    · have hkept : c.wrapped.unread = c.wrapped := unread_of_ne_iterator fun items hitems =>
        h ⟨items, name, args, byName, hitems, rfl, hslug.1, hslug.2⟩
      rw [hkept]
    · rfl
  | _ => rfl

theorem afterFault_of_walksThrough (h : c.WalksThrough s) :
    c.afterFault s = ⟨c.wrapped.unread, c.explicit⟩ := by
  obtain ⟨items, name, args, byName, -, rfl, hname, hfits⟩ := h
  exact if_pos ⟨hname, hfits⟩

/-! ## Sequences of steps -/

/-- The chain behind a sequence of steps, if no plain result ended it. -/
def reached (calls : Callback → Value → Except Fault Value) (c : Chain) : List Step → Option Chain
  | [] => some c
  | s :: rest =>
    match c.step calls s with
    | .chain next => next.reached calls rest
    | .plain _ => none
    | .result _ => c.reached calls rest
    | .fault _ => (c.afterFault s).reached calls rest

/-- A sequence goes on from the chain that was reached. -/
theorem run_append (steps rest : List Step) (h : c.reached calls steps = some d) :
    c.run calls (steps ++ rest) = c.run calls steps ++ d.run calls rest := by
  induction steps generalizing c with
  | nil =>
    obtain rfl : c = d := Option.some.inj h
    rfl
  | cons s steps ih =>
    rw [List.cons_append]
    cases hs : c.step calls s with
    | chain next | result r | fault e =>
      simp only [reached, hs] at h
      simp only [run, hs, ih h, List.cons_append]
    | plain r =>
      simp only [reached, hs] at h
      cases h

theorem run_of_fault (h : c.step calls s = .fault e) (rest : List Step) :
    c.run calls (s :: rest) = .fault e :: (c.afterFault s).run calls rest := by
  simp only [run, h]

/-! ## Calls in a row -/

/-- The results of calls in a row. -/
def results (v : Value) : List Call → List (Except Fault Value)
  | [] => []
  | k :: ks => k.onto v :: results (k.valueAfter v) ks

/-- The value behind calls in a row. -/
def valueAfter (v : Value) (ks : List Call) : Value := ks.foldl (fun v k => k.valueAfter v) v

/-- A result in an explicit chain. -/
def wrappedAnswer : Except Fault Value → Answer
  | .ok w => .chain ⟨w, true⟩
  | .error e => .fault e

theorem step_explicit (v : Value) (k : Call) :
    step calls ⟨v, true⟩ k.step = wrappedAnswer (k.onto v) := by
  rw [step_call]
  cases k.onto v <;> rfl

theorem step_implicit_text {t : Text} (h : k.onto v = .ok (.text t)) :
    step calls ⟨v, false⟩ k.step = .chain ⟨.text t, false⟩ := by
  rw [step_call, h]
  rfl

theorem step_implicit_plain (h : k.onto v = .ok w) (hw : ∀ t, w ≠ .text t) :
    step calls ⟨v, false⟩ k.step = .plain w := by
  rw [step_call, h]
  cases w with
  | text t => exact absurd rfl (hw t)
  | _ => rfl

theorem step_of_error (h : k.onto v = .error e) (explicit : Bool) :
    step calls ⟨v, explicit⟩ k.step = .fault e := by
  rw [step_call, h]
  rfl

theorem afterFault_of_error (h : k.onto v = .error e) (explicit : Bool) :
    afterFault ⟨v, explicit⟩ k.step = ⟨k.valueAfter v, explicit⟩ := by
  rw [afterFault_mk, Call.valueAfter, h]

/-- **An explicit chain wraps the results**, and the value behind all calls. -/
theorem run_explicit (v : Value) (ks : List Call) :
    run calls ⟨v, true⟩ (ks.map Call.step) = (results v ks).map wrappedAnswer ∧
      reached calls ⟨v, true⟩ (ks.map Call.step) = some ⟨valueAfter v ks, true⟩ := by
  induction ks generalizing v with
  | nil => exact ⟨rfl, rfl⟩
  | cons k ks ih =>
    obtain ⟨hrun, hreached⟩ := ih (k.valueAfter v)
    cases hk : k.onto v with
    | ok w =>
      have hvalue : k.valueAfter v = w := by rw [Call.valueAfter, hk]
      rw [hvalue] at hrun hreached
      simp [run, reached, results, valueAfter, step_explicit, hk, wrappedAnswer, hvalue, hrun,
        hreached]
    | error e =>
      simp [run, reached, results, valueAfter, step_explicit, hk, wrappedAnswer,
        afterFault_of_error hk, hrun, hreached]

/-- The answers of an explicit chain beside those of an implicit one: the same faults, the same
    texts wrapped, and at the first other result the value itself. -/
inductive Agree : List Answer → List Answer → Prop
  | nil : Agree [] []
  | fault {as bs : List Answer} (e : Fault) : Agree as bs → Agree (.fault e :: as) (.fault e :: bs)
  | text {as bs : List Answer} (t : Text) : Agree as bs →
      Agree (.chain ⟨.text t, true⟩ :: as) (.chain ⟨.text t, false⟩ :: bs)
  | plain {as : List Answer} {w : Value} : (∀ t, w ≠ .text t) →
      Agree (.chain ⟨w, true⟩ :: as) [.plain w]

/-- **An implicit chain agrees with an explicit one** up to the first result that is no text. -/
theorem agree_run (v : Value) (ks : List Call) :
    Agree (run calls ⟨v, true⟩ (ks.map Call.step)) (run calls ⟨v, false⟩ (ks.map Call.step)) := by
  induction ks generalizing v with
  | nil => exact .nil
  | cons k ks ih =>
    rw [List.map_cons]
    cases hk : k.onto v with
    | ok w =>
      have hexplicit : step calls ⟨v, true⟩ k.step = .chain ⟨w, true⟩ := by
        rw [step_explicit, hk]
        rfl
      by_cases hw : ∃ t, w = .text t
      · obtain ⟨t, rfl⟩ := hw
        simp only [run, hexplicit, step_implicit_text hk]
        exact .text t (ih (.text t))
      · have hplain : ∀ t, w ≠ .text t := not_exists.1 hw
        simp only [run, hexplicit, step_implicit_plain hk hplain]
        exact .plain hplain
    | error e =>
      simp only [run, step_of_error hk, afterFault_of_error hk]
      exact .fault e (ih _)

/-- Where no call fails, the functions are composed from left to right. -/
theorem valueAfter_eq_of_foldlM (h : ks.foldlM (fun v k => k.onto v) v = .ok w) :
    valueAfter v ks = w := by
  induction ks generalizing v with
  | nil => exact Except.ok.inj h
  | cons k ks ih =>
    rw [List.foldlM_cons] at h
    cases hk : k.onto v with
    | ok u =>
      rw [hk] at h
      rw [valueAfter, List.foldl_cons, Call.valueAfter, hk]
      exact ih h
    | error e =>
      rw [hk] at h
      cases h

/-! ## Operations of the chain itself -/

/-- The answer is a chain in the given mode, or a fault, but nothing unwrapped. -/
def StaysIn (explicit : Bool) : Answer → Prop
  | .chain c => c.explicit = explicit
  | .fault _ => True
  | _ => False

theorem staysIn_thru (c : Chain) (f : Value) : StaysIn c.explicit (c.step calls (.thru f)) := by
  rw [step]
  cases passThrough calls f c.wrapped with
  | ok v => exact rfl
  | error e => trivial

theorem staysIn_call_thru (c : Chain) {name : Name} (hname : name.1 = "thru".toList)
    (args : List Value) (byName : List (Text × Value)) :
    StaysIn c.explicit (c.step calls (.call name args byName)) := by
  obtain ⟨_, _⟩ := name
  obtain rfl := hname
  have hcall : c.step calls (.call ⟨"thru".toList, ‹_›⟩ args byName) = answer (do
      let bound ← Catalogue.Signature.bind
        ⟨[Catalogue.optional "function" .nothing], false⟩ args byName
      let v ← passThrough calls (bound.1.headD .nothing) c.wrapped
      .ok (.chain ⟨v, c.explicit⟩)) := rfl
  rw [hcall]
  cases Catalogue.Signature.bind ⟨[Catalogue.optional "function" .nothing], false⟩ args byName with
  | error e => trivial
  | ok bound =>
    rw [ok_bind]
    cases passThrough calls (bound.1.headD .nothing) c.wrapped with
    | error e => trivial
    | ok v => exact rfl

/-- Without arguments, the operation makes a chain explicit; it takes none. -/
theorem staysIn_call_chain (c : Chain) {name : Name} (hname : name.1 = "chain".toList)
    (args : List Value) (byName : List (Text × Value)) :
    StaysIn true (c.step calls (.call name args byName)) := by
  obtain ⟨_, _⟩ := name
  obtain rfl := hname
  have hcall : c.step calls (.call ⟨"chain".toList, ‹_›⟩ args byName) =
      answer (if args.isEmpty && byName.isEmpty then .ok (.chain ⟨c.wrapped, true⟩)
        else .error .wrongKind) := rfl
  rw [hcall]
  split_ifs
  · exact rfl
  · trivial

/-! ## Agreement -/

/-- **Chains with and without unwrapping agree, and faults leave a chain alone.**  Every function but
    one can be called.  An explicit chain wraps the result of each function applied to the value
    before it; an implicit one gives the same up to the first result that is no text, and this as it
    is.  A step that fails leaves the mode, and unless it walks through the wrapped sequence also the
    value, so that all later steps are as without it.  The operations of the chain itself keep the mode
    or make it explicit, whatever a callback gives. -/
theorem chains_agree (calls : Callback → Value → Except Fault Value) (v : Value) (ks : List Call) :
    (∀ f ∈ Catalogue.functions, f.name.toList ≠ "iter_graphemes".toList → ∀ args byName,
      ∃ k : Call, k.name.1 = f.name.toList ∧ k.args = args ∧ k.byName = byName) ∧
    (∀ (k : Call) (v : Value),
      (∀ f, Catalogue.find? Catalogue.functions k.name.1 = some f →
        k.onto v = (f.call (v :: k.args) k.byName).result) ∧
      (Catalogue.find? Catalogue.functions k.name.1 = none →
        k.onto v = .error (.noFunction k.name.1))) ∧
    (∀ rest, run calls ⟨v, true⟩ (ks.map Call.step ++ rest) =
      (results v ks).map wrappedAnswer ++ run calls ⟨valueAfter v ks, true⟩ rest) ∧
    (∀ w, ks.foldlM (fun v k => k.onto v) v = .ok w → valueAfter v ks = w) ∧
    Agree (run calls ⟨v, true⟩ (ks.map Call.step)) (run calls ⟨v, false⟩ (ks.map Call.step)) ∧
    (∀ (c d : Chain) (before after : List Step) (s : Step) (e : Fault),
      c.reached calls before = some d → d.step calls s = .fault e →
        c.run calls (before ++ s :: after) =
          c.run calls before ++ .fault e :: (d.afterFault s).run calls after ∧
        (d.afterFault s).explicit = d.explicit ∧
        (¬d.WalksThrough s → d.afterFault s = d ∧
          c.run calls (before ++ after) = c.run calls before ++ d.run calls after) ∧
        (d.WalksThrough s → d.afterFault s = ⟨d.wrapped.unread, d.explicit⟩)) ∧
    ∀ c : Chain, c.step calls .makeExplicit = .chain ⟨c.wrapped, true⟩ ∧
      (∀ f, StaysIn c.explicit (c.step calls (.thru f))) ∧
      ∀ (name : Name) args byName,
        (name.1 = "thru".toList →
          StaysIn c.explicit (c.step calls (.call name args byName))) ∧
        (name.1 = "chain".toList → StaysIn true (c.step calls (.call name args byName))) := by
  obtain ⟨hrun, hreached⟩ := run_explicit v ks
  refine ⟨fun f => exists_call,
    fun k v => ⟨fun f hfind => onto_of_find? hfind v, fun hfind => onto_of_unknown hfind v⟩,
    fun rest => ?_,
    fun w => valueAfter_eq_of_foldlM, agree_run v ks, ?_, fun c =>
      ⟨rfl, staysIn_thru c, fun name args byName =>
        ⟨fun hname => staysIn_call_thru c hname args byName,
          fun hname => staysIn_call_chain c hname args byName⟩⟩⟩
  · rw [run_append _ rest hreached, hrun]
  · intro c d before after s e hbefore hs
    refine ⟨?_, afterFault_explicit d s, fun hwalks =>
      ⟨afterFault_eq hwalks, run_append before after hbefore⟩, afterFault_of_walksThrough⟩
    rw [run_append before (s :: after) hbefore, run_of_fault hs]

/-- Blanks are trimmed, letters put in lower case, and the words end an implicit chain; a call of
    no function changes nothing, and a callback puts what it is given in a list. -/
theorem chains_agree_words :
    let calls : Callback → Value → Except Fault Value := fun _ v => .ok (.list [v])
    let listing : Callback :=
      ⟨0, fun _ _ _ => .error .wrongKind, fun _ _ => .error .wrongKind⟩
    let trim : Call := ⟨⟨"trim".toList, notMem_objectNames (by decide)⟩, [], [], by decide, by decide⟩
    let lower : Call := ⟨⟨"lower_case".toList, notMem_objectNames (by decide)⟩, [], [], by decide, by decide⟩
    let words : Call := ⟨⟨"words".toList, notMem_objectNames (by decide)⟩, [], [], by decide, by decide⟩
    let unknown : Call := ⟨⟨"shout".toList, notMem_objectNames (by decide)⟩, [], [], by decide, by decide⟩
    let subject : Value := .text " Hello world ".toList
    let result : Value := .ofTexts ["hello".toList, "world".toList]
    run calls ⟨subject, true⟩
        ([trim, lower, words].map Call.step ++ [.thru (.callback listing), .value]) =
        [.chain ⟨.text "Hello world".toList, true⟩, .chain ⟨.text "hello world".toList, true⟩,
          .chain ⟨result, true⟩, .chain ⟨.list [result], true⟩, .result (.list [result])] ∧
      run calls ⟨subject, false⟩ [trim.step, unknown.step, lower.step, words.step] =
        [.chain ⟨.text "Hello world".toList, false⟩, .fault (.noFunction "shout".toList),
          .chain ⟨.text "hello world".toList, false⟩, .plain result] := by
  intro calls listing trim lower words unknown subject result
  obtain ⟨-, -, hrun, hvalue, -, hfault, -⟩ := chains_agree calls subject [trim, lower, words]
  have htrim : trim.onto subject = .ok (.text "Hello world".toList) := rfl
  have hlower : lower.onto (.text "Hello world".toList) = .ok (.text "hello world".toList) := rfl
  have hwords : words.onto (.text "hello world".toList) = .ok result := rfl
  have hplain : ∀ t, result ≠ .text t := nofun
  constructor
  · have hresult : valueAfter subject [trim, lower, words] = result := by
      refine hvalue result ?_
      simp only [List.foldlM_cons, htrim, hlower, hwords, ok_bind]
      rfl
    have hrest : run calls ⟨result, true⟩ [.thru (.callback listing), .value] =
        [.chain ⟨.list [result], true⟩, .result (.list [result])] := rfl
    rw [hrun, hresult, hrest]
    simp only [results, Call.valueAfter, htrim, hlower, hwords, List.map_cons, List.map_nil,
      wrappedAnswer, List.cons_append, List.nil_append]
  · have hreached : reached calls ⟨subject, false⟩ [trim.step] =
        some ⟨.text "Hello world".toList, false⟩ := by
      simp only [reached, step_implicit_text htrim]
    have hunknown : step calls ⟨.text "Hello world".toList, false⟩ unknown.step =
        .fault (.noFunction "shout".toList) := rfl
    have hrest := (hfault _ _ [trim.step] [lower.step, words.step] _ _ hreached hunknown).1
    have hafter : afterFault ⟨.text "Hello world".toList, false⟩ unknown.step =
        ⟨.text "Hello world".toList, false⟩ := rfl
    rw [hafter] at hrest
    simpa only [run, step_implicit_text htrim, step_implicit_text hlower,
      step_implicit_plain hwords hplain, List.cons_append, List.nil_append] using hrest

/-- A slug whose separator is refused has walked through the wrapped sequence: nothing is left for
    the next one.  So has a removal of tags that fails behind its list of tags walked through the
    list, and the next one that is given it keeps no tag. -/
theorem walked_through :
    let calls : Callback → Value → Except Fault Value := fun _ v => .ok v
    let letters : Chain := ⟨.iterator [.text ['a'], .text ['b']], true⟩
    let slug (byName : List (Text × Value)) : Step :=
      .call ⟨"slugify".toList, notMem_objectNames (by decide)⟩ [] byName
    let refused : Step := slug [("separator".toList, .bytes [])]
    let bold : Chain := ⟨.text "<b>x</b>".toList, true⟩
    let tags : Value := .iterator [.text ['b']]
    let strip (kept fill : Value) : Step :=
      .call ⟨"strip_tags".toList, notMem_objectNames (by decide)⟩ [kept, fill] []
    letters.run calls [refused, slug []] = [.fault .wrongKind, .chain ⟨.text [], true⟩] ∧
      letters.run calls [slug []] = [.chain ⟨.text "a-b".toList, true⟩] ∧
      bold.run calls [strip tags (.int (10 ^ Numeral.maxDigits)), strip tags.unread .nothing] =
        [.fault .numeral, .chain ⟨.text ['x'], true⟩] ∧
      bold.run calls [strip tags .nothing] = [.chain ⟨.text "<b>x</b>".toList, true⟩] := by
  intro calls letters slug refused bold tags strip
  have hlong : (Value.int (10 ^ Numeral.maxDigits)).toText = .error .numeral := by
    have hdigits : ¬Numeral.IsShort (10 ^ Numeral.maxDigits) := fun h =>
      absurd (Numeral.isShort_iff.1 h) (by simp)
    exact (Value.refusedIff_toText _ _).2 ⟨rfl, .own hdigits⟩
  -- The value that cannot be written stands for itself until the last step.
  have hfault (fill : Value) (h : fill.toText = .error .numeral) (rest : List Step) :
      bold.run calls (strip tags fill :: rest) = .fault .numeral :: bold.run calls rest := by
    have hstep : bold.step calls (strip tags fill) =
        answer ((fill.toText >>= fun t => (.ok (Value.text (Markup.removeTags ⟨[['b']], t⟩
          "<b>x</b>".toList)) : Except Fault Value)).map bold.wrapResult) := rfl
    rw [h] at hstep
    rw [run_of_fault hstep]
    rfl
  refine ⟨rfl, rfl, ?_, rfl⟩
  rw [hfault _ hlong]
  rfl

end Textwork.Chain
