/-
  Computations that may fail, one after the other.

  * `mapM_eq_error_iff`: a list of them fails as its first failing member does,
    `mapM_eq_ok_iff`: and succeeds if all members do; `foldlM_eq_error_iff`: so
    do steps that carry a value along;
  * `FailsOnly P r`: the fault of `r`, if it has one, meets `P`;
  * the results of traced computations, whatever they note.
-/
import Textwork.Trace
import Mathlib.Data.List.Forall2
import Mathlib.Tactic.Common

namespace Textwork

variable {α β ε : Type}

@[simp] theorem ok_bind (a : α) (f : α → Except ε β) : (.ok a >>= f) = f a := rfl

@[simp] theorem error_bind (e : ε) (f : α → Except ε β) :
    (.error e >>= f) = .error e := rfl

theorem bind_eq_ok_iff {x : Except ε α} {f : α → Except ε β} {b : β} :
    x >>= f = .ok b ↔ ∃ a, x = .ok a ∧ f a = .ok b := by
  cases x with
  | error e => simp
  | ok a => simp

theorem bind_eq_error_iff {x : Except ε α} {f : α → Except ε β} {e : ε} :
    x >>= f = .error e ↔ x = .error e ∨ ∃ a, x = .ok a ∧ f a = .error e := by
  cases x with
  | error e' => simp
  | ok a => simp

@[simp] theorem map_ok (f : α → β) (a : α) :
    (.ok a : Except ε α).map f = .ok (f a) := rfl

@[simp] theorem map_error (f : α → β) (e : ε) :
    (.error e : Except ε α).map f = .error e := rfl

/-! ## Lists of computations -/

/-- Steps are taken in order, and the first one that fails decides. -/
theorem mapM_eq_error_iff {f : α → Except ε β} {l : List α} {e : ε} :
    l.mapM f = .error e ↔
      ∃ (i : Nat) (a : α), l[i]? = some a ∧ f a = .error e ∧
        ∀ j < i, ∀ b, l[j]? = some b → ∃ r, f b = .ok r := by
  induction l with
  | nil => simp [pure, Except.pure]
  | cons x l ih =>
    rw [List.mapM_cons]
    cases hx : f x with
    | error e' =>
      simp only [error_bind, Except.error.injEq]
      constructor
      · rintro rfl
        exact ⟨0, x, rfl, hx, fun j hj => absurd hj (Nat.not_lt_zero j)⟩
      · rintro ⟨i, a, ha, he, hlt⟩
        cases i with
        | zero =>
          obtain rfl : x = a := by simpa using ha
          exact Except.error.inj (hx.symm.trans he)
        | succ i =>
          obtain ⟨r, hr⟩ := hlt 0 (Nat.succ_pos i) x rfl
          cases hx.symm.trans hr
    | ok r =>
      have htail : (do let rs ← l.mapM f; pure (r :: rs) : Except ε (List β)) = .error e ↔
          l.mapM f = .error e := by
        cases l.mapM f <;> simp [pure, Except.pure]
      refine htail.trans (ih.trans ?_)
      constructor
      · rintro ⟨i, a, ha, he, hlt⟩
        refine ⟨i + 1, a, by simpa using ha, he, fun j hj b hb => ?_⟩
        cases j with
        | zero =>
          obtain rfl : x = b := by simpa using hb
          exact ⟨r, hx⟩
        | succ j => exact hlt j (Nat.lt_of_succ_lt_succ hj) b (by simpa using hb)
      · rintro ⟨i, a, ha, he, hlt⟩
        cases i with
        | zero =>
          obtain rfl : x = a := by simpa using ha
          cases hx.symm.trans he
        | succ i =>
          exact ⟨i, a, by simpa using ha, he, fun j hj b hb =>
            hlt (j + 1) (Nat.succ_lt_succ hj) b (by simpa using hb)⟩

theorem mapM_eq_ok_of_forall {f g : α → Except ε β} {l : List α} {rs : List β}
    (h : ∀ a ∈ l, ∀ r, f a = .ok r → g a = .ok r) (hf : l.mapM f = .ok rs) :
    l.mapM g = .ok rs := by
  induction l generalizing rs with
  | nil => exact hf
  | cons x l ih =>
    rw [List.mapM_cons] at hf ⊢
    cases hx : f x with
    | error e =>
      rw [hx] at hf
      cases hf
    | ok r =>
      rw [hx] at hf
      rw [h x (by simp) r hx]
      cases hl : l.mapM f with
      | error e =>
        rw [hl] at hf
        cases hf
      | ok rs' =>
        rw [hl] at hf
        rw [ih (fun a ha => h a (by simp [ha])) hl]
        exact hf

theorem mapM_congr_of_forall {f g : α → Except ε β} {l : List α} (h : ∀ a ∈ l, f a = g a) :
    l.mapM f = l.mapM g := by
  induction l with
  | nil => rfl
  | cons x l ih =>
    rw [List.mapM_cons, List.mapM_cons, h x (by simp), ih fun a ha => h a (by simp [ha])]

/-- The whole succeeds as its members do, with their results in order. -/
theorem mapM_eq_ok_iff {f : α → Except ε β} {l : List α} {rs : List β} :
    l.mapM f = .ok rs ↔ List.Forall₂ (fun a r => f a = .ok r) l rs := by
  induction l generalizing rs with
  | nil => cases rs <;> simp [pure, Except.pure]
  | cons x l ih =>
    rw [List.mapM_cons, bind_eq_ok_iff, List.forall₂_cons_left_iff]
    constructor
    · rintro ⟨r, hr, h⟩
      obtain ⟨rs', hrs, h⟩ := bind_eq_ok_iff.1 h
      exact ⟨r, rs', hr, ih.1 hrs, (Except.ok.inj h).symm⟩
    · rintro ⟨r, rs', hr, hrs, rfl⟩
      exact ⟨r, hr, bind_eq_ok_iff.2 ⟨rs', ih.2 hrs, rfl⟩⟩

theorem exists_mem_of_mapM_eq_ok {f : α → Except ε β} {l : List α} {rs : List β} {a : α}
    (h : l.mapM f = .ok rs) (ha : a ∈ l) : ∃ r ∈ rs, f a = .ok r := by
  induction mapM_eq_ok_iff.1 h with
  | nil => cases ha
  | @cons x r l rs hx _ ih =>
    rcases List.mem_cons.1 ha with rfl | ha
    · exact ⟨r, List.mem_cons_self, hx⟩
    · obtain ⟨r', hr', hf⟩ := ih (mapM_eq_ok_iff.2 ‹_›) ha
      exact ⟨r', List.mem_cons_of_mem r hr', hf⟩

/-- With a member that fails the whole fails. -/
theorem exists_mapM_eq_error {f : α → Except ε β} {l : List α} {a : α} {e : ε} (ha : a ∈ l)
    (h : f a = .error e) : ∃ e', l.mapM f = .error e' := by
  induction l with
  | nil => cases ha
  | cons x l ih =>
    rw [List.mapM_cons]
    cases hx : f x with
    | error e' => exact ⟨e', rfl⟩
    | ok r =>
      rcases List.mem_cons.1 ha with rfl | ha
      · cases hx.symm.trans h
      · obtain ⟨e', he'⟩ := ih ha
        exact ⟨e', by rw [he']; rfl⟩

/-- What fails fails with anything behind it. -/
theorem mapM_append_eq_error {f : α → Except ε β} {l : List α} {e : ε} (l' : List α)
    (h : l.mapM f = .error e) : (l ++ l').mapM f = .error e := by
  rw [List.mapM_append, h]
  rfl

/-- Steps that carry a value along fail where the first step fails. -/
theorem foldlM_eq_error_iff {f : β → α → Except ε β} {l : List α} {b : β} {e : ε} :
    l.foldlM f b = .error e ↔
      ∃ before a after b', l = before ++ a :: after ∧ before.foldlM f b = .ok b' ∧
        f b' a = .error e := by
  induction l generalizing b with
  | nil => simp [pure, Except.pure]
  | cons x l ih =>
    rw [List.foldlM_cons, bind_eq_error_iff]
    constructor
    · rintro (hx | ⟨b', hx, hl⟩)
      · exact ⟨[], x, l, b, rfl, rfl, hx⟩
      · obtain ⟨before, a, after, b'', rfl, hbefore, ha⟩ := ih.1 hl
        exact ⟨x :: before, a, after, b'', rfl, bind_eq_ok_iff.2 ⟨b', hx, hbefore⟩, ha⟩
    · rintro ⟨before, a, after, b', hl, hbefore, ha⟩
      cases before with
      | nil =>
        cases hl
        cases hbefore
        exact .inl ha
      | cons y before =>
        cases hl
        obtain ⟨b'', hy, hbefore⟩ := bind_eq_ok_iff.1 hbefore
        exact .inr ⟨b'', hy, ih.2 ⟨before, a, after, b', rfl, hbefore, ha⟩⟩

/-- What each step keeps holds of the value at the end. -/
theorem foldlM_invariant {f : β → α → Except ε β} {P : β → Prop} {l : List α}
    (hstep : ∀ a ∈ l, ∀ b b', P b → f b a = .ok b' → P b') :
    ∀ {b b' : β}, P b → l.foldlM f b = .ok b' → P b' := by
  induction l with
  | nil =>
    rintro b b' hb h
    cases h
    exact hb
  | cons x l ih =>
    obtain ⟨hx, hl⟩ := List.forall_mem_cons.1 hstep
    intro b b' hb h
    rw [List.foldlM_cons] at h
    obtain ⟨b'', hb'', h⟩ := bind_eq_ok_iff.1 h
    exact ih hl (hx b b'' hb hb'') h

/-! ## Faults of a kind -/

/-- The fault, if there is one, is of the kind `P`. -/
def FailsOnly (P : Fault → Prop) (r : Except Fault α) : Prop := ∀ e, r = .error e → P e

namespace FailsOnly

variable {P Q : Fault → Prop} {r : Except Fault α}

theorem ok (a : α) : FailsOnly P (.ok a) := fun e h => by cases h

theorem error {e : Fault} (he : P e) : FailsOnly P (.error e : Except Fault α) := by
  rintro e' h
  cases h
  exact he

theorem ite {p : Prop} [Decidable p] {s : Except Fault α} (hr : FailsOnly P r)
    (hs : FailsOnly P s) : FailsOnly P (if p then r else s) := by
  split
  · exact hr
  · exact hs

theorem mono (h : FailsOnly P r) (hPQ : ∀ e, P e → Q e) : FailsOnly Q r :=
  fun e he => hPQ e (h e he)

theorem map (h : FailsOnly P r) (f : α → β) : FailsOnly P (r.map f) := by
  intro e he
  cases r with
  | error e' => exact h e (by simpa using he)
  | ok a => cases he

theorem bind (h : FailsOnly P r) {f : α → Except Fault β} (hf : ∀ a, FailsOnly P (f a)) :
    FailsOnly P (r >>= f) := by
  intro e he
  cases r with
  | error e' => exact h e (by simpa using he)
  | ok a => exact hf a e he

end FailsOnly

/-! ## Results of traced computations -/

namespace Traced

@[simp] theorem result_pure (a : α) : (pure a : Traced α).result = .ok a := rfl

@[simp] theorem result_map (f : α → β) (x : Traced α) : (f <$> x).result = x.result.map f := rfl

@[simp] theorem result_bind (x : Traced α) (f : α → Traced β) :
    (x >>= f).result = x.result >>= fun a => (f a).result := by
  change (Traced.bind x f).result = _
  unfold Traced.bind
  cases x.result <;> rfl

@[simp] theorem result_ofExcept (r : Except Fault α) : (ofExcept r).result = r := rfl

@[simp] theorem result_fail (e : Fault) : (fail e : Traced α).result = .error e := rfl

@[simp] theorem result_note (n : Note) : (note n).result = .ok () := rfl

@[simp] theorem ofExcept_ok_bind (a : α) (f : α → Traced β) : (ofExcept (.ok a) >>= f) = f a := rfl

@[simp] theorem ofExcept_error_bind (e : Fault) (f : α → Traced β) :
    (ofExcept (.error e) >>= f) = fail e := rfl

@[simp] theorem fail_bind (e : Fault) (f : α → Traced β) : (fail e >>= f) = fail e := rfl

end Traced

end Textwork
