/-
  Trees that read definite stretches of a text.

  * `Reads n stretch?`: wherever the tree `n` is tried, it takes as many characters
    as `stretch?` gives for the text from there on, or fails;
  * `reads_literals`, `Reads.alt`: the trees of texts and of alternatives do so;
  * `Reads.searchFrom?_eq`, `Reads.matchesWhole_iff`, `Reads.substitute_eq`: what
    searching, matching and replacing come to for such a tree.
-/
import Textwork.Proofs.Pattern.Quoting

namespace Textwork.Pattern

variable {n m : Node} {stretch? other? : Text → Option Nat} {folding : Folding} {t u w : Text}
  {groups i j size : Nat} {advance : Bool}

/-- Wherever the tree is tried, it takes as many characters as `stretch?` gives for the text from
    there on, and leaves the groups as they are. -/
def Reads (n : Node) (stretch? : Text → Option Nat) : Prop :=
  ∀ (t : Text) (p : Place) (k : Continuation), n.run t.toArray p k =
    (stretch? (t.drop p.position)).bind fun size => k { p with position := p.position + size }

/-! ## Texts and alternatives -/

/-- The second text begins with the first one, as letter case counts. -/
def Folding.begins (folding : Folding) : Text → Text → Bool
  | [], _ => true
  | _ :: _, [] => false
  | c :: w, d :: t => folding.same d c && folding.begins w t

/-- The length of `w`, if the text `t` begins with it. -/
def Folding.leading? (folding : Folding) (w t : Text) : Option Nat :=
  if folding.begins w t then some w.length else none

theorem run_ofList_cons (n : Node) (ns : List Node) (s : Array Char) (p : Place)
    (k : Continuation) :
    (Node.ofList (n :: ns)).run s p k = n.run s p fun q => (Node.ofList ns).run s q k := by
  cases ns <;> rfl

theorem reads_literals (folding : Folding) (w : Text) :
    Reads (literals folding w) (folding.leading? w) := by
  induction w with
  | nil => exact fun _ _ _ => rfl
  | cons c w ih =>
    intro t p k
    have hrun : (literals folding (c :: w)).run t.toArray p k =
        (Node.single (.literal folding c)).run t.toArray p
          fun q => (literals folding w).run t.toArray q k := by
      rw [literals, List.map_cons, run_ofList_cons]
      rfl
    have hhead : t.toArray[p.position]? = (t.drop p.position).head? := by simp
    have htail : t.drop (p.position + 1) = (t.drop p.position).tail := by simp
    rw [hrun, Node.run, hhead]
    cases hu : t.drop p.position with
    | nil => rfl
    | cons d u =>
      rw [hu, List.tail_cons] at htail
      rw [List.head?_cons]
      by_cases hd : folding.same d c = true
      · have hrest := ih t { p with position := p.position + 1 } k
        simp only [htail, Nat.add_assoc, Nat.add_comm 1] at hrest
        simp only [Test.holds, hd, if_true, hrest, Folding.leading?, Folding.begins, Bool.true_and]
        split_ifs <;> rfl
      · simp [Test.holds, hd, Folding.leading?, Folding.begins]

/-- Of two trees of which one fails, the other one decides. -/
theorem Reads.alt (hn : Reads n stretch?) (hm : Reads m other?)
    (h : ∀ u, stretch? u = none ∨ other? u = none) :
    Reads (.alt n m) fun u => (stretch? u).or (other? u) := by
  intro t p k
  rw [Node.run, hn, hm]
  cases hs : stretch? (t.drop p.position) with
  | none => simp [hs]
  | some size =>
    have ho : other? (t.drop p.position) = none :=
      (h _).resolve_left fun hnone => by simp [hs] at hnone
    simp only [hs, ho, Option.bind_some, Option.bind_none, Option.or_none]
    split <;> simp_all

/-- Alternatives read the text among them with which another text begins, if there is no more than
    one such. -/
theorem reads_anyOf (folding : Folding) (w : Text) (ws : List Text)
    (hone : ∀ u, (w :: ws).Pairwise fun v v' =>
      folding.begins v u = true → folding.begins v' u = false) :
    Reads (.anyOf (literals folding w) (ws.map (literals folding))) fun u =>
      ((w :: ws).find? (folding.begins · u)).map List.length := by
  induction ws generalizing w with
  | nil =>
    have hleading : folding.leading? w = fun u =>
        ([w].find? (folding.begins · u)).map List.length := by
      funext u
      rw [Folding.leading?, List.find?_singleton]
      split_ifs <;> rfl
    exact hleading ▸ reads_literals folding w
  | cons v ws ih =>
    have hor : (fun u => ((w :: v :: ws).find? (folding.begins · u)).map List.length) = fun u =>
        (folding.leading? w u).or (((v :: ws).find? (folding.begins · u)).map List.length) := by
      funext u
      rw [Folding.leading?, List.find?_cons]
      cases folding.begins w u <;> rfl
    rw [hor]
    refine (reads_literals folding w).alt (ih v fun u => (List.pairwise_cons.1 (hone u)).2) ?_
    intro u
    cases hw : folding.begins w u with
    | false => exact .inl (by simp [Folding.leading?, hw])
    | true =>
      have hnone : ∀ v' ∈ v :: ws, ¬folding.begins v' u = true := fun v' hv' => by
        simp [(List.pairwise_cons.1 (hone u)).1 v' hv' hw]
      exact .inr (by rw [List.find?_eq_none.2 hnone, Option.map_none])

/-! ## Searching -/

/-- The place at which a stretch is found first, and its size. -/
def firstStretch (stretch? : Text → Option Nat) : Text → Option (Nat × Nat)
  | [] => (stretch? []).map (0, ·)
  | c :: u =>
    match stretch? (c :: u) with
    | some size => some (0, size)
    | none => (firstStretch stretch? u).map fun (i, size) => (i + 1, size)

theorem stretch?_of_firstStretch (h : firstStretch stretch? u = some (i, size)) :
    i ≤ u.length ∧ stretch? (u.drop i) = some size := by
  induction u generalizing i with
  | nil =>
    obtain ⟨size', hs, h⟩ := Option.map_eq_some_iff.1 h
    obtain ⟨rfl, rfl⟩ := Prod.mk.inj h
    exact ⟨Nat.le_refl _, hs⟩
  | cons c u ih =>
    rw [firstStretch] at h
    split at h
    · next hs =>
      obtain ⟨rfl, rfl⟩ := Prod.mk.inj (Option.some.inj h)
      exact ⟨Nat.zero_le _, hs⟩
    · obtain ⟨⟨j, size'⟩, hj, h⟩ := Option.map_eq_some_iff.1 h
      obtain ⟨rfl, rfl⟩ := Prod.mk.inj h
      obtain ⟨hle, hs⟩ := ih hj
      exact ⟨Nat.succ_le_succ hle, hs⟩

theorem Reads.matchAt?_eq (h : Reads n stretch?) (groups : Nat) (t : Text) (accept : Nat → Bool)
    (i : Nat) :
    matchAt? n groups t.toArray accept i = (stretch? (t.drop i)).bind fun size =>
      if accept (i + size) then some ⟨i, i + size, List.replicate groups none⟩ else none := by
  rw [matchAt?, h]
  cases stretch? (t.drop i) with
  | none => rfl
  | some size =>
    simp only [Option.bind_some]
    split_ifs <;> rfl

/-- That an empty match does not count changes nothing where stretches are not empty. -/
theorem Reads.matchAt?_advance (h : Reads n stretch?)
    (hadvance : advance = true → ∀ u, stretch? u ≠ some 0) (groups : Nat) (t : Text) (i : Nat) :
    matchAt? n groups t.toArray (fun stop => !advance || stop != i) i =
      (stretch? (t.drop i)).map fun size => ⟨i, i + size, List.replicate groups none⟩ := by
  rw [h.matchAt?_eq]
  cases hs : stretch? (t.drop i) with
  | none => rfl
  | some size =>
    have haccept : (!advance || i + size != i) = true := by
      cases advance with
      | false => rfl
      | true =>
        have hsize : size ≠ 0 := by
          rintro rfl
          exact hadvance rfl _ hs
        simpa using hsize
    simp only [Option.bind_some, haccept, if_true, Option.map_some]

theorem Reads.searchFrom?_eq (h : Reads n stretch?)
    (hadvance : advance = true → ∀ u, stretch? u ≠ some 0) (groups : Nat) {room : Nat}
    (hroom : i + room = t.length) :
    searchFrom? n groups t.toArray advance i room =
      (firstStretch stretch? (t.drop i)).map fun (j, size) =>
        ⟨i + j, i + j + size, List.replicate groups none⟩ := by
  induction room generalizing i advance with
  | zero =>
    have hnil : t.drop i = [] := List.drop_eq_nil_of_le (by omega)
    rw [searchFrom?, h.matchAt?_advance hadvance, hnil, firstStretch, Option.map_map]
    rfl
  | succ room ih =>
    have hcons : t.drop i = t[i] :: t.drop (i + 1) := List.drop_eq_getElem_cons (by omega)
    have hafter : false = true → ∀ u, stretch? u ≠ some 0 := fun h => by cases h
    have hrest := ih hafter (show i + 1 + room = t.length by omega)
    rw [searchFrom?, h.matchAt?_advance hadvance, hrest, hcons, firstStretch]
    cases stretch? (t[i] :: t.drop (i + 1)) with
    | some size => rfl
    | none =>
      simp only [Option.map_none, Option.map_map]
      congr 1
      funext ⟨j, size⟩
      simp [Nat.add_assoc, Nat.add_comm 1]

theorem Reads.search?_eq {p : Pattern} (h : Reads p.root stretch?) (hi : i ≤ t.length) :
    p.search? t i = (firstStretch stretch? (t.drop i)).map fun (j, size) =>
      ⟨i + j, i + j + size, List.replicate p.groups none⟩ := by
  rw [search?, if_neg (Nat.not_lt.2 hi), h.searchFrom?_eq (by simp) p.groups (by omega)]

theorem Reads.matchesWhole_iff {p : Pattern} (h : Reads p.root stretch?) :
    p.matchesWhole t = true ↔ stretch? t = some t.length := by
  rw [matchesWhole, h.matchAt?_eq, List.drop_zero]
  cases stretch? t with
  | none => simp
  | some size =>
    by_cases hsize : size = t.length <;> simp [hsize]

/-! ## Matches and replacements -/

theorem between_add (t : Text) (i size : Nat) : t.between i (i + size) = (t.drop i).take size := by
  rw [Text.between, List.drop_take, Nat.add_sub_cancel_left]

theorem Reads.stretch?_of_mem_matchesFrom (h : Reads n stretch?) (hpos : ∀ u, stretch? u ≠ some 0)
    {fuel : Nat} {x : Match} (hx : x ∈ matchesFrom n groups t.toArray fuel advance i) :
    ∃ size, stretch? (t.drop x.start) = some size ∧ x.stop = x.start + size := by
  induction fuel generalizing advance i with
  | zero => cases hx
  | succ fuel ih =>
    rw [matchesFrom, List.size_toArray] at hx
    split_ifs at hx with hi
    · cases hx
    · rw [h.searchFrom?_eq (fun _ => hpos) groups (by omega)] at hx
      cases hs : firstStretch stretch? (t.drop i) with
      | none => simp [hs] at hx
      | some js =>
        obtain ⟨j, size⟩ := js
        simp only [hs, Option.map_some] at hx
        rcases List.mem_cons.1 hx with rfl | hx
        · obtain ⟨-, hsize⟩ := stretch?_of_firstStretch hs
          exact ⟨size, by rw [← hsize, List.drop_drop], rfl⟩
        · exact ih hx

/-- `replace` puts what `value` gives for a stretch in its place, which does not fail, and keeps all
    other characters. -/
structure Replaces (stretch? : Text → Option Nat) (value : Text → Except Fault Text)
    (replace : Text → Text) : Prop where
  nil : replace [] = []
  stretch : ∀ u size, stretch? u = some size →
    ∃ w, value (u.take size) = .ok w ∧ replace u = w ++ replace (u.drop size)
  plain : ∀ c u, stretch? (c :: u) = none → replace (c :: u) = c :: replace u

namespace Replaces

variable {value : Text → Except Fault Text} {replace : Text → Text}

theorem eq_self (h : Replaces stretch? value replace) (hu : firstStretch stretch? u = none) :
    replace u = u := by
  induction u with
  | nil => exact h.nil
  | cons c u ih =>
    rw [firstStretch] at hu
    split at hu
    · cases hu
    · next hs => rw [h.plain c u hs, ih (Option.map_eq_none_iff.1 hu)]

theorem eq_append (h : Replaces stretch? value replace)
    (hu : firstStretch stretch? u = some (i, size)) :
    ∃ w, value ((u.drop i).take size) = .ok w ∧
      replace u = u.take i ++ w ++ replace (u.drop (i + size)) := by
  induction u generalizing i with
  | nil =>
    obtain ⟨size', hs, hu⟩ := Option.map_eq_some_iff.1 hu
    obtain ⟨rfl, rfl⟩ := Prod.mk.inj hu
    simpa using h.stretch [] size' hs
  | cons c u ih =>
    rw [firstStretch] at hu
    split at hu
    · next hs =>
      obtain ⟨rfl, rfl⟩ := Prod.mk.inj (Option.some.inj hu)
      simpa using h.stretch (c :: u) _ hs
    · next hs =>
      obtain ⟨⟨j, size'⟩, hj, hu⟩ := Option.map_eq_some_iff.1 hu
      obtain ⟨rfl, rfl⟩ := Prod.mk.inj hu
      obtain ⟨w, hw, hrest⟩ := ih hj
      refine ⟨w, hw, ?_⟩
      rw [h.plain c u hs, hrest]
      simp [Nat.add_right_comm j 1]

end Replaces

theorem Reads.substituteAt_eq (h : Reads n stretch?) {value : Text → Except Fault Text}
    {replace : Text → Text} (hr : Replaces stretch? value replace)
    (hsize : ∀ u size, stretch? u = some size → 0 < size ∧ size ≤ u.length) {fuel : Nat}
    (hi : i ≤ t.length) (hf : t.length - i < fuel) :
    substituteAt t (fun x => value (t.between x.start x.stop)) i
      (matchesFrom n groups t.toArray fuel advance i) = .ok (replace (t.drop i)) := by
  have hpos (u : Text) : stretch? u ≠ some 0 := fun hs => Nat.lt_irrefl 0 (hsize u 0 hs).1
  induction fuel generalizing advance i with
  | zero => omega
  | succ fuel ih =>
    rw [matchesFrom, List.size_toArray, if_neg (Nat.not_lt.2 hi),
      h.searchFrom?_eq (fun _ => hpos) groups (by omega)]
    cases hs : firstStretch stretch? (t.drop i) with
    | none =>
      rw [hr.eq_self hs]
      rfl
    | some js =>
      obtain ⟨j, size⟩ := js
      obtain ⟨hj, hstretch⟩ := stretch?_of_firstStretch hs
      obtain ⟨hpos', hle⟩ := hsize _ _ hstretch
      obtain ⟨w, hw, hreplace⟩ := hr.eq_append hs
      rw [List.length_drop] at hj
      simp only [List.length_drop] at hle
      have hrest : substituteAt t (fun x => value (t.between x.start x.stop)) (i + j + size)
          (matchesFrom n groups t.toArray fuel (i + j == i + j + size) (i + j + size)) =
            .ok (replace (t.drop (i + j + size))) :=
        ih (by omega) (by omega)
      rw [List.drop_drop] at hw
      simp only [Option.map_some, substituteAt, between_add, hw, ok_bind, hrest, hreplace]
      rw [List.drop_drop, Nat.add_assoc]

/-- Replacing the matches of a tree that reads stretches replaces the stretches. -/
theorem Reads.substitute_eq {p : Pattern} (h : Reads p.root stretch?)
    {value : Text → Except Fault Text} {replace : Text → Text}
    (hr : Replaces stretch? value replace)
    (hsize : ∀ u size, stretch? u = some size → 0 < size ∧ size ≤ u.length) (t : Text) :
    p.substitute t false (fun x => value (t.between x.start x.stop)) = .ok (replace t) :=
  h.substituteAt_eq hr hsize (Nat.zero_le _) (by omega)

end Textwork.Pattern
