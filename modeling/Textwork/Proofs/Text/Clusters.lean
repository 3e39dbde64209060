/-
  The clusters of a text by position.

  * `clusters_eq_splitBy`: without carriage returns, clusters are cut by what two
    neighbours are;
  * `clusters_of_neighbours`: clusters make up the text, and where they begin is
    decided by the neighbours, so that they can be found in parts.
-/
import Textwork.Proofs.Text.Parts
import Textwork.Text.Parts

namespace Textwork.Text

variable {c : Char} {t u cluster : Text}

/-! ## All of the text -/

theorem flatten_clustersFrom (cluster : Text) (joined : Bool) (t : Text) :
    (clustersFrom cluster joined t).flatten = cluster ++ t := by
  induction t generalizing cluster joined with
  | nil => simp [clustersFrom]
  | cons c t ih =>
    rw [clustersFrom]
    split_ifs
    · rw [ih, List.append_assoc, List.singleton_append]
    · rw [List.flatten_cons, ih, List.singleton_append]

theorem flatten_clusters (t : Text) : t.clusters.flatten = t := by
  cases t with
  | nil => rfl
  | cons c t => exact flatten_clustersFrom [c] (c == joiner) t

theorem nil_notMem_clustersFrom (h : cluster ≠ []) (joined : Bool) (t : Text) :
    [] ∉ clustersFrom cluster joined t := by
  induction t generalizing cluster joined with
  | nil => simpa [clustersFrom, eq_comm] using h
  | cons c t ih =>
    rw [clustersFrom]
    split_ifs
    · exact ih (by simp) _
    · exact List.not_mem_cons_of_ne_of_not_mem h.symm (ih (by simp) _)

theorem nil_notMem_clusters (t : Text) : [] ∉ t.clusters := by
  cases t with
  | nil => exact List.not_mem_nil
  | cons c t => exact nil_notMem_clustersFrom (List.cons_ne_nil c []) _ t

/-! ## Neighbours -/

/-- Whether a character stays in the cluster of the one before it. -/
def sticks (a b : Char) : Bool := a == joiner || b == joiner || isExtending b

theorem sticks_eq_false_iff {a b : Char} :
    sticks a b = false ↔ a ≠ joiner ∧ b ≠ joiner ∧ isExtending b = false := by
  simp [sticks, and_assoc]

theorem staysIn_eq_sticks {a : Char} (h : '\r' ∉ u ++ [a]) (c : Char) :
    staysIn (u ++ [a]) (a == joiner) c = sticks a c := by
  have hne : (u ++ [a] == ['\r']) = false := by
    rw [beq_eq_false_iff_ne]
    intro heq
    simp [heq] at h
  simp [staysIn, sticks, hne]

/-- An open cluster goes on up to the first neighbours that do not stick together. -/
theorem clustersFrom_eq_splitBy {a : Char} (hr : '\r' ∉ u ++ [a] ++ t)
    (h : (u ++ [a]).IsChain fun a b => sticks a b) :
    clustersFrom (u ++ [a]) (a == joiner) t = (u ++ [a] ++ t).splitBy sticks := by
  induction t generalizing u a with
  | nil =>
    rw [List.append_nil, List.splitBy_of_isChain (by simp) h]
    rfl
  | cons c t ih =>
    have hu : '\r' ∉ u ++ [a] := fun hmem => hr (List.mem_append_left _ hmem)
    rw [clustersFrom, staysIn_eq_sticks hu]
    split_ifs with hc
    · have hchain : (u ++ [a] ++ [c]).IsChain fun a b => sticks a b :=
        List.isChain_append.2 ⟨h, List.isChain_singleton c, by simpa using hc⟩
      rw [ih (by simpa using hr) hchain, List.append_assoc _ [c], List.singleton_append]
    · have hsplit := List.splitBy_append_cons (r := sticks) (l := u ++ [a]) (a := c) t
        (by simpa using hc)
      have hrest : '\r' ∉ [] ++ [c] ++ t := fun hmem => hr (List.mem_append_right _ hmem)
      rw [hsplit, List.splitBy_of_isChain (by simp) h]
      exact congrArg _ (ih hrest (List.isChain_singleton c))

theorem clusters_eq_splitBy (hr : '\r' ∉ t) : t.clusters = t.splitBy sticks := by
  cases t with
  | nil => rfl
  | cons c t => exact clustersFrom_eq_splitBy (u := []) hr (List.isChain_singleton c)

theorem clusters_append (ht : '\r' ∉ t) (hu : '\r' ∉ u) (hlast : t.getLast? ≠ some joiner)
    (hfirst : ∀ c ∈ u.head?, c ≠ joiner ∧ isExtending c = false) :
    (t ++ u).clusters = t.clusters ++ u.clusters := by
  have htu : '\r' ∉ t ++ u := List.not_mem_append ht hu
  rw [clusters_eq_splitBy ht, clusters_eq_splitBy hu, clusters_eq_splitBy htu]
  refine List.splitBy_append fun a ha b hb => sticks_eq_false_iff.2 ⟨?_, hfirst b hb⟩
  rintro rfl
  exact hlast ha

/-- **The clusters make up the text, and neighbours decide where they begin.**  So, in texts without
    carriage returns, a text of its own begins where a cluster does. -/
theorem clusters_of_neighbours :
    (∀ t : Text, [] ∉ t.clusters ∧ t.clusters.flatten = t) ∧
    (∀ t : Text, '\r' ∉ t → ∀ i a b, t[i]? = some a → t[i + 1]? = some b →
      (StartsAt t.clusters (i + 1) ↔ a ≠ joiner ∧ b ≠ joiner ∧ isExtending b = false)) ∧
    ∀ t u : Text, '\r' ∉ t → '\r' ∉ u → t.getLast? ≠ some joiner →
      (∀ c ∈ u.head?, c ≠ joiner ∧ isExtending c = false) →
      (t ++ u).clusters = t.clusters ++ u.clusters := by
  refine ⟨fun t => ⟨nil_notMem_clusters t, flatten_clusters t⟩, fun t hr i a b ha hb => ?_,
    fun t u => clusters_append⟩
  rw [clusters_eq_splitBy hr, startsAt_splitBy ha hb, sticks_eq_false_iff]

/-- An accent and a joiner do not begin a cluster, nor does what follows the joiner. -/
theorem clusters_of_neighbours_accent :
    '\r' ∉ ['e', '\u0301', 'x'] ∧ '\r' ∉ ['y', joiner, 'z'] ∧
      ¬StartsAt (clusters ['e', '\u0301', 'x']) 1 ∧ StartsAt (clusters ['e', '\u0301', 'x']) 2 ∧
      ¬StartsAt (clusters ['y', joiner, 'z']) 2 ∧
      clusters ['e', '\u0301', 'x', 'y', joiner, 'z'] =
        clusters ['e', '\u0301', 'x'] ++ clusters ['y', joiner, 'z'] := by
  obtain ⟨-, hstarts, happend⟩ := clusters_of_neighbours
  have hleft : '\r' ∉ ['e', '\u0301', 'x'] := by decide
  have hright : '\r' ∉ ['y', joiner, 'z'] := by decide
  refine ⟨hleft, hright, fun h => ?_, (hstarts _ hleft 1 _ _ rfl rfl).2 (by decide), fun h => ?_,
    happend ['e', '\u0301', 'x'] ['y', joiner, 'z'] hleft hright (by decide) ?_⟩
  · exact absurd ((hstarts _ hleft 0 _ _ rfl rfl).1 h).2.2 (by decide)
  · exact ((hstarts _ hright 1 _ _ rfl rfl).1 h).1 rfl
  · intro c hc
    obtain rfl : 'y' = c := by simpa using hc
    decide

end Textwork.Text
