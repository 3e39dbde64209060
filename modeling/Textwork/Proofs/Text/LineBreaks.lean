/-
  A carriage return and a line feed in the clusters of a text.

  * `clustersFrom_append`: what follows a text changes none of its clusters but
    the last, which it goes on with;
  * `inOne_clusters_lineBreak`: the pair lies in one cluster, unless a joiner
    stands before it.
-/
import Textwork.Proofs.Text.Clusters

namespace Textwork.Text

variable {t u : Text} {i : Nat}

/-! ## The open cluster -/

theorem exists_clustersFrom (cluster : Text) (joined : Bool) (t : Text) :
    ∃ w ws, clustersFrom cluster joined t = (cluster ++ w) :: ws := by
  induction t generalizing cluster joined with
  | nil => exact ⟨[], [], by rw [clustersFrom, List.append_nil]⟩
  | cons c t ih =>
    rw [clustersFrom]
    split_ifs
    · obtain ⟨w, ws, h⟩ := ih (cluster ++ [c]) (c == joiner)
      exact ⟨c :: w, ws, by rw [h, List.append_assoc, List.singleton_append]⟩
    · exact ⟨[], _, by rw [List.append_nil]⟩

/-- Behind `u` one cluster is open, and what its last character is decides whether a joiner has just
    been met. -/
theorem clustersFrom_append (w : Text) (a : Char) (u : Text) :
    ∃ before cluster, cluster ≠ [] ∧ ∀ v, clustersFrom (w ++ [a]) (a == joiner) (u ++ v) =
      before ++ clustersFrom cluster ((a :: u).getLast? == some joiner) v := by
  induction u generalizing w a with
  | nil => exact ⟨[], w ++ [a], by simp, fun v => by simp⟩
  | cons c u ih =>
    by_cases hc : staysIn (w ++ [a]) (a == joiner) c = true
    · obtain ⟨before, cluster, hne, h⟩ := ih (w ++ [a]) c
      refine ⟨before, cluster, hne, fun v => ?_⟩
      rw [List.cons_append, clustersFrom, if_pos hc, h, List.getLast?_cons_cons]
    · obtain ⟨before, cluster, hne, h⟩ := ih [] c
      refine ⟨(w ++ [a]) :: before, cluster, hne, fun v => ?_⟩
      have hv := h v
      rw [List.nil_append] at hv
      rw [List.cons_append, clustersFrom, if_neg hc, hv, List.getLast?_cons_cons,
        List.cons_append]

theorem clusters_append_open (hu : u ≠ []) :
    ∃ before cluster, cluster ≠ [] ∧ before.flatten ++ cluster = u ∧
      ∀ v, (u ++ v).clusters = before ++ clustersFrom cluster (u.getLast? == some joiner) v := by
  obtain ⟨a, u, rfl⟩ := List.exists_cons_of_ne_nil hu
  obtain ⟨before, cluster, hne, h⟩ := clustersFrom_append [] a u
  refine ⟨before, cluster, hne, ?_, h⟩
  have hall : clusters (a :: u ++ []) = before ++ [cluster] := h []
  have hflat := flatten_clusters (a :: u ++ [])
  rw [hall] at hflat
  simpa using hflat

/-! ## The pair -/

theorem staysIn_return (cluster : Text) (joined : Bool) : staysIn cluster joined '\r' = joined := by
  have hreturn : isExtending '\r' = false := by decide
  simp [staysIn, hreturn, joiner]

/-- A line feed stays with nothing but a carriage return that is alone. -/
theorem staysIn_lineFeed (cluster : Text) :
    staysIn cluster false '\n' = (cluster == ['\r']) := by
  have hfeed : isExtending '\n' = false := by decide
  simp [staysIn, hfeed, joiner]

/-- Not behind a joiner, the pair is the beginning of a cluster. -/
theorem exists_clusters_lineBreak (hu : u.getLast? ≠ some joiner) (v : Text) :
    ∃ before w ws, before.flatten = u ∧
      (u ++ '\r' :: '\n' :: v).clusters = before ++ ('\r' :: '\n' :: w) :: ws := by
  obtain ⟨w, ws, hpair⟩ := exists_clustersFrom ['\r', '\n'] false v
  have hfeed : clustersFrom ['\r'] false ('\n' :: v) = ('\r' :: '\n' :: w) :: ws := by
    rw [clustersFrom, staysIn_lineFeed]
    exact hpair
  rcases eq_or_ne u [] with rfl | hne
  · exact ⟨[], w, ws, rfl, hfeed⟩
  · obtain ⟨before, cluster, -, hflat, h⟩ := clusters_append_open hne
    refine ⟨before ++ [cluster], w, ws, by simpa using hflat, ?_⟩
    have hlast : (u.getLast? == some joiner) = false := by simpa using hu
    rw [h, hlast, clustersFrom, staysIn_return, if_neg Bool.false_ne_true,
      show ('\r' == joiner) = false from rfl, hfeed, List.append_cons]

/-- Behind a joiner, the carriage return ends a cluster and the line feed begins one. -/
theorem startsAt_lineFeed (hu : u.getLast? = some joiner) (v : Text) :
    StartsAt (u ++ '\r' :: '\n' :: v).clusters (u.length + 1) := by
  have hne : u ≠ [] := by
    rintro rfl
    cases hu
  obtain ⟨before, cluster, hcluster, hflat, h⟩ := clusters_append_open hne
  obtain ⟨w, ws, hfeed⟩ := exists_clustersFrom ['\n'] false v
  refine ⟨before ++ [cluster ++ ['\r']], ['\n'] ++ w, ws, ?_, ?_⟩
  · have halone : (cluster ++ ['\r'] == ['\r']) = false := by simpa using hcluster
    rw [h, hu, beq_self_eq_true, clustersFrom, staysIn_return, if_pos rfl,
      show ('\r' == joiner) = false from rfl, clustersFrom, staysIn_lineFeed, halone,
      if_neg Bool.false_ne_true, show ('\n' == joiner) = false from rfl, hfeed]
    simp
  · rw [← hflat]
    simp [Nat.add_assoc]

/-- **A carriage return and the line feed behind it lie in one cluster, unless a joiner stands
    before them.** -/
theorem inOne_clusters_lineBreak (hr : t[i]? = some '\r') (hn : t[i + 1]? = some '\n') :
    InOne t.clusters i (i + 1) ↔ i = 0 ∨ t[i - 1]? ≠ some joiner := by
  obtain ⟨u, v, rfl, rfl⟩ := exists_neighbours hr hn
  have hbefore : u.length = 0 ∨ ((u ++ ['\r']) ++ '\n' :: v)[u.length - 1]? ≠ some joiner ↔
      u.getLast? ≠ some joiner := by
    rcases eq_or_ne u [] with rfl | hne
    · simp
    · have hpos := List.length_pos_iff.2 hne
      rw [List.append_assoc, List.getElem?_append_left (by omega), ← List.getLast?_eq_getElem?]
      simp [hne]
  rw [hbefore, ← List.append_cons]
  constructor
  · intro hin hu
    exact (startsAt_lineFeed hu v).not_inOne (Nat.lt_succ_self _) hin
  · intro hu
    obtain ⟨before, w, ws, rfl, hclusters⟩ := exists_clusters_lineBreak hu v
    rw [hclusters]
    exact ⟨before, _, ws, rfl, Nat.le_refl _, by simp⟩

/-- Behind an accent and another carriage return. -/
theorem inOne_clusters_lineBreak_return :
    ['e', '\u0301', '\r', '\r', '\n'][3]? = some '\r' ∧
      ['e', '\u0301', '\r', '\r', '\n'][3 + 1]? = some '\n' ∧
      InOne (clusters ['e', '\u0301', '\r', '\r', '\n']) 3 4 :=
  ⟨rfl, rfl, (inOne_clusters_lineBreak rfl rfl).2 (.inr (by decide))⟩

/-- Behind a joiner the carriage return is not alone. -/
theorem lineBreak_cut_behind_joiner :
    [joiner, '\r', '\n'][1]? = some '\r' ∧ [joiner, '\r', '\n'][1 + 1]? = some '\n' ∧
      ¬InOne (clusters [joiner, '\r', '\n']) 1 (1 + 1) :=
  ⟨rfl, rfl, fun h => absurd h ((startsAt_lineFeed (u := [joiner]) rfl []).not_inOne (by decide))⟩

end Textwork.Text
