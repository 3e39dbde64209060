/-
  Clusters in another order.

  * `StandsAlone`: a text to which nothing sticks, whatever it is put next to;
  * `clusters_flatten`: clusters that stand alone stay clusters in any order;
  * `clusters_reverseClusters`: so they do in reverse order, in texts without
    carriage returns that stand alone.
-/
import Textwork.Proofs.Text.Clusters

namespace Textwork.Text

variable {t p : Text} {ps : List Text}

/-! ## Standing alone -/

/-- The text begins with a character that sticks to none before it, and does not end with a
    joiner. -/
def StandsAlone (t : Text) : Prop :=
  (∀ c ∈ t.head?, c ≠ joiner ∧ isExtending c = false) ∧ t.getLast? ≠ some joiner

theorem StandsAlone.not_sticks {p q : Text} (hp : StandsAlone p) (hq : StandsAlone q) (hpn : p ≠ [])
    (hqn : q ≠ []) : sticks (p.getLast hpn) (q.head hqn) = false := by
  refine sticks_eq_false_iff.2 ⟨fun h => hp.2 ?_, hq.1 _ (List.head?_eq_some_head hqn)⟩
  rw [List.getLast?_eq_some_getLast hpn, h]

/-- Each cluster of a text that stands alone does so: its ends lie next to another cluster, or are
    ends of the text. -/
theorem standsAlone_of_mem_clusters (hr : '\r' ∉ t) (h : StandsAlone t) (hp : p ∈ t.clusters) :
    StandsAlone p := by
  have hpn : p ≠ [] := fun hnil => nil_notMem_clusters t (hnil ▸ hp)
  have hflat := flatten_clusters t
  have hchain := List.isChain_getLast_head_splitBy sticks t
  rw [← clusters_eq_splitBy hr] at hchain
  obtain ⟨before, after, hparts⟩ := List.append_of_mem hp
  rw [hparts] at hflat hchain
  rw [List.flatten_append, List.flatten_cons] at hflat
  obtain ⟨-, hright, hleft⟩ := List.isChain_append.1 hchain
  constructor
  · rcases List.eq_nil_or_concat' before with rfl | ⟨init, last, rfl⟩
    · rw [← hflat, List.flatten_nil, List.nil_append] at h
      rw [← List.head?_append_of_ne_nil p hpn]
      exact h.1
    · obtain ⟨_, _, hsticks⟩ := hleft last (by simp) p (by simp)
      intro c hc
      rw [← List.head_of_head?_eq_some hc]
      exact (sticks_eq_false_iff.1 hsticks).2
  · cases after with
    | nil =>
      rw [← hflat, List.flatten_nil, List.append_nil] at h
      rw [← List.getLast?_append_of_ne_nil before.flatten hpn]
      exact h.2
    | cons q after =>
      obtain ⟨_, _, hsticks⟩ := (List.isChain_cons_cons.1 hright).1
      exact fun hlast =>
        (sticks_eq_false_iff.1 hsticks).1 (List.getLast_of_getLast?_eq_some hlast)

/-! ## Any order -/

/-- Texts that stand alone, each of them one cluster, are the clusters of what they make up. -/
theorem clusters_flatten (hone : ∀ p ∈ ps, p ≠ [] ∧ '\r' ∉ p ∧ p.IsChain fun a b => sticks a b)
    (halone : ∀ p ∈ ps, StandsAlone p) : clusters ps.flatten = ps := by
  have hr : '\r' ∉ ps.flatten := fun h => by
    obtain ⟨p, hp, hmem⟩ := List.mem_flatten.1 h
    exact (hone p hp).2.1 hmem
  rw [clusters_eq_splitBy hr]
  refine List.splitBy_flatten (fun h => (hone [] h).1 rfl) (fun p hp => (hone p hp).2.2) ?_
  refine (List.pairwise_of_forall_mem_list fun p hp q hq => ?_).isChain
  exact ⟨(hone p hp).1, (hone q hq).1, (halone p hp).not_sticks (halone q hq) _ _⟩

theorem clusters_reverse (hr : '\r' ∉ t) (h : StandsAlone t) :
    t.reverseClusters.clusters = t.clusters.reverse := by
  refine clusters_flatten (fun p hp => ?_) fun p hp => ?_
  · have hmem : p ∈ t.clusters := List.mem_reverse.1 hp
    refine ⟨fun hnil => nil_notMem_clusters t (hnil ▸ hmem), fun hreturn => hr ?_, ?_⟩
    · rw [← flatten_clusters t]
      exact List.mem_flatten_of_mem hmem hreturn
    · rw [clusters_eq_splitBy hr] at hmem
      exact List.isChain_of_mem_splitBy hmem
  · exact standsAlone_of_mem_clusters hr h (List.mem_reverse.1 hp)

/-- **Reversing the clusters keeps them whole.**  So reversing them twice gives the text, and their
    number stays. -/
theorem clusters_reverseClusters (hr : '\r' ∉ t)
    (hfirst : ∀ c ∈ t.head?, c ≠ joiner ∧ isExtending c = false)
    (hlast : t.getLast? ≠ some joiner) :
    t.reverseClusters.clusters = t.clusters.reverse ∧ t.reverseClusters.reverseClusters = t ∧
      t.reverseClusters.clusters.length = t.clusters.length := by
  have hclusters := clusters_reverse hr ⟨hfirst, hlast⟩
  refine ⟨hclusters, ?_, ?_⟩
  · calc t.reverseClusters.reverseClusters
        = t.reverseClusters.clusters.reverse.flatten := rfl
      _ = t.clusters.flatten := by rw [hclusters, List.reverse_reverse]
      _ = t := flatten_clusters t
  · rw [hclusters, List.length_reverse]

/-- An accent, and a joiner between two letters. -/
theorem clusters_reverseClusters_joined :
    '\r' ∉ ['e', '\u0301', 'y', joiner, 'z', 'x'] ∧
      (∀ c ∈ ['e', '\u0301', 'y', joiner, 'z', 'x'].head?, c ≠ joiner ∧ isExtending c = false) ∧
      ['e', '\u0301', 'y', joiner, 'z', 'x'].getLast? ≠ some joiner ∧
      clusters (reverseClusters ['e', '\u0301', 'y', joiner, 'z', 'x']) =
        [['x'], ['y', joiner, 'z'], ['e', '\u0301']] := by
  have hreturn : '\r' ∉ ['e', '\u0301', 'y', joiner, 'z', 'x'] := by decide
  have hfirst : ∀ c ∈ ['e', '\u0301', 'y', joiner, 'z', 'x'].head?,
      c ≠ joiner ∧ isExtending c = false := by
    intro c hc
    obtain rfl := Option.some.inj hc
    decide
  have hlast : ['e', '\u0301', 'y', joiner, 'z', 'x'].getLast? ≠ some joiner := by decide
  have hclusters : clusters ['e', '\u0301', 'y', joiner, 'z', 'x'] =
      [['e', '\u0301'], ['y', joiner, 'z'], ['x']] := by decide
  refine ⟨hreturn, hfirst, hlast, ?_⟩
  rw [(clusters_reverseClusters hreturn hfirst hlast).1, hclusters]
  rfl

end Textwork.Text
