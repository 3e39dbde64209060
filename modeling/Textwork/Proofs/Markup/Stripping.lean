/-
  Tags removed from a text, with a list of those to keep.

  * `ListsTags`: the ways to list the tags to keep for more than one call, and
    `Keeps`: the tags that all calls keep;
  * `stripTags_stripTags`: a second pass changes nothing;
  * `stripTags_anglesSpaced`: no tag opener survives, and a text without one is
    left as it is.
-/
import Textwork.Catalogue.Layout
import Textwork.Proofs.Markup.Settled
import Textwork.Proofs.Unicode.Ascii

namespace Textwork

/-! ## Names of letters and digits -/

theorem isAlphanum_toLower {c : Char} (hc : c.isAlphanum = true) : c.toLower.isAlphanum = true :=
  isAlphanum_ascii (P := fun c => c.toLower.isAlphanum = true) (by decide) hc

namespace Text

theorem isAlphanum_asciiLower {t : Text} (h : ∀ c ∈ t, c.isAlphanum = true) :
    ∀ c ∈ t.asciiLower, c.isAlphanum = true := by
  intro d hd
  obtain ⟨c, hc, rfl⟩ := List.mem_map.1 hd
  exact isAlphanum_toLower (h c hc)

theorem isAlphanum_lower {t : Text} (h : ∀ c ∈ t, c.isAlphanum = true) :
    ∀ c ∈ t.lower, c.isAlphanum = true := by
  rw [lower_ascii fun c hc => toNat_lt_of_isAlphanum (h c hc)]
  exact isAlphanum_asciiLower h

end Text

namespace Markup

theorem isAlphanum_tagNamesFrom (t : Text) :
    ∀ open? : Option Text, (∀ name ∈ open?, ∀ c ∈ name, c.isAlphanum = true) →
      ∀ name ∈ tagNamesFrom open? t, ∀ c ∈ name, c.isAlphanum = true := by
  induction t with
  | nil => simp [tagNamesFrom]
  | cons c rest ih =>
    intro open? ho
    have hnone := ih none (by simp)
    have hopen := ih (some []) (by simp)
    cases open? with
    | none =>
      rw [tagNamesFrom]
      split_ifs
      · exact hopen
      · exact hnone
    | some word =>
      have hword : ∀ d ∈ word, d.isAlphanum = true := ho word rfl
      rw [tagNamesFrom]
      split_ifs with hl hg he hc
      · exact hopen
      · exact hnone
      · intro name hname
        rcases List.mem_cons.1 hname with rfl | hname
        · exact Text.isAlphanum_asciiLower fun d hd => hword d (List.mem_reverse.1 hd)
        · exact hnone name hname
      · exact ih (some (c :: word)) (by simpa [hc] using hword)
      · exact hnone

theorem isAlphanum_tagNames (t : Text) :
    ∀ name ∈ tagNames t, ∀ c ∈ name, c.isAlphanum = true :=
  isAlphanum_tagNamesFrom t none (by simp)

end Markup

/-! ## Lists of tags -/

namespace Catalogue

open Markup

/-- The ways to list the tags to keep: not at all, in a text such as `<a><b>`, or one by one as
    names of ASCII letters and digits, in a sequence that can be walked through again. -/
inductive ListsTags : Value → Prop
  | nothing : ListsTags .nothing
  | text (t : Text) : ListsTags (.text t)
  | names {v : Value} {names : List Text} (hv : v.items? = some (names.map .text))
      (hn : ∀ name ∈ names, ∀ c ∈ name, c.isAlphanum = true) (hagain : v.unread = v) : ListsTags v

/-- All calls that are given the value keep the tags of these names: no call uses it up. -/
structure Keeps (kept : Value) (names : List Text) : Prop where
  names_eq : keptTags kept = .ok names
  unread_eq : kept.unread = kept

theorem toText_text (t : Text) : (Value.text t).toText = .ok t := rfl

theorem mapM_toText_lower (names : List Text) :
    (names.map Value.text).mapM (fun tag => tag.toText.map Text.lower) =
      (.ok (names.map Text.lower) : Except Fault (List Text)) := by
  induction names with
  | nil => rfl
  | cons name names ih =>
    rw [List.map_cons, List.mapM_cons, ih]
    rfl

theorem exists_keeps {v : Value} (h : ListsTags v) :
    ∃ names, Keeps v names ∧ ∀ name ∈ names, ∀ c ∈ name, c.isAlphanum = true := by
  cases h with
  | nothing => exact ⟨[], ⟨rfl, rfl⟩, by simp⟩
  | text t => exact ⟨_, ⟨rfl, rfl⟩, isAlphanum_tagNames t⟩
  | @names _ names hv hn hagain =>
    have hitems : v.items = .ok (names.map .text) := by rw [Value.items, hv]
    have hlower : ∀ name ∈ names.map Text.lower, ∀ c ∈ name, c.isAlphanum = true := by
      intro name hname
      obtain ⟨name', h', rfl⟩ := List.mem_map.1 hname
      exact Text.isAlphanum_lower (hn name' h')
    cases v with
    | nothing => cases hv
    | text t => exact ⟨_, ⟨rfl, hagain⟩, isAlphanum_tagNames t⟩
    | _ =>
      refine ⟨names.map Text.lower, ⟨?_, hagain⟩, hlower⟩
      rw [keptTags, hitems]
      · exact mapM_toText_lower names
      · nofun
      · nofun

/-! ## Removal -/

theorem stripTags_text {kept : Value} {names : List Text} (hk : keptTags kept = .ok names)
    {replacement : Value} {fill : Text} (hr : replacement.toText = .ok fill) (t : Text) :
    stripTags (.text t) kept replacement = .ok (.text (removeTags ⟨names, fill⟩ t)) := by
  unfold stripTags
  rw [toText_text, hk, hr]
  cases t <;> rfl

/-- **A second pass with the same list finds nothing left to remove**, and without a replacement
    nothing is written that was not read. -/
theorem stripTags_stripTags {kept : Value} (hk : ListsTags kept) {replacement : Text}
    (hr : '<' ∉ replacement) (t second : Text) :
    ∃ u, stripTags (.text t) kept (.text replacement) = .ok (.text u) ∧
      stripTags (.text u) kept (.text second) = .ok (.text u) ∧
      (replacement = [] → u.Sublist t) := by
  obtain ⟨names, hkeeps, halnum⟩ := exists_keeps hk
  have hnames := hkeeps.names_eq
  have hsafe : Policy.Safe ⟨names, replacement⟩ := ⟨hr, halnum⟩
  refine ⟨_, stripTags_text hnames (toText_text _) t, ?_, fun hempty => ?_⟩
  · rw [stripTags_text hnames (toText_text _), removeTags,
      scan_settled (p := ⟨names, second⟩) (settled_removeTags hsafe t)]
  · exact sublist_scan (p := ⟨names, replacement⟩) hempty t [] .initial
      (State.coherent_initial _ t)

/-- A tag inside a tag, with another tag kept. -/
theorem stripTags_nested :
    ListsTags (.list [.text ['b']]) ∧ '<' ∉ ['*'] ∧
      ∃ u, stripTags (.text "<b>1</b><scr<script>ipt>".toList) (.list [.text ['b']])
          (.text ['*']) = .ok (.text u) ∧
        stripTags (.text u) (.list [.text ['b']]) (.text []) = .ok (.text u) := by
  have hk : ListsTags (.list ([['b']].map .text)) := .names rfl (by simp) rfl
  have hr : '<' ∉ ['*'] := by decide
  obtain ⟨u, hu, hu', -⟩ := stripTags_stripTags hk hr "<b>1</b><scr<script>ipt>".toList []
  exact ⟨hk, hr, u, hu, hu'⟩

/-- A list that can be walked through once is used up by the first pass: the second one keeps no
    tag. -/
theorem stripTags_usedUp :
    let kept : Value := .iterator [.text ['b']]
    kept.items? = some ([['b']].map .text) ∧
      stripTags (.text "<b>x</b>".toList) kept (.text []) = .ok (.text "<b>x</b>".toList) ∧
      stripTags (.text "<b>x</b>".toList) kept.unread (.text []) = .ok (.text ['x']) :=
  ⟨rfl, rfl, rfl⟩

/-- **No tag opener survives, and a text without one is left as it is.** -/
theorem stripTags_anglesSpaced :
    (∀ t replacement : Text, '<' ∉ replacement →
      ∃ u, stripTags (.text t) .nothing (.text replacement) = .ok (.text u) ∧ AnglesSpaced u) ∧
    (∀ t : Text, AnglesSpaced t → ∀ (kept : Value) (names : List Text) (replacement : Value)
      (fill : Text), keptTags kept = .ok names → replacement.toText = .ok fill →
      stripTags (.text t) kept replacement = .ok (.text t)) := by
  constructor
  · intro t replacement hr
    have hsafe : Policy.Safe ⟨[], replacement⟩ := ⟨hr, by simp⟩
    exact ⟨_, stripTags_text rfl (toText_text _) t, (settled_removeTags hsafe t).anglesSpaced⟩
  · intro t ht kept names replacement fill hk hr
    rw [stripTags_text hk hr, removeTags_of_anglesSpaced _ ht]

/-- A comparison is no tag. -/
theorem stripTags_comparison :
    '<' ∉ ['*'] ∧ AnglesSpaced "1 < 2".toList ∧
      (∃ u, stripTags (.text "1 < 2<3".toList) .nothing (.text ['*']) = .ok (.text u) ∧
        AnglesSpaced u) ∧
      stripTags (.text "1 < 2".toList) (.text "<b>".toList) (.text ['*']) =
        .ok (.text "1 < 2".toList) := by
  have hr : '<' ∉ ['*'] := by decide
  have ht : AnglesSpaced "1 < 2".toList := by decide
  exact ⟨hr, ht, stripTags_anglesSpaced.1 _ _ hr,
    stripTags_anglesSpaced.2 _ ht _ _ _ _ rfl rfl⟩

end Catalogue

end Textwork
