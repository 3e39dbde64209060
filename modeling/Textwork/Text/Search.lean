/-
  Occurrences of one text in another.

  * `cut?` splits a text at the first occurrence of a needle; `cut?_eq_some`
    says that the two parts and the needle make the text;
  * `find?` and `findLast?` give the first and the last position, `indexOf` and
    `lastIndexOf` do so from or up to a position, with `-1` for none;
  * `pieces`, `occurrences`, `replaceAll` and `replaceFirst` go by the
    occurrences from left to right that do not overlap.
-/
import Textwork.Text.Basic

namespace Textwork.Text

/-! ## One occurrence -/

/-- The parts before and after the first occurrence of `needle`. -/
def cut? (needle : Text) : Text → Option (Text × Text)
  | [] => if needle.isEmpty then some ([], []) else none
  | c :: rest =>
    if needle.isPrefixOf (c :: rest) then some ([], (c :: rest).drop needle.length)
    else (cut? needle rest).map fun (before, after) => (c :: before, after)

/-- The parts around an occurrence make up the text. -/
theorem cut?_eq_some {needle t before after : Text} (h : cut? needle t = some (before, after)) :
    t = before ++ needle ++ after := by
  induction t generalizing before after with
  | nil =>
    simp only [cut?, List.isEmpty_iff] at h
    split at h
    · simp_all
    · simp at h
  | cons c rest ih =>
    simp only [cut?] at h
    split at h
    · next hp =>
      simp only [Option.some.injEq, Prod.mk.injEq] at h
      obtain ⟨rfl, rfl⟩ := h
      simpa using (List.prefix_iff_eq_append.mp (List.isPrefixOf_iff_prefix.mp hp)).symm
    · obtain ⟨⟨b, a⟩, hc, he⟩ := Option.map_eq_some_iff.mp h
      simp only [Prod.mk.injEq] at he
      obtain ⟨rfl, rfl⟩ := he
      simp [ih hc]

/-- What follows an occurrence of a needle that is not empty is shorter than the text. -/
theorem length_after_lt {needle t before after : Text} (hn : needle ≠ [])
    (h : cut? needle t = some (before, after)) : after.length < t.length := by
  have ht := congrArg List.length (cut?_eq_some h)
  have := List.length_pos_iff.mpr hn
  simp only [List.length_append] at ht
  omega

/-- The position of the first occurrence. -/
def find? (needle t : Text) : Option Nat := (cut? needle t).map fun (before, _) => before.length

/-- The position of the last occurrence. -/
def findLast? (needle : Text) : Text → Option Nat
  | [] => if needle.isEmpty then some 0 else none
  | c :: rest =>
    match findLast? needle rest with
    | some i => some (i + 1)
    | none => if needle.isPrefixOf (c :: rest) then some 0 else none

/-- Whether the needle occurs. -/
def occurs (needle t : Text) : Bool := (cut? needle t).isSome

/-! ## Positions -/

/-- A position as an integer, `-1` standing for none. -/
def orMinusOne : Option Nat → Int
  | some i => i
  | none => -1

/-- The first position from `start` on at which the needle occurs, or `-1`. -/
def indexOf (t needle : Text) (start : Int) : Int :=
  if t.length < start.toNat then -1
  else orMinusOne ((find? needle (t.drop start.toNat)).map (· + start.toNat))

/-- The last position, up to `stop` if given, at which the needle occurs, or `-1`. -/
def lastIndexOf (t needle : Text) (stop : Option Int) : Int :=
  match stop with
  | none => orMinusOne (findLast? needle t)
  | some k => orMinusOne (findLast? needle (t.take (k.toNat + needle.length)))

/-- Whether the needle occurs in the text from `start` on. -/
def includes (t needle : Text) (start : Int) : Bool := occurs needle (t.drop start.toNat)

/-- Whether the text has the needle at position `start`. -/
def startsWith (t needle : Text) (start : Int) : Bool :=
  start.toNat ≤ t.length && needle.isPrefixOf (t.drop start.toNat)

/-- Whether the first `stop` characters of the text, or all of it, end with the needle. -/
def endsWith (t needle : Text) (stop : Option Int) : Bool :=
  match stop with
  | none => needle.isSuffixOf t
  | some k => needle.isSuffixOf (t.take k.toNat)

/-! ## All occurrences -/

/-- The stretches of text between the occurrences of the needle.  An empty needle cuts nothing. -/
def pieces (needle t : Text) : List Text :=
  if hn : needle = [] then [t]
  else
    match h : cut? needle t with
    | none => [t]
    | some (before, after) =>
      have := length_after_lt hn h
      before :: pieces needle after
termination_by t.length

/-- The number of occurrences of the needle.  An empty needle has none. -/
def occurrences (needle t : Text) : Nat :=
  if hn : needle = [] then 0
  else
    match h : cut? needle t with
    | none => 0
    | some (_, after) =>
      have := length_after_lt hn h
      occurrences needle after + 1
termination_by t.length

/-- The text with every occurrence of the needle replaced.  An empty needle changes nothing. -/
def replaceAll (needle replacement t : Text) : Text :=
  if hn : needle = [] then t
  else
    match h : cut? needle t with
    | none => t
    | some (before, after) =>
      have := length_after_lt hn h
      before ++ replacement ++ replaceAll needle replacement after
termination_by t.length

/-- The text with the first occurrence of the needle replaced. -/
def replaceFirst (needle replacement t : Text) : Text :=
  match cut? needle t with
  | none => t
  | some (before, after) => before ++ replacement ++ after

end Textwork.Text
