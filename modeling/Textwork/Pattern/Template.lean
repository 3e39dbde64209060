/-
  Replacement templates: texts with references to the groups of a match.

  `\1` to `\99` and `\g<1>` refer to a group by number, `\g<name>` by name,
  `\g<0>` to the whole match; three octal digits, or a zero and up to two, give
  a character; `\n`, `\t` and the like give control characters.  Any other escape
  of a sign stands for itself, backslash included; of a letter, it is refused.  A
  group that took no part in a match is written as nothing.
-/
import Textwork.Pattern.Basic

namespace Textwork.Pattern

/-- A part of a template. -/
inductive TemplatePart where
  | literal (t : Text)
  | group (index : Nat)
  deriving DecidableEq, Repr

/-- A reference to a group, which has to exist. -/
def groupPart (p : Pattern) (i : Nat) : Except Fault TemplatePart :=
  if i ≤ p.groups then .ok (.group i) else refuse

/-- The group that the text between `<` and `>` names. -/
def namedGroup (p : Pattern) (name : Text) : Except Fault TemplatePart :=
  if isName name then
    match p.names.lookup name with
    | some i => .ok (.group i)
    | none => .error .unknownGroup
  else
    match Numeral.integer? name with
    | some n => if n < 0 then refuse else groupPart p n.toNat
    | none => refuse

/-- An escape of a template, after its backslash.  A backslash at the end is refused, also before a
    name just in front of it is looked up. -/
def templateEscape (p : Pattern) : Text → Except Fault (TemplatePart × Text)
  | [] => refuse
  | 'g' :: '<' :: rest =>
    match until? '>' rest with
    | some (_, ['\\']) => refuse
    | some (name, after) => (namedGroup p name).map (·, after)
    | none => refuse
  | '0' :: rest =>
    let more := (rest.take 2).takeWhile isOctal
    .ok (.literal [Char.ofNat (octalValue more)], rest.drop more.length)
  | c :: rest =>
    if c.isDigit then
      match rest with
      | d :: rest' =>
        if d.isDigit then
          match rest' with
          | e :: rest'' =>
            if isOctal c && isOctal d && isOctal e then
              if octalValue [c, d, e] ≤ 255 then
                .ok (.literal [Char.ofNat (octalValue [c, d, e])], rest'')
              else refuse
            else (groupPart p (Numeral.value [c, d])).map (·, rest')
          | [] => (groupPart p (Numeral.value [c, d])).map (·, [])
        else (groupPart p (Numeral.value [c])).map (·, rest)
      | [] => (groupPart p (Numeral.value [c])).map (·, [])
    else
      match controlEscape? c with
      | some x => .ok (.literal [x], rest)
      | none =>
        if c = 'b' then .ok (.literal ['\x08'], rest)
        else if c = '\\' then .ok (.literal ['\\'], rest)
        else if c.isAlpha then refuse
        else .ok (.literal ['\\', c], rest)

/-- The parts of a template; the first argument bounds their number. -/
def templateParts (p : Pattern) : Nat → Text → Except Fault (List TemplatePart)
  | 0, _ => .ok []
  | fuel + 1, t =>
    match t with
    | [] => .ok []
    | '\\' :: rest => do
      let (part, rest) ← templateEscape p rest
      let parts ← templateParts p fuel rest
      .ok (part :: parts)
    | c :: rest => do
      let parts ← templateParts p fuel rest
      .ok (.literal [c] :: parts)

/-- The parts of a whole template. -/
def template? (p : Pattern) (t : Text) : Except Fault (List TemplatePart) :=
  templateParts p (t.length + 1) t

/-- The text of a part for one match. -/
def TemplatePart.expand (subject : Text) (m : Match) : TemplatePart → Text
  | literal t => t
  | group i => (groupText? subject m i).getD []

/-- The text of a template for one match. -/
def expand (parts : List TemplatePart) (t : Text) (m : Match) : Text :=
  parts.flatMap (·.expand t m)

end Textwork.Pattern
