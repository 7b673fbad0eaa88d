import ServiceScript.Pattern.CharSet
import ServiceScript.Text.Alphanumeric

/-!
# ServiceScript — reading patterns

The notation has no braces: a pattern stands between braces itself, and the first
one that closes would be its end. So parts are repeated by the signs `?`, `*` and
`+` alone.

Main definitions:

* `Pattern.opening?` — reading what a group begins with;
* `Pattern.branches?` — reading the branches of a group;
* `Pattern.parse?` — reading a pattern.
-/

namespace ServiceScript.Pattern

-- ---------------------------------------------------------------------------
-- Groups
-- ---------------------------------------------------------------------------

/-- What stands behind an opening parenthesis. -/
inductive Opening where
  | flags (change : FlagChange)
  | group (name : Option Text) (change : FlagChange)

/-- The letters of the flags. -/
def flagLetters : Text := "imsUuRx"

/-- The change that a row of letters asks for: those behind a dash are cleared.
No letter is there twice, and one at least stands behind a dash. -/
def flagChange? (t : Text) : Option FlagChange :=
  let (on, dashed) := match splitFirst '-' t with
    | some (on, off) => (on, some off)
    | none => (t, none)
  let letters := on ++ dashed.getD []
  if dashed ≠ some [] ∧ letters.all flagLetters.contains ∧ letters.Nodup then
    some ⟨on, dashed.getD []⟩
  else none

/-- Whether a group can have a name. -/
def isGroupName : Text → Bool
  | [] => false
  | c :: rest => (c = '_' || isAlphabetic c) &&
    rest.all fun c => ("_.[]" : Text).contains c || isAlphanumeric c

/-- Reads the name of a group up to a closing angle bracket. -/
def groupName? (t : Text) : Option (Opening × Text) :=
  (splitFirst '>' t).bind fun (name, rest) =>
    if isGroupName name then some (.group (some name) .none, rest) else none

/-- Reads what a group begins with: a name or flags behind a question mark, or
nothing. Flags with no colon behind them are not the beginning of a group. -/
def opening? : Text → Option (Opening × Text)
  | '?' :: 'P' :: '<' :: rest => groupName? rest
  | '?' :: '<' :: rest => groupName? rest
  | '?' :: rest =>
    match rest.span fun c => c ≠ ':' ∧ c ≠ ')' with
    | (letters, ':' :: rest) =>
      (flagChange? letters).map fun change => (.group none change, rest)
    | (letters, _ :: rest) =>
      if letters = [] then none
      else (flagChange? letters).map fun change => (.flags change, rest)
    | (_, []) => none
  | rest => some (.group none .none, rest)

-- ---------------------------------------------------------------------------
-- Parts
-- ---------------------------------------------------------------------------

/-- Reads a part that has no parts. -/
def atom? (spaced : Bool) : Text → Option (Atom × Text)
  | [] => none
  | '\\' :: rest => escape? spaced rest
  | '.' :: rest => some (.any, rest)
  | '^' :: rest => some (.edge, rest)
  | '$' :: rest => some (.edge, rest)
  | '\x7b' :: _ => none
  | c :: rest => some (.char c false, rest)

/-- The signs behind a part that is repeated. -/
def repetitionSigns : Text := "?*+"

/-- Repeats the last of the parts that have been read, given from the last to the
first. Flags cannot be repeated. -/
def repeatLast? : List Pattern → Option (List Pattern)
  | [] => none
  | .flags _ :: _ => none
  | part :: before => some (.repeated part :: before)

/-- What stands behind the sign of a repetition. A question mark there asks for
as few repetitions as will do. -/
def dropReluctance : Text → Text
  | '?' :: rest => rest
  | rest => rest

/-- Reads the branches of a group up to a closing parenthesis or the end, behind
the branches and the parts of the last branch that have been read, both given from
the last to the first. -/
def branches? : Nat → Bool → List Pattern → List Pattern → Text → Option (Pattern × Text)
  | 0, _, _, _, _ => none
  | fuel + 1, spaced, before, parts, t =>
    let branches := ofParts parts.reverse :: before
    match skip spaced t with
    | [] => some (ofBranches branches.reverse, [])
    | ')' :: rest => some (ofBranches branches.reverse, ')' :: rest)
    | '|' :: rest => branches? fuel spaced branches [] rest
    | '(' :: rest =>
      match opening? (skip spaced rest) with
      | some (.flags change, rest) =>
        branches? fuel (change.apply 'x' spaced) before (.flags change :: parts) rest
      | some (.group name change, rest) =>
        match branches? fuel (change.apply 'x' spaced) [] [] rest with
        | some (inner, ')' :: rest) =>
          branches? fuel spaced before (.group name change inner :: parts) rest
        | _ => none
      | none => none
    | '[' :: rest =>
      (charSet? spaced rest).bind fun (negated, inner, rest) =>
        branches? fuel spaced before (.set negated inner :: parts) rest
    | c :: rest =>
      if repetitionSigns.contains c then
        (repeatLast? parts).bind fun parts =>
          branches? fuel spaced before parts (dropReluctance rest)
      else
        (atom? spaced (c :: rest)).bind fun (a, rest) =>
          branches? fuel spaced before (.atom a :: parts) rest

/-- Reads a pattern. Every step takes a character at least, so there are enough of
them. -/
def parse? (t : Text) : Option Pattern :=
  match branches? (t.length + 1) false [] [] t with
  | some (p, []) => some p
  | _ => none

end ServiceScript.Pattern
