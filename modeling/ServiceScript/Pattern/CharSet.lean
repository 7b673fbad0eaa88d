import ServiceScript.Pattern.Escape

/-!
# ServiceScript — sets of characters in patterns

Reading what stands between the brackets of a set: characters, ranges of them,
classes with a name, sets in brackets of their own, and operators between all
these, the leftmost of which binds its operands first.

Main definitions:

* `Pattern.range?` — reading a character or a range;
* `Pattern.namedClass?` — reading a class with a name;
* `Pattern.setOpening` — reading what a set begins with;
* `Pattern.charSet?` — reading a set.
-/

namespace ServiceScript.Pattern

-- ---------------------------------------------------------------------------
-- Ranges
-- ---------------------------------------------------------------------------

/-- Reads a member of a set: an escape or a character that stands for itself. -/
def member? (spaced : Bool) : Text → Option (Atom × Text)
  | [] => none
  | '\\' :: rest => escape? spaced rest
  | c :: rest => some (.char c false, rest)

/-- A set of what one member stands for. Places in a text are no members. -/
def CharSet.ofAtom? : Atom → Option CharSet
  | .char c _ => some (.range c c)
  | .kind negated => some (.kind negated)
  | .any | .edge | .wordEdge => none

/-- The character that decides whether a dash in front of a text makes a range.
In a spaced pattern it is looked for behind blanks and one number sign; where
these are all, it is the first of them. -/
def signAhead? (spaced : Bool) (t : Text) : Option Char :=
  if spaced then
    (match t.dropWhile isBlank with
      | '#' :: rest => rest.dropWhile isBlank
      | rest => rest).head?.or t.head?
  else t.head?

/-- Whether a dash in front of a text makes a range. It does not where the set
ends behind it, or where it belongs to an operator. -/
def makesRange (spaced : Bool) (t : Text) : Bool :=
  signAhead? spaced t ≠ some ']' && signAhead? spaced t ≠ some '-'

/-- Reads a member, or a range between two characters of which the first is not
the greater one. -/
def range? (spaced : Bool) (t : Text) : Option (CharSet × Text) :=
  (member? spaced t).bind fun (first, rest) =>
    match skip spaced rest with
    | '-' :: behind =>
      if makesRange spaced behind then
        match first, member? spaced (skip spaced behind) with
        | .char c _, some (.char d _, rest) => if c ≤ d then some (.range c d, rest) else none
        | _, _ => none
      else (CharSet.ofAtom? first).map fun member => (member, '-' :: behind)
    | rest => (CharSet.ofAtom? first).map fun member => (member, rest)

-- ---------------------------------------------------------------------------
-- Classes with a name
-- ---------------------------------------------------------------------------

/-- The names of classes. -/
def classNames : List Text :=
  ["alnum", "alpha", "ascii", "blank", "cntrl", "digit", "graph", "lower", "print", "punct",
   "space", "upper", "word", "xdigit"]

/-- Reads a class with a name behind its bracket: the name between colons, with a
circumflex in front of it where its complement is meant. -/
def namedClass? : Text → Option (CharSet × Text)
  | ':' :: t =>
    let (negated, t) := match t with
      | '^' :: rest => (true, rest)
      | rest => (false, rest)
    match t.span (· ≠ ':') with
    | (name, ':' :: ']' :: rest) =>
      if classNames.contains name then some (.named negated, rest) else none
    | _ => none
  | _ => none

-- ---------------------------------------------------------------------------
-- Sets
-- ---------------------------------------------------------------------------

/-- The dashes that a text begins with, as members of a set, and what stands
behind them. -/
def leadingDashes (spaced : Bool) : Nat → Text → List CharSet × Text
  | 0, t => ([], t)
  | fuel + 1, t =>
    match skip spaced t with
    | '-' :: rest =>
      let (dashes, rest) := leadingDashes spaced fuel rest
      (.range '-' '-' :: dashes, rest)
    | rest => ([], rest)

/-- What a set begins with behind its bracket: whether its complement is meant,
and the members that could not stand elsewhere, which are dashes or else a closing
bracket. -/
def setOpening (spaced : Bool) (t : Text) : Bool × List CharSet × Text :=
  let (negated, t) := match skip spaced t with
    | '^' :: rest => (true, rest)
    | rest => (false, rest)
  match leadingDashes spaced (t.length + 1) t with
  | ([], ']' :: rest) => (negated, [.range ']' ']'], rest)
  | (dashes, rest) => (negated, dashes, rest)

/-- A set behind what stands on the left of an operator, if there is one. -/
def CharSet.behind (left : Option CharSet) (members : List CharSet) : CharSet :=
  match left with
  | some left => .combined left (ofMembers members)
  | none => ofMembers members

/-- Reads a set up to its closing bracket, behind the left side of an operator
and the members that have been read since. -/
def setMembers? (spaced : Bool) :
    Nat → Option CharSet → List CharSet → Text → Option (CharSet × Text)
  | 0, _, _, _ => none
  | fuel + 1, left, members, t =>
    match skip spaced t with
    | [] => none
    | ']' :: rest => some (CharSet.behind left members, rest)
    | '&' :: '&' :: rest => setMembers? spaced fuel (some (CharSet.behind left members)) [] rest
    | '-' :: '-' :: rest => setMembers? spaced fuel (some (CharSet.behind left members)) [] rest
    | '~' :: '~' :: rest => setMembers? spaced fuel (some (CharSet.behind left members)) [] rest
    | '[' :: rest =>
      match namedClass? rest with
      | some (named, rest) => setMembers? spaced fuel left (members ++ [named]) rest
      | none =>
        let (negated, opening, rest) := setOpening spaced rest
        (setMembers? spaced fuel none opening rest).bind fun (inner, rest) =>
          setMembers? spaced fuel left (members ++ [.bracketed negated inner]) rest
    | t => (range? spaced t).bind fun (member, rest) =>
      setMembers? spaced fuel left (members ++ [member]) rest

/-- Reads a set behind its bracket, and tells whether its complement is meant.
Every step takes a character at least, so there are enough of them. -/
def charSet? (spaced : Bool) (t : Text) : Option (Bool × CharSet × Text) :=
  let (negated, opening, rest) := setOpening spaced t
  (setMembers? spaced (rest.length + 1) none opening rest).map fun (inner, rest) =>
    (negated, inner, rest)

end ServiceScript.Pattern
