import ServiceScript.Text.Basic

/-!
# ServiceScript — patterns

Patterns for texts, in the notation of regular expressions. The tree of a
pattern keeps what decides whether the pattern can be used, and no more: how
often a part is repeated and which end of a line is meant is left out.

Main definitions:

* `Pattern.Atom` — a sign that stands for itself or for one place in a text;
* `Pattern.CharSet` — what stands between the brackets of a set;
* `Pattern.FlagChange` — flags that are set and cleared;
* `Pattern` — the tree;
* `Pattern.names`, `Pattern.depth` — the names of its groups, and how deep it is
  nested.
-/

namespace ServiceScript

namespace Pattern

/-- A part of a pattern that has no parts. -/
inductive Atom where
  -- a character. Written with two hexadecimal digits, it can also be a byte.
  | char (c : Char) (isByte : Bool)
  | any
  -- an end of the text or of a line
  | edge
  -- an end of a word, or a place that is none
  | wordEdge
  -- a digit, a blank or a character of a word, or one that is none of the kind
  | kind (negated : Bool)
deriving DecidableEq

/-- What stands between the brackets of a set. -/
inductive CharSet where
  -- the characters from one to another
  | range (first last : Char)
  -- a class with a name, or what is not in it
  | named (negated : Bool)
  -- the digits, the blanks or the characters of words, or what is not among them
  | kind (negated : Bool)
  -- a set in brackets of its own, or what is not in it
  | bracketed (negated : Bool) (inner : CharSet)
  -- several sets, or nothing, together
  | union (members : List CharSet)
  -- two sets with an operator between them
  | combined (left right : CharSet)

/-- Flags that are set and flags that are cleared. -/
structure FlagChange where
  -- the letters of the flags that are set
  on : Text
  -- the letters of the flags that are cleared
  off : Text
deriving DecidableEq

/-- The change that leaves every flag as it is. -/
def FlagChange.none : FlagChange := ⟨[], []⟩

/-- What a flag is after a change. -/
def FlagChange.apply (change : FlagChange) (flag : Char) (before : Bool) : Bool :=
  change.on.contains flag || (before && !change.off.contains flag)

end Pattern

inductive Pattern where
  -- a part that has no parts
  | atom (a : Pattern.Atom)
  -- a set of characters, or what is not in it
  | set (negated : Bool) (inner : Pattern.CharSet)
  -- flags for the rest of the group that they stand in
  | flags (change : Pattern.FlagChange)
  -- a part that may be left out or be there several times
  | repeated (part : Pattern)
  -- a part in parentheses, with a name or with flags of its own
  | group (name : Option Text) (change : Pattern.FlagChange) (inner : Pattern)
  -- several parts, or nothing, one behind another
  | sequence (parts : List Pattern)
  -- several parts, one of which is to match
  | choice (branches : List Pattern)

namespace Pattern

/-- Parts one behind another, of which a single one stands for itself. -/
def ofParts : List Pattern → Pattern
  | [part] => part
  | parts => .sequence parts

/-- The choice between branches, of which a single one stands for itself. -/
def ofBranches : List Pattern → Pattern
  | [branch] => branch
  | branches => .choice branches

/-- Sets together, of which a single one stands for itself. -/
def CharSet.ofMembers : List CharSet → CharSet
  | [member] => member
  | members => .union members

-- ---------------------------------------------------------------------------
-- Names
-- ---------------------------------------------------------------------------

mutual

def names : Pattern → List Text
  | .atom _ | .set _ _ | .flags _ => []
  | .repeated part => part.names
  | .group name _ inner => name.toList ++ inner.names
  | .sequence parts => namesOfAll parts
  | .choice branches => namesOfAll branches

def namesOfAll : List Pattern → List Text
  | [] => []
  | part :: rest => part.names ++ namesOfAll rest

end

-- ---------------------------------------------------------------------------
-- Depth
-- ---------------------------------------------------------------------------

mutual

/-- How deep a set is nested inside its brackets. -/
def CharSet.depth : CharSet → Nat
  | .range _ _ | .named _ | .kind _ => 0
  | .bracketed _ inner => inner.depth + 1
  | .union [] => 0
  | .union (member :: rest) => max member.depth (CharSet.depthOfAll rest) + 1
  | .combined left right => max left.depth right.depth + 1

def CharSet.depthOfAll : List CharSet → Nat
  | [] => 0
  | member :: rest => max member.depth (CharSet.depthOfAll rest)

end

mutual

/-- How deep a pattern is nested. Atoms, flags and nothing at all are not
nested. -/
def depth : Pattern → Nat
  | .atom _ | .flags _ => 0
  | .set _ inner => inner.depth + 1
  | .repeated part => part.depth + 1
  | .group _ _ inner => inner.depth + 1
  | .sequence [] => 0
  | .sequence (part :: rest) => max part.depth (depthOfAll rest) + 1
  | .choice branches => depthOfAll branches + 1

def depthOfAll : List Pattern → Nat
  | [] => 0
  | part :: rest => max part.depth (depthOfAll rest)

end

end Pattern

end ServiceScript
