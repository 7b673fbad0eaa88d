import ServiceScript.Pattern.Parse

/-!
# ServiceScript — patterns that can be used

A pattern is about characters, or, where the flag `u` is cleared, about bytes. It
can be used if everything in it can be said without tables of characters, and if
nothing in it matches a piece of a character:

* about characters, letter case is not ignored, and there are neither kinds of
  characters nor ends of words;
* about bytes, no set and no byte goes beyond ASCII.

Further, no two groups have the same name, and the nesting has a limit.

Main definitions:

* `Pattern.Mode` — the flags that matter;
* `Pattern.modeAfter?` — whether everything in a pattern can be used;
* `Pattern.isUsable` — whether a pattern can be used.
-/

namespace ServiceScript.Pattern

/-- The flags that decide what can be used. -/
structure Mode where
  -- whether a pattern is about characters rather than bytes
  unicode : Bool
  -- whether letter case is ignored
  caseless : Bool
deriving DecidableEq

namespace Mode

/-- The flags that a pattern begins with. -/
def initial : Mode := ⟨true, false⟩

/-- The flags after a change. -/
def change (m : Mode) (c : FlagChange) : Mode :=
  ⟨c.apply 'u' m.unicode, c.apply 'i' m.caseless⟩

/-- Whether an atom can be used. -/
def allows (m : Mode) : Atom → Bool
  | .char c isByte => if m.unicode then !m.caseless else !isByte || c.toNat < 0x80
  | .any => m.unicode
  | .edge => true
  | .wordEdge => !m.unicode
  | .kind negated => !m.unicode && !negated

end Mode

mutual

/-- Whether a set can be used. -/
def CharSet.isUsable (m : Mode) : CharSet → Bool
  | .range _ last => if m.unicode then !m.caseless else last.toNat < 0x80
  | .named negated => if m.unicode then !m.caseless else !negated
  | .kind negated => !m.unicode && !negated
  | .bracketed negated inner => (m.unicode || !negated) && inner.isUsable m
  | .union members => CharSet.areUsable m members
  | .combined left right => left.isUsable m && right.isUsable m

/-- Whether all of several sets can be used. -/
def CharSet.areUsable (m : Mode) : List CharSet → Bool
  | [] => true
  | member :: rest => member.isUsable m && CharSet.areUsable m rest

end

mutual

/-- The flags behind a pattern, if everything in it can be used. Flags hold up to
the end of the group that they stand in, also in the branches behind them. -/
def modeAfter? : Mode → Pattern → Option Mode
  | m, .atom a => if m.allows a then some m else none
  | m, .set negated inner =>
    if (m.unicode || !negated) && inner.isUsable m then some m else none
  | m, .flags change => some (m.change change)
  | m, .repeated part => modeAfter? m part
  | m, .group _ change inner => (modeAfter? (m.change change) inner).map fun _ => m
  | m, .sequence parts => modeAfterAll? m parts
  | m, .choice branches => modeAfterAll? m branches

/-- The flags behind several patterns, if everything in them can be used. -/
def modeAfterAll? : Mode → List Pattern → Option Mode
  | m, [] => some m
  | m, part :: rest => (modeAfter? m part).bind fun m => modeAfterAll? m rest

end

/-- How deep a pattern may be nested. -/
def maxDepth : Nat := 250

/-- Whether a pattern can be used. -/
def isUsable (p : Pattern) : Bool :=
  decide p.names.Nodup && decide (p.depth ≤ maxDepth) && (modeAfter? .initial p).isSome

end ServiceScript.Pattern
