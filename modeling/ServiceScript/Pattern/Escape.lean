import ServiceScript.Pattern.Basic
import ServiceScript.Text.Blank

/-!
# ServiceScript — signs of patterns

The smallest things that a pattern is written with: the blanks and comments
between its signs, where it is a spaced one, and what a backslash stands in
front of.
-/

namespace ServiceScript.Pattern

-- ---------------------------------------------------------------------------
-- Spaces
-- ---------------------------------------------------------------------------

/-- What stands behind blanks and comments. A comment goes from a number sign to
the end of its line; the flag tells whether the text begins in one. -/
def dropSpace : Bool → Text → Text
  | _, [] => []
  | true, c :: rest => dropSpace (c ≠ '\n') rest
  | false, c :: rest =>
    if c = '#' then dropSpace true rest
    else if isBlank c then dropSpace false rest
    else c :: rest

/-- What stands behind what means nothing: in a spaced pattern blanks and
comments, and in other patterns nothing. -/
def skip (spaced : Bool) (t : Text) : Text := if spaced then dropSpace false t else t

-- ---------------------------------------------------------------------------
-- Escapes
-- ---------------------------------------------------------------------------

/-- The value of a hexadecimal digit. -/
def hexDigit? (c : Char) : Option Nat :=
  if c.isDigit then some (c.toNat - '0'.toNat)
  else if 'a' ≤ c.toLower ∧ c.toLower ≤ 'f' then some (c.toLower.toNat - 'a'.toNat + 10)
  else none

/-- Reads a number of hexadecimal digits behind those that make up `value`. -/
def hexNumber? (spaced : Bool) : Nat → Nat → Text → Option (Nat × Text)
  | 0, value, t => some (value, t)
  | count + 1, value, t =>
    match skip spaced t with
    | [] => none
    | c :: rest => (hexDigit? c).bind fun d => hexNumber? spaced count (16 * value + d) rest

/-- Reads a character that a number of hexadecimal digits stand for. -/
def hexChar? (spaced : Bool) (count : Nat) (t : Text) : Option (Char × Text) :=
  (hexNumber? spaced count 0 t).bind fun (value, rest) =>
    if value.isValidChar then some (Char.ofNat value, rest) else none

/-- The control characters that a letter stands for behind a backslash. -/
def controlLetters : List (Char × Char) :=
  [('a', '\x07'), ('f', '\x0c'), ('n', '\n'), ('r', '\r'), ('t', '\t'), ('v', '\x0b')]

/-- What one character stands for behind a backslash. Every ASCII character but
for letters, digits and the ends of words stands for itself. -/
def escaped? (c : Char) : Option Atom :=
  if ("dsw" : Text).contains c then some (.kind false)
  else if ("DSW" : Text).contains c then some (.kind true)
  else if ("bB<>" : Text).contains c then some .wordEdge
  else if ("Az" : Text).contains c then some .edge
  else if c.isAlphanum then (controlLetters.lookup c).map fun control => .char control false
  else if c.toNat < 0x80 then some (.char c false)
  else none

/-- Reads what stands behind a backslash. -/
def escape? (spaced : Bool) : Text → Option (Atom × Text)
  | [] => none
  | 'x' :: rest => (hexChar? spaced 2 rest).map fun (c, rest) => (.char c true, rest)
  | 'u' :: rest => (hexChar? spaced 4 rest).map fun (c, rest) => (.char c false, rest)
  | 'U' :: rest => (hexChar? spaced 8 rest).map fun (c, rest) => (.char c false, rest)
  | c :: rest => (escaped? c).map fun a => (a, rest)

end ServiceScript.Pattern
