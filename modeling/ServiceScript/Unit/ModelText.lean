import ServiceScript.Unit.Basic

/-!
# ServiceScript — units as JSON

The text of a unit for other programs: a JSON object with its sections, its
assignments and its commands. There are two layouts. The compact one has no
blanks outside of strings; the pretty one puts every member and item on a line
of its own, indented by two spaces for each bracket around it.
-/

namespace ServiceScript

-- ---------------------------------------------------------------------------
-- Strings
-- ---------------------------------------------------------------------------

/-- The written form of a character in a JSON string. -/
def jsonEscape (c : Char) : Text :=
  if c = '"' then "\\\""
  else if c = '\\' then "\\\\"
  else if c = '\x08' then "\\b"
  else if c = '\x0c' then "\\f"
  else if c = '\n' then "\\n"
  else if c = '\r' then "\\r"
  else if c = '\t' then "\\t"
  else if c.toNat < 0x10 then "\\u000" ++ Text.hex c.toNat
  else if c.toNat < 0x20 then "\\u00" ++ Text.hex c.toNat
  else [c]

def jsonString (t : Text) : Text := '"' :: t.flatMap jsonEscape ++ ['"']

-- ---------------------------------------------------------------------------
-- Layouts
-- ---------------------------------------------------------------------------

/-- What stands between the parts of a JSON text. -/
structure Layout where
  /-- What stands before a member or item inside so many brackets, and before
  the bracket that closes them. -/
  lineBreak : Nat → Text
  -- what stands between the name of a member and its value
  colon : Text

namespace Layout

def compact : Layout := ⟨fun _ => [], ":"⟩

def pretty : Layout := ⟨fun depth => '\n' :: List.replicate (2 * depth) ' ', ": "⟩

/-- Members or items between two brackets, inside of `depth` others. Without
any, the brackets stand together in every layout. -/
def bracket (l : Layout) (left right : Char) (depth : Nat) : List Text → Text
  | [] => [left, right]
  | first :: rest =>
    left :: l.lineBreak (depth + 1) ++ first ++
      rest.flatMap (fun part => ',' :: l.lineBreak (depth + 1) ++ part) ++
      l.lineBreak depth ++ [right]

def member (l : Layout) (name value : Text) : Text := jsonString name ++ l.colon ++ value

def dict {β : Type} (l : Layout) (depth : Nat) (write : β → Text) (d : Dict β) : Text :=
  l.bracket '\x7b' '\x7d' depth (d.entries.map fun (key, value) => l.member key (write value))

def strings (l : Layout) (depth : Nat) (items : List Text) : Text :=
  l.bracket '[' ']' depth (items.map jsonString)

end Layout

-- ---------------------------------------------------------------------------
-- Units
-- ---------------------------------------------------------------------------

/-- The text of a unit in a layout. -/
def ServiceUnit.modelText (l : Layout) (u : ServiceUnit) : Text :=
  l.bracket '\x7b' '\x7d' 0
    [l.member "sections" (l.dict 1 (l.dict 2 jsonString) u.sections),
     l.member "env" (l.strings 1 u.environment),
     l.member "execStartPre" (l.strings 1 u.execStartPre)]

end ServiceScript
