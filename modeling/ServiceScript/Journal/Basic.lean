import ServiceScript.LogLevel

/-!
# ServiceScript — the journal

What a run reports on its way. An **event** has a level, the part of the program
it comes from, and a message.

Main definitions:

* `Origin.name` — the names of the parts of the program;
* `Event.line` — an event as it is shown.
-/

namespace ServiceScript

/-- The part of the program that an event comes from. -/
inductive Origin where
  | run
  | lines
  | unit
  | script
deriving DecidableEq, Repr

def Origin.name : Origin → Text
  | .run => "unitscript"
  | .lines => "unitscript::parser"
  | .unit => "unitscript::unit"
  | .script => "unitscript::script"

/-- Something that a run reports. -/
structure Event where
  -- how much has to be reported for it to be shown
  level : LogLevel
  origin : Origin
  message : Text
deriving DecidableEq

/-- The written form of a character in a message. Those that a terminal would
act upon are escaped; blanks and line ends stay as they are. -/
def messageEscape (c : Char) : Text :=
  if c = '\x1b' ∨ c = '\x07' ∨ c = '\x08' ∨ c = '\x0c' ∨ c = '\x7f' then
    '\\' :: 'x' :: [c.toNat / 16, c.toNat % 16].map Nat.digitChar
  else if 0x80 ≤ c.toNat ∧ c.toNat ≤ 0x9F then "\\u\x7b" ++ Text.hex c.toNat ++ "\x7d"
  else [c]

/-- The name of a level as events show it, in capitals and five columns wide. -/
def LogLevel.label (level : LogLevel) : Text :=
  let capitals := level.name.map Char.toUpper
  List.replicate (5 - capitals.length) ' ' ++ capitals

def Event.line (e : Event) : Text :=
  e.level.label ++ ' ' :: e.origin.name ++ ": " ++ e.message.flatMap messageEscape

end ServiceScript
