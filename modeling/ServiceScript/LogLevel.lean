import ServiceScript.Text.Blank

/-!
# ServiceScript — log levels

How much a run reports. A level is asked for by name or by number.

Main definitions:

* `LogLevel.number`, `LogLevel.name` — the two ways to say a level;
* `LogLevel.parse` — reading a level, with the reason for a refusal.
-/

namespace ServiceScript

/-- How much is reported, from nothing to everything. -/
inductive LogLevel where
  | off
  -- what makes a run fail
  | error
  -- what may be a mistake of the user
  | warn
  -- what a run does
  | info
  -- how it does it
  | debug
  | trace
deriving DecidableEq, Repr

/-- Why a text is no level. -/
inductive LogLevelFault where
  -- there is nothing but blanks
  | empty
  -- it is a number that no level has
  | unsupportedNumber (number : Nat)
  -- it is anything else
  | invalid (text : Text)
deriving DecidableEq

def LogLevelFault.message : LogLevelFault → Text
  | .empty => "log level cannot be empty"
  | .unsupportedNumber number =>
    "unsupported log level number '" ++ Text.decimal number ++ "' (expected 0-5)"
  | .invalid text => "invalid log level '" ++ text ++ "'"

/-- The number of decimal digits: one digit or more, in any number, after an
optional plus sign. -/
def Text.number? (t : Text) : Option Nat :=
  let digits := match t with
    | '+' :: rest => rest
    | _ => t
  if digits ≠ [] ∧ digits.all Char.isDigit then
    some (digits.foldl (fun n c => 10 * n + (c.toNat - '0'.toNat)) 0)
  else none

/-- The greatest number that is read as the number of a level. -/
def greatestLevelNumber : Nat := 255

namespace LogLevel

def all : List LogLevel := [.off, .error, .warn, .info, .debug, .trace]

def number : LogLevel → Nat
  | .off => 0
  | .error => 1
  | .warn => 2
  | .info => 3
  | .debug => 4
  | .trace => 5

def name : LogLevel → Text
  | .off => "off"
  | .error => "error"
  | .warn => "warn"
  | .info => "info"
  | .debug => "debug"
  | .trace => "trace"

def ofNumber? (n : Nat) : Option LogLevel := all[n]?

/-- The level of a name. Two levels have a second name. -/
def ofName? (t : Text) : Option LogLevel :=
  if t = "err" then some .error
  else if t = "warning" then some .warn
  else all.find? fun level => level.name = t

/-- The level that a text asks for. Blanks around it and the case of ASCII
letters do not matter. A number up to 255 that no level has is refused as a
number; a greater one is refused as a name. -/
def parse (t : Text) : Except LogLevelFault LogLevel :=
  let asked := t.trim
  if asked = [] then .error .empty
  else match asked.number?.filter (· ≤ greatestLevelNumber) with
    | some n => match ofNumber? n with
      | some level => .ok level
      | none => .error (.unsupportedNumber n)
    | none => match ofName? (asked.map Char.toLower) with
      | some level => .ok level
      | none => .error (.invalid asked)

end LogLevel

end ServiceScript
