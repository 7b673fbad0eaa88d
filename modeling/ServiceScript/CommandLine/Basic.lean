import ServiceScript.LogLevel
import ServiceScript.Path

/-!
# ServiceScript — the command line

What a command line asks for, and why one may lead to no run: because help is
asked for, or because the usage is wrong. The options are those with a value and
those without.
-/

namespace ServiceScript

/-- What a run is asked to do. -/
structure Options where
  unit : Path
  out : Path
  interpreter : Text
  -- whether the unit has to have a command that is the service
  strict : Bool
  -- whether the unit is printed once the script is written
  printModel : Bool
  -- how much is reported, if that is asked for
  logLevel : Option LogLevel
deriving DecidableEq

/-- How a command line can be wrong. -/
inductive UsageFault where
  -- an argument that means nothing
  | unknownArgument
  -- a value that is missing or may not be empty
  | missingValue
  -- a value of an option that takes none
  | unexpectedValue
  -- an option that was given before
  | repeatedOption
  -- a value that is the UTF-8 of no text
  | notText
  -- a value that the option refuses
  | refusedValue (cause : LogLevelFault)
  -- an option that has to be given and is not
  | missingOption
deriving DecidableEq

def UsageFault.message : UsageFault → Text
  | .unknownArgument => "unexpected argument"
  | .missingValue => "a value is required"
  | .unexpectedValue => "unexpected value for an option that takes none"
  | .repeatedOption => "an option cannot be used multiple times"
  | .notText => "invalid UTF-8 was detected in one or more arguments"
  | .refusedValue cause => "invalid value: " ++ cause.message
  | .missingOption => "the options --unit and --out are required"

/-- Why there is no run. -/
inductive Stop where
  | help
  | version
  | usage (fault : UsageFault)
deriving DecidableEq

-- ---------------------------------------------------------------------------
-- Options by name
-- ---------------------------------------------------------------------------

/-- An option that takes a value. -/
inductive ValueOption where
  | unit
  | out
  | interpreter
  | logLevel
deriving DecidableEq, Repr

/-- An option that takes no value. -/
inductive Flag where
  -- the unit has to have a command that is the service
  | strict
  -- the unit is printed once the script is written
  | printModel
deriving DecidableEq, Repr

namespace ValueOption

def all : List ValueOption := [.unit, .out, .interpreter, .logLevel]

def name : ValueOption → Text
  | .unit => "unit"
  | .out => "out"
  | .interpreter => "interpreter"
  | .logLevel => "log-level"

end ValueOption

namespace Flag

def all : List Flag := [.strict, .printModel]

def name : Flag → Text
  | .strict => "strict"
  | .printModel => "print-model"

end Flag

end ServiceScript
