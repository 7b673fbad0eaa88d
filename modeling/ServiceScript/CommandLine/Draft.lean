import ServiceScript.CommandLine.Basic
import ServiceScript.Request

/-!
# ServiceScript — settings in the making

The settings that have been read from the beginning of a command line. Each can
be given once, and each has its own rule on values: paths may not be empty, the
interpreter has to be a text, the log level one of the levels.
-/

namespace ServiceScript

/-- The settings that have been read. -/
structure Draft where
  unit : Option Path := none
  out : Option Path := none
  interpreter : Option Text := none
  logLevel : Option LogLevel := none
  -- whether the unit has to have a command that is the service
  strict : Bool := false
  printModel : Bool := false
deriving DecidableEq

namespace Draft

def has (d : Draft) : ValueOption → Bool
  | .unit => d.unit.isSome
  | .out => d.out.isSome
  | .interpreter => d.interpreter.isSome
  | .logLevel => d.logLevel.isSome

/-- The text of a value. -/
def decode (value : Bytes) : Except Stop Text :=
  match Utf8.decode? value with
  | some t => .ok t
  | none => .error (.usage .notText)

/-- The path of a value, which may not be empty. -/
def path (value : Bytes) : Except Stop Path :=
  if value = [] then .error (.usage .missingValue) else .ok value

/-- The log level of a value. -/
def level (value : Bytes) : Except Stop LogLevel := do
  let t ← decode value
  match LogLevel.parse t with
  | .ok level => .ok level
  | .error cause => .error (.usage (.refusedValue cause))

/-- Takes the value of an option. A missing value is reported before an option
given twice, and that before a bad value. -/
def give (d : Draft) (o : ValueOption) (value : Option Bytes) : Except Stop Draft :=
  match value with
  | none => .error (.usage .missingValue)
  | some value =>
    if d.has o then .error (.usage .repeatedOption)
    else match o with
      | .unit => do return { d with unit := some (← path value) }
      | .out => do return { d with out := some (← path value) }
      | .interpreter => do return { d with interpreter := some (← decode value) }
      | .logLevel => do return { d with logLevel := some (← level value) }

def raise (d : Draft) : Flag → Except Stop Draft
  | .strict =>
    if d.strict then .error (.usage .repeatedOption) else .ok { d with strict := true }
  | .printModel =>
    if d.printModel then .error (.usage .repeatedOption) else .ok { d with printModel := true }

/-- The options of a run, once every argument is read. -/
def complete (d : Draft) : Except Stop Options :=
  match d.unit, d.out with
  | some unit, some out =>
    .ok ⟨unit, out, d.interpreter.getD defaultInterpreter, d.strict, d.printModel, d.logLevel⟩
  | _, _ => .error (.usage .missingOption)

end Draft

end ServiceScript
