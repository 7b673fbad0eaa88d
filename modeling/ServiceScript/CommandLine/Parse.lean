import ServiceScript.CommandLine.Argument
import ServiceScript.CommandLine.Draft

/-!
# ServiceScript — reading a command line

Arguments are read left to right. An option that takes a value has it attached
or in the next argument; a value in an argument of its own does not begin with a
dash, unless it is a lone dash.

An attached value is judged at once. A value in an argument of its own is kept
**pending** and judged when the next known option is reached, or at the end, so
that an argument that means nothing is reported before a bad value in front of
it.
-/

namespace ServiceScript

/-- An option whose value is not judged yet. -/
structure Pending where
  option : ValueOption
  value : Option Bytes
deriving DecidableEq

namespace CommandLine

/-- Judges what is pending. -/
def settle (d : Draft) : Option Pending → Except Stop Draft
  | none => .ok d
  | some p => d.give p.option p.value

/-- Reads arguments behind those that gave a draft and left something pending. -/
def scan (d : Draft) (pending : Option Pending) : List Bytes → Except Stop Draft
  | [] => settle d pending
  | argument :: rest =>
    match Argument.ofBytes argument with
    | .plain =>
      match pending with
      | some ⟨o, none⟩ => scan d (some ⟨o, some argument⟩) rest
      | _ => .error (.usage .unknownArgument)
    | .unknown => .error (.usage .unknownArgument)
    | .flagWithValue => .error (.usage .unexpectedValue)
    | .terminator =>
      if rest = [] then settle d pending else .error (.usage .unknownArgument)
    | .help =>
      match settle d pending with
      | .ok _ => .error .help
      | .error stop => .error stop
    | .version =>
      match settle d pending with
      | .ok _ => .error .version
      | .error stop => .error stop
    | .flag f =>
      match settle d pending with
      | .ok d => match d.raise f with
        | .ok d => scan d none rest
        | .error stop => .error stop
      | .error stop => .error stop
    | .option o none =>
      match settle d pending with
      | .ok d => scan d (some ⟨o, none⟩) rest
      | .error stop => .error stop
    | .option o (some value) =>
      match settle d pending with
      | .ok d => match d.give o (some value) with
        | .ok d => scan d none rest
        | .error stop => .error stop
      | .error stop => .error stop

/-- Reads a command line, whose first argument is the name of the program. -/
def parse (argv : List Bytes) : Except Stop Options :=
  match scan {} none argv.tail with
  | .ok d => d.complete
  | .error stop => .error stop

end CommandLine

end ServiceScript
