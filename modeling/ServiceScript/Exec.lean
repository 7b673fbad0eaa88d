import ServiceScript.Account
import ServiceScript.Text.Blank

/-!
# ServiceScript — commands

A command of a unit begins with a run of **modifiers**, single characters that
change how it runs; what is behind them is its body. A script can approximate
one modifier, has to refuse one, and leaves the others out.

Main definitions:

* `ExecCommand.parse` — a value as modifiers and body;
* `ExecCommand.wrap` — the text of a script that runs the command.
-/

namespace ServiceScript

/-- A leading character that modifies how a command runs. -/
inductive Modifier where
  -- `@`: the second word is the name that the command is told it has. Refused.
  | argvZero
  -- `-`: it does not matter whether the command fails
  | ignoreFailure
  -- `:`: no variables are replaced. Left out.
  | noSubstitution
  -- `+`: the command has full privileges. Left out.
  | fullPrivileges
  -- `!`: the command has privileges without changing the account. Left out.
  | ambientPrivileges
deriving DecidableEq, Repr

namespace Modifier

def all : List Modifier :=
  [.argvZero, .ignoreFailure, .noSubstitution, .fullPrivileges, .ambientPrivileges]

def char : Modifier → Char
  | .argvZero => '@'
  | .ignoreFailure => '-'
  | .noSubstitution => ':'
  | .fullPrivileges => '+'
  | .ambientPrivileges => '!'

/-- The modifier of a character, if it is one. -/
def ofChar? (c : Char) : Option Modifier := all.find? fun m => m.char = c

theorem mem_all (m : Modifier) : m ∈ all := by cases m <;> decide

/-- Each modifier is the one of its character, and of no other. -/
theorem ofChar?_eq_some_iff {c : Char} {m : Modifier} : ofChar? c = some m ↔ m.char = c := by
  constructor
  · intro h
    simpa using List.find?_some h
  · rintro rfl
    cases m <;> rfl

end Modifier

/-- A command as a unit gives it. -/
structure ExecCommand where
  -- the modifiers, in the order and number in which they are given
  modifiers : List Modifier
  -- what is behind them
  body : Text
deriving DecidableEq

/-- What makes the status of a command zero behind it. -/
def ignoreFailureGuard : Text := "; (exit 0);"

namespace ExecCommand

/-- Splits the modifiers off a value, as many as there are. -/
def parse : Text → ExecCommand
  | [] => ⟨[], []⟩
  | c :: rest =>
    match Modifier.ofChar? c with
    | some m => ⟨m :: (parse rest).modifiers, (parse rest).body⟩
    | none => ⟨[], c :: rest⟩

def raw (e : ExecCommand) : Text := e.modifiers.map Modifier.char ++ e.body

def has (e : ExecCommand) (m : Modifier) : Bool := e.modifiers.contains m

/-- The command line: the body, and behind it the guard if failure does not
matter. -/
def commandLine (e : ExecCommand) : Text :=
  if e.has .ignoreFailure then e.body ++ ignoreFailureGuard else e.body

/-- The text of a script that runs the command, as another account if one is
given. A modifier that cannot be approximated is reported before a body that
has nothing to run. -/
def wrap (e : ExecCommand) (directive : Text) (account : Option Account) : Except Fault Text :=
  if e.has .argvZero then .error (.argvZero e.raw)
  else if Text.allBlank e.body then .error (.emptyCommand directive e.raw)
  else match account with
    | some a => a.runAs e.commandLine
    | none => .ok e.commandLine

/-- Nothing is lost in splitting. -/
@[simp] theorem raw_parse (t : Text) : (parse t).raw = t := by
  induction t with
  | nil => rfl
  | cons c rest ih =>
    rw [parse]
    split
    · next m h =>
      have hc := Modifier.ofChar?_eq_some_iff.1 h
      simpa [raw, hc] using ih
    · rfl

end ExecCommand

end ServiceScript
