import ServiceScript.Directory
import ServiceScript.Exec
import ServiceScript.Script.Line
import ServiceScript.UnitName

/-!
# ServiceScript — the script of a unit

A script makes the directories of the unit, gives the account of the unit a
login shell, exports the assignments, changes into the working directory, runs
the commands that run before the service, and runs the service. What the unit
says nothing about is left out. Every command that can fail is followed by a
check that ends the script with the status of the command.

Main definitions:

* `Request` — a unit with what else decides its script;
* `Request.script` — the script of a unit.
-/

namespace ServiceScript

/-- The interpreter of a script for which none is asked. -/
def defaultInterpreter : Text := "/bin/sh"

/-- A unit with what else decides its script. -/
structure Request where
  unit : ServiceUnit
  name : Text
  interpreter : Text
  -- whether the unit has to have a command that is the service
  strict : Bool
deriving DecidableEq

namespace Request

/-- The account that the unit runs as, if it names one. -/
def account? (r : Request) : Option Account := Account.ofUnit? r.unit

/-- The line that names the interpreter. There is none for a name that is refused. -/
def interpreterLine (r : Request) : Step := do
  UnitName.check r.name
  return "#!" ++ r.interpreter ++ "\n"

/-- Makes a directory, exports where it is and, with an account, hands it over. -/
def directoryBlock (name : Text) (account : Option Account) (d : Directory) : Script :=
  let path := d.path name
  [makeDirectoryLine path,
   failureCheck ("mkdir " ++ path ++ " for " ++ d.variableName),
   assignLine "export" d.variableName path,
   assignLine "echo" d.variableName path] ++
  (account.toList.map fun a => closeLine (a.chown path)) ++
  [.ok "\n"]

def directories (r : Request) : Script :=
  Directory.all.flatMap (directoryBlock r.name r.account?)

/-- The lines that give an account its login shell, apart from other lines. -/
def loginShellLines (a : Account) : Step := do
  let lines ← a.loginShellSetup
  return "\n" ++ lines ++ "\n"

def loginShellBlock (r : Request) : Script := r.account?.toList.map loginShellLines

def exports (r : Request) : Script :=
  r.unit.environment.map fun assignment => .ok ("export " ++ assignment ++ "\n")

def workingDirectoryBlock (r : Request) : Script :=
  match r.unit.get? serviceSection workingDirectoryKey with
  | none => []
  | some directory =>
    [echoLine (workingDirectoryKey ++ "=" ++ directory),
     .ok ("cd " ++ directory ++ "\n"),
     failureCheck "changing to working directory"]

/-- Runs one of the commands that run before the service. -/
def preCommand (account : Option Account) (raw : Text) : Script :=
  [closeLine ((ExecCommand.parse raw).wrap execStartPreKey account),
   failureCheck ("command: " ++ raw)]

def preCommands (r : Request) : Script :=
  echoLine "Running ExecStartPre commands" ::
    r.unit.execStartPre.flatMap (preCommand r.account?)

/-- The value of a directive of the service, which may have to be there. -/
def directive (r : Request) (key : Text) (required : Bool) : Except Fault (Option Text) :=
  if required then (r.unit.require serviceSection key).map some
  else .ok (r.unit.get? serviceSection key)

/-- Runs the command that is the service, if the unit has one. -/
def mainCommand (r : Request) : Script :=
  match r.directive execStartKey r.strict with
  | .error fault => [.error fault]
  | .ok none => []
  | .ok (some raw) =>
    [echoLine ("Running ExecStart " ++ raw),
     closeLine ((ExecCommand.parse raw).wrap execStartKey r.account?),
     failureCheck "running ExecStart"]

def script (r : Request) : Script :=
  r.interpreterLine ::
    (r.directories ++ r.loginShellBlock ++ r.exports ++ r.workingDirectoryBlock ++
      r.preCommands ++ r.mainCommand)

-- ---------------------------------------------------------------------------
-- The command that is the service
-- ---------------------------------------------------------------------------

/-- A unit without the command has nothing for it, or a fault if it has to have one. -/
theorem mainCommand_of_none {r : Request} (h : r.unit.get? serviceSection execStartKey = none) :
    r.mainCommand =
      if r.strict then [.error (.missingDirective serviceSection execStartKey)] else [] := by
  unfold mainCommand directive ServiceUnit.require
  rw [h]
  cases r.strict <;> rfl

/-- A unit with the command runs it, whether it has to have one or not. -/
theorem mainCommand_of_some {r : Request} {raw : Text}
    (h : r.unit.get? serviceSection execStartKey = some raw) :
    r.mainCommand =
      [echoLine ("Running ExecStart " ++ raw),
       closeLine ((ExecCommand.parse raw).wrap execStartKey r.account?),
       failureCheck "running ExecStart"] := by
  unfold mainCommand directive ServiceUnit.require
  rw [h]
  cases r.strict <;> rfl

end Request

end ServiceScript
