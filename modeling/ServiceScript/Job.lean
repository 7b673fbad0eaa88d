import ServiceScript.Request
import ServiceScript.Script.Writer
import ServiceScript.Unit.File

/-!
# ServiceScript — jobs

A job makes the script of a unit file. The unit file is read and the name of the
unit is settled before the script file is touched, so a unit that cannot be read
or named leaves every file as it is.

Main definitions:

* `Job` — which unit file, which script file, and what else decides the script;
* `Progress` — how far a job came, and how it ended;
* `Job.perform` — the job itself, on any host.
-/

namespace ServiceScript

/-- A unit file to read and a script file to write. -/
structure Job where
  unit : Path
  out : Path
  -- the name of the unit, if it is not to be that of the file
  name? : Option Text
  interpreter : Text
  -- whether the unit has to have a command that is the service
  strict : Bool
deriving DecidableEq

/-- How far a job came, and how it ended. -/
structure Progress where
  content? : Option Text
  name? : Option Text
  outcome : Except Fault Unit

namespace Job

/-- The text of a unit file. -/
def textOf (path : Path) (read : Except IoFault Bytes) : Except Fault Text :=
  match read with
  | .error cause => .error (.unreadableUnit path cause)
  | .ok bytes => match Utf8.decode? bytes with
    | some content => .ok content
    | none => .error (.unreadableUnit path .invalidUtf8)

def nameOf (j : Job) : Except Fault Text :=
  match j.name? with
  | some name => .ok name
  | none => UnitName.ofPath j.unit

/-- What decides the script, once the unit is read and named. -/
def request (j : Job) (content name : Text) : Request :=
  ⟨UnitFile.unit content, name, j.interpreter, j.strict⟩

/-- Reads the unit, names it, and writes its script. -/
def perform {m : Type → Type} [Monad m] (j : Job) (host : Host m) : m Progress := do
  match textOf j.unit (← host.read j.unit) with
  | .error f => return ⟨none, none, .error f⟩
  | .ok content =>
    match j.nameOf with
    | .error f => return ⟨some content, none, .error f⟩
    | .ok name =>
      let outcome ← (j.request content name).script.writeTo host j.out
      return ⟨some content, some name, outcome⟩

end Job

end ServiceScript
