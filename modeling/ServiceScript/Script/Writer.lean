import ServiceScript.Host
import ServiceScript.Script.Basic

/-!
# ServiceScript — scripts in files

Writing a script into a file. The file is created first, whatever the script
is. The bytes then go through a buffer: they are held back until the next step
does not fit, and what is left is written at the end.

A fault of the script ends it there. What the buffer still holds is written as
well as it can be, and the fault of the script is the one reported. If the file
refuses bytes before that, its refusal is reported.
-/

namespace ServiceScript.Script

def bufferSize : Nat := 8192

variable {m : Type → Type} [Monad m]

/-- Writes the steps of a script, behind bytes that are held back. -/
def send (host : Host m) (handle : host.Handle) (refused : IoFault → Fault) (held : Bytes) :
    Script → m (Except Fault Unit)
  | [] => do
    match ← host.append handle held with
    | .ok _ => return .ok ⟨⟩
    | .error cause => return .error (refused cause)
  | .error f :: _ => do
    let _ ← host.append handle held
    return .error f
  | .ok t :: rest => do
    let bytes := Utf8.encode t
    if held.length + bytes.length ≤ bufferSize then
      send host handle refused (held ++ bytes) rest
    else
      match ← host.append handle held with
      | .error cause => return .error (refused cause)
      | .ok _ =>
        if bytes.length < bufferSize then send host handle refused bytes rest
        else
          match ← host.append handle bytes with
          | .error cause => return .error (refused cause)
          | .ok _ => send host handle refused [] rest

def writeTo (s : Script) (host : Host m) (path : Path) : m (Except Fault Unit) := do
  match ← host.create path with
  | .error cause => return .error (.unwritableScript path cause)
  | .ok handle => send host handle (.unwritableScript path) [] s

end ServiceScript.Script
