import ServiceScript.Script.Basic

/-!
# ServiceScript — scripts in a sink of bounded size

A sink of bounded size takes bytes until it is full. What fits of the write that
is refused stays in it, and the refusal ends the script unless a fault of the
script came first.
-/

namespace ServiceScript.Script

/-- The bytes of a script that a sink with room for `room` bytes keeps, and how
the script ends. -/
def emitWithin (room : Nat) : Script → Bytes × Except Fault Unit
  | [] => ([], .ok ⟨⟩)
  | .error f :: _ => ([], .error f)
  | .ok t :: rest =>
    let bytes := Utf8.encode t
    if bytes.length ≤ room then
      let (kept, outcome) := emitWithin (room - bytes.length) rest
      (bytes ++ kept, outcome)
    else (bytes.take room, .error (.emission .sinkFull))

end ServiceScript.Script
