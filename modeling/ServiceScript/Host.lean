import ServiceScript.Fault
import ServiceScript.Path

/-!
# ServiceScript — hosts

What a run needs of the machine that it runs on: reading a file as a whole,
creating a file, and writing behind what has been written to it. A run is the
same program on every host, so what is shown of it on a modelled file system
holds of how it uses a real one.
-/

namespace ServiceScript

/-- The access to files that a run has, with effects in `m`. -/
structure Host (m : Type → Type) where
  Handle : Type
  read : Path → m (Except IoFault Bytes)
  -- creates a file, or empties the one that is there
  create : Path → m (Except IoFault Handle)
  -- writes bytes behind those that have been written
  append : Handle → Bytes → m (Except IoFault Unit)

end ServiceScript
