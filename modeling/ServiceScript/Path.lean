import ServiceScript.Text.Utf8

/-!
# ServiceScript — paths

A path is a list of bytes with slashes between its components. Empty components
and components that are a single dot say nothing about where the path leads,
so repeated and trailing slashes do not matter either.
-/

namespace ServiceScript

abbrev Path := Bytes

namespace Path

def slash : UInt8 := 0x2F

/-- The component that stands for the directory it is in. -/
def here : Bytes := [0x2E]

/-- The component that stands for the directory above. -/
def above : Bytes := [0x2E, 0x2E]

/-- What stands between the slashes. -/
def pieces (path : Path) : List Bytes := splitAll slash path

/-- The components that say where the path leads. -/
def components (path : Path) : List Bytes :=
  (pieces path).filter fun piece => piece ≠ [] ∧ piece ≠ here

/-- The last component, if it is a name. -/
def fileName? (path : Path) : Option Bytes :=
  match (components path).getLast? with
  | some name => if name = above then none else some name
  | none => none

end Path

end ServiceScript
