import ServiceScript.Fault
import ServiceScript.Path

/-!
# ServiceScript — unit names

The name of a unit names its directories, so it has to be one proper component
of a path: otherwise a directory would fall together with the one above it, or
lie somewhere else.
-/

namespace ServiceScript.UnitName

/-- What is left out at the end of a file name. -/
def fileSuffix : Text := ".service"

def isProper (name : Text) : Bool :=
  name ≠ [] && name ≠ "." && name ≠ ".." && !name.contains '/'

/-- Refuses a name that is not one proper component of a path. -/
def check (name : Text) : Except Fault Unit :=
  if isProper name then .ok ⟨⟩ else .error (.invalidUnitName name)

/-- A proper name is not empty, is neither of the two names made of dots, and has no slash
in it. -/
theorem isProper_iff (name : Text) :
    isProper name = true ↔ name ≠ [] ∧ name ≠ "." ∧ name ≠ ".." ∧ '/' ∉ name := by
  simp [isProper, and_assoc]

/-- The check accepts the proper names. -/
theorem check_eq_ok_iff (name : Text) : check name = .ok ⟨⟩ ↔ isProper name = true := by
  unfold check
  split
  · next h => exact iff_of_true rfl h
  · next h => exact iff_of_false (fun hok => by cases hok) h

/-- The name that a file name gives: without the suffix, once, if it has it. -/
def ofFileName (fileName : Text) : Text := (fileSuffix.isSuffixOf? fileName).getD fileName

/-- The name of the unit in a file, which its path gives. A refusal shows the
path and not the name. -/
def ofPath (path : Path) : Except Fault Text :=
  let name := ofFileName (Utf8.decodeLossy ((Path.fileName? path).getD []))
  if isProper name then .ok name else .error (.invalidUnitName (Utf8.decodeLossy path))

/-- Every name that is taken from a path is proper. -/
theorem isProper_of_ofPath {path : Path} {name : Text} (h : ofPath path = .ok name) :
    isProper name = true := by
  unfold ofPath at h
  dsimp only at h
  split at h
  · next hproper =>
    cases h
    exact hproper
  · cases h

end ServiceScript.UnitName
