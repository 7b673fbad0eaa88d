import ServiceScript.Text.Blank
import ServiceScript.Unit.Basic

/-!
# ServiceScript — unit files

A unit file is read line by line. A line, without the blanks at its ends, is
blank, a section header, a directive, or none of these; a line that is none of
these is skipped with a diagnostic and changes nothing else. Reading never
fails.

Main definitions:

* `Line.ofText` — what a line is;
* `UnitFile.findings` — what the lines of a file give, in the order of the file;
* `UnitFile.unit`, `UnitFile.diagnostics` — the two results of reading.
-/

namespace ServiceScript

-- ---------------------------------------------------------------------------
-- Lines
-- ---------------------------------------------------------------------------

inductive Line where
  -- nothing but blanks
  | blank
  -- a section name between brackets
  | header (name : Text)
  -- a key and a value around an equals sign
  | directive (key value : Text)
  | garbage (text : Text)
deriving DecidableEq

/-- The name between the brackets of a header. The brackets are the first and
the last character, and two different ones. -/
def headerName? : Text → Option Text
  | '[' :: rest => if rest.getLast? = some ']' then some rest.dropLast else none
  | _ => none

/-- What a line is that has no blanks at its ends. A header may have an equals
sign in it; a directive is split at its first one. -/
def Line.ofTrimmed (text : Text) : Line :=
  if text = [] then .blank
  else match headerName? text with
    | some name => .header name
    | none => match splitFirst '=' text with
      | some (key, value) => .directive key value
      | none => .garbage text

def Line.ofText (text : Text) : Line := Line.ofTrimmed text.trim

-- ---------------------------------------------------------------------------
-- Files
-- ---------------------------------------------------------------------------

/-- A line that was skipped. -/
structure Diagnostic where
  line : Nat
  -- the line without the blanks at its ends
  text : Text
deriving DecidableEq

/-- Why a line is skipped. There is one reason: it has no equals sign. -/
def Diagnostic.reason : Text := "no '=' separator"

def Diagnostic.message (d : Diagnostic) : Text :=
  "line " ++ Text.decimal d.line ++ " \"" ++ d.text ++ "\" skipped: " ++ Diagnostic.reason

/-- What a line gives that is neither blank nor a header. -/
inductive Finding where
  -- a directive, with the section it stands in
  | directive (d : Directive)
  | skipped (d : Diagnostic)
deriving DecidableEq

def Finding.directive? : Finding → Option Directive
  | .directive d => some d
  | .skipped _ => none

def Finding.skipped? : Finding → Option Diagnostic
  | .directive _ => none
  | .skipped d => some d

namespace UnitFile

def lines (content : Text) : List Line := (splitAll '\n' content).map Line.ofText

/-- What lines give that stand in a section, numbered from a first number on. -/
def findingsFrom (sectionName : Text) (number : Nat) : List Line → List Finding
  | [] => []
  | .blank :: rest => findingsFrom sectionName (number + 1) rest
  | .header name :: rest => findingsFrom name (number + 1) rest
  | .directive key value :: rest =>
    .directive ⟨sectionName, key, value⟩ :: findingsFrom sectionName (number + 1) rest
  | .garbage text :: rest =>
    .skipped ⟨number, text⟩ :: findingsFrom sectionName (number + 1) rest

/-- What a file gives. Lines before the first header stand in the section with
the empty name. -/
def findings (content : Text) : List Finding := findingsFrom [] 1 (lines content)

def directives (content : Text) : List Directive :=
  (findings content).filterMap Finding.directive?

def unit (content : Text) : ServiceUnit := ServiceUnit.addAll ∅ (directives content)

def diagnostics (content : Text) : List Diagnostic :=
  (findings content).filterMap Finding.skipped?

end UnitFile

end ServiceScript
