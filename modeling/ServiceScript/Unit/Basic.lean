import ServiceScript.Dict
import ServiceScript.Fault

/-!
# ServiceScript — service units

A unit as its directives leave it. Most directives hold one value, and a later
one replaces an earlier one. Two directives of the section `Service` accumulate
instead: `Environment`, and `ExecStartPre`. Everything else the unit knows only
by section and key.

Main result: `ServiceUnit.get?_add` says what a directive does to the single
values.
-/

namespace ServiceScript

-- ---------------------------------------------------------------------------
-- The directives acted upon
-- ---------------------------------------------------------------------------

def serviceSection : Text := "Service"

def execStartKey : Text := "ExecStart"

def execStartPreKey : Text := "ExecStartPre"

def environmentKey : Text := "Environment"

def workingDirectoryKey : Text := "WorkingDirectory"

def userKey : Text := "User"

/-- Directives whose occurrences accumulate. -/
inductive Accumulating where
  -- assignments, exported in the order of the file
  | environment
  -- commands, run in the order of the file
  | execStartPre
deriving DecidableEq, Repr

/-- The accumulating directive of a section and key. Keys are compared exactly,
and no section other than `Service` has such directives. -/
def Accumulating.ofKey? (sectionName key : Text) : Option Accumulating :=
  if sectionName = serviceSection then
    if key = environmentKey then some .environment
    else if key = execStartPreKey then some .execStartPre
    else none
  else none

/-- One assignment of a unit file, with the section it stands in. -/
structure Directive where
  -- the name of the section, empty before the first header
  sectionName : Text
  -- what stands before the first equals sign
  key : Text
  -- what stands behind it
  value : Text
deriving DecidableEq

/-- A value without one layer of double quotes around it. A lone quote is no
layer. -/
def unquoted (value : Text) : Text :=
  if 2 ≤ value.length ∧ value.head? = some '"' ∧ value.getLast? = some '"' then
    value.tail.dropLast
  else value

-- ---------------------------------------------------------------------------
-- Units
-- ---------------------------------------------------------------------------

structure ServiceUnit where
  -- the last value of every single-valued key, by section
  sections : Dict (Dict Text)
  -- the `Environment` values, without quotes around them
  environment : List Text
  execStartPre : List Text
deriving DecidableEq

namespace ServiceUnit

def empty : ServiceUnit := ⟨∅, [], []⟩

instance : EmptyCollection ServiceUnit := ⟨empty⟩

instance : Inhabited ServiceUnit := ⟨empty⟩

def set (u : ServiceUnit) (sectionName key value : Text) : ServiceUnit :=
  let keys := (u.sections.get? sectionName).getD ∅
  { u with sections := u.sections.insert sectionName (keys.insert key value) }

/-- The unit after one more directive. -/
def add (u : ServiceUnit) (d : Directive) : ServiceUnit :=
  match Accumulating.ofKey? d.sectionName d.key with
  | some .environment => { u with environment := u.environment ++ [unquoted d.value] }
  | some .execStartPre => { u with execStartPre := u.execStartPre ++ [d.value] }
  | none => u.set d.sectionName d.key d.value

def addAll (u : ServiceUnit) (ds : List Directive) : ServiceUnit := ds.foldl add u

def get? (u : ServiceUnit) (sectionName key : Text) : Option Text :=
  (u.sections.get? sectionName).bind (·.get? key)

/-- The single value of a section and key that has to be there. -/
def require (u : ServiceUnit) (sectionName key : Text) : Except Fault Text :=
  match u.get? sectionName key with
  | some value => .ok value
  | none => .error (.missingDirective sectionName key)

def user? (u : ServiceUnit) : Option Text := u.get? serviceSection userKey

-- ---------------------------------------------------------------------------
-- Look-ups
-- ---------------------------------------------------------------------------

@[simp] theorem get?_empty (sectionName key : Text) :
    (∅ : ServiceUnit).get? sectionName key = none := rfl

/-- A value is set for its own section and key and for no other. -/
theorem get?_set (u : ServiceUnit) (sectionName key value s k : Text) :
    (u.set sectionName key value).get? s k =
      if s = sectionName ∧ k = key then some value else u.get? s k := by
  simp only [get?, set, Dict.get?_insert]
  by_cases hs : s = sectionName
  · subst hs
    by_cases hk : k = key
    · subst hk
      simp [Dict.get?_insert]
    · cases h : u.sections.get? s <;> simp [Dict.get?_insert, hk]
  · simp [hs]

/-- A directive sets its own single value, and no value if it accumulates. -/
theorem get?_add (u : ServiceUnit) (d : Directive) (s k : Text) :
    (u.add d).get? s k =
      if Accumulating.ofKey? d.sectionName d.key = none ∧ s = d.sectionName ∧ k = d.key then
        some d.value
      else u.get? s k := by
  rw [add]
  split
  · next h => simp [get?, h]
  · next h => simp [get?, h]
  · next h => simp [get?_set, h]

end ServiceUnit

end ServiceScript
