import ServiceScript.CommandLine.Parse
import ServiceScript.Proofs.Text.Delimited

/-!
# ServiceScript — how settings are spelled

A setting is given by one argument or by two: a flag by its name, the value of an
option behind the name of the option and an equals sign, or in the argument behind
that name. Attached, a value can be anything, since the name ends at the first
equals sign and the rest of the argument is not looked at; by itself it must not
look like an option. So what arguments are read as is decided by the settings they
spell, and by nothing else about them.

Main definitions:

* `Setting` — the value of an option, or a flag;
* `Spelled` — settings one behind the other, each in one of its spellings.

Main results:

* `CommandLine.scan_spelled` — reading arguments takes the settings they spell, one
  after the other;
* `CommandLine.parse_spelled` — the same of a whole command line.
-/

namespace ServiceScript

/-- One thing that a command line gives. -/
inductive Setting where
  | option (o : ValueOption) (value : Bytes)
  | flag (f : Flag)
deriving DecidableEq

/-- The argument that names an option. -/
def ValueOption.argument (o : ValueOption) : Bytes := dash :: dash :: Utf8.encode o.name

def Flag.argument (f : Flag) : Bytes := dash :: dash :: Utf8.encode f.name

/-- Whether a value can be an argument of its own. -/
def StandsAlone (value : Bytes) : Prop := value.head? ≠ some dash ∨ value = [dash]

/-- The arguments that a setting can be given by. -/
inductive Setting.Spelled : Setting → List Bytes → Prop
  | attached (o : ValueOption) (value : Bytes) :
      Spelled (.option o value) [o.argument ++ equalsSign :: value]
  | apart (o : ValueOption) {value : Bytes} (h : StandsAlone value) :
      Spelled (.option o value) [o.argument, value]
  | flag (f : Flag) : Spelled (.flag f) [f.argument]

/-- Settings one behind the other, each in one of its spellings. -/
inductive Spelled : List Setting → List Bytes → Prop
  | nil : Spelled [] []
  | cons {s : Setting} {settings : List Setting} {words args : List Bytes} (h : s.Spelled words)
      (hrest : Spelled settings args) : Spelled (s :: settings) (words ++ args)

-- ---------------------------------------------------------------------------
-- What the arguments are
-- ---------------------------------------------------------------------------

namespace Argument

theorem ofBytes_option (o : ValueOption) : ofBytes o.argument = .option o none := by
  cases o <;> rfl

theorem ofBytes_flag (f : Flag) : ofBytes f.argument = .flag f := by
  cases f <;> rfl

/-- A value behind an equals sign goes to the option in front of it. -/
theorem ofBytes_attached (o : ValueOption) (value : Bytes) :
    ofBytes (o.argument ++ equalsSign :: value) = .option o (some value) := by
  -- no name has an equals sign, so the first one is the one behind the name
  have hsplit : splitFirst equalsSign (Utf8.encode o.name ++ equalsSign :: value) =
      some (Utf8.encode o.name, value) :=
    splitFirst_eq_some_iff.2 ⟨rfl, by cases o <;> decide⟩
  have hname : ofName (Utf8.encode o.name) (some value) = .option o (some value) := by
    cases o <;> rfl
  have hne : Utf8.encode o.name ++ equalsSign :: value ≠ [] := by simp
  simp only [ValueOption.argument, List.cons_append, ofBytes, hne, hsplit, hname, ne_eq,
    not_true_eq_false, if_true, if_false]

/-- A value that can stand alone is not taken for an option. -/
theorem ofBytes_of_standsAlone {value : Bytes} (h : StandsAlone value) :
    ofBytes value = .plain := by
  rcases h with hhead | rfl
  · cases value with
    | nil => rfl
    | cons first rest =>
      show (if first ≠ dash then Argument.plain else _) = Argument.plain
      exact if_pos fun hdash => hhead (congrArg some hdash)
  · rfl

end Argument

-- ---------------------------------------------------------------------------
-- Reading them
-- ---------------------------------------------------------------------------

/-- Takes one setting. -/
def Draft.add (d : Draft) : Setting → Except Stop Draft
  | .option o value => d.give o (some value)
  | .flag f => d.raise f

namespace CommandLine

/-- What is pending in front of further settings is judged before any of them. -/
theorem scan_of_pending {settings : List Setting} {args : List Bytes} (h : Spelled settings args)
    (d : Draft) (pending : Option Pending) :
    scan d pending args = (settle d pending).bind fun d => scan d none args := by
  cases h with
  | nil =>
    show settle d pending = _
    cases settle d pending <;> rfl
  | cons hs hrest =>
    cases hs with
    | attached o value =>
      simp only [List.cons_append, List.nil_append, scan, Argument.ofBytes_attached]
      cases settle d pending <;> rfl
    | apart o hvalue =>
      simp only [List.cons_append, List.nil_append, scan, Argument.ofBytes_option]
      cases settle d pending <;> rfl
    | flag f =>
      simp only [List.cons_append, List.nil_append, scan, Argument.ofBytes_flag]
      cases settle d pending <;> rfl

/-- The arguments of one setting are read as that setting, whatever is spelled behind
them. -/
theorem scan_setting {s : Setting} {words : List Bytes} (hs : s.Spelled words)
    {settings : List Setting} {args : List Bytes} (h : Spelled settings args) (d : Draft) :
    scan d none (words ++ args) = (d.add s).bind fun d => scan d none args := by
  cases hs with
  | attached o value =>
    simp only [List.cons_append, List.nil_append, scan, Argument.ofBytes_attached, settle]
    show _ = (d.give o (some value)).bind _
    cases d.give o (some value) <;> rfl
  | apart o hvalue =>
    simp only [List.cons_append, List.nil_append, scan, Argument.ofBytes_option,
      Argument.ofBytes_of_standsAlone hvalue, settle]
    exact scan_of_pending h d _
  | flag f =>
    simp only [List.cons_append, List.nil_append, scan, Argument.ofBytes_flag, settle]
    show _ = (d.raise f).bind _
    cases d.raise f <;> rfl

/-- Arguments are taken as the settings that they spell, one after the other. -/
theorem scan_spelled {settings : List Setting} {args : List Bytes} (h : Spelled settings args)
    (d : Draft) : scan d none args = settings.foldlM Draft.add d := by
  induction h generalizing d with
  | nil => rfl
  | cons hs hrest ih =>
    rw [scan_setting hs hrest, List.foldlM_cons]
    simp only [ih]
    rfl

/-- A command line is the draft of the settings that it spells, completed. -/
theorem parse_spelled (program : Bytes) {settings : List Setting} {args : List Bytes}
    (h : Spelled settings args) :
    parse (program :: args) = (settings.foldlM Draft.add {}).bind Draft.complete := by
  rw [← scan_spelled h, parse, List.tail_cons]
  cases scan {} none args <;> rfl

end CommandLine

end ServiceScript
