import ServiceScript.Exec

/-!
# ServiceScript — the run of modifiers in front of a command

`ExecCommand.parse` reads a value character by character. Here a value is cut
once instead: into the longest **run** of modifier characters at its beginning,
and the body behind it. Everything that a script does with a command depends on
the run only through two questions, whether it has a `@` and whether it has a
`-`.

Main results:

* `ExecCommand.has_parse` — a modifier was given if its character is in the run;
* `ExecCommand.commandLine_parse` — the command line in terms of run and body;
* `ExecCommand.wrap_parse` — what wrapping a command gives, fault by fault.
-/

namespace ServiceScript

def modifierChars : Text := "@-:+!"

/-- The longest beginning of a value that is made of modifier characters. -/
def leadingRun (raw : Text) : Text := raw.takeWhile modifierChars.contains

def behindRun (raw : Text) : Text := raw.dropWhile modifierChars.contains

/-- A command is its run of modifiers with the rest behind it. -/
theorem leadingRun_append_behindRun (raw : Text) : leadingRun raw ++ behindRun raw = raw :=
  List.takeWhile_append_dropWhile

/-- The fault of a command that no script can run: one that is to run under
another name for itself, or one with nothing to run behind its modifiers. -/
def commandFault? (directive raw : Text) : Option Fault :=
  if '@' ∈ leadingRun raw then some (.argvZero raw)
  else if (behindRun raw).allBlank then some (.emptyCommand directive raw)
  else none

-- ---------------------------------------------------------------------------
-- The run and the modifiers
-- ---------------------------------------------------------------------------

/-- The characters of the run are those of the modifiers. -/
theorem modifierChars_eq_map : modifierChars = Modifier.all.map Modifier.char := rfl

/-- A character stands for a modifier exactly if it is one of the run. -/
theorem Modifier.isSome_ofChar? (c : Char) :
    (Modifier.ofChar? c).isSome = modifierChars.contains c := by
  rw [Bool.eq_iff_iff, Option.isSome_iff_exists, List.contains_iff_mem, modifierChars_eq_map,
    List.mem_map]
  constructor
  · rintro ⟨m, hm⟩
    exact ⟨m, m.mem_all, Modifier.ofChar?_eq_some_iff.1 hm⟩
  · rintro ⟨m, -, hm⟩
    exact ⟨m, Modifier.ofChar?_eq_some_iff.2 hm⟩

namespace ExecCommand

/-- Parsing cuts a command behind its run, and reads the run character by character. -/
theorem parse_eq (raw : Text) :
    parse raw = ⟨(leadingRun raw).filterMap Modifier.ofChar?, behindRun raw⟩ := by
  induction raw with
  | nil => rfl
  | cons c rest ih =>
    -- `parse` goes on exactly where the run does
    have hc := Modifier.isSome_ofChar? c
    rw [parse, leadingRun, behindRun, List.takeWhile_cons, List.dropWhile_cons, ← hc]
    cases hm : Modifier.ofChar? c with
    | none => simp
    | some m => simp [hm, ih, leadingRun, behindRun]

@[simp] theorem body_parse (raw : Text) : (parse raw).body = behindRun raw := by
  rw [parse_eq]

/-- A modifier was given if its character is in the run, at any place and any
number of times. -/
theorem has_parse (raw : Text) (m : Modifier) :
    (parse raw).has m = true ↔ m.char ∈ leadingRun raw := by
  rw [has, List.contains_iff_mem, parse_eq, List.mem_filterMap]
  constructor
  · rintro ⟨c, hc, hm⟩
    rw [Modifier.ofChar?_eq_some_iff.1 hm]
    exact hc
  · intro h
    exact ⟨m.char, h, Modifier.ofChar?_eq_some_iff.2 rfl⟩

-- ---------------------------------------------------------------------------
-- The command line
-- ---------------------------------------------------------------------------

/-- The line of a command is its body, guarded if there is a dash in the run. -/
theorem commandLine_parse (raw : Text) :
    (parse raw).commandLine =
      behindRun raw ++ if '-' ∈ leadingRun raw then ignoreFailureGuard else [] := by
  have h : _ ↔ '-' ∈ leadingRun raw := has_parse raw .ignoreFailure
  rw [commandLine, body_parse]
  split
  · next hg => rw [if_pos (h.1 hg)]
  · next hg => rw [if_neg fun hm => hg (h.2 hm), List.append_nil]

/-- Wrapping reports a `@` before a blank body; else the command line is there,
and is fed to a shell of the account if there is an account. -/
theorem wrap_parse (raw directive : Text) (account : Option Account) :
    (parse raw).wrap directive account =
      match commandFault? directive raw with
      | some f => .error f
      | none => match account with
        | some a => a.runAs (parse raw).commandLine
        | none => .ok (parse raw).commandLine := by
  -- the two checks of `wrap` are the two cases of `commandFault?`, in the same order
  have h : _ ↔ '@' ∈ leadingRun raw := has_parse raw .argvZero
  unfold wrap commandFault?
  rw [raw_parse, body_parse]
  by_cases ha : '@' ∈ leadingRun raw
  · rw [if_pos (h.2 ha), if_pos ha]
  · rw [if_neg fun hm => ha (h.1 hm), if_neg ha]
    by_cases hb : (behindRun raw).allBlank = true
    · rw [if_pos hb, if_pos hb]
    · cases account <;> simp only [if_neg hb]

end ExecCommand

end ServiceScript
