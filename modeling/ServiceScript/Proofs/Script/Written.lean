import ServiceScript.Proofs.Exec.ModifierRun
import ServiceScript.Proofs.Script.Completion
import ServiceScript.Request

/-!
# ServiceScript — the lines of a script as they are written

A step of a script quotes a text and puts the word into a line. The line is
given here as a plain text, next to the only thing that can go wrong with the
step: a NUL in the text that it quotes. Whatever is shown of whole scripts, of
their faults or of their texts, reads its steps in this form.

Main definitions:

* `nulFault?` — the fault of a text that cannot be a word;
* `Step.guarded` — the step that writes a text unless there is a fault;
* `Written` — the lines, where nothing is refused.
-/

namespace ServiceScript

/-- The fault of a part with a NUL in it, in the text that it would be quoted
in. -/
def nulFault? (part quoted : Text) : Option Fault :=
  if '\x00' ∈ part then some (.unquotable quoted) else none

/-- A part has no fault exactly if it has no NUL. -/
theorem nulFault?_eq_none_iff {part quoted : Text} :
    nulFault? part quoted = none ↔ '\x00' ∉ part := by
  unfold nulFault?
  split <;> simp [*]

/-- Parts with a NUL in both or in neither have the same fault. -/
theorem nulFault?_congr {part other : Text} (quoted : Text)
    (h : '\x00' ∈ part ↔ '\x00' ∈ other) : nulFault? part quoted = nulFault? other quoted := by
  simp only [nulFault?, h]

theorem nul_mem_append {fixed : Text} (part : Text) (h : '\x00' ∉ fixed) :
    '\x00' ∈ fixed ++ part ↔ '\x00' ∈ part := by
  rw [List.mem_append]
  exact or_iff_right h

-- ---------------------------------------------------------------------------
-- Guarded steps
-- ---------------------------------------------------------------------------

/-- The step that writes a text unless there is a fault. -/
def Step.guarded (fault? : Option Fault) (written : Text) : Step :=
  match fault? with
  | none => .ok written
  | some f => .error f

@[simp] theorem Step.fault?_guarded (fault? : Option Fault) (written : Text) :
    (Step.guarded fault? written).fault? = fault? := by
  cases fault? <;> rfl

/-- A step in its guarded form writes its text. -/
theorem Script.Writes.of_guarded {step : Step} {fault? : Option Fault} {written : Text}
    (h : step = Step.guarded fault? written) : Script.Writes [step] written := by
  subst h
  cases fault? with
  | none => exact Writes.ok written
  | some f => exact fun h => absurd h (by simp)

/-- A text that goes on from a guarded one is guarded by the same fault. -/
theorem Step.guarded_bind_pure (fault? : Option Fault) (written : Text) (f : Text → Text) :
    (Step.guarded fault? written >>= fun t => pure (f t)) = Step.guarded fault? (f written) := by
  cases fault? <;> rfl

theorem closeLine_guarded (fault? : Option Fault) (written : Text) :
    closeLine (Step.guarded fault? written) = Step.guarded fault? (written ++ "\n") :=
  Step.guarded_bind_pure fault? written _

/-- Quoting adds a guard against NUL in front. -/
theorem Shell.quote_bind_guarded {t : Text} {step : Text → Step} {fault? : Option Fault}
    {written : Text} (h : step (Shell.word t) = Step.guarded fault? written) :
    (Shell.quote t >>= step) = Step.guarded ((nulFault? t t).or fault?) written := by
  unfold Shell.quote nulFault?
  split
  · rfl
  · exact h

/-- Quoting is guarded against NUL. -/
theorem Shell.quote_bind_pure (t : Text) (written : Text → Text) :
    (Shell.quote t >>= fun quoted => pure (written quoted)) =
      Step.guarded (nulFault? t t) (written (Shell.word t)) := by
  have h : pure (written (Shell.word t)) = Step.guarded none (written (Shell.word t)) := rfl
  rw [Shell.quote_bind_guarded h, Option.or_none]

-- ---------------------------------------------------------------------------
-- The lines
-- ---------------------------------------------------------------------------

namespace Written

def failureCheckHead : Text :=
  "\n" ++ statusVariable ++ "=$?\n" ++ "if [ \"$" ++ statusVariable ++ "\" -ne 0 ]\n" ++
    "then\n" ++ "  export " ++ statusVariable ++ "\n" ++
    "  echo \"Non-zero exit code $" ++ statusVariable ++ ".\" "

def failureCheckTail : Text :=
  "\n" ++ "  exit $" ++ statusVariable ++ "\n" ++ "fi\n"

def failureCheck (message : Text) : Text :=
  failureCheckHead ++ Shell.word message ++ failureCheckTail

def makeDirectory (path : Text) : Text := "\nmkdir -p " ++ Shell.word path ++ "\n"

def echo (message : Text) : Text := "echo " ++ Shell.word message ++ "\n"

def assign (command name value : Text) : Text :=
  command ++ " " ++ name ++ "=" ++ Shell.word value ++ "\n"

def chown (user path : Text) : Text :=
  "chown " ++ Shell.word user ++ " " ++ Shell.word path ++ "\n"

/-- The lines that give an account its login shell, apart from other lines. -/
def loginShellLines (user : Text) : Text :=
  "\n" ++ ("echo " ++ Shell.word (Account.loginShellNotice ⟨user⟩) ++ "\nchsh " ++
    Shell.word user ++ " -s " ++ loginShell ++ "\n") ++ "\n"

/-- What stands in front of a command line: nothing, or the line that starts the
shell of an account. -/
def switchHead : Option Text → Text
  | none => []
  | some user => switchProgram ++ " " ++ Shell.word user ++ " <<'" ++ hereDocumentEnd ++ "'\n"

/-- What stands behind a command line, its own line end included. -/
def switchTail : Option Text → Text
  | none => "\n"
  | some _ => "\n" ++ hereDocumentEnd ++ "\n"

def command (user : Option Text) (line : Text) : Text :=
  switchHead user ++ line ++ switchTail user

end Written

-- ---------------------------------------------------------------------------
-- The steps in their guarded form
-- ---------------------------------------------------------------------------

/-- A failure check is written unless its message has a NUL. -/
theorem failureCheck_eq (message : Text) :
    failureCheck message =
      Step.guarded (nulFault? message message) (Written.failureCheck message) := by
  unfold failureCheck Written.failureCheck Written.failureCheckHead Written.failureCheckTail
  rw [Shell.quote_bind_pure]
  simp only [List.append_assoc]

/-- A directory is made unless its path has a NUL. -/
theorem makeDirectoryLine_eq (path : Text) :
    makeDirectoryLine path = Step.guarded (nulFault? path path) (Written.makeDirectory path) :=
  Shell.quote_bind_pure path _

/-- A message is echoed unless it has a NUL. -/
theorem echoLine_eq (message : Text) :
    echoLine message = Step.guarded (nulFault? message message) (Written.echo message) :=
  Shell.quote_bind_pure message _

/-- A value is assigned unless it has a NUL. -/
theorem assignLine_eq (command name value : Text) :
    assignLine command name value =
      Step.guarded (nulFault? value value) (Written.assign command name value) :=
  Shell.quote_bind_pure value _

/-- Of two names that cannot be quoted, that of the account is reported. -/
theorem closeLine_chown_eq (a : Account) (path : Text) :
    closeLine (a.chown path) =
      Step.guarded ((nulFault? a.name a.name).or (nulFault? path path))
        (Written.chown a.name path) := by
  unfold Account.chown
  -- the name is quoted first, so its fault guards the other one
  rw [Shell.quote_bind_guarded (Shell.quote_bind_pure path _), closeLine_guarded]
  rfl

/-- A login shell is set up unless the name of the account has a NUL. -/
theorem loginShellLines_eq (a : Account) :
    Request.loginShellLines a =
      Step.guarded ((nulFault? a.loginShellNotice a.loginShellNotice).or
        (nulFault? a.name a.name)) (Written.loginShellLines a.name) := by
  unfold Request.loginShellLines Account.loginShellSetup
  rw [Shell.quote_bind_guarded (Shell.quote_bind_pure a.name _), Step.guarded_bind_pure]
  rfl

/-- A line is run as an account unless the name of the account has a NUL. -/
theorem closeLine_runAs_eq (a : Account) (line : Text) :
    closeLine (a.runAs line) =
      Step.guarded (nulFault? a.name a.name) (Written.command (some a.name) line) := by
  unfold Account.runAs Written.command Written.switchHead Written.switchTail
  rw [Shell.quote_bind_pure, closeLine_guarded]
  simp only [List.append_assoc]

/-- A wrapped command: the faults of the command come before that of the
account. -/
theorem closeLine_wrap_eq (raw directive : Text) (account : Option Account) :
    closeLine ((ExecCommand.parse raw).wrap directive account) =
      Step.guarded
        ((commandFault? directive raw).or (account.bind fun a => nulFault? a.name a.name))
        (Written.command (account.map Account.name) (ExecCommand.parse raw).commandLine) := by
  rw [ExecCommand.wrap_parse]
  cases commandFault? directive raw with
  | some f => rfl
  | none =>
    cases account with
    | none => rfl
    | some a => exact closeLine_runAs_eq a _

end ServiceScript
