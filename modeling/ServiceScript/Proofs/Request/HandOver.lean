import ServiceScript.Proofs.Request.Text
import ServiceScript.Proofs.Unit.Directives

/-!
# ServiceScript — what an account changes about a script

A unit that names an account has the script that it would have without one, and
more. Here the script of a unit is written down once for both cases, with marks
on what the account changes: the lines that are there for the account only, and
the command lines, which an account runs from a here-document. Everything that
bears no mark is the same text in the same place.

What can be wrong with the unit is the same as well, if the account has a name
that can be quoted. So no unit loses its script by naming an account, and none
gains one.

Main definitions:

* `Stretch` — a stretch of a script with its mark;
* `Written.marked` — the marked script of a unit.

Main result:

* `Request.script_of_account` — the scripts of a unit with and without account.
-/

namespace ServiceScript

/-- A stretch of a script, with what an account changes about it. -/
inductive Stretch where
  -- the same with and without account
  | shared (t : Text)
  -- there for an account only, and made of its name
  | added (line : Text → Text)
  -- a command line, without its line end
  | command (line : Text)

/-- The text of a stretch in the script without account, or with an account of
that name. -/
def Stretch.text : Option Text → Stretch → Text
  | _, .shared t => t
  | none, .added _ => []
  | some user, .added line => line user
  | none, .command line => line ++ "\n"
  | some user, .command line =>
    "/bin/su " ++ Shell.word user ++ " <<'EOSUWRAPPEDCMD'\n" ++ line ++ "\nEOSUWRAPPEDCMD\n"

@[simp] theorem Stretch.text_shared (user : Option Text) (t : Text) :
    Stretch.text user (.shared t) = t := by
  cases user <;> rfl

/-- What is there for an account only is there once, or not at all. -/
theorem Stretch.text_added (user : Option Text) (line : Text → Text) :
    Stretch.text user (.added line) = user.toList.flatMap line := by
  cases user with
  | none => rfl
  | some u => exact (List.flatMap_singleton line u).symm

/-- A command line is written as a command is. -/
theorem Stretch.text_command (user : Option Text) (line : Text) :
    Stretch.text user (.command line) = Written.command user line := by
  cases user with
  | none => rfl
  | some u =>
    have hhead : ("/bin/su " : Text) = switchProgram ++ " " := rfl
    have hstart : (" <<'EOSUWRAPPEDCMD'\n" : Text) = " <<'" ++ (hereDocumentEnd ++ "'\n") := rfl
    have hend : ("\nEOSUWRAPPEDCMD\n" : Text) = "\n" ++ (hereDocumentEnd ++ "\n") := rfl
    unfold Stretch.text Written.command Written.switchHead Written.switchTail
    rw [hhead, hstart, hend]
    simp only [List.append_assoc]

namespace Written

-- ---------------------------------------------------------------------------
-- The marked script
-- ---------------------------------------------------------------------------

/-- A directory is handed over behind the line that tells where it is. -/
def markedDirectory (name : Text) (d : Directory) : List Stretch :=
  [.shared (makeDirectory (d.path name)),
   .shared (failureCheck ("mkdir " ++ d.path name ++ " for " ++ d.variableName)),
   .shared (assign "export" d.variableName (d.path name)),
   .shared (assign "echo" d.variableName (d.path name)),
   .added fun user => chown user (d.path name),
   .shared "\n"]

def markedPreCommand (raw : Text) : List Stretch :=
  [.command (ExecCommand.parse raw).commandLine,
   .shared (failureCheck ("command: " ++ raw))]

def markedMainCommand (raw : Text) : List Stretch :=
  [.shared (echo ("Running ExecStart " ++ raw)),
   .command (ExecCommand.parse raw).commandLine,
   .shared (failureCheck "running ExecStart")]

/-- The script of a unit, whatever account it names. -/
def marked (name interpreter : Text) (e : EffectiveUnit) : List Stretch :=
  .shared ("#!" ++ interpreter ++ "\n") ::
    (Directory.all.flatMap (markedDirectory name) ++
      .added loginShellLines ::
      .shared (e.environment.flatMap exported) ::
      .shared (e.workingDirectory.toList.flatMap workingDirectory) ::
      .shared (echo "Running ExecStartPre commands") ::
      (e.execStartPre.flatMap markedPreCommand ++
        e.execStart.toList.flatMap markedMainCommand))

/-- The stretches of a directory make up what is written for it. -/
theorem text_markedDirectory (name : Text) (user : Option Text) (d : Directory) :
    (markedDirectory name d).flatMap (Stretch.text user) = directory name user d := by
  simp [markedDirectory, directory, provision, Stretch.text_added]

theorem text_markedPreCommand (user : Option Text) (raw : Text) :
    (markedPreCommand raw).flatMap (Stretch.text user) = preCommand user raw := by
  simp [markedPreCommand, preCommand, Stretch.text_command]

theorem text_markedMainCommand (user : Option Text) (raw : Text) :
    (markedMainCommand raw).flatMap (Stretch.text user) = mainCommand user raw := by
  simp [markedMainCommand, mainCommand, Stretch.text_command]

/-- The marks are all that an account is asked for. -/
theorem text_marked (name interpreter : Text) (e : EffectiveUnit) :
    (marked name interpreter e).flatMap (Stretch.text e.user) = script name interpreter e := by
  simp only [marked, script, setup, body, List.flatMap_cons, List.flatMap_append,
    List.flatMap_assoc, Stretch.text_shared, Stretch.text_added, text_markedDirectory,
    text_markedPreCommand, text_markedMainCommand, List.append_assoc]

end Written

-- ---------------------------------------------------------------------------
-- With and without account
-- ---------------------------------------------------------------------------

namespace ServiceUnit

/-- Without its user a unit is the same in all else that is effective. -/
theorem effective_unset_user (u : ServiceUnit) :
    (u.unset serviceSection userKey).effective = { u.effective with user := none } := by
  have hdirectory : workingDirectoryKey ≠ userKey := by decide
  have hstart : execStartKey ≠ userKey := by decide
  simp [effective, get?_unset, environment_unset, execStartPre_unset, hdirectory, hstart]

/-- With another user a unit is the same in all else that is effective. -/
theorem effective_set_user (u : ServiceUnit) (user : Text) :
    (u.set serviceSection userKey user).effective = { u.effective with user := some user } := by
  have hdirectory : workingDirectoryKey ≠ userKey := by decide
  have hstart : execStartKey ≠ userKey := by decide
  have henvironment : (u.set serviceSection userKey user).environment = u.environment := rfl
  have hexecStartPre : (u.set serviceSection userKey user).execStartPre = u.execStartPre := rfl
  simp [effective, get?_set, henvironment, hexecStartPre, hdirectory, hstart]

end ServiceUnit

namespace Request

/-- Of the effective unit, a fault can be in every value but the assignments. -/
theorem faults_eq (r : Request) :
    r.faults =
      [nameFault? r.name,
       nulFault? r.name ("/run/" ++ r.name),
       r.unit.effective.user.bind fun user => nulFault? user user,
       r.unit.effective.workingDirectory.bind fun directory =>
         nulFault? directory ("WorkingDirectory=" ++ directory),
       r.unit.effective.execStartPre.findSome? preCommandFault?,
       mainCommandFault? r.strict r.unit.effective.execStart] := rfl

/-- A name that can be quoted is no fault, so it does not matter if it is there. -/
theorem faults_of_account (u : ServiceUnit) (name interpreter : Text) (strict : Bool)
    {user : Text} (huser : '\x00' ∉ user) :
    (⟨u.set serviceSection userKey user, name, interpreter, strict⟩ : Request).faults =
      (⟨u.unset serviceSection userKey, name, interpreter, strict⟩ : Request).faults := by
  rw [faults_eq, faults_eq]
  dsimp only
  rw [u.effective_set_user, u.effective_unset_user]
  dsimp only
  rw [Option.bind_some, Option.bind_none, nulFault?_eq_none_iff.2 huser]

/-- A script that completes is written stretch by stretch. -/
theorem text_of_completes {r : Request} (h : r.script.outcome = .ok ⟨⟩) :
    r.script.text =
      (Written.marked r.name r.interpreter r.unit.effective).flatMap
        (Stretch.text r.unit.effective.user) := by
  rw [writes_script r ((Script.outcome_eq_ok_iff _).1 h), Written.text_marked]

/-- **What an account changes about a script.** With an account whose name can
be quoted a script ends as it does without one. And if it completes, both are
the marked script: without the lines that are there for the account and with the
commands as they are, and with these lines and with the commands in
here-documents. -/
theorem script_of_account (u : ServiceUnit) (name interpreter : Text) (strict : Bool)
    {user : Text} (huser : '\x00' ∉ user) :
    let r₀ : Request := ⟨u.unset serviceSection userKey, name, interpreter, strict⟩
    let r₁ : Request := ⟨u.set serviceSection userKey user, name, interpreter, strict⟩
    let stretches := Written.marked name interpreter u.effective
    r₁.script.outcome = r₀.script.outcome ∧
      (r₀.script.outcome = .ok ⟨⟩ →
        r₀.script.text = stretches.flatMap (Stretch.text none) ∧
          r₁.script.text = stretches.flatMap (Stretch.text (some user))) := by
  intro r₀ r₁ stretches
  have houtcome : r₁.script.outcome = r₀.script.outcome := by
    rw [Script.outcome_eq_of_fault?, Script.outcome_eq_of_fault?, fault?_script, fault?_script,
      faults_of_account u name interpreter strict huser]
  refine ⟨houtcome, fun hok => ?_⟩
  have htext₀ := text_of_completes hok
  have htext₁ := text_of_completes (houtcome.trans hok)
  rw [u.effective_unset_user] at htext₀
  rw [u.effective_set_user] at htext₁
  exact ⟨htext₀, htext₁⟩

/-- A unit with a command that may fail, and an account whose name is no plain
word. -/
theorem script_of_account_quoted :
    let u : ServiceUnit := ServiceUnit.addAll ∅
      [⟨serviceSection, execStartPreKey, "-/bin/false"⟩, ⟨serviceSection, execStartKey, "/bin/true"⟩]
    let r₀ : Request := ⟨u.unset serviceSection userKey, "demo", "/bin/sh", true⟩
    let r₁ : Request := ⟨u.set serviceSection userKey "alice; id", "demo", "/bin/sh", true⟩
    let stretches := Written.marked "demo" "/bin/sh" u.effective
    '\x00' ∉ ("alice; id" : Text) ∧ r₀.script.outcome = .ok ⟨⟩ ∧ r₁.script.outcome = .ok ⟨⟩ ∧
      r₀.script.text = stretches.flatMap (Stretch.text none) ∧
      r₁.script.text = stretches.flatMap (Stretch.text (some "alice; id")) := by
  intro u r₀ r₁ stretches
  have huser : '\x00' ∉ ("alice; id" : Text) := by decide
  have hok : r₀.script.outcome = .ok ⟨⟩ := by
    rw [Script.outcome_eq_ok_iff, fault?_script]
    rfl
  obtain ⟨houtcome, htexts⟩ := script_of_account u "demo" "/bin/sh" true huser
  obtain ⟨htext₀, htext₁⟩ := htexts hok
  exact ⟨huser, hok, houtcome.trans hok, htext₀, htext₁⟩

end Request

end ServiceScript
