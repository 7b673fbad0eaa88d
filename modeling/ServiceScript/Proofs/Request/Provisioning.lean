import ServiceScript.Proofs.Request.Text
import ServiceScript.Proofs.Shell.Commands

/-!
# ServiceScript — what a script prepares

Before it runs any command a script makes the directories of the unit, and with
an account hands them over and sets up the login shell. The name of the unit and
that of the account stand in many of these lines: as words of their own, behind
the name of a variable, and within messages. Here the lines are read as a shell
reads them, and listed as commands, each a list of words. No name adds a command
or a word to the list, and none brings in a character that the shell would act
upon: what it acts upon is the same for all names.

Main definitions:

* `provisionedDirectories` — the variables that are exported, with the roots of what
  they name;
* `provisioningCommands` — the commands, as lists of words.

Main result:

* `Request.commands_of_provisioning` — the lines are read as these commands.
-/

namespace ServiceScript

open Shell

-- ---------------------------------------------------------------------------
-- The commands
-- ---------------------------------------------------------------------------

/-- The commands of a failure check. The variable in them has not been expanded. -/
def failureCheckCommands (message : Text) : List (List Text) :=
  [["FATAL_ERR=$?"],
   ["if", "[", "$FATAL_ERR", "-ne", "0", "]"],
   ["then"],
   ["export", "FATAL_ERR"],
   ["echo", "Non-zero exit code $FATAL_ERR.", message],
   ["exit", "$FATAL_ERR"],
   ["fi"]]

/-- The variables that tell where the directories of a unit are, in the order in which
they are exported, each with the root that its directory lies under. -/
def provisionedDirectories : List (Text × Text) :=
  [("RUNTIME_DIRECTORY", "/run"),
   ("STATE_DIRECTORY", "/var/lib"),
   ("CACHE_DIRECTORY", "/var/cache"),
   ("LOGS_DIRECTORY", "/var/logs"),
   ("CONFIGURATION_DIRECTORY", "/etc")]

/-- The commands that make the directory of a unit under a root, tell where it is and,
with an account, hand it over. -/
def directoryCommands (name : Text) (user : Option Text) (variableName root : Text) :
    List (List Text) :=
  let path := root ++ '/' :: name
  let assignment := variableName ++ "=" ++ path
  let provision : List (List Text) :=
    ["mkdir", "-p", path] :: failureCheckCommands ("mkdir " ++ path ++ " for " ++ variableName)
  let announcement : List (List Text) := [["export", assignment], ["echo", assignment]]
  let handOver (u : Text) : List (List Text) := [["chown", u, path]]
  provision ++ announcement ++ user.toList.flatMap handOver

def loginShellCommands (user : Text) : List (List Text) :=
  [["echo", "setting login shell for " ++ user ++ " to /bin/sh so commands can be run as them"],
   ["chsh", user, "-s", "/bin/sh"]]

/-- The commands in front of the first export, for a unit name and the name of
an account. -/
def provisioningCommands (name : Text) (user : Option Text) : List (List Text) :=
  (provisionedDirectories.flatMap fun (variableName, root) =>
    directoryCommands name user variableName root) ++ user.toList.flatMap loginShellCommands

/-- The listed directories are those that every unit has, in the order in which they are
made. -/
theorem provisionedDirectories_eq :
    provisionedDirectories = Directory.all.map fun d => (d.variableName, d.root) := rfl

/-- The commands for them, by the directory. -/
theorem flatMap_directoryCommands (name : Text) (user : Option Text) :
    (provisionedDirectories.flatMap fun (variableName, root) =>
        directoryCommands name user variableName root) =
      Directory.all.flatMap fun d => directoryCommands name user d.variableName d.root := by
  rw [provisionedDirectories_eq, List.flatMap_map]

-- ---------------------------------------------------------------------------
-- The lines
-- ---------------------------------------------------------------------------

namespace Written

theorem readsCommands_emptyLine : ReadsCommands "\n" [] [] :=
  readsCommands_lineEnd (t := []) rfl

theorem readsWord_echo : ReadsWord "echo" "echo" [] := readsWord_plain (by decide)

theorem readsWord_export : ReadsWord "export" "export" [] := readsWord_plain (by decide)

theorem readsWord_statusVariable : ReadsWord statusVariable statusVariable [] :=
  readsWord_plain (by decide)

theorem readsWord_variableName (d : Directory) : ReadsWord d.variableName d.variableName [] := by
  cases d <;> exact readsWord_plain (by decide)

/-- The line that makes a directory is read as one command with the path for its last
word. -/
theorem readsCommands_makeDirectory (path : Text) :
    ReadsCommands (makeDirectory path) [["mkdir", "-p", path]] [] := by
  have hprogram : ReadsWord "mkdir" "mkdir" [] := readsWord_plain (by decide)
  have hoption : ReadsWord "-p" "-p" [] := readsWord_plain (by decide)
  have hline := (hprogram.words.append hoption.words).append (readsWord_word path).words
  exact readsCommands_emptyLine.append hline.commands

/-- The lines of a failure check in front of the one with its message. -/
def statusTest : Text :=
  statusVariable ++ "=$?" ++ "\n" ++
    ("if [ " ++ "\"$" ++ statusVariable ++ "\"" ++ " -ne 0 ]" ++ "\n" ++
      ("then" ++ "\n" ++ ("  " ++ ("export" ++ " " ++ statusVariable) ++ "\n")))

/-- The lines behind the one with the message. -/
def statusExit : Text :=
  "  " ++ ("exit" ++ " " ++ ("$" ++ statusVariable)) ++ "\n" ++ ("fi" ++ "\n")

/-- The lines in front of the message are read as commands of their own. -/
theorem readsCommands_statusTest :
    ReadsCommands statusTest
      [["FATAL_ERR=$?"], ["if", "[", "$FATAL_ERR", "-ne", "0", "]"], ["then"],
        ["export", "FATAL_ERR"]] "=$?[$" := by
  have hstatus : ReadsWord "=$?" "=$?" "=$?" := by decide
  have hassign := (readsWord_statusVariable.append hstatus).words
  have htest : ReadsWords ("if [ " ++ "\"$" ++ statusVariable ++ "\"" ++ " -ne 0 ]")
      ["if", "[", "$FATAL_ERR", "-ne", "0", "]"] "[$" := by decide
  have hthen : ReadsWord "then" "then" [] := readsWord_plain (by decide)
  have hexport := (readsWord_export.words.append readsWord_statusVariable.words).indent
  exact hassign.commands.append
    (htest.commands.append (hthen.words.commands.append hexport.commands))

/-- The lines behind the message are read as commands of their own. -/
theorem readsCommands_statusExit :
    ReadsCommands statusExit [["exit", "$FATAL_ERR"], ["fi"]] "$" := by
  have hdollar : ReadsWord "$" "$" "$" := by decide
  have hexit : ReadsWord "exit" "exit" [] := readsWord_plain (by decide)
  have hleave := (hexit.words.append (hdollar.append readsWord_statusVariable).words).indent
  have hfi : ReadsWord "fi" "fi" [] := readsWord_plain (by decide)
  exact hleave.commands.append hfi.words.commands

/-- A failure check is read with its message as one word, whatever is in it. -/
theorem readsCommands_failureCheck (message : Text) :
    ReadsCommands (failureCheck message) (failureCheckCommands message) "=$?[$$$" := by
  have hreport : ReadsWord ("\"Non-zero exit code $" ++ statusVariable ++ ".\"")
      "Non-zero exit code $FATAL_ERR." "$" := by decide
  have hecho := (readsWord_echo.words.append hreport.words).append (readsWord_word message).words
  have hlines := readsCommands_statusTest.append
    (hecho.indent.commands.append readsCommands_statusExit)
  have h := readsCommands_emptyLine.append hlines
  have hhead : failureCheckHead =
      "\n" ++ statusTest ++ ("  " ++ ("echo" ++ " " ++
        ("\"Non-zero exit code $" ++ statusVariable ++ ".\"") ++ " ")) := by
    unfold failureCheckHead statusTest
    -- only the texts around the variable are cut otherwise
    generalize statusVariable = v
    simp
  have htail : failureCheckTail = "\n" ++ statusExit := by
    simp [failureCheckTail, statusExit]
  unfold failureCheck
  rw [hhead, htail]
  simp only [List.append_assoc] at h ⊢
  exact h

/-- A line that assigns a path to a variable is read with both in one word. -/
theorem readsCommands_assign {command : Text} (hcommand : ReadsWord command command [])
    (d : Directory) (path : Text) :
    ReadsCommands (assign command d.variableName path)
      [[command, d.variableName ++ "=" ++ path]] "=" := by
  have hequals : ReadsWord "=" "=" "=" := by decide
  have hvalue := ((readsWord_variableName d).append hequals).append (readsWord_word path)
  have hline := (hcommand.words.append hvalue.words).commands
  unfold assign
  simp only [List.append_assoc] at hline ⊢
  exact hline

/-- The line that hands a path over is read with the user and the path as words. -/
theorem readsCommands_chown (user path : Text) :
    ReadsCommands (chown user path) [["chown", user, path]] [] := by
  have hprogram : ReadsWord "chown" "chown" [] := readsWord_plain (by decide)
  have hline := (hprogram.words.append (readsWord_word user).words).append
    (readsWord_word path).words
  exact hline.commands

/-- What is said in front of setting up a login shell. -/
theorem loginShellNotice_eq (user : Text) :
    Account.loginShellNotice ⟨user⟩ =
      "setting login shell for " ++ user ++ " to /bin/sh so commands can be run as them" := by
  unfold Account.loginShellNotice
  rw [List.append_assoc, List.append_assoc]
  rfl

/-- The lines for the login shell are read as the commands for it. -/
theorem readsCommands_loginShellLines (user : Text) :
    ReadsCommands (loginShellLines user) (loginShellCommands user) [] := by
  have hprogram : ReadsWord "chsh" "chsh" [] := readsWord_plain (by decide)
  have hshell : ReadsWords ("-s" ++ " " ++ loginShell) ["-s", "/bin/sh"] [] := by decide
  have hnotice := readsWord_echo.words.append
    (readsWord_word (Account.loginShellNotice ⟨user⟩)).words
  have hchange := (hprogram.words.append (readsWord_word user).words).append hshell
  have hlines := (hnotice.commands).append (hchange.commands)
  have h := (readsCommands_emptyLine.append hlines).append readsCommands_emptyLine
  unfold loginShellLines loginShellCommands
  rw [← loginShellNotice_eq user]
  simp only [List.append_assoc] at h ⊢
  exact h

/-- What is there for an account only, if it brings nothing in for the shell to
act upon. -/
theorem readsCommands_account {written : Text → Text} {lines : Text → List (List Text)}
    (h : ∀ user, ReadsCommands (written user) (lines user) []) (user : Option Text) :
    ReadsCommands (user.toList.flatMap written) (user.toList.flatMap lines) [] := by
  have hflat := ReadsCommands.flatMap h user.toList
  have hspecial : (user.toList.flatMap fun _ => ([] : Text)) = [] := by
    cases user <;> rfl
  rw [hspecial] at hflat
  exact hflat

/-- The lines for a directory are read as the commands for it. -/
theorem readsCommands_directory (name : Text) (user : Option Text) (d : Directory) :
    ReadsCommands (directory name user d) (directoryCommands name user d.variableName d.root)
      "=$?[$$$==" := by
  have hannouncement := (readsCommands_assign readsWord_export d (d.path name)).append
    (readsCommands_assign readsWord_echo d (d.path name))
  have hprovision := (readsCommands_makeDirectory (d.path name)).append
    ((readsCommands_failureCheck ("mkdir " ++ d.path name ++ " for " ++ d.variableName)).append
      hannouncement)
  have hchown := readsCommands_account (fun u => readsCommands_chown u (d.path name)) user
  have hhandOver := hchown.append readsCommands_emptyLine
  have h := hprovision.append hhandOver
  rw [List.append_nil] at h
  exact h

/-- All lines in front of the first export are read as the commands there. -/
theorem readsCommands_provisioning (name : Text) (user : Option Text) :
    ReadsCommands
      (Directory.all.flatMap (directory name user) ++ user.toList.flatMap loginShellLines)
      (provisioningCommands name user) (provisionedDirectories.flatMap fun _ => "=$?[$$$==") := by
  have hdirectories := ReadsCommands.flatMap (readsCommands_directory name user) Directory.all
  rw [← flatMap_directoryCommands] at hdirectories
  exact hdirectories.append (readsCommands_account readsCommands_loginShellLines user)

end Written

-- ---------------------------------------------------------------------------
-- Every name
-- ---------------------------------------------------------------------------

namespace Request

/-- The part of a script in front of the first export. -/
def provisioning (r : Request) : Script := r.directories ++ r.loginShellBlock

/-- Nothing but a name that cannot be quoted stops the part. -/
theorem fault?_provisioning {r : Request} (hname : '\x00' ∉ r.name)
    (huser : ∀ user ∈ r.unit.user?, '\x00' ∉ user) : Script.fault? r.provisioning = none := by
  have haccount : accountFault? r.account? = none := by
    unfold accountFault? account? Account.ofUnit?
    cases h : r.unit.user? with
    | none => rfl
    | some user => exact nulFault?_eq_none_iff.2 (huser user h)
  unfold provisioning
  rw [Script.fault?_append, fault?_directories, fault?_loginShellBlock r haccount, haccount,
    nulFault?_eq_none_iff.2 hname]
  rfl

/-- A part that is not stopped is read as the commands. -/
theorem readsCommands_text_provisioning {r : Request} (h : Script.fault? r.provisioning = none) :
    ReadsCommands r.provisioning.text (provisioningCommands r.name r.unit.user?)
      (provisionedDirectories.flatMap fun _ => "=$?[$$$==") := by
  have htext : r.provisioning.text =
      Directory.all.flatMap (Written.directory r.name r.unit.user?) ++
        r.unit.user?.toList.flatMap Written.loginShellLines :=
    (writes_directories r).append (writes_loginShellBlock r) h
  rw [htext]
  exact Written.readsCommands_provisioning r.name r.unit.user?

/-- **No name is read as anything but itself.** For a unit name and an account
without NUL the part is written, and a shell that takes its quotes off reads the
listed commands and no others. The characters that it acts upon are those of the
fixed texts: for each directory the same, whatever the names are. -/
theorem commands_of_provisioning (r : Request) (hname : '\x00' ∉ r.name)
    (huser : ∀ user ∈ r.unit.user?, '\x00' ∉ user) :
    r.provisioning.outcome = .ok ⟨⟩ ∧
      commands? r.provisioning.text = some (provisioningCommands r.name r.unit.user?) ∧
      specials? r.provisioning.text = some (provisionedDirectories.flatMap fun _ => "=$?[$$$==") := by
  have hfault := fault?_provisioning hname huser
  have h := readsCommands_text_provisioning hfault
  exact ⟨(Script.outcome_eq_ok_iff _).2 hfault, h.commands?_eq, h.specials?_eq⟩

/-- Names with blanks, line ends, quotes and an expansion in them. -/
theorem commands_of_provisioning_hostile :
    let user : Text := "a'b\n\"$(id)\" \x60id\x60"
    let r : Request := ⟨(∅ : ServiceUnit).set serviceSection userKey user,
      "my ^app; rm -rf \\\n", "/bin/sh", false⟩
    ('\x00' ∉ r.name ∧ ∀ u ∈ r.unit.user?, '\x00' ∉ u) ∧
      r.provisioning.outcome = .ok ⟨⟩ ∧
      commands? r.provisioning.text = some (provisioningCommands r.name r.unit.user?) ∧
      specials? r.provisioning.text = some (provisionedDirectories.flatMap fun _ => "=$?[$$$==") := by
  intro user r
  have hname : '\x00' ∉ r.name := by decide
  have huser : ∀ u ∈ r.unit.user?, '\x00' ∉ u := by decide
  exact ⟨⟨hname, huser⟩, commands_of_provisioning r hname huser⟩

end Request

end ServiceScript
