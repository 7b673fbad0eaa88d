import ServiceScript.Proofs.Request.Outcome

/-!
# ServiceScript — the text of a script

Of everything that a unit file says, a script depends on five things: the
account, the assignments, the commands that run before the service, the working
directory, and the service itself. Together they are the **effective** unit. The
text of a script that completes is written here as a function of them, the name
and the interpreter, without any step that could fail.

Main results:

* `Request.script_congr` — a script depends on the effective unit only;
* `Request.writes_script` — a script that completes has that text.
-/

namespace ServiceScript

/-- What a script makes of a unit. -/
@[ext] structure EffectiveUnit where
  user : Option Text
  environment : List Text
  execStartPre : List Text
  workingDirectory : Option Text
  execStart : Option Text
deriving DecidableEq

def ServiceUnit.effective (u : ServiceUnit) : EffectiveUnit where
  user := u.get? serviceSection userKey
  environment := u.environment
  execStartPre := u.execStartPre
  workingDirectory := u.get? serviceSection workingDirectoryKey
  execStart := u.get? serviceSection execStartKey

-- ---------------------------------------------------------------------------
-- The blocks as texts
-- ---------------------------------------------------------------------------

namespace Written

/-- What a directory block begins with, whatever the account. -/
def provision (name : Text) (d : Directory) : Text :=
  makeDirectory (d.path name) ++
    (failureCheck ("mkdir " ++ d.path name ++ " for " ++ d.variableName) ++
      (assign "export" d.variableName (d.path name) ++ assign "echo" d.variableName (d.path name)))

def directory (name : Text) (user : Option Text) (d : Directory) : Text :=
  provision name d ++ (user.toList.flatMap (fun u => chown u (d.path name)) ++ "\n")

def exported (assignment : Text) : Text := "export " ++ assignment ++ "\n"

def workingDirectory (path : Text) : Text :=
  echo (workingDirectoryKey ++ "=" ++ path) ++
    (("cd " ++ path ++ "\n") ++ failureCheck "changing to working directory")

def preCommand (user : Option Text) (raw : Text) : Text :=
  command user (ExecCommand.parse raw).commandLine ++ failureCheck ("command: " ++ raw)

def mainCommand (user : Option Text) (raw : Text) : Text :=
  echo ("Running ExecStart " ++ raw) ++
    (command user (ExecCommand.parse raw).commandLine ++ failureCheck "running ExecStart")

/-- Everything in front of the first export: it depends on the account alone. -/
def setup (name interpreter : Text) (user : Option Text) : Text :=
  "#!" ++ interpreter ++ "\n" ++
    (Directory.all.flatMap (directory name user) ++ user.toList.flatMap loginShellLines)

def body (e : EffectiveUnit) : Text :=
  e.environment.flatMap exported ++ (e.workingDirectory.toList.flatMap workingDirectory ++
    (echo "Running ExecStartPre commands" ++ (e.execStartPre.flatMap (preCommand e.user) ++
      e.execStart.toList.flatMap (mainCommand e.user))))

def script (name interpreter : Text) (e : EffectiveUnit) : Text :=
  setup name interpreter e.user ++ body e

end Written

-- ---------------------------------------------------------------------------
-- What the blocks write
-- ---------------------------------------------------------------------------

namespace Request

/-- No script depends on anything else in the unit. -/
theorem script_congr {u v : ServiceUnit} (h : u.effective = v.effective)
    (name interpreter : Text) (strict : Bool) :
    (⟨u, name, interpreter, strict⟩ : Request).script =
      (⟨v, name, interpreter, strict⟩ : Request).script := by
  have huser : u.user? = v.user? := congrArg EffectiveUnit.user h
  have henv : u.environment = v.environment := congrArg EffectiveUnit.environment h
  have hpre : u.execStartPre = v.execStartPre := congrArg EffectiveUnit.execStartPre h
  have hdir : u.get? serviceSection workingDirectoryKey =
      v.get? serviceSection workingDirectoryKey :=
    congrArg EffectiveUnit.workingDirectory h
  have hmain : u.get? serviceSection execStartKey = v.get? serviceSection execStartKey :=
    congrArg EffectiveUnit.execStart h
  simp only [script, interpreterLine, directories, loginShellBlock, exports, workingDirectoryBlock,
    preCommands, mainCommand, directive, ServiceUnit.require, account?, Account.ofUnit?, huser,
    henv, hpre, hdir, hmain]

/-- What is written for a directory. -/
theorem writes_directoryBlock (name : Text) (user : Option Text) (d : Directory) :
    (directoryBlock name (user.map Account.mk) d).Writes (Written.directory name user d) := by
  have hfixed : Script.Writes
      [makeDirectoryLine (d.path name),
       failureCheck ("mkdir " ++ d.path name ++ " for " ++ d.variableName),
       assignLine "export" d.variableName (d.path name),
       assignLine "echo" d.variableName (d.path name)] (Written.provision name d) :=
    (Script.Writes.of_guarded (makeDirectoryLine_eq _)).cons
      ((Script.Writes.of_guarded (failureCheck_eq _)).cons
        ((Script.Writes.of_guarded (assignLine_eq _ _ _)).cons
          (Script.Writes.of_guarded (assignLine_eq _ _ _))))
  -- with no account there is nothing to hand over
  have hchown := Script.Writes.map
    (fun u => Script.Writes.of_guarded (closeLine_chown_eq ⟨u⟩ (d.path name))) user.toList
  rw [directoryBlock, Written.directory, Option.toList_map, List.map_map, ← List.append_assoc]
  exact (hfixed.append hchown).append (Script.Writes.ok "\n")

/-- What is written for all directories. -/
theorem writes_directories (r : Request) :
    r.directories.Writes (Directory.all.flatMap (Written.directory r.name r.unit.effective.user)) :=
  Script.Writes.flatMap fun d _ => writes_directoryBlock r.name r.unit.effective.user d

/-- What is written for the login shell. -/
theorem writes_loginShellBlock (r : Request) :
    r.loginShellBlock.Writes (r.unit.effective.user.toList.flatMap Written.loginShellLines) := by
  have haccount : r.account? = r.unit.effective.user.map Account.mk := rfl
  rw [loginShellBlock, haccount, Option.toList_map, List.map_map]
  exact Script.Writes.map (fun u => Script.Writes.of_guarded (loginShellLines_eq ⟨u⟩)) _

theorem writes_exports (r : Request) :
    r.exports.Writes (r.unit.effective.environment.flatMap Written.exported) :=
  Script.Writes.map (fun a => Script.Writes.ok (Written.exported a)) _

/-- What is written for the working directory. -/
theorem writes_workingDirectoryBlock (r : Request) :
    r.workingDirectoryBlock.Writes
      (r.unit.effective.workingDirectory.toList.flatMap Written.workingDirectory) := by
  unfold workingDirectoryBlock ServiceUnit.effective
  cases r.unit.get? serviceSection workingDirectoryKey with
  | none => exact Script.Writes.nil
  | some path =>
    rw [Option.toList_some, List.flatMap_singleton]
    exact (Script.Writes.of_guarded (echoLine_eq _)).cons
      ((Script.Writes.ok ("cd " ++ path ++ "\n")).cons
        (Script.Writes.of_guarded (failureCheck_eq _)))

/-- What is written for a command line. -/
theorem writes_wrap (raw directive : Text) (user : Option Text) :
    Script.Writes [closeLine ((ExecCommand.parse raw).wrap directive (user.map Account.mk))]
      (Written.command user (ExecCommand.parse raw).commandLine) := by
  have h := closeLine_wrap_eq raw directive (user.map Account.mk)
  have hname : (user.map Account.mk).map Account.name = user := by cases user <;> rfl
  rw [hname] at h
  exact Script.Writes.of_guarded h

/-- What is written for the commands that run before the service. -/
theorem writes_preCommands (r : Request) :
    r.preCommands.Writes (Written.echo "Running ExecStartPre commands" ++
      r.unit.effective.execStartPre.flatMap (Written.preCommand r.unit.effective.user)) := by
  refine (Script.Writes.of_guarded (echoLine_eq _)).cons (Script.Writes.flatMap fun raw _ => ?_)
  exact (writes_wrap raw execStartPreKey r.unit.effective.user).cons
    (Script.Writes.of_guarded (failureCheck_eq _))

/-- What is written for the service. -/
theorem writes_mainCommand (r : Request) :
    r.mainCommand.Writes
      (r.unit.effective.execStart.toList.flatMap
        (Written.mainCommand r.unit.effective.user)) := by
  cases h : r.unit.get? serviceSection execStartKey with
  | none =>
    have heffective : r.unit.effective.execStart = none := h
    rw [heffective, mainCommand_of_none h]
    -- with no command to write, a strict request does not complete
    cases r.strict with
    | false => exact Script.Writes.nil
    | true => exact fun hfault => absurd hfault (by simp [Step.fault?])
  | some raw =>
    have heffective : r.unit.effective.execStart = some raw := h
    rw [heffective, mainCommand_of_some h, Option.toList_some, List.flatMap_singleton]
    exact (Script.Writes.of_guarded (echoLine_eq _)).cons
      ((writes_wrap raw execStartKey r.unit.effective.user).cons
        (Script.Writes.of_guarded (failureCheck_eq _)))

/-- **The text of a script.** It is a function of the effective unit, the name
and the interpreter. -/
theorem writes_script (r : Request) :
    r.script.Writes (Written.script r.name r.interpreter r.unit.effective) := by
  have hhead : Script.Writes [r.interpreterLine] ("#!" ++ r.interpreter ++ "\n") :=
    Script.Writes.of_guarded (interpreterLine_eq r)
  have h := hhead.cons (((((writes_directories r).append (writes_loginShellBlock r)).append
    (writes_exports r)).append (writes_workingDirectoryBlock r)).append
      ((writes_preCommands r).append (writes_mainCommand r)))
  simp only [Written.script, Written.setup, Written.body, List.append_assoc] at h ⊢
  simpa only [script, List.append_assoc] using h

end Request

end ServiceScript
