import ServiceScript.Proofs.Script.Written

/-!
# ServiceScript — when a unit gets its script

What can be wrong with a unit is listed here without any reference to how a
script is written, and shown to be exactly what stops one. The parts of a
script quote their texts at different points — before a line, between two
lines, or behind the command that the text is about — so the same value is
reported differently as a command that runs before the service and as the
service itself; the list has both orders.

Main results:

* `Request.script_outcome` — a script ends with the first fault of the list
  `Request.faults`, and completes exactly when the list has none;
* `Request.nameFault?_or_ofText` — what such a fault is about.
-/

namespace ServiceScript

namespace Request

-- ---------------------------------------------------------------------------
-- What can be wrong
-- ---------------------------------------------------------------------------

def nameFault? (name : Text) : Option Fault :=
  if name = [] ∨ name = "." ∨ name = ".." ∨ '/' ∈ name then some (.invalidUnitName name)
  else none

/-- The fault of a command that runs before the service. Its failure check,
which quotes it, stands behind it. -/
def preCommandFault? (raw : Text) : Option Fault :=
  (commandFault? execStartPreKey raw).or (nulFault? raw ("command: " ++ raw))

/-- The fault of the command that is the service. It is announced before it is
wrapped. -/
def mainCommandFault? (strict : Bool) : Option Text → Option Fault
  | none => if strict then some (.missingDirective serviceSection execStartKey) else none
  | some raw =>
    (nulFault? raw ("Running ExecStart " ++ raw)).or (commandFault? execStartKey raw)

/-- Everything that can be wrong with a request, in the order in which it is
reported. -/
def faults (r : Request) : List (Option Fault) :=
  [nameFault? r.name,
   nulFault? r.name ("/run/" ++ r.name),
   (r.unit.get? serviceSection userKey).bind fun user => nulFault? user user,
   (r.unit.get? serviceSection workingDirectoryKey).bind fun directory =>
     nulFault? directory ("WorkingDirectory=" ++ directory),
   r.unit.execStartPre.findSome? preCommandFault?,
   mainCommandFault? r.strict (r.unit.get? serviceSection execStartKey)]

-- ---------------------------------------------------------------------------
-- The faults of the parts
-- ---------------------------------------------------------------------------

theorem not_isProper_iff (name : Text) :
    ¬ UnitName.isProper name = true ↔ name = [] ∨ name = "." ∨ name = ".." ∨ '/' ∈ name := by
  rw [UnitName.isProper_iff]
  simp only [ne_eq, ← not_or, Decidable.not_not]

/-- The names without a fault are the proper ones. -/
theorem nameFault?_eq_none_iff {name : Text} :
    nameFault? name = none ↔ UnitName.isProper name = true := by
  unfold nameFault?
  by_cases h : UnitName.isProper name = true
  · rw [if_neg fun hname => (not_isProper_iff name).2 hname h]
    exact iff_of_true rfl h
  · rw [if_pos ((not_isProper_iff name).1 h)]
    exact iff_of_false (Option.some_ne_none _) h

/-- The line of the interpreter is written unless the name is refused. -/
theorem interpreterLine_eq (r : Request) :
    r.interpreterLine = Step.guarded (nameFault? r.name) ("#!" ++ r.interpreter ++ "\n") := by
  unfold interpreterLine UnitName.check nameFault?
  by_cases h : UnitName.isProper r.name = true
  · rw [if_pos h, if_neg fun hn => (not_isProper_iff r.name).2 hn h]
    rfl
  · rw [if_neg h, if_pos ((not_isProper_iff r.name).1 h)]
    rfl

theorem nul_notMem_root (d : Directory) : '\x00' ∉ d.root := by
  cases d <;> decide

theorem nul_mem_path (d : Directory) (name : Text) :
    '\x00' ∈ d.path name ↔ '\x00' ∈ name := by
  rw [Directory.path, List.mem_append, List.mem_cons]
  simp [nul_notMem_root d]

/-- The message of the check behind a directory has a NUL in it exactly if the name has. -/
theorem nul_mem_makeMessage (d : Directory) (name : Text) :
    '\x00' ∈ ("mkdir " ++ d.path name ++ " for " ++ d.variableName : Text) ↔ '\x00' ∈ name := by
  have hm : '\x00' ∉ ("mkdir " : Text) := by decide
  have hf : '\x00' ∉ (" for " : Text) := by decide
  have hv : '\x00' ∉ d.variableName := by cases d <;> decide
  simp only [List.mem_append, nul_mem_path, hm, hf, hv, or_false, false_or]

def accountFault? (account : Option Account) : Option Fault :=
  account.bind fun a => nulFault? a.name a.name

/-- In a directory block the name of the unit is quoted before the account. -/
theorem fault?_directoryBlock (name : Text) (account : Option Account) (d : Directory) :
    Script.fault? (directoryBlock name account d) =
      (nulFault? name (d.path name)).or (accountFault? account) := by
  have hpath := nulFault?_congr (d.path name) (nul_mem_path d name)
  have hmessage := nul_mem_makeMessage d name
  unfold directoryBlock
  simp only [makeDirectoryLine_eq, failureCheck_eq, assignLine_eq, closeLine_chown_eq,
    Script.fault?_append, Script.fault?_cons, Step.fault?_guarded, Script.fault?_nil, hpath]
  by_cases h : '\x00' ∈ name
  · -- the path stands in the first line of the block
    rw [nulFault?, if_pos h]
    rfl
  · -- the message of the check has a NUL only where the path has one
    rw [nulFault?_eq_none_iff.2 h, nulFault?_eq_none_iff.2 fun hm => h (hmessage.1 hm)]
    cases account <;> simp [accountFault?]

/-- The directories fail for a NUL in the name, or else for one in the account. -/
theorem fault?_directories (r : Request) :
    Script.fault? r.directories =
      (nulFault? r.name ("/run/" ++ r.name)).or (accountFault? r.account?) := by
  unfold directories
  rw [Script.fault?_flatMap]
  simp only [fault?_directoryBlock, Directory.all, List.findSome?_cons, List.findSome?_nil]
  -- the paths differ from block to block, but the first block is the one that reports
  by_cases h : '\x00' ∈ r.name
  · simp only [nulFault?, if_pos h]
    rfl
  · simp only [nulFault?, if_neg h, Option.none_or]
    cases accountFault? r.account? <;> rfl

/-- The login shell is set up without a fault for an account that has none. -/
theorem fault?_loginShellBlock (r : Request) (h : accountFault? r.account? = none) :
    Script.fault? r.loginShellBlock = none := by
  unfold loginShellBlock
  cases ha : r.account? with
  | none => rfl
  | some a =>
    -- the directories have been handed over, so the name was quoted before
    have hname : '\x00' ∉ a.name := by
      rw [ha] at h
      exact nulFault?_eq_none_iff.1 h
    have hnotice : '\x00' ∉ a.loginShellNotice := by
      have hhead : '\x00' ∉ ("setting login shell for " : Text) := by decide
      have htail : '\x00' ∉
          (" to " ++ (loginShell ++ " so commands can be run as them") : Text) := by decide
      unfold Account.loginShellNotice
      rw [List.append_assoc, List.append_assoc, List.append_assoc, nul_mem_append _ hhead,
        List.mem_append, not_or]
      exact ⟨hname, htail⟩
    simp [loginShellLines_eq, nulFault?_eq_none_iff.2 hname, nulFault?_eq_none_iff.2 hnotice]

/-- Exports never fail, since they are written as they stand. -/
theorem fault?_exports (r : Request) : Script.fault? r.exports = none := by
  unfold exports
  induction r.unit.environment with
  | nil => rfl
  | cons assignment rest ih =>
    rw [List.map_cons, Script.fault?_cons, ih]
    rfl

/-- The working directory fails for a NUL in it. -/
theorem fault?_workingDirectoryBlock (r : Request) :
    Script.fault? r.workingDirectoryBlock =
      (r.unit.get? serviceSection workingDirectoryKey).bind fun directory =>
        nulFault? directory ("WorkingDirectory=" ++ directory) := by
  unfold workingDirectoryBlock
  cases r.unit.get? serviceSection workingDirectoryKey with
  | none => rfl
  | some directory =>
    have hquoted : '\x00' ∈ workingDirectoryKey ++ "=" ++ directory ↔ '\x00' ∈ directory :=
      nul_mem_append directory (by decide)
    have hcheck : '\x00' ∉ ("changing to working directory" : Text) := by decide
    simp only [Script.fault?_cons, echoLine_eq, failureCheck_eq, Step.fault?_guarded,
      Step.fault?_ok, Script.fault?_nil, Option.or_none, Option.bind_some,
      nulFault?_eq_none_iff.2 hcheck, nulFault?_congr _ hquoted]
    rfl

/-- With an account that has no fault, a command fails for what is wrong with the
command. -/
theorem fault?_preCommand (raw : Text) (account : Option Account)
    (h : accountFault? account = none) :
    Script.fault? (preCommand account raw) = preCommandFault? raw := by
  have hmessage : '\x00' ∈ ("command: " ++ raw : Text) ↔ '\x00' ∈ raw :=
    nul_mem_append raw (by decide)
  unfold accountFault? at h
  simp only [preCommand, Script.fault?_cons, closeLine_wrap_eq, failureCheck_eq,
    Step.fault?_guarded, Script.fault?_nil, Option.or_none, h, nulFault?_congr _ hmessage,
    preCommandFault?]

/-- The commands that run before the service fail for the first one that fails. -/
theorem fault?_preCommands (r : Request) (h : accountFault? r.account? = none) :
    Script.fault? r.preCommands = r.unit.execStartPre.findSome? preCommandFault? := by
  have hbanner : '\x00' ∉ ("Running ExecStartPre commands" : Text) := by decide
  unfold preCommands
  rw [Script.fault?_cons, echoLine_eq, Step.fault?_guarded, nulFault?_eq_none_iff.2 hbanner,
    Option.none_or, Script.fault?_flatMap]
  simp only [fault?_preCommand _ _ h]

/-- The service fails for its command, or for having none where it has to have one. -/
theorem fault?_mainCommand (r : Request) (h : accountFault? r.account? = none) :
    Script.fault? r.mainCommand =
      mainCommandFault? r.strict (r.unit.get? serviceSection execStartKey) := by
  unfold mainCommandFault?
  cases hcommand : r.unit.get? serviceSection execStartKey with
  | none =>
    rw [mainCommand_of_none hcommand]
    cases r.strict <;> rfl
  | some raw =>
    rw [mainCommand_of_some hcommand]
    have hannounced : '\x00' ∈ ("Running ExecStart " ++ raw : Text) ↔ '\x00' ∈ raw :=
      nul_mem_append raw (by decide)
    have hcheck : '\x00' ∉ ("running ExecStart" : Text) := by decide
    unfold accountFault? at h
    simp only [Script.fault?_cons, echoLine_eq, closeLine_wrap_eq, failureCheck_eq,
      Step.fault?_guarded, Script.fault?_nil, Option.or_none, h,
      nulFault?_eq_none_iff.2 hcheck, nulFault?_congr _ hannounced]

-- ---------------------------------------------------------------------------
-- The fault of the whole
-- ---------------------------------------------------------------------------

/-- The account of a unit has a fault if there is a NUL in the name of its user. -/
theorem accountFault?_account? (r : Request) :
    accountFault? r.account? =
      (r.unit.get? serviceSection userKey).bind fun user => nulFault? user user := by
  unfold accountFault? account? Account.ofUnit? ServiceUnit.user?
  rw [Option.bind_map]
  rfl

/-- The fault of a script is the first one of the list. -/
theorem fault?_script (r : Request) : Script.fault? r.script = r.faults.findSome? id := by
  unfold script faults
  rw [← accountFault?_account?]
  -- the faults are taken one at a time: behind the account, the parts that quote
  -- it again cannot fail for it
  simp only [Script.fault?_cons, Script.fault?_append, interpreterLine_eq, Step.fault?_guarded,
    fault?_directories, fault?_exports, fault?_workingDirectoryBlock, List.findSome?_cons]
  cases nameFault? r.name with
  | some f => rfl
  | none =>
    cases nulFault? r.name ("/run/" ++ r.name) with
    | some f => rfl
    | none =>
      cases h : accountFault? r.account? with
      | some f => rfl
      | none =>
        rw [fault?_loginShellBlock r h, fault?_preCommands r h, fault?_mainCommand r h]
        simp only [Option.none_or, id]
        cases (r.unit.get? serviceSection workingDirectoryKey).bind _ with
        | some f => rfl
        | none =>
          cases r.unit.execStartPre.findSome? preCommandFault? with
          | some f => rfl
          | none => cases mainCommandFault? _ _ <;> rfl

/-- **How a script ends.** The outcome is the first fault of the list that
applies; the script completes exactly when none does. -/
theorem script_outcome (r : Request) :
    r.script.outcome = match r.faults.findSome? id with
      | some f => .error f
      | none => .ok ⟨⟩ := by
  rw [Script.outcome_eq_of_fault?, fault?_script]
  cases r.faults.findSome? id <;> rfl

end Request

-- ---------------------------------------------------------------------------
-- What the faults are about
-- ---------------------------------------------------------------------------

/-- A fault of the texts of a unit: a text that cannot be a word, or a command that
cannot be run or is not there. -/
inductive Fault.OfText : Fault → Prop
  | argvZero (raw : Text) : OfText (.argvZero raw)
  | emptyCommand (directive raw : Text) : OfText (.emptyCommand directive raw)
  | missingDirective (sectionName key : Text) : OfText (.missingDirective sectionName key)
  | unquotable (text : Text) : OfText (.unquotable text)

/-- A NUL is a fault of a text. -/
theorem ofText_of_nulFault? {part quoted : Text} {f : Fault}
    (h : nulFault? part quoted = some f) : f.OfText := by
  unfold nulFault? at h
  split at h
  · cases h
    exact .unquotable quoted
  · cases h

/-- What is wrong with a command is a fault of a text. -/
theorem ofText_of_commandFault? {directive raw : Text} {f : Fault}
    (h : commandFault? directive raw = some f) : f.OfText := by
  unfold commandFault? at h
  split at h
  · cases h
    exact .argvZero raw
  · split at h
    · cases h
      exact .emptyCommand directive raw
    · cases h

namespace Request

/-- What is wrong with a command that runs before the service is a fault of a text. -/
theorem ofText_of_preCommandFault? {raw : Text} {f : Fault}
    (h : preCommandFault? raw = some f) : f.OfText := by
  rcases Option.or_eq_some_iff.1 h with hcommand | ⟨-, hnul⟩
  · exact ofText_of_commandFault? hcommand
  · exact ofText_of_nulFault? hnul

/-- What is wrong with the service is a fault of a text. -/
theorem ofText_of_mainCommandFault? {strict : Bool} {command : Option Text} {f : Fault}
    (h : mainCommandFault? strict command = some f) : f.OfText := by
  cases command with
  | none =>
    cases strict with
    | false => cases h
    | true =>
      cases h
      exact .missingDirective serviceSection execStartKey
  | some raw =>
    rcases Option.or_eq_some_iff.1 h with hnul | ⟨-, hcommand⟩
    · exact ofText_of_nulFault? hnul
    · exact ofText_of_commandFault? hcommand

/-- The name of the unit is at fault, or one of the texts. -/
theorem nameFault?_or_ofText {r : Request} {f : Fault} (h : r.script.fault? = some f) :
    nameFault? r.name = some f ∨ f.OfText := by
  rw [fault?_script] at h
  obtain ⟨found, hmem, hfound⟩ := List.exists_of_findSome?_eq_some h
  have hfound : found = some f := hfound
  subst hfound
  simp only [faults, List.mem_cons, List.not_mem_nil, or_false] at hmem
  rcases hmem with hname | hpath | huser | hdirectory | hpre | hmain
  · exact .inl hname.symm
  · exact .inr (ofText_of_nulFault? hpath.symm)
  · obtain ⟨user, -, hnul⟩ := Option.bind_eq_some_iff.1 huser.symm
    exact .inr (ofText_of_nulFault? hnul)
  · obtain ⟨directory, -, hnul⟩ := Option.bind_eq_some_iff.1 hdirectory.symm
    exact .inr (ofText_of_nulFault? hnul)
  · obtain ⟨raw, -, hraw⟩ := List.exists_of_findSome?_eq_some hpre.symm
    exact .inr (ofText_of_preCommandFault? hraw)
  · exact .inr (ofText_of_mainCommandFault? hmain.symm)

end Request

end ServiceScript
