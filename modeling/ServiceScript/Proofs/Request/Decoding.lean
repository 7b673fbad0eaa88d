import ServiceScript.Proofs.Exec.HereDocument
import ServiceScript.Proofs.Request.Text
import ServiceScript.Proofs.Shell.Reader
import ServiceScript.Proofs.Text.Delimited
import ServiceScript.Proofs.Text.Lines
import ServiceScript.Proofs.Unit.OneLine

/-!
# ServiceScript — a script determines what it was made of

A script mixes quoted words with lines that stand in it as the unit gives them,
so a command can look like the announcement of another one and an assignment
like any line at all. Still the effective unit can be recovered from it, block
by block from the front: each block is a list of delimited forms, and what
stands behind a block never begins like one more of its forms. Where a block
has lines of the unit in it, this is because a value is one line.

Main results:

* `Written.delimited_setup` — the account, from what stands before the exports;
* `Written.body_inj` — the other four parts;
* `Request.script_faithful` — equal effective units have equal scripts, and
  equal scripts have equal effective units.
-/

namespace ServiceScript

theorem eq_of_toList_eq {α : Type} {x y : Option α} (h : x.toList = y.toList) : x = y := by
  cases x <;> cases y <;> simp_all

/-- What the parser and the checks of a script leave of a unit: values of one
line, and a service with something to run. -/
structure EffectiveUnit.Runnable (e : EffectiveUnit) : Prop where
  environment : ∀ a ∈ e.environment, '\n' ∉ a
  execStartPre : ∀ raw ∈ e.execStartPre, '\n' ∉ raw
  execStart : ∀ raw ∈ e.execStart, '\n' ∉ raw ∧ behindRun raw ≠ []

namespace Written

-- ---------------------------------------------------------------------------
-- Lines and words
-- ---------------------------------------------------------------------------

/-- A line of the unit, between fixed texts: it ends where the line does. -/
theorem delimited_line (head : Text) {tail : Text} (htail : tail.head? = some '\n') :
    Delimited ('\n' ∉ ·) fun line => head ++ line ++ tail := by
  obtain ⟨rest, rfl⟩ := List.head?_eq_some_iff.1 htail
  intro a b s t ha hb h
  simp only [List.append_assoc, List.cons_append] at h
  obtain ⟨rfl, hrest⟩ := append_cons_inj ha hb (List.append_cancel_left h)
  exact ⟨rfl, List.append_cancel_left hrest⟩

/-- A word between fixed texts: it ends where a shell would say so. -/
theorem delimited_word (head : Text) {tail : Text} (htail : tail.head?.any endsWord = true) :
    Delimited (fun _ => True) fun t => head ++ Shell.word t ++ tail := by
  have hend : ∀ rest, EndsWord (tail ++ rest) := by
    intro rest c hc
    cases tail with
    | nil => exact absurd htail (by simp)
    | cons d tail =>
      obtain rfl : d = c := Option.some.inj hc
      exact htail
  intro t u r b _ _ h
  simp only [List.append_assoc] at h
  obtain ⟨rfl, hrest⟩ := Shell.word_append_inj (hend r) (hend b) (List.append_cancel_left h)
  exact ⟨rfl, List.append_cancel_left hrest⟩

/-- The line that echoes a message determines it. -/
theorem delimited_echo : Delimited (fun _ => True) echo :=
  delimited_word "echo " rfl

theorem delimited_chown (path : Text) : Delimited (fun _ => True) fun user => chown user path :=
  ((delimited_word "chown " rfl).append fun _ => Shell.word path).append fun _ => "\n"

theorem delimited_failureCheck : Delimited (fun _ => True) failureCheck :=
  delimited_word failureCheckHead rfl

/-- The line of an export determines its assignment, if that has no line end. -/
theorem delimited_exported : Delimited ('\n' ∉ ·) exported :=
  delimited_line "export " rfl

/-- What is written of a command line without line end determines it, with an account or
without. -/
theorem delimited_command (user : Option Text) : Delimited ('\n' ∉ ·) (command user) := by
  have htail : (switchTail user).head? = some '\n' := by cases user <;> rfl
  exact delimited_line (switchHead user) htail

-- ---------------------------------------------------------------------------
-- The blocks
-- ---------------------------------------------------------------------------

theorem delimited_workingDirectory : Delimited (fun _ => True) workingDirectory :=
  (delimited_echo.comp_append _).append _

/-- The command line of a command may be that of another one. The value itself
is in the message behind it. -/
theorem delimited_preCommand (user : Option Text) : Delimited ('\n' ∉ ·) (preCommand user) := by
  have hmessage : Delimited ('\n' ∉ ·) fun raw => failureCheck ("command: " ++ raw) := by
    intro raw other s t _ _ h
    exact delimited_failureCheck.comp_append _ trivial trivial h
  refine hmessage.behind ?_
  intro raw other s t hraw hother h
  exact (delimited_command user (lineEnd_notMem_commandLine hraw)
    (lineEnd_notMem_commandLine hother) h).2

theorem delimited_mainCommand (user : Option Text) :
    Delimited (fun _ => True) (mainCommand user) :=
  (delimited_echo.comp_append _).append _

-- ---------------------------------------------------------------------------
-- What stands behind a block
-- ---------------------------------------------------------------------------

/-- A text with the echo of such a message in front. -/
def Announced (message : Text → Prop) (s : Text) : Prop :=
  ∃ t rest, message t ∧ s = echo t ++ rest

/-- A text that begins by running a service, or an empty one. -/
def ServiceOrNothing (user : Option Text) (s : Text) : Prop :=
  s = [] ∨ ∃ raw rest, ('\n' ∉ raw ∧ behindRun raw ≠ []) ∧ s = mainCommand user raw ++ rest

/-- An export is no announcement. -/
theorem not_announced_exported (message : Text → Prop) (a s : Text) :
    ¬ Announced message (exported a ++ s) := by
  rintro ⟨t, rest, -, h⟩
  -- `export` and `echo` differ in their second characters
  have hx : (exported a ++ s)[1]? = some 'x' := rfl
  have hc : (echo t ++ rest)[1]? = some 'c' := rfl
  rw [h, hc] at hx
  exact absurd hx (by decide)

/-- The working directory is not announced like the commands. -/
theorem not_announced_workingDirectory (path s : Text) :
    ¬ Announced (· = "Running ExecStartPre commands") (workingDirectory path ++ s) := by
  rintro ⟨t, rest, rfl, h⟩
  rw [workingDirectory, List.append_assoc] at h
  obtain ⟨hmessage, -⟩ := delimited_echo trivial trivial h
  have hw : (workingDirectoryKey ++ "=" ++ path)[0]? = some 'W' := rfl
  rw [hmessage] at hw
  exact absurd hw (by decide)

/-- A message without line end is written without one. -/
theorem lineEnd_notMem_echo {t : Text} (h : '\n' ∉ t) : '\n' ∉ "echo " ++ Shell.word t := by
  have hhead : '\n' ∉ ("echo " : Text) := by decide
  rw [List.mem_append, not_or]
  exact ⟨hhead, Shell.lineEnd_notMem_word h⟩

/-- A command with a body has a line that is not empty. -/
theorem commandLine_ne_nil {raw : Text} (h : behindRun raw ≠ []) :
    (ExecCommand.parse raw).commandLine ≠ [] := by
  rw [ExecCommand.commandLine_parse]
  exact List.append_ne_nil_of_left_ne_nil h _

/-- A command that runs before the service is not taken for the service, even
where its line is the announcement of one. An account is switched to first; and
without one, an announcement has a command behind it, and a command an empty
line. -/
theorem not_serviceOrNothing_preCommand (user : Option Text) {raw : Text} (s : Text)
    (hraw : '\n' ∉ raw) : ¬ ServiceOrNothing user (preCommand user raw ++ s) := by
  have hcheck : ∀ message t, (failureCheck message ++ t)[0]? = some '\n' := fun _ _ => rfl
  rintro (h | ⟨main, rest, ⟨hmain, hbody⟩, h⟩)
  · -- a check is never empty
    rw [preCommand, List.append_assoc] at h
    have hnil := (List.append_eq_nil_iff.1 h).2
    exact absurd (hcheck ("command: " ++ raw) s) (by rw [hnil]; decide)
  · cases user with
    | some u =>
      -- the shell of the account is started by a path
      have hslash : (preCommand (some u) raw ++ s)[0]? = some '/' := rfl
      have he : (mainCommand (some u) main ++ rest)[0]? = some 'e' := rfl
      rw [h, he] at hslash
      exact absurd hslash (by decide)
    | none =>
      have hannounced : '\n' ∉ ("Running ExecStart " ++ main : Text) := by
        have hhead : '\n' ∉ ("Running ExecStart " : Text) := by decide
        rw [List.mem_append, not_or]
        exact ⟨hhead, hmain⟩
      have hecho : echo ("Running ExecStart " ++ main) =
          command none ("echo " ++ Shell.word ("Running ExecStart " ++ main)) := rfl
      rw [preCommand, mainCommand, hecho, List.append_assoc, List.append_assoc] at h
      obtain ⟨-, hbehind⟩ := delimited_command none (lineEnd_notMem_commandLine hraw)
        (lineEnd_notMem_echo hannounced) h
      have hempty := hcheck ("command: " ++ raw) s
      rw [hbehind] at hempty
      -- the line behind the announcement would have to be empty, and is a command
      cases hline : (ExecCommand.parse main).commandLine with
      | nil => exact commandLine_ne_nil hbody hline
      | cons c cs =>
        rw [hline] at hempty
        have hc : c = '\n' := Option.some.inj hempty
        have hnewline := lineEnd_notMem_commandLine hmain
        rw [hline, hc] at hnewline
        exact hnewline List.mem_cons_self

-- ---------------------------------------------------------------------------
-- The two halves of a script
-- ---------------------------------------------------------------------------

/-- What stands between two directories tells whether they are handed over, and to whom.
-/
theorem delimited_handOver (path : Text) : Delimited (fun _ => True)
    fun user : Option Text =>
      (user.toList.flatMap (fun u => chown u path) ++ ("\n" : Text) : Text) := by
  have hstop : ∀ user s, True → ¬ (chown user path ++ s).head? = some '\n' := by
    intro user s _ h
    have hc : (chown user path ++ s).head? = some 'c' := rfl
    rw [hc] at h
    exact absurd h (by decide)
  have hall : ∀ user : Option Text, ∀ u ∈ user.toList, True := fun _ _ _ => trivial
  intro user other s t _ _ h
  rw [List.append_assoc, List.append_assoc] at h
  obtain ⟨huser, hrest⟩ := (delimited_chown path).flatMap_inj (·.head? = some '\n') hstop
    (hall user) (hall other) rfl rfl h
  exact ⟨eq_of_toList_eq huser, List.append_cancel_left hrest⟩

/-- The first directory block already tells the account. -/
theorem delimited_setup (name interpreter : Text) :
    Delimited (fun _ => True) (setup name interpreter) := by
  have hblock : Delimited (fun _ => True) fun user => directory name user .runtime :=
    (delimited_handOver _).fixed_append (provision name .runtime)
  have hall := hblock.append fun user =>
    [Directory.state, .cache, .logs, .configuration].flatMap (directory name user)
  have hlogin := hall.append fun user : Option Text => user.toList.flatMap loginShellLines
  exact hlogin.fixed_append (("#!" : Text) ++ interpreter ++ ("\n" : Text))

/-- Behind the exports there is an announcement, with a working directory or without. -/
theorem announced_behind_exports (directory : Option Text) (s : Text) :
    Announced (fun _ => True) (directory.toList.flatMap workingDirectory ++
      (echo "Running ExecStartPre commands" ++ s)) := by
  cases directory with
  | none => exact ⟨_, s, trivial, rfl⟩
  | some path =>
    rw [Option.toList_some, List.flatMap_singleton, workingDirectory, List.append_assoc]
    exact ⟨_, _, trivial, rfl⟩

/-- The end of a script runs a service, or there is nothing there. -/
theorem serviceOrNothing_mainCommand {e : EffectiveUnit} (he : e.Runnable) :
    ServiceOrNothing e.user (e.execStart.toList.flatMap (mainCommand e.user)) := by
  cases hmain : e.execStart with
  | none => exact .inl rfl
  | some raw => exact .inr ⟨raw, [], he.execStart raw hmain, rfl⟩

/-- The blocks are recovered from the front: what stands behind each of them
never begins like one more of its parts. -/
theorem body_inj {e f : EffectiveUnit} (he : e.Runnable) (hf : f.Runnable)
    (huser : e.user = f.user) (h : body e = body f) : e = f := by
  have hstart := serviceOrNothing_mainCommand he
  have hstart' := serviceOrNothing_mainCommand hf
  have hall : ∀ x : Option Text, ∀ a ∈ x.toList, True := fun _ _ _ => trivial
  rw [← huser] at hstart'
  unfold body at h
  rw [← huser] at h
  -- exports, up to the first line that prints
  obtain ⟨henv, h⟩ := delimited_exported.flatMap_inj (Announced fun _ => True)
    (fun a s _ => not_announced_exported _ a s) he.environment hf.environment
    (announced_behind_exports _ _) (announced_behind_exports _ _) h
  -- the working directory, up to the banner
  obtain ⟨hdir, h⟩ := delimited_workingDirectory.flatMap_inj
    (Announced (· = "Running ExecStartPre commands"))
    (fun path s _ => not_announced_workingDirectory path s) (hall _) (hall _)
    ⟨_, _, rfl, rfl⟩ ⟨_, _, rfl, rfl⟩ h
  have h := List.append_cancel_left h
  -- the commands before the service, up to the service or the end
  obtain ⟨hpre, h⟩ := (delimited_preCommand e.user).flatMap_inj (ServiceOrNothing e.user)
    (fun raw s hraw => not_serviceOrNothing_preCommand e.user s hraw)
    he.execStartPre hf.execStartPre hstart hstart' h
  have hsome : ∀ raw s, True → ¬ mainCommand e.user raw ++ s = [] := by
    intro raw s _ hnil
    have hfirst : (mainCommand e.user raw ++ s)[0]? = some 'e' := rfl
    rw [hnil] at hfirst
    exact absurd hfirst (by decide)
  rw [← List.append_nil (e.execStart.toList.flatMap _),
    ← List.append_nil (f.execStart.toList.flatMap _)] at h
  obtain ⟨hmain, -⟩ := (delimited_mainCommand e.user).flatMap_inj (· = []) hsome
    (hall _) (hall _) rfl rfl h
  exact EffectiveUnit.ext huser henv hpre (eq_of_toList_eq hdir) (eq_of_toList_eq hmain)

/-- The text of a script determines what is effective in the unit. -/
theorem script_inj {name interpreter : Text} {e f : EffectiveUnit} (he : e.Runnable)
    (hf : f.Runnable) (h : script name interpreter e = script name interpreter f) : e = f := by
  obtain ⟨huser, hbody⟩ := delimited_setup name interpreter trivial trivial h
  exact body_inj he hf huser hbody

end Written

-- ---------------------------------------------------------------------------
-- Whole scripts
-- ---------------------------------------------------------------------------

namespace Request

/-- A unit that was read from a file and whose script has no fault can be run. -/
theorem runnable_effective {content name interpreter : Text} {strict : Bool}
    (h : (⟨UnitFile.unit content, name, interpreter, strict⟩ : Request).script.fault? = none) :
    (UnitFile.unit content).effective.Runnable := by
  have hlines := UnitFile.oneLine_unit content
  refine ⟨hlines.environment, hlines.execStartPre, ?_⟩
  intro raw hraw
  have hraw : (UnitFile.unit content).get? serviceSection execStartKey = some raw := hraw
  refine ⟨hlines.value _ _ raw hraw, ?_⟩
  rw [fault?_script, List.findSome?_eq_none_iff] at h
  -- the command is the last thing that is checked
  have hmain := h (mainCommandFault? strict
    ((UnitFile.unit content).get? serviceSection execStartKey)) (List.mem_of_getLast? rfl)
  rw [hraw] at hmain
  have hcommand : commandFault? execStartKey raw = none := (Option.or_eq_none_iff.1 hmain).2
  intro hnil
  unfold commandFault? at hcommand
  rw [hnil] at hcommand
  split at hcommand
  · cases hcommand
  · cases hcommand

/-- **A script says what was made of the unit file, and nothing else.** Files
with the same effective unit have the same script, whatever else they hold. And
if two scripts complete with the same bytes, the effective units of their files
are the same. -/
theorem script_faithful (c₁ c₂ name interpreter : Text) :
    ((UnitFile.unit c₁).effective = (UnitFile.unit c₂).effective →
      ∀ strict,
        let r₁ : Request := ⟨UnitFile.unit c₁, name, interpreter, strict⟩
        let r₂ : Request := ⟨UnitFile.unit c₂, name, interpreter, strict⟩
        Utf8.encode r₁.script.text = Utf8.encode r₂.script.text ∧
          r₁.script.outcome = r₂.script.outcome) ∧
    (∀ strict₁ strict₂,
      let r₁ : Request := ⟨UnitFile.unit c₁, name, interpreter, strict₁⟩
      let r₂ : Request := ⟨UnitFile.unit c₂, name, interpreter, strict₂⟩
      r₁.script.outcome = .ok ⟨⟩ → r₂.script.outcome = .ok ⟨⟩ →
        Utf8.encode r₁.script.text = Utf8.encode r₂.script.text →
          (UnitFile.unit c₁).effective = (UnitFile.unit c₂).effective) := by
  constructor
  · intro h strict r₁ r₂
    -- the steps are the same, so everything that is made of them is
    have hscript : r₁.script = r₂.script := script_congr h name interpreter strict
    rw [hscript]
    exact ⟨rfl, rfl⟩
  · intro strict₁ strict₂ r₁ r₂ hok₁ hok₂ hbytes
    have hfault₁ := (Script.outcome_eq_ok_iff _).1 hok₁
    have hfault₂ := (Script.outcome_eq_ok_iff _).1 hok₂
    -- scripts that complete are their texts, and the texts are decoded
    have htext := Utf8.encode_inj hbytes
    rw [writes_script r₁ hfault₁, writes_script r₂ hfault₂] at htext
    exact Written.script_inj (runnable_effective hfault₁) (runnable_effective hfault₂) htext

/-- Comments, other sections and values that are replaced leave no trace. -/
theorem script_faithful_replaced :
    let c₁ : Text := "[Service]\nUser=alice\nExecStart=/bin/true\n"
    let c₂ : Text := "[Unit]\nAfter=a\n[Service]\nExecStart=x\n# y\nExecStart=/bin/true\nUser=alice"
    (⟨UnitFile.unit c₁, "a", "/bin/sh", true⟩ : Request).script.outcome = .ok ⟨⟩ ∧
      Utf8.encode (⟨UnitFile.unit c₁, "a", "/bin/sh", true⟩ : Request).script.text =
        Utf8.encode (⟨UnitFile.unit c₂, "a", "/bin/sh", true⟩ : Request).script.text ∧
      (UnitFile.unit c₁).effective = (UnitFile.unit c₂).effective := by
  intro c₁ c₂
  have hok : (⟨UnitFile.unit c₁, "a", "/bin/sh", true⟩ : Request).script.outcome = .ok ⟨⟩ := by
    rw [Script.outcome_eq_ok_iff, fault?_script]
    rfl
  have heq : (UnitFile.unit c₁).effective = (UnitFile.unit c₂).effective := by decide
  obtain ⟨hbytes, houtcome⟩ := (script_faithful c₁ c₂ "a" "/bin/sh").1 heq true
  refine ⟨hok, hbytes, ?_⟩
  exact (script_faithful c₁ c₂ "a" "/bin/sh").2 true true hok (houtcome ▸ hok) hbytes

end Request

end ServiceScript
