import ServiceScript.Proofs.Request.Outcome
import ServiceScript.Proofs.Unit.Directives

/-!
# ServiceScript — scripts that break off

A script that cannot be completed is not lost: what stands before the fault has
been emitted. It is shown here that this is never a torso. Cut the unit behind
some of the commands that run before the service, and take its command away; the
script of what is left is a **part** of the script of the unit, and a script that
breaks off at a command has emitted a part, and behind it at most the lines that
the fault came behind.

Main definitions:

* `Request.part?` — the script of a unit with only so many of its commands;
* `Request.BreaksOffAtFault` — what a script has emitted, wherever it ends.

Main results:

* `Request.part?_succ` — a part and the next command make the next part;
* `Request.breaksOffAtFault` — every script breaks off at its fault.
-/

namespace ServiceScript

namespace Request

-- ---------------------------------------------------------------------------
-- Parts
-- ---------------------------------------------------------------------------

/-- The request for a unit that has only the first `k` of the commands that run
before the service, and no service. -/
def upTo (r : Request) (k : Nat) : Request :=
  let cut : ServiceUnit := { r.unit with execStartPre := r.unit.execStartPre.take k }
  { r with unit := cut.unset serviceSection execStartKey, strict := false }

/-- The script of that request, if it completes. -/
def part? (r : Request) (k : Nat) : Option Text := (r.upTo k).script.complete?

/-- What stands in front of the first command. -/
def opening (r : Request) : Script :=
  r.interpreterLine ::
    (r.directories ++ r.loginShellBlock ++ r.exports ++ r.workingDirectoryBlock ++
      [echoLine "Running ExecStartPre commands"])

/-- A script is its opening, the commands that run before the service, and the service.
-/
theorem script_eq (r : Request) :
    r.script = r.opening ++ (r.unit.execStartPre.flatMap (preCommand r.account?) ++ r.mainCommand) := by
  simp [script, opening, preCommands]

/-- A part asks for no service, and leaves all other values as they are. -/
theorem get?_upTo (r : Request) (k : Nat) (s key : Text) :
    (r.upTo k).unit.get? s key =
      if s = serviceSection ∧ key = execStartKey then none else r.unit.get? s key :=
  ServiceUnit.get?_unset _ _ _ _ _

theorem account?_upTo (r : Request) (k : Nat) : (r.upTo k).account? = r.account? := by
  have hkey : ¬ (serviceSection = serviceSection ∧ userKey = execStartKey) := by decide
  unfold account? Account.ofUnit? ServiceUnit.user?
  rw [get?_upTo, if_neg hkey]

/-- A part has the same opening. -/
theorem opening_upTo (r : Request) (k : Nat) : (r.upTo k).opening = r.opening := by
  have hkey : ¬ (serviceSection = serviceSection ∧ workingDirectoryKey = execStartKey) := by decide
  have henvironment : (r.upTo k).unit.environment = r.unit.environment :=
    ServiceUnit.environment_unset _ _ _
  have hname : (r.upTo k).name = r.name := rfl
  have hinterpreter : (r.upTo k).interpreter = r.interpreter := rfl
  unfold opening interpreterLine directories loginShellBlock exports workingDirectoryBlock
  rw [account?_upTo, henvironment, get?_upTo, if_neg hkey, hname, hinterpreter]

/-- The script of a part is the opening with the first commands behind it. -/
theorem script_upTo (r : Request) (k : Nat) :
    (r.upTo k).script =
      r.opening ++ (r.unit.execStartPre.take k).flatMap (preCommand r.account?) := by
  have hcommands : (r.upTo k).unit.execStartPre = r.unit.execStartPre.take k :=
    ServiceUnit.execStartPre_unset _ _ _
  have hservice : (r.upTo k).mainCommand = [] := by
    have hnone : (r.upTo k).unit.get? serviceSection execStartKey = none := by
      rw [get?_upTo, if_pos ⟨rfl, rfl⟩]
    rw [mainCommand_of_none hnone]
    rfl
  rw [script_eq, opening_upTo, account?_upTo, hcommands, hservice, List.append_nil]

/-- A script goes on where a part of it ends. -/
theorem script_eq_upTo_append (r : Request) (k : Nat) :
    r.script = (r.upTo k).script ++
      ((r.unit.execStartPre.drop k).flatMap (preCommand r.account?) ++ r.mainCommand) := by
  have hcommands := List.take_append_drop k r.unit.execStartPre
  rw [script_eq, script_upTo, List.append_assoc, ← List.append_assoc (List.flatMap _ _),
    ← List.flatMap_append, hcommands]

-- ---------------------------------------------------------------------------
-- Commands
-- ---------------------------------------------------------------------------

/-- The text that runs a command of a directive. -/
def wrapped (r : Request) (directive raw : Text) : Except Fault Text :=
  (ExecCommand.parse raw).wrap directive r.account?

/-- The check behind a command that runs before the service. -/
def preCheck (raw : Text) : Step := failureCheck ("command: " ++ raw)

/-- What is said before the service is run. -/
def announcement (raw : Text) : Step := echoLine ("Running ExecStart " ++ raw)

/-- A command that can be written in front of the service, with its check. -/
def CanRun (r : Request) (raw : Text) : Prop :=
  ∃ line check, r.wrapped execStartPreKey raw = .ok line ∧ preCheck raw = .ok check

theorem preCommand_eq (r : Request) (raw : Text) :
    preCommand r.account? raw = [closeLine (r.wrapped execStartPreKey raw), preCheck raw] := rfl

theorem closeLine_of_ok {step : Step} {line : Text} (h : step = .ok line) :
    closeLine step = .ok (line ++ "\n") := by
  rw [h]
  rfl

theorem closeLine_of_error {step : Step} {f : Fault} (h : step = .error f) :
    closeLine step = .error f := by
  rw [h]
  rfl

/-- What is written of a command that can be run is its line and its check. -/
theorem complete?_preCommand_eq_some_iff {r : Request} {raw t : Text} :
    Script.complete? (preCommand r.account? raw) = some t ↔
      ∃ line check, r.wrapped execStartPreKey raw = .ok line ∧ preCheck raw = .ok check ∧
        t = line ++ "\n" ++ check := by
  rw [preCommand_eq]
  unfold Script.complete?
  cases hline : r.wrapped execStartPreKey raw with
  | error f => simp [closeLine_of_error]
  | ok line =>
    rw [closeLine_of_ok rfl]
    cases hcheck : preCheck raw with
    | error f => simp
    | ok check => simp [eq_comm]

-- ---------------------------------------------------------------------------
-- From part to part
-- ---------------------------------------------------------------------------

/-- **The next part.** It is the part before it with one command more, and is there
if that part is and the command can be written. -/
theorem part?_succ {r : Request} {k : Nat} {raw : Text}
    (h : r.unit.execStartPre[k]? = some raw) (t : Text) :
    r.part? (k + 1) = some t ↔
      ∃ s line check, r.part? k = some s ∧ r.wrapped execStartPreKey raw = .ok line ∧
        preCheck raw = .ok check ∧ t = s ++ line ++ "\n" ++ check := by
  have hnext : (r.upTo (k + 1)).script = (r.upTo k).script ++ preCommand r.account? raw := by
    rw [script_upTo, script_upTo, List.take_add_one, h, Option.toList_some, List.flatMap_append,
      List.flatMap_singleton, List.append_assoc]
  rw [part?, hnext, Script.complete?_append]
  simp only [Option.bind_eq_some_iff, Option.map_eq_some_iff, complete?_preCommand_eq_some_iff]
  constructor
  · rintro ⟨s, hs, u, ⟨line, check, hline, hcheck, rfl⟩, rfl⟩
    exact ⟨s, line, check, hs, hline, hcheck, by simp only [List.append_assoc]⟩
  · rintro ⟨s, line, check, hs, hline, hcheck, rfl⟩
    exact ⟨s, hs, _, ⟨line, check, hline, hcheck, rfl⟩, by simp only [List.append_assoc]⟩

/-- Behind the last command there is nothing more to cut off. -/
theorem part?_succ_of_none {r : Request} {k : Nat} (h : r.unit.execStartPre[k]? = none) :
    r.part? (k + 1) = r.part? k := by
  rw [part?, part?, script_upTo, script_upTo, List.take_add_one, h, Option.toList_none,
    List.append_nil]

/-- Each part begins with the one before it. -/
theorem prefix_part?_succ {r : Request} {k : Nat} {s t : Text} (hs : r.part? k = some s)
    (ht : r.part? (k + 1) = some t) : s <+: t := by
  cases h : r.unit.execStartPre[k]? with
  | none =>
    rw [part?_succ_of_none h, hs, Option.some.injEq] at ht
    exact ht ▸ List.prefix_rfl
  | some raw =>
    obtain ⟨s', line, check, hs', -, -, rfl⟩ := (part?_succ h t).1 ht
    rw [hs, Option.some.injEq] at hs'
    rw [hs', List.append_assoc, List.append_assoc]
    exact List.prefix_append _ _

/-- The text of a script begins with each of its parts. -/
theorem prefix_script_of_part? {r : Request} {k : Nat} {s : Text} (h : r.part? k = some s) :
    s <+: r.script.text := by
  rw [script_eq_upTo_append r k, Script.text_append_of_complete? h]
  exact List.prefix_append _ _

-- ---------------------------------------------------------------------------
-- In front of the first command
-- ---------------------------------------------------------------------------

/-- A request in which nothing is wrong in front of the first command. -/
structure Opens (r : Request) : Prop where
  accepted : UnitName.check r.name = .ok ⟨⟩
  name : '\x00' ∉ r.name
  user : ∀ user ∈ r.unit.user?, '\x00' ∉ user
  workingDirectory :
    ∀ directory ∈ r.unit.get? serviceSection workingDirectoryKey, '\x00' ∉ directory

/-- What has no NUL in it is quoted without a fault. -/
theorem bind_nulFault?_eq_none {found : Option Text} {quoted : Text → Text}
    (h : ∀ t ∈ found, '\x00' ∉ t) : (found.bind fun t => nulFault? t (quoted t)) = none := by
  cases found with
  | none => rfl
  | some t => exact nulFault?_eq_none_iff.2 (h t rfl)

/-- An opening in which nothing is wrong has no fault. -/
theorem Opens.fault?_opening {r : Request} (h : r.Opens) : Script.fault? r.opening = none := by
  have hproper := (UnitName.check_eq_ok_iff r.name).1 h.accepted
  have haccount : accountFault? r.account? = none := by
    rw [accountFault?_account?]
    exact bind_nulFault?_eq_none h.user
  have hdirectory : ((r.unit.get? serviceSection workingDirectoryKey).bind fun directory =>
      nulFault? directory ("WorkingDirectory=" ++ directory)) = none :=
    bind_nulFault?_eq_none h.workingDirectory
  have hbanner : '\x00' ∉ ("Running ExecStartPre commands" : Text) := by decide
  simp only [opening, Script.fault?_cons, Script.fault?_append, Script.fault?_nil,
    interpreterLine_eq, echoLine_eq, Step.fault?_guarded, fault?_directories,
    fault?_loginShellBlock r haccount, fault?_exports, fault?_workingDirectoryBlock,
    nameFault?_eq_none_iff.2 hproper, haccount, hdirectory, nulFault?_eq_none_iff.2 h.name,
    nulFault?_eq_none_iff.2 hbanner, Option.or_none]

/-- A writing that ends among the parts does so at one with no command in it. -/
theorem Opens.exists_part?_zero {r : Request} (h : r.Opens) : ∃ s, r.part? 0 = some s := by
  have hopening := (Script.outcome_eq_ok_iff _).2 h.fault?_opening
  refine ⟨r.opening.text, Script.complete?_eq_some_iff.2 ?_⟩
  rw [script_upTo, List.take_zero, List.flatMap_nil, List.append_nil]
  exact ⟨hopening, rfl⟩

/-- There is a part as long as all of its commands can be written. -/
theorem Opens.exists_part?_iff {r : Request} (h : r.Opens) (k : Nat) :
    (∃ s, r.part? k = some s) ↔ ∀ raw ∈ r.unit.execStartPre.take k, r.CanRun raw := by
  induction k with
  | zero => simp [h.exists_part?_zero]
  | succ k ih =>
    rw [List.take_add_one]
    cases hraw : r.unit.execStartPre[k]? with
    | none =>
      rw [part?_succ_of_none hraw, Option.toList_none, List.append_nil]
      exact ih
    | some raw =>
      simp only [part?_succ hraw, Option.toList_some, List.mem_append, List.mem_singleton,
        or_imp, forall_and, forall_eq, ← ih]
      constructor
      · rintro ⟨_, s, line, check, hs, hline, hcheck, -⟩
        exact ⟨⟨s, hs⟩, line, check, hline, hcheck⟩
      · rintro ⟨⟨s, hs⟩, line, check, hline, hcheck⟩
        exact ⟨_, s, line, check, hs, hline, hcheck, rfl⟩

-- ---------------------------------------------------------------------------
-- Where a script ends
-- ---------------------------------------------------------------------------

/-- The same request, asking for a service or not. -/
def withStrict (r : Request) (strict : Bool) : Request := { r with strict }

/-- What a script has emitted when it ends, by the place where it ends: a part of
the script, and what has been written of the command behind it. -/
structure BreaksOffAtFault (r : Request) : Prop where
  part : ∀ k, (∃ s, r.part? k = some s) ↔ ∀ raw ∈ r.unit.execStartPre.take k, r.CanRun raw
  nextPart : ∀ k raw, r.unit.execStartPre[k]? = some raw → ∀ t,
    r.part? (k + 1) = some t ↔
      ∃ s line check, r.part? k = some s ∧ r.wrapped execStartPreKey raw = .ok line ∧
        preCheck raw = .ok check ∧ t = s ++ line ++ "\n" ++ check
  beginsNext : ∀ k s t, r.part? k = some s → r.part? (k + 1) = some t → s <+: t
  beginsScript : ∀ k s, r.part? k = some s → s <+: r.script.text
  -- the first command that cannot be written is not wrapped
  atCommand : ∀ k raw f, r.unit.execStartPre[k]? = some raw →
    (∀ earlier ∈ r.unit.execStartPre.take k, r.CanRun earlier) →
    r.wrapped execStartPreKey raw = .error f →
    r.part? k = some r.script.text ∧ r.script.outcome = .error f
  -- it is wrapped, and its check cannot be written
  atCheck : ∀ k raw line f, r.unit.execStartPre[k]? = some raw →
    (∀ earlier ∈ r.unit.execStartPre.take k, r.CanRun earlier) →
    r.wrapped execStartPreKey raw = .ok line → preCheck raw = .error f →
    ∃ s, r.part? k = some s ∧ r.script.text = s ++ line ++ "\n" ∧ r.script.outcome = .error f
  -- every command can be written, and there is no service: both kinds of requests end alike
  -- but for their outcome
  noService : (∀ raw ∈ r.unit.execStartPre, r.CanRun raw) →
    r.unit.get? serviceSection execStartKey = none → ∀ strict,
    r.part? r.unit.execStartPre.length = some (r.withStrict strict).script.text ∧
      (r.withStrict strict).script.outcome =
        if strict then .error (.missingDirective serviceSection execStartKey) else .ok ⟨⟩
  -- with a service there is no difference at all
  strictness : ∀ command, r.unit.get? serviceSection execStartKey = some command → ∀ strict,
    (r.withStrict strict).script = r.script
  atAnnouncement : (∀ raw ∈ r.unit.execStartPre, r.CanRun raw) →
    ∀ command f, r.unit.get? serviceSection execStartKey = some command →
    announcement command = .error f →
    r.part? r.unit.execStartPre.length = some r.script.text ∧ r.script.outcome = .error f
  atService : (∀ raw ∈ r.unit.execStartPre, r.CanRun raw) →
    ∀ command notice f, r.unit.get? serviceSection execStartKey = some command →
    announcement command = .ok notice → r.wrapped execStartKey command = .error f →
    ∃ s, r.part? r.unit.execStartPre.length = some s ∧ r.script.text = s ++ notice ∧
      r.script.outcome = .error f
  atEnd : (∀ raw ∈ r.unit.execStartPre, r.CanRun raw) →
    ∀ command notice line, r.unit.get? serviceSection execStartKey = some command →
    announcement command = .ok notice → r.wrapped execStartKey command = .ok line →
    ∃ s check, r.part? r.unit.execStartPre.length = some s ∧
      failureCheck "running ExecStart" = .ok check ∧
      r.script.text = s ++ notice ++ line ++ "\n" ++ check ∧ r.script.outcome = .ok ⟨⟩

/-- Behind a part the next command is tried. -/
theorem Opens.exists_behind_part {r : Request} (h : r.Opens) {k : Nat} {raw : Text}
    (hraw : r.unit.execStartPre[k]? = some raw)
    (hearlier : ∀ earlier ∈ r.unit.execStartPre.take k, r.CanRun earlier) :
    ∃ (s : Text) (behind : Script),
      let tried : Script := closeLine (r.wrapped execStartPreKey raw) :: preCheck raw :: behind
      r.part? k = some s ∧ r.script.text = s ++ tried.text ∧
        r.script.outcome = tried.outcome := by
  obtain ⟨s, hs⟩ := (h.exists_part?_iff k).2 hearlier
  obtain ⟨hk, hget⟩ := List.getElem?_eq_some_iff.1 hraw
  have hcommands : r.unit.execStartPre.drop k = raw :: r.unit.execStartPre.drop (k + 1) := by
    rw [List.drop_eq_getElem_cons hk, hget]
  refine ⟨s, (r.unit.execStartPre.drop (k + 1)).flatMap (preCommand r.account?) ++ r.mainCommand,
    hs, ?_⟩
  rw [script_eq_upTo_append r k, hcommands, Script.text_append_of_complete? hs,
    Script.outcome_append_of_complete? hs, List.flatMap_cons, preCommand_eq]
  exact ⟨rfl, rfl⟩

/-- Behind the last part the service is tried. -/
theorem Opens.exists_lastPart {r : Request} (h : r.Opens)
    (hall : ∀ raw ∈ r.unit.execStartPre, r.CanRun raw) :
    ∃ s, r.part? r.unit.execStartPre.length = some s ∧
      r.script.text = s ++ r.mainCommand.text ∧ r.script.outcome = r.mainCommand.outcome := by
  obtain ⟨s, hs⟩ : ∃ s, r.part? r.unit.execStartPre.length = some s := by
    rw [h.exists_part?_iff, List.take_length]
    exact hall
  refine ⟨s, hs, ?_⟩
  rw [script_eq_upTo_append r r.unit.execStartPre.length, List.drop_length, List.flatMap_nil,
    List.nil_append, Script.text_append_of_complete? hs, Script.outcome_append_of_complete? hs]
  exact ⟨rfl, rfl⟩

/-- The command that is the service is announced, run and checked. -/
theorem mainCommand_eq_announced {r : Request} {command : Text}
    (h : r.unit.get? serviceSection execStartKey = some command) :
    r.mainCommand =
      [announcement command, closeLine (r.wrapped execStartKey command),
        failureCheck "running ExecStart"] :=
  mainCommand_of_some h

/-- For a unit with a service it makes no difference whether one is asked for. -/
theorem script_of_strict {r : Request} {command : Text}
    (h : r.unit.get? serviceSection execStartKey = some command) (strict : Bool) :
    (r.withStrict strict).script = r.script := by
  have hstrict : (r.withStrict strict).unit.get? serviceSection execStartKey = some command := h
  have hservice : (r.withStrict strict).mainCommand = r.mainCommand := by
    rw [mainCommand_of_some h, mainCommand_of_some hstrict]
    rfl
  rw [script_eq, script_eq, hservice]
  rfl

/-- **A script breaks off at its fault.** If nothing is wrong in front of the first
command, a script has emitted the whole script of the unit cut in front of the
fault, and of the command that is at fault what is written before the fault is
found. A script without a fault has gone through all parts in the same way. -/
theorem breaksOffAtFault {r : Request} (h : r.Opens) : r.BreaksOffAtFault where
  part := h.exists_part?_iff
  nextPart _ _ hraw := part?_succ hraw
  beginsNext _ _ _ hs ht := prefix_part?_succ hs ht
  beginsScript _ _ hs := prefix_script_of_part? hs
  atCommand k raw f hraw hearlier hline := by
    obtain ⟨s, behind, hs, htext, houtcome⟩ := h.exists_behind_part hraw hearlier
    rw [closeLine_of_error hline] at htext houtcome
    rw [htext, houtcome, hs, Script.text_cons_error, List.append_nil]
    exact ⟨rfl, rfl⟩
  atCheck k raw line f hraw hearlier hline hcheck := by
    obtain ⟨s, behind, hs, htext, houtcome⟩ := h.exists_behind_part hraw hearlier
    rw [closeLine_of_ok hline, hcheck] at htext houtcome
    refine ⟨s, hs, ?_, houtcome⟩
    rw [htext, Script.text_cons_ok, Script.text_cons_error, List.append_nil, List.append_assoc]
  noService hall hnone strict := by
    -- the parts are those of the lenient request
    have hopens : (r.withStrict strict).Opens := ⟨h.accepted, h.name, h.user, h.workingDirectory⟩
    have hservice : (r.withStrict strict).unit.get? serviceSection execStartKey = none := hnone
    obtain ⟨s, hs, htext, houtcome⟩ := hopens.exists_lastPart hall
    have hpart : r.part? r.unit.execStartPre.length = some s := hs
    rw [mainCommand_of_none hservice] at htext houtcome
    rw [htext, houtcome, hpart]
    cases strict with
    | false => exact ⟨congrArg some (List.append_nil s).symm, rfl⟩
    | true => exact ⟨congrArg some (List.append_nil s).symm, rfl⟩
  strictness _ hcommand strict := script_of_strict hcommand strict
  atAnnouncement hall command f hcommand hnotice := by
    obtain ⟨s, hs, htext, houtcome⟩ := h.exists_lastPart hall
    rw [mainCommand_eq_announced hcommand, hnotice] at htext houtcome
    rw [htext, houtcome, hs, Script.text_cons_error, List.append_nil]
    exact ⟨rfl, rfl⟩
  atService hall command notice f hcommand hnotice hline := by
    obtain ⟨s, hs, htext, houtcome⟩ := h.exists_lastPart hall
    rw [mainCommand_eq_announced hcommand, hnotice, closeLine_of_error hline] at htext houtcome
    refine ⟨s, hs, ?_, houtcome⟩
    rw [htext, Script.text_cons_ok, Script.text_cons_error, List.append_nil]
  atEnd hall command notice line hcommand hnotice hline := by
    obtain ⟨s, hs, htext, houtcome⟩ := h.exists_lastPart hall
    have hmessage : '\x00' ∉ ("running ExecStart" : Text) := by decide
    have hcheck : failureCheck "running ExecStart" =
        .ok (Written.failureCheck "running ExecStart") := by
      rw [failureCheck_eq, nulFault?_eq_none_iff.2 hmessage]
      rfl
    rw [mainCommand_eq_announced hcommand, hnotice, closeLine_of_ok hline, hcheck] at htext houtcome
    refine ⟨s, _, hs, hcheck, ?_, houtcome⟩
    rw [htext]
    simp only [Script.text_cons_ok, Script.text_nil, List.append_nil, List.append_assoc]

/-- A command that can be wrapped, but not named in its check, behind one that may
fail. The service is not reached. -/
theorem breaksOffAtFault_unquotable :
    let u : ServiceUnit := ServiceUnit.addAll ∅
      [⟨serviceSection, execStartPreKey, "-/bin/false"⟩,
       ⟨serviceSection, execStartPreKey, "!a\x00b"⟩, ⟨serviceSection, execStartKey, "/bin/true"⟩]
    let r : Request := ⟨u, "demo", "/bin/sh", true⟩
    r.Opens ∧ ∃ s, r.part? 1 = some s ∧ r.script.text = s ++ ("a\x00b" : Text) ++ "\n" ∧
      r.script.outcome = .error (.unquotable "command: !a\x00b") := by
  intro u r
  have hopens : r.Opens := ⟨rfl, by decide, by decide, by decide⟩
  have hfirst : ∀ earlier ∈ r.unit.execStartPre.take 1, r.CanRun earlier := by
    intro earlier hearlier
    have hcommand : earlier = ("-/bin/false" : Text) := List.mem_singleton.1 hearlier
    subst hcommand
    exact ⟨_, _, rfl, rfl⟩
  exact ⟨hopens, (breaksOffAtFault hopens).atCheck 1 "!a\x00b" "a\x00b" _ rfl hfirst rfl rfl⟩

end Request

end ServiceScript
