import ServiceScript.Proofs.Request.Writing
import ServiceScript.Run

/-!
# ServiceScript — what a run leaves behind

A run goes through its stages in an order that keeps files safe: it reads the
unit file, settles the name of the unit, and only then creates the script file.
So a run with a bad input leaves everything as it is, and a bad name is never
found when the script file has been emptied already. What the run prints and its
exit code then say how the last stage ended.

Main definitions:

* `RunKeeps` — what a run promises on every host;
* `Options.Stored` — the script that was asked for is in its file as a whole.

Main results:

* `Job.perform_of_unreadable`, `Job.perform_of_unnamed`, `Job.perform_of_named` —
  a job, by how far it comes;
* `run_keeps` — every run keeps its promises.
-/

namespace ServiceScript

-- ---------------------------------------------------------------------------
-- Jobs
-- ---------------------------------------------------------------------------

namespace Job

variable {σ : Type} {host : Host (StateM σ)} {before : σ} {j : Job} {content name : Text} {f : Fault}

/-- A unit that cannot be read ends the job before anything is named or written. -/
theorem perform_of_unreadable (h : textOf j.unit (host.read j.unit before).1 = .error f) :
    j.perform host before = (⟨none, none, .error f⟩, (host.read j.unit before).2) := by
  rcases hread : host.read j.unit before with ⟨read, state⟩
  rw [hread] at h
  simp only [perform, bind, StateT.bind, hread, h]
  rfl

/-- A unit that cannot be named ends the job before anything is written. -/
theorem perform_of_unnamed (h : textOf j.unit (host.read j.unit before).1 = .ok content)
    (hname : j.nameOf = .error f) :
    j.perform host before = (⟨some content, none, .error f⟩, (host.read j.unit before).2) := by
  rcases hread : host.read j.unit before with ⟨read, state⟩
  rw [hread] at h
  simp only [perform, bind, StateT.bind, hread, h, hname]
  rfl

/-- A unit that is read and named has its script written. -/
theorem perform_of_named (h : textOf j.unit (host.read j.unit before).1 = .ok content)
    (hname : j.nameOf = .ok name) :
    j.perform host before =
      let written := (j.request content name).script.writeTo host j.out (host.read j.unit before).2
      (⟨some content, some name, written.1⟩, written.2) := by
  rcases hread : host.read j.unit before with ⟨read, state⟩
  rw [hread] at h
  simp only [perform, bind, StateT.bind, hread, h, hname]
  rfl

/-- A job that succeeds could read and name its unit. -/
theorem named_of_perform_ok (h : (j.perform host before).1.outcome = .ok ⟨⟩) :
    ∃ content name, textOf j.unit (host.read j.unit before).1 = .ok content ∧
      j.nameOf = .ok name := by
  cases htext : textOf j.unit (host.read j.unit before).1 with
  | error f =>
    rw [perform_of_unreadable htext] at h
    cases h
  | ok content =>
    cases hname : j.nameOf with
    | error f =>
      rw [perform_of_unnamed htext hname] at h
      cases h
    | ok name => exact ⟨content, name, rfl, rfl⟩

end Job

-- ---------------------------------------------------------------------------
-- Names
-- ---------------------------------------------------------------------------

/-- With a proper name a script is never refused for its name, wherever it goes. -/
theorem Request.not_invalidUnitName {r : Request} (hname : UnitName.isProper r.name = true)
    {σ : Type} (host : Host (StateM σ)) (path : Path) (state : σ) (input : Text) :
    (r.script.writeTo host path state).1 ≠ .error (.invalidUnitName input) := by
  intro h
  rcases Script.writeTo_error_cases h with ⟨cause, hcause⟩ | houtcome
  · cases hcause
  · rw [Script.outcome_eq_of_fault?] at houtcome
    cases hfault : r.script.fault? with
    | none =>
      rw [hfault] at houtcome
      cases houtcome
    | some f =>
      rw [hfault] at houtcome
      cases houtcome
      rcases nameFault?_or_ofText hfault with hfound | htext
      · rw [nameFault?_eq_none_iff.2 hname] at hfound
        cases hfound
      · cases htext

-- ---------------------------------------------------------------------------
-- Scripts that are stored
-- ---------------------------------------------------------------------------

/-- A script without a fault stands in the file at a path, with all its bytes and
nothing else; or the device there has taken it. -/
def Request.Stored (r : Request) (path : Path) (before after : FileSystem) : Prop :=
  r.script.outcome = .ok ⟨⟩ ∧ ∃ place, before.creationPlace path = .ok place ∧
    (((before.node? place = none ∨ ∃ old, before.node? place = some (.file old)) ∧
        after = before.put place (.file (Utf8.encode r.script.text))) ∨
      (before.node? place = some .nullDevice ∧ after = before))

/-- The unit file of the options could be read and named, and its script is stored
where the options say. -/
def Options.Stored (o : Options) (before after : FileSystem) : Prop :=
  ∃ content name, Job.textOf o.unit (before.read o.unit) = .ok content ∧
    UnitName.ofPath o.unit = .ok name ∧ (o.job.request content name).Stored o.out before after

/-- Writing the script of a unit succeeds exactly if it is stored. -/
theorem Request.writeTo_eq_ok_iff (r : Request) (path : Path) (fs : FileSystem) :
    (r.script.writeTo FileSystem.host path fs).1 = .ok ⟨⟩ ↔
      r.Stored path fs (r.script.writeTo FileSystem.host path fs).2 := by
  constructor
  · intro h
    rcases fs.create_cases path with ⟨cause, hcreate⟩ | ⟨place, hplace, hfile | hnull | hfull⟩
    · rw [Script.writeTo_of_error (FileSystem.host_create_of_error hcreate)] at h
      cases h
    · rw [FileSystem.writeTo_file hplace hfile] at h ⊢
      exact ⟨h, place, hplace, .inl ⟨hfile, rfl⟩⟩
    · rw [FileSystem.writeTo_nullDevice hplace hnull] at h ⊢
      exact ⟨h, place, hplace, .inr ⟨hnull, rfl⟩⟩
    · -- a script that completes has a byte, which is refused
      have hcreate := FileSystem.host_create_of_ok (FileSystem.create_device hplace (.inr hfull))
      rw [writeTo_of_refusesAll r hcreate (FileSystem.refusesAll_fullDevice hfull)] at h
      dsimp only at h
      split at h
      · split at h
        · cases h
        · cases h
      · cases h
  · rintro ⟨houtcome, place, hplace, ⟨hfile, -⟩ | ⟨hnull, -⟩⟩
    · rw [FileSystem.writeTo_file hplace hfile]
      exact houtcome
    · rw [FileSystem.writeTo_nullDevice hplace hnull]
      exact houtcome

-- ---------------------------------------------------------------------------
-- Runs
-- ---------------------------------------------------------------------------

/-- What a run keeps to that has read its unit file with the answer `read`, and
left `untouched` by reading it; whose job comes to `outcome`, and which reports
`report` and leaves `after`. -/
structure RunKeeps {σ : Type} (o : Options) (read : Except IoFault Bytes) (untouched : σ)
    (outcome : Except Fault Unit) (report : Report) (after : σ) : Prop where
  -- the fault of the unit file comes first, whatever its name is
  unreadable : ∀ f, Job.textOf o.unit read = .error f → outcome = .error f ∧ after = untouched
  unnamed : ∀ content f, Job.textOf o.unit read = .ok content → UnitName.ofPath o.unit = .error f →
    outcome = .error f ∧ after = untouched
  -- the name that the script gets is one that the script accepts
  named : ∀ content name, Job.textOf o.unit read = .ok content → UnitName.ofPath o.unit = .ok name →
    UnitName.check name = .ok ⟨⟩ ∧ ∀ input, outcome ≠ .error (.invalidUnitName input)
  misnamed : ∀ input, outcome = .error (.invalidUnitName input) → after = untouched
  printed : outcome = .ok ⟨⟩ → o.printModel = true → ∃ content,
    Job.textOf o.unit read = .ok content ∧
      report.output = (UnitFile.unit content).modelText .pretty ++ ['\n']
  silent : ¬ (outcome = .ok ⟨⟩ ∧ o.printModel = true) → report.output = []
  exitCode : report.exitCode = 0 ↔ outcome = .ok ⟨⟩
  -- a failure is the last that is said
  failure : failureLine outcome <:+ report.errors

/-- A run exits with zero exactly if its job succeeded. -/
theorem Progress.exitCode_report (p : Progress) (o : Options) (filter : LogFilter) :
    (p.report o filter).exitCode = 0 ↔ p.outcome = .ok ⟨⟩ := by
  unfold Progress.report
  cases houtcome : p.outcome with
  | ok _ => exact iff_of_true rfl rfl
  | error f =>
    refine iff_of_false ?_ (by simp)
    show (1 : Nat) ≠ 0
    decide

/-- The failure is the last that a run says. -/
theorem Progress.failureLine_suffix (p : Progress) (o : Options) (filter : LogFilter) :
    failureLine p.outcome <:+ (p.report o filter).errors :=
  List.suffix_append _ _

/-- A run prints nothing unless it succeeds and the unit is asked for. -/
theorem Progress.output_eq_nil {p : Progress} {o : Options}
    (h : ¬ (p.outcome = .ok ⟨⟩ ∧ o.printModel = true)) (filter : LogFilter) :
    (p.report o filter).output = [] := by
  show p.output o.printModel = []
  unfold Progress.output
  split
  · next content answer hcontent houtcome =>
    rw [if_neg fun hprint => h ⟨houtcome, hprint⟩]
  · rfl

/-- A run that succeeds prints the unit if it is asked for. -/
theorem Progress.output_eq_modelText {p : Progress} {o : Options} {content : Text}
    (hcontent : p.content? = some content) (houtcome : p.outcome = .ok ⟨⟩)
    (hprint : o.printModel = true) (filter : LogFilter) :
    (p.report o filter).output = (UnitFile.unit content).modelText .pretty ++ ['\n'] := by
  show p.output o.printModel = _
  rw [Progress.output, hcontent, houtcome]
  exact if_pos hprint

/-- A run with options performs its job and reports on it. -/
theorem run_of_parse {argv : List Bytes} {o : Options} (h : CommandLine.parse argv = .ok o)
    {σ : Type} (host : Host (StateM σ)) (environment : Option Text) (before : σ) :
    run host argv environment before =
      let performed := o.job.perform host before
      (performed.1.report o (LogFilter.ofSettings o.logLevel environment), performed.2) := by
  simp only [run, h]
  rfl

/-- What a job keeps to, on every host. -/
theorem Options.perform_keeps (o : Options) {σ : Type} (host : Host (StateM σ)) (before : σ)
    (filter : LogFilter) :
    let read := host.read o.unit before
    let performed := o.job.perform host before
    RunKeeps o read.1 read.2 performed.1.outcome (performed.1.report o filter) performed.2 := by
  intro read performed
  have hunreadable : ∀ f, Job.textOf o.unit read.1 = .error f →
      performed = (⟨none, none, .error f⟩, read.2) :=
    fun f htext => Job.perform_of_unreadable htext
  have hunnamed : ∀ content f, Job.textOf o.unit read.1 = .ok content →
      UnitName.ofPath o.unit = .error f →
      performed = (⟨some content, none, .error f⟩, read.2) :=
    fun content f htext hname => Job.perform_of_unnamed htext hname
  have hnamed : ∀ content name, Job.textOf o.unit read.1 = .ok content →
      UnitName.ofPath o.unit = .ok name →
      performed = let written := (o.job.request content name).script.writeTo host o.out read.2
        (⟨some content, some name, written.1⟩, written.2) :=
    fun content name htext hname => Job.perform_of_named htext hname
  have haccepted : ∀ content name, Job.textOf o.unit read.1 = .ok content →
      UnitName.ofPath o.unit = .ok name →
      ∀ input, performed.1.outcome ≠ .error (.invalidUnitName input) := by
    intro content name htext hname input
    rw [hnamed content name htext hname]
    exact Request.not_invalidUnitName (UnitName.isProper_of_ofPath hname) host o.out read.2 input
  constructor
  case unreadable =>
    intro f htext
    rw [hunreadable f htext]
    exact ⟨rfl, rfl⟩
  case unnamed =>
    intro content f htext hname
    rw [hunnamed content f htext hname]
    exact ⟨rfl, rfl⟩
  case named =>
    intro content name htext hname
    exact ⟨if_pos (UnitName.isProper_of_ofPath hname), haccepted content name htext hname⟩
  case misnamed =>
    -- only a path that gives no name is such a fault, and it ends the job early
    intro input houtcome
    cases htext : Job.textOf o.unit read.1 with
    | error f => rw [hunreadable f htext]
    | ok content =>
      cases hname : UnitName.ofPath o.unit with
      | error f => rw [hunnamed content f htext hname]
      | ok name => exact absurd houtcome (haccepted content name htext hname input)
  case printed =>
    intro houtcome hprint
    obtain ⟨content, name, htext, hname⟩ := Job.named_of_perform_ok houtcome
    refine ⟨content, htext, Progress.output_eq_modelText ?_ houtcome hprint filter⟩
    rw [hnamed content name htext hname]
  case silent => exact fun h => Progress.output_eq_nil h filter
  case exitCode => exact Progress.exitCode_report performed.1 o filter
  case failure => exact Progress.failureLine_suffix performed.1 o filter

/-- A job that writes to a file leaves the text of its script there. -/
theorem Options.perform_of_file {o : Options} {fs : FileSystem} {content name : Text} {place : Place}
    (htext : Job.textOf o.unit (fs.read o.unit) = .ok content)
    (hname : UnitName.ofPath o.unit = .ok name) (hplace : fs.creationPlace o.out = .ok place)
    (hfile : fs.node? place = none ∨ ∃ old, fs.node? place = some (.file old)) :
    o.job.perform FileSystem.host fs =
      let script := (o.job.request content name).script
      (⟨some content, some name, script.outcome⟩,
        fs.put place (.file (Utf8.encode script.text))) := by
  have hwritten := FileSystem.writeTo_file hplace hfile (o.job.request content name).script
  have hperformed : o.job.perform FileSystem.host fs = _ := Job.perform_of_named htext hname
  rw [hperformed]
  show (Progress.mk _ _ ((o.job.request content name).script.writeTo FileSystem.host o.out fs).1,
    ((o.job.request content name).script.writeTo FileSystem.host o.out fs).2) = _
  rw [hwritten]

/-- On files, a job succeeds exactly if its script is stored. -/
theorem Options.perform_eq_ok_iff (o : Options) (fs : FileSystem) :
    let performed := o.job.perform FileSystem.host fs
    performed.1.outcome = .ok ⟨⟩ ↔ o.Stored fs performed.2 := by
  intro performed
  constructor
  · intro houtcome
    obtain ⟨content, name, htext, hname⟩ := Job.named_of_perform_ok houtcome
    have hperformed : performed = _ := Job.perform_of_named htext hname
    rw [hperformed] at houtcome ⊢
    exact ⟨content, name, htext, hname, (Request.writeTo_eq_ok_iff _ o.out fs).1 houtcome⟩
  · rintro ⟨content, name, htext, hname, hstored⟩
    have hperformed : performed = _ := Job.perform_of_named htext hname
    rw [hperformed] at hstored ⊢
    exact (Request.writeTo_eq_ok_iff _ o.out fs).2 hstored

/-- A run keeps its promises on every host. On files, a run with a bad input
leaves all of them as they are, and the run succeeds exactly if its script is
stored. -/
theorem run_keeps {argv : List Bytes} {o : Options} (h : CommandLine.parse argv = .ok o)
    (environment : Option Text) :
    (∀ (σ : Type) (host : Host (StateM σ)) (before : σ),
      let performed := o.job.perform host before
      let ran := run host argv environment before
      RunKeeps o (host.read o.unit before).1 (host.read o.unit before).2
        performed.1.outcome ran.1 ran.2) ∧
    ∀ fs : FileSystem,
      let outcome := (o.job.perform FileSystem.host fs).1.outcome
      let ran := run FileSystem.host argv environment fs
      RunKeeps o (fs.read o.unit) fs outcome ran.1 ran.2 ∧
        (outcome = .ok ⟨⟩ ↔ o.Stored fs ran.2) := by
  constructor
  · intro σ host before performed ran
    have hran : ran = _ := run_of_parse h host environment before
    rw [hran]
    exact o.perform_keeps host before _
  · intro fs outcome ran
    have hran : ran = _ := run_of_parse h FileSystem.host environment fs
    rw [hran]
    exact ⟨o.perform_keeps FileSystem.host fs _, o.perform_eq_ok_iff fs⟩

/-- A script file is left alone when the unit is missing, and when a file with
nothing but the suffix in its name gives none; a good unit is stored and
printed. -/
theorem run_keeps_demo :
    let argvOf : Text → List Bytes := fun unit => [Utf8.encode "unitscript", Utf8.encode "--unit",
      Utf8.encode unit, Utf8.encode "--out", Utf8.encode "out", Utf8.encode "--print-model"]
    let optionsOf : Text → Options := fun unit =>
      ⟨Utf8.encode unit, Utf8.encode "out", "/bin/sh", false, true, none⟩
    let missing := (FileSystem.fresh [Utf8.encode "tmp"]).withFile (Utf8.encode "out")
      (Utf8.encode "old")
    let content : Text := "[Service]\nExecStart=/bin/true\n"
    let misnamed := missing.withFile (Utf8.encode ".service") (Utf8.encode content)
    let good := missing.withFile (Utf8.encode "demo.service") (Utf8.encode content)
    CommandLine.parse (argvOf ".service") = .ok (optionsOf ".service") ∧
    CommandLine.parse (argvOf "demo.service") = .ok (optionsOf "demo.service") ∧
    (run FileSystem.host (argvOf "demo.service") none missing).2 = missing ∧
    (run FileSystem.host (argvOf ".service") none misnamed).2 = misnamed ∧
    (run FileSystem.host (argvOf "demo.service") none good).1.exitCode = 0 ∧
    (run FileSystem.host (argvOf "demo.service") none good).1.output =
      (UnitFile.unit content).modelText .pretty ++ ['\n'] ∧
    (optionsOf "demo.service").Stored good
      (run FileSystem.host (argvOf "demo.service") none good).2 := by
  intro argvOf optionsOf missing content misnamed good
  have hsuffix : CommandLine.parse (argvOf ".service") = .ok (optionsOf ".service") := by rfl
  have hdemo : CommandLine.parse (argvOf "demo.service") = .ok (optionsOf "demo.service") := by
    rfl
  obtain ⟨hmissing, -⟩ := (run_keeps hdemo none).2 missing
  obtain ⟨hmisnamed, -⟩ := (run_keeps hsuffix none).2 misnamed
  obtain ⟨hgood, hstored⟩ := (run_keeps hdemo none).2 good
  have hcontent : Job.textOf (Utf8.encode "demo.service") (good.read (Utf8.encode "demo.service")) =
      .ok content := by rfl
  have houtcome : ((optionsOf "demo.service").job.perform FileSystem.host good).1.outcome =
      .ok ⟨⟩ := by
    have hname : UnitName.ofPath (Utf8.encode "demo.service") = .ok "demo" := by rfl
    have hplace : good.creationPlace (Utf8.encode "out") =
        .ok [Utf8.encode "tmp", Utf8.encode "out"] := by rfl
    have hcompletes : ((optionsOf "demo.service").job.request content "demo").script.outcome =
        .ok ⟨⟩ := by
      rw [Script.outcome_eq_of_fault?, Request.fault?_script]
      rfl
    rw [Options.perform_of_file (o := optionsOf "demo.service") hcontent hname hplace
      (.inr ⟨Utf8.encode "old", rfl⟩)]
    dsimp only
    exact hcompletes
  refine ⟨hsuffix, hdemo, ?_, ?_, ?_, ?_, ?_⟩
  · exact (hmissing.unreadable (.unreadableUnit (Utf8.encode "demo.service") .notFound) rfl).2
  · exact (hmisnamed.unnamed content (.invalidUnitName ".service") rfl rfl).2
  · exact hgood.exitCode.2 houtcome
  · obtain ⟨found, hfound, hout⟩ := hgood.printed houtcome rfl
    cases hcontent.symm.trans hfound
    exact hout
  · exact hstored.1 houtcome

end ServiceScript
