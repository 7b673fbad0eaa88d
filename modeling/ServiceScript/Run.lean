import ServiceScript.CommandLine.Help
import ServiceScript.CommandLine.Parse
import ServiceScript.Job
import ServiceScript.Journal.Filter
import ServiceScript.Unit.ModelText

/-!
# ServiceScript — runs

A run from its command line to its exit code. What a run reports is decided by
how far its job came; what it prints, by how the job ended.

Main definitions:

* `Progress.events` — what is reported of a job, in order;
* `Report` — what a run shows of itself;
* `run` — a run on any host.
-/

namespace ServiceScript

-- ---------------------------------------------------------------------------
-- Events of a job
-- ---------------------------------------------------------------------------

/-- What is reported of something found in a unit file. -/
def Finding.event : Finding → Event
  | .skipped d => ⟨.warn, .lines, d.message⟩
  | .directive d =>
    ⟨.debug, .unit, "key " ++ d.key ++ " and section " ++ d.sectionName⟩

/-- What is reported once the unit is named. -/
def Job.openingEvent (j : Job) (name : Text) : Event :=
  ⟨.info, .run, "Translating unit '" ++ name ++ "' from " ++ Quoted.ofBytes j.unit⟩

/-- What is reported once the script is written. -/
def Job.closingEvents (j : Job) (content name : Text) : List Event :=
  let unit := UnitFile.unit content
  [⟨.debug, .script, "Wrote script for unit '" ++ name ++ "' to " ++ Quoted.ofBytes j.out⟩,
   ⟨.info, .run, "Wrote " ++ Quoted.ofBytes j.out ++ " (" ++
      Text.decimal unit.execStartPre.length ++ " ExecStartPre command(s), " ++
      Text.decimal (UnitFile.diagnostics content).length ++ " line(s) skipped)"⟩,
   ⟨.debug, .run, "Parsed unit: " ++ unit.modelText .pretty⟩]

/-- What is reported of a job, in order. -/
def Progress.events (p : Progress) (j : Job) : List Event :=
  match p.content?, p.name?, p.outcome with
  | none, _, _ => []
  | some content, none, _ => (UnitFile.findings content).map Finding.event
  | some content, some name, .error _ =>
    (UnitFile.findings content).map Finding.event ++ [j.openingEvent name]
  | some content, some name, .ok _ =>
    (UnitFile.findings content).map Finding.event ++ j.openingEvent name ::
      j.closingEvents content name

-- ---------------------------------------------------------------------------
-- Reports
-- ---------------------------------------------------------------------------

/-- What a run shows of itself. -/
structure Report where
  -- zero exactly for success
  exitCode : Nat
  output : Text
  -- what it prints apart: its events and how it failed
  errors : Text
deriving DecidableEq

def Options.job (o : Options) : Job := ⟨o.unit, o.out, none, o.interpreter, o.strict⟩

def Stop.exitCode : Stop → Nat
  | .help | .version => 0
  | .usage _ => 2

/-- What is printed to whom asks for it, where `program` is the name of the program. -/
def Stop.output (program : Text) : Stop → Text
  | .help => helpText program
  | .version => versionText
  | .usage _ => []

/-- The line that a wrong usage is answered with. -/
def Stop.errors : Stop → Text
  | .help | .version => []
  | .usage fault => "error: " ++ fault.message ++ "\n"

/-- The report of a run that did not come about. -/
def Stop.report (program : Text) (stop : Stop) : Report :=
  ⟨stop.exitCode, stop.output program, stop.errors⟩

/-- What a run prints: the unit, if it is asked for and the script is written. -/
def Progress.output (p : Progress) (printModel : Bool) : Text :=
  match p.content?, p.outcome with
  | some content, .ok _ =>
    if printModel then (UnitFile.unit content).modelText .pretty ++ ['\n'] else []
  | _, _ => []

/-- The last line of a run that fails. -/
def failureLine : Except Fault Unit → Text
  | .ok _ => []
  | .error f => "Error: " ++ f.message ++ "\n"

def Progress.report (p : Progress) (o : Options) (filter : LogFilter) : Report where
  exitCode := match p.outcome with
    | .ok _ => 0
    | .error _ => 1
  output := p.output o.printModel
  errors := ((p.events o.job).filter filter.shows).flatMap (fun e => e.line ++ ['\n']) ++
    failureLine p.outcome

/-- A run with the arguments `argv`, where the environment sets a log filter or
none. -/
def run {m : Type → Type} [Monad m] (host : Host m) (argv : List Bytes)
    (environment : Option Text) : m Report := do
  match CommandLine.parse argv with
  | .error stop => return stop.report (CommandLine.programName argv)
  | .ok options =>
    let progress ← options.job.perform host
    return progress.report options (LogFilter.ofSettings options.logLevel environment)

end ServiceScript
