import ServiceScript.Text.Basic

/-!
# ServiceScript — directories of a unit

Every unit has five directories of its own, each under a root of its kind. A
script makes them before it runs any command, and tells the commands where they
are by exporting a variable for each.
-/

namespace ServiceScript

/-- A directory that a unit has of its own. -/
inductive Directory where
  -- what is lost when the machine stops
  | runtime
  -- what has to stay
  | state
  -- what can be made again
  | cache
  | logs
  | configuration
deriving DecidableEq, Repr

namespace Directory

/-- Every directory, in the order in which a script makes them. -/
def all : List Directory := [.runtime, .state, .cache, .logs, .configuration]

theorem mem_all (d : Directory) : d ∈ all := by cases d <;> decide

/-- The directory under which those of this kind lie. -/
def root : Directory → Text
  | .runtime => "/run"
  | .state => "/var/lib"
  | .cache => "/var/cache"
  | .logs => "/var/logs"
  | .configuration => "/etc"

def variableName : Directory → Text
  | .runtime => "RUNTIME_DIRECTORY"
  | .state => "STATE_DIRECTORY"
  | .cache => "CACHE_DIRECTORY"
  | .logs => "LOGS_DIRECTORY"
  | .configuration => "CONFIGURATION_DIRECTORY"

def path (d : Directory) (unitName : Text) : Text := d.root ++ '/' :: unitName

end Directory

end ServiceScript
