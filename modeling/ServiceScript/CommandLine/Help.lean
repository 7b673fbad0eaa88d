import ServiceScript.CommandLine.Basic
import ServiceScript.Text.Terminal

/-!
# ServiceScript — help

The texts that a run prints when it is asked about itself. The help calls the
program by the name that it was started by, as far as a terminal would show it.
-/

namespace ServiceScript

/-- The name of the program where it was started by none. -/
def defaultProgramName : Text := "unitscript"

/-- The name that the program was started by: what the path in front of the
arguments leads to, if that has a name and the name is text. -/
def CommandLine.programName (argv : List Bytes) : Text :=
  ((argv.head?.bind Path.fileName?).bind Utf8.decode?).getD defaultProgramName

def helpText (program : Text) : Text :=
  ([ "Read a systemd unit file and produce a shell script that approximates running it",
     "",
     "Usage: " ++ Terminal.shown program ++ " [OPTIONS] --unit <PATH> --out <PATH>",
     "",
     "Options:",
     "      --unit <PATH>         Path to the unit file to read",
     "      --out <PATH>          Where to write the generated script",
     "      --interpreter <PATH>  Absolute path of the shell named in the script's shebang " ++
       "[default: /bin/sh]",
     "      --strict              Fail when the unit declares no `ExecStart` in `[Service]`",
     "      --print-model         Print the parsed unit as JSON on stdout once the script " ++
       "is written",
     "      --log-level <LEVEL>   Override the logging verbosity for this invocation only",
     "  -h, --help                Print help",
     "  -V, --version             Print version" ] : List Text).flatMap (· ++ ['\n'])

def versionText : Text := "unitscript 0.1.0\n"

end ServiceScript
