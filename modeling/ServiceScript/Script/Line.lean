import ServiceScript.Script.Basic
import ServiceScript.Shell.Word

/-!
# ServiceScript — lines of a script

The steps that every part of a script is made of. A step with a text in it that
cannot be a word of a script is a fault.
-/

namespace ServiceScript

/-- The variable that holds the status of a command that failed. -/
def statusVariable : Text := "FATAL_ERR"

/-- What ends the script with the status of the command before it, if that
failed, and says what it was. -/
def failureCheck (message : Text) : Step := do
  let quoted ← Shell.quote message
  return "\n" ++ statusVariable ++ "=$?\n" ++
    "if [ \"$" ++ statusVariable ++ "\" -ne 0 ]\n" ++
    "then\n" ++
    "  export " ++ statusVariable ++ "\n" ++
    "  echo \"Non-zero exit code $" ++ statusVariable ++ ".\" " ++ quoted ++ "\n" ++
    "  exit $" ++ statusVariable ++ "\n" ++
    "fi\n"

def makeDirectoryLine (path : Text) : Step := do
  let quoted ← Shell.quote path
  return "\nmkdir -p " ++ quoted ++ "\n"

def echoLine (message : Text) : Step := do
  let quoted ← Shell.quote message
  return "echo " ++ quoted ++ "\n"

/-- A line that gives a variable a value, behind a command such as `export`. -/
def assignLine (command name value : Text) : Step := do
  let quoted ← Shell.quote value
  return command ++ " " ++ name ++ "=" ++ quoted ++ "\n"

def closeLine (step : Step) : Step := do
  let line ← step
  return line ++ "\n"

end ServiceScript
