import ServiceScript.Shell.Word
import ServiceScript.Unit.Basic

/-!
# ServiceScript — accounts

The account that a service runs as. A script is started by another account, as
a rule by root, so it hands the directories of the service over to the account,
gives the account a login shell, and runs every command through `su`.
-/

namespace ServiceScript

def loginShell : Text := "/bin/sh"

/-- The program that runs commands as another account. -/
def switchProgram : Text := "/bin/su"

/-- The line that ends the text fed to it. -/
def hereDocumentEnd : Text := "EOSUWRAPPEDCMD"

/-- An account, by its name. -/
structure Account where
  name : Text
deriving DecidableEq

namespace Account

def ofUnit? (u : ServiceUnit) : Option Account := u.user?.map Account.mk

/-- The command that gives a path to the account. Of two names that cannot be
quoted, that of the account is reported. -/
def chown (a : Account) (path : Text) : Except Fault Text := do
  let owner ← Shell.quote a.name
  let target ← Shell.quote path
  return "chown " ++ owner ++ " " ++ target

/-- What a script says before it changes the login shell. -/
def loginShellNotice (a : Account) : Text :=
  "setting login shell for " ++ a.name ++ " to " ++ loginShell ++
    " so commands can be run as them"

/-- The lines that give the account its login shell. -/
def loginShellSetup (a : Account) : Except Fault Text := do
  let notice ← Shell.quote a.loginShellNotice
  let owner ← Shell.quote a.name
  return "echo " ++ notice ++ "\nchsh " ++ owner ++ " -s " ++ loginShell ++ "\n"

/-- The command that feeds another command to a shell of the account. The end
line is quoted, so the shell that feeds the command expands nothing in it. -/
def runAs (a : Account) (command : Text) : Except Fault Text := do
  let owner ← Shell.quote a.name
  return switchProgram ++ " " ++ owner ++ " <<'" ++ hereDocumentEnd ++ "'\n" ++ command ++ "\n" ++
    hereDocumentEnd

end Account

end ServiceScript
