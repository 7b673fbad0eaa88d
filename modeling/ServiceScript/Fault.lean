import ServiceScript.Text.Quoted

/-!
# ServiceScript — faults

Why a unit gets no script. A fault is a cause with what it is about; its wording
is `Fault.message`. What the system says about a file is an `IoFault` inside
the fault that names the file.
-/

namespace ServiceScript

/-- Why a file cannot be read, created or written. -/
inductive IoFault where
  -- a component of the path does not exist
  | notFound
  -- the path goes on behind something that is no directory
  | notADirectory
  | isADirectory
  -- the device takes no more bytes
  | noSpace
  -- the path or a component of it is too long
  | nameTooLong
  -- the content is not the UTF-8 of a text
  | invalidUtf8
  -- the path has a NUL byte in it
  | nulInPath
  -- a sink of bounded size took only a part of what was written
  | sinkFull
  -- any other report of the system, in its words
  | other (report : Text)
deriving DecidableEq

def IoFault.message : IoFault → Text
  | .notFound => "No such file or directory (os error 2)"
  | .notADirectory => "Not a directory (os error 20)"
  | .isADirectory => "Is a directory (os error 21)"
  | .noSpace => "No space left on device (os error 28)"
  | .nameTooLong => "File name too long (os error 36)"
  | .invalidUtf8 => "stream did not contain valid UTF-8"
  | .nulInPath => "file name contained an unexpected NUL byte"
  | .sinkFull => "failed to write whole buffer"
  | .other report => report

/-- Why a unit gets no script, or only a part of one. -/
inductive Fault where
  | unreadableUnit (path : Bytes) (cause : IoFault)
  -- the script file cannot be created or written
  | unwritableScript (path : Bytes) (cause : IoFault)
  -- the sink that takes the script refuses it
  | emission (cause : IoFault)
  -- a command is to run under another name for itself
  | argvZero (raw : Text)
  -- a command has nothing left to run behind its modifiers
  | emptyCommand (directive raw : Text)
  -- a directive that has to be there is not
  | missingDirective (sectionName key : Text)
  -- a text with a NUL in it cannot be a word of a script
  | unquotable (text : Text)
  -- a unit of this name would have its directories elsewhere than under their roots
  | invalidUnitName (input : Text)
deriving DecidableEq

def Fault.message : Fault → Text
  | .unreadableUnit path cause =>
    "Failed to read unit file '" ++ Utf8.decodeLossy path ++ "': " ++ cause.message
  | .unwritableScript path cause =>
    "Failed to write script '" ++ Utf8.decodeLossy path ++ "': " ++ cause.message
  | .emission cause => "Failed to emit script: " ++ cause.message
  | .argvZero raw =>
    "'@' executable prefix is not supported (it replaces argv[0]): " ++ raw
  | .emptyCommand directive raw =>
    "Empty command line in " ++ directive ++ ": '" ++ raw ++ "'"
  | .missingDirective sectionName key =>
    "Missing required key " ++ key ++ " in section " ++ sectionName
  | .unquotable text =>
    "Cannot quote text for the shell (contains a NUL byte): " ++ Quoted.ofText text
  | .invalidUnitName input => "Cannot derive a unit name from '" ++ input ++ "'"

end ServiceScript
