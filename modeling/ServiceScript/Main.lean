import ServiceScript.Run

/-!
# ServiceScript — the program

The command line over the files of the machine: the one place with effects.
-/

namespace ServiceScript

/-- What the system reports, as a fault with a file. -/
def IoFault.ofReport (code : UInt32) (report : String) : IoFault :=
  if code = 2 then .notFound
  else if code = 20 then .notADirectory
  else if code = 21 then .isADirectory
  else if code = 28 then .noSpace
  else if code = 36 then .nameTooLong
  else .other (report ++ " (os error " ++ Text.decimal code.toNat ++ ")")

/-- The fault with a file that an error of the system stands for. -/
def IoFault.ofError : IO.Error → IoFault
  | .alreadyExists _ code report | .otherError code report | .resourceBusy code report
  | .resourceVanished code report | .unsupportedOperation code report
  | .hardwareFault code report | .unsatisfiedConstraints code report
  | .illegalOperation code report | .protocolError code report | .timeExpired code report
  | .interrupted _ code report | .noFileOrDirectory _ code report
  | .invalidArgument _ code report | .permissionDenied _ code report
  | .resourceExhausted _ code report | .inappropriateType _ code report
  | .noSuchThing _ code report => .ofReport code report
  | .unexpectedEof => .other "unexpected end of file"
  | .userError report => .other report

/-- An effect with its error as a fault with a file. -/
def attempt {α : Type} (action : IO α) : IO (Except IoFault α) := do
  try
    return .ok (← action)
  catch e =>
    return .error (.ofError e)

/-- The path in the form that the system takes, or why there is none. -/
def systemPath (path : Path) : Except IoFault String :=
  if 0 ∈ path then .error .nulInPath
  else match Utf8.decode? path with
    | some t => .ok (String.ofList t)
    | none => .error (.other "file name is not valid UTF-8")

/-- The files of the machine. -/
def machine : Host IO where
  Handle := IO.FS.Handle
  read path := do
    match systemPath path with
    | .error cause => return .error cause
    | .ok name => attempt do
      let handle ← IO.FS.Handle.mk name .read
      return (← handle.readBinToEnd).toList
  create path := do
    match systemPath path with
    | .error cause => return .error cause
    | .ok name => attempt (IO.FS.Handle.mk name .write)
  append handle bytes :=
    if bytes = [] then return .ok ⟨⟩
    else attempt do
      handle.write (ByteArray.mk bytes.toArray)
      handle.flush

end ServiceScript

/-- Runs the program with its arguments and gives its exit code. -/
def main (arguments : List String) : IO UInt32 := do
  let argv := "unitscript" :: arguments
  let environment ← IO.getEnv "RUST_LOG"
  let report ← ServiceScript.run ServiceScript.machine
    (argv.map fun argument => ServiceScript.Utf8.encode argument.toList)
    (environment.map String.toList)
  IO.print (String.ofList report.output)
  IO.eprint (String.ofList report.errors)
  return UInt32.ofNat report.exitCode
