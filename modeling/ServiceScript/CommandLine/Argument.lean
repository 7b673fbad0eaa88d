import ServiceScript.CommandLine.Basic

/-!
# ServiceScript — arguments

What an argument of the command line is, taken by itself: an option with two
dashes and a name, a value attached to it behind an equals sign; one of the two
options with a single dash; or no option.
-/

namespace ServiceScript

/-- What an argument is, taken by itself. -/
inductive Argument where
  -- an option that takes a value, with the value if it is attached
  | option (o : ValueOption) (attached : Option Bytes)
  -- an option that takes no value
  | flag (f : Flag)
  | help
  | version
  -- an option that takes no value, with a value attached
  | flagWithValue
  -- the two dashes behind which nothing is an option
  | terminator
  -- an option that there is not
  | unknown
  -- no option: what does not begin with a dash, or is a lone dash
  | plain
deriving DecidableEq

def dash : UInt8 := 0x2D

def equalsSign : UInt8 := 0x3D

/-- The option of a name behind two dashes, with the value attached to it. -/
def Argument.ofName (name : Bytes) (attached : Option Bytes) : Argument :=
  match ValueOption.all.find? fun o => Utf8.encode o.name = name with
  | some o => .option o attached
  | none =>
    let bare : Option Argument :=
      if name = Utf8.encode "help" then some .help
      else if name = Utf8.encode "version" then some .version
      else (Flag.all.find? fun f => Utf8.encode f.name = name).map Argument.flag
    match bare, attached with
    | some argument, none => argument
    | some _, some _ => .flagWithValue
    | none, _ => .unknown

/-- What an argument is. Of the options behind one dash the first decides, and
both that there are end the reading. -/
def Argument.ofBytes (argument : Bytes) : Argument :=
  match argument with
  | [] => .plain
  | first :: rest =>
    if first ≠ dash then .plain
    else match rest with
      | [] => .plain
      | second :: tail =>
        if second = dash then
          if tail = [] then .terminator
          else match splitFirst equalsSign tail with
            | some (name, value) => ofName name (some value)
            | none => ofName tail none
        else if second = 0x68 then .help
        else if second = 0x56 then .version
        else .unknown

end ServiceScript
