import ServiceScript.Host

/-!
# ServiceScript — file systems

Files as a run sees them. What is there is looked up by **place**, the list of
the names on the way from the root; a path leads to a place, from the root or
from the working directory. Besides files and directories there are two
devices: one that is empty and swallows what is written, and one that refuses
every byte.

Main definitions:

* `FileSystem.resolve` — the place that a path leads to;
* `FileSystem.read`, `FileSystem.create`, `FileSystem.append` — the access to files;
* `FileSystem.host` — the host whose effects are changes of a file system.
-/

namespace ServiceScript

abbrev Place := List Bytes

/-- What is at a place. -/
inductive Node where
  | directory
  | file (content : Bytes)
  -- a device that is empty and swallows what is written
  | nullDevice
  -- a device that refuses every byte
  | fullDevice
deriving DecidableEq

/-- What is where, and where paths begin that do not begin at the root. -/
structure FileSystem where
  node? : Place → Option Node
  workingDirectory : Place

namespace FileSystem

/-- The length from which on a path is too long. -/
def pathLimit : Nat := 4096

def nameLimit : Nat := 255

-- ---------------------------------------------------------------------------
-- Paths
-- ---------------------------------------------------------------------------

/-- Where a path begins. -/
def origin (fs : FileSystem) (path : Path) : Place :=
  if path.head? = some Path.slash then [] else fs.workingDirectory

/-- Refuses what cannot be a path. -/
def checkPath (path : Path) : Except IoFault Unit :=
  if 0 ∈ path then .error .nulInPath
  else if path = [] then .error .notFound
  else if pathLimit ≤ path.length then .error .nameTooLong
  else .ok ⟨⟩

/-- Refuses a place where there is no directory. -/
def checkDirectory (fs : FileSystem) (place : Place) : Except IoFault Unit :=
  match fs.node? place with
  | some .directory => .ok ⟨⟩
  | some _ => .error .notADirectory
  | none => .error .notFound

/-- Goes on from a directory by what stands between two slashes of a path. -/
def enter (fs : FileSystem) (place : Place) (piece : Bytes) : Except IoFault Place := do
  fs.checkDirectory place
  if piece = [] ∨ piece = Path.here then return place
  else if piece = Path.above then return place.dropLast
  else if nameLimit < piece.length then throw .nameTooLong
  else if (fs.node? (place ++ [piece])).isSome then return place ++ [piece]
  else throw .notFound

/-- The place that a path leads to. -/
def resolve (fs : FileSystem) (path : Path) : Except IoFault Place := do
  checkPath path
  (Path.pieces path).foldlM fs.enter (fs.origin path)

-- ---------------------------------------------------------------------------
-- Access
-- ---------------------------------------------------------------------------

/-- The content of the file that a path leads to. The device that refuses every
byte has content without end. -/
def read (fs : FileSystem) (path : Path) : Except IoFault Bytes := do
  let place ← fs.resolve path
  match fs.node? place with
  | some (.file content) => return content
  | some .nullDevice => return []
  | some .fullDevice => throw (.other "Cannot allocate memory (os error 12)")
  | some .directory => throw .isADirectory
  | none => throw .notFound

/-- The file system with something else at one place. -/
def put (fs : FileSystem) (place : Place) (node : Node) : FileSystem :=
  { fs with node? := fun p => if p = place then some node else fs.node? p }

/-- The place where a file is created that a path names. The path has to end in
a name, with no slash behind it. -/
def creationPlace (fs : FileSystem) (path : Path) : Except IoFault Place := do
  checkPath path
  let pieces := ((Path.pieces path).reverse.dropWhile (· = [])).reverse
  match pieces.getLast? with
  | none => throw .isADirectory
  | some name =>
    let parent ← pieces.dropLast.foldlM fs.enter (fs.origin path)
    fs.checkDirectory parent
    if path.getLast? = some Path.slash ∨ name = Path.here ∨ name = Path.above then
      throw .isADirectory
    else if nameLimit < name.length then throw .nameTooLong
    else return parent ++ [name]

/-- Creates the file that a path names, or empties the one that is there, and
gives its place. A device stays what it is. -/
def create (fs : FileSystem) (path : Path) : Except IoFault (Place × FileSystem) := do
  let place ← fs.creationPlace path
  match fs.node? place with
  | some .directory => throw .isADirectory
  | some .nullDevice | some .fullDevice => return (place, fs)
  | some (.file _) | none => return (place, fs.put place (.file []))

def append (fs : FileSystem) (place : Place) (bytes : Bytes) : Except IoFault FileSystem :=
  match fs.node? place with
  | some (.file content) => .ok (fs.put place (.file (content ++ bytes)))
  | some .nullDevice => .ok fs
  | some .fullDevice => if bytes = [] then .ok fs else .error .noSpace
  | some .directory => .error .isADirectory
  | none => .error .notFound

/-- The host whose effects are changes of a file system. An access that fails
changes nothing. -/
def host : Host (StateM FileSystem) where
  Handle := Place
  read path := fun fs => (fs.read path, fs)
  create path := fun fs =>
    match fs.create path with
    | .ok (place, fs') => (.ok place, fs')
    | .error cause => (.error cause, fs)
  append place bytes := fun fs =>
    match fs.append place bytes with
    | .ok fs' => (.ok ⟨⟩, fs')
    | .error cause => (.error cause, fs)

-- ---------------------------------------------------------------------------
-- Setting up
-- ---------------------------------------------------------------------------

/-- Goes on from a place by one component of a path, whatever is there. -/
def advance (place : Place) (component : Bytes) : Place :=
  if component = Path.above then place.dropLast else place ++ [component]

/-- The place that a path names, whatever is there. -/
def placeOf (fs : FileSystem) (path : Path) : Place :=
  (Path.components path).foldl advance (fs.origin path)

/-- The file system with a directory at a place and wherever components lead from
it. -/
def withDirectories (fs : FileSystem) (place : Place) : List Bytes → FileSystem
  | [] => fs.put place .directory
  | component :: rest =>
    (fs.put place .directory).withDirectories (advance place component) rest

/-- The file system with a directory at a path and on the way to it. -/
def withDirectory (fs : FileSystem) (path : Path) : FileSystem :=
  fs.withDirectories (fs.origin path) (Path.components path)

/-- The file system with a file at a path, in directories that are made for it. -/
def withFile (fs : FileSystem) (path : Path) (content : Bytes) : FileSystem :=
  (fs.withDirectories (fs.origin path) (Path.components path).dropLast).put
    (fs.placeOf path) (.file content)

/-- The file system with nothing but its devices and an empty working directory. -/
def fresh (workingDirectory : Place) : FileSystem :=
  let devices : Bytes := Utf8.encode "dev"
  let nothing : FileSystem := ⟨fun _ => none, workingDirectory⟩
  (((nothing.withDirectories [] workingDirectory).withDirectories [] [devices]).put
    [devices, Utf8.encode "null"] .nullDevice).put [devices, Utf8.encode "full"] .fullDevice

/-- The content of the file that a path leads to, if it leads to a file. -/
def fileContent? (fs : FileSystem) (path : Path) : Option Bytes :=
  match fs.resolve path with
  | .ok place => match fs.node? place with
    | some (.file content) => some content
    | _ => none
  | .error _ => none

end FileSystem

end ServiceScript
