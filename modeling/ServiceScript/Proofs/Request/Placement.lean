import ServiceScript.Proofs.FileSystem
import ServiceScript.Proofs.Request.Provisioning
import ServiceScript.Proofs.UnitName

/-!
# ServiceScript — where the directories of a unit lie

A script makes directories and hands them over to the account of the unit, so it
matters that none of them is one that others use. The name of the unit decides that
alone: if it is accepted, each directory lies directly below its root, under that
name; if not, none of them does. And a script that is written at all has an accepted
name.

Main definitions:

* `Directory.place` — where a directory of a unit belongs;
* `TouchesDirectory` — the commands that make or hand over a directory.

Main results:

* `Directory.resolved_path_iff` — the path of a directory leads there exactly if the
  name is proper;
* `Directory.eq_place_of_resolve` — and leads there on every file system;
* `Request.directories_inPlace` — the directories that a script makes are there.
-/

namespace ServiceScript

open Shell

namespace Directory

-- ---------------------------------------------------------------------------
-- Places
-- ---------------------------------------------------------------------------

/-- The place directly below the root, of a name. -/
def place (d : Directory) (name : Text) : List Bytes :=
  Path.components (Utf8.encode d.root) ++ [Utf8.encode name]

/-- No root leads through a directory above. -/
theorem resolved_root (d : Directory) :
    Path.resolved (Utf8.encode d.root) = Path.components (Utf8.encode d.root) := by
  cases d <;> decide

/-- The path of a directory is its root with the name behind a slash. -/
theorem encode_path (d : Directory) (name : Text) :
    Utf8.encode (d.path name) = Utf8.encode d.root ++ Path.slash :: Utf8.encode name := by
  rw [path, Utf8.encode_append]
  rfl

/-- The path of a directory leads to its place exactly if the name is proper. -/
theorem resolved_path_iff (d : Directory) (name : Text) :
    Path.resolved (Utf8.encode (d.path name)) = d.place name ↔ UnitName.isProper name = true := by
  rw [UnitName.isProper_iff_encode, encode_path]
  constructor
  · intro h
    -- the name is the last one on the way
    have hmem : Utf8.encode name ∈ d.place name := List.mem_append_right _ List.mem_cons_self
    exact Path.mem_resolved (h ▸ hmem)
  · rintro ⟨hslash, hne, hhere, habove⟩
    rw [Path.resolved_append_name hslash hne hhere habove, resolved_root]
    rfl

/-- With a proper name the path leads there on every file system, if it leads
anywhere. -/
theorem eq_place_of_resolve {d : Directory} {name : Text} (hname : UnitName.isProper name = true)
    {fs : FileSystem} {found : Place} (h : fs.resolve (Utf8.encode (d.path name)) = .ok found) :
    found = d.place name := by
  have hroot : (Utf8.encode (d.path name)).head? = some Path.slash := by
    rw [encode_path]
    cases d <;> rfl
  rw [FileSystem.eq_resolved_of_resolve hroot h]
  exact (resolved_path_iff d name).2 hname

/-- No root is another one, or lies above it. -/
theorem eq_of_components_root {d e : Directory}
    (h : Path.components (Utf8.encode d.root) <+: Path.components (Utf8.encode e.root)) :
    d = e := by
  cases d <;> cases e <;> first
    | rfl
    | exact absurd h (by decide)

/-- No text is the path of two directories, or of one for two names. -/
theorem path_inj {d e : Directory} {name other : Text} (h : d.path name = e.path other) :
    d = e ∧ name = other := by
  have hcomponents := congrArg (fun t => Path.components (Utf8.encode t)) h
  simp only [encode_path, Path.components_append_slash] at hcomponents
  have hroot : d = e := by
    rcases List.prefix_or_prefix_of_prefix ⟨_, rfl⟩ ⟨_, hcomponents.symm⟩ with hd | he
    · exact eq_of_components_root hd
    · exact (eq_of_components_root he).symm
  subst hroot
  exact ⟨rfl, List.cons_inj_right '/' |>.1 (List.append_cancel_left h)⟩

/-- A place below a root is no root, and nothing above one. -/
theorem not_place_prefix_root (d e : Directory) (name : Text) :
    ¬ d.place name <+: Path.resolved (Utf8.encode e.root) := by
  intro h
  rw [resolved_root] at h
  obtain rfl := eq_of_components_root ((List.prefix_append _ _).trans h)
  have hlength := h.length_le
  rw [place, List.length_append] at hlength
  exact absurd hlength (Nat.not_le.2 (Nat.lt_succ_self _))

end Directory

-- ---------------------------------------------------------------------------
-- Commands
-- ---------------------------------------------------------------------------

/-- A command that makes a directory or hands it over. -/
def TouchesDirectory (command : List Text) : Prop :=
  command.head? = some "mkdir" ∨ command.head? = some "chown"

instance : DecidablePred TouchesDirectory := fun _ => inferInstanceAs (Decidable (_ ∨ _))

/-- The commands that make a directory and hand it over. -/
def Directory.touches (name : Text) (user : Option Text) (d : Directory) : List (List Text) :=
  ["mkdir", "-p", d.path name] :: user.toList.map fun u => ["chown", u, d.path name]

/-- The directory is the last word of each of its commands. -/
theorem Directory.getLast?_of_mem_touches {name : Text} {user : Option Text} {d : Directory}
    {command : List Text} (h : command ∈ d.touches name user) :
    command.getLast? = some (d.path name) := by
  rcases List.mem_cons.1 h with rfl | hchown
  · rfl
  · obtain ⟨u, -, rfl⟩ := List.mem_map.1 hchown
    rfl

theorem filter_failureCheckCommands (message : Text) :
    (failureCheckCommands message).filter TouchesDirectory = [] := rfl

/-- Of the commands for a directory two make it and hand it over. -/
theorem filter_directoryCommands (name : Text) (user : Option Text) (d : Directory) :
    (directoryCommands name user d.variableName d.root).filter TouchesDirectory =
      d.touches name user := by
  unfold directoryCommands Directory.touches
  rw [List.filter_append, List.filter_append, List.filter_cons_of_pos rfl,
    filter_failureCheckCommands]
  cases user <;> rfl

/-- Of all commands in front of the first export only those make directories or hand
them over. -/
theorem filter_provisioningCommands (name : Text) (user : Option Text) :
    (provisioningCommands name user).filter TouchesDirectory =
      Directory.all.flatMap (Directory.touches name user) := by
  have hlogin : (user.toList.flatMap loginShellCommands).filter TouchesDirectory = [] := by
    cases user <;> rfl
  unfold provisioningCommands
  rw [flatMap_directoryCommands, List.filter_append, hlogin, List.append_nil, List.filter_flatMap]
  exact congrArg (Directory.all.flatMap ·) (funext (filter_directoryCommands name user))

-- ---------------------------------------------------------------------------
-- Scripts
-- ---------------------------------------------------------------------------

namespace Request

/-- What the unit itself says is behind the directories and the login shell. -/
def following (r : Request) : Script :=
  r.exports ++ r.workingDirectoryBlock ++ r.preCommands ++ r.mainCommand

/-- A script is the line of the interpreter, what it prepares, and what the unit asks
for. -/
theorem script_eq_provisioning (r : Request) :
    r.script = r.interpreterLine :: (r.provisioning ++ r.following) := by
  simp only [script, provisioning, following, List.append_assoc]

/-- The commands that make the directories of a script and hand them over, and where
these lie. -/
structure DirectoriesInPlace (r : Request) : Prop where
  parts : r.script.text =
    "#!" ++ r.interpreter ++ "\n" ++ (r.provisioning.text ++ r.following.text)
  read : ∃ cs, commands? r.provisioning.text = some cs ∧
    cs.filter TouchesDirectory = Directory.all.flatMap (Directory.touches r.name r.unit.user?) ∧
    ∀ c ∈ cs, TouchesDirectory c → ∃ d : Directory, c.getLast? = some (d.path r.name)
  place : ∀ d : Directory, Path.resolved (Utf8.encode (d.path r.name)) = d.place r.name
  -- neither a root nor anything above one
  apart : ∀ d e : Directory,
    ¬ Path.resolved (Utf8.encode (d.path r.name)) <+: Path.resolved (Utf8.encode e.root)

/-- A script that completes has its directories in place. -/
theorem directoriesInPlace_of_outcome {r : Request} (h : r.script.outcome = .ok ⟨⟩) :
    r.DirectoriesInPlace := by
  have hfault := (Script.outcome_eq_ok_iff _).1 h
  rw [script_eq_provisioning, Script.fault?_cons, Script.fault?_append, interpreterLine_eq,
    Step.fault?_guarded, Option.or_eq_none_iff, Option.or_eq_none_iff] at hfault
  obtain ⟨hname, hprovisioning, -⟩ := hfault
  have hplace := fun d => (Directory.resolved_path_iff d r.name).2 (nameFault?_eq_none_iff.1 hname)
  have hfilter := filter_provisioningCommands r.name r.unit.user?
  have hread := (readsCommands_text_provisioning hprovisioning).commands?_eq
  refine ⟨?_, ⟨_, hread, hfilter, fun c hc htouches => ?_⟩, hplace, fun d e => ?_⟩
  · have hcomplete := Script.complete?_eq_some_iff.2
      ⟨(Script.outcome_eq_ok_iff _).2 hprovisioning, rfl⟩
    rw [script_eq_provisioning, interpreterLine_eq, hname]
    exact congrArg _ (Script.text_append_of_complete? hcomplete r.following)
  · have hmem : c ∈ (provisioningCommands r.name r.unit.user?).filter TouchesDirectory :=
      List.mem_filter.2 ⟨hc, decide_eq_true htouches⟩
    rw [hfilter] at hmem
    obtain ⟨d, -, hd⟩ := List.mem_flatMap.1 hmem
    exact ⟨d, Directory.getLast?_of_mem_touches hd⟩
  · rw [hplace]
    exact Directory.not_place_prefix_root d e r.name

/-- **The directories of a unit lie below their roots.** A name is accepted exactly if
with it every directory lies directly below its root, under that name; and then no
other directory and no other name has the same path. The name that the path of a unit
file gives is accepted, and so is the name in every script that is written to its end:
what the script makes and hands over lies there, and is no root and nothing above. -/
theorem directories_inPlace :
    (∀ name, UnitName.check name = .ok ⟨⟩ ↔
      ∀ d : Directory, Path.resolved (Utf8.encode (d.path name)) = d.place name) ∧
    (∀ (d e : Directory) (name other : Text),
      d.path name = e.path other → d = e ∧ name = other) ∧
    (∀ path name, UnitName.ofPath path = .ok name → UnitName.check name = .ok ⟨⟩) ∧
    ∀ r : Request, r.script.outcome = .ok ⟨⟩ → r.DirectoriesInPlace := by
  refine ⟨fun name => ?_, fun _ _ _ _ => Directory.path_inj, fun path name h => ?_,
    fun _ => directoriesInPlace_of_outcome⟩
  · simp only [UnitName.check_eq_ok_iff, Directory.resolved_path_iff]
    exact ⟨fun h _ => h, fun h => h .runtime⟩
  · exact (UnitName.check_eq_ok_iff name).2 (UnitName.isProper_of_ofPath h)

/-- A name of dots, but of one more than those that are refused. -/
theorem directories_inPlace_dots :
    let r : Request :=
      ⟨(∅ : ServiceUnit).set serviceSection userKey "alice", "...", "/bin/sh", false⟩
    r.script.outcome = .ok ⟨⟩ ∧ Path.resolved (Utf8.encode (Directory.runtime.path r.name)) =
      [Utf8.encode "run", Utf8.encode "..."] := by
  intro r
  have houtcome : r.script.outcome = .ok ⟨⟩ := by decide
  exact ⟨houtcome, (directories_inPlace.2.2.2 r houtcome).place .runtime⟩

end Request

end ServiceScript
