import ServiceScript.FileSystem
import ServiceScript.Proofs.Path
import ServiceScript.Proofs.Script.Writing
import ServiceScript.Proofs.Text.Lines

/-!
# ServiceScript — files that are created

The path of a file that is created is walked twice: once to create the file, and
again by whoever reads it. The two walks are not the same. The first one stops in
front of the last component, which need not be there, and refuses endings that
the second one allows. They lead to the same place all the same: what the walk
meets on the way are directories, which the new file is not.

Main results:

* `FileSystem.resolve_put` — a path leads to what was created under it;
* `FileSystem.takesAll_file`, `FileSystem.takesAll_nullDevice`,
  `FileSystem.refusesAll_fullDevice` — what files and devices do with the bytes
  that are written to them;
* `FileSystem.writeTo_file`, `FileSystem.writeTo_nullDevice` — a script as a whole.
-/

namespace ServiceScript

/-- Behind the last separator something stands if the list does not end with it. -/
theorem getLast?_splitOn_ne_nil {α : Type} [DecidableEq α] {sep : α} {xs : List α}
    (hne : xs ≠ []) (hlast : xs.getLast? ≠ some sep) : (xs.splitOn sep).getLast? ≠ some [] := by
  induction xs with
  | nil => exact absurd rfl hne
  | cons c rest ih =>
    rw [List.splitOn_cons_eq_if_modifyHead]
    cases rest with
    | nil =>
      have hc : c ≠ sep := fun h => hlast (congrArg some h)
      simp [hc]
    | cons d more =>
      -- what is in front of the last piece does not matter
      have hrest := ih (List.cons_ne_nil d more) hlast
      obtain ⟨piece, pieces, hs⟩ := List.exists_cons_of_ne_nil (List.splitOn_ne_nil sep (d :: more))
      rw [hs] at hrest ⊢
      split
      · exact hrest
      · cases pieces with
        | nil => simp
        | cons next others => exact hrest

namespace FileSystem

-- ---------------------------------------------------------------------------
-- One place
-- ---------------------------------------------------------------------------

theorem node?_put_self (fs : FileSystem) (place : Place) (node : Node) :
    (fs.put place node).node? place = some node :=
  if_pos rfl

/-- What is put at one place leaves all others alone. -/
theorem node?_put_of_ne (fs : FileSystem) {place other : Place} (node : Node)
    (h : other ≠ place) : (fs.put place node).node? other = fs.node? other :=
  if_neg h

/-- Of two nodes that are put at one place the second one is there. -/
theorem put_put (fs : FileSystem) (place : Place) (first second : Node) :
    (fs.put place first).put place second = fs.put place second := by
  unfold put
  simp only [FileSystem.mk.injEq, and_true]
  funext other
  by_cases h : other = place
  · rw [if_pos h, if_pos h]
  · rw [if_neg h, if_neg h, if_neg h]

-- ---------------------------------------------------------------------------
-- The walk along a path
-- ---------------------------------------------------------------------------

theorem checkDirectory_of_directory {fs : FileSystem} {place : Place}
    (h : fs.node? place = some .directory) : fs.checkDirectory place = .ok ⟨⟩ := by
  rw [checkDirectory, h]

/-- Only a directory passes the check. -/
theorem directory_of_checkDirectory {fs : FileSystem} {place : Place} {answer : Unit}
    (h : fs.checkDirectory place = .ok answer) : fs.node? place = some .directory := by
  unfold checkDirectory at h
  split at h
  · assumption
  · cases h
  · cases h

/-- A result of two steps is one of the second from one of the first. -/
theorem bind_eq_ok {α β : Type} {x : Except IoFault α} {f : α → Except IoFault β} {b : β}
    (h : (x >>= f) = .ok b) : ∃ a, x = .ok a ∧ f a = .ok b := by
  cases x with
  | error cause => cases h
  | ok a => exact ⟨a, rfl, h⟩

/-- Where a piece leads from a directory. -/
theorem enter_of_directory {fs : FileSystem} {start : Place}
    (h : fs.node? start = some .directory) (piece : Bytes) :
    fs.enter start piece =
      if piece = [] ∨ piece = Path.here then .ok start
      else if piece = Path.above then .ok start.dropLast
      else if nameLimit < piece.length then .error .nameTooLong
      else if (fs.node? (start ++ [piece])).isSome then .ok (start ++ [piece])
      else .error .notFound := by
  rw [enter, checkDirectory_of_directory h]
  rfl

/-- A piece leads somewhere from directories only. -/
theorem directory_of_enter {fs : FileSystem} {start goal : Place} {piece : Bytes}
    (h : fs.enter start piece = .ok goal) : fs.node? start = some .directory := by
  obtain ⟨answer, hanswer, -⟩ := bind_eq_ok h
  exact directory_of_checkDirectory hanswer

/-- What is put where no directory is hinders no step that was possible. -/
theorem enter_put {fs : FileSystem} {place : Place} (hplace : fs.node? place ≠ some .directory)
    (node : Node) {start goal : Place} {piece : Bytes} (h : fs.enter start piece = .ok goal) :
    (fs.put place node).enter start piece = .ok goal := by
  have hstart := directory_of_enter h
  have hne : start ≠ place := fun he => hplace (he ▸ hstart)
  have hstart' : (fs.put place node).node? start = some .directory := by
    rw [node?_put_of_ne fs node hne, hstart]
  -- what was there is still there
  have hthere : ∀ p, (fs.node? p).isSome = true → ((fs.put place node).node? p).isSome = true := by
    intro p hp
    by_cases hpp : p = place
    · rw [hpp, node?_put_self]
      rfl
    · rw [node?_put_of_ne fs node hpp, hp]
  rw [enter_of_directory hstart] at h
  rw [enter_of_directory hstart']
  split at h
  · next hpiece => rw [if_pos hpiece, h]
  · next hpiece =>
    rw [if_neg hpiece]
    split at h
    · next habove => rw [if_pos habove, h]
    · next habove =>
      rw [if_neg habove]
      split at h
      · cases h
      · next hshort =>
        rw [if_neg hshort]
        split at h
        · next hsome => rw [if_pos (hthere _ hsome), h]
        · cases h

/-- A way of several pieces leads where it led, whatever is put where there is no
directory. -/
theorem foldlM_enter_put {fs : FileSystem} {place : Place}
    (hplace : fs.node? place ≠ some .directory) (node : Node) {pieces : List Bytes}
    {start goal : Place} (h : pieces.foldlM fs.enter start = .ok goal) :
    pieces.foldlM (fs.put place node).enter start = .ok goal := by
  induction pieces generalizing start with
  | nil => exact h
  | cons piece rest ih =>
    rw [List.foldlM_cons] at h ⊢
    obtain ⟨middle, hstep, hrest⟩ := bind_eq_ok h
    rw [enter_put hplace node hstep]
    exact ih hrest

/-- Where a piece leads, it leads by what is written in it. -/
theorem follow_of_enter {fs : FileSystem} {start goal : Place} {piece : Bytes}
    (h : fs.enter start piece = .ok goal) :
    goal = if piece ≠ [] ∧ piece ≠ Path.here then Path.follow start piece else start := by
  rw [enter_of_directory (directory_of_enter h)] at h
  split at h
  · next hpiece =>
    rw [if_neg fun hname => hpiece.elim hname.1 hname.2, Except.ok.inj h]
  · next hpiece =>
    rw [if_pos (not_or.1 hpiece), Path.follow]
    split at h
    · next habove => rw [if_pos habove, Except.ok.inj h]
    · next habove =>
      rw [if_neg habove]
      split at h
      · cases h
      · split at h
        · exact (Except.ok.inj h).symm
        · cases h

/-- A walk that comes to an end comes to where the text says. -/
theorem foldl_follow_of_foldlM_enter {fs : FileSystem} {pieces : List Bytes} {start goal : Place}
    (h : pieces.foldlM fs.enter start = .ok goal) :
    goal = (pieces.filter fun piece => piece ≠ [] ∧ piece ≠ Path.here).foldl Path.follow start := by
  induction pieces generalizing start with
  | nil => exact (Except.ok.inj h).symm
  | cons piece rest ih =>
    rw [List.foldlM_cons] at h
    obtain ⟨middle, hstep, hrest⟩ := bind_eq_ok h
    rw [ih hrest, follow_of_enter hstep, List.filter_cons]
    by_cases hpiece : piece ≠ [] ∧ piece ≠ Path.here
    · rw [if_pos hpiece, if_pos (decide_eq_true hpiece), List.foldl_cons]
    · rw [if_neg hpiece, if_neg (by simpa using hpiece)]

/-- A path from the root leads nowhere but to the place that its text says. -/
theorem eq_resolved_of_resolve {fs : FileSystem} {path : Path} {place : Place}
    (hroot : path.head? = some Path.slash) (h : fs.resolve path = .ok place) :
    place = path.resolved := by
  obtain ⟨answer, -, hwalk⟩ := bind_eq_ok h
  have horigin : fs.origin path = [] := if_pos hroot
  rw [horigin] at hwalk
  exact foldl_follow_of_foldlM_enter hwalk

-- ---------------------------------------------------------------------------
-- The place of a new file
-- ---------------------------------------------------------------------------

theorem ne_nil_of_checkPath {path : Path} {answer : Unit} (h : checkPath path = .ok answer) :
    path ≠ [] := by
  rintro rfl
  cases h

/-- A path that does not end with a slash ends with a name. -/
theorem last_piece_ne_nil {path : Path} (hne : path ≠ [])
    (hlast : path.getLast? ≠ some Path.slash) {front : List Bytes} {name : Bytes}
    (hpieces : Path.pieces path = front ++ [name]) : name ≠ [] := by
  have h := getLast?_splitOn_ne_nil hne hlast
  unfold Path.pieces splitAll at hpieces
  rw [hpieces, List.getLast?_concat] at h
  exact fun he => h (congrArg some he)

/-- A path that ends in no slash has no empty pieces at its end to be left out. -/
theorem dropTrailing_pieces {path : Path} (hne : path ≠ [])
    (hlast : path.getLast? ≠ some Path.slash) :
    ((Path.pieces path).reverse.dropWhile (· = [])).reverse = Path.pieces path := by
  cases hname : (Path.pieces path).getLast? with
  | none => exact absurd (List.getLast?_eq_none_iff.1 hname) (List.splitOn_ne_nil _ _)
  | some name =>
    obtain ⟨front, hpieces⟩ := List.getLast?_eq_some_iff.1 hname
    have hnil := last_piece_ne_nil hne hlast hpieces
    rw [hpieces, List.reverse_append, List.reverse_singleton, List.singleton_append,
      List.dropWhile_cons_of_neg (by simpa using hnil), List.reverse_cons, List.reverse_reverse]

/-- Where a file is created, the path is that of a directory and a name in it. -/
theorem creationPlace_cases {fs : FileSystem} {path : Path} {place : Place}
    (h : fs.creationPlace path = .ok place) :
    ∃ pieces name parent,
      checkPath path = .ok ⟨⟩ ∧ Path.pieces path = pieces ++ [name] ∧
      (name ≠ [] ∧ name ≠ Path.here ∧ name ≠ Path.above ∧ name.length ≤ nameLimit) ∧
      pieces.foldlM fs.enter (fs.origin path) = .ok parent ∧
      fs.node? parent = some .directory ∧ place = parent ++ [name] := by
  obtain ⟨answer, hcheck, h⟩ := bind_eq_ok h
  dsimp only at h
  split at h
  · cases h
  · next name hname =>
    obtain ⟨parent, hparent, h⟩ := bind_eq_ok h
    obtain ⟨answer', hdirectory, h⟩ := bind_eq_ok h
    split at h
    · cases h
    · next hending =>
      split at h
      · cases h
      · next hlength =>
        obtain ⟨hslash, hhere, habove⟩ : path.getLast? ≠ some Path.slash ∧ name ≠ Path.here ∧
            name ≠ Path.above := by simpa [not_or] using hending
        have hne := ne_nil_of_checkPath hcheck
        rw [dropTrailing_pieces hne hslash] at hname hparent
        obtain ⟨front, hpieces⟩ := List.getLast?_eq_some_iff.1 hname
        rw [hpieces, List.dropLast_concat] at hparent
        have hnil := last_piece_ne_nil hne hslash hpieces
        exact ⟨front, name, parent, hcheck, hpieces, ⟨hnil, hhere, habove, Nat.not_lt.1 hlength⟩,
          hparent, directory_of_checkDirectory hdirectory, (Except.ok.inj h).symm⟩

/-- A path leads to what was created under it. -/
theorem resolve_put {fs : FileSystem} {path : Path} {place : Place}
    (h : fs.creationPlace path = .ok place) (hplace : fs.node? place ≠ some .directory)
    (node : Node) : (fs.put place node).resolve path = .ok place := by
  obtain ⟨pieces, name, parent, hcheck, hpieces, ⟨hnil, hhere, habove, hlength⟩, hparent,
    hdirectory, hend⟩ := creationPlace_cases h
  have hne : parent ≠ place := fun he => hplace (he ▸ hdirectory)
  have hdirectory' : (fs.put place node).node? parent = some .directory := by
    rw [node?_put_of_ne fs node hne, hdirectory]
  have hwalk : pieces.foldlM (fs.put place node).enter (fs.origin path) = .ok parent :=
    foldlM_enter_put hplace node hparent
  have hlast : (fs.put place node).enter parent name = .ok place := by
    have hsome : ((fs.put place node).node? (parent ++ [name])).isSome = true := by
      rw [← hend, node?_put_self]
      rfl
    rw [enter_of_directory hdirectory', if_neg (not_or.2 ⟨hnil, hhere⟩), if_neg habove,
      if_neg (Nat.not_lt.2 hlength), if_pos hsome, hend]
  have horigin : (fs.put place node).origin path = fs.origin path := rfl
  rw [resolve, hcheck, horigin, hpieces]
  show (pieces ++ [name]).foldlM (fs.put place node).enter (fs.origin path) = .ok place
  rw [List.foldlM_append, hwalk]
  show [name].foldlM (fs.put place node).enter parent = .ok place
  rw [List.foldlM_cons, hlast]
  rfl

/-- A file that is put where a path creates it is read back by the path. -/
theorem fileContent?_put {fs : FileSystem} {path : Path} {place : Place}
    (h : fs.creationPlace path = .ok place) (hplace : fs.node? place ≠ some .directory)
    (content : Bytes) : (fs.put place (.file content)).fileContent? path = some content := by
  unfold fileContent?
  rw [resolve_put h hplace]
  dsimp only
  rw [node?_put_self]

-- ---------------------------------------------------------------------------
-- Files and devices
-- ---------------------------------------------------------------------------

/-- Where creating fails the host is left alone. -/
theorem host_create_of_error {fs : FileSystem} {path : Path} {cause : IoFault}
    (h : fs.create path = .error cause) : host.create path fs = (.error cause, fs) := by
  unfold host
  dsimp only
  rw [h]

/-- Where creating succeeds the host goes on with the new file system. -/
theorem host_create_of_ok {fs fs' : FileSystem} {path : Path} {place : Place}
    (h : fs.create path = .ok (place, fs')) : host.create path fs = (.ok place, fs') := by
  unfold host
  dsimp only
  rw [h]

/-- What creating does is decided by what is at the place. -/
theorem create_of_creationPlace {fs : FileSystem} {path : Path} {place : Place}
    (h : fs.creationPlace path = .ok place) :
    fs.create path = match fs.node? place with
      | some .directory => .error .isADirectory
      | some .nullDevice | some .fullDevice => .ok (place, fs)
      | some (.file _) | none => .ok (place, fs.put place (.file [])) := by
  rw [create, h]
  rfl

/-- A file may be there or not: behind its creation it is empty. -/
theorem create_file {fs : FileSystem} {path : Path} {place : Place}
    (h : fs.creationPlace path = .ok place)
    (hplace : fs.node? place = none ∨ ∃ old, fs.node? place = some (.file old)) :
    fs.create path = .ok (place, fs.put place (.file [])) := by
  rw [create_of_creationPlace h]
  rcases hplace with hnone | ⟨old, hold⟩
  · rw [hnone]
  · rw [hold]

/-- A device stays what it is. -/
theorem create_device {fs : FileSystem} {path : Path} {place : Place}
    (h : fs.creationPlace path = .ok place)
    (hplace : fs.node? place = some .nullDevice ∨ fs.node? place = some .fullDevice) :
    fs.create path = .ok (place, fs) := by
  rw [create_of_creationPlace h]
  rcases hplace with hnull | hfull
  · rw [hnull]
  · rw [hfull]

/-- Where nothing can be created that takes a script, none is written. -/
theorem create_cases (fs : FileSystem) (path : Path) :
    (∃ cause, fs.create path = .error cause) ∨
      ∃ place, fs.creationPlace path = .ok place ∧
        ((fs.node? place = none ∨ ∃ old, fs.node? place = some (.file old)) ∨
          fs.node? place = some .nullDevice ∨ fs.node? place = some .fullDevice) := by
  cases hplace : fs.creationPlace path with
  | error cause =>
    left
    refine ⟨cause, ?_⟩
    rw [create, hplace]
    rfl
  | ok place =>
    have hcreate := create_of_creationPlace hplace
    cases hnode : fs.node? place with
    | none => exact .inr ⟨place, rfl, .inl (.inl hnode)⟩
    | some node =>
      cases node with
      | directory =>
        rw [hnode] at hcreate
        exact .inl ⟨.isADirectory, hcreate⟩
      | file content => exact .inr ⟨place, rfl, .inl (.inr ⟨content, hnode⟩)⟩
      | nullDevice => exact .inr ⟨place, rfl, .inr (.inl hnode)⟩
      | fullDevice => exact .inr ⟨place, rfl, .inr (.inr hnode)⟩

/-- A file takes everything, and holds what was written so far. -/
theorem takesAll_file (fs : FileSystem) (place : Place) :
    host.TakesAll place fun written => fs.put place (.file written) := by
  intro written bytes
  unfold host
  dsimp only
  rw [append, node?_put_self]
  dsimp only
  rw [put_put]

/-- The null device takes everything and keeps nothing. -/
theorem takesAll_nullDevice {fs : FileSystem} {place : Place}
    (h : fs.node? place = some .nullDevice) : host.TakesAll place fun _ => fs := by
  intro written bytes
  unfold host
  dsimp only
  rw [append, h]

/-- The full device refuses everything, and nothing is changed. -/
theorem refusesAll_fullDevice {fs : FileSystem} {place : Place}
    (h : fs.node? place = some .fullDevice) : host.RefusesAll place .noSpace fs := by
  intro bytes
  unfold host
  dsimp only
  rw [append, h]
  by_cases hnil : bytes = []
  · rw [if_pos hnil, if_pos hnil]
  · rw [if_neg hnil, if_neg hnil]

/-- A script that is written to a file leaves its text in it, with its own outcome. -/
theorem writeTo_file {fs : FileSystem} {path : Path} {place : Place}
    (h : fs.creationPlace path = .ok place)
    (hplace : fs.node? place = none ∨ ∃ old, fs.node? place = some (.file old)) (s : Script) :
    s.writeTo host path fs = (s.outcome, fs.put place (.file (Utf8.encode s.text))) := by
  have hcreate := host_create_of_ok (create_file h hplace)
  rw [Script.writeTo_of_ok hcreate]
  exact Script.send_of_takesAll (takesAll_file fs place) _ [] [] s

/-- A script that is written to the null device has its own outcome and leaves nothing
behind. -/
theorem writeTo_nullDevice {fs : FileSystem} {path : Path} {place : Place}
    (h : fs.creationPlace path = .ok place)
    (hplace : fs.node? place = some .nullDevice) (s : Script) :
    s.writeTo host path fs = (s.outcome, fs) := by
  have hcreate := host_create_of_ok (create_device h (.inl hplace))
  rw [Script.writeTo_of_ok hcreate]
  exact Script.send_of_takesAll (takesAll_nullDevice hplace) _ [] [] s

end FileSystem

end ServiceScript
