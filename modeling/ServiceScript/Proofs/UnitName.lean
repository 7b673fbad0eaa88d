import Mathlib.Data.List.Infix
import ServiceScript.Proofs.Path
import ServiceScript.Proofs.Text.Utf8
import ServiceScript.UnitName

/-!
# ServiceScript — the name of a unit and its file

The name of a unit is found in the path of its file: in the last component, read as
text, without the suffix. All names that are found are accepted, and every accepted
name is found where its file is. Only three names of files are refused, those in
which nothing, one dot or two dots stand in front of the suffix; otherwise a path is
refused if it does not end in a name at all.

Main results:

* `UnitName.fileName?_encode` — the path of a file with a proper name;
* `UnitName.ofPath_eq_ok_iff`, `UnitName.ofPath_eq_error_iff` — what a path gives;
* `UnitName.ofPath_roundTrip` — names and files belong together.
-/

namespace ServiceScript.UnitName

-- ---------------------------------------------------------------------------
-- Proper names
-- ---------------------------------------------------------------------------

theorem slash_mem_encode_iff (t : Text) : Path.slash ∈ Utf8.encode t ↔ '/' ∈ t :=
  Utf8.mem_encode_iff (c := '/') (by decide) t

/-- A name is proper exactly if its bytes are the name of a place. -/
theorem isProper_iff_encode (name : Text) :
    isProper name = true ↔ Path.slash ∉ Utf8.encode name ∧ Utf8.encode name ≠ [] ∧
      Utf8.encode name ≠ Path.here ∧ Utf8.encode name ≠ Path.above := by
  have hnil : Utf8.encode name = [] ↔ name = [] :=
    ⟨fun h => Utf8.encode_inj (u := []) h, fun h => h ▸ rfl⟩
  have hdot : Utf8.encode name = Path.here ↔ name = "." :=
    ⟨fun h => Utf8.encode_inj (h.trans (by decide)), fun h => h ▸ by decide⟩
  have hdots : Utf8.encode name = Path.above ↔ name = ".." :=
    ⟨fun h => Utf8.encode_inj (h.trans (by decide)), fun h => h ▸ by decide⟩
  simp only [isProper_iff, slash_mem_encode_iff, ne_eq, hnil, hdot, hdots]
  exact ⟨fun h => ⟨h.2.2.2, h.1, h.2.1, h.2.2.1⟩, fun h => ⟨h.2.1, h.2.2.1, h.2.2.2, h.1⟩⟩

/-- What the last component of a path is read as is proper. -/
theorem isProper_decodeLossy {path : Path} {c : Bytes} (h : Path.fileName? path = some c) :
    isProper (Utf8.decodeLossy c) = true := by
  obtain ⟨hlast, habove⟩ := Path.fileName?_eq_some_iff.1 h
  obtain ⟨hslash, hne, hhere⟩ := Path.mem_components (List.mem_of_getLast? hlast)
  refine (isProper_iff _).2 ⟨fun hnil => ?_, fun hdot => ?_, fun hdots => ?_, fun hmem => ?_⟩
  · exact hne ((Utf8.decodeLossy_eq_iff (by simp) c).1 hnil)
  · exact hhere (((Utf8.decodeLossy_eq_iff (by decide) c).1 hdot).trans (by decide))
  · exact habove (((Utf8.decodeLossy_eq_iff (by decide) c).1 hdots).trans (by decide))
  · exact hslash (Utf8.mem_of_mem_decodeLossy (by decide) hmem)

-- ---------------------------------------------------------------------------
-- Suffixes
-- ---------------------------------------------------------------------------

/-- One suffix is left out, and only one. -/
theorem ofFileName_eq_iff {fileName name : Text} :
    ofFileName fileName = name ↔
      fileName = name ++ fileSuffix ∨ fileName = name ∧ ¬ fileSuffix <:+ fileName := by
  unfold ofFileName
  cases h : fileSuffix.isSuffixOf? fileName with
  | some stem =>
    obtain rfl := List.isSuffixOf?_eq_some_iff_append_eq.1 h
    rw [Option.getD_some, List.append_cancel_right_eq]
    exact ⟨.inl, fun hname => hname.elim id fun hno => absurd (List.suffix_append _ _) hno.2⟩
  | none =>
    have hno : ¬ fileSuffix <:+ fileName := by
      rintro ⟨stem, hstem⟩
      rw [List.isSuffixOf?_eq_some_iff_append_eq.2 hstem] at h
      cases h
    rw [Option.getD_none]
    refine ⟨fun hname => .inr ⟨hname, hno⟩, fun hname => hname.elim (fun hsuffix => ?_) And.left⟩
    exact absurd ⟨name, hsuffix.symm⟩ hno

/-- A name with the suffix behind it is proper, whatever the name is. -/
theorem isProper_append_fileSuffix {name : Text} (h : '/' ∉ name) :
    isProper (name ++ fileSuffix) = true := by
  have hlength : (name ++ fileSuffix).length = name.length + 8 := List.length_append
  refine (isProper_iff _).2 ⟨fun hnil => ?_, fun hdot => ?_, fun hdots => ?_, fun hmem => ?_⟩
  · rw [hnil] at hlength
    cases hlength
  · rw [hdot] at hlength
    exact absurd hlength (by simp)
  · rw [hdots] at hlength
    exact absurd hlength (by simp)
  · exact (List.mem_append.1 hmem).elim h (by decide)

/-- The names of files that give no name of a unit. -/
def refusedFileNames : List Text := [".service", "..service", "...service"]

/-- In front of the suffix stands what is no proper name. -/
theorem refusedFileNames_eq : refusedFileNames = [[], ".", ".."].map (· ++ fileSuffix) := by
  decide

/-- Of a proper file name the unit name is proper, unless nothing is left of it, one dot or
two. -/
theorem isProper_ofFileName_iff {fileName : Text} (h : isProper fileName = true) :
    isProper (ofFileName fileName) = true ↔ fileName ∉ refusedFileNames := by
  rw [refusedFileNames_eq]
  rcases ofFileName_eq_iff.1 (rfl : ofFileName fileName = ofFileName fileName) with hcut | hwhole
  · -- there was no slash, and so there is none in what is left
    have hslash := ((isProper_iff fileName).1 h).2.2.2
    generalize ofFileName fileName = name at hcut ⊢
    subst hcut
    have hname : '/' ∉ name := fun hmem => hslash (List.mem_append_left _ hmem)
    rw [isProper_iff, List.mem_map_of_injective (List.append_left_injective fileSuffix)]
    simp [hname]
  · rw [← hwhole.1]
    refine iff_of_true h fun hmem => hwhole.2 ?_
    obtain ⟨stem, -, hstem⟩ := List.mem_map.1 hmem
    exact ⟨stem, hstem⟩

-- ---------------------------------------------------------------------------
-- Paths
-- ---------------------------------------------------------------------------

/-- The path of a file with a proper name, behind a directory. -/
theorem fileName?_encode {directory fileName : Text}
    (hdirectory : directory = [] ∨ directory.getLast? = some '/')
    (hname : isProper fileName = true) :
    Path.fileName? (Utf8.encode (directory ++ fileName)) = some (Utf8.encode fileName) := by
  obtain ⟨hslash, hne, hhere, habove⟩ := (isProper_iff_encode fileName).1 hname
  have hbytes : Utf8.encode directory = [] ∨
      (Utf8.encode directory).getLast? = some Path.slash := by
    rcases hdirectory with rfl | hlast
    · exact .inl rfl
    · obtain ⟨front, rfl⟩ := List.getLast?_eq_some_iff.1 hlast
      rw [Utf8.encode_append]
      exact .inr List.getLast?_concat
  rw [Utf8.encode_append, Path.fileName?_eq_some_iff,
    Path.components_append hbytes hslash hne hhere, List.getLast?_concat]
  exact ⟨rfl, habove⟩

/-- A path with a last part is named by it, if that makes a proper name. -/
theorem ofPath_of_fileName? {path : Path} {c : Bytes} (h : Path.fileName? path = some c) :
    ofPath path = if isProper (ofFileName (Utf8.decodeLossy c))
      then .ok (ofFileName (Utf8.decodeLossy c))
      else .error (.invalidUnitName (Utf8.decodeLossy path)) := by
  unfold ofPath
  rw [h]
  rfl

theorem ofPath_of_fileName?_eq_none {path : Path} (h : Path.fileName? path = none) :
    ofPath path = .error (.invalidUnitName (Utf8.decodeLossy path)) := by
  unfold ofPath
  rw [h]
  rfl

/-- A path is named by its last part, where the suffix is taken away and a proper name
is left. -/
theorem ofPath_eq_ok_iff {path : Path} {name : Text} :
    ofPath path = .ok name ↔ isProper name = true ∧
      ∃ c, Path.fileName? path = some c ∧ ofFileName (Utf8.decodeLossy c) = name := by
  constructor
  · intro h
    refine ⟨isProper_of_ofPath h, ?_⟩
    cases hfile : Path.fileName? path with
    | none =>
      rw [ofPath_of_fileName?_eq_none hfile] at h
      cases h
    | some c =>
      rw [ofPath_of_fileName? hfile] at h
      split at h
      · exact ⟨c, rfl, Except.ok.inj h⟩
      · cases h
  · rintro ⟨hname, c, hfile, rfl⟩
    rw [ofPath_of_fileName? hfile, if_pos hname]

/-- A path is refused, and told whole, if it has no last part or one that leaves no
proper name. -/
theorem ofPath_eq_error_iff {path : Path} {f : Fault} :
    ofPath path = .error f ↔ f = .invalidUnitName (Utf8.decodeLossy path) ∧
      ∀ c, Path.fileName? path = some c → Utf8.decodeLossy c ∈ refusedFileNames := by
  cases hfile : Path.fileName? path with
  | none =>
    rw [ofPath_of_fileName?_eq_none hfile]
    simp [eq_comm]
  | some c =>
    have hrefused := isProper_ofFileName_iff (isProper_decodeLossy hfile)
    rw [ofPath_of_fileName? hfile]
    by_cases hname : isProper (ofFileName (Utf8.decodeLossy c)) = true
    · rw [if_pos hname]
      exact iff_of_false (fun h => by cases h) fun h => hrefused.1 hname (h.2 c rfl)
    · rw [if_neg hname, Except.error.injEq]
      have hmem : Utf8.decodeLossy c ∈ refusedFileNames :=
        Decidable.byContradiction fun hno => hname (hrefused.2 hno)
      refine ⟨fun h => ⟨h.symm, fun d hd => ?_⟩, fun h => h.1.symm⟩
      rwa [← Option.some.inj hd]

/-- A path is refused in these cases. -/
theorem exists_ofPath_eq_error_iff (path : Path) :
    (∃ f, ofPath path = .error f) ↔
      Path.components path = [] ∨ (Path.components path).getLast? = some Path.above ∨
        ∃ c, (Path.components path).getLast? = some c ∧
          Utf8.decodeLossy c ∈ refusedFileNames := by
  simp only [ofPath_eq_error_iff, exists_eq_left]
  rw [← or_assoc, ← Path.fileName?_eq_none_iff]
  cases hfile : Path.fileName? path with
  | none => simp
  | some c =>
    have hlast := (Path.fileName?_eq_some_iff.1 hfile).1
    simp [hlast]

/-- Slashes behind a path, and parts that stay in place, do not change its name. -/
theorem ofPath_append_flatten {path : Path} {name : Text} (h : ofPath path = .ok name)
    {parts : List Bytes}
    (hparts : ∀ part ∈ parts, part = [Path.slash] ∨ part = Path.slash :: Path.here) :
    ofPath (path ++ parts.flatten) = .ok name := by
  rw [ofPath_eq_ok_iff, Path.fileName?_append_flatten path hparts]
  exact ofPath_eq_ok_iff.1 h

/-- The name is found where a file with it is. -/
theorem ofPath_encode {directory fileName name : Text}
    (hdirectory : directory = [] ∨ directory.getLast? = some '/')
    (hfile : isProper fileName = true) (hname : isProper name = true)
    (h : ofFileName fileName = name) :
    ofPath (Utf8.encode (directory ++ fileName)) = .ok name := by
  refine ofPath_eq_ok_iff.2 ⟨hname, _, fileName?_encode hdirectory hfile, ?_⟩
  rw [Utf8.decodeLossy_encode, h]

/-- **Names and files belong together.** The file of an accepted name, in any
directory, gives the name; without the suffix as well, unless the name itself ends in
it. What a path gives comes from its last component with one suffix left out, if there
is one, whatever slashes and dots follow. Any other path has no last component that is
a name, or one of three; and what is reported then is the path. -/
theorem ofPath_roundTrip :
    (∀ directory name : Text, directory = [] ∨ directory.getLast? = some '/' →
      check name = .ok ⟨⟩ →
        ofPath (Utf8.encode (directory ++ name ++ fileSuffix)) = .ok name ∧
        (¬ fileSuffix <:+ name → ofPath (Utf8.encode (directory ++ name)) = .ok name)) ∧
    (∀ path name, ofPath path = .ok name →
      (∃ c, (Path.components path).getLast? = some c ∧
        (Utf8.decodeLossy c = name ++ fileSuffix ∨
          Utf8.decodeLossy c = name ∧ ¬ fileSuffix <:+ name)) ∧
      ∀ parts : List Bytes,
        (∀ part ∈ parts, part = [Path.slash] ∨ part = Path.slash :: Path.here) →
          ofPath (path ++ parts.flatten) = .ok name) ∧
    (∀ path, (∃ f, ofPath path = .error f) ↔
      Path.components path = [] ∨ (Path.components path).getLast? = some Path.above ∨
        ∃ c, (Path.components path).getLast? = some c ∧
          Utf8.decodeLossy c ∈ refusedFileNames) ∧
    ∀ path f, ofPath path = .error f → f = .invalidUnitName (Utf8.decodeLossy path) := by
  refine ⟨fun directory name hdirectory hcheck => ?_,
    fun path name h => ⟨?_, fun parts hparts => ?_⟩,
    exists_ofPath_eq_error_iff, fun path f h => (ofPath_eq_error_iff.1 h).1⟩
  · have hname := (check_eq_ok_iff name).1 hcheck
    have hfile := isProper_append_fileSuffix ((isProper_iff name).1 hname).2.2.2
    constructor
    · rw [List.append_assoc]
      exact ofPath_encode hdirectory hfile hname (ofFileName_eq_iff.2 (.inl rfl))
    · exact fun hno => ofPath_encode hdirectory hname hname (ofFileName_eq_iff.2 (.inr ⟨rfl, hno⟩))
  · obtain ⟨-, c, hfile, hname⟩ := ofPath_eq_ok_iff.1 h
    refine ⟨c, (Path.fileName?_eq_some_iff.1 hfile).1, (ofFileName_eq_iff.1 hname).imp_right ?_⟩
    rintro ⟨heq, hno⟩
    exact ⟨heq, heq ▸ hno⟩
  · exact ofPath_append_flatten h hparts

/-- A name that ends in the suffix itself, in a directory with two slashes behind it. -/
theorem ofPath_roundTrip_suffix :
    let directory : Text := "units//"
    let name : Text := "a.service"
    (directory.getLast? = some '/' ∧ check name = .ok ⟨⟩) ∧
      ofPath (Utf8.encode (directory ++ name ++ fileSuffix) ++
        [[Path.slash], Path.slash :: Path.here].flatten) = .ok name := by
  intro directory name
  have hdirectory : directory.getLast? = some '/' := by decide
  have hcheck : check name = .ok ⟨⟩ := by decide
  obtain ⟨hround, hgiven, -, -⟩ := ofPath_roundTrip
  have hfile := (hround directory name (.inr hdirectory) hcheck).1
  exact ⟨⟨hdirectory, hcheck⟩, (hgiven _ name hfile).2 _ (by decide)⟩

end ServiceScript.UnitName
