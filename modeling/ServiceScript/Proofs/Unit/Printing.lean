import ServiceScript.Proofs.Text.Trimmed
import ServiceScript.Proofs.Unit.OneLine

/-!
# ServiceScript — directives as lines of a unit file

The way back from directives to a unit file. A directive is written as two
lines: a header for its section, and the assignment. Not every directive can be
written. Reading trims a line, looks for a header first and cuts at the first
equals sign, so that a key with an equals sign in it, say, is never read.
What is left are the **writable** directives, and they are exactly those that
a unit file can give.

Main results:

* `UnitFile.writable_of_mem_directives` — a file gives writable directives only;
* `UnitFile.findings_ofDirectives` — writable directives are read as they were
  written, and no line is skipped.
-/

namespace ServiceScript

/-- A directive whose parts a reader finds again in its line. -/
structure Directive.Writable (d : Directive) : Prop where
  sectionName : '\n' ∉ d.sectionName
  key : '\n' ∉ d.key
  value : '\n' ∉ d.value
  -- the first equals sign of the line is the one behind the key
  separator : '=' ∉ d.key
  keyStart : d.key.StartsTrimmed
  valueEnd : d.value.EndsTrimmed
  -- the line is no header
  noHeader : ¬ (d.key.head? = some '[' ∧ d.value.getLast? = some ']')

-- ---------------------------------------------------------------------------
-- The directives of a file
-- ---------------------------------------------------------------------------

/-- The lines of a content are read without blanks at their ends. -/
theorem trimmed_of_mem_trimmedLines {content line : Text} (h : line ∈ trimmedLines content) :
    line.StartsTrimmed ∧ line.EndsTrimmed := by
  obtain ⟨piece, -, rfl⟩ := List.mem_map.1 h
  exact Text.trimmed_trim piece

/-- The name of a section has no line end in it. -/
theorem SectionFrom.lineEnd_notMem {content name : Text} {i : Nat}
    (h : SectionFrom [] (trimmedLines content) i name) : '\n' ∉ name := by
  rcases h with ⟨j, -, ⟨line, hline, hheader⟩, -⟩ | ⟨rfl, -⟩
  · have hno := notMem_of_mem_trimmedLines (List.mem_of_getElem? hline)
    unfold IsHeader at hheader
    rw [hheader] at hno
    exact fun hc => hno (List.mem_cons_of_mem _ (List.mem_append_left _ hc))
  · exact List.not_mem_nil

/-- A key in brackets with a value in front of a bracket would have been read as
a header. -/
theorem IsDirective.noHeader {line key value : Text} (h : IsDirective line key value) :
    ¬ (key.head? = some '[' ∧ value.getLast? = some ']') := by
  intro ⟨hkey, hvalue⟩
  obtain ⟨keyRest, rfl⟩ := List.head?_eq_some_iff.1 hkey
  obtain ⟨valueFront, rfl⟩ := List.getLast?_eq_some_iff.1 hvalue
  obtain ⟨hno, heq, -⟩ := h
  apply hno (keyRest ++ '=' :: valueFront)
  rw [IsHeader, heq, List.cons_append, List.append_assoc, List.cons_append]

/-- In a trimmed line the key begins with no blank, and the value ends with none. -/
theorem IsDirective.trimmed {line key value : Text} (h : IsDirective line key value)
    (hstart : line.StartsTrimmed) (hend : line.EndsTrimmed) :
    key.StartsTrimmed ∧ value.EndsTrimmed := by
  obtain ⟨-, rfl, -⟩ := h
  constructor
  · intro c hc
    apply hstart
    rw [List.head?_append, Option.mem_def.1 hc]
    rfl
  · intro c hc
    obtain ⟨valueFront, rfl⟩ := List.getLast?_eq_some_iff.1 (Option.mem_def.1 hc)
    apply hend
    rw [← List.cons_append, ← List.append_assoc, List.getLast?_concat]
    rfl

namespace UnitFile

/-- Every directive that is read can be written in a line. -/
theorem writable_of_mem_directives {content : Text} {d : Directive}
    (h : d ∈ directives content) : d.Writable := by
  obtain ⟨i, line, hline, hdirective, hsection⟩ :=
    (listsInOrder_directives content).exists_at h
  have hmem := List.mem_of_getElem? hline
  have hno := notMem_of_mem_trimmedLines hmem
  obtain ⟨hstart, hend⟩ := trimmed_of_mem_trimmedLines hmem
  obtain ⟨hkeyStart, hvalueEnd⟩ := hdirective.trimmed hstart hend
  have hnoHeader := hdirective.noHeader
  obtain ⟨-, heq, hseparator⟩ := hdirective
  -- key and value are parts of the line
  rw [heq, List.mem_append, List.mem_cons, not_or, not_or] at hno
  obtain ⟨hkey, -, hvalue⟩ := hno
  exact ⟨hsection.lineEnd_notMem, hkey, hvalue, hseparator, hkeyStart, hvalueEnd, hnoHeader⟩

end UnitFile

-- ---------------------------------------------------------------------------
-- The lines of a directive
-- ---------------------------------------------------------------------------

theorem Line.ofTrimmed_of_isHeader {line name : Text} (h : IsHeader line name) :
    Line.ofTrimmed line = .header name := by
  have hname := (headerName?_eq_some_iff line name).2 h
  have hne : line ≠ [] := by
    unfold IsHeader at h
    rw [h]
    exact List.cons_ne_nil _ _
  rw [Line.ofTrimmed, if_neg hne, hname]

theorem Line.ofTrimmed_of_isDirective {line key value : Text} (h : IsDirective line key value) :
    Line.ofTrimmed line = .directive key value := by
  obtain ⟨hno, heq, hkey⟩ := h
  have hname := (headerName?_eq_none_iff line).2 hno
  have hsplit := splitFirst_eq_some_iff.2 ⟨heq, hkey⟩
  have hne : line ≠ [] := by
    rw [heq]
    simp
  rw [Line.ofTrimmed, if_neg hne, hname, hsplit]

namespace Directive

def headerLine (d : Directive) : Text := '[' :: (d.sectionName ++ [']'])

def assignmentLine (d : Directive) : Text := d.key ++ '=' :: d.value

theorem ofText_headerLine (d : Directive) :
    Line.ofText d.headerLine = .header d.sectionName := by
  -- brackets are no blanks, so trimming leaves the line alone
  have hstart : d.headerLine.StartsTrimmed := Text.startsTrimmed_cons _ (by decide)
  have hend : d.headerLine.EndsTrimmed := Text.endsTrimmed_concat ('[' :: d.sectionName) (by decide)
  rw [Line.ofText, Text.trim_eq_self hstart hend]
  exact Line.ofTrimmed_of_isHeader rfl

/-- The line begins as the key does, or with the equals sign if there is no key. -/
theorem head?_assignmentLine (d : Directive) :
    d.assignmentLine.head? = some (d.key.head?.getD '=') := by
  rw [assignmentLine, List.head?_append]
  cases d.key.head? <;> rfl

theorem getLast?_assignmentLine (d : Directive) :
    d.assignmentLine.getLast? = some (d.value.getLast?.getD '=') := by
  rw [assignmentLine, List.getLast?_append, List.getLast?_cons, Option.some_or]

/-- What is written of a directive is a line with its key and its value. -/
theorem isDirective_assignmentLine {d : Directive} (hd : d.Writable) :
    IsDirective d.assignmentLine d.key d.value := by
  refine ⟨?_, rfl, hd.separator⟩
  intro name hheader
  -- a bracket in front belongs to the key, and one at the end to the value
  have hfirst := head?_assignmentLine d
  have hlast := getLast?_assignmentLine d
  rw [hheader] at hfirst hlast
  rw [← List.cons_append, List.getLast?_concat] at hlast
  have hkey := Option.getD_eq_iff.1 (Option.some.inj hfirst).symm
  have hvalue := Option.getD_eq_iff.1 (Option.some.inj hlast).symm
  apply hd.noHeader
  exact ⟨hkey.resolve_right (by simp), hvalue.resolve_right (by simp)⟩

/-- What is written of a directive has no blanks at its ends. -/
theorem trimmed_assignmentLine {d : Directive} (hd : d.Writable) :
    d.assignmentLine.StartsTrimmed ∧ d.assignmentLine.EndsTrimmed := by
  constructor
  · intro c hc
    rw [head?_assignmentLine, Option.mem_some] at hc
    rcases Option.getD_eq_iff.1 hc with hkey | ⟨-, rfl⟩
    · exact hd.keyStart c hkey
    · decide
  · intro c hc
    rw [getLast?_assignmentLine, Option.mem_some] at hc
    rcases Option.getD_eq_iff.1 hc with hvalue | ⟨-, rfl⟩
    · exact hd.valueEnd c hvalue
    · decide

/-- What is written of a directive is read as its key and its value. -/
theorem ofText_assignmentLine {d : Directive} (hd : d.Writable) :
    Line.ofText d.assignmentLine = .directive d.key d.value := by
  obtain ⟨hstart, hend⟩ := trimmed_assignmentLine hd
  rw [Line.ofText, Text.trim_eq_self hstart hend]
  exact Line.ofTrimmed_of_isDirective (isDirective_assignmentLine hd)

theorem Writable.lineEnd_notMem_headerLine {d : Directive} (hd : d.Writable) :
    '\n' ∉ d.headerLine := by
  have h := hd.sectionName
  simp [headerLine, h]

theorem Writable.lineEnd_notMem_assignmentLine {d : Directive} (hd : d.Writable) :
    '\n' ∉ d.assignmentLine := by
  have hkey := hd.key
  have hvalue := hd.value
  simp [assignmentLine, hkey, hvalue]

end Directive

-- ---------------------------------------------------------------------------
-- Whole files
-- ---------------------------------------------------------------------------

namespace UnitFile

/-- A unit file that gives directives, with a header in front of each. -/
def ofDirectives (ds : List Directive) : Text :=
  ds.flatMap fun d => d.headerLine ++ '\n' :: (d.assignmentLine ++ ['\n'])

/-- Every directive is written as a header and an assignment. -/
theorem lines_ofDirectives_cons {d : Directive} (hd : d.Writable) (ds : List Directive) :
    lines (ofDirectives (d :: ds)) =
      .header d.sectionName :: .directive d.key d.value :: lines (ofDirectives ds) := by
  have hsplit : ofDirectives (d :: ds) =
      d.headerLine ++ '\n' :: (d.assignmentLine ++ '\n' :: ofDirectives ds) := by
    simp [ofDirectives]
  unfold lines splitAll
  rw [hsplit, List.splitOn_append_cons_self, List.splitOn_append_cons_self,
    List.splitOn_eq_singleton hd.lineEnd_notMem_headerLine,
    List.splitOn_eq_singleton hd.lineEnd_notMem_assignmentLine, List.singleton_append,
    List.singleton_append, List.map_cons, List.map_cons, Directive.ofText_headerLine,
    Directive.ofText_assignmentLine hd]

/-- In a content written of directives these are found, and nothing else. -/
theorem findingsFrom_ofDirectives {ds : List Directive} (hds : ∀ d ∈ ds, d.Writable)
    (start : Text) (number : Nat) :
    findingsFrom start number (lines (ofDirectives ds)) = ds.map Finding.directive := by
  -- a directive brings its own header, so it does not matter which section is running
  induction ds generalizing start number with
  | nil => rfl
  | cons d rest ih =>
    have hd := hds d List.mem_cons_self
    have hrest : ∀ e ∈ rest, e.Writable := fun e he => hds e (List.mem_cons_of_mem _ he)
    rw [lines_ofDirectives_cons hd, findingsFrom, findingsFrom, ih hrest, List.map_cons]

/-- Writable directives are read as they were written. -/
theorem findings_ofDirectives {ds : List Directive} (hds : ∀ d ∈ ds, d.Writable) :
    findings (ofDirectives ds) = ds.map Finding.directive :=
  findingsFrom_ofDirectives hds [] 1

/-- Directives are read back from the content that is written of them. -/
theorem directives_ofDirectives {ds : List Directive} (hds : ∀ d ∈ ds, d.Writable) :
    directives (ofDirectives ds) = ds := by
  rw [directives, findings_ofDirectives hds, List.filterMap_map]
  exact List.filterMap_some

/-- Nothing is skipped in a content that is written of directives. -/
theorem diagnostics_ofDirectives {ds : List Directive} (hds : ∀ d ∈ ds, d.Writable) :
    diagnostics (ofDirectives ds) = [] := by
  rw [diagnostics, findings_ofDirectives hds, List.filterMap_map]
  exact List.filterMap_eq_nil_iff.2 fun _ _ => rfl

end UnitFile

end ServiceScript
