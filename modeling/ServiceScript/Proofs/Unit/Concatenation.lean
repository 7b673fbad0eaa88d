import ServiceScript.Proofs.Unit.Reading

/-!
# ServiceScript — unit files behind one another

Reading a file goes from line to line, and all that it takes from one line to
the next is the running section and the number of the line. So where a file ends
with a line end, a second file behind it is read as it is read alone, except
that it starts in the section that the first one leaves open, and that its lines
have higher numbers.

Main definitions:

* `WholeLines` — a text that does not end within a line;
* `UnitFile.sectionBehind` — the section that lines leave open.

Main results:

* `UnitFile.findings_append` — what a file gives that goes on behind another;
* `UnitFile.line_le_of_mem_diagnostics` — what is skipped stands in a line of the
  file.
-/

namespace ServiceScript

-- ---------------------------------------------------------------------------
-- Whole lines
-- ---------------------------------------------------------------------------

/-- A text that is empty or ends with a line end. -/
def WholeLines (t : Text) : Prop := t = [] ∨ t.getLast? = some '\n'

instance (t : Text) : Decidable (WholeLines t) :=
  inferInstanceAs (Decidable (t = [] ∨ t.getLast? = some '\n'))

/-- The number of lines of a text that does not end within one. -/
def lineCount (t : Text) : Nat := t.count '\n'

theorem WholeLines.cases {t : Text} (h : WholeLines t) :
    t = [] ∨ ∃ front, t = front ++ ['\n'] := by
  rcases h with hnil | hlast
  · exact .inl hnil
  · exact .inr (List.getLast?_eq_some_iff.1 hlast)

/-- There is one piece more than there are separators. -/
theorem length_splitOn {α : Type} [DecidableEq α] (sep : α) (xs : List α) :
    (xs.splitOn sep).length = xs.count sep + 1 := by
  induction xs with
  | nil => rfl
  | cons c rest ih =>
    rw [List.splitOn_cons_eq_if_modifyHead]
    by_cases hc : c = sep
    · rw [if_pos (beq_iff_eq.2 hc), List.length_cons, ih, hc, List.count_cons_self]
    · rw [if_neg fun hb => hc (beq_iff_eq.1 hb), List.length_modifyHead, ih,
        List.count_cons_of_ne hc]

-- ---------------------------------------------------------------------------
-- Findings that are further down
-- ---------------------------------------------------------------------------

/-- A diagnostic for the same line in a file with `k` more lines in front. -/
def Diagnostic.later (k : Nat) (d : Diagnostic) : Diagnostic := { d with line := d.line + k }

/-- A finding in the same line in a file with `k` more lines in front. -/
def Finding.later (k : Nat) : Finding → Finding
  | .directive d => .directive d
  | .skipped d => .skipped (d.later k)

theorem Finding.directive?_later (k : Nat) (f : Finding) : (f.later k).directive? = f.directive? := by
  cases f <;> rfl

theorem Finding.skipped?_later (k : Nat) (f : Finding) :
    (f.later k).skipped? = f.skipped?.map (Diagnostic.later k) := by
  cases f <;> rfl

theorem Finding.filterMap_directive?_later (k : Nat) (fs : List Finding) :
    (fs.map (Finding.later k)).filterMap Finding.directive? = fs.filterMap Finding.directive? := by
  rw [List.filterMap_map]
  congr 1
  funext f
  exact f.directive?_later k

/-- Diagnostics that are found further down have higher numbers. -/
theorem Finding.filterMap_skipped?_later (k : Nat) (fs : List Finding) :
    (fs.map (Finding.later k)).filterMap Finding.skipped? =
      (fs.filterMap Finding.skipped?).map (Diagnostic.later k) := by
  rw [List.filterMap_map, List.map_filterMap]
  congr 1
  funext f
  exact f.skipped?_later k

-- ---------------------------------------------------------------------------
-- Lines behind lines
-- ---------------------------------------------------------------------------

namespace UnitFile

/-- The section that lines leave open, read from a section on. -/
def sectionBehind (start : Text) (ls : List Line) : Text :=
  ls.foldl (fun running line => line.sectionBehind running) start

/-- Lines are read from the section and the number that those before them lead to. -/
theorem findingsFrom_append (start : Text) (number : Nat) (xs ys : List Line) :
    findingsFrom start number (xs ++ ys) =
      findingsFrom start number xs ++
        findingsFrom (sectionBehind start xs) (number + xs.length) ys := by
  induction xs generalizing start number with
  | nil => rfl
  | cons line rest ih =>
    have hnumber : number + 1 + rest.length = number + (line :: rest).length := by
      rw [List.length_cons]
      omega
    rw [List.cons_append, findingsFrom_cons, findingsFrom_cons, ih, List.append_assoc, hnumber]
    rfl

/-- Lines further down give the same findings with higher numbers. -/
theorem findingsFrom_later (start : Text) (number k : Nat) (ls : List Line) :
    findingsFrom start (number + k) ls = (findingsFrom start number ls).map (Finding.later k) := by
  induction ls generalizing start number with
  | nil => rfl
  | cons line rest ih =>
    have hfinding : (line.finding? start (number + k)).toList =
        (line.finding? start number).toList.map (Finding.later k) := by
      cases line <;> rfl
    rw [findingsFrom_cons, findingsFrom_cons, List.map_append, ← hfinding,
      show number + k + 1 = number + 1 + k by omega, ih]

/-- A diagnostic has the number of one of the lines. -/
theorem line_of_mem_findingsFrom {start : Text} {number : Nat} {ls : List Line} {d : Diagnostic}
    (h : .skipped d ∈ findingsFrom start number ls) :
    number ≤ d.line ∧ d.line < number + ls.length := by
  induction ls generalizing start number with
  | nil => exact absurd h List.not_mem_nil
  | cons line rest ih =>
    rw [findingsFrom_cons, List.mem_append] at h
    rw [List.length_cons]
    rcases h with hline | hrest
    · have hnumber : d.line = number := by
        cases line with
        | garbage text =>
          have hd : d = ⟨number, text⟩ := by simpa [Line.finding?] using hline
          rw [hd]
        | blank => simp [Line.finding?] at hline
        | header name => simp [Line.finding?] at hline
        | directive k v => simp [Line.finding?] at hline
      omega
    · have := ih hrest
      omega

-- ---------------------------------------------------------------------------
-- Files behind files
-- ---------------------------------------------------------------------------

/-- The lines of a file go on where a text of whole lines ends. Alone it has an
empty piece there, which gives nothing and leaves the section as it is. -/
theorem exists_lines_append {a : Text} (ha : WholeLines a) :
    ∃ front, front.length = lineCount a ∧ findings a = findingsFrom [] 1 front ∧
      sectionBehind [] (lines a) = sectionBehind [] front ∧
      ∀ b, lines (a ++ b) = front ++ lines b := by
  rcases ha.cases with rfl | ⟨content, rfl⟩
  · exact ⟨[], rfl, rfl, rfl, fun b => rfl⟩
  · have hlines : ∀ b, lines (content ++ '\n' :: b) = lines content ++ lines b := by
      intro b
      unfold lines splitAll
      rw [List.splitOn_append_cons_self, List.map_append]
    have halone : lines (content ++ ['\n']) = lines content ++ [.blank] := hlines []
    refine ⟨lines content, ?_, ?_, ?_, fun b => ?_⟩
    · unfold lines splitAll lineCount
      rw [List.length_map, length_splitOn, List.count_append]
      rfl
    · unfold findings
      rw [halone, findingsFrom_append]
      exact List.append_nil _
    · unfold sectionBehind
      rw [halone, List.foldl_append]
      rfl
    · rw [List.append_assoc]
      exact hlines b

/-- What a file gives that goes on behind whole lines: what these give, and then
what the rest gives in the section that they leave open. -/
theorem findings_append {a : Text} (ha : WholeLines a) (b : Text) :
    findings (a ++ b) = findings a ++
      (findingsFrom (sectionBehind [] (lines a)) 1 (lines b)).map (Finding.later (lineCount a)) := by
  obtain ⟨front, hlength, hfindings, hsection, happend⟩ := exists_lines_append ha
  rw [hfindings, hsection, findings, happend, findingsFrom_append, hlength, findingsFrom_later]

/-- A diagnostic of whole lines has the number of one of them. -/
theorem line_le_of_mem_diagnostics {a : Text} (ha : WholeLines a) {d : Diagnostic}
    (h : d ∈ diagnostics a) : d.line ≤ lineCount a := by
  obtain ⟨front, hlength, hfindings, -⟩ := exists_lines_append ha
  rw [diagnostics, hfindings, List.mem_filterMap] at h
  obtain ⟨f, hf, hd⟩ := h
  cases f with
  | directive e => simp [Finding.skipped?] at hd
  | skipped e =>
    obtain rfl := Option.some.inj hd
    have := (line_of_mem_findingsFrom hf).2
    omega

end UnitFile

end ServiceScript
