import ServiceScript.Proofs.Unit.Concatenation
import ServiceScript.Request
import ServiceScript.Script.Sink

/-!
# ServiceScript — lines that do not count

A comment, a stray word, an empty line: a line that is no header and has no
equals sign gives a unit nothing. Such a line can be put anywhere between the
lines of a file, in front of all headers, between two directives of one section
or behind the last line. It hands the running section on as it found it, so
everything behind it is read as before, only one line further down.

Main definition: `Idle`. Main result: `UnitFile.reading_insert_idle` — with such a
line more, a file has the same unit, the same scripts, and the diagnostics that
it had, one for the new line apart.
-/

namespace ServiceScript

/-- A line with nothing in it for a unit. -/
def Idle (line : Text) : Prop :=
  line.trim = [] ∨ ('=' ∉ line.trim ∧ ∀ name, ¬ IsHeader line.trim name)

/-- An idle line is read as blank, or as garbage. -/
theorem Idle.ofText {line : Text} (h : Idle line) :
    Line.ofText line = if line.trim = [] then .blank else .garbage line.trim := by
  unfold Line.ofText Line.ofTrimmed
  by_cases hnil : line.trim = []
  · rw [if_pos hnil, if_pos hnil]
  · obtain ⟨hseparator, hheader⟩ := h.resolve_left hnil
    rw [if_neg hnil, if_neg hnil, (headerName?_eq_none_iff _).2 hheader,
      splitFirst_eq_none_iff.2 hseparator]

/-- Behind an idle line the section is the same. -/
theorem Idle.sectionBehind {line : Text} (h : Idle line) (start : Text) :
    (Line.ofText line).sectionBehind start = start := by
  rw [h.ofText]
  split <;> rfl

/-- The diagnostic for an idle line, if it is not empty. -/
def idleDiagnostics (number : Nat) (line : Text) : List Diagnostic :=
  if line.trim = [] then [] else [⟨number, line.trim⟩]

/-- An idle line gives a diagnostic at most. -/
theorem Idle.finding? {line : Text} (h : Idle line) (start : Text) (number : Nat) :
    ((Line.ofText line).finding? start number).toList =
      (idleDiagnostics number line).map Finding.skipped := by
  rw [h.ofText, idleDiagnostics]
  split <;> rfl

/-- The diagnostic of a line that is further down has a greater number. -/
theorem idleDiagnostics_later (number k : Nat) (line : Text) :
    (idleDiagnostics number line).map (Diagnostic.later k) = idleDiagnostics (number + k) line := by
  unfold idleDiagnostics
  split <;> rfl

namespace UnitFile

/-- What a file gives with an idle line behind whole lines, and without it. The
line stands in the section that these leave open, and hands it on. -/
theorem findings_insert_idle {p g : Text} (hp : WholeLines p) (hline : '\n' ∉ g) (hg : Idle g)
    (s : Text) :
    ∃ behind : List Finding,
      (∀ d, Finding.skipped d ∈ behind → 1 ≤ d.line) ∧
      findings (p ++ s) = findings p ++ behind.map (Finding.later (lineCount p)) ∧
      findings (p ++ g ++ '\n' :: s) = findings p ++
        ((idleDiagnostics 1 g).map Finding.skipped ++ behind.map (Finding.later 1)).map
          (Finding.later (lineCount p)) := by
  have hlines : lines (g ++ '\n' :: s) = Line.ofText g :: lines s := by
    unfold lines splitAll
    rw [List.splitOn_append_cons_self, List.splitOn_eq_singleton hline]
    rfl
  refine ⟨findingsFrom (sectionBehind [] (lines p)) 1 (lines s), fun d hd => ?_, ?_, ?_⟩
  · exact (line_of_mem_findingsFrom hd).1
  · exact findings_append hp s
  · rw [List.append_assoc, findings_append hp, hlines, findingsFrom_cons, hg.sectionBehind,
      hg.finding?, findingsFrom_later]

/-- An idle line gives no directive and changes none. -/
theorem directives_insert_idle {p g : Text} (hp : WholeLines p) (hline : '\n' ∉ g) (hg : Idle g)
    (s : Text) : directives (p ++ g ++ '\n' :: s) = directives (p ++ s) := by
  obtain ⟨behind, -, hclean, hnoisy⟩ := findings_insert_idle hp hline hg s
  have hidle : ((idleDiagnostics 1 g).map Finding.skipped).filterMap Finding.directive? = [] := by
    rw [List.filterMap_map]
    exact List.filterMap_eq_nil_iff.2 fun _ _ => rfl
  unfold directives
  rw [hclean, hnoisy, List.filterMap_append, List.filterMap_append,
    Finding.filterMap_directive?_later, Finding.filterMap_directive?_later, List.filterMap_append,
    hidle, Finding.filterMap_directive?_later, List.nil_append]

/-- The diagnostics fall apart at the new line: those in front of it keep their
numbers, and those behind it are one line further down. -/
theorem diagnostics_insert_idle {p g : Text} (hp : WholeLines p) (hline : '\n' ∉ g) (hg : Idle g)
    (s : Text) :
    ∃ front behind : List Diagnostic,
      diagnostics (p ++ s) = front ++ behind ∧
      (∀ d ∈ front, d.line ≤ lineCount p) ∧ (∀ d ∈ behind, lineCount p < d.line) ∧
      diagnostics (p ++ g ++ '\n' :: s) =
        front ++ idleDiagnostics (lineCount p + 1) g ++ behind.map (Diagnostic.later 1) := by
  obtain ⟨behind, hnumber, hclean, hnoisy⟩ := findings_insert_idle hp hline hg s
  have hskipped : ((idleDiagnostics 1 g).map Finding.skipped).filterMap Finding.skipped? =
      idleDiagnostics 1 g := by
    rw [List.filterMap_map]
    exact List.filterMap_some
  have hcomm : ∀ ds : List Diagnostic,
      (ds.map (Diagnostic.later 1)).map (Diagnostic.later (lineCount p)) =
        (ds.map (Diagnostic.later (lineCount p))).map (Diagnostic.later 1) := by
    intro ds
    rw [List.map_map, List.map_map]
    exact List.map_congr_left fun d _ => by simp [Diagnostic.later, Nat.add_right_comm]
  refine ⟨diagnostics p, (behind.filterMap Finding.skipped?).map (Diagnostic.later (lineCount p)),
    ?_, fun d hd => line_le_of_mem_diagnostics hp hd, fun d hd => ?_, ?_⟩
  · rw [diagnostics, hclean, List.filterMap_append, Finding.filterMap_skipped?_later]
    rfl
  · obtain ⟨e, he, rfl⟩ := List.mem_map.1 hd
    obtain ⟨f, hf, hfe⟩ := List.mem_filterMap.1 he
    cases f with
    | directive _ => simp [Finding.skipped?] at hfe
    | skipped e =>
      obtain rfl := Option.some.inj hfe
      have hpos := hnumber _ hf
      show lineCount p < e.line + lineCount p
      omega
  · rw [diagnostics, hnoisy, List.filterMap_append, Finding.filterMap_skipped?_later,
      List.filterMap_append, hskipped, Finding.filterMap_skipped?_later, List.map_append,
      idleDiagnostics_later, hcomm, Nat.add_comm 1, List.append_assoc]
    rfl

/-- **An idle line changes nothing.** Put behind any whole lines of a file, it
leaves the unit as it was, and with it what every sink gets of a script and how
the script ends. The diagnostics are those that were there, those behind the line
with a number one higher, and one for the line itself if it is not empty. -/
theorem reading_insert_idle {p g s : Text} (hp : WholeLines p) (hline : '\n' ∉ g) (hg : Idle g) :
    let clean := p ++ s
    let noisy := p ++ g ++ '\n' :: s
    unit noisy = unit clean ∧
    (∀ name interpreter strict,
      let r : Request := ⟨unit clean, name, interpreter, strict⟩
      let r' : Request := ⟨unit noisy, name, interpreter, strict⟩
      Utf8.encode r'.script.text = Utf8.encode r.script.text ∧
        r'.script.outcome = r.script.outcome ∧
        ∀ room, r'.script.emitWithin room = r.script.emitWithin room) ∧
    ∃ front behind : List Diagnostic,
      diagnostics clean = front ++ behind ∧
      (∀ d ∈ front, d.line ≤ lineCount p) ∧ (∀ d ∈ behind, lineCount p < d.line) ∧
      diagnostics noisy =
        front ++ idleDiagnostics (lineCount p + 1) g ++ behind.map (Diagnostic.later 1) := by
  intro clean noisy
  have hunit : unit noisy = unit clean := by
    unfold unit
    rw [directives_insert_idle hp hline hg s]
  refine ⟨hunit, fun name interpreter strict => ?_, diagnostics_insert_idle hp hline hg s⟩
  dsimp only
  rw [hunit]
  exact ⟨rfl, rfl, fun room => rfl⟩

/-- A comment that begins like a header, between a header and its directive. -/
theorem reading_insert_idle_comment :
    let p : Text := "junk\n[Service]\n"
    let g : Text := "\t[ a note \r"
    let s : Text := "User=alice\n?"
    (WholeLines p ∧ '\n' ∉ g ∧ Idle g) ∧
      unit (p ++ g ++ '\n' :: s) = unit (p ++ s) ∧
      diagnostics (p ++ s) = [⟨1, "junk"⟩, ⟨4, "?"⟩] ∧
      diagnostics (p ++ g ++ '\n' :: s) = [⟨1, "junk"⟩, ⟨3, "[ a note"⟩, ⟨5, "?"⟩] := by
  intro p g s
  have hp : WholeLines p := by decide
  have hline : '\n' ∉ g := by decide
  have hg : Idle g := by
    refine .inr ⟨by decide, fun name hname => ?_⟩
    have hnone : headerName? g.trim = none := by rfl
    exact (headerName?_eq_none_iff _).1 hnone name hname
  obtain ⟨hunit, -, -⟩ := reading_insert_idle (s := s) hp hline hg
  exact ⟨⟨hp, hline, hg⟩, hunit, by decide, by decide⟩

end UnitFile

end ServiceScript
