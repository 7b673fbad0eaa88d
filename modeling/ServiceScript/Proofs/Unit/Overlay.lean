import ServiceScript.Proofs.Unit.Concatenation
import ServiceScript.Proofs.Unit.Image

/-!
# ServiceScript — units laid over units

A unit file can be written in parts: a part behind another one changes what it
says again and leaves the rest. On the units this is an **overlay**. The single
values of the upper unit go before those of the lower one, section by section and
key by key, and the lists follow each other. Reading turns the one into the
other, provided that the upper part says which section its directives are in.

Main definitions:

* `ServiceUnit.overlay` — a unit laid over another one;
* `HeaderFirst` — lines in which no directive stands before the first header.

Main results:

* `ServiceUnit.addAll_eq_overlay` — directives are laid over a
  unit as the unit that they leave alone;
* `UnitFile.reading_append` — so is a file over a file in front of it.
-/

namespace ServiceScript

namespace ServiceUnit

-- ---------------------------------------------------------------------------
-- Overlays
-- ---------------------------------------------------------------------------

/-- A unit with another one laid over it. -/
def overlay (lower upper : ServiceUnit) : ServiceUnit where
  sections := lower.sections.mergeWith (Dict.mergeWith fun _ value => value) upper.sections
  environment := lower.environment ++ upper.environment
  execStartPre := lower.execStartPre ++ upper.execStartPre

/-- The upper value is found if there is one, and the lower one otherwise. -/
theorem get?_overlay (lower upper : ServiceUnit) (s k : Text) :
    (lower.overlay upper).get? s k = (upper.get? s k).or (lower.get? s k) := by
  unfold get? overlay
  dsimp only
  rw [Dict.get?_mergeWith]
  cases hlower : lower.sections.get? s with
  | none => cases upper.sections.get? s <;> simp [Option.merge]
  | some keys =>
    cases hupper : upper.sections.get? s with
    | none => simp [Option.merge]
    | some others =>
      -- the section is in both units, so its keys are put together
      simp only [Option.merge, Option.bind_some, Dict.get?_mergeWith]
      cases keys.get? k <;> cases others.get? k <;> rfl

/-- An overlay has the sections of both units. -/
theorem get?_sections_overlay (lower upper : ServiceUnit) (s : Text) :
    (lower.overlay upper).sections.get? s = none ↔
      lower.sections.get? s = none ∧ upper.sections.get? s = none := by
  unfold overlay
  dsimp only
  rw [Dict.get?_mergeWith]
  cases lower.sections.get? s <;> cases upper.sections.get? s <;> simp [Option.merge]

/-- No section of an overlay is empty, if none is in the two units. -/
theorem sectionsInhabited_overlay {lower upper : ServiceUnit} (hlower : lower.SectionsInhabited)
    (hupper : upper.SectionsInhabited) : (lower.overlay upper).SectionsInhabited := by
  intro s keys hkeys hempty
  subst hempty
  -- an empty section has no value, so neither unit has one in it, nor the section
  have hnone : ∀ k, (lower.overlay upper).get? s k = none := by
    intro k
    rw [get?, hkeys]
    rfl
  simp only [get?_overlay, Option.or_eq_none_iff] at hnone
  have hno := (get?_sections_overlay lower upper s).2
    ⟨(hlower.get?_eq_none_iff s).2 fun k => (hnone k).2,
      (hupper.get?_eq_none_iff s).2 fun k => (hnone k).1⟩
  rw [hkeys] at hno
  exact absurd hno (by simp)

-- ---------------------------------------------------------------------------
-- Directives
-- ---------------------------------------------------------------------------

/-- A directive leaves no section empty where none was. -/
theorem sectionsInhabited_add {u : ServiceUnit} (hu : u.SectionsInhabited) (d : Directive) :
    (u.add d).SectionsInhabited := by
  intro s keys hkeys
  rcases get?_sections_add hkeys with ⟨-, hne⟩ | hold
  · exact hne
  · exact hu s keys hold

theorem sectionsInhabited_addAll {u : ServiceUnit} (hu : u.SectionsInhabited)
    (ds : List Directive) : (u.addAll ds).SectionsInhabited := by
  induction ds generalizing u with
  | nil => exact hu
  | cons d rest ih =>
    rw [addAll_cons]
    exact ih (sectionsInhabited_add hu d)

/-- Directives that come to a unit are laid over it as the unit that they leave
alone. -/
theorem addAll_eq_overlay {u : ServiceUnit} (hu : u.SectionsInhabited)
    (ds : List Directive) : u.addAll ds = u.overlay (addAll ∅ ds) := by
  have halone := sectionsInhabited_addAll readable_empty.inhabited ds
  apply (sectionsInhabited_addAll hu ds).ext (sectionsInhabited_overlay hu halone)
  · intro s k
    rw [get?_overlay, get?_addAll, get?_addAll, get?_empty, Option.or_none]
  · rw [environment_addAll, overlay, environment_addAll]
    rfl
  · rw [execStartPre_addAll, overlay, execStartPre_addAll]
    rfl

theorem addAll_append (u : ServiceUnit) (ds es : List Directive) :
    u.addAll (ds ++ es) = (u.addAll ds).addAll es :=
  List.foldl_append

end ServiceUnit

-- ---------------------------------------------------------------------------
-- Files that say which section they begin in
-- ---------------------------------------------------------------------------

/-- No directive stands before the first header, or where there is none. -/
def HeaderFirst (lines : List Text) : Prop :=
  ∀ i line k v, lines[i]? = some line → IsDirective line k v → ∃ j < i, ∃ name, HeaderAt lines j name

/-- The first line is no directive where a header comes first. -/
theorem HeaderFirst.not_isDirective {line : Text} {lines : List Text}
    (h : HeaderFirst (line :: lines)) (k v : Text) : ¬ IsDirective line k v := by
  intro hdirective
  obtain ⟨j, hj, -⟩ := h 0 line k v rfl hdirective
  exact absurd hj (Nat.not_lt_zero j)

/-- Behind a line that is no header the first header is still to come. -/
theorem HeaderFirst.tail {line : Text} {lines : List Text} (h : HeaderFirst (line :: lines))
    (hline : ∀ name, ¬ IsHeader line name) : HeaderFirst lines := by
  intro i other k v hother hdirective
  obtain ⟨j, hj, name, hname⟩ := h (i + 1) other k v hother hdirective
  cases j with
  | zero => exact absurd (headerAt_zero.1 hname) (hline name)
  | succ j => exact ⟨j, Nat.lt_of_succ_lt_succ hj, name, hname⟩

theorem headerFirst_of_isHeader {line name : Text} (h : IsHeader line name) (lines : List Text) :
    HeaderFirst (line :: lines) := by
  intro i other k v hother hdirective
  cases i with
  | zero =>
    rw [List.getElem?_cons_zero, Option.some.injEq] at hother
    exact absurd (hother ▸ h) (hdirective.1 name)
  | succ i => exact ⟨0, Nat.succ_pos i, name, headerAt_zero.2 h⟩

namespace UnitFile

/-- The running section is forgotten at the first header, and nothing asks for it
before. -/
theorem findingsFrom_of_headerFirst {lines : List Text} (h : HeaderFirst lines)
    (start other : Text) (number : Nat) :
    findingsFrom start number (lines.map Line.ofTrimmed) =
      findingsFrom other number (lines.map Line.ofTrimmed) := by
  induction lines generalizing number with
  | nil => rfl
  | cons line rest ih =>
    rw [List.map_cons, findingsFrom_cons, findingsFrom_cons]
    rcases Line.ofTrimmed_cases line with
      ⟨rfl, hl⟩ | ⟨name, -, hl⟩ | ⟨k, v, hkv, -⟩ | ⟨hgarbage, hl⟩
    · rw [hl]
      exact ih (h.tail (by simp [IsHeader])) (number + 1)
    · rw [hl]
      rfl
    · exact absurd hkv (h.not_isDirective k v)
    · rw [hl]
      exact congrArg _ (ih (h.tail hgarbage.2.1) (number + 1))

/-- A content with a header first is read by itself behind whole lines. -/
theorem findings_append_of_headerFirst {a b : Text} (ha : WholeLines a)
    (hb : HeaderFirst (trimmedLines b)) :
    findings (a ++ b) = findings a ++ (findings b).map (Finding.later (lineCount a)) := by
  have halone := findingsFrom_of_headerFirst hb (sectionBehind [] (lines a)) [] 1
  rw [← lines_eq] at halone
  rw [findings_append ha, halone]
  rfl

/-- **A file behind a file.** Where a file of whole lines goes on with lines that
begin with a header, its unit is that of the second part laid over that of the
first one: values of the second part go before, there are no others than those of
the two, and the lists follow each other. The diagnostics follow each other as
well, with the numbers that the lines have now. -/
theorem reading_append {a b : Text} (ha : WholeLines a) (hb : HeaderFirst (trimmedLines b)) :
    unit (a ++ b) = (unit a).overlay (unit b) ∧
      (∀ s k, (unit (a ++ b)).get? s k = ((unit b).get? s k).or ((unit a).get? s k)) ∧
      (∀ s, (unit (a ++ b)).sections.get? s = none ↔
        (unit a).sections.get? s = none ∧ (unit b).sections.get? s = none) ∧
      diagnostics (a ++ b) =
        diagnostics a ++ (diagnostics b).map (Diagnostic.later (lineCount a)) := by
  have hfindings := findings_append_of_headerFirst ha hb
  have hdirectives : directives (a ++ b) = directives a ++ directives b := by
    rw [directives, hfindings, List.filterMap_append, Finding.filterMap_directive?_later]
    rfl
  have hunit : unit (a ++ b) = (unit a).overlay (unit b) := by
    have hinhabited := (readable_unit a).inhabited
    rw [unit, hdirectives, ServiceUnit.addAll_append]
    exact ServiceUnit.addAll_eq_overlay hinhabited (directives b)
  refine ⟨hunit, fun s k => ?_, fun s => ?_, ?_⟩
  · rw [hunit, ServiceUnit.get?_overlay]
  · rw [hunit, ServiceUnit.get?_sections_overlay]
  · rw [diagnostics, hfindings, List.filterMap_append, Finding.filterMap_skipped?_later]
    rfl

/-- A second part that opens a section again and goes on in another one. -/
theorem reading_append_reopened :
    let a : Text := "[Service]\nUser=root\nType=simple\nEnvironment=A=1\n?\n"
    let b : Text := "[Service]\r\nUser=alice\nEnvironment=B=2\n[Unit]\n!\nAfter=net"
    (WholeLines a ∧ HeaderFirst (trimmedLines b)) ∧
      unit (a ++ b) = (unit a).overlay (unit b) ∧
      (unit (a ++ b)).get? "Service" "User" = some "alice".toList ∧
      diagnostics (a ++ b) = [⟨5, "?"⟩, ⟨10, "!"⟩] := by
  intro a b
  have ha : WholeLines a := by decide
  have hlines : trimmedLines b = "[Service]".toList :: (trimmedLines b).tail := by rfl
  have hheader : IsHeader "[Service]" serviceSection := rfl
  have hb : HeaderFirst (trimmedLines b) := by
    rw [hlines]
    exact headerFirst_of_isHeader hheader _
  obtain ⟨hunit, hget, -, hdiagnostics⟩ := reading_append ha hb
  refine ⟨⟨ha, hb⟩, hunit, ?_, ?_⟩
  · rw [hget]
    rfl
  · rw [hdiagnostics]
    rfl

end UnitFile

end ServiceScript
