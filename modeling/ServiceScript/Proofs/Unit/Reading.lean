import ServiceScript.Proofs.Text.Lines
import ServiceScript.Proofs.Unit.Directives
import ServiceScript.Proofs.Unit.Listing
import ServiceScript.Unit.File

/-!
# ServiceScript — what a unit file says

A unit file is read here without reading it: its trimmed lines stand at
positions, and what a position means is said by looking at the line and at the
lines before it. A directive belongs to the nearest header before it, and a
single value is that of the last directive for its section and key. The running
section, the growing unit and the growing lists of the reader do not occur.

Main definitions:

* `IsHeader`, `IsDirective`, `IsGarbage` — what a trimmed line is;
* `SectionFrom` — the section that a position lies in;
* `Reading` — what a unit and a list of diagnostics owe to a content.

Main result:

* `UnitFile.reading_unit` — the unit and the diagnostics of a file are what the file
  says, whatever its content is.
-/

namespace ServiceScript

-- ---------------------------------------------------------------------------
-- What a trimmed line is
-- ---------------------------------------------------------------------------

/-- A name between brackets. The brackets are two different characters. -/
def IsHeader (line name : Text) : Prop := line = '[' :: (name ++ [']'])

/-- No header, but a key and a value around the first equals sign. -/
def IsDirective (line key value : Text) : Prop :=
  (∀ name, ¬ IsHeader line name) ∧ line = key ++ '=' :: value ∧ '=' ∉ key

/-- None of what a line can be, and not empty either. -/
def IsGarbage (line : Text) : Prop :=
  line ≠ [] ∧ (∀ name, ¬ IsHeader line name) ∧ '=' ∉ line

/-- A line is the header of one section at most. -/
theorem IsHeader.unique {line name other : Text} (h : IsHeader line name)
    (ho : IsHeader line other) : name = other := by
  unfold IsHeader at h ho
  rw [h] at ho
  exact List.append_cancel_right (List.cons.inj ho).2

/-- A line has one key and one value at most. -/
theorem IsDirective.unique {line k v k' v' : Text} (h : IsDirective line k v)
    (ho : IsDirective line k' v') : k = k' ∧ v = v' := by
  obtain ⟨-, rfl, hk⟩ := h
  obtain ⟨-, heq, hk'⟩ := ho
  exact append_cons_inj hk hk' heq

/-- A name is read from a line exactly if it is a header with that name. -/
theorem headerName?_eq_some_iff (line name : Text) :
    headerName? line = some name ↔ IsHeader line name := by
  unfold IsHeader headerName?
  split
  · next rest =>
    rw [List.cons.injEq]
    constructor
    · intro h
      split at h
      · next hlast =>
        -- the last bracket is not the first one, so the name is between them
        obtain ⟨before, rfl⟩ := List.getLast?_eq_some_iff.1 hlast
        rw [List.dropLast_concat, Option.some.injEq] at h
        exact ⟨rfl, by rw [h]⟩
      · simp at h
    · rintro ⟨-, rfl⟩
      rw [if_pos List.getLast?_concat, List.dropLast_concat]
  · next hne =>
    simp only [reduceCtorEq, false_iff]
    rintro rfl
    exact hne _ rfl

theorem headerName?_eq_none_iff (line : Text) :
    headerName? line = none ↔ ∀ name, ¬ IsHeader line name := by
  rw [Option.eq_none_iff_forall_ne_some]
  exact forall_congr' fun name => not_congr (headerName?_eq_some_iff line name)

/-- A line is empty, a header, a directive or garbage, and is read as what it is. -/
theorem Line.ofTrimmed_cases (line : Text) :
    (line = [] ∧ Line.ofTrimmed line = .blank) ∨
    (∃ name, IsHeader line name ∧ Line.ofTrimmed line = .header name) ∨
    (∃ k v, IsDirective line k v ∧ Line.ofTrimmed line = .directive k v) ∨
    (IsGarbage line ∧ Line.ofTrimmed line = .garbage line) := by
  unfold Line.ofTrimmed
  by_cases hnil : line = []
  · exact .inl ⟨hnil, if_pos hnil⟩
  rw [if_neg hnil]
  -- a header comes before an equals sign, so `[a=b]` is one
  cases hname : headerName? line with
  | some name => exact .inr (.inl ⟨name, (headerName?_eq_some_iff line name).1 hname, rfl⟩)
  | none =>
    have hno := (headerName?_eq_none_iff line).1 hname
    cases hsplit : splitFirst '=' line with
    | some kv =>
      have hkv := splitFirst_eq_some_iff.1 hsplit
      exact .inr (.inr (.inl ⟨kv.1, kv.2, ⟨hno, hkv⟩, rfl⟩))
    | none =>
      exact .inr (.inr (.inr ⟨⟨hnil, hno, splitFirst_eq_none_iff.1 hsplit⟩, rfl⟩))

-- ---------------------------------------------------------------------------
-- What stands at a position
-- ---------------------------------------------------------------------------

def HeaderAt (lines : List Text) (i : Nat) (name : Text) : Prop :=
  ∃ line, lines[i]? = some line ∧ IsHeader line name

/-- The section that a position lies in: the name of the nearest header before
it, and `start` if there is none. -/
def SectionFrom (start : Text) (lines : List Text) (i : Nat) (name : Text) : Prop :=
  (∃ j < i, HeaderAt lines j name ∧ ∀ k, j < k → k < i → ∀ other, ¬ HeaderAt lines k other) ∨
  (name = start ∧ ∀ k < i, ∀ other, ¬ HeaderAt lines k other)

/-- A directive stands at a position, in its section. -/
def DirectiveFrom (start : Text) (lines : List Text) (i : Nat) (d : Directive) : Prop :=
  ∃ line, lines[i]? = some line ∧ IsDirective line d.key d.value ∧
    SectionFrom start lines i d.sectionName

def GarbageAt (lines : List Text) (i : Nat) (line : Text) : Prop :=
  lines[i]? = some line ∧ IsGarbage line

/-- The lines of a content, from line end to line end and without the blanks at
their ends. -/
def trimmedLines (content : Text) : List Text := (content.splitOn '\n').map Text.trim

/-- A value and what is left of it: without the double quotes around it if there
are two, and as it is otherwise. -/
def Unquotes (value bare : Text) : Prop :=
  value = '"' :: (bare ++ ['"']) ∨ (bare = value ∧ ∀ inner, value ≠ '"' :: (inner ++ ['"']))

/-- What a unit and a list of diagnostics owe to a content. -/
structure Reading (content : Text) (u : ServiceUnit) (diagnostics : List Diagnostic) : Prop where
  -- a single value is that of the last directive for its section and key
  value : ∀ s k v, u.get? s k = some v ↔ ¬ Accumulates s k ∧
    ∃ i, DirectiveFrom [] (trimmedLines content) i ⟨s, k, v⟩ ∧
      ∀ j w, i < j → ¬ DirectiveFrom [] (trimmedLines content) j ⟨s, k, w⟩
  -- there is no single value where there is no directive for one
  noValue : ∀ s k, u.get? s k = none ↔ Accumulates s k ∨
    ∀ i v, ¬ DirectiveFrom [] (trimmedLines content) i ⟨s, k, v⟩
  -- the assignments, without quotes around them
  environment : ListsInOrder
    (fun i bare => ∃ v, DirectiveFrom [] (trimmedLines content) i
      ⟨serviceSection, environmentKey, v⟩ ∧ Unquotes v bare)
    u.environment
  -- the commands that run before the service, as they are
  execStartPre : ListsInOrder
    (fun i v => DirectiveFrom [] (trimmedLines content) i ⟨serviceSection, execStartPreKey, v⟩)
    u.execStartPre
  -- the skipped lines with their numbers, from one
  diagnostics : ListsInOrder
    (fun i d => GarbageAt (trimmedLines content) i d.text ∧ d.line = i + 1)
    diagnostics

-- ---------------------------------------------------------------------------
-- One line further. Positions are counted from the front, so a line in front
-- moves all of them by one. What stands at the positions stays, but for the
-- section: a header in front is from now on what stands before the first header.
-- ---------------------------------------------------------------------------

theorem headerAt_zero {line : Text} {lines : List Text} {name : Text} :
    HeaderAt (line :: lines) 0 name ↔ IsHeader line name := by
  simp [HeaderAt]

theorem sectionFrom_zero {start : Text} {lines : List Text} {name : Text} :
    SectionFrom start lines 0 name ↔ name = start := by
  simp [SectionFrom]

/-- No header stands between two positions, counted from the next line. -/
private theorem noHeader_succ {line : Text} {lines : List Text} {j i : Nat} :
    (∀ k, j + 1 < k → k < i + 1 → ∀ other, ¬ HeaderAt (line :: lines) k other) ↔
      ∀ k, j < k → k < i → ∀ other, ¬ HeaderAt lines k other := by
  constructor
  · intro h k hjk hki
    exact h (k + 1) (by omega) (by omega)
  · intro h k hjk hki
    obtain ⟨k, rfl⟩ : ∃ m, k = m + 1 := ⟨k - 1, by omega⟩
    exact h k (by omega) (by omega)

private theorem sectionFrom_succ_of_header {start line : Text} {lines : List Text} {i : Nat}
    {name inner : Text} (hline : IsHeader line inner) :
    SectionFrom start (line :: lines) (i + 1) name ↔ SectionFrom inner lines i name := by
  constructor
  · -- behind the line, the nearest header is the line itself or it is further on
    rintro (⟨j, hj, hhead, hno⟩ | ⟨-, hno⟩)
    · cases j with
      | zero =>
        -- the line in front is the nearest header: there is none behind it
        refine .inr ⟨(headerAt_zero.1 hhead).unique hline, fun k hk => ?_⟩
        exact hno (k + 1) (Nat.succ_pos k) (Nat.succ_lt_succ hk)
      | succ j => exact .inl ⟨j, Nat.lt_of_succ_lt_succ hj, hhead, noHeader_succ.1 hno⟩
    · exact absurd (headerAt_zero.2 hline) (hno 0 (Nat.succ_pos i) inner)
  · rintro (⟨j, hj, hhead, hno⟩ | ⟨rfl, hno⟩)
    · exact .inl ⟨j + 1, Nat.succ_lt_succ hj, hhead, noHeader_succ.2 hno⟩
    · refine .inl ⟨0, Nat.succ_pos i, headerAt_zero.2 hline, fun k hk hki => ?_⟩
      obtain ⟨k, rfl⟩ : ∃ m, k = m + 1 := ⟨k - 1, by omega⟩
      exact hno k (by omega)

private theorem sectionFrom_succ_of_noHeader {start line : Text} {lines : List Text} {i : Nat}
    {name : Text} (hline : ∀ inner, ¬ IsHeader line inner) :
    SectionFrom start (line :: lines) (i + 1) name ↔ SectionFrom start lines i name := by
  constructor
  · rintro (⟨j, hj, hhead, hno⟩ | ⟨hname, hno⟩)
    · cases j with
      | zero => exact absurd (headerAt_zero.1 hhead) (hline name)
      | succ j => exact .inl ⟨j, Nat.lt_of_succ_lt_succ hj, hhead, noHeader_succ.1 hno⟩
    · exact .inr ⟨hname, fun k hk => hno (k + 1) (Nat.succ_lt_succ hk)⟩
  · rintro (⟨j, hj, hhead, hno⟩ | ⟨hname, hno⟩)
    · exact .inl ⟨j + 1, Nat.succ_lt_succ hj, hhead, noHeader_succ.2 hno⟩
    · refine .inr ⟨hname, fun k hk => ?_⟩
      cases k with
      | zero => exact fun other => mt headerAt_zero.1 (hline other)
      | succ k => exact hno k (Nat.lt_of_succ_lt_succ hk)

/-- The section that the lines behind a line start from. -/
def Line.sectionBehind (start : Text) : Line → Text
  | .header name => name
  | _ => start

/-- A later line is in the section that the first one leads to, or a header after it. -/
theorem sectionFrom_succ {start line : Text} {lines : List Text} {i : Nat} {name : Text} :
    SectionFrom start (line :: lines) (i + 1) name ↔
      SectionFrom ((Line.ofTrimmed line).sectionBehind start) lines i name := by
  rcases Line.ofTrimmed_cases line with
    ⟨rfl, hl⟩ | ⟨inner, hinner, hl⟩ | ⟨k, v, hkv, hl⟩ | ⟨hgarbage, hl⟩
  · rw [hl]
    exact sectionFrom_succ_of_noHeader (by simp [IsHeader])
  · rw [hl]
    exact sectionFrom_succ_of_header hinner
  · rw [hl]
    exact sectionFrom_succ_of_noHeader hkv.1
  · rw [hl]
    exact sectionFrom_succ_of_noHeader hgarbage.2.1

-- ---------------------------------------------------------------------------
-- The reader finds what stands there
-- ---------------------------------------------------------------------------

def FindingFrom (start : Text) (number : Nat) (lines : List Text) (i : Nat) : Finding → Prop
  | .directive d => DirectiveFrom start lines i d
  | .skipped d => GarbageAt lines i d.text ∧ d.line = number + i

theorem directiveFrom_zero {start line : Text} {lines : List Text} {d : Directive} :
    DirectiveFrom start (line :: lines) 0 d ↔
      IsDirective line d.key d.value ∧ d.sectionName = start := by
  simp [DirectiveFrom, sectionFrom_zero]

theorem garbageAt_zero {line text : Text} {lines : List Text} :
    GarbageAt (line :: lines) 0 text ↔ line = text ∧ IsGarbage text := by
  simp [GarbageAt]

def Line.finding? (start : Text) (number : Nat) : Line → Option Finding
  | .directive k v => some (.directive ⟨start, k, v⟩)
  | .garbage text => some (.skipped ⟨number, text⟩)
  | _ => none

theorem findingFrom_zero {start line : Text} {number : Nat} {lines : List Text} (f : Finding) :
    FindingFrom start number (line :: lines) 0 f ↔
      (Line.ofTrimmed line).finding? start number = some f := by
  -- a line is one thing only, so what it is excludes what is found under another heading
  rcases Line.ofTrimmed_cases line with
    ⟨rfl, hl⟩ | ⟨name, hname, hl⟩ | ⟨k, v, hkv, hl⟩ | ⟨hgarbage, hl⟩
  · -- a blank line has no equals sign, and is no garbage
    rw [hl]
    simp only [Line.finding?, reduceCtorEq, iff_false]
    cases f with
    | directive d =>
      rw [FindingFrom, directiveFrom_zero]
      rintro ⟨⟨-, heq, -⟩, -⟩
      simp at heq
    | skipped d =>
      rw [FindingFrom, garbageAt_zero]
      rintro ⟨⟨heq, hne, -⟩, -⟩
      exact hne heq.symm
  · -- nothing else is a header
    rw [hl]
    simp only [Line.finding?, reduceCtorEq, iff_false]
    cases f with
    | directive d =>
      rw [FindingFrom, directiveFrom_zero]
      rintro ⟨⟨hno, -⟩, -⟩
      exact hno name hname
    | skipped d =>
      rw [FindingFrom, garbageAt_zero]
      rintro ⟨⟨rfl, -, hno, -⟩, -⟩
      exact hno name hname
  · -- key and value are determined, and the section is the running one
    rw [hl, Line.finding?, Option.some.injEq]
    cases f with
    | directive d =>
      rw [FindingFrom, directiveFrom_zero, Finding.directive.injEq]
      constructor
      · rintro ⟨hd, hs⟩
        obtain ⟨hk, hv⟩ := hd.unique hkv
        rw [← hk, ← hv, ← hs]
      · rintro rfl
        exact ⟨hkv, rfl⟩
    | skipped d =>
      rw [FindingFrom, garbageAt_zero]
      simp only [reduceCtorEq, iff_false]
      rintro ⟨⟨rfl, -, -, hno⟩, -⟩
      exact hno (hkv.2.1 ▸ by simp)
  · -- garbage has no equals sign, and carries the number of its line
    rw [hl, Line.finding?, Option.some.injEq]
    cases f with
    | directive d =>
      rw [FindingFrom, directiveFrom_zero]
      simp only [reduceCtorEq, iff_false]
      rintro ⟨⟨-, rfl, -⟩, -⟩
      exact hgarbage.2.2 (by simp)
    | skipped d =>
      rw [FindingFrom, garbageAt_zero, Finding.skipped.injEq]
      constructor
      · rintro ⟨⟨rfl, -⟩, hn⟩
        rw [← show d.line = number from hn]
      · rintro rfl
        exact ⟨⟨rfl, hgarbage⟩, rfl⟩

/-- What is found in a later line is found from the section behind the first one. -/
theorem findingFrom_succ {start line : Text} {number : Nat} {lines : List Text} (i : Nat)
    (f : Finding) :
    FindingFrom ((Line.ofTrimmed line).sectionBehind start) (number + 1) lines i f ↔
      FindingFrom start number (line :: lines) (i + 1) f := by
  cases f with
  | directive d =>
    unfold FindingFrom DirectiveFrom
    simp only [List.getElem?_cons_succ, sectionFrom_succ]
  | skipped d =>
    unfold FindingFrom GarbageAt
    rw [List.getElem?_cons_succ, show number + (i + 1) = number + 1 + i by omega]

namespace UnitFile

/-- The findings of the first line come before those of the rest. -/
theorem findingsFrom_cons (start : Text) (number : Nat) (line : Line) (rest : List Line) :
    findingsFrom start number (line :: rest) =
      (line.finding? start number).toList ++
        findingsFrom (line.sectionBehind start) (number + 1) rest := by
  cases line <;> rfl

/-- From any section and number on, the reader finds what stands at the
positions. -/
theorem listsInOrder_findingsFrom (start : Text) (number : Nat) (lines : List Text) :
    ListsInOrder (FindingFrom start number lines)
      (findingsFrom start number (lines.map Line.ofTrimmed)) := by
  -- the reader hands on a section and a number, so both vary along the lines
  induction lines generalizing start number with
  | nil =>
    refine ListsInOrder.nil fun i f => ?_
    cases f <;> simp [FindingFrom, DirectiveFrom, GarbageAt]
  | cons line rest ih =>
    rw [List.map_cons, findingsFrom_cons]
    refine ListsInOrder.step findingFrom_zero ?_
    exact (ih _ (number + 1)).congr findingFrom_succ

-- ---------------------------------------------------------------------------
-- The two results of reading
-- ---------------------------------------------------------------------------

theorem lines_eq (content : Text) : lines content = (trimmedLines content).map Line.ofTrimmed := by
  unfold lines trimmedLines
  rw [List.map_map]
  rfl

/-- The directives that are read are those of the lines, in order. -/
theorem listsInOrder_directives (content : Text) :
    ListsInOrder (DirectiveFrom [] (trimmedLines content)) (directives content) := by
  have h := listsInOrder_findingsFrom [] 1 (trimmedLines content)
  unfold directives findings
  rw [lines_eq]
  refine (h.filterMap Finding.directive?).congr fun i d => ?_
  constructor
  · rintro ⟨f, hf, hd⟩
    cases f with
    | directive e => exact Option.some.inj hd ▸ hf
    | skipped e => simp [Finding.directive?] at hd
  · intro hd
    exact ⟨.directive d, hd, rfl⟩

/-- The diagnostics are those of the lines of garbage, in order, with their numbers. -/
theorem listsInOrder_diagnostics (content : Text) :
    ListsInOrder (fun i d => GarbageAt (trimmedLines content) i d.text ∧ d.line = i + 1)
      (diagnostics content) := by
  have h := listsInOrder_findingsFrom [] 1 (trimmedLines content)
  unfold diagnostics findings
  rw [lines_eq]
  refine (h.filterMap Finding.skipped?).congr fun i d => ?_
  rw [Nat.add_comm i 1]
  constructor
  · rintro ⟨f, hf, hd⟩
    cases f with
    | directive e => simp [Finding.skipped?] at hd
    | skipped e => exact Option.some.inj hd ▸ hf
  · intro hd
    exact ⟨.skipped d, hd, rfl⟩

/-- A value has quotes around it when they are two different characters. -/
theorem quoted_iff (value : Text) :
    (2 ≤ value.length ∧ value.head? = some '"' ∧ value.getLast? = some '"') ↔
      ∃ inner, value = '"' :: (inner ++ ['"']) := by
  constructor
  · rintro ⟨hlength, hhead, hlast⟩
    obtain ⟨before, rfl⟩ := List.getLast?_eq_some_iff.1 hlast
    cases before with
    | nil =>
      -- a lone quote is first and last at once
      simp at hlength
    | cons c inner =>
      have hc : c = '"' := by simpa using hhead
      exact ⟨inner, by rw [hc, List.cons_append]⟩
  · rintro ⟨inner, rfl⟩
    refine ⟨by simp, rfl, ?_⟩
    rw [← List.cons_append, List.getLast?_concat]

/-- Quotes are taken away where a value has them at both ends, and the rest is left as
it is. -/
theorem unquoted_eq_iff (value bare : Text) : unquoted value = bare ↔ Unquotes value bare := by
  unfold unquoted Unquotes
  by_cases h : ∃ inner, value = '"' :: (inner ++ ['"'])
  · rw [if_pos ((quoted_iff value).2 h)]
    obtain ⟨inner, rfl⟩ := h
    rw [List.tail_cons, List.dropLast_concat]
    simp
  · rw [if_neg (mt (quoted_iff value).1 h)]
    constructor
    · rintro rfl
      exact .inr ⟨rfl, fun inner hi => h ⟨inner, hi⟩⟩
    · rintro (hb | ⟨rfl, -⟩)
      · exact absurd ⟨bare, hb⟩ h
      · rfl

/-- A key of a unit that is read has the value that is set last. -/
theorem get?_unit (content s k : Text) :
    (unit content).get? s k =
      ((directives content).filterMap (Directive.single? s k)).getLast? := by
  unfold unit
  rw [ServiceUnit.get?_addAll, ServiceUnit.get?_empty, Option.or_none]

/-- The values that set a key are those of the lines for it, in order. -/
theorem listsInOrder_single (content s k : Text) :
    ListsInOrder
      (fun i v => ¬ Accumulates s k ∧ DirectiveFrom [] (trimmedLines content) i ⟨s, k, v⟩)
      ((directives content).filterMap (Directive.single? s k)) := by
  refine ((listsInOrder_directives content).filterMap _).congr fun i v => ?_
  simp only [Directive.single?_eq_some_iff]
  constructor
  · rintro ⟨d, hd, hacc, rfl⟩
    exact ⟨hacc, hd⟩
  · rintro ⟨hacc, hd⟩
    exact ⟨_, hd, hacc, rfl⟩

/-- **A file is read as it is written.** For every content, the unit and the
diagnostics that reading gives are those that the lines of the file say. -/
theorem reading_unit (content : Text) : Reading content (unit content) (diagnostics content) where
  value s k v := by
    -- last in the list is last in the file
    rw [get?_unit, (listsInOrder_single content s k).getLast?_eq_some_iff]
    constructor
    · rintro ⟨i, ⟨hacc, hi⟩, hlater⟩
      exact ⟨hacc, i, hi, fun j w hij hj => hlater j w hij ⟨hacc, hj⟩⟩
    · rintro ⟨hacc, i, hi, hlater⟩
      exact ⟨i, ⟨hacc, hi⟩, fun j w hij hj => hlater j w hij hj.2⟩
  noValue s k := by
    rw [get?_unit, (listsInOrder_single content s k).getLast?_eq_none_iff]
    by_cases hacc : Accumulates s k
    · simp [hacc]
    · simp [hacc]
  environment := by
    -- the list of the unit is a list made of its directives
    unfold unit
    rw [ServiceUnit.environment_addAll]
    refine (((listsInOrder_directives content).filterMap _).map unquoted).congr fun i bare => ?_
    simp only [Directive.accumulated?_environment_iff, unquoted_eq_iff]
    constructor
    · rintro ⟨v, ⟨d, hd, rfl⟩, hv⟩
      exact ⟨v, hd, hv⟩
    · rintro ⟨v, hd, hv⟩
      exact ⟨v, ⟨_, hd, rfl⟩, hv⟩
  execStartPre := by
    unfold unit
    rw [ServiceUnit.execStartPre_addAll]
    refine ((listsInOrder_directives content).filterMap _).congr fun i v => ?_
    simp only [Directive.accumulated?_execStartPre_iff]
    constructor
    · rintro ⟨d, hd, rfl⟩
      exact hd
    · intro hd
      exact ⟨_, hd, rfl⟩
  diagnostics := listsInOrder_diagnostics content

end UnitFile

end ServiceScript
