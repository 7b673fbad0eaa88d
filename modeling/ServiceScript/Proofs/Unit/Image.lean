import ServiceScript.Proofs.Dict
import ServiceScript.Proofs.Unit.Printing

/-!
# ServiceScript — which units there are unit files for

A unit is a dictionary of dictionaries and two lists, but not every such thing
comes out of a unit file. The units that do are described here by what they hold
and by nothing about reading: these are the **readable** units, and whoever
makes something of a unit may rely on what they promise. Nothing more can be
relied on, because each of them has a unit file, and one without a skipped line.

Main results:

* `ServiceUnit.Readable.addAll` — writable directives leave a readable unit;
* `ServiceUnit.addAll_listing` — a readable unit is what its directives leave;
* `UnitFile.exists_unit_eq_iff` — the units of unit files are the readable ones.
-/

namespace ServiceScript

/-- A section is there because something stands in it. -/
def ServiceUnit.SectionsInhabited (u : ServiceUnit) : Prop :=
  ∀ s keys, u.sections.get? s = some keys → keys ≠ ∅

/-- What the unit of a unit file is like. -/
structure ServiceUnit.Readable (u : ServiceUnit) : Prop extends u.OneLine where
  sectionName : ∀ s keys, u.sections.get? s = some keys → '\n' ∉ s
  inhabited : u.SectionsInhabited
  key : ∀ s k v, u.get? s k = some v → '\n' ∉ k ∧ '=' ∉ k ∧ k.StartsTrimmed
  valueEnd : ∀ s k v, u.get? s k = some v → v.EndsTrimmed
  execStartPreEnd : ∀ v ∈ u.execStartPre, v.EndsTrimmed
  -- together such a key and value would be a header
  noHeader : ∀ s k v, u.get? s k = some v →
    ¬ (k.head? = some '[' ∧ v.getLast? = some ']')
  noEnvironment : u.get? serviceSection environmentKey = none
  noExecStartPre : u.get? serviceSection execStartPreKey = none

/-- The accumulating directives can be written with every value of one line that
does not end with a blank. -/
theorem Accumulates.writable {s k v : Text} (h : Accumulates s k) (hline : '\n' ∉ v)
    (hend : v.EndsTrimmed) : Directive.Writable ⟨s, k, v⟩ := by
  obtain ⟨rfl, hk⟩ := h
  have hsection : '\n' ∉ serviceSection := by decide
  have hkey : '\n' ∉ k ∧ '=' ∉ k ∧ k.StartsTrimmed ∧ k.head? ≠ some '[' := by
    rcases hk with rfl | rfl
    · decide
    · decide
  obtain ⟨hkeyLine, hseparator, hstart, hbracket⟩ := hkey
  exact ⟨hsection, hkeyLine, hline, hseparator, hstart, hend, fun hb => hbracket hb.1⟩

namespace ServiceUnit

-- ---------------------------------------------------------------------------
-- What one directive can add
-- ---------------------------------------------------------------------------

/-- A value is the one that a directive sets, or was there before it. -/
theorem get?_add_eq_some {u : ServiceUnit} {d : Directive} {s k v : Text}
    (h : (u.add d).get? s k = some v) :
    (¬ Accumulates s k ∧ d = ⟨s, k, v⟩) ∨ u.get? s k = some v := by
  rw [get?_add_eq_or, Option.or_eq_some_iff] at h
  rcases h with hnew | ⟨-, hold⟩
  · exact .inl ((Directive.single?_eq_some_iff s k v d).1 hnew)
  · exact .inr hold

/-- A section is the one that a directive adds to, and not empty, or was there before
it. -/
theorem get?_sections_add {u : ServiceUnit} {d : Directive} {s : Text} {keys : Dict Text}
    (h : (u.add d).sections.get? s = some keys) :
    (s = d.sectionName ∧ keys ≠ ∅) ∨ u.sections.get? s = some keys := by
  unfold add at h
  split at h
  · exact .inr h
  · exact .inr h
  · -- the section of the directive has at least its key
    unfold set at h
    simp only [Dict.get?_insert] at h
    split at h
    · next hs =>
      have hkeys := Option.some.inj h
      exact .inl ⟨hs, hkeys ▸ Dict.insert_ne_empty _ _ _⟩
    · exact .inr h

theorem mem_execStartPre_add {u : ServiceUnit} {d : Directive} {v : Text}
    (h : v ∈ (u.add d).execStartPre) :
    d = ⟨serviceSection, execStartPreKey, v⟩ ∨ v ∈ u.execStartPre := by
  rw [execStartPre_add, List.mem_append] at h
  rcases h with hold | hnew
  · exact .inr hold
  · exact .inl ((Directive.accumulated?_execStartPre_iff v d).1 (Option.mem_toList.1 hnew))

/-- No directive sets a key where values accumulate. -/
theorem get?_add_eq_none {u : ServiceUnit} {d : Directive} {s k : Text} (hacc : Accumulates s k)
    (h : u.get? s k = none) : (u.add d).get? s k = none := by
  rw [Option.eq_none_iff_forall_ne_some]
  intro v hv
  rcases get?_add_eq_some hv with ⟨hno, -⟩ | hold
  · exact hno hacc
  · rw [h] at hold
    exact absurd hold (by simp)

-- ---------------------------------------------------------------------------
-- Readable units stay readable
-- ---------------------------------------------------------------------------

theorem get?_sections_empty (s : Text) : (∅ : ServiceUnit).sections.get? s = none := rfl

theorem readable_empty : Readable ∅ where
  toOneLine := oneLine_empty
  sectionName s keys h := by simp [get?_sections_empty] at h
  inhabited s keys h := by simp [get?_sections_empty] at h
  key s k v h := by simp at h
  valueEnd s k v h := by simp at h
  execStartPreEnd v h := absurd h List.not_mem_nil
  noHeader s k v h := by simp at h
  noEnvironment := rfl
  noExecStartPre := rfl

/-- One writable directive more: what is new comes from it, and the rest was
there before. -/
theorem Readable.add {u : ServiceUnit} {d : Directive} (hu : u.Readable) (hd : d.Writable) :
    (u.add d).Readable where
  toOneLine := hu.toOneLine.add hd.value
  sectionName s keys h := by
    rcases get?_sections_add h with ⟨rfl, -⟩ | hold
    · exact hd.sectionName
    · exact hu.sectionName s keys hold
  inhabited s keys h := by
    rcases get?_sections_add h with ⟨-, hne⟩ | hold
    · exact hne
    · exact hu.inhabited s keys hold
  key s k v h := by
    rcases get?_add_eq_some h with ⟨-, rfl⟩ | hold
    · exact ⟨hd.key, hd.separator, hd.keyStart⟩
    · exact hu.key s k v hold
  valueEnd s k v h := by
    rcases get?_add_eq_some h with ⟨-, rfl⟩ | hold
    · exact hd.valueEnd
    · exact hu.valueEnd s k v hold
  execStartPreEnd v h := by
    rcases mem_execStartPre_add h with rfl | hold
    · exact hd.valueEnd
    · exact hu.execStartPreEnd v hold
  noHeader s k v h := by
    rcases get?_add_eq_some h with ⟨-, rfl⟩ | hold
    · exact hd.noHeader
    · exact hu.noHeader s k v hold
  noEnvironment := get?_add_eq_none ⟨rfl, .inl rfl⟩ hu.noEnvironment
  noExecStartPre := get?_add_eq_none ⟨rfl, .inr rfl⟩ hu.noExecStartPre

/-- Directives that can be written keep a unit readable. -/
theorem Readable.addAll {u : ServiceUnit} {ds : List Directive} (hu : u.Readable)
    (hds : ∀ d ∈ ds, d.Writable) : (u.addAll ds).Readable := by
  induction ds generalizing u with
  | nil => exact hu
  | cons d rest ih =>
    have hadd := hu.add (hds d List.mem_cons_self)
    rw [addAll_cons]
    exact ih hadd fun e he => hds e (List.mem_cons_of_mem _ he)

-- ---------------------------------------------------------------------------
-- The directives of a unit
-- ---------------------------------------------------------------------------

/-- In a readable unit no key is set where values accumulate. -/
theorem Readable.not_accumulates {u : ServiceUnit} (hu : u.Readable) {s k v : Text}
    (h : u.get? s k = some v) : ¬ Accumulates s k := by
  rintro ⟨rfl, rfl | rfl⟩
  · rw [hu.noEnvironment] at h
    exact absurd h (by simp)
  · rw [hu.noExecStartPre] at h
    exact absurd h (by simp)

/-- The single values of a unit, as directives. -/
def singles (u : ServiceUnit) : List Directive :=
  u.sections.entries.flatMap fun (s, keys) => keys.entries.map fun (k, v) => ⟨s, k, v⟩

/-- An `Environment` directive. The quotes are taken off again in reading, so
that the assignment keeps its own quotes and blanks. -/
def environmentDirective (assignment : Text) : Directive :=
  ⟨serviceSection, environmentKey, '"' :: (assignment ++ ['"'])⟩

def execStartPreDirective (raw : Text) : Directive := ⟨serviceSection, execStartPreKey, raw⟩

/-- Directives that leave the unit. -/
def listing (u : ServiceUnit) : List Directive :=
  u.singles ++ (u.environment.map environmentDirective ++
    u.execStartPre.map execStartPreDirective)

/-- The single directives of a unit are those of the keys that are set in it. -/
theorem mem_singles_iff (u : ServiceUnit) (d : Directive) :
    d ∈ u.singles ↔ u.get? d.sectionName d.key = some d.value := by
  obtain ⟨s, k, v⟩ := d
  unfold singles get?
  simp only [List.mem_flatMap, List.mem_map, Directive.mk.injEq, Prod.exists,
    Option.bind_eq_some_iff]
  constructor
  · rintro ⟨s', keys, hs, k', v', hk, rfl, rfl, rfl⟩
    exact ⟨keys, (Dict.mem_entries_iff _ _ _).1 hs, (Dict.mem_entries_iff _ _ _).1 hk⟩
  · rintro ⟨keys, hs, hk⟩
    exact ⟨s, keys, (Dict.mem_entries_iff _ _ _).2 hs, k, v, (Dict.mem_entries_iff _ _ _).2 hk,
      rfl, rfl, rfl⟩

/-- Every directive in the listing of a readable unit can be written. -/
theorem Readable.writable_of_mem_listing {u : ServiceUnit} (hu : u.Readable) {d : Directive}
    (h : d ∈ u.listing) : d.Writable := by
  unfold listing at h
  rw [List.mem_append, List.mem_append, List.mem_map, List.mem_map] at h
  rcases h with hsingle | ⟨assignment, hmem, rfl⟩ | ⟨raw, hmem, rfl⟩
  · rw [mem_singles_iff] at hsingle
    obtain ⟨keys, hs, -⟩ := Option.bind_eq_some_iff.1 hsingle
    obtain ⟨hkey, hseparator, hkeyStart⟩ := hu.key _ _ _ hsingle
    exact ⟨hu.sectionName _ keys hs, hkey, hu.value _ _ _ hsingle, hseparator, hkeyStart,
      hu.valueEnd _ _ _ hsingle, hu.noHeader _ _ _ hsingle⟩
  · have hline := hu.environment assignment hmem
    have hvalue : '\n' ∉ '"' :: (assignment ++ ['"']) := by simp [hline]
    -- whatever the assignment ends with, its line ends with a quote
    have hend := Text.endsTrimmed_concat (c := '"') ('"' :: assignment) (by decide)
    exact Accumulates.writable ⟨rfl, .inl rfl⟩ hvalue hend
  · have hline := hu.toOneLine.execStartPre raw hmem
    exact Accumulates.writable ⟨rfl, .inr rfl⟩ hline (hu.execStartPreEnd raw hmem)

-- ---------------------------------------------------------------------------
-- Reading the directives of a unit
-- ---------------------------------------------------------------------------

/-- A list that has nothing but what may be there has it at its end. -/
theorem getLast?_eq_of_mem_iff {α : Type} {xs : List α} {found : Option α}
    (h : ∀ x, x ∈ xs ↔ found = some x) : xs.getLast? = found := by
  cases found with
  | none =>
    rw [List.getLast?_eq_none_iff, List.eq_nil_iff_forall_not_mem]
    intro x hx
    exact absurd ((h x).1 hx) (by simp)
  | some x =>
    cases hlast : xs.getLast? with
    | none =>
      rw [List.getLast?_eq_none_iff] at hlast
      have hx := (h x).2 rfl
      rw [hlast] at hx
      exact absurd hx List.not_mem_nil
    | some y => exact ((h y).1 (List.mem_of_getLast? hlast)).symm

/-- Where no section is empty, a section is missing exactly if all its keys are. -/
theorem SectionsInhabited.get?_eq_none_iff {u : ServiceUnit} (hu : u.SectionsInhabited)
    (s : Text) : u.sections.get? s = none ↔ ∀ k, u.get? s k = none := by
  constructor
  · intro hnone k
    rw [get?, hnone, Option.bind_none]
  · intro hkeys
    rw [Option.eq_none_iff_forall_ne_some]
    intro keys hs
    -- a section has a key, which would be found
    obtain ⟨k, value, hk⟩ := Dict.exists_get?_of_ne_empty (hu s keys hs)
    have h := hkeys k
    rw [get?, hs, Option.bind_some, hk] at h
    exact absurd h (by simp)

/-- Two units without empty sections are equal if they hold the same. -/
theorem SectionsInhabited.ext {u v : ServiceUnit} (hu : u.SectionsInhabited)
    (hv : v.SectionsInhabited) (hget : ∀ s k, u.get? s k = v.get? s k)
    (henvironment : u.environment = v.environment)
    (hexecStartPre : u.execStartPre = v.execStartPre) : u = v := by
  refine ext_get? (fun s => ?_) hget henvironment hexecStartPre
  rw [hu.get?_eq_none_iff, hv.get?_eq_none_iff]
  simp only [hget]

/-- A readable unit has at a key what its listing sets last there. -/
theorem Readable.single?_listing {u : ServiceUnit} (hu : u.Readable) (s k : Text) :
    (u.listing.filterMap (Directive.single? s k)).getLast? = u.get? s k := by
  apply getLast?_eq_of_mem_iff
  intro v
  simp only [List.mem_filterMap, Directive.single?_eq_some_iff]
  constructor
  · rintro ⟨d, hd, hacc, rfl⟩
    unfold listing at hd
    rw [List.mem_append, List.mem_append, List.mem_map, List.mem_map] at hd
    rcases hd with hsingle | ⟨assignment, -, heq⟩ | ⟨raw, -, heq⟩
    · exact (mem_singles_iff u _).1 hsingle
    · -- the other directives accumulate
      cases heq
      exact absurd ⟨rfl, .inl rfl⟩ hacc
    · cases heq
      exact absurd ⟨rfl, .inr rfl⟩ hacc
  · intro h
    have hmem : (⟨s, k, v⟩ : Directive) ∈ u.listing :=
      List.mem_append_left _ ((mem_singles_iff u _).2 h)
    exact ⟨_, hmem, hu.not_accumulates h, rfl⟩

theorem Readable.accumulated?_singles {u : ServiceUnit} (hu : u.Readable) (a : Accumulating) :
    u.singles.filterMap (Directive.accumulated? a) = [] := by
  rw [List.filterMap_eq_nil_iff]
  intro d hd
  have hacc := hu.not_accumulates ((mem_singles_iff u d).1 hd)
  rw [← Accumulating.ofKey?_eq_none_iff] at hacc
  simp [Directive.accumulated?, hacc]

/-- The listing of a readable unit has its environment in quotes, in order. -/
theorem Readable.environment_listing {u : ServiceUnit} (hu : u.Readable) :
    u.listing.filterMap (Directive.accumulated? .environment) =
      u.environment.map fun assignment => '"' :: (assignment ++ ['"']) := by
  have henvironment : u.environment.filterMap
      (Directive.accumulated? .environment ∘ environmentDirective) =
        u.environment.map fun assignment => '"' :: (assignment ++ ['"']) := by
    rw [← List.filterMap_eq_map]
    rfl
  have hexecStartPre : u.execStartPre.filterMap
      (Directive.accumulated? .environment ∘ execStartPreDirective) = [] :=
    List.filterMap_eq_nil_iff.2 fun _ _ => rfl
  rw [listing, List.filterMap_append, List.filterMap_append, hu.accumulated?_singles,
    List.filterMap_map, List.filterMap_map, henvironment, hexecStartPre, List.nil_append,
    List.append_nil]

theorem Readable.execStartPre_listing {u : ServiceUnit} (hu : u.Readable) :
    u.listing.filterMap (Directive.accumulated? .execStartPre) = u.execStartPre := by
  have henvironment : u.environment.filterMap
      (Directive.accumulated? .execStartPre ∘ environmentDirective) = [] :=
    List.filterMap_eq_nil_iff.2 fun _ _ => rfl
  have hexecStartPre : u.execStartPre.filterMap
      (Directive.accumulated? .execStartPre ∘ execStartPreDirective) = u.execStartPre :=
    List.filterMap_some
  rw [listing, List.filterMap_append, List.filterMap_append, hu.accumulated?_singles,
    List.filterMap_map, List.filterMap_map, henvironment, hexecStartPre, List.nil_append,
    List.nil_append]

theorem unquoted_quoted (t : Text) : unquoted ('"' :: (t ++ ['"'])) = t :=
  (UnitFile.unquoted_eq_iff _ _).2 (.inl rfl)

/-- A readable unit is what its directives leave. -/
theorem addAll_listing {u : ServiceUnit} (hu : u.Readable) : addAll ∅ u.listing = u := by
  have hread : (addAll ∅ u.listing).Readable :=
    readable_empty.addAll fun d hd => hu.writable_of_mem_listing hd
  apply hread.inhabited.ext hu.inhabited
  · intro s k
    rw [get?_addAll, hu.single?_listing, get?_empty, Option.or_none]
  · -- the quotes that were put around an assignment are taken off again
    have hunquoted : (u.environment.map fun t => '"' :: (t ++ ['"'])).map unquoted =
        u.environment := by
      rw [List.map_map]
      exact (List.map_congr_left fun t _ => unquoted_quoted t).trans (List.map_id _)
    rw [environment_addAll, hu.environment_listing, hunquoted]
    rfl
  · rw [execStartPre_addAll, hu.execStartPre_listing]
    rfl

end ServiceUnit

-- ---------------------------------------------------------------------------
-- Units and unit files
-- ---------------------------------------------------------------------------

namespace UnitFile

/-- Every unit that is read is readable. -/
theorem readable_unit (content : Text) : (unit content).Readable :=
  ServiceUnit.readable_empty.addAll fun _ hd => writable_of_mem_directives hd

/-- **Which units there are unit files for.** A unit is the unit of some content
exactly if it is readable; and then there is also a content in which no line is
skipped. -/
theorem exists_unit_eq_iff (u : ServiceUnit) :
    ((∃ content, unit content = u) ↔ u.Readable) ∧
    ((∃ content, unit content = u ∧ diagnostics content = []) ↔ u.Readable) := by
  have hwritten : u.Readable → ∃ content, unit content = u ∧ diagnostics content = [] := by
    intro hu
    have hds : ∀ d ∈ u.listing, d.Writable := fun d hd => hu.writable_of_mem_listing hd
    refine ⟨ofDirectives u.listing, ?_, diagnostics_ofDirectives hds⟩
    rw [unit, directives_ofDirectives hds, ServiceUnit.addAll_listing hu]
  constructor
  · constructor
    · rintro ⟨content, rfl⟩
      exact readable_unit content
    · intro hu
      obtain ⟨content, hunit, -⟩ := hwritten hu
      exact ⟨content, hunit⟩
  · constructor
    · rintro ⟨content, rfl, -⟩
      exact readable_unit content
    · exact hwritten

end UnitFile

end ServiceScript
