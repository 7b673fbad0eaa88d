import ServiceScript.Proofs.Unit.Reading

/-!
# ServiceScript — no value of a unit file goes over a line end

A unit file is cut at its line ends before anything else is done with it, so no
value that comes out of it has a line end in it. A script counts on that: an
assignment, a directory and a command stand in it as they are, each on a line
of its own.

Main results:

* `ServiceUnit.OneLine.addAll` — directives of one line leave a unit of lines;
* `UnitFile.oneLine_unit` — so the unit of every file is one.
-/

namespace ServiceScript

/-- A unit in which every value stands on one line. -/
structure ServiceUnit.OneLine (u : ServiceUnit) : Prop where
  value : ∀ s k v, u.get? s k = some v → '\n' ∉ v
  environment : ∀ v ∈ u.environment, '\n' ∉ v
  execStartPre : ∀ v ∈ u.execStartPre, '\n' ∉ v

namespace ServiceUnit

/-- No character comes in where the quotes around a value are taken away. -/
theorem notMem_unquoted {c : Char} {value : Text} (h : c ∉ value) : c ∉ unquoted value := by
  unfold unquoted
  split
  · -- what is between the quotes is a part of the value
    exact fun hc => h (List.mem_of_mem_tail ((List.dropLast_sublist _).mem hc))
  · exact h

theorem oneLine_empty : OneLine ∅ where
  value s k v h := by simp at h
  environment v h := absurd h List.not_mem_nil
  execStartPre v h := absurd h List.not_mem_nil

/-- A directive without line end keeps a unit to one line for each value. -/
theorem OneLine.add {u : ServiceUnit} {d : Directive} (hu : u.OneLine) (hd : '\n' ∉ d.value) :
    (u.add d).OneLine where
  value s k v h := by
    rw [get?_add] at h
    split at h
    · exact Option.some.inj h ▸ hd
    · exact hu.value s k v h
  environment v h := by
    rw [environment_add, List.mem_append] at h
    rcases h with h | h
    · exact hu.environment v h
    · obtain ⟨w, hw, rfl⟩ := Option.map_eq_some_iff.1 (Option.mem_toList.1 h)
      rw [(Directive.accumulated?_environment_iff w d).1 hw] at hd
      exact notMem_unquoted hd
  execStartPre v h := by
    rw [execStartPre_add, List.mem_append] at h
    rcases h with h | h
    · exact hu.execStartPre v h
    · have hv := (Directive.accumulated?_execStartPre_iff v d).1 (Option.mem_toList.1 h)
      rw [hv] at hd
      exact hd

/-- Directives without line ends keep a unit to one line for each value. -/
theorem OneLine.addAll {u : ServiceUnit} {ds : List Directive} (hu : u.OneLine)
    (hds : ∀ d ∈ ds, '\n' ∉ d.value) : (u.addAll ds).OneLine := by
  induction ds generalizing u with
  | nil => exact hu
  | cons d rest ih =>
    rw [addAll_cons]
    exact ih (hu.add (hds d List.mem_cons_self)) fun e he => hds e (List.mem_cons_of_mem _ he)

end ServiceUnit

-- ---------------------------------------------------------------------------
-- The values of a file
-- ---------------------------------------------------------------------------

theorem Text.mem_of_mem_trim {c : Char} {t : Text} (h : c ∈ t.trim) : c ∈ t := by
  unfold trim trimEnd trimStart at h
  rw [List.mem_reverse] at h
  have h := (List.dropWhile_sublist _).mem h
  rw [List.mem_reverse] at h
  exact (List.dropWhile_sublist _).mem h

/-- A line has no line end in it. -/
theorem notMem_of_mem_trimmedLines {content line : Text} (h : line ∈ trimmedLines content) :
    '\n' ∉ line := by
  unfold trimmedLines at h
  obtain ⟨piece, hpiece, rfl⟩ := List.mem_map.1 h
  -- trimming adds nothing to a piece, and no piece has a line end
  exact fun hc => notMem_of_mem_splitOn hpiece (Text.mem_of_mem_trim hc)

namespace UnitFile

/-- The value of a directive that is read has no line end in it. -/
theorem notMem_value_of_mem_directives {content : Text} {d : Directive}
    (h : d ∈ directives content) : '\n' ∉ d.value := by
  obtain ⟨i, line, hline, ⟨-, heq, -⟩, -⟩ := (listsInOrder_directives content).exists_at h
  have hno := notMem_of_mem_trimmedLines (List.mem_of_getElem? hline)
  rw [heq] at hno
  exact fun hc => hno (List.mem_append_right _ (List.mem_cons_of_mem _ hc))

/-- No value in a unit that is read has a line end in it. -/
theorem oneLine_unit (content : Text) : (unit content).OneLine :=
  ServiceUnit.oneLine_empty.addAll fun _ hd => notMem_value_of_mem_directives hd

end UnitFile

end ServiceScript
