import ServiceScript.Path
import ServiceScript.Proofs.Text.Lines

/-!
# ServiceScript — where a path leads

The components of a path are what it says, and a slash puts the components of two
paths one behind the other. So the name that a path ends in does not depend on
what is in front of it, nor on slashes and dots behind it. Followed one by one, the
components give the place that a path leads to by its text alone.

Main definition:

* `Path.resolved` — the place, by the text alone.

Main results:

* `Path.components_append_slash` — the components of two paths with a slash between;
* `Path.fileName?_append_flatten` — slashes and dots at the end do not matter;
* `Path.resolved_append_name` — a name leads to the place of that name;
* `Path.mem_resolved` — nothing but names is left of a path.
-/

namespace ServiceScript.Path

-- ---------------------------------------------------------------------------
-- Components
-- ---------------------------------------------------------------------------

/-- A component has no slash, is not empty and is not a single dot. -/
theorem mem_components {path : Path} {c : Bytes} (h : c ∈ components path) :
    slash ∉ c ∧ c ≠ [] ∧ c ≠ here := by
  obtain ⟨hpiece, hc⟩ := List.mem_filter.1 h
  exact ⟨notMem_of_mem_splitOn hpiece, of_decide_eq_true hc⟩

/-- At a slash the components in front of it end, whatever stands behind it. -/
theorem components_append_slash (front rest : Path) :
    components (front ++ slash :: rest) = components front ++ components rest := by
  unfold components pieces splitAll
  rw [List.splitOn_append_cons_self, List.filter_append]

/-- A name by itself is its only component. -/
theorem components_singleton {c : Bytes} (hslash : slash ∉ c) (hne : c ≠ []) (hhere : c ≠ here) :
    components c = [c] := by
  unfold components pieces splitAll
  rw [List.splitOn_eq_singleton hslash]
  exact List.filter_cons_of_pos (decide_eq_true ⟨hne, hhere⟩)

/-- A component behind a directory. -/
theorem components_append {directory c : Bytes}
    (hdirectory : directory = [] ∨ directory.getLast? = some slash) (hslash : slash ∉ c)
    (hne : c ≠ []) (hhere : c ≠ here) :
    components (directory ++ c) = components directory ++ [c] := by
  rcases hdirectory with rfl | hlast
  · exact components_singleton hslash hne hhere
  · obtain ⟨front, rfl⟩ := List.getLast?_eq_some_iff.1 hlast
    rw [List.append_assoc, List.singleton_append, components_append_slash,
      components_append_slash, components_singleton hslash hne hhere]
    exact congrArg (· ++ [c]) (List.append_nil _).symm

/-- Slashes and dots at the end say nothing. -/
theorem components_append_flatten (path : Path) {parts : List Bytes}
    (h : ∀ part ∈ parts, part = [slash] ∨ part = slash :: here) :
    components (path ++ parts.flatten) = components path := by
  induction parts generalizing path with
  | nil => rw [List.flatten_nil, List.append_nil]
  | cons part more ih =>
    have hpart : components (path ++ part) = components path := by
      rcases h part List.mem_cons_self with rfl | rfl
      · rw [components_append_slash]
        exact List.append_nil _
      · rw [components_append_slash]
        exact List.append_nil _
    rw [List.flatten_cons, ← List.append_assoc,
      ih (path ++ part) fun p hp => h p (List.mem_cons_of_mem _ hp), hpart]

-- ---------------------------------------------------------------------------
-- The last component
-- ---------------------------------------------------------------------------

/-- The name that a path ends with is its last component, unless that leads upwards. -/
theorem fileName?_eq_some_iff {path : Path} {c : Bytes} :
    fileName? path = some c ↔ (components path).getLast? = some c ∧ c ≠ above := by
  unfold fileName?
  cases (components path).getLast? with
  | none => simp
  | some last =>
    by_cases h : last = above
    · simp [h, eq_comm]
    · simp only [if_neg h, Option.some.injEq]
      exact ⟨fun hc => ⟨hc, hc ▸ h⟩, fun hc => hc.1⟩

/-- A path ends with no name if it has no components or its last one leads upwards. -/
theorem fileName?_eq_none_iff {path : Path} :
    fileName? path = none ↔
      components path = [] ∨ (components path).getLast? = some above := by
  unfold fileName?
  cases hlast : (components path).getLast? with
  | none => simp [List.getLast?_eq_none_iff.1 hlast]
  | some last =>
    have hne : components path ≠ [] := fun h => by simp [h] at hlast
    by_cases h : last = above <;> simp [h, hne]

/-- Slashes and single dots behind a path do not change the name that it ends with. -/
theorem fileName?_append_flatten (path : Path) {parts : List Bytes}
    (h : ∀ part ∈ parts, part = [slash] ∨ part = slash :: here) :
    fileName? (path ++ parts.flatten) = fileName? path := by
  unfold fileName?
  rw [components_append_flatten path h]

-- ---------------------------------------------------------------------------
-- Places
-- ---------------------------------------------------------------------------

/-- Goes on from a place by a component, whatever is there. -/
def follow (place : List Bytes) (c : Bytes) : List Bytes :=
  if c = above then place.dropLast else place ++ [c]

/-- The place that a path leads to from the root by its text alone. -/
def resolved (path : Path) : List Bytes := (components path).foldl follow []

/-- What stands behind a slash is followed from where the front leads. -/
theorem resolved_append_slash (front rest : Path) :
    resolved (front ++ slash :: rest) = (components rest).foldl follow (resolved front) := by
  unfold resolved
  rw [components_append_slash, List.foldl_append]

/-- A name behind a path leads to the place of that name below where the path leads. -/
theorem resolved_append_name {front c : Bytes} (hslash : slash ∉ c) (hne : c ≠ [])
    (hhere : c ≠ here) (habove : c ≠ above) :
    resolved (front ++ slash :: c) = resolved front ++ [c] := by
  rw [resolved_append_slash, components_singleton hslash hne hhere]
  exact if_neg habove

/-- Following components brings in no names but those among them. -/
theorem mem_foldl_follow {cs place : List Bytes} {c : Bytes} (h : c ∈ cs.foldl follow place) :
    c ∈ place ∨ c ∈ cs ∧ c ≠ above := by
  induction cs generalizing place with
  | nil => exact .inl h
  | cons d rest ih =>
    rcases ih h with hplace | ⟨hrest, habove⟩
    · unfold follow at hplace
      split at hplace
      · exact .inl (List.dropLast_subset _ hplace)
      · next hd =>
        rcases List.mem_append.1 hplace with hold | hnew
        · exact .inl hold
        · rw [List.mem_singleton.1 hnew]
          exact .inr ⟨List.mem_cons_self, hd⟩
    · exact .inr ⟨List.mem_cons_of_mem _ hrest, habove⟩

/-- Only names are left on the way to a place. -/
theorem mem_resolved {path : Path} {c : Bytes} (h : c ∈ resolved path) :
    slash ∉ c ∧ c ≠ [] ∧ c ≠ here ∧ c ≠ above := by
  rcases mem_foldl_follow h with hnil | ⟨hc, habove⟩
  · cases hnil
  · obtain ⟨hslash, hne, hhere⟩ := mem_components hc
    exact ⟨hslash, hne, hhere, habove⟩

end ServiceScript.Path
