import ServiceScript.Dict

/-!
# ServiceScript — the entries of a dictionary

A dictionary is a list of entries, and a look-up goes through it. Because the
keys ascend, what is found under a key is all that the list has for it, so that
facts on entries and facts on look-ups are the same facts.

Main results:

* `Dict.mem_entries_iff` — an entry is in the list if it is what is found;
* `Dict.get?_erase` — taking a key out changes the look-up of that key only;
* `Dict.get?_mergeWith` — what is found where two dictionaries are put together.
-/

namespace ServiceScript.Dict

variable {β : Type}

/-- Among sorted entries every entry is the one that is found for its key. -/
theorem lookup_eq_some_iff {entries : List (Text × β)}
    (h : entries.Pairwise fun a b => a.1 < b.1) (key : Text) (value : β) :
    lookup key entries = some value ↔ (key, value) ∈ entries := by
  induction entries with
  | nil => simp [lookup]
  | cons head rest ih =>
    obtain ⟨k, v⟩ := head
    obtain ⟨hk, hrest⟩ := List.pairwise_cons.1 h
    rw [lookup, List.mem_cons, Prod.mk.injEq]
    by_cases hkey : key = k
    · subst hkey
      -- the entries behind have greater keys
      have hlater : (key, value) ∉ rest := fun hm => List.lt_irrefl key (hk _ hm)
      simp [hlater, eq_comm]
    · simp [hkey, ih hrest]

/-- The entries are the keys with their values. -/
theorem mem_entries_iff (d : Dict β) (key : Text) (value : β) :
    (key, value) ∈ d.entries ↔ d.get? key = some value :=
  (lookup_eq_some_iff d.sorted key value).symm

/-- A dictionary with an entry is not empty. -/
theorem insert_ne_empty (d : Dict β) (key : Text) (value : β) : d.insert key value ≠ ∅ := by
  intro h
  have hfound : (d.insert key value).get? key = some value := by
    rw [get?_insert, if_pos rfl]
  rw [h, get?_empty] at hfound
  exact absurd hfound (by simp)

/-- A dictionary that is not empty has a value for some key. -/
theorem exists_get?_of_ne_empty {d : Dict β} (h : d ≠ ∅) : ∃ key value, d.get? key = some value := by
  obtain ⟨entries, hsorted⟩ := d
  cases entries with
  | nil => exact absurd rfl h
  | cons head rest => exact ⟨head.1, head.2, (mem_entries_iff _ _ _).1 List.mem_cons_self⟩

/-- The dictionary without a key. -/
def erase (d : Dict β) (key : Text) : Dict β :=
  ⟨d.entries.filter fun e => e.1 ≠ key, d.sorted.filter _⟩

/-- Erasing takes the value of its own key and of no other. -/
theorem get?_erase (d : Dict β) (key other : Text) :
    (d.erase key).get? other = if other = key then none else d.get? other := by
  apply Option.ext
  intro value
  rw [← mem_entries_iff, erase, List.mem_filter, mem_entries_iff]
  by_cases h : other = key
  · simp [h]
  · simp [h]

-- ---------------------------------------------------------------------------
-- Dictionaries put together
-- ---------------------------------------------------------------------------

/-- Two dictionaries as one. Where both have a value, `f` makes one of the two. -/
def mergeWith (f : β → β → β) (lower upper : Dict β) : Dict β :=
  upper.entries.foldl (fun d e => d.insert e.1 ((d.get? e.1).elim e.2 fun v => f v e.2)) lower

/-- Merging entry by entry, each key has the value of the lower dictionary merged with
that of its entry. -/
theorem get?_foldl_insert (f : β → β → β) {entries : List (Text × β)}
    (h : entries.Pairwise fun a b => a.1 < b.1) (lower : Dict β) (key : Text) :
    (entries.foldl (fun d e => d.insert e.1 ((d.get? e.1).elim e.2 fun v => f v e.2)) lower).get? key =
      Option.merge f (lower.get? key) (lookup key entries) := by
  induction entries generalizing lower with
  | nil => cases h : lower.get? key <;> simp [lookup, h]
  | cons head rest ih =>
    obtain ⟨k, v⟩ := head
    obtain ⟨hk, hrest⟩ := List.pairwise_cons.1 h
    rw [List.foldl_cons, ih hrest, get?_insert, lookup]
    by_cases hkey : key = k
    · -- the entries behind have greater keys
      rw [if_pos hkey, if_pos hkey, hkey, lookup_eq_none_of_lt hk]
      cases lower.get? k <;> rfl
    · rw [if_neg hkey, if_neg hkey]

/-- A key of two merged dictionaries has its values in both, merged. -/
theorem get?_mergeWith (f : β → β → β) (lower upper : Dict β) (key : Text) :
    (lower.mergeWith f upper).get? key = Option.merge f (lower.get? key) (upper.get? key) :=
  get?_foldl_insert f upper.sorted lower key

end ServiceScript.Dict
