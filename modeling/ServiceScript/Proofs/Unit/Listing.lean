/-!
# ServiceScript — lists in the order of a file

A file is read line by line, and what is read ends up in lists: directives,
assignments, commands, diagnostics. `ListsInOrder` says of such a list, without
any reference to how it was made, that it has what stands at the lines of the
file: in the order of the lines, with nothing added and nothing left out.

Main results:

* `ListsInOrder.step` — reading one more line in front;
* `ListsInOrder.filterMap` — a list made of such a list is one;
* `ListsInOrder.getLast?_eq_some_iff` — its last entry is what no later line
  replaces.
-/

namespace ServiceScript

variable {α β : Type}

/-- `xs` is what stands at the positions, in ascending order of the positions,
where `At i a` says that `a` stands at position `i`. -/
def ListsInOrder (At : Nat → α → Prop) (xs : List α) : Prop :=
  ∃ entries : List (Nat × α),
    entries.map Prod.snd = xs ∧
    entries.Pairwise (fun e f => e.1 < f.1) ∧
    ∀ i a, (i, a) ∈ entries ↔ At i a

namespace ListsInOrder

theorem congr {At Bt : Nat → α → Prop} {xs : List α} (h : ListsInOrder At xs)
    (hAB : ∀ i a, At i a ↔ Bt i a) : ListsInOrder Bt xs := by
  obtain ⟨entries, hxs, hasc, hmem⟩ := h
  exact ⟨entries, hxs, hasc, fun i a => (hmem i a).trans (hAB i a)⟩

/-- Every element of a list stands at some place. -/
theorem exists_at {At : Nat → α → Prop} {xs : List α} (h : ListsInOrder At xs) {a : α}
    (ha : a ∈ xs) : ∃ i, At i a := by
  obtain ⟨entries, rfl, -, hmem⟩ := h
  obtain ⟨⟨i, b⟩, he, rfl⟩ := List.mem_map.1 ha
  exact ⟨i, (hmem i b).1 he⟩

theorem nil {At : Nat → α → Prop} (h : ∀ i a, ¬ At i a) : ListsInOrder At [] :=
  ⟨[], rfl, .nil, fun i a => by simp [h i a]⟩

-- ---------------------------------------------------------------------------
-- Reading one more line in front
-- ---------------------------------------------------------------------------

/-- The entries of a list whose positions are counted from the next line. -/
private def shift (entries : List (Nat × α)) : List (Nat × α) :=
  entries.map fun e => (e.1 + 1, e.2)

private theorem map_snd_shift (entries : List (Nat × α)) :
    (shift entries).map Prod.snd = entries.map Prod.snd := by
  rw [shift, List.map_map]
  rfl

private theorem pairwise_shift {entries : List (Nat × α)}
    (h : entries.Pairwise fun e f => e.1 < f.1) :
    (shift entries).Pairwise fun e f => e.1 < f.1 := by
  rw [shift, List.pairwise_map]
  exact h.imp fun he => Nat.add_lt_add_right he 1

private theorem mem_shift {entries : List (Nat × α)} {i : Nat} {a : α} :
    (i, a) ∈ shift entries ↔ ∃ j, i = j + 1 ∧ (j, a) ∈ entries := by
  simp only [shift, List.mem_map, Prod.mk.injEq, Prod.exists]
  constructor
  · rintro ⟨j, b, hb, rfl, rfl⟩
    exact ⟨j, rfl, hb⟩
  · rintro ⟨j, rfl, ha⟩
    exact ⟨j, a, ha, rfl, rfl⟩

/-- A place with nothing at it adds nothing to a list. -/
theorem skip {At : Nat → α → Prop} {xs : List α}
    (h : ListsInOrder (fun i => At (i + 1)) xs) (h₀ : ∀ a, ¬ At 0 a) : ListsInOrder At xs := by
  obtain ⟨entries, rfl, hasc, hmem⟩ := h
  refine ⟨shift entries, map_snd_shift entries, pairwise_shift hasc, fun i a => ?_⟩
  rw [mem_shift]
  cases i with
  | zero => simp [h₀ a]
  | succ i => simp [hmem i a]

/-- What is at the first place is the head of a list. -/
theorem cons {At : Nat → α → Prop} {a : α} {xs : List α}
    (h : ListsInOrder (fun i => At (i + 1)) xs) (h₀ : ∀ b, At 0 b ↔ b = a) :
    ListsInOrder At (a :: xs) := by
  obtain ⟨entries, rfl, hasc, hmem⟩ := h
  refine ⟨(0, a) :: shift entries, ?_, ?_, fun i b => ?_⟩
  · rw [List.map_cons, map_snd_shift]
  · -- position zero is in front of every shifted one
    refine List.pairwise_cons.2 ⟨fun e he => ?_, pairwise_shift hasc⟩
    obtain ⟨j, hj, -⟩ := mem_shift.1 (show (e.1, e.2) ∈ shift entries from he)
    rw [hj]
    exact Nat.succ_pos j
  · rw [List.mem_cons, mem_shift]
    cases i with
    | zero => simp [h₀ b]
    | succ i => simp [hmem i b]

/-- Reading one line: what stands there, if something does, and then the rest. -/
theorem step {At : Nat → α → Prop} {found : Option α} {xs : List α}
    (h₀ : ∀ a, At 0 a ↔ found = some a) (h : ListsInOrder (fun i => At (i + 1)) xs) :
    ListsInOrder At (found.toList ++ xs) := by
  cases found with
  | none => exact h.skip fun a => by simp [h₀ a]
  | some b => exact h.cons fun a => by simp [h₀ a, eq_comm]

-- ---------------------------------------------------------------------------
-- Lists made of such lists
-- ---------------------------------------------------------------------------

/-- What a function makes of the elements is listed in the same order. -/
theorem filterMap {At : Nat → α → Prop} {xs : List α} (h : ListsInOrder At xs)
    (f : α → Option β) :
    ListsInOrder (fun i b => ∃ a, At i a ∧ f a = some b) (xs.filterMap f) := by
  obtain ⟨entries, rfl, hasc, hmem⟩ := h
  -- the entries that remain keep their positions
  refine ⟨entries.filterMap fun e => (f e.2).map fun b => (e.1, b), ?_, ?_, fun i b => ?_⟩
  · rw [List.map_filterMap, List.filterMap_map]
    congr 1
    funext e
    rw [Function.comp_apply]
    cases f e.2 <;> rfl
  · rw [List.pairwise_filterMap]
    refine hasc.imp fun hlt b hb c hc => ?_
    obtain ⟨_, -, rfl⟩ := Option.map_eq_some_iff.1 hb
    obtain ⟨_, -, rfl⟩ := Option.map_eq_some_iff.1 hc
    exact hlt
  · simp only [List.mem_filterMap, Option.map_eq_some_iff, Prod.mk.injEq, Prod.exists]
    constructor
    · rintro ⟨j, a, ha, c, hc, rfl, rfl⟩
      exact ⟨a, (hmem j a).1 ha, hc⟩
    · rintro ⟨a, ha, hb⟩
      exact ⟨i, a, (hmem i a).2 ha, b, hb, rfl, rfl⟩

theorem map {At : Nat → α → Prop} {xs : List α} (h : ListsInOrder At xs) (f : α → β) :
    ListsInOrder (fun i b => ∃ a, At i a ∧ f a = b) (xs.map f) := by
  rw [← List.filterMap_eq_map]
  refine (h.filterMap (some ∘ f)).congr fun i b => ?_
  simp only [Function.comp_apply, Option.some.injEq]

-- ---------------------------------------------------------------------------
-- The last entry
-- ---------------------------------------------------------------------------

/-- The last entry stands at a position behind which nothing stands. -/
theorem getLast?_eq_some_iff {At : Nat → α → Prop} {xs : List α} (h : ListsInOrder At xs)
    (a : α) : xs.getLast? = some a ↔ ∃ i, At i a ∧ ∀ j b, i < j → ¬ At j b := by
  obtain ⟨entries, rfl, hasc, hmem⟩ := h
  rw [List.getLast?_map, Option.map_eq_some_iff]
  constructor
  · rintro ⟨⟨i, b⟩, hlast, rfl⟩
    obtain ⟨before, rfl⟩ := List.getLast?_eq_some_iff.1 hlast
    refine ⟨i, (hmem i b).1 (by simp), fun j c hij hj => ?_⟩
    -- an entry in front of the last one has a smaller position
    rcases List.mem_append.1 ((hmem j c).2 hj) with hbefore | hlast
    · have hji := (List.pairwise_append.1 hasc).2.2 (j, c) hbefore (i, b) (by simp)
      exact Nat.lt_asymm hij hji
    · simp only [List.mem_singleton, Prod.mk.injEq] at hlast
      omega
  · rintro ⟨i, hi, hlater⟩
    obtain ⟨before, after, rfl⟩ := List.append_of_mem ((hmem i a).2 hi)
    cases after with
    | nil => exact ⟨(i, a), by simp, rfl⟩
    | cons e after =>
      -- an entry behind would stand at a later position
      have htail := (List.pairwise_append.1 hasc).2.1
      have hie := (List.pairwise_cons.1 htail).1 e (by simp)
      exact absurd ((hmem e.1 e.2).1 (by simp)) (hlater e.1 e.2 hie)

/-- A list has no last element if nothing is at any place. -/
theorem getLast?_eq_none_iff {At : Nat → α → Prop} {xs : List α} (h : ListsInOrder At xs) :
    xs.getLast? = none ↔ ∀ i a, ¬ At i a := by
  obtain ⟨entries, rfl, -, hmem⟩ := h
  rw [List.getLast?_eq_none_iff, List.map_eq_nil_iff, List.eq_nil_iff_forall_not_mem]
  constructor
  · intro h i a ha
    exact h (i, a) ((hmem i a).2 ha)
  · intro h e he
    exact h e.1 e.2 ((hmem e.1 e.2).1 he)

end ListsInOrder

end ServiceScript
