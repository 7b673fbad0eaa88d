import ServiceScript.Text.Basic

/-!
# ServiceScript — lines of a text

Cutting a text at its line ends, and telling from two equal texts that their
first lines are equal.

Main results:

* `notMem_of_mem_splitOn` — no piece has the separator in it;
* `append_cons_inj` — a first line without line end is determined by the text.
-/

namespace ServiceScript

variable {α : Type} [DecidableEq α]

/-- No piece has the separator in it. -/
theorem notMem_of_mem_splitOn {sep : α} {xs piece : List α} (h : piece ∈ xs.splitOn sep) :
    sep ∉ piece := by
  induction xs generalizing piece with
  | nil =>
    rw [List.splitOn_nil, List.mem_singleton] at h
    simp [h]
  | cons c rest ih =>
    rw [List.splitOn_cons_eq_if_modifyHead] at h
    by_cases hc : c = sep
    · -- a piece ends here, and it is empty
      rw [if_pos (beq_iff_eq.2 hc)] at h
      rcases List.mem_cons.1 h with rfl | h
      · simp
      · exact ih h
    · rw [if_neg fun hb => hc (beq_iff_eq.1 hb)] at h
      obtain ⟨first, pieces, hs⟩ := List.exists_cons_of_ne_nil (List.splitOn_ne_nil sep rest)
      rw [hs] at h ih
      rcases List.mem_cons.1 h with rfl | h
      · intro hm
        rcases List.mem_cons.1 hm with rfl | hm
        · exact hc rfl
        · exact ih List.mem_cons_self hm
      · exact ih (List.mem_cons_of_mem _ h)

/-- What stands before the first separator is determined, and so is the rest. -/
theorem append_cons_inj {sep : α} {xs ys before after : List α} (hx : sep ∉ xs)
    (hb : sep ∉ before) (h : xs ++ sep :: ys = before ++ sep :: after) :
    xs = before ∧ ys = after := by
  -- both sides are what `splitFirst` finds in the same text
  have hfirst : splitFirst sep (xs ++ sep :: ys) = some (xs, ys) :=
    splitFirst_eq_some_iff.2 ⟨rfl, hx⟩
  have hsecond : splitFirst sep (xs ++ sep :: ys) = some (before, after) :=
    splitFirst_eq_some_iff.2 ⟨h, hb⟩
  rw [hfirst, Option.some.injEq, Prod.mk.injEq] at hsecond
  exact hsecond

end ServiceScript
