import ServiceScript.Script.Basic

/-!
# ServiceScript — how a script ends and what it writes

The theory of scripts as lists of steps. The outcome of a script is decided by
its **first fault**, so a question on the outcome of a long script falls apart
into questions on its parts, asked in their order. In the same way the text of
a script that completes is put together of the texts of its parts.

Main results:

* `Script.outcome_eq_of_fault?` — the outcome is the first fault, or success;
* `Script.fault?_append`, `Script.fault?_flatMap` — the first fault of a script
  is that of its first faulty part;
* `Script.Writes.append`, `Script.Writes.flatMap` — so it is with the texts;
* `Script.complete?_append` — the text of a script that completes, and goes on.
-/

namespace ServiceScript

def Step.fault? : Step → Option Fault
  | .ok _ => none
  | .error f => some f

@[simp] theorem Step.fault?_ok (t : Text) : Step.fault? (.ok t) = none := rfl

namespace Script

-- ---------------------------------------------------------------------------
-- The first fault
-- ---------------------------------------------------------------------------

def fault? (s : Script) : Option Fault := s.findSome? Step.fault?

/-- The outcome of a script is told by its fault. -/
theorem outcome_eq_of_fault? (s : Script) :
    s.outcome = match s.fault? with
      | none => .ok ⟨⟩
      | some f => .error f := by
  induction s with
  | nil => rfl
  | cons step rest ih =>
    cases step with
    | ok t => exact ih
    | error f => rfl

theorem outcome_eq_ok_iff (s : Script) : s.outcome = .ok ⟨⟩ ↔ s.fault? = none := by
  rw [outcome_eq_of_fault?]
  cases s.fault? <;> simp

@[simp] theorem fault?_nil : fault? [] = none := rfl

@[simp] theorem fault?_cons (step : Step) (s : Script) :
    fault? (step :: s) = step.fault?.or (fault? s) := by
  cases step <;> rfl

/-- A script fails for its first part before it fails for its second. -/
@[simp] theorem fault?_append (s r : Script) :
    fault? (s ++ r) = (fault? s).or (fault? r) :=
  List.findSome?_append

/-- A script that is made of parts fails for the first part that fails. -/
theorem fault?_flatMap {α : Type} (part : α → Script) (xs : List α) :
    fault? (xs.flatMap part) = xs.findSome? fun x => fault? (part x) := by
  induction xs with
  | nil => rfl
  | cons x rest ih =>
    rw [List.flatMap_cons, fault?_append, ih, List.findSome?_cons]
    cases fault? (part x) <;> rfl

-- ---------------------------------------------------------------------------
-- The text of a script that completes
-- ---------------------------------------------------------------------------

/-- A script that writes `t` whenever it completes. -/
def Writes (s : Script) (t : Text) : Prop := s.fault? = none → s.text = t

theorem Writes.nil : Writes [] [] := fun _ => rfl

theorem Writes.ok (t : Text) : Writes [.ok t] t := fun _ => by simp

/-- Behind each other two scripts write both of their texts. -/
theorem Writes.append {s r : Script} {t u : Text} (hs : Writes s t) (hr : Writes r u) :
    Writes (s ++ r) (t ++ u) := by
  intro h
  -- the first part completes, so the second one is emitted behind it
  rw [fault?_append, Option.or_eq_none_iff] at h
  rw [text_append, (outcome_eq_ok_iff s).2 h.1, hs h.1, hr h.2]

theorem Writes.cons {step : Step} {r : Script} {t u : Text} (hs : Writes [step] t)
    (hr : Writes r u) : Writes (step :: r) (t ++ u) :=
  hs.append hr

/-- A script that is made of parts writes the texts of all of them. -/
theorem Writes.flatMap {α : Type} {part : α → Script} {written : α → Text} {xs : List α}
    (h : ∀ x ∈ xs, Writes (part x) (written x)) :
    Writes (xs.flatMap part) (xs.flatMap written) := by
  induction xs with
  | nil => exact Writes.nil
  | cons x rest ih =>
    have hx : Writes (part x) (written x) := h x List.mem_cons_self
    have hrest := ih fun y hy => h y (List.mem_cons_of_mem _ hy)
    rw [List.flatMap_cons, List.flatMap_cons]
    exact hx.append hrest

/-- A script of one step for each thing writes the texts of all of them. -/
theorem Writes.map {α : Type} {step : α → Step} {written : α → Text}
    (h : ∀ x, Writes [step x] (written x)) (xs : List α) :
    Writes (xs.map step) (xs.flatMap written) := by
  rw [List.map_eq_flatMap]
  exact Writes.flatMap fun x _ => h x

-- ---------------------------------------------------------------------------
-- Scripts that go on behind one that completes
-- ---------------------------------------------------------------------------

/-- The text of a script, if the script completes. -/
def complete? (s : Script) : Option Text :=
  match s.outcome with
  | .ok _ => some s.text
  | .error _ => none

/-- A complete text is that of a script that completes. -/
theorem complete?_eq_some_iff {s : Script} {t : Text} :
    s.complete? = some t ↔ s.outcome = .ok ⟨⟩ ∧ s.text = t := by
  unfold complete?
  cases s.outcome <;> simp

/-- Two scripts behind each other complete if both do. -/
theorem complete?_append (s r : Script) :
    (s ++ r).complete? = s.complete?.bind fun t => r.complete?.map (t ++ ·) := by
  unfold complete?
  rw [outcome_append, text_append]
  cases s.outcome with
  | error f => rfl
  | ok _ => cases r.outcome <;> rfl

/-- What is behind a complete script is written behind its text. -/
theorem text_append_of_complete? {s : Script} {t : Text} (h : s.complete? = some t)
    (r : Script) : (s ++ r).text = t ++ r.text := by
  obtain ⟨hok, htext⟩ := complete?_eq_some_iff.1 h
  rw [text_append, hok, htext]

/-- What is behind a complete script decides on the outcome. -/
theorem outcome_append_of_complete? {s : Script} {t : Text} (h : s.complete? = some t)
    (r : Script) : (s ++ r).outcome = r.outcome := by
  rw [outcome_append, (complete?_eq_some_iff.1 h).1]

end Script

end ServiceScript
