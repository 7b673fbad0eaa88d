import ServiceScript.Fault

/-!
# ServiceScript — scripts

A script is a list of **steps**. A step is the text that it adds or the fault
that stops the script there, so a script that cannot be completed still says
what stands before the fault.

Main definitions: `Script.text` is what a script emits, and `Script.outcome` how
it ends. Main results: `Script.text_append` and `Script.outcome_append` say both
for a script that goes on behind another.
-/

namespace ServiceScript

/-- A part of a script: its text, or the fault that keeps it from being written. -/
abbrev Step := Except Fault Text

/-- The steps of a script, in order. Nothing is emitted from the first fault on. -/
abbrev Script := List Step

namespace Script

/-- The text before the first fault. -/
def text : Script → Text
  | .ok t :: rest => t ++ text rest
  | _ => []

/-- The first fault, or success when there is none. -/
def outcome : Script → Except Fault Unit
  | [] => .ok ⟨⟩
  | .ok _ :: rest => outcome rest
  | .error f :: _ => .error f

@[simp] theorem text_nil : text [] = [] := rfl

@[simp] theorem text_cons_ok (t : Text) (s : Script) : text (.ok t :: s) = t ++ text s := rfl

@[simp] theorem text_cons_error (f : Fault) (s : Script) : text (.error f :: s) = [] := rfl

@[simp] theorem outcome_nil : outcome [] = .ok ⟨⟩ := rfl

@[simp] theorem outcome_cons_ok (t : Text) (s : Script) :
    outcome (.ok t :: s) = outcome s := rfl

@[simp] theorem outcome_cons_error (f : Fault) (s : Script) :
    outcome (.error f :: s) = .error f := rfl

/-- Steps behind a script that completes are emitted behind it, and decide the
outcome; behind a fault they count for nothing. -/
theorem outcome_append (s r : Script) :
    outcome (s ++ r) = match outcome s with
      | .ok _ => outcome r
      | .error f => .error f := by
  induction s with
  | nil => rfl
  | cons step rest ih => cases step <;> simp [ih]

/-- What is behind a script is written only if the script is written as a whole. -/
theorem text_append (s r : Script) :
    text (s ++ r) = match outcome s with
      | .ok _ => text s ++ text r
      | .error _ => text s := by
  induction s with
  | nil => rfl
  | cons step rest ih =>
    cases step with
    | error f => simp
    | ok t =>
      simp only [List.cons_append, text_cons_ok, outcome_cons_ok, ih]
      cases outcome rest <;> simp

end Script

end ServiceScript
