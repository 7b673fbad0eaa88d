import ServiceScript.Proofs.Dict
import ServiceScript.Unit.Basic

/-!
# ServiceScript — what a sequence of directives leaves behind

A unit takes directives one at a time. Over a whole sequence, a single value is
the last one that the sequence gives, or the one that was there; and an
accumulating list grows by the values of its own directives, in their order.

Main results:

* `ServiceUnit.get?_addAll` — single values after a sequence of directives;
* `ServiceUnit.environment_addAll`, `ServiceUnit.execStartPre_addAll` — the
  lists after it;
* `ServiceUnit.ext_get?` — a unit is determined by what is found in it;
* `ServiceUnit.get?_unset` — taking a single value out leaves the others.
-/

namespace ServiceScript

def Accumulates (sectionName key : Text) : Prop :=
  sectionName = serviceSection ∧ (key = environmentKey ∨ key = execStartPreKey)

theorem Accumulating.ofKey?_eq_none_iff (s k : Text) :
    Accumulating.ofKey? s k = none ↔ ¬ Accumulates s k := by
  unfold Accumulating.ofKey? Accumulates
  split
  · next hs =>
    subst hs
    split
    · next hk => simp [hk]
    · split
      · next hk => simp [hk]
      · next he hp => simp [he, hp]
  · next hs => simp [hs]

theorem Accumulating.ofKey?_eq_environment_iff (s k : Text) :
    Accumulating.ofKey? s k = some .environment ↔ s = serviceSection ∧ k = environmentKey := by
  unfold Accumulating.ofKey?
  grind

theorem Accumulating.ofKey?_eq_execStartPre_iff (s k : Text) :
    Accumulating.ofKey? s k = some .execStartPre ↔ s = serviceSection ∧ k = execStartPreKey := by
  have hne : execStartPreKey ≠ environmentKey := by decide
  unfold Accumulating.ofKey?
  grind

/-- The value that a directive gives a single-valued section and key. -/
def Directive.single? (sectionName key : Text) (d : Directive) : Option Text :=
  if Accumulating.ofKey? d.sectionName d.key = none ∧ sectionName = d.sectionName ∧ key = d.key then
    some d.value
  else none

/-- The value that a directive adds to an accumulating list. -/
def Directive.accumulated? (a : Accumulating) (d : Directive) : Option Text :=
  if Accumulating.ofKey? d.sectionName d.key = some a then some d.value else none

/-- A directive sets a key of a section, unless values accumulate there. -/
theorem Directive.single?_eq_some_iff (s k v : Text) (d : Directive) :
    d.single? s k = some v ↔ ¬ Accumulates s k ∧ d = ⟨s, k, v⟩ := by
  obtain ⟨s', k', v'⟩ := d
  unfold single?
  rw [Directive.mk.injEq, ← Accumulating.ofKey?_eq_none_iff]
  constructor
  · intro h
    split at h
    · next hd =>
      obtain ⟨hacc, rfl, rfl⟩ := hd
      exact ⟨hacc, rfl, rfl, Option.some.inj h⟩
    · simp at h
  · rintro ⟨hacc, rfl, rfl, rfl⟩
    exact if_pos ⟨hacc, rfl, rfl⟩

/-- Only an assignment for the environment goes to the environment. -/
theorem Directive.accumulated?_environment_iff (v : Text) (d : Directive) :
    d.accumulated? .environment = some v ↔ d = ⟨serviceSection, environmentKey, v⟩ := by
  obtain ⟨s', k', v'⟩ := d
  simp [accumulated?, Accumulating.ofKey?_eq_environment_iff, and_assoc]

theorem Directive.accumulated?_execStartPre_iff (v : Text) (d : Directive) :
    d.accumulated? .execStartPre = some v ↔ d = ⟨serviceSection, execStartPreKey, v⟩ := by
  obtain ⟨s', k', v'⟩ := d
  simp [accumulated?, Accumulating.ofKey?_eq_execStartPre_iff, and_assoc]

namespace ServiceUnit

theorem addAll_nil (u : ServiceUnit) : u.addAll [] = u := rfl

theorem addAll_cons (u : ServiceUnit) (d : Directive) (ds : List Directive) :
    u.addAll (d :: ds) = (u.add d).addAll ds := rfl

/-- A directive for the environment adds its value, without quotes around it, at the
end. -/
theorem environment_add (u : ServiceUnit) (d : Directive) :
    (u.add d).environment =
      u.environment ++ ((d.accumulated? .environment).map unquoted).toList := by
  unfold add Directive.accumulated?
  split
  · next h => simp [h]
  · next h => simp [h]
  · next h => simp [h, set]

theorem execStartPre_add (u : ServiceUnit) (d : Directive) :
    (u.add d).execStartPre = u.execStartPre ++ (d.accumulated? .execStartPre).toList := by
  unfold add Directive.accumulated?
  split
  · next h => simp [h]
  · next h => simp [h]
  · next h => simp [h, set]

/-- The environment has the values of its directives, without quotes, in their order. -/
theorem environment_addAll (u : ServiceUnit) (ds : List Directive) :
    (u.addAll ds).environment =
      u.environment ++ (ds.filterMap (Directive.accumulated? .environment)).map unquoted := by
  induction ds generalizing u with
  | nil => simp [addAll_nil]
  | cons d rest ih =>
    rw [addAll_cons, ih, environment_add, List.append_assoc, List.filterMap_cons]
    cases d.accumulated? .environment <;> rfl

theorem execStartPre_addAll (u : ServiceUnit) (ds : List Directive) :
    (u.addAll ds).execStartPre =
      u.execStartPre ++ ds.filterMap (Directive.accumulated? .execStartPre) := by
  induction ds generalizing u with
  | nil => simp [addAll_nil]
  | cons d rest ih =>
    rw [addAll_cons, ih, execStartPre_add, List.append_assoc, List.filterMap_cons]
    cases d.accumulated? .execStartPre <;> rfl

/-- A key has the value that a directive sets, or else the one before. -/
theorem get?_add_eq_or (u : ServiceUnit) (d : Directive) (s k : Text) :
    (u.add d).get? s k = (d.single? s k).or (u.get? s k) := by
  rw [get?_add, Directive.single?]
  split <;> rfl

/-- A key has the value that is set last, or else the one before. -/
theorem get?_addAll (u : ServiceUnit) (ds : List Directive) (s k : Text) :
    (u.addAll ds).get? s k =
      (ds.filterMap (Directive.single? s k)).getLast?.or (u.get? s k) := by
  -- the value that was there before is what the rest of the sequence starts from
  induction ds generalizing u with
  | nil => rfl
  | cons d rest ih =>
    rw [addAll_cons, ih, get?_add_eq_or, List.filterMap_cons]
    cases d.single? s k with
    | none => rfl
    | some v =>
      -- a later value of the rest goes before that of `d`
      rw [List.getLast?_cons]
      cases (rest.filterMap (Directive.single? s k)).getLast? <;> rfl

/-- Two units with the same sections are equal if they hold the same. -/
theorem ext_get? {u v : ServiceUnit}
    (hsections : ∀ s, u.sections.get? s = none ↔ v.sections.get? s = none)
    (hget : ∀ s k, u.get? s k = v.get? s k) (henvironment : u.environment = v.environment)
    (hexecStartPre : u.execStartPre = v.execStartPre) : u = v := by
  have hsame : u.sections = v.sections := by
    apply Dict.ext_get?
    intro s
    have hkeys : ∀ k, (u.sections.get? s).bind (·.get? k) = (v.sections.get? s).bind (·.get? k) :=
      hget s
    cases hus : u.sections.get? s with
    | none => exact ((hsections s).1 hus).symm
    | some keys =>
      cases hvs : v.sections.get? s with
      | none =>
        rw [(hsections s).2 hvs] at hus
        exact absurd hus (by simp)
      | some keys' =>
        rw [hus, hvs] at hkeys
        rw [Dict.ext_get? hkeys]
  obtain ⟨usections, uenvironment, uexecStartPre⟩ := u
  obtain ⟨vsections, venvironment, vexecStartPre⟩ := v
  rw [ServiceUnit.mk.injEq]
  exact ⟨hsame, henvironment, hexecStartPre⟩

-- ---------------------------------------------------------------------------
-- Without a single value
-- ---------------------------------------------------------------------------

/-- The unit without the single value of a section and key. -/
def unset (u : ServiceUnit) (sectionName key : Text) : ServiceUnit :=
  match u.sections.get? sectionName with
  | none => u
  | some keys => { u with sections := u.sections.insert sectionName (keys.erase key) }

/-- Unsetting a key takes away its value, and no other. -/
theorem get?_unset (u : ServiceUnit) (sectionName key s k : Text) :
    (u.unset sectionName key).get? s k =
      if s = sectionName ∧ k = key then none else u.get? s k := by
  unfold unset
  cases hkeys : u.sections.get? sectionName with
  | none =>
    -- there was no value in that section
    by_cases hs : s = sectionName
    · simp [get?, hs, hkeys]
    · simp [hs]
  | some keys =>
    simp only [get?, Dict.get?_insert]
    by_cases hs : s = sectionName
    · simp [hs, hkeys, Dict.get?_erase]
    · simp [hs]

theorem environment_unset (u : ServiceUnit) (sectionName key : Text) :
    (u.unset sectionName key).environment = u.environment := by
  unfold unset
  cases u.sections.get? sectionName <;> rfl

theorem execStartPre_unset (u : ServiceUnit) (sectionName key : Text) :
    (u.unset sectionName key).execStartPre = u.execStartPre := by
  unfold unset
  cases u.sections.get? sectionName <;> rfl

end ServiceUnit

end ServiceScript
