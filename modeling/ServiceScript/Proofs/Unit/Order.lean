import ServiceScript.Proofs.Unit.Image

/-!
# ServiceScript — the order of directives

The order of the directives in a unit file matters in three places only: among the
directives for one section and key the last one counts, and the values of each
accumulating list stand in the order in which they are given. Whatever else is
exchanged, the unit is the same; and where one of the three differs, so does the
unit.

Main definitions:

* `Directive.given` — what a sequence of directives gives a section and key;
* `ServiceUnit.SameEffect` — what two sequences have to agree on;
* `ServiceUnit.AddsOnly` — what one directive leaves alone.

Main result:

* `ServiceUnit.addAll_eq_addAll_iff` — two sequences leave the same unit exactly if
  they agree on that.
-/

namespace ServiceScript

-- ---------------------------------------------------------------------------
-- What a sequence gives a section and key
-- ---------------------------------------------------------------------------

/-- The values that directives give a section and key, in their order. -/
def Directive.given (sectionName key : Text) (ds : List Directive) : List Text :=
  ds.filterMap fun d => if d.sectionName = sectionName ∧ d.key = key then some d.value else none

namespace Directive

/-- Where values do not accumulate, all that are given for a key set it. -/
theorem filterMap_single?_of_not_accumulates {s k : Text} (h : ¬ Accumulates s k)
    (ds : List Directive) : ds.filterMap (single? s k) = given s k ds := by
  unfold given
  congr 1
  funext d
  unfold single?
  by_cases hd : d.sectionName = s ∧ d.key = k
  · obtain ⟨rfl, rfl⟩ := hd
    rw [if_pos ⟨(Accumulating.ofKey?_eq_none_iff _ _).2 h, rfl, rfl⟩, if_pos ⟨rfl, rfl⟩]
  · rw [if_neg hd, if_neg fun hs => hd ⟨hs.2.1.symm, hs.2.2.symm⟩]

theorem filterMap_single?_of_accumulates {s k : Text} (h : Accumulates s k)
    (ds : List Directive) : ds.filterMap (single? s k) = [] := by
  refine List.filterMap_eq_nil_iff.2 fun d _ => Option.eq_none_iff_forall_ne_some.2 fun v hv => ?_
  exact ((single?_eq_some_iff s k v d).1 hv).1 h

/-- The values for the environment are those given for its key. -/
theorem filterMap_environment (ds : List Directive) :
    ds.filterMap (accumulated? .environment) = given serviceSection environmentKey ds := by
  unfold given
  congr 1
  funext d
  simp only [accumulated?, Accumulating.ofKey?_eq_environment_iff]

theorem filterMap_execStartPre (ds : List Directive) :
    ds.filterMap (accumulated? .execStartPre) = given serviceSection execStartPreKey ds := by
  unfold given
  congr 1
  funext d
  simp only [accumulated?, Accumulating.ofKey?_eq_execStartPre_iff]

/-- No section and key is given a value by both of two directives that differ in
theirs. -/
theorem given_swap {d e : Directive} (h : ¬ (d.sectionName = e.sectionName ∧ d.key = e.key))
    (s k : Text) : given s k [d, e] = given s k [e, d] := by
  unfold given
  by_cases hd : d.sectionName = s ∧ d.key = k
  · have he : ¬ (e.sectionName = s ∧ e.key = k) := by
      rintro ⟨rfl, rfl⟩
      exact h hd
    simp [hd, he]
  · by_cases he : e.sectionName = s ∧ e.key = k <;> simp [hd, he]

end Directive

namespace ServiceUnit

open Directive (given)

-- ---------------------------------------------------------------------------
-- Sections
-- ---------------------------------------------------------------------------

/-- A directive that accumulates leaves the sections alone. -/
theorem sections_add_of_accumulates {u : ServiceUnit} {d : Directive}
    (h : Accumulates d.sectionName d.key) : (u.add d).sections = u.sections := by
  unfold add
  split
  · rfl
  · rfl
  · next hkey => exact absurd h ((Accumulating.ofKey?_eq_none_iff _ _).1 hkey)

theorem get?_sections_add_of_ne {u : ServiceUnit} {d : Directive} {s : Text}
    (h : s ≠ d.sectionName) : (u.add d).sections.get? s = u.sections.get? s := by
  unfold add
  split
  · rfl
  · rfl
  · simp only [set, Dict.get?_insert, if_neg h]

/-- No section is taken away by a directive. -/
theorem ne_none_of_get?_sections_add {u : ServiceUnit} {s : Text} (d : Directive)
    (h : u.sections.get? s ≠ none) : (u.add d).sections.get? s ≠ none := by
  unfold add
  split
  · exact h
  · exact h
  · simp only [set, Dict.get?_insert]
    split
    · simp
    · exact h

/-- Sections stay. -/
theorem ne_none_of_get?_sections_addAll {u : ServiceUnit} {s : Text} (ds : List Directive)
    (h : u.sections.get? s ≠ none) : (u.addAll ds).sections.get? s ≠ none := by
  induction ds generalizing u with
  | nil => exact h
  | cons d rest ih =>
    rw [addAll_cons]
    exact ih (ne_none_of_get?_sections_add d h)

/-- A section that was not there before has a key. -/
theorem get?_sections_addAll {u : ServiceUnit} {ds : List Directive} {s : Text} {keys : Dict Text}
    (h : (u.addAll ds).sections.get? s = some keys) :
    keys ≠ ∅ ∨ u.sections.get? s = some keys := by
  induction ds generalizing u with
  | nil => exact .inr h
  | cons d rest ih =>
    rw [addAll_cons] at h
    rcases ih h with hne | hbefore
    · exact .inl hne
    · rcases get?_sections_add hbefore with ⟨-, hne⟩ | hold
      · exact .inl hne
      · exact .inr hold

/-- A section is missing if it was missing and nothing is found in it. -/
theorem get?_sections_addAll_eq_none_iff (u : ServiceUnit) (ds : List Directive) (s : Text) :
    (u.addAll ds).sections.get? s = none ↔
      u.sections.get? s = none ∧ ∀ k, (u.addAll ds).get? s k = none := by
  constructor
  · intro hnone
    refine ⟨?_, fun k => ?_⟩
    · exact Decidable.byContradiction fun hold =>
        ne_none_of_get?_sections_addAll ds hold hnone
    · rw [get?, hnone, Option.bind_none]
  · rintro ⟨hold, hvalues⟩
    rw [Option.eq_none_iff_forall_ne_some]
    intro keys hkeys
    rcases get?_sections_addAll hkeys with hne | hbefore
    · obtain ⟨k, v, hk⟩ := Dict.exists_get?_of_ne_empty hne
      have hvalue := hvalues k
      rw [get?, hkeys, Option.bind_some, hk] at hvalue
      cases hvalue
    · rw [hold] at hbefore
      cases hbefore

-- ---------------------------------------------------------------------------
-- The same unit
-- ---------------------------------------------------------------------------

/-- What two sequences of directives have to agree on to leave the same of a unit. -/
structure SameEffect (u : ServiceUnit) (ds es : List Directive) : Prop where
  -- the last value given, or the value that was there
  single : ∀ s k, ¬ Accumulates s k →
    (given s k ds).getLast?.or (u.get? s k) = (given s k es).getLast?.or (u.get? s k)
  environment : (given serviceSection environmentKey ds).map unquoted =
    (given serviceSection environmentKey es).map unquoted
  execStartPre : given serviceSection execStartPreKey ds = given serviceSection execStartPreKey es

/-- A directive changes nothing but its own value or its own list. -/
structure AddsOnly (u : ServiceUnit) (d : Directive) : Prop where
  value : ∀ s k, ¬ (s = d.sectionName ∧ k = d.key) → (u.add d).get? s k = u.get? s k
  otherSection : ∀ s, s ≠ d.sectionName → (u.add d).sections.get? s = u.sections.get? s
  sections : Accumulates d.sectionName d.key → (u.add d).sections = u.sections
  environment : ¬ (d.sectionName = serviceSection ∧ d.key = environmentKey) →
    (u.add d).environment = u.environment
  execStartPre : ¬ (d.sectionName = serviceSection ∧ d.key = execStartPreKey) →
    (u.add d).execStartPre = u.execStartPre

/-- A key has the last of the values given for it, or else the one before. -/
theorem get?_addAll_of_not_accumulates (u : ServiceUnit) (ds : List Directive) {s k : Text}
    (h : ¬ Accumulates s k) :
    (u.addAll ds).get? s k = (given s k ds).getLast?.or (u.get? s k) := by
  rw [get?_addAll, Directive.filterMap_single?_of_not_accumulates h]

/-- Directives leave a key alone where values accumulate. -/
theorem get?_addAll_of_accumulates (u : ServiceUnit) (ds : List Directive) {s k : Text}
    (h : Accumulates s k) : (u.addAll ds).get? s k = u.get? s k := by
  rw [get?_addAll, Directive.filterMap_single?_of_accumulates h]
  rfl

/-- Directives of the same effect leave every key with the same value. -/
theorem SameEffect.get?_eq {u : ServiceUnit} {ds es : List Directive} (h : u.SameEffect ds es)
    (s k : Text) : (u.addAll ds).get? s k = (u.addAll es).get? s k := by
  by_cases hacc : Accumulates s k
  · rw [get?_addAll_of_accumulates u ds hacc, get?_addAll_of_accumulates u es hacc]
  · rw [get?_addAll_of_not_accumulates u ds hacc, get?_addAll_of_not_accumulates u es hacc]
    exact h.single s k hacc

/-- Directives of the same effect make one unit. -/
theorem SameEffect.addAll_eq {u : ServiceUnit} {ds es : List Directive} (h : u.SameEffect ds es) :
    u.addAll ds = u.addAll es := by
  apply ext_get?
  · intro s
    simp only [get?_sections_addAll_eq_none_iff, h.get?_eq]
  · exact h.get?_eq
  · rw [environment_addAll, environment_addAll, Directive.filterMap_environment,
      Directive.filterMap_environment, h.environment]
  · rw [execStartPre_addAll, execStartPre_addAll, Directive.filterMap_execStartPre,
      Directive.filterMap_execStartPre, h.execStartPre]

/-- Directives that make one unit have the same effect. -/
theorem sameEffect_of_addAll_eq {u : ServiceUnit} {ds es : List Directive}
    (h : u.addAll ds = u.addAll es) : u.SameEffect ds es where
  single s k hacc := by
    rw [← get?_addAll_of_not_accumulates u ds hacc, h, get?_addAll_of_not_accumulates u es hacc]
  environment := by
    -- what was in the list before stands in front on both sides
    have hlist := congrArg ServiceUnit.environment h
    rw [environment_addAll, environment_addAll, Directive.filterMap_environment,
      Directive.filterMap_environment] at hlist
    exact List.append_cancel_left hlist
  execStartPre := by
    have hlist := congrArg ServiceUnit.execStartPre h
    rw [execStartPre_addAll, execStartPre_addAll, Directive.filterMap_execStartPre,
      Directive.filterMap_execStartPre] at hlist
    exact List.append_cancel_left hlist

/-- Two directives for different keys can change places. -/
theorem add_comm_of_ne (u : ServiceUnit) {d e : Directive}
    (h : ¬ (d.sectionName = e.sectionName ∧ d.key = e.key)) :
    (u.add d).add e = (u.add e).add d := by
  have hgiven := Directive.given_swap h
  have hsame : u.SameEffect [d, e] [e, d] := by
    refine ⟨fun s k _ => ?_, ?_, ?_⟩
    · rw [hgiven]
    · rw [hgiven]
    · rw [hgiven]
  exact hsame.addAll_eq

/-- A directive changes what it is about, and nothing else. -/
theorem addsOnly_add (u : ServiceUnit) (d : Directive) : u.AddsOnly d where
  value s k h := by
    rw [get?_add, if_neg fun hd => h hd.2]
  otherSection _ h := get?_sections_add_of_ne h
  sections h := sections_add_of_accumulates h
  environment h := by
    have hnone : d.accumulated? .environment = none :=
      if_neg fun hkey => h ((Accumulating.ofKey?_eq_environment_iff _ _).1 hkey)
    rw [environment_add, hnone]
    exact List.append_nil _
  execStartPre h := by
    have hnone : d.accumulated? .execStartPre = none :=
      if_neg fun hkey => h ((Accumulating.ofKey?_eq_execStartPre_iff _ _).1 hkey)
    rw [execStartPre_add, hnone]
    exact List.append_nil _

/-- **Where the order of directives matters.** Two sequences of directives leave the
same of a unit exactly if they agree on the last value of every section and key that
does not accumulate, and on both lists. So directives can be exchanged unless they
are for the same section and key, and none of them reaches further than its own
value or list. -/
theorem addAll_eq_addAll_iff (u : ServiceUnit) :
    (∀ ds es, u.addAll ds = u.addAll es ↔ u.SameEffect ds es) ∧
    (∀ d e : Directive, ¬ (d.sectionName = e.sectionName ∧ d.key = e.key) →
      (u.add d).add e = (u.add e).add d) ∧
    ∀ d, u.AddsOnly d :=
  ⟨fun _ _ => ⟨sameEffect_of_addAll_eq, SameEffect.addAll_eq⟩, fun _ _ h => u.add_comm_of_ne h,
    u.addsOnly_add⟩

/-- Two keys of one name in different sections. -/
theorem addAll_eq_addAll_sections :
    let d : Directive := ⟨serviceSection, userKey, "alice"⟩
    let e : Directive := ⟨"Unit", userKey, "bob"⟩
    let u : ServiceUnit := addAll ∅ [⟨serviceSection, environmentKey, "\"A=1\""⟩, e]
    ¬ (d.sectionName = e.sectionName ∧ d.key = e.key) ∧ (u.add d).add e = (u.add e).add d ∧
      (u.add d).get? "Unit" userKey = some "bob".toList := by
  intro d e u
  obtain ⟨-, hcomm, honly⟩ := addAll_eq_addAll_iff u
  have hne : ¬ (d.sectionName = e.sectionName ∧ d.key = e.key) := by decide
  have hother : ¬ (("Unit" : Text) = d.sectionName ∧ userKey = d.key) := by decide
  exact ⟨hne, hcomm d e hne, (honly d).value "Unit" userKey hother⟩

end ServiceUnit

end ServiceScript
