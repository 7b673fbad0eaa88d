import ServiceScript.Journal.Basic
import ServiceScript.Pattern.Usable
import ServiceScript.Text.Number
import ServiceScript.Text.Utf8

/-!
# ServiceScript — log filters

Which events are shown. A filter is a list of rules, each a level for the events
that it concerns, and of the rules that concern an event the most specific one
decides. A rule is written

    part[span{field=value}]=level

with every piece but one left out at will. It concerns the parts of the program
whose names begin with `part`, and of their events those with the field. What
it says of a span, and of the value of a field, is about the spans that an event
is in; a run has no spans, so such a rule is understood and concerns no event.

A rule is taken apart without the blanks in front of it, but its pieces are cut
out of the text with the blanks, as many bytes from its beginning.

Main definitions:

* `FieldCondition.parse?` — reading the condition on a field;
* `LogRule.parse?` — reading a rule;
* `LogFilter.parse?` — reading a filter;
* `LogFilter.shows` — whether a filter shows an event.
-/

namespace ServiceScript

-- ---------------------------------------------------------------------------
-- Rules
-- ---------------------------------------------------------------------------

structure FieldCondition where
  name : Text
  -- what its value has to match, if that is asked for
  value : Option Text
deriving DecidableEq

/-- How much is shown of some events. -/
structure LogRule where
  -- what the names of their parts begin with
  beginning : Text
  -- the span that they are in, if that is asked for
  span : Option Text
  -- the field that they have, if that is asked for
  field : Option FieldCondition
  level : LogLevel
deriving DecidableEq

/-- The name of the one field that an event has. -/
def Event.fieldName : Text := "message"

/-- Whether events have the field that a rule asks for. Its value is compared in
spans alone, so no event meets a condition on the value. -/
def FieldCondition.metByEvents (f : FieldCondition) : Bool :=
  f.name = Event.fieldName && f.value.isNone

/-- Whether a value can be compared with a text: it is a number or a pattern that
can be used. -/
def FieldCondition.isValue (t : Text) : Bool :=
  t.isNumber || (Pattern.parse? t).any Pattern.isUsable

/-- The condition that stands between braces. A second equals sign ends its
value. -/
def FieldCondition.parse? (t : Text) : Option FieldCondition :=
  if t = [] then none
  else match splitAll '=' t with
    | name :: value :: _ => if isValue value then some ⟨name, some value⟩ else none
    | _ => some ⟨t, none⟩

namespace LogRule

/-- Whether a rule concerns an event. -/
def concerns (r : LogRule) (e : Event) : Bool :=
  r.beginning.isPrefixOf e.origin.name && r.span.isNone && r.field.all FieldCondition.metByEvents

/-- How specific a rule is. What decides is the length of the part; of two rules
for the same part, one that asks for a field is the more specific one. -/
def specificity (r : LogRule) : Nat :=
  2 * r.beginning.length + if r.field.isSome then 1 else 0

-- ---------------------------------------------------------------------------
-- Reading a rule
-- ---------------------------------------------------------------------------

/-- The level that a text names, by number or by its first name. -/
def namedLevel? (t : Text) : Option LogLevel :=
  match t.number? with
  | some n => LogLevel.ofNumber? n
  | none => LogLevel.all.find? fun level => level.name = t.map Char.toLower

/-- Whether the name of a part can begin with a character. -/
def beginsPart (c : Char) : Bool := isAlphanumeric c || ("-:_" : Text).contains c

/-- The stretch of a text that lies as far from its beginning as `piece` lies in
the text without the blanks in front, where `behind` is what stands behind
`piece`. There is none if it would cut through a character. -/
def cut? (t piece behind : Text) : Option Text :=
  let start := (Utf8.encode t.trimStart).length - (Utf8.encode (piece ++ behind)).length
  Utf8.decode? (((Utf8.encode t).drop start).take (Utf8.encode piece).length)

/-- What stands in a text behind the place where `piece` lies in the text without
the blanks in front, as its last piece. -/
def cutEnd? (t piece : Text) : Option Text :=
  let start := (Utf8.encode t.trimStart).length - (Utf8.encode piece).length
  Utf8.decode? ((Utf8.encode t).drop start)

/-- What a rule asks for behind the name of a part: a span, a field and a level. -/
structure Ending where
  span : Option Text
  field : Option FieldCondition
  level : LogLevel

/-- The level that stands at the end of the rule `t`. Without one, everything is
shown. -/
def level? (t : Text) : Text → Option LogLevel
  | '=' :: level => (cutEnd? t level).bind fun level =>
    if level = [] then some .trace else namedLevel? level
  | rest => if rest.allBlank then some .trace else none

/-- What stands behind the opening bracket of the rule `t`: a span, a field, and a
level behind the closing bracket. In front of a field the span can be left out. -/
def conditions? (t inner : Text) : Option Ending :=
  match inner.span fun c => c ≠ ']' ∧ c ≠ '\x7b' with
  | (span, ']' :: rest) => do
    let span ← cut? t span (']' :: rest)
    some ⟨some span, none, ← level? t rest⟩
  | (span, '\x7b' :: inner) =>
    match splitFirst '\x7d' inner with
    | some (condition, ']' :: rest) => do
      let span ← cut? t span ('\x7b' :: inner)
      let field ← FieldCondition.parse? (← cut? t condition ('\x7d' :: ']' :: rest))
      some ⟨if span = [] then none else some span, some field, ← level? t rest⟩
    | _ => none
  | _ => none

/-- A rule: a level for every part, a part of which everything is shown, or a
part with conditions, a level or both. -/
def parse? (t : Text) : Option LogRule :=
  let (name, rest) := t.trimStart.span fun c => c ≠ '=' ∧ c ≠ '['
  if name.head?.all beginsPart then
    match name, rest with
    | [], [] => none
    | _, [] => match namedLevel? t with
      | some level => some ⟨[], none, none, level⟩
      | none => some ⟨t, none, none, .trace⟩
    | _, '[' :: inner => do
      let ⟨span, field, level⟩ ← conditions? t inner
      some ⟨← cut? t name rest, span, field, level⟩
    | [], _ => none
    | _, _ => do some ⟨← cut? t name rest, none, none, ← level? t rest⟩
  else none

end LogRule

-- ---------------------------------------------------------------------------
-- Filters
-- ---------------------------------------------------------------------------

abbrev LogFilter := List LogRule

namespace LogFilter

/-- The filter that shows the same of every part. -/
def ofLevel (level : LogLevel) : LogFilter := [⟨[], none, none, level⟩]

/-- The filter of rules with commas between them. Without any rule, errors are
shown. -/
def parse? (t : Text) : Option LogFilter :=
  match (splitAll ',' t).filter (· ≠ []) with
  | [] => some (ofLevel .error)
  | rules => rules.mapM LogRule.parse?

/-- The more specific one of two rules, or the one that is given later. -/
def closer (best : Option LogRule) (rule : LogRule) : Option LogRule :=
  match best with
  | some found => if found.specificity ≤ rule.specificity then some rule else best
  | none => some rule

/-- The rule that decides on an event. -/
def deciding? (f : LogFilter) (e : Event) : Option LogRule :=
  (f.filter fun rule => rule.concerns e).foldl closer none

def shows (f : LogFilter) (e : Event) : Bool :=
  (f.deciding? e).any fun rule => e.level.number ≤ rule.level.number

/-- The filter for every part shows what is not below its level. -/
theorem shows_ofLevel (level : LogLevel) (e : Event) :
    (ofLevel level).shows e = decide (e.level.number ≤ level.number) := by
  simp [ofLevel, shows, deciding?, closer, LogRule.concerns]

/-- The filter of a run: the level asked for on the command line, else the
filter that the environment sets, if it can be read, else what a run does. -/
def ofSettings (asked : Option LogLevel) (environment : Option Text) : LogFilter :=
  match asked with
  | some level => ofLevel level
  | none => (environment.bind parse?).getD (ofLevel .info)

end LogFilter

end ServiceScript
