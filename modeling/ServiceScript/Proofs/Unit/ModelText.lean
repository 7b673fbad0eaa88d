import ServiceScript.Proofs.Dict
import ServiceScript.Proofs.Json.Value

/-!
# ServiceScript — what is told by a unit as JSON

The text of a unit can be read back: it is JSON in both layouts, and its value
has the sections, the assignments and the commands of the unit, each once and in
order. A layout decides on nothing but the blanks between the tokens, so the
theory goes by the tokens, and the layouts come in only where the parts of a text
are put together.

Main definitions:

* `Layout.Within` — a layout that adds certain characters only;
* `ServiceUnit.json` — the value of a unit.

Main result: `ServiceUnit.modelText_lossless`.
-/

namespace ServiceScript

open Json (Token Written separated)

-- ---------------------------------------------------------------------------
-- Layouts
-- ---------------------------------------------------------------------------

/-- A layout that puts nothing but characters in `gaps` between the tokens. -/
structure Layout.Within (l : Layout) (gaps : List Char) : Prop where
  lineBreak : ∀ depth, l.lineBreak depth ⊆ gaps
  colon : Written gaps l.colon [.colon]

namespace Layout

theorem compact_within : compact.Within [] where
  lineBreak _ := List.nil_subset _
  colon := .single .colon

theorem pretty_within : pretty.Within Json.blanks where
  lineBreak depth := by
    refine List.cons_subset.2 ⟨by decide, fun c hc => ?_⟩
    rw [List.eq_of_mem_replicate hc]
    decide
  colon := Written.append (.single .colon) (.of_subset (by decide))

variable {l : Layout} {gaps : List Char}

/-- A member is written as its name, a colon and its value. -/
theorem written_member (h : l.Within gaps) (name : Text) {value : Text} {ts : List Token}
    (hvalue : Written gaps value ts) :
    Written gaps (l.member name value) (.string name :: .colon :: ts) :=
  ((Written.single (.string name)).append h.colon).append hvalue

section Parts

variable {ι : Type} {parts : List ι} {text : ι → Text} {ts : ι → List Token}

theorem written_lineBreak (h : l.Within gaps) (depth : Nat) : Written gaps (l.lineBreak depth) [] :=
  .of_subset (h.lineBreak depth)

/-- Parts that write tokens, each behind a comma. -/
theorem written_furtherParts (h : l.Within gaps) (depth : Nat)
    (hparts : ∀ i ∈ parts, Written gaps (text i) (ts i)) :
    Written gaps ((parts.map text).flatMap fun part => ',' :: l.lineBreak depth ++ part)
      ((parts.map ts).flatMap (.comma :: ·)) := by
  induction parts with
  | nil => exact .nil
  | cons i rest ih =>
    obtain ⟨hi, hrest⟩ := List.forall_mem_cons.1 hparts
    have hcomma : Written gaps [','] [.comma] := .single .comma
    exact ((hcomma.append (written_lineBreak h depth)).append hi).append (ih hrest)

/-- Parts that write tokens, between two brackets. -/
theorem written_bracket (h : l.Within gaps) (left right : Token) {a z : Char}
    (hleft : left.text = [a]) (hright : right.text = [z]) (depth : Nat)
    (hparts : ∀ i ∈ parts, Written gaps (text i) (ts i)) :
    Written gaps (l.bracket a z depth (parts.map text))
      (left :: separated .comma (parts.map ts) ++ [right]) := by
  have ha : Written gaps [a] [left] := hleft ▸ .single left
  have hz : Written gaps [z] [right] := hright ▸ .single right
  cases parts with
  | nil => exact ha.append hz
  | cons first rest =>
    obtain ⟨hfirst, hrest⟩ := List.forall_mem_cons.1 hparts
    have hfront := (ha.append (written_lineBreak h (depth + 1))).append hfirst
    have hbehind := (written_lineBreak h depth).append hz
    have hall := (hfront.append (written_furtherParts h (depth + 1) hrest)).append hbehind
    simpa [bracket, separated] using hall

end Parts

end Layout

-- ---------------------------------------------------------------------------
-- The value of a unit
-- ---------------------------------------------------------------------------

namespace Json

variable {β : Type}

/-- The value of a dictionary. -/
def ofDict (value : β → Json) (d : Dict β) : Json :=
  .object (d.entries.map fun e => (e.1, value e.2))

def ofTexts (items : List Text) : Json := .array (items.map .string)

/-- A dictionary is determined by the object that is made of it. -/
theorem ofDict_inj {value : β → Json} (hvalue : ∀ a b, value a = value b → a = b)
    {d e : Dict β} (h : ofDict value d = ofDict value e) : d = e := by
  have hentry (a b : Text × β) (hab : (a.1, value a.2) = (b.1, value b.2)) : a = b := by
    obtain ⟨hkey, hvalues⟩ := Prod.mk.inj hab
    exact Prod.ext hkey (hvalue _ _ hvalues)
  obtain ⟨entries, hsorted⟩ := d
  obtain ⟨others, hothers⟩ := e
  rw [Dict.mk.injEq]
  exact (List.map_inj_right hentry).1 (Json.object.inj h)

theorem written_jsonString (gaps : List Char) (t : Text) :
    Written gaps (jsonString t) (Json.string t).tokens := by
  rw [tokens_string]
  exact .single (.string t)

theorem ofTexts_inj {xs ys : List Text} (h : ofTexts xs = ofTexts ys) : xs = ys :=
  (List.map_inj_right fun _ _ => Json.string.inj).1 (Json.array.inj h)

end Json

/-- The value of a unit. -/
def ServiceUnit.json (u : ServiceUnit) : Json :=
  .object
    [("sections", .ofDict (.ofDict .string) u.sections), ("env", .ofTexts u.environment),
      ("execStartPre", .ofTexts u.execStartPre)]

namespace Layout

variable {l : Layout} {gaps : List Char}

/-- A dictionary is written as an object of what is written of its values. -/
theorem written_dict {β : Type} (h : l.Within gaps) (depth : Nat) {write : β → Text}
    {value : β → Json} (hwrite : ∀ v, Written gaps (write v) (value v).tokens) (d : Dict β) :
    Written gaps (l.dict depth write d) (Json.ofDict value d).tokens := by
  have hmembers : ∀ e ∈ d.entries,
      Written gaps (l.member e.1 (write e.2)) (Json.memberTokens (e.1, value e.2)) :=
    fun e _ => written_member h e.1 (hwrite e.2)
  have hall := written_bracket h .openObject .closeObject rfl rfl depth hmembers
  rw [Json.ofDict, Json.tokens_object, List.map_map]
  exact hall

/-- Texts are written as an array of their tokens. -/
theorem written_strings (h : l.Within gaps) (depth : Nat) (items : List Text) :
    Written gaps (l.strings depth items) (Json.ofTexts items).tokens := by
  have hitems : ∀ t ∈ items, Written gaps (jsonString t) (Json.string t).tokens :=
    fun t _ => Json.written_jsonString gaps t
  have hall := written_bracket h .openArray .closeArray rfl rfl depth hitems
  rw [Json.ofTexts, Json.tokens_array, List.map_map]
  exact hall

/-- The text of a unit is written of the tokens of its value. -/
theorem written_modelText (h : l.Within gaps) (u : ServiceUnit) :
    Written gaps (u.modelText l) u.json.tokens := by
  let members : List (Text × Text × Json) :=
    [("sections", l.dict 1 (l.dict 2 jsonString) u.sections, .ofDict (.ofDict .string) u.sections),
      ("env", l.strings 1 u.environment, .ofTexts u.environment),
      ("execStartPre", l.strings 1 u.execStartPre, .ofTexts u.execStartPre)]
  have hkeys := written_dict h 2 (Json.written_jsonString gaps)
  have hmembers : ∀ m ∈ members,
      Written gaps (l.member m.1 m.2.1) (Json.memberTokens (m.1, m.2.2)) := by
    refine List.forall_mem_cons.2 ⟨?_, List.forall_mem_cons.2 ⟨?_, List.forall_mem_singleton.2 ?_⟩⟩
    · exact written_member h _ (written_dict h 1 hkeys u.sections)
    · exact written_member h _ (written_strings h 1 u.environment)
    · exact written_member h _ (written_strings h 1 u.execStartPre)
  have hall := written_bracket h .openObject .closeObject rfl rfl 0 hmembers
  rw [ServiceUnit.json, Json.tokens_object]
  exact hall

end Layout

namespace ServiceUnit

/-- A unit is determined by its value. -/
theorem json_inj {u v : ServiceUnit} (h : u.json = v.json) : u = v := by
  obtain ⟨sections, environment, execStartPre⟩ := u
  obtain ⟨otherSections, otherEnvironment, otherExecStartPre⟩ := v
  have hmembers := Json.object.inj h
  simp only [List.cons.injEq, Prod.mk.injEq, true_and, and_true] at hmembers
  obtain ⟨hsections, henvironment, hexecStartPre⟩ := hmembers
  have hkeys : sections = otherSections :=
    Json.ofDict_inj (fun _ _ => Json.ofDict_inj fun _ _ => Json.string.inj) hsections
  rw [hkeys, Json.ofTexts_inj henvironment, Json.ofTexts_inj hexecStartPre]

section Reading

variable {l : Layout} {gaps : List Char}

/-- A reader decodes the text of a unit to its value. -/
theorem decode?_modelText (h : l.Within gaps) (hgaps : gaps ⊆ Json.blanks) (u : ServiceUnit) :
    Json.decode? (u.modelText l) = some u.json :=
  (Layout.written_modelText h u).decode?_eq hgaps

/-- Two units have one text only if they are one unit. -/
theorem modelText_inj (h : l.Within gaps) (hgaps : gaps ⊆ Json.blanks) {u v : ServiceUnit} :
    u.modelText l = v.modelText l ↔ u = v := by
  constructor
  · intro htext
    have hvalue := decode?_modelText h hgaps u
    rw [htext, decode?_modelText h hgaps v] at hvalue
    exact (json_inj (Option.some.inj hvalue)).symm
  · rintro rfl
    rfl

/-- Without its blanks, a text in any layout is the compact text. -/
theorem withoutBlanks_modelText (h : l.Within gaps) (hgaps : gaps ⊆ Json.blanks)
    (u : ServiceUnit) : Json.withoutBlanks (u.modelText l) = u.modelText .compact :=
  ((Layout.written_modelText h u).withoutBlanks_eq hgaps).trans
    (Layout.written_modelText Layout.compact_within u).eq_flatMap.symm

end Reading

/-- **The JSON text of a unit.** In both layouts it is read as one and the same
value, an object with three members. The sections in it ascend, and so do the keys
of each; they are the sections and the keys of the unit, with their values, none
left out and none made up. Both lists are there with all their items. The pretty
text is the compact one with blanks outside of strings, and each tells units apart. -/
theorem modelText_lossless (u : ServiceUnit) :
    (∃ (sections : List (Text × List (Text × Text))) (value : Json),
      value = .object
        [("sections",
            .object (sections.map fun s => (s.1, .object (s.2.map fun e => (e.1, .string e.2))))),
          ("env", .array (u.environment.map .string)),
          ("execStartPre", .array (u.execStartPre.map .string))] ∧
      Json.decode? (u.modelText .compact) = some value ∧
      Json.decode? (u.modelText .pretty) = some value ∧
      (sections.map Prod.fst).Pairwise (· < ·) ∧
      (∀ s ∈ sections, (s.2.map Prod.fst).Pairwise (· < ·)) ∧
      (∀ name, name ∈ sections.map Prod.fst ↔ (u.sections.get? name).isSome) ∧
      ∀ name key value,
        (∃ keys, (name, keys) ∈ sections ∧ (key, value) ∈ keys) ↔ u.get? name key = some value) ∧
    Json.withoutBlanks (u.modelText .pretty) = u.modelText .compact ∧
    ∀ v : ServiceUnit,
      (u.modelText .compact = v.modelText .compact ↔ u = v) ∧
        (u.modelText .pretty = v.modelText .pretty ↔ u = v) := by
  have hcompact : ([] : List Char) ⊆ Json.blanks := List.nil_subset _
  have hpretty : Json.blanks ⊆ Json.blanks := List.Subset.refl _
  refine ⟨⟨u.sections.entries.map fun s => (s.1, s.2.entries), u.json, ?_,
    decode?_modelText Layout.compact_within hcompact u,
    decode?_modelText Layout.pretty_within hpretty u, ?_, ?_, fun name => ?_,
    fun name key value => ?_⟩, ?_, fun v => ?_⟩
  · rw [json, Json.ofDict, List.map_map]
    rfl
  · rw [List.map_map, List.pairwise_map]
    exact u.sections.sorted
  · intro s hs
    obtain ⟨⟨name, keys⟩, -, rfl⟩ := List.mem_map.1 hs
    exact List.pairwise_map.2 keys.sorted
  · rw [List.map_map, List.mem_map, Option.isSome_iff_exists]
    constructor
    · rintro ⟨⟨_, keys⟩, hmem, rfl⟩
      exact ⟨keys, (Dict.mem_entries_iff _ _ _).1 hmem⟩
    · rintro ⟨keys, hkeys⟩
      exact ⟨(name, keys), (Dict.mem_entries_iff _ _ _).2 hkeys, rfl⟩
  · rw [get?, Option.bind_eq_some_iff]
    constructor
    · rintro ⟨_, hmem, hkey⟩
      obtain ⟨⟨_, keys⟩, hsection, heq⟩ := List.mem_map.1 hmem
      cases heq
      exact ⟨keys, (Dict.mem_entries_iff _ _ _).1 hsection, (Dict.mem_entries_iff _ _ _).1 hkey⟩
    · rintro ⟨keys, hsection, hkey⟩
      exact ⟨keys.entries,
        List.mem_map.2 ⟨(name, keys), (Dict.mem_entries_iff _ _ _).2 hsection, rfl⟩,
        (Dict.mem_entries_iff _ _ _).2 hkey⟩
  · exact withoutBlanks_modelText Layout.pretty_within hpretty u
  · exact ⟨modelText_inj Layout.compact_within hcompact, modelText_inj Layout.pretty_within hpretty⟩

end ServiceUnit

end ServiceScript
