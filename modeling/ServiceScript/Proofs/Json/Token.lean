import ServiceScript.Unit.ModelText

/-!
# ServiceScript — reading JSON texts

A program that is handed a unit reads it by the rules of JSON. The theory here
has a reader of its own, which knows nothing of how units are written. It goes
through the text character by character and finds its **tokens**, the strings and
the marks, with any blanks between them; what stands in a string is taken
literally except behind a backslash.

Units have no numbers, truth values or nulls, so the reader does without them,
and it refuses the escapes of half a surrogate pair. What it takes is JSON, and
means what it means there.

Main definitions:

* `Json.tokens?` — the tokens of a text, if it consists of tokens;
* `Json.withoutBlanks` — a text without the blanks outside of its strings;
* `Json.Written` — a text that writes tokens, with some characters between them.

Main results:

* `Json.Written.tokens?_eq` — what is written is read;
* `Json.Written.withoutBlanks_eq` — and without blanks there is one way to write it.
-/

namespace ServiceScript.Json

-- ---------------------------------------------------------------------------
-- Characters
-- ---------------------------------------------------------------------------

/-- The characters that may stand between tokens. -/
def blanks : List Char := [' ', '\t', '\n', '\r']

/-- The value of a hexadecimal digit, in upper or lower case. -/
def hexDigit? (c : Char) : Option Nat :=
  if '0' ≤ c ∧ c ≤ '9' then some (c.toNat - '0'.toNat)
  else if 'a' ≤ c ∧ c ≤ 'f' then some (c.toNat - 'a'.toNat + 10)
  else if 'A' ≤ c ∧ c ≤ 'F' then some (c.toNat - 'A'.toNat + 10)
  else none

/-- The character that `c` stands for behind a backslash. -/
def unescape? (c : Char) : Option Char :=
  if c = '"' ∨ c = '\\' ∨ c = '/' then some c
  else if c = 'b' then some '\x08'
  else if c = 'f' then some '\x0c'
  else if c = 'n' then some '\n'
  else if c = 'r' then some '\r'
  else if c = 't' then some '\t'
  else none

-- ---------------------------------------------------------------------------
-- Tokens
-- ---------------------------------------------------------------------------

/-- The parts of a text: its strings, and the marks around and between them. -/
inductive Token where
  | string (t : Text)
  | openArray
  | closeArray
  | openObject
  | closeObject
  | colon
  | comma
deriving DecidableEq, Repr

/-- The token that a character is outside of strings. -/
def Token.mark? (c : Char) : Option Token :=
  if c = '[' then some .openArray
  else if c = ']' then some .closeArray
  else if c = '\x7b' then some .openObject
  else if c = '\x7d' then some .closeObject
  else if c = ':' then some .colon
  else if c = ',' then some .comma
  else none

/-- Where in a text a reader is. -/
inductive Spot where
  | outside
  -- in a string, of which so much has been read
  | inside (read : Text)
  -- behind a backslash in it
  | escape (read : Text)
  -- before the last digits of a character, `left` and one more, with the value of
  -- those that have been read
  | digits (read : Text) (code left : Nat)
deriving DecidableEq, Repr

/-- Goes on by one character: the tokens that it completes, and the next spot. -/
def Spot.step : Spot → Char → Option (List Token × Spot)
  | .outside, c =>
    if c = '"' then some ([], .inside [])
    else if c ∈ blanks then some ([], .outside)
    else (Token.mark? c).map fun mark => ([mark], .outside)
  | .inside read, c =>
    if c = '"' then some ([.string read], .outside)
    else if c = '\\' then some ([], .escape read)
    else if c.toNat < 0x20 then none
    else some ([], .inside (read ++ [c]))
  | .escape read, c =>
    if c = 'u' then some ([], .digits read 0 3)
    else (unescape? c).map fun d => ([], .inside (read ++ [d]))
  | .digits read code left, c =>
    (hexDigit? c).bind fun d =>
      let code := 16 * code + d
      if 0 < left then some ([], .digits read code (left - 1))
      else if code.isValidChar then some ([], .inside (read ++ [Char.ofNat code]))
      else none

/-- The tokens of a text from a spot on. The text must not end in a string. -/
def Spot.tokens? : Spot → Text → Option (List Token)
  | .outside, [] => some []
  | _, [] => none
  | s, c :: rest =>
    match s.step c with
    | none => none
    | some (completed, s') => (s'.tokens? rest).map (completed ++ ·)

def tokens? (t : Text) : Option (List Token) := Spot.outside.tokens? t

-- ---------------------------------------------------------------------------
-- Texts without blanks
-- ---------------------------------------------------------------------------

/-- As much of where a reader is as tells whether a blank belongs to a string. -/
inductive Quoting where
  | outside
  | inside
  | escape

def Quoting.next : Quoting → Char → Quoting
  | .outside, c => if c = '"' then .inside else .outside
  | .inside, c => if c = '"' then .outside else if c = '\\' then .escape else .inside
  | .escape, _ => .inside

def Quoting.withoutBlanks : Quoting → Text → Text
  | _, [] => []
  | .outside, c :: rest =>
    if c ∈ blanks then Quoting.outside.withoutBlanks rest
    else c :: (Quoting.outside.next c).withoutBlanks rest
  | q, c :: rest => c :: (q.next c).withoutBlanks rest

/-- A text without the blanks outside of its strings. -/
def withoutBlanks (t : Text) : Text := Quoting.outside.withoutBlanks t

-- ---------------------------------------------------------------------------
-- Writing
-- ---------------------------------------------------------------------------

def Token.text : Token → Text
  | .string t => jsonString t
  | .openArray => ['[']
  | .closeArray => [']']
  | .openObject => ['\x7b']
  | .closeObject => ['\x7d']
  | .colon => [':']
  | .comma => [',']

/-- A text that writes tokens one behind another, where any of the characters in
`gaps` may stand between them. -/
inductive Written (gaps : List Char) : Text → List Token → Prop where
  | nil : Written gaps [] []
  | gap {c : Char} {t : Text} {ts : List Token} :
    c ∈ gaps → Written gaps t ts → Written gaps (c :: t) ts
  | token (tok : Token) {t : Text} {ts : List Token} :
    Written gaps t ts → Written gaps (tok.text ++ t) (tok :: ts)

namespace Written

variable {gaps : List Char} {s t : Text} {ts us : List Token}

/-- Two texts behind each other write the tokens of both. -/
theorem append (hs : Written gaps s ts) (ht : Written gaps t us) :
    Written gaps (s ++ t) (ts ++ us) := by
  induction hs with
  | nil => exact ht
  | gap hc _ ih => exact .gap hc ih
  | token tok _ ih =>
    rw [List.append_assoc]
    exact .token tok ih

theorem single (tok : Token) : Written gaps tok.text [tok] := by
  have h : Written gaps (tok.text ++ []) [tok] := .token tok .nil
  rwa [List.append_nil] at h

/-- A text of characters that may stand between tokens writes no token. -/
theorem of_subset (h : t ⊆ gaps) : Written gaps t [] := by
  induction t with
  | nil => exact .nil
  | cons c rest ih =>
    obtain ⟨hc, hrest⟩ := List.cons_subset.1 h
    exact .gap hc (ih hrest)

/-- Where nothing may stand between them, tokens are written in one way only. -/
theorem eq_flatMap (h : Written [] t ts) : t = ts.flatMap Token.text := by
  induction h with
  | nil => rfl
  | gap hc _ _ => exact absurd hc List.not_mem_nil
  | token tok _ ih => rw [List.flatMap_cons, ← ih]

end Written

-- ---------------------------------------------------------------------------
-- Escapes
-- ---------------------------------------------------------------------------

theorem hexDigit?_digitChar : ∀ d < 16, hexDigit? (Nat.digitChar d) = some d := by decide

/-- The escape of a control character, with its number in four digits. -/
def controlEscape (n : Nat) : Text :=
  ['\\', 'u', '0', '0', Nat.digitChar (n / 16), Nat.digitChar (n % 16)]

/-- The escape has the digits of the number, with as many zeros in front as are missing
to four. -/
theorem controlEscape_eq : ∀ n < 0x20,
    controlEscape n = if n < 0x10 then "\\u000" ++ Text.hex n else "\\u00" ++ Text.hex n := by
  decide

/-- The characters with an escape of their own, each with what stands behind the
backslash. -/
def escapes : List (Char × Char) :=
  [('"', '"'), ('\\', '\\'), ('\x08', 'b'), ('\x0c', 'f'), ('\n', 'n'), ('\r', 'r'), ('\t', 't')]

/-- A character with an escape of its own is written as it, and read back from it. -/
theorem jsonEscape_of_mem_escapes {c d : Char} (h : (c, d) ∈ escapes) :
    jsonEscape c = ['\\', d] ∧ unescape? d = some c := by
  have hall : escapes.all fun e => jsonEscape e.1 = ['\\', e.2] ∧ unescape? e.2 = some e.1 := by
    decide
  exact of_decide_eq_true (List.all_eq_true.1 hall (c, d) h)

/-- A character of a string is written with a backslash and one other character,
by its number, or as it is. -/
theorem jsonEscape_cases (c : Char) :
    (∃ d, jsonEscape c = ['\\', d] ∧ unescape? d = some c) ∨
      (c.toNat < 0x20 ∧ jsonEscape c = controlEscape c.toNat) ∨
      (¬ c.toNat < 0x20 ∧ c ≠ '"' ∧ c ≠ '\\' ∧ jsonEscape c = [c]) := by
  by_cases hescaped : c ∈ escapes.map Prod.fst
  · obtain ⟨⟨_, d⟩, hd, rfl⟩ := List.mem_map.1 hescaped
    exact .inl ⟨d, jsonEscape_of_mem_escapes hd⟩
  simp only [escapes, List.map_cons, List.map_nil, List.mem_cons, List.not_mem_nil, or_false,
    not_or] at hescaped
  obtain ⟨hquote, hbackslash, hbackspace, hfeed, hline, hreturn, htab⟩ := hescaped
  unfold jsonEscape
  rw [if_neg hquote, if_neg hbackslash, if_neg hbackspace, if_neg hfeed, if_neg hline,
    if_neg hreturn, if_neg htab]
  by_cases hcontrol : c.toNat < 0x20
  · refine .inr (.inl ⟨hcontrol, ?_⟩)
    rw [controlEscape_eq _ hcontrol, if_pos hcontrol]
  · have hnot : ¬ c.toNat < 0x10 := fun h => hcontrol (Nat.lt_trans h (by decide))
    refine .inr (.inr ⟨hcontrol, hquote, hbackslash, ?_⟩)
    rw [if_neg hnot, if_neg hcontrol]

-- ---------------------------------------------------------------------------
-- Reading what is written
-- ---------------------------------------------------------------------------

/-- The tokens of a text are those that its first character completes and those of the
rest. -/
theorem tokens?_cons_of_step {s s' : Spot} {c : Char} {completed : List Token}
    (h : s.step c = some (completed, s')) (rest : Text) :
    s.tokens? (c :: rest) = (s'.tokens? rest).map (completed ++ ·) := by
  rw [Spot.tokens?.eq_def]
  cases s <;> simp only [h]

/-- A character that completes no token. -/
theorem tokens?_cons_of_silent {s s' : Spot} {c : Char} (h : s.step c = some ([], s'))
    (rest : Text) : s.tokens? (c :: rest) = s'.tokens? rest := by
  rw [tokens?_cons_of_step h]
  simp only [List.nil_append, Option.map_id']

/-- A character that is a token by itself is read as that token. -/
theorem tokens?_cons_of_mark {c : Char} {tok : Token}
    (h : Spot.outside.step c = some ([tok], .outside)) (rest : Text) :
    Spot.outside.tokens? ([c] ++ rest) = (Spot.outside.tokens? rest).map (tok :: ·) :=
  tokens?_cons_of_step h rest

/-- A blank between tokens is passed over. -/
theorem tokens?_blank {c : Char} (h : c ∈ blanks) (rest : Text) :
    Spot.outside.tokens? (c :: rest) = Spot.outside.tokens? rest := by
  have hquote : c ≠ '"' := fun e => absurd (e ▸ h) (by decide)
  refine tokens?_cons_of_silent ?_ rest
  rw [Spot.step, if_neg hquote, if_pos h]

theorem step_backslash (read : Text) : (Spot.inside read).step '\\' = some ([], .escape read) := rfl

/-- A control character is read from its four digits. -/
theorem tokens?_controlEscape (read : Text) {c : Char} (h : c.toNat < 0x20) (rest : Text) :
    (Spot.inside read).tokens? (controlEscape c.toNat ++ rest) =
      (Spot.inside (read ++ [c])).tokens? rest := by
  have hhigh : hexDigit? (Nat.digitChar (c.toNat / 16)) = some (c.toNat / 16) :=
    hexDigit?_digitChar _ (by omega)
  have hlow : hexDigit? (Nat.digitChar (c.toNat % 16)) = some (c.toNat % 16) :=
    hexDigit?_digitChar _ (by omega)
  have hcode : 16 * (c.toNat / 16) + c.toNat % 16 = c.toNat := by omega
  have hu : (Spot.escape read).step 'u' = some ([], .digits read 0 3) := rfl
  have hzero (left : Nat) :
      (Spot.digits read 0 (left + 1)).step '0' = some ([], .digits read 0 left) := rfl
  have hfirst : (Spot.digits read 0 1).step (Nat.digitChar (c.toNat / 16)) =
      some ([], .digits read (c.toNat / 16) 0) := by
    simp [Spot.step, hhigh]
  have hlast : (Spot.digits read (c.toNat / 16) 0).step (Nat.digitChar (c.toNat % 16)) =
      some ([], .inside (read ++ [c])) := by
    have hvalid : c.toNat.isValidChar := c.valid
    simp [Spot.step, hlow, hcode, hvalid]
  unfold controlEscape
  refine (tokens?_cons_of_silent (step_backslash read) _).trans ?_
  refine (tokens?_cons_of_silent hu _).trans ?_
  refine (tokens?_cons_of_silent (hzero 2) _).trans ?_
  refine (tokens?_cons_of_silent (hzero 1) _).trans ?_
  exact (tokens?_cons_of_silent hfirst _).trans (tokens?_cons_of_silent hlast rest)

/-- Within a string a character is read back from the way it is written. -/
theorem tokens?_jsonEscape (read : Text) (c : Char) (rest : Text) :
    (Spot.inside read).tokens? (jsonEscape c ++ rest) =
      (Spot.inside (read ++ [c])).tokens? rest := by
  rcases jsonEscape_cases c with ⟨d, hd, hc⟩ | ⟨hcontrol, hc⟩ | ⟨hcontrol, hquote, hbackslash, hc⟩
  · have hu : d ≠ 'u' := fun e => by simp [e, unescape?] at hc
    rw [hd]
    refine (tokens?_cons_of_silent (step_backslash read) _).trans ?_
    refine tokens?_cons_of_silent ?_ rest
    rw [Spot.step, if_neg hu, hc]
    rfl
  · rw [hc]
    exact tokens?_controlEscape read hcontrol rest
  · rw [hc]
    refine tokens?_cons_of_silent ?_ rest
    rw [Spot.step, if_neg hquote, if_neg hbackslash, if_neg hcontrol]

/-- Within a string a text is read back from the way it is written. -/
theorem tokens?_flatMap_jsonEscape (read t rest : Text) :
    (Spot.inside read).tokens? (t.flatMap jsonEscape ++ rest) =
      (Spot.inside (read ++ t)).tokens? rest := by
  induction t generalizing read with
  | nil => rw [List.flatMap_nil, List.nil_append, List.append_nil]
  | cons c t ih =>
    rw [List.flatMap_cons, List.append_assoc, tokens?_jsonEscape, ih, List.append_assoc]
    rfl

/-- A token is read back from its text. -/
theorem tokens?_text (tok : Token) (rest : Text) :
    Spot.outside.tokens? (tok.text ++ rest) = (Spot.outside.tokens? rest).map (tok :: ·) := by
  cases tok with
  | string t =>
    have hopen : Spot.outside.step '"' = some ([], .inside []) := rfl
    have hclose : (Spot.inside t).step '"' = some ([.string t], .outside) := rfl
    rw [Token.text, jsonString, List.cons_append, List.cons_append, List.append_assoc,
      tokens?_cons_of_silent hopen, tokens?_flatMap_jsonEscape, List.nil_append]
    exact tokens?_cons_of_step hclose rest
  | openArray | closeArray | openObject | closeObject | colon | comma =>
    refine tokens?_cons_of_mark ?_ rest
    rfl

/-- What writes tokens, with blanks between them, is read as these tokens. -/
theorem Written.tokens?_eq {gaps : List Char} {t : Text} {ts : List Token} (h : Written gaps t ts)
    (hgaps : gaps ⊆ blanks) : tokens? t = some ts := by
  unfold tokens?
  induction h with
  | nil => rfl
  | gap hc _ ih => rw [tokens?_blank (hgaps hc), ih]
  | token tok _ ih => rw [tokens?_text, ih, Option.map_some]

-- ---------------------------------------------------------------------------
-- Taking the blanks out of what is written
-- ---------------------------------------------------------------------------

theorem digitChar_ne : ∀ d < 16, Nat.digitChar d ≠ '"' ∧ Nat.digitChar d ≠ '\\' := by decide

section WithoutBlanks

variable (rest : Text)

/-- Within a string a character that is neither a quote nor a backslash is kept, a blank
too. -/
theorem withoutBlanks_plain {c : Char} (hquote : c ≠ '"') (hbackslash : c ≠ '\\') :
    Quoting.inside.withoutBlanks (c :: rest) = c :: Quoting.inside.withoutBlanks rest := by
  simp [Quoting.withoutBlanks, Quoting.next, hquote, hbackslash]

/-- Within a string a backslash is kept, and so is the character behind it. -/
theorem withoutBlanks_backslash (c : Char) :
    Quoting.inside.withoutBlanks ('\\' :: c :: rest) =
      '\\' :: c :: Quoting.inside.withoutBlanks rest := rfl

/-- A character that is written in a string keeps its written form. -/
theorem withoutBlanks_jsonEscape (c : Char) :
    Quoting.inside.withoutBlanks (jsonEscape c ++ rest) =
      jsonEscape c ++ Quoting.inside.withoutBlanks rest := by
  rcases jsonEscape_cases c with ⟨d, hd, -⟩ | ⟨hcontrol, hc⟩ | ⟨-, hquote, hbackslash, hc⟩
  · rw [hd]
    exact withoutBlanks_backslash rest d
  · obtain ⟨hhighquote, hhighbackslash⟩ := digitChar_ne (c.toNat / 16) (by omega)
    obtain ⟨hlowquote, hlowbackslash⟩ := digitChar_ne (c.toNat % 16) (by omega)
    have hzero (t : Text) : Quoting.inside.withoutBlanks ('0' :: t) =
        '0' :: Quoting.inside.withoutBlanks t :=
      withoutBlanks_plain t (by decide) (by decide)
    rw [hc, controlEscape]
    simp only [List.cons_append, List.nil_append]
    rw [withoutBlanks_backslash, hzero, hzero, withoutBlanks_plain _ hhighquote hhighbackslash,
      withoutBlanks_plain _ hlowquote hlowbackslash]
  · rw [hc]
    exact withoutBlanks_plain rest hquote hbackslash

/-- A text that is written in a string keeps its written form. -/
theorem withoutBlanks_flatMap_jsonEscape (t : Text) :
    Quoting.inside.withoutBlanks (t.flatMap jsonEscape ++ rest) =
      t.flatMap jsonEscape ++ Quoting.inside.withoutBlanks rest := by
  induction t with
  | nil => rfl
  | cons c t ih =>
    rw [List.flatMap_cons, List.append_assoc, withoutBlanks_jsonEscape, ih, List.append_assoc]

/-- A token keeps its text. -/
theorem withoutBlanks_text (tok : Token) :
    Quoting.outside.withoutBlanks (tok.text ++ rest) =
      tok.text ++ Quoting.outside.withoutBlanks rest := by
  cases tok with
  | string t =>
    have hopen (u : Text) : Quoting.outside.withoutBlanks ('"' :: u) =
        '"' :: Quoting.inside.withoutBlanks u := rfl
    have hclose : Quoting.inside.withoutBlanks ('"' :: rest) =
        '"' :: Quoting.outside.withoutBlanks rest := rfl
    rw [Token.text, jsonString]
    simp only [List.cons_append, List.append_assoc, List.nil_append]
    rw [hopen, withoutBlanks_flatMap_jsonEscape, hclose]
  | openArray | closeArray | openObject | closeObject | colon | comma => rfl

end WithoutBlanks

/-- Without the blanks between them tokens are written in one way only. -/
theorem Written.withoutBlanks_eq {gaps : List Char} {t : Text} {ts : List Token}
    (h : Written gaps t ts) (hgaps : gaps ⊆ blanks) :
    withoutBlanks t = ts.flatMap Token.text := by
  unfold withoutBlanks
  induction h with
  | nil => rfl
  | gap hc _ ih => rw [Quoting.withoutBlanks, if_pos (hgaps hc), ih]
  | token tok _ ih => rw [withoutBlanks_text, ih, List.flatMap_cons]

end ServiceScript.Json
