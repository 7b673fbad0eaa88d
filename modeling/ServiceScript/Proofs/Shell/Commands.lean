import ServiceScript.Proofs.Shell.Reader
import ServiceScript.Proofs.Text.Lines

/-!
# ServiceScript — commands and words of a script

A shell takes the quotes of a text off, and cuts what is left at its line ends
into commands and at its blanks into words; but only where line ends and blanks
are not quoted. This is done here in two steps. The characters are turned into
**tokens** first, with a state for the quotes, and the tokens are cut. Nothing is
expanded: a character that a shell would act upon stays in its word, with a mark
on it.

A script is put together of pieces that the shell reads one behind another, so
there is a judgment for each kind of piece: a word, the words of a line, and
whole lines.

Main definitions:

* `Shell.commands?` — the commands of a text, as lists of words;
* `Shell.specials?` — the characters that a shell would act upon.

Main results:

* `Shell.readsWord_word` — a quoted text is one word without such characters;
* `Shell.ReadsCommands.append`, `Shell.ReadsCommands.flatMap` — texts of whole
  lines are read one behind another.
-/

namespace ServiceScript.Shell

-- ---------------------------------------------------------------------------
-- Tokens
-- ---------------------------------------------------------------------------

/-- What the characters of a text are to a shell. -/
inductive Token where
  -- a character of a word, and whether the shell would act upon it
  | letter (c : Char) (special : Bool)
  -- the beginning of a quotation, which makes a word of nothing as well
  | quotes
  | blank
  | lineEnd
deriving DecidableEq

def Token.char? : Token → Option Char
  | .letter c _ => some c
  | _ => none

def Token.special? : Token → Option Char
  | .letter c true => some c
  | _ => none

/-- Reads one character: the tokens that it gives, and the state behind it. -/
def next : QuoteState → Char → List Token × QuoteState
  | .bare, c =>
    if c = '\n' then ([.lineEnd], .bare)
    else if c = ' ' ∨ c = '\t' then ([.blank], .bare)
    else if c = '\'' then ([.quotes], .single)
    else if c = '"' then ([.quotes], .double)
    else if c = '\\' then ([], .escaped)
    else ([.letter c (isSpecial .bare c)], .bare)
  | .single, c =>
    if c = '\'' then ([], .bare) else ([.letter c false], .single)
  | .double, c =>
    if c = '"' then ([], .bare)
    else if c = '\\' then ([], .doubleEscaped)
    else ([.letter c (isSpecial .double c)], .double)
  | .escaped, c =>
    -- an escaped line end goes on with the line
    if c = '\n' then ([], .bare) else ([.letter c false], .bare)
  | .doubleEscaped, c =>
    if c = '\n' then ([], .double)
    else if ("$\x60\"\\" : Text).contains c then ([.letter c false], .double)
    else ([.letter '\\' false, .letter c false], .double)

/-- The tokens that a text gives from a state on, and the state behind it. -/
def scan : QuoteState → Text → List Token × QuoteState
  | state, [] => ([], state)
  | state, c :: rest =>
    ((next state c).1 ++ (scan (next state c).2 rest).1, (scan (next state c).2 rest).2)

/-- A text is read from where the one before it leaves the reader. -/
theorem scan_append (state : QuoteState) (t u : Text) :
    scan state (t ++ u) =
      ((scan state t).1 ++ (scan (scan state t).2 u).1, (scan (scan state t).2 u).2) := by
  induction t generalizing state with
  | nil => rfl
  | cons c rest ih => rw [List.cons_append, scan, ih, scan, List.append_assoc]

-- ---------------------------------------------------------------------------
-- Commands and words
-- ---------------------------------------------------------------------------

def spelled (ts : List Token) : Text := ts.filterMap Token.char?

def specials (ts : List Token) : Text := ts.filterMap Token.special?

/-- The words between the blanks of a line. -/
def words (line : List Token) : List Text :=
  ((line.splitOn .blank).filter (· ≠ [])).map spelled

/-- The lines that have words. -/
def commands (ts : List Token) : List (List Text) :=
  ((ts.splitOn .lineEnd).map words).filter (· ≠ [])

/-- The commands of a text. There are none if a quotation is not closed. -/
def commands? (t : Text) : Option (List (List Text)) :=
  if (scan .bare t).2 = .bare then some (commands (scan .bare t).1) else none

/-- The characters of a text that a shell would act upon, in their order. -/
def specials? (t : Text) : Option Text :=
  if (scan .bare t).2 = .bare then some (specials (scan .bare t).1) else none

/-- A blank parts the words before it from those behind it. -/
theorem words_append_blank (line rest : List Token) :
    words (line ++ .blank :: rest) = words line ++ words rest := by
  unfold words
  rw [List.splitOn_append_cons_self, List.filter_append, List.map_append]

/-- Tokens without a blank are one word, also where nothing is spelled. -/
theorem words_of_notMem {ts : List Token} (hne : ts ≠ []) (hblank : Token.blank ∉ ts) :
    words ts = [spelled ts] := by
  unfold words
  rw [List.splitOn_eq_singleton hblank]
  simp [hne]

/-- A line end parts the commands before it from those behind it. -/
theorem commands_append_lineEnd (ts rest : List Token) :
    commands (ts ++ .lineEnd :: rest) = commands ts ++ commands rest := by
  unfold commands
  rw [List.splitOn_append_cons_self, List.map_append, List.filter_append]

theorem commands_of_notMem {ts : List Token} (hlineEnd : Token.lineEnd ∉ ts)
    (hwords : words ts ≠ []) : commands ts = [words ts] := by
  unfold commands
  rw [List.splitOn_eq_singleton hlineEnd]
  simp [hwords]

-- ---------------------------------------------------------------------------
-- Pieces of a text
-- ---------------------------------------------------------------------------

/-- A text that is read as a part of a word, and as a whole word between blanks. -/
structure ReadsWord (t : Text) (word special : Text) : Prop where
  state : (scan .bare t).2 = .bare
  ne_nil : (scan .bare t).1 ≠ []
  noBlank : Token.blank ∉ (scan .bare t).1
  noLineEnd : Token.lineEnd ∉ (scan .bare t).1
  spelled : spelled (scan .bare t).1 = word
  specials : specials (scan .bare t).1 = special

/-- A text that is read as words of one line. -/
structure ReadsWords (t : Text) (line : List Text) (special : Text) : Prop where
  state : (scan .bare t).2 = .bare
  noLineEnd : Token.lineEnd ∉ (scan .bare t).1
  words : words (scan .bare t).1 = line
  specials : specials (scan .bare t).1 = special

instance (t word special : Text) : Decidable (ReadsWord t word special) :=
  decidable_of_iff
    ((scan .bare t).2 = .bare ∧ (scan .bare t).1 ≠ [] ∧ Token.blank ∉ (scan .bare t).1 ∧
      Token.lineEnd ∉ (scan .bare t).1 ∧ spelled (scan .bare t).1 = word ∧
      specials (scan .bare t).1 = special)
    ⟨fun ⟨h₁, h₂, h₃, h₄, h₅, h₆⟩ => ⟨h₁, h₂, h₃, h₄, h₅, h₆⟩,
      fun h => ⟨h.state, h.ne_nil, h.noBlank, h.noLineEnd, h.spelled, h.specials⟩⟩

instance (t : Text) (line : List Text) (special : Text) : Decidable (ReadsWords t line special) :=
  decidable_of_iff
    ((scan .bare t).2 = .bare ∧ Token.lineEnd ∉ (scan .bare t).1 ∧
      words (scan .bare t).1 = line ∧ specials (scan .bare t).1 = special)
    ⟨fun ⟨h₁, h₂, h₃, h₄⟩ => ⟨h₁, h₂, h₃, h₄⟩,
      fun h => ⟨h.state, h.noLineEnd, h.words, h.specials⟩⟩

/-- A text that is read as whole lines: what stands behind it is read apart. -/
structure ReadsCommands (t : Text) (lines : List (List Text)) (special : Text) : Prop where
  state : (scan .bare t).2 = .bare
  commands : ∀ rest, commands ((scan .bare t).1 ++ rest) = lines ++ Shell.commands rest
  specials : specials (scan .bare t).1 = special

theorem scan_append_of_bare {t : Text} (h : (scan .bare t).2 = .bare) (u : Text) :
    scan .bare (t ++ u) = ((scan .bare t).1 ++ (scan .bare u).1, (scan .bare u).2) := by
  rw [scan_append, h]

/-- Two parts of a word, one right behind the other, are a longer part of it. -/
theorem ReadsWord.append {t u word word' special special' : Text}
    (ht : ReadsWord t word special) (hu : ReadsWord u word' special') :
    ReadsWord (t ++ u) (word ++ word') (special ++ special') := by
  have hscan := scan_append_of_bare ht.state u
  constructor
  · rw [hscan]
    exact hu.state
  · rw [hscan]
    exact List.append_ne_nil_of_left_ne_nil ht.ne_nil _
  · rw [hscan, List.mem_append, not_or]
    exact ⟨ht.noBlank, hu.noBlank⟩
  · rw [hscan, List.mem_append, not_or]
    exact ⟨ht.noLineEnd, hu.noLineEnd⟩
  · rw [hscan, Shell.spelled, List.filterMap_append, ← ht.spelled, ← hu.spelled]
    rfl
  · rw [hscan, Shell.specials, List.filterMap_append, ← ht.specials, ← hu.specials]
    rfl

theorem ReadsWord.words {t word special : Text} (h : ReadsWord t word special) :
    ReadsWords t [word] special where
  state := h.state
  noLineEnd := h.noLineEnd
  words := by rw [words_of_notMem h.ne_nil h.noBlank, h.spelled]
  specials := h.specials

/-- Words in front of a blank, and words behind it. -/
theorem ReadsWords.append {t u special special' : Text} {line line' : List Text}
    (ht : ReadsWords t line special) (hu : ReadsWords u line' special') :
    ReadsWords (t ++ " " ++ u) (line ++ line') (special ++ special') := by
  have hblank : scan .bare (" " ++ u) = (.blank :: (scan .bare u).1, (scan .bare u).2) := rfl
  have hscan := scan_append_of_bare ht.state (" " ++ u)
  rw [hblank, ← List.append_assoc] at hscan
  constructor
  · rw [hscan]
    exact hu.state
  · rw [hscan, List.mem_append, List.mem_cons, not_or, not_or]
    exact ⟨ht.noLineEnd, by decide, hu.noLineEnd⟩
  · rw [hscan, words_append_blank, ht.words, hu.words]
  · rw [hscan, Shell.specials, List.filterMap_append, ← ht.specials, ← hu.specials]
    rfl

/-- Blanks in front of a line are in front of its first word. -/
theorem ReadsWords.indent {t special : Text} {line : List Text} (h : ReadsWords t line special) :
    ReadsWords ("  " ++ t) line special := by
  have hnothing : ReadsWords [] [] [] := by decide
  exact hnothing.append (hnothing.append h)

theorem scan_lineEnd {t : Text} (h : (scan .bare t).2 = .bare) :
    scan .bare (t ++ "\n") = ((scan .bare t).1 ++ [.lineEnd], .bare) :=
  scan_append_of_bare h "\n"

/-- A text is whole lines if a line end stands behind it. -/
theorem readsCommands_lineEnd {t : Text} (h : (scan .bare t).2 = .bare) :
    ReadsCommands (t ++ "\n") (commands (scan .bare t).1) (specials (scan .bare t).1) where
  state := by rw [scan_lineEnd h]
  commands rest := by
    rw [scan_lineEnd h, List.append_assoc]
    exact commands_append_lineEnd _ rest
  specials := by
    rw [scan_lineEnd h, Shell.specials, List.filterMap_append]
    exact List.append_nil _

/-- A line that has words is one command. -/
theorem ReadsWords.commands {t first special : Text} {others : List Text}
    (h : ReadsWords t (first :: others) special) :
    ReadsCommands (t ++ "\n") [first :: others] special := by
  have hwords : Shell.words (scan .bare t).1 ≠ [] := by
    rw [h.words]
    exact List.cons_ne_nil _ _
  have hlines := readsCommands_lineEnd h.state
  rw [commands_of_notMem h.noLineEnd hwords, h.words, h.specials] at hlines
  exact hlines

theorem readsCommands_nil : ReadsCommands [] [] [] := ⟨rfl, fun _ => rfl, rfl⟩

/-- Whole lines are read apart from those behind them. -/
theorem ReadsCommands.append {t u special special' : Text} {lines lines' : List (List Text)}
    (ht : ReadsCommands t lines special) (hu : ReadsCommands u lines' special') :
    ReadsCommands (t ++ u) (lines ++ lines') (special ++ special') := by
  have hscan := scan_append_of_bare ht.state u
  constructor
  · rw [hscan]
    exact hu.state
  · intro rest
    rw [hscan, List.append_assoc, ht.commands, hu.commands, List.append_assoc]
  · rw [hscan, Shell.specials, List.filterMap_append, ← ht.specials, ← hu.specials]
    rfl

/-- The lines of a list are read element by element. -/
theorem ReadsCommands.flatMap {α : Type} {written : α → Text} {lines : α → List (List Text)}
    {special : α → Text} (h : ∀ x, ReadsCommands (written x) (lines x) (special x))
    (xs : List α) :
    ReadsCommands (xs.flatMap written) (xs.flatMap lines) (xs.flatMap special) := by
  induction xs with
  | nil => exact readsCommands_nil
  | cons x rest ih =>
    rw [List.flatMap_cons, List.flatMap_cons, List.flatMap_cons]
    exact (h x).append ih

theorem ReadsCommands.commands?_eq {t special : Text} {lines : List (List Text)}
    (h : ReadsCommands t lines special) : commands? t = some lines := by
  have hcommands := h.commands []
  rw [List.append_nil] at hcommands
  rw [commands?, if_pos h.state, hcommands]
  exact congrArg some (List.append_nil lines)

theorem ReadsCommands.specials?_eq {t special : Text} {lines : List (List Text)}
    (h : ReadsCommands t lines special) : specials? t = some special := by
  rw [specials?, if_pos h.state, h.specials]

-- ---------------------------------------------------------------------------
-- Quoted texts
-- ---------------------------------------------------------------------------

/-- Characters that are no more than characters. -/
def letters (t : Text) : List Token := t.map fun c => .letter c false

theorem next_bare {c : Char} (hc : isPlain c = true) :
    next .bare c = ([.letter c false], .bare) := by
  have hline : c ≠ '\n' := ne_of_isPlain hc (by decide)
  have hspace : c ≠ ' ' := ne_of_isPlain hc (by decide)
  have htab : c ≠ '\t' := ne_of_isPlain hc (by decide)
  have hsingle : c ≠ '\'' := ne_of_isPlain hc (by decide)
  have hdouble : c ≠ '"' := ne_of_isPlain hc (by decide)
  have hbackslash : c ≠ '\\' := ne_of_isPlain hc (by decide)
  rw [next, if_neg hline, if_neg (not_or.2 ⟨hspace, htab⟩), if_neg hsingle, if_neg hdouble,
    if_neg hbackslash, isSpecial_of_isPlain hc]

/-- Outside of quotes plain characters are no more than characters. -/
theorem scan_bare {t : Text} (h : ∀ c ∈ t, isPlain c = true) :
    scan .bare t = (letters t, .bare) := by
  induction t with
  | nil => rfl
  | cons c rest ih =>
    rw [scan, next_bare (h c List.mem_cons_self), ih fun d hd => h d (List.mem_cons_of_mem _ hd)]
    rfl

theorem next_single {c : Char} (hc : c ≠ '\'') :
    next .single c = ([.letter c false], .single) := by
  rw [next, if_neg hc]

/-- All up to the closing quote is no more than characters between single quotes. -/
theorem scan_single {t : Text} (h : '\'' ∉ t) :
    scan .single (t ++ ['\'']) = (letters t, .bare) := by
  induction t with
  | nil => rfl
  | cons c rest ih =>
    have hc : c ≠ '\'' := fun e => h (e ▸ List.mem_cons_self)
    rw [List.cons_append, scan, next_single hc, ih fun hm => h (List.mem_cons_of_mem _ hm)]
    rfl

/-- A character between double quotes, with the backslash in front of it if it
has one. -/
theorem scan_escapeDouble {c : Char} (h : isSpecial .double c = false) :
    scan .double (escapeDouble c) = ([.letter c false], .double) := by
  by_cases he : c = '"' ∨ c = '\\'
  · rw [escapeDouble, if_pos he]
    rcases he with rfl | rfl
    · rfl
    · rfl
  · obtain ⟨hdouble, hbackslash⟩ := not_or.1 he
    rw [escapeDouble, if_neg he, scan, next, if_neg hdouble, if_neg hbackslash, h]
    rfl

/-- Between double quotes the escaped form of a text is read as the text. -/
theorem scan_double {t : Text} (h : ∀ c ∈ t, isSpecial .double c = false) :
    scan .double (t.flatMap escapeDouble ++ ['"']) = (letters t, .bare) := by
  induction t with
  | nil => rfl
  | cons c rest ih =>
    have hc := scan_escapeDouble (h c List.mem_cons_self)
    rw [List.flatMap_cons, List.append_assoc, scan_append, hc,
      ih fun d hd => h d (List.mem_cons_of_mem _ hd)]
    rfl

def Chunk.tokens (chunk : Chunk) : List Token :=
  match chunk.style with
  | .bare => letters chunk.text
  | _ => .quotes :: letters chunk.text

/-- What is written of a chunk gives its tokens, and leaves no quotation open. -/
theorem scan_write {chunk : Chunk} (h : chunk.Carried) :
    scan .bare chunk.write = (chunk.tokens, .bare) := by
  obtain ⟨style, t⟩ := chunk
  cases style with
  | bare => exact scan_bare h
  | single =>
    have ht : '\'' ∉ t := fun hm => absurd (h _ hm) (by simp [Style.carries])
    -- the opening quote is one step, and what it leaves is read between quotes
    show (.quotes :: (scan .single (t ++ ['\''])).1, (scan .single (t ++ ['\''])).2) =
      (Token.quotes :: letters t, QuoteState.bare)
    rw [scan_single ht]
  | double =>
    have ht : ∀ c ∈ t, isSpecial .double c = false := fun c hc => isSpecial_of_carries (h c hc)
    show (.quotes :: (scan .double (t.flatMap escapeDouble ++ ['"'])).1,
        (scan .double (t.flatMap escapeDouble ++ ['"'])).2) =
      (Token.quotes :: letters t, QuoteState.bare)
    rw [scan_double ht]

theorem scan_flatMap_write {ks : List Chunk} (h : ∀ k ∈ ks, k.Carried) :
    scan .bare (ks.flatMap Chunk.write) = (ks.flatMap Chunk.tokens, .bare) := by
  induction ks with
  | nil => rfl
  | cons k ks ih =>
    rw [List.flatMap_cons, List.flatMap_cons, scan_append, scan_write (h k List.mem_cons_self),
      ih fun j hj => h j (List.mem_cons_of_mem _ hj)]

/-- A token that neither ends a word nor is acted upon. -/
def Token.Harmless (k : Token) : Prop := k = .quotes ∨ ∃ c, k = .letter c false

theorem harmless_of_mem_letters {t : Text} {k : Token} (h : k ∈ letters t) : k.Harmless := by
  obtain ⟨c, -, hc⟩ := List.mem_map.1 h
  exact .inr ⟨c, hc.symm⟩

/-- No token of a chunk ends a word, nor does a shell act upon one. -/
theorem harmless_of_mem_tokens {chunk : Chunk} {k : Token} (h : k ∈ chunk.tokens) :
    k.Harmless := by
  unfold Chunk.tokens at h
  split at h
  · exact harmless_of_mem_letters h
  · rcases List.mem_cons.1 h with hquotes | hk
    · exact .inl hquotes
    · exact harmless_of_mem_letters hk

theorem spelled_letters (t : Text) : spelled (letters t) = t := by
  rw [spelled, letters, List.filterMap_map]
  exact List.filterMap_some

/-- The tokens of a chunk spell its text. -/
theorem spelled_tokens (chunk : Chunk) : spelled chunk.tokens = chunk.text := by
  unfold Chunk.tokens
  split
  · exact spelled_letters chunk.text
  · exact spelled_letters chunk.text

theorem spelled_flatMap_tokens (ks : List Chunk) :
    spelled (ks.flatMap Chunk.tokens) = ks.flatMap Chunk.text := by
  have htexts : (fun k : Chunk => spelled k.tokens) = Chunk.text := funext spelled_tokens
  rw [← htexts]
  exact List.filterMap_flatMap

/-- A text of harmless tokens is a part of a word that nothing in it is acted upon. -/
theorem readsWord_of_harmless {t : Text} {ts : List Token} (hscan : scan .bare t = (ts, .bare))
    (hne : ts ≠ []) (h : ∀ k ∈ ts, k.Harmless) : ReadsWord t (spelled ts) [] := by
  constructor
  · rw [hscan]
  · rw [hscan]
    exact hne
  · rw [hscan]
    intro hblank
    rcases h _ hblank with hquotes | ⟨c, hletter⟩
    · cases hquotes
    · cases hletter
  · rw [hscan]
    intro hlineEnd
    rcases h _ hlineEnd with hquotes | ⟨c, hletter⟩
    · cases hquotes
    · cases hletter
  · rw [hscan]
  · rw [hscan, specials, List.filterMap_eq_nil_iff]
    intro k hk
    rcases h k hk with rfl | ⟨c, rfl⟩
    · rfl
    · rfl

/-- A text of plain characters is a word that needs no quotes. -/
theorem readsWord_plain {t : Text} (h : t ≠ [] ∧ t.all isPlain = true) : ReadsWord t t [] := by
  obtain ⟨hne, hall⟩ := h
  have hplain : ∀ c ∈ t, isPlain c = true := List.all_eq_true.1 hall
  have hletters : letters t ≠ [] := fun hnil => hne (List.map_eq_nil_iff.1 hnil)
  have hword := readsWord_of_harmless (scan_bare hplain) hletters
    fun _ hk => harmless_of_mem_letters hk
  rw [spelled_letters] at hword
  exact hword

/-- **A quoted text is one word**, whatever the text is, and nothing in it is
left for a shell to act upon. -/
theorem readsWord_word (t : Text) : ReadsWord (word t) t [] := by
  by_cases ht : t = []
  · rw [ht]
    decide
  · have hspelled : spelled ((chunks t).flatMap Chunk.tokens) = t := by
      rw [spelled_flatMap_tokens, text_chunks]
    have hne : (chunks t).flatMap Chunk.tokens ≠ [] := by
      intro hnil
      rw [hnil] at hspelled
      exact ht hspelled.symm
    have hharmless : ∀ k ∈ (chunks t).flatMap Chunk.tokens, k.Harmless := by
      intro k hk
      obtain ⟨chunk, -, hmem⟩ := List.mem_flatMap.1 hk
      exact harmless_of_mem_tokens hmem
    have hword := readsWord_of_harmless (scan_flatMap_write (carried_chunks t)) hne hharmless
    rw [hspelled] at hword
    rw [word, if_neg ht]
    exact hword

-- without the quotes these would be two commands, with an expansion in the second
example : ReadsWords ("echo " ++ word "a\n$(id)") ["echo", "a\n$(id)"] [] := by decide

end ServiceScript.Shell
