import ServiceScript.Text.Basic

/-!
# ServiceScript — what a text leaves open

A shell that reads a text is at each character in one of a few states: outside of
quotes and comments, in one of the two kinds of quotes, behind a backslash, or in
a comment. What stands behind a text is read as commands only if the text leaves
nothing open. Which texts do is told here in two ways: by the state that the
characters lead to one after another, and by the **pieces** that the text is made
of, each of which is closed where it ends.

Main definitions:

* `LexState.behind` — the state behind a text;
* `Whole` — the texts that are made of closed pieces.

Main result: `LexState.isOutside_behind_iff`.
-/

namespace ServiceScript

-- ---------------------------------------------------------------------------
-- States
-- ---------------------------------------------------------------------------

/-- Where a shell stands that reads a text. -/
inductive LexState where
  -- outside of quotes and comments, in a word or where one can begin
  | outside (inWord : Bool)
  -- outside of quotes, behind a backslash
  | escaped (inWord : Bool)
  | single
  | double
  -- between double quotes, behind a backslash
  | doubleEscaped
  -- behind a number sign that stands where a word can begin
  | comment
deriving DecidableEq

/-- Whether a character stands between words: a blank, a line end, or a part of an
operator. -/
def separatesWords (c : Char) : Bool := (" \t\n|&;<>()" : Text).contains c

namespace LexState

def next : LexState → Char → LexState
  | .outside inWord, c =>
    if c = '\'' then .single
    else if c = '"' then .double
    else if c = '\\' then .escaped inWord
    else if separatesWords c then .outside false
    else if c = '#' ∧ inWord = false then .comment
    else .outside true
  -- a line end behind a backslash is nothing, so the word goes on if there is one
  | .escaped inWord, c => if c = '\n' then .outside inWord else .outside true
  | .single, c => if c = '\'' then .outside true else .single
  | .double, c =>
    if c = '"' then .outside true else if c = '\\' then .doubleEscaped else .double
  | .doubleEscaped, _ => .double
  | .comment, c => if c = '\n' then .outside false else .comment

/-- The state behind a text that is read from a state on. -/
def behind (state : LexState) (t : Text) : LexState := t.foldl next state

def isOutside : LexState → Bool
  | .outside _ => true
  | _ => false

theorem behind_cons (state : LexState) (c : Char) (t : Text) :
    state.behind (c :: t) = (state.next c).behind t := rfl

theorem behind_append (state : LexState) (t u : Text) :
    state.behind (t ++ u) = (state.behind t).behind u := List.foldl_append

end LexState

-- ---------------------------------------------------------------------------
-- Pieces
-- ---------------------------------------------------------------------------

/-- What can stand between double quotes. -/
inductive DoubleQuoted : Text → Prop
  | nil : DoubleQuoted []
  | letter {c : Char} {t : Text} : c ≠ '"' → c ≠ '\\' → DoubleQuoted t → DoubleQuoted (c :: t)
  | escaped {t : Text} (c : Char) : DoubleQuoted t → DoubleQuoted ('\\' :: c :: t)

/-- A character that is one of a word and no more, if it is not a number sign that
begins one. -/
def IsLetter (c : Char) : Prop :=
  c ≠ '\'' ∧ c ≠ '"' ∧ c ≠ '\\' ∧ separatesWords c = false

/-- A text of closed pieces, behind the beginning of a word or where one can
begin. -/
inductive Whole : Bool → Text → Prop
  | nil (inWord : Bool) : Whole inWord []
  | separator {inWord : Bool} {c : Char} {rest : Text} :
      separatesWords c = true → Whole false rest → Whole inWord (c :: rest)
  -- a number sign is a letter in the middle of a word
  | letter {inWord : Bool} {c : Char} {rest : Text} :
      IsLetter c → (c = '#' → inWord = true) → Whole true rest → Whole inWord (c :: rest)
  | escaped {inWord : Bool} {c : Char} {rest : Text} :
      c ≠ '\n' → Whole true rest → Whole inWord ('\\' :: c :: rest)
  -- an escaped line end is nothing
  | continued {inWord : Bool} {rest : Text} :
      Whole inWord rest → Whole inWord ('\\' :: '\n' :: rest)
  | single {inWord : Bool} {t rest : Text} :
      '\'' ∉ t → Whole true rest → Whole inWord ('\'' :: (t ++ '\'' :: rest))
  | double {inWord : Bool} {t rest : Text} :
      DoubleQuoted t → Whole true rest → Whole inWord ('"' :: (t ++ '"' :: rest))
  -- a comment is closed by the end of its line
  | comment {t rest : Text} :
      '\n' ∉ t → Whole false rest → Whole false ('#' :: (t ++ '\n' :: rest))

namespace LexState

-- ---------------------------------------------------------------------------
-- One piece
-- ---------------------------------------------------------------------------

theorem next_outside_separator (inWord : Bool) {c : Char} (h : separatesWords c = true) :
    next (.outside inWord) c = .outside false := by
  have hmem : c ∈ [' ', '\t', '\n', '|', '&', ';', '<', '>', '(', ')'] := List.contains_iff_mem.1 h
  simp only [List.mem_cons, List.not_mem_nil, or_false] at hmem
  rcases hmem with rfl | rfl | rfl | rfl | rfl | rfl | rfl | rfl | rfl | rfl <;> rfl

/-- A letter goes on with a word or begins one. A number sign must be within it. -/
theorem next_outside_letter {inWord : Bool} {c : Char} (h : IsLetter c)
    (hsign : c = '#' → inWord = true) : next (.outside inWord) c = .outside true := by
  obtain ⟨hsingle, hdouble, hbackslash, hseparator⟩ := h
  have hcomment : ¬ (c = '#' ∧ inWord = false) := by
    rintro ⟨hc, hfalse⟩
    rw [hsign hc] at hfalse
    cases hfalse
  rw [next, if_neg hsingle, if_neg hdouble, if_neg hbackslash, hseparator,
    if_neg Bool.false_ne_true, if_neg hcomment]

theorem behind_single {t : Text} (h : '\'' ∉ t) : behind .single t = .single := by
  induction t with
  | nil => rfl
  | cons c rest ih =>
    have hc : c ≠ '\'' := fun e => h (e ▸ List.mem_cons_self)
    rw [behind_cons, next, if_neg hc]
    exact ih fun hm => h (List.mem_cons_of_mem _ hm)

theorem behind_comment {t : Text} (h : '\n' ∉ t) : behind .comment t = .comment := by
  induction t with
  | nil => rfl
  | cons c rest ih =>
    have hc : c ≠ '\n' := fun e => h (e ▸ List.mem_cons_self)
    rw [behind_cons, next, if_neg hc]
    exact ih fun hm => h (List.mem_cons_of_mem _ hm)

theorem behind_double {t : Text} (h : DoubleQuoted t) : behind .double t = .double := by
  induction h with
  | nil => rfl
  | letter hquote hbackslash _ ih =>
    rw [behind_cons, next, if_neg hquote, if_neg hbackslash]
    exact ih
  | escaped c _ ih =>
    rw [behind_cons, behind_cons]
    exact ih

/-- The next single quote closes a quotation in them. -/
theorem behind_single_closed {t : Text} (h : '\'' ∉ t) (rest : Text) :
    behind .single (t ++ '\'' :: rest) = behind (.outside true) rest := by
  rw [behind_append, behind_single h]
  rfl

theorem behind_comment_closed {t : Text} (h : '\n' ∉ t) (rest : Text) :
    behind .comment (t ++ '\n' :: rest) = behind (.outside false) rest := by
  rw [behind_append, behind_comment h]
  rfl

/-- A double quote that is not escaped closes a quotation in double quotes. -/
theorem behind_double_closed {t : Text} (h : DoubleQuoted t) (rest : Text) :
    behind .double (t ++ '"' :: rest) = behind (.outside true) rest := by
  rw [behind_append, behind_double h]
  rfl

-- ---------------------------------------------------------------------------
-- Quotes and comments that are closed
-- ---------------------------------------------------------------------------

/-- A quotation in single quotes that is left has been closed by the next one. -/
theorem exists_closed_of_single {t : Text} (h : (behind .single t).isOutside = true) :
    ∃ quoted rest, t = quoted ++ '\'' :: rest ∧ '\'' ∉ quoted ∧
      (behind (.outside true) rest).isOutside = true := by
  cases hsplit : splitFirst '\'' t with
  | none =>
    rw [behind_single (splitFirst_eq_none_iff.1 hsplit)] at h
    cases h
  | some sides =>
    obtain ⟨quoted, rest⟩ := sides
    obtain ⟨rfl, hquoted⟩ := splitFirst_eq_some_iff.1 hsplit
    rw [behind_single_closed hquoted] at h
    exact ⟨quoted, rest, rfl, hquoted, h⟩

/-- A comment that is left has been closed by the next line end. -/
theorem exists_closed_of_comment {t : Text} (h : (behind .comment t).isOutside = true) :
    ∃ said rest, t = said ++ '\n' :: rest ∧ '\n' ∉ said ∧
      (behind (.outside false) rest).isOutside = true := by
  cases hsplit : splitFirst '\n' t with
  | none =>
    rw [behind_comment (splitFirst_eq_none_iff.1 hsplit)] at h
    cases h
  | some sides =>
    obtain ⟨said, rest⟩ := sides
    obtain ⟨rfl, hsaid⟩ := splitFirst_eq_some_iff.1 hsplit
    rw [behind_comment_closed hsaid] at h
    exact ⟨said, rest, rfl, hsaid, h⟩

/-- The closing quote is the first one that has no backslash in front of it, so the
text is read two characters at a time where there is a backslash. -/
theorem exists_closed_of_double : ∀ {t : Text}, (behind .double t).isOutside = true →
    ∃ quoted rest, t = quoted ++ '"' :: rest ∧ DoubleQuoted quoted ∧
      (behind (.outside true) rest).isOutside = true
  | [], h => by cases h
  | c :: tail, h => by
    by_cases hquote : c = '"'
    · subst hquote
      exact ⟨[], tail, rfl, .nil, h⟩
    · by_cases hbackslash : c = '\\'
      · subst hbackslash
        cases tail with
        | nil => cases h
        | cons d tail =>
          obtain ⟨quoted, rest, rfl, hquoted, hrest⟩ := exists_closed_of_double (t := tail) h
          exact ⟨'\\' :: d :: quoted, rest, rfl, .escaped d hquoted, hrest⟩
      · rw [behind_cons, next, if_neg hquote, if_neg hbackslash] at h
        obtain ⟨quoted, rest, rfl, hquoted, hrest⟩ := exists_closed_of_double h
        exact ⟨c :: quoted, rest, rfl, .letter hquote hbackslash hquoted, hrest⟩

-- ---------------------------------------------------------------------------
-- Whole texts
-- ---------------------------------------------------------------------------

/-- Behind closed pieces a shell stands outside of quotes and comments. -/
theorem isOutside_behind_of_whole {inWord : Bool} {t : Text} (h : Whole inWord t) :
    (behind (.outside inWord) t).isOutside = true := by
  induction h with
  | nil inWord => rfl
  | separator hc _ ih =>
    rw [behind_cons, next_outside_separator _ hc]
    exact ih
  | letter hc hsign _ ih =>
    rw [behind_cons, next_outside_letter hc hsign]
    exact ih
  | escaped hc _ ih =>
    rw [behind_cons, behind_cons]
    show (behind (next (.escaped _) _) _).isOutside = true
    rw [next, if_neg hc]
    exact ih
  | continued _ ih => exact ih
  | single ht _ ih =>
    show (behind .single _).isOutside = true
    rw [behind_single_closed ht]
    exact ih
  | double ht _ ih =>
    show (behind .double _).isOutside = true
    rw [behind_double_closed ht]
    exact ih
  | comment ht _ ih =>
    show (behind .comment _).isOutside = true
    rw [behind_comment_closed ht]
    exact ih

/-- A text that leaves nothing open begins with a closed piece, and what is behind
that leaves nothing open either. -/
theorem exists_piece {inWord : Bool} {c : Char} {tail : Text}
    (h : (behind (.outside inWord) (c :: tail)).isOutside = true) :
    ∃ inWord' rest, rest.length < (c :: tail).length ∧
      (behind (.outside inWord') rest).isOutside = true ∧
      (Whole inWord' rest → Whole inWord (c :: tail)) := by
  have hlength (front : Text) (mark : Char) (rest : Text) :
      rest.length < (c :: (front ++ mark :: rest)).length := by
    simp only [List.length_cons, List.length_append]
    omega
  by_cases hsingle : c = '\''
  · subst hsingle
    obtain ⟨quoted, rest, rfl, hquoted, hrest⟩ := exists_closed_of_single h
    exact ⟨true, rest, hlength .., hrest, .single hquoted⟩
  by_cases hdouble : c = '"'
  · subst hdouble
    obtain ⟨quoted, rest, rfl, hquoted, hrest⟩ := exists_closed_of_double h
    exact ⟨true, rest, hlength .., hrest, .double hquoted⟩
  by_cases hbackslash : c = '\\'
  · subst hbackslash
    cases tail with
    | nil => cases h
    | cons d rest =>
      have hshorter : rest.length < ('\\' :: d :: rest).length := hlength [] d rest
      by_cases hline : d = '\n'
      · subst hline
        exact ⟨inWord, rest, hshorter, h, .continued⟩
      · change (behind (next (.escaped inWord) d) rest).isOutside = true at h
        rw [next, if_neg hline] at h
        exact ⟨true, rest, hshorter, h, .escaped hline⟩
  by_cases hseparator : separatesWords c = true
  · rw [behind_cons, next_outside_separator inWord hseparator] at h
    exact ⟨false, tail, Nat.lt_succ_self _, h, .separator hseparator⟩
  by_cases hcomment : c = '#' ∧ inWord = false
  · obtain ⟨rfl, rfl⟩ := hcomment
    obtain ⟨said, rest, rfl, hsaid, hrest⟩ := exists_closed_of_comment h
    exact ⟨false, rest, hlength .., hrest, .comment hsaid⟩
  -- what is left is a letter, which may be a number sign in the middle of a word
  have hletter : IsLetter c := ⟨hsingle, hdouble, hbackslash, Bool.eq_false_iff.2 hseparator⟩
  have hsign : c = '#' → inWord = true := by
    intro hc
    cases inWord with
    | true => rfl
    | false => exact absurd ⟨hc, rfl⟩ hcomment
  rw [behind_cons, next_outside_letter hletter hsign] at h
  exact ⟨true, tail, Nat.lt_succ_self _, h, .letter hletter hsign⟩

/-- A text behind which a shell stands outside of quotes and comments is made of closed
pieces. -/
theorem whole_of_isOutside_behind (inWord : Bool) (t : Text)
    (h : (behind (.outside inWord) t).isOutside = true) : Whole inWord t := by
  induction hn : t.length using Nat.strongRecOn generalizing inWord t with
  | _ n ih =>
    cases t with
    | nil => exact .nil inWord
    | cons c tail =>
      obtain ⟨inWord', rest, hshorter, hrest, hwhole⟩ := exists_piece h
      rw [hn] at hshorter
      exact hwhole (ih rest.length hshorter inWord' rest hrest rfl)

/-- **What leaves nothing open.** Behind a text a shell is outside of quotes and
comments exactly if the text is made of closed pieces. -/
theorem isOutside_behind_iff (inWord : Bool) (t : Text) :
    (behind (.outside inWord) t).isOutside = true ↔ Whole inWord t :=
  ⟨whole_of_isOutside_behind inWord t, isOutside_behind_of_whole⟩

end LexState

/-- Without the characters that open something every text is whole. -/
theorem whole_of_forall_ne {t : Text} (h : ∀ c ∈ t, c ∉ ("'\"\\#" : Text)) (inWord : Bool) :
    Whole inWord t := by
  induction t generalizing inWord with
  | nil => exact .nil inWord
  | cons c rest ih =>
    have hrest : ∀ inWord, Whole inWord rest := ih fun d hd => h d (List.mem_cons_of_mem _ hd)
    by_cases hseparator : separatesWords c = true
    · exact .separator hseparator (hrest false)
    · have hnot : ∀ d ∈ ("'\"\\#" : Text), c ≠ d :=
        fun d hd heq => h c List.mem_cons_self (heq ▸ hd)
      have hletter : IsLetter c :=
        ⟨hnot _ (by decide), hnot _ (by decide), hnot _ (by decide), Bool.eq_false_iff.2 hseparator⟩
      exact .letter hletter (fun hc => absurd hc (hnot _ (by decide))) (hrest true)

end ServiceScript
