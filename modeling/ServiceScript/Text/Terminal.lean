import ServiceScript.Text.Basic

/-!
# ServiceScript — text for a terminal

A terminal obeys **control sequences**: an escape character and what follows it,
up to an end that depends on the kind of the sequence. What is printed goes
without them, so that a text from outside can neither move the cursor nor change
colours, and without the other control characters, but for those that separate
words.

The reader is an automaton that takes one character at a time. Its state is the
sequence that is unfinished, if there is one. A character that separates words
breaks some sequences off: it is shown, and so is the text behind it.

Main definitions:

* `Terminal.isShown` — whether a character is shown outside of sequences;
* `Terminal.shows`, `Terminal.next` — whether a character is shown in a state, and
  the state behind it;
* `Terminal.shown` — what is shown of a text.

Main statements:

* `Terminal.isShown_of_mem_shown` — what is shown holds no control characters
  but for those that separate words;
* `Terminal.shown_of_all_isShown` — a text without them is shown as it is.
-/

namespace ServiceScript.Terminal

def isSeparator (c : Char) : Bool := ("\t\n\x0c\r" : Text).contains c

/-- Whether a character is shown where it belongs to no sequence. -/
def isShown (c : Char) : Bool := isSeparator c || (0x20 ≤ c.toNat && c.toNat ≠ 0x7F)

-- ---------------------------------------------------------------------------
-- Sequences
-- ---------------------------------------------------------------------------

/-- A control sequence that has begun. -/
inductive Sequence where
  -- nothing but the escape character
  | escape
  -- the choice of a set of characters
  | charset
  -- a command with parameters
  | command
  -- a command to the system that the terminal runs on
  | system
  -- the beginning of a command to a device
  | device
  -- the parameters of a command to a device
  | deviceParameters
  -- the name of a command to a device
  | deviceName
  -- a string, also as the data of a command to a device
  | string
deriving DecidableEq, Repr

namespace Sequence

/-- The sequence that an escape character and one more begin, if it is not
complete with them. -/
def begin? (c : Char) : Option Sequence :=
  if c.toNat < 0x30 then some charset
  else match c with
    | '[' => some command
    | ']' => some system
    | 'P' => some device
    | 'X' | '^' | '_' => some string
    | _ => none

/-- What an unfinished sequence becomes with a character, and nothing if the
character ends it. An escape character begins a sequence anew, and two control
characters cancel every sequence. -/
def next (s : Sequence) (c : Char) : Option Sequence :=
  let n := c.toNat
  if c = '\x1b' then some escape
  else if c = '\x18' ∨ c = '\x1a' then none
  else match s with
    | escape => if 0x20 ≤ n ∧ n ≤ 0x7E then begin? c else some s
    | charset => if 0x30 ≤ n ∧ n ≤ 0x7E then none else some s
    | command => if 0x40 ≤ n ∧ n ≤ 0x7E then none else some s
    | system => if n = 0x07 then none else some s
    | device =>
      if n < 0x20 ∨ 0x7E < n then some s
      else if n < 0x30 then some deviceName
      else if n < 0x40 then some deviceParameters
      else some string
    | deviceParameters =>
      if n < 0x20 ∨ 0x7E < n then some s
      else if n < 0x30 then some deviceName
      else if n < 0x3C then some s
      else some string
    | deviceName => if 0x30 ≤ n ∧ n ≤ 0x7E then some string else some s
    | string => if (String.utf8EncodeChar c).contains 0x9C then none else some s

/-- Whether a character that separates words breaks a sequence off. -/
def isFragile : Sequence → Bool
  | escape | charset | command => true
  | _ => false

end Sequence

-- ---------------------------------------------------------------------------
-- Reading
-- ---------------------------------------------------------------------------

/-- Whether a character is shown, given the sequence that is unfinished. -/
def shows : Option Sequence → Char → Bool
  | none, c => isShown c
  | some s, c => s.isFragile && isSeparator c

/-- What is unfinished behind a character. -/
def next : Option Sequence → Char → Option Sequence
  | none, c => if c = '\x1b' then some .escape else none
  | some s, c => if s.isFragile && isSeparator c then none else s.next c

/-- What is shown of a text behind the beginning of a sequence, or behind none. -/
def shownFrom : Option Sequence → Text → Text
  | _, [] => []
  | state, c :: rest =>
    if shows state c then c :: shownFrom (next state c) rest else shownFrom (next state c) rest

def shown (t : Text) : Text := shownFrom none t

/-- No sequence makes a character shown that is not shown otherwise. -/
theorem isShown_of_shows {state : Option Sequence} {c : Char} (h : shows state c = true) :
    isShown c = true := by
  cases state with
  | none => exact h
  | some s => simp [isShown, (Bool.and_eq_true_iff.1 h).2]

/-- Whatever is unfinished in front, what is shown is made of characters that are shown.
-/
theorem isShown_of_mem_shownFrom {state : Option Sequence} {t : Text} {c : Char}
    (h : c ∈ shownFrom state t) : isShown c = true := by
  induction t generalizing state with
  | nil => simp [shownFrom] at h
  | cons d rest ih =>
    rw [shownFrom] at h
    split at h
    next hd =>
      rcases List.mem_cons.1 h with rfl | h
      · exact isShown_of_shows hd
      · exact ih h
    next => exact ih h

/-- No control characters but for those that separate words are shown. -/
theorem isShown_of_mem_shown {t : Text} {c : Char} (h : c ∈ shown t) : isShown c = true :=
  isShown_of_mem_shownFrom h

/-- The character that sequences begin with is not shown. -/
theorem ne_escape_of_isShown {c : Char} (h : isShown c = true) : c ≠ '\x1b' := by
  rintro rfl
  exact absurd h (by decide)

/-- A text of characters that are shown is shown as it is. -/
theorem shown_of_all_isShown {t : Text} (h : t.all isShown = true) : shown t = t := by
  unfold shown
  induction t with
  | nil => rfl
  | cons c rest ih =>
    obtain ⟨hc, hrest⟩ := Bool.and_eq_true_iff.1 h
    simp [shownFrom, shows, next, hc, ne_escape_of_isShown hc, ih hrest]

end ServiceScript.Terminal
