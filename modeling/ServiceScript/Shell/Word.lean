import ServiceScript.Fault

/-!
# ServiceScript — shell words

Writing a text as one word of a POSIX shell. The text is cut into **chunks**,
each as long as one style of quoting can carry it, and every chunk is written
in the plainest style that carries it: bare, between single quotes, or between
double quotes.

A circumflex is carried between single quotes only, and only as the first
character of a chunk, so each circumflex begins a chunk of its own.

Main definitions:

* `Styles` — the styles that can carry what has been read of a chunk;
* `Shell.chunks` — the chunks of a text with their styles;
* `Shell.quote` — the word, for every text without NUL.
-/

namespace ServiceScript

/-- How a chunk of a word is written. -/
inductive Style where
  | bare
  | single
  | double
deriving DecidableEq, Repr

/-- Which styles can carry a chunk. -/
structure Styles where
  bare : Bool
  single : Bool
  double : Bool
deriving DecidableEq, Repr

/-- Whether a character means itself outside of quotes. -/
def isPlain (c : Char) : Bool := c.isAlphanum || ("+-./:@]_" : Text).contains c

namespace Styles

def all : Styles := ⟨true, true, true⟩

/-- The styles that remain when one more character is to be carried. -/
def narrow (s : Styles) (c : Char) : Styles where
  bare := s.bare && isPlain c
  single := s.single && !("'^\\" : Text).contains c
  double := s.double && !("\x60$!^" : Text).contains c

def isEmpty (s : Styles) : Bool := !s.bare && !s.single && !s.double

/-- The styles of a chunk that begins with a character. -/
def beginning (c : Char) : Styles :=
  if c = '^' then ⟨false, true, false⟩ else all.narrow c

def plainest (s : Styles) : Style :=
  if s.bare then .bare else if s.single then .single else .double

end Styles

namespace Shell

/-- A stretch of text with the style that it is written in. -/
structure Chunk where
  style : Style
  text : Text
deriving DecidableEq

/-- The rest of a chunk and the chunks behind it, where `styles` can carry what
the chunk has so far. -/
def chunksFrom (styles : Styles) : Text → Chunk × List Chunk
  | [] => (⟨styles.plainest, []⟩, [])
  | c :: rest =>
    if (styles.narrow c).isEmpty then
      let (chunk, later) := chunksFrom (Styles.beginning c) rest
      (⟨styles.plainest, []⟩, { chunk with text := c :: chunk.text } :: later)
    else
      let (chunk, later) := chunksFrom (styles.narrow c) rest
      ({ chunk with text := c :: chunk.text }, later)

def chunks : Text → List Chunk
  | [] => []
  | c :: rest =>
    let (chunk, later) := chunksFrom (Styles.beginning c) rest
    { chunk with text := c :: chunk.text } :: later

/-- A character between double quotes. -/
def escapeDouble (c : Char) : Text := if c = '"' ∨ c = '\\' then ['\\', c] else [c]

def Chunk.write (chunk : Chunk) : Text :=
  match chunk.style with
  | .bare => chunk.text
  | .single => '\'' :: chunk.text ++ ['\'']
  | .double => '"' :: chunk.text.flatMap escapeDouble ++ ['"']

/-- The word that stands for a text without NUL. The empty text is a pair of
quotes, or it would be no word. -/
def word (t : Text) : Text := if t = [] then "''" else (chunks t).flatMap Chunk.write

/-- Writes a text as one word. No word can have a NUL in it. -/
def quote (t : Text) : Except Fault Text :=
  if '\x00' ∈ t then .error (.unquotable t) else .ok (word t)

end Shell

end ServiceScript
