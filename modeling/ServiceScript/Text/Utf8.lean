import ServiceScript.Text.Basic

/-!
# ServiceScript — UTF-8

Reading bytes as text. Bytes fall into **pieces**: a character, or a stretch of
bytes that is no character. Such a stretch is a maximal beginning of a
character, or one byte that no character begins with, so reading always goes on
at the first byte that could begin a character anew.

The reader is an automaton that takes one byte at a time. Its state is the
character whose first bytes have been read, if there is one.

Main definitions:

* `Utf8.encode` — the bytes of a text;
* `Utf8.pieces` — the pieces of a list of bytes;
* `Utf8.decode?` — the text, when every piece is a character;
* `Utf8.decodeLossy` — the text with U+FFFD for each stretch that is no character.
-/

namespace ServiceScript.Utf8

def encode (t : Text) : Bytes := t.flatMap String.utf8EncodeChar

@[simp] theorem encode_nil : encode [] = [] := rfl

/-- The bytes of two texts behind each other are those of one behind those of the other.
-/
@[simp] theorem encode_append (s t : Text) : encode (s ++ t) = encode s ++ encode t := by
  simp [encode]

/-- What reading finds: a character, or bytes that are none. -/
inductive Piece where
  | char (c : Char)
  -- bytes that begin no character, or the beginning of one that breaks off
  | stray (bytes : Bytes)
deriving DecidableEq

/-- A character whose first bytes have been read. -/
structure Opened where
  bytes : Bytes
  -- the code point bits they carry
  code : Nat
  -- how many more bytes the character has
  missing : Nat
  -- the least byte that may come next
  low : UInt8
  -- the greatest byte that may come next
  high : UInt8

/-- Reads a byte where a character may begin. The bounds on the second byte
rule out overlong forms, surrogates and code points past U+10FFFF. -/
def begin (b : UInt8) : List Piece × Option Opened :=
  if b < 0x80 then ([.char (Char.ofNat b.toNat)], none)
  else if b < 0xC2 then ([.stray [b]], none)
  else if b < 0xE0 then ([], some ⟨[b], b.toNat - 0xC0, 1, 0x80, 0xBF⟩)
  else if b < 0xF0 then
    ([], some ⟨[b], b.toNat - 0xE0, 2, if b = 0xE0 then 0xA0 else 0x80,
      if b = 0xED then 0x9F else 0xBF⟩)
  else if b < 0xF5 then
    ([], some ⟨[b], b.toNat - 0xF0, 3, if b = 0xF0 then 0x90 else 0x80,
      if b = 0xF4 then 0x8F else 0xBF⟩)
  else ([.stray [b]], none)

/-- Reads one byte: it goes on with the open character, or breaks it off and is
read as a beginning. -/
def step : Option Opened → UInt8 → List Piece × Option Opened
  | none, b => begin b
  | some o, b =>
    if o.low ≤ b ∧ b ≤ o.high then
      let code := o.code * 64 + (b.toNat - 0x80)
      if o.missing = 1 then ([.char (Char.ofNat code)], none)
      else ([], some ⟨o.bytes ++ [b], code, o.missing - 1, 0x80, 0xBF⟩)
    else
      let (found, next) := begin b
      (.stray o.bytes :: found, next)

/-- The pieces that the bytes give from a state on. -/
def scan : Option Opened → Bytes → List Piece
  | none, [] => []
  | some o, [] => [.stray o.bytes]
  | state, b :: rest =>
    let (found, next) := step state b
    found ++ scan next rest

def pieces (bytes : Bytes) : List Piece := scan none bytes

/-- The character a piece stands for, if it is one. -/
def Piece.char? : Piece → Option Char
  | .char c => some c
  | .stray _ => none

/-- The text whose bytes these are, if they are the bytes of a text. -/
def decode? (bytes : Bytes) : Option Text := (pieces bytes).mapM Piece.char?

/-- The text of the bytes, with one U+FFFD for each stretch that is no character. -/
def decodeLossy (bytes : Bytes) : Text :=
  (pieces bytes).map fun piece => piece.char?.getD '\ufffd'

end ServiceScript.Utf8
