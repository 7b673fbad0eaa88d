import ServiceScript.Text.Unprintable
import ServiceScript.Text.Utf8

/-!
# ServiceScript — quoted text in messages

Messages show a text between double quotes, with a quote, a backslash and every
unprintable character written as an escape, so that the text takes one line and
its ends can be seen. Paths are shown in the same way, and a byte of theirs that
belongs to no character is written as two hexadecimal digits.
-/

namespace ServiceScript.Quoted

/-- The written form of a character between double quotes. -/
def escape (c : Char) : Text :=
  if c = '\x00' then "\\0"
  else if c = '\t' then "\\t"
  else if c = '\r' then "\\r"
  else if c = '\n' then "\\n"
  else if c = '"' then "\\\""
  else if c = '\\' then "\\\\"
  else if isUnprintable c then "\\u\x7b" ++ Text.hex c.toNat ++ "\x7d"
  else [c]

def ofText (t : Text) : Text := '"' :: t.flatMap escape ++ ['"']

/-- The written form of a piece of a path between double quotes. -/
def escapePiece : Utf8.Piece → Text
  | .char c => escape c
  | .stray bytes => bytes.flatMap fun b => '\\' :: 'x' :: Text.hexByte b

def ofBytes (path : Bytes) : Text := '"' :: (Utf8.pieces path).flatMap escapePiece ++ ['"']

end ServiceScript.Quoted
