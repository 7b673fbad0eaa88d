import ServiceScript.Text.Basic

/-!
# ServiceScript — numbers

The written forms of a number with a fraction or an exponent: a sign, digits with
at most one point among them, and an exponent, of which the digits alone have to
be there. The names of infinity and of what is no number are numbers as well.
-/

namespace ServiceScript.Text

/-- The text behind a sign, or all of it where there is none. -/
def unsigned : Text → Text
  | '+' :: t => t
  | '-' :: t => t
  | t => t

def isDigits (t : Text) : Bool := !t.isEmpty && t.all Char.isDigit

/-- Whether a text is made of digits with at most one point among them. -/
def isMantissa (t : Text) : Bool :=
  match splitFirst '.' t with
  | some (whole, fraction) => isDigits (whole ++ fraction)
  | none => isDigits t

/-- Whether a text is a number in decimal without a sign. -/
def isNumeral (t : Text) : Bool :=
  match t.span fun c => c.toLower ≠ 'e' with
  | (mantissa, _ :: exponent) => isMantissa mantissa && isDigits (unsigned exponent)
  | (mantissa, []) => isMantissa mantissa

/-- What is a number without having digits. -/
def numberNames : List Text := ["inf", "infinity", "nan"]

def isNumber (t : Text) : Bool :=
  numberNames.contains ((unsigned t).map Char.toLower) || isNumeral (unsigned t)

end ServiceScript.Text
