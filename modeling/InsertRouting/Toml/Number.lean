import InsertRouting.Number.Double.Nearest
import InsertRouting.Toml.DateTime
import InsertRouting.Toml.Node
import InsertRouting.Toml.Strings

namespace InsertRouting
namespace Toml

/-!
# Numbers, dates and truth values

These values are words: each reader takes the longest word of its kind from the
front of a text, and whatever follows a value is checked elsewhere.  Underscores
may stand between two digits.  A whole number has 64 bits; a float that is too
great for a double is refused, unless it is negative.
-/

/-- Read further digits behind a digit. -/
def moreDigits (isDigit : Char → Bool) : List Char → List Char × List Char
  | '_' :: c :: rest =>
      if isDigit c then
        let (digits, rest) := moreDigits isDigit rest
        (c :: digits, rest)
      else ([], '_' :: c :: rest)
  | c :: rest =>
      if isDigit c then
        let (digits, rest) := moreDigits isDigit rest
        (c :: digits, rest)
      else ([], c :: rest)
  | [] => ([], [])

/-- Read one or more digits. -/
def digits? (isDigit : Char → Bool) : List Char → Option (List Char × List Char)
  | c :: rest =>
      if isDigit c then
        let (digits, rest) := moreDigits isDigit rest
        some (c :: digits, rest)
      else none
  | [] => none

/-- Read a sign; the number is negative if it is a minus. -/
def sign : List Char → Bool × List Char
  | '+' :: rest => (false, rest)
  | '-' :: rest => (true, rest)
  | text => (false, text)

/-- Read the digits of a decimal number, which do not start with a zero unless
that is all there is. -/
def decimalDigits? (text : List Char) : Option (List Char × List Char) :=
  match text with
  | '0' :: rest => some (['0'], rest)
  | _ => digits? Char.isDigit text

/-- The number that decimal digits stand for. -/
def decimalNumber (digits : List Char) : Nat :=
  digits.foldl (fun number c => 10 * number + (c.toNat - '0'.toNat)) 0

/-- The number as a whole number of 64 bits. -/
def wholeNumber? (negative : Bool) (magnitude : Nat) : Option Int64 :=
  let number : Int := if negative then -(magnitude : Int) else magnitude
  if Int64.minValue.toInt ≤ number ∧ number ≤ Int64.maxValue.toInt then
    some (Int64.ofInt number)
  else none

/-- Read a whole number in decimal digits. -/
def decimalInteger? (text : List Char) : Option (Scalar × List Char) := do
  let (negative, text) := sign text
  let (digits, text) ← decimalDigits? text
  let number ← wholeNumber? negative (decimalNumber digits)
  pure (.integer number, text)

/-- The digit is one of a number in the given base. -/
def isDigitOf (base : Nat) (c : Char) : Bool :=
  match hexValue? c with
  | some value => decide (value < base)
  | none => false

/-- Read a whole number in the digits of a base. -/
def basedInteger? (base : Nat) (text : List Char) : Option (Scalar × List Char) := do
  let (digits, text) ← digits? (isDigitOf base) text
  let magnitude := digits.foldl (fun number c => base * number + (hexValue? c).getD 0) 0
  let number ← wholeNumber? false magnitude
  pure (.integer number, text)

/-- Read a whole number. -/
def integer? (text : List Char) : Option (Scalar × List Char) :=
  match text with
  | '0' :: 'x' :: rest => basedInteger? 16 rest
  | '0' :: 'o' :: rest => basedInteger? 8 rest
  | '0' :: 'b' :: rest => basedInteger? 2 rest
  | _ => decimalInteger? text

/-- Read the digits behind a decimal point. -/
def fraction? : List Char → Option (List Char × List Char)
  | '.' :: rest => digits? Char.isDigit rest
  | _ => none

/-- Read an exponent. -/
def exponent? : List Char → Option (Int × List Char)
  | c :: rest =>
      if c = 'e' ∨ c = 'E' then do
        let (negative, rest) := sign rest
        let (digits, rest) ← digits? Char.isDigit rest
        let number : Int := decimalNumber digits
        pure (if negative then -number else number, rest)
      else none
  | [] => none

/-- A fraction, an exponent or both; without either the number is no float. -/
def fractionAndExponent? (text : List Char) : Option (List Char × Int × List Char) :=
  match fraction? text with
  | some (places, text) =>
      match exponent? text with
      | some (power, text) => some (places, power, text)
      | none => some (places, 0, text)
  | none =>
      match exponent? text with
      | some (power, text) => some ([], power, text)
      | none => none

/-- Read a float in decimal digits. -/
def decimalFloat? (text : List Char) : Option (Scalar × List Char) := do
  let (negative, text) := sign text
  let (whole, text) ← decimalDigits? text
  let (places, power, text) ← fractionAndExponent? text
  let decimal : Number.Decimal := ⟨decimalNumber (whole ++ places), power - places.length⟩
  let number := decimal.toDouble negative
  if number.isInfinite && !negative then none else some (.float number, text)

/-- Read the name of an infinity or of a NaN. -/
def namedFloat? (text : List Char) : Option (Scalar × List Char) :=
  match sign text with
  | (negative, 'i' :: 'n' :: 'f' :: rest) =>
      some (.float (.ofMagnitude negative Number.Double.infinityMagnitude), rest)
  | (negative, 'n' :: 'a' :: 'n' :: rest) =>
      some (.float (.ofMagnitude negative Number.Double.nanMagnitude), rest)
  | _ => none

/-- Read a truth value. -/
def boolean? : List Char → Option (Scalar × List Char)
  | 't' :: 'r' :: 'u' :: 'e' :: rest => some (.boolean true, rest)
  | 'f' :: 'a' :: 'l' :: 's' :: 'e' :: rest => some (.boolean false, rest)
  | _ => none

/-- Read a date, a time, or both. -/
def dateTime? (text : List Char) : Option (Scalar × List Char) :=
  match skipDateTime? text with
  | some rest => some (.dateTime (String.ofList (text.take (text.length - rest.length))), rest)
  | none => none

/-- Read a value that is one word. -/
def word? (text : List Char) : Option (Scalar × List Char) :=
  dateTime? text <|> decimalFloat? text <|> namedFloat? text <|> integer? text <|> boolean? text

end Toml
end InsertRouting
