import InsertRouting.Text.Property.GraphemeExtend
import InsertRouting.Text.Property.Unprintable

namespace InsertRouting
namespace Text

/-!
# Escaped text in diagnostics

In diagnostics a text stands between double quotes.  The double quote and the
backslash are written with a backslash before them, tabs, line ends and the null
character by their short escapes, and every character that has no printed form,
or that is a mark on the one before it, by its code point in lower-case
hexadecimal digits.
-/

/-- The code point in lower-case hexadecimal digits, without leading zeros. -/
def hexDigits (c : Char) : List Char :=
  Nat.toDigits 16 c.toNat

/-- The character is a mark on the one before it or has no printed form. -/
def needsCodePoint (c : Char) : Bool :=
  Property.inRanges c.toNat Property.graphemeExtendRanges ||
    Property.inRanges c.toNat Property.unprintableRanges

/-- The escaped form of one character. -/
def escapedChar (c : Char) : List Char :=
  if c = '\x00' then ['\\', '0']
  else if c = '\t' then ['\\', 't']
  else if c = '\r' then ['\\', 'r']
  else if c = '\n' then ['\\', 'n']
  else if c = '"' ∨ c = '\\' then ['\\', c]
  else if needsCodePoint c then ['\\', 'u', '\x7b'] ++ hexDigits c ++ ['\x7d']
  else [c]

/-- The text in double quotes, escaped. -/
def escaped (text : String) : String :=
  String.ofList ('"' :: (text.toList.flatMap escapedChar ++ ['"']))

end Text
end InsertRouting
