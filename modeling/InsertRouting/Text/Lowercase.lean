import InsertRouting.Text.Property.Cased
import InsertRouting.Text.Property.CaseIgnorable
import InsertRouting.Text.Property.LowercaseMapping

namespace InsertRouting
namespace Text

/-!
# Lower-case form of a text

The lower-case form maps each character on its own, with two exceptions: the
dotted capital I becomes an i and a combining dot, and a capital sigma at the end
of a word becomes the final small sigma.  Whether a sigma ends a word is decided
by the nearest characters on both sides that are not case-ignorable.
-/

/-- The character is a letter with a case. -/
def isCased (c : Char) : Bool :=
  Property.inRanges c.toNat Property.casedRanges

/-- The character is skipped in the search for a neighbouring letter. -/
def isCaseIgnorable (c : Char) : Bool :=
  Property.inRanges c.toNat Property.caseIgnorableRanges

/-- The lower-case form of one character, where that is one character. -/
def lowercaseChar (c : Char) : Char :=
  match Property.lowercaseRuns.find? (·.covers c.toNat) with
  | some run => Char.ofNat (Int.toNat (c.toNat + run.shift))
  | none => c

/-- The first character that is not case-ignorable is a letter with a case. -/
def startsCased (text : List Char) : Bool :=
  match text.dropWhile isCaseIgnorable with
  | [] => false
  | c :: _ => isCased c

/-- The lower-case form of a character with the text before it, nearest
character first, and the text after it. -/
def lowercaseAt (before : List Char) (c : Char) (after : List Char) : List Char :=
  if c = 'Σ' then
    if startsCased before && !startsCased after then ['ς'] else ['σ']
  else if c = 'İ' then ['i', '\u0307']
  else [lowercaseChar c]

/-- The lower-case form of the rest of a text, with what precedes it, nearest
character first. -/
def lowercaseFrom (before : List Char) : List Char → List Char
  | [] => []
  | c :: after => lowercaseAt before c after ++ lowercaseFrom (c :: before) after

/-- The lower-case form of a text. -/
def lowercase (text : String) : String :=
  String.ofList (lowercaseFrom [] text.toList)

end Text
end InsertRouting
