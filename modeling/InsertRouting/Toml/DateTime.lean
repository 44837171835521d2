namespace InsertRouting
namespace Toml

/-!
# Dates and times

A date is written `YYYY-MM-DD` and a time `HH:MM:SS`, with a fraction of a second
if need be.  A time may follow a date behind a `T` or a space, and an offset may
follow the time.  The readers return the rest of the text.
-/

/-- Read two digits as a number. -/
def twoDigits? : List Char → Option (Nat × List Char)
  | a :: b :: rest =>
      if a.isDigit && b.isDigit then
        some (10 * (a.toNat - '0'.toNat) + (b.toNat - '0'.toNat), rest)
      else none
  | _ => none

/-- Read two digits as a number between two bounds. -/
def twoDigitsWithin? (least greatest : Nat) (text : List Char) : Option (Nat × List Char) :=
  match twoDigits? text with
  | some (number, rest) =>
      if least ≤ number ∧ number ≤ greatest then some (number, rest) else none
  | none => none

/-- Read one given character. -/
def mark? (wanted : Char) : List Char → Option (List Char)
  | c :: rest => if c = wanted then some rest else none
  | [] => none

/-- Number of days of a month. -/
def daysInMonth (year month : Nat) : Nat :=
  if month = 2 then
    if year % 4 = 0 ∧ (year % 100 ≠ 0 ∨ year % 400 = 0) then 29 else 28
  else if month = 4 ∨ month = 6 ∨ month = 9 ∨ month = 11 then 30
  else 31

/-- Skip a date. -/
def skipDate? (text : List Char) : Option (List Char) := do
  let (century, text) ← twoDigits? text
  let (year, text) ← twoDigits? text
  let text ← mark? '-' text
  let (month, text) ← twoDigitsWithin? 1 12 text
  let text ← mark? '-' text
  let (_, text) ← twoDigitsWithin? 1 (daysInMonth (100 * century + year) month) text
  pure text

/-- Skip a fraction of a second. -/
def skipFraction (text : List Char) : List Char :=
  match text with
  | '.' :: d :: rest => if d.isDigit then rest.dropWhile Char.isDigit else text
  | _ => text

/-- Skip a time of day; the last minute may have a leap second. -/
def skipTime? (text : List Char) : Option (List Char) := do
  let (_, text) ← twoDigitsWithin? 0 23 text
  let text ← mark? ':' text
  let (_, text) ← twoDigitsWithin? 0 59 text
  let text ← mark? ':' text
  let (_, text) ← twoDigitsWithin? 0 60 text
  pure (skipFraction text)

/-- Skip the hours and minutes of an offset. -/
def skipHoursAndMinutes? (text : List Char) : Option (List Char) := do
  let (_, text) ← twoDigitsWithin? 0 23 text
  let text ← mark? ':' text
  let (_, text) ← twoDigitsWithin? 0 59 text
  pure text

/-- Skip an offset from universal time, if there is one. -/
def skipOffset (text : List Char) : List Char :=
  match text with
  | 'Z' :: rest => rest
  | 'z' :: rest => rest
  | '+' :: rest => (skipHoursAndMinutes? rest).getD text
  | '-' :: rest => (skipHoursAndMinutes? rest).getD text
  | _ => text

/-- Skip a time and an offset behind a date, if there is a time. -/
def skipTimeOfDate (text : List Char) : List Char :=
  match text with
  | c :: rest =>
      if c = 'T' ∨ c = 't' ∨ c = ' ' then
        match skipTime? rest with
        | some rest => skipOffset rest
        | none => text
      else text
  | [] => text

/-- Skip a date, a time, or both. -/
def skipDateTime? (text : List Char) : Option (List Char) :=
  match skipDate? text with
  | some rest => some (skipTimeOfDate rest)
  | none => skipTime? text

end Toml
end InsertRouting
