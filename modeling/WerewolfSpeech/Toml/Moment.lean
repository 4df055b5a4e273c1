import WerewolfSpeech.Text.Literal
import WerewolfSpeech.Text.Numeral
import WerewolfSpeech.Toml.Lexeme

namespace WerewolfSpeech.Toml

/-!
# Dates and times in TOML

A moment is a date, a time, or a date with a time and perhaps an offset. Nothing here
depends on which moment it is, so the readers give back only what stands behind it, but
they make sure that there is such a day and such a minute.
-/

/-- The value of a fixed number of digits. -/
def fixedDigits?
    (count : Nat)
    (text : List Char) :
    Option (Nat × List Char) :=
  if (text.take count).length = count then
    (Numeral.ofDigits? (text.take count)).map fun value => (value, text.drop count)
  else
    none

/-- Whether February has a day more. -/
def isLeapYear
    (year : Nat) :
    Bool :=
  year % 4 == 0 && (year % 100 != 0 || year % 400 == 0)

/-- How many days a month has. -/
def daysInMonth
    (year month : Nat) :
    Nat :=
  if month = 2 then
    if isLeapYear year then 29 else 28
  else if month = 4 || month = 6 || month = 9 || month = 11 then
    30
  else
    31

/-- What stands behind a date. -/
def afterDate?
    (text : List Char) :
    Option (List Char) := do
  let (year, rest) ← fixedDigits? 4 text
  let rest ← Text.after? ['-'] rest
  let (month, rest) ← fixedDigits? 2 rest
  guard (1 ≤ month && month ≤ 12)
  let rest ← Text.after? ['-'] rest
  let (day, rest) ← fixedDigits? 2 rest
  guard (1 ≤ day && day ≤ daysInMonth year month)
  return rest

/-- What stands behind hours and minutes. -/
def afterMinutes?
    (text : List Char) :
    Option (List Char) := do
  let (hour, rest) ← fixedDigits? 2 text
  guard (hour < 24)
  let rest ← Text.after? [':'] rest
  let (minute, rest) ← fixedDigits? 2 rest
  guard (minute < 60)
  return rest

/-- A text without the decimal places of a second in front of it. -/
def skipPlaces :
    List Char →
    List Char
  | '.' :: digit :: rest =>
      if digit.isDigit then
        rest.dropWhile Char.isDigit
      else
        '.' :: digit :: rest
  | text => text

/-- What stands behind a time; a minute may have a leap second. -/
def afterTime?
    (text : List Char) :
    Option (List Char) := do
  let rest ← afterMinutes? text
  let rest ← Text.after? [':'] rest
  let (second, rest) ← fixedDigits? 2 rest
  guard (second ≤ 60)
  return skipPlaces rest

/-- What stands behind the offset of a time, if there is one. -/
def afterOffset? :
    List Char →
    Option (List Char)
  | [] => some []
  | character :: rest =>
      if character = 'Z' || character = 'z' then
        some rest
      else if character = '+' || character = '-' then
        afterMinutes? rest
      else
        some (character :: rest)

/-- What stands behind a date and the time of that day, if a time follows. -/
def afterTimeOfDay?
    (text : List Char) :
    Option (List Char) :=
  match text with
  | mark :: rest =>
      if mark = 'T' || mark = 't' || mark = ' ' then
        match afterTime? rest with
        | some rest => afterOffset? rest
        | none => some text
      else
        some text
  | [] => some []

/-- What stands behind a moment. -/
def afterMoment?
    (text : List Char) :
    Option (List Char) :=
  match afterDate? text with
  | some rest => afterTimeOfDay? rest
  | none => afterTime? text

end WerewolfSpeech.Toml
