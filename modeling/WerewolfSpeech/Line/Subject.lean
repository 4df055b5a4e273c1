import WerewolfSpeech.Text.Blank
import WerewolfSpeech.Text.DecimalDigit
import WerewolfSpeech.Text.Literal
import WerewolfSpeech.Text.UppercaseLetter

namespace WerewolfSpeech.Line

/-!
# A line without its subject

The subject of a line can be cut off without reading the line: a reference to an agent at
the front, and the blanks behind it, are dropped if an upper-case letter follows. The
reference need not be set apart by blanks.
-/

/-- What stands behind a reference to an agent at the front of a text. -/
def afterAgent?
    (text : List Char) :
    Option (List Char) :=
  match Text.after? "ANY".toList text with
  | some rest => some rest
  | none =>
      match Text.after? "Agent[".toList text with
      | some rest =>
          if (rest.takeWhile Text.isDecimalDigit).isEmpty then
            none
          else
            Text.after? [']'] (rest.dropWhile Text.isDecimalDigit)
      | none => none

/-- The text behind its leading blanks, if it starts with a capital and is one line. -/
def statement?
    (text : List Char) :
    Option (List Char) :=
  let rest := Text.trimLeft text
  if rest.head?.any Text.isUppercaseLetter && !rest.contains '\n' then
    some rest
  else
    none

/-- A text without the subject at its front; unchanged if no statement follows. -/
def withoutSubject
    (text : List Char) :
    List Char :=
  match (afterAgent? text).bind statement? with
  | some rest => rest
  | none => (statement? text).getD text

end WerewolfSpeech.Line
