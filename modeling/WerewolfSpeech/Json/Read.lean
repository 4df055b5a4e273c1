import WerewolfSpeech.Json.Basic
import WerewolfSpeech.Json.Text
import WerewolfSpeech.Text.Literal

namespace WerewolfSpeech.Json

/-!
# Reading JSON

A text is one value with blanks around it. Numbers keep their spelling, which has to obey
the grammar of JSON: no superfluous zero in front, and digits on both sides of a point.
-/

/-- Whether a character may stand between the tokens of a JSON text. -/
def isBlank
    (character : Char) :
    Bool :=
  character == ' ' || character == '\n' || character == '\r' || character == '\t'

/-- A text without the blanks in front of it. -/
def skipBlanks
    (text : List Char) :
    List Char :=
  text.dropWhile isBlank

/-- A non-empty run of digits and what stands behind it. -/
def digits?
    (text : List Char) :
    Option (List Char × List Char) :=
  if (text.takeWhile Char.isDigit).isEmpty then
    none
  else
    some (text.takeWhile Char.isDigit, text.dropWhile Char.isDigit)

/-- The part of a number before the point: a single zero, or digits that begin otherwise. -/
def whole?
    (text : List Char) :
    Option (List Char × List Char) :=
  match text with
  | '0' :: rest =>
      if rest.head?.any Char.isDigit then
        none
      else
        some (['0'], rest)
  | _ => digits? text

/-- The point of a number and the digits behind it, if there is a point. -/
def fraction? :
    List Char →
    Option (List Char × List Char)
  | '.' :: text =>
      (digits? text).map fun found => ('.' :: found.1, found.2)
  | text => some ([], text)

/-- The sign of an exponent, if there is one. -/
def exponentSign :
    List Char →
    List Char × List Char
  | '+' :: text => (['+'], text)
  | '-' :: text => (['-'], text)
  | text => ([], text)

/-- The exponent of a number, if there is one. -/
def exponent? :
    List Char →
    Option (List Char × List Char)
  | [] => some ([], [])
  | mark :: text =>
      if mark = 'e' || mark = 'E' then
        let sign := exponentSign text
        (digits? sign.2).map fun found => (mark :: sign.1 ++ found.1, found.2)
      else
        some ([], mark :: text)

/-- A number without its sign. -/
def magnitude?
    (text : List Char) :
    Option (List Char × List Char) := do
  let whole ← whole? text
  let fraction ← fraction? whole.2
  let exponent ← exponent? fraction.2
  return (whole.1 ++ fraction.1 ++ exponent.1, exponent.2)

/-- A number at the front of a text. -/
def readNumber? :
    List Char →
    Option (Json × List Char)
  | '-' :: text =>
      (magnitude? text).map fun found => (.number (String.ofList ('-' :: found.1)), found.2)
  | text =>
      (magnitude? text).map fun found => (.number (String.ofList found.1), found.2)

/-- A string at the front of a text, without its opening quote. -/
def readString?
    (text : List Char) :
    Option (Option String × List Char) :=
  (units? text).map fun found =>
    ((textOfUnits? found.1).map String.ofList, found.2)

/-- A member in front of an object that has been read so far. -/
def withMember
    (name : Option String)
    (value object : Json) :
    Json :=
  match name, object with
  | some name, .object members => .object ((name, value) :: members)
  | _, _ => .unreadable

mutual

/-- A value at the front of a text. -/
def readValue? :
    Nat →
    List Char →
    Option (Json × List Char)
  | 0, _ => none
  | fuel + 1, text =>
      match skipBlanks text with
      | 'n' :: rest => (Text.after? "ull".toList rest).map fun rest => (.null, rest)
      | 't' :: rest => (Text.after? "rue".toList rest).map fun rest => (.bool true, rest)
      | 'f' :: rest => (Text.after? "alse".toList rest).map fun rest => (.bool false, rest)
      | '"' :: rest =>
          (readString? rest).map fun found =>
            (match found.1 with
              | some text => .string text
              | none => .unreadable, found.2)
      | '[' :: rest =>
          match skipBlanks rest with
          | ']' :: rest => some (.array [], rest)
          | rest => (readItems? fuel rest).map fun found => (.array found.1, found.2)
      | '\x7b' :: rest =>
          match skipBlanks rest with
          | '\x7d' :: rest => some (.object [], rest)
          | rest => readMembers? fuel rest
      | text => readNumber? text

/-- The items of an array up to the bracket that closes it. -/
def readItems? :
    Nat →
    List Char →
    Option (List Json × List Char)
  | 0, _ => none
  | fuel + 1, text =>
      match readValue? fuel text with
      | none => none
      | some (item, rest) =>
          match skipBlanks rest with
          | ',' :: rest => (readItems? fuel rest).map fun found => (item :: found.1, found.2)
          | ']' :: rest => some ([item], rest)
          | _ => none

/-- The members of an object up to the brace that closes it. -/
def readMembers? :
    Nat →
    List Char →
    Option (Json × List Char)
  | 0, _ => none
  | fuel + 1, text =>
      match Text.after? ['"'] (skipBlanks text) with
      | none => none
      | some rest =>
          match readString? rest with
          | none => none
          | some (name, rest) =>
              match Text.after? [':'] (skipBlanks rest) with
              | none => none
              | some rest =>
                  match readValue? fuel rest with
                  | none => none
                  | some (value, rest) =>
                      match skipBlanks rest with
                      | ',' :: rest =>
                          (readMembers? fuel rest).map fun found =>
                            (withMember name value found.1, found.2)
                      | '\x7d' :: rest => some (withMember name value (.object []), rest)
                      | _ => none

end

/-- The value of a text. Every two steps of reading consume a character. -/
def ofText?
    (text : String) :
    Option Json :=
  match readValue? (2 * text.length + 2) text.toList with
  | some (json, rest) =>
      if (skipBlanks rest).isEmpty then
        some json
      else
        none
  | none => none

end WerewolfSpeech.Json
