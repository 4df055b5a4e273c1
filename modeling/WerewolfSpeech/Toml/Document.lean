import WerewolfSpeech.Text.Literal
import WerewolfSpeech.Toml.Item
import WerewolfSpeech.Toml.Lexeme
import WerewolfSpeech.Toml.Moment
import WerewolfSpeech.Toml.Number

namespace WerewolfSpeech.Toml

/-!
# Reading TOML

A document is a sequence of lines. A line is empty, assigns a value to a key, or is the
header of a table to which the assignments below it belong. No name may be given twice.
-/

/-- A value that is neither an array nor a table. -/
def scalar?
    (text : List Char) :
    Option (Item × List Char) :=
  match text with
  | '"' :: _ => (string? text).map fun found => (.string (String.ofList found.1), found.2)
  | '\'' :: _ => (string? text).map fun found => (.string (String.ofList found.1), found.2)
  | 't' :: rest => (Text.after? "rue".toList rest).map fun rest => (.boolean true, rest)
  | 'f' :: rest => (Text.after? "alse".toList rest).map fun rest => (.boolean false, rest)
  | _ =>
      match afterMoment? text with
      | some rest => some (.moment, rest)
      | none => number? text

/-- A reader of values, which the readers of arrays and tables apply to their parts. -/
abbrev ValueReader :=
  List Char → Option (Item × List Char)

/-- The items of an array up to its bracket; a comma may follow the last one. -/
def items?
    (value? : ValueReader) :
    Nat →
    List Char →
    Option (List Item × List Char)
  | 0, _ => none
  | fuel + 1, text =>
      match skipLines (text.length + 1) text with
      | ']' :: rest => some ([], rest)
      | text =>
          match value? text with
          | none => none
          | some (item, rest) =>
              match skipLines (rest.length + 1) rest with
              | ']' :: rest => some ([item], rest)
              | ',' :: rest =>
                  (items? value? fuel rest).map fun found => (item :: found.1, found.2)
              | _ => none

/-- A key, the sign that sets it equal, and a value. -/
def assignment?
    (value? : ValueReader)
    (text : List Char) :
    Option (Members.Assignment × List Char) := do
  let ((path, name), rest) ← key? text
  let rest ← Text.after? ['='] rest
  let (item, rest) ← value? (skipBlanks rest)
  return (⟨path, name, item⟩, rest)

/-- The assignments of a table in braces, at least one, with commas between them. -/
def assignments?
    (value? : ValueReader) :
    Nat →
    List Char →
    Option (List Members.Assignment × List Char)
  | 0, _ => none
  | fuel + 1, text =>
      match assignment? value? text with
      | none => none
      | some (assignment, rest) =>
          match skipBlanks rest with
          | '\x7d' :: rest => some ([assignment], rest)
          | ',' :: rest =>
              (assignments? value? fuel rest).map fun found =>
                (assignment :: found.1, found.2)
          | _ => none

/-- The rest of a table in braces. -/
def braces?
    (value? : ValueReader)
    (text : List Char) :
    Option (Item × List Char) :=
  match skipBlanks text with
  | '\x7d' :: rest => some (.table .braces [], rest)
  | text => do
      let (assignments, rest) ← assignments? value? (text.length + 1) text
      let members ← Members.assign? assignments []
      return (.table .braces members, rest)

/-- A value in which arrays and tables nest at most so many levels deep. -/
def value? :
    Nat →
    ValueReader
  | 0, text => scalar? text
  | levels + 1, text =>
      match text with
      | '[' :: rest =>
          (items? (value? levels) (rest.length + 1) rest).map fun found =>
            (.array found.1, found.2)
      | '\x7b' :: rest => braces? (value? levels) rest
      | _ => scalar? text

/-- A line of a document that is not empty. -/
inductive Entry where
  | assignment (assignment : Members.Assignment)
  | table (path : List String) (name : String)
  | element (path : List String) (name : String)

/-- The line at the front of a text, and the lines below it. -/
def entry? :
    List Char →
    Option (Entry × List Char)
  | '[' :: '[' :: rest => do
      let ((path, name), rest) ← key? rest
      let rest ← Text.after? [']', ']'] rest
      let rest ← afterLine? rest
      return (.element path name, rest)
  | '[' :: rest => do
      let ((path, name), rest) ← key? rest
      let rest ← Text.after? [']'] rest
      let rest ← afterLine? rest
      return (.table path name, rest)
  | text => do
      let (assignment, rest) ← assignment? (value? nestingLimit) text
      let rest ← afterLine? rest
      return (.assignment assignment, rest)

/-- The lines of a text that are not empty. -/
def entries? :
    Nat →
    List Char →
    Option (List Entry)
  | 0, _ => none
  | fuel + 1, text =>
      match afterLine? text with
      | some [] => some []
      | some rest => entries? fuel rest
      | none =>
          match entry? (skipBlanks text) with
          | none => none
          | some (entry, rest) => (entries? fuel rest).map (entry :: ·)

/-- The assignments before the first header, and the lines from there on. -/
def splitAssignments :
    List Entry →
    List Members.Assignment × List Entry
  | .assignment assignment :: rest =>
      (assignment :: (splitAssignments rest).1, (splitAssignments rest).2)
  | entries => ([], entries)

/-- The members of a document with the tables under the headers of further lines. -/
def addTables? :
    List Entry →
    Members →
    Option Members
  | [], members => some members
  | .assignment _ :: rest, members => addTables? rest members
  | .table path name :: rest, members =>
      (members.openTable? path name (splitAssignments rest).1).bind (addTables? rest)
  | .element path name :: rest, members =>
      (members.openElement? path name (splitAssignments rest).1).bind (addTables? rest)

/-- A text without the mark that some programs put in front of it. -/
def skipByteOrderMark :
    List Char →
    List Char
  | '\ufeff' :: rest => rest
  | text => text

/-- The members of the document that a text spells. -/
def ofText?
    (text : String) :
    Option Members := do
  let entries ← entries? (text.length + 1) (skipByteOrderMark text.toList)
  let members ← Members.assign? (splitAssignments entries).1 []
  addTables? entries members

end WerewolfSpeech.Toml
