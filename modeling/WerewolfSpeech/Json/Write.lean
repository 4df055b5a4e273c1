import WerewolfSpeech.Json.Basic

namespace WerewolfSpeech.Json

/-!
# Writing JSON

A value is written either without any blanks or with one member a line. In strings only
the quote, the backslash and the control characters below the space are escaped.
-/

/-- A hexadecimal digit in lower case. -/
def hexDigit
    (value : Nat) :
    Char :=
  Nat.digitChar value

/-- A character as it stands within quotes. -/
def escape
    (character : Char) :
    List Char :=
  if character = '"' then
    ['\\', '"']
  else if character = '\\' then
    ['\\', '\\']
  else if character = '\n' then
    ['\\', 'n']
  else if character = '\r' then
    ['\\', 'r']
  else if character = '\t' then
    ['\\', 't']
  else if character.toNat = 0x08 then
    ['\\', 'b']
  else if character.toNat = 0x0C then
    ['\\', 'f']
  else if character.toNat < 0x20 then
    ['\\', 'u', '0', '0',
      hexDigit (character.toNat / 16), hexDigit (character.toNat % 16)]
  else
    [character]

/-- A text in quotes. -/
def quote
    (text : String) :
    List Char :=
  '"' :: text.toList.flatMap escape ++ ['"']

mutual

/-- A value without blanks. -/
def compactChars :
    Json →
    List Char
  | .null => "null".toList
  | .bool true => "true".toList
  | .bool false => "false".toList
  | .number literal => literal.toList
  | .string text => quote text
  | .array items => '[' :: compactItems items ++ [']']
  | .object members => '\x7b' :: compactMembers members ++ ['\x7d']
  | .unreadable => "null".toList

/-- Items with commas between them. -/
def compactItems :
    List Json →
    List Char
  | [] => []
  | [item] => compactChars item
  | item :: next :: rest =>
      compactChars item ++ ',' :: compactItems (next :: rest)

/-- Members with commas between them. -/
def compactMembers :
    List (String × Json) →
    List Char
  | [] => []
  | [(name, value)] => quote name ++ ':' :: compactChars value
  | (name, value) :: next :: rest =>
      quote name ++ ':' :: compactChars value ++ ',' :: compactMembers (next :: rest)

end

/-- A new line at a level of indentation, two blanks a level. -/
def newLine
    (level : Nat) :
    List Char :=
  '\n' :: List.replicate (2 * level) ' '

mutual

/-- A value with one item or member a line, at a level of indentation. -/
def prettyChars
    (level : Nat) :
    Json →
    List Char
  | .null => "null".toList
  | .bool true => "true".toList
  | .bool false => "false".toList
  | .number literal => literal.toList
  | .string text => quote text
  | .array [] => "[]".toList
  | .array (first :: rest) =>
      '[' :: prettyItems (level + 1) (first :: rest) ++ newLine level ++ [']']
  | .object [] => ['\x7b', '\x7d']
  | .object (first :: rest) =>
      '\x7b' :: prettyMembers (level + 1) (first :: rest) ++ newLine level ++ ['\x7d']
  | .unreadable => "null".toList

/-- Items with commas between them, each on a line. -/
def prettyItems
    (level : Nat) :
    List Json →
    List Char
  | [] => []
  | [item] => newLine level ++ prettyChars level item
  | item :: next :: rest =>
      newLine level ++ prettyChars level item ++ ',' :: prettyItems level (next :: rest)

/-- Members with commas between them, each on a line. -/
def prettyMembers
    (level : Nat) :
    List (String × Json) →
    List Char
  | [] => []
  | [(name, value)] =>
      newLine level ++ quote name ++ ':' :: ' ' :: prettyChars level value
  | (name, value) :: next :: rest =>
      newLine level ++ quote name ++ ':' :: ' ' :: prettyChars level value ++
        ',' :: prettyMembers level (next :: rest)

end

/-- The text of a value without blanks. -/
def compact
    (json : Json) :
    String :=
  String.ofList (compactChars json)

/-- The text of a value over several lines. -/
def pretty
    (json : Json) :
    String :=
  String.ofList (prettyChars 0 json)

end WerewolfSpeech.Json
