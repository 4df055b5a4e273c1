import WerewolfSpeech.Text.Numeral

namespace WerewolfSpeech.Toml

/-!
# Blanks, comments, strings and keys

The smallest parts of a TOML text. Every reader takes the front of a text and gives back
what it found together with the rest, or fails.
-/

/-- Whether a character separates parts within a line. -/
def isBlank
    (character : Char) :
    Bool :=
  character == ' ' || character == '\t'

/-- Whether a character may stand in comments and in literal strings. -/
def isPrintable
    (character : Char) :
    Bool :=
  let code := character.toNat
  code == 0x09 || (0x20 ≤ code && code ≤ 0x7E) || 0x80 ≤ code

/-- A text without the blanks in front of it. -/
def skipBlanks
    (text : List Char) :
    List Char :=
  text.dropWhile isBlank

/-- What stands behind a line break. -/
def afterNewline? :
    List Char →
    Option (List Char)
  | '\n' :: rest => some rest
  | '\r' :: '\n' :: rest => some rest
  | _ => none

/-- A text without the comment in front of it. -/
def skipComment :
    List Char →
    List Char
  | '#' :: rest => rest.dropWhile isPrintable
  | text => text

/-- What stands behind the end of a line, with blanks and a comment before it. -/
def afterLine?
    (text : List Char) :
    Option (List Char) :=
  match skipComment (skipBlanks text) with
  | [] => some []
  | rest => afterNewline? rest

/-- A text without the blanks, comments and line breaks in front of it. -/
def skipLines :
    Nat →
    List Char →
    List Char
  | 0, text => text
  | fuel + 1, text =>
      match skipBlanks text with
      | '#' :: rest => skipLines fuel (rest.dropWhile isPrintable)
      | rest =>
          match afterNewline? rest with
          | some rest => skipLines fuel rest
          | none => rest

/-- What has been read of a string, with one more character in front. -/
def prepend
    (character : Char)
    (found : List Char × List Char) :
    List Char × List Char :=
  (character :: found.1, found.2)

/-- The character of a number, if it is a code point of one. -/
def charOf?
    (code : Nat) :
    Option Char :=
  if code.isValidChar then
    some (Char.ofNat code)
  else
    none

/-- The character of hexadecimal digits. -/
def charOfHex?
    (digits : List Char) :
    Option Char :=
  (digits.mapM Numeral.hexValue?).bind fun values =>
    charOf? (values.foldl (fun code value => code * 16 + value) 0)

/-- The character of an escape of one letter. -/
def charOfEscape? :
    Char →
    Option Char
  | 'b' => some '\x08'
  | 't' => some '\t'
  | 'n' => some '\n'
  | 'f' => some '\x0c'
  | 'r' => some '\r'
  | '"' => some '"'
  | '\\' => some '\\'
  | _ => none

/-- The character of an escape, without its backslash, and what stands behind it. -/
def escape? :
    List Char →
    Option (Char × List Char)
  | 'u' :: rest =>
      if 4 ≤ rest.length then
        (charOfHex? (rest.take 4)).map fun character => (character, rest.drop 4)
      else
        none
  | 'U' :: rest =>
      if 8 ≤ rest.length then
        (charOfHex? (rest.take 8)).map fun character => (character, rest.drop 8)
      else
        none
  | letter :: rest => (charOfEscape? letter).map fun character => (character, rest)
  | [] => none

/-- The rest of a string in double quotes on one line. -/
def basicString? :
    Nat →
    List Char →
    Option (List Char × List Char)
  | 0, _ => none
  | _ + 1, [] => none
  | fuel + 1, character :: rest =>
      if character = '"' then
        some ([], rest)
      else if character = '\\' then
        match escape? rest with
        | some (character, rest) => (basicString? fuel rest).map (prepend character)
        | none => none
      else if isPrintable character then
        (basicString? fuel rest).map (prepend character)
      else
        none

/-- The rest of a string in single quotes on one line. -/
def literalString? :
    List Char →
    Option (List Char × List Char)
  | [] => none
  | character :: rest =>
      if character = '\'' then
        some ([], rest)
      else if isPrintable character then
        (literalString? rest).map (prepend character)
      else
        none

/-- Whether a character may stand in a key without quotes. -/
def isBareKey
    (character : Char) :
    Bool :=
  character.isAlphanum || character == '_' || character == '-'

/-- One name of a key. -/
def name? :
    List Char →
    Option (String × List Char)
  | '"' :: rest =>
      (basicString? (rest.length + 1) rest).map fun found =>
        (String.ofList found.1, found.2)
  | '\'' :: rest =>
      (literalString? rest).map fun found =>
        (String.ofList found.1, found.2)
  | text =>
      if (text.takeWhile isBareKey).isEmpty then
        none
      else
        some (String.ofList (text.takeWhile isBareKey), text.dropWhile isBareKey)

/-- The names of a key with dots between them; blanks may stand around each name. -/
def names? :
    Nat →
    List Char →
    Option (List String × List Char)
  | 0, _ => none
  | fuel + 1, text =>
      match name? (skipBlanks text) with
      | none => none
      | some (name, rest) =>
          match skipBlanks rest with
          | '.' :: rest =>
              (names? fuel rest).map fun found => (name :: found.1, found.2)
          | rest => some ([name], rest)

/-- The number of names that a key may have, and of levels that values may nest. -/
def nestingLimit : Nat :=
  79

/-- A dotted key: the names that lead to a table, and the name in that table. -/
def key?
    (text : List Char) :
    Option ((List String × String) × List Char) :=
  match names? nestingLimit text with
  | none => none
  | some (names, rest) =>
      names.getLast?.map fun name => ((names.dropLast, name), rest)

/-- How many quotes stand at the front of a text. -/
def leadingQuotes
    (quote : Char)
    (text : List Char) :
    Nat :=
  (text.takeWhile (· == quote)).length

/--
A run of quotes within a string of several lines. Fewer than three belong to the text. Of
three to five the last three close it, and the ones before them belong to the text.
-/
def closing?
    (quote : Char)
    (text : List Char) :
    Option (List Char × List Char) :=
  let count := min (leadingQuotes quote text) 5
  if 3 ≤ count then
    some (List.replicate (count - 3) quote, text.drop count)
  else
    none

/-- A text without the blanks and line breaks in front of it. -/
def skipFolded :
    Nat →
    List Char →
    List Char
  | 0, text => text
  | fuel + 1, text =>
      match afterNewline? (skipBlanks text) with
      | some rest => skipFolded fuel rest
      | none => skipBlanks text

/-- What stands behind a backslash at the end of a line, with all blanks and line breaks. -/
def afterFoldedLine?
    (text : List Char) :
    Option (List Char) :=
  (afterNewline? (skipBlanks text)).map fun rest =>
    skipFolded (rest.length + 1) rest

/-- The rest of a string in three double quotes. -/
def multilineBasic? :
    Nat →
    List Char →
    Option (List Char × List Char)
  | 0, _ => none
  | _ + 1, [] => none
  | fuel + 1, character :: rest =>
      match closing? '"' (character :: rest) with
      | some found => some found
      | none =>
          if character = '\\' then
            match afterFoldedLine? rest with
            | some rest => multilineBasic? fuel rest
            | none =>
                match escape? rest with
                | some (character, rest) => (multilineBasic? fuel rest).map (prepend character)
                | none => none
          else if isPrintable character then
            (multilineBasic? fuel rest).map (prepend character)
          else
            match afterNewline? (character :: rest) with
            | some rest => (multilineBasic? fuel rest).map (prepend '\n')
            | none => none

/-- The rest of a string in three single quotes. -/
def multilineLiteral? :
    Nat →
    List Char →
    Option (List Char × List Char)
  | 0, _ => none
  | _ + 1, [] => none
  | fuel + 1, character :: rest =>
      match closing? '\'' (character :: rest) with
      | some found => some found
      | none =>
          if isPrintable character then
            (multilineLiteral? fuel rest).map (prepend character)
          else
            match afterNewline? (character :: rest) with
            | some rest => (multilineLiteral? fuel rest).map (prepend '\n')
            | none => none

/-- A text without a line break right behind an opening quote. -/
def skipFirstNewline
    (text : List Char) :
    List Char :=
  (afterNewline? text).getD text

/-- A string of any of the four kinds. -/
def string? :
    List Char →
    Option (List Char × List Char)
  | '"' :: '"' :: '"' :: rest => multilineBasic? (rest.length + 1) (skipFirstNewline rest)
  | '"' :: rest => basicString? (rest.length + 1) rest
  | '\'' :: '\'' :: '\'' :: rest => multilineLiteral? (rest.length + 1) (skipFirstNewline rest)
  | '\'' :: rest => literalString? rest
  | _ => none

end WerewolfSpeech.Toml
