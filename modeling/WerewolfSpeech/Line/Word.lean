import WerewolfSpeech.Text.Blank
import WerewolfSpeech.Text.DecimalDigit
import WerewolfSpeech.Text.Literal

namespace WerewolfSpeech

/-!
# Words of a line

A line is a sequence of words with blanks between them, and perhaps a clause list behind
them, which begins at the first parenthesis. The words are judged by their form alone:
whether the number in one can be used is decided later.
-/

/-- A run of characters without blanks. -/
abbrev Word :=
  List Char

namespace Word

/-- A non-empty run of decimal digits of any script. -/
def isNumber
    (word : Word) :
    Bool :=
  !word.isEmpty && word.all Text.isDecimalDigit

/-- A non-empty run of decimal digits behind an optional minus sign. -/
def isSignedNumber :
    Word →
    Bool
  | '-' :: word => isNumber word
  | word => isNumber word

/-- The number behind a literal. -/
def signedNumberAfter?
    (literal : List Char)
    (word : Word) :
    Option Word :=
  (Text.after? literal word).filter isSignedNumber

/-- A reference to an agent: the word for anyone, or digits in the brackets of an agent. -/
def isAgent
    (word : Word) :
    Bool :=
  word == "ANY".toList ||
    match Text.after? "Agent[".toList word with
    | some rest => rest.getLast? == some ']' && isNumber rest.dropLast
    | none => false

end Word

/-- A line cut into its words and the clause list behind them. -/
structure Line where
  words : List Word
  list : Option (List Char)
  deriving Repr, DecidableEq

namespace Line

/-- The words of a text. -/
def wordsOf
    (text : List Char) :
    List Word :=
  (text.splitOnP Text.isBlank).filter fun word => !word.isEmpty

/-- Whether a text begins with a blank. -/
def startsBlank
    (text : List Char) :
    Bool :=
  text.head?.any Text.isBlank

/-- Whether a text ends with a blank. -/
def endsBlank
    (text : List Char) :
    Bool :=
  text.getLast?.any Text.isBlank

/-- Whether a text that begins with a parenthesis ends with one and stays on one line. -/
def isEnclosed
    (list : List Char) :
    Bool :=
  list.getLast? == some ')' && !list.contains '\n'

/--
The parts of a line. There may be no blank before the first word, and none behind the
last unless the clause list follows, which has to be set apart by one.
-/
def ofChars?
    (text : List Char) :
    Option Line :=
  let front := text.takeWhile (· != '(')
  let list := text.dropWhile (· != '(')
  if startsBlank text then
    none
  else if list.isEmpty then
    if endsBlank front then
      none
    else
      some ⟨wordsOf front, none⟩
  else if endsBlank front && isEnclosed list then
    some ⟨wordsOf front, some list⟩
  else
    none

/-- The reference to the subject, if the line begins with one, and the words behind it. -/
def splitSubject
    (line : Line) :
    Option Word × List Word :=
  match line.words with
  | [] => (none, [])
  | first :: rest =>
      if first.isAgent then
        (some first, rest)
      else
        (none, first :: rest)

end Line

end WerewolfSpeech
