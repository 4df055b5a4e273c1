import WerewolfSpeech.Text.Blank

namespace WerewolfSpeech.Text

/-!
# The lines of a text

A line ends with a line feed, and a carriage return right before the feed belongs to the
end. The last line need not end. Lines are numbered from one; blank lines count.
-/

/-- One more character at the front of the first line. -/
def extendFirst
    (character : Char) :
    List (List Char) →
    List (List Char)
  | [] => [[character]]
  | first :: rest => (character :: first) :: rest

/-- The lines of a text without their ends. -/
def lines :
    List Char →
    List (List Char)
  | [] => []
  | '\n' :: rest => [] :: lines rest
  | '\r' :: '\n' :: rest => [] :: lines rest
  | character :: rest => extendFirst character (lines rest)

/-- Lines with their numbers, without the blank ones. -/
def numberedFrom
    (number : Nat) :
    List (List Char) →
    List (Nat × String)
  | [] => []
  | line :: rest =>
      if isBlankText line then
        numberedFrom (number + 1) rest
      else
        (number, String.ofList line) :: numberedFrom (number + 1) rest

/-- The lines of a text that are not blank, with their numbers. -/
def numberedLines
    (text : String) :
    List (Nat × String) :=
  numberedFrom 1 (lines text.toList)

end WerewolfSpeech.Text
