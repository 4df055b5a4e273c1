import WerewolfSpeech.Text.Numeral
import WerewolfSpeech.Vocabulary.Attribute

namespace WerewolfSpeech

/-!
# Citations

A citation points to an earlier utterance by its channel, its day and its number on that
day.
-/

/-- A pointer to an earlier utterance. -/
structure Citation where
  channel : Channel
  day : Int32
  index : Int32
  deriving Repr, DecidableEq

namespace Citation

/-- The words of a citation. -/
def chars
    (citation : Citation) :
    List Char :=
  Vocabulary.word citation.channel ++
    " day".toList ++ Numeral.signed citation.day.toInt ++
    " ID:".toList ++ Numeral.signed citation.index.toInt

/-- The citation as it stands in a line. -/
def text
    (citation : Citation) :
    String :=
  String.ofList citation.chars

end Citation

end WerewolfSpeech
