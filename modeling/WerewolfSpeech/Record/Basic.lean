import WerewolfSpeech.Content.Completion
import WerewolfSpeech.Reading

namespace WerewolfSpeech

/-!
# Records of a game

A game leaves behind the utterances that were made, the votes that were cast and the
judgements that were passed. An utterance is the only record with a content: the one that
a lenient reader finds in its text.
-/

/-- One line of talk or whisper. -/
structure Utterance where
  channel : Channel
  index : Int32
  day : Int32
  turn : Int32
  agent : Agent
  text : String
  deriving Repr, DecidableEq

/-- A vote that an agent cast. -/
structure Vote where
  day : Int32
  agent : Agent
  target : Agent
  deriving Repr, DecidableEq

/-- What an agent learned about the species of another. -/
structure Judgement where
  day : Int32
  agent : Agent
  target : Agent
  result : Species
  deriving Repr, DecidableEq

namespace Utterance

/-- What the utterance says. -/
def content
    (utterance : Utterance) :
    Content :=
  Content.readOrSkip Reading.defaultDepth utterance.text

/-- What the utterance says, with the speaker as the subject where none is named. -/
def attributedContent
    (utterance : Utterance) :
    Content :=
  if utterance.content.isSilence then
    utterance.content
  else if utterance.content.subject = .unspecified then
    utterance.content.withSubject utterance.agent
  else
    utterance.content

/-- How a later utterance cites this one. -/
def citation
    (utterance : Utterance) :
    Citation :=
  ⟨utterance.channel, utterance.day, utterance.index⟩

/-- Whether the utterance is, to the letter, a skipped turn. -/
def isSkip
    (utterance : Utterance) :
    Bool :=
  utterance.text == "Skip"

/-- Whether the utterance is, to the letter, the end of what its speaker has to say. -/
def isOver
    (utterance : Utterance) :
    Bool :=
  utterance.text == "Over"

/-- The name of the channel in front of the utterance. -/
def channelName :
    Channel →
    String
  | .talk => "Talk"
  | .whisper => "Whisper"

/-- The utterance as a line of a log. -/
def display
    (utterance : Utterance) :
    String :=
  channelName utterance.channel ++
    String.ofList
      (": Day".toList ++ Numeral.paddedSigned 2 utterance.day.toInt ++
        ' ' :: Numeral.paddedSigned 2 utterance.turn.toInt ++
        '[' :: Numeral.paddedSigned 3 utterance.index.toInt ++
        ']' :: '\t' :: utterance.agent.word ++ ['\t']) ++
    utterance.text

end Utterance

/-- The vote in one line. -/
def Vote.display
    (vote : Vote) :
    String :=
  vote.agent.label ++ "voted" ++ vote.target.label ++ "@" ++
    String.ofList (Numeral.signed vote.day.toInt)

/-- The judgement in one line. -/
def Judgement.display
    (judgement : Judgement) :
    String :=
  judgement.agent.label ++ "->" ++ judgement.target.label ++ "@" ++
    String.ofList (Numeral.signed judgement.day.toInt) ++ ":" ++
    Vocabulary.keyword judgement.result

end WerewolfSpeech
