import WerewolfSpeech.Content.Basic
import WerewolfSpeech.Text.Numeral

namespace WerewolfSpeech

/-!
# The canonical line of a content

The line begins with the subject, unless that is unspecified or the content is silent,
and goes on with the body: keyword, parameters, and each clause in parentheses. A clause
whose subject is the agent that governs it is written as its body alone, because a reader
gives it that subject back.
-/

/-- The words of a statement. -/
def Statement.chars :
    Statement →
    List Char
  | .silence kind =>
      Vocabulary.word kind.topic
  | .stance kind citation =>
      Vocabulary.word kind.topic ++ ' ' :: citation.chars
  | .disclosure kind target role =>
      Vocabulary.word kind.topic ++ ' ' :: target.word ++ ' ' :: Vocabulary.word role
  | .finding kind target species =>
      Vocabulary.word kind.topic ++ ' ' :: target.word ++ ' ' :: Vocabulary.word species
  | .deed kind target =>
      Vocabulary.word kind.topic ++ ' ' :: target.word

/-- The words of a connective, which stand before its clauses. -/
def Connective.chars
    (connective : Connective) :
    List Char :=
  Vocabulary.word connective.operator ++
    match connective with
    | .request target => ' ' :: target.word
    | .inquire target => ' ' :: target.word
    | .day number => ' ' :: Numeral.digits number.toNat
    | _ => []

namespace Content

/-- The part of the line that names the subject. -/
def subjectChars
    (content : Content) :
    List Char :=
  if content.isSilence || content.subject = .unspecified then
    []
  else
    content.subject.word ++ [' ']

mutual

/-- The line of a content after the part that names its subject. -/
def bodyChars :
    Content →
    List Char
  | .atomic _ statement => statement.chars
  | .joined subject connective clauses =>
      connective.chars ++ clausesChars (connective.governor subject) clauses

/-- The clauses as they stand under a governing agent. -/
def clausesChars
    (governor : Agent) :
    List Content →
    List Char
  | [] => []
  | clause :: rest =>
      ' ' :: '(' ::
        ((if clause.subject = governor then [] else clause.subjectChars) ++
          clause.bodyChars ++
          ')' :: clausesChars governor rest)

end

/-- The characters of the canonical line. -/
def chars
    (content : Content) :
    List Char :=
  content.subjectChars ++ content.bodyChars

/-- The canonical line. -/
def text
    (content : Content) :
    String :=
  String.ofList content.chars

/-- The canonical line without the subject. -/
def body
    (content : Content) :
    String :=
  String.ofList content.bodyChars

/-- Contents are the same speech if they have the same canonical line. -/
def SameSpeech
    (first second : Content) :
    Prop :=
  first.text = second.text

instance
    (first second : Content) :
    Decidable (SameSpeech first second) :=
  inferInstanceAs (Decidable (first.text = second.text))

end Content

end WerewolfSpeech
