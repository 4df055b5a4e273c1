import WerewolfSpeech.Line.Word
import WerewolfSpeech.Vocabulary.Attribute

namespace WerewolfSpeech

/-!
# Phrases

A line is recognised by its shape: which keyword it has and what stands behind the
keyword. A phrase is a recognised line. All its parts are still as they were written: that a
keyword is one of those of the shape does not say yet what it stands for.
-/

/-- The shapes of a line. -/
inductive Shape where
  | bare
  | agreement
  | disclosure
  | report
  | action
  | addressed
  | connective
  | dated
  deriving Repr, DecidableEq

/-- A recognised line. -/
inductive Phrase where
  | bare (keyword : Word)
  | agreement (subject : Option Word) (keyword channel day index : Word)
  | disclosure (subject : Option Word) (keyword target role : Word)
  | report (subject : Option Word) (keyword target species : Word)
  | action (subject : Option Word) (keyword target : Word)
  | addressed (subject : Option Word) (keyword target : Word) (list : List Char)
  | connective (subject : Option Word) (keyword : Word) (list : List Char)
  | dated (subject : Option Word) (day : Word) (list : List Char)
  deriving Repr, DecidableEq

/-- Whether a word is one of several keywords. -/
def Word.isOneOf
    (keywords : List String)
    (word : Word) :
    Bool :=
  keywords.any fun keyword => keyword.toList == word

/-- The keywords that a line of the shape can have. -/
def Shape.keywords :
    Shape →
    List String
  | .bare => ["Skip", "Over"]
  | .agreement => ["AGREE", "DISAGREE"]
  | .disclosure => ["ESTIMATE", "COMINGOUT"]
  | .report => ["DIVINED", "IDENTIFIED"]
  | .action => ["ATTACKED", "ATTACK", "DIVINATION", "GUARDED", "GUARD", "VOTED", "VOTE"]
  | .addressed => ["REQUEST", "INQUIRE"]
  | .connective => ["BECAUSE", "AND", "OR", "XOR", "NOT", "REQUEST"]
  | .dated => ["DAY"]

namespace Phrase

/-- The words for a channel. -/
def channels : List String :=
  ["TALK", "WHISPER"]

/-- The words for a role. -/
def roles : List String :=
  Vocabulary.keywords Role

/-- The words for a species. -/
def species : List String :=
  Vocabulary.keywords Species

/-- The shape of a phrase. -/
def shape :
    Phrase →
    Shape
  | .bare _ => .bare
  | .agreement .. => .agreement
  | .disclosure .. => .disclosure
  | .report .. => .report
  | .action .. => .action
  | .addressed .. => .addressed
  | .connective .. => .connective
  | .dated .. => .dated

/-- `Skip` or `Over`, without a subject. -/
def bare?
    (line : Line) :
    Option Phrase :=
  match line.words, line.list with
  | [keyword], none => do
      guard (keyword.isOneOf Shape.bare.keywords)
      return .bare keyword
  | _, _ => none

/-- A stance, a channel, a day and a number. -/
def agreement?
    (line : Line) :
    Option Phrase :=
  match line.splitSubject, line.list with
  | (subject, [keyword, channel, day, index]), none => do
      guard (keyword.isOneOf Shape.agreement.keywords)
      guard (channel.isOneOf channels)
      let day ← Word.signedNumberAfter? "day".toList day
      let index ← Word.signedNumberAfter? "ID:".toList index
      return .agreement subject keyword channel day index
  | _, _ => none

/-- A disclosure, an agent and a role. -/
def disclosure?
    (line : Line) :
    Option Phrase :=
  match line.splitSubject, line.list with
  | (subject, [keyword, target, role]), none => do
      guard (keyword.isOneOf Shape.disclosure.keywords)
      guard target.isAgent
      guard (role.isOneOf roles)
      return .disclosure subject keyword target role
  | _, _ => none

/-- A finding, an agent and a species. -/
def report?
    (line : Line) :
    Option Phrase :=
  match line.splitSubject, line.list with
  | (subject, [keyword, target, word]), none => do
      guard (keyword.isOneOf Shape.report.keywords)
      guard target.isAgent
      guard (word.isOneOf species)
      return .report subject keyword target word
  | _, _ => none

/-- A deed and an agent. -/
def action?
    (line : Line) :
    Option Phrase :=
  match line.splitSubject, line.list with
  | (subject, [keyword, target]), none => do
      guard (keyword.isOneOf Shape.action.keywords)
      guard target.isAgent
      return .action subject keyword target
  | _, _ => none

/-- An address, an agent and clauses. -/
def addressed?
    (line : Line) :
    Option Phrase :=
  match line.splitSubject, line.list with
  | (subject, [keyword, target]), some list => do
      guard (keyword.isOneOf Shape.addressed.keywords)
      guard target.isAgent
      return .addressed subject keyword target list
  | _, _ => none

/-- A junction and clauses. -/
def connective?
    (line : Line) :
    Option Phrase :=
  match line.splitSubject, line.list with
  | (subject, [keyword]), some list => do
      guard (keyword.isOneOf Shape.connective.keywords)
      return .connective subject keyword list
  | _, _ => none

/-- The keyword of a date, a number and clauses. -/
def dated?
    (line : Line) :
    Option Phrase :=
  match line.splitSubject, line.list with
  | (subject, [keyword, day]), some list => do
      guard (keyword.isOneOf Shape.dated.keywords)
      guard day.isNumber
      return .dated subject day list
  | _, _ => none

end Phrase

namespace Shape

/-- The shapes in the order in which they are tried. -/
def order : List Shape :=
  [.bare, .agreement, .disclosure, .report, .action, .addressed, .connective, .dated]

/-- The phrase of one shape that a line makes. -/
def phrase? :
    Shape →
    Line →
    Option Phrase
  | .bare => Phrase.bare?
  | .agreement => Phrase.agreement?
  | .disclosure => Phrase.disclosure?
  | .report => Phrase.report?
  | .action => Phrase.action?
  | .addressed => Phrase.addressed?
  | .connective => Phrase.connective?
  | .dated => Phrase.dated?

/-- Whether a text, exactly as it stands, has the shape. -/
def fits
    (shape : Shape)
    (text : List Char) :
    Bool :=
  ((Line.ofChars? text).bind shape.phrase?).isSome

/-- The first shape that a text has, the blanks around it aside. -/
def recognize?
    (text : List Char) :
    Option Shape :=
  order.find? fun shape => shape.fits (Text.trim text)

end Shape

namespace Phrase

/-- The phrase that a text makes by the first shape that it has. -/
def ofChars?
    (text : List Char) :
    Option Phrase :=
  (Line.ofChars? text).bind fun line =>
    Shape.order.findSome? fun shape => shape.phrase? line

end Phrase

end WerewolfSpeech
