import WerewolfSpeech.Content.Build
import WerewolfSpeech.Content.Text
import WerewolfSpeech.Line.Groups
import WerewolfSpeech.Line.Phrase

namespace WerewolfSpeech

/-!
# Reading lines

A line is recognised as a phrase, the phrase is read part by part, and the groups of its
clause list are read as lines of their own, one level deeper. Strict reading ends with the
diagnosis of the first part that fails. Lenient reading puts `Skip` in the place of a clause
that fails, and in the place of the whole line if the line fails. What the parts are put
together to is any kind of speech.
-/

/-- What becomes of a clause that cannot be read. -/
inductive Mode where
  /-- Its diagnosis is the diagnosis of the line. -/
  | strict
  /-- It counts as a skipped turn. -/
  | lenient
  deriving Repr, DecidableEq

namespace Reading

/-- The nesting that is admitted unless another limit is set. -/
def defaultDepth : Nat :=
  16

/-- The agent that a word refers to. -/
def agent
    (word : Word) :
    Except Diagnosis Agent :=
  match Agent.ofWord word with
  | .ok agent => .ok agent
  | .error _ => .error (.invalidAgent (String.ofList word))

/-- The subject that a line names, unspecified if it names none. -/
def subject :
    Option Word →
    Except Diagnosis Agent
  | some word => agent word
  | none => .ok .unspecified

/-- The value of a part of the line, or the diagnosis that the line fails. -/
def part
    {Value : Type}
    (line : List Char)
    (value : Option Value) :
    Except Diagnosis Value :=
  match value with
  | some value => .ok value
  | none => .error (.parseFailed (String.ofList line))

/-- The term that a word of the line is the keyword of. -/
def keyword
    {Term : Type}
    [Vocabulary Term]
    (line : List Char)
    (word : Word) :
    Except Diagnosis Term :=
  part line (Vocabulary.find? word)

variable
  {Node : Type}
  [Speech Node]

/-- The result of a clause as the mode takes it. -/
def clause
    (mode : Mode)
    (result : Except Diagnosis Node) :
    Except Diagnosis Node :=
  match mode, result with
  | .lenient, .error _ => .ok Speech.skip
  | _, _ => result

/-- The clauses of a clause list, read from left to right. -/
def clauses
    (mode : Mode)
    (readClause : List Char → Except Diagnosis Node)
    (list : List Char) :
    Except Diagnosis (List Node) :=
  match Line.splitGroups? list with
  | some groups =>
      groups.mapM fun group => clause mode (readClause group)
  | none =>
      .error (.unbalancedGroups (String.ofList list))

/-- The addressee of a request that names none: whoever is the subject of its clause. -/
def impliedAddressee
    (operator : Operator)
    (clauses : List Node) :
    Agent :=
  match operator, clauses with
  | .request, first :: _ => (Speech.subject first).orElse .anyone
  | _, _ => .anyone

/-- What a phrase says, given how its clauses are read. -/
def phrase
    (mode : Mode)
    (readClause : List Char → Except Diagnosis Node)
    (line : List Char) :
    Phrase →
    Except Diagnosis Node
  | .bare keywordWord =>
      if keywordWord = "Over".toList then
        .ok (Speech.state .unspecified (.silence .over))
      else
        .ok Speech.skip
  | .agreement subjectWord keywordWord channelWord dayWord indexWord => do
      let subject ← subject subjectWord
      let channel ← keyword line channelWord
      let day ← part line (Numeral.toInt32? dayWord)
      let index ← part line (Numeral.toInt32? indexWord)
      match ← keyword line keywordWord with
      | Topic.disagree =>
          return Speech.state subject (.stance .disagree ⟨channel, day, index⟩)
      | _ =>
          return Speech.state subject (.stance .agree ⟨channel, day, index⟩)
  | .disclosure subjectWord keywordWord targetWord roleWord => do
      let subject ← subject subjectWord
      let target ← agent targetWord
      let role ← keyword line roleWord
      match ← keyword line keywordWord with
      | Topic.comingOut =>
          return Speech.state subject (.disclosure .comingOut target role)
      | _ =>
          return Speech.state subject (.disclosure .estimate target role)
  | .report subjectWord keywordWord targetWord speciesWord => do
      let subject ← subject subjectWord
      let target ← agent targetWord
      let species ← keyword line speciesWord
      match ← keyword line keywordWord with
      | Topic.identified =>
          return Speech.state subject (.finding .identified target species)
      | _ =>
          return Speech.state subject (.finding .divined target species)
  | .action subjectWord keywordWord targetWord => do
      let subject ← subject subjectWord
      let topic ← keyword line keywordWord
      let target ← agent targetWord
      let deed ← part line (Topic.deed? topic)
      return Speech.state subject (.deed deed target)
  | .addressed subjectWord keywordWord targetWord list => do
      let subject ← subject subjectWord
      let operator ← keyword line keywordWord
      let target ← agent targetWord
      let clauses ← clauses mode readClause list
      Speech.compose subject (.ofOperator target 0 operator) clauses
  | .connective subjectWord keywordWord list => do
      let subject ← subject subjectWord
      let operator ← keyword line keywordWord
      let clauses ← clauses mode readClause list
      let target := impliedAddressee operator clauses
      Speech.compose subject (.ofOperator target 0 operator) clauses
  | .dated subjectWord dayWord list => do
      let subject ← subject subjectWord
      let day ← part line (Numeral.toUInt32? dayWord)
      let clauses ← clauses mode readClause list
      Speech.compose subject (.ofOperator .anyone day .day) clauses

/-- What a text says, given how its clauses are read. -/
def line
    (mode : Mode)
    (readClause : List Char → Except Diagnosis Node)
    (text : List Char) :
    Except Diagnosis Node :=
  match Phrase.ofChars? (Text.trim text) with
  | some found => phrase mode readClause (Text.trim text) found
  | none => .error (.parseFailed (String.ofList (Text.trim text)))

/--
What a text says below which `levels` levels of clauses are admitted. The limit is what the
diagnosis of a clause beyond them reports.
-/
def within
    (Node : Type)
    [Speech Node]
    (mode : Mode)
    (limit : Nat) :
    Nat →
    List Char →
    Except Diagnosis Node
  | 0 => line mode fun _ => .error (.depthExceeded limit)
  | levels + 1 => line mode (within Node mode limit levels)

/-- What a text says, or why it says nothing. -/
def strictly
    (Node : Type)
    [Speech Node]
    (maxDepth : Nat)
    (text : String) :
    Except Diagnosis Node :=
  within Node .strict maxDepth maxDepth text.toList

/-- What a text says, where what cannot be read is skipped. -/
def leniently
    (Node : Type)
    [Speech Node]
    (maxDepth : Nat)
    (text : String) :
    Node :=
  match within Node .lenient maxDepth maxDepth text.toList with
  | .ok node => node
  | .error _ => Speech.skip

end Reading

namespace Content

/-- The content of a line, or why it has none. -/
def read
    (maxDepth : Nat)
    (text : String) :
    Except Diagnosis Content :=
  Reading.strictly Content maxDepth text

/-- The content of a line, where what cannot be read is skipped. -/
def readOrSkip
    (maxDepth : Nat)
    (text : String) :
    Content :=
  Reading.leniently Content maxDepth text

/-- The canonical line of whatever a line says. -/
def normalize
    (text : String) :
    String :=
  (readOrSkip Reading.defaultDepth text).text

end Content

end WerewolfSpeech
