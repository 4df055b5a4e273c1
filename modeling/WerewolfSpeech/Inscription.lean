import WerewolfSpeech.Reading

namespace WerewolfSpeech

/-!
# Inscriptions

An inscription is a content that carries its canonical line. The line of a node is written
once, when the node is made, out of the lines that its clauses carry already: a clause
whose subject is the governing agent is copied from the position at which its body starts,
and any other clause is copied as a whole. Completion writes a clause anew where it gives
the clause a subject, and keeps the line that the clause carries everywhere else.
-/

/-- A written line, and the position at which it goes on behind the subject. -/
structure Rendered where
  text : String
  bodyStart : text.Pos

namespace Rendered

/-- The part that names the subject, and the body behind it. -/
def write
    (lead body : List Char) :
    Rendered where
  text := String.ofList lead ++ String.ofList body
  bodyStart := (String.ofList lead).endPos.appendRight (String.ofList body)

/-- The line from the position at which the body starts. -/
def body
    (rendered : Rendered) :
    String :=
  (rendered.text.sliceFrom rendered.bodyStart).copy

end Rendered

/-- A content, each node of which carries its line. -/
inductive Inscription where
  | atomic
      (subject : Agent)
      (statement : Statement)
      (rendered : Rendered)
  | joined
      (subject : Agent)
      (connective : Connective)
      (clauses : List Inscription)
      (rendered : Rendered)

namespace Inscription

/-- The agent that the inscription speaks for. -/
def subject :
    Inscription →
    Agent
  | .atomic subject _ _ => subject
  | .joined subject _ _ _ => subject

/-- The line that the inscription carries. -/
def rendered :
    Inscription →
    Rendered
  | .atomic _ _ rendered => rendered
  | .joined _ _ _ rendered => rendered

/-- The clauses of an inscription. -/
def clauses :
    Inscription →
    List Inscription
  | .atomic _ _ _ => []
  | .joined _ _ clauses _ => clauses

/-- The operator, if the inscription joins clauses. -/
def operator? :
    Inscription →
    Option Operator
  | .atomic _ _ _ => none
  | .joined _ connective _ _ => some connective.operator

/-- The target or the addressee, if the inscription names one. -/
def target? :
    Inscription →
    Option Agent
  | .atomic _ statement _ => statement.target?
  | .joined _ connective _ _ => connective.target?

/-- Whether the inscription says nothing at all. -/
def isSilence :
    Inscription →
    Bool
  | .atomic _ (.silence _) _ => true
  | _ => false

/-- The line, as it was written. -/
def text
    (inscription : Inscription) :
    String :=
  inscription.rendered.text

/-- The line without the subject, as it was written. -/
def body
    (inscription : Inscription) :
    String :=
  inscription.rendered.body

mutual

/-- The content alone, without any of the lines. -/
def plain :
    Inscription →
    Content
  | .atomic subject statement _ => .atomic subject statement
  | .joined subject connective clauses _ =>
      .joined subject connective (plainEach clauses)

/-- The contents of several inscriptions. -/
def plainEach :
    List Inscription →
    List Content
  | [] => []
  | clause :: rest => clause.plain :: plainEach rest

end

/-! ## Writing lines -/

/-- The part of a line that names a subject, if it is specified. -/
def leadChars
    (subject : Agent) :
    List Char :=
  if subject = .unspecified then
    []
  else
    subject.word ++ [' ']

/-- A clause as it is copied into the line of the node that it is a clause of. -/
def copied
    (governor : Agent)
    (clause : Inscription) :
    List Char :=
  ' ' :: '(' ::
    ((if clause.subject = governor then clause.body else clause.text).toList ++
      [')'])

/-- A statement with its line; a silence does not name its subject. -/
def writeStatement
    (subject : Agent)
    (statement : Statement) :
    Inscription :=
  .atomic subject statement
    (match statement with
      | .silence _ => .write [] statement.chars
      | _ => .write (leadChars subject) statement.chars)

/-- Joined clauses with the line that is made of theirs. -/
def writeClauses
    (subject : Agent)
    (connective : Connective)
    (clauses : List Inscription) :
    Inscription :=
  .joined subject connective clauses
    (.write (leadChars subject)
      (connective.chars ++
        clauses.flatMap (copied (connective.governor subject))))

/-! ## Inscriptions as speech -/

section Fold

variable
  {Result : Type}
  (ofStatement : Statement → Result)
  (ofClauses : Connective → List (Inscription × Result) → Result)

mutual

/-- What an inscription comes to, given what each of its clauses comes to. -/
def fold :
    Inscription →
    Result
  | .atomic _ statement _ => ofStatement statement
  | .joined _ connective clauses _ => ofClauses connective (foldEach clauses)

/-- Each of several inscriptions with what it comes to. -/
def foldEach :
    List Inscription →
    List (Inscription × Result)
  | [] => []
  | clause :: rest => (clause, fold clause) :: foldEach rest

end

end Fold

instance : Speech Inscription where
  subject := subject
  statement := writeStatement
  joined := writeClauses
  fold := fold

/-- A statement made for a subject. -/
def state
    (subject : Agent)
    (statement : Statement) :
    Inscription :=
  Speech.state subject statement

/-- The inscription speaking for another subject, its clauses completed. -/
def withSubject
    (subject : Agent)
    (inscription : Inscription) :
    Inscription :=
  Speech.withSubject subject inscription

/-- The clauses with the inherited subject where they have none of their own. -/
def complete
    (heritage : Option Agent)
    (clauses : List Inscription) :
    List Inscription :=
  Speech.complete heritage clauses

/-- Clauses joined for a subject, whatever their number. -/
def join
    (subject : Agent)
    (connective : Connective)
    (clauses : List Inscription) :
    Inscription :=
  Speech.join subject connective clauses

/-- Clauses joined for a subject, if the connective takes that many. -/
def compose
    (subject : Agent)
    (connective : Connective)
    (clauses : List Inscription) :
    Except Diagnosis Inscription :=
  Speech.compose subject connective clauses

/-- The parts of an inscription put together again for a subject. -/
def reassemble
    (subject : Agent)
    (inscription : Inscription) :
    Except Diagnosis Inscription :=
  Speech.reassemble subject inscription

/-- The inscription of a line, or why it has none. -/
def read
    (maxDepth : Nat)
    (text : String) :
    Except Diagnosis Inscription :=
  Reading.strictly Inscription maxDepth text

/-- The inscription of a line, where what cannot be read is skipped. -/
def readOrSkip
    (maxDepth : Nat)
    (text : String) :
    Inscription :=
  Reading.leniently Inscription maxDepth text

end Inscription

end WerewolfSpeech
