import WerewolfSpeech.Content.Speech

namespace WerewolfSpeech

/-!
# Contents as speech

A content keeps its statement or its clauses and nothing else. It is completed as all
speech is.
-/

namespace Content

/-- The subject that a clause of the content would inherit under another subject. -/
def heritage?
    (subject : Agent) :
    Content →
    Option Agent
  | .atomic _ _ =>
      if subject = .unspecified then
        none
      else
        some subject
  | .joined _ connective _ => connective.heritage? subject

section Fold

variable
  {Result : Type}
  (ofStatement : Statement → Result)
  (ofClauses : Connective → List (Content × Result) → Result)

mutual

/-- What a content comes to, given what each of its clauses comes to. -/
def fold :
    Content →
    Result
  | .atomic _ statement => ofStatement statement
  | .joined _ connective clauses => ofClauses connective (foldEach clauses)

/-- Each of several contents with what it comes to. -/
def foldEach :
    List Content →
    List (Content × Result)
  | [] => []
  | clause :: rest => (clause, fold clause) :: foldEach rest

end

end Fold

instance : Speech Content where
  subject := subject
  statement := .atomic
  joined := .joined
  fold := fold

/-- The content speaking for another subject, its clauses completed. -/
def withSubject
    (subject : Agent)
    (content : Content) :
    Content :=
  Speech.withSubject subject content

/-- The clauses with the inherited subject where they have none of their own. -/
def complete
    (heritage : Option Agent)
    (clauses : List Content) :
    List Content :=
  Speech.complete heritage clauses

end Content

end WerewolfSpeech
