import WerewolfSpeech.Content.Completion

namespace WerewolfSpeech

/-!
# Building contents

Contents are built from the leaves up. An unspecified target becomes anyone, and clauses
without a subject inherit one. Where the number of clauses is not fixed by the signature
it is checked when the content is built.
-/

namespace Content

/-- A statement made for a subject. -/
def state
    (subject : Agent)
    (statement : Statement) :
    Content :=
  Speech.state subject statement

/-- Clauses joined for a subject, whatever their number. -/
def join
    (subject : Agent)
    (connective : Connective)
    (clauses : List Content) :
    Content :=
  Speech.join subject connective clauses

/-- Clauses joined for a subject, if the connective takes that many. -/
def compose
    (subject : Agent)
    (connective : Connective)
    (clauses : List Content) :
    Except Diagnosis Content :=
  Speech.compose subject connective clauses

/-- The parts of a content put together again for a subject. -/
def reassemble
    (subject : Agent)
    (content : Content) :
    Except Diagnosis Content :=
  Speech.reassemble subject content

/-- The subject asks the addressee to act. -/
def request
    (subject addressee : Agent)
    (action : Content) :
    Content :=
  join subject (.request addressee) [action]

/-- The subject asks the addressee whether something holds. -/
def inquire
    (subject addressee : Agent)
    (question : Content) :
    Content :=
  join subject (.inquire addressee) [question]

/-- The subject gives a reason for an action. -/
def because
    (subject : Agent)
    (reason action : Content) :
    Content :=
  join subject .because [reason, action]

/-- Exactly one of two contents. -/
def xor
    (subject : Agent)
    (first second : Content) :
    Content :=
  join subject .xor [first, second]

/-- All of the contents; there has to be one. -/
def and
    (subject : Agent)
    (clauses : List Content) :
    Except Diagnosis Content :=
  Speech.assemble subject .and clauses

/-- Some of the contents; there has to be one. -/
def or
    (subject : Agent)
    (clauses : List Content) :
    Except Diagnosis Content :=
  Speech.assemble subject .or clauses

/-- The contrary of a content. -/
def not
    (subject : Agent)
    (clause : Content) :
    Content :=
  join subject .not [clause]

/-- A content dated to a day. -/
def day
    (subject : Agent)
    (number : UInt32)
    (clause : Content) :
    Content :=
  join subject (.day number) [clause]

end Content

end WerewolfSpeech
