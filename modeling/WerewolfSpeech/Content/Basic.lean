import WerewolfSpeech.Agent
import WerewolfSpeech.Citation
import WerewolfSpeech.Vocabulary.Operator
import WerewolfSpeech.Vocabulary.Topic

namespace WerewolfSpeech

/-!
# Contents

A content is what a line says: an atomic statement, or a connective over clauses that are
contents themselves. Every node has a subject, the agent that the node speaks for, which
may be unspecified.
-/

/-- What an atomic content says, apart from its subject. -/
inductive Statement where
  | silence (kind : Silence)
  | stance (kind : Stance) (citation : Citation)
  | disclosure (kind : Disclosure) (target : Agent) (role : Role)
  | finding (kind : Finding) (target : Agent) (species : Species)
  | deed (kind : Deed) (target : Agent)
  deriving Repr, DecidableEq

/-- How a content joins its clauses. -/
inductive Connective where
  | request (target : Agent)
  | inquire (target : Agent)
  | because
  | day (number : UInt32)
  | not
  | and
  | or
  | xor
  deriving Repr, DecidableEq

/-- What a line says. -/
inductive Content where
  | atomic (subject : Agent) (statement : Statement)
  | joined (subject : Agent) (connective : Connective) (clauses : List Content)
  deriving Repr

namespace Statement

/-- What the statement is about. -/
def topic :
    Statement →
    Topic
  | .silence kind => kind.topic
  | .stance kind _ => kind.topic
  | .disclosure kind _ _ => kind.topic
  | .finding kind _ _ => kind.topic
  | .deed kind _ => kind.topic

/-- The agent that the statement is about, if it names one. -/
def target? :
    Statement →
    Option Agent
  | .silence _ => none
  | .stance _ _ => none
  | .disclosure _ target _ => some target
  | .finding _ target _ => some target
  | .deed _ target => some target

/-- The statement with anyone in the place of an unspecified target. -/
def withTarget :
    Statement →
    Statement
  | .silence kind => .silence kind
  | .stance kind citation => .stance kind citation
  | .disclosure kind target role =>
      .disclosure kind (target.orElse .anyone) role
  | .finding kind target species =>
      .finding kind (target.orElse .anyone) species
  | .deed kind target =>
      .deed kind (target.orElse .anyone)

end Statement

namespace Connective

/-- The operator of a connective. -/
def operator :
    Connective →
    Operator
  | .request _ => .request
  | .inquire _ => .inquire
  | .because => .because
  | .day _ => .day
  | .not => .not
  | .and => .and
  | .or => .or
  | .xor => .xor

/-- The connective of an operator; the target and the day are used where it has them. -/
def ofOperator
    (target : Agent)
    (day : UInt32) :
    Operator →
    Connective
  | .request => .request target
  | .inquire => .inquire target
  | .because => .because
  | .day => .day day
  | .not => .not
  | .and => .and
  | .or => .or
  | .xor => .xor

/-- The addressee, if the connective names one. -/
def target? :
    Connective →
    Option Agent
  | .request target => some target
  | .inquire target => some target
  | _ => none

/-- The day, if the connective names one. -/
def day? :
    Connective →
    Option UInt32
  | .day number => some number
  | _ => none

/-- The connective with anyone in the place of an unspecified addressee. -/
def withTarget :
    Connective →
    Connective
  | .request target => .request (target.orElse .anyone)
  | .inquire target => .inquire (target.orElse .anyone)
  | connective => connective

/-- The agent that governs the clauses: the addressee if there is one, else the subject. -/
def governor
    (subject : Agent)
    (connective : Connective) :
    Agent :=
  connective.target?.getD subject

end Connective

namespace Content

/-- The agent that the content speaks for. -/
def subject :
    Content →
    Agent
  | .atomic subject _ => subject
  | .joined subject _ _ => subject

/-- What the content is about. -/
def topic :
    Content →
    Topic
  | .atomic _ statement => statement.topic
  | .joined _ _ _ => .operator

/-- The operator, if the content joins clauses. -/
def operator? :
    Content →
    Option Operator
  | .atomic _ _ => none
  | .joined _ connective _ => some connective.operator

/-- The target or the addressee, if the content names one. -/
def target? :
    Content →
    Option Agent
  | .atomic _ statement => statement.target?
  | .joined _ connective _ => connective.target?

/-- The target, where a content that names none is about anyone. -/
def target
    (content : Content) :
    Agent :=
  content.target?.getD .anyone

/-- The role that the content gives its target. -/
def role? :
    Content →
    Option Role
  | .atomic _ (.disclosure _ _ role) => some role
  | _ => none

/-- The species that the content reports of its target. -/
def species? :
    Content →
    Option Species
  | .atomic _ (.finding _ _ species) => some species
  | _ => none

/-- The utterance that the content refers to. -/
def citation? :
    Content →
    Option Citation
  | .atomic _ (.stance _ citation) => some citation
  | _ => none

/-- The day that the content is dated to. -/
def day? :
    Content →
    Option UInt32
  | .joined _ connective _ => connective.day?
  | _ => none

/-- The clauses of a content. -/
def clauses :
    Content →
    List Content
  | .atomic _ _ => []
  | .joined _ _ clauses => clauses

/-- Whether the content says nothing at all. -/
def isSilence :
    Content →
    Bool
  | .atomic _ (.silence _) => true
  | _ => false

/-- Whether the content is a skipped turn. -/
def isSkip :
    Content →
    Bool
  | .atomic _ (.silence .skip) => true
  | _ => false

/-- A skipped turn. -/
def skip : Content :=
  .atomic .unspecified (.silence .skip)

end Content

end WerewolfSpeech
