import WerewolfSpeech.Content.Basic
import WerewolfSpeech.Diagnosis

namespace WerewolfSpeech

/-!
# Speech

Speech is put together from statements and from clauses, whatever the nodes keep besides.
An unspecified target becomes anyone. A clause may leave its subject unspecified. It then
inherits one from the node it is a clause of: under a connective with an addressee it
inherits the addressee, else the subject, if that is specified. A clause that inherits
hands the subject on to its own clauses by the same rule; a clause with a subject of its
own is left as it is.
-/

/-- A type of nodes that are made of statements and of clauses. -/
class Speech (Node : Type) where
  /-- The agent that a node speaks for. -/
  subject : Node → Agent
  /-- A statement as a node. -/
  statement : Agent → Statement → Node
  /-- Clauses as a node, joined as they are. -/
  joined : Agent → Connective → List Node → Node
  /-- What a node comes to, given what each of its clauses comes to. -/
  fold :
    {Result : Type} →
    (Statement → Result) →
    (Connective → List (Node × Result) → Result) →
    Node →
    Result

/-- The subject that a clause inherits if it has none of its own. -/
def Connective.heritage?
    (subject : Agent)
    (connective : Connective) :
    Option Agent :=
  match connective.target? with
  | some target => some target
  | none =>
      if subject = .unspecified then
        none
      else
        some subject

namespace Operator

variable {Node : Type}

/-- The clauses of an operator that takes a fixed number of them. -/
def exactly
    (count : Nat)
    (operator : Operator)
    (clauses : List Node) :
    Except Diagnosis (List Node) :=
  if clauses.length = count then
    .ok clauses
  else
    .error (.arityMismatch operator clauses.length)

/-- The clauses of an operator; a conjunction and an alternative take any number here. -/
def operands
    (operator : Operator)
    (clauses : List Node) :
    Except Diagnosis (List Node) :=
  match operator with
  | .request => exactly 1 operator clauses
  | .inquire => exactly 1 operator clauses
  | .not => exactly 1 operator clauses
  | .day => exactly 1 operator clauses
  | .because => exactly 2 operator clauses
  | .xor => exactly 2 operator clauses
  | .and => .ok clauses
  | .or => .ok clauses

end Operator

namespace Speech

variable
  {Node : Type}
  [Speech Node]

/-- A statement made for a subject. -/
def state
    (subject : Agent)
    (statement : Statement) :
    Node :=
  Speech.statement subject statement.withTarget

/-- A skipped turn. -/
def skip : Node :=
  state .unspecified (.silence .skip)

/--
The clauses with the inherited subject where they have none of their own. Each comes with
what it is for another subject.
-/
def inherit
    (heritage : Option Agent)
    (clauses : List (Node × (Agent → Node))) :
    List Node :=
  clauses.map fun clause =>
    match heritage with
    | some agent =>
        if subject clause.1 = .unspecified then
          clause.2 agent
        else
          clause.1
    | none => clause.1

/-- The node speaking for another subject, its clauses completed. -/
def withSubject
    (subject : Agent)
    (node : Node) :
    Node :=
  fold
    (fun statement agent => state agent statement)
    (fun connective clauses agent =>
      joined agent connective.withTarget
        (inherit (connective.withTarget.heritage? agent) clauses))
    node subject

/-- The clauses with the inherited subject where they have none of their own. -/
def complete
    (heritage : Option Agent)
    (clauses : List Node) :
    List Node :=
  inherit heritage
    (clauses.map fun clause => (clause, fun agent => withSubject agent clause))

/-- Clauses joined for a subject, whatever their number. -/
def join
    (subject : Agent)
    (connective : Connective)
    (clauses : List Node) :
    Node :=
  joined subject connective.withTarget
    (complete (connective.withTarget.heritage? subject) clauses)

/-- Clauses joined for a subject; a conjunction and an alternative need one. -/
def assemble
    (subject : Agent)
    (connective : Connective)
    (clauses : List Node) :
    Except Diagnosis Node :=
  match connective, clauses with
  | .and, [] => .error (.emptyOperands .and)
  | .or, [] => .error (.emptyOperands .or)
  | _, _ => .ok (join subject connective clauses)

/-- Clauses joined for a subject, if the connective takes that many. -/
def compose
    (subject : Agent)
    (connective : Connective)
    (clauses : List Node) :
    Except Diagnosis Node :=
  connective.operator.operands clauses >>= assemble subject connective

/-- The parts of a node put together again for a subject. -/
def reassemble
    (subject : Agent)
    (node : Node) :
    Except Diagnosis Node :=
  fold
    (fun statement => .ok (state subject statement))
    (fun connective clauses =>
      assemble subject connective (clauses.map Prod.fst))
    node

end Speech

end WerewolfSpeech
