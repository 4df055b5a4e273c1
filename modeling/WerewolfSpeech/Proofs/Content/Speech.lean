import WerewolfSpeech.Content.Speech

namespace WerewolfSpeech

/-!
# Counting clauses

Clauses are counted where they are composed: most operators ask for a fixed number of them,
and a conjunction or an alternative refuses to be without any. The counts are written down
a second time, as the arities of the operators. The two agree, whatever the nodes are.
-/

/-- What composing says of a number of clauses that the arity of the operator refuses. -/
def Operator.misfit
    (operator : Operator)
    (actual : Nat) :
    Diagnosis :=
  match operator.arity with
  | .exactly _ => .arityMismatch operator actual
  | .atLeast _ => .emptyOperands operator

namespace Speech

variable
  {Node : Type}
  [Speech Node]
  {connective : Connective}
  {clauses : List Node}

/-- As many clauses as the arity accepts are joined when they are assembled. -/
theorem assemble_of_accepts
    (accepts : connective.operator.arity.accepts clauses.length = true)
    (subject : Agent) :
    assemble subject connective clauses =
      .ok (join subject connective clauses) := by
  cases connective with
  | and =>
      cases clauses with
      | nil => cases accepts
      | cons first rest => rfl
  | or =>
      cases clauses with
      | nil => cases accepts
      | cons first rest => rfl
  | _ => rfl

/-- As many clauses as the arity accepts are joined when they are composed. -/
private theorem compose_of_accepts
    (accepts : connective.operator.arity.accepts clauses.length = true)
    (subject : Agent) :
    compose subject connective clauses =
      .ok (join subject connective clauses) := by
  have counted : connective.operator.operands clauses = .ok clauses := by
    cases connective with
    | and => rfl
    | or => rfl
    | _ => exact if_pos (beq_iff_eq.mp accepts)
  rw [compose, counted]
  exact assemble_of_accepts accepts subject

/-- Where a fixed number of clauses is asked for, any other number is a mismatch. -/
private theorem compose_of_exactly
    {count : Nat}
    (counted :
      connective.operator.operands clauses =
        connective.operator.exactly count clauses)
    (otherCount : clauses.length ≠ count)
    (subject : Agent) :
    compose subject connective clauses =
      .error (.arityMismatch connective.operator clauses.length) := by
  rw [compose, counted, Operator.exactly, if_neg otherCount]
  rfl

/-- Another number of clauses than the arity accepts is refused when they are composed. -/
private theorem compose_of_refuses
    (refuses : connective.operator.arity.accepts clauses.length = false)
    (subject : Agent) :
    compose subject connective clauses =
      .error (connective.operator.misfit clauses.length) := by
  cases connective with
  | and =>
      cases clauses with
      | nil => rfl
      | cons first rest =>
          exact absurd (Nat.le_add_left 1 rest.length)
            (decide_eq_false_iff_not.mp refuses)
  | or =>
      cases clauses with
      | nil => rfl
      | cons first rest =>
          exact absurd (Nat.le_add_left 1 rest.length)
            (decide_eq_false_iff_not.mp refuses)
  | _ => exact compose_of_exactly rfl (beq_eq_false_iff_ne.mp refuses) subject

/-- Clauses are composed exactly if the arity of the operator accepts their number. -/
theorem compose_eq
    (subject : Agent)
    (connective : Connective)
    (clauses : List Node) :
    compose subject connective clauses =
      if connective.operator.arity.accepts clauses.length = true then
        .ok (join subject connective clauses)
      else
        .error (connective.operator.misfit clauses.length) := by
  split
  · next accepts => exact compose_of_accepts accepts subject
  · next refuses =>
      exact compose_of_refuses (Bool.eq_false_iff.mpr refuses) subject

end Speech

end WerewolfSpeech
