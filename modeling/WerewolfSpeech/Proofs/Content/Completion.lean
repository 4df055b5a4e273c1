import WerewolfSpeech.Content.Build
import WerewolfSpeech.Proofs.Content.Clauses
import WerewolfSpeech.Proofs.Content.Speech

namespace WerewolfSpeech

/-!
# What completion does to a node

Once its target is filled in, a connective governs all its clauses through one agent. The
functions that put a node together are restated here in terms of that agent: each of them
fills the target and lets the governing agent complete every clause.
-/

namespace Agent

/-- Anyone is not an unspecified agent. -/
@[simp] theorem anyone_ne_unspecified :
    anyone ≠ unspecified := by
  decide

/-- Whoever takes the place of an unspecified agent, the result is specified. -/
@[simp] theorem orElse_anyone_ne_unspecified
    (agent : Agent) :
    agent.orElse anyone ≠ unspecified := by
  by_cases isUnspecified : agent = unspecified <;>
    simp [orElse, isUnspecified]

/-- A specified agent keeps its place. -/
theorem orElse_of_ne_unspecified
    {agent : Agent}
    (replacement : Agent)
    (specified : agent ≠ unspecified) :
    agent.orElse replacement = agent := by
  simp [orElse, specified]

/-- Filling in a specified agent a second time changes nothing. -/
@[simp] theorem orElse_orElse_anyone
    (agent : Agent) :
    (agent.orElse anyone).orElse anyone = agent.orElse anyone :=
  orElse_of_ne_unspecified anyone (orElse_anyone_ne_unspecified agent)

end Agent

namespace Statement

/-- The target of a statement after the missing one is filled in. -/
@[simp] theorem target?_withTarget
    (statement : Statement) :
    statement.withTarget.target? =
      statement.target?.map (·.orElse .anyone) := by
  cases statement <;> rfl

/-- A statement whose target is specified has nothing to fill in. -/
theorem withTarget_of_specified
    {statement : Statement}
    (specified : ∀ target ∈ statement.target?, target ≠ .unspecified) :
    statement.withTarget = statement := by
  cases statement <;>
    simp_all [withTarget, target?, Agent.orElse_of_ne_unspecified]

/-- Targets are filled in once and for all. -/
@[simp] theorem withTarget_withTarget
    (statement : Statement) :
    statement.withTarget.withTarget = statement.withTarget := by
  cases statement <;> simp [withTarget]

end Statement

namespace Connective

/-- The addressee of a connective after the missing one is filled in. -/
@[simp] theorem target?_withTarget
    (connective : Connective) :
    connective.withTarget.target? =
      connective.target?.map (·.orElse .anyone) := by
  cases connective <;> rfl

/-- The connective of an operator has that operator. -/
@[simp] theorem operator_ofOperator
    (target : Agent)
    (day : UInt32)
    (operator : Operator) :
    (ofOperator target day operator).operator = operator := by
  cases operator <;> rfl

/-- Filling in the addressee keeps the operator. -/
@[simp] theorem operator_withTarget
    (connective : Connective) :
    connective.withTarget.operator = connective.operator := by
  cases connective <;> rfl

/-- A connective whose addressee is specified has nothing to fill in. -/
theorem withTarget_of_specified
    {connective : Connective}
    (specified : ∀ target ∈ connective.target?, target ≠ .unspecified) :
    connective.withTarget = connective := by
  cases connective <;>
    simp_all [withTarget, target?, Agent.orElse_of_ne_unspecified]

/-- Addressees are filled in once and for all. -/
@[simp] theorem withTarget_withTarget
    (connective : Connective) :
    connective.withTarget.withTarget = connective.withTarget := by
  cases connective <;> simp [withTarget]

/-- A connective with an addressee is governed by the addressee alone. -/
theorem governor_of_target?
    {connective : Connective}
    {target : Agent}
    (named : connective.target? = some target)
    (subject : Agent) :
    connective.governor subject = target := by
  simp [governor, named]

/-- A connective without an addressee is governed by the subject. -/
theorem governor_of_no_target?
    {connective : Connective}
    (unnamed : connective.target? = none)
    (subject : Agent) :
    connective.governor subject = subject := by
  simp [governor, unnamed]

/-- An addressee that has been filled in is specified. -/
theorem specified_of_target?_withTarget
    {connective : Connective}
    {target : Agent}
    (named : connective.withTarget.target? = some target) :
    target ≠ .unspecified := by
  rw [target?_withTarget] at named
  obtain ⟨written, _, rfl⟩ := Option.map_eq_some_iff.mp named
  exact Agent.orElse_anyone_ne_unspecified written

/-- What the clauses inherit is their governing agent, if that is specified. -/
private theorem heritage?_withTarget
    (subject : Agent)
    (connective : Connective) :
    connective.withTarget.heritage? subject =
      if connective.withTarget.governor subject = .unspecified then
        none
      else
        some (connective.withTarget.governor subject) := by
  cases named : connective.withTarget.target? with
  | none =>
      rw [governor_of_no_target? named]
      simp only [heritage?, named]
  | some target =>
      have specified : target ≠ .unspecified :=
        specified_of_target?_withTarget named
      rw [governor_of_target? named, if_neg specified]
      simp only [heritage?, named]

end Connective

namespace Content

/-- Completion lets the governing agent complete every clause. -/
private theorem complete_withTarget
    (subject : Agent)
    (connective : Connective)
    (clauses : List Content) :
    complete (connective.withTarget.heritage? subject) clauses =
      clauses.map (governed (connective.withTarget.governor subject)) := by
  rw [Connective.heritage?_withTarget]
  by_cases ungoverned :
      connective.withTarget.governor subject = .unspecified
  · have unchanged :
        governed Agent.unspecified = id :=
      funext governed_unspecified
    rw [if_pos ungoverned, complete_none, ungoverned, unchanged,
      List.map_id]
  · rw [if_neg ungoverned, complete_some ungoverned]

/-- Joining completes the clauses and keeps them. -/
theorem join_eq_complete
    (subject : Agent)
    (connective : Connective)
    (clauses : List Content) :
    join subject connective clauses =
      .joined subject connective.withTarget
        (complete (connective.withTarget.heritage? subject) clauses) :=
  rfl

/-- Joining fills the addressee and completes every clause. -/
theorem join_eq
    (subject : Agent)
    (connective : Connective)
    (clauses : List Content) :
    join subject connective clauses =
      .joined subject connective.withTarget
        (clauses.map
          (governed (connective.withTarget.governor subject))) := by
  rw [join_eq_complete, complete_withTarget]

/-- Stating fills in the target. -/
theorem state_eq
    (subject : Agent)
    (statement : Statement) :
    state subject statement = .atomic subject statement.withTarget :=
  rfl

/-- Another subject for a connective joins its clauses anew. -/
theorem withSubject_joined
    (subject former : Agent)
    (connective : Connective)
    (clauses : List Content) :
    withSubject subject (.joined former connective clauses) =
      join subject connective clauses := by
  rw [withSubject, Speech.withSubject, fold_joined]
  rfl

/-- Another subject for a statement states it anew. -/
theorem withSubject_atomic
    (subject former : Agent)
    (statement : Statement) :
    withSubject subject (.atomic former statement) =
      state subject statement :=
  rfl

/-- The parts of a connective are assembled with the same clauses. -/
theorem reassemble_joined
    (subject former : Agent)
    (connective : Connective)
    (clauses : List Content) :
    reassemble subject (.joined former connective clauses) =
      Speech.assemble subject connective clauses := by
  rw [reassemble, Speech.reassemble, fold_joined, List.map_map]
  exact congrArg (Speech.assemble subject connective) (List.map_id clauses)

/-- The parts of a statement are stated again. -/
theorem reassemble_atomic
    (subject former : Agent)
    (statement : Statement) :
    reassemble subject (.atomic former statement) =
      .ok (state subject statement) :=
  rfl

/-- Clauses are composed exactly if the arity of the operator accepts their number. -/
theorem compose_eq
    (subject : Agent)
    (connective : Connective)
    (clauses : List Content) :
    compose subject connective clauses =
      if connective.operator.arity.accepts clauses.length = true then
        .ok (join subject connective clauses)
      else
        .error (connective.operator.misfit clauses.length) :=
  Speech.compose_eq subject connective clauses

/-- Composing joins the clauses where it does not refuse their number. -/
theorem compose_eq_ok_iff
    {subject : Agent}
    {connective : Connective}
    {clauses : List Content}
    {content : Content} :
    compose subject connective clauses = .ok content ↔
      connective.operator.arity.accepts clauses.length = true ∧
        join subject connective clauses = content := by
  rw [compose_eq]
  split <;> simp_all

end Content

end WerewolfSpeech
