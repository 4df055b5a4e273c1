import WerewolfSpeech.Proofs.Content.Completion

namespace WerewolfSpeech

/-!
# Well-formed contents

What the builders guarantee of every node: its agents are among those that were put in,
its target is specified, its number of clauses suits its operator, and a clause is without
a subject only where nobody governs it. The invariant is stated for an arbitrary set of
admitted agents. The operations that make contents out of contents keep it.
-/

/-- A target, where there is one, is specified and admitted. -/
def Aimed
    (Admits : Agent → Prop)
    (target? : Option Agent) :
    Prop :=
  ∀ target ∈ target?, Admits target ∧ target ≠ .unspecified

/-- The invariant of contents over the agents that are admitted. -/
inductive Content.WellFormed (Admits : Agent → Prop) : Content → Prop where
  | atomic
      {subject : Agent}
      {statement : Statement}
      (subjectAdmitted : Admits subject)
      (aimed : Aimed Admits statement.target?) :
      WellFormed Admits (.atomic subject statement)
  | joined
      {subject : Agent}
      {connective : Connective}
      {clauses : List Content}
      (subjectAdmitted : Admits subject)
      (aimed : Aimed Admits connective.target?)
      (arityAccepts : connective.operator.arity.accepts clauses.length = true)
      (governed :
        ∀ clause ∈ clauses,
          clause.subject = .unspecified →
          connective.governor subject = .unspecified)
      (clausesWellFormed : ∀ clause ∈ clauses, WellFormed Admits clause) :
      WellFormed Admits (.joined subject connective clauses)

namespace Aimed

variable {Admits : Agent → Prop}

/-- Filling in a target aims it, if anyone is admitted. -/
theorem withTarget
    {target? : Option Agent}
    (anyoneAdmitted : Admits .anyone)
    (admitted : ∀ target ∈ target?, Admits target) :
    Aimed Admits (target?.map (·.orElse .anyone)) := by
  intro target member
  obtain ⟨written, named, rfl⟩ := Option.map_eq_some_iff.mp member
  refine ⟨?_, Agent.orElse_anyone_ne_unspecified written⟩
  by_cases isUnspecified : written = .unspecified
  · simpa [Agent.orElse, isUnspecified] using anyoneAdmitted
  · rw [Agent.orElse_of_ne_unspecified _ isUnspecified]
    exact admitted written named

/-- A statement that is aimed has its target already. -/
theorem statement_withTarget
    {statement : Statement}
    (aimed : Aimed Admits statement.target?) :
    statement.withTarget = statement :=
  Statement.withTarget_of_specified fun target named =>
    (aimed target named).2

/-- A connective that is aimed has its addressee already. -/
theorem connective_withTarget
    {connective : Connective}
    (aimed : Aimed Admits connective.target?) :
    connective.withTarget = connective :=
  Connective.withTarget_of_specified fun target named =>
    (aimed target named).2

/-- The agent that governs the clauses of an aimed connective is admitted. -/
theorem governor
    {connective : Connective}
    {subject : Agent}
    (aimed : Aimed Admits connective.target?)
    (subjectAdmitted : Admits subject) :
    Admits (connective.governor subject) := by
  cases named : connective.target? with
  | none =>
      rw [Connective.governor_of_no_target? named]
      exact subjectAdmitted
  | some target =>
      rw [Connective.governor_of_target? named]
      exact (aimed target named).1

end Aimed

namespace Content.WellFormed

variable {Admits : Agent → Prop}

/-- The subject of a well-formed content is admitted. -/
theorem admits_subject
    {content : Content}
    (wellFormed : content.WellFormed Admits) :
    Admits content.subject := by
  cases wellFormed with
  | atomic subjectAdmitted _ =>
      exact subjectAdmitted
  | joined subjectAdmitted _ _ _ _ =>
      exact subjectAdmitted

/-- The target of a well-formed content is specified and admitted. -/
theorem aimed
    {content : Content}
    (wellFormed : content.WellFormed Admits) :
    Aimed Admits content.target? := by
  cases wellFormed with
  | atomic _ aimed =>
      exact aimed
  | joined _ aimed _ _ _ =>
      exact aimed

/-- The clauses of a well-formed content are well-formed. -/
theorem clause
    {content clause : Content}
    (wellFormed : content.WellFormed Admits)
    (member : clause ∈ content.clauses) :
    clause.WellFormed Admits := by
  cases wellFormed with
  | atomic _ _ =>
      simp [Content.clauses] at member
  | joined _ _ _ _ clausesWellFormed =>
      exact clausesWellFormed clause member

/-- A well-formed content has as many clauses as its connective takes. -/
theorem arityAccepts
    {subject : Agent}
    {connective : Connective}
    {clauses : List Content}
    (wellFormed :
      (Content.joined subject connective clauses).WellFormed Admits) :
    connective.operator.arity.accepts clauses.length = true := by
  cases wellFormed with
  | joined _ _ arityAccepts _ _ =>
      exact arityAccepts

/-- A clause is without a subject only where nobody governs it. -/
theorem governed
    {subject : Agent}
    {connective : Connective}
    {clauses : List Content}
    {clause : Content}
    (wellFormed :
      (Content.joined subject connective clauses).WellFormed Admits)
    (member : clause ∈ clauses)
    (noSubject : clause.subject = .unspecified) :
    connective.governor subject = .unspecified := by
  cases wellFormed with
  | joined _ _ _ governed _ =>
      exact governed clause member noSubject

/-- A clause of a well-formed content is completed already. -/
private theorem governed_clause
    {subject : Agent}
    {connective : Connective}
    {clauses : List Content}
    {clause : Content}
    (wellFormed :
      (Content.joined subject connective clauses).WellFormed Admits)
    (member : clause ∈ clauses) :
    clause.governed (connective.governor subject) = clause := by
  by_cases noSubject : clause.subject = .unspecified
  · have ungoverned := wellFormed.governed member noSubject
    simp [ungoverned]
  · exact governed_of_subject _ noSubject

/-- The parts of a well-formed content are put together to the same content. -/
theorem reassemble_subject
    {content : Content}
    (wellFormed : content.WellFormed Admits) :
    content.reassemble content.subject = .ok content := by
  cases content with
  | atomic subject statement =>
      have filled : statement.withTarget = statement :=
        wellFormed.aimed.statement_withTarget
      rw [Content.reassemble_atomic, Content.state_eq, filled]
      rfl
  | joined subject connective clauses =>
      have filled : connective.withTarget = connective :=
        wellFormed.aimed.connective_withTarget
      have completed :
          clauses.map (Content.governed (connective.governor subject)) =
            clauses.map id :=
        List.map_congr_left fun clause member =>
          wellFormed.governed_clause member
      rw [Content.reassemble_joined,
        Speech.assemble_of_accepts wellFormed.arityAccepts]
      change Except.ok (Content.join subject connective clauses) = _
      rw [join_eq, filled, completed, List.map_id]

/-- A clause is without a subject only under one that is and addresses nobody. -/
theorem clauseUngoverned
    {content clause : Content}
    (wellFormed : content.WellFormed Admits)
    (member : clause ∈ content.clauses)
    (noSubject : clause.subject = .unspecified) :
    content.subject = .unspecified ∧ content.target? = none := by
  cases content with
  | atomic subject statement =>
      cases member
  | joined subject connective clauses =>
      have ungoverned : connective.governor subject = .unspecified :=
        wellFormed.governed member noSubject
      cases named : connective.target? with
      | none =>
          rw [Connective.governor_of_no_target? named] at ungoverned
          exact ⟨ungoverned, named⟩
      | some target =>
          rw [Connective.governor_of_target? named] at ungoverned
          exact absurd ungoverned (wellFormed.aimed target named).2

/-- Stating for an admitted subject gives a well-formed content. -/
theorem state
    {subject : Agent}
    {statement : Statement}
    (anyoneAdmitted : Admits .anyone)
    (subjectAdmitted : Admits subject)
    (targetAdmitted : ∀ target ∈ statement.target?, Admits target) :
    (Content.state subject statement).WellFormed Admits := by
  refine .atomic subjectAdmitted ?_
  rw [Statement.target?_withTarget]
  exact Aimed.withTarget anyoneAdmitted targetAdmitted

/--
Joining well-formed clauses gives a well-formed content, provided that the clauses stay
well-formed when they inherit.
-/
private theorem join_of_inheriting
    {subject : Agent}
    {connective : Connective}
    {clauses : List Content}
    (anyoneAdmitted : Admits .anyone)
    (subjectAdmitted : Admits subject)
    (targetAdmitted : ∀ target ∈ connective.target?, Admits target)
    (arityAccepts : connective.operator.arity.accepts clauses.length = true)
    (clausesWellFormed : ∀ clause ∈ clauses, clause.WellFormed Admits)
    (inheriting :
      ∀ clause ∈ clauses, ∀ agent, Admits agent →
        (clause.withSubject agent).WellFormed Admits) :
    (join subject connective clauses).WellFormed Admits := by
  have aimed : Aimed Admits connective.withTarget.target? := by
    rw [Connective.target?_withTarget]
    exact Aimed.withTarget anyoneAdmitted targetAdmitted
  rw [join_eq]
  refine .joined subjectAdmitted aimed (by simpa using arityAccepts) ?_ ?_
  · intro completed member noSubject
    obtain ⟨clause, _, rfl⟩ := List.mem_map.mp member
    by_cases inherits :
        clause.subject = .unspecified ∧
          connective.withTarget.governor subject ≠ .unspecified
    · simp [Content.governed, inherits] at noSubject
    · rw [Content.governed, if_neg inherits] at noSubject
      exact Decidable.not_not.mp (not_and.mp inherits noSubject)
  · intro completed member
    obtain ⟨clause, clauseMember, rfl⟩ := List.mem_map.mp member
    unfold Content.governed
    split
    · exact inheriting clause clauseMember _
        (aimed.governor subjectAdmitted)
    · exact clausesWellFormed clause clauseMember

/-- Another admitted subject keeps a content well-formed. -/
theorem withSubject
    {content : Content}
    {subject : Agent}
    (anyoneAdmitted : Admits .anyone)
    (wellFormed : content.WellFormed Admits)
    (subjectAdmitted : Admits subject) :
    (content.withSubject subject).WellFormed Admits := by
  induction content generalizing subject with
  | atomic former statement =>
      rw [withSubject_atomic]
      exact state anyoneAdmitted subjectAdmitted
        fun target named => (wellFormed.aimed target named).1
  | joined former connective clauses inductionHypothesis =>
      rw [withSubject_joined]
      cases wellFormed with
      | joined _ aimed arityAccepts _ clausesWellFormed =>
          exact join_of_inheriting anyoneAdmitted subjectAdmitted
            (fun target named => (aimed target named).1)
            arityAccepts clausesWellFormed
            (fun clause member agent agentAdmitted =>
              inductionHypothesis clause member
                (clausesWellFormed clause member) agentAdmitted)

/-- Joining as many well-formed clauses as the connective takes is well-formed. -/
theorem join
    {subject : Agent}
    {connective : Connective}
    {clauses : List Content}
    (anyoneAdmitted : Admits .anyone)
    (subjectAdmitted : Admits subject)
    (targetAdmitted : ∀ target ∈ connective.target?, Admits target)
    (arityAccepts : connective.operator.arity.accepts clauses.length = true)
    (clausesWellFormed : ∀ clause ∈ clauses, clause.WellFormed Admits) :
    (Content.join subject connective clauses).WellFormed Admits :=
  join_of_inheriting anyoneAdmitted subjectAdmitted targetAdmitted
    arityAccepts clausesWellFormed
    fun clause member _ agentAdmitted =>
      withSubject anyoneAdmitted (clausesWellFormed clause member)
        agentAdmitted

/-- Whatever composing admitted agents and well-formed clauses gives is well-formed. -/
theorem compose
    {subject : Agent}
    {connective : Connective}
    {clauses : List Content}
    {content : Content}
    (anyoneAdmitted : Admits .anyone)
    (subjectAdmitted : Admits subject)
    (targetAdmitted : ∀ target ∈ connective.target?, Admits target)
    (clausesWellFormed : ∀ clause ∈ clauses, clause.WellFormed Admits)
    (composed : Content.compose subject connective clauses = .ok content) :
    content.WellFormed Admits := by
  obtain ⟨arityAccepts, rfl⟩ := compose_eq_ok_iff.mp composed
  exact join anyoneAdmitted subjectAdmitted targetAdmitted
    arityAccepts clausesWellFormed

end Content.WellFormed

end WerewolfSpeech
