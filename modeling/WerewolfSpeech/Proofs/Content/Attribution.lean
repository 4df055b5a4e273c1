import Mathlib.Data.List.Basic
import WerewolfSpeech.Proofs.Content.Nodes
import WerewolfSpeech.Proofs.Content.WellFormed

namespace WerewolfSpeech

/-!
# What another subject does to a content

Another subject is given to the root, and completion hands it on to the clauses. It does so
one level at a time and stops at a clause that has a subject or a governing addressee. In a
well-formed content the nodes without a subject hang together at the root, so all of them
get the subject and nothing else changes. The line then changes at its front alone: where
the subject was handed on, both the clause and the agent that governs it have it, and the
line leaves it out as it did before.
-/

namespace Agent

/-- Whoever takes the place of an unspecified agent. -/
@[simp] theorem unspecified_orElse
    (replacement : Agent) :
    unspecified.orElse replacement = replacement := by
  simp [orElse]

/-- Nothing changes if the replacement is unspecified as well. -/
@[simp] theorem orElse_unspecified
    (agent : Agent) :
    agent.orElse unspecified = agent := by
  by_cases isUnspecified : agent = unspecified <;>
    simp [orElse, isUnspecified]

end Agent

namespace Content

mutual

/-- The content with an agent as the subject of every node that has none. -/
def ascribe
    (agent : Agent) :
    Content →
    Content
  | .atomic subject statement =>
      .atomic (subject.orElse agent) statement
  | .joined subject connective clauses =>
      .joined (subject.orElse agent) connective (ascribeEach agent clauses)

/-- The clauses with an agent as the subject of every node that has none. -/
def ascribeEach
    (agent : Agent) :
    List Content →
    List Content
  | [] => []
  | clause :: rest => clause.ascribe agent :: ascribeEach agent rest

end

/-- The content with an agent as its subject, and as that of every node below that has none. -/
def spokenBy
    (agent : Agent) :
    Content →
    Content
  | .atomic _ statement =>
      .atomic agent statement
  | .joined _ connective clauses =>
      .joined agent connective (ascribeEach agent clauses)

private theorem ascribeEach_eq_map
    (agent : Agent)
    (clauses : List Content) :
    ascribeEach agent clauses = clauses.map (ascribe agent) := by
  induction clauses with
  | nil =>
      rfl
  | cons clause rest inductionHypothesis =>
      rw [ascribeEach, inductionHypothesis, List.map_cons]

/-- Ascribing changes the subject of the root only if there is none. -/
@[simp] theorem subject_ascribe
    (agent : Agent)
    (content : Content) :
    (content.ascribe agent).subject = content.subject.orElse agent := by
  cases content <;> rfl

/-- Ascribing makes no silence and breaks none. -/
@[simp] theorem isSilence_ascribe
    (agent : Agent)
    (content : Content) :
    (content.ascribe agent).isSilence = content.isSilence := by
  cases content with
  | atomic subject statement => cases statement <;> rfl
  | joined subject connective clauses => rfl

/-- Without a subject at the root, ascribing a content and speaking it are the same. -/
theorem ascribe_eq_spokenBy
    {content : Content}
    (noSubject : content.subject = .unspecified)
    (agent : Agent) :
    content.ascribe agent = content.spokenBy agent := by
  cases content with
  | atomic subject statement =>
      rw [Content.subject] at noSubject
      rw [ascribe, spokenBy, noSubject, Agent.unspecified_orElse]
  | joined subject connective clauses =>
      rw [Content.subject] at noSubject
      rw [ascribe, spokenBy, noSubject, Agent.unspecified_orElse]

/-- Ascribing a content to nobody changes nothing. -/
private theorem ascribe_unspecified
    (content : Content) :
    content.ascribe .unspecified = content := by
  induction content with
  | atomic subject statement =>
      rw [ascribe, Agent.orElse_unspecified]
  | joined subject connective clauses inductionHypothesis =>
      rw [ascribe, Agent.orElse_unspecified, ascribeEach_eq_map,
        List.map_congr_left inductionHypothesis, List.map_id']

namespace WellFormed

variable {Admits : Agent → Prop}

/-- Below a node with a subject every node has one, so there is nothing to ascribe. -/
private theorem ascribe_of_subject
    {content : Content}
    (wellFormed : content.WellFormed Admits)
    (specified : content.subject ≠ .unspecified)
    (agent : Agent) :
    content.ascribe agent = content := by
  induction content with
  | atomic subject statement =>
      rw [Content.subject] at specified
      rw [ascribe, Agent.orElse_of_ne_unspecified agent specified]
  | joined subject connective clauses inductionHypothesis =>
      have clausesUnchanged :
          ∀ clause ∈ clauses, clause.ascribe agent = clause := by
        intro clause member
        refine inductionHypothesis clause member
          (wellFormed.clause member) ?_
        intro noSubject
        exact specified
          (wellFormed.clauseUngoverned member noSubject).1
      rw [Content.subject] at specified
      rw [ascribe, Agent.orElse_of_ne_unspecified agent specified,
        ascribeEach_eq_map, List.map_congr_left clausesUnchanged,
        List.map_id']

/-- A clause to which another subject reaches is completed by ascribing it. -/
private theorem governed_eq_ascribe
    {clause : Content}
    {governor : Agent}
    (wellFormed : clause.WellFormed Admits)
    (reaches : clause.withSubject governor = clause.spokenBy governor) :
    clause.governed governor = clause.ascribe governor := by
  by_cases noSubject : clause.subject = .unspecified
  · by_cases isUnspecified : governor = .unspecified
    · rw [isUnspecified, governed_unspecified, ascribe_unspecified]
    · rw [Content.governed, if_pos ⟨noSubject, isUnspecified⟩, reaches,
        ascribe_eq_spokenBy noSubject]
  · rw [governed_of_subject governor noSubject,
      wellFormed.ascribe_of_subject noSubject]

/-- Another subject reaches the root and every node that has none, and nothing else. -/
theorem withSubject_eq_spokenBy
    {content : Content}
    (wellFormed : content.WellFormed Admits)
    (agent : Agent) :
    content.withSubject agent = content.spokenBy agent := by
  induction content generalizing agent with
  | atomic subject statement =>
      have filled : statement.withTarget = statement :=
        wellFormed.aimed.statement_withTarget
      rw [withSubject_atomic, state_eq, spokenBy, filled]
  | joined subject connective clauses inductionHypothesis =>
      have filled : connective.withTarget = connective :=
        wellFormed.aimed.connective_withTarget
      have completed :
          ∀ clause ∈ clauses,
            clause.governed (connective.governor agent) =
              clause.ascribe agent := by
        intro clause member
        have clauseWellFormed := wellFormed.clause member
        cases named : connective.target? with
        | none =>
            rw [Connective.governor_of_no_target? named]
            exact clauseWellFormed.governed_eq_ascribe
              (inductionHypothesis clause member clauseWellFormed agent)
        | some target =>
            -- Under an addressee no clause is without a subject.
            have specified : clause.subject ≠ .unspecified := by
              intro noSubject
              obtain ⟨_, unnamed⟩ :=
                wellFormed.clauseUngoverned member noSubject
              cases named.symm.trans unnamed
            rw [governed_of_subject _ specified,
              clauseWellFormed.ascribe_of_subject specified]
      rw [withSubject_joined, join_eq, filled, spokenBy,
        ascribeEach_eq_map, List.map_congr_left completed]

/-- The subject that a content has already changes nothing. -/
theorem withSubject_subject
    {content : Content}
    (wellFormed : content.WellFormed Admits) :
    content.withSubject content.subject = content := by
  by_cases noSubject : content.subject = .unspecified
  · rw [wellFormed.withSubject_eq_spokenBy, ← ascribe_eq_spokenBy noSubject,
      noSubject, ascribe_unspecified]
  · have unchanged :=
      wellFormed.ascribe_of_subject noSubject content.subject
    rw [wellFormed.withSubject_eq_spokenBy]
    cases content with
    | atomic subject statement =>
        rfl
    | joined subject connective clauses =>
        rw [Content.subject] at noSubject unchanged
        rw [ascribe, Agent.orElse_of_ne_unspecified _ noSubject] at unchanged
        exact unchanged

/-- Ascribing a content ascribes what governs its clauses. -/
private theorem governor_orElse
    {connective : Connective}
    (aimed : Aimed Admits connective.target?)
    (subject agent : Agent) :
    connective.governor (subject.orElse agent) =
      (connective.governor subject).orElse agent := by
  cases named : connective.target? with
  | none =>
      rw [Connective.governor_of_no_target? named,
        Connective.governor_of_no_target? named]
  | some target =>
      rw [Connective.governor_of_target? named,
        Connective.governor_of_target? named,
        Agent.orElse_of_ne_unspecified agent (aimed target named).2]

end WellFormed

section Foreign

variable
  {Admits : Agent → Prop}
  {agent : Agent}

/-- A clause that is ascribed together with its governing agent is written as before. -/
private theorem charsUnder_ascribe
    {governor : Agent}
    {clause : Content}
    (foreign : clause.subject ≠ agent)
    (inherits : clause.subject = .unspecified → governor = .unspecified)
    (sameBody : (clause.ascribe agent).bodyChars = clause.bodyChars) :
    charsUnder (governor.orElse agent) (clause.ascribe agent) =
      charsUnder governor clause := by
  rw [charsUnder, charsUnder, sameBody, subject_ascribe]
  congr 1
  by_cases noSubject : clause.subject = .unspecified
  · rw [noSubject, inherits noSubject, if_pos rfl, if_pos rfl]
  · have sameSubject : clause.subject.orElse agent = clause.subject :=
      Agent.orElse_of_ne_unspecified agent noSubject
    have sameElision :
        clause.subject = governor.orElse agent ↔
          clause.subject = governor := by
      by_cases ungoverned : governor = .unspecified
      · simp [ungoverned, foreign, noSubject]
      · rw [Agent.orElse_of_ne_unspecified agent ungoverned]
    have sameLead :
        (clause.ascribe agent).subjectChars = clause.subjectChars := by
      simp [subjectChars, sameSubject]
    simp only [sameSubject, sameElision, sameLead]

/-- Ascribed to somebody who is nobody's subject in it, a content has the same body. -/
theorem bodyChars_ascribe
    {content : Content}
    (wellFormed : content.WellFormed Admits)
    (foreign : ∀ node ∈ content.nodes, node.subject ≠ agent) :
    (content.ascribe agent).bodyChars = content.bodyChars := by
  induction content with
  | atomic subject statement =>
      rw [ascribe, bodyChars, bodyChars]
  | joined subject connective clauses inductionHypothesis =>
      have foreignBelow :
          ∀ clause ∈ clauses, ∀ node ∈ clause.nodes,
            node.subject ≠ agent := by
        intro clause member node inClause
        exact foreign node (mem_nodes_of_clause member inClause)
      have sameClauses :
          ∀ clause ∈ clauses,
            charsUnder ((connective.governor subject).orElse agent)
                (clause.ascribe agent) =
              charsUnder (connective.governor subject) clause := by
        intro clause member
        apply charsUnder_ascribe
        · exact foreignBelow clause member clause clause.self_mem_nodes
        · exact wellFormed.governed member
        · exact inductionHypothesis clause member
            (wellFormed.clause member) (foreignBelow clause member)
      rw [ascribe, bodyChars, bodyChars, ascribeEach_eq_map,
        WellFormed.governor_orElse wellFormed.aimed,
        clausesChars_eq_flatMap, clausesChars_eq_flatMap,
        List.flatMap_map]
      congr 1
      apply List.flatMap_congr
      intro clause member
      rw [sameClauses clause member]

end Foreign

end Content

end WerewolfSpeech
