import WerewolfSpeech.Proofs.Reading.WellFormed

namespace WerewolfSpeech.Content

/-!
# Reachable contents

A content is reachable over some admitted agents if it comes from the builders, from the
readers, from another subject for a reachable content or from the clauses of one, in any
combination. Every reachable content is well-formed, because each of these operations keeps
the invariant.
-/

/--
What can be made of admitted agents with the operations on contents. Conjunctions and
disjunctions are composed.
-/
inductive Reachable (Admits : Agent → Prop) : Content → Prop where
  | state
      {subject : Agent}
      (statement : Statement)
      (subjectAdmitted : Admits subject)
      (targetAdmitted : ∀ target ∈ statement.target?, Admits target) :
      Reachable Admits (state subject statement)
  | request
      {subject addressee : Agent}
      {action : Content}
      (subjectAdmitted : Admits subject)
      (addresseeAdmitted : Admits addressee)
      (actionReachable : Reachable Admits action) :
      Reachable Admits (request subject addressee action)
  | inquire
      {subject addressee : Agent}
      {question : Content}
      (subjectAdmitted : Admits subject)
      (addresseeAdmitted : Admits addressee)
      (questionReachable : Reachable Admits question) :
      Reachable Admits (inquire subject addressee question)
  | because
      {subject : Agent}
      {reason action : Content}
      (subjectAdmitted : Admits subject)
      (reasonReachable : Reachable Admits reason)
      (actionReachable : Reachable Admits action) :
      Reachable Admits (because subject reason action)
  | xor
      {subject : Agent}
      {first second : Content}
      (subjectAdmitted : Admits subject)
      (firstReachable : Reachable Admits first)
      (secondReachable : Reachable Admits second) :
      Reachable Admits (xor subject first second)
  | not
      {subject : Agent}
      {clause : Content}
      (subjectAdmitted : Admits subject)
      (clauseReachable : Reachable Admits clause) :
      Reachable Admits (not subject clause)
  | day
      {subject : Agent}
      {clause : Content}
      (number : UInt32)
      (subjectAdmitted : Admits subject)
      (clauseReachable : Reachable Admits clause) :
      Reachable Admits (day subject number clause)
  | compose
      {subject : Agent}
      {connective : Connective}
      {clauses : List Content}
      {content : Content}
      (subjectAdmitted : Admits subject)
      (targetAdmitted : ∀ target ∈ connective.target?, Admits target)
      (clausesReachable : ∀ clause ∈ clauses, Reachable Admits clause)
      (composed : compose subject connective clauses = .ok content) :
      Reachable Admits content
  | reassemble
      {subject : Agent}
      {content result : Content}
      (subjectAdmitted : Admits subject)
      (contentReachable : Reachable Admits content)
      (reassembled : content.reassemble subject = .ok result) :
      Reachable Admits result
  | withSubject
      {subject : Agent}
      {content : Content}
      (subjectAdmitted : Admits subject)
      (contentReachable : Reachable Admits content) :
      Reachable Admits (content.withSubject subject)
  | clause
      {content clause : Content}
      (contentReachable : Reachable Admits content)
      (member : clause ∈ content.clauses) :
      Reachable Admits clause
  | read
      {maxDepth : Nat}
      {text : String}
      {content : Content}
      (succeeds : read maxDepth text = .ok content) :
      Reachable Admits content
  | readOrSkip
      (maxDepth : Nat)
      (text : String) :
      Reachable Admits (readOrSkip maxDepth text)

namespace WellFormed

variable {Admits : Agent → Prop}

/-- A content stays well-formed when more agents are admitted. -/
theorem mono
    {AdmitsMore : Agent → Prop}
    {content : Content}
    (wellFormed : content.WellFormed Admits)
    (more : ∀ agent, Admits agent → AdmitsMore agent) :
    content.WellFormed AdmitsMore := by
  have aimedMore :
      ∀ {target? : Option Agent},
        Aimed Admits target? → Aimed AdmitsMore target? :=
    fun aimed target named =>
      ⟨more target (aimed target named).1, (aimed target named).2⟩
  induction wellFormed with
  | atomic subjectAdmitted aimed =>
      exact .atomic (more _ subjectAdmitted) (aimedMore aimed)
  | joined subjectAdmitted aimed arityAccepts governed _ inductionHypothesis =>
      exact .joined (more _ subjectAdmitted) (aimedMore aimed)
        arityAccepts governed inductionHypothesis

/-- Putting a well-formed content together again keeps it well-formed. -/
theorem reassemble
    {subject : Agent}
    {content result : Content}
    (anyoneAdmitted : Admits .anyone)
    (wellFormed : content.WellFormed Admits)
    (subjectAdmitted : Admits subject)
    (reassembled : content.reassemble subject = .ok result) :
    result.WellFormed Admits := by
  have targetAdmitted :
      ∀ target ∈ content.target?, Admits target :=
    fun target named => (wellFormed.aimed target named).1
  cases content with
  | atomic former statement =>
      cases reassembled
      exact .state anyoneAdmitted subjectAdmitted targetAdmitted
  | joined former connective clauses =>
      have arityAccepts := wellFormed.arityAccepts
      rw [reassemble_joined, Speech.assemble_of_accepts arityAccepts]
        at reassembled
      cases reassembled
      exact .join anyoneAdmitted subjectAdmitted targetAdmitted arityAccepts
        fun clause member => wellFormed.clause member

end WellFormed

/-- Every reachable content is well-formed, if the agents that readers accept are admitted. -/
theorem Reachable.wellFormed
    {Admits : Agent → Prop}
    {content : Content}
    (admissibleAdmitted : ∀ agent : Agent, agent.Admissible → Admits agent)
    (reachable : content.Reachable Admits) :
    content.WellFormed Admits := by
  have anyoneAdmitted : Admits .anyone :=
    admissibleAdmitted .anyone Agent.admissible_anyone
  induction reachable with
  | state statement subjectAdmitted targetAdmitted =>
      exact .state anyoneAdmitted subjectAdmitted targetAdmitted
  | request subjectAdmitted addresseeAdmitted _ actionWellFormed =>
      refine .join anyoneAdmitted subjectAdmitted ?_ rfl ?_
      · rintro target ⟨⟩
        exact addresseeAdmitted
      · simpa using actionWellFormed
  | inquire subjectAdmitted addresseeAdmitted _ questionWellFormed =>
      refine .join anyoneAdmitted subjectAdmitted ?_ rfl ?_
      · rintro target ⟨⟩
        exact addresseeAdmitted
      · simpa using questionWellFormed
  | because subjectAdmitted _ _ reasonWellFormed actionWellFormed =>
      refine .join anyoneAdmitted subjectAdmitted (by simp [Connective.target?]) rfl ?_
      simpa using ⟨reasonWellFormed, actionWellFormed⟩
  | xor subjectAdmitted _ _ firstWellFormed secondWellFormed =>
      refine .join anyoneAdmitted subjectAdmitted (by simp [Connective.target?]) rfl ?_
      simpa using ⟨firstWellFormed, secondWellFormed⟩
  | not subjectAdmitted _ clauseWellFormed =>
      refine .join anyoneAdmitted subjectAdmitted (by simp [Connective.target?]) rfl ?_
      simpa using clauseWellFormed
  | day number subjectAdmitted _ clauseWellFormed =>
      refine .join anyoneAdmitted subjectAdmitted (by simp [Connective.target?]) rfl ?_
      simpa using clauseWellFormed
  | compose subjectAdmitted targetAdmitted _ composed clausesWellFormed =>
      exact .compose anyoneAdmitted subjectAdmitted targetAdmitted
        clausesWellFormed composed
  | reassemble subjectAdmitted _ reassembled contentWellFormed =>
      exact contentWellFormed.reassemble anyoneAdmitted subjectAdmitted
        reassembled
  | withSubject subjectAdmitted _ contentWellFormed =>
      exact contentWellFormed.withSubject anyoneAdmitted subjectAdmitted
  | clause _ member contentWellFormed =>
      exact contentWellFormed.clause member
  | read succeeds =>
      exact (wellFormed_of_read succeeds).mono admissibleAdmitted
  | readOrSkip maxDepth text =>
      exact (wellFormed_readOrSkip maxDepth text).mono admissibleAdmitted

end WerewolfSpeech.Content
