import WerewolfSpeech.Proofs.Content.Mention

namespace WerewolfSpeech

/-!
# Participants of what is built

Building fills in missing targets with a stand-in, and completion makes clauses speak for
agents that the content mentions anyway. So a participant comes up in what is built exactly
if it is the subject or the target or comes up in one of the clauses that went into it.
-/

/-- The participants of a content are the agents it mentions that are no stand-ins. -/
theorem Content.mem_agents
    {agent : Agent}
    {content : Content} :
    agent ∈ content.agents ↔
      agent.isConcrete = true ∧ agent ∈ content.mentions := by
  simp [agents, and_comm]

/-- Joined clauses mention the subject, the addressee and whomever the clauses mention. -/
theorem Content.mem_mentions_joined
    {agent subject : Agent}
    {connective : Connective}
    {clauses : List Content} :
    agent ∈ mentions (.joined subject connective clauses) ↔
      agent = subject ∨
        agent ∈ connective.target? ∨
          ∃ clause ∈ clauses, agent ∈ clause.mentions := by
  simp [mentions_joined]

/-- Whom a well-formed content mentions is admitted. -/
theorem Content.WellFormed.admits_of_mem_mentions
    {Admits : Agent → Prop}
    {content : Content}
    (wellFormed : content.WellFormed Admits)
    {agent : Agent}
    (mentioned : agent ∈ content.mentions) :
    Admits agent := by
  induction content with
  | atomic subject statement =>
      rw [mentions, List.mem_cons, Option.mem_toList] at mentioned
      rcases mentioned with rfl | isTarget
      · exact wellFormed.admits_subject
      · exact (wellFormed.aimed agent isTarget).1
  | joined subject connective clauses inductionHypothesis =>
      rcases mem_mentions_joined.mp mentioned with
          rfl | isTarget | ⟨clause, member, inClause⟩
      · exact wellFormed.admits_subject
      · exact (wellFormed.aimed agent isTarget).1
      · exact inductionHypothesis clause member
          (wellFormed.clause member) inClause

/--
The clause mentions the agent before and after it is completed alike, except that it may be
completed with that agent.
-/
def Content.CompletedAlike
    (agent : Agent)
    (clause : Content) :
    Prop :=
  ∀ governor,
    (agent ∈ clause.mentions → agent ∈ (clause.governed governor).mentions) ∧
      (agent ∈ (clause.governed governor).mentions →
        agent = governor ∨ agent ∈ clause.mentions)

section Participants

variable
  {agent : Agent}
  (isConcrete : agent.isConcrete = true)

include isConcrete

/-- No participant is an agent that was left unspecified. -/
theorem Agent.ne_unspecified_of_isConcrete :
    agent ≠ .unspecified := by
  rintro rfl
  cases isConcrete

/-- A participant is named as a target exactly if it was named before the gap was filled. -/
theorem Agent.mem_map_orElse_anyone
    {target? : Option Agent} :
    agent ∈ target?.map (·.orElse .anyone) ↔ agent ∈ target? := by
  cases target? with
  | none =>
      simp
  | some target =>
      by_cases isUnspecified : target = .unspecified
      · have isStandIn : target.orElse .anyone = .anyone := by
          rw [orElse, if_pos isUnspecified]
        have notAnyone : agent ≠ .anyone := by
          rintro rfl
          cases isConcrete
        have notTarget : agent ≠ target := by
          rw [isUnspecified]
          exact ne_unspecified_of_isConcrete isConcrete
        simp [isStandIn, notAnyone.symm, notTarget.symm]
      · simp [orElse_of_ne_unspecified _ isUnspecified]

/-- A statement mentions the participants that it is made for and about. -/
theorem Content.mem_mentions_state
    {subject : Agent}
    {statement : Statement} :
    agent ∈ (state subject statement).mentions ↔
      agent = subject ∨ agent ∈ statement.target? := by
  have sameTarget :
      agent ∈ statement.withTarget.target? ↔ agent ∈ statement.target? := by
    rw [Statement.target?_withTarget, Agent.mem_map_orElse_anyone isConcrete]
  rw [state_eq, mentions, List.mem_cons, Option.mem_toList, ← Option.mem_def,
    sameTarget]

/-- Joining clauses that are completed alike mentions the same participants. -/
private theorem Content.mem_mentions_join_of_completedAlike
    {subject : Agent}
    {connective : Connective}
    {clauses : List Content}
    (alike : ∀ clause ∈ clauses, clause.CompletedAlike agent) :
    agent ∈ (join subject connective clauses).mentions ↔
      agent = subject ∨
        agent ∈ connective.target? ∨
          ∃ clause ∈ clauses, agent ∈ clause.mentions := by
  have sameTarget :
      agent ∈ connective.withTarget.target? ↔ agent ∈ connective.target? := by
    rw [Connective.target?_withTarget, Agent.mem_map_orElse_anyone isConcrete]
  rw [join_eq, mem_mentions_joined, sameTarget]
  constructor
  · rintro (isSubject | isTarget | ⟨_, completedMember, mentioned⟩)
    · exact Or.inl isSubject
    · exact Or.inr (Or.inl isTarget)
    · obtain ⟨clause, member, rfl⟩ := List.mem_map.mp completedMember
      rcases (alike clause member _).2 mentioned with isGovernor | before
      -- The clauses are governed by the addressee, if there is one, or by the subject.
      · cases named : connective.withTarget.target? with
        | none =>
            rw [Connective.governor_of_no_target? named] at isGovernor
            exact Or.inl isGovernor
        | some target =>
            rw [Connective.governor_of_target? named] at isGovernor
            refine Or.inr (Or.inl (sameTarget.mp ?_))
            rw [named, isGovernor]
            rfl
      · exact Or.inr (Or.inr ⟨clause, member, before⟩)
  · rintro (isSubject | isTarget | ⟨clause, member, mentioned⟩)
    · exact Or.inl isSubject
    · exact Or.inr (Or.inl isTarget)
    · exact Or.inr (Or.inr ⟨_, List.mem_map_of_mem member,
        (alike clause member _).1 mentioned⟩)

/-- Every clause is completed alike. -/
private theorem Content.completedAlike
    (clause : Content) :
    clause.CompletedAlike agent := by
  have notUnspecified := Agent.ne_unspecified_of_isConcrete isConcrete
  induction clause with
  | atomic subject statement =>
      intro governor
      unfold governed
      split
      · next inherits =>
          have noSubject : subject = .unspecified := inherits.1
          rw [withSubject_atomic, mem_mentions_state isConcrete, mentions,
            List.mem_cons, Option.mem_toList, noSubject]
          exact ⟨fun mentioned => Or.inr (mentioned.resolve_left notUnspecified),
            Or.imp_right Or.inr⟩
      · exact ⟨id, Or.inr⟩
  | joined subject connective clauses inductionHypothesis =>
      intro governor
      unfold governed
      split
      · next inherits =>
          have noSubject : subject = .unspecified := inherits.1
          rw [withSubject_joined,
            mem_mentions_join_of_completedAlike isConcrete inductionHypothesis,
            mem_mentions_joined, noSubject]
          exact ⟨fun mentioned => Or.inr (mentioned.resolve_left notUnspecified),
            Or.imp_right Or.inr⟩
      · exact ⟨id, Or.inr⟩

/-- Joining mentions the subject, the addressee and the participants of the clauses. -/
theorem Content.mem_mentions_join
    {subject : Agent}
    {connective : Connective}
    {clauses : List Content} :
    agent ∈ (join subject connective clauses).mentions ↔
      agent = subject ∨
        agent ∈ connective.target? ∨
          ∃ clause ∈ clauses, agent ∈ clause.mentions :=
  mem_mentions_join_of_completedAlike isConcrete
    fun clause _ => completedAlike isConcrete clause

end Participants

end WerewolfSpeech
