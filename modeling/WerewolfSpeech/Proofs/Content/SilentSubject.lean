import WerewolfSpeech.Proofs.Content.Nodes
import WerewolfSpeech.Proofs.Content.Participant
import WerewolfSpeech.Proofs.Reading.Mention
import WerewolfSpeech.Proofs.SameSpeech

namespace WerewolfSpeech.Content

/-!
# Subjects that no line shows

A silence has a subject like any other content, but its line does not show it. Usually the
silence speaks for the agent that governs it, and the line names that agent elsewhere. But a
silence that is taken out of a content, or whose content is given to somebody else, keeps its
subject. Then the content mentions a participant whom its line does not name, and contents
that are the same speech mention different participants. Nothing else tells them apart.
-/

/-- Every silence speaks for the agent that governs it, or for no participant at all. -/
inductive SilencesFollow : Agent → Content → Prop where
  | silence
      {governor subject : Agent}
      {kind : Silence}
      (follows : subject.isConcrete = true → subject = governor) :
      SilencesFollow governor (.atomic subject (.silence kind))
  | statement
      {governor subject : Agent}
      {statement : Statement}
      (saysSomething : ∀ kind, statement ≠ .silence kind) :
      SilencesFollow governor (.atomic subject statement)
  | joined
      {governor subject : Agent}
      {connective : Connective}
      {clauses : List Content}
      (each :
        ∀ clause ∈ clauses,
          SilencesFollow (connective.governor subject) clause) :
      SilencesFollow governor (.joined subject connective clauses)

/-- Some silence in the content speaks for the agent. -/
def SilentFor
    (content : Content)
    (agent : Agent) :
    Prop :=
  ∃ node ∈ content.nodes, node.isSilence = true ∧ node.subject = agent

private theorem silencesFollow_of_attributed
    {governor : Agent}
    {content : Content}
    (attributed : content.attributeSilence governor = content) :
    content.SilencesFollow governor := by
  induction content generalizing governor with
  | atomic subject statement =>
      rcases statement.silence_or_not with ⟨kind, rfl⟩ | saysSomething
      · exact .silence fun _ => subject_of_attributed attributed rfl
      · exact .statement saysSomething
  | joined subject connective clauses inductionHypothesis =>
      refine .joined fun clause member => ?_
      exact inductionHypothesis clause member
        (forall_attributed_of_joined attributed clause member)

/-- The silences in what is read follow the agents that govern them. -/
private theorem silencesFollow_readOrSkip
    (maxDepth : Nat)
    (text : String) :
    (readOrSkip maxDepth text).SilencesFollow .unspecified :=
  silencesFollow_of_attributed
    (settled_of_beneath (clause_readOrSkip maxDepth text)).attributed

/--
Once the governing agent is known, silences that follow it add nobody: forgetting whom they
speak for changes none of the participants, nor their order.
-/
private theorem addsAlike_forgetSilent
    {governor : Agent}
    {content : Content}
    (follow : content.SilencesFollow governor) :
    AddsAlike governor
      (content.mentions.filter Agent.isConcrete)
      (content.forgetSilent.mentions.filter Agent.isConcrete) := by
  induction content generalizing governor with
  | atomic subject statement =>
      cases follow with
      | silence follows =>
          rw [forgetSilent_silence]
          exact addsAlike_nil follows
      | statement saysSomething =>
          rw [forgetSilent_atomic saysSomething]
          exact fun _ _ => rfl
  | joined subject connective clauses inductionHypothesis =>
      cases follow with
      | joined each =>
          rw [forgetSilent_joined, mentions_joined, mentions_joined,
            List.flatMap_map, List.filter_append, List.filter_append,
            List.filter_flatMap, List.filter_flatMap,
            ← List.singleton_append, List.filter_append]
          refine AddsAlike.append (fun _ _ => rfl) (.flatMap ?_)
            fun isConcrete => Or.inl (governor_mem_filter isConcrete)
          exact fun clause member =>
            inductionHypothesis clause member (each clause member)

private theorem agents_forgetSilent
    {content : Content}
    (follow : content.SilencesFollow .unspecified) :
    content.forgetSilent.agents = content.agents :=
  (addsAlike_forgetSilent follow [] fun isConcrete =>
    absurd isConcrete (by decide)).symm

/-- Whom a content mentions without the subjects of its silences, it mentions with them. -/
private theorem mem_mentions_of_forgetSilent
    {agent : Agent}
    {content : Content}
    (isConcrete : agent.isConcrete = true)
    (mentioned : agent ∈ content.forgetSilent.mentions) :
    agent ∈ content.mentions := by
  induction content with
  | atomic subject statement =>
      rcases statement.silence_or_not with ⟨kind, rfl⟩ | saysSomething
      · rw [forgetSilent_silence, mentions, Statement.target?,
          Option.toList_none, List.mem_singleton] at mentioned
        exact absurd mentioned
          (Agent.ne_unspecified_of_isConcrete isConcrete)
      · rwa [forgetSilent_atomic saysSomething] at mentioned
  | joined subject connective clauses inductionHypothesis =>
      rw [forgetSilent_joined, mem_mentions_joined] at mentioned
      rw [mem_mentions_joined]
      refine mentioned.imp_right (Or.imp_right ?_)
      rintro ⟨_, isForgotten, inClause⟩
      obtain ⟨clause, member, rfl⟩ := List.mem_map.mp isForgotten
      exact ⟨clause, member, inductionHypothesis clause member inClause⟩

/-- Whom a content mentions, it mentions elsewhere or a silence in it speaks for. -/
private theorem mem_mentions_forgetSilent_or_silentFor
    {agent : Agent}
    {content : Content}
    (mentioned : agent ∈ content.mentions) :
    agent ∈ content.forgetSilent.mentions ∨ content.SilentFor agent := by
  induction content with
  | atomic subject statement =>
      rcases statement.silence_or_not with ⟨kind, rfl⟩ | saysSomething
      · rw [mentions, Statement.target?, Option.toList_none,
          List.mem_singleton] at mentioned
        exact Or.inr ⟨_, self_mem_nodes _, rfl, mentioned.symm⟩
      · rw [forgetSilent_atomic saysSomething]
        exact Or.inl mentioned
  | joined subject connective clauses inductionHypothesis =>
      rw [forgetSilent_joined, mem_mentions_joined]
      rw [mem_mentions_joined] at mentioned
      rcases mentioned with isSubject | isTarget | ⟨clause, member, inClause⟩
      · exact Or.inl (Or.inl isSubject)
      · exact Or.inl (Or.inr (Or.inl isTarget))
      · rcases inductionHypothesis clause member inClause with
            elsewhere | ⟨node, isNode, isSilent⟩
        · exact Or.inl (Or.inr (Or.inr
            ⟨clause.forgetSilent, List.mem_map_of_mem member, elsewhere⟩))
        · exact Or.inr ⟨node, mem_nodes_of_clause member isNode, isSilent⟩

/--
Reachable contents that are the same speech mention the same participants in the same order,
if the silences in both follow the agents that govern them. And if one of the contents
mentions a participant whom the other does not, then a silence in it speaks for that
participant.
-/
theorem sameSpeech_agents
    {first second : Content}
    (firstReachable : first.Reachable Agent.Admissible)
    (secondReachable : second.Reachable Agent.Admissible)
    (same : SameSpeech first second) :
    (first.SilencesFollow .unspecified →
        second.SilencesFollow .unspecified →
        first.agents = second.agents) ∧
      ∀ agent ∈ first.agents,
        agent ∈ second.agents ∨ first.SilentFor agent := by
  have sameForgotten : first.forgetSilent = second.forgetSilent :=
    forgetSilent_eq_of_sameSpeech
      (firstReachable.wellFormed fun _ => id)
      (secondReachable.wellFormed fun _ => id) same
  constructor
  · intro firstFollow secondFollow
    rw [← agents_forgetSilent firstFollow, sameForgotten,
      agents_forgetSilent secondFollow]
  · intro agent isParticipant
    obtain ⟨isConcrete, mentioned⟩ := mem_agents.mp isParticipant
    rcases mem_mentions_forgetSilent_or_silentFor mentioned with
        elsewhere | isSilent
    · rw [sameForgotten] at elsewhere
      exact Or.inl (mem_agents.mpr
        ⟨isConcrete, mem_mentions_of_forgetSilent isConcrete elsewhere⟩)
    · exact Or.inr isSilent

/-- The contrary of a skipped turn can be reached for every admissible agent. -/
private theorem reachable_not_skip
    {agent : Agent}
    (admissible : agent.Admissible) :
    (not agent skip).Reachable Agent.Admissible :=
  .not admissible
    (.state (.silence .skip) Agent.admissible_unspecified
      (by simp [Statement.target?]))

/-- The contrary of a skipped turn mentions the same agent after it has been read again. -/
theorem sameSpeech_agents_contrary :
    (not ⟨1⟩ skip).Reachable Agent.Admissible ∧
      SameSpeech (not ⟨1⟩ skip) (readOrSkip 1 (not ⟨1⟩ skip).text) ∧
        (not ⟨1⟩ skip).agents =
          (readOrSkip 1 (not ⟨1⟩ skip).text).agents := by
  have admissible : Agent.Admissible ⟨1⟩ := by
    unfold Agent.Admissible
    decide
  have reachable := reachable_not_skip admissible
  have readAgain :
      readOrSkip 1 (not ⟨1⟩ skip).text = not ⟨1⟩ skip :=
    readOrSkip_text (reachable.wellFormed fun _ => id) 1
  have same :
      SameSpeech (not ⟨1⟩ skip) (readOrSkip 1 (not ⟨1⟩ skip).text) := by
    rw [readAgain]
    exact rfl
  have follow : (not ⟨1⟩ skip).SilencesFollow .unspecified := by
    rw [← readAgain]
    exact silencesFollow_readOrSkip 1 _
  exact
    ⟨reachable, same,
      (sameSpeech_agents reachable (.readOrSkip 1 _) same).1 follow
        (silencesFollow_readOrSkip 1 _)⟩

/--
The contrary of a skipped turn is given to another agent. The turn itself is still the one of
the first agent, whom the line does not name.
-/
theorem agents_ne_of_sameSpeech :
    ((not ⟨1⟩ skip).withSubject ⟨2⟩).Reachable Agent.Admissible ∧
      (not ⟨2⟩ skip).Reachable Agent.Admissible ∧
        SameSpeech ((not ⟨1⟩ skip).withSubject ⟨2⟩) (not ⟨2⟩ skip) ∧
          ((not ⟨1⟩ skip).withSubject ⟨2⟩).agents = [⟨2⟩, ⟨1⟩] ∧
            (not ⟨2⟩ skip).agents = [⟨2⟩] := by
  have admissible : Agent.Admissible ⟨1⟩ ∧ Agent.Admissible ⟨2⟩ := by
    unfold Agent.Admissible
    decide
  exact
    ⟨.withSubject admissible.2 (reachable_not_skip admissible.1),
      reachable_not_skip admissible.2, by decide, by decide, by decide⟩

end WerewolfSpeech.Content
