import WerewolfSpeech.Proofs.Content.Attribution
import WerewolfSpeech.Proofs.Inscription.Invariant

namespace WerewolfSpeech.Inscription

/-!
# Another subject for an inscription

Another subject is how an utterance is attributed to its speaker. The two main statements
say what that does to an inscription: which nodes take the subject over, and how the line
that is written anew differs from the line that was there.
-/

open Content

/-- The nodes of a content are inscribed as nodes. -/
theorem isNode_inscribe
    {content part : Content}
    (member : part ∈ content.nodes) :
    IsNode part.inscribe content.inscribe := by
  induction content with
  | atomic subject statement =>
      rw [nodes, List.mem_singleton] at member
      subst member
      exact .root
  | joined subject connective clauses inductionHypothesis =>
      rw [nodes] at member
      rcases List.mem_cons.mp member with isRoot | isBelow
      · subst isRoot
        exact .root
      · obtain ⟨clause, clauseMember, inClause⟩ :=
          mem_nodesOfEach.mp isBelow
        refine .inClause ?_
          (inductionHypothesis clause clauseMember inClause)
        rw [clauses_inscribe]
        exact List.mem_map_of_mem clauseMember

/--
With another subject, the root and every node below that had no subject speak for it. All
other subjects, the statements, the connectives and the order of the clauses are as they
were. The subject that was there already changes nothing at all.
-/
theorem Reachable.withSubject_reaches
    {inscription : Inscription}
    (reachable : inscription.Reachable)
    (agent : Agent) :
    (inscription.withSubject agent).plain =
        inscription.plain.spokenBy agent ∧
      inscription.withSubject inscription.subject = inscription := by
  obtain ⟨content, wellFormed, rfl⟩ := reachable.kept
  constructor
  · rw [withSubject_inscribe, plain_inscribe, plain_inscribe,
      wellFormed.withSubject_eq_spokenBy]
  · rw [withSubject_inscribe, subject_inscribe,
      wellFormed.withSubject_subject]

/-- A request and a guard, of which only the guard has a subject. -/
def unattributed : Inscription :=
  .join .unspecified .and
    [.join .unspecified (.request ⟨5⟩)
        [.state .unspecified (.deed .vote ⟨3⟩)],
      .state ⟨2⟩ (.deed .guard ⟨4⟩)]

/-- The request and the guard can be joined. -/
private theorem reachable_unattributed :
    unattributed.Reachable := by
  refine .join .unspecified rfl ?_
  simp only [List.forall_mem_cons]
  refine ⟨.join .unspecified rfl ?_, .state ⟨2⟩ _, by simp⟩
  simp only [List.forall_mem_cons]
  exact ⟨.state .unspecified _, by simp⟩

/-- The first agent takes over the request, but neither its clause nor the guard. -/
theorem withSubject_reaches_request :
    unattributed.Reachable ∧
      (unattributed.withSubject ⟨1⟩).plain =
          .joined ⟨1⟩ .and
            [.joined ⟨1⟩ (.request ⟨5⟩)
                [.atomic ⟨5⟩ (.deed .vote ⟨3⟩)],
              .atomic ⟨2⟩ (.deed .guard ⟨4⟩)] ∧
        unattributed.withSubject unattributed.subject = unattributed :=
  ⟨reachable_unattributed,
    reachable_unattributed.withSubject_reaches ⟨1⟩⟩

/--
An inscription without a subject that says something, attributed to somebody who is not
the subject of any node of it: the line is the one that was there, behind the label of the
new subject.
-/
theorem Reachable.text_withSubject_of_foreign
    {inscription : Inscription}
    {agent : Agent}
    (reachable : inscription.Reachable)
    (noSubject : inscription.subject = .unspecified)
    (saysSomething : inscription.isSilence = false)
    (specified : agent ≠ .unspecified)
    (foreign : ∀ node, IsNode node inscription → node.subject ≠ agent) :
    (inscription.withSubject agent).text =
        agent.label ++ " " ++ inscription.text ∧
      (inscription.withSubject agent).body = inscription.text := by
  obtain ⟨content, wellFormed, rfl⟩ := reachable.kept
  rw [subject_inscribe] at noSubject
  rw [isSilence_inscribe] at saysSomething
  have foreignParts : ∀ part ∈ content.nodes, part.subject ≠ agent := by
    intro part member
    rw [← subject_inscribe]
    exact foreign part.inscribe (isNode_inscribe member)
  have attributed : content.withSubject agent = content.ascribe agent := by
    rw [wellFormed.withSubject_eq_spokenBy, ascribe_eq_spokenBy noSubject]
  have newLead :
      (content.ascribe agent).subjectChars = agent.word ++ [' '] := by
    simp [subjectChars, saysSomething, noSubject, specified]
  have newBody : (content.ascribe agent).body = content.text := by
    have noLead : content.subjectChars = [] := by
      simp [subjectChars, noSubject]
    rw [Content.body, bodyChars_ascribe wellFormed foreignParts,
      Content.text, chars, noLead, List.nil_append]
  rw [withSubject_inscribe, text_inscribe, text_inscribe, body_inscribe,
    attributed]
  refine ⟨?_, newBody⟩
  calc
    (content.ascribe agent).text =
        String.ofList (agent.word ++ [' ']) ++
          (content.ascribe agent).body := by
      rw [Content.text, chars, newLead, String.ofList_append, Content.body]
    _ = agent.label ++ " " ++ content.text := by
      rw [newBody, String.ofList_append, Agent.label]

/-- Nobody of the conjunction is the first agent, so the label goes in front of its line. -/
theorem text_withSubject_of_foreign_conjunction :
    unattributed.Reachable ∧
      (∀ node, IsNode node unattributed → node.subject ≠ ⟨1⟩) ∧
        (unattributed.withSubject ⟨1⟩).text =
            "Agent[01]" ++ " " ++ unattributed.text ∧
          (unattributed.withSubject ⟨1⟩).body = unattributed.text := by
  have foreign :
      ∀ node, IsNode node unattributed → node.subject ≠ ⟨1⟩ := by
    intro node isNode
    cases isNode with
    | root => decide
    | inClause member isNode =>
        change _ ∈ [join .unspecified (.request ⟨5⟩)
            [state .unspecified (.deed .vote ⟨3⟩)],
          state ⟨2⟩ (.deed .guard ⟨4⟩)] at member
        rcases List.mem_pair.mp member with rfl | rfl
        · cases isNode with
          | root => decide
          | inClause member isNode =>
              change _ ∈ [state ⟨5⟩ (.deed .vote ⟨3⟩)] at member
              rw [List.mem_singleton] at member
              subst member
              cases isNode with
              | root => decide
              | inClause member _ => cases member
        · cases isNode with
          | root => decide
          | inClause member _ => cases member
  exact ⟨reachable_unattributed, foreign,
    reachable_unattributed.text_withSubject_of_foreign rfl rfl (by decide)
      foreign⟩

end WerewolfSpeech.Inscription
