import WerewolfSpeech.Proofs.Reading.RoundTrip
import WerewolfSpeech.Proofs.Reading.WellFormed

namespace WerewolfSpeech.Content

/-!
# Settled contents

A content is settled at a limit if reading its line cannot change it: nothing lies deeper
than the limit, where a skipped turn would take its place, and every silence is attributed
to the agent that governs it. Completion settles a clause for the agent that completes it,
and so whatever a lenient reader makes of a text is settled at its limit.
-/

/-- A content that neither the limit nor the attribution of silences changes. -/
def Settled
    (levels : Nat)
    (governor : Agent)
    (content : Content) :
    Prop :=
  (cut levels content).attributeSilence governor = content

/-- A silence is settled under the agent that it is attributed to. -/
private theorem settled_silence
    (levels : Nat)
    (governor : Agent)
    (kind : Silence) :
    Settled (levels + 1) governor (.atomic governor (.silence kind)) := by
  rw [Settled, cut, attributeSilence_silence]

private theorem settled_skip
    (levels : Nat)
    (governor : Agent) :
    Settled levels governor (.atomic governor (.silence .skip)) := by
  cases levels with
  | zero =>
      rw [Settled, cut, skip, attributeSilence_silence]
  | succ below =>
      exact settled_silence below governor .skip

private theorem settled_atomic
    {statement : Statement}
    (saysSomething : ∀ kind, statement ≠ .silence kind)
    (levels : Nat)
    (governor subject : Agent) :
    Settled (levels + 1) governor (.atomic subject statement) := by
  rw [Settled, cut, attributeSilence_atomic saysSomething]

/-- Joined clauses are settled if each clause is, under the agent that governs them. -/
private theorem settled_joined_iff
    {levels : Nat}
    {governor subject : Agent}
    {connective : Connective}
    {clauses : List Content} :
    Settled (levels + 1) governor (.joined subject connective clauses) ↔
      ∀ clause ∈ clauses,
        Settled levels (connective.governor subject) clause := by
  have fixed :
      clauses.map
            (attributeSilence (connective.governor subject) ∘ cut levels) =
          clauses.map id ↔
        ∀ clause ∈ clauses,
          Settled levels (connective.governor subject) clause :=
    List.map_inj_left
  rw [List.map_id] at fixed
  rw [Settled, cut, attributeSilence_joined, List.map_map,
    Content.joined.injEq]
  simpa only [true_and] using fixed

/-- Only skipped turns are settled where no level is left. -/
private theorem eq_skip_of_settled_zero
    {governor : Agent}
    {content : Content}
    (settled : content.Settled 0 governor) :
    content = .atomic governor (.silence .skip) := by
  rw [Settled, cut, skip, attributeSilence_silence] at settled
  exact settled.symm

private theorem settled_governed_atomic
    {levels : Nat}
    {subject : Agent}
    {statement : Statement}
    (settled :
      (Content.atomic subject statement).Settled (levels + 1)
        .unspecified)
    (filled : statement.withTarget = statement)
    (governor : Agent) :
    ((Content.atomic subject statement).governed governor).Settled
      (levels + 1) governor := by
  rcases statement.silence_or_not with ⟨kind, rfl⟩ | saysSomething
  · have unattributed : Agent.unspecified = subject := by
      rw [Settled, cut, attributeSilence_silence,
        Content.atomic.injEq] at settled
      exact settled.1
    rw [← unattributed, governed_atomic_unspecified rfl]
    exact settled_silence levels governor kind
  · by_cases specified : subject = .unspecified
    · rw [specified, governed_atomic_unspecified filled]
      exact settled_atomic saysSomething levels governor governor
    · have unchanged :
          governed governor (.atomic subject statement) =
            .atomic subject statement :=
        governed_of_subject governor specified
      rw [unchanged]
      exact settled_atomic saysSomething levels governor subject

/-- A clause that was complete without a subject above it is settled when one arrives. -/
private theorem settled_governed_clause
    {levels : Nat}
    {connective : Connective}
    {clauses : List Content}
    {clause : Content}
    {subject : Agent}
    (settled :
      clause.Settled levels (connective.governor .unspecified))
    (wellFormed :
      (Content.joined .unspecified connective clauses).WellFormed
        Agent.Admissible)
    (member : clause ∈ clauses)
    (completes :
      clause.Settled levels .unspecified →
        (clause.governed subject).Settled levels subject) :
    (clause.governed (connective.governor subject)).Settled levels
      (connective.governor subject) := by
  have aimed : Aimed Agent.Admissible connective.target? :=
    wellFormed.aimed
  cases named : connective.target? with
  | none =>
      rw [Connective.governor_of_no_target? named] at settled ⊢
      exact completes settled
  | some target =>
      -- The addressee completed the clause at once, so it has a subject.
      rw [Connective.governor_of_target? named] at settled ⊢
      have specified : clause.subject ≠ .unspecified := by
        intro noSubject
        have noGovernor := wellFormed.governed member noSubject
        rw [Connective.governor_of_target? named] at noGovernor
        exact (aimed target named).2 noGovernor
      rw [governed_of_subject target specified]
      exact settled

/-- Completion settles a clause for the agent that completes it. -/
theorem Settled.governed
    {levels : Nat}
    {content : Content}
    (settled : content.Settled levels .unspecified)
    (wellFormed : content.WellFormed Agent.Admissible)
    (governor : Agent) :
    (content.governed governor).Settled levels governor := by
  by_cases ungoverned : governor = .unspecified
  · rw [ungoverned, governed_unspecified]
    exact settled
  induction content generalizing levels with
  | atomic subject statement =>
      cases levels with
      | zero =>
          cases eq_skip_of_settled_zero settled
          rw [governed_atomic_unspecified rfl]
          exact settled_skip 0 governor
      | succ below =>
          exact settled_governed_atomic settled
            wellFormed.aimed.statement_withTarget governor
  | joined subject connective clauses inductionHypothesis =>
      cases levels with
      | zero =>
          cases eq_skip_of_settled_zero settled
      | succ below =>
          have each := settled_joined_iff.mp settled
          have aimed : Aimed Agent.Admissible connective.target? :=
            wellFormed.aimed
          by_cases specified : subject = .unspecified
          · subst specified
            rw [Content.governed, if_pos ⟨rfl, ungoverned⟩,
              withSubject_joined, join_eq, aimed.connective_withTarget]
            apply settled_joined_iff.mpr
            intro completed member
            obtain ⟨clause, clauseMember, rfl⟩ := List.mem_map.mp member
            exact settled_governed_clause (each clause clauseMember)
              wellFormed clauseMember
              fun clauseSettled =>
                inductionHypothesis clause clauseMember clauseSettled
                  (wellFormed.clause clauseMember)
          · have unchanged :
                Content.governed governor
                    (.joined subject connective clauses) =
                  .joined subject connective clauses :=
              governed_of_subject governor specified
            rw [unchanged]
            exact settled_joined_iff.mpr each

/-- Joined clauses are settled if each clause was before it was joined. -/
private theorem settled_join
    {levels : Nat}
    {subject : Agent}
    {connective : Connective}
    {clauses : List Content}
    (settled : ∀ clause ∈ clauses, clause.Settled levels .unspecified)
    (wellFormed : ∀ clause ∈ clauses, clause.WellFormed Agent.Admissible) :
    (join subject connective clauses).Settled (levels + 1)
      .unspecified := by
  rw [join_eq]
  apply settled_joined_iff.mpr
  intro completed member
  obtain ⟨clause, clauseMember, rfl⟩ := List.mem_map.mp member
  exact (settled clause clauseMember).governed
    (wellFormed clause clauseMember) _

private theorem settled_of_states
    {phrase : Phrase}
    {subject : Agent}
    {statement : Statement}
    (states : phrase.States subject statement)
    (levels : Nat) :
    (state subject statement).Settled (levels + 1) .unspecified := by
  cases states with
  | bare kind =>
      exact settled_silence levels .unspecified kind
  | agreement kind channel _ _ _ =>
      exact settled_atomic (by simp [Statement.withTarget]) levels _ _
  | disclosure kind role _ _ =>
      exact settled_atomic (by simp [Statement.withTarget]) levels _ _
  | report kind species _ _ =>
      exact settled_atomic (by simp [Statement.withTarget]) levels _ _
  | action kind _ _ =>
      exact settled_atomic (by simp [Statement.withTarget]) levels _ _

private theorem wellFormed_of_beneath
    {mode : Mode}
    {limit levels : Nat}
    {text : List Char}
    {content : Content}
    (succeeds :
      Reading.clause mode (Reading.beneath mode limit levels text) =
        .ok content) :
    content.WellFormed Agent.Admissible := by
  refine Reading.wellFormed_of_clause ?_ succeeds
  intro result readsAs
  cases levels with
  | zero =>
      cases readsAs
  | succ below =>
      exact Reading.wellFormed_of_within readsAs

/-- Whatever a lenient reader makes of a text is settled at its limit. -/
theorem settled_of_beneath
    {limit levels : Nat}
    {text : List Char}
    {content : Content}
    (succeeds :
      Reading.clause .lenient
          (Reading.beneath .lenient limit levels text) =
        .ok content) :
    content.Settled levels .unspecified := by
  induction levels generalizing text content with
  | zero =>
      cases succeeds
      exact settled_skip 0 .unspecified
  | succ levels inductionHypothesis =>
      rw [Reading.beneath_succ] at succeeds
      cases result :
          Reading.line .lenient (Reading.beneath .lenient limit levels)
            text with
      | error diagnosis =>
          rw [result] at succeeds
          cases succeeds
          exact settled_skip (levels + 1) .unspecified
      | ok found =>
          rw [result, Reading.clause_ok] at succeeds
          cases succeeds
          cases Reading.readAs_of_line result with
          | stated formed laid states =>
              exact settled_of_states states levels
          | joined formed laid joins split groupsRead accepts =>
              obtain ⟨_, _, origin⟩ := Attempt.ok_of_mapM groupsRead
              apply settled_join
              · intro clause member
                obtain ⟨group, _, groupRead⟩ := origin clause member
                exact inductionHypothesis groupRead
              · intro clause member
                obtain ⟨group, _, groupRead⟩ := origin clause member
                exact wellFormed_of_beneath groupRead

end WerewolfSpeech.Content
