import WerewolfSpeech.Proofs.Content.Rendering
import WerewolfSpeech.Proofs.Content.Silence

namespace WerewolfSpeech

/-!
# Reading a canonical line back

The line of a clause leaves out the subject if it is the governing agent, and a reader
gives that subject back when the clause is completed. The two cancel out at every node: a
clause that is read back and completed by its governing agent is the clause that was
written, up to the subjects of its silences. What lies deeper than the limit is an error
in strict mode and a skipped turn in lenient mode.
-/

namespace Reading

/-- How a clause is read if the levels that are left include its own. -/
def beneath
    (mode : Mode)
    (limit : Nat) :
    Nat →
    List Char →
    Except Diagnosis Content
  | 0 => fun _ => .error (.depthExceeded limit)
  | levels + 1 => within Content mode limit levels

/-- A line within some levels is one whose clauses are read beneath it. -/
theorem beneath_succ
    (mode : Mode)
    (limit levels : Nat)
    (text : List Char) :
    beneath mode limit (levels + 1) text =
      line mode (beneath mode limit levels) text := by
  cases levels <;> rfl

/-- What is read stays as it is in either mode. -/
@[simp] theorem clause_ok
    (mode : Mode)
    (content : Content) :
    clause mode (.ok content) = .ok content := by
  cases mode <;> rfl

/-- In strict mode every result stays as it is. -/
@[simp] theorem clause_strict
    (result : Except Diagnosis Content) :
    clause .strict result = result := by
  cases result <;> rfl

end Reading

namespace Content

/-- A statement without a subject gets the subject of the agent that completes it. -/
theorem governed_atomic_unspecified
    {statement : Statement}
    (filled : statement.withTarget = statement)
    (governor : Agent) :
    governed governor (.atomic .unspecified statement) =
      .atomic governor statement := by
  by_cases isUnspecified : governor = .unspecified
  · rw [isUnspecified, governed_unspecified]
  · rw [governed, if_pos ⟨rfl, isUnspecified⟩, withSubject_atomic,
      state_eq, filled]

/-- A statement with the subject that its line shows is completed to what was written. -/
private theorem governed_shown_atomic
    {governor subject : Agent}
    {statement : Statement}
    (filled : statement.withTarget = statement)
    (inherits : subject = .unspecified → governor = .unspecified) :
    governed governor
        (.atomic
          ((Content.atomic subject statement).shownSubject governor)
          statement) =
      attributeSilence governor (.atomic subject statement) := by
  rcases statement.silence_or_not with ⟨kind, rfl⟩ | saysSomething
  · have shown :
        (Content.atomic subject (.silence kind)).shownSubject governor =
          .unspecified :=
      if_pos (Or.inl rfl)
    rw [shown, governed_atomic_unspecified filled,
      attributeSilence_silence]
  · rw [attributeSilence_atomic saysSomething]
    by_cases elided : subject = governor
    · have shown :
          (Content.atomic subject statement).shownSubject governor =
            .unspecified :=
        if_pos (Or.inr elided)
      rw [shown, governed_atomic_unspecified filled, elided]
    · have notUnspecified : subject ≠ .unspecified := by
        intro isUnspecified
        exact elided (isUnspecified.trans (inherits isUnspecified).symm)
      have notSilent :
          (Content.atomic subject statement).isSilence = false := by
        cases statement with
        | silence kind => exact absurd rfl (saysSomething kind)
        | stance kind citation => rfl
        | disclosure kind target role => rfl
        | finding kind target species => rfl
        | deed kind target => rfl
      have shown :
          (Content.atomic subject statement).shownSubject governor =
            subject := by
        simp [shownSubject, notSilent, Content.subject, elided]
      rw [shown]
      exact governed_of_subject governor notUnspecified

/-- Clauses joined for the subject that a line shows are completed to those written. -/
private theorem governed_shown_join
    {governor subject : Agent}
    {connective : Connective}
    {clauses : List Content}
    (filled : connective.withTarget = connective)
    (inherits : subject = .unspecified → governor = .unspecified)
    (results : List Content) :
    governed governor
        (join
          ((Content.joined subject connective clauses).shownSubject governor)
          connective results) =
      .joined subject connective
        (results.map (governed (connective.governor subject))) := by
  by_cases elided : subject = governor
  · subst elided
    have shown :
        (Content.joined subject connective clauses).shownSubject subject =
          .unspecified :=
      if_pos (Or.inr rfl)
    rw [shown, join_eq, filled]
    by_cases isUnspecified : subject = .unspecified
    · rw [isUnspecified, governed_unspecified]
    · rw [governed, if_pos ⟨rfl, isUnspecified⟩, withSubject_joined,
        join_eq, filled, List.map_map]
      congr 1
      exact List.map_congr_left fun clause _ =>
        governed_governor_unspecified connective subject clause
  · have notUnspecified : subject ≠ .unspecified := by
      intro isUnspecified
      exact elided (isUnspecified.trans (inherits isUnspecified).symm)
    have shown :
        (Content.joined subject connective clauses).shownSubject governor =
          subject := by
      simp [shownSubject, isSilence, Content.subject, elided]
    rw [shown, join_eq, filled]
    exact governed_of_subject governor notUnspecified

/-- Clauses that were read for a connective are composed and completed to its clauses. -/
private theorem exists_compose_shown
    {governor subject : Agent}
    {connective : Connective}
    {clauses results : List Content}
    (wellFormed :
      (Content.joined subject connective clauses).WellFormed
        Agent.Admissible)
    (inherits : subject = .unspecified → governor = .unspecified)
    (sameLength : results.length = clauses.length) :
    ∃ result,
      compose
          ((Content.joined subject connective clauses).shownSubject
            governor)
          connective results =
        .ok result ∧
        result.governed governor =
          .joined subject connective
            (results.map (governed (connective.governor subject))) := by
  have aimed : Aimed Agent.Admissible connective.target? :=
    wellFormed.aimed
  refine ⟨_, compose_eq_ok_iff.mpr ⟨?_, rfl⟩,
    governed_shown_join aimed.connective_withTarget inherits results⟩
  rw [sameLength]
  exact wellFormed.arityAccepts

/--
A clause that is read back and completed is what was written, as far as the levels reach.
In strict mode they have to reach all the way down.
-/
theorem exists_read_charsUnder
    {mode : Mode}
    {limit levels : Nat}
    {governor : Agent}
    {content : Content}
    (wellFormed : content.WellFormed Agent.Admissible)
    (inherits : content.subject = .unspecified → governor = .unspecified)
    (readable : mode = .lenient ∨ content.height < levels) :
    ∃ result,
      Reading.clause mode
          (Reading.beneath mode limit levels
            (charsUnder governor content)) =
        .ok result ∧
        result.governed governor =
          (cut levels content).attributeSilence governor := by
  induction levels generalizing governor content with
  | zero =>
      rcases readable with rfl | low
      · refine ⟨skip, rfl, ?_⟩
        rw [cut, skip, attributeSilence_silence]
        exact governed_atomic_unspecified rfl governor
      · exact absurd low (Nat.not_lt_zero _)
  | succ levels inductionHypothesis =>
      rw [Reading.beneath_succ]
      cases content with
      | atomic subject statement =>
          rw [line_charsUnder_atomic wellFormed, cut]
          exact ⟨_, Reading.clause_ok mode _,
            governed_shown_atomic wellFormed.aimed.statement_withTarget
              inherits⟩
      | joined subject connective clauses =>
          have someClause := wellFormed.someClause
          have clausesReadable :
              ∀ clause ∈ clauses,
                mode = .lenient ∨ clause.height < levels :=
            fun clause member =>
              readable.imp_right fun low =>
                (height_joined_lt_iff someClause subject connective
                  levels).mp low clause member
          obtain ⟨results, succeed, agree⟩ :=
            Attempt.exists_mapM_map fun clause (member : clause ∈ clauses) =>
              inductionHypothesis (wellFormed.clause member)
                (wellFormed.governed member)
                (clausesReadable clause member)
          have sameLength : results.length = clauses.length := by
            simpa using congrArg List.length agree
          obtain ⟨result, composed, completed⟩ :=
            exists_compose_shown wellFormed inherits sameLength
          refine ⟨result, ?_, ?_⟩
          · rw [line_charsUnder_joined wellFormed, succeed]
            exact (congrArg (Reading.clause mode) composed).trans
              (Reading.clause_ok mode result)
          · rw [completed, agree, cut, attributeSilence_joined,
              List.map_map]
            rfl

/-- In strict mode a clause that does not fit the levels is an error. -/
theorem beneath_strict_charsUnder
    {limit levels : Nat}
    {governor : Agent}
    {content : Content}
    (wellFormed : content.WellFormed Agent.Admissible)
    (inherits : content.subject = .unspecified → governor = .unspecified)
    (high : levels ≤ content.height) :
    Reading.beneath .strict limit levels (charsUnder governor content) =
      .error (.depthExceeded limit) := by
  induction levels generalizing governor content with
  | zero =>
      rfl
  | succ levels inductionHypothesis =>
      rw [Reading.beneath_succ]
      cases content with
      | atomic subject statement =>
          exact absurd high (Nat.not_succ_le_zero levels)
      | joined subject connective clauses =>
          have someClause := wellFormed.someClause
          have someHigh : ∃ clause ∈ clauses, levels ≤ clause.height := by
            have notAllLow :=
              mt (height_joined_lt_iff someClause subject connective
                levels).mpr (Nat.not_lt.mpr high)
            simpa using notAllLow
          have fails :
              (clauses.mapM fun clause =>
                  Reading.clause .strict
                    (Reading.beneath .strict limit levels
                      (charsUnder (connective.governor subject) clause))) =
                .error (.depthExceeded limit) := by
            apply Attempt.mapM_of_error
            · intro clause member
              by_cases low : clause.height < levels
              · left
                obtain ⟨result, succeeds, _⟩ :=
                  exists_read_charsUnder (wellFormed.clause member)
                    (wellFormed.governed member) (Or.inr low)
                exact ⟨result, succeeds⟩
              · right
                rw [Reading.clause_strict]
                exact inductionHypothesis (wellFormed.clause member)
                  (wellFormed.governed member) (Nat.le_of_not_lt low)
            · rcases someHigh with ⟨clause, member, clauseHigh⟩
              refine ⟨clause, member, ?_⟩
              rw [Reading.clause_strict]
              exact inductionHypothesis (wellFormed.clause member)
                (wellFormed.governed member) clauseHigh
          rw [line_charsUnder_joined wellFormed, fails]
          rfl

end Content

end WerewolfSpeech
