import WerewolfSpeech.Proofs.Content.WellFormed
import WerewolfSpeech.Proofs.Reading.Phrase

namespace WerewolfSpeech

/-!
# What is read is well-formed

Every agent that a line names has an admissible index, and a request without an addressee
gets it from a clause. So the contents that are read, strictly or leniently, satisfy the
invariant of contents over the admissible agents.
-/

namespace Reading

/-- The subject of a line is admissible. -/
private theorem admissible_of_subject
    {subjectWord : Option Word}
    {subject : Agent}
    (subjectRead : Reading.subject subjectWord = .ok subject) :
    subject.Admissible := by
  cases subjectWord with
  | none =>
      cases subjectRead
      exact Agent.admissible_unspecified
  | some word =>
      exact Agent.admissible_of_ofWord (agent_eq_ok_iff.mp subjectRead)

/-- A stated subject and a stated target are admissible. -/
private theorem admissible_of_states
    {phrase : Phrase}
    {subject : Agent}
    {statement : Statement}
    (states : phrase.States subject statement) :
    subject.Admissible ∧
      ∀ target ∈ statement.target?, target.Admissible := by
  cases states with
  | bare kind =>
      exact ⟨Agent.admissible_unspecified, by simp [Statement.target?]⟩
  | agreement kind channel subjectRead dayRead indexRead =>
      exact ⟨admissible_of_subject subjectRead, by simp [Statement.target?]⟩
  | disclosure kind role subjectRead targetRead =>
      refine ⟨admissible_of_subject subjectRead, ?_⟩
      rintro target ⟨⟩
      exact Agent.admissible_of_ofWord targetRead
  | report kind species subjectRead targetRead =>
      refine ⟨admissible_of_subject subjectRead, ?_⟩
      rintro target ⟨⟩
      exact Agent.admissible_of_ofWord targetRead
  | action kind subjectRead targetRead =>
      refine ⟨admissible_of_subject subjectRead, ?_⟩
      rintro target ⟨⟩
      exact Agent.admissible_of_ofWord targetRead

/-- The addressee that a request takes from its clauses is admissible. -/
private theorem admissible_impliedAddressee
    {operator : Operator}
    {clauses : List Content}
    (wellFormed : ∀ clause ∈ clauses, clause.WellFormed Agent.Admissible) :
    (impliedAddressee operator clauses).Admissible := by
  unfold impliedAddressee
  split
  · next first rest =>
      rw [Agent.orElse]
      split
      · exact Agent.admissible_anyone
      · exact (wellFormed first List.mem_cons_self).admits_subject
  · exact Agent.admissible_anyone

/-- A connective has no other addressee than the one that it is made with. -/
theorem target_of_ofOperator
    {target other : Agent}
    {day : UInt32}
    {operator : Operator}
    (named : (Connective.ofOperator target day operator).target? = some other) :
    other = target := by
  cases operator <;> simp_all [Connective.ofOperator, Connective.target?]

/-- The subject and the addressee of joined clauses are admissible. -/
private theorem admissible_of_joins
    {phrase : Phrase}
    {subject : Agent}
    {connective : List Content → Connective}
    {list : List Char}
    {clauses : List Content}
    (joins : phrase.Joins subject connective list)
    (wellFormed : ∀ clause ∈ clauses, clause.WellFormed Agent.Admissible) :
    subject.Admissible ∧
      ∀ target ∈ (connective clauses).target?, target.Admissible := by
  cases joins with
  | addressed addresses list subjectRead targetRead =>
      refine ⟨admissible_of_subject subjectRead, ?_⟩
      intro target named
      rw [target_of_ofOperator named]
      exact Agent.admissible_of_ofWord targetRead
  | connective connects list subjectRead =>
      refine ⟨admissible_of_subject subjectRead, ?_⟩
      intro target named
      rw [target_of_ofOperator named]
      exact admissible_impliedAddressee wellFormed
  | dated list subjectRead dayRead =>
      exact ⟨admissible_of_subject subjectRead, by simp [Connective.target?]⟩

private theorem wellFormed_skip :
    Content.skip.WellFormed Agent.Admissible :=
  .atomic Agent.admissible_unspecified (by simp [Aimed, Statement.target?])

/-- In either mode a clause is well-formed if whatever it is read as is. -/
theorem wellFormed_of_clause
    {mode : Mode}
    {result : Except Diagnosis Content}
    {content : Content}
    (sound : ∀ content, result = .ok content → content.WellFormed Agent.Admissible)
    (succeeds : clause mode result = .ok content) :
    content.WellFormed Agent.Admissible := by
  unfold clause at succeeds
  split at succeeds
  · cases succeeds
    exact wellFormed_skip
  · exact sound content succeeds

/-- A line is well-formed if the clauses that are read are. -/
private theorem wellFormed_of_line
    {mode : Mode}
    {readClause : List Char → Except Diagnosis Content}
    {text : List Char}
    {content : Content}
    (sound :
      ∀ group content,
        readClause group = .ok content → content.WellFormed Agent.Admissible)
    (succeeds : line mode readClause text = .ok content) :
    content.WellFormed Agent.Admissible := by
  cases readAs_of_line succeeds with
  | stated formed laid states =>
      obtain ⟨subjectAdmissible, targetAdmissible⟩ :=
        admissible_of_states states
      exact .state Agent.admissible_anyone subjectAdmissible
        targetAdmissible
  | @joined _ _ _ _ _ clauses formed laid joins split groupsRead accepts =>
      obtain ⟨_, _, origin⟩ := Attempt.ok_of_mapM groupsRead
      have clausesWellFormed :
          ∀ clause ∈ clauses, clause.WellFormed Agent.Admissible := by
        intro clause member
        obtain ⟨group, _, groupRead⟩ := origin clause member
        exact wellFormed_of_clause (sound group) groupRead
      obtain ⟨subjectAdmissible, targetAdmissible⟩ :=
        admissible_of_joins joins clausesWellFormed
      exact .compose Agent.admissible_anyone subjectAdmissible
        targetAdmissible clausesWellFormed
        (Content.compose_eq_ok_iff.mpr ⟨accepts, rfl⟩)

/-- Whatever is read within some levels is well-formed. -/
theorem wellFormed_of_within
    {mode : Mode}
    {limit level : Nat}
    {text : List Char}
    {content : Content}
    (succeeds : within Content mode limit level text = .ok content) :
    content.WellFormed Agent.Admissible := by
  induction level generalizing text content with
  | zero =>
      refine wellFormed_of_line ?_ succeeds
      intro group result impossible
      cases impossible
  | succ level inductionHypothesis =>
      refine wellFormed_of_line ?_ succeeds
      intro group result groupRead
      exact inductionHypothesis groupRead

end Reading

namespace Content

/-- What is read strictly is well-formed. -/
theorem wellFormed_of_read
    {maxDepth : Nat}
    {text : String}
    {content : Content}
    (succeeds : read maxDepth text = .ok content) :
    content.WellFormed Agent.Admissible :=
  Reading.wellFormed_of_within succeeds

/-- What is read leniently is well-formed. -/
theorem wellFormed_readOrSkip
    (maxDepth : Nat)
    (text : String) :
    (readOrSkip maxDepth text).WellFormed Agent.Admissible := by
  unfold readOrSkip Reading.leniently
  split
  · next content succeeds =>
      exact Reading.wellFormed_of_within succeeds
  · exact Reading.wellFormed_skip

end Content

end WerewolfSpeech
