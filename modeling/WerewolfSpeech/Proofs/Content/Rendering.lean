import WerewolfSpeech.Proofs.Reading.Clauses

namespace WerewolfSpeech

/-!
# How a canonical line is read

The canonical line of a well-formed node is the line of its phrase. What follows a
connective is a list of its clauses, each of them balanced and on one line. So reading the
line of a node comes down to reading the lines of its clauses and composing the results,
with the subject that the line shows.
-/

/-- No operator takes no clauses. -/
theorem Operator.ne_zero_of_accepts
    {operator : Operator}
    {count : Nat}
    (accepts : operator.arity.accepts count = true) :
    count ≠ 0 := by
  rintro rfl
  cases operator <;> exact absurd accepts (by decide)

namespace Content

variable {Admits : Agent → Prop}

/-- A well-formed content that joins clauses has a clause. -/
theorem WellFormed.someClause
    {subject : Agent}
    {connective : Connective}
    {clauses : List Content}
    (wellFormed :
      (Content.joined subject connective clauses).WellFormed Admits) :
    clauses ≠ [] := by
  cases wellFormed with
  | joined _ _ arityAccepts _ _ =>
      rintro rfl
      exact Operator.ne_zero_of_accepts arityAccepts rfl

/-- The subject that the line of a content shows under a governing agent. -/
def shownSubject
    (governor : Agent)
    (content : Content) :
    Agent :=
  if content.isSilence = true ∨ content.subject = governor then
    .unspecified
  else
    content.subject

/-- A line consists of the subject that it shows and the body. -/
theorem charsUnder_eq
    (governor : Agent)
    (content : Content) :
    charsUnder governor content =
      (content.shownSubject governor).mentionChars ++ content.bodyChars := by
  unfold charsUnder shownSubject subjectChars Agent.mentionChars
  by_cases governed : content.subject = governor
  · simp [governed]
  · by_cases silent : content.isSilence = true
    · simp [governed, silent]
    · simp [governed, silent]

/-- A statement can be written with the subject that its line shows. -/
theorem takesSubject_shownSubject
    (governor subject : Agent)
    (statement : Statement) :
    statement.TakesSubject
      ((Content.atomic subject statement).shownSubject governor) := by
  rintro kind rfl
  simp [shownSubject, isSilence]

/-- The subject that a line shows is admitted. -/
theorem admissible_shownSubject
    {content : Content}
    (wellFormed : content.WellFormed Agent.Admissible)
    (governor : Agent) :
    (content.shownSubject governor).Admissible := by
  unfold shownSubject
  split
  · exact Agent.admissible_unspecified
  · exact wellFormed.admits_subject

/-- The clauses of a line are the lines of the clauses in parentheses. -/
private theorem clausesChars_eq_inParentheses
    (governor : Agent)
    (clauses : List Content) :
    clausesChars governor clauses =
      Line.inParentheses (clauses.map (charsUnder governor)) := by
  rw [clausesChars_eq_flatMap, Line.inParentheses, List.flatMap_map]

/-- The line of joined clauses is that of its phrase with the clauses in parentheses. -/
theorem charsUnder_joined
    (governor subject : Agent)
    (connective : Connective)
    (clauses : List Content) :
    charsUnder governor (.joined subject connective clauses) =
      [' '].intercalate
          (connective.phrase
            ((Content.joined subject connective clauses).shownSubject
              governor) []).line.words ++
        Line.inParentheses
          (clauses.map (charsUnder (connective.governor subject))) := by
  rw [charsUnder_eq, bodyChars, clausesChars_eq_inParentheses,
    ← List.append_assoc, Connective.mentionChars_append_chars]

/-- The line of a well-formed content can stand in the parentheses of a clause. -/
theorem isClause_charsUnder
    {content : Content}
    (wellFormed : content.WellFormed Agent.Admissible)
    (governor : Agent) :
    Line.IsClause (charsUnder governor content) := by
  induction content generalizing governor with
  | atomic subject statement =>
      rw [charsUnder_eq, bodyChars]
      exact Statement.isClause_chars
        (takesSubject_shownSubject governor subject statement)
        wellFormed.aimed
  | joined subject connective clauses inductionHypothesis =>
      rw [charsUnder_joined]
      apply
        (Connective.opens_phrase
          (admissible_shownSubject wellFormed governor)
          wellFormed.aimed).isClause
      intro group member
      obtain ⟨clause, clauseMember, rfl⟩ := List.mem_map.mp member
      exact inductionHypothesis clause clauseMember
        (wellFormed.clause clauseMember) _

/-- The lines of the clauses of a well-formed content can stand in parentheses. -/
theorem isClause_of_mem_charsUnder
    {subject governor : Agent}
    {connective : Connective}
    {clauses : List Content}
    (wellFormed :
      (Content.joined subject connective clauses).WellFormed
        Agent.Admissible) :
    ∀ group ∈ clauses.map (charsUnder governor), Line.IsClause group := by
  intro group member
  obtain ⟨clause, clauseMember, rfl⟩ := List.mem_map.mp member
  exact isClause_charsUnder (wellFormed.clause clauseMember) _

/-- The line of a well-formed content is laid out as the line of a phrase. -/
theorem exists_laid_charsUnder
    {content : Content}
    (wellFormed : content.WellFormed Agent.Admissible)
    (governor : Agent) :
    ∃ line, Line.Laid line (charsUnder governor content) := by
  cases content with
  | atomic subject statement =>
      rw [charsUnder_eq, bodyChars]
      exact ⟨_, Statement.laid_chars
        (takesSubject_shownSubject governor subject statement)
        wellFormed.aimed⟩
  | joined subject connective clauses =>
      have opens :=
        Connective.opens_phrase
          (admissible_shownSubject wellFormed governor) wellFormed.aimed
      have someGroup :
          clauses.map (charsUnder (connective.governor subject)) ≠ [] := by
        simpa using wellFormed.someClause
      obtain ⟨list, laid, _⟩ :=
        opens.laid someGroup (isClause_of_mem_charsUnder wellFormed)
      rw [charsUnder_joined]
      exact ⟨_, laid⟩

section Reading

variable
  {mode : Mode}
  {readClause : List Char → Except Diagnosis Content}

/-- The line of a statement is read as the statement for the subject that it shows. -/
theorem line_charsUnder_atomic
    {subject : Agent}
    {statement : Statement}
    (wellFormed :
      (Content.atomic subject statement).WellFormed Agent.Admissible)
    (governor : Agent) :
    Reading.line mode readClause
        (charsUnder governor (.atomic subject statement)) =
      .ok
        (.atomic
          ((Content.atomic subject statement).shownSubject governor)
          statement) := by
  rw [charsUnder_eq, bodyChars,
    Statement.line_chars
      (takesSubject_shownSubject governor subject statement)
      (admissible_shownSubject wellFormed governor) wellFormed.aimed,
    state_eq, wellFormed.aimed.statement_withTarget]

/-- The line of joined clauses is read by reading the clauses and composing the results. -/
theorem line_charsUnder_joined
    {subject : Agent}
    {connective : Connective}
    {clauses : List Content}
    (wellFormed :
      (Content.joined subject connective clauses).WellFormed
        Agent.Admissible)
    (governor : Agent) :
    Reading.line mode readClause
        (charsUnder governor (.joined subject connective clauses)) =
      (clauses.mapM fun clause =>
          Reading.clause mode
            (readClause
              (charsUnder (connective.governor subject) clause))) >>=
        compose
          ((Content.joined subject connective clauses).shownSubject
            governor)
          connective := by
  have opens :=
    Connective.opens_phrase
      (admissible_shownSubject wellFormed governor) wellFormed.aimed
  have someGroup :
      clauses.map (charsUnder (connective.governor subject)) ≠ [] := by
    simpa using wellFormed.someClause
  rw [charsUnder_joined,
    opens.line_eq someGroup (isClause_of_mem_charsUnder wellFormed)]
  simp only [List.mapM_map, Function.comp_def]

end Reading

end Content

end WerewolfSpeech
