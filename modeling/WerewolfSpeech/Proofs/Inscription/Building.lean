import WerewolfSpeech.Inscription
import WerewolfSpeech.Proofs.Content.Completion

namespace WerewolfSpeech

/-!
# Building keeps lines up to date

`Content.inscribe` gives every node of a content the line that is rendered from the whole
node. The builders of inscriptions never do that: they copy the lines of the clauses. The
lemmas of this module say that they get the same lines nevertheless, that is to say that
each builder of inscriptions, applied to inscribed contents, gives the inscribed result of
the builder of contents.
-/

namespace Rendered

/-- The text that is written is the lead with the body behind it. -/
theorem text_write
    (lead body : List Char) :
    (write lead body).text = String.ofList (lead ++ body) :=
  String.ofList_append.symm

/-- The body starts behind the lead. -/
theorem bodyStart_write
    (lead body : List Char) :
    (write lead body).bodyStart.offset =
      (String.ofList lead).rawEndPos :=
  rfl

/-- What is found at the position where the body starts is the body. -/
theorem body_write
    (lead body : List Char) :
    (write lead body).body = String.ofList body := by
  have splits :
      (write lead body).bodyStart.Splits (String.ofList lead)
        (String.ofList body) :=
    ⟨rfl, rfl⟩
  exact splits.copy_sliceFrom_eq

end Rendered

namespace Content

/-- The line of a content, rendered from the content alone. -/
def rendered
    (content : Content) :
    Rendered :=
  .write content.subjectChars content.bodyChars

mutual

/-- The content with the line of each node, rendered from the node alone. -/
def inscribe :
    Content →
    Inscription
  | .atomic subject statement =>
      .atomic subject statement (rendered (.atomic subject statement))
  | .joined subject connective clauses =>
      .joined subject connective (inscribeEach clauses)
        (rendered (.joined subject connective clauses))

/-- Several contents with their lines. -/
def inscribeEach :
    List Content →
    List Inscription
  | [] => []
  | clause :: rest => clause.inscribe :: inscribeEach rest

end

private theorem inscribeEach_eq_map
    (clauses : List Content) :
    inscribeEach clauses = clauses.map inscribe := by
  induction clauses with
  | nil =>
      rfl
  | cons clause rest inductionHypothesis =>
      simp [inscribeEach, inductionHypothesis]

private theorem inscribe_joined
    (subject : Agent)
    (connective : Connective)
    (clauses : List Content) :
    inscribe (.joined subject connective clauses) =
      .joined subject connective (clauses.map inscribe)
        (rendered (.joined subject connective clauses)) := by
  rw [inscribe, inscribeEach_eq_map]

/-- Inscribing keeps the subject. -/
@[simp] theorem subject_inscribe
    (content : Content) :
    content.inscribe.subject = content.subject := by
  cases content <;> rfl

/-- Inscribing keeps the clauses. -/
theorem clauses_inscribe
    (content : Content) :
    content.inscribe.clauses = content.clauses.map inscribe := by
  cases content with
  | atomic subject statement => rfl
  | joined subject connective clauses =>
      exact inscribeEach_eq_map clauses

/-- Inscribing keeps the operator. -/
@[simp] theorem operator?_inscribe
    (content : Content) :
    content.inscribe.operator? = content.operator? := by
  cases content <;> rfl

/-- Inscribing keeps the target. -/
@[simp] theorem target?_inscribe
    (content : Content) :
    content.inscribe.target? = content.target? := by
  cases content <;> rfl

/-- Inscribing keeps silences. -/
@[simp] theorem isSilence_inscribe
    (content : Content) :
    content.inscribe.isSilence = content.isSilence := by
  cases content with
  | atomic subject statement => cases statement <;> rfl
  | joined subject connective clauses => rfl

/-- An inscribed content carries the line that is rendered from it. -/
theorem rendered_inscribe
    (content : Content) :
    content.inscribe.rendered = content.rendered := by
  cases content <;> rfl

/-- The text of an inscribed content is that of the content. -/
theorem text_inscribe
    (content : Content) :
    content.inscribe.text = content.text := by
  rw [Inscription.text, rendered_inscribe]
  exact Rendered.text_write content.subjectChars content.bodyChars

/-- The body of an inscribed content is that of the content. -/
theorem body_inscribe
    (content : Content) :
    content.inscribe.body = content.body := by
  rw [Inscription.body, rendered_inscribe]
  exact Rendered.body_write content.subjectChars content.bodyChars

/-- The content of an inscribed content is the content. -/
@[simp] theorem plain_inscribe
    (content : Content) :
    content.inscribe.plain = content := by
  induction content with
  | atomic subject statement =>
      rfl
  | joined subject connective clauses inductionHypothesis =>
      have clausesPlain :
          Inscription.plainEach (inscribeEach clauses) = clauses := by
        induction clauses with
        | nil =>
            rfl
        | cons clause rest restHypothesis =>
            rw [List.forall_mem_cons] at inductionHypothesis
            rw [inscribeEach, Inscription.plainEach, inductionHypothesis.1,
              restHypothesis inductionHypothesis.2]
      rw [inscribe, Inscription.plain, clausesPlain]

end Content

namespace Inscription

open Content

/-- The part that names the subject of a content is empty if the content is silent. -/
theorem subjectChars_eq_leadChars
    (content : Content) :
    content.subjectChars =
      if content.isSilence = true then [] else leadChars content.subject := by
  unfold subjectChars leadChars
  by_cases silent : content.isSilence = true
  · simp [silent]
  · by_cases noSubject : content.subject = .unspecified
    · simp [silent, noSubject]
    · simp [silent, noSubject]

/-- A clause is copied as it is rendered under its governing agent. -/
private theorem copied_inscribe
    (governor : Agent)
    (clause : Content) :
    copied governor clause.inscribe =
      ' ' :: '(' :: (charsUnder governor clause ++ [')']) := by
  rw [copied, subject_inscribe, text_inscribe, body_inscribe]
  unfold charsUnder Content.text Content.body Content.chars
  split <;> simp

/-- The line of a statement is rendered when the statement is written. -/
private theorem writeStatement_eq
    (subject : Agent)
    (statement : Statement) :
    writeStatement subject statement =
      inscribe (.atomic subject statement) := by
  rw [inscribe, Content.rendered, subjectChars_eq_leadChars, bodyChars]
  cases statement <;> rfl

/-- The line that is made of the lines of the clauses is the one that is rendered. -/
private theorem writeClauses_map_inscribe
    (subject : Agent)
    (connective : Connective)
    (clauses : List Content) :
    writeClauses subject connective (clauses.map inscribe) =
      inscribe (.joined subject connective clauses) := by
  have copiedClauses :
      (clauses.map inscribe).flatMap
          (copied (connective.governor subject)) =
        clausesChars (connective.governor subject) clauses := by
    rw [clausesChars_eq_flatMap, List.flatMap_map]
    simp only [copied_inscribe]
  rw [writeClauses, copiedClauses, inscribe_joined, Content.rendered,
    subjectChars_eq_leadChars, bodyChars]
  rfl

/-- Stating something inscribes the statement. -/
theorem state_eq_inscribe
    (subject : Agent)
    (statement : Statement) :
    state subject statement = (Content.state subject statement).inscribe :=
  writeStatement_eq subject statement.withTarget

/-- What an inscribed node comes to depends on its inscribed clauses. -/
private theorem fold_inscribe_joined
    {Result : Type}
    (ofStatement : Statement → Result)
    (ofClauses : Connective → List (Inscription × Result) → Result)
    (subject : Agent)
    (connective : Connective)
    (clauses : List Content) :
    Speech.fold ofStatement ofClauses
        (inscribe (.joined subject connective clauses)) =
      ofClauses connective
        ((clauses.map inscribe).map fun clause =>
          (clause, Speech.fold ofStatement ofClauses clause)) := by
  have each :
      foldEach ofStatement ofClauses (clauses.map inscribe) =
        (clauses.map inscribe).map fun clause =>
          (clause, fold ofStatement ofClauses clause) := by
    induction clauses with
    | nil =>
        rfl
    | cons clause rest inductionHypothesis =>
        rw [List.map_cons, foldEach, inductionHypothesis, List.map_cons]
  rw [inscribe_joined]
  exact congrArg (ofClauses connective) each

/-- Joining keeps lines up to date if every clause does that inherits. -/
private theorem join_map_inscribe_of_each
    {clauses : List Content}
    (each :
      ∀ clause ∈ clauses, ∀ agent,
        clause.inscribe.withSubject agent =
          (clause.withSubject agent).inscribe)
    (subject : Agent)
    (connective : Connective) :
    join subject connective (clauses.map inscribe) =
      (Content.join subject connective clauses).inscribe := by
  have completed :
      complete (connective.withTarget.heritage? subject)
          (clauses.map inscribe) =
        (Content.complete (connective.withTarget.heritage? subject)
          clauses).map inscribe := by
    simp only [complete, Content.complete, Speech.complete, Speech.inherit,
      List.map_map]
    refine List.map_congr_left fun clause member => ?_
    simp only [Function.comp_apply]
    cases connective.withTarget.heritage? subject with
    | none => rfl
    | some agent =>
        change
          (if clause.inscribe.subject = .unspecified then _ else _) =
            inscribe (if clause.subject = .unspecified then _ else _)
        rw [subject_inscribe]
        split
        · exact each clause member agent
        · rfl
  rw [Content.join_eq_complete, ← writeClauses_map_inscribe, ← completed]
  rfl

/-- Another subject keeps lines up to date, down to the clauses that inherit it. -/
theorem withSubject_inscribe
    (content : Content)
    (subject : Agent) :
    content.inscribe.withSubject subject =
      (content.withSubject subject).inscribe := by
  induction content generalizing subject with
  | atomic former statement =>
      rw [Content.withSubject_atomic, ← state_eq_inscribe]
      rfl
  | joined former connective clauses inductionHypothesis =>
      rw [Content.withSubject_joined,
        ← join_map_inscribe_of_each inductionHypothesis, withSubject,
        Speech.withSubject, fold_inscribe_joined]
      rfl

/-- Joining inscribed clauses inscribes the joined clauses. -/
theorem join_map_inscribe
    (subject : Agent)
    (connective : Connective)
    (clauses : List Content) :
    join subject connective (clauses.map inscribe) =
      (Content.join subject connective clauses).inscribe :=
  join_map_inscribe_of_each (fun clause _ => withSubject_inscribe clause)
    subject connective

/-- Composing inscribed clauses inscribes what the clauses are composed to. -/
theorem compose_map_inscribe
    (subject : Agent)
    (connective : Connective)
    (clauses : List Content) :
    compose subject connective (clauses.map inscribe) =
      inscribe <$> Content.compose subject connective clauses := by
  rw [compose, Speech.compose_eq, Content.compose_eq, List.length_map]
  split
  · exact congrArg Except.ok (join_map_inscribe subject connective clauses)
  · rfl

/-- Assembling inscribed clauses inscribes what the clauses are assembled to. -/
private theorem assemble_map_inscribe
    (subject : Agent)
    (connective : Connective)
    (clauses : List Content) :
    Speech.assemble subject connective (clauses.map inscribe) =
      inscribe <$> Speech.assemble subject connective clauses := by
  have joined :
      Except.ok (join subject connective (clauses.map inscribe)) =
        inscribe <$>
          (.ok (Content.join subject connective clauses) :
            Except Diagnosis Content) :=
    congrArg Except.ok (join_map_inscribe subject connective clauses)
  cases connective with
  | and =>
      cases clauses with
      | nil => rfl
      | cons first rest => exact joined
  | or =>
      cases clauses with
      | nil => rfl
      | cons first rest => exact joined
  | _ => exact joined

/-- Putting an inscribed content together again inscribes the result. -/
theorem reassemble_inscribe
    (subject : Agent)
    (content : Content) :
    content.inscribe.reassemble subject =
      inscribe <$> content.reassemble subject := by
  cases content with
  | atomic former statement =>
      rw [Content.reassemble_atomic]
      exact congrArg Except.ok (state_eq_inscribe subject statement)
  | joined former connective clauses =>
      rw [Content.reassemble_joined, ← assemble_map_inscribe, reassemble,
        Speech.reassemble, fold_inscribe_joined, List.map_map]
      exact congrArg (Speech.assemble subject connective)
        (List.map_id (clauses.map inscribe))

end Inscription

end WerewolfSpeech
