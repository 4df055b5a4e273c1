import WerewolfSpeech.Proofs.Inscription.Invariant
import WerewolfSpeech.Proofs.Line.Subject

namespace WerewolfSpeech

/-!
# The body of a line, found again

An inscription knows where the body of its line begins, because that was noted when the
line was written. The body of any content is a statement on one line, so cutting off the
subject finds the same place in the line alone, whoever the agents are.
-/

private theorem Agent.newline_not_mem_word
    (agent : Agent) :
    '\n' ∉ agent.word := by
  by_cases isUnspecified : agent = .unspecified
  · subst agent
    decide
  · exact
      (Word.isPlain_of_isAgent
        (Word.isAgent_word isUnspecified)).newline_not_mem

namespace Statement

private theorem newline_not_mem_chars
    (statement : Statement) :
    '\n' ∉ statement.chars := by
  cases statement <;>
    simp [chars, Citation.chars, Agent.newline_not_mem_word,
      (Word.isPlain_keyword _).newline_not_mem,
      (Word.isPlain_of_isSignedNumber
        (Word.isSignedNumber_signed _)).newline_not_mem]

private theorem exists_chars_eq
    (statement : Statement) :
    ∃ rest,
      statement.chars = Vocabulary.word statement.topic ++ rest := by
  cases statement with
  | silence kind => exact ⟨[], (List.append_nil _).symm⟩
  | stance kind citation => exact ⟨_, rfl⟩
  | disclosure kind target role => exact ⟨_, List.append_assoc _ _ _⟩
  | finding kind target species => exact ⟨_, List.append_assoc _ _ _⟩
  | deed kind target => exact ⟨_, rfl⟩

end Statement

namespace Connective

private theorem newline_not_mem_chars
    (connective : Connective) :
    '\n' ∉ connective.chars := by
  cases connective <;>
    simp [chars, Agent.newline_not_mem_word,
      (Word.isPlain_keyword _).newline_not_mem,
      (Word.isPlain_of_isNumber
        (Word.isNumber_of_isDigits
          (Numeral.isDigits_digits _))).newline_not_mem]

private theorem exists_chars_eq
    (connective : Connective) :
    ∃ rest,
      connective.chars = Vocabulary.word connective.operator ++ rest :=
  ⟨_, rfl⟩

end Connective

namespace Content

private theorem newline_not_mem_subjectChars
    (content : Content) :
    '\n' ∉ content.subjectChars := by
  unfold subjectChars
  split
  · exact List.not_mem_nil
  · simp [Agent.newline_not_mem_word]

private theorem newline_not_mem_bodyChars
    (content : Content) :
    '\n' ∉ content.bodyChars := by
  induction content with
  | atomic subject statement =>
      exact statement.newline_not_mem_chars
  | joined subject connective clauses inductionHypothesis =>
      rw [bodyChars, clausesChars_eq_flatMap, List.mem_append, not_or]
      refine ⟨connective.newline_not_mem_chars, ?_⟩
      intro member
      obtain ⟨clause, clauseMember, inClause⟩ := List.mem_flatMap.mp member
      have notInClause := inductionHypothesis clause clauseMember
      have notInLead := clause.newline_not_mem_subjectChars
      simp only [charsUnder] at inClause
      split at inClause <;> simp_all

/-- The body of a line is a statement. -/
private theorem isStatement_bodyChars
    (content : Content) :
    Line.IsStatement content.bodyChars := by
  have oneLine := content.newline_not_mem_bodyChars
  cases content with
  | atomic subject statement =>
      obtain ⟨rest, shape⟩ := statement.exists_chars_eq
      rw [bodyChars, shape] at oneLine ⊢
      exact (Line.opensStatement_topic statement.topic).isStatement oneLine
  | joined subject connective clauses =>
      obtain ⟨rest, shape⟩ := connective.exists_chars_eq
      rw [bodyChars, shape, List.append_assoc] at oneLine ⊢
      exact
        (Line.opensStatement_operator connective.operator).isStatement
          oneLine

/-- Cutting off the subject of a canonical line gives the body. -/
theorem withoutSubject_chars
    (content : Content) :
    Line.withoutSubject content.chars = content.bodyChars := by
  have statement := content.isStatement_bodyChars
  rw [chars, subjectChars]
  split
  · exact statement.withoutSubject_eq
  · next shown =>
      have specified : content.subject ≠ .unspecified := fun same =>
        shown (by simp [same])
      rw [List.append_assoc]
      exact statement.withoutSubject_append
        (Word.isAgent_word specified) Line.isGap_space.2

end Content

namespace Inscription

/--
The two ways to the body agree: cutting off the subject of the line finds the place that
was noted when the line was written. The body itself is left as it is.
-/
theorem Reachable.withoutSubject_text
    {inscription : Inscription}
    (reachable : inscription.Reachable) :
    Line.withoutSubject inscription.text.toList =
        inscription.body.toList ∧
      Line.withoutSubject inscription.body.toList =
        inscription.body.toList := by
  obtain ⟨content, _, rfl⟩ := reachable.kept
  rw [Content.text_inscribe, Content.body_inscribe, Content.text, Content.body,
    String.toList_ofList, String.toList_ofList]
  exact ⟨content.withoutSubject_chars,
    content.isStatement_bodyChars.withoutSubject_eq⟩

/-- Anyone asks, and asks nobody in particular, to agree. -/
def openRequest : Inscription :=
  .join .anyone (.request .unspecified)
    [.state .unspecified (.stance .agree ⟨.talk, 1, 2⟩)]

/-- The request is addressed to anyone, and only its subject is cut off. -/
theorem withoutSubject_text_openRequest :
    openRequest.Reachable ∧
      openRequest.text = "ANY REQUEST ANY (AGREE TALK day1 ID:2)" ∧
        Line.withoutSubject openRequest.text.toList =
            openRequest.body.toList ∧
          Line.withoutSubject openRequest.body.toList =
            openRequest.body.toList := by
  have reachable : openRequest.Reachable := by
    refine .join .anyone rfl ?_
    intro clause member
    rw [List.mem_singleton.mp member]
    exact .state .unspecified _
  exact ⟨reachable, by decide +kernel, reachable.withoutSubject_text⟩

end Inscription

end WerewolfSpeech
