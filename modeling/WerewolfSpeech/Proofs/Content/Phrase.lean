import WerewolfSpeech.Proofs.Content.WellFormed
import WerewolfSpeech.Proofs.Reading.Phrase

namespace WerewolfSpeech

/-!
# The phrase of a node

The canonical line of a statement, and the words of a connective, are the words of a phrase
with single spaces between them. If the agents are admissible and targets are specified,
the phrase is read as that statement or that connective.
-/

namespace Agent

/-- The word that mentions an agent, unless the agent is unspecified. -/
def mention?
    (agent : Agent) :
    Option Word :=
  if agent = unspecified then
    none
  else
    some agent.word

/-- The part of a line that mentions an agent. -/
def mentionChars
    (agent : Agent) :
    List Char :=
  if agent = unspecified then
    []
  else
    agent.word ++ [' ']

/-- Mentioning an agent puts one more word in front. -/
theorem mentionChars_append
    (agent : Agent)
    {words : List Word}
    (someWord : words ≠ []) :
    agent.mentionChars ++ [' '].intercalate words =
      [' '].intercalate (agent.mention?.toList ++ words) := by
  unfold mentionChars mention?
  split
  · rfl
  · cases words with
    | nil =>
        exact absurd rfl someWord
    | cons first rest =>
        simp [List.intercalate_cons_cons]

/-- The word that mentions an agent is a reference to an agent. -/
theorem isAgent_of_mention?
    {agent : Agent} :
    ∀ word ∈ agent.mention?, word.isAgent = true := by
  intro word member
  unfold mention? at member
  split at member
  · cases member
  · next specified =>
      cases member
      exact Word.isAgent_word specified

/-- The mention of an admissible agent is read as that agent. -/
theorem subject_mention?
    {agent : Agent}
    (admissible : agent.Admissible) :
    Reading.subject agent.mention? = .ok agent := by
  unfold mention?
  split
  · next isUnspecified =>
      rw [isUnspecified]
      rfl
  · exact Reading.agent_eq_ok_iff.mpr (ofWord_word admissible)

end Agent

namespace Statement

/-- The phrase that states something for a subject. -/
def phrase
    (subject : Agent) :
    Statement →
    Phrase
  | .silence kind =>
      .bare (Vocabulary.word kind.topic)
  | .stance kind citation =>
      .agreement subject.mention? (Vocabulary.word kind.topic)
        (Vocabulary.word citation.channel)
        (Numeral.signed citation.day.toInt)
        (Numeral.signed citation.index.toInt)
  | .disclosure kind target role =>
      .disclosure subject.mention? (Vocabulary.word kind.topic) target.word
        (Vocabulary.word role)
  | .finding kind target species =>
      .report subject.mention? (Vocabulary.word kind.topic) target.word
        (Vocabulary.word species)
  | .deed kind target =>
      .action subject.mention? (Vocabulary.word kind.topic) target.word

/-- A subject that a statement can be written with: a silence has none. -/
def TakesSubject
    (statement : Statement)
    (subject : Agent) :
    Prop :=
  ∀ kind, statement = .silence kind → subject = .unspecified

private theorem subject?_phrase
    {statement : Statement}
    {subject : Agent}
    (takesSubject : statement.TakesSubject subject) :
    (statement.phrase subject).subject? = subject.mention? := by
  cases statement with
  | silence kind =>
      rw [takesSubject kind rfl]
      rfl
  | stance kind citation => rfl
  | disclosure kind target role => rfl
  | finding kind target species => rfl
  | deed kind target => rfl

private theorem chars_eq
    (statement : Statement)
    (subject : Agent) :
    statement.chars =
      [' '].intercalate
        ((statement.phrase subject).keyword ::
          (statement.phrase subject).parameters) := by
  cases statement with
  | silence kind =>
      simp [chars, phrase, Phrase.keyword, Phrase.parameters]
  | stance kind citation =>
      simp [chars, phrase, Phrase.keyword, Phrase.parameters,
        Citation.chars, List.intercalate_cons_cons]
  | disclosure kind target role =>
      simp [chars, phrase, Phrase.keyword, Phrase.parameters,
        List.intercalate_cons_cons]
  | finding kind target species =>
      simp [chars, phrase, Phrase.keyword, Phrase.parameters,
        List.intercalate_cons_cons]
  | deed kind target =>
      simp [chars, phrase, Phrase.keyword, Phrase.parameters,
        List.intercalate_cons_cons]

/-- The line of a statement has the words of its phrase, one space apart. -/
theorem mentionChars_append_chars
    {statement : Statement}
    {subject : Agent}
    (takesSubject : statement.TakesSubject subject) :
    subject.mentionChars ++ statement.chars =
      [' '].intercalate (statement.phrase subject).line.words := by
  rw [chars_eq statement subject,
    Agent.mentionChars_append subject (List.cons_ne_nil _ _),
    ← subject?_phrase takesSubject]
  rfl

/-- The phrase of a statement has no clause list. -/
theorem list?_phrase
    (statement : Statement)
    (subject : Agent) :
    (statement.phrase subject).list? = none := by
  cases statement <;> rfl

/-- The words of the phrase have the form that they must have, if the target is specified. -/
theorem formed_phrase
    {Admits : Agent → Prop}
    {statement : Statement}
    {subject : Agent}
    (takesSubject : statement.TakesSubject subject)
    (aimed : Aimed Admits statement.target?) :
    (statement.phrase subject).Formed := by
  constructor
  · rw [subject?_phrase takesSubject]
    exact Agent.isAgent_of_mention?
  · cases statement with
    | silence kind =>
        exact (Phrase.Named.bare kind).keywordFits
    | stance kind citation =>
        exact (Phrase.Named.agreement kind citation.channel).keywordFits
    | disclosure kind target role =>
        exact (Phrase.Named.disclosure kind role).keywordFits
    | finding kind target species =>
        exact (Phrase.Named.report kind species).keywordFits
    | deed kind target =>
        exact (Phrase.Named.action kind).keywordFits
  · cases statement with
    | silence kind =>
        rfl
    | stance kind citation =>
        have channelFits := Word.isOneOf_word citation.channel
        simp only [phrase, Phrase.hasParameters,
          Word.isSignedNumber_signed, Bool.and_self, Bool.and_true]
        exact channelFits
    | disclosure kind target role =>
        exact Bool.and_eq_true_iff.mpr
          ⟨Word.isAgent_word (aimed target rfl).2, Word.isOneOf_word role⟩
    | finding kind target species =>
        exact Bool.and_eq_true_iff.mpr
          ⟨Word.isAgent_word (aimed target rfl).2,
            Word.isOneOf_word species⟩
    | deed kind target =>
        exact Word.isAgent_word (aimed target rfl).2

/-- The phrase of a statement states it, if its agents are admissible. -/
theorem states_phrase
    {statement : Statement}
    {subject : Agent}
    (takesSubject : statement.TakesSubject subject)
    (admissible : subject.Admissible)
    (aimed : Aimed Agent.Admissible statement.target?) :
    (statement.phrase subject).States subject statement := by
  have subjectRead := Agent.subject_mention? admissible
  cases statement with
  | silence kind =>
      rw [takesSubject kind rfl]
      exact .bare kind
  | stance kind citation =>
      exact .agreement kind citation.channel subjectRead
        (Numeral.toInt32?_signed citation.day)
        (Numeral.toInt32?_signed citation.index)
  | disclosure kind target role =>
      exact .disclosure kind role subjectRead
        (Agent.ofWord_word (aimed target rfl).1)
  | finding kind target species =>
      exact .report kind species subjectRead
        (Agent.ofWord_word (aimed target rfl).1)
  | deed kind target =>
      exact .action kind subjectRead
        (Agent.ofWord_word (aimed target rfl).1)

end Statement

namespace Connective

/-- The phrase that joins the clauses of a list for a subject. -/
def phrase
    (subject : Agent)
    (list : List Char) :
    Connective →
    Phrase
  | .request target =>
      .addressed subject.mention? (Vocabulary.word Operator.request)
        target.word list
  | .inquire target =>
      .addressed subject.mention? (Vocabulary.word Operator.inquire)
        target.word list
  | .day number =>
      .dated subject.mention? (Numeral.digits number.toNat) list
  | connective =>
      .connective subject.mention? (Vocabulary.word connective.operator) list

private theorem subject?_phrase
    (connective : Connective)
    (subject : Agent)
    (list : List Char) :
    (connective.phrase subject list).subject? = subject.mention? := by
  cases connective <;> rfl

/-- The phrase of a connective has the clause list. -/
theorem list?_phrase
    (connective : Connective)
    (subject : Agent)
    (list : List Char) :
    (connective.phrase subject list).list? = some list := by
  cases connective <;> rfl

private theorem chars_eq
    (connective : Connective)
    (subject : Agent)
    (list : List Char) :
    connective.chars =
      [' '].intercalate
        ((connective.phrase subject list).keyword ::
          (connective.phrase subject list).parameters) := by
  cases connective <;>
    simp [chars, phrase, Phrase.keyword, Phrase.parameters,
      List.intercalate_cons_cons] <;> rfl

/-- The words before a clause list are those of the phrase, one space apart. -/
theorem mentionChars_append_chars
    (connective : Connective)
    (subject : Agent)
    (list : List Char) :
    subject.mentionChars ++ connective.chars =
      [' '].intercalate (connective.phrase subject list).line.words := by
  rw [chars_eq connective subject list,
    Agent.mentionChars_append subject (List.cons_ne_nil _ _),
    ← subject?_phrase connective subject list]
  rfl

/-- The words of the phrase have the form that they must have, if the target is specified. -/
theorem formed_phrase
    {Admits : Agent → Prop}
    {connective : Connective}
    (aimed : Aimed Admits connective.target?)
    (subject : Agent)
    (list : List Char) :
    (connective.phrase subject list).Formed := by
  constructor
  · rw [subject?_phrase]
    exact Agent.isAgent_of_mention?
  · cases connective <;> rfl
  · cases connective with
    | request target =>
        exact Word.isAgent_word (aimed target rfl).2
    | inquire target =>
        exact Word.isAgent_word (aimed target rfl).2
    | day number =>
        exact Word.isNumber_of_isDigits (Numeral.isDigits_digits _)
    | because => rfl
    | not => rfl
    | and => rfl
    | or => rfl
    | xor => rfl

/-- The phrase of a connective joins clauses by it, if its agents are admissible. -/
theorem joins_phrase
    {connective : Connective}
    {subject : Agent}
    (admissible : subject.Admissible)
    (aimed : Aimed Agent.Admissible connective.target?)
    (list : List Char) :
    (connective.phrase subject list).Joins subject (fun _ => connective)
      list := by
  have subjectRead := Agent.subject_mention? admissible
  cases connective with
  | request target =>
      exact .addressed (by decide) list subjectRead
        (Agent.ofWord_word (aimed target rfl).1)
  | inquire target =>
      exact .addressed (by decide) list subjectRead
        (Agent.ofWord_word (aimed target rfl).1)
  | day number =>
      exact .dated list subjectRead (Numeral.toUInt32?_digits number)
  | because => exact .connective (by decide) list subjectRead
  | not => exact .connective (by decide) list subjectRead
  | and => exact .connective (by decide) list subjectRead
  | or => exact .connective (by decide) list subjectRead
  | xor => exact .connective (by decide) list subjectRead

end Connective

end WerewolfSpeech
