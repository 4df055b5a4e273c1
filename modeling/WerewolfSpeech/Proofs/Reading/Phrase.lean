import WerewolfSpeech.Proofs.Attempt
import WerewolfSpeech.Proofs.Content.Completion
import WerewolfSpeech.Proofs.Line.Phrase
import WerewolfSpeech.Reading

namespace WerewolfSpeech

/-!
# What a phrase is read as

A phrase without a clause list states something for a subject. Any other phrase joins the
clauses of its list for a subject, and the connective may depend on what the clauses turn
out to be. The two relations of this module say which statement and which connective these
are. They do not depend on the mode or on how the clauses are read, and whatever a line is
read as comes from one of them.
-/

/-- The phrase is read as a statement made for a subject. -/
inductive Phrase.States : Phrase → Agent → Statement → Prop where
  | bare
      (kind : Silence) :
      States (.bare (Vocabulary.word kind.topic)) .unspecified
        (.silence kind)
  | agreement
      {subjectWord : Option Word}
      {dayWord indexWord : Word}
      {subject : Agent}
      {day index : Int32}
      (kind : Stance)
      (channel : Channel)
      (subjectRead : Reading.subject subjectWord = .ok subject)
      (dayRead : Numeral.toInt32? dayWord = some day)
      (indexRead : Numeral.toInt32? indexWord = some index) :
      States
        (.agreement subjectWord (Vocabulary.word kind.topic)
          (Vocabulary.word channel) dayWord indexWord)
        subject
        (.stance kind ⟨channel, day, index⟩)
  | disclosure
      {subjectWord : Option Word}
      {targetWord : Word}
      {subject target : Agent}
      (kind : Disclosure)
      (role : Role)
      (subjectRead : Reading.subject subjectWord = .ok subject)
      (targetRead : Agent.ofWord targetWord = .ok target) :
      States
        (.disclosure subjectWord (Vocabulary.word kind.topic) targetWord
          (Vocabulary.word role))
        subject
        (.disclosure kind target role)
  | report
      {subjectWord : Option Word}
      {targetWord : Word}
      {subject target : Agent}
      (kind : Finding)
      (species : Species)
      (subjectRead : Reading.subject subjectWord = .ok subject)
      (targetRead : Agent.ofWord targetWord = .ok target) :
      States
        (.report subjectWord (Vocabulary.word kind.topic) targetWord
          (Vocabulary.word species))
        subject
        (.finding kind target species)
  | action
      {subjectWord : Option Word}
      {targetWord : Word}
      {subject target : Agent}
      (kind : Deed)
      (subjectRead : Reading.subject subjectWord = .ok subject)
      (targetRead : Agent.ofWord targetWord = .ok target) :
      States
        (.action subjectWord (Vocabulary.word kind.topic) targetWord)
        subject
        (.deed kind target)

/-- The phrase is read as the clauses of a list, joined for a subject. -/
inductive Phrase.Joins :
    Phrase → Agent → (List Content → Connective) → List Char → Prop where
  | addressed
      {subjectWord : Option Word}
      {targetWord : Word}
      {subject target : Agent}
      {operator : Operator}
      (addresses : operator ∈ [.request, .inquire])
      (list : List Char)
      (subjectRead : Reading.subject subjectWord = .ok subject)
      (targetRead : Agent.ofWord targetWord = .ok target) :
      Joins
        (.addressed subjectWord (Vocabulary.word operator) targetWord list)
        subject
        (fun _ => .ofOperator target 0 operator)
        list
  | connective
      {subjectWord : Option Word}
      {subject : Agent}
      {operator : Operator}
      (connects : operator ∈ [.because, .and, .or, .xor, .not, .request])
      (list : List Char)
      (subjectRead : Reading.subject subjectWord = .ok subject) :
      Joins (.connective subjectWord (Vocabulary.word operator) list)
        subject
        (fun clauses =>
          .ofOperator (Reading.impliedAddressee operator clauses) 0 operator)
        list
  | dated
      {subjectWord : Option Word}
      {dayWord : Word}
      {subject : Agent}
      {day : UInt32}
      (list : List Char)
      (subjectRead : Reading.subject subjectWord = .ok subject)
      (dayRead : Numeral.toUInt32? dayWord = some day) :
      Joins (.dated subjectWord dayWord list) subject
        (fun _ => .day day) list

namespace Phrase

/-- One of the numbers of the phrase has no value that could be read. -/
def HasUnreadNumber :
    Phrase →
    Prop
  | .agreement _ _ _ day index =>
      Numeral.toInt32? day = none ∨ Numeral.toInt32? index = none
  | .dated _ day _ => Numeral.toUInt32? day = none
  | _ => False

/-- A phrase that states something has no clause list. -/
theorem list?_of_states
    {phrase : Phrase}
    {subject : Agent}
    {statement : Statement}
    (states : phrase.States subject statement) :
    phrase.list? = none := by
  cases states <;> rfl

/-- A phrase that joins clauses has their list behind its words. -/
theorem list?_of_joins
    {phrase : Phrase}
    {subject : Agent}
    {connective : List Content → Connective}
    {list : List Char}
    (joins : phrase.Joins subject connective list) :
    phrase.list? = some list := by
  cases joins <;> rfl

end Phrase

namespace Reading

variable
  {mode : Mode}
  {readClause : List Char → Except Diagnosis Content}

/-- A word is read as an agent if it is a label of that agent. -/
theorem agent_eq_ok_iff
    {word : Word}
    {agent : Agent} :
    Reading.agent word = .ok agent ↔ Agent.ofWord word = .ok agent := by
  unfold Reading.agent
  split <;> simp_all

private theorem part_eq_ok_iff
    {Value : Type}
    {line : List Char}
    {value : Option Value}
    {result : Value} :
    part line value = .ok result ↔ value = some result := by
  cases value <;> simp [part]

private theorem keyword_word
    {Term : Type}
    [Vocabulary Term]
    [Vocabulary.Lawful Term]
    (line : List Char)
    (term : Term) :
    keyword line (Vocabulary.word term) = .ok term := by
  rw [keyword, Vocabulary.find?_word, part]

section Named

variable
  {Node : Type}
  [Speech Node]
  (readNode : List Char → Except Diagnosis Node)
  (text : List Char)
  (subjectWord : Option Word)

/-- A stance is read by its references and numbers, whatever its keywords are. -/
private theorem phrase_agreement
    (kind : Stance)
    (channel : Channel)
    (dayWord indexWord : Word) :
    Reading.phrase mode readNode text
        (.agreement subjectWord (Vocabulary.word kind.topic)
          (Vocabulary.word channel) dayWord indexWord) = do
      let subject ← Reading.subject subjectWord
      let day ← part text (Numeral.toInt32? dayWord)
      let index ← part text (Numeral.toInt32? indexWord)
      return Speech.state subject (.stance kind ⟨channel, day, index⟩) := by
  simp only [Reading.phrase, keyword_word]
  cases kind <;> rfl

private theorem phrase_disclosure
    (kind : Disclosure)
    (role : Role)
    (targetWord : Word) :
    Reading.phrase mode readNode text
        (.disclosure subjectWord (Vocabulary.word kind.topic) targetWord
          (Vocabulary.word role)) = do
      let subject ← Reading.subject subjectWord
      let target ← agent targetWord
      return Speech.state subject (.disclosure kind target role) := by
  simp only [Reading.phrase, keyword_word]
  cases kind <;> rfl

private theorem phrase_report
    (kind : Finding)
    (species : Species)
    (targetWord : Word) :
    Reading.phrase mode readNode text
        (.report subjectWord (Vocabulary.word kind.topic) targetWord
          (Vocabulary.word species)) = do
      let subject ← Reading.subject subjectWord
      let target ← agent targetWord
      return Speech.state subject (.finding kind target species) := by
  simp only [Reading.phrase, keyword_word]
  cases kind <;> rfl

private theorem phrase_action
    (kind : Deed)
    (targetWord : Word) :
    Reading.phrase mode readNode text
        (.action subjectWord (Vocabulary.word kind.topic) targetWord) = do
      let subject ← Reading.subject subjectWord
      let target ← agent targetWord
      return Speech.state subject (.deed kind target) := by
  simp only [Reading.phrase, keyword_word]
  cases kind <;> rfl

private theorem phrase_addressed
    (operator : Operator)
    (targetWord : Word)
    (list : List Char) :
    Reading.phrase mode readNode text
        (.addressed subjectWord (Vocabulary.word operator) targetWord
          list) =
      (do
        let subject ← Reading.subject subjectWord
        let target ← agent targetWord
        let clauses ← clauses mode readNode list
        Speech.compose subject (.ofOperator target 0 operator) clauses) := by
  simp only [Reading.phrase, keyword_word]
  rfl

private theorem phrase_connective
    (operator : Operator)
    (list : List Char) :
    Reading.phrase mode readNode text
        (.connective subjectWord (Vocabulary.word operator) list) =
      (do
        let subject ← Reading.subject subjectWord
        let clauses ← clauses mode readNode list
        Speech.compose subject
          (.ofOperator (impliedAddressee operator clauses) 0 operator)
          clauses) := by
  simp only [Reading.phrase, keyword_word]
  rfl

end Named

/-- A phrase that states something is read as that statement in either mode. -/
theorem phrase_of_states
    {phrase : Phrase}
    {subject : Agent}
    {statement : Statement}
    (states : phrase.States subject statement)
    (text : List Char) :
    Reading.phrase mode readClause text phrase =
      .ok (.state subject statement) := by
  cases states with
  | bare kind =>
      cases kind <;> rfl
  | agreement kind channel subjectRead dayRead indexRead =>
      rw [phrase_agreement, subjectRead, part_eq_ok_iff.mpr dayRead,
        part_eq_ok_iff.mpr indexRead]
      rfl
  | disclosure kind role subjectRead targetRead =>
      rw [phrase_disclosure, subjectRead, agent_eq_ok_iff.mpr targetRead]
      rfl
  | report kind species subjectRead targetRead =>
      rw [phrase_report, subjectRead, agent_eq_ok_iff.mpr targetRead]
      rfl
  | action kind subjectRead targetRead =>
      rw [phrase_action, subjectRead, agent_eq_ok_iff.mpr targetRead]
      rfl

/-- A phrase that joins clauses is read by reading the clauses and joining them. -/
theorem phrase_of_joins
    {phrase : Phrase}
    {subject : Agent}
    {connective : List Content → Connective}
    {list : List Char}
    (joins : phrase.Joins subject connective list)
    (text : List Char) :
    Reading.phrase mode readClause text phrase =
      Reading.clauses mode readClause list >>= fun clauses =>
        Content.compose subject (connective clauses) clauses := by
  cases joins with
  | addressed addresses list subjectRead targetRead =>
      rw [phrase_addressed, subjectRead, agent_eq_ok_iff.mpr targetRead]
      rfl
  | connective connects list subjectRead =>
      rw [phrase_connective, subjectRead]
      rfl
  | dated list subjectRead dayRead =>
      simp only [Reading.phrase, subjectRead, part_eq_ok_iff.mpr dayRead]
      rfl

/-- A phrase that is read states something or joins clauses. -/
theorem states_or_joins
    {text : List Char}
    {phrase : Phrase}
    {content : Content}
    (formed : phrase.Formed)
    (succeeds : Reading.phrase mode readClause text phrase = .ok content) :
    (∃ subject statement, phrase.States subject statement) ∨
      ∃ subject connective list, phrase.Joins subject connective list := by
  cases formed.named with
  | bare kind =>
      exact Or.inl ⟨_, _, .bare kind⟩
  | agreement kind channel =>
      rw [phrase_agreement] at succeeds
      obtain ⟨subject, subjectRead, succeeds⟩ :=
        Attempt.bind_eq_ok_iff.mp succeeds
      obtain ⟨day, dayRead, succeeds⟩ :=
        Attempt.bind_eq_ok_iff.mp succeeds
      obtain ⟨index, indexRead, _⟩ :=
        Attempt.bind_eq_ok_iff.mp succeeds
      exact Or.inl ⟨_, _, .agreement kind channel subjectRead
        (part_eq_ok_iff.mp dayRead) (part_eq_ok_iff.mp indexRead)⟩
  | disclosure kind role =>
      rw [phrase_disclosure] at succeeds
      obtain ⟨subject, subjectRead, succeeds⟩ :=
        Attempt.bind_eq_ok_iff.mp succeeds
      obtain ⟨target, targetRead, _⟩ :=
        Attempt.bind_eq_ok_iff.mp succeeds
      exact Or.inl ⟨_, _, .disclosure kind role subjectRead
        (agent_eq_ok_iff.mp targetRead)⟩
  | report kind species =>
      rw [phrase_report] at succeeds
      obtain ⟨subject, subjectRead, succeeds⟩ :=
        Attempt.bind_eq_ok_iff.mp succeeds
      obtain ⟨target, targetRead, _⟩ :=
        Attempt.bind_eq_ok_iff.mp succeeds
      exact Or.inl ⟨_, _, .report kind species subjectRead
        (agent_eq_ok_iff.mp targetRead)⟩
  | action kind =>
      rw [phrase_action] at succeeds
      obtain ⟨subject, subjectRead, succeeds⟩ :=
        Attempt.bind_eq_ok_iff.mp succeeds
      obtain ⟨target, targetRead, _⟩ :=
        Attempt.bind_eq_ok_iff.mp succeeds
      exact Or.inl ⟨_, _, .action kind subjectRead
        (agent_eq_ok_iff.mp targetRead)⟩
  | addressed operator addresses =>
      rw [phrase_addressed] at succeeds
      obtain ⟨subject, subjectRead, succeeds⟩ :=
        Attempt.bind_eq_ok_iff.mp succeeds
      obtain ⟨target, targetRead, _⟩ :=
        Attempt.bind_eq_ok_iff.mp succeeds
      exact Or.inr ⟨_, _, _, .addressed addresses _ subjectRead
        (agent_eq_ok_iff.mp targetRead)⟩
  | connective operator connects =>
      rw [phrase_connective] at succeeds
      obtain ⟨subject, subjectRead, _⟩ :=
        Attempt.bind_eq_ok_iff.mp succeeds
      exact Or.inr ⟨_, _, _, .connective connects _ subjectRead⟩
  | dated =>
      obtain ⟨subject, subjectRead, succeeds⟩ :=
        Attempt.bind_eq_ok_iff.mp succeeds
      obtain ⟨day, dayRead, _⟩ :=
        Attempt.bind_eq_ok_iff.mp succeeds
      exact Or.inr ⟨_, _, _, .dated _ subjectRead
        (part_eq_ok_iff.mp dayRead)⟩

/-- The clauses of a list are read if it is split into groups that are all read. -/
theorem clauses_eq_ok_iff
    {list : List Char}
    {contents : List Content} :
    Reading.clauses mode readClause list = .ok contents ↔
      ∃ groups,
        Line.splitGroups? list = some groups ∧
          (groups.mapM fun group => clause mode (readClause group)) =
            .ok contents := by
  unfold Reading.clauses
  cases Line.splitGroups? list <;> simp

/--
Why a phrase is not read: a reference or a number of it is refused, its clause list is not
read, or the clauses are not as many as the operator takes.
-/
inductive FailsBy
    (mode : Mode)
    (readClause : List Char → Except Diagnosis Content)
    (text : List Char)
    (phrase : Phrase) :
    Diagnosis → Prop where
  | reference
      {word : Word}
      {failure : AgentError}
      (member : word ∈ phrase.line.words)
      (isAgent : word.isAgent = true)
      (refused : Agent.ofWord word = .error failure) :
      FailsBy mode readClause text phrase
        (.invalidAgent (String.ofList word))
  | number
      (unread : phrase.HasUnreadNumber) :
      FailsBy mode readClause text phrase
        (.parseFailed (String.ofList text))
  | clauses
      {list : List Char}
      {diagnosis : Diagnosis}
      (listed : phrase.list? = some list)
      (fails : Reading.clauses mode readClause list = .error diagnosis) :
      FailsBy mode readClause text phrase diagnosis
  | misfit
      {list : List Char}
      {contents : List Content}
      {operator : Operator}
      (named : phrase.keyword = Vocabulary.word operator)
      (listed : phrase.list? = some list)
      (clausesRead : Reading.clauses mode readClause list = .ok contents)
      (refuses : operator.arity.accepts contents.length = false) :
      FailsBy mode readClause text phrase (operator.misfit contents.length)

section Failure

variable
  {text : List Char}
  {phrase : Phrase}
  {diagnosis : Diagnosis}

/-- A reference of a phrase that is not read is why the phrase is not. -/
private theorem failsBy_of_agent
    {word : Word}
    (member : word ∈ phrase.line.words)
    (isAgent : word.isAgent = true)
    (fails : Reading.agent word = .error diagnosis) :
    FailsBy mode readClause text phrase diagnosis := by
  unfold Reading.agent at fails
  split at fails
  · cases fails
  · next refused =>
      cases fails
      exact .reference member isAgent refused

private theorem failsBy_of_subject
    (formed : phrase.Formed)
    (fails : Reading.subject phrase.subject? = .error diagnosis) :
    FailsBy mode readClause text phrase diagnosis := by
  cases named : phrase.subject? with
  | none =>
      rw [named] at fails
      cases fails
  | some word =>
      rw [named] at fails
      exact failsBy_of_agent (by simp [Phrase.line, named])
        (formed.subjectIsAgent word named) fails

/-- A part that is not read has no value, and the line is reported. -/
private theorem part_eq_error_iff
    {Value : Type}
    {value : Option Value} :
    part text value = .error diagnosis ↔
      value = none ∧ diagnosis = .parseFailed (String.ofList text) := by
  cases value <;> simp [part, eq_comm]

/-- Clauses that are not composed were not read, or they are not as many as they should be. -/
private theorem failsBy_of_list
    {list : List Char}
    {subject : Agent}
    {connective : List Content → Connective}
    (named :
      ∀ clauses,
        phrase.keyword = Vocabulary.word (connective clauses).operator)
    (listed : phrase.list? = some list)
    (fails :
      (Reading.clauses mode readClause list >>= fun clauses =>
          Content.compose subject (connective clauses) clauses) =
        .error diagnosis) :
    FailsBy mode readClause text phrase diagnosis := by
  rcases Attempt.bind_eq_error_iff.mp fails with
      clausesFail | ⟨contents, clausesRead, composeFails⟩
  · exact .clauses listed clausesFail
  · rw [Content.compose_eq] at composeFails
    split at composeFails
    · cases composeFails
    · next refuses =>
        cases composeFails
        exact .misfit (named contents) listed clausesRead
          (Bool.not_eq_true _ ▸ refuses)

/-- A phrase that is not read fails in one of four ways. -/
theorem failsBy_of_phrase
    (formed : phrase.Formed)
    (fails :
      Reading.phrase mode readClause text phrase = .error diagnosis) :
    FailsBy mode readClause text phrase diagnosis := by
  have subjectFails :
      Reading.subject phrase.subject? = .error diagnosis →
        FailsBy mode readClause text phrase diagnosis :=
    failsBy_of_subject formed
  have targetFails :
      ∀ target ∈ phrase.parameters,
        target.isAgent = true →
        Reading.agent target = .error diagnosis →
        FailsBy mode readClause text phrase diagnosis :=
    fun target member => failsBy_of_agent (by simp [Phrase.line, member])
  have namedOf :
      ∀ (operator : Operator) (target : List Content → Agent) clauses,
        Vocabulary.word operator =
          Vocabulary.word
            (Connective.ofOperator (target clauses) 0 operator).operator := by
    intro operator target clauses
    rw [Connective.operator_ofOperator]
  have fit := formed.parametersFit
  cases formed.named with
  | bare kind =>
      cases kind <;> cases fails
  | agreement kind channel =>
      rw [phrase_agreement] at fails
      rcases Attempt.bind_eq_error_iff.mp fails with
          failsFirst | ⟨_, _, fails⟩
      · exact subjectFails failsFirst
      · rcases Attempt.bind_eq_error_iff.mp fails with
            dayFails | ⟨_, _, fails⟩
        · obtain ⟨noDay, rfl⟩ := part_eq_error_iff.mp dayFails
          exact .number (Or.inl noDay)
        · rcases Attempt.bind_eq_error_iff.mp fails with
              indexFails | ⟨_, _, impossible⟩
          · obtain ⟨noIndex, rfl⟩ := part_eq_error_iff.mp indexFails
            exact .number (Or.inr noIndex)
          · cases impossible
  | @disclosure subjectWord targetWord kind role =>
      rw [Phrase.hasParameters, Bool.and_eq_true] at fit
      rw [phrase_disclosure] at fails
      rcases Attempt.bind_eq_error_iff.mp fails with
          failsFirst | ⟨_, _, fails⟩
      · exact subjectFails failsFirst
      · rcases Attempt.bind_eq_error_iff.mp fails with
            failsNext | ⟨_, _, impossible⟩
        · exact targetFails targetWord List.mem_cons_self fit.1 failsNext
        · cases impossible
  | @report subjectWord targetWord kind species =>
      rw [Phrase.hasParameters, Bool.and_eq_true] at fit
      rw [phrase_report] at fails
      rcases Attempt.bind_eq_error_iff.mp fails with
          failsFirst | ⟨_, _, fails⟩
      · exact subjectFails failsFirst
      · rcases Attempt.bind_eq_error_iff.mp fails with
            failsNext | ⟨_, _, impossible⟩
        · exact targetFails targetWord List.mem_cons_self fit.1 failsNext
        · cases impossible
  | @action subjectWord targetWord kind =>
      rw [phrase_action] at fails
      rcases Attempt.bind_eq_error_iff.mp fails with
          failsFirst | ⟨_, _, fails⟩
      · exact subjectFails failsFirst
      · rcases Attempt.bind_eq_error_iff.mp fails with
            failsNext | ⟨_, _, impossible⟩
        · exact targetFails targetWord List.mem_cons_self fit failsNext
        · cases impossible
  | @addressed subjectWord targetWord list operator _ =>
      rw [phrase_addressed] at fails
      rcases Attempt.bind_eq_error_iff.mp fails with
          failsFirst | ⟨_, _, fails⟩
      · exact subjectFails failsFirst
      · rcases Attempt.bind_eq_error_iff.mp fails with
            failsNext | ⟨_, _, fails⟩
        · exact targetFails targetWord List.mem_cons_self fit failsNext
        · exact failsBy_of_list (namedOf operator fun _ => _) rfl fails
  | connective operator _ =>
      rw [phrase_connective] at fails
      rcases Attempt.bind_eq_error_iff.mp fails with
          failsFirst | ⟨_, _, fails⟩
      · exact subjectFails failsFirst
      · exact failsBy_of_list
          (namedOf operator (impliedAddressee operator)) rfl fails
  | dated =>
      rcases Attempt.bind_eq_error_iff.mp fails with
          failsFirst | ⟨_, _, fails⟩
      · exact subjectFails failsFirst
      · rcases Attempt.bind_eq_error_iff.mp fails with
            dayFails | ⟨_, _, fails⟩
        · obtain ⟨noDay, rfl⟩ := part_eq_error_iff.mp dayFails
          exact .number noDay
        · exact failsBy_of_list (fun _ => rfl) rfl fails

/-- A clause list that is not read cannot be split, or one of its groups is not read. -/
theorem clauses_eq_error
    {list : List Char}
    (fails : Reading.clauses mode readClause list = .error diagnosis) :
    Line.splitGroups? list = none ∧
        diagnosis = .unbalancedGroups (String.ofList list) ∨
      ∃ groups,
        Line.splitGroups? list = some groups ∧
          ∃ group ∈ groups,
            clause mode (readClause group) = .error diagnosis := by
  unfold Reading.clauses at fails
  cases split : Line.splitGroups? list with
  | none =>
      rw [split] at fails
      exact Or.inl ⟨rfl, (Except.error.inj fails).symm⟩
  | some groups =>
      rw [split] at fails
      exact Or.inr ⟨groups, rfl, Attempt.exists_error_of_mapM fails⟩

end Failure

/-- A text whose trimmed form makes a phrase is read by that phrase. -/
theorem line_of_laid
    {text : List Char}
    {phrase : Phrase}
    (formed : phrase.Formed)
    (laid : Line.Laid phrase.line (Text.trim text)) :
    line mode readClause text =
      Reading.phrase mode readClause (Text.trim text) phrase := by
  rw [line, Phrase.ofChars?_eq_some_iff.mpr ⟨formed, laid⟩]

/-- A text that is read makes a phrase once its ends are trimmed. -/
private theorem laid_of_line
    {text : List Char}
    {content : Content}
    (succeeds : line mode readClause text = .ok content) :
    ∃ phrase : Phrase,
      phrase.Formed ∧
        Line.Laid phrase.line (Text.trim text) ∧
          Reading.phrase mode readClause (Text.trim text) phrase =
            .ok content := by
  cases found : Phrase.ofChars? (Text.trim text) with
  | none =>
      simp [line, found] at succeeds
  | some phrase =>
      obtain ⟨formed, laid⟩ := Phrase.ofChars?_eq_some_iff.mp found
      rw [line_of_laid formed laid] at succeeds
      exact ⟨phrase, formed, laid, succeeds⟩

/-- The text has a clause list, and the group is one of the groups of that list. -/
def HasGroup
    (text group : List Char) :
    Prop :=
  ∃ phrase list groups,
    Phrase.ofChars? (Text.trim text) = some phrase ∧
      phrase.list? = some list ∧
        Line.splitGroups? list = some groups ∧ group ∈ groups

/-- Two ways to read clauses make the same of a list if they do so of each of its groups. -/
private theorem clauses_congr
    {readOtherwise : List Char → Except Diagnosis Content}
    {list : List Char}
    (alike :
      ∀ groups,
        Line.splitGroups? list = some groups →
        ∀ group ∈ groups,
          clause mode (readClause group) =
            clause mode (readOtherwise group)) :
    Reading.clauses mode readClause list =
      Reading.clauses mode readOtherwise list := by
  unfold Reading.clauses
  cases split : Line.splitGroups? list with
  | none =>
      rfl
  | some groups =>
      exact Attempt.mapM_congr (alike groups split)

/-- Two ways to read clauses make the same of a text if they do so of each of its groups. -/
theorem line_congr
    {readOtherwise : List Char → Except Diagnosis Content}
    {text : List Char}
    (alike :
      ∀ group,
        HasGroup text group →
        clause mode (readClause group) =
          clause mode (readOtherwise group)) :
    line mode readClause text = line mode readOtherwise text := by
  unfold line
  cases found : Phrase.ofChars? (Text.trim text) with
  | none =>
      rfl
  | some phrase =>
      have sameClauses :
          ∀ list,
            phrase.list? = some list →
            Reading.clauses mode readClause list =
              Reading.clauses mode readOtherwise list :=
        fun list listed =>
          clauses_congr fun groups split group member =>
            alike group ⟨phrase, list, groups, found, listed, split, member⟩
      cases phrase with
      | bare keyword => rfl
      | agreement subject keyword channel day index => rfl
      | disclosure subject keyword target role => rfl
      | report subject keyword target species => rfl
      | action subject keyword target => rfl
      | addressed subject keyword target list =>
          simp only [Reading.phrase, sameClauses list rfl]
      | connective subject keyword list =>
          simp only [Reading.phrase, sameClauses list rfl]
      | dated subject day list =>
          simp only [Reading.phrase, sameClauses list rfl]

/--
What a text that is read is read as: what its phrase states, or the clauses of its list,
each of them read from a group and as many as the connective takes.
-/
inductive ReadAs
    (mode : Mode)
    (readClause : List Char → Except Diagnosis Content)
    (text : List Char) :
    Content → Prop where
  | stated
      {phrase : Phrase}
      {subject : Agent}
      {statement : Statement}
      (formed : phrase.Formed)
      (laid : Line.Laid phrase.line (Text.trim text))
      (states : phrase.States subject statement) :
      ReadAs mode readClause text (.state subject statement)
  | joined
      {phrase : Phrase}
      {subject : Agent}
      {connective : List Content → Connective}
      {list : List Char}
      {groups : List (List Char)}
      {clauses : List Content}
      (formed : phrase.Formed)
      (laid : Line.Laid phrase.line (Text.trim text))
      (joins : phrase.Joins subject connective list)
      (split : Line.splitGroups? list = some groups)
      (groupsRead :
        (groups.mapM fun group => clause mode (readClause group)) =
          .ok clauses)
      (accepts :
        (connective clauses).operator.arity.accepts clauses.length = true) :
      ReadAs mode readClause text (.join subject (connective clauses) clauses)

/-- A text that is read is read in one of two ways. -/
theorem readAs_of_line
    {text : List Char}
    {content : Content}
    (succeeds : line mode readClause text = .ok content) :
    ReadAs mode readClause text content := by
  obtain ⟨phrase, formed, laid, succeeds⟩ := laid_of_line succeeds
  rcases states_or_joins formed succeeds with
      ⟨subject, statement, states⟩ | ⟨subject, connective, list, joins⟩
  · rw [phrase_of_states states] at succeeds
    cases succeeds
    exact .stated formed laid states
  · rw [phrase_of_joins joins] at succeeds
    obtain ⟨clauses, clausesRead, composed⟩ :=
      Attempt.bind_eq_ok_iff.mp succeeds
    obtain ⟨groups, split, groupsRead⟩ := clauses_eq_ok_iff.mp clausesRead
    obtain ⟨accepts, rfl⟩ := Content.compose_eq_ok_iff.mp composed
    exact .joined formed laid joins split groupsRead accepts

end Reading

end WerewolfSpeech
