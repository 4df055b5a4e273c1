import WerewolfSpeech.Proofs.Content.Participant
import WerewolfSpeech.Proofs.Reading.WellFormed

namespace WerewolfSpeech

/-!
# Which participants survive lenient reading

A clause that lenient reading skips takes every agent that is written in it along. So a
participant comes up in what is read exactly if a word refers to it that stands in the line
itself or in a clause, and neither that clause nor any clause around it has been skipped.
-/

/-- A word of the line refers to the agent. -/
def Line.Names
    (line : Line)
    (agent : Agent) :
    Prop :=
  ∃ word ∈ line.words, Agent.ofWord word = .ok agent

/--
The agent is written in a part of the text that lenient reading keeps: in the words of a line
that is read, or in a group of such a line that is read in turn.
-/
inductive Reading.Survives (limit : Nat) : Nat → List Char → Agent → Prop where
  | word
      {levels : Nat}
      {text : List Char}
      {content : Content}
      {line : Line}
      {agent : Agent}
      (succeeds : within Content .lenient limit levels text = .ok content)
      (parted : Line.ofChars? (Text.trim text) = some line)
      (names : line.Names agent) :
      Survives limit levels text agent
  | clause
      {levels : Nat}
      {text list group : List Char}
      {content : Content}
      {line : Line}
      {groups : List (List Char)}
      {agent : Agent}
      (succeeds : within Content .lenient limit (levels + 1) text = .ok content)
      (parted : Line.ofChars? (Text.trim text) = some line)
      (listed : line.list = some list)
      (split : Line.splitGroups? list = some groups)
      (member : group ∈ groups)
      (survives : Survives limit levels group agent) :
      Survives limit (levels + 1) text agent

private theorem Reading.not_survives_of_error
    {limit levels : Nat}
    {text : List Char}
    {diagnosis : Diagnosis}
    (fails : within Content .lenient limit levels text = .error diagnosis)
    (agent : Agent) :
    ¬ Survives limit levels text agent := by
  intro survives
  cases survives with
  | word succeeds parted names =>
      cases fails.symm.trans succeeds
  | clause succeeds parted listed split member survives =>
      cases fails.symm.trans succeeds

private theorem Agent.ofWord_ne_ok_of_no_bracket
    {agent : Agent}
    {word : Word}
    (isConcrete : agent.isConcrete = true)
    (noBracket : '[' ∉ word) :
    ofWord word ≠ .ok agent := by
  intro refers
  rcases ofWord_eq_ok.mp refers with ⟨_, rfl⟩ | ⟨_, rfl⟩ | ⟨digits, rfl, _⟩
  · cases isConcrete
  · cases isConcrete
  · exact noBracket (by simp [bracketed])

private theorem Word.bracket_not_mem_of_isNumber
    {word : Word}
    (number : word.isNumber = true) :
    '[' ∉ word := fun member =>
  absurd ((isNumber_iff.mp number).2 '[' member) (by decide)

private theorem Word.bracket_not_mem_of_isSignedNumber
    {word : Word}
    (number : word.isSignedNumber = true) :
    '[' ∉ word := by
  rcases isSignedNumber_iff.mp number with unsigned | ⟨digits, rfl, number⟩
  · exact bracket_not_mem_of_isNumber unsigned
  · simp [bracket_not_mem_of_isNumber number]

namespace Phrase

private theorem Formed.bracket_not_mem_keyword
    {phrase : Phrase}
    (formed : phrase.Formed) :
    '[' ∉ phrase.keyword := by
  rcases topic_or_operator_of_isOneOf phrase.shape formed.keywordFits with
      ⟨topic, isWord⟩ | ⟨operator, isWord⟩
  · rw [isWord]
    exact topic.bracket_not_mem_word
  · rw [isWord]
    exact operator.bracket_not_mem_word

section Participants

variable
  {agent : Agent}
  (isConcrete : agent.isConcrete = true)

include isConcrete

/-- The participants of a line are its subject and those behind the keyword. -/
private theorem names_line
    {phrase : Phrase}
    (formed : phrase.Formed) :
    phrase.line.Names agent ↔
      (∃ word ∈ phrase.subject?, Agent.ofWord word = .ok agent) ∨
        ∃ word ∈ phrase.parameters, Agent.ofWord word = .ok agent := by
  have notKeyword :=
    Agent.ofWord_ne_ok_of_no_bracket isConcrete formed.bracket_not_mem_keyword
  simp [Line.Names, line, notKeyword, or_and_right, exists_or]

private theorem refers_subject
    {subjectWord : Option Word}
    {subject : Agent}
    (subjectRead : Reading.subject subjectWord = .ok subject) :
    (∃ word ∈ subjectWord, Agent.ofWord word = .ok agent) ↔
      agent = subject := by
  cases subjectWord with
  | none =>
      cases subjectRead
      simp [Agent.ne_unspecified_of_isConcrete isConcrete]
  | some word =>
      have refers := Reading.agent_eq_ok_iff.mp subjectRead
      simp [refers, eq_comm]

/-- The words of a statement refer to the subject and the target. -/
private theorem names_of_states
    {phrase : Phrase}
    {subject : Agent}
    {statement : Statement}
    (formed : phrase.Formed)
    (states : phrase.States subject statement) :
    phrase.line.Names agent ↔
      agent = subject ∨ agent ∈ statement.target? := by
  have fit := formed.parametersFit
  rw [names_line isConcrete formed]
  cases states with
  | bare kind =>
      simp [subject?, parameters, Statement.target?,
        Agent.ne_unspecified_of_isConcrete isConcrete]
  | @agreement _ dayWord indexWord _ _ _ kind channel subjectRead dayRead indexRead =>
      have noneInChannel : '[' ∉ Vocabulary.word channel := by
        cases channel <;> decide
      rw [hasParameters, Bool.and_eq_true, Bool.and_eq_true] at fit
      have noneInDay : '[' ∉ 'd' :: 'a' :: 'y' :: dayWord := by
        simp [Word.bracket_not_mem_of_isSignedNumber fit.2.1]
      have noneInIndex : '[' ∉ 'I' :: 'D' :: ':' :: indexWord := by
        simp [Word.bracket_not_mem_of_isSignedNumber fit.2.2]
      rw [subject?, refers_subject isConcrete subjectRead]
      simp [parameters, Statement.target?,
        Agent.ofWord_ne_ok_of_no_bracket isConcrete noneInChannel,
        Agent.ofWord_ne_ok_of_no_bracket isConcrete noneInDay,
        Agent.ofWord_ne_ok_of_no_bracket isConcrete noneInIndex]
  | disclosure kind role subjectRead targetRead =>
      have noneInRole : '[' ∉ Vocabulary.word role := by
        cases role <;> decide
      rw [subject?, refers_subject isConcrete subjectRead]
      simp [parameters, Statement.target?, targetRead,
        Agent.ofWord_ne_ok_of_no_bracket isConcrete noneInRole]
  | report kind species subjectRead targetRead =>
      have noneInSpecies : '[' ∉ Vocabulary.word species := by
        cases species <;> decide
      rw [subject?, refers_subject isConcrete subjectRead]
      simp [parameters, Statement.target?, targetRead,
        Agent.ofWord_ne_ok_of_no_bracket isConcrete noneInSpecies]
  | action kind subjectRead targetRead =>
      rw [subject?, refers_subject isConcrete subjectRead]
      simp [parameters, Statement.target?, targetRead]

private theorem exists_mem_of_impliedAddressee
    {operator : Operator}
    {clauses : List Content}
    (implied : Reading.impliedAddressee operator clauses = agent) :
    ∃ clause ∈ clauses, agent ∈ clause.mentions := by
  unfold Reading.impliedAddressee at implied
  split at implied
  · next first rest =>
      have isSubject : agent = first.subject := by
        have named : agent ∈ (some first.subject).map (·.orElse .anyone) :=
          congrArg some implied
        rw [Agent.mem_map_orElse_anyone isConcrete] at named
        exact (Option.some.inj named).symm
      refine ⟨first, List.mem_cons_self, ?_⟩
      rw [isSubject]
      cases first <;> simp [Content.mentions, Content.subject]
  · rw [← implied] at isConcrete
    cases isConcrete

/--
The words of a line and its clauses together name whom the joined clauses mention: the
subject, the addressee and the participants of the clauses.
-/
private theorem names_of_joins
    {phrase : Phrase}
    {subject : Agent}
    {connective : List Content → Connective}
    {list : List Char}
    (formed : phrase.Formed)
    (joins : phrase.Joins subject connective list)
    (clauses : List Content) :
    agent ∈ (Content.join subject (connective clauses) clauses).mentions ↔
      phrase.line.Names agent ∨
        ∃ clause ∈ clauses, agent ∈ clause.mentions := by
  rw [Content.mem_mentions_join isConcrete, names_line isConcrete formed,
    or_assoc]
  cases joins with
  | @addressed _ _ _ target operator addresses list subjectRead targetRead =>
      have sameTarget :
          agent ∈ (Connective.ofOperator target 0 operator).target? ↔
            target = agent := by
        rcases List.mem_pair.mp addresses with rfl | rfl <;>
          simp [Connective.ofOperator, Connective.target?]
      rw [subject?, refers_subject isConcrete subjectRead, sameTarget]
      simp [parameters, targetRead]
  | connective connects list subjectRead =>
      rw [subject?, refers_subject isConcrete subjectRead]
      simp only [parameters, List.not_mem_nil, false_and, exists_false,
        false_or]
      refine or_congr_right ⟨?_, Or.inr⟩
      rintro (isTarget | mentioned)
      · exact exists_mem_of_impliedAddressee isConcrete
          (Reading.target_of_ofOperator isTarget).symm
      · exact mentioned
  | @dated _ dayWord _ _ list subjectRead dayRead =>
      have noneInDay :=
        Word.bracket_not_mem_of_isNumber formed.parametersFit
      rw [subject?, refers_subject isConcrete subjectRead]
      simp [parameters, Connective.target?,
        Agent.ofWord_ne_ok_of_no_bracket isConcrete noneInDay]

end Participants

end Phrase

namespace Reading

variable
  {agent : Agent}
  (isConcrete : agent.isConcrete = true)

include isConcrete

private theorem not_mem_mentions_skip :
    agent ∉ Content.skip.mentions := by
  have notUnspecified := Agent.ne_unspecified_of_isConcrete isConcrete
  simpa [Content.skip, Content.mentions, Statement.target?] using
    notUnspecified

/-- A line mentions the participants of its words and those that its groups keep. -/
private theorem mem_mentions_of_line
    {readClause : List Char → Except Diagnosis Content}
    {keeps : List Char → Prop}
    {text : List Char}
    {content : Content}
    (kept :
      ∀ group clause,
        Reading.clause .lenient (readClause group) = .ok clause →
        (agent ∈ clause.mentions ↔ keeps group))
    (succeeds : line .lenient readClause text = .ok content) :
    ∃ line,
      Line.ofChars? (Text.trim text) = some line ∧
        (agent ∈ content.mentions ↔
          line.Names agent ∨
            ∃ list groups,
              line.list = some list ∧
                Line.splitGroups? list = some groups ∧
                  ∃ group ∈ groups, keeps group) := by
  cases readAs_of_line succeeds with
  | @stated phrase _ _ formed laid states =>
      have noList : phrase.line.list = none :=
        Phrase.list?_of_states states
      refine ⟨phrase.line, laid.ofChars?_eq_some, ?_⟩
      rw [Content.mem_mentions_state isConcrete,
        Phrase.names_of_states isConcrete formed states]
      simp [noList]
  | @joined phrase _ _ list groups clauses formed laid joins split groupsRead
      accepts =>
      have someList : phrase.line.list = some list :=
        Phrase.list?_of_joins joins
      -- Each clause comes from a group, and each group has become a clause.
      obtain ⟨_, _, origin⟩ := Attempt.ok_of_mapM groupsRead
      have image := Attempt.exists_mem_of_mapM groupsRead
      have sameClauses :
          (∃ clause ∈ clauses, agent ∈ clause.mentions) ↔
            ∃ group ∈ groups, keeps group := by
        constructor
        · rintro ⟨clause, member, mentioned⟩
          obtain ⟨group, groupMember, groupRead⟩ := origin clause member
          exact ⟨group, groupMember,
            (kept group clause groupRead).mp mentioned⟩
        · rintro ⟨group, groupMember, keepsGroup⟩
          obtain ⟨clause, member, groupRead⟩ := image group groupMember
          exact ⟨clause, member,
            (kept group clause groupRead).mpr keepsGroup⟩
      refine ⟨phrase.line, laid.ofChars?_eq_some, ?_⟩
      rw [Phrase.names_of_joins isConcrete formed joins, sameClauses]
      simp [someList, split]

/-- Lenient reading mentions exactly the participants that survive it. -/
theorem mem_mentions_iff_survives
    {limit levels : Nat}
    {text : List Char}
    {content : Content}
    (succeeds : within Content .lenient limit levels text = .ok content) :
    agent ∈ content.mentions ↔ Survives limit levels text agent := by
  have noSkip := not_mem_mentions_skip isConcrete
  induction levels generalizing text content with
  | zero =>
      obtain ⟨line, parted, mentions⟩ :=
        mem_mentions_of_line isConcrete (fun group clause clauseRead => by
          cases clauseRead
          exact iff_false_intro noSkip) succeeds
      rw [mentions]
      constructor
      · rintro (names | ⟨_, _, _, _, _, _, impossible⟩)
        · exact .word succeeds parted names
        · exact impossible.elim
      · rintro ⟨_, sameParted, names⟩
        rw [parted] at sameParted
        cases sameParted
        exact Or.inl names
  | succ levels inductionHypothesis =>
      have kept :
          ∀ group clause,
            Reading.clause .lenient (within Content .lenient limit levels group) =
              .ok clause →
            (agent ∈ clause.mentions ↔
              Survives limit levels group agent) := by
        intro group clause clauseRead
        cases groupRead : within Content .lenient limit levels group with
        | ok content =>
            rw [groupRead] at clauseRead
            cases clauseRead
            exact inductionHypothesis groupRead
        | error diagnosis =>
            rw [groupRead] at clauseRead
            cases clauseRead
            exact iff_of_false noSkip (not_survives_of_error groupRead agent)
      obtain ⟨line, parted, mentions⟩ :=
        mem_mentions_of_line isConcrete kept succeeds
      rw [mentions]
      constructor
      · rintro (names | ⟨list, groups, listed, split, group, member, survives⟩)
        · exact .word succeeds parted names
        · exact .clause succeeds parted listed split member survives
      · rintro (⟨_, sameParted, names⟩ |
          ⟨_, sameParted, listed, split, member, survives⟩)
        · rw [parted] at sameParted
          cases sameParted
          exact Or.inl names
        · rw [parted] at sameParted
          cases sameParted
          exact Or.inr ⟨_, _, listed, split, _, member, survives⟩

end Reading

/-- The participants of what is read leniently are those that survive the reading. -/
theorem Content.mem_agents_readOrSkip
    {maxDepth : Nat}
    {text : String}
    {agent : Agent} :
    agent ∈ (readOrSkip maxDepth text).agents ↔
      agent.isConcrete = true ∧
        Reading.Survives maxDepth maxDepth text.toList agent := by
  rw [mem_agents]
  refine and_congr_right fun isConcrete => ?_
  unfold readOrSkip Reading.leniently
  split
  · next content succeeds =>
      exact Reading.mem_mentions_iff_survives isConcrete succeeds
  · next diagnosis fails =>
      exact iff_of_false (Reading.not_mem_mentions_skip isConcrete)
        (Reading.not_survives_of_error fails agent)

end WerewolfSpeech
