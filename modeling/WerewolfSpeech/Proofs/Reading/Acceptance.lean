import WerewolfSpeech.Proofs.Reading.Grammar

namespace WerewolfSpeech.Grammar

/-!
# Strict reading accepts the grammar

Each kind of word in the grammar is matched with the reader of that kind of word, then the
words of a line with the phrases that are read, and the clause list with its splitter.
The step from a line to its clauses is the same on both sides, so induction on the level
gives the main statement: a text is read strictly exactly if it is a line of the grammar.
-/

/-- A reference has the form of an agent and is the label of one. -/
private theorem isReference_iff
    {word : Word} :
    IsReference word ↔
      word.isAgent = true ∧ ∃ agent, Agent.ofWord word = .ok agent := by
  constructor
  · intro reference
    cases reference with
    | anyone =>
        exact ⟨by decide, .anyone, Agent.ofWord_eq_ok.mpr (Or.inl ⟨rfl, rfl⟩)⟩
    | numbered isDigits small =>
        exact
          ⟨Word.isAgent_iff.mpr
              (Or.inr ⟨_, rfl, Word.isNumber_of_isDigits isDigits⟩),
            _, Agent.ofWord_eq_ok.mpr
              (Or.inr (Or.inr ⟨_, rfl, isDigits, small, rfl⟩))⟩
  · rintro ⟨isAgent, agent, succeeds⟩
    rcases Agent.ofWord_eq_ok.mp succeeds with
        ⟨rfl, _⟩ | ⟨rfl, _⟩ | ⟨digits, rfl, isDigits, small, _⟩
    · exact .anyone
    · exact absurd isAgent (by decide)
    · exact .numbered isDigits small

/-- An integer of the grammar is a numeral that fits 32 bits with a sign. -/
private theorem isInteger_iff
    {word : Word} :
    IsInteger word ↔ ∃ value, Numeral.toInt32? word = some value := by
  simp only [Numeral.toInt32?_eq_some_iff, Numeral.ofSigned?_eq_some_iff,
    Numeral.fitsInt32, Bool.and_eq_true, decide_eq_true_eq]
  constructor
  · intro isInteger
    cases isInteger with
    | unsigned isDigits fits =>
        exact ⟨_, _, Or.inl ⟨isDigits, rfl⟩, by omega, rfl⟩
    | negative isDigits fits =>
        exact ⟨_, _, Or.inr ⟨_, rfl, isDigits, rfl⟩, by omega, rfl⟩
  · rintro ⟨_, _, ⟨isDigits, rfl⟩ | ⟨digits, rfl, isDigits, rfl⟩, fits, _⟩
    · exact .unsigned isDigits (by omega)
    · exact .negative isDigits (by omega)

/-- A natural number of the grammar is a numeral that fits 32 bits. -/
private theorem isNatural_iff
    {word : Word} :
    IsNatural word ↔ ∃ value, Numeral.toUInt32? word = some value := by
  simp only [Numeral.toUInt32?_eq_some_iff, Numeral.ofDigits?_eq_some_iff,
    UInt32.size]
  constructor
  · rintro ⟨isDigits, fits⟩
    exact ⟨_, _, ⟨isDigits, rfl⟩, by omega, rfl⟩
  · rintro ⟨_, _, ⟨isDigits, rfl⟩, fits, _⟩
    exact ⟨isDigits, by omega⟩

/-- An integer of the grammar has the form of a signed number. -/
theorem IsInteger.isSignedNumber
    {word : Word}
    (isInteger : IsInteger word) :
    word.isSignedNumber = true := by
  cases isInteger with
  | unsigned isDigits _ =>
      exact Word.isSignedNumber_iff.mpr
        (Or.inl (Word.isNumber_of_isDigits isDigits))
  | negative isDigits _ =>
      exact Word.isSignedNumber_iff.mpr
        (Or.inr ⟨_, rfl, Word.isNumber_of_isDigits isDigits⟩)

/-- The words of a subject are those of an optional reference that is read as an agent. -/
private theorem isSubject_iff
    {words : List Word} :
    IsSubject words ↔
      ∃ subjectWord : Option Word,
        words = subjectWord.toList ∧
          (∀ word ∈ subjectWord, word.isAgent = true) ∧
            ∃ subject, Reading.subject subjectWord = .ok subject := by
  constructor
  · intro isSubject
    cases isSubject with
    | unnamed =>
        exact ⟨none, rfl, by simp, _, rfl⟩
    | @named word reference =>
        obtain ⟨isAgent, subject, succeeds⟩ :=
          isReference_iff.mp reference
        exact ⟨some word, rfl, by simpa using isAgent, subject,
          Reading.agent_eq_ok_iff.mpr succeeds⟩
  · rintro ⟨subjectWord, rfl, isAgent, subject, succeeds⟩
    cases subjectWord with
    | none =>
        exact .unnamed
    | some word =>
        exact .named (isReference_iff.mpr
          ⟨isAgent word rfl, subject,
            Reading.agent_eq_ok_iff.mp succeeds⟩)

/-- The words of an atomic line make a phrase that states something. -/
private theorem exists_states_of_atomic
    {words : List Word}
    (atomic : Atomic words) :
    ∃ phrase subject statement,
      phrase.Formed ∧
        phrase.line = ⟨words, none⟩ ∧
          Phrase.States phrase subject statement := by
  cases atomic with
  | silence kind =>
      exact ⟨_, _, _,
        ⟨by simp [Phrase.subject?], (Phrase.Named.bare kind).keywordFits, rfl⟩,
        rfl, .bare kind⟩
  | stance kind channel isSubject dayIsInteger indexIsInteger =>
      obtain ⟨subjectWord, rfl, isAgent, subject, subjectRead⟩ :=
        isSubject_iff.mp isSubject
      obtain ⟨day, dayRead⟩ := isInteger_iff.mp dayIsInteger
      obtain ⟨index, indexRead⟩ := isInteger_iff.mp indexIsInteger
      have states :=
        Phrase.States.agreement kind channel subjectRead dayRead indexRead
      refine ⟨_, _, _, ?_, rfl, states⟩
      refine ⟨isAgent, ?_, ?_⟩
      · exact (Phrase.Named.agreement kind channel).keywordFits
      · have channelFits := Word.isOneOf_word channel
        rw [Phrase.hasParameters, dayIsInteger.isSignedNumber,
          indexIsInteger.isSignedNumber, Bool.and_self, Bool.and_true]
        exact channelFits
  | disclosure kind role isSubject isReference =>
      obtain ⟨subjectWord, rfl, isAgent, subject, subjectRead⟩ :=
        isSubject_iff.mp isSubject
      obtain ⟨targetIsAgent, target, targetRead⟩ :=
        isReference_iff.mp isReference
      have states :=
        Phrase.States.disclosure kind role subjectRead targetRead
      refine ⟨_, _, _, ?_, rfl, states⟩
      refine ⟨isAgent, ?_, ?_⟩
      · exact (Phrase.Named.disclosure kind role).keywordFits
      · exact Bool.and_eq_true_iff.mpr
          ⟨targetIsAgent, Word.isOneOf_word role⟩
  | finding kind species isSubject isReference =>
      obtain ⟨subjectWord, rfl, isAgent, subject, subjectRead⟩ :=
        isSubject_iff.mp isSubject
      obtain ⟨targetIsAgent, target, targetRead⟩ :=
        isReference_iff.mp isReference
      have states :=
        Phrase.States.report kind species subjectRead targetRead
      refine ⟨_, _, _, ?_, rfl, states⟩
      refine ⟨isAgent, ?_, ?_⟩
      · exact (Phrase.Named.report kind species).keywordFits
      · exact Bool.and_eq_true_iff.mpr
          ⟨targetIsAgent, Word.isOneOf_word species⟩
  | deed kind isSubject isReference =>
      obtain ⟨subjectWord, rfl, isAgent, subject, subjectRead⟩ :=
        isSubject_iff.mp isSubject
      obtain ⟨targetIsAgent, target, targetRead⟩ :=
        isReference_iff.mp isReference
      have states := Phrase.States.action kind subjectRead targetRead
      refine ⟨_, _, _, ?_, rfl, states⟩
      exact ⟨isAgent, (Phrase.Named.action kind).keywordFits, targetIsAgent⟩

/-- A phrase that states something has the words of an atomic line. -/
private theorem atomic_of_states
    {phrase : Phrase}
    {subject : Agent}
    {statement : Statement}
    (formed : phrase.Formed)
    (states : phrase.States subject statement) :
    ∃ words, phrase.line = ⟨words, none⟩ ∧ Atomic words := by
  rcases formed with ⟨subjectIsAgent, keywordFits, parametersFit⟩
  have isSubject :
      ∀ {agent : Agent},
        Reading.subject phrase.subject? = .ok agent →
        IsSubject phrase.subject?.toList :=
    fun subjectRead =>
      isSubject_iff.mpr ⟨_, rfl, subjectIsAgent, _, subjectRead⟩
  cases states with
  | bare kind =>
      exact ⟨_, rfl, .silence kind⟩
  | agreement kind channel subjectRead dayRead indexRead =>
      exact ⟨_, rfl, .stance kind channel (isSubject subjectRead)
        (isInteger_iff.mpr ⟨_, dayRead⟩)
        (isInteger_iff.mpr ⟨_, indexRead⟩)⟩
  | disclosure kind role subjectRead targetRead =>
      have targetIsAgent := (Bool.and_eq_true_iff.mp parametersFit).1
      exact ⟨_, rfl, .disclosure kind role (isSubject subjectRead)
        (isReference_iff.mpr ⟨targetIsAgent, _, targetRead⟩)⟩
  | report kind species subjectRead targetRead =>
      have targetIsAgent := (Bool.and_eq_true_iff.mp parametersFit).1
      exact ⟨_, rfl, .finding kind species (isSubject subjectRead)
        (isReference_iff.mpr ⟨targetIsAgent, _, targetRead⟩)⟩
  | action kind subjectRead targetRead =>
      exact ⟨_, rfl, .deed kind (isSubject subjectRead)
        (isReference_iff.mpr ⟨parametersFit, _, targetRead⟩)⟩

/-- Words that make a phrase before a list, which joins the clauses by an operator. -/
def JoinedBy
    (operator : Operator)
    (words : List Word)
    (list : List Char) :
    Prop :=
  ∃ phrase subject connective,
    phrase.Formed ∧
      phrase.line = ⟨words, some list⟩ ∧
        Phrase.Joins phrase subject connective list ∧
          ∀ clauses, (connective clauses).operator = operator

/-- The words of an address join clauses by its operator. -/
private theorem joinedBy_of_address
    {subject : List Word}
    {target : Word}
    {operator : Operator}
    (addresses : operator ∈ [.request, .inquire])
    (isSubject : IsSubject subject)
    (isReference : IsReference target)
    (list : List Char) :
    JoinedBy operator (subject ++ [Vocabulary.word operator, target])
      list := by
  obtain ⟨subjectWord, rfl, isAgent, agent, subjectRead⟩ :=
    isSubject_iff.mp isSubject
  obtain ⟨targetIsAgent, addressee, targetRead⟩ :=
    isReference_iff.mp isReference
  have joins :=
    Phrase.Joins.addressed addresses list subjectRead targetRead
  refine ⟨_, agent, _, ?_, rfl, joins,
    fun _ => Connective.operator_ofOperator addressee 0 operator⟩
  exact ⟨isAgent, (Phrase.Named.addressed operator addresses).keywordFits,
    targetIsAgent⟩

private theorem joinedBy_of_junction
    {subject : List Word}
    {operator : Operator}
    (connects : operator ∈ [.because, .and, .or, .xor, .not, .request])
    (isSubject : IsSubject subject)
    (list : List Char) :
    JoinedBy operator (subject ++ [Vocabulary.word operator]) list := by
  obtain ⟨subjectWord, rfl, isAgent, agent, subjectRead⟩ :=
    isSubject_iff.mp isSubject
  have joins := Phrase.Joins.connective connects list subjectRead
  refine ⟨_, agent, _, ?_, rfl, joins,
    fun _ => Connective.operator_ofOperator _ 0 operator⟩
  exact ⟨isAgent, (Phrase.Named.connective operator connects).keywordFits,
    rfl⟩

private theorem joinedBy_of_date
    {subject : List Word}
    {day : Word}
    (isSubject : IsSubject subject)
    (isNatural : IsNatural day)
    (list : List Char) :
    JoinedBy .day (subject ++ [Vocabulary.word Operator.day, day])
      list := by
  obtain ⟨subjectWord, rfl, isAgent, agent, subjectRead⟩ :=
    isSubject_iff.mp isSubject
  obtain ⟨number, dayRead⟩ := isNatural_iff.mp isNatural
  exact ⟨.dated subjectWord day list, agent, _,
    ⟨isAgent, rfl, Word.isNumber_of_isDigits isNatural.1⟩, rfl,
    .dated list subjectRead dayRead, fun _ => rfl⟩

/-- The words of an opening join as many clauses as the opening takes. -/
private theorem joinedBy_of_opening
    {words : List Word}
    {count : Nat}
    (opening : Opening words count)
    (list : List Char) :
    ∃ operator : Operator,
      operator.arity.accepts count = true ∧
        JoinedBy operator words list := by
  cases opening with
  | addressed operator addresses isSubject isReference =>
      rcases addresses with rfl | rfl
      · exact ⟨.request, rfl,
          joinedBy_of_address (by decide) isSubject isReference list⟩
      · exact ⟨.inquire, rfl,
          joinedBy_of_address (by decide) isSubject isReference list⟩
  | single operator takesOne isSubject =>
      rcases takesOne with rfl | rfl
      · exact ⟨.not, rfl, joinedBy_of_junction (by decide) isSubject list⟩
      · exact ⟨.request, rfl,
          joinedBy_of_junction (by decide) isSubject list⟩
  | pair operator takesTwo isSubject =>
      rcases takesTwo with rfl | rfl
      · exact ⟨.because, rfl,
          joinedBy_of_junction (by decide) isSubject list⟩
      · exact ⟨.xor, rfl, joinedBy_of_junction (by decide) isSubject list⟩
  | several operator takesSome notNone isSubject =>
      have accepts := decide_eq_true notNone
      rcases takesSome with rfl | rfl
      · exact ⟨.and, accepts,
          joinedBy_of_junction (by decide) isSubject list⟩
      · exact ⟨.or, accepts,
          joinedBy_of_junction (by decide) isSubject list⟩
  | dated isSubject isNatural =>
      exact ⟨.day, rfl, joinedBy_of_date isSubject isNatural list⟩

/-- The words of an address open as many clauses as its operator takes. -/
private theorem opening_of_address
    {subject : List Word}
    {target : Word}
    {operator : Operator}
    {count : Nat}
    (addresses : operator ∈ [.request, .inquire])
    (isSubject : IsSubject subject)
    (isReference : IsReference target)
    (accepts : operator.arity.accepts count = true) :
    Opening (subject ++ [Vocabulary.word operator, target]) count := by
  cases operator with
  | request =>
      cases beq_iff_eq.mp accepts
      exact .addressed .request (by decide) isSubject isReference
  | inquire =>
      cases beq_iff_eq.mp accepts
      exact .addressed .inquire (by decide) isSubject isReference
  | _ => exact absurd addresses (by decide)

private theorem opening_of_junction
    {subject : List Word}
    {operator : Operator}
    {count : Nat}
    (connects : operator ∈ [.because, .and, .or, .xor, .not, .request])
    (isSubject : IsSubject subject)
    (accepts : operator.arity.accepts count = true) :
    Opening (subject ++ [Vocabulary.word operator]) count := by
  cases operator with
  | because =>
      cases beq_iff_eq.mp accepts
      exact .pair .because (by decide) isSubject
  | and =>
      exact .several .and (by decide) (of_decide_eq_true accepts) isSubject
  | or =>
      exact .several .or (by decide) (of_decide_eq_true accepts) isSubject
  | xor =>
      cases beq_iff_eq.mp accepts
      exact .pair .xor (by decide) isSubject
  | not =>
      cases beq_iff_eq.mp accepts
      exact .single .not (by decide) isSubject
  | request =>
      cases beq_iff_eq.mp accepts
      exact .single .request (by decide) isSubject
  | _ => exact absurd connects (by decide)

private theorem opening_of_joins
    {phrase : Phrase}
    {subject : Agent}
    {connective : List Content → Connective}
    {list : List Char}
    (formed : phrase.Formed)
    (joins : phrase.Joins subject connective list) :
    ∃ words,
      phrase.line = ⟨words, some list⟩ ∧
        ∀ clauses count,
          (connective clauses).operator.arity.accepts count = true →
          Opening words count := by
  rcases formed with ⟨subjectIsAgent, keywordFits, parametersFit⟩
  have isSubject :
      ∀ {agent : Agent},
        Reading.subject phrase.subject? = .ok agent →
        IsSubject phrase.subject?.toList :=
    fun subjectRead =>
      isSubject_iff.mpr ⟨_, rfl, subjectIsAgent, _, subjectRead⟩
  cases joins with
  | addressed addresses list subjectRead targetRead =>
      have isReference :=
        isReference_iff.mpr ⟨parametersFit, _, targetRead⟩
      refine ⟨_, rfl, ?_⟩
      intro clauses count accepts
      rw [Connective.operator_ofOperator] at accepts
      exact opening_of_address addresses (isSubject subjectRead) isReference
        accepts
  | connective connects list subjectRead =>
      refine ⟨_, rfl, ?_⟩
      intro clauses count accepts
      rw [Connective.operator_ofOperator] at accepts
      exact opening_of_junction connects (isSubject subjectRead) accepts
  | dated list subjectRead dayRead =>
      refine ⟨_, rfl, ?_⟩
      intro clauses count accepts
      cases beq_iff_eq.mp accepts
      exact .dated (isSubject subjectRead) (isNatural_iff.mpr ⟨_, dayRead⟩)

/-- The words of the line of a phrase can stand outside every parenthesis. -/
private theorem areFrontWords
    {phrase : Phrase}
    {words : List Word}
    {list : Option (List Char)}
    (formed : phrase.Formed)
    (sameLine : phrase.line = ⟨words, list⟩) :
    ∀ word ∈ words, Line.IsFrontWord word := by
  intro word member
  have inLine : word ∈ phrase.line.words := by
    rw [sameLine]
    exact member
  exact .of_isPlain (formed.isPlain inLine)

variable
  {readClause : List Char → Except Diagnosis Content}
  {Below : List Char → Prop}
  {text : List Char}

/-- A text that is read is a line over clauses that are read. -/
private theorem composed_of_line
    {content : Content}
    (sound : ∀ group result, readClause group = .ok result → Below group)
    (succeeds : Reading.line .strict readClause text = .ok content) :
    Composed Below (Text.trim text) := by
  cases Reading.readAs_of_line succeeds with
  | stated formed laid states =>
      obtain ⟨words, sameLine, atomic⟩ := atomic_of_states formed states
      rw [sameLine] at laid
      cases laid with
      | alone spaced areWords =>
          exact .atomic atomic spaced
  | joined formed laid joins split groupsRead accepts =>
      obtain ⟨words, sameLine, opening⟩ := opening_of_joins formed joins
      obtain ⟨sameLength, each, _⟩ := Attempt.ok_of_mapM groupsRead
      obtain ⟨nonempty, grouped⟩ := Line.splitGroups?_eq_some_iff.mp split
      rw [sameLine] at laid
      generalize Text.trim text = trimmed at *
      cases laid with
      | listed spaced areWords isGap opens enclosed =>
          simp only [Line.isEnclosed, Bool.and_eq_true, beq_iff_eq,
            Bool.not_eq_true', List.contains_eq_mem,
            decide_eq_false_iff_not] at enclosed
          refine .joined (opening _ _ (sameLength ▸ accepts)) spaced isGap
            (clauseList_of_grouped grouped nonempty opens enclosed.1)
            enclosed.2 ?_
          intro group member
          obtain ⟨result, groupRead⟩ := each group member
          exact sound group result groupRead

/-- A line over clauses that are balanced and read is read. -/
private theorem line_of_composed
    (complete : ∀ group, Below group → ∃ result, readClause group = .ok result)
    (balanced : ∀ group, Below group → Line.isBalanced group = true)
    (composed : Composed Below (Text.trim text)) :
    ∃ content, Reading.line .strict readClause text = .ok content := by
  generalize trimmed : Text.trim text = line at composed
  cases composed with
  | atomic atomic spaced =>
      obtain ⟨phrase, subject, statement, formed, sameLine, states⟩ :=
        exists_states_of_atomic atomic
      have laid : Line.Laid phrase.line (Text.trim text) := by
        rw [sameLine, trimmed]
        exact .alone spaced (areFrontWords formed sameLine)
      rw [Reading.line_of_laid formed laid,
        Reading.phrase_of_states states]
      exact ⟨_, rfl⟩
  | @joined words groups front gap list opening spaced isGap clauseList
      oneLine clauses =>
      obtain ⟨operator, accepts, phrase, subject, connective, formed,
        sameLine, joins, sameOperator⟩ :=
        joinedBy_of_opening opening list
      have grouped :=
        clauseList.grouped fun group member =>
          balanced group (clauses group member)
      have split : Line.splitGroups? list = some groups :=
        Line.splitGroups?_eq_some_iff.mpr ⟨clauseList.ne_nil, grouped⟩
      obtain ⟨opens, closes⟩ := clauseList.ends
      have enclosed : Line.isEnclosed list = true := by
        simp [Line.isEnclosed, closes, oneLine]
      have laid : Line.Laid phrase.line (Text.trim text) := by
        rw [sameLine, trimmed]
        exact .listed spaced (areFrontWords formed sameLine) isGap opens
          enclosed
      obtain ⟨contents, groupsRead⟩ :=
        Attempt.exists_mapM fun group member =>
          complete group (clauses group member)
      have clausesRead :
          Reading.clauses .strict readClause list = .ok contents :=
        Reading.clauses_eq_ok_iff.mpr ⟨groups, split, groupsRead⟩
      have sameLength := (Attempt.ok_of_mapM groupsRead).1
      rw [Reading.line_of_laid formed laid, Reading.phrase_of_joins joins,
        clausesRead]
      have composeAccepts :
          (connective contents).operator.arity.accepts contents.length =
            true := by
        rw [sameOperator, sameLength]
        exact accepts
      exact ⟨_, Content.compose_eq_ok_iff.mpr ⟨composeAccepts, rfl⟩⟩

/-- Words of plain characters with gaps between them are balanced. -/
private theorem isBalanced_of_spaced
    {words : List Word}
    {front : List Char}
    {phrase : Phrase}
    {list : Option (List Char)}
    (formed : phrase.Formed)
    (sameLine : phrase.line = ⟨words, list⟩)
    (spaced : Line.Spaced words front) :
    Line.isBalanced front = true := by
  refine Line.isBalanced_of_not_mem
    (spaced.forall_mem ?_ fun _ => Text.ne_parenthesis_of_isBlank)
  intro word member character inWord
  have inLine : word ∈ phrase.line.words := by
    rw [sameLine]
    exact member
  exact Text.ne_parenthesis_of_isPlain
    ((formed.isPlain inLine).2 character inWord)

/-- A line over balanced clauses is balanced. -/
theorem Composed.isBalanced
    (composed : Composed Below text)
    (balanced : ∀ group, Below group → Line.isBalanced group = true) :
    Line.isBalanced text = true := by
  cases composed with
  | atomic atomic spaced =>
      obtain ⟨phrase, _, _, formed, sameLine, _⟩ :=
        exists_states_of_atomic atomic
      exact isBalanced_of_spaced formed sameLine spaced
  | joined opening spaced isGap clauseList oneLine clauses =>
      obtain ⟨_, _, phrase, _, _, formed, sameLine, _⟩ :=
        joinedBy_of_opening opening []
      have frontBalanced :=
        isBalanced_of_spaced formed sameLine spaced
      have listBalanced :=
        (clauseList.grouped fun group member =>
          balanced group (clauses group member)).isBalanced
      exact Line.isBalanced_append
        (Line.isBalanced_append frontBalanced
          (Line.isBalanced_of_isBlank isGap.2))
        listBalanced

/-- The lines of the grammar are balanced. -/
theorem Derivable.isBalanced
    {level : Nat}
    (derivable : Derivable level text) :
    Line.isBalanced text = true := by
  induction level generalizing text with
  | zero =>
      exact (derivable_zero_iff.mp derivable).isBalanced
        fun _ impossible => absurd impossible id
  | succ level inductionHypothesis =>
      exact (derivable_succ_iff.mp derivable).isBalanced
        fun _ below => Line.isBalanced_of_trim (inductionHypothesis below)

/-- Reading within some levels accepts the lines of the grammar at that level. -/
theorem within_succeeds_iff
    (limit level : Nat) :
    (∃ content, Reading.within Content .strict limit level text = .ok content) ↔
      Derivable level (Text.trim text) := by
  induction level generalizing text with
  | zero =>
      rw [derivable_zero_iff]
      constructor
      · rintro ⟨content, succeeds⟩
        refine composed_of_line ?_ succeeds
        intro group result impossible
        cases impossible
      · exact line_of_composed (fun _ => False.elim) (fun _ => False.elim)
  | succ level inductionHypothesis =>
      rw [derivable_succ_iff]
      constructor
      · rintro ⟨content, succeeds⟩
        refine composed_of_line ?_ succeeds
        intro group result groupRead
        exact inductionHypothesis.mp ⟨result, groupRead⟩
      · apply line_of_composed
        · intro group below
          exact inductionHypothesis.mpr below
        · intro group below
          exact Line.isBalanced_of_trim below.isBalanced

/-- A text is read strictly exactly if it is a line of the grammar without its blank ends. -/
theorem read_succeeds_iff_derivable
    (maxDepth : Nat)
    (text : String) :
    (∃ content, Content.read maxDepth text = .ok content) ↔
      Derivable maxDepth (Text.trim text.toList) :=
  within_succeeds_iff maxDepth maxDepth

end WerewolfSpeech.Grammar
