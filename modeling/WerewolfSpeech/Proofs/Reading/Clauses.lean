import WerewolfSpeech.Proofs.Content.Phrase
import WerewolfSpeech.Proofs.Reading.Grammar

namespace WerewolfSpeech

/-!
# Lines over clauses

A text can stand in the parentheses of a clause if it is balanced and stays on one line.
Words that open a clause list, with such texts in parentheses behind them, make a line that
can stand as a clause itself. It is read by reading the texts and composing the results.
-/

namespace Line

/-- A text that can stand in the parentheses of a clause. -/
structure IsClause (text : List Char) : Prop where
  balanced : isBalanced text = true
  oneLine : '\n' ∉ text

/-- Texts as the clauses of a line, each behind a space and in parentheses. -/
def inParentheses
    (groups : List (List Char)) :
    List Char :=
  groups.flatMap fun group => ' ' :: '(' :: (group ++ [')'])

/-- Clauses can follow each other. -/
theorem IsClause.append
    {first second : List Char}
    (firstIsClause : IsClause first)
    (secondIsClause : IsClause second) :
    IsClause (first ++ second) := by
  constructor
  · exact isBalanced_append firstIsClause.balanced
      secondIsClause.balanced
  · intro member
    rcases List.mem_append.mp member with inFirst | inSecond
    · exact firstIsClause.oneLine inFirst
    · exact secondIsClause.oneLine inSecond

private theorem isClause_inParentheses
    {groups : List (List Char)}
    (each : ∀ group ∈ groups, IsClause group) :
    IsClause (inParentheses groups) := by
  induction groups with
  | nil =>
      exact ⟨by decide, List.not_mem_nil⟩
  | cons group rest inductionHypothesis =>
      rw [List.forall_mem_cons] at each
      have enclosed : IsClause (' ' :: '(' :: (group ++ [')'])) := by
        constructor
        · have space : isBalanced [' '] = true := by decide
          exact isBalanced_append space
            (isBalanced_group each.1.balanced)
        · simp [each.1.oneLine]
      exact enclosed.append (inductionHypothesis each.2)

/-- Clauses in parentheses are a clause list behind a space. -/
theorem exists_clauseList
    {groups : List (List Char)}
    (someGroup : groups ≠ []) :
    ∃ list,
      inParentheses groups = ' ' :: list ∧
        Grammar.ClauseList groups list := by
  induction groups with
  | nil =>
      exact absurd rfl someGroup
  | cons group rest inductionHypothesis =>
      cases rest with
      | nil =>
          refine ⟨'(' :: (group ++ [')']), ?_, .last group⟩
          simp [inParentheses]
      | cons second others =>
          obtain ⟨list, shape, clauseList⟩ :=
            inductionHypothesis (by simp)
          have space : ∀ blank ∈ [' '], Text.isBlank blank = true := by
            simpa using (by decide : Text.isBlank ' ' = true)
          refine ⟨_, ?_, .more group space clauseList⟩
          unfold inParentheses at shape ⊢
          rw [List.flatMap_cons, shape]
          simp

end Line

namespace Phrase

private theorem isClause_words
    {phrase : Phrase}
    (formed : phrase.Formed) :
    Line.IsClause ([' '].intercalate phrase.line.words) := by
  constructor
  · apply Line.isBalanced_of_not_mem
    refine Line.forall_mem_intercalate (by decide) ?_
    intro word member character inWord
    exact Text.ne_parenthesis_of_isPlain
      ((formed.isPlain member).2 character inWord)
  · have notNewline :
        ∀ character ∈ [' '].intercalate phrase.line.words,
          character ≠ '\n' := by
      refine Line.forall_mem_intercalate (by decide) ?_
      rintro word member _ inWord rfl
      exact (formed.isPlain member).newline_not_mem inWord
    exact fun member => notNewline _ member rfl

/-- Words that join whatever clause list stands behind them. -/
structure Opens
    (words : List Word)
    (opened : List Char → Phrase)
    (subject : Agent)
    (connective : List Content → Connective) : Prop where
  sameLine : ∀ list, (opened list).line = ⟨words, some list⟩
  formed : ∀ list, (opened list).Formed
  joins : ∀ list, (opened list).Joins subject connective list

/-- The words of a phrase that joins clauses would join any other clause list as well. -/
theorem Joins.exists_opens
    {phrase : Phrase}
    {subject : Agent}
    {connective : List Content → Connective}
    {list : List Char}
    (joins : phrase.Joins subject connective list)
    (formed : phrase.Formed) :
    ∃ opened,
      Opens phrase.line.words opened subject connective := by
  rcases formed with ⟨subjectIsAgent, keywordFits, parametersFit⟩
  cases joins with
  | @addressed subjectWord targetWord _ _ operator addresses _ subjectRead
      targetRead =>
      exact
        ⟨.addressed subjectWord (Vocabulary.word operator) targetWord,
          fun _ => rfl,
          fun _ => ⟨subjectIsAgent, keywordFits, parametersFit⟩,
          fun other => .addressed addresses other subjectRead targetRead⟩
  | @connective subjectWord _ operator connects _ subjectRead =>
      exact
        ⟨.connective subjectWord (Vocabulary.word operator), fun _ => rfl,
          fun _ => ⟨subjectIsAgent, keywordFits, parametersFit⟩,
          fun other => .connective connects other subjectRead⟩
  | @dated subjectWord dayWord _ _ _ subjectRead dayRead =>
      exact
        ⟨.dated subjectWord dayWord, fun _ => rfl,
          fun _ => ⟨subjectIsAgent, keywordFits, parametersFit⟩,
          fun other => .dated other subjectRead dayRead⟩

namespace Opens

variable
  {words : List Word}
  {opened : List Char → Phrase}
  {subject : Agent}
  {connective : List Content → Connective}
  {groups : List (List Char)}

/-- A line over clauses can stand as a clause itself. -/
theorem isClause
    (opens : Opens words opened subject connective)
    (each : ∀ group ∈ groups, Line.IsClause group) :
    Line.IsClause ([' '].intercalate words ++ Line.inParentheses groups) := by
  have wordsAreClause := isClause_words (opens.formed [])
  rw [opens.sameLine] at wordsAreClause
  exact wordsAreClause.append (Line.isClause_inParentheses each)

/-- A line over clauses is laid out as its words with the clauses as groups. -/
theorem laid
    (opens : Opens words opened subject connective)
    (someGroup : groups ≠ [])
    (each : ∀ group ∈ groups, Line.IsClause group) :
    ∃ list,
      Line.Laid (opened list).line
          ([' '].intercalate words ++ Line.inParentheses groups) ∧
        Line.splitGroups? list = some groups := by
  obtain ⟨list, shape, clauseList⟩ := Line.exists_clauseList someGroup
  have grouped :=
    clauseList.grouped fun group member => (each group member).balanced
  have oneLine := (Line.isClause_inParentheses each).oneLine
  obtain ⟨beginsWith, endsWith⟩ := clauseList.ends
  have enclosed : Line.isEnclosed list = true := by
    rw [shape, List.mem_cons, not_or] at oneLine
    simp [Line.isEnclosed, endsWith, oneLine.2]
  have frontWords : ∀ word ∈ words, Line.IsFrontWord word := by
    intro word member
    apply Line.IsFrontWord.of_isPlain
    apply (opens.formed list).isPlain
    rw [opens.sameLine]
    exact member
  have someWord : words ≠ [] := by
    have sameWords := congrArg Line.words (opens.sameLine list)
    rintro rfl
    simp [line] at sameWords
  refine ⟨list, ?_, Line.splitGroups?_eq_some_iff.mpr
    ⟨clauseList.ne_nil, grouped⟩⟩
  have gapped : ' ' :: list = [' '] ++ list := rfl
  rw [opens.sameLine, shape, gapped, ← List.append_assoc]
  exact .listed (Line.spaced_intercalate someWord) frontWords
    Line.isGap_space beginsWith enclosed

/-- A line over clauses is read by reading the clauses and composing the results. -/
theorem line_eq
    {mode : Mode}
    {readClause : List Char → Except Diagnosis Content}
    (opens : Opens words opened subject connective)
    (someGroup : groups ≠ [])
    (each : ∀ group ∈ groups, Line.IsClause group) :
    Reading.line mode readClause
        ([' '].intercalate words ++ Line.inParentheses groups) =
      (groups.mapM fun group => Reading.clause mode (readClause group)) >>=
        fun clauses =>
          Content.compose subject (connective clauses) clauses := by
  obtain ⟨list, laid, split⟩ := opens.laid someGroup each
  rw [← laid.trim] at laid
  rw [Reading.line_of_laid (opens.formed list) laid,
    Reading.phrase_of_joins (opens.joins list), Reading.clauses, split]

end Opens

end Phrase

namespace Statement

/-- The line of a statement can stand in the parentheses of a clause. -/
theorem isClause_chars
    {Admits : Agent → Prop}
    {statement : Statement}
    {subject : Agent}
    (takesSubject : statement.TakesSubject subject)
    (aimed : Aimed Admits statement.target?) :
    Line.IsClause (subject.mentionChars ++ statement.chars) := by
  rw [mentionChars_append_chars takesSubject]
  exact Phrase.isClause_words (formed_phrase takesSubject aimed)

/-- The line of a statement is laid out as the line of its phrase. -/
theorem laid_chars
    {Admits : Agent → Prop}
    {statement : Statement}
    {subject : Agent}
    (takesSubject : statement.TakesSubject subject)
    (aimed : Aimed Admits statement.target?) :
    Line.Laid (statement.phrase subject).line
      (subject.mentionChars ++ statement.chars) := by
  have formed := formed_phrase takesSubject aimed
  rw [mentionChars_append_chars takesSubject, Phrase.line, list?_phrase]
  exact .alone (Line.spaced_intercalate (by simp)) fun word member =>
    .of_isPlain (formed.isPlain member)

/-- The line of a statement is read as the statement for the subject that it mentions. -/
theorem line_chars
    {mode : Mode}
    {readClause : List Char → Except Diagnosis Content}
    {statement : Statement}
    {subject : Agent}
    (takesSubject : statement.TakesSubject subject)
    (admissible : subject.Admissible)
    (aimed : Aimed Agent.Admissible statement.target?) :
    Reading.line mode readClause
        (subject.mentionChars ++ statement.chars) =
      .ok (.state subject statement) := by
  have formed := formed_phrase takesSubject aimed
  have states := states_phrase takesSubject admissible aimed
  have laid := laid_chars takesSubject aimed
  rw [← laid.trim] at laid
  rw [Reading.line_of_laid formed laid, Reading.phrase_of_states states]

end Statement

namespace Connective

/-- The words of a connective join whatever clauses stand behind them. -/
theorem opens_phrase
    {connective : Connective}
    {subject : Agent}
    (admissible : subject.Admissible)
    (aimed : Aimed Agent.Admissible connective.target?) :
    Phrase.Opens (connective.phrase subject []).line.words
      (connective.phrase subject) subject (fun _ => connective) where
  sameLine := by
    intro list
    cases connective <;> rfl
  formed := formed_phrase aimed subject
  joins := joins_phrase admissible aimed

end Connective

end WerewolfSpeech
