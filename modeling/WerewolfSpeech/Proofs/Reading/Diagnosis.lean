import WerewolfSpeech.Proofs.Line.Number
import WerewolfSpeech.Proofs.Reading.DepthLimit
import WerewolfSpeech.Proofs.Reading.Recognition

namespace WerewolfSpeech

/-!
# Diagnoses are true

A strict reader ends with the first thing that fails, at any depth. Whatever it reports of
that thing can be checked in the text: a part that no shape fits, a number or a reference
that is out of range, a clause list that cannot be split, or a number of groups that the
operator of a part does not take. Only the limit is reported of the text as a whole.

A reader also looks up every keyword of a line, and would fail where the vocabulary does not
have it. That does not occur: the words that the shapes accept as keywords are keywords of
terms, and of terms that take what the shape has behind them.
-/

/-- The phrase has a number of the right form that cannot be used. -/
def Phrase.HasUnusableNumber :
    Phrase →
    Prop
  | .agreement _ _ _ day index => day.ExceedsInt32 ∨ index.ExceedsInt32
  | .dated _ day _ => day.Exceeds 4294967295
  | _ => False

/-- A number of a phrase that has no value cannot be used. -/
private theorem Phrase.Formed.hasUnusableNumber
    {phrase : Phrase}
    (formed : phrase.Formed)
    (unread : phrase.HasUnreadNumber) :
    phrase.HasUnusableNumber := by
  have fit := formed.parametersFit
  cases phrase with
  | agreement subject kind channel day index =>
      rw [hasParameters, Bool.and_eq_true, Bool.and_eq_true] at fit
      rcases unread with noDay | noIndex
      · exact Or.inl (Word.exceedsInt32_of_toInt32? fit.2.1 noDay)
      · exact Or.inr (Word.exceedsInt32_of_toInt32? fit.2.2 noIndex)
  | dated subject day list => exact Word.exceeds_of_toUInt32? fit unread
  | _ => exact unread

/-- What a diagnosis other than that of the limit says is true of a part of a text. -/
inductive Diagnosis.TrueOf (text : List Char) : Diagnosis → Prop where
  | unrecognized
      {line : List Char}
      (part : line <:+: text)
      (trimmed : Text.trim line = line)
      (noShape : Shape.recognize? line = none) :
      TrueOf text (.parseFailed (String.ofList line))
  | unusableNumber
      {line : List Char}
      {phrase : Phrase}
      (part : line <:+: text)
      (trimmed : Text.trim line = line)
      (makesPhrase : Phrase.ofChars? line = some phrase)
      (unusable : phrase.HasUnusableNumber) :
      TrueOf text (.parseFailed (String.ofList line))
  | invalidAgent
      {digits : Word}
      (part : Agent.bracketed digits <:+: text)
      (exceeds : digits.Exceeds 2147483647) :
      TrueOf text (.invalidAgent (String.ofList (Agent.bracketed digits)))
  | unbalancedGroups
      {inner : List Char}
      (part : '(' :: (inner ++ [')']) <:+: text)
      (notSplit : Line.splitGroups? ('(' :: (inner ++ [')'])) = none) :
      TrueOf text
        (.unbalancedGroups (String.ofList ('(' :: (inner ++ [')']))))
  | arityMismatch
      {line list : List Char}
      {phrase : Phrase}
      {operator : Operator}
      {groups : List (List Char)}
      (part : line <:+: text)
      (makesPhrase : Phrase.ofChars? line = some phrase)
      (named : phrase.keyword = Vocabulary.word operator)
      (listed : phrase.list? = some list)
      (split : Line.splitGroups? list = some groups)
      (refuses : operator.arity.accepts groups.length = false) :
      TrueOf text (.arityMismatch operator groups.length)

/-- The word stands in the line, and the vocabulary accepts it as the term. -/
def Line.HasKeyword
    {Term : Type}
    [Vocabulary Term]
    (line : Line)
    (word : Word)
    (term : Term) :
    Prop :=
  word ∈ line.words ∧ Vocabulary.ofToken (String.ofList word) = .ok term

/--
The keywords that the phrase was recognised by are words of the line that the vocabularies
accept, and the topic or operator is one that takes the parameters of the phrase.
-/
def Phrase.KeywordsKnown
    (line : Line) :
    Phrase →
    Prop
  | .bare keyword =>
      ∃ topic : Topic,
        line.HasKeyword keyword topic ∧ topic.fields = .bare
  | .agreement _ keyword channelWord _ _ =>
      (∃ topic : Topic,
        line.HasKeyword keyword topic ∧ topic.fields = .utterance) ∧
        ∃ channel : Channel, line.HasKeyword channelWord channel
  | .disclosure _ keyword _ roleWord =>
      (∃ topic : Topic,
        line.HasKeyword keyword topic ∧ topic.fields = .targetRole) ∧
        ∃ role : Role, line.HasKeyword roleWord role
  | .report _ keyword _ speciesWord =>
      (∃ topic : Topic,
        line.HasKeyword keyword topic ∧ topic.fields = .targetSpecies) ∧
        ∃ species : Species, line.HasKeyword speciesWord species
  | .action _ keyword _ =>
      ∃ (topic : Topic) (deed : Deed),
        line.HasKeyword keyword topic ∧
          topic.fields = .target ∧ topic.deed? = some deed
  | .addressed _ keyword _ _ =>
      ∃ operator : Operator,
        line.HasKeyword keyword operator ∧ operator.carriesTarget = true
  | .connective _ keyword _ =>
      ∃ operator : Operator,
        line.HasKeyword keyword operator ∧ operator.carriesDay = false
  | .dated _ _ _ =>
      line.HasKeyword "DAY".toList Operator.day

/-- The keyword of a term is known wherever it stands. -/
private theorem Line.hasKeyword_word
    {Term : Type}
    [Vocabulary Term]
    [Vocabulary.Lawful Term]
    {line : Line}
    {term : Term}
    (member : Vocabulary.word term ∈ line.words) :
    line.HasKeyword (Vocabulary.word term) term :=
  ⟨member, Vocabulary.ofToken_word term⟩

/-- The keywords of every phrase that a shape makes of a line are known. -/
theorem Phrase.keywordsKnown
    {shape : Shape}
    {line : Line}
    {phrase : Phrase}
    (found : shape.phrase? line = some phrase) :
    phrase.KeywordsKnown line := by
  obtain ⟨formed, rfl⟩ := formed_of_phrase? found
  have keywordStands : phrase.keyword ∈ phrase.line.words := by
    simp [Phrase.line]
  have parameterStands :
      ∀ word ∈ phrase.parameters, word ∈ phrase.line.words := by
    intro word member
    simp [Phrase.line, member]
  cases formed.named with
  | bare kind =>
      exact ⟨kind.topic, Line.hasKeyword_word keywordStands,
        by cases kind <;> rfl⟩
  | agreement kind channel =>
      exact ⟨⟨kind.topic, Line.hasKeyword_word keywordStands,
          by cases kind <;> rfl⟩,
        channel,
        Line.hasKeyword_word (parameterStands _ List.mem_cons_self)⟩
  | disclosure kind role =>
      exact ⟨⟨kind.topic, Line.hasKeyword_word keywordStands,
          by cases kind <;> rfl⟩,
        role,
        Line.hasKeyword_word (parameterStands _ (by simp [parameters]))⟩
  | report kind species =>
      exact ⟨⟨kind.topic, Line.hasKeyword_word keywordStands,
          by cases kind <;> rfl⟩,
        species,
        Line.hasKeyword_word (parameterStands _ (by simp [parameters]))⟩
  | action kind =>
      exact ⟨kind.topic, kind, Line.hasKeyword_word keywordStands,
        by cases kind <;> rfl, by cases kind <;> rfl⟩
  | addressed operator addresses =>
      refine ⟨operator, Line.hasKeyword_word keywordStands, ?_⟩
      rcases List.mem_pair.mp addresses with rfl | rfl <;> rfl
  | connective operator connects =>
      refine ⟨operator, Line.hasKeyword_word keywordStands, ?_⟩
      revert connects
      cases operator <;> decide
  | dated =>
      exact Line.hasKeyword_word keywordStands

/-- What is true of a part of a text is true of the text. -/
theorem Diagnosis.TrueOf.mono
    {part text : List Char}
    {diagnosis : Diagnosis}
    (isTrue : diagnosis.TrueOf part)
    (isPart : part <:+: text) :
    diagnosis.TrueOf text := by
  cases isTrue with
  | unrecognized inPart trimmed noShape =>
      exact .unrecognized (inPart.trans isPart) trimmed noShape
  | unusableNumber inPart trimmed makesPhrase unusable =>
      exact .unusableNumber (inPart.trans isPart) trimmed makesPhrase
        unusable
  | invalidAgent inPart exceeds =>
      exact .invalidAgent (inPart.trans isPart) exceeds
  | unbalancedGroups inPart notSplit =>
      exact .unbalancedGroups (inPart.trans isPart) notSplit
  | arityMismatch inPart makesPhrase named listed split refuses =>
      exact .arityMismatch (inPart.trans isPart) makesPhrase named listed
        split refuses

/-- Only the lack of any clause is reported as such, so a clause makes it a mismatch. -/
private theorem Operator.misfit_of_pos
    {operator : Operator}
    {actual : Nat}
    (someClause : 0 < actual)
    (refuses : operator.arity.accepts actual = false) :
    operator.misfit actual = .arityMismatch operator actual := by
  cases operator with
  | and => exact absurd refuses (by simp [arity, Arity.accepts]; omega)
  | or => exact absurd refuses (by simp [arity, Arity.accepts]; omega)
  | _ => rfl

namespace Reading

/-- A group of a text is a part of the text. -/
theorem HasGroup.isInfix
    {text group : List Char}
    (hasGroup : HasGroup text group) :
    group <:+: text := by
  obtain ⟨before, behind, rfl, _⟩ := hasGroup.exists_around
  exact ⟨before ++ ['('], ')' :: behind, by simp⟩

variable
  {readClause : List Char → Except Diagnosis Content}
  {text : List Char}
  {phrase : Phrase}
  {diagnosis : Diagnosis}

/-- A clause list that cannot be split is reported truly. -/
private theorem trueOf_unbalancedGroups
    {list : List Char}
    (formed : phrase.Formed)
    (laid : Line.Laid phrase.line text)
    (listed : phrase.list? = some list)
    (notSplit : Line.splitGroups? list = none) :
    Diagnosis.TrueOf text (.unbalancedGroups (String.ofList list)) := by
  obtain ⟨front, rest, whole, opens, enclosed, _⟩ :=
    formed.exists_front laid listed
  simp only [Line.isEnclosed, Bool.and_eq_true, beq_iff_eq] at enclosed
  obtain ⟨inner, rfl⟩ := List.getLast?_eq_some_iff.mp enclosed.1
  cases inner with
  | nil => cases opens
  | cons first inner =>
      cases opens
      exact .unbalancedGroups ⟨front, [], by simp [whole]⟩ notSplit

private theorem trueOf_or_group_of_failsBy
    (formed : phrase.Formed)
    (laid : Line.Laid phrase.line text)
    (failsBy : FailsBy .strict readClause text phrase diagnosis) :
    diagnosis.TrueOf text ∨
      ∃ group, HasGroup text group ∧ readClause group = .error diagnosis := by
  have found : Phrase.ofChars? text = some phrase :=
    Phrase.ofChars?_eq_some_iff.mpr ⟨formed, laid⟩
  cases failsBy with
  | reference member isAgent refused =>
      obtain ⟨digits, rfl, exceeds⟩ :=
        Word.exceeds_of_ofWord_error isAgent refused
      exact Or.inl (.invalidAgent (laid.infix_of_mem member) exceeds)
  | number unread =>
      exact Or.inl
        (.unusableNumber (List.infix_refl text) laid.trim found
          (formed.hasUnusableNumber unread))
  | clauses listed fails =>
      rcases clauses_eq_error fails with
          ⟨notSplit, rfl⟩ | ⟨groups, split, group, member, groupFails⟩
      · exact Or.inl (trueOf_unbalancedGroups formed laid listed notSplit)
      · rw [clause_strict] at groupFails
        rw [← laid.trim] at found
        exact Or.inr ⟨group,
          ⟨phrase, _, groups, found, listed, split, member⟩, groupFails⟩
  | @misfit list contents operator named listed clausesRead refuses =>
      obtain ⟨groups, split, groupsRead⟩ :=
        clauses_eq_ok_iff.mp clausesRead
      have sameCount := (Attempt.ok_of_mapM groupsRead).1
      rw [sameCount] at refuses ⊢
      -- A list that was split has a group, so it is never reported as empty.
      have someGroup : 0 < groups.length :=
        List.length_pos_iff.mpr
          (Line.splitGroups?_eq_some_iff.mp split).1
      rw [Operator.misfit_of_pos someGroup refuses]
      exact Or.inl
        (.arityMismatch (List.infix_refl text) found named listed split
          refuses)

/-- A text that fails is reported truly, or one of its groups is. -/
private theorem trueOf_or_group_of_line
    (fails : line .strict readClause text = .error diagnosis) :
    diagnosis.TrueOf text ∨
      ∃ group, HasGroup text group ∧ readClause group = .error diagnosis := by
  have trimmed : Text.trim (Text.trim text) = Text.trim text :=
    Text.trim_eq_self (Line.ends_trim text).1 (Line.ends_trim text).2
  cases found : Phrase.ofChars? (Text.trim text) with
  | none =>
      left
      rw [line, found] at fails
      cases fails
      refine .unrecognized (Text.isInfix_trim text) trimmed ?_
      rw [Option.eq_none_iff_forall_ne_some]
      intro shape recognized
      obtain ⟨phrase, made, _⟩ := Shape.recognize?_eq_some_iff.mp recognized
      rw [trimmed, found] at made
      cases made
  | some phrase =>
      obtain ⟨formed, laid⟩ := Phrase.ofChars?_eq_some_iff.mp found
      rw [line, found] at fails
      rcases trueOf_or_group_of_failsBy formed laid
          (failsBy_of_phrase formed fails) with
          isTrue | ⟨group, hasGroup, groupFails⟩
      · exact Or.inl (isTrue.mono (Text.isInfix_trim text))
      · rw [HasGroup, trimmed] at hasGroup
        exact Or.inr ⟨group, hasGroup, groupFails⟩

private theorem trueOf_or_depth_of_beneath
    {limit levels : Nat}
    (fails : beneath .strict limit levels text = .error diagnosis) :
    diagnosis.TrueOf text ∨
      diagnosis = .depthExceeded limit ∧ levels ≤ Line.nesting text := by
  induction levels generalizing text with
  | zero =>
      cases fails
      exact Or.inr ⟨rfl, Nat.zero_le _⟩
  | succ levels inductionHypothesis =>
      rw [beneath_succ] at fails
      rcases trueOf_or_group_of_line fails with
          isTrue | ⟨group, hasGroup, groupFails⟩
      · exact Or.inl isTrue
      · rcases inductionHypothesis groupFails with
            isTrue | ⟨isDepth, deep⟩
        · exact Or.inl (isTrue.mono hasGroup.isInfix)
        · -- The group lacks a level that the text has, and is less nested than it.
          have lower := hasGroup.nesting_lt
          exact Or.inr ⟨isDepth, by omega⟩

end Reading

namespace Content

/--
What a strict reader reports is true. It never finds a list of clauses empty, it reports
the limit only of a text that is nested deeper, and anything else it reports can be checked
in a part of the text. Whatever a shape accepts as keywords stands in the line and is known
to the vocabularies, so no keyword is ever what fails.
-/
theorem read_diagnosis_true
    (maxDepth : Nat)
    (text : String) :
    (∀ diagnosis,
        read maxDepth text = .error diagnosis →
        (∀ operator, diagnosis ≠ .emptyOperands operator) ∧
          (diagnosis.TrueOf text.toList ∨
            diagnosis = .depthExceeded maxDepth ∧
              maxDepth < Line.nesting text.toList)) ∧
      ∀ (shape : Shape) (line : Line) (phrase : Phrase),
        shape.phrase? line = some phrase →
        phrase.KeywordsKnown line := by
  constructor
  · intro diagnosis fails
    have beneathFails :
        Reading.beneath .strict maxDepth (maxDepth + 1) text.toList =
          .error diagnosis :=
      fails
    have reported := Reading.trueOf_or_depth_of_beneath beneathFails
    refine ⟨?_, reported⟩
    rintro operator rfl
    rcases reported with isTrue | ⟨impossible, _⟩
    · cases isTrue
    · cases impossible
  · intro shape line phrase found
    exact Phrase.keywordsKnown found

/-- A clause about an agent beyond the last index is reported by the reference in it. -/
theorem read_diagnosis_true_reference :
    read 16 "NOT (VOTE Agent[2147483648])" =
        .error (.invalidAgent "Agent[2147483648]") ∧
      (Diagnosis.invalidAgent "Agent[2147483648]").TrueOf
        "NOT (VOTE Agent[2147483648])".toList := by
  have reported :
      Except.casesOn (motive := fun _ => Option Diagnosis)
          (read 16 "NOT (VOTE Agent[2147483648])") some (fun _ => none) =
        some (.invalidAgent "Agent[2147483648]") := by
    decide +kernel
  cases fails : read 16 "NOT (VOTE Agent[2147483648])" with
  | ok content =>
      rw [fails] at reported
      cases reported
  | error diagnosis =>
      rw [fails] at reported
      obtain rfl := Option.some.inj reported
      have explained :=
        (read_diagnosis_true 16 "NOT (VOTE Agent[2147483648])").1 _ fails
      rcases explained.2 with isTrue | ⟨impossible, _⟩
      · exact ⟨rfl, isTrue⟩
      · cases impossible

end Content

end WerewolfSpeech
