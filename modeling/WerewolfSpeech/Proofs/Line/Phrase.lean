import Mathlib.Control.Basic
import Mathlib.Data.Option.Basic
import WerewolfSpeech.Line.Phrase
import WerewolfSpeech.Proofs.Line.Layout

namespace WerewolfSpeech

/-!
# Phrases and their lines

Every phrase has a line of its own, which holds the words that the phrase was recognised
by. A line is recognised as a phrase exactly if it is the line of that phrase and the words
in it have the form that they must have: a keyword is one of those of the shape, a
reference has the form of an agent, and a number has the form of a number. No line makes
two phrases, so it does not matter in which order the shapes are tried.

A shape accepts keywords by lists of its own. All of them are keywords of the topics and
operators that take what the shape has behind its keyword.
-/

namespace Line

/-- A line whose first word is not a subject has no subject. -/
private theorem splitSubject_of_keyword
    {subject : Option Word}
    {keyword : Word}
    (subjectIsAgent : ∀ word ∈ subject, word.isAgent = true)
    (keywordIsNot : keyword.isAgent = false)
    (parameters : List Word)
    (list : Option (List Char)) :
    splitSubject ⟨subject.toList ++ keyword :: parameters, list⟩ =
      (subject, keyword :: parameters) := by
  cases subject with
  | none =>
      simp [splitSubject, keywordIsNot]
  | some word =>
      simp [splitSubject, subjectIsAgent word rfl]

/-- The subject of a line and the words behind it make up the words of the line. -/
private theorem words_of_splitSubject
    {line : Line}
    {subject : Option Word}
    {words : List Word}
    (split : line.splitSubject = (subject, words)) :
    line.words = subject.toList ++ words ∧
      ∀ word ∈ subject, word.isAgent = true := by
  rcases line with ⟨lineWords, list⟩
  cases lineWords with
  | nil =>
      cases split
      simp
  | cons first rest =>
      cases isAgent : first.isAgent with
      | true =>
          simp only [splitSubject, isAgent, if_true] at split
          cases split
          simp [isAgent]
      | false =>
          simp only [splitSubject, isAgent, Bool.false_eq_true,
            if_false] at split
          cases split
          simp

end Line

/-- Every shape is tried. -/
theorem Shape.mem_order
    (shape : Shape) :
    shape ∈ Shape.order := by
  cases shape <;> decide

namespace Word

/-- One of several keywords is a word that spells one of them. -/
theorem isOneOf_iff
    {keywords : List String}
    {word : Word} :
    word.isOneOf keywords = true ↔
      ∃ keyword ∈ keywords, keyword.toList = word := by
  simp [isOneOf]

/-- One of the keywords of certain terms names one of the terms. -/
private theorem exists_of_isOneOf
    {Term Kind : Type}
    [Vocabulary Term]
    (term : Kind → Term)
    (kinds : List Kind)
    {word : Word}
    (isOne :
      word.isOneOf
          (kinds.map fun kind => Vocabulary.keyword (term kind)) =
        true) :
    ∃ kind ∈ kinds, word = Vocabulary.word (term kind) := by
  obtain ⟨_, member, rfl⟩ := isOneOf_iff.mp isOne
  obtain ⟨kind, listed, rfl⟩ := List.mem_map.mp member
  exact ⟨kind, listed, rfl⟩

/-- One of the keywords of a vocabulary names a term of it. -/
private theorem exists_term_of_isOneOf
    {Term : Type}
    [Vocabulary Term]
    {word : Word}
    (isOne : word.isOneOf (Vocabulary.keywords Term) = true) :
    ∃ term : Term, word = Vocabulary.word term := by
  obtain ⟨term, _, isWord⟩ :=
    exists_of_isOneOf (fun term : Term => term) Vocabulary.terms isOne
  exact ⟨term, isWord⟩

/-- The keyword of a term is one of the keywords of its vocabulary. -/
theorem isOneOf_word
    {Term : Type}
    [Vocabulary Term]
    [Vocabulary.Lawful Term]
    (term : Term) :
    isOneOf (Vocabulary.keywords Term) (Vocabulary.word term) = true := by
  have listed : term ∈ (Vocabulary.terms : List Term) :=
    List.mem_of_find?_eq_some (Vocabulary.find?_word term)
  exact isOneOf_iff.mpr
    ⟨Vocabulary.keyword term, List.mem_map_of_mem listed, rfl⟩

end Word

namespace Phrase

/-- The reference to the subject, if the phrase has one. -/
def subject? :
    Phrase →
    Option Word
  | .bare _ => none
  | .agreement subject _ _ _ _ => subject
  | .disclosure subject _ _ _ => subject
  | .report subject _ _ _ => subject
  | .action subject _ _ => subject
  | .addressed subject _ _ _ => subject
  | .connective subject _ _ => subject
  | .dated subject _ _ => subject

/-- The word that the phrase is recognised by. -/
def keyword :
    Phrase →
    Word
  | .bare keyword => keyword
  | .agreement _ keyword _ _ _ => keyword
  | .disclosure _ keyword _ _ => keyword
  | .report _ keyword _ _ => keyword
  | .action _ keyword _ => keyword
  | .addressed _ keyword _ _ => keyword
  | .connective _ keyword _ => keyword
  | .dated _ _ _ => Vocabulary.word Operator.day

/-- The words behind the keyword. -/
def parameters :
    Phrase →
    List Word
  | .bare _ => []
  | .agreement _ _ channel day index =>
      [channel, 'd' :: 'a' :: 'y' :: day, 'I' :: 'D' :: ':' :: index]
  | .disclosure _ _ target role => [target, role]
  | .report _ _ target species => [target, species]
  | .action _ _ target => [target]
  | .addressed _ _ target _ => [target]
  | .connective _ _ _ => []
  | .dated _ day _ => [day]

/-- The clause list behind the words. -/
def list? :
    Phrase →
    Option (List Char)
  | .addressed _ _ _ list => some list
  | .connective _ _ list => some list
  | .dated _ _ list => some list
  | _ => none

/-- The line that the phrase was recognised in. -/
def line
    (phrase : Phrase) :
    Line :=
  ⟨phrase.subject?.toList ++ phrase.keyword :: phrase.parameters, phrase.list?⟩

/-- Whether the words behind the keyword have the form that they must have. -/
def hasParameters :
    Phrase →
    Bool
  | .bare _ => true
  | .agreement _ _ channel day index =>
      channel.isOneOf channels && (day.isSignedNumber && index.isSignedNumber)
  | .disclosure _ _ target role => target.isAgent && role.isOneOf roles
  | .report _ _ target word => target.isAgent && word.isOneOf species
  | .action _ _ target => target.isAgent
  | .addressed _ _ target _ => target.isAgent
  | .connective _ _ _ => true
  | .dated _ day _ => day.isNumber

/-- All words of the phrase have the form that they must have. -/
structure Formed (phrase : Phrase) : Prop where
  subjectIsAgent : ∀ word ∈ phrase.subject?, word.isAgent = true
  keywordFits : phrase.keyword.isOneOf phrase.shape.keywords = true
  parametersFit : phrase.hasParameters = true

private theorem isAgent_topic
    (topic : Topic) :
    Word.isAgent (Vocabulary.word topic) = false := by
  cases topic <;> decide

private theorem isAgent_operator
    (operator : Operator) :
    Word.isAgent (Vocabulary.word operator) = false := by
  cases operator <;> decide

/-- What a shape accepts as a keyword is that of a topic or of an operator. -/
theorem topic_or_operator_of_isOneOf
    (shape : Shape)
    {word : Word}
    (isOne : word.isOneOf shape.keywords = true) :
    (∃ topic : Topic, word = Vocabulary.word topic) ∨
      ∃ operator : Operator, word = Vocabulary.word operator := by
  have each :
      ∀ keyword ∈ shape.keywords,
        Word.isOneOf (Vocabulary.keywords Topic) keyword.toList = true ∨
          Word.isOneOf (Vocabulary.keywords Operator) keyword.toList =
            true := by
    cases shape <;> decide
  obtain ⟨keyword, listed, rfl⟩ := Word.isOneOf_iff.mp isOne
  exact (each keyword listed).imp Word.exists_term_of_isOneOf
    Word.exists_term_of_isOneOf

/-- No keyword of a shape can be taken for an agent. -/
private theorem isAgent_of_isOneOf
    (shape : Shape)
    {word : Word}
    (isOne : word.isOneOf shape.keywords = true) :
    word.isAgent = false := by
  rcases topic_or_operator_of_isOneOf shape isOne with
      ⟨topic, rfl⟩ | ⟨operator, rfl⟩
  · exact isAgent_topic topic
  · exact isAgent_operator operator

/-- In the line of a phrase the subject of the phrase is found. -/
private theorem splitSubject_line
    {phrase : Phrase}
    (formed : phrase.Formed) :
    phrase.line.splitSubject =
      (phrase.subject?, phrase.keyword :: phrase.parameters) :=
  Line.splitSubject_of_keyword formed.subjectIsAgent
    (isAgent_of_isOneOf phrase.shape formed.keywordFits)
    phrase.parameters phrase.list?

/-- A keyword of a disclosure is none of a finding. -/
private theorem not_report_of_disclosure
    {word : Word}
    (isOne : word.isOneOf Shape.disclosure.keywords = true) :
    word.isOneOf Shape.report.keywords = false := by
  obtain ⟨keyword, listed, rfl⟩ := Word.isOneOf_iff.mp isOne
  revert keyword
  decide

/-- The keyword of an address is not that of a date. -/
private theorem not_dated_of_addressed
    {word : Word}
    (isOne : word.isOneOf Shape.addressed.keywords = true) :
    word.isOneOf Shape.dated.keywords = false := by
  obtain ⟨keyword, listed, rfl⟩ := Word.isOneOf_iff.mp isOne
  revert keyword
  decide

/-- A line is the line of one phrase at most. -/
private theorem line_injective
    {first second : Phrase}
    (firstFormed : first.Formed)
    (secondFormed : second.Formed)
    (sameLine : first.line = second.line) :
    first = second := by
  have sameList : first.list? = second.list? :=
    congrArg Line.list sameLine
  have sameSplit := splitSubject_line firstFormed
  rw [sameLine, splitSubject_line secondFormed, Prod.mk.injEq,
    List.cons.injEq] at sameSplit
  rcases sameSplit with ⟨sameSubject, sameKeyword, sameParameters⟩
  have firstFits := firstFormed.keywordFits
  have secondFits := secondFormed.keywordFits
  rw [sameKeyword] at secondFits
  clear firstFormed secondFormed sameLine
  -- The number of words and the clause list tell most shapes apart, the keyword the rest.
  cases first <;> cases second <;>
    simp_all [list?, parameters, subject?, keyword, shape]
  case disclosure.report =>
    exact absurd secondFits (by simp [not_report_of_disclosure firstFits])
  case report.disclosure =>
    exact absurd firstFits (by simp [not_report_of_disclosure secondFits])
  case addressed.dated =>
    exact absurd secondFits (by simp [not_dated_of_addressed firstFits])
  case dated.addressed =>
    exact absurd secondFits (by decide)

/-- A line consists of what it was taken apart into, and its subject is an agent. -/
private theorem line_eq_of_split
    {line : Line}
    {subject : Option Word}
    {words : List Word}
    {list : Option (List Char)}
    (split : line.splitSubject = (subject, words))
    (sameList : line.list = list) :
    (∀ word ∈ subject, word.isAgent = true) ∧
      ⟨subject.toList ++ words, list⟩ = line := by
  obtain ⟨sameWords, subjectIsAgent⟩ := Line.words_of_splitSubject split
  rcases line with ⟨lineWords, lineList⟩
  subst sameList
  exact ⟨subjectIsAgent, congrArg (Line.mk · lineList) sameWords.symm⟩

/-- What is recognised as a silence is the line of that silence. -/
private theorem formed_of_bare?
    {line : Line}
    {phrase : Phrase}
    (found : bare? line = some phrase) :
    phrase.Formed ∧ phrase.line = line := by
  rcases line with ⟨words, list⟩
  unfold bare? at found
  split at found
  · next keyword onlyWord noList =>
      simp only [Option.bind_eq_bind, Option.bind_eq_some_iff,
        Option.pure_def, Option.some.injEq, Option.guard_eq_some'] at found
      rcases found with ⟨_, keywordFits, rfl⟩
      cases onlyWord
      cases noList
      exact ⟨⟨by simp [subject?], keywordFits, rfl⟩, rfl⟩
  · cases found

private theorem formed_of_agreement?
    {line : Line}
    {phrase : Phrase}
    (found : agreement? line = some phrase) :
    phrase.Formed ∧ phrase.line = line := by
  unfold agreement? at found
  split at found
  · next subject keyword channel day index split noList =>
      simp only [Option.bind_eq_bind, Option.bind_eq_some_iff,
        Option.pure_def, Option.some.injEq, Option.guard_eq_some',
        Word.signedNumberAfter?_eq_some_iff] at found
      obtain ⟨_, keywordFits, _, channelFits, day, ⟨rfl, dayNumber⟩, index,
        ⟨rfl, indexNumber⟩, rfl⟩ := found
      obtain ⟨subjectIsAgent, rfl⟩ := line_eq_of_split split noList
      refine ⟨⟨subjectIsAgent, keywordFits, ?_⟩, rfl⟩
      rw [hasParameters, channelFits, dayNumber, indexNumber,
        Bool.and_self, Bool.and_self]
  · cases found

private theorem formed_of_disclosure?
    {line : Line}
    {phrase : Phrase}
    (found : disclosure? line = some phrase) :
    phrase.Formed ∧ phrase.line = line := by
  unfold disclosure? at found
  split at found
  · next subject keyword target role split noList =>
      simp only [Option.bind_eq_bind, Option.bind_eq_some_iff,
        Option.pure_def, Option.some.injEq, Option.guard_eq_some'] at found
      rcases found with ⟨_, keywordFits, _, isAgent, _, roleFits, rfl⟩
      obtain ⟨subjectIsAgent, rfl⟩ := line_eq_of_split split noList
      refine ⟨⟨subjectIsAgent, keywordFits, ?_⟩, rfl⟩
      rw [hasParameters, isAgent, roleFits, Bool.and_self]
  · cases found

private theorem formed_of_report?
    {line : Line}
    {phrase : Phrase}
    (found : report? line = some phrase) :
    phrase.Formed ∧ phrase.line = line := by
  unfold report? at found
  split at found
  · next subject keyword target word split noList =>
      simp only [Option.bind_eq_bind, Option.bind_eq_some_iff,
        Option.pure_def, Option.some.injEq, Option.guard_eq_some'] at found
      rcases found with ⟨_, keywordFits, _, isAgent, _, speciesFits, rfl⟩
      obtain ⟨subjectIsAgent, rfl⟩ := line_eq_of_split split noList
      refine ⟨⟨subjectIsAgent, keywordFits, ?_⟩, rfl⟩
      rw [hasParameters, isAgent, speciesFits, Bool.and_self]
  · cases found

private theorem formed_of_action?
    {line : Line}
    {phrase : Phrase}
    (found : action? line = some phrase) :
    phrase.Formed ∧ phrase.line = line := by
  unfold action? at found
  split at found
  · next subject keyword target split noList =>
      simp only [Option.bind_eq_bind, Option.bind_eq_some_iff,
        Option.pure_def, Option.some.injEq, Option.guard_eq_some'] at found
      rcases found with ⟨_, keywordFits, _, isAgent, rfl⟩
      obtain ⟨subjectIsAgent, rfl⟩ := line_eq_of_split split noList
      exact ⟨⟨subjectIsAgent, keywordFits, isAgent⟩, rfl⟩
  · cases found

private theorem formed_of_addressed?
    {line : Line}
    {phrase : Phrase}
    (found : addressed? line = some phrase) :
    phrase.Formed ∧ phrase.line = line := by
  unfold addressed? at found
  split at found
  · next subject keyword target list split someList =>
      simp only [Option.bind_eq_bind, Option.bind_eq_some_iff,
        Option.pure_def, Option.some.injEq, Option.guard_eq_some'] at found
      rcases found with ⟨_, keywordFits, _, isAgent, rfl⟩
      obtain ⟨subjectIsAgent, rfl⟩ := line_eq_of_split split someList
      exact ⟨⟨subjectIsAgent, keywordFits, isAgent⟩, rfl⟩
  · cases found

private theorem formed_of_connective?
    {line : Line}
    {phrase : Phrase}
    (found : connective? line = some phrase) :
    phrase.Formed ∧ phrase.line = line := by
  unfold connective? at found
  split at found
  · next subject keyword list split someList =>
      simp only [Option.bind_eq_bind, Option.bind_eq_some_iff,
        Option.pure_def, Option.some.injEq, Option.guard_eq_some'] at found
      rcases found with ⟨_, keywordFits, rfl⟩
      obtain ⟨subjectIsAgent, rfl⟩ := line_eq_of_split split someList
      exact ⟨⟨subjectIsAgent, keywordFits, rfl⟩, rfl⟩
  · cases found

private theorem formed_of_dated?
    {line : Line}
    {phrase : Phrase}
    (found : dated? line = some phrase) :
    phrase.Formed ∧ phrase.line = line := by
  unfold dated? at found
  split at found
  · next subject keyword day list split someList =>
      simp only [Option.bind_eq_bind, Option.bind_eq_some_iff,
        Option.pure_def, Option.some.injEq, Option.guard_eq_some'] at found
      rcases found with ⟨_, keywordFits, _, isNumber, rfl⟩
      obtain ⟨subjectIsAgent, rfl⟩ := line_eq_of_split split someList
      obtain ⟨_, listed, rfl⟩ := Word.isOneOf_iff.mp keywordFits
      obtain rfl := List.mem_singleton.mp listed
      exact ⟨⟨subjectIsAgent, keywordFits, isNumber⟩, rfl⟩
  · cases found

/-- Whatever the shape, a line is recognised as a phrase whose line it is. -/
theorem formed_of_phrase?
    {shape : Shape}
    {line : Line}
    {phrase : Phrase}
    (found : shape.phrase? line = some phrase) :
    phrase.Formed ∧ phrase.line = line := by
  cases shape with
  | bare => exact formed_of_bare? found
  | agreement => exact formed_of_agreement? found
  | disclosure => exact formed_of_disclosure? found
  | report => exact formed_of_report? found
  | action => exact formed_of_action? found
  | addressed => exact formed_of_addressed? found
  | connective => exact formed_of_connective? found
  | dated => exact formed_of_dated? found

/-- The line of a phrase is recognised as that phrase by the shape of the phrase. -/
theorem phrase?_line
    {phrase : Phrase}
    (formed : phrase.Formed) :
    phrase.shape.phrase? phrase.line = some phrase := by
  have split := splitSubject_line formed
  rcases formed with ⟨_, keywordFits, parametersFit⟩
  cases phrase with
  | bare keyword =>
      simp only [shape, Phrase.keyword] at keywordFits
      simp [shape, Shape.phrase?, bare?, line, subject?, Phrase.keyword,
        parameters, list?, keywordFits]
  | agreement subject keyword channel day index =>
      simp only [shape, Phrase.keyword] at keywordFits
      simp only [hasParameters, Bool.and_eq_true] at parametersFit
      obtain ⟨channelFits, dayNumber, indexNumber⟩ := parametersFit
      have dayRead :
          Word.signedNumberAfter? "day".toList
              ('d' :: 'a' :: 'y' :: day) =
            some day :=
        Word.signedNumberAfter?_eq_some_iff.mpr ⟨rfl, dayNumber⟩
      have indexRead :
          Word.signedNumberAfter? "ID:".toList
              ('I' :: 'D' :: ':' :: index) =
            some index :=
        Word.signedNumberAfter?_eq_some_iff.mpr ⟨rfl, indexNumber⟩
      rw [shape, Shape.phrase?, agreement?, split]
      simp only [line, Phrase.keyword, parameters, list?, dayRead,
        indexRead, keywordFits, channelFits]
      rfl
  | disclosure subject keyword target role =>
      simp only [shape, Phrase.keyword] at keywordFits
      simp only [hasParameters, Bool.and_eq_true] at parametersFit
      rw [shape, Shape.phrase?, disclosure?, split]
      simp [line, subject?, Phrase.keyword, parameters, list?, keywordFits,
        parametersFit]
  | report subject keyword target word =>
      simp only [shape, Phrase.keyword] at keywordFits
      simp only [hasParameters, Bool.and_eq_true] at parametersFit
      rw [shape, Shape.phrase?, report?, split]
      simp [line, subject?, Phrase.keyword, parameters, list?, keywordFits,
        parametersFit]
  | action subject keyword target =>
      simp only [shape, Phrase.keyword] at keywordFits
      simp only [hasParameters] at parametersFit
      rw [shape, Shape.phrase?, action?, split]
      simp [line, subject?, Phrase.keyword, parameters, list?, keywordFits,
        parametersFit]
  | addressed subject keyword target list =>
      simp only [shape, Phrase.keyword] at keywordFits
      simp only [hasParameters] at parametersFit
      rw [shape, Shape.phrase?, addressed?, split]
      simp [line, subject?, Phrase.keyword, parameters, list?, keywordFits,
        parametersFit]
  | connective subject keyword list =>
      simp only [shape, Phrase.keyword] at keywordFits
      rw [shape, Shape.phrase?, connective?, split]
      simp [line, subject?, Phrase.keyword, parameters, list?, keywordFits]
  | dated subject day list =>
      simp only [shape, Phrase.keyword] at keywordFits
      simp only [hasParameters] at parametersFit
      rw [shape, Shape.phrase?, dated?, split]
      simp only [line, Phrase.keyword, parameters, list?, keywordFits,
        parametersFit]
      rfl

/-- One of the keywords of a vocabulary is a word of plain characters. -/
private theorem isPlain_of_isOneOf
    (Term : Type)
    [Vocabulary Term]
    [Vocabulary.Lawful Term]
    {word : Word}
    (isOne : word.isOneOf (Vocabulary.keywords Term) = true) :
    word.IsPlain := by
  obtain ⟨term, rfl⟩ := Word.exists_term_of_isOneOf isOne
  exact Word.isPlain_keyword term

/-- The parameters of a phrase are words of plain characters. -/
private theorem isPlain_of_mem_parameters
    {phrase : Phrase}
    (fit : phrase.hasParameters = true)
    {word : Word}
    (member : word ∈ phrase.parameters) :
    word.IsPlain := by
  cases phrase with
  | bare keyword =>
      simp [parameters] at member
  | agreement subject keyword channel day index =>
      simp only [hasParameters, Bool.and_eq_true] at fit
      simp only [parameters, List.mem_cons, List.not_mem_nil,
        or_false] at member
      rcases member with rfl | rfl | rfl
      · exact isPlain_of_isOneOf Channel fit.1
      · have plain := Word.isPlain_of_isSignedNumber fit.2.1
        exact ((plain.cons (by decide)).cons (by decide)).cons (by decide)
      · have plain := Word.isPlain_of_isSignedNumber fit.2.2
        exact ((plain.cons (by decide)).cons (by decide)).cons (by decide)
  | disclosure subject keyword target role =>
      simp only [hasParameters, Bool.and_eq_true] at fit
      simp only [parameters, List.mem_cons, List.not_mem_nil,
        or_false] at member
      rcases member with rfl | rfl
      · exact Word.isPlain_of_isAgent fit.1
      · exact isPlain_of_isOneOf Role fit.2
  | report subject keyword target word =>
      simp only [hasParameters, Bool.and_eq_true] at fit
      simp only [parameters, List.mem_cons, List.not_mem_nil,
        or_false] at member
      rcases member with rfl | rfl
      · exact Word.isPlain_of_isAgent fit.1
      · exact isPlain_of_isOneOf Species fit.2
  | action subject keyword target =>
      rw [parameters, List.mem_singleton] at member
      subst word
      exact Word.isPlain_of_isAgent fit
  | addressed subject keyword target list =>
      rw [parameters, List.mem_singleton] at member
      subst word
      exact Word.isPlain_of_isAgent fit
  | connective subject keyword list =>
      simp [parameters] at member
  | dated subject day list =>
      rw [parameters, List.mem_singleton] at member
      subst word
      exact Word.isPlain_of_isNumber fit

/-- The keyword of a phrase is a word of plain characters. -/
theorem Formed.isPlain_keyword
    {phrase : Phrase}
    (formed : phrase.Formed) :
    phrase.keyword.IsPlain := by
  rcases topic_or_operator_of_isOneOf phrase.shape formed.keywordFits with
      ⟨topic, isWord⟩ | ⟨operator, isWord⟩
  · rw [isWord]
    exact Word.isPlain_keyword topic
  · rw [isWord]
    exact Word.isPlain_keyword operator

/-- All words of the line of a phrase are words of plain characters. -/
theorem Formed.isPlain
    {phrase : Phrase}
    (formed : phrase.Formed)
    {word : Word}
    (member : word ∈ phrase.line.words) :
    word.IsPlain := by
  simp only [line, List.mem_append, Option.mem_toList,
    List.mem_cons] at member
  rcases member with isSubject | rfl | isParameter
  · exact Word.isPlain_of_isAgent
      (formed.subjectIsAgent word isSubject)
  · exact formed.isPlain_keyword
  · exact isPlain_of_mem_parameters formed.parametersFit isParameter

/--
In front of the clause list of a phrase stands no parenthesis, and any other list that is
enclosed can stand behind the same front.
-/
theorem Formed.exists_front
    {phrase : Phrase}
    {text list : List Char}
    (formed : phrase.Formed)
    (laid : Line.Laid phrase.line text)
    (listed : phrase.list? = some list) :
    ∃ front rest,
      text = front ++ list ∧
        list = '(' :: rest ∧
          Line.isEnclosed list = true ∧
            (∀ character ∈ front, character ≠ '(' ∧ character ≠ ')') ∧
              ∀ other,
                Line.isEnclosed ('(' :: other) = true →
                Line.Laid ⟨phrase.line.words, some ('(' :: other)⟩
                  (front ++ '(' :: other) := by
  have areWords :
      ∀ word ∈ phrase.line.words, Line.IsFrontWord word :=
    fun word member => .of_isPlain (formed.isPlain member)
  rw [line, listed] at laid
  cases laid with
  | @listed _ front gap _ spaced _ isGap opens enclosed =>
      obtain ⟨rest, rfl⟩ := List.head?_eq_some_iff.mp opens
      refine ⟨front ++ gap, rest, rfl, rfl, enclosed, ?_, ?_⟩
      · intro character member
        rcases List.mem_append.mp member with inFront | inGap
        · refine spaced.forall_mem ?_
            (fun _ => Text.ne_parenthesis_of_isBlank) character inFront
          intro word wordMember character inWord
          exact Text.ne_parenthesis_of_isPlain
            ((formed.isPlain wordMember).2 character inWord)
        · exact Text.ne_parenthesis_of_isBlank (isGap.2 character inGap)
      · intro other otherEnclosed
        exact .listed spaced areWords isGap rfl otherEnclosed

/-- A text makes a phrase exactly if it is cut into the line of that phrase. -/
theorem ofChars?_eq_some_iff
    {text : List Char}
    {phrase : Phrase} :
    ofChars? text = some phrase ↔
      phrase.Formed ∧ Line.Laid phrase.line text := by
  have someWord : ∀ other : Phrase, other.line.words ≠ [] := by
    intro other
    simp [line]
  constructor
  · intro found
    obtain ⟨cut, lineFound, phraseFound⟩ :=
      Option.bind_eq_some_iff.mp found
    obtain ⟨shape, _, shapeFound⟩ :=
      List.exists_of_findSome?_eq_some phraseFound
    obtain ⟨formed, rfl⟩ := formed_of_phrase? shapeFound
    exact ⟨formed,
      (Line.ofChars?_eq_some_iff (someWord phrase)).mp lineFound⟩
  · rintro ⟨formed, laid⟩
    rw [ofChars?, laid.ofChars?_eq_some, Option.bind_some]
    have inOrder := Shape.mem_order phrase.shape
    cases tried :
        Shape.order.findSome? fun shape => shape.phrase? phrase.line with
    | none =>
        have missed := List.findSome?_eq_none_iff.mp tried _ inOrder
        rw [phrase?_line formed] at missed
        cases missed
    | some other =>
        obtain ⟨shape, _, shapeFound⟩ :=
          List.exists_of_findSome?_eq_some tried
        obtain ⟨otherFormed, sameLine⟩ := formed_of_phrase? shapeFound
        rw [line_injective otherFormed formed sameLine]

/--
The keywords of a phrase are those of terms, and the term is one that takes what the phrase
has behind the keyword.
-/
inductive Named : Phrase → Prop where
  | bare
      (kind : Silence) :
      Named (.bare (Vocabulary.word kind.topic))
  | agreement
      {subject : Option Word}
      {day index : Word}
      (kind : Stance)
      (channel : Channel) :
      Named
        (.agreement subject (Vocabulary.word kind.topic)
          (Vocabulary.word channel) day index)
  | disclosure
      {subject : Option Word}
      {target : Word}
      (kind : Disclosure)
      (role : Role) :
      Named
        (.disclosure subject (Vocabulary.word kind.topic) target
          (Vocabulary.word role))
  | report
      {subject : Option Word}
      {target : Word}
      (kind : Finding)
      (species : Species) :
      Named
        (.report subject (Vocabulary.word kind.topic) target
          (Vocabulary.word species))
  | action
      {subject : Option Word}
      {target : Word}
      (kind : Deed) :
      Named (.action subject (Vocabulary.word kind.topic) target)
  | addressed
      {subject : Option Word}
      {target : Word}
      {list : List Char}
      (operator : Operator)
      (addresses : operator ∈ [.request, .inquire]) :
      Named (.addressed subject (Vocabulary.word operator) target list)
  | connective
      {subject : Option Word}
      {list : List Char}
      (operator : Operator)
      (connects :
        operator ∈ [.because, .and, .or, .xor, .not, .request]) :
      Named (.connective subject (Vocabulary.word operator) list)
  | dated
      {subject : Option Word}
      {day : Word}
      {list : List Char} :
      Named (.dated subject day list)

/-- The keywords that the shapes accept are those of terms. -/
theorem Formed.named
    {phrase : Phrase}
    (formed : phrase.Formed) :
    phrase.Named := by
  rcases formed with ⟨_, keywordFits, parametersFit⟩
  cases phrase with
  | bare keyword =>
      obtain ⟨kind, _, rfl⟩ :=
        Word.exists_of_isOneOf Silence.topic [.skip, .over] keywordFits
      exact .bare kind
  | agreement subject keyword channelWord day index =>
      rw [hasParameters, Bool.and_eq_true] at parametersFit
      obtain ⟨kind, _, rfl⟩ :=
        Word.exists_of_isOneOf Stance.topic [.agree, .disagree] keywordFits
      obtain ⟨channel, rfl⟩ : ∃ channel : Channel, channelWord = _ :=
        Word.exists_term_of_isOneOf parametersFit.1
      exact .agreement kind channel
  | disclosure subject keyword target roleWord =>
      rw [hasParameters, Bool.and_eq_true] at parametersFit
      obtain ⟨kind, _, rfl⟩ :=
        Word.exists_of_isOneOf Disclosure.topic [.estimate, .comingOut]
          keywordFits
      obtain ⟨role, rfl⟩ : ∃ role : Role, roleWord = _ :=
        Word.exists_term_of_isOneOf parametersFit.2
      exact .disclosure kind role
  | report subject keyword target speciesWord =>
      rw [hasParameters, Bool.and_eq_true] at parametersFit
      obtain ⟨kind, _, rfl⟩ :=
        Word.exists_of_isOneOf Finding.topic [.divined, .identified]
          keywordFits
      obtain ⟨species, rfl⟩ : ∃ species : Species, speciesWord = _ :=
        Word.exists_term_of_isOneOf parametersFit.2
      exact .report kind species
  | action subject keyword target =>
      obtain ⟨kind, _, rfl⟩ :=
        Word.exists_of_isOneOf Deed.topic
          [.attacked, .attack, .divination, .guarded, .guard, .voted, .vote]
          keywordFits
      exact .action kind
  | addressed subject keyword target list =>
      obtain ⟨operator, addresses, rfl⟩ :=
        Word.exists_of_isOneOf (fun operator : Operator => operator)
          [.request, .inquire] keywordFits
      exact .addressed operator addresses
  | connective subject keyword list =>
      obtain ⟨operator, connects, rfl⟩ :=
        Word.exists_of_isOneOf (fun operator : Operator => operator)
          [.because, .and, .or, .xor, .not, .request] keywordFits
      exact .connective operator connects
  | dated subject day list =>
      exact .dated

/-- The keywords of such terms are accepted by the shape of the phrase. -/
theorem Named.keywordFits
    {phrase : Phrase}
    (named : phrase.Named) :
    phrase.keyword.isOneOf phrase.shape.keywords = true := by
  cases named with
  | bare kind => cases kind <;> rfl
  | agreement kind channel => cases kind <;> rfl
  | disclosure kind role => cases kind <;> rfl
  | report kind species => cases kind <;> rfl
  | action kind => cases kind <;> rfl
  | addressed operator addresses =>
      exact Word.isOneOf_iff.mpr
        ⟨_, List.mem_map_of_mem addresses, rfl⟩
  | connective operator connects =>
      exact Word.isOneOf_iff.mpr
        ⟨_, List.mem_map_of_mem connects, rfl⟩
  | dated => rfl

end Phrase

end WerewolfSpeech
