import WerewolfSpeech.Proofs.Agent
import WerewolfSpeech.Proofs.Vocabulary

namespace WerewolfSpeech

/-!
# The forms of words

What the tests on the form of a word accept, in terms of what the word is made of. All
the words that a shape has room for are made of plain characters.
-/

namespace Text

/-- A literal is stripped from the front of exactly the texts that begin with it. -/
theorem after?_eq_some_iff
    {literal text rest : List Char} :
    after? literal text = some rest ↔ text = literal ++ rest := by
  induction literal generalizing text with
  | nil =>
      simp [after?]
  | cons expected literal inductionHypothesis =>
      cases text with
      | nil =>
          simp [after?]
      | cons character text =>
          by_cases same : character = expected <;>
            simp [after?, same, inductionHypothesis]

end Text

namespace Word

/-- A word of plain characters. -/
def IsPlain
    (word : Word) :
    Prop :=
  word ≠ [] ∧ ∀ character ∈ word, Text.isPlain character = true

/-- Plain characters in front of a word of plain characters. -/
theorem IsPlain.cons
    {character : Char}
    {word : Word}
    (plainCharacter : Text.isPlain character = true)
    (plain : IsPlain word) :
    IsPlain (character :: word) := by
  refine ⟨by simp, ?_⟩
  intro other member
  rcases List.mem_cons.mp member with isFirst | inWord
  · rw [isFirst]
    exact plainCharacter
  · exact plain.2 other inWord

/-- A word of plain characters holds no line break. -/
theorem IsPlain.newline_not_mem
    {word : Word}
    (plain : IsPlain word) :
    '\n' ∉ word := fun member =>
  absurd (plain.2 _ member) (by decide)

/-- A keyword is a word of plain characters. -/
theorem isPlain_keyword
    {Term : Type}
    [Vocabulary Term]
    [Vocabulary.Lawful Term]
    (term : Term) :
    IsPlain (Vocabulary.word term) :=
  ⟨Vocabulary.word_ne_nil term, fun _ member =>
    Vocabulary.isPlain_of_mem_word member⟩

/-- A number is a non-empty run of decimal digits. -/
theorem isNumber_iff
    {word : Word} :
    isNumber word = true ↔
      word ≠ [] ∧
        ∀ character ∈ word, Text.isDecimalDigit character = true := by
  simp [isNumber]

/-- A number is a word of plain characters. -/
theorem isPlain_of_isNumber
    {word : Word}
    (number : isNumber word = true) :
    IsPlain word := by
  obtain ⟨nonempty, digits⟩ := isNumber_iff.mp number
  exact ⟨nonempty, fun character member =>
    Text.isPlain_of_isDecimalDigit (digits character member)⟩

/-- ASCII digits are a number. -/
theorem isNumber_of_isDigits
    {word : Word}
    (digits : Numeral.IsDigits word) :
    isNumber word = true :=
  isNumber_iff.mpr ⟨digits.1, fun character member =>
    Text.isDecimalDigit_of_isDigit (digits.2 character member)⟩

/-- A signed number is a number or a minus sign in front of one. -/
theorem isSignedNumber_iff
    {word : Word} :
    isSignedNumber word = true ↔
      isNumber word = true ∨
        ∃ digits, word = '-' :: digits ∧ isNumber digits = true := by
  unfold isSignedNumber
  split
  · next digits =>
      constructor
      · intro number
        exact Or.inr ⟨digits, rfl, number⟩
      · rintro (number | ⟨others, same, number⟩)
        · -- A number in any script has no sign among its digits.
          have signIsDigit :=
            (isNumber_iff.mp number).2 '-' List.mem_cons_self
          exact absurd signIsDigit (by decide +kernel)
        · cases same
          exact number
  · next noSign =>
      constructor
      · exact Or.inl
      · rintro (number | ⟨digits, same, _⟩)
        · exact number
        · exact absurd same (noSign digits)

/-- A signed number is a word of plain characters. -/
theorem isPlain_of_isSignedNumber
    {word : Word}
    (number : isSignedNumber word = true) :
    IsPlain word := by
  rcases isSignedNumber_iff.mp number with unsigned | ⟨digits, rfl, digitsNumber⟩
  · exact isPlain_of_isNumber unsigned
  · exact (isPlain_of_isNumber digitsNumber).cons (by decide)

/-- What is written for an integer is a signed number. -/
theorem isSignedNumber_signed
    (value : Int) :
    isSignedNumber (Numeral.signed value) = true := by
  have number :=
    isNumber_of_isDigits (Numeral.isDigits_digits value.natAbs)
  by_cases negative : value < 0
  · rw [Numeral.signed, if_pos negative]
    exact isSignedNumber_iff.mpr (Or.inr ⟨_, rfl, number⟩)
  · rw [Numeral.signed, if_neg negative]
    exact isSignedNumber_iff.mpr (Or.inl number)

/-- A number behind a literal is found exactly behind that literal. -/
theorem signedNumberAfter?_eq_some_iff
    {literal word number : Word} :
    signedNumberAfter? literal word = some number ↔
      word = literal ++ number ∧ isSignedNumber number = true := by
  rw [signedNumberAfter?, Option.filter_eq_some_iff,
    Text.after?_eq_some_iff]

/-- A reference is the word for anyone or a number in the brackets of an agent. -/
theorem isAgent_iff
    {word : Word} :
    isAgent word = true ↔
      word = "ANY".toList ∨
        ∃ digits,
          word = Agent.bracketed digits ∧ isNumber digits = true := by
  have opens :
      ∀ rest,
        Text.after? "Agent[".toList word = some rest ↔
          word = 'A' :: 'g' :: 'e' :: 'n' :: 't' :: '[' :: rest := by
    intro rest
    rw [Text.after?_eq_some_iff, Agent.opening_chars]
    rfl
  unfold isAgent
  rw [Bool.or_eq_true, beq_iff_eq]
  apply or_congr_right
  cases found : Text.after? "Agent[".toList word with
  | none =>
      constructor
      · intro accepted
        cases accepted
      · rintro ⟨digits, shape, _⟩
        rw [(opens _).mpr shape] at found
        cases found
  | some rest =>
      rw [Bool.and_eq_true, beq_iff_eq]
      have shape := (opens rest).mp found
      constructor
      · rintro ⟨closes, number⟩
        obtain ⟨digits, rfl⟩ := List.getLast?_eq_some_iff.mp closes
        rw [List.dropLast_concat] at number
        exact ⟨digits, shape, number⟩
      · rintro ⟨digits, inBrackets, number⟩
        rw [(opens _).mpr inBrackets] at found
        cases found
        rw [List.getLast?_concat, List.dropLast_concat]
        exact ⟨rfl, number⟩

/-- A reference to an agent is a word of plain characters. -/
theorem isPlain_of_isAgent
    {word : Word}
    (reference : isAgent word = true) :
    IsPlain word := by
  rcases isAgent_iff.mp reference with rfl | ⟨digits, rfl, number⟩
  · exact ⟨by decide, List.all_eq_true.mp (by decide)⟩
  · refine ⟨by simp [Agent.bracketed], ?_⟩
    intro character member
    have place :
        character ∈ ['A', 'g', 'e', 'n', 't', '[', ']'] ∨
          character ∈ digits := by
      simp only [Agent.bracketed, List.mem_cons, List.mem_append] at member ⊢
      grind
    rcases place with inBrackets | inDigits
    · have bracketsPlain :
          ['A', 'g', 'e', 'n', 't', '[', ']'].all Text.isPlain = true := by
        decide
      exact List.all_eq_true.mp bracketsPlain character inBrackets
    · exact (isPlain_of_isNumber number).2 character inDigits

/-- The word of a specified agent is a reference to an agent. -/
theorem isAgent_word
    {agent : Agent}
    (specified : agent ≠ .unspecified) :
    isAgent agent.word = true := by
  by_cases isAnyone : agent = .anyone
  · subst agent
    decide
  · rw [Agent.word_of_concrete specified isAnyone]
    exact isAgent_iff.mpr (Or.inr ⟨_, rfl,
      isNumber_of_isDigits (Numeral.isDigits_padded 2 _)⟩)

end Word

end WerewolfSpeech
