import WerewolfSpeech.Line.Subject
import WerewolfSpeech.Proofs.Line.Reference

namespace WerewolfSpeech.Line

/-!
# Cutting off a subject

A statement is a text on one line that begins with a capital and not with a reference to
an agent. Cutting off the subject leaves a statement alone, and it takes every reference
off that stands in front of one, with or without blanks in between.
-/

/--
A text on one line that begins with a capital, which is no blank, but not with a reference
to an agent.
-/
structure IsStatement (text : List Char) : Prop where
  beginsWithCapital :
    ∃ first rest,
      text = first :: rest ∧
        Text.isUppercaseLetter first = true ∧ Text.isBlank first = false
  oneLine : '\n' ∉ text
  noReference : afterAgent? text = none

private theorem afterAgent?_append
    {reference : Word}
    (isAgent : reference.isAgent = true)
    (rest : List Char) :
    afterAgent? (reference ++ rest) = some rest := by
  rcases Word.isAgent_iff.mp isAgent with rfl | ⟨digits, rfl, number⟩
  · rw [afterAgent?, Text.after?_eq_some_iff.mpr rfl]
  · have notAnyone :
        Text.after? "ANY".toList (Agent.bracketed digits ++ rest) =
          none := by
      rfl
    have opened :
        Text.after? "Agent[".toList (Agent.bracketed digits ++ rest) =
          some (digits ++ ']' :: rest) := by
      rw [Text.after?_eq_some_iff, Agent.opening_chars]
      simp [Agent.bracketed]
    have someDigit : digits.isEmpty = false := by
      simpa using (Word.isNumber_iff.mp number).1
    rw [afterAgent?, notAnyone, opened]
    simp only [takeWhile_digits_closing number,
      dropWhile_digits_closing number, someDigit]
    rfl

namespace IsStatement

variable {text : List Char}

private theorem statement?_append
    (statement : IsStatement text)
    {gap : List Char}
    (blanks : ∀ character ∈ gap, Text.isBlank character = true) :
    statement? (gap ++ text) = some text := by
  obtain ⟨first, rest, rfl, capital, notBlank⟩ :=
    statement.beginsWithCapital
  have trimmed : Text.trimLeft (gap ++ first :: rest) = first :: rest := by
    rw [Text.trimLeft, List.dropWhile_append_of_pos blanks,
      List.dropWhile_cons_of_neg (by simp [notBlank])]
  have oneLine : (first :: rest).contains '\n' = false := by
    rw [List.contains_eq_mem, decide_eq_false statement.oneLine]
  rw [statement?, trimmed, List.head?_cons, Option.any_some, capital, oneLine]
  rfl

/-- A statement has no subject to be cut off. -/
theorem withoutSubject_eq
    (statement : IsStatement text) :
    withoutSubject text = text := by
  have noBlanks :
      ∀ character ∈ ([] : List Char), Text.isBlank character = true := by
    simp
  have found : statement? text = some text :=
    statement.statement?_append noBlanks
  rw [withoutSubject, statement.noReference, Option.bind_none, found]
  rfl

/-- A reference in front of a statement is cut off with the blanks behind it. -/
theorem withoutSubject_append
    (statement : IsStatement text)
    {reference : Word}
    {gap : List Char}
    (isAgent : reference.isAgent = true)
    (blanks : ∀ character ∈ gap, Text.isBlank character = true) :
    withoutSubject (reference ++ (gap ++ text)) = text := by
  rw [withoutSubject, afterAgent?_append isAgent, Option.bind_some,
    statement.statement?_append blanks]

end IsStatement

/-- A word that begins with a capital, and with which no text begins with a reference. -/
structure OpensStatement (word : Word) : Prop where
  beginsWithCapital :
    ∃ first rest,
      word = first :: rest ∧
        Text.isUppercaseLetter first = true ∧ Text.isBlank first = false
  noReference : ∀ rest, afterAgent? (word ++ rest) = none

/-- A text on one line is a statement if the first word opens one. -/
theorem OpensStatement.isStatement
    {word : Word}
    {rest : List Char}
    (opens : OpensStatement word)
    (oneLine : '\n' ∉ word ++ rest) :
    IsStatement (word ++ rest) where
  beginsWithCapital := by
    obtain ⟨first, others, rfl, capital⟩ := opens.beginsWithCapital
    exact ⟨first, others ++ rest, rfl, capital⟩
  oneLine := oneLine
  noReference := opens.noReference rest

/-- Every topic opens a statement, also those that begin with the first letter of a reference. -/
theorem opensStatement_topic
    (topic : Topic) :
    OpensStatement (Vocabulary.word topic) where
  beginsWithCapital := by
    cases topic <;> exact ⟨_, _, rfl, by decide +kernel, by decide⟩
  noReference := by
    intro rest
    cases topic <;> rfl

/-- Every operator opens a statement, the conjunction among them. -/
theorem opensStatement_operator
    (operator : Operator) :
    OpensStatement (Vocabulary.word operator) where
  beginsWithCapital := by
    cases operator <;> exact ⟨_, _, rfl, by decide +kernel, by decide⟩
  noReference := by
    intro rest
    cases operator <;> rfl

end WerewolfSpeech.Line
