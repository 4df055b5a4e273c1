import WerewolfSpeech.Vocabulary.Attribute
import WerewolfSpeech.Vocabulary.Operator
import WerewolfSpeech.Vocabulary.Topic
import WerewolfSpeech.Proofs.Text.Blank

namespace WerewolfSpeech

/-!
# Keywords are looked up exactly

A vocabulary is lawful if every term is found by its own keyword and keywords are made of
plain characters. A lookup in any vocabulary finds a term by that keyword alone, so in a
lawful one lookup and keyword are inverse to each other. All vocabularies of the grammar
are lawful.
-/

/-- A vocabulary with distinct keywords that can stand as words of a line. -/
class Vocabulary.Lawful (Term : Type) [Vocabulary Term] : Prop where
  /-- A term is found by its keyword, which is a word of plain characters. -/
  lawful :
    ∀ term : Term,
      Vocabulary.find? (Vocabulary.word term) = some term ∧
        Vocabulary.word term ≠ [] ∧
          (Vocabulary.word term).all Text.isPlain = true

namespace Vocabulary

variable {Term : Type} [Vocabulary Term] [Lawful Term]

/-- A term is found by its keyword. -/
theorem find?_word
    (term : Term) :
    find? (word term) = some term :=
  (Lawful.lawful term).1

/-- A keyword is not empty. -/
theorem word_ne_nil
    (term : Term) :
    word term ≠ [] :=
  (Lawful.lawful term).2.1

/-- A keyword has neither blanks nor parentheses. -/
theorem isPlain_of_mem_word
    {term : Term}
    {character : Char}
    (member : character ∈ word term) :
    Text.isPlain character = true :=
  List.all_eq_true.mp (Lawful.lawful term).2.2 character member

/-- A lookup succeeds on the keyword of the term that it finds and on nothing else. -/
theorem find?_eq_some_iff
    {token : Word}
    {term : Term} :
    find? token = some term ↔ token = word term := by
  constructor
  · intro found
    have sameKeyword := List.find?_some found
    exact (beq_iff_eq.mp sameKeyword).symm
  · rintro rfl
    exact find?_word term

/-- Different terms have different keywords. -/
theorem word_inj
    {first second : Term} :
    word first = word second ↔ first = second := by
  constructor
  · intro same
    have found := find?_word first
    rw [same, find?_word second] at found
    exact (Option.some.inj found).symm
  · rintro rfl
    rfl

/-- The token of a term is the keyword of the term. -/
theorem ofToken_word
    (term : Term) :
    ofToken (String.ofList (word term)) = .ok term := by
  rw [ofToken, String.toList_ofList, find?_word]

instance : Lawful Role :=
  ⟨fun term => by cases term <;> decide⟩

instance : Lawful Species :=
  ⟨fun term => by cases term <;> decide⟩

instance : Lawful Channel :=
  ⟨fun term => by cases term <;> decide⟩

instance : Lawful Topic :=
  ⟨fun term => by cases term <;> decide⟩

instance : Lawful Operator :=
  ⟨fun term => by cases term <;> decide⟩

end Vocabulary

end WerewolfSpeech
