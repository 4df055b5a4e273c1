import WerewolfSpeech.Agent
import WerewolfSpeech.Proofs.Text.Numeral

namespace WerewolfSpeech.Agent

/-!
# Reading and writing agents

The readers of labels accept three forms: the two words for the stand-ins, and ASCII
digits in the brackets of an agent whose value is an admissible index. The word of every
agent with an admissible index is among them and is read as that agent.
-/

/-- Whether the index of an agent is one that readers of labels accept. -/
def Admissible
    (agent : Agent) :
    Prop :=
  agent.index.toNat ≤ anyoneIndex

/-- An unspecified agent is admissible. -/
theorem admissible_unspecified :
    unspecified.Admissible := by
  unfold Admissible
  decide

/-- Anyone is admissible. -/
theorem admissible_anyone :
    anyone.Admissible := by
  unfold Admissible
  decide

/-- The word that has given characters in the brackets of an agent. -/
def bracketed
    (inner : List Char) :
    List Char :=
  'A' :: 'g' :: 'e' :: 'n' :: 't' :: '[' :: (inner ++ [']'])

/-- The word that opens the brackets of an agent. -/
theorem opening_chars :
    "Agent[".toList = ['A', 'g', 'e', 'n', 't', '['] := by
  decide

/-- Brackets are taken off exactly where they have been put on. -/
theorem bracketed?_eq_some_iff
    {word inner : List Char} :
    bracketed? word = some inner ↔ word = bracketed inner := by
  constructor
  · intro found
    unfold bracketed? at found
    split at found
    · next rest =>
        split at found
        · next closes =>
            cases found
            obtain ⟨inside, rfl⟩ := List.getLast?_eq_some_iff.mp closes
            rw [List.dropLast_concat, bracketed]
        · cases found
    · cases found
  · rintro rfl
    rw [bracketed, bracketed?, List.getLast?_concat, if_pos rfl,
      List.dropLast_concat]

/-- A word with brackets is not the word for anyone. -/
theorem bracketed_ne_anyone
    (inner : List Char) :
    bracketed inner ≠ "ANY".toList := by
  intro same
  have second : (bracketed inner)[1]? = some 'g' := rfl
  rw [same] at second
  exact absurd second (by decide)

/-- A word with brackets is not the word for an unspecified agent. -/
theorem bracketed_ne_unspecified
    (inner : List Char) :
    bracketed inner ≠ "NONE".toList := by
  intro same
  have second : (bracketed inner)[1]? = some 'g' := rfl
  rw [same] at second
  exact absurd second (by decide)

/-- Digits in brackets are judged by their value. -/
theorem ofWord_bracketed
    {digits : List Char}
    (isDigits : Numeral.IsDigits digits) :
    ofWord (bracketed digits) =
      if Nat.ofDigitChars 10 digits 0 ≤ largestNumeral then
        ofNat (Nat.ofDigitChars 10 digits 0)
      else
        .error (.invalidLabel (String.ofList (bracketed digits))) := by
  have inner : bracketed? (bracketed digits) = some digits :=
    bracketed?_eq_some_iff.mpr rfl
  have value :
      Numeral.ofDigits? digits =
        some (Nat.ofDigitChars 10 digits 0) :=
    Numeral.ofDigits?_eq_some_iff.mpr ⟨isDigits, rfl⟩
  rw [ofWord, if_neg (bracketed_ne_anyone digits),
    if_neg (bracketed_ne_unspecified digits), inner, Option.bind_some,
    value]

/-- The words that are read as an agent, and the agent that each is read as. -/
theorem ofWord_eq_ok
    {word : List Char}
    {agent : Agent} :
    ofWord word = .ok agent ↔
      word = "ANY".toList ∧ agent = anyone ∨
        word = "NONE".toList ∧ agent = unspecified ∨
          ∃ digits,
            word = bracketed digits ∧
              Numeral.IsDigits digits ∧
                Nat.ofDigitChars 10 digits 0 ≤ anyoneIndex ∧
                  agent =
                    ⟨UInt32.ofNat (Nat.ofDigitChars 10 digits 0)⟩ := by
  constructor
  · intro succeeds
    by_cases isAnyone : word = "ANY".toList
    · left
      rw [ofWord, if_pos isAnyone] at succeeds
      exact ⟨isAnyone, (Except.ok.inj succeeds).symm⟩
    · by_cases isUnspecified : word = "NONE".toList
      · right; left
        rw [ofWord, if_neg isAnyone, if_pos isUnspecified] at succeeds
        exact ⟨isUnspecified, (Except.ok.inj succeeds).symm⟩
      · right; right
        rw [ofWord, if_neg isAnyone, if_neg isUnspecified] at succeeds
        cases found : (bracketed? word).bind Numeral.ofDigits? with
        | none =>
            rw [found] at succeeds
            cases succeeds
        | some value =>
            obtain ⟨digits, inBrackets, valued⟩ :=
              Option.bind_eq_some_iff.mp found
            obtain ⟨isDigits, rfl⟩ :=
              Numeral.ofDigits?_eq_some_iff.mp valued
            simp only [found] at succeeds
            split at succeeds
            · unfold ofNat at succeeds
              split at succeeds
              · next small =>
                  exact ⟨digits, bracketed?_eq_some_iff.mp inBrackets,
                    isDigits, small, (Except.ok.inj succeeds).symm⟩
              · cases succeeds
            · cases succeeds
  · rintro (⟨rfl, rfl⟩ | ⟨rfl, rfl⟩ | ⟨digits, rfl, isDigits, small, rfl⟩)
    · rfl
    · rfl
    · have fits :
          Nat.ofDigitChars 10 digits 0 ≤ largestNumeral :=
        Nat.le_trans small (by decide)
      rw [ofWord_bracketed isDigits, if_pos fits, ofNat, if_pos small]

/-- Every agent that a word is read as has an admissible index. -/
theorem admissible_of_ofWord
    {word : List Char}
    {agent : Agent}
    (succeeds : ofWord word = .ok agent) :
    agent.Admissible := by
  rcases ofWord_eq_ok.mp succeeds with
      ⟨_, rfl⟩ | ⟨_, rfl⟩ | ⟨digits, _, _, small, rfl⟩
  · exact admissible_anyone
  · exact admissible_unspecified
  · unfold Admissible
    rw [UInt32.toNat_ofNat_of_lt']
    · exact small
    · exact Nat.lt_of_le_of_lt small (by decide)

/-- The word of a participant has its index in brackets, with two digits at least. -/
theorem word_of_concrete
    {agent : Agent}
    (specified : agent ≠ unspecified)
    (notAnyone : agent ≠ anyone) :
    agent.word = bracketed (Numeral.padded 2 agent.index.toNat) := by
  rw [word, if_neg specified, if_neg notAnyone, opening_chars,
    bracketed]
  rfl

/-- The word of an agent with an admissible index is read as that agent. -/
theorem ofWord_word
    {agent : Agent}
    (admissible : agent.Admissible) :
    ofWord agent.word = .ok agent := by
  by_cases isUnspecified : agent = unspecified
  · subst agent
    rfl
  · by_cases isAnyone : agent = anyone
    · subst agent
      rfl
    · have isDigits :=
        Numeral.isDigits_padded 2 agent.index.toNat
      have value :
          Nat.ofDigitChars 10 (Numeral.padded 2 agent.index.toNat) 0 =
            agent.index.toNat :=
        (Numeral.ofDigits?_eq_some_iff.mp
          (Numeral.ofDigits?_padded 2 agent.index.toNat)).2
      refine ofWord_eq_ok.mpr (Or.inr (Or.inr ⟨_,
        word_of_concrete isUnspecified isAnyone, isDigits, ?_, ?_⟩))
      · rw [value]
        exact admissible
      · rw [value, UInt32.ofNat_toNat]

/-- Brackets do not hide what is in them. -/
theorem bracketed_inj
    {first second : List Char} :
    bracketed first = bracketed second ↔ first = second := by
  constructor
  · intro same
    have inner := bracketed?_eq_some_iff.mpr (Eq.refl (bracketed first))
    rw [same, bracketed?_eq_some_iff.mpr rfl] at inner
    exact (Option.some.inj inner).symm
  · rintro rfl
    rfl

/-- An agent has a word of its own, or its index stands in brackets. -/
theorem word_cases
    (agent : Agent) :
    agent = unspecified ∨
      agent = anyone ∨
        agent.word = bracketed (Numeral.padded 2 agent.index.toNat) := by
  by_cases isUnspecified : agent = unspecified
  · exact Or.inl isUnspecified
  · by_cases isAnyone : agent = anyone
    · exact Or.inr (Or.inl isAnyone)
    · exact Or.inr (Or.inr (word_of_concrete isUnspecified isAnyone))

/-- Different agents have different words, whatever their indices are. -/
theorem word_inj
    {first second : Agent} :
    first.word = second.word ↔ first = second := by
  constructor
  · intro same
    rcases word_cases first with rfl | rfl | firstWord <;>
      rcases word_cases second with rfl | rfl | secondWord
    · rfl
    · cases same
    · exact absurd (same.trans secondWord).symm (bracketed_ne_unspecified _)
    · cases same
    · rfl
    · exact absurd (same.trans secondWord).symm (bracketed_ne_anyone _)
    · exact absurd (firstWord.symm.trans same) (bracketed_ne_unspecified _)
    · exact absurd (firstWord.symm.trans same) (bracketed_ne_anyone _)
    · rw [firstWord, secondWord, bracketed_inj] at same
      have sameIndex := Numeral.ofDigits?_padded 2 first.index.toNat
      rw [same, Numeral.ofDigits?_padded, Option.some.injEq,
        UInt32.toNat_inj] at sameIndex
      cases first
      cases second
      exact congrArg mk sameIndex.symm
  · rintro rfl
    rfl

end WerewolfSpeech.Agent
