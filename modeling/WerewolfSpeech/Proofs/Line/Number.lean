import WerewolfSpeech.Proofs.Line.Word

namespace WerewolfSpeech.Word

/-!
# Numbers that cannot be used

The form of a number admits the digits of every script and any length. Such a number has no
value if one of its digits is not an ASCII digit, and the value may lie beyond what fits an
index or 32 bits. These are the only reasons for which a number is refused later.
-/

/-- A number with a digit of another script, or one whose value lies beyond a bound. -/
structure Exceeds (bound : Nat) (word : Word) : Prop where
  isNumber : word.isNumber = true
  beyond :
    (∃ character ∈ word, character.isDigit = false) ∨
      Numeral.IsDigits word ∧ bound < Nat.ofDigitChars 10 word 0

/-- A number, perhaps behind a minus sign, that is not one of 32 bits with a sign. -/
def ExceedsInt32
    (word : Word) :
    Prop :=
  Exceeds 2147483647 word ∨
    ∃ digits, word = '-' :: digits ∧ Exceeds 2147483648 digits

/-- A number that is not made of ASCII digits with a value up to the bound exceeds it. -/
private theorem exceeds_of_refused
    {bound : Nat}
    {word : Word}
    (number : isNumber word = true)
    (refused :
      Numeral.IsDigits word → ¬ Nat.ofDigitChars 10 word 0 ≤ bound) :
    Exceeds bound word := by
  refine ⟨number, ?_⟩
  by_cases foreign : ∃ character ∈ word, character.isDigit = false
  · exact Or.inl foreign
  · have isDigits : Numeral.IsDigits word :=
      ⟨(isNumber_iff.mp number).1, by simpa using foreign⟩
    exact Or.inr ⟨isDigits, Nat.lt_of_not_le (refused isDigits)⟩

/-- A number that is no natural number of 32 bits exceeds the largest one. -/
theorem exceeds_of_toUInt32?
    {word : Word}
    (number : isNumber word = true)
    (refused : Numeral.toUInt32? word = none) :
    Exceeds 4294967295 word := by
  refine exceeds_of_refused number fun isDigits small => ?_
  have read :
      Numeral.toUInt32? word =
        some (UInt32.ofNat (Nat.ofDigitChars 10 word 0)) :=
    Numeral.toUInt32?_eq_some_iff.mpr
      ⟨_, Numeral.ofDigits?_eq_some_iff.mpr ⟨isDigits, rfl⟩,
        Nat.lt_succ_of_le small, rfl⟩
  rw [refused] at read
  cases read

/-- A signed number that is no integer of 32 bits exceeds those. -/
theorem exceedsInt32_of_toInt32?
    {word : Word}
    (number : isSignedNumber word = true)
    (refused : Numeral.toInt32? word = none) :
    ExceedsInt32 word := by
  have unread :
      ∀ value : Int,
        Numeral.ofSigned? word = some value →
        Numeral.fitsInt32 value = true → False := by
    intro value valued fits
    have read :=
      Numeral.toInt32?_eq_some_iff.mpr ⟨value, valued, fits, rfl⟩
    rw [refused] at read
    cases read
  rcases isSignedNumber_iff.mp number with
      unsigned | ⟨digits, rfl, digitsNumber⟩
  · refine Or.inl (exceeds_of_refused unsigned fun isDigits small => ?_)
    refine unread _
      (Numeral.ofSigned?_eq_some_iff.mpr (Or.inl ⟨isDigits, rfl⟩)) ?_
    simp only [Numeral.fitsInt32, Bool.and_eq_true, decide_eq_true_eq]
    omega
  · refine Or.inr ⟨digits, rfl,
      exceeds_of_refused digitsNumber fun isDigits small => ?_⟩
    refine unread _
      (Numeral.ofSigned?_eq_some_iff.mpr
        (Or.inr ⟨digits, rfl, isDigits, rfl⟩)) ?_
    simp only [Numeral.fitsInt32, Bool.and_eq_true, decide_eq_true_eq]
    omega

/-- A reference to an agent is refused because its number exceeds the largest index. -/
theorem exceeds_of_ofWord_error
    {word : Word}
    {failure : AgentError}
    (reference : isAgent word = true)
    (fails : Agent.ofWord word = .error failure) :
    ∃ digits,
      word = Agent.bracketed digits ∧ Exceeds 2147483647 digits := by
  rcases isAgent_iff.mp reference with rfl | ⟨digits, rfl, number⟩
  · cases fails
  · refine ⟨digits, rfl,
      exceeds_of_refused number fun isDigits small => ?_⟩
    have succeeds :=
      Agent.ofWord_eq_ok.mpr
        (Or.inr (Or.inr ⟨digits, rfl, isDigits, small, rfl⟩))
    rw [fails] at succeeds
    cases succeeds

end WerewolfSpeech.Word
