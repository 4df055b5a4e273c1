import Mathlib.Data.List.Induction
import WerewolfSpeech.Proofs.Text.Numeral

namespace WerewolfSpeech.Numeral

/-!
# Decimal notation

A numeral is a run of digits of which the last counts ones and those in front of it count
tens. Readers of digits run through the text from the left; here their result is related to
the notation itself, so that statements on numbers in a text need not mention a reader.
-/

/-- The number that a run of ASCII digits denotes. -/
inductive Denotes : List Char → Nat → Prop where
  | digit
      {ones : Nat}
      (isDigit : ones < 10) :
      Denotes [Nat.digitChar ones] ones
  | more
      {front : List Char}
      {tens ones : Nat}
      (frontDenotes : Denotes front tens)
      (isDigit : ones < 10) :
      Denotes (front ++ [Nat.digitChar ones]) (10 * tens + ones)

/-- The ASCII digits are the characters of the numbers below ten. -/
private theorem exists_digitChar
    {character : Char}
    (isDigit : character.isDigit = true) :
    ∃ ones, ones < 10 ∧ character = Nat.digitChar ones := by
  obtain ⟨lower, upper⟩ := Char.isDigit_iff_toNat.mp isDigit
  have lowerCode : 48 ≤ character.toNat := lower
  have upperCode : character.toNat ≤ 57 := upper
  have isSmall : character.toNat - 48 < 10 := by omega
  refine ⟨character.toNat - 48, isSmall, ?_⟩
  have sameCode :
      character.toNat = (Nat.digitChar (character.toNat - 48)).toNat := by
    rw [Nat.toNat_digitChar_of_lt_ten isSmall]
    omega
  exact Char.toNat_inj.mp sameCode

/-- One more digit makes tens of what stood in front of it. -/
private theorem ofDigitChars_concat
    (front : List Char)
    {ones : Nat}
    (isDigit : ones < 10) :
    Nat.ofDigitChars 10 (front ++ [Nat.digitChar ones]) 0 =
      10 * Nat.ofDigitChars 10 front 0 + ones := by
  rw [Nat.ofDigitChars_append,
    Nat.ofDigitChars_cons_digitChar_of_lt_ten isDigit,
    Nat.ofDigitChars_nil]

/-- Every run of ASCII digits denotes one number, the value that is read off it. -/
theorem denotes_iff
    {text : List Char}
    {value : Nat} :
    Denotes text value ↔
      IsDigits text ∧ Nat.ofDigitChars 10 text 0 = value := by
  constructor
  · intro denotes
    induction denotes with
    | @digit ones isDigit =>
        refine ⟨⟨by simp, ?_⟩, ?_⟩
        · simp [Nat.isDigit_digitChar, isDigit]
        · simpa using ofDigitChars_concat [] isDigit
    | @more front tens ones _ isDigit inductionHypothesis =>
        obtain ⟨⟨_, frontDigits⟩, frontValue⟩ := inductionHypothesis
        refine ⟨⟨by simp, ?_⟩, ?_⟩
        · rw [List.forall_mem_append]
          exact ⟨frontDigits, by simp [Nat.isDigit_digitChar, isDigit]⟩
        · rw [ofDigitChars_concat front isDigit, frontValue]
  · rintro ⟨⟨nonempty, allDigits⟩, rfl⟩
    induction text using List.reverseRecOn with
    | nil =>
        exact absurd rfl nonempty
    | append_singleton front character inductionHypothesis =>
        obtain ⟨frontDigits, lastDigit⟩ :=
          List.forall_mem_append.mp allDigits
        obtain ⟨ones, isDigit, rfl⟩ :=
          exists_digitChar (lastDigit character (by simp))
        rw [ofDigitChars_concat front isDigit]
        by_cases alone : front = []
        · subst alone
          simpa using Denotes.digit isDigit
        · exact .more (inductionHypothesis alone frontDigits) isDigit

/-- Digits are read as the number that they denote, and nothing else is read. -/
theorem ofDigits?_eq_some_iff_denotes
    {text : List Char}
    {value : Nat} :
    ofDigits? text = some value ↔ Denotes text value :=
  ofDigits?_eq_some_iff.trans denotes_iff.symm

/-- The digits of a number denote it. -/
theorem denotes_digits
    (value : Nat) :
    Denotes (digits value) value :=
  ofDigits?_eq_some_iff_denotes.mp (ofDigits?_digits value)

/-- Zeros in front do not change what is denoted. -/
theorem Denotes.zeros_append
    {text : List Char}
    {value : Nat}
    (denotes : Denotes text value)
    (zeros : Nat) :
    Denotes (List.replicate zeros '0' ++ text) value := by
  obtain ⟨⟨nonempty, allDigits⟩, sameValue⟩ := denotes_iff.mp denotes
  refine denotes_iff.mpr ⟨⟨by simp [nonempty], ?_⟩, ?_⟩
  · rw [List.forall_mem_append]
    refine ⟨?_, allDigits⟩
    intro character member
    rw [List.eq_of_mem_replicate member]
    decide
  · rw [Nat.ofDigitChars_append, Nat.ofDigitChars_replicate_zero,
      Nat.mul_zero, sameValue]

end WerewolfSpeech.Numeral
