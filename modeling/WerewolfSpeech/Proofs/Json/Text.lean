import WerewolfSpeech.Json.Read
import WerewolfSpeech.Json.Write

namespace WerewolfSpeech.Json

/-!
# Units of strings

A character between quotes stands for itself or is an escape, and each form is read as one
unit. The code point of a character is never a surrogate, so the code points of a text are
units that spell that text.
-/

/-- The escape of a control character is read as its code point. -/
theorem unitOfHex?_control :
    ∀ code < 0x20,
      unitOfHex? '0' '0' (hexDigit (code / 16)) (hexDigit (code % 16)) =
        some code := by
  decide

/-- An escaped character is read as the unit that the escape stands for. -/
theorem units?_escaped
    {mark : Char}
    {unit : Nat}
    (known : unitOfEscape? mark = some unit)
    (rest : List Char) :
    units? ('\\' :: mark :: rest) = (units? rest).map (prepend unit) := by
  have notHex : mark ≠ 'u' := by
    rintro rfl
    cases known
  rw [units?]
  · rw [known]
    cases units? rest <;> rfl
  · intro first second third fourth behind isHex
    exact absurd isHex notHex

/-- A character that needs no escape is read as its code point. -/
theorem units?_plain
    {character : Char}
    (notQuote : character ≠ '"')
    (notBackslash : character ≠ '\\')
    (notControl : ¬ character.toNat < 0x20)
    (rest : List Char) :
    units? (character :: rest) =
      (units? rest).map (prepend character.toNat) := by
  -- Neither the quote nor a backslash, so none of the escapes is tried.
  rw [units?, if_neg]
  · simp [notBackslash, notControl]
  · exact notQuote
  · intro _ _ _ _ _ isBackslash
    exact absurd isBackslash notBackslash
  · intro _ _ isBackslash
    exact absurd isBackslash notBackslash

private theorem not_surrogate_toNat
    (character : Char) :
    isLeadingSurrogate character.toNat = false ∧
      isTrailingSurrogate character.toNat = false := by
  have valid : character.toNat < 0xD800 ∨ 0xDFFF < character.toNat := by
    rcases character.valid with low | high
    · exact Or.inl low
    · exact Or.inr high.1
  simp only [isLeadingSurrogate, isTrailingSurrogate, Bool.and_eq_false_iff,
    decide_eq_false_iff_not]
  omega

/-- The code points of a text spell that text. -/
theorem textOfUnits?_map_toNat
    (text : List Char) :
    textOfUnits? (text.map Char.toNat) = some text := by
  induction text with
  | nil =>
      rfl
  | cons character text inductionHypothesis =>
      obtain ⟨notLeading, notTrailing⟩ := not_surrogate_toNat character
      cases text with
      | nil =>
          simp [textOfUnits?, notLeading, notTrailing]
      | cons next others =>
          simp only [List.map_cons] at inductionHypothesis ⊢
          rw [textOfUnits?, notLeading, notTrailing, inductionHypothesis]
          simp

end WerewolfSpeech.Json
