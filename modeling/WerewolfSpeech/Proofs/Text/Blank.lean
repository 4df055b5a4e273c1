import Mathlib.Data.List.TakeWhile
import WerewolfSpeech.Line.Word

namespace WerewolfSpeech.Text

/-!
# Blanks at the ends of a text and the characters of words

Trimming takes off blanks and nothing else, and it leaves a text alone that neither begins
nor ends with one. The words of the grammar are made of plain characters: digits, letters
and signs, but neither blanks nor parentheses.
-/

/-- Whether a character is neither blank nor a parenthesis. -/
def isPlain
    (character : Char) :
    Bool :=
  !isBlank character && character != '(' && character != ')'

/-- A plain character is not blank. -/
theorem isBlank_of_isPlain
    {character : Char}
    (plain : isPlain character = true) :
    isBlank character = false := by
  simp only [isPlain, Bool.and_eq_true, Bool.not_eq_true'] at plain
  exact plain.1.1

/-- A plain character is not a parenthesis. -/
theorem ne_parenthesis_of_isPlain
    {character : Char}
    (plain : isPlain character = true) :
    character ≠ '(' ∧ character ≠ ')' := by
  simp only [isPlain, Bool.and_eq_true, bne_iff_ne] at plain
  exact ⟨plain.1.2, plain.2⟩

/-- A blank is not a parenthesis. -/
theorem ne_parenthesis_of_isBlank
    {character : Char}
    (blank : isBlank character = true) :
    character ≠ '(' ∧ character ≠ ')' := by
  constructor <;>
    · rintro rfl
      exact absurd blank (by decide)

/-- The digits of every script are plain. -/
theorem isPlain_of_isDecimalDigit
    {character : Char}
    (digit : isDecimalDigit character = true) :
    isPlain character = true := by
  have table :
      decimalZeros.all
          (fun start =>
            (List.range 10).all fun offset =>
              isPlain (Char.ofNat (start + offset))) =
        true := by
    decide +kernel
  obtain ⟨start, member, bounds⟩ := List.any_eq_true.mp digit
  simp only [Bool.and_eq_true, decide_eq_true_eq] at bounds
  have offsetBound :
      character.toNat - start ∈ List.range 10 := by
    rw [List.mem_range]
    omega
  have plain :=
    List.all_eq_true.mp (List.all_eq_true.mp table start member)
      _ offsetBound
  rwa [show start + (character.toNat - start) = character.toNat by omega,
    Char.ofNat_toNat] at plain

/-- An ASCII digit is a decimal digit. -/
theorem isDecimalDigit_of_isDigit
    {character : Char}
    (digit : character.isDigit = true) :
    isDecimalDigit character = true := by
  have bounds := Char.isDigit_iff_toNat.mp digit
  refine List.any_eq_true.mpr ⟨0x0030, by simp [decimalZeros], ?_⟩
  have lower : 48 ≤ character.toNat := bounds.1
  have upper : character.toNat ≤ 57 := bounds.2
  simp only [Bool.and_eq_true, decide_eq_true_eq]
  omega

/-- What a text begins with after its leading blanks is not blank. -/
private theorem trimLeft_eq_self
    {text : List Char}
    (notBlank : Line.startsBlank text = false) :
    trimLeft text = text := by
  cases text with
  | nil =>
      rfl
  | cons first rest =>
      simp only [Line.startsBlank, List.head?_cons,
        Option.any_some] at notBlank
      simp [trimLeft, notBlank]

/-- A text that neither begins nor ends with a blank is trimmed. -/
theorem trim_eq_self
    {text : List Char}
    (startNotBlank : Line.startsBlank text = false)
    (endNotBlank : Line.endsBlank text = false) :
    trim text = text := by
  have reversed :
      Line.startsBlank text.reverse = false := by
    rw [Line.startsBlank, List.head?_reverse]
    exact endNotBlank
  have unchanged := trimLeft_eq_self reversed
  rw [trim, trimLeft_eq_self startNotBlank, trimRight]
  rw [trimLeft] at unchanged
  rw [unchanged, List.reverse_reverse]

/-- Trimming takes off blanks in front of a text and blanks behind it. -/
theorem exists_eq_append_trim
    (text : List Char) :
    ∃ before behind : List Char,
      (∀ character ∈ before, isBlank character = true) ∧
        (∀ character ∈ behind, isBlank character = true) ∧
          text = before ++ trim text ++ behind := by
  refine
    ⟨text.takeWhile isBlank,
      ((trimLeft text).reverse.takeWhile isBlank).reverse,
      fun _ member => List.mem_takeWhile_imp member, ?_, ?_⟩
  · intro character member
    exact List.mem_takeWhile_imp (List.mem_reverse.mp member)
  · have rightPart :
        trim text ++
            ((trimLeft text).reverse.takeWhile isBlank).reverse =
          trimLeft text := by
      rw [trim, trimRight, ← List.reverse_append,
        List.takeWhile_append_dropWhile, List.reverse_reverse]
    rw [List.append_assoc, rightPart, trimLeft,
      List.takeWhile_append_dropWhile]

/-- A trimmed text is a part of the text. -/
theorem isInfix_trim
    (text : List Char) :
    trim text <:+: text := by
  obtain ⟨before, behind, _, _, whole⟩ := exists_eq_append_trim text
  exact ⟨before, behind, whole.symm⟩

/-- Trimming the front of a text stops at the first character that is not blank. -/
theorem trimLeft_append_cons
    {character : Char}
    (notBlank : isBlank character = false)
    (front behind : List Char) :
    trimLeft (front ++ character :: behind) =
      trimLeft front ++ character :: behind := by
  induction front with
  | nil =>
      simp [trimLeft, notBlank]
  | cons first rest inductionHypothesis =>
      cases blank : isBlank first with
      | true =>
          simpa [trimLeft, blank] using inductionHypothesis
      | false =>
          simp [trimLeft, blank]

/-- Trimming the end of a text stops at the last character that is not blank. -/
theorem trimRight_append_cons
    {character : Char}
    (notBlank : isBlank character = false)
    (front behind : List Char) :
    trimRight (front ++ character :: behind) =
      front ++ character :: trimRight behind := by
  have reversed :=
    trimLeft_append_cons notBlank behind.reverse front.reverse
  rw [trimLeft, trimLeft] at reversed
  simp [trimRight, reversed]

/-- Blanks around a text are trimmed with its own. -/
theorem trim_surrounded
    {before behind : List Char}
    (blankBefore : ∀ character ∈ before, isBlank character = true)
    (blankBehind : ∀ character ∈ behind, isBlank character = true)
    (text : List Char) :
    trim (before ++ text ++ behind) = trim text := by
  have left :
      trimLeft (before ++ text ++ behind) = trimLeft (text ++ behind) := by
    rw [List.append_assoc]
    exact List.dropWhile_append_of_pos blankBefore
  have right (rest : List Char) :
      trimRight (rest ++ behind) = trimRight rest := by
    have blankReversed :
        ∀ character ∈ behind.reverse, isBlank character = true :=
      fun character member =>
        blankBehind character (List.mem_reverse.mp member)
    rw [trimRight, List.reverse_append,
      List.dropWhile_append_of_pos blankReversed, trimRight]
  rw [trim, left, trim]
  by_cases onlyBlanks : trimLeft text = []
  · have nothingLeft : trimLeft (text ++ behind) = [] := by
      simp only [trimLeft, List.dropWhile_eq_nil_iff] at onlyBlanks ⊢
      exact List.forall_mem_append.mpr ⟨onlyBlanks, blankBehind⟩
    rw [nothingLeft, onlyBlanks]
  · have keepsBehind :
        trimLeft (text ++ behind) = trimLeft text ++ behind := by
      rw [trimLeft, List.dropWhile_append, if_neg]
      · rfl
      · exact mt List.isEmpty_iff.mp onlyBlanks
    rw [keepsBehind, right]

/-- Trimming leaves alone what stands in parentheses. -/
theorem trim_append_group
    (left group right : List Char) :
    trim (left ++ '(' :: (group ++ ')' :: right)) =
      trimLeft left ++ '(' :: (group ++ ')' :: trimRight right) := by
  have opening : isBlank '(' = false := by decide
  have closing : isBlank ')' = false := by decide
  have ends :=
    trimRight_append_cons closing (trimLeft left ++ '(' :: group) right
  rw [trim, trimLeft_append_cons opening]
  simpa using ends

end WerewolfSpeech.Text
