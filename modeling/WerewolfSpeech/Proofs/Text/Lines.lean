import WerewolfSpeech.Proofs.Text.Blank
import WerewolfSpeech.Text.Lines

namespace WerewolfSpeech.Text

/-!
# Lines that end are found again

A line of a text ends at the first line feed. If a text is put together from lines that
contain no feed and do not end with a blank, cutting it gives the same lines.
-/

/-- A text that begins with something else than a blank is not blank. -/
theorem isBlankText_eq_false
    {text : List Char}
    (nonempty : text ≠ [])
    (startNotBlank : Line.startsBlank text = false) :
    isBlankText text = false := by
  cases text with
  | nil =>
      exact absurd rfl nonempty
  | cons first rest =>
      have firstNotBlank : isBlank first = false := startNotBlank
      rw [isBlankText, List.all_cons, firstNotBlank, Bool.false_and]

/-- A character that begins no line end belongs to the first line. -/
private theorem lines_cons
    {character : Char}
    {rest : List Char}
    (notFeed : character ≠ '\n')
    (notReturn : character = '\r' → rest.head? ≠ some '\n') :
    lines (character :: rest) = extendFirst character (lines rest) := by
  refine lines.eq_4 character rest notFeed ?_
  rintro others isReturn rfl
  exact notReturn isReturn rfl

/-- The first line of a text goes up to the first line feed. -/
theorem lines_append
    {line : List Char}
    (oneLine : '\n' ∉ line)
    (endNotBlank : Line.endsBlank line = false)
    (rest : List Char) :
    lines (line ++ '\n' :: rest) = line :: lines rest := by
  induction line with
  | nil =>
      rfl
  | cons character others inductionHypothesis =>
      have notFeed : character ≠ '\n' := by
        rintro rfl
        exact oneLine List.mem_cons_self
      have othersOneLine : '\n' ∉ others := fun member =>
        oneLine (List.mem_cons_of_mem character member)
      -- A carriage return could only be part of the line end if it were the last character.
      have split :
          lines (character :: (others ++ '\n' :: rest)) =
            extendFirst character (lines (others ++ '\n' :: rest)) := by
        refine lines_cons notFeed ?_
        rintro rfl
        cases others with
        | nil =>
            exact absurd endNotBlank (by decide)
        | cons second more =>
            intro isFeed
            cases isFeed
            exact othersOneLine List.mem_cons_self
      have othersEnd : Line.endsBlank others = false := by
        cases others with
        | nil => rfl
        | cons second more =>
            rwa [Line.endsBlank, List.getLast?_cons_cons] at endNotBlank
      rw [List.cons_append, split,
        inductionHypothesis othersOneLine othersEnd, extendFirst]

/-- The lines that are not blank. -/
def spoken
    (lines : List (List Char)) :
    List String :=
  (lines.filter fun line => !isBlankText line).map String.ofList

/-- The lines behind others are numbered from where those end, blank lines included. -/
theorem numberedFrom_append
    (number : Nat)
    (before after : List (List Char)) :
    numberedFrom number (before ++ after) =
      numberedFrom number before ++
        numberedFrom (number + before.length) after := by
  induction before generalizing number with
  | nil =>
      rfl
  | cons line rest inductionHypothesis =>
      have follows : number + 1 + rest.length = number + (rest.length + 1) := by
        omega
      rw [List.cons_append, numberedFrom, numberedFrom, inductionHypothesis,
        List.length_cons, follows]
      split <;> rfl

/-- What is numbered are the lines that are not blank. -/
theorem map_snd_numberedFrom
    (number : Nat)
    (lines : List (List Char)) :
    (numberedFrom number lines).map Prod.snd = spoken lines := by
  induction lines generalizing number with
  | nil =>
      rfl
  | cons line rest inductionHypothesis =>
      rw [numberedFrom, spoken, List.filter_cons]
      split
      · next blank =>
          simp [inductionHypothesis, blank, spoken]
      · next notBlank =>
          simp [inductionHypothesis, notBlank, spoken]

end WerewolfSpeech.Text
