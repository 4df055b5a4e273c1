import WerewolfSpeech.Proofs.Line.Word

namespace WerewolfSpeech.Line

/-!
# References in a text

A reference to an agent by its index is digits in the brackets of an agent. It is found in
a text wherever it stands, whether or not blanks set it apart. Since references are made of
plain characters, a blank or a parenthesis parts a text into two texts whose references are
found one after the other.
-/

/-- The reference with digits that a text begins with. -/
def leadingReference?
    (text : List Char) :
    Option Word :=
  (Text.after? "Agent[".toList text).bind fun rest =>
    if Word.isNumber (rest.takeWhile Text.isDecimalDigit) &&
        (rest.dropWhile Text.isDecimalDigit).head? == some ']' then
      some (Agent.bracketed (rest.takeWhile Text.isDecimalDigit))
    else
      none

/-- Every reference with digits that a text contains, from left to right. -/
def references :
    List Char →
    List Word
  | [] => []
  | character :: rest =>
      (leadingReference? (character :: rest)).toList ++ references rest

/-- The agent of an index that a reference can be resolved to. -/
def resolve?
    (reference : Word) :
    Option Agent :=
  match Agent.ofWord reference with
  | .ok agent => some agent
  | .error _ => none

/-- The participants that the references of a text name, repetitions included. -/
def named
    (text : List Char) :
    List Agent :=
  ((references text).filterMap resolve?).filter Agent.isConcrete

private theorem isDecimalDigit_closing :
    Text.isDecimalDigit ']' = false := by
  decide +kernel

/-- The digits in front of the closing bracket are those of the number. -/
theorem takeWhile_digits_closing
    {digits : Word}
    (number : Word.isNumber digits = true)
    (rest : List Char) :
    (digits ++ ']' :: rest).takeWhile Text.isDecimalDigit = digits := by
  simp [List.takeWhile_append_of_pos (Word.isNumber_iff.mp number).2,
    isDecimalDigit_closing]

/-- Behind the number the closing bracket follows. -/
theorem dropWhile_digits_closing
    {digits : Word}
    (number : Word.isNumber digits = true)
    (rest : List Char) :
    (digits ++ ']' :: rest).dropWhile Text.isDecimalDigit =
      ']' :: rest := by
  simp [List.dropWhile_append_of_pos (Word.isNumber_iff.mp number).2,
    isDecimalDigit_closing]

/-- A text begins with a reference exactly if it begins with a number in brackets. -/
private theorem leadingReference?_eq_some_iff
    {text : List Char}
    {reference : Word} :
    leadingReference? text = some reference ↔
      ∃ digits rest,
        Word.isNumber digits = true ∧
          reference = Agent.bracketed digits ∧
            text = Agent.bracketed digits ++ rest := by
  constructor
  · intro found
    obtain ⟨inside, opened, found⟩ := Option.bind_eq_some_iff.mp found
    split at found
    · next accepted =>
        rw [Bool.and_eq_true, beq_iff_eq] at accepted
        obtain ⟨rest, closes⟩ := List.head?_eq_some_iff.mp accepted.2
        have parts :
            inside =
              inside.takeWhile Text.isDecimalDigit ++ ']' :: rest := by
          rw [← closes, List.takeWhile_append_dropWhile]
        refine ⟨_, rest, accepted.1, (Option.some.inj found).symm, ?_⟩
        rw [Text.after?_eq_some_iff.mp opened, Agent.opening_chars]
        simpa [Agent.bracketed] using parts
    · cases found
  · rintro ⟨digits, rest, number, rfl, rfl⟩
    have opened :
        Text.after? "Agent[".toList (Agent.bracketed digits ++ rest) =
          some (digits ++ ']' :: rest) := by
      rw [Text.after?_eq_some_iff, Agent.opening_chars]
      simp [Agent.bracketed]
    rw [leadingReference?, opened, Option.bind_some,
      takeWhile_digits_closing number, dropWhile_digits_closing number,
      number]
    rfl

private theorem leadingReference?_append
    {separator : Char}
    (notPlain : Text.isPlain separator = false)
    (front behind : List Char) :
    leadingReference? (front ++ separator :: behind) =
      leadingReference? front := by
  ext reference
  simp only [leadingReference?_eq_some_iff]
  constructor
  · rintro ⟨digits, rest, number, isReference, shape⟩
    refine ⟨digits, ?_⟩
    rcases List.append_eq_append_iff.mp shape with
        ⟨more, longer, restShape⟩ | ⟨more, shorter, _⟩
    · cases more with
      | nil =>
          rw [List.append_nil] at longer
          exact ⟨[], number, isReference, by rw [longer, List.append_nil]⟩
      | cons first others =>
          -- The separator would stand within the reference.
          cases restShape
          have inside : separator ∈ Agent.bracketed digits := by
            simp [longer]
          have plain :=
            (Word.isPlain_of_isAgent
              (Word.isAgent_iff.mpr (Or.inr ⟨digits, rfl, number⟩))).2
          rw [plain separator inside] at notPlain
          cases notPlain
    · exact ⟨more, number, isReference, shorter⟩
  · rintro ⟨digits, rest, number, isReference, rfl⟩
    exact ⟨digits, rest ++ separator :: behind, number, isReference,
      List.append_assoc _ _ _⟩

/-- Whatever is not plain parts a text into two that are searched one after the other. -/
private theorem references_append
    {separator : Char}
    (notPlain : Text.isPlain separator = false)
    (front behind : List Char) :
    references (front ++ separator :: behind) =
      references front ++ references behind := by
  induction front with
  | nil =>
      have none : leadingReference? (separator :: behind) = none :=
        leadingReference?_append notPlain [] behind
      simp [references, none]
  | cons character rest inductionHypothesis =>
      have same :=
        leadingReference?_append notPlain (character :: rest) behind
      rw [List.cons_append] at same
      simp [references, same, inductionHypothesis]

private theorem references_eq_nil
    {mark : Char}
    {text : List Char}
    (ofEvery : mark ∈ "Agent[".toList)
    (missing : mark ∉ text) :
    references text = [] := by
  induction text with
  | nil =>
      rfl
  | cons character rest inductionHypothesis =>
      have notHere : leadingReference? (character :: rest) = none := by
        rw [Option.eq_none_iff_forall_ne_some]
        intro reference found
        obtain ⟨digits, behind, _, _, shape⟩ :=
          leadingReference?_eq_some_iff.mp found
        have present : mark ∈ character :: rest := by
          rw [Agent.opening_chars] at ofEvery
          rw [shape]
          exact List.mem_append_left behind
            (List.mem_append_left (digits ++ [']']) ofEvery)
        exact missing present
      have notInRest : mark ∉ rest := fun member =>
        missing (List.mem_cons_of_mem character member)
      simp [references, notHere, inductionHypothesis notInRest]

private theorem references_bracketed
    {digits : List Char}
    (number : Word.isNumber digits = true) :
    references (Agent.bracketed digits) = [Agent.bracketed digits] := by
  have whole :
      leadingReference? (Agent.bracketed digits) =
        some (Agent.bracketed digits) :=
    leadingReference?_eq_some_iff.mpr
      ⟨digits, [], number, rfl, (List.append_nil _).symm⟩
  have noLetter : 'A' ∉ digits := fun member =>
    absurd ((Word.isNumber_iff.mp number).2 'A' member)
      (by decide +kernel)
  have ofEvery : 'A' ∈ "Agent[".toList := by
    decide
  have noneBehind :
      references ('g' :: 'e' :: 'n' :: 't' :: '[' :: (digits ++ [']'])) =
        [] :=
    references_eq_nil ofEvery (by simp [noLetter])
  rw [Agent.bracketed] at whole ⊢
  rw [references, whole, noneBehind]
  rfl

/-- Whatever is not plain parts a text into two that name their participants apart. -/
theorem named_append
    {separator : Char}
    (notPlain : Text.isPlain separator = false)
    (front behind : List Char) :
    named (front ++ separator :: behind) = named front ++ named behind := by
  simp [named, references_append notPlain]

/-- A text without an opening bracket names nobody. -/
theorem named_eq_nil
    {text : List Char}
    (noBracket : '[' ∉ text) :
    named text = [] := by
  have ofEvery : '[' ∈ "Agent[".toList := by
    decide
  simp [named, references_eq_nil ofEvery noBracket]

/-- The word of an agent names that agent if it is a participant. -/
theorem named_word
    {agent : Agent}
    (admissible : agent.Admissible) :
    named agent.word = [agent].filter Agent.isConcrete := by
  by_cases isUnspecified : agent = .unspecified
  · subst agent
    exact named_eq_nil (by decide)
  · by_cases isAnyone : agent = .anyone
    · subst agent
      exact named_eq_nil (by decide)
    · have number :
          Word.isNumber (Numeral.padded 2 agent.index.toNat) = true :=
        Word.isNumber_of_isDigits (Numeral.isDigits_padded 2 _)
      have resolved : resolve? agent.word = some agent := by
        rw [resolve?, Agent.ofWord_word admissible]
      have asWord := Agent.word_of_concrete isUnspecified isAnyone
      rw [named, asWord, references_bracketed number, ← asWord]
      simp [resolved]

end WerewolfSpeech.Line
