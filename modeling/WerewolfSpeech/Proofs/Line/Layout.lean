import WerewolfSpeech.Proofs.Line.Spacing

namespace WerewolfSpeech.Line

/-!
# The layout of a line

A line is its words with gaps between them, and if a clause list follows, one more gap and
the list. Cutting a text gives a line exactly if the text is laid out as that line, so no
two lines share a text.
-/

/-- A word outside every parenthesis. -/
def IsFrontWord
    (word : Word) :
    Prop :=
  IsWord word ∧ '(' ∉ word

/-- A text that consists of the parts of a line, of which there is one word at least. -/
inductive Laid : Line → List Char → Prop where
  | alone
      {words : List Word}
      {front : List Char}
      (spaced : Spaced words front)
      (areWords : ∀ word ∈ words, IsFrontWord word) :
      Laid ⟨words, none⟩ front
  | listed
      {words : List Word}
      {front gap list : List Char}
      (spaced : Spaced words front)
      (areWords : ∀ word ∈ words, IsFrontWord word)
      (isGap : IsGap gap)
      (opens : list.head? = some '(')
      (enclosed : isEnclosed list = true) :
      Laid ⟨words, some list⟩ (front ++ gap ++ list)

/-- A word of plain characters can stand outside every parenthesis. -/
theorem IsFrontWord.of_isPlain
    {word : Word}
    (plain : word.IsPlain) :
    IsFrontWord word :=
  ⟨.of_isPlain plain, fun member =>
    (Text.ne_parenthesis_of_isPlain (plain.2 '(' member)).1 rfl⟩

/-- No gap contains a parenthesis. -/
theorem IsGap.parenthesis_not_mem
    {gap : List Char}
    (isGap : IsGap gap) :
    '(' ∉ gap :=
  fun member =>
    (Text.ne_parenthesis_of_isBlank (isGap.2 '(' member)).1 rfl

/-- Words outside every parenthesis make a text without one. -/
theorem Spaced.parenthesis_not_mem
    {words : List Word}
    {text : List Char}
    (spaced : Spaced words text)
    (areWords : ∀ word ∈ words, IsFrontWord word) :
    '(' ∉ text := by
  have noParenthesis : ∀ character ∈ text, character ≠ '(' := by
    refine spaced.forall_mem ?_ fun character isBlank =>
      (Text.ne_parenthesis_of_isBlank isBlank).1
    rintro word member _ inWord rfl
    exact (areWords word member).2 inWord
  exact fun member => noParenthesis '(' member rfl

/-- Each of the spaced words stands in the text as it is. -/
theorem Spaced.infix_of_mem
    {words : List Word}
    {text : List Char}
    (spaced : Spaced words text)
    {word : Word}
    (member : word ∈ words) :
    word <:+: text := by
  induction spaced with
  | last only =>
      obtain rfl := List.mem_singleton.mp member
      exact List.infix_refl word
  | @more first gap _ rest _ _ inductionHypothesis =>
      rcases List.mem_cons.mp member with rfl | inRest
      · exact ⟨[], gap ++ rest, by simp⟩
      · exact (inductionHypothesis inRest).trans
          (List.suffix_append (first ++ gap) rest).isInfix

/-- Each word of a line stands in the text that is laid out as that line. -/
theorem Laid.infix_of_mem
    {line : Line}
    {text : List Char}
    (laid : Laid line text)
    {word : Word}
    (member : word ∈ line.words) :
    word <:+: text := by
  cases laid with
  | alone spaced _ =>
      exact spaced.infix_of_mem member
  | @listed _ front gap list spaced _ _ _ _ =>
      exact (spaced.infix_of_mem member).trans
        ⟨[], gap ++ list, by simp⟩

/-- A line without a clause list is laid out without a parenthesis. -/
theorem Laid.parenthesis_not_mem
    {line : Line}
    {text : List Char}
    (laid : Laid line text)
    (noList : line.list = none) :
    '(' ∉ text := by
  cases laid with
  | alone spaced areWords => exact spaced.parenthesis_not_mem areWords
  | listed _ _ _ _ _ => cases noList

private theorem startsBlank_append
    {front : List Char}
    (nonempty : front ≠ [])
    (behind : List Char) :
    startsBlank (front ++ behind) = startsBlank front := by
  cases front with
  | nil =>
      exact absurd rfl nonempty
  | cons first rest =>
      rfl

/-- A word neither begins nor ends with a blank. -/
theorem IsWord.ends
    {word : Word}
    (isWord : IsWord word) :
    startsBlank word = false ∧ endsBlank word = false := by
  rcases isWord with ⟨nonempty, noBlank⟩
  constructor
  · rw [startsBlank, List.head?_eq_some_head nonempty, Option.any_some]
    exact noBlank _ (List.head_mem nonempty)
  · rw [endsBlank, List.getLast?_eq_some_getLast nonempty,
      Option.any_some]
    exact noBlank _ (List.getLast_mem nonempty)

/-- Spaced words neither begin nor end with a blank. -/
theorem Spaced.ends
    {words : List Word}
    {text : List Char}
    (spaced : Spaced words text)
    (areWords : ∀ word ∈ words, IsWord word) :
    startsBlank text = false ∧ endsBlank text = false := by
  induction spaced with
  | last word =>
      exact (areWords word List.mem_cons_self).ends
  | more word isGap rest inductionHypothesis =>
      have isWord := areWords word List.mem_cons_self
      have restAreWords :=
        fun other member =>
          areWords other (List.mem_cons_of_mem word member)
      constructor
      · rw [List.append_assoc, startsBlank_append isWord.1]
        exact isWord.ends.1
      · rw [endsBlank_append (rest.ne_nil restAreWords)]
        exact (inductionHypothesis restAreWords).2

/-- A text without a parenthesis is its own front, and there is no clause list. -/
theorem cut_of_not_mem
    {text : List Char}
    (noParenthesis : '(' ∉ text) :
    text.takeWhile (· != '(') = text ∧
      text.dropWhile (· != '(') = [] := by
  have passes : ∀ character ∈ text, (character != '(') = true := by
    intro character member
    rw [bne_iff_ne]
    rintro rfl
    exact noParenthesis member
  exact ⟨List.takeWhile_eq_self_iff.mpr passes,
    List.dropWhile_eq_nil_iff.mpr passes⟩

/-- A text is cut right before its first parenthesis. -/
theorem cut_of_append
    {front list : List Char}
    (noParenthesis : '(' ∉ front)
    (opens : list.head? = some '(') :
    (front ++ list).takeWhile (· != '(') = front ∧
      (front ++ list).dropWhile (· != '(') = list := by
  obtain ⟨rest, rfl⟩ := List.head?_eq_some_iff.mp opens
  have passes : ∀ character ∈ front, (character != '(') = true := by
    intro character member
    rw [bne_iff_ne]
    rintro rfl
    exact noParenthesis member
  constructor
  · rw [List.takeWhile_append_of_pos passes]
    simp
  · rw [List.dropWhile_append_of_pos passes]
    simp

/-- A text that is laid out as a line is cut into the parts of that line. -/
theorem Laid.ofChars?_eq_some
    {line : Line}
    {text : List Char}
    (laid : Laid line text) :
    ofChars? text = some line := by
  cases laid with
  | alone spaced areWords =>
      have isWord := fun word member => (areWords word member).1
      obtain ⟨frontPart, listPart⟩ :=
        cut_of_not_mem (spaced.parenthesis_not_mem areWords)
      obtain ⟨starts, ends⟩ := spaced.ends isWord
      have noBlanks :
          ∀ character ∈ ([] : List Char),
            Text.isBlank character = true := by
        simp
      have cutWords := wordsOf_of_spaced spaced isWord noBlanks
      rw [List.append_nil] at cutWords
      simp [ofChars?, frontPart, listPart, starts, ends, cutWords]
  | @listed words front gap list spaced areWords isGap opens enclosed =>
      have isWord := fun word member => (areWords word member).1
      have noParenthesis : '(' ∉ front ++ gap := by
        simp [spaced.parenthesis_not_mem areWords,
          isGap.parenthesis_not_mem]
      obtain ⟨frontPart, listPart⟩ :=
        cut_of_append noParenthesis opens
      have starts : startsBlank (front ++ gap ++ list) = false := by
        rw [List.append_assoc,
          startsBlank_append (spaced.ne_nil isWord)]
        exact (spaced.ends isWord).1
      have gapEnds : endsBlank (front ++ gap) = true := by
        rw [endsBlank_append isGap.1]
        exact isGap.endsBlank
      have cutWords := wordsOf_of_spaced spaced isWord isGap.2
      have someList : list.isEmpty = false := by
        cases list with
        | nil => cases opens
        | cons first rest => rfl
      simp only [ofChars?, frontPart, listPart, starts, someList,
        gapEnds, enclosed, cutWords, Bool.false_eq_true, if_false,
        Bool.and_self, if_true]

/-- The gap at the end of a text that begins with a word is set apart from the rest. -/
private theorem exists_front_gap
    {text : List Char}
    (startNotBlank : startsBlank text = false)
    (endIsBlank : endsBlank text = true) :
    ∃ front gap,
      text = front ++ gap ∧
        IsGap gap ∧
          startsBlank front = false ∧
            endsBlank front = false ∧ front ≠ [] := by
  have cut :
      (Text.trimLeft text.reverse).reverse ++
          (text.reverse.takeWhile Text.isBlank).reverse =
        text := by
    rw [← List.reverse_append, Text.trimLeft,
      List.takeWhile_append_dropWhile, List.reverse_reverse]
  have frontEnds :
      endsBlank (Text.trimLeft text.reverse).reverse = false := by
    rw [endsBlank, List.getLast?_reverse]
    exact startsBlank_trimLeft text.reverse
  have allBlank :
      ∀ character ∈ (text.reverse.takeWhile Text.isBlank).reverse,
        Text.isBlank character = true :=
    fun _ member =>
      List.mem_takeWhile_imp (List.mem_reverse.mp member)
  have isGap :
      IsGap (text.reverse.takeWhile Text.isBlank).reverse := by
    refine ⟨?_, allBlank⟩
    intro noGap
    rw [noGap, List.append_nil] at cut
    rw [cut, endIsBlank] at frontEnds
    cases frontEnds
  have frontNonempty : (Text.trimLeft text.reverse).reverse ≠ [] := by
    intro noFront
    rw [noFront, List.nil_append] at cut
    rw [← cut, startsBlank,
      List.head?_eq_some_head isGap.1, Option.any_some,
      allBlank _ (List.head_mem isGap.1)] at startNotBlank
    cases startNotBlank
  refine ⟨_, _, cut.symm, isGap, ?_, frontEnds, frontNonempty⟩
  rwa [← cut, startsBlank_append frontNonempty] at startNotBlank

/-- The words of a text outside every parenthesis are spaced out in it. -/
private theorem spaced_frontWords
    {text : List Char}
    (startNotBlank : startsBlank text = false)
    (endNotBlank : endsBlank text = false)
    (nonempty : text ≠ [])
    (noParenthesis : '(' ∉ text) :
    Spaced (wordsOf text) text ∧
      ∀ word ∈ wordsOf text, IsFrontWord word := by
  obtain ⟨spaced, areWords⟩ :=
    spaced_wordsOf text startNotBlank endNotBlank nonempty
  exact ⟨spaced, fun word member =>
    ⟨areWords word member, fun inWord =>
      noParenthesis (spaced.mem_text member inWord)⟩⟩

/-- A text without blanks at its ends and without parentheses is a line of words. -/
private theorem laid_alone
    {front : List Char}
    (starts : startsBlank front = false)
    (ends : endsBlank front = false)
    (noParenthesis : '(' ∉ front)
    (someWord : wordsOf front ≠ []) :
    Laid ⟨wordsOf front, none⟩ front := by
  have nonempty : front ≠ [] := by
    rintro rfl
    exact someWord (by simp [wordsOf])
  obtain ⟨spaced, areWords⟩ :=
    spaced_frontWords starts ends nonempty noParenthesis
  exact .alone spaced areWords

/-- A text with a blank before a clause list is a line of words and that list. -/
private theorem laid_listed
    {front list : List Char}
    (starts : startsBlank (front ++ list) = false)
    (ends : endsBlank front = true)
    (noParenthesis : '(' ∉ front)
    (opens : list.head? = some '(')
    (enclosed : isEnclosed list = true) :
    Laid ⟨wordsOf front, some list⟩ (front ++ list) := by
  have nonempty : front ≠ [] := by
    rintro rfl
    exact absurd ends (by decide)
  rw [startsBlank_append nonempty] at starts
  obtain ⟨core, gap, rfl, isGap, coreStarts, coreEnds, someCore⟩ :=
    exists_front_gap starts ends
  have noneInCore : '(' ∉ core := fun member =>
    noParenthesis (List.mem_append_left gap member)
  obtain ⟨spaced, areWords⟩ :=
    spaced_frontWords coreStarts coreEnds someCore noneInCore
  have sameWords : wordsOf (core ++ gap) = wordsOf core :=
    wordsOf_of_spaced spaced
      (fun word member => (areWords word member).1) isGap.2
  rw [sameWords]
  exact .listed spaced areWords isGap opens enclosed

/-- A text that is cut into the parts of a line is laid out as that line. -/
theorem laid_of_ofChars?
    {line : Line}
    {text : List Char}
    (found : ofChars? text = some line)
    (someWord : line.words ≠ []) :
    Laid line text := by
  have cut :
      text.takeWhile (· != '(') ++ text.dropWhile (· != '(') = text :=
    List.takeWhile_append_dropWhile
  have noParenthesis : '(' ∉ text.takeWhile (· != '(') := by
    intro member
    simpa using List.mem_takeWhile_imp member
  have headOfList := List.head?_dropWhile_not (· != '(') text
  unfold ofChars? at found
  generalize text.takeWhile (· != '(') = front at *
  generalize text.dropWhile (· != '(') = list at *
  subst cut
  cases starts : startsBlank (front ++ list) with
  | true =>
      simp [starts] at found
  | false =>
      cases list with
      | nil =>
          rw [List.append_nil] at starts ⊢
          cases ends : endsBlank front with
          | true =>
              simp [starts, ends] at found
          | false =>
              simp only [List.append_nil, starts, ends,
                List.isEmpty_nil, Bool.false_eq_true, if_false,
                if_true, Option.some.injEq] at found
              subst found
              exact laid_alone starts ends noParenthesis someWord
      | cons first rest =>
          cases accepted :
              endsBlank front && isEnclosed (first :: rest) with
          | false =>
              simp [starts, accepted] at found
          | true =>
              simp only [starts, accepted, List.isEmpty_cons,
                Bool.false_eq_true, if_false, if_true,
                Option.some.injEq] at found
              subst found
              rw [Bool.and_eq_true] at accepted
              exact laid_listed starts accepted.1 noParenthesis
                (by simpa using headOfList) accepted.2

/-- A text is cut into the parts of a line exactly if it is laid out as that line. -/
theorem ofChars?_eq_some_iff
    {line : Line}
    {text : List Char}
    (someWord : line.words ≠ []) :
    ofChars? text = some line ↔ Laid line text :=
  ⟨fun found => laid_of_ofChars? found someWord,
    Laid.ofChars?_eq_some⟩

/-- A text that is laid out as a line is not empty and has no blanks at its ends. -/
theorem Laid.ends
    {line : Line}
    {text : List Char}
    (laid : Laid line text) :
    text ≠ [] ∧ startsBlank text = false ∧ endsBlank text = false := by
  cases laid with
  | alone spaced areWords =>
      have isWord := fun word member => (areWords word member).1
      exact ⟨spaced.ne_nil isWord, spaced.ends isWord⟩
  | @listed words front gap list spaced areWords isGap opens enclosed =>
      have isWord := fun word member => (areWords word member).1
      simp only [isEnclosed, Bool.and_eq_true, beq_iff_eq] at enclosed
      obtain ⟨inside, rfl⟩ := List.getLast?_eq_some_iff.mp enclosed.1
      refine ⟨by simp, ?_, ?_⟩
      · rw [List.append_assoc,
          startsBlank_append (spaced.ne_nil isWord)]
        exact (spaced.ends isWord).1
      · rw [← List.append_assoc, endsBlank_append (by simp)]
        decide

/-- A text that is laid out as a line is trimmed. -/
theorem Laid.trim
    {line : Line}
    {text : List Char}
    (laid : Laid line text) :
    Text.trim text = text :=
  Text.trim_eq_self laid.ends.2.1 laid.ends.2.2

end WerewolfSpeech.Line
