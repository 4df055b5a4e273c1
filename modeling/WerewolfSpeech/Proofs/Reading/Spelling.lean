import WerewolfSpeech.Proofs.Line.Spelling
import WerewolfSpeech.Proofs.Reading.DepthLimit

namespace WerewolfSpeech

/-!
# Which blank it is makes no difference, but for line breaks

A reader takes any blank for any other one, with one exception: a clause list that is
broken into several lines is not recognised at all. So a text is read as the same text with
spaces for blanks if its clause list is on one line. A blank that is exchanged for another
one changes what is read only if it stands in the clause list and either is a line break.
-/

namespace Reading

open Text

variable
  {mode : Mode}
  {readClause readOtherwise : List Char → Except Diagnosis Content}

private theorem toOption_part
    {Value : Type}
    (text : List Char)
    (value : Option Value) :
    (part text value).toOption = value := by
  cases value <;> rfl

private theorem toOption_clause
    {first second : Except Diagnosis Content}
    (alike : first.toOption = second.toOption) :
    (clause mode first).toOption = (clause mode second).toOption := by
  cases first with
  | error diagnosis =>
      cases second with
      | error other => cases mode <;> rfl
      | ok content => cases alike
  | ok content =>
      cases second with
      | error diagnosis => cases alike
      | ok other => cases mode <;> exact alike

private theorem toOption_clauses
    {list : List Char}
    (alike :
      ∀ groups,
        Line.splitGroups? list = some groups →
        ∀ group ∈ groups,
          (readOtherwise (group.map blankAsSpace)).toOption =
            (readClause group).toOption) :
    (Reading.clauses mode readOtherwise (list.map blankAsSpace)).toOption =
      (Reading.clauses mode readClause list).toOption := by
  unfold Reading.clauses
  rw [Line.splitGroups?_map_blankAsSpace]
  cases split : Line.splitGroups? list with
  | none =>
      rfl
  | some groups =>
      simp only [Option.map_some, List.mapM_map]
      apply Attempt.toOption_mapM_congr
      intro group member
      exact toOption_clause (alike groups split group member)

/-- A phrase is read as it was if its clause list is. -/
private theorem toOption_phrase_mapList
    {change : List Char → List Char}
    {phrase : Phrase}
    (alike :
      ∀ list,
        phrase.list? = some list →
        (Reading.clauses mode readOtherwise (change list)).toOption =
          (Reading.clauses mode readClause list).toOption)
    (otherText text : List Char) :
    (Reading.phrase mode readOtherwise otherText
        (phrase.mapList change)).toOption =
      (Reading.phrase mode readClause text phrase).toOption := by
  cases phrase with
  | bare keyword =>
      rfl
  | agreement subject keyword channel day index =>
      simp only [Phrase.mapList, Reading.phrase, Reading.keyword,
        Attempt.toOption_bind, toOption_part]
  | disclosure subject keyword target role =>
      simp only [Phrase.mapList, Reading.phrase, Reading.keyword,
        Attempt.toOption_bind, toOption_part]
  | report subject keyword target species =>
      simp only [Phrase.mapList, Reading.phrase, Reading.keyword,
        Attempt.toOption_bind, toOption_part]
  | action subject keyword target =>
      simp only [Phrase.mapList, Reading.phrase, Reading.keyword,
        Attempt.toOption_bind, toOption_part]
  | addressed subject keyword target list =>
      simp only [Phrase.mapList, Reading.phrase, Reading.keyword,
        Attempt.toOption_bind, toOption_part, alike list rfl]
  | connective subject keyword list =>
      simp only [Phrase.mapList, Reading.phrase, Reading.keyword,
        Attempt.toOption_bind, toOption_part, alike list rfl]
  | dated subject day list =>
      simp only [Phrase.mapList, Reading.phrase, Attempt.toOption_bind,
        toOption_part, alike list rfl]

/-- The groups of a clause list on one line are on one line. -/
private theorem newline_not_mem_of_group
    {list group : List Char}
    {groups : List (List Char)}
    (split : Line.splitGroups? list = some groups)
    (member : group ∈ groups)
    (oneLine : '\n' ∉ list) :
    '\n' ∉ group := by
  obtain ⟨_, grouped⟩ := Line.splitGroups?_eq_some_iff.mp split
  obtain ⟨before, behind, rfl, _⟩ := grouped.exists_before member
  exact fun inGroup => oneLine (by simp [inGroup])

/-- A text whose clause list is on one line is read as with spaces, if its groups are. -/
private theorem toOption_line_map_blankAsSpace
    {text : List Char}
    (oneLine : '\n' ∉ Line.listChars text)
    (alike :
      ∀ group,
        '\n' ∉ group →
        (readOtherwise (group.map blankAsSpace)).toOption =
          (readClause group).toOption) :
    (line mode readOtherwise (text.map blankAsSpace)).toOption =
      (line mode readClause text).toOption := by
  have sameFound := Phrase.ofChars?_map_blankAsSpace oneLine
  unfold line
  rw [trim_map_blankAsSpace, sameFound]
  cases found : Phrase.ofChars? (trim text) with
  | none =>
      rfl
  | some phrase =>
      refine toOption_phrase_mapList ?_ _ _
      intro list listed
      refine toOption_clauses fun groups split group member => ?_
      rw [Line.listChars, Phrase.list?_of_ofChars? found listed] at oneLine
      exact alike group (newline_not_mem_of_group split member oneLine)

/-- A text whose clause list is on one line is read as with spaces for its blanks. -/
private theorem toOption_beneath_map_blankAsSpace
    {limit levels : Nat}
    {text : List Char}
    (oneLine : '\n' ∉ Line.listChars text) :
    (beneath mode limit levels (text.map blankAsSpace)).toOption =
      (beneath mode limit levels text).toOption := by
  induction levels generalizing text with
  | zero =>
      rfl
  | succ levels inductionHypothesis =>
      rw [beneath_succ, beneath_succ]
      refine toOption_line_map_blankAsSpace oneLine fun group groupOneLine => ?_
      -- A group on one line has no line break in its clause list either.
      refine inductionHypothesis fun member => groupOneLine ?_
      exact (isInfix_trim group).subset
        ((List.dropWhile_suffix _).subset member)

/-- A text whose clause list is broken into several lines is not read. -/
private theorem toOption_beneath_of_newline_mem
    {limit levels : Nat}
    {text : List Char}
    (broken : '\n' ∈ Line.listChars text) :
    (beneath mode limit levels text).toOption = none := by
  cases levels with
  | zero =>
      rfl
  | succ levels =>
      rw [beneath_succ, line, Phrase.ofChars?_of_newline_mem broken]
      rfl

/-- Texts that differ in their blanks are read alike if both are broken or neither is. -/
private theorem toOption_beneath_congr
    {limit levels : Nat}
    {first second : List Char}
    (sameSpaced : first.map blankAsSpace = second.map blankAsSpace)
    (bothBroken :
      '\n' ∈ Line.listChars first ↔ '\n' ∈ Line.listChars second) :
    (beneath mode limit levels first).toOption =
      (beneath mode limit levels second).toOption := by
  by_cases broken : '\n' ∈ Line.listChars first
  · rw [toOption_beneath_of_newline_mem broken,
      toOption_beneath_of_newline_mem (bothBroken.mp broken)]
  · rw [← toOption_beneath_map_blankAsSpace broken, sameSpaced,
      toOption_beneath_map_blankAsSpace (mt bothBroken.mpr broken)]

end Reading

namespace Content

/-- What is read leniently is what the text gives, or a skipped turn. -/
private theorem readOrSkip_eq_getD
    (maxDepth : Nat)
    (text : String) :
    readOrSkip maxDepth text =
      (Reading.beneath .lenient maxDepth (maxDepth + 1)
        text.toList).toOption.getD skip := by
  rw [readOrSkip, Reading.leniently]
  change _ = (Reading.within Content _ _ _ _).toOption.getD skip
  cases Reading.within Content .lenient maxDepth maxDepth text.toList <;> rfl

/-- A text is read strictly as what it gives. -/
private theorem read_eq_ok_iff
    {maxDepth : Nat}
    {text : String}
    {content : Content} :
    read maxDepth text = .ok content ↔
      (Reading.beneath .strict maxDepth (maxDepth + 1)
        text.toList).toOption = some content := by
  change Reading.within Content _ _ _ _ = .ok content ↔
    (Reading.within Content _ _ _ _).toOption = some content
  cases Reading.within Content .strict maxDepth maxDepth text.toList with
  | error diagnosis => simp [Except.toOption]
  | ok result => simp [Except.toOption]

section Position

variable
  {left right : List Char}
  {blank other : Char}

/-- Blanks that are exchanged for each other leave the same text with spaces. -/
private theorem map_blankAsSpace_exchange
    (isBlank : Text.isBlank blank = true)
    (otherIsBlank : Text.isBlank other = true) :
    (left ++ blank :: right).map Text.blankAsSpace =
      (left ++ other :: right).map Text.blankAsSpace := by
  simp [Text.blankAsSpace, isBlank, otherIsBlank]

/--
A blank can be exchanged for another one without breaking a clause list or mending it, if
neither is a line break or if the place is not in the clause list.
-/
private theorem newline_mem_listChars_exchange
    (isBlank : Text.isBlank blank = true)
    (otherIsBlank : Text.isBlank other = true)
    (harmless :
      blank ≠ '\n' ∧ other ≠ '\n' ∨
        '(' ∉ left ∨ Text.isBlankText right = true) :
    '\n' ∈ Line.listChars (left ++ blank :: right) ↔
      '\n' ∈ Line.listChars (left ++ other :: right) := by
  by_cases opened : '(' ∈ left
  · cases atEnd : Text.isBlankText right with
    | true =>
        rw [Line.listChars_of_isBlankText isBlank atEnd,
          Line.listChars_of_isBlankText otherIsBlank atEnd]
    | false =>
        have noLineBreak : blank ≠ '\n' ∧ other ≠ '\n' := by
          rcases harmless with noLineBreak | notOpened | isEnd
          · exact noLineBreak
          · exact absurd opened notOpened
          · rw [isEnd] at atEnd
            cases atEnd
        rw [Line.listChars_of_inside opened atEnd,
          Line.listChars_of_inside opened atEnd]
        simp [noLineBreak.1.symm, noLineBreak.2.symm]
  · rw [Line.listChars_of_not_mem isBlank opened,
      Line.listChars_of_not_mem otherIsBlank opened]

end Position

/--
A blank can be exchanged for any other blank without any effect on what is read, unless one
of the two is a line break and the place is in the clause list, that is between the first
parenthesis and some other character. With a line break there, the text is not read at all.
-/
theorem read_exchange_blank
    {left right : List Char}
    {blank other : Char}
    (maxDepth : Nat)
    (isBlank : Text.isBlank blank = true)
    (otherIsBlank : Text.isBlank other = true) :
    (blank ≠ '\n' ∧ other ≠ '\n' ∨
          '(' ∉ left ∨ Text.isBlankText right = true →
        readOrSkip maxDepth (String.ofList (left ++ blank :: right)) =
            readOrSkip maxDepth (String.ofList (left ++ other :: right)) ∧
          ∀ content,
            read maxDepth (String.ofList (left ++ blank :: right)) =
                .ok content ↔
              read maxDepth (String.ofList (left ++ other :: right)) =
                .ok content) ∧
      ('(' ∈ left ∧ Text.isBlankText right = false →
        readOrSkip maxDepth (String.ofList (left ++ '\n' :: right)) =
            skip ∧
          ∀ content,
            read maxDepth (String.ofList (left ++ '\n' :: right)) ≠
              .ok content) := by
  simp only [readOrSkip_eq_getD, read_eq_ok_iff, String.toList_ofList,
    ne_eq]
  constructor
  · intro harmless
    have sameSpaced :
        (left ++ blank :: right).map Text.blankAsSpace =
          (left ++ other :: right).map Text.blankAsSpace :=
      map_blankAsSpace_exchange isBlank otherIsBlank
    have bothBroken :=
      newline_mem_listChars_exchange isBlank otherIsBlank harmless
    constructor
    · rw [Reading.toOption_beneath_congr sameSpaced bothBroken]
    · intro content
      rw [Reading.toOption_beneath_congr sameSpaced bothBroken]
  · rintro ⟨opened, continues⟩
    have broken : '\n' ∈ Line.listChars (left ++ '\n' :: right) := by
      rw [Line.listChars_of_inside opened continues]
      simp
    simp [Reading.toOption_beneath_of_newline_mem broken]

/-- Between the clauses of a conjunction a tab does what a space does, but no line break. -/
theorem read_exchange_blank_conjunction :
    readOrSkip 16 "AND (VOTE Agent[01]) (VOTE Agent[02])" =
        readOrSkip 16 "AND (VOTE Agent[01])\t(VOTE Agent[02])" ∧
      readOrSkip 16 "AND (VOTE Agent[01])\n(VOTE Agent[02])" = skip := by
  have law :=
    @read_exchange_blank "AND (VOTE Agent[01])".toList
      "(VOTE Agent[02])".toList ' ' '\t' 16 (by decide) (by decide)
  exact ⟨(law.1 (by decide)).1, (law.2 (by decide)).1⟩

/-- A line break in the place of a space between two clauses loses both of them. -/
theorem read_line_break_between_clauses :
    Text.isBlank ' ' = true ∧
      Text.isBlank '\n' = true ∧
        (read 16 "AND (VOTE Agent[01]) (VOTE Agent[02])").toOption.map text =
            some "AND (VOTE Agent[01]) (VOTE Agent[02])" ∧
          (read 16 "AND (VOTE Agent[01])\n(VOTE Agent[02])").toOption.map text =
              none ∧
            (readOrSkip 16 "AND (VOTE Agent[01]) (VOTE Agent[02])").text =
                "AND (VOTE Agent[01]) (VOTE Agent[02])" ∧
              (readOrSkip 16 "AND (VOTE Agent[01])\n(VOTE Agent[02])").text =
                "Skip" := by
  decide +kernel

end Content

end WerewolfSpeech
