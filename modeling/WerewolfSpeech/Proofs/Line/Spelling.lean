import WerewolfSpeech.Proofs.Line.Groups
import WerewolfSpeech.Proofs.Line.Phrase

namespace WerewolfSpeech

/-!
# Which blank it is

With a space for every blank, a text is trimmed, cut into words and split into groups at
the same places as before. Only a clause list can tell two blanks apart, because it has to
stay on one line. So a text without a line break in its clause list makes the same phrase
with spaces in it, apart from the blanks in the list.
-/

namespace Text

/-- The character itself, or a space if it is a blank. -/
def blankAsSpace
    (character : Char) :
    Char :=
  if isBlank character then ' ' else character

/-- A space is a blank, so what was one stays one. -/
@[simp] theorem isBlank_blankAsSpace
    (character : Char) :
    isBlank (blankAsSpace character) = isBlank character := by
  unfold blankAsSpace
  split
  · next blank =>
      rw [blank]
      decide
  · rfl

/-- No other character is made or lost when blanks become spaces. -/
private theorem blankAsSpace_eq_iff
    {mark : Char}
    (notBlank : isBlank mark = false)
    (character : Char) :
    blankAsSpace character = mark ↔ character = mark := by
  unfold blankAsSpace
  split
  · next blank =>
      constructor
      · rintro rfl
        exact absurd notBlank (by decide)
      · rintro rfl
        rw [blank] at notBlank
        cases notBlank
  · rfl

/-- An opening parenthesis is where it was. -/
@[simp] theorem blankAsSpace_eq_opening
    (character : Char) :
    blankAsSpace character = '(' ↔ character = '(' :=
  blankAsSpace_eq_iff (by decide) character

/-- A closing parenthesis is where it was. -/
@[simp] theorem blankAsSpace_eq_closing
    (character : Char) :
    blankAsSpace character = ')' ↔ character = ')' :=
  blankAsSpace_eq_iff (by decide) character

/-- No line break is left where blanks have become spaces. -/
private theorem newline_not_mem_map_blankAsSpace
    (text : List Char) :
    '\n' ∉ text.map blankAsSpace := by
  intro member
  obtain ⟨character, _, isNewline⟩ := List.mem_map.mp member
  unfold blankAsSpace at isNewline
  split at isNewline
  · exact absurd isNewline (by decide)
  · next notBlank =>
      subst isNewline
      exact notBlank (by decide)

private theorem trimLeft_map_blankAsSpace
    (text : List Char) :
    trimLeft (text.map blankAsSpace) =
      (trimLeft text).map blankAsSpace := by
  have same : isBlank ∘ blankAsSpace = isBlank :=
    funext isBlank_blankAsSpace
  rw [trimLeft, List.dropWhile_map, same, trimLeft]

private theorem trimRight_map_blankAsSpace
    (text : List Char) :
    trimRight (text.map blankAsSpace) =
      (trimRight text).map blankAsSpace := by
  have reversed := trimLeft_map_blankAsSpace text.reverse
  rw [trimLeft, trimLeft, List.map_reverse] at reversed
  rw [trimRight, trimRight, reversed, List.map_reverse]

/-- A text is trimmed as before. -/
theorem trim_map_blankAsSpace
    (text : List Char) :
    trim (text.map blankAsSpace) = (trim text).map blankAsSpace := by
  rw [trim, trim, trimLeft_map_blankAsSpace, trimRight_map_blankAsSpace]

end Text

namespace Line

open Text

private theorem startsBlank_map_blankAsSpace
    (text : List Char) :
    startsBlank (text.map blankAsSpace) = startsBlank text := by
  cases text <;> simp [startsBlank]

private theorem endsBlank_map_blankAsSpace
    (text : List Char) :
    endsBlank (text.map blankAsSpace) = endsBlank text := by
  rw [endsBlank, endsBlank, List.getLast?_map, Option.any_map]
  congr 1
  exact funext isBlank_blankAsSpace

private theorem wordsOf_append_map_blankAsSpace
    (front text : List Char) :
    wordsOf (front ++ text.map blankAsSpace) =
      wordsOf (front ++ text) := by
  induction text generalizing front with
  | nil =>
      rfl
  | cons character rest inductionHypothesis =>
      rw [List.map_cons]
      cases blank : isBlank character with
      | true =>
          have restSame := inductionHypothesis []
          rw [List.nil_append, List.nil_append] at restSame
          rw [wordsOf_append_cons blank,
            wordsOf_append_cons (by simpa using blank), restSame]
      | false =>
          -- The word that the character belongs to has begun in the front.
          have unchanged : blankAsSpace character = character :=
            (blankAsSpace_eq_iff blank character).mpr rfl
          have restSame := inductionHypothesis (front ++ [character])
          rw [List.append_assoc, List.append_assoc] at restSame
          rw [unchanged]
          exact restSame

private theorem wordsOf_map_blankAsSpace
    (text : List Char) :
    wordsOf (text.map blankAsSpace) = wordsOf text :=
  wordsOf_append_map_blankAsSpace [] text

/-- Outside and inside of groups, a text is split at the same places as before. -/
private theorem groups_map_blankAsSpace
    (text : List Char) :
    groupsOutside? (text.map blankAsSpace) =
        (groupsOutside? text).map (List.map (List.map blankAsSpace)) ∧
      ∀ depth,
        groupsInside? depth (text.map blankAsSpace) =
          (groupsInside? depth text).map fun found =>
            (found.1.map blankAsSpace,
              found.2.map (List.map blankAsSpace)) := by
  -- Either function calls the other one on the rest, so one induction serves both.
  induction text with
  | nil =>
      exact ⟨rfl, fun _ => rfl⟩
  | cons character rest inductionHypothesis =>
      obtain ⟨outside, inside⟩ := inductionHypothesis
      constructor
      · simp only [List.map_cons, groupsOutside?, blankAsSpace_eq_opening,
          isBlank_blankAsSpace, outside, inside]
        split
        · simp [Function.comp_def]
        · split <;> rfl
      · intro depth
        simp only [List.map_cons, groupsInside?, blankAsSpace_eq_closing,
          blankAsSpace_eq_opening, outside, inside]
        split
        · cases depth <;> simp [Function.comp_def]
        · split <;> simp [Function.comp_def]

/-- A clause list is split at the same places as before. -/
theorem splitGroups?_map_blankAsSpace
    (list : List Char) :
    splitGroups? (list.map blankAsSpace) =
      (splitGroups? list).map (List.map (List.map blankAsSpace)) := by
  rw [splitGroups?, splitGroups?, (groups_map_blankAsSpace list).1]
  cases groupsOutside? list with
  | none => rfl
  | some groups => cases groups <;> rfl

/-- The clause list that a text is cut before, empty if there is none. -/
private theorem dropWhile_map_blankAsSpace
    (text : List Char) :
    (text.map blankAsSpace).takeWhile (· != '(') =
        (text.takeWhile (· != '(')).map blankAsSpace ∧
      (text.map blankAsSpace).dropWhile (· != '(') =
        (text.dropWhile (· != '(')).map blankAsSpace := by
  have same :
      (fun character => character != '(') ∘ blankAsSpace =
        fun character => character != '(' := by
    funext character
    rw [Function.comp_apply, Bool.eq_iff_iff, bne_iff_ne, bne_iff_ne]
    exact not_congr (blankAsSpace_eq_opening character)
  rw [List.takeWhile_map, List.dropWhile_map, same]
  exact ⟨rfl, rfl⟩

/-- A clause list on one line is enclosed as before. -/
private theorem isEnclosed_map_blankAsSpace
    {list : List Char}
    (oneLine : '\n' ∉ list) :
    isEnclosed (list.map blankAsSpace) = isEnclosed list := by
  have closing :
      list.getLast?.map blankAsSpace = some ')' ↔
        list.getLast? = some ')' := by
    cases list.getLast? <;> simp
  have mappedOneLine := newline_not_mem_map_blankAsSpace list
  rw [isEnclosed, isEnclosed, List.getLast?_map, Bool.eq_iff_iff]
  simp [closing, oneLine, mappedOneLine]

/-- The clause list of a text, which begins with the first parenthesis. -/
def listChars
    (text : List Char) :
    List Char :=
  (trim text).dropWhile (· != '(')

/-- The clause list of a text has blanks taken off at the end only. -/
private theorem listChars_eq
    (text : List Char) :
    listChars text = trimRight (text.dropWhile (· != '(')) := by
  by_cases someList : '(' ∈ text
  · obtain ⟨front, rest, rfl, notInFront⟩ :=
      List.eq_append_cons_of_mem someList
    have opening : isBlank '(' = false := by decide
    have notInTrimmed : '(' ∉ trimLeft front := fun member =>
      notInFront ((List.dropWhile_suffix isBlank).subset member)
    have atEnd : trimRight ('(' :: rest) = '(' :: trimRight rest :=
      trimRight_append_cons opening [] rest
    rw [listChars, trim, trimLeft_append_cons opening,
      trimRight_append_cons opening, (cut_of_append notInTrimmed rfl).2,
      (cut_of_append notInFront rfl).2, atEnd]
  · have notInTrimmed : '(' ∉ trim text := fun member =>
      someList ((isInfix_trim text).subset member)
    rw [listChars, (cut_of_not_mem notInTrimmed).2,
      (cut_of_not_mem someList).2]
    rfl

section Position

variable
  {left right : List Char}
  {blank : Char}

/-- Behind a parenthesis everything belongs to the clause list. -/
private theorem dropWhile_append_of_mem
    (opened : '(' ∈ left)
    (right : List Char) :
    (left ++ right).dropWhile (· != '(') =
      left.dropWhile (· != '(') ++ right := by
  have someList : left.dropWhile (· != '(') ≠ [] := by
    intro noList
    have passes := List.dropWhile_eq_nil_iff.mp noList '(' opened
    exact absurd passes (by decide)
  rw [List.dropWhile_append, if_neg (by simpa using someList)]

/-- A blank before the first parenthesis is not in the clause list. -/
theorem listChars_of_not_mem
    (isBlank : Text.isBlank blank = true)
    (notOpened : '(' ∉ left) :
    listChars (left ++ blank :: right) =
      trimRight (right.dropWhile (· != '(')) := by
  have notOpening : (blank != '(') = true :=
    bne_iff_ne.mpr (ne_parenthesis_of_isBlank isBlank).1
  have noneLeft := (cut_of_not_mem notOpened).2
  rw [listChars_eq, List.dropWhile_append, noneLeft]
  simp [notOpening]

/-- A blank with nothing but blanks behind it is not in the clause list. -/
theorem listChars_of_isBlankText
    (isBlank : Text.isBlank blank = true)
    (allBlank : isBlankText right = true) :
    listChars (left ++ blank :: right) = listChars left := by
  have blanks :
      ∀ character ∈ (blank :: right).reverse,
        Text.isBlank character = true := by
    intro character member
    rcases List.mem_cons.mp (List.mem_reverse.mp member) with
        rfl | inRight
    · exact isBlank
    · exact List.all_eq_true.mp allBlank character inRight
  have dropped :
      ∀ text, trimRight (text ++ blank :: right) = trimRight text := by
    intro text
    rw [trimRight, List.reverse_append,
      List.dropWhile_append_of_pos blanks, trimRight]
  by_cases opened : '(' ∈ left
  · rw [listChars_eq, listChars_eq, dropWhile_append_of_mem opened,
      dropped]
  · have noneRight : '(' ∉ right := by
      intro member
      exact absurd (List.all_eq_true.mp allBlank '(' member) (by decide)
    rw [listChars_of_not_mem isBlank opened, listChars_eq,
      (cut_of_not_mem opened).2, (cut_of_not_mem noneRight).2]

/-- A blank between the first parenthesis and another character is in the clause list. -/
theorem listChars_of_inside
    (opened : '(' ∈ left)
    (continues : isBlankText right = false) :
    listChars (left ++ blank :: right) =
      left.dropWhile (· != '(') ++ blank :: trimRight right := by
  obtain ⟨character, member, notBlank⟩ := List.all_eq_false.mp continues
  rw [Bool.not_eq_true] at notBlank
  obtain ⟨between, behind, rfl⟩ := List.append_of_mem member
  have atEnd :=
    trimRight_append_cons notBlank
      (left.dropWhile (· != '(') ++ blank :: between) behind
  rw [listChars_eq, dropWhile_append_of_mem opened,
    trimRight_append_cons notBlank]
  simpa using atEnd

end Position

/-- The line with another clause list, if it has one. -/
def mapList
    (change : List Char → List Char)
    (line : Line) :
    Line :=
  ⟨line.words, line.list.map change⟩

/-- A text whose clause list is on one line is cut into the parts that it was cut into. -/
theorem ofChars?_map_blankAsSpace
    {text : List Char}
    (oneLine : '\n' ∉ text.dropWhile (· != '(')) :
    ofChars? (text.map blankAsSpace) =
      (ofChars? text).map (mapList (List.map blankAsSpace)) := by
  obtain ⟨front, list⟩ := dropWhile_map_blankAsSpace text
  unfold ofChars?
  simp only [front, list, startsBlank_map_blankAsSpace,
    endsBlank_map_blankAsSpace, isEnclosed_map_blankAsSpace oneLine,
    wordsOf_map_blankAsSpace, List.isEmpty_map]
  split
  · rfl
  · split
    · split <;> rfl
    · split <;> rfl

/-- A text whose clause list is broken into several lines is no line. -/
theorem ofChars?_of_newline_mem
    {text : List Char}
    (broken : '\n' ∈ text.dropWhile (· != '(')) :
    ofChars? text = none := by
  have someList : (text.dropWhile (· != '(')).isEmpty = false := by
    rw [List.isEmpty_eq_false_iff]
    exact List.ne_nil_of_mem broken
  have notEnclosed : isEnclosed (text.dropWhile (· != '(')) = false := by
    simp [isEnclosed, broken]
  unfold ofChars?
  simp [someList, notEnclosed]

end Line

namespace Phrase

/-- The phrase with another clause list, if it has one. -/
def mapList
    (change : List Char → List Char) :
    Phrase →
    Phrase
  | .addressed subject keyword target list =>
      .addressed subject keyword target (change list)
  | .connective subject keyword list =>
      .connective subject keyword (change list)
  | .dated subject day list => .dated subject day (change list)
  | phrase => phrase

end Phrase

/-- What a shape makes of a line does not depend on the clause list, apart from that list. -/
private theorem Shape.phrase?_mapList
    (change : List Char → List Char)
    (shape : Shape)
    (line : Line) :
    shape.phrase? (line.mapList change) =
      (shape.phrase? line).map (Phrase.mapList change) := by
  rcases line with ⟨words, list⟩
  have sameSplit :
      ∀ other : Option (List Char),
        Line.splitSubject ⟨words, other⟩ = Line.splitSubject ⟨words, none⟩ := by
    intro other
    cases words <;> rfl
  -- Each shape looks at the words and at whether there is a list, never into the list.
  cases shape <;> cases list <;>
    simp only [phrase?, Phrase.bare?, Phrase.agreement?, Phrase.disclosure?,
      Phrase.report?, Phrase.action?, Phrase.addressed?,
      Phrase.connective?, Phrase.dated?, Line.mapList, Option.map_none,
      Option.map_some, sameSplit (some _)] <;>
    split <;> simp_all [Option.map_bind, Function.comp_def, Phrase.mapList]

namespace Phrase

/-- A text whose clause list is on one line makes the phrase that it made. -/
theorem ofChars?_map_blankAsSpace
    {text : List Char}
    (oneLine : '\n' ∉ text.dropWhile (· != '(')) :
    ofChars? (text.map Text.blankAsSpace) =
      (ofChars? text).map (mapList (List.map Text.blankAsSpace)) := by
  rw [ofChars?, ofChars?, Line.ofChars?_map_blankAsSpace oneLine]
  cases Line.ofChars? text with
  | none =>
      rfl
  | some line =>
      simp only [Option.map_some, Option.bind_some, Shape.phrase?_mapList,
        List.map_findSome?, Function.comp_def]

/-- A text whose clause list is broken into several lines makes no phrase. -/
theorem ofChars?_of_newline_mem
    {text : List Char}
    (broken : '\n' ∈ text.dropWhile (· != '(')) :
    ofChars? text = none := by
  rw [ofChars?, Line.ofChars?_of_newline_mem broken, Option.bind_none]

/-- The clause list of a phrase is the one that the text is cut before. -/
theorem list?_of_ofChars?
    {text list : List Char}
    {phrase : Phrase}
    (found : ofChars? text = some phrase)
    (listed : phrase.list? = some list) :
    text.dropWhile (· != '(') = list := by
  obtain ⟨formed, laid⟩ := ofChars?_eq_some_iff.mp found
  obtain ⟨front, rest, rfl, rfl, _, noParenthesis, _⟩ :=
    formed.exists_front laid listed
  have notInFront : '(' ∉ front := fun member =>
    (noParenthesis '(' member).1 rfl
  exact (Line.cut_of_append notInFront rfl).2

end Phrase

end WerewolfSpeech
