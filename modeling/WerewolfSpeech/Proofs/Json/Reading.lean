import Mathlib.Data.List.DropRight
import WerewolfSpeech.Proofs.Json.Grammar
import WerewolfSpeech.Proofs.Json.Text

namespace WerewolfSpeech.Json

/-!
# Whatever the grammar spells is read

A reader takes a token off the front of a text and leaves the rest of it. So each statement
leaves open what stands behind the token. Only a number has to be told where it ends: what
follows may not continue it. The text of a value is as long as the reader has fuel for,
because each step of reading takes a character off the text.
-/

/-! ## Blanks -/

private theorem skipBlanks_append
    {blanks : List Char}
    (areBlanks : Blanks blanks)
    (text : List Char) :
    skipBlanks (blanks ++ text) = skipBlanks text :=
  List.dropWhile_append_of_pos areBlanks

private theorem skipBlanks_cons
    {first : Char}
    (notBlank : isBlank first = false)
    (rest : List Char) :
    skipBlanks (first :: rest) = first :: rest := by
  rw [skipBlanks, List.dropWhile_cons, notBlank]
  rfl

private theorem skipBlanks_append_cons
    {blanks : List Char}
    {first : Char}
    (areBlanks : Blanks blanks)
    (notBlank : isBlank first = false)
    (rest : List Char) :
    skipBlanks (blanks ++ first :: rest) = first :: rest := by
  rw [skipBlanks_append areBlanks, skipBlanks_cons notBlank]

/-- What is left behind blanks begins with none. -/
private theorem skipBlanks_skipBlanks
    (text : List Char) :
    skipBlanks (skipBlanks text) = skipBlanks text :=
  List.dropWhile_idempotent isBlank text

/-- A value is read behind blanks as it is without them. -/
private theorem readValue?_append
    {blanks : List Char}
    (areBlanks : Blanks blanks)
    (fuel : Nat)
    (text : List Char) :
    readValue? fuel (blanks ++ text) = readValue? fuel text := by
  cases fuel with
  | zero =>
      rfl
  | succ fuel =>
      rw [readValue?, readValue?, skipBlanks_append areBlanks]

/-- Skipping the blanks in front of a value does not change it. -/
private theorem readValue?_skipBlanks
    (fuel : Nat)
    (text : List Char) :
    readValue? fuel (skipBlanks text) = readValue? fuel text := by
  cases fuel with
  | zero =>
      rfl
  | succ fuel =>
      rw [readValue?, readValue?, skipBlanks_skipBlanks]

/-! ## Numbers -/

/-- A text that does not begin with a digit. -/
def NoDigit
    (text : List Char) :
    Prop :=
  ∀ character ∈ text.head?, character.isDigit = false

/-- A text that does not continue a number in front of it. -/
def EndsNumber
    (text : List Char) :
    Prop :=
  ∀ character ∈ text.head?,
    character.isDigit = false ∧
      character ≠ '.' ∧ character ≠ 'e' ∧ character ≠ 'E'

private theorem digits?_append
    {text rest : List Char}
    (isDigits : Numeral.IsDigits text)
    (noDigit : NoDigit rest) :
    digits? (text ++ rest) = some (text, rest) := by
  obtain ⟨nonempty, each⟩ := isDigits
  have taken : (text ++ rest).takeWhile Char.isDigit = text := by
    rw [List.takeWhile_append_of_pos each]
    cases rest with
    | nil =>
        simp
    | cons first others =>
        simp [noDigit first rfl]
  have dropped : (text ++ rest).dropWhile Char.isDigit = rest := by
    rw [List.dropWhile_append_of_pos each]
    cases rest with
    | nil =>
        rfl
    | cons first others =>
        simp [noDigit first rfl]
  rw [digits?, taken, dropped, if_neg (by simpa using nonempty)]

private theorem whole?_append
    {text rest : List Char}
    (isWhole : IsWhole text)
    (noDigit : NoDigit rest) :
    whole? (text ++ rest) = some (text, rest) := by
  cases isWhole with
  | zero =>
      have noneBehind : rest.head?.any Char.isDigit = false := by
        cases rest with
        | nil => rfl
        | cons first others => exact noDigit first rfl
      simp [whole?, noneBehind]
  | digits isDigits noZero =>
      have found := digits?_append isDigits noDigit
      unfold whole?
      split
      · next others begins =>
          -- The digits are not empty, so a zero in front of the text would be theirs.
          obtain ⟨nonempty, _⟩ := isDigits
          cases text with
          | nil =>
              exact absurd rfl nonempty
          | cons first digits =>
              cases begins
              exact absurd rfl noZero
      · exact found

private theorem fraction?_append
    {text rest : List Char}
    (isFraction : IsFraction text)
    (noDigit : NoDigit rest)
    (noPoint : rest.head? ≠ some '.') :
    fraction? (text ++ rest) = some (text, rest) := by
  cases isFraction with
  | absent =>
      cases rest with
      | nil =>
          rfl
      | cons first others =>
          have notPoint : first ≠ '.' := by
            rintro rfl
            exact noPoint rfl
          rw [List.nil_append, fraction?.eq_2]
          intro others begins
          exact notPoint (List.cons.inj begins).1
  | point isDigits =>
      rw [List.cons_append, fraction?, digits?_append isDigits noDigit]
      rfl

private theorem exponent?_append
    {text rest : List Char}
    (isExponent : IsExponent text)
    (ends : EndsNumber rest) :
    exponent? (text ++ rest) = some (text, rest) := by
  cases isExponent with
  | absent =>
      cases rest with
      | nil =>
          rfl
      | cons first others =>
          obtain ⟨_, _, notLower, notUpper⟩ := ends first rfl
          simp [exponent?, notLower, notUpper]
  | @power mark sign digits isMark isSign isDigits =>
      have signed :
          exponentSign (sign ++ (digits ++ rest)) = (sign, digits ++ rest) := by
        rcases isSign with rfl | rfl | rfl
        · obtain ⟨nonempty, each⟩ := isDigits
          cases digits with
          | nil =>
              exact absurd rfl nonempty
          | cons first others =>
              have isDigit := each first List.mem_cons_self
              rw [List.nil_append, List.cons_append, exponentSign.eq_3]
              · rintro _ ⟨rfl, _⟩
                exact absurd isDigit (by decide)
              · rintro _ ⟨rfl, _⟩
                exact absurd isDigit (by decide)
        · rfl
        · rfl
      have found :=
        digits?_append isDigits fun character begins =>
          (ends character begins).1
      simp [exponent?, isMark, signed, found]

/-- An exponent and what ends a number begin neither with a digit nor with a point. -/
private theorem head?_exponent_append
    {exponent rest : List Char}
    (isExponent : IsExponent exponent)
    (ends : EndsNumber rest) :
    NoDigit (exponent ++ rest) ∧ (exponent ++ rest).head? ≠ some '.' := by
  cases isExponent with
  | absent =>
      refine ⟨fun character begins => (ends character begins).1, ?_⟩
      intro begins
      exact (ends '.' begins).2.1 rfl
  | power isMark isSign isDigits =>
      rcases isMark with rfl | rfl <;> simp [NoDigit]

/-- The part of a number before the point begins with a digit. -/
private theorem IsWhole.exists_first
    {whole : List Char}
    (isWhole : IsWhole whole) :
    ∃ first others, whole = first :: others ∧ first.isDigit = true := by
  cases isWhole with
  | zero =>
      exact ⟨'0', [], rfl, by decide⟩
  | digits isDigits _ =>
      obtain ⟨nonempty, each⟩ := isDigits
      obtain ⟨first, others, rfl⟩ := List.exists_cons_of_ne_nil nonempty
      exact ⟨first, others, rfl, each first List.mem_cons_self⟩

/-- A number begins with a digit or a minus sign. -/
private theorem IsNumber.exists_first
    {literal : List Char}
    (isNumber : IsNumber literal) :
    ∃ first others,
      literal = first :: others ∧ (first.isDigit = true ∨ first = '-') := by
  cases isNumber with
  | mk isSign isWhole _ _ =>
      obtain ⟨first, others, rfl, isDigit⟩ := isWhole.exists_first
      rcases isSign with rfl | rfl
      · exact ⟨first, _, rfl, Or.inl isDigit⟩
      · exact ⟨'-', _, rfl, Or.inr rfl⟩

private theorem magnitude?_append
    {whole fraction exponent rest : List Char}
    (isWhole : IsWhole whole)
    (isFraction : IsFraction fraction)
    (isExponent : IsExponent exponent)
    (ends : EndsNumber rest) :
    magnitude? (whole ++ fraction ++ exponent ++ rest) =
      some (whole ++ fraction ++ exponent, rest) := by
  obtain ⟨noDigit, noPoint⟩ := head?_exponent_append isExponent ends
  have noDigitBehind : NoDigit (fraction ++ (exponent ++ rest)) := by
    cases isFraction with
    | absent =>
        exact noDigit
    | point isDigits =>
        rintro character ⟨⟩
        decide
  rw [List.append_assoc, List.append_assoc, magnitude?,
    whole?_append isWhole noDigitBehind]
  simp [fraction?_append isFraction noDigit noPoint,
    exponent?_append isExponent ends]

/-- A literal that has been read leaves what stands behind it. -/
private theorem after?_append
    (literal rest : List Char) :
    Text.after? literal (literal ++ rest) = some rest := by
  induction literal with
  | nil =>
      rw [Text.after?, List.nil_append]
  | cons first others inductionHypothesis =>
      rw [List.cons_append, Text.after?, if_pos rfl, inductionHypothesis]

/-! ## Strings -/

private theorem units?_append
    {inside : List Char}
    {units : List Nat}
    (spells : SpellsUnits inside units)
    (rest : List Char) :
    units? (inside ++ '"' :: rest) = some (units, rest) := by
  induction spells with
  | nil =>
      rw [List.nil_append, units?]
  | plain notQuote notBackslash notControl _ inductionHypothesis =>
      rw [List.cons_append, units?_plain notQuote notBackslash notControl,
        inductionHypothesis]
      rfl
  | escaped known _ inductionHypothesis =>
      rw [List.cons_append, List.cons_append, units?_escaped known,
        inductionHypothesis]
      rfl
  | hexadecimal known _ inductionHypothesis =>
      simp [units?, known, inductionHypothesis, prepend]

private theorem readNumber?_append
    {literal rest : List Char}
    (isNumber : IsNumber literal)
    (ends : EndsNumber rest) :
    readNumber? (literal ++ rest) =
      some (.number (String.ofList literal), rest) := by
  cases isNumber with
  | mk isSign isWhole isFraction isExponent =>
      have found := magnitude?_append isWhole isFraction isExponent ends
      rcases isSign with rfl | rfl
      · obtain ⟨first, others, begins, isDigit⟩ := isWhole.exists_first
        rw [List.nil_append, readNumber?.eq_2, found]
        · rfl
        · intro text signed
          rw [begins] at signed
          cases signed
          exact absurd isDigit (by decide)
      · rw [List.append_assoc, List.singleton_append, readNumber?, found]
        rfl

/-! ## Values -/

/-- A reader with enough fuel takes the text off the front of another and finds the value. -/
def TakenOff
    (text : List Char)
    (value : Json) :
    Prop :=
  ∀ rest fuel,
    EndsNumber rest →
    2 * text.length ≤ fuel →
    ∃ blanks,
      Blanks blanks ∧
        readValue? fuel (text ++ rest) = some (value, blanks ++ rest)

/-- A text is taken off if a step of reading takes it off without leaving blanks. -/
private theorem takenOff_of_step
    {first : Char}
    {others : List Char}
    {value : Json}
    (step :
      ∀ rest fuel,
        EndsNumber rest →
        2 * others.length + 1 ≤ fuel →
        readValue? (fuel + 1) (first :: (others ++ rest)) =
          some (value, rest)) :
    TakenOff (first :: others) value := by
  intro rest fuel ends enough
  rw [List.length_cons] at enough
  obtain ⟨fuel, rfl⟩ : ∃ less, fuel = less + 1 :=
    Nat.exists_eq_succ_of_ne_zero (by omega)
  exact ⟨[], by simp [Blanks], step rest fuel ends (by omega)⟩

/-- A value that begins like a number is read as a number. -/
private theorem readValue?_number
    {first : Char}
    (begins : first.isDigit = true ∨ first = '-')
    (fuel : Nat)
    (text : List Char) :
    readValue? (fuel + 1) (first :: text) = readNumber? (first :: text) := by
  have other :
      ∀ character : Char,
        character.isDigit = false → character ≠ '-' → first ≠ character := by
    rintro _ notDigit notMinus rfl
    rcases begins with isDigit | isMinus
    · exact absurd isDigit (by simp [notDigit])
    · exact notMinus isMinus
  have notBlank : isBlank first = false := by
    simp [isBlank, other]
  rw [readValue?, skipBlanks_cons notBlank]
  simp [other]

private theorem takenOff_number
    {literal : List Char}
    (isNumber : IsNumber literal) :
    TakenOff literal (.number (String.ofList literal)) := by
  obtain ⟨first, others, begins, isFirst⟩ := isNumber.exists_first
  rw [begins] at isNumber ⊢
  refine takenOff_of_step fun rest fuel ends _ => ?_
  rw [readValue?_number isFirst, ← List.cons_append,
    readNumber?_append isNumber ends]

private theorem readString?_append
    {inside : List Char}
    {units : List Nat}
    (spells : SpellsUnits inside units)
    (rest : List Char) :
    readString? (inside ++ '"' :: rest) =
      some ((textOfUnits? units).map String.ofList, rest) := by
  rw [readString?, units?_append spells]
  rfl

private theorem takenOff_string
    {inside : List Char}
    {units : List Nat}
    (spells : SpellsUnits inside units) :
    TakenOff ('"' :: (inside ++ ['"'])) (ofUnits units) := by
  refine takenOff_of_step fun rest fuel _ _ => ?_
  rw [List.append_assoc, List.singleton_append, readValue?,
    skipBlanks_cons (by decide)]
  simp only [readString?_append spells]
  rfl

/-- Items are not read where a bracket closes the array. -/
private theorem readItems?_closing
    (fuel : Nat)
    (rest : List Char) :
    readItems? fuel (']' :: rest) = none := by
  cases fuel with
  | zero =>
      rfl
  | succ fuel =>
      have noValue : readValue? fuel (']' :: rest) = none := by
        cases fuel with
        | zero =>
            rfl
        | succ fuel =>
            rw [readValue?, skipBlanks_cons (by decide)]
            rfl
      rw [readItems?, noValue]

private theorem readValue?_array
    {fuel : Nat}
    {text rest : List Char}
    {items : List Json}
    (found : readItems? fuel text = some (items, rest)) :
    readValue? (fuel + 1) ('[' :: text) = some (.array items, rest) := by
  have foundBehind : readItems? fuel (skipBlanks text) = some (items, rest) := by
    rw [← found]
    cases fuel with
    | zero =>
        rfl
    | succ fuel =>
        rw [readItems?, readItems?, readValue?_skipBlanks]
  rw [readValue?, skipBlanks_cons (by decide)]
  simp only
  split
  · next begins =>
      rw [begins, readItems?_closing] at foundBehind
      cases foundBehind
  · rw [foundBehind]
    rfl

private theorem readValue?_object
    {fuel : Nat}
    {text rest : List Char}
    {object : Json}
    (found : readMembers? fuel text = some (object, rest)) :
    readValue? (fuel + 1) ('\x7b' :: text) = some (object, rest) := by
  have foundBehind :
      readMembers? fuel (skipBlanks text) = some (object, rest) := by
    rw [← found]
    cases fuel with
    | zero =>
        rfl
    | succ fuel =>
        rw [readMembers?, readMembers?, skipBlanks_skipBlanks]
  rw [readValue?, skipBlanks_cons (by decide)]
  simp only
  split
  · next begins =>
      rw [begins] at foundBehind
      cases fuel with
      | zero =>
          cases foundBehind
      | succ fuel =>
          rw [readMembers?, skipBlanks_cons (by decide)] at foundBehind
          cases foundBehind
  · exact foundBehind

/-- A character that stands between the items of a list or closes the list ends a number. -/
private theorem endsNumber_cons
    {first : Char}
    (between : first = ',' ∨ first = ']' ∨ first = '\x7d')
    (rest : List Char) :
    EndsNumber (first :: rest) := by
  rintro character ⟨⟩
  rcases between with rfl | rfl | rfl <;> decide

/-- A comma stands between the first of several texts and the others. -/
theorem separated_cons_cons
    (first second : List Char)
    (others : List (List Char)) :
    separated (first :: second :: others) =
      first ++ ',' :: separated (second :: others) := by
  rw [separated, List.intercalate_cons_cons, List.append_assoc]
  rfl

private theorem readItems?_separated
    {items : List SpelledItem}
    (nonempty : items ≠ [])
    (each : ∀ item ∈ items, TakenOff item.text item.value)
    {fuel : Nat}
    (enough :
      2 * (separated (items.map SpelledItem.text)).length + 1 ≤ fuel)
    (rest : List Char) :
    readItems? fuel (separated (items.map SpelledItem.text) ++ ']' :: rest) =
      some (items.map SpelledItem.value, rest) := by
  induction items generalizing fuel with
  | nil =>
      exact absurd rfl nonempty
  | cons first others inductionHypothesis =>
      rw [List.forall_mem_cons] at each
      obtain ⟨fuel, rfl⟩ : ∃ less, fuel = less + 1 :=
        Nat.exists_eq_succ_of_ne_zero (by omega)
      cases others with
      | nil =>
          rw [List.map_singleton, separated, List.intercalate_singleton]
            at enough ⊢
          obtain ⟨blanks, areBlanks, read⟩ :=
            each.1 (']' :: rest) fuel (endsNumber_cons (by simp) rest)
              (by omega)
          rw [readItems?, read]
          simp only [skipBlanks_append_cons areBlanks (show isBlank ']' = false by decide)]
          rfl
      | cons second more =>
          rw [List.map_cons, List.map_cons, separated_cons_cons,
            ← List.map_cons] at enough ⊢
          rw [List.length_append, List.length_cons] at enough
          obtain ⟨blanks, areBlanks, read⟩ :=
            each.1
              (',' ::
                (separated ((second :: more).map SpelledItem.text) ++
                  ']' :: rest))
              fuel (endsNumber_cons (by simp) _) (by omega)
          have readOthers :
              readItems? fuel
                  (separated ((second :: more).map SpelledItem.text) ++
                    ']' :: rest) =
                some ((second :: more).map SpelledItem.value, rest) :=
            inductionHypothesis (List.cons_ne_nil second more) each.2
              (by omega)
          rw [List.append_assoc, List.cons_append, readItems?, read]
          simp only [skipBlanks_append_cons areBlanks (show isBlank ',' = false by decide)]
          rw [readOthers]
          rfl

/-- The name of a member is read, and then its value. -/
private theorem readMembers?_name
    {nameText : List Char}
    {name : Option String}
    (spells : SpellsName nameText name)
    (fuel : Nat)
    (text : List Char) :
    readMembers? (fuel + 1) (nameText ++ ':' :: text) =
      match readValue? fuel text with
      | none => none
      | some (value, rest) =>
          match skipBlanks rest with
          | ',' :: rest =>
              (readMembers? fuel rest).map fun found =>
                (withMember name value found.1, found.2)
          | '\x7d' :: rest => some (withMember name value (.object []), rest)
          | _ => none := by
  cases spells with
  | @mk before inside behind units blanksBefore spells blanksBehind =>
      have colon :
          Text.after? [':'] (skipBlanks (behind ++ ':' :: text)) =
            some text := by
        rw [skipBlanks_append_cons blanksBehind (by decide)]
        rfl
      rw [List.append_assoc, List.cons_append, List.append_assoc,
        List.cons_append, readMembers?,
        skipBlanks_append_cons blanksBefore (by decide)]
      simp only [Text.after?, if_pos, readString?_append spells]
      rewrite [colon]
      rfl

private theorem readMembers?_separated
    {members : List SpelledMember}
    (nonempty : members ≠ [])
    (names : ∀ member ∈ members, SpellsName member.nameText member.name)
    (values :
      ∀ member ∈ members, TakenOff member.item.text member.item.value)
    {fuel : Nat}
    (enough :
      2 * (separated (members.map SpelledMember.text)).length + 1 ≤ fuel)
    (rest : List Char) :
    readMembers? fuel
        (separated (members.map SpelledMember.text) ++ '\x7d' :: rest) =
      some (ofMembers members, rest) := by
  induction members generalizing fuel with
  | nil =>
      exact absurd rfl nonempty
  | cons first others inductionHypothesis =>
      rw [List.forall_mem_cons] at names values
      obtain ⟨fuel, rfl⟩ : ∃ less, fuel = less + 1 :=
        Nat.exists_eq_succ_of_ne_zero (by omega)
      cases others with
      | nil =>
          rw [List.map_singleton, separated, List.intercalate_singleton,
            SpelledMember.text] at enough ⊢
          rw [List.length_append, List.length_cons] at enough
          obtain ⟨blanks, areBlanks, read⟩ :=
            values.1 ('\x7d' :: rest) fuel (endsNumber_cons (by simp) rest)
              (by omega)
          rw [List.append_assoc, List.cons_append,
            readMembers?_name names.1, read]
          simp only [skipBlanks_append_cons areBlanks (show isBlank '\x7d' = false by decide)]
          rfl
      | cons second more =>
          rw [List.map_cons, List.map_cons, separated_cons_cons,
            ← List.map_cons, SpelledMember.text] at enough ⊢
          rw [List.length_append, List.length_append, List.length_cons,
            List.length_cons] at enough
          obtain ⟨blanks, areBlanks, read⟩ :=
            values.1
              (',' ::
                (separated ((second :: more).map SpelledMember.text) ++
                  '\x7d' :: rest))
              fuel (endsNumber_cons (by simp) _) (by omega)
          have readOthers :
              readMembers? fuel
                  (separated ((second :: more).map SpelledMember.text) ++
                    '\x7d' :: rest) =
                some (ofMembers (second :: more), rest) :=
            inductionHypothesis (List.cons_ne_nil second more) names.2
              values.2 (by omega)
          rw [List.append_assoc, List.append_assoc, List.cons_append,
            List.cons_append, readMembers?_name names.1, read]
          simp only [skipBlanks_append_cons areBlanks (show isBlank ',' = false by decide)]
          rw [readOthers]
          rfl

/-- Blanks around a text that is taken off do not matter. -/
theorem TakenOff.spaced
    {before text behind : List Char}
    {value : Json}
    (blanksBefore : Blanks before)
    (takenOff : TakenOff text value)
    (blanksBehind : Blanks behind) :
    TakenOff (before ++ (text ++ behind)) value := by
  intro rest fuel ends enough
  have endsBehind : EndsNumber (behind ++ rest) := by
    cases behind with
    | nil =>
        exact ends
    | cons first others =>
        rintro character ⟨⟩
        have blank := blanksBehind first List.mem_cons_self
        have cases :
            first = ' ' ∨ first = '\n' ∨ first = '\r' ∨ first = '\t' := by
          simpa [isBlank, or_assoc] using blank
        rcases cases with rfl | rfl | rfl | rfl <;> decide
  obtain ⟨blanks, areBlanks, read⟩ :=
    takenOff (behind ++ rest) fuel endsBehind
      (by simp only [List.length_append] at enough; omega)
  refine ⟨blanks ++ behind, ?_, ?_⟩
  · intro character member
    rcases List.mem_append.mp member with inBlanks | inBehind
    · exact areBlanks character inBlanks
    · exact blanksBehind character inBehind
  · rw [List.append_assoc, List.append_assoc, readValue?_append blanksBefore,
      read, List.append_assoc]

/-- Every text that the grammar admits is taken off as the value that it spells. -/
theorem Spells.takenOff
    {text : List Char}
    {value : Json}
    (spells : Spells text value) :
    TakenOff text value := by
  induction spells with
  | null =>
      refine takenOff_of_step fun rest fuel _ _ => ?_
      rw [readValue?, skipBlanks_cons (by decide)]
      exact congrArg (Option.map _) (after?_append "ull".toList rest)
  | isTrue =>
      refine takenOff_of_step fun rest fuel _ _ => ?_
      rw [readValue?, skipBlanks_cons (by decide)]
      exact congrArg (Option.map _) (after?_append "rue".toList rest)
  | isFalse =>
      refine takenOff_of_step fun rest fuel _ _ => ?_
      rw [readValue?, skipBlanks_cons (by decide)]
      exact congrArg (Option.map _) (after?_append "alse".toList rest)
  | number isNumber =>
      exact takenOff_number isNumber
  | string spells =>
      exact takenOff_string spells
  | emptyArray blanks =>
      refine takenOff_of_step fun rest fuel _ _ => ?_
      rw [List.append_assoc, List.singleton_append, readValue?,
        skipBlanks_cons (by decide)]
      simp only [skipBlanks_append_cons blanks
        (show isBlank ']' = false by decide)]
  | array nonempty _ each =>
      refine takenOff_of_step fun rest fuel _ enough => ?_
      rw [List.length_append, List.length_singleton] at enough
      rw [List.append_assoc, List.singleton_append]
      exact readValue?_array
        (readItems?_separated nonempty each (by omega) rest)
  | emptyObject blanks =>
      refine takenOff_of_step fun rest fuel _ _ => ?_
      rw [List.append_assoc, List.singleton_append, readValue?,
        skipBlanks_cons (by decide)]
      simp only [skipBlanks_append_cons blanks
        (show isBlank '\x7d' = false by decide)]
  | object nonempty names _ values =>
      refine takenOff_of_step fun rest fuel _ enough => ?_
      rw [List.length_append, List.length_singleton] at enough
      rw [List.append_assoc, List.singleton_append]
      exact readValue?_object
        (readMembers?_separated nonempty names values (by omega) rest)
  | spaced blanksBefore _ blanksBehind takenOff =>
      exact takenOff.spaced blanksBefore blanksBehind

/-- A text is read as the value that it spells. -/
theorem ofText?_of_spells
    {text : String}
    {value : Json}
    (spells : Spells text.toList value) :
    ofText? text = some value := by
  have nothingBehind : EndsNumber [] := by
    simp [EndsNumber]
  obtain ⟨blanks, areBlanks, read⟩ :=
    spells.takenOff [] (2 * text.length + 2) nothingBehind
      (by rw [String.length_toList]; omega)
  have nothingLeft := skipBlanks_append areBlanks []
  simp only [List.append_nil] at read nothingLeft
  rw [ofText?, read]
  simp only [nothingLeft]
  rfl

end WerewolfSpeech.Json
