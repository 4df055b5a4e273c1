import WerewolfSpeech.Proofs.Line.Groups
import WerewolfSpeech.Proofs.Reading.Phrase

namespace WerewolfSpeech.Grammar

/-!
# The grammar of lines

The lines that strict reading accepts are those of an inductive grammar. The grammar says
nothing of the order in which shapes are tried or of the way clause lists are split: an
atomic line is a sequence of words with gaps, and any other line is a sequence of words
with one more gap and a clause list behind them, whose clauses are lines themselves once
their ends are trimmed. The level of a line bounds how deep its clauses are nested.
-/

/-- A reference to an agent: the word for anyone, or an admissible index in brackets. -/
inductive IsReference : Word → Prop where
  | anyone :
      IsReference ['A', 'N', 'Y']
  | numbered
      {digits : List Char}
      (isDigits : Numeral.IsDigits digits)
      (small : Nat.ofDigitChars 10 digits 0 ≤ 2147483647) :
      IsReference (Agent.bracketed digits)

/-- The words that name the subject of a line: a reference, or nothing. -/
inductive IsSubject : List Word → Prop where
  | unnamed :
      IsSubject []
  | named
      {word : Word}
      (reference : IsReference word) :
      IsSubject [word]

/-- ASCII digits behind an optional minus sign whose value fits 32 bits with a sign. -/
inductive IsInteger : Word → Prop where
  | unsigned
      {digits : List Char}
      (isDigits : Numeral.IsDigits digits)
      (fits : Nat.ofDigitChars 10 digits 0 ≤ 2147483647) :
      IsInteger digits
  | negative
      {digits : List Char}
      (isDigits : Numeral.IsDigits digits)
      (fits : Nat.ofDigitChars 10 digits 0 ≤ 2147483648) :
      IsInteger ('-' :: digits)

/-- ASCII digits whose value fits 32 bits. -/
def IsNatural
    (word : Word) :
    Prop :=
  Numeral.IsDigits word ∧ Nat.ofDigitChars 10 word 0 ≤ 4294967295

/-- The words of a line without clauses. -/
inductive Atomic : List Word → Prop where
  | silence
      (kind : Silence) :
      Atomic [Vocabulary.word kind.topic]
  | stance
      {subject : List Word}
      {day index : Word}
      (kind : Stance)
      (channel : Channel)
      (isSubject : IsSubject subject)
      (dayIsInteger : IsInteger day)
      (indexIsInteger : IsInteger index) :
      Atomic
        (subject ++
          [Vocabulary.word kind.topic, Vocabulary.word channel,
            'd' :: 'a' :: 'y' :: day, 'I' :: 'D' :: ':' :: index])
  | disclosure
      {subject : List Word}
      {target : Word}
      (kind : Disclosure)
      (role : Role)
      (isSubject : IsSubject subject)
      (isReference : IsReference target) :
      Atomic (subject ++ [Vocabulary.word kind.topic, target, Vocabulary.word role])
  | finding
      {subject : List Word}
      {target : Word}
      (kind : Finding)
      (species : Species)
      (isSubject : IsSubject subject)
      (isReference : IsReference target) :
      Atomic (subject ++ [Vocabulary.word kind.topic, target, Vocabulary.word species])
  | deed
      {subject : List Word}
      {target : Word}
      (kind : Deed)
      (isSubject : IsSubject subject)
      (isReference : IsReference target) :
      Atomic (subject ++ [Vocabulary.word kind.topic, target])

/-- The words that stand before a clause list, and how many clauses the list has to have. -/
inductive Opening : List Word → Nat → Prop where
  | addressed
      {subject : List Word}
      {target : Word}
      (operator : Operator)
      (addresses : operator = .request ∨ operator = .inquire)
      (isSubject : IsSubject subject)
      (isReference : IsReference target) :
      Opening (subject ++ [Vocabulary.word operator, target]) 1
  | single
      {subject : List Word}
      (operator : Operator)
      (takesOne : operator = .not ∨ operator = .request)
      (isSubject : IsSubject subject) :
      Opening (subject ++ [Vocabulary.word operator]) 1
  | pair
      {subject : List Word}
      (operator : Operator)
      (takesTwo : operator = .because ∨ operator = .xor)
      (isSubject : IsSubject subject) :
      Opening (subject ++ [Vocabulary.word operator]) 2
  | several
      {subject : List Word}
      {count : Nat}
      (operator : Operator)
      (takesSome : operator = .and ∨ operator = .or)
      (notNone : 1 ≤ count)
      (isSubject : IsSubject subject) :
      Opening (subject ++ [Vocabulary.word operator]) count
  | dated
      {subject : List Word}
      {day : Word}
      (isSubject : IsSubject subject)
      (isNatural : IsNatural day) :
      Opening (subject ++ [Vocabulary.word Operator.day, day]) 1

/-- Groups in parentheses with nothing but blanks between them, of which there may be none. -/
inductive ClauseList : List (List Char) → List Char → Prop where
  | last
      (group : List Char) :
      ClauseList [group] ('(' :: (group ++ [')']))
  | more
      (group : List Char)
      {blanks list : List Char}
      {groups : List (List Char)}
      (allBlank : ∀ character ∈ blanks, Text.isBlank character = true)
      (rest : ClauseList groups list) :
      ClauseList (group :: groups) ('(' :: (group ++ ')' :: (blanks ++ list)))

/-- A line whose clauses are nested at most as deep as the level says. -/
inductive Derivable : Nat → List Char → Prop where
  | atomic
      {level : Nat}
      {words : List Word}
      {text : List Char}
      (atomic : Atomic words)
      (spaced : Line.Spaced words text) :
      Derivable level text
  | joined
      {level : Nat}
      {words : List Word}
      {groups : List (List Char)}
      {front gap list : List Char}
      (opening : Opening words groups.length)
      (spaced : Line.Spaced words front)
      (isGap : Line.IsGap gap)
      (clauseList : ClauseList groups list)
      (oneLine : '\n' ∉ list)
      (clauses : ∀ group ∈ groups, Derivable level (Text.trim group)) :
      Derivable (level + 1) (front ++ gap ++ list)

/-- A line over given clauses: an atomic one, or words before a list of such clauses. -/
inductive Composed (Below : List Char → Prop) : List Char → Prop where
  | atomic
      {words : List Word}
      {text : List Char}
      (atomic : Atomic words)
      (spaced : Line.Spaced words text) :
      Composed Below text
  | joined
      {words : List Word}
      {groups : List (List Char)}
      {front gap list : List Char}
      (opening : Opening words groups.length)
      (spaced : Line.Spaced words front)
      (isGap : Line.IsGap gap)
      (clauseList : ClauseList groups list)
      (oneLine : '\n' ∉ list)
      (clauses : ∀ group ∈ groups, Below group) :
      Composed Below (front ++ gap ++ list)

/-- A clause list has a clause. -/
theorem ClauseList.ne_nil
    {groups : List (List Char)}
    {list : List Char}
    (clauseList : ClauseList groups list) :
    groups ≠ [] := by
  cases clauseList <;> simp

/-- A line at the lowest level has no clauses. -/
theorem derivable_zero_iff
    {text : List Char} :
    Derivable 0 text ↔ Composed (fun _ => False) text := by
  constructor
  · intro derivable
    cases derivable with
    | atomic atomic spaced =>
        exact .atomic atomic spaced
  · intro composed
    cases composed with
    | atomic atomic spaced =>
        exact .atomic atomic spaced
    | joined opening spaced isGap clauseList oneLine clauses =>
        obtain ⟨first, member⟩ :=
          List.exists_mem_of_ne_nil _ clauseList.ne_nil
        exact absurd (clauses first member) id

/-- The clauses of a line above the lowest level are one level lower. -/
theorem derivable_succ_iff
    {level : Nat}
    {text : List Char} :
    Derivable (level + 1) text ↔
      Composed (fun group => Derivable level (Text.trim group)) text := by
  constructor
  · intro derivable
    cases derivable with
    | atomic atomic spaced =>
        exact .atomic atomic spaced
    | joined opening spaced isGap clauseList oneLine clauses =>
        exact .joined opening spaced isGap clauseList oneLine clauses
  · intro composed
    cases composed with
    | atomic atomic spaced =>
        exact .atomic atomic spaced
    | joined opening spaced isGap clauseList oneLine clauses =>
        exact .joined opening spaced isGap clauseList oneLine clauses

/-- A clause list begins and ends with a parenthesis. -/
theorem ClauseList.ends
    {groups : List (List Char)}
    {list : List Char}
    (clauseList : ClauseList groups list) :
    list.head? = some '(' ∧ list.getLast? = some ')' := by
  induction clauseList with
  | last group =>
      exact ⟨rfl, List.getLast?_eq_some_iff.mpr ⟨'(' :: group, rfl⟩⟩
  | more group allBlank rest inductionHypothesis =>
      obtain ⟨inside, rfl⟩ :=
        List.getLast?_eq_some_iff.mp inductionHypothesis.2
      refine ⟨rfl, ?_⟩
      rw [← List.cons_append, ← List.append_assoc, ← List.cons_append,
        ← List.append_assoc]
      exact List.getLast?_concat

/-- A clause list with balanced clauses is a sequence of balanced groups. -/
theorem ClauseList.grouped
    {groups : List (List Char)}
    {list : List Char}
    (clauseList : ClauseList groups list)
    (balanced : ∀ group ∈ groups, Line.isBalanced group = true) :
    Line.Grouped groups list := by
  have noBlanks :
      ∀ blank ∈ ([] : List Char), Text.isBlank blank = true := by
    simp
  induction clauseList with
  | last group =>
      exact .more noBlanks (balanced group List.mem_cons_self)
        (.done noBlanks)
  | more group allBlank rest inductionHypothesis =>
      have restGrouped :=
        inductionHypothesis fun other member =>
          balanced other (List.mem_cons_of_mem group member)
      exact .more noBlanks (balanced group List.mem_cons_self)
        (restGrouped.blanks_append allBlank)

/-- A sequence of groups without blanks behind it is a clause list behind blanks. -/
theorem exists_clauseList
    {groups : List (List Char)}
    {text : List Char}
    (grouped : Line.Grouped groups text)
    (nonempty : groups ≠ [])
    (endNotBlank : Line.endsBlank text = false) :
    ∃ blanks list,
      (∀ character ∈ blanks, Text.isBlank character = true) ∧
        text = blanks ++ list ∧ ClauseList groups list := by
  induction grouped with
  | done allBlank =>
      exact absurd rfl nonempty
  | @more blanks group groups text allBlank balanced rest inductionHypothesis =>
      refine ⟨blanks, _, allBlank, rfl, ?_⟩
      have restEnds : Line.endsBlank text = false := by
        by_cases noText : text = []
        · subst noText
          rfl
        · have sameEnd :=
            Line.endsBlank_append noText
              (blanks ++ '(' :: (group ++ [')']))
          rw [← sameEnd]
          simpa using endNotBlank
      cases groups with
      | nil =>
          cases rest with
          | done restBlank =>
              cases text with
              | nil =>
                  exact .last group
              | cons first others =>
                  have isGap : Line.IsGap (first :: others) :=
                    ⟨by simp, restBlank⟩
                  rw [isGap.endsBlank] at restEnds
                  cases restEnds
      | cons second others =>
          obtain ⟨between, list, betweenBlank, rfl, clauseList⟩ :=
            inductionHypothesis (by simp) restEnds
          exact .more group betweenBlank clauseList

/-- A sequence of groups without blanks around it is a clause list. -/
theorem clauseList_of_grouped
    {groups : List (List Char)}
    {list : List Char}
    (grouped : Line.Grouped groups list)
    (nonempty : groups ≠ [])
    (opens : list.head? = some '(')
    (closes : list.getLast? = some ')') :
    ClauseList groups list := by
  have endNotBlank : Line.endsBlank list = false := by
    rw [Line.endsBlank, closes]
    decide
  obtain ⟨blanks, clauses, allBlank, rfl, clauseList⟩ :=
    exists_clauseList grouped nonempty endNotBlank
  cases blanks with
  | nil =>
      exact clauseList
  | cons blank others =>
      have isBlank := allBlank blank List.mem_cons_self
      cases opens
      exact absurd isBlank (by decide)

end WerewolfSpeech.Grammar
