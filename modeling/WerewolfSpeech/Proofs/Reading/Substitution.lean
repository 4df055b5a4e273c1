import WerewolfSpeech.Proofs.Line.Exchange
import WerewolfSpeech.Proofs.Reading.Canonical

namespace WerewolfSpeech

/-!
# Only what a clause is read as matters

A lenient reader takes a clause for what it is read as and never looks at how it is spelled.
So a clause can be exchanged, wherever it stands, for any other text that is read as the
same content within the levels that are left there, and a clause that cannot be read is as
good as a skipped turn that is written out.
-/

namespace Line

variable {first second : List Char}

/-- An enclosed text stays enclosed when one text within a line is exchanged for another. -/
private theorem isEnclosed_exchange
    (left right : List Char)
    (secondOneLine : '\n' ∉ second)
    (enclosed : isEnclosed (left ++ '(' :: (first ++ ')' :: right)) = true) :
    isEnclosed (left ++ '(' :: (second ++ ')' :: right)) = true := by
  simp only [isEnclosed, Bool.and_eq_true, beq_iff_eq, Bool.not_eq_true',
    List.contains_eq_mem, decide_eq_false_iff_not] at enclosed ⊢
  have lastOf :
      ∀ group : List Char,
        (left ++ '(' :: (group ++ ')' :: right)).getLast? =
          (')' :: right).getLast? := by
    intro group
    have behind :
        left ++ '(' :: (group ++ ')' :: right) =
          (left ++ '(' :: group) ++ ')' :: right := by
      simp
    rw [behind, List.getLast?_append_of_ne_nil _ (by simp)]
  rw [lastOf] at enclosed ⊢
  refine ⟨enclosed.1, ?_⟩
  have oneLine := enclosed.2
  simp only [List.mem_append, List.mem_cons, not_or] at oneLine ⊢
  exact ⟨oneLine.1, by decide, secondOneLine, oneLine.2.2.2⟩

/-- Trimming the texts around an exchange leaves it where it is. -/
private theorem exists_trim_exchange
    {left right : List Char}
    {depth : Nat}
    (opened : left.count '(' = left.count ')' + depth) :
    ∃ left' right' : List Char,
      left'.count '(' = left'.count ')' + depth ∧
        ∀ group,
          Text.trim (left ++ '(' :: (group ++ ')' :: right)) =
            left' ++ '(' :: (group ++ ')' :: right') := by
  refine ⟨Text.trimLeft left, Text.trimRight right, ?_,
    fun group => Text.trim_append_group left group right⟩
  have blanks :=
    count_of_isBalanced
      (isBalanced_of_isBlank fun character (member :
        character ∈ left.takeWhile Text.isBlank) =>
          List.mem_takeWhile_imp member)
  have cut : left.takeWhile Text.isBlank ++ Text.trimLeft left = left :=
    List.takeWhile_append_dropWhile
  rw [← cut, List.count_append, List.count_append] at opened
  omega

end Line

section Exchange

open Line

variable {first second : List Char}

/-- An exchange in the line of a phrase takes place in the clause list of the phrase. -/
private theorem Phrase.Formed.exists_list_exchange
    {phrase : Phrase}
    {list left right : List Char}
    {depth : Nat}
    (secondOneLine : '\n' ∉ second)
    (formed : phrase.Formed)
    (laid : Laid phrase.line (left ++ '(' :: (first ++ ')' :: right)))
    (listed : phrase.list? = some list)
    (opened : left.count '(' = left.count ')' + depth) :
    ∃ inner : List Char,
      inner.count '(' = inner.count ')' + depth ∧
        list = inner ++ '(' :: (first ++ ')' :: right) ∧
          Laid
            ⟨phrase.line.words,
              some (inner ++ '(' :: (second ++ ')' :: right))⟩
            (left ++ '(' :: (second ++ ')' :: right)) := by
  obtain ⟨front, rest, whole, rfl, enclosed, noParenthesis, laidOther⟩ :=
    formed.exists_front laid listed
  have frontCount :=
    count_of_isBalanced (isBalanced_of_not_mem noParenthesis)
  have noOpening : '(' ∉ front := fun member =>
    (noParenthesis '(' member).1 rfl
  rcases cut_at_opening noOpening whole with
      ⟨rfl, rfl⟩ | ⟨inner, rfl, rfl⟩
  · have outermost : depth = 0 := by omega
    subst outermost
    refine ⟨[], rfl, rfl, ?_⟩
    exact laidOther (second ++ ')' :: right)
      (isEnclosed_exchange [] right secondOneLine enclosed)
  · refine ⟨'(' :: inner, ?_, rfl, ?_⟩
    · rw [List.count_append, List.count_append] at opened
      omega
    · have laid :=
        laidOther (inner ++ '(' :: (second ++ ')' :: right))
          (isEnclosed_exchange ('(' :: inner) right secondOneLine
            enclosed)
      simpa using laid

namespace Reading

variable
  (firstIsClause : IsClause first)
  (secondIsClause : IsClause second)

include firstIsClause secondIsClause

/-- A text that is read is read as the same if a clause is exchanged for one read alike. -/
private theorem line_of_exchanged
    {readClause : List Char → Except Diagnosis Content}
    {text other : List Char}
    {depth : Nat}
    {content : Content}
    (exchanged : Exchanged first second (depth + 1) text other)
    (alike :
      ∀ group otherGroup,
        Exchanged first second depth group otherGroup →
        clause .lenient (readClause group) =
          clause .lenient (readClause otherGroup))
    (succeeds : line .lenient readClause text = .ok content) :
    line .lenient readClause other = .ok content := by
  cases exchanged with
  | inside opened =>
      obtain ⟨left, right, opened, trimmed⟩ := exists_trim_exchange opened
      cases readAs_of_line succeeds with
      | stated formed laid states =>
          have noParenthesis :=
            laid.parenthesis_not_mem (Phrase.list?_of_states states)
          rw [trimmed] at noParenthesis
          simp at noParenthesis
      | @joined phrase subject connective list groups clauses formed laid
          joins split groupsRead accepts =>
          rw [trimmed] at laid
          obtain ⟨inner, openedInner, rfl, laidOther⟩ :=
            formed.exists_list_exchange secondIsClause.oneLine laid
              (Phrase.list?_of_joins joins) opened
          obtain ⟨someGroup, grouped⟩ := splitGroups?_eq_some_iff.mp split
          obtain ⟨others, othersGrouped, differ⟩ :=
            exists_grouped_exchange firstIsClause.balanced
              secondIsClause.balanced openedInner grouped
          have someOther : others ≠ [] := by
            rintro rfl
            cases differ
            exact someGroup rfl
          have otherSplit :=
            splitGroups?_eq_some_iff.mpr ⟨someOther, othersGrouped⟩
          have readAlike :
              List.Forall₂
                (fun group otherGroup =>
                  clause .lenient (readClause group) =
                    clause .lenient (readClause otherGroup))
                groups others := by
            refine differ.imp ?_
            rintro group otherGroup (rfl | exchanged)
            · rfl
            · exact alike group otherGroup exchanged
          -- The words of the phrase join the other list just as they join this one.
          obtain ⟨opened, opens⟩ := joins.exists_opens formed
          rw [← opens.sameLine, ← trimmed second] at laidOther
          rw [line_of_laid (opens.formed _) laidOther,
            phrase_of_joins (opens.joins _), Reading.clauses, otherSplit]
          dsimp only
          rw [← Attempt.mapM_of_forall₂ readAlike, groupsRead]
          exact Content.compose_eq_ok_iff.mpr ⟨accepts, rfl⟩

/-- A clause is read alike if a clause of it is exchanged for one that is read alike. -/
private theorem clause_line_of_exchanged
    {readClause : List Char → Except Diagnosis Content}
    {text other : List Char}
    {depth : Nat}
    (exchanged : Exchanged first second (depth + 1) text other)
    (alike :
      ∀ group otherGroup,
        Exchanged first second depth group otherGroup →
        clause .lenient (readClause group) =
          clause .lenient (readClause otherGroup)) :
    clause .lenient (line .lenient readClause text) =
      clause .lenient (line .lenient readClause other) := by
  cases read : line .lenient readClause text with
  | ok content =>
      rw [line_of_exchanged firstIsClause secondIsClause exchanged alike
        read]
  | error diagnosis =>
      cases otherRead : line .lenient readClause other with
      | ok content =>
          have readBack :=
            line_of_exchanged secondIsClause firstIsClause exchanged.symm
              (fun group otherGroup exchanged =>
                (alike otherGroup group exchanged.symm).symm) otherRead
          cases read.symm.trans readBack
      | error otherDiagnosis =>
          rfl

/--
At any depth a clause can be exchanged for one that is read alike within the levels that
are left there. Where no level is left, every clause is skipped.
-/
private theorem clause_beneath_of_exchanged
    {limit levels depth : Nat}
    {text other : List Char}
    (exchanged : Exchanged first second depth text other)
    (alike :
      clause .lenient (beneath .lenient limit (levels - depth) first) =
        clause .lenient (beneath .lenient limit (levels - depth) second)) :
    clause .lenient (beneath .lenient limit levels text) =
      clause .lenient (beneath .lenient limit levels other) := by
  induction levels generalizing depth text other with
  | zero =>
      rfl
  | succ levels inductionHypothesis =>
      cases depth with
      | zero =>
          cases exchanged
          exact alike
      | succ depth =>
          rw [Nat.add_sub_add_right] at alike
          rw [beneath_succ, beneath_succ]
          exact clause_line_of_exchanged firstIsClause secondIsClause
            exchanged fun group otherGroup exchanged =>
              inductionHypothesis exchanged alike

end Reading

end Exchange

namespace Reading

/-- The limit that a diagnosis would report does not matter where diagnoses are dropped. -/
private theorem clause_beneath_limit
    (limit otherLimit levels : Nat)
    (text : List Char) :
    clause .lenient (beneath .lenient limit levels text) =
      clause .lenient (beneath .lenient otherLimit levels text) := by
  induction levels generalizing text with
  | zero =>
      rfl
  | succ levels inductionHypothesis =>
      rw [beneath_succ, beneath_succ,
        line_congr fun group _ => inductionHypothesis group]

end Reading

namespace Content

/-- What a whole line is read as within a limit is what a clause above it is read as. -/
private theorem clause_beneath_eq_readOrSkip
    {maxDepth depth : Nat}
    (reached : depth ≤ maxDepth)
    (text : String) :
    Reading.clause .lenient
        (Reading.beneath .lenient maxDepth (maxDepth + 1 - depth)
          text.toList) =
      .ok (readOrSkip (maxDepth - depth) text) := by
  rw [← clause_readOrSkip, Nat.sub_add_comm reached]
  exact Reading.clause_beneath_limit _ _ _ _

private theorem readOrSkip_of_error
    {maxDepth : Nat}
    {text : String}
    {diagnosis : Diagnosis}
    (fails :
      Reading.within Content .lenient maxDepth maxDepth text.toList =
        .error diagnosis) :
    readOrSkip maxDepth text = skip := by
  rw [readOrSkip, Reading.leniently, fails]
  rfl

private theorem readOrSkip_skip
    (maxDepth : Nat) :
    readOrSkip maxDepth "Skip" = skip := by
  cases maxDepth <;> rfl

/-- A clause can be exchanged for one that is read alike, if it is reached at all. -/
private theorem readOrSkip_of_exchanged
    {left right first second : String}
    {maxDepth depth : Nat}
    (opened :
      left.toList.count '(' + 1 = left.toList.count ')' + depth)
    (positive : 1 ≤ depth)
    (firstIsClause : Line.IsClause first.toList)
    (secondIsClause : Line.IsClause second.toList)
    (alike :
      depth ≤ maxDepth →
        readOrSkip (maxDepth - depth) first =
          readOrSkip (maxDepth - depth) second) :
    readOrSkip maxDepth (left ++ "(" ++ first ++ ")" ++ right) =
      readOrSkip maxDepth (left ++ "(" ++ second ++ ")" ++ right) := by
  obtain ⟨outer, rfl⟩ := Nat.exists_eq_add_of_le' positive
  have exchanged :
      Line.Exchanged first.toList second.toList (outer + 1)
        (left ++ "(" ++ first ++ ")" ++ right).toList
        (left ++ "(" ++ second ++ ")" ++ right).toList := by
    have inside :
        Line.Exchanged first.toList second.toList (outer + 1)
          (left.toList ++ '(' :: (first.toList ++ ')' :: right.toList))
          (left.toList ++ '(' :: (second.toList ++ ')' :: right.toList)) :=
      .inside (by omega)
    simpa [String.toList_append] using inside
  have clauseAlike :
      Reading.clause .lenient
          (Reading.beneath .lenient maxDepth (maxDepth + 1 - (outer + 1))
            first.toList) =
        Reading.clause .lenient
          (Reading.beneath .lenient maxDepth (maxDepth + 1 - (outer + 1))
            second.toList) := by
    by_cases reached : outer + 1 ≤ maxDepth
    · rw [clause_beneath_eq_readOrSkip reached,
        clause_beneath_eq_readOrSkip reached, alike reached]
    · -- No level is left for the clause, whatever it is.
      have noLevel : maxDepth + 1 - (outer + 1) = 0 := by
        omega
      rw [noLevel]
      rfl
  have lineAlike :=
    Reading.clause_beneath_of_exchanged firstIsClause secondIsClause
      exchanged clauseAlike
  rw [clause_readOrSkip, clause_readOrSkip] at lineAlike
  exact Except.ok.inj lineAlike

/--
A clause that stands `depth` pairs of parentheses deep can be exchanged for another text
that is read as the same content within the levels that are left there. In particular a
clause that cannot be read is as good as a skipped turn that is written out.
-/
theorem readOrSkip_exchange
    {left right first second : String}
    {maxDepth depth : Nat}
    (opened :
      left.toList.count '(' + 1 = left.toList.count ')' + depth)
    (positive : 1 ≤ depth)
    (firstIsClause : Line.IsClause first.toList)
    (secondIsClause : Line.IsClause second.toList) :
    ((depth ≤ maxDepth →
          readOrSkip (maxDepth - depth) first =
            readOrSkip (maxDepth - depth) second) →
        readOrSkip maxDepth (left ++ "(" ++ first ++ ")" ++ right) =
          readOrSkip maxDepth (left ++ "(" ++ second ++ ")" ++ right)) ∧
      ((depth ≤ maxDepth →
          ∃ diagnosis,
            Reading.within Content .lenient (maxDepth - depth) (maxDepth - depth)
                first.toList =
              .error diagnosis) →
        readOrSkip maxDepth (left ++ "(" ++ first ++ ")" ++ right) =
          readOrSkip maxDepth (left ++ "(Skip)" ++ right)) := by
  refine ⟨readOrSkip_of_exchanged opened positive firstIsClause
    secondIsClause, ?_⟩
  intro fails
  have writtenOut : left ++ "(Skip)" = left ++ "(" ++ "Skip" ++ ")" := by
    rw [String.append_assoc, String.append_assoc]
    rfl
  rw [writtenOut]
  refine readOrSkip_of_exchanged opened positive firstIsClause
    ⟨by decide, by decide⟩ ?_
  intro reached
  obtain ⟨diagnosis, fails⟩ := fails reached
  rw [readOrSkip_of_error fails, readOrSkip_skip]

/-- Two levels down it does not matter why a clause cannot be read. -/
theorem readOrSkip_exchange_unreadable :
    readOrSkip 3 ("AND (NOT " ++ "(" ++ "gibberish" ++ ")" ++ ") (Over)") =
        readOrSkip 3
          ("AND (NOT " ++ "(" ++ "NOT () ()" ++ ")" ++ ") (Over)") ∧
      readOrSkip 3
          ("AND (NOT " ++ "(" ++ "gibberish" ++ ")" ++ ") (Over)") =
        readOrSkip 3 ("AND (NOT " ++ "(Skip)" ++ ") (Over)") := by
  have exchanged :=
    @readOrSkip_exchange "AND (NOT " ") (Over)" "gibberish" "NOT () ()" 3 2
      (by decide) (by decide) ⟨by decide, by decide⟩
      ⟨by decide, by decide⟩
  have alike :
      readOrSkip 1 "gibberish" = readOrSkip 1 "NOT () ()" := by
    rfl
  have fails :
      Reading.within Content .lenient 1 1 "gibberish".toList =
        .error (.parseFailed "gibberish") := by
    rfl
  exact ⟨exchanged.1 fun _ => alike, exchanged.2 fun _ => ⟨_, fails⟩⟩

end Content

end WerewolfSpeech
