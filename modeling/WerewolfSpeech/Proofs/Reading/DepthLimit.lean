import WerewolfSpeech.Proofs.Line.Nesting
import WerewolfSpeech.Proofs.Reading.RoundTrip

namespace WerewolfSpeech

/-!
# What a limit decides

Strict reading admits a text within some limit exactly if it admits it within every limit
that reaches down to the lowest clauses of what is read, and the content is the same each
time. A text that cannot be read at all may still tell limits apart, but only those below
the nesting of its parentheses: from there on a limit is never what stops a reader, and
whatever the text is read as or fails with is the same.
-/

namespace Reading

variable
  {mode : Mode}
  {readClause : List Char → Except Diagnosis Content}

/-- If a limit admits a clause by its height, it admits a clause list by the largest one. -/
private theorem mapM_of_height
    {readOtherwise : List Char → Except Diagnosis Content}
    {groups : List (List Char)}
    {clauses : List Content}
    {limit levels : Nat}
    (groupsRead : groups.mapM readClause = .ok clauses)
    (someClause : clauses ≠ [])
    (byHeight :
      ∀ group clause,
        readClause group = .ok clause →
        readOtherwise group =
          if clause.height < levels then
            .ok clause
          else
            .error (.depthExceeded limit)) :
    groups.mapM readOtherwise =
      if Content.heightOfEach clauses < levels then
        .ok clauses
      else
        .error (.depthExceeded limit) := by
  have highest := Content.heightOfEach_lt_iff someClause levels
  by_cases low : Content.heightOfEach clauses < levels
  · have alike :
        ∀ group ∈ groups, readOtherwise group = readClause group := by
      intro group member
      obtain ⟨clause, clauseMember, groupRead⟩ :=
        Attempt.exists_mem_of_mapM groupsRead group member
      rw [byHeight group clause groupRead,
        if_pos (highest.mp low clause clauseMember), groupRead]
    rw [Attempt.mapM_congr alike, groupsRead, if_pos low]
  · have someHigh :
        ∃ clause ∈ clauses, ¬ clause.height < levels := by
      simpa using mt highest.mpr low
    rw [if_neg low]
    apply Attempt.mapM_of_error
    · intro group member
      obtain ⟨clause, _, groupRead⟩ :=
        Attempt.exists_mem_of_mapM groupsRead group member
      rw [byHeight group clause groupRead]
      split
      · exact Or.inl ⟨clause, rfl⟩
      · exact Or.inr rfl
    · obtain ⟨_, _, origin⟩ := Attempt.ok_of_mapM groupsRead
      obtain ⟨clause, clauseMember, high⟩ := someHigh
      obtain ⟨group, member, groupRead⟩ := origin clause clauseMember
      refine ⟨group, member, ?_⟩
      rw [byHeight group clause groupRead, if_neg high]

/-- What is read beneath one limit is read beneath any other one that reaches far enough. -/
private theorem beneath_strict_of_ok
    {limit levels : Nat}
    {text : List Char}
    {content : Content}
    (succeeds : beneath .strict limit levels text = .ok content)
    (otherLimit otherLevels : Nat) :
    beneath .strict otherLimit otherLevels text =
      if content.height < otherLevels then
        .ok content
      else
        .error (.depthExceeded otherLimit) := by
  induction levels generalizing text content otherLevels with
  | zero =>
      cases succeeds
  | succ levels inductionHypothesis =>
      cases otherLevels with
      | zero =>
          rfl
      | succ otherLevels =>
          rw [beneath_succ] at succeeds ⊢
          cases readAs_of_line succeeds with
          | stated formed laid states =>
              rw [line_of_laid formed laid, phrase_of_states states]
              exact (if_pos (Nat.succ_pos otherLevels)).symm
          | @joined _ subject connective _ groups clauses formed laid joins
              split groupsRead accepts =>
              have someClause : clauses ≠ [] := by
                rintro rfl
                exact Operator.ne_zero_of_accepts accepts rfl
              have composed :
                  Content.compose subject (connective clauses) clauses =
                    .ok (.join subject (connective clauses) clauses) :=
                Content.compose_eq_ok_iff.mpr ⟨accepts, rfl⟩
              have admitted :
                  (Content.join subject (connective clauses)
                        clauses).height < otherLevels + 1 ↔
                    Content.heightOfEach clauses < otherLevels := by
                rw [Content.height_join]
                omega
              simp only [clause_strict] at groupsRead
              have groupsReadOtherwise :=
                mapM_of_height groupsRead someClause
                  fun group clause groupRead =>
                    inductionHypothesis groupRead otherLevels
              rw [line_of_laid formed laid, phrase_of_joins joins,
                Reading.clauses, split]
              simp only [clause_strict, groupsReadOtherwise, admitted]
              by_cases low : Content.heightOfEach clauses < otherLevels
              · rw [if_pos low, if_pos low]
                exact composed
              · rw [if_neg low, if_neg low]
                rfl

/-- A group of a text stands in parentheses, in front of which none is left open. -/
theorem HasGroup.exists_around
    {text group : List Char}
    (hasGroup : HasGroup text group) :
    ∃ before behind,
      text = before ++ '(' :: (group ++ ')' :: behind) ∧
        before.count '(' = before.count ')' := by
  obtain ⟨phrase, list, groups, found, listed, split, member⟩ := hasGroup
  obtain ⟨formed, laid⟩ := Phrase.ofChars?_eq_some_iff.mp found
  obtain ⟨front, _, trimmed, _, _, noParenthesis, _⟩ :=
    formed.exists_front laid listed
  obtain ⟨_, grouped⟩ := Line.splitGroups?_eq_some_iff.mp split
  obtain ⟨before, behind, rfl, outermost⟩ := grouped.exists_before member
  obtain ⟨blanks, moreBlanks, allBlank, _, whole⟩ :=
    Text.exists_eq_append_trim text
  have blanksCount :=
    Line.count_of_isBalanced (Line.isBalanced_of_isBlank allBlank)
  have frontCount :=
    Line.count_of_isBalanced (Line.isBalanced_of_not_mem noParenthesis)
  refine ⟨blanks ++ front ++ before, behind ++ moreBlanks, ?_, ?_⟩
  · rw [whole, trimmed]
    simp
  · simp only [List.count_append]
    omega

/-- The groups of a text are less nested than the text. -/
theorem HasGroup.nesting_lt
    {text group : List Char}
    (hasGroup : HasGroup text group) :
    Line.nesting group < Line.nesting text := by
  obtain ⟨before, behind, rfl, outermost⟩ := hasGroup.exists_around
  exact Line.nesting_lt_of_group outermost

/-- Levels beyond the nesting of a text make no difference to how it is read. -/
private theorem beneath_of_nesting_lt
    {levels otherLevels : Nat}
    {text : List Char}
    (reached : Line.nesting text < levels)
    (otherReached : Line.nesting text < otherLevels)
    (limit otherLimit : Nat) :
    beneath mode limit levels text =
      beneath mode otherLimit otherLevels text := by
  induction levels generalizing text otherLevels with
  | zero =>
      cases reached
  | succ levels inductionHypothesis =>
      cases otherLevels with
      | zero =>
          cases otherReached
      | succ otherLevels =>
          rw [beneath_succ, beneath_succ]
          refine line_congr fun group hasGroup => ?_
          have lower := hasGroup.nesting_lt
          rw [inductionHypothesis (by omega) (by omega : _ < otherLevels)]

/-- A text is too deep because one of its groups is. -/
private theorem exists_group_of_line_depthExceeded
    {text : List Char}
    {reported : Nat}
    (fails :
      line mode readClause text = .error (.depthExceeded reported)) :
    ∃ group,
      HasGroup text group ∧
        clause mode (readClause group) =
          .error (.depthExceeded reported) := by
  unfold line at fails
  cases found : Phrase.ofChars? (Text.trim text) with
  | none =>
      rw [found] at fails
      cases fails
  | some phrase =>
      rw [found] at fails
      have formed := (Phrase.ofChars?_eq_some_iff.mp found).1
      have failsBy := failsBy_of_phrase formed fails
      generalize isDepth : Diagnosis.depthExceeded reported = diagnosis
        at failsBy ⊢
      cases failsBy with
      | reference _ _ _ => cases isDepth
      | number _ => cases isDepth
      | clauses listed clausesFail =>
          rcases clauses_eq_error clausesFail with
              ⟨_, rfl⟩ | ⟨groups, split, group, member, groupFails⟩
          · cases isDepth
          · exact ⟨group,
              ⟨phrase, _, groups, found, listed, split, member⟩, groupFails⟩
      | misfit _ _ _ =>
          unfold Operator.misfit at isDepth
          split at isDepth <;> cases isDepth

/-- Where the levels exceed the nesting of a text, no clause of it is too deep. -/
private theorem beneath_ne_depthExceeded
    {limit levels : Nat}
    {text : List Char}
    (reached : Line.nesting text < levels)
    (reported : Nat) :
    beneath mode limit levels text ≠ .error (.depthExceeded reported) := by
  induction levels generalizing text with
  | zero =>
      cases reached
  | succ levels inductionHypothesis =>
      rw [beneath_succ]
      intro fails
      obtain ⟨group, hasGroup, groupFails⟩ :=
        exists_group_of_line_depthExceeded fails
      have groupReached : Line.nesting group < levels := by
        have lower := hasGroup.nesting_lt
        omega
      cases mode with
      | strict =>
          rw [clause_strict] at groupFails
          exact inductionHypothesis groupReached groupFails
      | lenient =>
          -- A lenient reader has skipped the group.
          cases read : beneath .lenient limit levels group <;>
            simp [read, clause] at groupFails

end Reading

namespace Content

/-- What is read strictly within one limit is read within the limits that reach down to it. -/
theorem read_of_read
    {limit : Nat}
    {text : String}
    {content : Content}
    (succeeds : read limit text = .ok content)
    (maxDepth : Nat) :
    read maxDepth text =
      if content.height ≤ maxDepth then
        .ok content
      else
        .error (.depthExceeded maxDepth) := by
  have beneath :
      Reading.beneath .strict limit (limit + 1) text.toList =
        .ok content :=
    succeeds
  have beneathOther :=
    Reading.beneath_strict_of_ok beneath maxDepth (maxDepth + 1)
  simp only [Nat.lt_succ_iff] at beneathOther
  exact beneathOther

/-- Limits that admit the nesting of a text make no difference to how it is read. -/
theorem within_of_nesting_le
    {mode : Mode}
    {maxDepth otherDepth : Nat}
    {text : String}
    (admitted : Line.nesting text.toList ≤ maxDepth)
    (otherAdmitted : Line.nesting text.toList ≤ otherDepth) :
    Reading.within Content mode maxDepth maxDepth text.toList =
      Reading.within Content mode otherDepth otherDepth text.toList :=
  Reading.beneath_of_nesting_lt (Nat.lt_succ_of_le admitted)
    (Nat.lt_succ_of_le otherAdmitted) maxDepth otherDepth

/--
A text that is read strictly within some limit is read as the same content within every
limit that is not below the height of the content, and exceeds all the others. Limits that
are not below the nesting of a text are never exceeded and make no difference to what it is
read as, strictly or leniently, or to why it cannot be read.
-/
theorem read_depth_law
    (text : String) :
    (∀ limit content,
        read limit text = .ok content →
        ∀ maxDepth,
          read maxDepth text =
            if content.height ≤ maxDepth then
              .ok content
            else
              .error (.depthExceeded maxDepth)) ∧
      ∀ maxDepth otherDepth,
        Line.nesting text.toList ≤ maxDepth →
        Line.nesting text.toList ≤ otherDepth →
        read maxDepth text = read otherDepth text ∧
          readOrSkip maxDepth text = readOrSkip otherDepth text ∧
            ∀ reported, read maxDepth text ≠ .error (.depthExceeded reported) := by
  constructor
  · intro limit content succeeds maxDepth
    exact read_of_read succeeds maxDepth
  · intro maxDepth otherDepth admitted otherAdmitted
    refine ⟨within_of_nesting_le admitted otherAdmitted, ?_, ?_⟩
    · rw [readOrSkip, Reading.leniently,
        within_of_nesting_le admitted otherAdmitted]
      rfl
    · intro reported
      exact Reading.beneath_ne_depthExceeded
        (Nat.lt_succ_of_le admitted) reported

/-- A contrary needs a level, and beyond two levels nothing helps a list that never ends. -/
theorem read_depth_law_contrary :
    (∃ content,
        read 16 "NOT (VOTE Agent[03])" = .ok content ∧
          read 1 "NOT (VOTE Agent[03])" = .ok content ∧
            read 0 "NOT (VOTE Agent[03])" = .error (.depthExceeded 0)) ∧
      Line.nesting "AND ((".toList = 2 ∧
        read 2 "AND ((" = read 16 "AND ((" ∧
          read 2 "AND ((" ≠ .error (.depthExceeded 2) := by
  have highest :
      (read 16 "NOT (VOTE Agent[03])").toOption.map height = some 1 := by
    decide +kernel
  have nested : Line.nesting "AND ((".toList = 2 := by
    decide +kernel
  constructor
  · cases succeeds : read 16 "NOT (VOTE Agent[03])" with
    | error diagnosis =>
        rw [succeeds] at highest
        cases highest
    | ok content =>
        rw [succeeds] at highest
        have oneLevel : content.height = 1 := Option.some.inj highest
        have byHeight :=
          (read_depth_law "NOT (VOTE Agent[03])").1 16 content succeeds
        refine ⟨content, rfl, ?_, ?_⟩
        · rw [byHeight, if_pos (by omega)]
        · rw [byHeight, if_neg (by omega)]
  · obtain ⟨same, _, neverExceeded⟩ :=
      (read_depth_law "AND ((").2 2 16 (by omega) (by omega)
    exact ⟨nested, same, neverExceeded 2⟩

end Content

end WerewolfSpeech
