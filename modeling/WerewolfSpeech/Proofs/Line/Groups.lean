import WerewolfSpeech.Line.Groups
import WerewolfSpeech.Proofs.Text.Blank

namespace WerewolfSpeech.Line

/-!
# Clause lists as sequences of balanced groups

The splitter of clause lists reads from left to right and counts open parentheses. Here it
is related to the way a clause list is written: `Grouped` says that a text is a sequence of
balanced groups in parentheses with blanks around them, and the splitter finds the groups
of exactly these texts.
-/

/-- Whether a text closes its own parentheses and `depth` more that were open before it. -/
def closes :
    Nat →
    List Char →
    Bool
  | depth, [] => depth == 0
  | depth, character :: rest =>
      if character = ')' then
        match depth with
        | 0 => false
        | outer + 1 => closes outer rest
      else if character = '(' then
        closes (depth + 1) rest
      else
        closes depth rest

/-- Whether every parenthesis of a text has its counterpart in the text. -/
def isBalanced
    (text : List Char) :
    Bool :=
  closes 0 text

/-- A sequence of balanced groups, each in parentheses, with blanks around them. -/
inductive Grouped : List (List Char) → List Char → Prop where
  | done
      {blanks : List Char}
      (allBlank : ∀ character ∈ blanks, Text.isBlank character = true) :
      Grouped [] blanks
  | more
      {blanks group : List Char}
      {groups : List (List Char)}
      {text : List Char}
      (allBlank : ∀ character ∈ blanks, Text.isBlank character = true)
      (balanced : isBalanced group = true)
      (rest : Grouped groups text) :
      Grouped (group :: groups) (blanks ++ '(' :: (group ++ ')' :: text))

/-- A closing parenthesis closes the innermost one that is open. -/
@[simp] theorem closes_closing
    (outer : Nat)
    (rest : List Char) :
    closes (outer + 1) (')' :: rest) = closes outer rest := by
  rw [closes, if_pos rfl]

/-- A closing parenthesis needs an open one. -/
@[simp] theorem closes_closing_zero
    (rest : List Char) :
    closes 0 (')' :: rest) = false := by
  rw [closes, if_pos rfl]

/-- An opening parenthesis has to be closed with the others. -/
@[simp] theorem closes_opening
    (depth : Nat)
    (rest : List Char) :
    closes depth ('(' :: rest) = closes (depth + 1) rest := by
  cases depth <;> simp [closes]

/-- Other characters do not count. -/
theorem closes_other
    {character : Char}
    (notOpening : character ≠ '(')
    (notClosing : character ≠ ')')
    (depth : Nat)
    (rest : List Char) :
    closes depth (character :: rest) = closes depth rest := by
  cases depth <;> simp [closes, notClosing, notOpening]

/-- Parentheses that a first part closes are not open for the second part any more. -/
theorem closes_append
    {depth : Nat}
    {front : List Char}
    (frontCloses : closes depth front = true)
    (outer : Nat)
    (behind : List Char) :
    closes (depth + outer) (front ++ behind) = closes outer behind := by
  induction front generalizing depth with
  | nil =>
      simp only [closes, beq_iff_eq] at frontCloses
      rw [frontCloses, Nat.zero_add, List.nil_append]
  | cons character rest inductionHypothesis =>
      rw [List.cons_append]
      by_cases closing : character = ')'
      · subst closing
        cases depth with
        | zero =>
            rw [closes_closing_zero] at frontCloses
            cases frontCloses
        | succ shallower =>
            rw [closes_closing] at frontCloses
            rw [Nat.add_right_comm, closes_closing]
            exact inductionHypothesis frontCloses
      · by_cases opening : character = '('
        · subst opening
          rw [closes_opening] at frontCloses ⊢
          rw [Nat.add_right_comm]
          exact inductionHypothesis frontCloses
        · rw [closes_other opening closing] at frontCloses ⊢
          exact inductionHypothesis frontCloses

/-- Balanced texts one after the other are balanced. -/
theorem isBalanced_append
    {front behind : List Char}
    (frontBalanced : isBalanced front = true)
    (behindBalanced : isBalanced behind = true) :
    isBalanced (front ++ behind) = true := by
  have passed := closes_append frontBalanced 0 behind
  rw [isBalanced, passed]
  exact behindBalanced

/-- A text without parentheses is balanced. -/
theorem isBalanced_of_not_mem
    {text : List Char}
    (noParenthesis : ∀ character ∈ text, character ≠ '(' ∧ character ≠ ')') :
    isBalanced text = true := by
  unfold isBalanced
  induction text with
  | nil =>
      rfl
  | cons character rest inductionHypothesis =>
      obtain ⟨notOpening, notClosing⟩ :=
        noParenthesis character List.mem_cons_self
      rw [closes_other notOpening notClosing]
      exact inductionHypothesis fun other member =>
        noParenthesis other (List.mem_cons_of_mem character member)

/-- A text of blanks is balanced. -/
theorem isBalanced_of_isBlank
    {blanks : List Char}
    (allBlank : ∀ character ∈ blanks, Text.isBlank character = true) :
    isBalanced blanks = true :=
  isBalanced_of_not_mem fun character member =>
    Text.ne_parenthesis_of_isBlank (allBlank character member)

/-- Trimming takes no parenthesis off a text. -/
theorem isBalanced_of_trim
    {text : List Char}
    (balanced : isBalanced (Text.trim text) = true) :
    isBalanced text = true := by
  obtain ⟨before, behind, beforeBlank, behindBlank, shape⟩ :=
    Text.exists_eq_append_trim text
  rw [shape]
  exact isBalanced_append
    (isBalanced_append (isBalanced_of_isBlank beforeBlank) balanced)
    (isBalanced_of_isBlank behindBlank)

/-- A balanced text in parentheses is balanced. -/
theorem isBalanced_group
    {group : List Char}
    (balanced : isBalanced group = true) :
    isBalanced ('(' :: (group ++ [')'])) = true := by
  have closed := closes_append balanced 1 [')']
  rw [Nat.zero_add] at closed
  rw [isBalanced, closes_opening, Nat.zero_add, closed]
  rfl

/-- A sequence of balanced groups is balanced. -/
theorem Grouped.isBalanced
    {groups : List (List Char)}
    {text : List Char}
    (grouped : Grouped groups text) :
    Line.isBalanced text = true := by
  induction grouped with
  | done allBlank =>
      exact isBalanced_of_isBlank allBlank
  | more allBlank balanced rest inductionHypothesis =>
      have groupBalanced :=
        isBalanced_append (isBalanced_group balanced)
          inductionHypothesis
      have allBalanced :=
        isBalanced_append (isBalanced_of_isBlank allBlank) groupBalanced
      simpa using allBalanced

/-- A closing parenthesis ends a group in which none is open. -/
theorem groupsInside?_closing_zero
    (rest : List Char) :
    groupsInside? 0 (')' :: rest) =
      (groupsOutside? rest).map fun found => ([], found) := by
  rw [groupsInside?, if_pos rfl]

/-- A closing parenthesis within a group closes the innermost one that is open. -/
theorem groupsInside?_closing
    (outer : Nat)
    (rest : List Char) :
    groupsInside? (outer + 1) (')' :: rest) =
      (groupsInside? outer rest).map fun found =>
        (')' :: found.1, found.2) := by
  rw [groupsInside?, if_pos rfl]

/-- An opening parenthesis within a group has to be closed within it. -/
theorem groupsInside?_opening
    (depth : Nat)
    (rest : List Char) :
    groupsInside? depth ('(' :: rest) =
      (groupsInside? (depth + 1) rest).map fun found =>
        ('(' :: found.1, found.2) := by
  cases depth <;> simp [groupsInside?]

/-- Other characters of a group do not count. -/
theorem groupsInside?_other
    {character : Char}
    (notOpening : character ≠ '(')
    (notClosing : character ≠ ')')
    (depth : Nat)
    (rest : List Char) :
    groupsInside? depth (character :: rest) =
      (groupsInside? depth rest).map fun found =>
        (character :: found.1, found.2) := by
  cases depth <;> simp [groupsInside?, notClosing, notOpening]

private theorem groupsInside?_of_closes
    {depth : Nat}
    {inside : List Char}
    (insideCloses : closes depth inside = true)
    (behind : List Char) :
    groupsInside? depth (inside ++ ')' :: behind) =
      (groupsOutside? behind).map fun found => (inside, found) := by
  induction inside generalizing depth with
  | nil =>
      simp only [closes, beq_iff_eq] at insideCloses
      subst depth
      exact groupsInside?_closing_zero behind
  | cons character rest inductionHypothesis =>
      rw [List.cons_append]
      by_cases closing : character = ')'
      · subst closing
        cases depth with
        | zero =>
            rw [closes_closing_zero] at insideCloses
            cases insideCloses
        | succ outer =>
            rw [closes_closing] at insideCloses
            rw [groupsInside?_closing, inductionHypothesis insideCloses,
              Option.map_map]
            rfl
      · by_cases opening : character = '('
        · subst opening
          rw [closes_opening] at insideCloses
          rw [groupsInside?_opening, inductionHypothesis insideCloses,
            Option.map_map]
          rfl
        · rw [closes_other opening closing] at insideCloses
          rw [groupsInside?_other opening closing,
            inductionHypothesis insideCloses, Option.map_map]
          rfl

/-- What the splitter finds within a group was closed in the text and groups follow it. -/
private theorem closes_of_groupsInside?
    {depth : Nat}
    {text inside : List Char}
    {groups : List (List Char)}
    (found : groupsInside? depth text = some (inside, groups)) :
    ∃ behind,
      text = inside ++ ')' :: behind ∧
        closes depth inside = true ∧
          groupsOutside? behind = some groups := by
  induction text generalizing depth inside with
  | nil =>
      cases found
  | cons character rest inductionHypothesis =>
      by_cases closing : character = ')'
      · subst closing
        cases depth with
        | zero =>
            rw [groupsInside?_closing_zero] at found
            obtain ⟨more, restFound, shape⟩ :=
              Option.map_eq_some_iff.mp found
            cases shape
            exact ⟨rest, rfl, rfl, restFound⟩
        | succ outer =>
            rw [groupsInside?_closing] at found
            obtain ⟨⟨restInside, restGroups⟩, restFound, shape⟩ :=
              Option.map_eq_some_iff.mp found
            cases shape
            obtain ⟨behind, rfl, restCloses, behindFound⟩ :=
              inductionHypothesis restFound
            refine ⟨behind, rfl, ?_, behindFound⟩
            rw [closes_closing]
            exact restCloses
      · by_cases opening : character = '('
        · subst opening
          rw [groupsInside?_opening] at found
          obtain ⟨⟨restInside, restGroups⟩, restFound, shape⟩ :=
            Option.map_eq_some_iff.mp found
          cases shape
          obtain ⟨behind, rfl, restCloses, behindFound⟩ :=
            inductionHypothesis restFound
          refine ⟨behind, rfl, ?_, behindFound⟩
          rw [closes_opening]
          exact restCloses
        · rw [groupsInside?_other opening closing] at found
          obtain ⟨⟨restInside, restGroups⟩, restFound, shape⟩ :=
            Option.map_eq_some_iff.mp found
          cases shape
          obtain ⟨behind, rfl, restCloses, behindFound⟩ :=
            inductionHypothesis restFound
          refine ⟨behind, rfl, ?_, behindFound⟩
          rw [closes_other opening closing]
          exact restCloses

/-- Outside every group an opening parenthesis begins one. -/
theorem groupsOutside?_opening
    (rest : List Char) :
    groupsOutside? ('(' :: rest) =
      (groupsInside? 0 rest).map fun found => found.1 :: found.2 := by
  rw [groupsOutside?, if_pos rfl]

/-- Outside every group blanks do not count. -/
theorem groupsOutside?_blanks_append
    {blanks : List Char}
    (allBlank : ∀ character ∈ blanks, Text.isBlank character = true)
    (text : List Char) :
    groupsOutside? (blanks ++ text) = groupsOutside? text := by
  induction blanks with
  | nil =>
      rfl
  | cons blank rest inductionHypothesis =>
      have isBlank := allBlank blank List.mem_cons_self
      have notOpening := (Text.ne_parenthesis_of_isBlank isBlank).1
      rw [List.cons_append, groupsOutside?, if_neg notOpening,
        if_pos isBlank]
      exact inductionHypothesis fun character member =>
        allBlank character (List.mem_cons_of_mem blank member)

private theorem Grouped.groupsOutside?_eq_some
    {groups : List (List Char)}
    {text : List Char}
    (grouped : Grouped groups text) :
    groupsOutside? text = some groups := by
  induction grouped with
  | @done blanks allBlank =>
      have skipped := groupsOutside?_blanks_append allBlank []
      rw [List.append_nil] at skipped
      rw [skipped, groupsOutside?]
  | more allBlank balanced rest inductionHypothesis =>
      rw [groupsOutside?_blanks_append allBlank, groupsOutside?_opening,
        groupsInside?_of_closes balanced, inductionHypothesis]
      rfl

/-- More blanks in front of a sequence of groups. -/
theorem Grouped.blanks_append
    {blanks : List Char}
    {groups : List (List Char)}
    {text : List Char}
    (grouped : Grouped groups text)
    (allBlank : ∀ character ∈ blanks, Text.isBlank character = true) :
    Grouped groups (blanks ++ text) := by
  cases grouped with
  | done restBlank =>
      exact .done (List.forall_mem_append.mpr ⟨allBlank, restBlank⟩)
  | more restBlank balanced rest =>
      rw [← List.append_assoc]
      exact .more (List.forall_mem_append.mpr ⟨allBlank, restBlank⟩)
        balanced rest

/-- A text in which the splitter finds groups is a sequence of these groups. -/
private theorem grouped_of_groupsOutside?
    {text : List Char}
    {groups : List (List Char)}
    (found : groupsOutside? text = some groups) :
    Grouped groups text := by
  cases text with
  | nil =>
      rw [groupsOutside?] at found
      cases found
      exact .done (by simp)
  | cons character rest =>
      by_cases opening : character = '('
      · subst opening
        rw [groupsOutside?_opening] at found
        obtain ⟨⟨inside, others⟩, insideFound, shape⟩ :=
          Option.map_eq_some_iff.mp found
        cases shape
        obtain ⟨behind, rfl, insideCloses, behindFound⟩ :=
          closes_of_groupsInside? insideFound
        have noBlanks :
            ∀ blank ∈ ([] : List Char), Text.isBlank blank = true := by
          simp
        exact .more noBlanks insideCloses
          (grouped_of_groupsOutside? behindFound)
      · rw [groupsOutside?, if_neg opening] at found
        cases isBlank : Text.isBlank character with
        | false =>
            simp [isBlank] at found
        | true =>
            rw [if_pos isBlank] at found
            have oneBlank :
                ∀ blank ∈ [character], Text.isBlank blank = true := by
              simp [isBlank]
            exact (grouped_of_groupsOutside? found).blanks_append oneBlank
termination_by text.length
decreasing_by
  · subst_vars
    simp
    omega
  · subst_vars
    simp

/-- A clause list is split into groups exactly if it is a sequence of at least one group. -/
theorem splitGroups?_eq_some_iff
    {list : List Char}
    {groups : List (List Char)} :
    splitGroups? list = some groups ↔
      groups ≠ [] ∧ Grouped groups list := by
  constructor
  · intro found
    unfold splitGroups? at found
    split at found
    · next first rest outside =>
        cases found
        exact ⟨by simp, grouped_of_groupsOutside? outside⟩
    · cases found
  · rintro ⟨nonempty, grouped⟩
    rw [splitGroups?, grouped.groupsOutside?_eq_some]
    cases groups with
    | nil =>
        exact absurd rfl nonempty
    | cons first rest =>
        rfl

end WerewolfSpeech.Line
