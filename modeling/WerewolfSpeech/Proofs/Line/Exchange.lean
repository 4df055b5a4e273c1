import Mathlib.Data.List.Forall2
import WerewolfSpeech.Proofs.Line.Nesting

namespace WerewolfSpeech.Line

/-!
# Exchanging a group

Two texts are told apart by one group only, somewhere within them. If one of them is a
sequence of groups, so is the other, and their groups are the same but for one, in which the
exchange is one level less deep.
-/

/--
Two texts that differ in one part, which is `first` in the one and `second` in the other.
The part stands in as many parentheses as the number says.
-/
inductive Exchanged (first second : List Char) :
    Nat → List Char → List Char → Prop where
  | here :
      Exchanged first second 0 first second
  | inside
      {left right : List Char}
      {depth : Nat}
      (opened : left.count '(' = left.count ')' + depth) :
      Exchanged first second (depth + 1)
        (left ++ '(' :: (first ++ ')' :: right))
        (left ++ '(' :: (second ++ ')' :: right))

variable {first second : List Char}

/-- The exchange can be undone. -/
theorem Exchanged.symm
    {depth : Nat}
    {text other : List Char}
    (exchanged : Exchanged first second depth text other) :
    Exchanged second first depth other text := by
  cases exchanged with
  | here => exact .here
  | inside opened => exact .inside opened

/-- Where a group ends is told by the group, whatever stands behind it. -/
theorem eq_of_append_closing
    {group other behind otherBehind : List Char}
    (balanced : isBalanced group = true)
    (otherBalanced : isBalanced other = true)
    (same : group ++ ')' :: behind = other ++ ')' :: otherBehind) :
    group = other ∧ behind = otherBehind := by
  have noLonger :
      ∀ {shorter rest : List Char},
        isBalanced shorter = true →
        isBalanced (shorter ++ ')' :: rest) = false := by
    intro shorter rest shorterBalanced
    have passed := closes_append shorterBalanced 0 (')' :: rest)
    rw [isBalanced, passed, closes_closing_zero]
  rcases List.append_eq_append_iff.mp same with
      ⟨rest, rfl, restShape⟩ | ⟨rest, rfl, restShape⟩
  · cases rest with
    | nil =>
        simpa using restShape
    | cons character rest =>
        cases restShape
        rw [noLonger balanced] at otherBalanced
        cases otherBalanced
  · cases rest with
    | nil =>
        simpa [eq_comm] using restShape
    | cons character rest =>
        cases restShape
        rw [noLonger otherBalanced] at balanced
        cases balanced

/-- A group that begins in a text which closes it ends in that text too. -/
private theorem exists_rest_of_closes
    {outer : Nat}
    {group inside behind right : List Char}
    (balanced : isBalanced group = true)
    (insideCloses : closes (outer + 1) inside = true)
    (same : inside ++ ')' :: behind = group ++ ')' :: right) :
    ∃ rest,
      inside = group ++ ')' :: rest ∧ right = rest ++ ')' :: behind := by
  have insideCount := count_of_closes insideCloses
  rcases List.append_eq_append_iff.mp same with
      ⟨rest, rfl, _⟩ | ⟨rest, rfl, restShape⟩
  · -- The text closes more than it opens, so the group cannot begin with it.
    obtain ⟨between, counted, _⟩ := exists_between_of_closes balanced
    omega
  · cases rest with
    | nil =>
        have groupCount := count_of_isBalanced balanced
        rw [List.append_nil] at insideCount
        omega
    | cons character rest =>
        cases restShape
        exact ⟨rest, rfl, rfl⟩

/-- A balanced text stays balanced when a group in it is exchanged. -/
private theorem isBalanced_exchange
    {left rest : List Char}
    (firstBalanced : isBalanced first = true)
    (secondBalanced : isBalanced second = true)
    (balanced : isBalanced (left ++ '(' :: (first ++ ')' :: rest)) = true) :
    isBalanced (left ++ '(' :: (second ++ ')' :: rest)) = true := by
  obtain ⟨between, _, same⟩ := exists_between_of_closes balanced
  have passed :
      ∀ {group : List Char},
        isBalanced group = true →
        closes between ('(' :: (group ++ ')' :: rest)) =
          closes between rest := by
    intro group groupBalanced
    have groupPassed :=
      closes_append groupBalanced (between + 1) (')' :: rest)
    rw [Nat.zero_add] at groupPassed
    rw [closes_opening, groupPassed, closes_closing]
  rw [isBalanced, same, passed firstBalanced] at balanced
  rw [isBalanced, same, passed secondBalanced]
  exact balanced

/-- A parenthesis behind a front without any is the first one or stands behind the first. -/
theorem cut_at_opening
    {front left rest behind : List Char}
    (noParenthesis : '(' ∉ front)
    (same : left ++ '(' :: rest = front ++ '(' :: behind) :
    (left = front ∧ rest = behind) ∨
      ∃ inner,
        left = front ++ '(' :: inner ∧ behind = inner ++ '(' :: rest := by
  rcases List.append_eq_append_iff.mp same with
      ⟨gap, rfl, shape⟩ | ⟨more, rfl, shape⟩
  · cases gap with
    | nil =>
        cases shape
        exact Or.inl ⟨by simp, rfl⟩
    | cons character gap =>
        cases shape
        simp at noParenthesis
  · cases more with
    | nil =>
        cases shape
        exact Or.inl ⟨by simp, rfl⟩
    | cons character inner =>
        cases shape
        exact Or.inr ⟨inner, rfl, rfl⟩

/-- A parenthesis that opens stands in front of one that closes or behind it. -/
private theorem cut_at_closing
    {group behind inner rest : List Char}
    (same : group ++ ')' :: behind = inner ++ '(' :: rest) :
    (∃ inside,
        group = inner ++ '(' :: inside ∧ rest = inside ++ ')' :: behind) ∨
      ∃ more,
        inner = group ++ ')' :: more ∧ behind = more ++ '(' :: rest := by
  rcases List.append_eq_append_iff.mp same with
      ⟨more, rfl, shape⟩ | ⟨inside, rfl, shape⟩
  · cases more with
    | nil => cases shape
    | cons character more =>
        cases shape
        exact Or.inr ⟨more, rfl, rfl⟩
  · cases inside with
    | nil => cases shape
    | cons character inside =>
        cases shape
        exact Or.inl ⟨inside, rfl, rfl⟩

/--
A sequence of groups stays one when a group in it is exchanged for another balanced text.
The groups stay the same, except for the one in which the exchange takes place.
-/
theorem exists_grouped_exchange
    {groups : List (List Char)}
    {left right : List Char}
    {depth : Nat}
    (firstBalanced : isBalanced first = true)
    (secondBalanced : isBalanced second = true)
    (opened : left.count '(' = left.count ')' + depth)
    (grouped : Grouped groups (left ++ '(' :: (first ++ ')' :: right))) :
    ∃ others,
      Grouped others (left ++ '(' :: (second ++ ')' :: right)) ∧
        List.Forall₂
          (fun group other =>
            group = other ∨ Exchanged first second depth group other)
          groups others := by
  have unchanged :
      ∀ groups : List (List Char),
        List.Forall₂
          (fun group other =>
            group = other ∨ Exchanged first second depth group other)
          groups groups :=
    fun _ => List.forall₂_same.mpr fun _ _ => Or.inl rfl
  generalize whole : left ++ '(' :: (first ++ ')' :: right) = list at grouped
  induction grouped generalizing left with
  | @done blanks allBlank =>
      have isBlank := allBlank '(' (by simp [← whole])
      exact absurd rfl (Text.ne_parenthesis_of_isBlank isBlank).1
  | @more blanks group groups text allBlank balanced rest
      inductionHypothesis =>
      have noParenthesis : '(' ∉ blanks := fun member =>
        (Text.ne_parenthesis_of_isBlank (allBlank '(' member)).1 rfl
      have blanksCount :=
        count_of_isBalanced (isBalanced_of_isBlank allBlank)
      rcases cut_at_opening noParenthesis whole with
          ⟨rfl, sameGroup⟩ | ⟨inner, rfl, shape⟩
      · -- The group that is exchanged is the first one.
        obtain ⟨rfl, rfl⟩ :=
          eq_of_append_closing firstBalanced balanced sameGroup
        have outermost : depth = 0 := by omega
        subst outermost
        exact ⟨second :: groups, .more allBlank secondBalanced rest,
          .cons (Or.inr .here) (unchanged groups)⟩
      · rcases cut_at_closing shape with
            ⟨inside, rfl, sameRest⟩ | ⟨more, rfl, rfl⟩
        · -- It stands within the first one.
          obtain ⟨between, counted, same⟩ :=
            exists_between_of_closes balanced
          have insideCloses : closes (between + 1) inside = true := by
            rw [← closes_opening, ← same]
            exact balanced
          obtain ⟨remainder, rfl, rfl⟩ :=
            exists_rest_of_closes firstBalanced insideCloses sameRest.symm
          have deeper : depth = between + 1 := by
            simp only [List.count_append, List.count_cons_self,
              List.count_cons_of_ne (by decide : '(' ≠ ')')] at opened
            omega
          subst deeper
          refine
            ⟨(inner ++ '(' :: (second ++ ')' :: remainder)) :: groups, ?_,
              .cons (Or.inr (.inside counted)) (unchanged groups)⟩
          have exchanged :=
            isBalanced_exchange firstBalanced secondBalanced balanced
          have grouped := Grouped.more allBlank exchanged rest
          simpa using grouped
        · -- It stands behind the first one.
          have groupCount := count_of_isBalanced balanced
          have openedBehind :
              more.count '(' = more.count ')' + depth := by
            simp only [List.count_append, List.count_cons_self,
              List.count_cons_of_ne (by decide : '(' ≠ ')'),
              List.count_cons_of_ne (by decide : ')' ≠ '(')] at opened
            omega
          obtain ⟨others, othersGrouped, exchanged⟩ :=
            inductionHypothesis openedBehind rfl
          refine ⟨group :: others, ?_, .cons (Or.inl rfl) exchanged⟩
          have grouped := Grouped.more allBlank balanced othersGrouped
          simpa using grouped

end WerewolfSpeech.Line
