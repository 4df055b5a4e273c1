import Mathlib.Data.List.Infix
import Mathlib.Data.List.MinMax
import Mathlib.Order.Nat
import WerewolfSpeech.Proofs.Line.Groups

namespace WerewolfSpeech.Line

/-!
# How deep a part of a text stands

The parentheses that stand in front of a part of a text tell how deep it stands, as long as
the text around it can be split into groups at all. So the groups of a clause list are less
nested than the text that the list stands in, and a group at any depth can be exchanged for
another balanced text without any effect on how the text around it is split.
-/

/--
The nesting of a text: the largest number of parentheses that are open at one place. The
empty beginning leaves none open, so a place where more are closed does not count.
-/
def nesting
    (text : List Char) :
    Nat :=
  (text.inits.map fun front => front.count '(' - front.count ')').foldr max 0

/-- The nesting bounds what any beginning of the text leaves open. -/
theorem nesting_le_iff
    {text : List Char}
    {depth : Nat} :
    nesting text ≤ depth ↔
      ∀ front, front <+: text →
        front.count '(' ≤ front.count ')' + depth := by
  constructor
  · intro bounded front begins
    have listed :
        front.count '(' - front.count ')' ∈
          text.inits.map fun front => front.count '(' - front.count ')' :=
      List.mem_map.mpr ⟨front, (List.mem_inits front text).mpr begins, rfl⟩
    have atMost : front.count '(' - front.count ')' ≤ nesting text :=
      List.le_max_of_le listed (Nat.le_refl _)
    omega
  · intro bounded
    apply List.max_le_of_forall_le
    intro excess listed
    obtain ⟨front, begins, rfl⟩ := List.mem_map.mp listed
    have atMost := bounded front ((List.mem_inits front text).mp begins)
    omega

/-- What is open behind the front of a text that closes is told by the front alone. -/
theorem exists_between_of_closes
    {depth : Nat}
    {front rest : List Char}
    (textCloses : closes depth (front ++ rest) = true) :
    ∃ between,
      front.count '(' + depth = front.count ')' + between ∧
        ∀ behind, closes depth (front ++ behind) = closes between behind := by
  induction front generalizing depth with
  | nil =>
      exact ⟨depth, by simp, fun _ => rfl⟩
  | cons character front inductionHypothesis =>
      rw [List.cons_append] at textCloses
      by_cases closing : character = ')'
      · subst closing
        cases depth with
        | zero =>
            rw [closes_closing_zero] at textCloses
            cases textCloses
        | succ outer =>
            rw [closes_closing] at textCloses
            obtain ⟨between, counted, same⟩ :=
              inductionHypothesis textCloses
            refine ⟨between, ?_, ?_⟩
            · rw [List.count_cons_self,
                List.count_cons_of_ne (by decide : ')' ≠ '(')]
              omega
            · intro behind
              rw [List.cons_append, closes_closing, same]
      · by_cases opening : character = '('
        · subst opening
          rw [closes_opening] at textCloses
          obtain ⟨between, counted, same⟩ :=
            inductionHypothesis textCloses
          refine ⟨between, ?_, ?_⟩
          · rw [List.count_cons_self,
              List.count_cons_of_ne (by decide : '(' ≠ ')')]
            omega
          · intro behind
            rw [List.cons_append, closes_opening, same]
        · rw [closes_other opening closing] at textCloses
          obtain ⟨between, counted, same⟩ :=
            inductionHypothesis textCloses
          refine ⟨between, ?_, ?_⟩
          · rw [List.count_cons_of_ne opening,
              List.count_cons_of_ne closing]
            exact counted
          · intro behind
            rw [List.cons_append, closes_other opening closing, same]

/-- A text that closes `depth` more parentheses than it opens has so many more of them. -/
theorem count_of_closes
    {depth : Nat}
    {text : List Char}
    (textCloses : closes depth text = true) :
    text.count '(' + depth = text.count ')' := by
  rw [← List.append_nil text] at textCloses
  obtain ⟨between, counted, same⟩ := exists_between_of_closes textCloses
  rw [same, closes, beq_iff_eq] at textCloses
  rw [counted, textCloses, Nat.add_zero]

/-- A balanced text has as many parentheses of one kind as of the other. -/
theorem count_of_isBalanced
    {text : List Char}
    (balanced : isBalanced text = true) :
    text.count '(' = text.count ')' :=
  count_of_closes balanced

/-- What stands in parentheses is less nested than the text around it. -/
theorem nesting_lt_of_group
    {before group behind : List Char}
    (outermost : before.count '(' = before.count ')') :
    nesting group <
      nesting (before ++ '(' :: (group ++ ')' :: behind)) := by
  have bounded :=
    nesting_le_iff.mp
      (Nat.le_refl (nesting (before ++ '(' :: (group ++ ')' :: behind))))
  generalize
    nesting (before ++ '(' :: (group ++ ')' :: behind)) = depth at bounded ⊢
  have openInside :
      ∀ front, front <+: group →
        front.count '(' + 1 ≤ front.count ')' + depth := by
    intro front begins
    have beginsText :
        before ++ '(' :: front <+:
          before ++ '(' :: (group ++ ')' :: behind) := by
      rw [List.prefix_append_right_inj, List.cons_prefix_cons]
      exact ⟨rfl, begins.trans (List.prefix_append group _)⟩
    have atMost := bounded _ beginsText
    simp only [List.count_append, List.count_cons_self,
      List.count_cons_of_ne (by decide : '(' ≠ ')')] at atMost
    omega
  have positive : 1 ≤ depth := by
    simpa using openInside [] List.nil_prefix
  have groupBounded : nesting group ≤ depth - 1 := by
    apply nesting_le_iff.mpr
    intro front begins
    have atMost := openInside front begins
    omega
  omega

/-- In front of a group of a sequence as many parentheses are closed as are opened. -/
theorem Grouped.exists_before
    {groups : List (List Char)}
    {text group : List Char}
    (grouped : Grouped groups text)
    (member : group ∈ groups) :
    ∃ before behind,
      text = before ++ '(' :: (group ++ ')' :: behind) ∧
        before.count '(' = before.count ')' := by
  induction grouped with
  | done allBlank =>
      cases member
  | @more blanks first others text allBlank balanced rest
      inductionHypothesis =>
      have blanksCount := count_of_isBalanced (isBalanced_of_isBlank allBlank)
      rcases List.mem_cons.mp member with rfl | inOthers
      · exact ⟨blanks, text, rfl, blanksCount⟩
      · obtain ⟨before, behind, rfl, outermost⟩ :=
          inductionHypothesis inOthers
        refine ⟨blanks ++ '(' :: (first ++ ')' :: before), behind, ?_, ?_⟩
        · simp
        · have firstCount := count_of_isBalanced balanced
          simp only [List.count_append, List.count_cons_self,
            List.count_cons_of_ne (by decide : '(' ≠ ')'),
            List.count_cons_of_ne (by decide : ')' ≠ '(')]
          omega

end WerewolfSpeech.Line
