import WerewolfSpeech.Line.Scan
import WerewolfSpeech.Proofs.Line.Groups

namespace WerewolfSpeech.Line

/-!
# The scan finds the groups that the splitter finds

The scan of a clause list goes by positions and cuts groups out of the text, whereas the
splitter goes by characters and collects them. At every position the two agree on what is to
come: as long as a group is open, the part of it that has been scanned stands between the
position where it was opened and the present one.
-/

namespace Scan

variable {list : String}

/--
A scan at a position behind which the rest of the list stands. If a group is open, the part
of it in front of the position is the one that is pending.
-/
structure Stands
    (scan : Scan list)
    (position : list.Pos)
    (pending rest : List Char) :
    Prop where
  /-- The rest of the list is behind the position. -/
  placed : ∃ before, position.Splits before (String.ofList rest)
  /-- The pending part begins where the group was opened. -/
  spans :
    scan.depth ≠ 0 →
      ∃ lead,
        scan.opened.Splits lead
            (String.ofList pending ++ String.ofList rest) ∧
          position.Splits (lead ++ String.ofList pending)
            (String.ofList rest)

/-- The groups that the splitter finds in the rest of a list. -/
def ahead?
    (depth : Nat)
    (pending rest : List Char) :
    Option (List (List Char)) :=
  match depth with
  | 0 => groupsOutside? rest
  | outer + 1 =>
      (groupsInside? outer rest).map fun found =>
        (pending ++ found.1) :: found.2

/-- The groups that a scan has found, and those that the splitter finds in the rest. -/
def total?
    (scan : Scan list)
    (pending rest : List Char) :
    Option (List String) :=
  (ahead? scan.depth pending rest).map fun found =>
    scan.groups ++ found.map String.ofList

/-- What stands between two positions is cut out of the text. -/
private theorem extract_of_splits
    {opened position : list.Pos}
    {lead between rest : String}
    (openedSplits : opened.Splits lead (between ++ rest))
    (positionSplits : position.Splits (lead ++ between) rest) :
    String.extract opened position = between := by
  obtain ⟨inOrder, same⟩ :=
    String.copy_slice_eq_iff_splits.mpr
      ⟨lead, rest, openedSplits, positionSplits⟩
  rw [String.extract_eq_copy_slice opened position inOrder, same]

private theorem ofList_cons
    (character : Char)
    (rest : List Char) :
    String.ofList (character :: rest) =
      String.singleton character ++ String.ofList rest := by
  rw [← List.singleton_append, String.ofList_append]
  rfl

namespace Stands

variable
  {scan : Scan list}
  {position : list.Pos}
  {pending rest : List Char}
  {character : Char}

private theorem ne_endPos
    (stands : scan.Stands position pending (character :: rest)) :
    position ≠ list.endPos := by
  obtain ⟨before, placed⟩ := stands.placed
  rw [ofList_cons] at placed
  exact placed.ne_endPos_of_singleton

/-- The character at the position of a scan is the first one of the rest. -/
private theorem get_eq
    (stands : scan.Stands position pending (character :: rest)) :
    position.get stands.ne_endPos = character := by
  obtain ⟨before, placed⟩ := stands.placed
  rw [ofList_cons] at placed
  exact placed.next.get_eq_of_singleton

private theorem placed_next
    (stands : scan.Stands position pending (character :: rest)) :
    ∃ before,
      (position.next stands.ne_endPos).Splits before
        (String.ofList rest) := by
  obtain ⟨before, placed⟩ := stands.placed
  rw [ofList_cons] at placed
  exact ⟨_, placed.next⟩

private theorem spans_next
    (stands : scan.Stands position pending (character :: rest))
    (isOpen : scan.depth ≠ 0) :
    ∃ lead,
      scan.opened.Splits lead
          (String.ofList (pending ++ [character]) ++ String.ofList rest) ∧
        (position.next stands.ne_endPos).Splits
          (lead ++ String.ofList (pending ++ [character]))
          (String.ofList rest) := by
  obtain ⟨lead, openedSplits, placed⟩ := stands.spans isOpen
  have longer :
      String.ofList (pending ++ [character]) =
        String.ofList pending ++ String.singleton character := by
    rw [String.ofList_append]
    rfl
  rw [ofList_cons] at openedSplits placed
  refine ⟨lead, ?_, ?_⟩
  · rw [longer, String.append_assoc]
    exact openedSplits
  · rw [longer, ← String.append_assoc]
    exact placed.next

/-- What is pending when a group ends is what is cut out of the text. -/
private theorem extract_eq
    (stands : scan.Stands position pending rest)
    (isOpen : scan.depth ≠ 0) :
    String.extract scan.opened position = String.ofList pending := by
  obtain ⟨lead, openedSplits, placed⟩ := stands.spans isOpen
  exact extract_of_splits openedSplits placed

/-- A scan at the same depth, one character further in a group that is open. -/
private theorem further
    (stands : scan.Stands position pending (character :: rest))
    {next : Scan list}
    (isOpen : scan.depth ≠ 0)
    (sameOpened : next.opened = scan.opened) :
    next.Stands (position.next stands.ne_endPos)
      (pending ++ [character]) rest := by
  refine ⟨stands.placed_next, fun _ => ?_⟩
  rw [sameOpened]
  exact stands.spans_next isOpen

end Stands

section Ahead

variable
  (pending : List Char)
  (rest : List Char)

private theorem ahead?_inside
    {character : Char}
    {outer later : Nat}
    (passed :
      groupsInside? outer (character :: rest) =
        (groupsInside? later rest).map fun found =>
          (character :: found.1, found.2)) :
    ahead? (outer + 1) pending (character :: rest) =
      ahead? (later + 1) (pending ++ [character]) rest := by
  simp only [ahead?, passed, Option.map_map]
  congr 1
  funext found
  simp

private theorem ahead?_closing
    (later : List Char) :
    ahead? 1 pending (')' :: rest) =
      (ahead? 0 later rest).map fun found => pending :: found := by
  simp only [ahead?, groupsInside?_closing_zero, Option.map_map]
  congr 1
  funext found
  simp

private theorem ahead?_opening :
    ahead? 0 pending ('(' :: rest) = ahead? 1 [] rest :=
  groupsOutside?_opening rest

private theorem ahead?_blank
    {blank : Char}
    (isBlank : Text.isBlank blank = true)
    (later : List Char) :
    ahead? 0 pending (blank :: rest) = ahead? 0 later rest := by
  have oneBlank : ∀ character ∈ [blank], Text.isBlank character = true := by
    simp [isBlank]
  exact groupsOutside?_blanks_append oneBlank rest

private theorem ahead?_stray
    {character : Char}
    (notOpening : character ≠ '(')
    (notBlank : Text.isBlank character = false) :
    ahead? 0 pending (character :: rest) = none := by
  rw [ahead?, groupsOutside?, if_neg notOpening, notBlank]
  rfl

end Ahead

/--
What a step may lead to: the scan stops if no groups are expected, else it goes on at the
next position and expects the same groups.
-/
def Continues
    (position : list.Pos)
    (rest : List Char)
    (expected : Option (List String)) :
    Option (Scan list) →
    Prop
  | none => expected = none
  | some next =>
      ∃ pending,
        next.Stands position pending rest ∧
          next.total? pending rest = expected

namespace Stands

variable
  {opened position : list.Pos}
  {groups : List String}
  {pending rest : List Char}
  {character : Char}

private theorem continues_outside
    (stands :
      (Scan.mk 0 opened groups).Stands position pending
        (character :: rest)) :
    Continues (position.next stands.ne_endPos) rest
      ((Scan.mk 0 opened groups).total? pending (character :: rest))
      ((Scan.mk 0 opened groups).step? position stands.ne_endPos) := by
  rw [step?, stands.get_eq]
  by_cases opens : character = '('
  · subst opens
    refine ⟨[], ⟨stands.placed_next, fun _ => ?_⟩, ?_⟩
    · obtain ⟨before, placed⟩ := stands.placed_next
      exact ⟨before, by simpa [opening] using placed,
        by simpa using placed⟩
    · rw [total?, total?, ahead?_opening]
      rfl
  · by_cases closesOne : character = ')'
    · subst closesOne
      rw [total?, ahead?_stray pending rest opens (by decide)]
      rfl
    · cases isBlank : Text.isBlank character with
      | true =>
          simp only [opens, closesOne, Bool.not_true, Bool.and_false,
            Bool.false_eq_true, if_false]
          refine ⟨[], ⟨stands.placed_next, fun isOpen => ?_⟩, ?_⟩
          · exact absurd rfl isOpen
          · rw [total?, total?, ahead?_blank pending rest isBlank []]
      | false =>
          rw [total?, ahead?_stray pending rest opens isBlank]
          simp [opens, closesOne, Continues]

private theorem continues_inside
    {outer : Nat}
    (stands :
      (Scan.mk (outer + 1) opened groups).Stands position pending
        (character :: rest)) :
    Continues (position.next stands.ne_endPos) rest
      ((Scan.mk (outer + 1) opened groups).total? pending
        (character :: rest))
      ((Scan.mk (outer + 1) opened groups).step? position
        stands.ne_endPos) := by
  have isOpen := Nat.succ_ne_zero outer
  rw [step?, stands.get_eq]
  by_cases opens : character = '('
  · subst opens
    refine ⟨pending ++ ['('], stands.further isOpen rfl, ?_⟩
    rw [total?, total?,
      ahead?_inside pending rest (groupsInside?_opening outer rest)]
    rfl
  · by_cases closesOne : character = ')'
    · subst closesOne
      cases outer with
      | zero =>
          refine ⟨[], ⟨stands.placed_next, fun stillOpen => ?_⟩, ?_⟩
          · exact absurd rfl stillOpen
          · rw [total?, total?, ahead?_closing pending rest [],
              stands.extract_eq isOpen, Option.map_map]
            congr 1
            funext found
            simp
      | succ outer =>
          refine ⟨pending ++ [')'], stands.further isOpen rfl, ?_⟩
          rw [total?, total?,
            ahead?_inside pending rest (groupsInside?_closing outer rest)]
    · simp only [opens, closesOne, Nat.add_eq_zero_iff, Nat.one_ne_zero,
        and_false, decide_false, Bool.false_and, Bool.false_eq_true,
        if_false]
      refine ⟨pending ++ [character], stands.further isOpen rfl, ?_⟩
      rw [total?, total?,
        ahead?_inside pending rest
          (groupsInside?_other opens closesOne outer rest)]

/-- A step keeps what is expected. -/
private theorem continues_step?
    {scan : Scan list}
    (stands : scan.Stands position pending (character :: rest)) :
    Continues (position.next stands.ne_endPos) rest
      (scan.total? pending (character :: rest))
      (scan.step? position stands.ne_endPos) := by
  rcases scan with ⟨depth, opened, groups⟩
  cases depth with
  | zero => exact stands.continues_outside
  | succ outer => exact stands.continues_inside

/-- At the end of the list what is expected has been found. -/
private theorem closedGroups?_eq
    {scan : Scan list}
    (pending : List Char) :
    scan.closedGroups? = scan.total? pending [] := by
  rcases scan with ⟨depth, opened, groups⟩
  cases depth with
  | zero => simp [closedGroups?, total?, ahead?, groupsOutside?]
  | succ outer => simp [closedGroups?, total?, ahead?, groupsInside?]

/-- A scan finds what is expected of it from any position on. -/
private theorem run?_eq_total?
    {scan : Scan list}
    (stands : scan.Stands position pending rest) :
    (scan.run? position).bind closedGroups? =
      scan.total? pending rest := by
  induction rest generalizing scan position pending with
  | nil =>
      obtain ⟨before, placed⟩ := stands.placed
      have atEnd : position = list.endPos := placed.eq_endPos_iff.mpr rfl
      rw [run?, dif_pos atEnd, Option.bind_some]
      exact closedGroups?_eq pending
  | cons character rest inductionHypothesis =>
      have continues := stands.continues_step?
      rw [run?, dif_neg stands.ne_endPos]
      cases stepped : scan.step? position stands.ne_endPos with
      | none =>
          rw [stepped] at continues
          exact continues.symm
      | some next =>
          rw [stepped] at continues
          obtain ⟨nextPending, nextStands, sameTotal⟩ := continues
          rw [Option.bind_some, inductionHypothesis nextStands, sameTotal]

end Stands

end Scan

/-- The scan of a list finds the groups that the splitter finds. -/
theorem scanGroups?_eq
    (list : String) :
    scanGroups? list =
      (splitGroups? list.toList).map (List.map String.ofList) := by
  have stands :
      (Scan.start list).Stands list.startPos [] list.toList := by
    refine ⟨⟨"", ?_⟩, fun isOpen => absurd rfl isOpen⟩
    rw [String.ofList_toList]
    exact String.splits_startPos list
  have expected :
      (Scan.start list).total? [] list.toList =
        (groupsOutside? list.toList).map (List.map String.ofList) :=
    rfl
  rw [scanGroups?, stands.run?_eq_total?, expected, splitGroups?]
  cases groupsOutside? list.toList with
  | none => rfl
  | some groups =>
      cases groups with
      | nil => rfl
      | cons first rest => rfl

end WerewolfSpeech.Line
