import WerewolfSpeech.Proofs.Line.Exchange
import WerewolfSpeech.Proofs.Line.Scan

namespace WerewolfSpeech.Line

/-!
# Clause lists as they are written

A clause list is written as blanks, then each group in parentheses with the blanks behind it.
The scan of a clause list is the inverse of writing one: a text has at most one arrangement of
balanced groups, blanks included, and the scan finds the groups of the arrangement, or nothing
if there is none.
-/

/-- A text in which every parenthesis has its counterpart. -/
structure Balanced (text : List Char) : Prop where
  /-- No beginning of the text closes more parentheses than it opens. -/
  closesOpened :
    ∀ front, front <+: text → front.count ')' ≤ front.count '('
  /-- The text closes as many parentheses as it opens. -/
  closesAll : text.count ')' = text.count '('

/-- A group, and the blanks behind the parenthesis that closes it. -/
structure Piece where
  group : String
  blanks : String
  deriving Repr, DecidableEq

/-- Groups in their order, with the blanks in front of them, between them and behind them. -/
structure Arrangement where
  lead : String
  pieces : List Piece
  deriving Repr, DecidableEq

namespace Arrangement

/-- The groups of an arrangement. -/
def groups
    (arrangement : Arrangement) :
    List String :=
  arrangement.pieces.map Piece.group

/-- The text of an arrangement, in which each group stands in parentheses. -/
def text
    (arrangement : Arrangement) :
    String :=
  arrangement.lead ++
    String.join
      (arrangement.pieces.map fun piece =>
        "(" ++ piece.group ++ ")" ++ piece.blanks)

/-- An arrangement of balanced groups with nothing but blanks around them. -/
structure Proper (arrangement : Arrangement) : Prop where
  /-- Blanks stand in front of the first group. -/
  leadBlank :
    ∀ character ∈ arrangement.lead.toList,
      Text.isBlank character = true
  /-- Blanks stand behind each group. -/
  blanksBlank :
    ∀ piece ∈ arrangement.pieces,
      ∀ character ∈ piece.blanks.toList, Text.isBlank character = true
  /-- Every group is balanced. -/
  groupBalanced :
    ∀ piece ∈ arrangement.pieces, Balanced piece.group.toList

end Arrangement

/-- A text that never closes more than was open, and all of that in the end, closes it. -/
private theorem closes_of_counts
    {depth : Nat}
    {text : List Char}
    (closesOpened :
      ∀ front, front <+: text →
        front.count ')' ≤ front.count '(' + depth)
    (closesAll : text.count ')' = text.count '(' + depth) :
    closes depth text = true := by
  induction text generalizing depth with
  | nil =>
      have isZero : depth = 0 := by
        simpa using closesAll.symm
      rw [isZero]
      rfl
  | cons character rest inductionHypothesis =>
      have restOpened :
          ∀ front, front <+: rest →
            (character :: front).count ')' ≤
              (character :: front).count '(' + depth :=
        fun front begins =>
          closesOpened _ (List.cons_prefix_cons.mpr ⟨rfl, begins⟩)
      by_cases closing : character = ')'
      · subst closing
        simp only [List.count_cons_self,
          List.count_cons_of_ne (by decide : ')' ≠ '(')]
          at restOpened closesAll
        cases depth with
        | zero =>
            have none := restOpened [] List.nil_prefix
            simp at none
        | succ outer =>
            rw [closes_closing]
            refine inductionHypothesis (fun front begins => ?_) ?_
            · have bound := restOpened front begins
              omega
            · omega
      · by_cases opening : character = '('
        · subst opening
          simp only [List.count_cons_self,
            List.count_cons_of_ne (by decide : '(' ≠ ')')]
            at restOpened closesAll
          rw [closes_opening]
          refine inductionHypothesis (fun front begins => ?_) ?_
          · have bound := restOpened front begins
            omega
          · omega
        · simp only [List.count_cons_of_ne closing,
            List.count_cons_of_ne opening] at restOpened closesAll
          rw [closes_other opening closing]
          exact inductionHypothesis restOpened closesAll

/-- Counting open parentheses tells whether a text is balanced. -/
private theorem isBalanced_iff
    {text : List Char} :
    isBalanced text = true ↔ Balanced text := by
  constructor
  · intro balanced
    refine ⟨?_, (count_of_isBalanced balanced).symm⟩
    rintro front ⟨behind, rfl⟩
    obtain ⟨between, counted, _⟩ := exists_between_of_closes balanced
    omega
  · rintro ⟨closesOpened, closesAll⟩
    exact closes_of_counts closesOpened closesAll

namespace Arrangement

private theorem toList_text_nil
    (lead : String) :
    (Arrangement.mk lead []).text.toList = lead.toList := by
  simp [text]

private theorem toList_text_cons
    (lead : String)
    (piece : Piece)
    (rest : List Piece) :
    (Arrangement.mk lead (piece :: rest)).text.toList =
      lead.toList ++
        '(' ::
          (piece.group.toList ++
            ')' :: (Arrangement.mk piece.blanks rest).text.toList) := by
  simp [text]

namespace Proper

variable
  {lead : String}
  {piece : Piece}
  {rest : List Piece}

/-- Behind its first group a proper arrangement goes on as a proper one. -/
private theorem tail
    (proper : (Arrangement.mk lead (piece :: rest)).Proper) :
    (Arrangement.mk piece.blanks rest).Proper where
  leadBlank := proper.blanksBlank piece List.mem_cons_self
  blanksBlank other member :=
    proper.blanksBlank other (List.mem_cons_of_mem piece member)
  groupBalanced other member :=
    proper.groupBalanced other (List.mem_cons_of_mem piece member)

/-- The first group of a proper arrangement is balanced. -/
theorem isBalanced_group
    (proper : (Arrangement.mk lead (piece :: rest)).Proper) :
    isBalanced piece.group.toList = true :=
  isBalanced_iff.mpr (proper.groupBalanced piece List.mem_cons_self)

/-- There is no parenthesis in front of the first group. -/
private theorem opening_not_mem
    {arrangement : Arrangement}
    (proper : arrangement.Proper) :
    '(' ∉ arrangement.lead.toList :=
  fun member =>
    (Text.ne_parenthesis_of_isBlank (proper.leadBlank '(' member)).1 rfl

/-- The text of a proper arrangement is a sequence of its groups. -/
theorem grouped
    {pieces : List Piece}
    (proper : (Arrangement.mk lead pieces).Proper) :
    Grouped
      (((Arrangement.mk lead pieces).groups).map String.toList)
      (Arrangement.mk lead pieces).text.toList := by
  induction pieces generalizing lead with
  | nil =>
      rw [toList_text_nil]
      exact .done proper.leadBlank
  | cons piece rest inductionHypothesis =>
      rw [toList_text_cons]
      exact .more proper.leadBlank proper.isBalanced_group
        (inductionHypothesis proper.tail)

/-- The characters of a text tell how it is arranged. -/
private theorem parts_eq
    {pieces otherPieces : List Piece}
    {otherLead : String}
    (proper : (Arrangement.mk lead pieces).Proper)
    (otherProper : (Arrangement.mk otherLead otherPieces).Proper)
    (sameChars :
      (Arrangement.mk lead pieces).text.toList =
        (Arrangement.mk otherLead otherPieces).text.toList) :
    lead = otherLead ∧ pieces = otherPieces := by
  have noOpening := proper.opening_not_mem
  have noOtherOpening := otherProper.opening_not_mem
  induction pieces generalizing lead otherLead otherPieces with
  | nil =>
      cases otherPieces with
      | nil =>
          rw [toList_text_nil, toList_text_nil] at sameChars
          exact ⟨String.toList_inj.mp sameChars, rfl⟩
      | cons otherPiece otherRest =>
          rw [toList_text_nil, toList_text_cons] at sameChars
          simp [sameChars] at noOpening
  | cons piece rest inductionHypothesis =>
      cases otherPieces with
      | nil =>
          rw [toList_text_nil, toList_text_cons] at sameChars
          simp [← sameChars] at noOtherOpening
      | cons otherPiece otherRest =>
          rw [toList_text_cons, toList_text_cons] at sameChars
          rcases cut_at_opening noOtherOpening sameChars with
              ⟨sameLead, sameBehind⟩ | ⟨inner, longer, _⟩
          · obtain ⟨sameGroup, sameTail⟩ :=
              eq_of_append_closing proper.isBalanced_group
                otherProper.isBalanced_group sameBehind
            obtain ⟨sameBlanks, sameRest⟩ :=
              inductionHypothesis proper.tail otherProper.tail sameTail
                proper.tail.opening_not_mem
                otherProper.tail.opening_not_mem
            have samePiece : piece = otherPiece := by
              rcases piece with ⟨group, blanks⟩
              rcases otherPiece with ⟨otherGroup, otherBlanks⟩
              exact congrArg₂ Piece.mk (String.toList_inj.mp sameGroup)
                sameBlanks
            exact ⟨String.toList_inj.mp sameLead,
              congrArg₂ List.cons samePiece sameRest⟩
          · simp [longer] at noOpening

/-- Two proper arrangements of one text are the same. -/
theorem unique
    {first second : Arrangement}
    (proper : first.Proper)
    (otherProper : second.Proper)
    (sameText : first.text = second.text) :
    first = second := by
  obtain ⟨sameLead, samePieces⟩ :=
    proper.parts_eq otherProper (congrArg String.toList sameText)
  exact congrArg₂ Arrangement.mk sameLead samePieces

end Proper

/-- A sequence of groups has a proper arrangement. -/
private theorem exists_of_grouped
    {groups : List (List Char)}
    {text : List Char}
    (grouped : Grouped groups text) :
    ∃ arrangement : Arrangement,
      arrangement.Proper ∧
        arrangement.text.toList = text ∧
          arrangement.groups = groups.map String.ofList := by
  induction grouped with
  | @done blanks allBlank =>
      refine ⟨⟨String.ofList blanks, []⟩, ⟨?_, by simp, by simp⟩, ?_, rfl⟩
      · rwa [String.toList_ofList]
      · rw [toList_text_nil, String.toList_ofList]
  | @more blanks group groups text allBlank balanced rest
      inductionHypothesis =>
      obtain ⟨⟨lead, pieces⟩, proper, sameText, sameGroups⟩ :=
        inductionHypothesis
      refine
        ⟨⟨String.ofList blanks, ⟨String.ofList group, lead⟩ :: pieces⟩,
          ⟨?_, ?_, ?_⟩, ?_, ?_⟩
      · rwa [String.toList_ofList]
      · exact List.forall_mem_cons.mpr
          ⟨proper.leadBlank, proper.blanksBlank⟩
      · refine List.forall_mem_cons.mpr ⟨?_, proper.groupBalanced⟩
        rw [String.toList_ofList]
        exact isBalanced_iff.mp balanced
      · rw [toList_text_cons, String.toList_ofList, String.toList_ofList,
          sameText]
      · rw [Arrangement.groups, List.map_cons, List.map_cons, ← sameGroups]
        rfl

end Arrangement

/-- The scan finds the groups of the texts that are arrangements of them. -/
private theorem scanGroups?_eq_some_iff
    {list : String}
    {groups : List String} :
    scanGroups? list = some groups ↔
      groups ≠ [] ∧
        ∃ arrangement : Arrangement,
          arrangement.Proper ∧
            arrangement.text = list ∧ arrangement.groups = groups := by
  rw [scanGroups?_eq, Option.map_eq_some_iff]
  constructor
  · rintro ⟨found, split, rfl⟩
    obtain ⟨nonempty, grouped⟩ := splitGroups?_eq_some_iff.mp split
    obtain ⟨arrangement, proper, sameText, sameGroups⟩ :=
      Arrangement.exists_of_grouped grouped
    exact ⟨by simpa using nonempty, arrangement, proper,
      String.toList_inj.mp sameText, sameGroups⟩
  · rintro ⟨nonempty, arrangement, proper, rfl, rfl⟩
    refine ⟨arrangement.groups.map String.toList,
      splitGroups?_eq_some_iff.mpr ⟨by simpa using nonempty,
        proper.grouped⟩, ?_⟩
    simp

/-- The splitter of the readers finds what the scan finds. -/
private theorem splitGroups?_eq
    (list : List Char) :
    splitGroups? list =
      (scanGroups? (String.ofList list)).map (List.map String.toList) := by
  rw [scanGroups?_eq, String.toList_ofList, Option.map_map]
  simp [Function.comp_def]

/--
The scan of a clause list is the inverse of writing one. It finds the groups of exactly the
texts that are an arrangement of at least one balanced group, and nothing in any other text.
A text has one arrangement at most, and whatever blanks an arrangement has, its groups are
found again. The readers of lines split clause lists in the same way.
-/
theorem scanGroups?_inverts_text :
    (∀ list groups,
        scanGroups? list = some groups ↔
          groups ≠ [] ∧
            ∃ arrangement : Arrangement,
              arrangement.Proper ∧
                arrangement.text = list ∧ arrangement.groups = groups) ∧
      (∀ list,
          scanGroups? list = none ↔
            ∀ arrangement : Arrangement,
              arrangement.Proper →
                arrangement.text = list → arrangement.groups = []) ∧
        (∀ first second : Arrangement,
            first.Proper → second.Proper →
              first.text = second.text → first = second) ∧
          (∀ arrangement : Arrangement,
              arrangement.Proper → arrangement.groups ≠ [] →
                scanGroups? arrangement.text = some arrangement.groups) ∧
            ∀ list,
              splitGroups? list =
                (scanGroups? (String.ofList list)).map
                  (List.map String.toList) := by
  refine ⟨fun _ _ => scanGroups?_eq_some_iff, fun list => ?_,
    fun _ _ => Arrangement.Proper.unique, ?_, splitGroups?_eq⟩
  · constructor
    · intro notFound arrangement proper sameText
      by_contra nonempty
      have found :=
        scanGroups?_eq_some_iff.mpr
          ⟨nonempty, arrangement, proper, sameText, rfl⟩
      rw [notFound] at found
      cases found
    · intro noGroups
      cases found : scanGroups? list with
      | none => rfl
      | some groups =>
          obtain ⟨nonempty, arrangement, proper, sameText, sameGroups⟩ :=
            scanGroups?_eq_some_iff.mp found
          rw [← sameGroups, noGroups arrangement proper sameText] at nonempty
          exact absurd rfl nonempty
  · intro arrangement proper nonempty
    exact scanGroups?_eq_some_iff.mpr
      ⟨nonempty, arrangement, proper, rfl, rfl⟩

end WerewolfSpeech.Line
