import Mathlib.Logic.Basic
import WerewolfSpeech.Proofs.Content.Completion

namespace WerewolfSpeech.Content

/-!
# The nodes of a content

A content is made of nodes: its root and the nodes of its clauses. Completion gives
subjects to nodes and takes none away, so a skipped turn somewhere in a content is still
there after the content has been completed or has become a clause of another.
-/

mutual

/-- The content and every content below it, from the root down. -/
def nodes :
    Content →
    List Content
  | .atomic subject statement =>
      [.atomic subject statement]
  | .joined subject connective clauses =>
      .joined subject connective clauses :: nodesOfEach clauses

/-- The nodes of the clauses, one clause after the other. -/
def nodesOfEach :
    List Content →
    List Content
  | [] => []
  | clause :: rest => clause.nodes ++ nodesOfEach rest

end

/-- Whether a turn is skipped somewhere in the content. -/
def HasSkip
    (content : Content) :
    Prop :=
  ∃ node ∈ content.nodes, node.isSkip = true

/-- The nodes below the root are those of the clauses. -/
theorem mem_nodesOfEach
    {clauses : List Content}
    {node : Content} :
    node ∈ nodesOfEach clauses ↔
      ∃ clause ∈ clauses, node ∈ clause.nodes := by
  induction clauses with
  | nil =>
      simp [nodesOfEach]
  | cons clause rest inductionHypothesis =>
      simp [nodesOfEach, inductionHypothesis]

/-- The root is a node. -/
theorem self_mem_nodes
    (content : Content) :
    content ∈ content.nodes := by
  cases content <;> simp [nodes]

/-- The nodes of a clause are nodes of the content. -/
theorem mem_nodes_of_clause
    {subject : Agent}
    {connective : Connective}
    {clauses : List Content}
    {clause node : Content}
    (member : clause ∈ clauses)
    (inClause : node ∈ clause.nodes) :
    node ∈ (Content.joined subject connective clauses).nodes := by
  rw [nodes]
  exact List.mem_cons_of_mem _
    (mem_nodesOfEach.mpr ⟨clause, member, inClause⟩)

/-- A statement is a skipped turn or contains none. -/
theorem hasSkip_atomic
    {subject : Agent}
    {statement : Statement} :
    HasSkip (.atomic subject statement) ↔
      statement = .silence .skip := by
  simp only [HasSkip, nodes, List.mem_singleton, exists_eq_left]
  cases statement with
  | silence kind =>
      cases kind <;> simp [isSkip]
  | stance kind citation => simp [isSkip]
  | disclosure kind target role => simp [isSkip]
  | finding kind target species => simp [isSkip]
  | deed kind target => simp [isSkip]

/-- Joined clauses contain a skipped turn if one of the clauses does. -/
theorem hasSkip_joined
    {subject : Agent}
    {connective : Connective}
    {clauses : List Content} :
    HasSkip (.joined subject connective clauses) ↔
      ∃ clause ∈ clauses, clause.HasSkip := by
  constructor
  · rintro ⟨node, member, skips⟩
    rw [nodes] at member
    rcases List.mem_cons.mp member with isRoot | isBelow
    · subst node
      cases skips
    · obtain ⟨clause, clauseMember, inClause⟩ :=
        mem_nodesOfEach.mp isBelow
      exact ⟨clause, clauseMember, node, inClause, skips⟩
  · rintro ⟨clause, clauseMember, node, inClause, skips⟩
    exact ⟨node, mem_nodes_of_clause clauseMember inClause, skips⟩

/-- A skipped turn contains itself. -/
theorem hasSkip_skip :
    skip.HasSkip :=
  hasSkip_atomic.mpr rfl

/-- Another subject neither adds nor removes a skipped turn. -/
private theorem hasSkip_withSubject
    {content : Content}
    {subject : Agent} :
    (content.withSubject subject).HasSkip ↔ content.HasSkip := by
  induction content generalizing subject with
  | atomic former statement =>
      rw [withSubject_atomic, state_eq, hasSkip_atomic, hasSkip_atomic]
      cases statement <;> simp [Statement.withTarget]
  | joined former connective clauses inductionHypothesis =>
      rw [withSubject_joined, join_eq, hasSkip_joined, hasSkip_joined]
      simp only [List.mem_map, exists_exists_and_eq_and]
      apply exists_congr
      intro clause
      apply and_congr_right
      intro member
      unfold governed
      split
      · exact inductionHypothesis clause member
      · exact Iff.rfl

/-- Joining neither adds nor removes a skipped turn. -/
theorem hasSkip_join
    {subject : Agent}
    {connective : Connective}
    {clauses : List Content} :
    (join subject connective clauses).HasSkip ↔
      ∃ clause ∈ clauses, clause.HasSkip := by
  rw [← withSubject_joined subject subject, hasSkip_withSubject,
    hasSkip_joined]

end WerewolfSpeech.Content
