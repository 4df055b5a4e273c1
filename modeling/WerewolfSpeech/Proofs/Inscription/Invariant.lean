import WerewolfSpeech.Proofs.Inscription.Reading
import WerewolfSpeech.Proofs.Reachable

namespace WerewolfSpeech

/-!
# What can be relied on in every inscription

An inscription is kept if it is the inscribed form of a well-formed content. Each operation
on inscriptions keeps this, whoever the agents are, because it is the inscribed form of an
operation that keeps contents well-formed. What can be relied on follows for every node:
its number of clauses, its target, the subjects of its clauses, the line that it carries,
and that its parts are put together again to the same node.
-/

namespace Inscription

open Content

/--
What can be made with the operations on inscriptions. The builders whose signature says
how many clauses they take join that many; the other builders of connectives compose.
-/
inductive Reachable : Inscription → Prop where
  | state
      (subject : Agent)
      (statement : Statement) :
      Reachable (state subject statement)
  | join
      {connective : Connective}
      {clauses : List Inscription}
      (subject : Agent)
      (arityAccepts : connective.operator.arity.accepts clauses.length = true)
      (clausesReachable : ∀ clause ∈ clauses, Reachable clause) :
      Reachable (join subject connective clauses)
  | compose
      {subject : Agent}
      {connective : Connective}
      {clauses : List Inscription}
      {inscription : Inscription}
      (clausesReachable : ∀ clause ∈ clauses, Reachable clause)
      (composed : compose subject connective clauses = .ok inscription) :
      Reachable inscription
  | reassemble
      {subject : Agent}
      {inscription result : Inscription}
      (reachable : Reachable inscription)
      (reassembled : inscription.reassemble subject = .ok result) :
      Reachable result
  | withSubject
      {inscription : Inscription}
      (subject : Agent)
      (reachable : Reachable inscription) :
      Reachable (inscription.withSubject subject)
  | clause
      {inscription clause : Inscription}
      (reachable : Reachable inscription)
      (member : clause ∈ inscription.clauses) :
      Reachable clause
  | read
      {maxDepth : Nat}
      {text : String}
      {inscription : Inscription}
      (succeeds : read maxDepth text = .ok inscription) :
      Reachable inscription
  | readOrSkip
      (maxDepth : Nat)
      (text : String) :
      Reachable (readOrSkip maxDepth text)

/-- The nodes of an inscription: itself, and the nodes of its clauses. -/
inductive IsNode (node : Inscription) : Inscription → Prop where
  | root : IsNode node node
  | inClause
      {inscription clause : Inscription}
      (member : clause ∈ inscription.clauses)
      (isNode : IsNode node clause) :
      IsNode node inscription

/-- The part of the line that names the subject; a silence has none. -/
def lead
    (inscription : Inscription) :
    String :=
  if inscription.isSilence = true ∨ inscription.subject = .unspecified then
    ""
  else
    inscription.subject.label ++ " "

/-- What can be relied on at a node. -/
structure Sound (node : Inscription) : Prop where
  /-- There are as many clauses as the operator takes. -/
  arityAccepts :
    ∀ operator ∈ node.operator?,
      operator.arity.accepts node.clauses.length = true
  /-- A target that is there is specified. -/
  targetSpecified : node.target? ≠ some .unspecified
  /-- A clause is without a subject only under a node that is and addresses nobody. -/
  clauseUngoverned :
    ∀ clause ∈ node.clauses,
      clause.subject = .unspecified →
      node.subject = .unspecified ∧
        node.operator? ≠ some .request ∧
          node.operator? ≠ some .inquire
  /-- The line is the one that is rendered from the content alone. -/
  text_eq : node.text = node.plain.text
  /-- So is the line without the subject. -/
  body_eq : node.body = node.plain.body
  /-- The line consists of the part that names the subject and the body. -/
  text_eq_append : node.text = node.lead ++ node.body
  /-- The body starts where the part that names the subject ends. -/
  bodyStart_eq : node.rendered.bodyStart.offset = node.lead.rawEndPos
  /-- The parts of the node are put together to the same node. -/
  reassembled : node.reassemble node.subject = .ok node

/-- The inscribed form of a well-formed content. -/
def Kept
    (inscription : Inscription) :
    Prop :=
  ∃ content : Content,
    content.WellFormed (fun _ => True) ∧ content.inscribe = inscription

/-- The part of an inscribed content that names the subject is the one rendered. -/
private theorem lead_inscribe
    (content : Content) :
    content.inscribe.lead = String.ofList content.subjectChars := by
  simp only [lead, subjectChars_eq_leadChars, isSilence_inscribe,
    subject_inscribe]
  by_cases silent : content.isSilence = true
  · simp [silent]
  · by_cases noSubject : content.subject = .unspecified
    · simp [noSubject, leadChars]
    · simp [silent, noSubject, leadChars, Agent.label]

/-- What addresses nobody is neither a request nor an inquiry. -/
private theorem operator?_of_no_target?
    {content : Content}
    (unnamed : content.target? = none) :
    content.operator? ≠ some .request ∧
      content.operator? ≠ some .inquire := by
  cases content with
  | atomic subject statement =>
      simp [Content.operator?]
  | joined subject connective clauses =>
      cases connective <;>
        simp_all [Content.operator?, Content.target?, Connective.operator,
          Connective.target?]

/-- Every root that is inscribed from a well-formed content is sound. -/
private theorem sound_inscribe
    {content : Content}
    (wellFormed : content.WellFormed (fun _ => True)) :
    content.inscribe.Sound where
  arityAccepts := by
    simp only [operator?_inscribe, clauses_inscribe, List.length_map]
    cases content with
    | atomic subject statement =>
        rintro operator ⟨⟩
    | joined subject connective clauses =>
        rintro operator ⟨⟩
        exact wellFormed.arityAccepts
  targetSpecified := by
    intro named
    have aimed :=
      wellFormed.aimed .unspecified (by simpa using named)
    exact aimed.2 rfl
  clauseUngoverned := by
    simp only [clauses_inscribe, subject_inscribe, operator?_inscribe,
      List.forall_mem_map]
    intro clause member noSubject
    obtain ⟨isUnspecified, unnamed⟩ :=
      wellFormed.clauseUngoverned member noSubject
    exact ⟨isUnspecified, operator?_of_no_target? unnamed⟩
  text_eq := by
    simp only [plain_inscribe, text_inscribe]
  body_eq := by
    simp only [plain_inscribe, body_inscribe]
  text_eq_append := by
    simp only [text_inscribe, lead_inscribe, body_inscribe]
    exact String.ofList_append
  bodyStart_eq := by
    rw [rendered_inscribe, lead_inscribe]
    exact Rendered.bodyStart_write content.subjectChars content.bodyChars
  reassembled := by
    calc
      content.inscribe.reassemble content.inscribe.subject =
          inscribe <$> content.reassemble content.subject := by
        simp only [subject_inscribe, reassemble_inscribe]
      _ = .ok content.inscribe :=
        congrArg (inscribe <$> ·) wellFormed.reassemble_subject

namespace Kept

/-- Kept inscriptions are the inscribed forms of well-formed contents, one by one. -/
private theorem exists_map_inscribe
    {clauses : List Inscription}
    (kept : ∀ clause ∈ clauses, clause.Kept) :
    ∃ contents : List Content,
      (∀ content ∈ contents, content.WellFormed (fun _ => True)) ∧
        contents.map inscribe = clauses := by
  induction clauses with
  | nil =>
      exact ⟨[], by simp, rfl⟩
  | cons clause rest inductionHypothesis =>
      obtain ⟨⟨content, wellFormed, rfl⟩, restKept⟩ :=
        List.forall_mem_cons.mp kept
      obtain ⟨contents, restWellFormed, rfl⟩ :=
        inductionHypothesis restKept
      exact ⟨content :: contents,
        List.forall_mem_cons.mpr ⟨wellFormed, restWellFormed⟩, rfl⟩

/-- An attempt that inscribes what it gives keeps it, if that is well-formed. -/
private theorem of_map
    {attempt : Except Diagnosis Content}
    {inscription : Inscription}
    (wellFormed :
      ∀ content, attempt = .ok content →
        content.WellFormed (fun _ => True))
    (succeeds : inscribe <$> attempt = .ok inscription) :
    inscription.Kept := by
  cases attempt with
  | error diagnosis =>
      cases succeeds
  | ok content =>
      cases succeeds
      exact ⟨content, wellFormed content rfl, rfl⟩

/-- Stating something keeps it. -/
theorem state
    (subject : Agent)
    (statement : Statement) :
    (state subject statement).Kept :=
  ⟨Content.state subject statement,
    .state trivial trivial fun _ _ => trivial,
    (state_eq_inscribe subject statement).symm⟩

/-- Joining keeps what it joins, if the connective takes that many clauses. -/
theorem join
    {connective : Connective}
    {clauses : List Inscription}
    (kept : ∀ clause ∈ clauses, clause.Kept)
    (subject : Agent)
    (arityAccepts :
      connective.operator.arity.accepts clauses.length = true) :
    (join subject connective clauses).Kept := by
  obtain ⟨contents, wellFormed, rfl⟩ := exists_map_inscribe kept
  refine ⟨Content.join subject connective contents, ?_,
    (join_map_inscribe subject connective contents).symm⟩
  apply WellFormed.join
  · trivial
  · trivial
  · exact fun _ _ => trivial
  · simpa using arityAccepts
  · exact wellFormed

/-- Composing keeps what it composes. -/
theorem compose
    {subject : Agent}
    {connective : Connective}
    {clauses : List Inscription}
    {inscription : Inscription}
    (kept : ∀ clause ∈ clauses, clause.Kept)
    (composed : compose subject connective clauses = .ok inscription) :
    inscription.Kept := by
  obtain ⟨contents, wellFormed, rfl⟩ := exists_map_inscribe kept
  rw [compose_map_inscribe] at composed
  refine of_map ?_ composed
  intro content contentComposed
  exact WellFormed.compose trivial trivial (fun _ _ => trivial)
    wellFormed contentComposed

/-- Putting the parts of a kept inscription together keeps it. -/
theorem reassemble
    {subject : Agent}
    {inscription result : Inscription}
    (kept : inscription.Kept)
    (reassembled : inscription.reassemble subject = .ok result) :
    result.Kept := by
  rcases kept with ⟨content, wellFormed, rfl⟩
  rw [reassemble_inscribe] at reassembled
  refine of_map ?_ reassembled
  intro again contentReassembled
  exact wellFormed.reassemble trivial trivial contentReassembled

/-- Another subject keeps an inscription. -/
theorem withSubject
    {inscription : Inscription}
    (kept : inscription.Kept)
    (subject : Agent) :
    (inscription.withSubject subject).Kept := by
  rcases kept with ⟨content, wellFormed, rfl⟩
  exact ⟨content.withSubject subject,
    wellFormed.withSubject trivial trivial,
    (withSubject_inscribe content subject).symm⟩

/-- The clauses of a kept inscription are kept. -/
theorem clause
    {inscription clause : Inscription}
    (kept : inscription.Kept)
    (member : clause ∈ inscription.clauses) :
    clause.Kept := by
  rcases kept with ⟨content, wellFormed, rfl⟩
  rw [clauses_inscribe] at member
  obtain ⟨clauseContent, clauseMember, rfl⟩ := List.mem_map.mp member
  exact ⟨clauseContent, wellFormed.clause clauseMember, rfl⟩

/-- What is kept is sound. -/
theorem sound
    {inscription : Inscription}
    (kept : inscription.Kept) :
    inscription.Sound := by
  rcases kept with ⟨content, wellFormed, rfl⟩
  exact sound_inscribe wellFormed

end Kept

namespace Reachable

/-- Whatever is made with the operations on inscriptions is kept. -/
theorem kept
    {inscription : Inscription}
    (reachable : inscription.Reachable) :
    inscription.Kept := by
  induction reachable with
  | state subject statement =>
      exact .state subject statement
  | join subject arityAccepts _ clausesKept =>
      exact .join clausesKept subject arityAccepts
  | compose _ composed clausesKept =>
      exact .compose clausesKept composed
  | reassemble _ reassembled inscriptionKept =>
      exact inscriptionKept.reassemble reassembled
  | withSubject subject _ inscriptionKept =>
      exact inscriptionKept.withSubject subject
  | clause _ member inscriptionKept =>
      exact inscriptionKept.clause member
  | read succeeds =>
      rw [read_eq_inscribe] at succeeds
      refine .of_map ?_ succeeds
      intro content contentRead
      exact (wellFormed_of_read contentRead).mono fun _ _ => trivial
  | readOrSkip maxDepth text =>
      exact ⟨Content.readOrSkip maxDepth text,
        (wellFormed_readOrSkip maxDepth text).mono fun _ _ => trivial,
        (readOrSkip_eq_inscribe maxDepth text).symm⟩

/-- Every node of what can be made can be made as well. -/
theorem node
    {inscription node : Inscription}
    (reachable : inscription.Reachable)
    (isNode : IsNode node inscription) :
    node.Reachable := by
  induction isNode with
  | root =>
      exact reachable
  | inClause member _ inductionHypothesis =>
      exact inductionHypothesis (reachable.clause member)

/-- Every node of what can be made with the operations on inscriptions is sound. -/
theorem sound_of_isNode
    {inscription node : Inscription}
    (reachable : inscription.Reachable)
    (isNode : IsNode node inscription) :
    node.Sound :=
  (reachable.node isNode).kept.sound

/-- The clause of a request whose addressee takes it over is a sound node. -/
theorem sound_of_isNode_request :
    (Inscription.join ⟨1⟩ (.request ⟨2⟩)
        [.state .unspecified (.deed .vote ⟨3⟩)]).Reachable ∧
      IsNode (.state ⟨2⟩ (.deed .vote ⟨3⟩))
        (.join ⟨1⟩ (.request ⟨2⟩)
          [.state .unspecified (.deed .vote ⟨3⟩)]) ∧
        (Inscription.state ⟨2⟩ (.deed .vote ⟨3⟩)).Sound := by
  have reachable :
      (Inscription.join ⟨1⟩ (.request ⟨2⟩)
        [.state .unspecified (.deed .vote ⟨3⟩)]).Reachable := by
    refine .join ⟨1⟩ rfl ?_
    intro clause member
    rw [List.mem_singleton.mp member]
    exact .state .unspecified (.deed .vote ⟨3⟩)
  have isNode :
      IsNode (.state ⟨2⟩ (.deed .vote ⟨3⟩))
        (.join ⟨1⟩ (.request ⟨2⟩)
          [.state .unspecified (.deed .vote ⟨3⟩)]) :=
    .inClause (List.mem_singleton.mpr rfl) .root
  exact ⟨reachable, isNode, sound_of_isNode reachable isNode⟩

end Reachable

end Inscription

end WerewolfSpeech
