import WerewolfSpeech.Content.View
import WerewolfSpeech.Proofs.Agent
import WerewolfSpeech.Proofs.Content.Nodes

namespace WerewolfSpeech

/-!
# Views read back

A view has lost nothing of the content that it was made of. Its topic and its operator tell
what kind of node each node is, the fields that this kind has are there, and a label belongs
to one agent only, whatever its index. So the content is put together again from the fields,
without a look at the lines.
-/

/-- The agent that has a label, whatever its index is. -/
def Agent.ofAnyLabel?
    (label : String) :
    Option Agent :=
  if label = "NONE" then
    some .unspecified
  else if label = "ANY" then
    some .anyone
  else
    ((bracketed? label.toList).bind Numeral.toUInt32?).map Agent.mk

/-- The label of every agent is one that it has. -/
private theorem Agent.ofAnyLabel?_label
    (agent : Agent) :
    ofAnyLabel? agent.label = some agent := by
  rcases word_cases agent with rfl | rfl | inBrackets
  · rfl
  · rfl
  · have characters :
        agent.label.toList = bracketed (Numeral.padded 2 agent.index.toNat) := by
      rw [label, String.toList_ofList, inBrackets]
    have notUnspecified : agent.label ≠ "NONE" := fun same =>
      bracketed_ne_unspecified _
        (characters.symm.trans (congrArg String.toList same))
    have notAnyone : agent.label ≠ "ANY" := fun same =>
      bracketed_ne_anyone _
        (characters.symm.trans (congrArg String.toList same))
    have index :
        Numeral.toUInt32? (Numeral.padded 2 agent.index.toNat) =
          some agent.index := by
      rw [Numeral.toUInt32?, Numeral.ofDigits?_padded, Option.bind_some,
        if_pos agent.index.toNat_lt_size, UInt32.ofNat_toNat]
    rw [ofAnyLabel?, if_neg notUnspecified, if_neg notAnyone, characters,
      bracketed?_eq_some_iff.mpr rfl, Option.bind_some, index]
    rfl

/-- The topic of a statement is not that of joined clauses. -/
private theorem Statement.topic_ne_operator
    (statement : Statement) :
    statement.topic ≠ .operator := by
  cases statement with
  | silence kind => cases kind <;> decide
  | stance kind citation => cases kind <;> exact Topic.noConfusion
  | disclosure kind target role => cases kind <;> exact Topic.noConfusion
  | finding kind target species => cases kind <;> exact Topic.noConfusion
  | deed kind target => cases kind <;> exact Topic.noConfusion

/-- The kind of statement, among some kinds, that has a topic. -/
def Topic.kind?
    {Kind : Type}
    (kinds : List Kind)
    (topicOf : Kind → Topic)
    (topic : Topic) :
    Option Kind :=
  kinds.find? fun kind => topicOf kind == topic

namespace NodeFields

/-- The agent that the node speaks for. -/
def speaker?
    (fields : NodeFields) :
    Option Agent :=
  Agent.ofAnyLabel? fields.subject

/-- The agent that the node is about, if the fields name one. -/
def aim?
    (fields : NodeFields) :
    Option Agent :=
  fields.target.bind Agent.ofAnyLabel?

/-- The statement of an atomic node, from the fields that its topic has. -/
def statement?
    (fields : NodeFields) :
    Option Statement :=
  match fields.topic.fields with
  | .bare => do
      return .silence (← fields.topic.kind? [.skip, .over] Silence.topic)
  | .utterance => do
      let kind ← fields.topic.kind? [.agree, .disagree] Stance.topic
      return .stance kind (← fields.citation)
  | .targetRole => do
      let kind ← fields.topic.kind? [.estimate, .comingOut] Disclosure.topic
      return .disclosure kind (← fields.aim?) (← fields.role)
  | .targetSpecies => do
      let kind ← fields.topic.kind? [.divined, .identified] Finding.topic
      return .finding kind (← fields.aim?) (← fields.species)
  | .target => do
      return .deed (← fields.topic.deed?) (← fields.aim?)
  | .operands => none

/-- The connective of a node, from the fields that its operator has. -/
def connective?
    (fields : NodeFields) :
    Option Connective := do
  let operator ← fields.operator
  let target ← if operator.carriesTarget then fields.aim? else some .anyone
  let day ← if operator.carriesDay then fields.day else some 0
  return .ofOperator target day operator

end NodeFields

namespace View

mutual

/-- The content that a view was made of. -/
def content? :
    View →
    Option Content
  | .node fields clauses =>
      if fields.topic = .operator then do
        return .joined (← fields.speaker?) (← fields.connective?) (← contentOfEach? clauses)
      else do
        return .atomic (← fields.speaker?) (← fields.statement?)

/-- The contents that several views were made of. -/
def contentOfEach? :
    List View →
    Option (List Content)
  | [] => some []
  | view :: rest => do
      return (← view.content?) :: (← contentOfEach? rest)

end

/-- The nodes of a view: itself, and the nodes of its clauses. -/
inductive IsNode (node : View) : View → Prop where
  | root : IsNode node node
  | inClause
      {fields : NodeFields}
      {clauses : List View}
      {clause : View}
      (member : clause ∈ clauses)
      (isNode : IsNode node clause) :
      IsNode node (.node fields clauses)

end View

namespace Content

/-- The view of joined clauses has the views of the clauses below it. -/
theorem viewEach_eq_map
    (contents : List Content) :
    viewEach contents = contents.map view := by
  induction contents with
  | nil => rfl
  | cons content rest inductionHypothesis =>
      rw [viewEach, inductionHypothesis, List.map_cons]

/-- The view of a content has the fields of the root and the views of the clauses. -/
theorem view_eq
    (content : Content) :
    content.view = .node content.fields (content.clauses.map view) := by
  cases content with
  | atomic subject statement => rfl
  | joined subject connective clauses =>
      rw [view, viewEach_eq_map]
      rfl

private theorem speaker?_fields
    (content : Content) :
    content.fields.speaker? = some content.subject :=
  Agent.ofAnyLabel?_label content.subject

private theorem aim?_fields
    (content : Content) :
    content.fields.aim? = content.target? := by
  rw [NodeFields.aim?, fields]
  cases content.target? with
  | none => rfl
  | some target => exact Agent.ofAnyLabel?_label target

private theorem statement?_fields
    (subject : Agent)
    (statement : Statement) :
    (fields (.atomic subject statement)).statement? = some statement := by
  have aim := aim?_fields (.atomic subject statement)
  cases statement with
  | silence kind => cases kind <;> rfl
  | stance kind citation => cases kind <;> rfl
  | disclosure kind target role =>
      cases kind <;>
        · simp only [NodeFields.statement?, aim]
          rfl
  | finding kind target species =>
      cases kind <;>
        · simp only [NodeFields.statement?, aim]
          rfl
  | deed kind target =>
      cases kind <;>
        · simp only [NodeFields.statement?, aim]
          rfl

private theorem connective?_fields
    (subject : Agent)
    (connective : Connective)
    (clauses : List Content) :
    (fields (.joined subject connective clauses)).connective? =
      some connective := by
  have aim := aim?_fields (.joined subject connective clauses)
  simp only [NodeFields.connective?, aim]
  cases connective <;> rfl

/-- Views that are put together one by one are put together as a list. -/
private theorem contentOfEach?_viewEach
    {contents : List Content}
    (readsBack : ∀ content ∈ contents, content.view.content? = some content) :
    View.contentOfEach? (viewEach contents) = some contents := by
  induction contents with
  | nil => rfl
  | cons content rest inductionHypothesis =>
      obtain ⟨contentBack, restBack⟩ := List.forall_mem_cons.mp readsBack
      rw [viewEach, View.contentOfEach?, contentBack,
        inductionHypothesis restBack]
      rfl

/-- The view of a content is put together again to that content. -/
theorem content?_view
    (content : Content) :
    content.view.content? = some content := by
  induction content with
  | atomic subject statement =>
      have topic :
          (fields (.atomic subject statement)).topic ≠ .operator :=
        statement.topic_ne_operator
      rw [view, View.content?, if_neg topic, speaker?_fields, statement?_fields]
      rfl
  | joined subject connective clauses inductionHypothesis =>
      have topic :
          (fields (.joined subject connective clauses)).topic = .operator :=
        rfl
      rw [view, View.content?, if_pos topic, speaker?_fields,
        connective?_fields, contentOfEach?_viewEach inductionHypothesis]
      rfl

/-- Every node of a view is the view of a node of the content. -/
theorem exists_of_isNode_view
    {content : Content}
    {part : View}
    (isNode : View.IsNode part content.view) :
    ∃ node ∈ content.nodes, part = node.view := by
  induction content with
  | atomic subject statement =>
      cases isNode with
      | root => exact ⟨_, self_mem_nodes _, rfl⟩
      | inClause member _ => cases member
  | joined subject connective clauses inductionHypothesis =>
      generalize whole : view (.joined subject connective clauses) = above
        at isNode
      cases isNode with
      | root => exact ⟨_, self_mem_nodes _, whole.symm⟩
      | inClause member isNode =>
          rw [view_eq, View.node.injEq] at whole
          rw [← whole.2] at member
          obtain ⟨clause, clauseMember, rfl⟩ := List.mem_map.mp member
          obtain ⟨node, inClause, isView⟩ :=
            inductionHypothesis clause clauseMember isNode
          exact ⟨node, mem_nodes_of_clause clauseMember inClause, isView⟩

end Content

end WerewolfSpeech
