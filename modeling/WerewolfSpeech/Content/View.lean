import WerewolfSpeech.Content.Text

namespace WerewolfSpeech

/-!
# Views

A view lays a content out node by node, with the fields of each node side by side, agents
as labels, and the canonical line of the node.
-/

/-- The fields of a node; those that it does not have are absent. -/
structure NodeFields where
  text : String
  topic : Topic
  operator : Option Operator
  subject : String
  target : Option String
  role : Option Role
  species : Option Species
  citation : Option Citation
  day : Option UInt32
  deriving Repr, DecidableEq

/-- A content laid out node by node. -/
inductive View where
  | node (fields : NodeFields) (clauses : List View)
  deriving Repr

namespace Content

/-- The fields of the root of a content. -/
def fields
    (content : Content) :
    NodeFields where
  text := content.text
  topic := content.topic
  operator := content.operator?
  subject := content.subject.label
  target := content.target?.map Agent.label
  role := content.role?
  species := content.species?
  citation := content.citation?
  day := content.day?

mutual

/-- The view of a content. -/
def view :
    Content →
    View
  | .atomic subject statement =>
      .node (fields (.atomic subject statement)) []
  | .joined subject connective clauses =>
      .node (fields (.joined subject connective clauses)) (viewEach clauses)

/-- The views of several contents. -/
def viewEach :
    List Content →
    List View
  | [] => []
  | content :: rest => content.view :: viewEach rest

end

end Content

end WerewolfSpeech
