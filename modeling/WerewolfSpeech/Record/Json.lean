import WerewolfSpeech.Content.View
import WerewolfSpeech.Json.Read
import WerewolfSpeech.Json.Write
import WerewolfSpeech.Record.Basic

namespace WerewolfSpeech

/-!
# Records in JSON

A record is an object with its fields in a fixed order, and an agent is its bare index.
The channel of an utterance is not part of its record: what is read back was talked. A
content is the string of its canonical line, and it is read like any other line.
-/

namespace Agent

/-- The index of the agent. -/
def toJson
    (agent : Agent) :
    Json :=
  .ofNat agent.index.toNat

/-- The agent of an index, which may lie beyond the one that stands for anyone. -/
def ofJson?
    (json : Json) :
    Option Agent :=
  json.uint32?.map fun index => ⟨index⟩

end Agent

namespace Citation

/-- The record of a citation. -/
def toJson
    (citation : Citation) :
    Json :=
  .object
    [("kind", .ofTerm citation.channel),
      ("day", .ofInt citation.day.toInt),
      ("idx", .ofInt citation.index.toInt)]

/-- The citation of a record. -/
def ofJson?
    (json : Json) :
    Option Citation :=
  match json.fields? ["kind", "day", "idx"] with
  | some [channel, day, index] => do
      let channel ← channel.term?
      let day ← day.int32?
      let index ← index.int32?
      return ⟨channel, day, index⟩
  | _ => none

end Citation

namespace Utterance

/-- The record of an utterance, which leaves out its channel. -/
def toJson
    (utterance : Utterance) :
    Json :=
  .object
    [("idx", .ofInt utterance.index.toInt),
      ("day", .ofInt utterance.day.toInt),
      ("turn", .ofInt utterance.turn.toInt),
      ("agent", utterance.agent.toJson),
      ("text", .string utterance.text)]

/-- The utterance of a record. -/
def ofJson?
    (json : Json) :
    Option Utterance :=
  match json.fields? ["idx", "day", "turn", "agent", "text"] with
  | some [index, day, turn, agent, text] => do
      let index ← index.int32?
      let day ← day.int32?
      let turn ← turn.int32?
      let agent ← Agent.ofJson? agent
      let text ← text.text?
      return ⟨.talk, index, day, turn, agent, text⟩
  | _ => none

/-- The utterances of a log. -/
def logOfJson?
    (json : Json) :
    Option (List Utterance) :=
  json.items?.bind fun items => items.mapM ofJson?

end Utterance

namespace Vote

/-- The record of a vote. -/
def toJson
    (vote : Vote) :
    Json :=
  .object
    [("day", .ofInt vote.day.toInt),
      ("agent", vote.agent.toJson),
      ("target", vote.target.toJson)]

/-- The vote of a record. -/
def ofJson?
    (json : Json) :
    Option Vote :=
  match json.fields? ["day", "agent", "target"] with
  | some [day, agent, target] => do
      let day ← day.int32?
      let agent ← Agent.ofJson? agent
      let target ← Agent.ofJson? target
      return ⟨day, agent, target⟩
  | _ => none

end Vote

namespace Judgement

/-- The record of a judgement. -/
def toJson
    (judgement : Judgement) :
    Json :=
  .object
    [("day", .ofInt judgement.day.toInt),
      ("agent", judgement.agent.toJson),
      ("target", judgement.target.toJson),
      ("result", .ofTerm judgement.result)]

/-- The judgement of a record. -/
def ofJson?
    (json : Json) :
    Option Judgement :=
  match json.fields? ["day", "agent", "target", "result"] with
  | some [day, agent, target, result] => do
      let day ← day.int32?
      let agent ← Agent.ofJson? agent
      let target ← Agent.ofJson? target
      let result ← result.term?
      return ⟨day, agent, target, result⟩
  | _ => none

end Judgement

namespace Content

/-- The string of the canonical line. -/
def toJson
    (content : Content) :
    Json :=
  .string content.text

/-- What the line in a string says. -/
def ofJson?
    (json : Json) :
    Option Content :=
  json.text?.map (readOrSkip Reading.defaultDepth)

/-- The canonical line in quotes, marked as a content. -/
def debugText
    (content : Content) :
    String :=
  "Content(" ++ String.ofList (Json.quote content.text) ++ ")"

end Content

namespace NodeFields

/-- A member for a field that may be absent. -/
def optional
    {Value : Type}
    (name : String)
    (toJson : Value → Json)
    (value : Option Value) :
    List (String × Json) :=
  (value.map fun value => (name, toJson value)).toList

/-- The members of the fields; a field that is absent is left out. -/
def members
    (fields : NodeFields) :
    List (String × Json) :=
  [("text", .string fields.text), ("topic", .ofTerm fields.topic)] ++
    optional "operator" .ofTerm fields.operator ++
    [("subject", .string fields.subject)] ++
    optional "target" .string fields.target ++
    optional "role" .ofTerm fields.role ++
    optional "species" .ofTerm fields.species ++
    optional "utterance" Citation.toJson fields.citation ++
    optional "day" (fun day => .ofNat day.toNat) fields.day

end NodeFields

namespace View

/-- The member that holds the clauses, left out if there are none. -/
def clausesMember :
    List Json →
    List (String × Json)
  | [] => []
  | first :: rest => [("children", .array (first :: rest))]

mutual

/-- The object of a view. -/
def toJson :
    View →
    Json
  | .node fields clauses =>
      .object (fields.members ++ clausesMember (toJsonEach clauses))

/-- The objects of several views. -/
def toJsonEach :
    List View →
    List Json
  | [] => []
  | view :: rest => view.toJson :: toJsonEach rest

end

end View

end WerewolfSpeech
