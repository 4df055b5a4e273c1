import WerewolfSpeech.Text.Numeral

namespace WerewolfSpeech

/-!
# Agents

A participant of the game is known by an index. Two indices are set aside: zero stands
for an agent that was left unspecified, and the largest admissible index stands for
anyone at all. An index beyond that one can still arrive in a record from elsewhere; it
has a label of its own, which no reader of labels accepts.
-/

/-- A participant, or one of the two stand-ins for a participant. -/
structure Agent where
  index : UInt32
  deriving Repr, DecidableEq

/-- Why something is not a reference to an agent. -/
inductive AgentError where
  /-- The index lies beyond the one that stands for anyone. -/
  | indexOutOfRange (index : Nat)
  /-- The text has none of the forms of a label. -/
  | invalidLabel (label : String)
  deriving Repr, DecidableEq

namespace Agent

/-- The index that stands for anyone, the largest one admitted. -/
def anyoneIndex : Nat :=
  2147483647

/-- An agent that was not specified. -/
def unspecified : Agent :=
  ⟨0⟩

/-- Any participant. -/
def anyone : Agent :=
  ⟨UInt32.ofNat anyoneIndex⟩

/-- Whether the agent is a participant and not a stand-in. -/
def isConcrete
    (agent : Agent) :
    Bool :=
  agent != unspecified && agent != anyone

/-- The agent that takes the place of one that was left unspecified. -/
def orElse
    (agent replacement : Agent) :
    Agent :=
  if agent = unspecified then replacement else agent

/-- The agent with an index, if the index is admissible. -/
def ofIndex?
    (index : UInt32) :
    Option Agent :=
  if index.toNat ≤ anyoneIndex then
    some ⟨index⟩
  else
    none

/-- The agent with an index of any size. -/
def ofNat
    (index : Nat) :
    Except AgentError Agent :=
  if index ≤ anyoneIndex then
    .ok ⟨UInt32.ofNat index⟩
  else
    .error (.indexOutOfRange index)

/-- The word that refers to an agent; an index has at least two digits. -/
def word
    (agent : Agent) :
    List Char :=
  if agent = unspecified then
    "NONE".toList
  else if agent = anyone then
    "ANY".toList
  else
    "Agent[".toList ++ Numeral.padded 2 agent.index.toNat ++ [']']

/-- The text that refers to an agent. -/
def label
    (agent : Agent) :
    String :=
  String.ofList agent.word

/-- The part between `Agent[` and the bracket that closes the word. -/
def bracketed? :
    List Char →
    Option (List Char)
  | 'A' :: 'g' :: 'e' :: 'n' :: 't' :: '[' :: rest =>
      if rest.getLast? = some ']' then
        some rest.dropLast
      else
        none
  | _ => none

/-- The largest number that an index in brackets may have to be judged as an index. -/
def largestNumeral : Nat :=
  18446744073709551615

/--
The agent that a word refers to.

A number that is too large for an index is reported as such, unless it is too large even
for 64 bits: then the word is no label at all.
-/
def ofWord
    (word : List Char) :
    Except AgentError Agent :=
  if word = "ANY".toList then
    .ok anyone
  else if word = "NONE".toList then
    .ok unspecified
  else
    match (bracketed? word).bind Numeral.ofDigits? with
    | some index =>
        if index ≤ largestNumeral then
          ofNat index
        else
          .error (.invalidLabel (String.ofList word))
    | none =>
        .error (.invalidLabel (String.ofList word))

/-- The agent that a text refers to. -/
def ofLabel
    (label : String) :
    Except AgentError Agent :=
  ofWord label.toList

end Agent

namespace AgentError

/-- What is wrong, in words. -/
def message :
    AgentError →
    String
  | .indexOutOfRange index =>
      s!"agent index {index} is out of range (maximum is {Agent.anyoneIndex})"
  | .invalidLabel label =>
      s!"invalid agent reference: \"{label}\""

/-- The stable code of the diagnosis. -/
def code :
    AgentError →
    String
  | .indexOutOfRange _ => "wolf::agent::out_of_range"
  | .invalidLabel _ => "wolf::agent::invalid_label"

/-- How to put it right. -/
def help :
    AgentError →
    String
  | .indexOutOfRange _ =>
      "Agent indices run from 0 (NONE) up to the reserved ANY index. " ++
        "Use `Agent::ANY` for the wildcard instead of a raw index."
  | .invalidLabel _ =>
      "Agent references are written `Agent[<digits>]`, `ANY`, or `NONE`."

end AgentError

end WerewolfSpeech
