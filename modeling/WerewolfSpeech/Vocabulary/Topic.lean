import WerewolfSpeech.Vocabulary.Basic

namespace WerewolfSpeech

/-!
# Topics

A topic is the keyword of an atomic statement, or the mark of a connective. The topics
that take the same parameters form a family of their own, so that a statement can carry a
member of the family together with those parameters.
-/

/-- What a content is about. -/
inductive Topic where
  | estimate
  | comingOut
  | divination
  | divined
  | identified
  | guard
  | guarded
  | vote
  | voted
  | attack
  | attacked
  | agree
  | disagree
  | over
  | skip
  | operator
  deriving Repr, DecidableEq

instance : Vocabulary Topic where
  terms :=
    [.estimate, .comingOut, .divination, .divined, .identified, .guard, .guarded, .vote,
      .voted, .attack, .attacked, .agree, .disagree, .over, .skip, .operator]
  keyword
    | .estimate => "ESTIMATE"
    | .comingOut => "COMINGOUT"
    | .divination => "DIVINATION"
    | .divined => "DIVINED"
    | .identified => "IDENTIFIED"
    | .guard => "GUARD"
    | .guarded => "GUARDED"
    | .vote => "VOTE"
    | .voted => "VOTED"
    | .attack => "ATTACK"
    | .attacked => "ATTACKED"
    | .agree => "AGREE"
    | .disagree => "DISAGREE"
    | .over => "Over"
    | .skip => "Skip"
    | .operator => "OPERATOR"

/-- Which parameters a topic takes. -/
inductive TopicFields where
  /-- None. -/
  | bare
  /-- The citation of an earlier utterance. -/
  | utterance
  /-- A target and a role. -/
  | targetRole
  /-- A target and a species. -/
  | targetSpecies
  /-- A target. -/
  | target
  /-- Clauses. -/
  | operands
  deriving Repr, DecidableEq

/-- The parameters that a topic takes. -/
def Topic.fields :
    Topic →
    TopicFields
  | .skip | .over => .bare
  | .agree | .disagree => .utterance
  | .estimate | .comingOut => .targetRole
  | .divined | .identified => .targetSpecies
  | .divination | .guard | .guarded | .vote | .voted | .attack | .attacked => .target
  | .operator => .operands

/-- Statements that say nothing. -/
inductive Silence where
  | skip
  | over
  deriving Repr, DecidableEq

/-- Statements on an earlier utterance. -/
inductive Stance where
  | agree
  | disagree
  deriving Repr, DecidableEq

/-- Statements that give a participant a role. -/
inductive Disclosure where
  | estimate
  | comingOut
  deriving Repr, DecidableEq

/-- Statements that report the species of a participant. -/
inductive Finding where
  | divined
  | identified
  deriving Repr, DecidableEq

/-- Statements on something done, or to be done, to a participant. -/
inductive Deed where
  | attacked
  | attack
  | divination
  | guarded
  | guard
  | voted
  | vote
  deriving Repr, DecidableEq

/-- The deed that a topic is the keyword of, if it takes a target and nothing else. -/
def Topic.deed? :
    Topic →
    Option Deed
  | .divination => some .divination
  | .guard => some .guard
  | .guarded => some .guarded
  | .vote => some .vote
  | .voted => some .voted
  | .attack => some .attack
  | .attacked => some .attacked
  | _ => none

/-- The topic of a silence. -/
def Silence.topic :
    Silence →
    Topic
  | .skip => .skip
  | .over => .over

/-- The topic of a stance. -/
def Stance.topic :
    Stance →
    Topic
  | .agree => .agree
  | .disagree => .disagree

/-- The topic of a disclosure. -/
def Disclosure.topic :
    Disclosure →
    Topic
  | .estimate => .estimate
  | .comingOut => .comingOut

/-- The topic of a finding. -/
def Finding.topic :
    Finding →
    Topic
  | .divined => .divined
  | .identified => .identified

/-- The topic of a deed. -/
def Deed.topic :
    Deed →
    Topic
  | .attacked => .attacked
  | .attack => .attack
  | .divination => .divination
  | .guarded => .guarded
  | .guard => .guard
  | .voted => .voted
  | .vote => .vote

end WerewolfSpeech
