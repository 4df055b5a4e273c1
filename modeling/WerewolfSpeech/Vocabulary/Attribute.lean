import WerewolfSpeech.Vocabulary.Basic

namespace WerewolfSpeech

/-!
# Roles, species and channels

What a participant can be said to be, and where it can be said. A role and a species may
both be left open with `ANY`.
-/

/-- The role a participant plays. -/
inductive Role where
  | bodyguard
  | fox
  | freemason
  | medium
  | possessed
  | seer
  | villager
  | werewolf
  | any
  deriving Repr, DecidableEq

instance : Vocabulary Role where
  terms :=
    [.bodyguard, .fox, .freemason, .medium, .possessed, .seer, .villager, .werewolf, .any]
  keyword
    | .bodyguard => "BODYGUARD"
    | .fox => "FOX"
    | .freemason => "FREEMASON"
    | .medium => "MEDIUM"
    | .possessed => "POSSESSED"
    | .seer => "SEER"
    | .villager => "VILLAGER"
    | .werewolf => "WEREWOLF"
    | .any => "ANY"

/-- What a divination or an identification finds a participant to be. -/
inductive Species where
  | human
  | werewolf
  | any
  deriving Repr, DecidableEq

instance : Vocabulary Species where
  terms := [.human, .werewolf, .any]
  keyword
    | .human => "HUMAN"
    | .werewolf => "WEREWOLF"
    | .any => "ANY"

/-- The channel on which something was said. -/
inductive Channel where
  | talk
  | whisper
  deriving Repr, DecidableEq

instance : Vocabulary Channel where
  terms := [.talk, .whisper]
  keyword
    | .talk => "TALK"
    | .whisper => "WHISPER"

end WerewolfSpeech
