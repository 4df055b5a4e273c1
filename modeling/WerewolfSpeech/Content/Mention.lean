import WerewolfSpeech.Content.Basic

namespace WerewolfSpeech

/-!
# Mentioned agents

A content mentions its subject, its target and whatever its clauses mention, in this
order. Stand-ins are not participants and do not count.
-/

namespace Content

mutual

/-- Every subject and target from the root down, stand-ins and repetitions included. -/
def mentions :
    Content →
    List Agent
  | .atomic subject statement =>
      subject :: statement.target?.toList
  | .joined subject connective clauses =>
      subject :: connective.target?.toList ++ mentionsOfClauses clauses

/-- What the clauses mention, one after the other. -/
def mentionsOfClauses :
    List Content →
    List Agent
  | [] => []
  | clause :: rest => clause.mentions ++ mentionsOfClauses rest

end

/-- The participants that the content mentions, each where it comes first. -/
def agents
    (content : Content) :
    List Agent :=
  (content.mentions.filter Agent.isConcrete).eraseDups

end Content

end WerewolfSpeech
