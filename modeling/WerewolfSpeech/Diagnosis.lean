import WerewolfSpeech.Vocabulary.Operator

namespace WerewolfSpeech

/-!
# Diagnoses

The reasons for which a line cannot be read or a content cannot be built. Each has a
message, a stable code and a hint.
-/

/-- Why a line is not understood or a content cannot be built. -/
inductive Diagnosis where
  /-- No shape fits the line, or a number in it is not one that the shape takes. -/
  | parseFailed (line : String)
  /-- The operator does not take that many clauses. -/
  | arityMismatch (operator : Operator) (actual : Nat)
  /-- A list of alternatives or conjuncts is empty. -/
  | emptyOperands (operator : Operator)
  /-- A clause is nested too deep. -/
  | depthExceeded (maxDepth : Nat)
  /-- A reference has the form of an agent but names none. -/
  | invalidAgent (token : String)
  /-- A clause list is not a sequence of groups. -/
  | unbalancedGroups (list : String)
  deriving Repr, DecidableEq

namespace Diagnosis

/-- What is wrong, in words. -/
def message :
    Diagnosis →
    String
  | .parseFailed line =>
      s!"no utterance shape matches: \"{line}\""
  | .arityMismatch operator actual =>
      s!"{Vocabulary.keyword operator} takes {operator.arity.text} operand(s), got {actual}"
  | .emptyOperands operator =>
      s!"{Vocabulary.keyword operator} needs at least one operand"
  | .depthExceeded maxDepth =>
      s!"nesting deeper than {maxDepth} levels"
  | .invalidAgent token =>
      s!"invalid agent reference: \"{token}\""
  | .unbalancedGroups list =>
      s!"unbalanced or malformed clause list: \"{list}\""

/-- The stable code of the diagnosis. -/
def code :
    Diagnosis →
    String
  | .parseFailed _ => "wolf::grammar::parse_failed"
  | .arityMismatch _ _ => "wolf::grammar::arity"
  | .emptyOperands _ => "wolf::grammar::empty_operands"
  | .depthExceeded _ => "wolf::grammar::too_deep"
  | .invalidAgent _ => "wolf::grammar::invalid_agent"
  | .unbalancedGroups _ => "wolf::grammar::unbalanced"

/-- How to put it right. -/
def help :
    Diagnosis →
    String
  | .parseFailed _ =>
      "Utterances look like `Agent[01] VOTE Agent[02]`, " ++
        "`ESTIMATE Agent[03] WEREWOLF`, `REQUEST ANY (GUARD Agent[04])`, " ++
        "`AND (..) (..)`, `DAY 2 (..)`, `Skip` or `Over`. " ++
        "Keywords are upper case and agents are written `Agent[NN]` or `ANY`."
  | .arityMismatch _ _ =>
      "REQUEST, INQUIRE, NOT and DAY wrap exactly one parenthesized " ++
        "clause; BECAUSE and XOR take exactly two; AND and OR take one or more."
  | .emptyOperands _ =>
      "Pass one or more clauses to AND/OR."
  | .depthExceeded _ =>
      "Utterances nest at most a handful of parenthesized levels. " ++
        "Raise `max_depth` in the grammar config if deeper nesting is legitimate."
  | .invalidAgent _ =>
      "Agent indices must fit below the reserved ANY index (2147483647)."
  | .unbalancedGroups _ =>
      "Clauses are written as parenthesized groups separated by spaces, " ++
        "e.g. `(VOTE Agent[01]) (VOTE Agent[02])`. Check that every `(` has a matching `)`."

end Diagnosis

end WerewolfSpeech
