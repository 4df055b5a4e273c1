import WerewolfSpeech.Vocabulary.Basic

namespace WerewolfSpeech

/-!
# Operators

An operator joins clauses. Its arity says how many it takes.
-/

/-- The keyword of a connective. -/
inductive Operator where
  | request
  | inquire
  | because
  | day
  | not
  | and
  | or
  | xor
  deriving Repr, DecidableEq

instance : Vocabulary Operator where
  terms := [.request, .inquire, .because, .day, .not, .and, .or, .xor]
  keyword
    | .request => "REQUEST"
    | .inquire => "INQUIRE"
    | .because => "BECAUSE"
    | .day => "DAY"
    | .not => "NOT"
    | .and => "AND"
    | .or => "OR"
    | .xor => "XOR"

/-- How many clauses an operator takes. -/
inductive Arity where
  | exactly (count : Nat)
  | atLeast (count : Nat)
  deriving Repr, DecidableEq

namespace Arity

/-- Whether a number of clauses is right. -/
def accepts :
    Arity →
    Nat →
    Bool
  | .exactly expected, actual => actual == expected
  | .atLeast expected, actual => expected ≤ actual

/-- The arity in words. -/
def text :
    Arity →
    String
  | .exactly count => s!"exactly {count}"
  | .atLeast count => s!"{count} or more"

end Arity

namespace Operator

/-- The arity of an operator. -/
def arity :
    Operator →
    Arity
  | .request | .inquire | .not | .day => .exactly 1
  | .because | .xor => .exactly 2
  | .and | .or => .atLeast 1

/-- Whether the operator names an addressee. -/
def carriesTarget
    (operator : Operator) :
    Bool :=
  operator == .request || operator == .inquire

/-- Whether the operator names a day. -/
def carriesDay
    (operator : Operator) :
    Bool :=
  operator == .day

end Operator

end WerewolfSpeech
