namespace WerewolfSpeech

/-!
# Closed vocabularies

A vocabulary is a finite list of terms, each with one keyword. A word belongs to it only
if it is exactly one of the keywords.
-/

/-- A type whose values are the terms of a closed vocabulary. -/
class Vocabulary (Term : Type) where
  /-- Every term. -/
  terms : List Term
  /-- The keyword of a term. -/
  keyword : Term → String

/-- A token that is not in the vocabulary it was looked up in. -/
structure UnknownKeyword where
  token : String
  deriving Repr, DecidableEq

namespace UnknownKeyword

/-- What is wrong, in words. -/
def message
    (unknown : UnknownKeyword) :
    String :=
  s!"unknown keyword: \"{unknown.token}\""

end UnknownKeyword

namespace Vocabulary

/-- The keywords of all terms. -/
def keywords
    (Term : Type)
    [Vocabulary Term] :
    List String :=
  (terms : List Term).map keyword

/-- The keyword of a term as a word of a line. -/
def word
    {Term : Type}
    [Vocabulary Term]
    (term : Term) :
    List Char :=
  (keyword term).toList

/-- The term that a word names. -/
def find?
    {Term : Type}
    [Vocabulary Term]
    (word : List Char) :
    Option Term :=
  (terms : List Term).find? fun term =>
    (keyword term).toList == word

/-- The term that a token names, or the token as an unknown one. -/
def ofToken
    {Term : Type}
    [Vocabulary Term]
    (token : String) :
    Except UnknownKeyword Term :=
  match find? token.toList with
  | some term => .ok term
  | none => .error ⟨token⟩

end Vocabulary

end WerewolfSpeech
