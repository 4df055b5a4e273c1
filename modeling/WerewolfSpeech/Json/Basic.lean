import WerewolfSpeech.Text.Numeral
import WerewolfSpeech.Vocabulary.Basic

namespace WerewolfSpeech

/-!
# JSON values

Objects keep their members in the order in which they stand, repeated names included, and
numbers keep their spelling, because both decide whether a record is accepted.
-/

/-- A JSON value. -/
inductive Json where
  | null
  | bool (value : Bool)
  /-- A number as it is spelled. -/
  | number (literal : String)
  | string (text : String)
  | array (items : List Json)
  | object (members : List (String × Json))
  /-- A well-formed string, or an object with such a name, that no text is equal to. -/
  | unreadable
  deriving Repr

namespace Json

/-- The number that stands for an integer. -/
def ofInt
    (value : Int) :
    Json :=
  .number (String.ofList (Numeral.signed value))

/-- The number that stands for a natural number. -/
def ofNat
    (value : Nat) :
    Json :=
  .number (String.ofList (Numeral.digits value))

/-- The string that stands for a term of a vocabulary. -/
def ofTerm
    {Term : Type}
    [Vocabulary Term]
    (term : Term) :
    Json :=
  .string (Vocabulary.keyword term)

/-- The text of a string. -/
def text? :
    Json →
    Option String
  | .string text => some text
  | _ => none

/-- The items of an array. -/
def items? :
    Json →
    Option (List Json)
  | .array items => some items
  | _ => none

/-- The value of a number that is spelled as an integer; there is no negative zero. -/
def int? :
    Json →
    Option Int
  | .number literal =>
      if literal = "-0" then
        none
      else
        Numeral.ofSigned? literal.toList
  | _ => none

/-- The value of an integer that fits 32 bits with a sign. -/
def int32?
    (json : Json) :
    Option Int32 :=
  json.int?.bind fun value =>
    if Numeral.fitsInt32 value then
      some (Int32.ofInt value)
    else
      none

/-- The value of an integer that fits 32 bits without a sign. -/
def uint32?
    (json : Json) :
    Option UInt32 :=
  json.int?.bind fun value =>
    if 0 ≤ value && value.toNat < UInt32.size then
      some (UInt32.ofNat value.toNat)
    else
      none

/-- The term of a vocabulary: its keyword, or an object from the keyword to null. -/
def term?
    {Term : Type}
    [Vocabulary Term] :
    Json →
    Option Term
  | .string token => Vocabulary.find? token.toList
  | .object [(token, .null)] => Vocabulary.find? token.toList
  | _ => none

/-- The value of the one member of a name; there may not be a second. -/
def member?
    (members : List (String × Json))
    (name : String) :
    Option Json :=
  match members.filter fun member => member.1 == name with
  | [member] => some member.2
  | _ => none

/--
The values of the fields of a record, in the order of the names: by name from an object,
whose other members do not count, or by position from an array of just these values.
-/
def fields?
    (names : List String) :
    Json →
    Option (List Json)
  | .object members => names.mapM (member? members)
  | .array items =>
      if items.length = names.length then
        some items
      else
        none
  | _ => none

end Json

end WerewolfSpeech
