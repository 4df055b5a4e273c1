import WerewolfSpeech.Json.Read
import WerewolfSpeech.Proofs.Text.Numeral

namespace WerewolfSpeech.Json

/-!
# The grammar of JSON

Which texts spell which values. Blanks may stand around every token. A character of a string
may stand for itself or be escaped, and a number keeps its spelling. The relation says
nothing about how a text is read, so it also serves to say what a reader has to accept.
-/

/-- A text of blanks only. -/
def Blanks
    (text : List Char) :
    Prop :=
  ∀ character ∈ text, isBlank character = true

/-- What stands between the quotes of a string, and the code units that it stands for. -/
inductive SpellsUnits : List Char → List Nat → Prop where
  | nil :
      SpellsUnits [] []
  | plain
      {character : Char}
      {inside : List Char}
      {units : List Nat}
      (notQuote : character ≠ '"')
      (notBackslash : character ≠ '\\')
      (notControl : ¬ character.toNat < 0x20)
      (behind : SpellsUnits inside units) :
      SpellsUnits (character :: inside) (character.toNat :: units)
  | escaped
      {mark : Char}
      {unit : Nat}
      {inside : List Char}
      {units : List Nat}
      (known : unitOfEscape? mark = some unit)
      (behind : SpellsUnits inside units) :
      SpellsUnits ('\\' :: mark :: inside) (unit :: units)
  | hexadecimal
      {first second third fourth : Char}
      {unit : Nat}
      {inside : List Char}
      {units : List Nat}
      (known : unitOfHex? first second third fourth = some unit)
      (behind : SpellsUnits inside units) :
      SpellsUnits
        ('\\' :: 'u' :: first :: second :: third :: fourth :: inside)
        (unit :: units)

/-- The part of a number before the point: there is no superfluous zero in front. -/
inductive IsWhole : List Char → Prop where
  | zero :
      IsWhole ['0']
  | digits
      {text : List Char}
      (isDigits : Numeral.IsDigits text)
      (noZero : text.head? ≠ some '0') :
      IsWhole text

/-- The point of a number with digits behind it, or nothing. -/
inductive IsFraction : List Char → Prop where
  | absent :
      IsFraction []
  | point
      {text : List Char}
      (isDigits : Numeral.IsDigits text) :
      IsFraction ('.' :: text)

/-- The exponent of a number, or nothing. -/
inductive IsExponent : List Char → Prop where
  | absent :
      IsExponent []
  | power
      {mark : Char}
      {sign text : List Char}
      (isMark : mark = 'e' ∨ mark = 'E')
      (isSign : sign = [] ∨ sign = ['+'] ∨ sign = ['-'])
      (isDigits : Numeral.IsDigits text) :
      IsExponent (mark :: sign ++ text)

/-- A number, which may have a minus sign in front. -/
inductive IsNumber : List Char → Prop where
  | mk
      {sign whole fraction exponent : List Char}
      (isSign : sign = [] ∨ sign = ['-'])
      (isWhole : IsWhole whole)
      (isFraction : IsFraction fraction)
      (isExponent : IsExponent exponent) :
      IsNumber (sign ++ (whole ++ fraction ++ exponent))

/-- The value of a string of some code units. -/
def ofUnits
    (units : List Nat) :
    Json :=
  match (textOfUnits? units).map String.ofList with
  | some text => .string text
  | none => .unreadable

/-- The name of a member as it is spelled, with the blanks around it. -/
inductive SpellsName : List Char → Option String → Prop where
  | mk
      {before inside behind : List Char}
      {units : List Nat}
      (blanksBefore : Blanks before)
      (spells : SpellsUnits inside units)
      (blanksBehind : Blanks behind) :
      SpellsName (before ++ '"' :: (inside ++ '"' :: behind))
        ((textOfUnits? units).map String.ofList)

/-- A text together with the value that it is to spell. -/
structure SpelledItem where
  text : List Char
  value : Json

/-- A member of an object: its name and its value, each with its text. -/
structure SpelledMember where
  nameText : List Char
  name : Option String
  item : SpelledItem

/-- The text of a member. -/
def SpelledMember.text
    (member : SpelledMember) :
    List Char :=
  member.nameText ++ ':' :: member.item.text

/-- The object with some members, if all their names are texts. -/
def ofMembers
    (members : List SpelledMember) :
    Json :=
  members.foldr
    (fun member object => withMember member.name member.item.value object)
    (.object [])

/-- Texts with commas between them. -/
def separated
    (texts : List (List Char)) :
    List Char :=
  [','].intercalate texts

/-- The text is a spelling of the value. -/
inductive Spells : List Char → Json → Prop where
  | null :
      Spells "null".toList .null
  | isTrue :
      Spells "true".toList (.bool true)
  | isFalse :
      Spells "false".toList (.bool false)
  | number
      {literal : List Char}
      (isNumber : IsNumber literal) :
      Spells literal (.number (String.ofList literal))
  | string
      {inside : List Char}
      {units : List Nat}
      (spells : SpellsUnits inside units) :
      Spells ('"' :: (inside ++ ['"'])) (ofUnits units)
  | emptyArray
      {between : List Char}
      (blanks : Blanks between) :
      Spells ('[' :: (between ++ [']'])) (.array [])
  | array
      {items : List SpelledItem}
      (nonempty : items ≠ [])
      (each : ∀ item ∈ items, Spells item.text item.value) :
      Spells
        ('[' :: (separated (items.map SpelledItem.text) ++ [']']))
        (.array (items.map SpelledItem.value))
  | emptyObject
      {between : List Char}
      (blanks : Blanks between) :
      Spells ('\x7b' :: (between ++ ['\x7d'])) (.object [])
  | object
      {members : List SpelledMember}
      (nonempty : members ≠ [])
      (names : ∀ member ∈ members, SpellsName member.nameText member.name)
      (values :
        ∀ member ∈ members, Spells member.item.text member.item.value) :
      Spells
        ('\x7b' :: (separated (members.map SpelledMember.text) ++ ['\x7d']))
        (ofMembers members)
  | spaced
      {before text behind : List Char}
      {value : Json}
      (blanksBefore : Blanks before)
      (spells : Spells text value)
      (blanksBehind : Blanks behind) :
      Spells (before ++ (text ++ behind)) value

end WerewolfSpeech.Json
