import WerewolfSpeech.Text.Numeral

namespace WerewolfSpeech.Json

/-!
# Strings in JSON

What stands between quotes is a sequence of code units: a character stands for its code
point, and an escape for a unit of 16 bits. Two units that form a surrogate pair are one
character, and a surrogate without its partner is none. So a string can be well formed
and still not be the spelling of any text.
-/

/-- The unit that four hexadecimal digits stand for. -/
def unitOfHex?
    (first second third fourth : Char) :
    Option Nat := do
  let first ← Numeral.hexValue? first
  let second ← Numeral.hexValue? second
  let third ← Numeral.hexValue? third
  let fourth ← Numeral.hexValue? fourth
  return ((first * 16 + second) * 16 + third) * 16 + fourth

/-- The unit that a backslash and one character stand for. -/
def unitOfEscape?
    (character : Char) :
    Option Nat :=
  match character with
  | '"' => some 0x22
  | '\\' => some 0x5C
  | '/' => some 0x2F
  | 'b' => some 0x08
  | 'f' => some 0x0C
  | 'n' => some 0x0A
  | 'r' => some 0x0D
  | 't' => some 0x09
  | _ => none

/-- One more unit in front of what has been read. -/
def prepend
    (unit : Nat)
    (found : List Nat × List Char) :
    List Nat × List Char :=
  (unit :: found.1, found.2)

/-- The units up to the closing quote, and what stands behind the quote. -/
def units? :
    List Char →
    Option (List Nat × List Char)
  | [] => none
  | '"' :: rest => some ([], rest)
  | '\\' :: 'u' :: first :: second :: third :: fourth :: rest => do
      let unit ← unitOfHex? first second third fourth
      let found ← units? rest
      return prepend unit found
  | '\\' :: character :: rest => do
      let unit ← unitOfEscape? character
      let found ← units? rest
      return prepend unit found
  | character :: rest =>
      if character = '\\' || character.toNat < 0x20 then
        none
      else
        (units? rest).map (prepend character.toNat)

/-- Whether a unit is the first half of a surrogate pair. -/
def isLeadingSurrogate
    (unit : Nat) :
    Bool :=
  0xD800 ≤ unit && unit < 0xDC00

/-- Whether a unit is the second half of a surrogate pair. -/
def isTrailingSurrogate
    (unit : Nat) :
    Bool :=
  0xDC00 ≤ unit && unit < 0xE000

/-- The character of a surrogate pair. -/
def charOfPair
    (leading trailing : Nat) :
    Char :=
  Char.ofNat (0x10000 + (leading - 0xD800) * 0x400 + (trailing - 0xDC00))

/-- The text that units spell, if every surrogate has its partner. -/
def textOfUnits? :
    List Nat →
    Option (List Char)
  | [] => some []
  | unit :: next :: rest =>
      if isLeadingSurrogate unit then
        if isTrailingSurrogate next then
          (textOfUnits? rest).map (charOfPair unit next :: ·)
        else
          none
      else if isTrailingSurrogate unit then
        none
      else
        (textOfUnits? (next :: rest)).map (Char.ofNat unit :: ·)
  | [unit] =>
      if isLeadingSurrogate unit || isTrailingSurrogate unit then
        none
      else
        some [Char.ofNat unit]

end WerewolfSpeech.Json
