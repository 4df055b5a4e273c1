import WerewolfSpeech.Text.Literal
import WerewolfSpeech.Text.Numeral
import WerewolfSpeech.Toml.Item
import WerewolfSpeech.Toml.Lexeme

namespace WerewolfSpeech.Toml

/-!
# Numbers in TOML

Digits may be grouped by single underscores. An integer has to fit 64 bits with a sign,
and a floating-point number may not be so large that the nearest double is infinite.
-/

/-- The rest of a run of digits, without its underscores. -/
def moreDigits?
    (isDigit : Char → Bool) :
    List Char →
    Option (List Char × List Char)
  | '_' :: digit :: rest =>
      if isDigit digit then
        (moreDigits? isDigit rest).map (prepend digit)
      else
        none
  | [] => some ([], [])
  | character :: rest =>
      if isDigit character then
        (moreDigits? isDigit rest).map (prepend character)
      else if character = '_' then
        none
      else
        some ([], character :: rest)

/-- A run of digits, without its underscores. -/
def digits?
    (isDigit : Char → Bool) :
    List Char →
    Option (List Char × List Char)
  | digit :: rest =>
      if isDigit digit then
        (moreDigits? isDigit rest).map (prepend digit)
      else
        none
  | [] => none

/-- Decimal digits that do not begin with a superfluous zero. -/
def whole? :
    List Char →
    Option (List Char × List Char)
  | '0' :: rest => some (['0'], rest)
  | text => digits? Char.isDigit text

/-- The sign at the front of a number, as whether it is negative. -/
def sign :
    List Char →
    Bool × List Char
  | '-' :: rest => (true, rest)
  | '+' :: rest => (false, rest)
  | text => (false, text)

/-- The digits behind a decimal point, if there is a point. -/
def fraction? :
    List Char →
    Option (Option (List Char) × List Char)
  | '.' :: rest =>
      (digits? Char.isDigit rest).map fun found => (some found.1, found.2)
  | text => some (none, text)

/-- The exponent of a number, if there is one. -/
def exponent? :
    List Char →
    Option (Option Int × List Char)
  | [] => some (none, [])
  | mark :: rest =>
      if mark = 'e' || mark = 'E' then
        (digits? Char.isDigit (sign rest).2).map fun found =>
          let value : Int := Nat.ofDigitChars 10 found.1 0
          (some (if (sign rest).1 then -value else value), found.2)
      else
        some (none, mark :: rest)

/-- The least number whose nearest double is infinite. -/
def doubleLimit : Nat :=
  Nat.pow 2 1024 - Nat.pow 2 970

/-- Whether the nearest double of a number in decimal notation is infinite. -/
def exceedsDouble
    (digits : List Char)
    (exponent : Int) :
    Bool :=
  let mantissa := Nat.ofDigitChars 10 digits 0
  let magnitude := exponent + (Numeral.digits mantissa).length
  if mantissa = 0 || magnitude < 300 then
    false
  else if 320 < magnitude then
    true
  else if 0 ≤ exponent then
    doubleLimit ≤ mantissa * Nat.pow 10 exponent.toNat
  else
    doubleLimit * Nat.pow 10 exponent.natAbs ≤ mantissa

/-- Whether an integer fits 64 bits with a sign. -/
def fitsInt64
    (value : Int) :
    Bool :=
  -9223372036854775808 ≤ value && value ≤ 9223372036854775807

/-- An integer that fits 64 bits. -/
def integer?
    (value : Int) :
    Option Item :=
  if fitsInt64 value then
    some (.integer value)
  else
    none

/-- A number in decimal notation. -/
def decimal?
    (text : List Char) :
    Option (Item × List Char) := do
  let negative := (sign text).1
  let whole ← whole? (sign text).2
  let fraction ← fraction? whole.2
  let exponent ← exponent? fraction.2
  if fraction.1.isNone && exponent.1.isNone then
    let magnitude : Int := Nat.ofDigitChars 10 whole.1 0
    let item ← integer? (if negative then -magnitude else magnitude)
    return (item, exponent.2)
  else
    let places := fraction.1.getD []
    let scale := exponent.1.getD 0 - places.length
    guard (negative || !exceedsDouble (whole.1 ++ places) scale)
    return (.float, exponent.2)

/-- A number of another base, without its mark. -/
def based?
    (base : Nat)
    (text : List Char) :
    Option (Item × List Char) := do
  let isDigit := fun character => (Numeral.hexValue? character).any (· < base)
  let found ← digits? isDigit text
  let values ← found.1.mapM Numeral.hexValue?
  let item ← integer? (values.foldl (fun total value => total * base + value) 0 : Nat)
  return (item, found.2)

/-- A number, or the word for infinity or for an undefined value behind a sign. -/
def number?
    (text : List Char) :
    Option (Item × List Char) :=
  match text with
  | '0' :: 'x' :: rest => based? 16 rest
  | '0' :: 'o' :: rest => based? 8 rest
  | '0' :: 'b' :: rest => based? 2 rest
  | _ =>
      match Text.after? "inf".toList (sign text).2, Text.after? "nan".toList (sign text).2 with
      | some rest, _ => some (.float, rest)
      | _, some rest => some (.float, rest)
      | none, none => decimal? text

end WerewolfSpeech.Toml
