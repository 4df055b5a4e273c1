namespace WerewolfSpeech.Numeral

/-!
# Numerals

Numbers are written with ASCII digits and no superfluous zero, or padded with zeros to a
least width. Reading accepts any number of leading zeros. Digits of other bases occur in
escapes and in settings.
-/

/-- The decimal digits of a number, most significant first. -/
def digits
    (value : Nat) :
    List Char :=
  Nat.toDigits 10 value

/-- The decimal digits of a number behind as many zeros as the width asks for. -/
def padded
    (width : Nat)
    (value : Nat) :
    List Char :=
  List.replicate (width - (digits value).length) '0' ++ digits value

/-- An integer with a minus sign if it is negative. -/
def signed
    (value : Int) :
    List Char :=
  if value < 0 then
    '-' :: digits value.natAbs
  else
    digits value.natAbs

/-- An integer padded with zeros behind its sign; the sign counts towards the width. -/
def paddedSigned
    (width : Nat)
    (value : Int) :
    List Char :=
  if value < 0 then
    '-' :: padded (width - 1) value.natAbs
  else
    padded width value.natAbs

/-- The value of a non-empty run of ASCII digits. -/
def ofDigits?
    (text : List Char) :
    Option Nat :=
  if text.isEmpty || !text.all Char.isDigit then
    none
  else
    some (Nat.ofDigitChars 10 text 0)

/-- The value of a run of ASCII digits behind an optional minus sign. -/
def ofSigned? :
    List Char →
    Option Int
  | '-' :: text =>
      (ofDigits? text).map fun value => -(value : Int)
  | text =>
      (ofDigits? text).map fun value => (value : Int)

/-- A non-negative numeral that fits 32 bits. -/
def toUInt32?
    (text : List Char) :
    Option UInt32 :=
  (ofDigits? text).bind fun value =>
    if value < UInt32.size then
      some (UInt32.ofNat value)
    else
      none

/-- Whether an integer fits 32 bits with a sign. -/
def fitsInt32
    (value : Int) :
    Bool :=
  -2147483648 ≤ value && value ≤ 2147483647

/-- A numeral with an optional minus sign that fits 32 bits. -/
def toInt32?
    (text : List Char) :
    Option Int32 :=
  (ofSigned? text).bind fun value =>
    if fitsInt32 value then
      some (Int32.ofInt value)
    else
      none

/-- The value of a hexadecimal digit of either case. -/
def hexValue?
    (character : Char) :
    Option Nat :=
  if '0' ≤ character && character ≤ '9' then
    some (character.toNat - '0'.toNat)
  else if 'a' ≤ character && character ≤ 'f' then
    some (character.toNat - 'a'.toNat + 10)
  else if 'A' ≤ character && character ≤ 'F' then
    some (character.toNat - 'A'.toNat + 10)
  else
    none

end WerewolfSpeech.Numeral
