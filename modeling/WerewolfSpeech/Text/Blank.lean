namespace WerewolfSpeech.Text

/-!
# Blank characters

Words of a line are set apart by blanks, and the blanks around a line do not count. A
blank is any character with the `White_Space` property, so the line breaks and the spaces
of all scripts are among them.
-/

/-- Whether a character is blank. -/
def isBlank
    (character : Char) :
    Bool :=
  let code := character.toNat
  (0x09 ≤ code && code ≤ 0x0D) ||
    code == 0x20 ||
    code == 0x85 ||
    code == 0xA0 ||
    code == 0x1680 ||
    (0x2000 ≤ code && code ≤ 0x200A) ||
    code == 0x2028 ||
    code == 0x2029 ||
    code == 0x202F ||
    code == 0x205F ||
    code == 0x3000

/-- A text without the blanks in front of it. -/
def trimLeft
    (text : List Char) :
    List Char :=
  text.dropWhile isBlank

/-- A text without the blanks behind it. -/
def trimRight
    (text : List Char) :
    List Char :=
  (text.reverse.dropWhile isBlank).reverse

/-- A text without the blanks around it. -/
def trim
    (text : List Char) :
    List Char :=
  trimRight (trimLeft text)

/-- A text that holds nothing but blanks. -/
def isBlankText
    (text : List Char) :
    Bool :=
  text.all isBlank

end WerewolfSpeech.Text
