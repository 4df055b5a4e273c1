import WerewolfSpeech.Proofs.Json.Reading

namespace WerewolfSpeech.Json

/-!
# What is written is read back

The text without blanks spells the value that it is written for, and therefore it is read as
that value. Only values are meant that have a text at all: their numbers are spelled as the
grammar wants them, and their strings are those of texts.
-/

/-- A value that has a text: all its numbers are numbers, and nothing in it is unreadable. -/
inductive Writable : Json → Prop where
  | null :
      Writable .null
  | bool
      (value : Bool) :
      Writable (.bool value)
  | number
      {literal : String}
      (isNumber : IsNumber literal.toList) :
      Writable (.number literal)
  | string
      (text : String) :
      Writable (.string text)
  | array
      {items : List Json}
      (each : ∀ item ∈ items, Writable item) :
      Writable (.array items)
  | object
      {members : List (String × Json)}
      (each : ∀ member ∈ members, Writable member.2) :
      Writable (.object members)

/-! ## Strings -/

/-- A character is spelled as it is written, escaped or not. -/
private theorem SpellsUnits.escape_append
    {inside : List Char}
    {units : List Nat}
    (character : Char)
    (behind : SpellsUnits inside units) :
    SpellsUnits (escape character ++ inside) (character.toNat :: units) := by
  unfold escape
  split
  · next isQuote =>
      subst isQuote
      exact .escaped rfl behind
  split
  · next isBackslash =>
      subst isBackslash
      exact .escaped rfl behind
  split
  · next isLineFeed =>
      subst isLineFeed
      exact .escaped rfl behind
  split
  · next isReturn =>
      subst isReturn
      exact .escaped rfl behind
  split
  · next isTab =>
      subst isTab
      exact .escaped rfl behind
  split
  · next isBackspace =>
      rw [isBackspace]
      exact .escaped rfl behind
  split
  · next isFormFeed =>
      rw [isFormFeed]
      exact .escaped rfl behind
  split
  · next isControl =>
      exact .hexadecimal (unitOfHex?_control character.toNat isControl) behind
  · next notQuote notBackslash _ _ _ _ _ notControl =>
      exact .plain notQuote notBackslash notControl behind

/-- A text in quotes is spelled with its code points as the units. -/
private theorem spellsUnits_flatMap_escape
    (text : List Char) :
    SpellsUnits (text.flatMap escape) (text.map Char.toNat) := by
  induction text with
  | nil =>
      exact .nil
  | cons character others inductionHypothesis =>
      rw [List.flatMap_cons, List.map_cons]
      exact inductionHypothesis.escape_append character

/-- The code points of a text are the units of that text. -/
private theorem map_ofList_textOfUnits?
    (text : String) :
    (textOfUnits? (text.toList.map Char.toNat)).map String.ofList =
      some text := by
  rw [textOfUnits?_map_toNat, Option.map_some, String.ofList_toList]

/-- A text in quotes spells that text. -/
private theorem spells_quote
    (text : String) :
    Spells (quote text) (.string text) := by
  have spells := Spells.string (spellsUnits_flatMap_escape text.toList)
  rw [ofUnits, map_ofList_textOfUnits?] at spells
  exact spells

private theorem spellsName_quote
    (name : String) :
    SpellsName (quote name) (some name) := by
  have noBlanks : Blanks [] := by
    simp [Blanks]
  have spells :=
    SpellsName.mk noBlanks (spellsUnits_flatMap_escape name.toList) noBlanks
  rw [map_ofList_textOfUnits?] at spells
  exact spells

/-! ## Numbers -/

private theorem head?_digits_ne_zero
    {value : Nat}
    (positive : 0 < value) :
    (Numeral.digits value).head? ≠ some '0' := by
  induction value using Nat.strongRecOn with
  | ind value inductionHypothesis =>
      rw [Numeral.digits, Nat.toDigits_eq_if (by decide)]
      split
      · next small =>
          have nonzero :
              ∀ digit < 10, 0 < digit → digit.digitChar ≠ '0' := by
            decide
          simpa using nonzero value small positive
      · next large =>
          have shorter :=
            inductionHypothesis (value / 10) (by omega) (by omega)
          rw [Numeral.digits] at shorter
          rwa [List.head?_append_of_ne_nil _ Nat.toDigits_ne_nil]

private theorem isWhole_digits
    (value : Nat) :
    IsWhole (Numeral.digits value) := by
  rcases Nat.eq_zero_or_pos value with rfl | positive
  · exact .zero
  · exact .digits (Numeral.isDigits_digits value)
      (head?_digits_ne_zero positive)

/-- A natural number is spelled by its digits. -/
theorem isNumber_digits
    (value : Nat) :
    IsNumber (Numeral.digits value) := by
  have isNumber :=
    IsNumber.mk (Or.inl rfl) (isWhole_digits value) .absent .absent
  simpa using isNumber

/-- An integer is spelled by the digits of its magnitude, with a sign if it is negative. -/
theorem isNumber_signed
    (value : Int) :
    IsNumber (Numeral.signed value) := by
  unfold Numeral.signed
  split
  · have isNumber :=
      IsNumber.mk (Or.inr rfl) (isWhole_digits value.natAbs) .absent .absent
    simpa using isNumber
  · exact isNumber_digits value.natAbs

/-! ## Values -/

/-- An item as it is written. -/
def writtenItem
    (item : Json) :
    SpelledItem :=
  ⟨compactChars item, item⟩

private theorem compactItems_eq_separated
    (items : List Json) :
    compactItems items =
      separated ((items.map writtenItem).map SpelledItem.text) := by
  induction items with
  | nil =>
      rfl
  | cons first others inductionHypothesis =>
      cases others with
      | nil =>
          rw [compactItems, List.map_singleton, List.map_singleton,
            separated, List.intercalate_singleton]
          rfl
      | cons second more =>
          rw [compactItems, inductionHypothesis]
          simp only [List.map_cons, separated_cons_cons]
          rfl

/-- A member as it is written. -/
def writtenMember
    (member : String × Json) :
    SpelledMember :=
  ⟨quote member.1, some member.1, writtenItem member.2⟩

private theorem compactMembers_eq_separated
    (members : List (String × Json)) :
    compactMembers members =
      separated ((members.map writtenMember).map SpelledMember.text) := by
  induction members with
  | nil =>
      rfl
  | cons first others inductionHypothesis =>
      cases others with
      | nil =>
          rw [compactMembers, List.map_singleton, List.map_singleton,
            separated, List.intercalate_singleton]
          rfl
      | cons second more =>
          rw [compactMembers, inductionHypothesis]
          simp only [List.map_cons, separated_cons_cons]
          simp [SpelledMember.text, writtenMember, writtenItem]

/-- Members that are written are those of an object. -/
private theorem ofMembers_map_writtenMember
    (members : List (String × Json)) :
    ofMembers (members.map writtenMember) = .object members := by
  induction members with
  | nil =>
      rfl
  | cons first others inductionHypothesis =>
      rw [ofMembers] at inductionHypothesis ⊢
      rw [List.map_cons, List.foldr_cons, inductionHypothesis]
      rfl

/-- The text of a value without blanks spells that value. -/
theorem Writable.spells_compactChars
    {json : Json}
    (writable : json.Writable) :
    Spells json.compactChars json := by
  have noBlanks : Blanks [] := by
    simp [Blanks]
  induction writable with
  | null =>
      exact .null
  | bool value =>
      cases value with
      | true => exact .isTrue
      | false => exact .isFalse
  | @number literal isNumber =>
      have spells := Spells.number isNumber
      rwa [String.ofList_toList] at spells
  | string text =>
      exact spells_quote text
  | @array items _ each =>
      cases items with
      | nil =>
          exact .emptyArray noBlanks
      | cons first others =>
          have spells :
              Spells (compactChars (.array (first :: others)))
                (.array
                  (((first :: others).map writtenItem).map
                    SpelledItem.value)) := by
            rw [compactChars, compactItems_eq_separated]
            refine .array (by simp) ?_
            intro item isItem
            obtain ⟨written, isWritten, rfl⟩ := List.mem_map.mp isItem
            exact each written isWritten
          have values :
              ((first :: others).map writtenItem).map SpelledItem.value =
                first :: others := by
            simp [writtenItem, Function.comp_def]
          rwa [values] at spells
  | @object members _ each =>
      cases members with
      | nil =>
          exact .emptyObject noBlanks
      | cons first others =>
          rw [compactChars, compactMembers_eq_separated,
            ← ofMembers_map_writtenMember]
          refine .object (by simp) ?_ ?_
          · intro member isMember
            obtain ⟨written, _, rfl⟩ := List.mem_map.mp isMember
            exact spellsName_quote written.1
          · intro member isMember
            obtain ⟨written, isWritten, rfl⟩ := List.mem_map.mp isMember
            exact each written isWritten

/-- What is written for a value is read as that value. -/
theorem ofText?_compact
    {json : Json}
    (writable : json.Writable) :
    ofText? json.compact = some json := by
  apply ofText?_of_spells
  rw [compact, String.toList_ofList]
  exact writable.spells_compactChars

end WerewolfSpeech.Json
