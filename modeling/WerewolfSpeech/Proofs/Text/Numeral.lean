import WerewolfSpeech.Proofs.Text.Blank
import WerewolfSpeech.Text.Numeral

namespace WerewolfSpeech.Numeral

/-!
# Numerals read back

What is written for a number is a run of ASCII digits, perhaps behind zeros or a minus
sign, and reading it gives the number again. Reading accepts nothing but such runs.
-/

/-- A non-empty run of ASCII digits. -/
def IsDigits
    (text : List Char) :
    Prop :=
  text ≠ [] ∧ ∀ character ∈ text, character.isDigit = true

/-- Reading digits succeeds on every run of ASCII digits and on nothing else. -/
theorem ofDigits?_eq_some_iff
    {text : List Char}
    {value : Nat} :
    ofDigits? text = some value ↔
      IsDigits text ∧ Nat.ofDigitChars 10 text 0 = value := by
  have refused :
      (text.isEmpty || !text.all Char.isDigit) = true ↔
        ¬ IsDigits text := by
    simp only [IsDigits, Bool.or_eq_true, List.isEmpty_iff,
      Bool.not_eq_true', List.all_eq_false, Bool.not_eq_true, not_and,
      ne_eq]
    constructor
    · rintro (isNil | ⟨character, member, notDigit⟩) nonempty each
      · exact nonempty isNil
      · simp [each character member] at notDigit
    · intro refuses
      by_cases isNil : text = []
      · exact Or.inl isNil
      · right
        simpa using refuses isNil
  unfold ofDigits?
  by_cases isDigits : IsDigits text
  · rw [if_neg (fun holds => refused.mp holds isDigits)]
    simp [isDigits]
  · rw [if_pos (refused.mpr isDigits)]
    simp [isDigits]

/-- The digits of a number are a run of ASCII digits. -/
theorem isDigits_digits
    (value : Nat) :
    IsDigits (digits value) :=
  ⟨Nat.toDigits_ne_nil, fun _ member =>
    Nat.isDigit_of_mem_toDigits (by decide) (by decide) member⟩

/-- Padding puts more ASCII digits in front. -/
theorem isDigits_padded
    (width value : Nat) :
    IsDigits (padded width value) := by
  obtain ⟨nonempty, each⟩ := isDigits_digits value
  refine ⟨by simp [padded, nonempty], ?_⟩
  intro character member
  rcases List.mem_append.mp member with inZeros | inDigits
  · rw [List.eq_of_mem_replicate inZeros]
    decide
  · exact each character inDigits

/-- The digits of a number have it as their value. -/
theorem ofDigits?_digits
    (value : Nat) :
    ofDigits? (digits value) = some value :=
  ofDigits?_eq_some_iff.mpr
    ⟨isDigits_digits value, Nat.ofDigitChars_ten_toDigits⟩

/-- Zeros in front of the digits of a number do not change their value. -/
theorem ofDigits?_padded
    (width value : Nat) :
    ofDigits? (padded width value) = some value := by
  refine ofDigits?_eq_some_iff.mpr ⟨isDigits_padded width value, ?_⟩
  rw [padded, Nat.ofDigitChars_append, Nat.ofDigitChars_replicate_zero,
    Nat.mul_zero]
  exact Nat.ofDigitChars_ten_toDigits

/-- An integer is read from digits, or from digits behind a minus sign. -/
theorem ofSigned?_eq_some_iff
    {text : List Char}
    {number : Int} :
    ofSigned? text = some number ↔
      IsDigits text ∧ number = Nat.ofDigitChars 10 text 0 ∨
        ∃ digits,
          text = '-' :: digits ∧
            IsDigits digits ∧
              number = -(Nat.ofDigitChars 10 digits 0 : Int) := by
  unfold ofSigned?
  split
  · next digits =>
      constructor
      · intro succeeds
        obtain ⟨integer, lifted, rfl⟩ :=
          Option.map_eq_some_iff.mp succeeds
        obtain ⟨value, found, shape⟩ :=
          Option.bind_eq_some_iff.mp lifted
        cases shape
        obtain ⟨isDigits, rfl⟩ := ofDigits?_eq_some_iff.mp found
        exact Or.inr ⟨digits, rfl, isDigits, rfl⟩
      · rintro (⟨isDigits, _⟩ | ⟨others, same, isDigits, rfl⟩)
        · exact absurd (isDigits.2 '-' List.mem_cons_self) (by decide)
        · cases same
          have value := ofDigits?_eq_some_iff.mpr ⟨isDigits, rfl⟩
          rw [value]
          rfl
  · next noSign =>
      constructor
      · intro succeeds
        obtain ⟨integer, lifted, rfl⟩ :=
          Option.map_eq_some_iff.mp succeeds
        obtain ⟨value, found, shape⟩ :=
          Option.bind_eq_some_iff.mp lifted
        cases shape
        obtain ⟨isDigits, rfl⟩ := ofDigits?_eq_some_iff.mp found
        exact Or.inl ⟨isDigits, rfl⟩
      · rintro (⟨isDigits, rfl⟩ | ⟨digits, same, _⟩)
        · have value := ofDigits?_eq_some_iff.mpr ⟨isDigits, rfl⟩
          rw [value]
          rfl
        · exact absurd same (noSign digits)

/-- What is written for an integer reads back. -/
theorem ofSigned?_signed
    (value : Int) :
    ofSigned? (signed value) = some value := by
  have isDigits := isDigits_digits value.natAbs
  have magnitude :
      Nat.ofDigitChars 10 (digits value.natAbs) 0 = value.natAbs :=
    Nat.ofDigitChars_ten_toDigits
  apply ofSigned?_eq_some_iff.mpr
  by_cases negative : value < 0
  · right
    refine ⟨_, if_pos negative, isDigits, ?_⟩
    rw [magnitude]
    omega
  · left
    rw [signed, if_neg negative, magnitude]
    exact ⟨isDigits, by omega⟩

/-- A signed 32-bit integer is read where an integer is read that fits 32 bits. -/
theorem toInt32?_eq_some_iff
    {text : List Char}
    {value : Int32} :
    toInt32? text = some value ↔
      ∃ number,
        ofSigned? text = some number ∧
          fitsInt32 number = true ∧ Int32.ofInt number = value := by
  simp [toInt32?, Option.bind_eq_some_iff]

/-- A 32-bit natural number is read where digits are read whose value fits 32 bits. -/
theorem toUInt32?_eq_some_iff
    {text : List Char}
    {value : UInt32} :
    toUInt32? text = some value ↔
      ∃ number,
        ofDigits? text = some number ∧
          number < UInt32.size ∧ UInt32.ofNat number = value := by
  simp [toUInt32?, Option.bind_eq_some_iff]

/-- A 32-bit integer fits 32 bits. -/
theorem fitsInt32_toInt
    (value : Int32) :
    fitsInt32 value.toInt = true := by
  have lower := value.le_toInt
  have upper := value.toInt_lt
  simp only [fitsInt32, Bool.and_eq_true, decide_eq_true_eq]
  omega

/-- What is written for a 32-bit integer reads back. -/
theorem toInt32?_signed
    (value : Int32) :
    toInt32? (signed value.toInt) = some value := by
  simp [toInt32?, ofSigned?_signed, fitsInt32_toInt]

/-- What is written for a 32-bit natural number reads back. -/
theorem toUInt32?_digits
    (value : UInt32) :
    toUInt32? (digits value.toNat) = some value := by
  simp [toUInt32?, ofDigits?_digits, UInt32.toNat_lt_size]

end WerewolfSpeech.Numeral
