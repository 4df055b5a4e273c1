import WerewolfSpeech.Proofs.Agent
import WerewolfSpeech.Proofs.Text.Decimal

namespace WerewolfSpeech.Agent

/-!
# The labels of agents

Every text is judged as a label in one of five ways: it stands for anyone, for nobody in
particular or for the agent of an index, its index is too large, or it is no label at all.
`Judged` says which of them applies by the form of the text and the number in it, and the
reader of labels follows it. What is written for an agent is one of the labels of the agent,
and no two agents are written alike.
-/

/-- The label that has given characters in the brackets of an agent. -/
def inBrackets
    (inner : List Char) :
    String :=
  "Agent[" ++ String.ofList inner ++ "]"

/-- A label with digits in its brackets that denote the number. -/
def Numbered
    (label : String)
    (value : Nat) :
    Prop :=
  ∃ digits, label = inBrackets digits ∧ Numeral.Denotes digits value

/-- How a text is judged as a label of an agent. -/
inductive Judged : String → Except AgentError Agent → Prop where
  | anyone :
      Judged "ANY" (.ok anyone)
  | unspecified :
      Judged "NONE" (.ok unspecified)
  | indexed
      {label : String}
      {index : UInt32}
      (numbered : Numbered label index.toNat)
      (admissible : index.toNat ≤ 2147483647) :
      Judged label (.ok ⟨index⟩)
  | outOfRange
      {label : String}
      {index : Nat}
      (numbered : Numbered label index)
      (tooLarge : 2147483647 < index)
      (fits : index ≤ 18446744073709551615) :
      Judged label (.error (.indexOutOfRange index))
  | invalid
      {label : String}
      (notAnyone : label ≠ "ANY")
      (notUnspecified : label ≠ "NONE")
      (noIndex : ∀ value, Numbered label value → 18446744073709551615 < value) :
      Judged label (.error (.invalidLabel label))

/-- The characters of a label with brackets. -/
theorem toList_inBrackets
    (inner : List Char) :
    (inBrackets inner).toList = bracketed inner := by
  simp [inBrackets, bracketed]

/-- A word with digits in the brackets of an agent is judged by the number denoted. -/
private theorem ofWord_of_denotes
    {digits : List Char}
    {value : Nat}
    (denotes : Numeral.Denotes digits value) :
    ofWord (bracketed digits) =
      if value ≤ largestNumeral then
        ofNat value
      else
        .error (.invalidLabel (String.ofList (bracketed digits))) := by
  obtain ⟨isDigits, rfl⟩ := Numeral.denotes_iff.mp denotes
  exact ofWord_bracketed isDigits

/-- Any number of zeros may stand in front of the digits of an admissible index. -/
theorem ofWord_zeros
    {agent : Agent}
    (admissible : agent.Admissible)
    (zeros : Nat) :
    ofWord
        (bracketed
          (List.replicate zeros '0' ++ Numeral.digits agent.index.toNat)) =
      .ok agent := by
  have denotes :=
    (Numeral.denotes_digits agent.index.toNat).zeros_append zeros
  have fits : agent.index.toNat ≤ largestNumeral :=
    Nat.le_trans admissible (by decide)
  have small : agent.index.toNat ≤ anyoneIndex := admissible
  rw [ofWord_of_denotes denotes, if_pos fits, ofNat, if_pos small,
    UInt32.ofNat_toNat]

/-- A label with digits in its brackets is judged by the number that they denote. -/
private theorem ofLabel_of_numbered
    {label : String}
    {value : Nat}
    (numbered : Numbered label value) :
    ofLabel label =
      if value ≤ 18446744073709551615 then
        if value ≤ 2147483647 then
          .ok ⟨UInt32.ofNat value⟩
        else
          .error (.indexOutOfRange value)
      else
        .error (.invalidLabel label) := by
  obtain ⟨digits, rfl, denotes⟩ := numbered
  rw [ofLabel, toList_inBrackets, ofWord_of_denotes denotes,
    ← toList_inBrackets, String.ofList_toList]
  rfl

/-- A text that is neither a word for a stand-in nor has an index is no label. -/
private theorem ofLabel_of_not_numbered
    {label : String}
    (notAnyone : label ≠ "ANY")
    (notUnspecified : label ≠ "NONE")
    (noIndex : ∀ value, ¬ Numbered label value) :
    ofLabel label = .error (.invalidLabel label) := by
  have unread : (bracketed? label.toList).bind Numeral.ofDigits? = none := by
    by_contra found
    obtain ⟨value, isFound⟩ := Option.ne_none_iff_exists'.mp found
    obtain ⟨digits, inner, valued⟩ := Option.bind_eq_some_iff.mp isFound
    refine noIndex value ⟨digits, ?_, ?_⟩
    · rw [← String.toList_inj, toList_inBrackets]
      exact bracketed?_eq_some_iff.mp inner
    · exact Numeral.ofDigits?_eq_some_iff_denotes.mp valued
  rw [ofLabel, ofWord, if_neg (mt String.toList_inj.mp notAnyone),
    if_neg (mt String.toList_inj.mp notUnspecified), unread]
  exact congrArg (Except.error ∘ AgentError.invalidLabel)
    String.ofList_toList

/-- A label has at most one index. -/
theorem Numbered.unique
    {label : String}
    {value other : Nat}
    (numbered : Numbered label value)
    (otherNumbered : Numbered label other) :
    value = other := by
  obtain ⟨digits, rfl, denotes⟩ := numbered
  obtain ⟨otherDigits, same, otherDenotes⟩ := otherNumbered
  have sameDigits : digits = otherDigits := by
    rw [← bracketed_inj, ← toList_inBrackets, same, toList_inBrackets]
  subst sameDigits
  rw [← (Numeral.denotes_iff.mp denotes).2,
    (Numeral.denotes_iff.mp otherDenotes).2]

/-- The reader of labels judges every text. -/
theorem judged_ofLabel
    (label : String) :
    Judged label (ofLabel label) := by
  by_cases isAnyone : label = "ANY"
  · subst isAnyone
    exact .anyone
  by_cases isUnspecified : label = "NONE"
  · subst isUnspecified
    exact .unspecified
  by_cases hasIndex : ∃ value, Numbered label value
  · obtain ⟨value, numbered⟩ := hasIndex
    rw [ofLabel_of_numbered numbered]
    by_cases fits : value ≤ 18446744073709551615
    · rw [if_pos fits]
      by_cases small : value ≤ 2147483647
      · have sameIndex : (UInt32.ofNat value).toNat = value :=
          UInt32.toNat_ofNat_of_lt' (Nat.lt_of_le_of_lt small (by decide))
        rw [if_pos small]
        rw [← sameIndex] at numbered small
        exact .indexed numbered small
      · rw [if_neg small]
        exact .outOfRange numbered (Nat.lt_of_not_le small) fits
    · rw [if_neg fits]
      refine .invalid isAnyone isUnspecified fun other otherNumbered => ?_
      rw [otherNumbered.unique numbered]
      exact Nat.lt_of_not_le fits
  · have noIndex := not_exists.mp hasIndex
    rw [ofLabel_of_not_numbered isAnyone isUnspecified noIndex]
    exact .invalid isAnyone isUnspecified
      fun value numbered => absurd numbered (noIndex value)

/-- No text is judged in two ways. -/
private theorem Judged.ofLabel_eq
    {label : String}
    {result : Except AgentError Agent}
    (judged : Judged label result) :
    ofLabel label = result := by
  cases judged with
  | anyone => rfl
  | unspecified => rfl
  | indexed numbered admissible =>
      have fits := Nat.le_trans admissible
        (by decide : 2147483647 ≤ 18446744073709551615)
      rw [ofLabel_of_numbered numbered, if_pos fits, if_pos admissible,
        UInt32.ofNat_toNat]
  | outOfRange numbered tooLarge fits =>
      rw [ofLabel_of_numbered numbered, if_pos fits,
        if_neg (Nat.not_le_of_lt tooLarge)]
  | invalid notAnyone notUnspecified noIndex =>
      by_cases hasIndex : ∃ value, Numbered label value
      · obtain ⟨value, numbered⟩ := hasIndex
        rw [ofLabel_of_numbered numbered,
          if_neg (Nat.not_le_of_lt (noIndex value numbered))]
      · exact ofLabel_of_not_numbered notAnyone notUnspecified
          (not_exists.mp hasIndex)

/--
The reader and the writer of labels: every text is judged by its form and by the number in
it, with any number of zeros in front. The label of an agent is read as that agent if its
index is admissible, and agents of any indices have labels of their own.
-/
theorem ofLabel_judges :
    (∀ label result, ofLabel label = result ↔ Judged label result) ∧
      (∀ agent : Agent,
          agent.index.toNat ≤ 2147483647 →
            ofLabel agent.label = .ok agent ∧
              ∀ zeros,
                ofLabel
                    (inBrackets
                      (List.replicate zeros '0' ++
                        Numeral.digits agent.index.toNat)) =
                  .ok agent) ∧
        ∀ first second : Agent,
          first.label = second.label → first = second := by
  refine ⟨fun label result => ⟨?_, Judged.ofLabel_eq⟩, ?_, ?_⟩
  · rintro rfl
    exact judged_ofLabel label
  · intro agent admissible
    refine ⟨?_, fun zeros => ?_⟩
    · rw [ofLabel, label, String.toList_ofList]
      exact ofWord_word admissible
    · rw [ofLabel, toList_inBrackets]
      exact ofWord_zeros admissible zeros
  · intro first second same
    exact word_inj.mp (String.ofList_inj.mp same)

end WerewolfSpeech.Agent
