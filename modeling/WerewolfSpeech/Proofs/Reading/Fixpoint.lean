import WerewolfSpeech.Proofs.Reading.DepthLimit
import WerewolfSpeech.Proofs.Reading.Mention

namespace WerewolfSpeech

/-!
# Canonical lines are read as what they came from

Strict reading accepts nothing that is higher than its limit. So whatever a limit admits of
a text, strictly or leniently, it admits of the canonical line too, and what is read is the
same content.
-/

namespace Content

/-- What is read strictly is no higher than the limit. -/
private theorem height_le_of_read
    {maxDepth : Nat}
    {text : String}
    {content : Content}
    (succeeds : read maxDepth text = .ok content) :
    content.height ≤ maxDepth := by
  have byHeight := read_of_read succeeds maxDepth
  rw [succeeds] at byHeight
  by_cases low : content.height ≤ maxDepth
  · exact low
  · rw [if_neg low] at byHeight
    cases byHeight

/-- What is read leniently is settled: it is read as itself once more. -/
theorem readOrSkip_text_readOrSkip
    (maxDepth : Nat)
    (text : String) :
    readOrSkip maxDepth (readOrSkip maxDepth text).text =
      readOrSkip maxDepth text :=
  (readOrSkip_text (wellFormed_readOrSkip maxDepth text) maxDepth).trans
    (settled_of_beneath (clause_readOrSkip maxDepth text))

/-- What is read strictly is read as itself once more. -/
theorem read_text_of_read
    {maxDepth : Nat}
    {text : String}
    {content : Content}
    (succeeds : read maxDepth text = .ok content) :
    read maxDepth content.text = .ok content := by
  have settled := settled_of_beneath (clause_readOrSkip maxDepth text)
  rw [readOrSkip_of_read succeeds] at settled
  have readAgain :=
    read_text_of_low (wellFormed_of_read succeeds)
      (height_le_of_read succeeds)
  rwa [settled.attributed] at readAgain

/-- A canonical line is not blank and stays on one line, without a blank at its end. -/
theorem text_ends
    {content : Content}
    (wellFormed : content.WellFormed Agent.Admissible) :
    '\n' ∉ content.text.toList ∧
      content.text.toList ≠ [] ∧
        Line.startsBlank content.text.toList = false ∧
          Line.endsBlank content.text.toList = false := by
  obtain ⟨line, laid⟩ := exists_laid_charsUnder wellFormed .unspecified
  rw [toList_text]
  exact ⟨(isClause_charsUnder wellFormed .unspecified).oneLine, laid.ends⟩

end Content

end WerewolfSpeech
