import WerewolfSpeech.Proofs.Reachable
import WerewolfSpeech.Proofs.Reading.Settled

namespace WerewolfSpeech

/-!
# Canonical lines

The canonical line of a reachable content is read as that content again if the limit
reaches down to its lowest clauses, and is too deep otherwise. A lenient reader reaches its
own results: whatever it makes of a text, it makes the same of the canonical line of that
result, because the result has nothing left that the limit or a silence could change.
-/

namespace Content

/-- The canonical line is the line of a clause that nobody governs. -/
theorem toList_text
    (content : Content) :
    content.text.toList = charsUnder .unspecified content := by
  rw [text, String.toList_ofList, charsUnder_unspecified]

/-- Whomever silences are attributed to, the canonical line is the same. -/
theorem text_attributeSilence
    (governor : Agent)
    (content : Content) :
    (content.attributeSilence governor).text = content.text := by
  rw [text, text, ← charsUnder_unspecified, ← charsUnder_unspecified,
    charsUnder_attributeSilence]

/-- A limit that reaches down to the lowest clauses reads a content from its line. -/
theorem read_text_of_low
    {content : Content}
    {maxDepth : Nat}
    (wellFormed : content.WellFormed Agent.Admissible)
    (low : content.height ≤ maxDepth) :
    read maxDepth content.text =
      .ok (content.attributeSilence .unspecified) := by
  have enough : content.height < maxDepth + 1 :=
    Nat.lt_succ_of_le low
  obtain ⟨result, succeeds, completed⟩ :=
    exists_read_charsUnder wellFormed (fun _ => rfl) (Or.inr enough)
  rw [Reading.clause_strict] at succeeds
  rw [governed_unspecified, cut_of_height_lt enough] at completed
  rw [read, Reading.strictly, toList_text, ← completed]
  exact succeeds

/-- A limit above the lowest clauses is exceeded by the line of a content. -/
theorem read_text_of_high
    {content : Content}
    {maxDepth : Nat}
    (wellFormed : content.WellFormed Agent.Admissible)
    (high : maxDepth < content.height) :
    read maxDepth content.text = .error (.depthExceeded maxDepth) := by
  rw [read, Reading.strictly, toList_text]
  exact beneath_strict_charsUnder wellFormed (fun _ => rfl)
    (Nat.succ_le_of_lt high)

/--
The canonical line of a reachable content is read as that content, apart from the subjects
of silences, exactly if the limit reaches down to its lowest clauses.
-/
theorem read_canonical_text
    {content : Content}
    (reachable : content.Reachable Agent.Admissible)
    (maxDepth : Nat) :
    (content.height ≤ maxDepth →
        ∃ again,
          read maxDepth content.text = .ok again ∧
            again.text = content.text ∧
              again.forgetSilent = content.forgetSilent) ∧
      (maxDepth < content.height →
        read maxDepth content.text =
          .error (.depthExceeded maxDepth)) := by
  have wellFormed := reachable.wellFormed fun _ => id
  constructor
  · intro low
    exact ⟨_, read_text_of_low wellFormed low,
      text_attributeSilence .unspecified content,
      forgetSilent_attributeSilence .unspecified content⟩
  · exact read_text_of_high wellFormed

/-- A request of a skipped turn is read back within one level and is too deep without any. -/
theorem read_canonical_text_request :
    (request ⟨1⟩ ⟨2⟩ skip).Reachable Agent.Admissible ∧
      (∃ again,
        read 1 (request ⟨1⟩ ⟨2⟩ skip).text = .ok again ∧
          again.text = (request ⟨1⟩ ⟨2⟩ skip).text ∧
            again.forgetSilent = (request ⟨1⟩ ⟨2⟩ skip).forgetSilent) ∧
        read 0 (request ⟨1⟩ ⟨2⟩ skip).text = .error (.depthExceeded 0) := by
  have skipReachable : skip.Reachable Agent.Admissible :=
    .state (.silence .skip) Agent.admissible_unspecified
      (by simp [Statement.target?])
  have reachable :
      (request ⟨1⟩ ⟨2⟩ skip).Reachable Agent.Admissible :=
    .request (by unfold Agent.Admissible; decide)
      (by unfold Agent.Admissible; decide) skipReachable
  exact ⟨reachable, (read_canonical_text reachable 1).1 (by decide),
    (read_canonical_text reachable 0).2 (by decide)⟩

/-- A lenient reader takes a whole line as it takes a clause. -/
theorem clause_readOrSkip
    (maxDepth : Nat)
    (text : String) :
    Reading.clause .lenient
        (Reading.beneath .lenient maxDepth (maxDepth + 1) text.toList) =
      .ok (readOrSkip maxDepth text) := by
  unfold readOrSkip Reading.leniently
  rw [Reading.beneath]
  split
  · next content succeeds =>
      rw [succeeds, Reading.clause_ok]
  · next diagnosis fails =>
      rw [fails]
      rfl

/-- A lenient reader makes of a canonical line what the limit leaves of the content. -/
theorem readOrSkip_text
    {content : Content}
    (wellFormed : content.WellFormed Agent.Admissible)
    (maxDepth : Nat) :
    readOrSkip maxDepth content.text =
      (cut (maxDepth + 1) content).attributeSilence .unspecified := by
  obtain ⟨result, succeeds, completed⟩ :=
    exists_read_charsUnder wellFormed (fun _ => rfl) (Or.inl rfl)
  rw [governed_unspecified] at completed
  have sameResult := clause_readOrSkip maxDepth content.text
  rw [toList_text, succeeds] at sameResult
  rw [← completed]
  exact (Except.ok.inj sameResult).symm

/--
What a lenient reader makes of a text, it makes of the canonical line of the result too.
So a canonical line is its own canonical line.
-/
theorem readOrSkip_idempotent
    (maxDepth : Nat)
    (text : String) :
    readOrSkip maxDepth (readOrSkip maxDepth text).text =
        readOrSkip maxDepth text ∧
      normalize (normalize text) = normalize text := by
  have settled :
      ∀ limit,
        readOrSkip limit (readOrSkip limit text).text =
          readOrSkip limit text := by
    intro limit
    rw [readOrSkip_text (wellFormed_readOrSkip limit text)]
    exact settled_of_beneath (clause_readOrSkip limit text)
  refine ⟨settled maxDepth, ?_⟩
  rw [normalize, normalize, settled]

end Content

end WerewolfSpeech
