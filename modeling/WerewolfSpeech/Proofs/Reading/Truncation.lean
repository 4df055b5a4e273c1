import WerewolfSpeech.Proofs.Json.Writing
import WerewolfSpeech.Proofs.SameSpeech
import WerewolfSpeech.Record.Json

namespace WerewolfSpeech.Content

/-!
# What a limit leaves of a content

Builders join clauses to any depth, and a reader does not. A lenient reader that is given
the canonical line of a content puts a skipped turn in the place of every node that stands
one level below its limit, and keeps the rest. So a content outlives being written as a
record and read again exactly if nothing but skipped turns stands at that depth.
-/

/-- The nodes that stand a number of levels below the root. -/
def atDepth :
    Nat →
    Content →
    List Content
  | 0, content => [content]
  | depth + 1, content => content.clauses.flatMap (atDepth depth)

/-- A content says as much as a skipped turn exactly if it is one. -/
private theorem forgetSilent_eq_skip_iff
    (content : Content) :
    content.forgetSilent = skip ↔ content.isSkip = true := by
  cases content with
  | atomic subject statement =>
      rcases statement.silence_or_not with ⟨kind, rfl⟩ | saysSomething
      · rw [forgetSilent_silence]
        cases kind <;> simp [skip, isSkip]
      · rw [forgetSilent_atomic saysSomething]
        cases statement with
        | silence kind => exact absurd rfl (saysSomething kind)
        | stance kind citation => simp [skip, isSkip]
        | disclosure kind target role => simp [skip, isSkip]
        | finding kind target species => simp [skip, isSkip]
        | deed kind target => simp [skip, isSkip]
  | joined subject connective clauses =>
      rw [forgetSilent_joined]
      simp [skip, isSkip]

/-- A limit takes nothing away exactly if only skipped turns stand right below it. -/
private theorem forgetSilent_cut_eq_iff
    (levels : Nat)
    (content : Content) :
    (cut levels content).forgetSilent = content.forgetSilent ↔
      ∀ node ∈ content.atDepth levels, node.isSkip = true := by
  induction levels generalizing content with
  | zero =>
      rw [cut, atDepth, List.forall_mem_singleton, eq_comm,
        ← forgetSilent_eq_skip_iff]
      rfl
  | succ levels inductionHypothesis =>
      cases content with
      | atomic subject statement =>
          simp [cut, atDepth, clauses]
      | joined subject connective clauses =>
          have eachClause :
              (clauses.map (cut levels)).map forgetSilent =
                  clauses.map forgetSilent ↔
                ∀ clause ∈ clauses,
                  (cut levels clause).forgetSilent =
                    clause.forgetSilent := by
            rw [List.map_map, List.map_inj_left]
            rfl
          rw [cut, forgetSilent_joined, forgetSilent_joined,
            Content.joined.injEq, eachClause]
          simp only [true_and, inductionHypothesis, atDepth,
            Content.clauses, List.forall_mem_flatMap]

/-- A lenient reader makes of a canonical line a content with the line of what is left. -/
theorem readOrSkip_text_sameSpeech
    {content : Content}
    (wellFormed : content.WellFormed Agent.Admissible)
    (maxDepth : Nat) :
    SameSpeech (readOrSkip maxDepth content.text)
      (cut (maxDepth + 1) content) := by
  rw [SameSpeech, readOrSkip_text wellFormed, text_attributeSilence]

/-- The canonical line is read back unharmed if only skipped turns stand below the limit. -/
private theorem readOrSkip_text_sameSpeech_iff
    {content : Content}
    (wellFormed : content.WellFormed Agent.Admissible)
    (maxDepth : Nat) :
    SameSpeech (readOrSkip maxDepth content.text) content ↔
      ∀ node ∈ content.atDepth (maxDepth + 1), node.isSkip = true := by
  rw [← forgetSilent_cut_eq_iff]
  have leaves :
      (readOrSkip maxDepth content.text).forgetSilent =
        (cut (maxDepth + 1) content).forgetSilent := by
    rw [readOrSkip_text wellFormed, forgetSilent_attributeSilence]
  constructor
  · intro same
    rw [← leaves]
    exact forgetSilent_eq_of_sameSpeech
      (wellFormed_readOrSkip maxDepth content.text) wellFormed same
  · intro unharmed
    exact sameSpeech_of_forgetSilent_eq (leaves.trans unharmed)

/-- The record of a content is read as whatever a lenient reader makes of its line. -/
private theorem ofJson?_compact_toJson
    (content : Content) :
    (Json.ofText? content.toJson.compact).bind ofJson? =
      some (readOrSkip Reading.defaultDepth content.text) := by
  rw [toJson, Json.ofText?_compact (.string content.text)]
  rfl

/--
A lenient reader makes of the canonical line of a reachable content that content with a
skipped turn for every node one level below the limit. The record of a content is read back
as the same speech exactly if every node at depth 17 is a skipped turn.
-/
theorem readOrSkip_text_truncates
    {content : Content}
    (reachable : content.Reachable Agent.Admissible)
    (maxDepth : Nat) :
    SameSpeech (readOrSkip maxDepth content.text)
        (cut (maxDepth + 1) content) ∧
      ∃ again,
        (Json.ofText? content.toJson.compact).bind ofJson? =
            some again ∧
          (SameSpeech again content ↔
            ∀ node ∈ content.atDepth 17, node.isSkip = true) := by
  have wellFormed := reachable.wellFormed fun _ => id
  refine ⟨readOrSkip_text_sameSpeech wellFormed maxDepth, ?_⟩
  exact ⟨_, ofJson?_compact_toJson content,
    readOrSkip_text_sameSpeech_iff wellFormed Reading.defaultDepth⟩

/-- A vote under as many contraries as the number says. -/
def contraries :
    Nat →
    Content
  | 0 => state .unspecified (.deed .vote ⟨3⟩)
  | number + 1 => not .unspecified (contraries number)

/-- Contraries can be built to any depth. -/
private theorem reachable_contraries
    (number : Nat) :
    (contraries number).Reachable Agent.Admissible := by
  induction number with
  | zero =>
      refine .state _ Agent.admissible_unspecified ?_
      rintro target ⟨⟩
      unfold Agent.Admissible
      decide
  | succ number inductionHypothesis =>
      exact .not Agent.admissible_unspecified inductionHypothesis

/-- A vote under seventeen contraries is lost when its record is read. -/
theorem readOrSkip_text_truncates_contraries :
    (contraries 17).Reachable Agent.Admissible ∧
      SameSpeech (readOrSkip 16 (contraries 17).text)
          (cut 17 (contraries 17)) ∧
        ∃ again,
          (Json.ofText? (contraries 17).toJson.compact).bind ofJson? =
              some again ∧
            ¬ SameSpeech again (contraries 17) := by
  have reachable := reachable_contraries 17
  obtain ⟨truncated, again, readBack, unharmed⟩ :=
    readOrSkip_text_truncates reachable 16
  refine ⟨reachable, truncated, again, readBack, ?_⟩
  intro same
  have noSkip :
      ((contraries 17).atDepth 17).all isSkip = false := by
    decide
  rw [List.all_eq_true.mpr (unharmed.mp same)] at noSkip
  cases noSkip

end WerewolfSpeech.Content
