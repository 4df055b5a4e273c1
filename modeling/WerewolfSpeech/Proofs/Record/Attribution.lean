import WerewolfSpeech.Proofs.Inscription.Body
import WerewolfSpeech.Proofs.Reading.Fixpoint
import WerewolfSpeech.Proofs.Reading.Truncation
import WerewolfSpeech.Proofs.Record.RoundTrip

namespace WerewolfSpeech

/-!
# Attributed utterances on the wire

An utterance that names no subject is attributed to its speaker. What it then says can be
sent as a line and read again, as long as the line is one that readers accept: a record may
come from elsewhere with an index that no reader of labels admits, and a line that shows the
label of such a speaker is not read as what it was written for.
-/

namespace Content

/-- A clause is completed alike before and after what lies too deep in it is cut off. -/
private theorem forgetSilent_cut_governed
    {clause : Content}
    {levels : Nat}
    {governor : Agent}
    (withGovernor :
      (cut levels (clause.withSubject governor)).forgetSilent =
        ((cut levels clause).withSubject governor).forgetSilent) :
    (cut levels (clause.governed governor)).forgetSilent =
      ((cut levels clause).governed governor).forgetSilent := by
  cases levels with
  | zero =>
      unfold governed
      split <;> split <;> rfl
  | succ below =>
      have sameSubject : (cut (below + 1) clause).subject = clause.subject := by
        cases clause <;> rfl
      unfold governed
      rw [sameSubject]
      split
      · exact withGovernor
      · rfl

/-- Another subject does not change what is cut off, nor is it changed by that. -/
private theorem forgetSilent_cut_withSubject
    (levels : Nat)
    (subject : Agent)
    (content : Content) :
    (cut levels (content.withSubject subject)).forgetSilent =
      ((cut levels content).withSubject subject).forgetSilent := by
  induction content generalizing levels subject with
  | atomic former statement =>
      cases levels <;> rfl
  | joined former connective clauses inductionHypothesis =>
      cases levels with
      | zero =>
          rfl
      | succ below =>
          rw [withSubject_joined, join_eq, cut, cut, withSubject_joined,
            join_eq, forgetSilent_joined, forgetSilent_joined, List.map_map,
            List.map_map, List.map_map, List.map_map]
          congr 1
          apply List.map_congr_left
          intro clause member
          exact forgetSilent_cut_governed
            (inductionHypothesis clause member below _)

private theorem isSilence_withSubject
    (subject : Agent)
    (content : Content) :
    (content.withSubject subject).isSilence = content.isSilence := by
  cases content with
  | atomic former statement =>
      cases statement <;> rfl
  | joined former connective clauses =>
      rfl

/-- Nothing that a reader finds in a text lies too deep for the reader. -/
private theorem forgetSilent_cut_readOrSkip
    (maxDepth : Nat)
    (text : String) :
    (cut (maxDepth + 1) (readOrSkip maxDepth text)).forgetSilent =
      (readOrSkip maxDepth text).forgetSilent := by
  have settled := settled_of_beneath (clause_readOrSkip maxDepth text)
  rw [Settled] at settled
  conv_rhs => rw [← settled]
  rw [forgetSilent_attributeSilence]

/-- A content is the same speech after reading if nothing in it lies too deep. -/
private theorem sameSpeech_readOrSkip_text
    {content : Content}
    {maxDepth : Nat}
    (wellFormed : content.WellFormed Agent.Admissible)
    (shallow :
      (cut (maxDepth + 1) content).forgetSilent = content.forgetSilent) :
    SameSpeech (readOrSkip maxDepth content.text) content :=
  (readOrSkip_text_sameSpeech wellFormed maxDepth).trans
    (sameSpeech_of_forgetSilent_eq shallow)

/-- What was read is the same speech after reading with a subject that labels can name. -/
private theorem sameSpeech_readOrSkip_withSubject
    (maxDepth : Nat)
    (text : String)
    {subject : Agent}
    (admissible : subject.Admissible) :
    SameSpeech
      (readOrSkip maxDepth ((readOrSkip maxDepth text).withSubject subject).text)
      ((readOrSkip maxDepth text).withSubject subject) := by
  apply sameSpeech_readOrSkip_text
  · exact (wellFormed_readOrSkip maxDepth text).withSubject
      Agent.admissible_anyone admissible
  · rw [forgetSilent_cut_withSubject, forgetSilent_withSubject,
      forgetSilent_cut_readOrSkip, ← forgetSilent_withSubject]

/-- Contents that are the same speech show the same subject at the front of their lines. -/
private theorem subjectChars_eq_of_sameSpeech
    {first second : Content}
    (same : SameSpeech first second) :
    first.subjectChars = second.subjectChars := by
  have sameChars : first.chars = second.chars := by
    simpa [text] using congrArg String.toList same
  have sameBody : first.bodyChars = second.bodyChars := by
    rw [← withoutSubject_chars, sameChars, withoutSubject_chars]
  rw [chars, chars, sameBody] at sameChars
  exact List.append_cancel_right sameChars

/-- A subject that is shown is the subject of every content that is the same speech. -/
private theorem subject_eq_of_sameSpeech
    {first second : Content}
    (same : SameSpeech first second)
    (saysSomething : second.isSilence = false)
    (specified : second.subject ≠ .unspecified) :
    first.subject = second.subject := by
  have shown : first.subjectChars = second.subject.word ++ [' '] := by
    rw [subjectChars_eq_of_sameSpeech same]
    simp [subjectChars, saysSomething, specified]
  unfold subjectChars at shown
  split at shown
  · simp at shown
  · exact Agent.word_inj.mp (List.append_cancel_right shown)

end Content

namespace Utterance

open Content

/-- What is to be said of an utterance that is attributed. -/
private theorem attributedContent_cases
    (utterance : Utterance) :
    ((utterance.content.isSilence = true ∨
          utterance.content.subject ≠ .unspecified) ∧
        utterance.attributedContent = utterance.content) ∨
      (utterance.content.isSilence = false ∧
        utterance.content.subject = .unspecified ∧
          utterance.attributedContent =
            utterance.content.withSubject utterance.agent) := by
  unfold attributedContent
  split
  · next silent =>
      exact Or.inl ⟨Or.inl silent, rfl⟩
  · next saysSomething =>
      split
      · next noSubject =>
          exact Or.inr ⟨by simpa using saysSomething, noSubject, rfl⟩
      · next specified =>
          exact Or.inl ⟨Or.inr specified, rfl⟩

/-- What an utterance says when it is attributed is read again if a label can name whom. -/
private theorem sameSpeech_attributedContent_iff
    (utterance : Utterance) :
    SameSpeech
        (readOrSkip Reading.defaultDepth utterance.attributedContent.text)
        utterance.attributedContent ↔
      utterance.agent.Admissible ∨
        utterance.content.isSilence = true ∨
          utterance.content.subject ≠ .unspecified := by
  rcases utterance.attributedContent_cases with
      ⟨namesSubject, unchanged⟩ | ⟨saysSomething, noSubject, attributed⟩
  · refine iff_of_true ?_ (Or.inr namesSubject)
    rw [unchanged, content, readOrSkip_text_readOrSkip]
    exact rfl
  · rw [attributed, saysSomething, noSubject]
    simp only [Bool.false_eq_true, ne_eq, not_true_eq_false, or_false]
    constructor
    · intro same
      by_cases noSpeaker : utterance.agent = .unspecified
      · rw [noSpeaker]
        exact Agent.admissible_unspecified
      · have sameSubject :=
          subject_eq_of_sameSpeech same
            (by rw [isSilence_withSubject]; exact saysSomething)
            (by rw [subject_withSubject]; exact noSpeaker)
        rw [subject_withSubject] at sameSubject
        rw [← sameSubject]
        exact (wellFormed_readOrSkip _ _).admits_subject
    · intro admissible
      exact sameSpeech_readOrSkip_withSubject _ _ admissible

/--
An utterance that is read from a record says the same when it is attributed, unless it is
neither a silence nor names a subject: then it speaks for its speaker. The line of what it
says is read again as that, unless it shows a speaker whom no label can name.
-/
theorem attributedContent_on_wire
    (text : String) :
    ∀ utterance ∈ (Json.ofText? text).bind ofJson?,
      ((utterance.content.isSilence = true ∨
            utterance.content.subject ≠ .unspecified →
          utterance.attributedContent = utterance.content) ∧
        (utterance.content.isSilence = false →
          utterance.content.subject = .unspecified →
          utterance.attributedContent.subject = utterance.agent)) ∧
        (SameSpeech
            (readOrSkip Reading.defaultDepth utterance.attributedContent.text)
            utterance.attributedContent ↔
          utterance.agent.Admissible ∨
            utterance.content.isSilence = true ∨
              utterance.content.subject ≠ .unspecified) := by
  intro utterance _
  refine ⟨?_, utterance.sameSpeech_attributedContent_iff⟩
  rcases utterance.attributedContent_cases with
      ⟨namesSubject, unchanged⟩ | ⟨saysSomething, noSubject, attributed⟩
  · refine ⟨fun _ => unchanged, fun saysSomething noSubject => ?_⟩
    rw [saysSomething, noSubject] at namesSubject
    simp at namesSubject
  · refine ⟨fun namesSubject => ?_, fun _ _ => ?_⟩
    · rw [saysSomething, noSubject] at namesSubject
      simp at namesSubject
    · rw [attributed, subject_withSubject]

/-- A vote that somebody casts without a subject. -/
def voteOf
    (speaker : Agent) :
    Utterance :=
  ⟨.talk, 0, 1, 0, speaker, "VOTE Agent[02]"⟩

/-- The vote is read as a vote without a subject. -/
private theorem content_voteOf
    (speaker : Agent) :
    (voteOf speaker).content =
      .state .unspecified (.deed .vote ⟨2⟩) := by
  have wellFormed :
      (Content.state .unspecified (.deed .vote ⟨2⟩)).WellFormed
        Agent.Admissible := by
    refine .state Agent.admissible_anyone Agent.admissible_unspecified ?_
    rintro target ⟨⟩
    unfold Agent.Admissible
    decide
  have line :
      "VOTE Agent[02]" =
        (Content.state .unspecified (.deed .vote ⟨2⟩)).text := by
    decide
  rw [content, voteOf, line, readOrSkip_text wellFormed]
  rfl

/-- The vote of the first agent is read from its record, and again from its line. -/
theorem attributedContent_on_wire_vote :
    voteOf ⟨1⟩ ∈
        (Json.ofText? (voteOf ⟨1⟩).toJson.compact).bind ofJson? ∧
      (voteOf ⟨1⟩).attributedContent.subject = ⟨1⟩ ∧
        SameSpeech
          (readOrSkip Reading.defaultDepth
            (voteOf ⟨1⟩).attributedContent.text)
          (voteOf ⟨1⟩).attributedContent := by
  have decoded := (voteOf ⟨1⟩).readBack.written
  have saysSomething : (voteOf ⟨1⟩).content.isSilence = false := by
    rw [content_voteOf]
    rfl
  have noSubject : (voteOf ⟨1⟩).content.subject = .unspecified := by
    rw [content_voteOf]
    rfl
  have admissible : Agent.Admissible ⟨1⟩ := by
    unfold Agent.Admissible
    decide
  obtain ⟨⟨_, attributed⟩, readAgain⟩ :=
    attributedContent_on_wire _ (voteOf ⟨1⟩) decoded
  exact
    ⟨decoded, attributed saysSomething noSubject,
      readAgain.mpr (Or.inl admissible)⟩

/--
A record can name a speaker whose index is beyond the one that stands for anyone. The line
that shows this speaker is not read as what the utterance says.
-/
theorem attributedContent_lost :
    (Json.ofText?
            ("\x7b\"idx\":0,\"day\":1,\"turn\":0,\"agent\":4294967295," ++
              "\"text\":\"VOTE Agent[02]\"\x7d")).bind
          ofJson? =
        some (voteOf ⟨4294967295⟩) ∧
      (voteOf ⟨4294967295⟩).attributedContent.text =
          "Agent[4294967295] VOTE Agent[02]" ∧
        ¬ SameSpeech
          (readOrSkip Reading.defaultDepth
            (voteOf ⟨4294967295⟩).attributedContent.text)
          (voteOf ⟨4294967295⟩).attributedContent := by
  have decoded := (voteOf ⟨4294967295⟩).readBack.written
  have written :
      (voteOf ⟨4294967295⟩).toJson.compact =
        "\x7b\"idx\":0,\"day\":1,\"turn\":0,\"agent\":4294967295," ++
          "\"text\":\"VOTE Agent[02]\"\x7d" := by
    decide
  have inadmissible : ¬ Agent.Admissible ⟨4294967295⟩ := by
    unfold Agent.Admissible
    decide
  rw [written] at decoded
  refine ⟨decoded, ?_, ?_⟩
  · rw [attributedContent, content_voteOf]
    decide
  · rw [sameSpeech_attributedContent_iff, content_voteOf]
    rintro (admissible | silent | specified)
    · exact inadmissible admissible
    · cases silent
    · exact specified rfl

end Utterance

end WerewolfSpeech
