import WerewolfSpeech.Proofs.Content.Mention
import WerewolfSpeech.Proofs.Reading.Canonical
import WerewolfSpeech.Proofs.Reading.Leniency

namespace WerewolfSpeech.Content

/-!
# Mentioned agents of what is read

Whatever is read has its silences attributed to the agents that govern them. So the
participants that it mentions can be read off its canonical line, which names each of them
for the first time where the content mentions that participant for the first time.
-/

/-- Silences that are settled are attributed. -/
theorem Settled.attributed
    {levels : Nat}
    {governor : Agent}
    {content : Content}
    (settled : content.Settled levels governor) :
    content.attributeSilence governor = content := by
  have again :
      ((cut levels content).attributeSilence governor).attributeSilence
          governor =
        (cut levels content).attributeSilence governor := by
    rw [← attributeSilence_forgetSilent, forgetSilent_attributeSilence,
      attributeSilence_forgetSilent]
  rw [Settled] at settled
  rwa [settled] at again

/-- What is read strictly is read leniently as well. -/
theorem readOrSkip_of_read
    {maxDepth : Nat}
    {text : String}
    {content : Content}
    (succeeds : read maxDepth text = .ok content) :
    readOrSkip maxDepth text = content := by
  have relaxes := relaxes_readOrSkip maxDepth text
  rw [succeeds] at relaxes
  generalize readOrSkip maxDepth text = result at relaxes ⊢
  cases relaxes with
  | read _ => rfl

/-- The line of what is read leniently names whom the content mentions. -/
theorem agents_readOrSkip
    (maxDepth : Nat)
    (text : String) :
    (readOrSkip maxDepth text).agents =
      (Line.named (readOrSkip maxDepth text).text.toList).eraseDups := by
  have settled := settled_of_beneath (clause_readOrSkip maxDepth text)
  rw [Content.text, String.toList_ofList]
  exact agents_eq_named_chars (wellFormed_readOrSkip maxDepth text)
    settled.attributed

/--
The participants that a content mentions, if it was read leniently or strictly, are those
that the references in its canonical line name, each where it comes first.
-/
theorem agents_eq_named
    (maxDepth : Nat)
    (text : String) :
    (readOrSkip maxDepth text).agents =
        (Line.named (readOrSkip maxDepth text).text.toList).eraseDups ∧
      ∀ content,
        read maxDepth text = .ok content →
        content.agents = (Line.named content.text.toList).eraseDups := by
  refine ⟨agents_readOrSkip maxDepth text, ?_⟩
  intro content succeeds
  rw [← readOrSkip_of_read succeeds]
  exact agents_readOrSkip maxDepth text

/-- A reason and a request, whose subject and whose clause's subject are left out. -/
theorem agents_eq_named_reason :
    ∃ content,
      read 3
          ("Agent[03] BECAUSE (Agent[05] VOTE Agent[03]) " ++
            "(REQUEST Agent[07] (VOTE Agent[05]))") =
          .ok content ∧
        content.agents = (Line.named content.text.toList).eraseDups ∧
          content.agents = [⟨3⟩, ⟨5⟩, ⟨7⟩] := by
  have admitted :
      Agent.Admissible ⟨3⟩ ∧ Agent.Admissible ⟨5⟩ ∧ Agent.Admissible ⟨7⟩ := by
    unfold Agent.Admissible
    decide
  obtain ⟨speaker, voter, addressee⟩ := admitted
  have silent := Agent.admissible_unspecified
  let reason := state ⟨5⟩ (.deed .vote ⟨3⟩)
  let action :=
    request .unspecified ⟨7⟩ (state .unspecified (.deed .vote ⟨5⟩))
  have reasonReachable : reason.Reachable Agent.Admissible :=
    .state _ voter (by rintro target ⟨⟩; exact speaker)
  have actionReachable : action.Reachable Agent.Admissible :=
    .request silent addressee
      (.state _ silent (by rintro target ⟨⟩; exact voter))
  have reachable :
      (because ⟨3⟩ reason action).Reachable Agent.Admissible :=
    .because speaker reasonReachable actionReachable
  have succeeds :=
    read_text_of_low (reachable.wellFormed fun _ => id)
      (show _ ≤ 3 by decide)
  have spoken :
      (because ⟨3⟩ reason action).text =
        "Agent[03] BECAUSE (Agent[05] VOTE Agent[03]) " ++
          "(REQUEST Agent[07] (VOTE Agent[05]))" := by
    decide
  rw [spoken] at succeeds
  refine ⟨_, succeeds, (agents_eq_named 3 _).2 _ succeeds, ?_⟩
  decide

end WerewolfSpeech.Content
