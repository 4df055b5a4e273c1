import WerewolfSpeech.Inscription.View
import WerewolfSpeech.Proofs.Content.View
import WerewolfSpeech.Proofs.Inscription.Attribution

namespace WerewolfSpeech

/-!
# Views of inscriptions read back

An inscription that was made with the operations has the view of its content, because it
carries the lines that are rendered from the content. So its view is put together again to
the inscription itself, with every line and every position at which a body starts.
-/

/-- The inscription that a view was made of. -/
def View.inscription?
    (view : View) :
    Option Inscription :=
  view.content?.map Content.inscribe

namespace Inscription

open Content

private theorem fields_inscribe
    (content : Content) :
    content.inscribe.fields = content.fields := by
  rw [fields, plain_inscribe, text_inscribe]
  rfl

/-- The view of joined clauses has the views of the clauses below it. -/
theorem viewEach_eq_map
    (inscriptions : List Inscription) :
    viewEach inscriptions = inscriptions.map view := by
  induction inscriptions with
  | nil => rfl
  | cons inscription rest inductionHypothesis =>
      rw [viewEach, inductionHypothesis, List.map_cons]

/-- The view of an inscription has the fields of the root and the views of the clauses. -/
theorem view_eq
    (inscription : Inscription) :
    inscription.view =
      .node inscription.fields (inscription.clauses.map view) := by
  cases inscription with
  | atomic subject statement rendered => rfl
  | joined subject connective clauses rendered =>
      rw [view, viewEach_eq_map]
      rfl

/-- The view of an inscribed content is that of the content. -/
theorem view_inscribe
    (content : Content) :
    content.inscribe.view = content.view := by
  induction content with
  | atomic subject statement =>
      rw [view_eq, fields_inscribe, clauses_inscribe]
      rfl
  | joined subject connective clauses inductionHypothesis =>
      rw [view_eq, fields_inscribe, clauses_inscribe, Content.view_eq,
        List.map_map]
      exact congrArg (View.node _)
        (List.map_congr_left inductionHypothesis)

/--
The view of an inscription is put together again to that inscription. So is every node of
the view, to a node of the inscription, and the line that it shows is the one that is
rendered from this node alone.
-/
theorem Reachable.view_readsBack
    {inscription : Inscription}
    (reachable : inscription.Reachable) :
    inscription.view.inscription? = some inscription ∧
      ∀ fields clauses,
        View.IsNode (.node fields clauses) inscription.view →
          ∃ node,
            IsNode node inscription ∧
              (View.node fields clauses).inscription? = some node ∧
                node.view = .node fields clauses ∧
                  fields.text = node.plain.text := by
  obtain ⟨content, wellFormed, rfl⟩ := reachable.kept
  have readsBack (part : Content) :
      part.view.inscription? = some part.inscribe := by
    rw [View.inscription?, content?_view, Option.map_some]
  constructor
  · rw [view_inscribe, readsBack]
  · intro fields clauses isNode
    rw [view_inscribe] at isNode
    obtain ⟨part, member, isView⟩ := exists_of_isNode_view isNode
    refine ⟨part.inscribe, isNode_inscribe member, ?_, ?_, ?_⟩
    · rw [isView, readsBack]
    · rw [isView, view_inscribe]
    · rw [Content.view_eq, View.node.injEq] at isView
      rw [isView.1, plain_inscribe]
      rfl

/--
A request whose speaker has an index beyond those of all labels that are read, and in which
a turn is skipped without a line that shows whose: both agents are in the view.
-/
theorem view_readsBack_request :
    (Inscription.join ⟨4294967295⟩ (.request ⟨2⟩)
        [.state ⟨3⟩ (.silence .skip)]).Reachable ∧
      (Inscription.join ⟨4294967295⟩ (.request ⟨2⟩)
          [.state ⟨3⟩ (.silence .skip)]).view.inscription? =
        some
          (.join ⟨4294967295⟩ (.request ⟨2⟩)
            [.state ⟨3⟩ (.silence .skip)]) := by
  have reachable :
      (Inscription.join ⟨4294967295⟩ (.request ⟨2⟩)
        [.state ⟨3⟩ (.silence .skip)]).Reachable := by
    refine .join _ rfl ?_
    simp only [List.forall_mem_cons]
    exact ⟨.state ⟨3⟩ _, by simp⟩
  exact ⟨reachable, reachable.view_readsBack.1⟩

end Inscription

end WerewolfSpeech
