import WerewolfSpeech.Content.View
import WerewolfSpeech.Inscription

namespace WerewolfSpeech.Inscription

/-!
# Views of inscriptions

The view of an inscription is the view of its content, except that every node shows the line
that it carries. No line is written for a view.
-/

/-- The fields of the root, with the line as it was written. -/
def fields
    (inscription : Inscription) :
    NodeFields :=
  { inscription.plain.fields with text := inscription.text }

mutual

/-- The view of an inscription. -/
def view :
    Inscription →
    View
  | .atomic subject statement rendered =>
      .node (fields (.atomic subject statement rendered)) []
  | .joined subject connective clauses rendered =>
      .node (fields (.joined subject connective clauses rendered))
        (viewEach clauses)

/-- The views of several inscriptions. -/
def viewEach :
    List Inscription →
    List View
  | [] => []
  | inscription :: rest => inscription.view :: viewEach rest

end

end WerewolfSpeech.Inscription
