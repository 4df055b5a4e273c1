import WerewolfSpeech.Content.Completion
import WerewolfSpeech.Content.Text

namespace WerewolfSpeech

/-!
# Clause by clause

Completion and the canonical line walk through a clause list with functions of their own.
This module gives the induction principle that follows the clauses of a content and
restates both walks as list operations, so that later proofs speak of one clause at a time.
-/

namespace Content

/-- What holds of every atomic content and passes from clauses to contents holds of all. -/
@[elab_as_elim, induction_eliminator]
theorem clauseInduction
    {property : Content → Prop}
    (atomic :
      ∀ subject statement,
        property (.atomic subject statement))
    (joined :
      ∀ subject connective clauses,
        (∀ clause ∈ clauses, property clause) →
        property (.joined subject connective clauses))
    (content : Content) :
    property content := by
  refine
    @Content.rec property
      (fun clauses => ∀ clause ∈ clauses, property clause)
      atomic joined ?empty ?more content
  case empty =>
    intro clause member
    simp at member
  case more =>
    intro first rest firstHolds restHold clause member
    rcases List.mem_cons.mp member with isFirst | inRest
    · subst clause
      exact firstHolds
    · exact restHold clause inRest

/-- A clause as its governing agent completes it. -/
def governed
    (governor : Agent)
    (clause : Content) :
    Content :=
  if clause.subject = .unspecified ∧ governor ≠ .unspecified then
    clause.withSubject governor
  else
    clause

/-- Under an unspecified agent a clause stays as it is. -/
@[simp] theorem governed_unspecified
    (clause : Content) :
    clause.governed .unspecified = clause := by
  simp [governed]

/-- A clause with a subject of its own stays as it is. -/
theorem governed_of_subject
    {clause : Content}
    (governor : Agent)
    (specified : clause.subject ≠ .unspecified) :
    clause.governed governor = clause := by
  simp [governed, specified]

/-- What joined clauses come to depends on each of them with what it comes to. -/
theorem fold_joined
    {Result : Type}
    (ofStatement : Statement → Result)
    (ofClauses : Connective → List (Content × Result) → Result)
    (subject : Agent)
    (connective : Connective)
    (clauses : List Content) :
    Speech.fold ofStatement ofClauses
        (Content.joined subject connective clauses) =
      ofClauses connective
        (clauses.map fun clause =>
          (clause, Speech.fold ofStatement ofClauses clause)) := by
  have each :
      foldEach ofStatement ofClauses clauses =
        clauses.map fun clause =>
          (clause, fold ofStatement ofClauses clause) := by
    induction clauses with
    | nil =>
        rfl
    | cons clause rest inductionHypothesis =>
        rw [foldEach, inductionHypothesis, List.map_cons]
  exact congrArg (ofClauses connective) each

/-- Without anything to inherit the clauses stay as they are. -/
theorem complete_none
    (clauses : List Content) :
    complete none clauses = clauses := by
  rw [complete, Speech.complete, Speech.inherit, List.map_map]
  exact List.map_id clauses

/-- Completion treats every clause alike. -/
theorem complete_some
    {agent : Agent}
    (specified : agent ≠ .unspecified)
    (clauses : List Content) :
    complete (some agent) clauses =
      clauses.map (governed agent) := by
  rw [complete, Speech.complete, Speech.inherit, List.map_map]
  refine List.map_congr_left fun clause _ => ?_
  simp only [Function.comp_apply, governed, specified, ne_eq,
    not_false_eq_true, and_true]
  rfl

/-- A content in the place of another gets the subject that it is given. -/
@[simp] theorem subject_withSubject
    (subject : Agent)
    (content : Content) :
    (content.withSubject subject).subject = subject := by
  cases content <;> rfl

/-- A clause as it stands in the line of a content, under its governing agent. -/
def charsUnder
    (governor : Agent)
    (clause : Content) :
    List Char :=
  (if clause.subject = governor then [] else clause.subjectChars) ++
    clause.bodyChars

/-- The clauses of a line, each behind a space and in parentheses. -/
theorem clausesChars_eq_flatMap
    (governor : Agent)
    (clauses : List Content) :
    clausesChars governor clauses =
      clauses.flatMap fun clause =>
        ' ' :: '(' :: (charsUnder governor clause ++ [')']) := by
  induction clauses with
  | nil =>
      simp [clausesChars]
  | cons clause rest inductionHypothesis =>
      simp [clausesChars, charsUnder, inductionHypothesis]

/-- A content that stands alone is written like a clause that nobody governs. -/
theorem charsUnder_unspecified
    (content : Content) :
    content.charsUnder .unspecified = content.chars := by
  by_cases noSubject : content.subject = .unspecified
  · simp [charsUnder, chars, subjectChars, noSubject]
  · simp [charsUnder, chars, noSubject]

end Content

end WerewolfSpeech
