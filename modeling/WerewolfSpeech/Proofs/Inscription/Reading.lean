import WerewolfSpeech.Proofs.Attempt
import WerewolfSpeech.Proofs.Inscription.Building

namespace WerewolfSpeech

/-!
# Reading keeps lines up to date

What is read depends on the nodes that it is put together to through three things only:
whom a clause speaks for, how a statement is made and how clauses are composed. So a
translation from one kind of node to another that respects these passes through the reader
from end to end. Inscribing is such a translation: a reader of inscriptions gives the
inscribed results of the reader of contents, and the same diagnoses.
-/

/-- A translation of nodes that respects how they are put together. -/
structure Speech.Translation
    {Node Other : Type}
    [Speech Node]
    [Speech Other]
    (translate : Node → Other) :
    Prop where
  /-- A node and its translation speak for the same agent. -/
  subject :
    ∀ node, Speech.subject (translate node) = Speech.subject node
  /-- A statement is translated to the same statement. -/
  state :
    ∀ subject statement,
      Speech.state subject statement =
        translate (Speech.state subject statement)
  /-- Translated clauses are composed to the translation, or refused alike. -/
  compose :
    ∀ subject connective clauses,
      Speech.compose subject connective (clauses.map translate) =
        translate <$> Speech.compose subject connective clauses

namespace Speech.Translation

variable
  {Node Other : Type}
  [Speech Node]
  [Speech Other]
  {translate : Node → Other}
  (translation : Translation translate)
include translation

/-- The mode does with a translated clause what it does with the clause. -/
private theorem clause_map
    (mode : Mode)
    (result : Except Diagnosis Node) :
    Reading.clause mode (translate <$> result) =
      translate <$> Reading.clause mode result := by
  cases mode with
  | strict => cases result <;> rfl
  | lenient =>
      cases result with
      | ok content => rfl
      | error diagnosis =>
          exact congrArg Except.ok
            (translation.state .unspecified (.silence .skip))

/-- Translated clauses imply the same addressee. -/
private theorem impliedAddressee_map
    (operator : Operator)
    (clauses : List Node) :
    Reading.impliedAddressee operator (clauses.map translate) =
      Reading.impliedAddressee operator clauses := by
  cases clauses with
  | nil => cases operator <;> rfl
  | cons first rest =>
      cases operator with
      | request =>
          exact congrArg (·.orElse .anyone) (translation.subject first)
      | _ => rfl

section Steps

variable
  (mode : Mode)
  (readGroup : List Char → Except Diagnosis Node)

/-- If groups are translated when they are read, so are the clauses of a list. -/
private theorem clauses_map
    (list : List Char) :
    Reading.clauses mode (fun group => translate <$> readGroup group) list =
      List.map translate <$> Reading.clauses mode readGroup list := by
  unfold Reading.clauses
  cases Line.splitGroups? list with
  | none => rfl
  | some groups =>
      simp only [translation.clause_map]
      exact Attempt.mapM_map_result groups _ translate

/-- If groups are translated when they are read, so is a phrase. -/
private theorem phrase_map
    (line : List Char)
    (phrase : Phrase) :
    Reading.phrase mode (fun group => translate <$> readGroup group) line
        phrase =
      translate <$> Reading.phrase mode readGroup line phrase := by
  cases phrase with
  | bare keyword =>
      simp only [Reading.phrase, Speech.skip, translation.state]
      split <;> rfl
  | agreement subjectWord keyword channel dayWord indexWord =>
      simp only [Reading.phrase, translation.state, map_bind]
      refine bind_congr fun subject => bind_congr fun channel =>
        bind_congr fun day => bind_congr fun index =>
          bind_congr fun topic => ?_
      split <;> rfl
  | disclosure subjectWord keyword targetWord role =>
      simp only [Reading.phrase, translation.state, map_bind]
      refine bind_congr fun subject => bind_congr fun target =>
        bind_congr fun term => bind_congr fun topic => ?_
      split <;> rfl
  | report subjectWord keyword targetWord species =>
      simp only [Reading.phrase, translation.state, map_bind]
      refine bind_congr fun subject => bind_congr fun target =>
        bind_congr fun term => bind_congr fun topic => ?_
      split <;> rfl
  | action subjectWord keyword targetWord =>
      simp only [Reading.phrase, translation.state, map_bind, map_pure]
  | addressed subjectWord keyword targetWord list =>
      simp only [Reading.phrase, translation.clauses_map,
        translation.compose, map_bind, bind_map_left]
  | connective subjectWord keyword list =>
      simp only [Reading.phrase, translation.clauses_map,
        translation.impliedAddressee_map, translation.compose, map_bind,
        bind_map_left]
  | dated subjectWord dayWord list =>
      simp only [Reading.phrase, translation.clauses_map,
        translation.compose, map_bind, bind_map_left]

private theorem line_map
    (text : List Char) :
    Reading.line mode (fun group => translate <$> readGroup group) text =
      translate <$> Reading.line mode readGroup text := by
  unfold Reading.line
  cases Phrase.ofChars? (Text.trim text) with
  | none => rfl
  | some phrase =>
      exact translation.phrase_map mode readGroup (Text.trim text) phrase

end Steps

/-- However many levels are admitted, a line is translated when it is read. -/
theorem within_eq
    (mode : Mode)
    (limit levels : Nat)
    (text : List Char) :
    Reading.within Other mode limit levels text =
      translate <$> Reading.within Node mode limit levels text := by
  induction levels generalizing text with
  | zero =>
      exact translation.line_map mode
        (fun _ => .error (.depthExceeded limit)) text
  | succ levels inductionHypothesis =>
      have groupsTranslated :
          Reading.within Other mode limit levels =
            fun group =>
              translate <$> Reading.within Node mode limit levels group :=
        funext inductionHypothesis
      rw [Reading.within, groupsTranslated]
      exact translation.line_map mode
        (Reading.within Node mode limit levels) text

/-- What is read strictly is translated when it is read. -/
theorem strictly_eq
    (maxDepth : Nat)
    (text : String) :
    Reading.strictly Other maxDepth text =
      translate <$> Reading.strictly Node maxDepth text :=
  translation.within_eq .strict maxDepth maxDepth text.toList

/-- What is read leniently is translated when it is read. -/
theorem leniently_eq
    (maxDepth : Nat)
    (text : String) :
    Reading.leniently Other maxDepth text =
      translate (Reading.leniently Node maxDepth text) := by
  unfold Reading.leniently
  rw [translation.within_eq]
  cases Reading.within Node .lenient maxDepth maxDepth text.toList with
  | ok content => rfl
  | error diagnosis =>
      exact translation.state .unspecified (.silence .skip)

end Speech.Translation

namespace Inscription

/-- Inscribing respects how speech is put together. -/
theorem translation_inscribe :
    Speech.Translation Content.inscribe where
  subject := Content.subject_inscribe
  state := state_eq_inscribe
  compose := compose_map_inscribe

/-- What is read strictly is what a reader of contents reads, inscribed. -/
theorem read_eq_inscribe
    (maxDepth : Nat)
    (text : String) :
    read maxDepth text =
      Content.inscribe <$> Content.read maxDepth text :=
  translation_inscribe.strictly_eq maxDepth text

/-- What is read leniently is what a reader of contents reads, inscribed. -/
theorem readOrSkip_eq_inscribe
    (maxDepth : Nat)
    (text : String) :
    readOrSkip maxDepth text =
      (Content.readOrSkip maxDepth text).inscribe :=
  translation_inscribe.leniently_eq maxDepth text

end Inscription

end WerewolfSpeech
