import WerewolfSpeech.Proofs.Attempt
import WerewolfSpeech.Proofs.Content.Completion

namespace WerewolfSpeech

/-!
# Drafts

A draft is an expression as somebody writes it down: any subject and any target may be
left out, and nothing has been completed. There are two ways from a draft to a content.
`Draft.build` puts it together from the leaves up with the builders, which complete the
clauses of every node that they make, so that a clause is completed anew whenever a
subject reaches it from further up. `Draft.passDown` goes once from the root to the leaves
and decides the subject of a clause when the subject of its parent is known. The main
statement is that both give the same content.
-/

/-- An expression before completion. -/
inductive Draft where
  | atomic (subject : Agent) (statement : Statement)
  | joined (subject : Agent) (connective : Connective) (clauses : List Draft)
  deriving Repr

namespace Draft

/-- The subject that the draft gives itself. -/
def subject :
    Draft →
    Agent
  | .atomic subject _ => subject
  | .joined subject _ _ => subject

mutual

/-- Whether every connective of the draft has a number of clauses that it takes. -/
def fits :
    Draft →
    Bool
  | .atomic _ _ => true
  | .joined _ connective clauses =>
      connective.operator.arity.accepts clauses.length && fitsEach clauses

/-- Whether every clause fits. -/
def fitsEach :
    List Draft →
    Bool
  | [] => true
  | clause :: rest => clause.fits && fitsEach rest

end

/-- The content that the builders make of a draft, clauses first and from left to right. -/
def build :
    Draft →
    Except Diagnosis Content
  | .atomic subject statement => .ok (.state subject statement)
  | .joined subject connective clauses => do
      let built ← clauses.mapM build
      Content.compose subject connective built

mutual

/-- The draft with anyone in the place of every target that was left out. -/
def withTargets :
    Draft →
    Draft
  | .atomic subject statement =>
      .atomic subject statement.withTarget
  | .joined subject connective clauses =>
      .joined subject connective.withTarget (withTargetsEach clauses)

/-- The clauses with all their targets. -/
def withTargetsEach :
    List Draft →
    List Draft
  | [] => []
  | clause :: rest => clause.withTargets :: withTargetsEach rest

end

/--
The subject of a clause that names `own`: its own if there is one, else the addressee of a
request or an inquiry, else the subject of the parent if there is one.
-/
def heir
    (parent : Agent)
    (connective : Connective)
    (own : Agent) :
    Agent :=
  if own ≠ .unspecified then
    own
  else
    match connective with
    | .request target => target
    | .inquire target => target
    | _ => if parent ≠ .unspecified then parent else .unspecified

mutual

/-- The content of a draft whose root has a given subject, every clause decided in turn. -/
def passDown
    (subject : Agent) :
    Draft →
    Content
  | .atomic _ statement =>
      .atomic subject statement
  | .joined _ connective clauses =>
      .joined subject connective (passDownEach subject connective clauses)

/-- The contents of the clauses of a parent. -/
def passDownEach
    (parent : Agent)
    (connective : Connective) :
    List Draft →
    List Content
  | [] => []
  | clause :: rest =>
      clause.passDown (heir parent connective clause.subject) ::
        passDownEach parent connective rest

end

/-- The content of a draft: targets first, then one pass from the root down. -/
def complete
    (draft : Draft) :
    Content :=
  draft.withTargets.passDown draft.subject

/-- What holds of every atomic draft and passes from clauses to drafts holds of all. -/
@[elab_as_elim, induction_eliminator]
theorem clauseInduction
    {property : Draft → Prop}
    (atomic :
      ∀ subject statement,
        property (.atomic subject statement))
    (joined :
      ∀ subject connective clauses,
        (∀ clause ∈ clauses, property clause) →
        property (.joined subject connective clauses))
    (draft : Draft) :
    property draft := by
  refine
    @Draft.rec property
      (fun clauses => ∀ clause ∈ clauses, property clause)
      atomic joined ?empty ?more draft
  case empty =>
    intro clause member
    simp at member
  case more =>
    intro first rest firstHolds restHold clause member
    rcases List.mem_cons.mp member with isFirst | inRest
    · subst clause
      exact firstHolds
    · exact restHold clause inRest

private theorem fitsEach_eq_all
    (clauses : List Draft) :
    fitsEach clauses = clauses.all fits := by
  induction clauses with
  | nil =>
      simp [fitsEach]
  | cons clause rest inductionHypothesis =>
      simp [fitsEach, inductionHypothesis]

private theorem withTargetsEach_eq_map
    (clauses : List Draft) :
    withTargetsEach clauses = clauses.map withTargets := by
  induction clauses with
  | nil =>
      simp [withTargetsEach]
  | cons clause rest inductionHypothesis =>
      simp [withTargetsEach, inductionHypothesis]

private theorem passDownEach_eq_map
    (parent : Agent)
    (connective : Connective)
    (clauses : List Draft) :
    passDownEach parent connective clauses =
      clauses.map fun clause =>
        clause.passDown (heir parent connective clause.subject) := by
  induction clauses with
  | nil =>
      simp [passDownEach]
  | cons clause rest inductionHypothesis =>
      simp [passDownEach, inductionHypothesis]

/-- Filling in targets leaves the subject alone. -/
@[simp] theorem subject_withTargets
    (draft : Draft) :
    draft.withTargets.subject = draft.subject := by
  cases draft <;> simp [withTargets, subject]

/-- The pass from the root gives the root the subject that it starts with. -/
@[simp] theorem subject_passDown
    (agent : Agent)
    (draft : Draft) :
    (draft.passDown agent).subject = agent := by
  cases draft <;> simp [passDown, Content.subject]

/-- A clause that names a subject keeps it under every parent. -/
private theorem heir_of_own
    (parent : Agent)
    (connective : Connective)
    {own : Agent}
    (specified : own ≠ .unspecified) :
    heir parent connective own = own := by
  simp [heir, specified]

private theorem heir_of_no_own
    (parent : Agent)
    (connective : Connective) :
    heir parent connective .unspecified = connective.governor parent := by
  by_cases noParent : parent = .unspecified <;>
    cases connective <;>
      simp [heir, noParent, Connective.governor, Connective.target?]

/-- The pass from the root through a connective whose target is filled in. -/
private theorem passDown_withTargets_joined
    (agent subject : Agent)
    (connective : Connective)
    (clauses : List Draft) :
    (Draft.joined subject connective clauses).withTargets.passDown agent =
      .joined agent connective.withTarget
        (clauses.map fun clause =>
          clause.withTargets.passDown
            (heir agent connective.withTarget clause.subject)) := by
  simp [withTargets, withTargetsEach_eq_map, passDown,
    passDownEach_eq_map]

/--
A clause that has been passed down with what it names itself needs the governing agent of
its parent to be as it would be if the pass had come from the parent.
-/
private theorem governed_passDown
    {clause : Draft}
    (againHolds :
      ∀ agent, agent ≠ .unspecified →
        (clause.withTargets.passDown .unspecified).withSubject agent =
          clause.withTargets.passDown agent)
    (parent : Agent)
    (connective : Connective) :
    (clause.withTargets.passDown clause.subject).governed
        (connective.governor parent) =
      clause.withTargets.passDown
        (heir parent connective clause.subject) := by
  by_cases noOwn : clause.subject = .unspecified
  · rw [noOwn, heir_of_no_own]
    by_cases ungoverned : connective.governor parent = .unspecified
    · rw [ungoverned, Content.governed_unspecified]
    · have again :=
        againHolds (connective.governor parent) ungoverned
      simpa [Content.governed, ungoverned] using again
  · rw [heir_of_own parent connective noOwn]
    apply Content.governed_of_subject
    simpa using noOwn

/--
A content that was completed without a subject and then receives one is the content that
was completed with that subject from the start.
-/
theorem withSubject_passDown
    (draft : Draft) :
    ∀ agent, agent ≠ .unspecified →
      (draft.withTargets.passDown .unspecified).withSubject agent =
        draft.withTargets.passDown agent := by
  induction draft with
  | atomic subject statement =>
      intro agent _
      simp [withTargets, passDown, Content.withSubject_atomic,
        Content.state_eq]
  | joined subject connective clauses inductionHypothesis =>
      intro agent specified
      rw [passDown_withTargets_joined, passDown_withTargets_joined,
        Content.withSubject_joined, Content.join_eq,
        Connective.withTarget_withTarget, List.map_map]
      congr 1
      apply List.map_congr_left
      intro clause member
      cases named : connective.withTarget.target? with
      | none =>
          -- Before the subject arrives such a clause speaks for what it names itself.
          have before :
              heir .unspecified connective.withTarget clause.subject =
                clause.subject := by
            by_cases noOwn : clause.subject = .unspecified
            · rw [noOwn, heir_of_no_own,
                Connective.governor_of_no_target? named]
            · exact heir_of_own _ _ noOwn
          rw [Function.comp_apply, before]
          exact governed_passDown
            (inductionHypothesis clause member) agent _
      | some target =>
          -- The addressee decided the clause at once, whoever the subject is.
          have sameHeir :
              heir .unspecified connective.withTarget clause.subject =
                heir agent connective.withTarget clause.subject := by
            by_cases noOwn : clause.subject = .unspecified
            · rw [noOwn, heir_of_no_own, heir_of_no_own,
                Connective.governor_of_target? named,
                Connective.governor_of_target? named]
            · rw [heir_of_own _ _ noOwn, heir_of_own _ _ noOwn]
          have decided :
              heir agent connective.withTarget clause.subject ≠
                .unspecified := by
            by_cases noOwn : clause.subject = .unspecified
            · rw [noOwn, heir_of_no_own,
                Connective.governor_of_target? named]
              exact Connective.specified_of_target?_withTarget named
            · rw [heir_of_own _ _ noOwn]
              exact noOwn
          rw [Function.comp_apply, sameHeir]
          apply Content.governed_of_subject
          simpa using decided

/-- Joining clauses that are complete in themselves is the pass from their parent down. -/
private theorem join_complete
    (subject : Agent)
    (connective : Connective)
    (clauses : List Draft) :
    Content.join subject connective (clauses.map complete) =
      (Draft.joined subject connective clauses).complete := by
  rw [complete, passDown_withTargets_joined, Content.join_eq,
    List.map_map, Draft.subject]
  congr 1
  apply List.map_congr_left
  intro clause _
  exact governed_passDown (withSubject_passDown clause) subject _

private theorem build_of_fits
    {draft : Draft}
    (fits : draft.fits = true) :
    draft.build = .ok draft.complete := by
  induction draft with
  | atomic subject statement =>
      simp [build, complete, withTargets, passDown, Content.state_eq,
        Draft.subject]
  | joined subject connective clauses inductionHypothesis =>
      simp only [Draft.fits, fitsEach_eq_all, Bool.and_eq_true,
        List.all_eq_true] at fits
      have built :
          clauses.mapM build = .ok (clauses.map complete) := by
        apply Attempt.mapM_of_ok
        intro clause member
        exact inductionHypothesis clause member (fits.2 clause member)
      rw [build, built]
      apply Content.compose_eq_ok_iff.mpr
      exact ⟨by simpa using fits.1,
        join_complete subject connective clauses⟩

private theorem fits_of_build
    {draft : Draft}
    {content : Content}
    (built : draft.build = .ok content) :
    draft.fits = true := by
  induction draft generalizing content with
  | atomic subject statement =>
      simp [Draft.fits]
  | joined subject connective clauses inductionHypothesis =>
      rw [build] at built
      obtain ⟨contents, clausesBuilt, composed⟩ :=
        Attempt.bind_eq_ok_iff.mp built
      obtain ⟨sameLength, eachBuilt, _⟩ :=
        Attempt.ok_of_mapM clausesBuilt
      have accepted := (Content.compose_eq_ok_iff.mp composed).1
      simp only [Draft.fits, fitsEach_eq_all, Bool.and_eq_true,
        List.all_eq_true]
      refine ⟨by rw [← sameLength]; exact accepted, ?_⟩
      intro clause member
      obtain ⟨result, clauseBuilt⟩ := eachBuilt clause member
      exact inductionHypothesis clause member clauseBuilt

/--
Building a draft from the leaves up succeeds exactly if every connective has a number of
clauses that it takes, and then gives the content of one pass from the root down.
-/
theorem build_eq_ok_iff
    (draft : Draft)
    (content : Content) :
    draft.build = .ok content ↔
      draft.fits = true ∧ content = draft.complete := by
  constructor
  · intro built
    have fits := fits_of_build built
    rw [build_of_fits fits] at built
    exact ⟨fits, (Except.ok.inj built).symm⟩
  · rintro ⟨fits, rfl⟩
    exact build_of_fits fits

end Draft

end WerewolfSpeech
