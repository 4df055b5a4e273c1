import Mathlib.Data.List.Forall2
import WerewolfSpeech.Proofs.Reading.Canonical

namespace WerewolfSpeech.Content

/-!
# Contents that are the same speech

Contents are compared by their canonical lines. A line can be read in one way only, so two
contents with the same line differ in the subjects of their silences at most. What is asked
of a content, and what is made of it, does not depend on those subjects, and therefore
contents that are the same speech can stand for each other everywhere.
-/

/-- What two contents that can stand for each other have in common. -/
structure Interchangeable (first second : Content) : Prop where
  topic : first.topic = second.topic
  operator : first.operator? = second.operator?
  target : first.target? = second.target? ∧ first.target = second.target
  role : first.role? = second.role?
  species : first.species? = second.species?
  citation : first.citation? = second.citation?
  day : first.day? = second.day?
  silence : first.isSilence = second.isSilence
  subject : first.isSilence = false → first.subject = second.subject
  clauses : List.Forall₂ SameSpeech first.clauses second.clauses
  withSubject :
    ∀ subject, SameSpeech (first.withSubject subject) (second.withSubject subject)

/-- Two attempts that fail alike or give contents that are the same speech. -/
def SameOutcome
    (first second : Except Diagnosis Content) :
    Prop :=
  (∃ content other,
    first = .ok content ∧ second = .ok other ∧ SameSpeech content other) ∨
    ∃ diagnosis, first = .error diagnosis ∧ second = .error diagnosis

/-- Contents that differ in the subjects of silences only are the same speech. -/
theorem sameSpeech_of_forgetSilent_eq
    {first second : Content}
    (same : first.forgetSilent = second.forgetSilent) :
    SameSpeech first second := by
  have attributed :
      first.attributeSilence .unspecified =
        second.attributeSilence .unspecified := by
    rw [← attributeSilence_forgetSilent, same,
      attributeSilence_forgetSilent]
  have sameText := congrArg text attributed
  rw [text_attributeSilence, text_attributeSilence] at sameText
  exact sameText

/-- A canonical line can be read in one way only. -/
theorem forgetSilent_eq_of_sameSpeech
    {first second : Content}
    (firstWellFormed : first.WellFormed Agent.Admissible)
    (secondWellFormed : second.WellFormed Agent.Admissible)
    (same : SameSpeech first second) :
    first.forgetSilent = second.forgetSilent := by
  -- The limit has to reach down to the lowest clauses of both.
  have firstRead :=
    read_text_of_low firstWellFormed
      (Nat.le_max_left first.height second.height)
  have secondRead :=
    read_text_of_low secondWellFormed
      (Nat.le_max_right first.height second.height)
  rw [SameSpeech] at same
  rw [same, secondRead] at firstRead
  have attributed := Except.ok.inj firstRead
  rw [← forgetSilent_attributeSilence .unspecified first, ← attributed,
    forgetSilent_attributeSilence]

/-- Contents that differ in the subjects of silences only are alike below the root. -/
private theorem map_forgetSilent_clauses
    {first second : Content}
    (same : first.forgetSilent = second.forgetSilent) :
    first.clauses.map forgetSilent = second.clauses.map forgetSilent := by
  have clausesOf :
      ∀ content : Content,
        content.forgetSilent.clauses = content.clauses.map forgetSilent := by
    intro content
    cases content with
    | atomic subject statement =>
        cases statement <;> simp [forgetSilent, clauses]
    | joined subject connective clauses =>
        rw [forgetSilent_joined]
        rfl
  rw [← clausesOf, ← clausesOf, same]

/-- Clauses that differ in the subjects of silences only are the same speech one by one. -/
private theorem forall₂_sameSpeech
    {clauses others : List Content}
    (same : clauses.map forgetSilent = others.map forgetSilent) :
    List.Forall₂ SameSpeech clauses others := by
  have forgotten :
      List.Forall₂
        (fun clause other => clause.forgetSilent = other.forgetSilent)
        clauses others :=
    List.forall₂_map_left_iff.mp
      (List.forall₂_map_right_iff.mp
        (List.forall₂_eq_eq_eq ▸ same))
  exact forgotten.imp fun _ _ => sameSpeech_of_forgetSilent_eq

/--
Contents that differ in the subjects of silences only agree on whatever neither those
subjects nor the clauses decide.
-/
private theorem eq_of_forgetSilent_eq
    {Field : Type}
    {first second : Content}
    (same : first.forgetSilent = second.forgetSilent)
    (field : Content → Field)
    (ofSilence :
      ∀ subject kind,
        field (.atomic subject (.silence kind)) =
          field (.atomic .unspecified (.silence kind)) := by intros; rfl)
    (ofRoot :
      ∀ subject connective clauses others,
        field (.joined subject connective clauses) =
          field (.joined subject connective others) := by intros; rfl) :
    field first = field second := by
  have kept :
      ∀ content : Content, field content.forgetSilent = field content := by
    intro content
    cases content with
    | atomic subject statement =>
        rcases statement.silence_or_not with ⟨kind, rfl⟩ | saysSomething
        · rw [forgetSilent_silence]
          exact (ofSilence subject kind).symm
        · rw [forgetSilent_atomic saysSomething]
    | joined subject connective clauses =>
        rw [forgetSilent_joined]
        exact ofRoot subject connective _ clauses
  rw [← kept first, same, kept second]

/-- Contents that differ in the subjects of silences only are interchangeable. -/
private theorem interchangeable_of_forgetSilent_eq
    {first second : Content}
    (same : first.forgetSilent = second.forgetSilent) :
    Interchangeable first second := by
  have sameSilence := eq_of_forgetSilent_eq same isSilence
  constructor
  case topic => exact eq_of_forgetSilent_eq same topic
  case operator => exact eq_of_forgetSilent_eq same operator?
  case target =>
    exact
      ⟨eq_of_forgetSilent_eq same target?,
        eq_of_forgetSilent_eq same target⟩
  case role => exact eq_of_forgetSilent_eq same role?
  case species => exact eq_of_forgetSilent_eq same species?
  case citation => exact eq_of_forgetSilent_eq same citation?
  case day => exact eq_of_forgetSilent_eq same day?
  case silence => exact sameSilence
  case subject =>
    intro notSilent
    rw [← subject_forgetSilent notSilent, same]
    exact subject_forgetSilent (sameSilence.symm.trans notSilent)
  case clauses =>
    exact forall₂_sameSpeech (map_forgetSilent_clauses same)
  case withSubject =>
    intro subject
    apply sameSpeech_of_forgetSilent_eq
    rw [forgetSilent_withSubject, same, ← forgetSilent_withSubject]

/-- Clauses that differ in the subjects of silences only are composed alike. -/
private theorem sameOutcome_compose
    {clauses others : List Content}
    (same : clauses.map forgetSilent = others.map forgetSilent)
    (subject : Agent)
    (connective : Connective) :
    SameOutcome
      (compose subject connective clauses)
      (compose subject connective others) := by
  have sameLength : clauses.length = others.length := by
    simpa using congrArg List.length same
  rw [compose_eq, compose_eq, sameLength]
  split
  · left
    refine ⟨_, _, rfl, rfl, ?_⟩
    apply sameSpeech_of_forgetSilent_eq
    rw [forgetSilent_join, same, ← forgetSilent_join]
  · right
    exact ⟨_, rfl, rfl⟩

/-- Clauses that are the same speech one by one differ in the subjects of silences only. -/
private theorem map_forgetSilent_of_sameSpeech
    {clauses others : List Content}
    (same : List.Forall₂ SameSpeech clauses others)
    (clausesWellFormed :
      ∀ clause ∈ clauses, clause.WellFormed Agent.Admissible)
    (othersWellFormed :
      ∀ other ∈ others, other.WellFormed Agent.Admissible) :
    clauses.map forgetSilent = others.map forgetSilent := by
  induction same with
  | nil =>
      rfl
  | @cons clause other restClauses restOthers headSame restSame
      inductionHypothesis =>
      rw [List.forall_mem_cons] at clausesWellFormed othersWellFormed
      have sameHead :=
        forgetSilent_eq_of_sameSpeech clausesWellFormed.1
          othersWellFormed.1 headSame
      have sameRest :=
        inductionHypothesis clausesWellFormed.2 othersWellFormed.2
      rw [List.map_cons, List.map_cons, sameHead, sameRest]

/--
Reachable contents that are the same speech are interchangeable, and composing reachable
clauses that are the same speech one by one has the same outcome.
-/
theorem sameSpeech_congruence :
    (∀ first second : Content,
      first.Reachable Agent.Admissible →
      second.Reachable Agent.Admissible →
      SameSpeech first second →
      Interchangeable first second) ∧
    ∀ (subject target : Agent) (day : UInt32) (operator : Operator)
      (clauses others : List Content),
      (∀ clause ∈ clauses, clause.Reachable Agent.Admissible) →
      (∀ other ∈ others, other.Reachable Agent.Admissible) →
      List.Forall₂ SameSpeech clauses others →
      SameOutcome
        (compose subject (.ofOperator target day operator) clauses)
        (compose subject (.ofOperator target day operator) others) := by
  constructor
  · intro first second firstReachable secondReachable same
    apply interchangeable_of_forgetSilent_eq
    exact forgetSilent_eq_of_sameSpeech
      (firstReachable.wellFormed fun _ => id)
      (secondReachable.wellFormed fun _ => id) same
  · intro subject target day operator clauses others clausesReachable
      othersReachable same
    apply sameOutcome_compose
    apply map_forgetSilent_of_sameSpeech same
    · intro clause member
      exact (clausesReachable clause member).wellFormed fun _ => id
    · intro other member
      exact (othersReachable other member).wellFormed fun _ => id

/-- The contraries of two skipped turns that are attributed to different agents. -/
theorem sameSpeech_congruence_contraries :
    (not ⟨1⟩ skip).Reachable Agent.Admissible ∧
      (not ⟨1⟩ (state ⟨2⟩ (.silence .skip))).Reachable Agent.Admissible ∧
        SameSpeech (not ⟨1⟩ skip) (not ⟨1⟩ (state ⟨2⟩ (.silence .skip))) ∧
          Interchangeable
            (not ⟨1⟩ skip)
            (not ⟨1⟩ (state ⟨2⟩ (.silence .skip))) ∧
          SameOutcome
            (compose ⟨4⟩ (.ofOperator ⟨3⟩ 0 .request) [not ⟨1⟩ skip])
            (compose ⟨4⟩ (.ofOperator ⟨3⟩ 0 .request)
              [not ⟨1⟩ (state ⟨2⟩ (.silence .skip))]) := by
  have admissible :
      ∀ index : UInt32,
        index.toNat ≤ Agent.anyoneIndex → (Agent.mk index).Admissible :=
    fun _ => id
  have contrary :
      ∀ subject : Agent, subject.Admissible →
        (not ⟨1⟩ (state subject (.silence .skip))).Reachable
          Agent.Admissible :=
    fun subject subjectAdmissible =>
      .not (admissible 1 (by decide))
        (.state (.silence .skip) subjectAdmissible
          (by simp [Statement.target?]))
  have unattributed : (not ⟨1⟩ skip).Reachable Agent.Admissible :=
    contrary .unspecified Agent.admissible_unspecified
  have attributed := contrary ⟨2⟩ (admissible 2 (by decide))
  have same :
      SameSpeech (not ⟨1⟩ skip) (not ⟨1⟩ (state ⟨2⟩ (.silence .skip))) :=
    sameSpeech_of_forgetSilent_eq rfl
  refine ⟨unattributed, attributed, same, ?_, ?_⟩
  · exact sameSpeech_congruence.1 _ _ unattributed attributed same
  · apply sameSpeech_congruence.2
    · simpa using unattributed
    · simpa using attributed
    · exact .cons same .nil

end WerewolfSpeech.Content
