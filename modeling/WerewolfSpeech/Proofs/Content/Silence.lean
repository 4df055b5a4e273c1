import WerewolfSpeech.Proofs.Content.WellFormed

namespace WerewolfSpeech

/-!
# Silences and depth

Two things are lost when a content is written down and read again. A silence is written
without its subject, so a reader attributes it to the agent that governs it; and a reader
that admits a limited number of levels sees nothing of what lies deeper. This module
defines both losses as functions on contents and relates them to completion.
-/

/-- A statement is a silence or says something. -/
theorem Statement.silence_or_not
    (statement : Statement) :
    (∃ kind, statement = .silence kind) ∨
      ∀ kind, statement ≠ .silence kind := by
  cases statement <;> simp

namespace Content

mutual

/-- The height of a content: an atomic content has height zero. -/
def height :
    Content →
    Nat
  | .atomic _ _ => 0
  | .joined _ _ clauses => 1 + heightOfEach clauses

/-- The largest height of the clauses. -/
def heightOfEach :
    List Content →
    Nat
  | [] => 0
  | clause :: rest => max clause.height (heightOfEach rest)

end

mutual

/-- The content without the subjects of its silences. -/
def forgetSilent :
    Content →
    Content
  | .atomic _ (.silence kind) => .atomic .unspecified (.silence kind)
  | .atomic subject statement => .atomic subject statement
  | .joined subject connective clauses =>
      .joined subject connective (forgetSilentEach clauses)

/-- The clauses without the subjects of their silences. -/
def forgetSilentEach :
    List Content →
    List Content
  | [] => []
  | clause :: rest => clause.forgetSilent :: forgetSilentEach rest

end

mutual

/-- The content with every silence attributed to the agent that governs it. -/
def attributeSilence
    (governor : Agent) :
    Content →
    Content
  | .atomic _ (.silence kind) => .atomic governor (.silence kind)
  | .atomic subject statement => .atomic subject statement
  | .joined subject connective clauses =>
      .joined subject connective
        (attributeSilenceEach (connective.governor subject) clauses)

/-- The clauses with every silence attributed to the agent that governs it. -/
def attributeSilenceEach
    (governor : Agent) :
    List Content →
    List Content
  | [] => []
  | clause :: rest =>
      clause.attributeSilence governor :: attributeSilenceEach governor rest

end

/-- What is left of a content if it and its clauses may take up so many levels. -/
def cut :
    Nat →
    Content →
    Content
  | 0, _ => skip
  | _ + 1, .atomic subject statement => .atomic subject statement
  | levels + 1, .joined subject connective clauses =>
      .joined subject connective (clauses.map (cut levels))

/-- Clauses are lower than a limit if the highest is. -/
theorem heightOfEach_lt_iff
    {clauses : List Content}
    (someClause : clauses ≠ [])
    (limit : Nat) :
    heightOfEach clauses < limit ↔
      ∀ clause ∈ clauses, clause.height < limit := by
  induction clauses with
  | nil =>
      exact absurd rfl someClause
  | cons first rest inductionHypothesis =>
      rw [heightOfEach, Nat.max_lt, List.forall_mem_cons]
      cases rest with
      | nil =>
          simp only [heightOfEach, List.not_mem_nil, false_implies,
            implies_true, and_true, and_iff_left_iff_imp]
          exact Nat.lt_of_le_of_lt (Nat.zero_le _)
      | cons second others =>
          rw [inductionHypothesis (by simp)]

/-- A content that joins clauses is one level higher than they are. -/
theorem height_joined_lt_iff
    {clauses : List Content}
    (someClause : clauses ≠ [])
    (subject : Agent)
    (connective : Connective)
    (limit : Nat) :
    height (.joined subject connective clauses) < limit + 1 ↔
      ∀ clause ∈ clauses, clause.height < limit := by
  rw [height, Nat.add_comm, Nat.add_lt_add_iff_right,
    heightOfEach_lt_iff someClause]

/-- A content loses nothing to a limit above its height. -/
theorem cut_of_height_lt
    {content : Content}
    {levels : Nat}
    (low : content.height < levels) :
    cut levels content = content := by
  induction content generalizing levels with
  | atomic subject statement =>
      cases levels with
      | zero =>
          exact absurd low (Nat.not_lt_zero _)
      | succ below =>
          rw [cut]
  | joined subject connective clauses inductionHypothesis =>
      cases levels with
      | zero =>
          exact absurd low (Nat.not_lt_zero _)
      | succ below =>
          rw [cut]
          by_cases someClause : clauses = []
          · rw [someClause, List.map_nil]
          · have clausesLow :=
              (height_joined_lt_iff someClause subject connective
                below).mp low
            have unchanged : clauses.map (cut below) = clauses.map id :=
              List.map_congr_left fun clause member =>
                inductionHypothesis clause member
                  (clausesLow clause member)
            rw [unchanged, List.map_id]

/-- Silences are forgotten clause by clause. -/
theorem forgetSilent_joined
    (subject : Agent)
    (connective : Connective)
    (clauses : List Content) :
    forgetSilent (.joined subject connective clauses) =
      .joined subject connective (clauses.map forgetSilent) := by
  have each : forgetSilentEach clauses = clauses.map forgetSilent := by
    induction clauses with
    | nil =>
        rfl
    | cons clause rest inductionHypothesis =>
        rw [forgetSilentEach, inductionHypothesis, List.map_cons]
  rw [forgetSilent, each]

/-- Silences are attributed clause by clause. -/
theorem attributeSilence_joined
    (governor subject : Agent)
    (connective : Connective)
    (clauses : List Content) :
    attributeSilence governor (.joined subject connective clauses) =
      .joined subject connective
        (clauses.map
          (attributeSilence (connective.governor subject))) := by
  have each :
      ∀ agent,
        attributeSilenceEach agent clauses =
          clauses.map (attributeSilence agent) := by
    intro agent
    induction clauses with
    | nil =>
        rfl
    | cons clause rest inductionHypothesis =>
        rw [attributeSilenceEach, inductionHypothesis, List.map_cons]
  rw [attributeSilence, each]

/-- A silence is attributed to whoever governs it. -/
theorem attributeSilence_silence
    (governor subject : Agent)
    (kind : Silence) :
    attributeSilence governor (.atomic subject (.silence kind)) =
      .atomic governor (.silence kind) := by
  rw [attributeSilence]

/-- Any other statement keeps its subject. -/
theorem attributeSilence_atomic
    {statement : Statement}
    (saysSomething : ∀ kind, statement ≠ .silence kind)
    (governor subject : Agent) :
    attributeSilence governor (.atomic subject statement) =
      .atomic subject statement := by
  cases statement with
  | silence kind => exact absurd rfl (saysSomething kind)
  | stance kind citation => rw [attributeSilence]; simp
  | disclosure kind target role => rw [attributeSilence]; simp
  | finding kind target species => rw [attributeSilence]; simp
  | deed kind target => rw [attributeSilence]; simp

/-- A silence is left without a subject. -/
theorem forgetSilent_silence
    (subject : Agent)
    (kind : Silence) :
    forgetSilent (.atomic subject (.silence kind)) =
      .atomic .unspecified (.silence kind) := by
  rw [forgetSilent]

/-- Any other statement is left as it is. -/
theorem forgetSilent_atomic
    {statement : Statement}
    (saysSomething : ∀ kind, statement ≠ .silence kind)
    (subject : Agent) :
    forgetSilent (.atomic subject statement) =
      .atomic subject statement := by
  cases statement with
  | silence kind => exact absurd rfl (saysSomething kind)
  | stance kind citation => rw [forgetSilent]; simp
  | disclosure kind target role => rw [forgetSilent]; simp
  | finding kind target species => rw [forgetSilent]; simp
  | deed kind target => rw [forgetSilent]; simp

/-- Only a silence loses its subject when silences are forgotten. -/
theorem subject_forgetSilent
    {content : Content}
    (notSilent : content.isSilence = false) :
    content.forgetSilent.subject = content.subject := by
  cases content with
  | atomic subject statement =>
      rcases statement.silence_or_not with ⟨kind, rfl⟩ | saysSomething
      · cases notSilent
      · rw [forgetSilent_atomic saysSomething]
  | joined subject connective clauses =>
      rw [forgetSilent_joined]
      rfl

/-- The subjects of silences are forgotten once and for all. -/
theorem forgetSilent_forgetSilent
    (content : Content) :
    content.forgetSilent.forgetSilent = content.forgetSilent := by
  induction content with
  | atomic subject statement =>
      rcases statement.silence_or_not with ⟨kind, rfl⟩ | saysSomething
      · rw [forgetSilent_silence, forgetSilent_silence]
      · rw [forgetSilent_atomic saysSomething,
          forgetSilent_atomic saysSomething]
  | joined subject connective clauses inductionHypothesis =>
      rw [forgetSilent_joined, forgetSilent_joined, List.map_map]
      congr 1
      exact List.map_congr_left inductionHypothesis

/-- Whoever silences were attributed to before, they are attributed anew. -/
theorem attributeSilence_forgetSilent
    (governor : Agent)
    (content : Content) :
    content.forgetSilent.attributeSilence governor =
      content.attributeSilence governor := by
  induction content generalizing governor with
  | atomic subject statement =>
      rcases statement.silence_or_not with ⟨kind, rfl⟩ | saysSomething
      · rw [forgetSilent_silence, attributeSilence_silence,
          attributeSilence_silence]
      · rw [forgetSilent_atomic saysSomething]
  | joined subject connective clauses inductionHypothesis =>
      rw [forgetSilent_joined, attributeSilence_joined,
        attributeSilence_joined, List.map_map]
      congr 1
      exact List.map_congr_left fun clause member =>
        inductionHypothesis clause member (connective.governor subject)

/-- A content and its silences attributed anew differ in the subjects of silences only. -/
theorem forgetSilent_attributeSilence
    (governor : Agent)
    (content : Content) :
    (content.attributeSilence governor).forgetSilent =
      content.forgetSilent := by
  induction content generalizing governor with
  | atomic subject statement =>
      rcases statement.silence_or_not with ⟨kind, rfl⟩ | saysSomething
      · rw [attributeSilence_silence, forgetSilent, forgetSilent]
      · rw [attributeSilence_atomic saysSomething]
  | joined subject connective clauses inductionHypothesis =>
      rw [attributeSilence_joined, forgetSilent_joined,
        forgetSilent_joined, List.map_map]
      congr 1
      exact List.map_congr_left fun clause member =>
        inductionHypothesis clause member (connective.governor subject)

/-- The line of a content does not tell whom its silences are attributed to. -/
theorem charsUnder_attributeSilence
    (reader governor : Agent)
    (content : Content) :
    charsUnder reader (content.attributeSilence governor) =
      charsUnder reader content := by
  induction content generalizing reader governor with
  | atomic subject statement =>
      rcases statement.silence_or_not with ⟨kind, rfl⟩ | saysSomething
      · simp [attributeSilence_silence, charsUnder, subjectChars,
          isSilence, bodyChars]
      · rw [attributeSilence_atomic saysSomething]
  | joined subject connective clauses inductionHypothesis =>
      have sameClauses :
          clausesChars (connective.governor subject)
              (clauses.map
                (attributeSilence (connective.governor subject))) =
            clausesChars (connective.governor subject) clauses := by
        rw [clausesChars_eq_flatMap, clausesChars_eq_flatMap,
          List.flatMap_map]
        simp only [List.flatMap_def]
        congr 1
        apply List.map_congr_left
        intro clause member
        rw [inductionHypothesis clause member]
      rw [attributeSilence_joined, charsUnder, charsUnder, bodyChars,
        bodyChars, sameClauses]
      rfl

/-- Completing a clause forgets nothing but what forgetting its silences forgets. -/
private theorem forgetSilent_governed
    {clause : Content}
    {governor : Agent}
    (withGovernor :
      (clause.withSubject governor).forgetSilent =
        (clause.forgetSilent.withSubject governor).forgetSilent) :
    (clause.governed governor).forgetSilent =
      (clause.forgetSilent.governed governor).forgetSilent := by
  by_cases ungoverned : governor = .unspecified
  · rw [ungoverned, governed_unspecified, governed_unspecified,
      forgetSilent_forgetSilent]
  · cases silent : clause.isSilence with
    | true =>
        -- Whoever a silence speaks for, it speaks for nobody once it is forgotten.
        cases clause with
        | atomic subject statement =>
            cases statement with
            | silence kind =>
                unfold governed
                split <;> split <;>
                  simp only [withSubject_atomic, state_eq, forgetSilent,
                    Statement.withTarget]
            | stance kind citation => cases silent
            | disclosure kind target role => cases silent
            | finding kind target species => cases silent
            | deed kind target => cases silent
        | joined subject connective clauses => cases silent
    | false =>
        have sameSubject := subject_forgetSilent silent
        unfold governed
        rw [sameSubject]
        split
        · exact withGovernor
        · exact (forgetSilent_forgetSilent clause).symm

/-- Another subject forgets nothing but what forgetting the silences forgets. -/
theorem forgetSilent_withSubject
    (subject : Agent)
    (content : Content) :
    (content.withSubject subject).forgetSilent =
      (content.forgetSilent.withSubject subject).forgetSilent := by
  induction content generalizing subject with
  | atomic former statement =>
      rcases statement.silence_or_not with ⟨kind, rfl⟩ | saysSomething
      · rw [forgetSilent_silence, withSubject_atomic, withSubject_atomic,
          state_eq]
      · rw [forgetSilent_atomic saysSomething]
  | joined former connective clauses inductionHypothesis =>
      rw [forgetSilent_joined, withSubject_joined, withSubject_joined,
        join_eq, join_eq, forgetSilent_joined, forgetSilent_joined,
        List.map_map, List.map_map, List.map_map]
      congr 1
      apply List.map_congr_left
      intro clause member
      apply forgetSilent_governed
      exact inductionHypothesis clause member _

/-- Joining forgets nothing but what forgetting the silences of the clauses forgets. -/
theorem forgetSilent_join
    (subject : Agent)
    (connective : Connective)
    (clauses : List Content) :
    (join subject connective clauses).forgetSilent =
      (join subject connective
        (clauses.map forgetSilent)).forgetSilent := by
  have another :=
    forgetSilent_withSubject subject (.joined subject connective clauses)
  rw [forgetSilent_joined, withSubject_joined,
    withSubject_joined] at another
  exact another

/-- A clause that has been completed is complete. -/
theorem governed_governed
    (governor : Agent)
    (clause : Content) :
    (clause.governed governor).governed governor =
      clause.governed governor := by
  by_cases inherits :
      clause.subject = .unspecified ∧ governor ≠ .unspecified
  · have completed :
        clause.governed governor = clause.withSubject governor :=
      if_pos inherits
    rw [completed]
    exact governed_of_subject governor
      (by rw [subject_withSubject]; exact inherits.2)
  · have unchanged : clause.governed governor = clause :=
      if_neg inherits
    rw [unchanged, unchanged]

/-- Completion below a node that has no subject yet is undone by none that follows. -/
theorem governed_governor_unspecified
    (connective : Connective)
    (subject : Agent)
    (clause : Content) :
    (clause.governed (connective.governor .unspecified)).governed
        (connective.governor subject) =
      clause.governed (connective.governor subject) := by
  cases named : connective.target? with
  | none =>
      rw [Connective.governor_of_no_target? named,
        Connective.governor_of_no_target? named, governed_unspecified]
  | some target =>
      rw [Connective.governor_of_target? named,
        Connective.governor_of_target? named]
      exact governed_governed target clause

/-- Changing clauses without changing their heights keeps the largest height. -/
private theorem heightOfEach_map
    {change : Content → Content}
    {clauses : List Content}
    (same : ∀ clause ∈ clauses, (change clause).height = clause.height) :
    heightOfEach (clauses.map change) = heightOfEach clauses := by
  induction clauses with
  | nil =>
      rfl
  | cons clause rest inductionHypothesis =>
      rw [List.forall_mem_cons] at same
      rw [List.map_cons, heightOfEach, heightOfEach, same.1,
        inductionHypothesis same.2]

/-- Joining clauses whose completion keeps their heights adds one level. -/
private theorem height_join_of_governed
    {clauses : List Content}
    (same :
      ∀ clause ∈ clauses,
        ∀ governor, (clause.governed governor).height = clause.height)
    (subject : Agent)
    (connective : Connective) :
    (join subject connective clauses).height = 1 + heightOfEach clauses := by
  rw [join_eq, height,
    heightOfEach_map fun clause member => same clause member _]

private theorem height_governed
    (governor : Agent)
    (clause : Content) :
    (clause.governed governor).height = clause.height := by
  induction clause generalizing governor with
  | atomic subject statement =>
      unfold governed
      split <;> rfl
  | joined subject connective clauses inductionHypothesis =>
      unfold governed
      split
      · rw [withSubject_joined,
          height_join_of_governed fun clause member governor =>
            inductionHypothesis clause member governor]
        rfl
      · rfl

/-- Joined clauses are one level higher than the clauses before they were joined. -/
theorem height_join
    (subject : Agent)
    (connective : Connective)
    (clauses : List Content) :
    (join subject connective clauses).height = 1 + heightOfEach clauses :=
  height_join_of_governed (fun clause _ governor =>
    height_governed governor clause) subject connective

end Content

end WerewolfSpeech
