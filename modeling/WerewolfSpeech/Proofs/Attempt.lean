import Mathlib.Data.List.Forall2

namespace WerewolfSpeech.Attempt

/-!
# Attempts in sequence

Reading and building are attempts that end with the first failure. These are the facts
about a sequence of attempts that both of them use.
-/

variable {Failure Given Result Final : Type}

/-- Two attempts succeed when the second one does on what the first one gave. -/
theorem bind_eq_ok_iff
    {first : Except Failure Given}
    {next : Given → Except Failure Result}
    {result : Result} :
    (first >>= next) = .ok result ↔
      ∃ given, first = .ok given ∧ next given = .ok result := by
  cases first <;> simp [bind, Except.bind]

/-- Two attempts fail as the first one does, or as the second does on what the first gave. -/
theorem bind_eq_error_iff
    {first : Except Failure Given}
    {next : Given → Except Failure Result}
    {failure : Failure} :
    (first >>= next) = .error failure ↔
      first = .error failure ∨
        ∃ given, first = .ok given ∧ next given = .error failure := by
  cases first <;> simp [bind, Except.bind]

/-- Attempts that succeed with results that agree with something succeed together. -/
theorem exists_mapM_map
    {items : List Given}
    {attempt : Given → Except Failure Result}
    {outcome : Result → Final}
    {expected : Given → Final}
    (succeed :
      ∀ item ∈ items, ∃ result,
        attempt item = .ok result ∧ outcome result = expected item) :
    ∃ results,
      items.mapM attempt = .ok results ∧
        List.map outcome results = items.map expected := by
  induction items with
  | nil =>
      exact ⟨[], rfl, rfl⟩
  | cons item rest inductionHypothesis =>
      obtain ⟨first, firstSucceeds, firstAgrees⟩ :=
        succeed item List.mem_cons_self
      obtain ⟨others, restSucceeds, restAgrees⟩ :=
        inductionHypothesis fun later member =>
          succeed later (List.mem_cons_of_mem item member)
      refine ⟨first :: others, ?_, ?_⟩
      · rw [List.mapM_cons, firstSucceeds, restSucceeds]
        rfl
      · rw [List.map_cons, firstAgrees, restAgrees, List.map_cons]

/-- Attempts that all succeed give the list of their results. -/
theorem mapM_of_ok
    {items : List Given}
    {attempt : Given → Except Failure Result}
    {result : Given → Result}
    (succeed : ∀ item ∈ items, attempt item = .ok (result item)) :
    items.mapM attempt = .ok (items.map result) := by
  obtain ⟨results, together, agree⟩ :=
    exists_mapM_map fun item member =>
      ⟨result item, succeed item member, id_eq (result item)⟩
  rw [List.map_id] at agree
  rw [together, agree]

/-- Attempts that succeed one by one succeed together. -/
theorem exists_mapM
    {items : List Given}
    {attempt : Given → Except Failure Result}
    (succeed : ∀ item ∈ items, ∃ result, attempt item = .ok result) :
    ∃ results, items.mapM attempt = .ok results := by
  obtain ⟨results, together, _⟩ :=
    exists_mapM_map fun item member =>
      (succeed item member).imp fun _ succeeds =>
        ⟨succeeds, Eq.refl ()⟩
  exact ⟨results, together⟩

/-- Results that came out together came out one by one. -/
theorem ok_of_mapM
    {items : List Given}
    {attempt : Given → Except Failure Result}
    {results : List Result}
    (succeeds : items.mapM attempt = .ok results) :
    List.length results = items.length ∧
      (∀ item ∈ items, ∃ result, attempt item = .ok result) ∧
      ∀ result ∈ results, ∃ item ∈ items, attempt item = .ok result := by
  induction items generalizing results with
  | nil =>
      cases succeeds
      simp
  | cons item rest inductionHypothesis =>
      rw [List.mapM_cons] at succeeds
      obtain ⟨first, firstSucceeds, succeeds⟩ :=
        bind_eq_ok_iff.mp succeeds
      obtain ⟨others, restSucceeds, shape⟩ :=
        bind_eq_ok_iff.mp succeeds
      cases shape
      obtain ⟨sameLength, each, origin⟩ :=
        inductionHypothesis restSucceeds
      refine ⟨by simp [sameLength], ?_, ?_⟩
      · intro other member
        rcases List.mem_cons.mp member with isItem | inRest
        · subst other
          exact ⟨first, firstSucceeds⟩
        · exact each other inRest
      · intro result member
        rcases List.mem_cons.mp member with isFirst | inOthers
        · subst result
          exact ⟨item, List.mem_cons_self, firstSucceeds⟩
        · obtain ⟨source, inRest, succeedsThere⟩ :=
            origin result inOthers
          exact ⟨source, List.mem_cons_of_mem item inRest,
            succeedsThere⟩

/-- Each attempt has its result among those that came out together. -/
theorem exists_mem_of_mapM
    {items : List Given}
    {attempt : Given → Except Failure Result}
    {results : List Result}
    (succeeds : items.mapM attempt = .ok results) :
    ∀ item ∈ items, ∃ result ∈ results, attempt item = .ok result := by
  induction items generalizing results with
  | nil =>
      simp
  | cons item rest inductionHypothesis =>
      rw [List.mapM_cons] at succeeds
      obtain ⟨first, firstSucceeds, succeeds⟩ :=
        bind_eq_ok_iff.mp succeeds
      obtain ⟨others, restSucceeds, shape⟩ :=
        bind_eq_ok_iff.mp succeeds
      cases shape
      intro other member
      rcases List.mem_cons.mp member with rfl | inRest
      · exact ⟨first, List.mem_cons_self, firstSucceeds⟩
      · obtain ⟨result, inOthers, succeedsThere⟩ :=
          inductionHypothesis restSucceeds other inRest
        exact ⟨result, List.mem_cons_of_mem first inOthers, succeedsThere⟩

/-- Attempts that have the same outcome one by one have it together. -/
theorem mapM_congr
    {items : List Given}
    {attempt other : Given → Except Failure Result}
    (alike : ∀ item ∈ items, attempt item = other item) :
    items.mapM attempt = items.mapM other := by
  induction items with
  | nil =>
      rfl
  | cons item rest inductionHypothesis =>
      have restAlike :=
        inductionHypothesis fun later member =>
          alike later (List.mem_cons_of_mem item member)
      rw [List.mapM_cons, List.mapM_cons, alike item List.mem_cons_self,
        restAlike]

/-- Two lists of items that have the same outcomes one by one have them together. -/
theorem mapM_of_forall₂
    {attempt : Given → Except Failure Result}
    {items others : List Given}
    (alike :
      List.Forall₂ (fun item other => attempt item = attempt other)
        items others) :
    items.mapM attempt = others.mapM attempt := by
  induction alike with
  | nil =>
      rfl
  | cons same _ inductionHypothesis =>
      rw [List.mapM_cons, List.mapM_cons, same, inductionHypothesis]

/-- Of items that fail together one fails alone. -/
theorem exists_error_of_mapM
    {items : List Given}
    {attempt : Given → Except Failure Result}
    {failure : Failure}
    (fails : items.mapM attempt = .error failure) :
    ∃ item ∈ items, attempt item = .error failure := by
  induction items with
  | nil =>
      cases fails
  | cons item rest inductionHypothesis =>
      rw [List.mapM_cons] at fails
      rcases bind_eq_error_iff.mp fails with
          failsHere | ⟨first, _, restFails⟩
      · exact ⟨item, List.mem_cons_self, failsHere⟩
      · rcases bind_eq_error_iff.mp restFails with
            failsLater | ⟨others, _, impossible⟩
        · obtain ⟨later, member, failsThere⟩ :=
            inductionHypothesis failsLater
          exact ⟨later, List.mem_cons_of_mem item member, failsThere⟩
        · cases impossible

/-- What is done with each result can be done when all of them are there. -/
theorem mapM_map_result
    (items : List Given)
    (attempt : Given → Except Failure Result)
    (convert : Result → Final) :
    (items.mapM fun item => convert <$> attempt item) =
      List.map convert <$> items.mapM attempt := by
  induction items with
  | nil =>
      rfl
  | cons item rest inductionHypothesis =>
      simp only [List.mapM_cons, inductionHypothesis, map_bind, map_pure,
        bind_map_left, List.map_cons]

/-- If every attempt that fails fails alike and one does, so does the sequence. -/
theorem mapM_of_error
    {items : List Given}
    {attempt : Given → Except Failure Result}
    {failure : Failure}
    (alike :
      ∀ item ∈ items,
        (∃ result, attempt item = .ok result) ∨
          attempt item = .error failure)
    (fails : ∃ item ∈ items, attempt item = .error failure) :
    items.mapM attempt = .error failure := by
  induction items with
  | nil =>
      simp at fails
  | cons item rest inductionHypothesis =>
      rw [List.mapM_cons]
      rcases alike item List.mem_cons_self with
          ⟨result, succeeds⟩ | failsHere
      · have restFails :
            ∃ later ∈ rest, attempt later = .error failure := by
          rcases fails with ⟨later, member, failsThere⟩
          rcases List.mem_cons.mp member with isItem | inRest
          · subst later
            rw [succeeds] at failsThere
            cases failsThere
          · exact ⟨later, inRest, failsThere⟩
        have restResult :=
          inductionHypothesis
            (fun later member =>
              alike later (List.mem_cons_of_mem item member))
            restFails
        rw [succeeds, restResult]
        rfl
      · rw [failsHere]
        rfl

/-- What two attempts give, if it does not matter how they fail. -/
theorem toOption_bind
    (first : Except Failure Given)
    (next : Given → Except Failure Result) :
    (first >>= next).toOption =
      first.toOption.bind fun given => (next given).toOption := by
  cases first <;> rfl

/-- Attempts that give the same one by one give the same together, however they fail. -/
theorem toOption_mapM_congr
    {items : List Given}
    {attempt other : Given → Except Failure Result}
    (alike :
      ∀ item ∈ items, (attempt item).toOption = (other item).toOption) :
    (items.mapM attempt).toOption = (items.mapM other).toOption := by
  induction items with
  | nil =>
      rfl
  | cons item rest inductionHypothesis =>
      have restAlike :=
        inductionHypothesis fun later member =>
          alike later (List.mem_cons_of_mem item member)
      simp only [List.mapM_cons, toOption_bind,
        alike item List.mem_cons_self, restAlike]

end WerewolfSpeech.Attempt
