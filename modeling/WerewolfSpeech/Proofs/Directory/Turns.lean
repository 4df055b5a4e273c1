import WerewolfSpeech.Proofs.Directory.Session
import WerewolfSpeech.Proofs.Reading.Survival

namespace WerewolfSpeech.Directory

/-!
# What turns leave in a directory

Nothing is entered while a line is read. When it has been read, everyone is entered whom the
content mentions, and a line that cannot be read enters nobody. So a run of turns adds the
participants of the contents that it returned, each with the second at which it came up
first, and the order of the turns does not matter to who is listed in the end.
-/

/-- A line that is said in a session, and what the clock says when an agent is entered. -/
structure Turn extends Query where
  clock : Agent → Nat

/-- The call by which the line of a turn is read. -/
def Turn.call
    (turn : Turn) :
    Call :=
  ⟨.line turn.toQuery, turn.clock⟩

/-- The participants of what a line is read as survive in the text. -/
private theorem Query.mem_agents_iff
    {query : Query}
    {content : Content}
    {agent : Agent}
    (returns : query.result = .ok content) :
    agent ∈ content.agents ↔
      agent.isConcrete = true ∧
        Reading.Survives query.maxDepth query.maxDepth query.text.toList
          agent := by
  have isLenient :
      Content.readOrSkip query.maxDepth query.text = content := by
    unfold Query.result at returns
    split at returns
    · exact Content.readOrSkip_of_read returns
    · exact Except.ok.inj returns
  rw [← isLenient]
  exact Content.mem_agents_readOrSkip

/-- A line enters the participants of the content that it is read as. -/
private theorem Query.mem_entered_iff
    {query : Query}
    {agent : Agent} :
    agent ∈ query.entered ↔
      ∃ content, query.result = .ok content ∧ agent ∈ content.agents := by
  unfold Query.entered
  cases query.result <;> simp

/-- Turns are answered with what each line is read as by itself. -/
private theorem answers_performAll
    (directory : Directory)
    (turns : List Turn) :
    (directory.performAll (turns.map Turn.call)).1 =
      turns.map fun turn => .content turn.result := by
  induction turns generalizing directory with
  | nil => rfl
  | cons turn rest inductionHypothesis =>
      have answer :
          (directory.perform turn.call).1 = .content turn.result := by
        simp only [perform, Turn.call, readLine_eq]
        rfl
      rw [List.map_cons, performAll_cons, inductionHypothesis, answer,
        List.map_cons]

/-- The indices that come up in turns are those of the participants of what is returned. -/
private theorem cameUp_map_call
    {turns : List Turn}
    {index : UInt32} :
    CameUp (turns.map Turn.call) index ↔
      ∃ content,
        Answer.content (.ok content) ∈
            turns.map (fun turn => .content turn.result) ∧
          ∃ agent ∈ content.agents, agent.index = index := by
  simp only [CameUp, List.mem_map, Answer.content.injEq]
  constructor
  · rintro ⟨_, ⟨turn, member, rfl⟩, agent, entered, sameIndex⟩
    obtain ⟨content, returns, mentioned⟩ :=
      Query.mem_entered_iff.mp entered
    exact ⟨content, ⟨turn, member, returns⟩, agent, mentioned, sameIndex⟩
  · rintro ⟨content, ⟨turn, member, returns⟩, agent, mentioned, sameIndex⟩
    exact ⟨turn.call, ⟨turn, member, rfl⟩, agent,
      Query.mem_entered_iff.mpr ⟨content, returns, mentioned⟩, sameIndex⟩

/-- A text that is not read enters nobody, neither strictly nor leniently. -/
private theorem perform_of_error
    {turn : Turn}
    {diagnosis : Diagnosis}
    (fails :
      Reading.within Content turn.mode turn.maxDepth turn.maxDepth
        turn.text.toList = .error diagnosis)
    (directory : Directory) :
    (directory.perform turn.call).2 = directory := by
  have nobody : turn.entered = [] := by
    rcases turn with ⟨⟨mode, maxDepth, text⟩, clock⟩
    cases mode with
    | strict =>
        have refused : Content.read maxDepth text = .error diagnosis := fails
        simp only [Query.entered, Query.result, refused]
    | lenient =>
        have skipped : Content.readOrSkip maxDepth text = .skip := by
          unfold Content.readOrSkip Reading.leniently
          rw [fails]
          rfl
        simp only [Query.entered, Query.result, skipped]
        rfl
  rw [perform_eq_enterEach]
  change directory.enterEach turn.clock turn.entered = directory
  rw [nobody]
  rfl

/-- What is in the directory after a run of turns that were answered so. -/
structure Records
    (before : Directory)
    (turns : List Turn)
    (answers : List Answer)
    (after : Directory) :
    Prop where
  /-- The agents known afterwards were known before or are participants of a content. -/
  known :
    ∀ index,
      (after.get? index).isSome = true ↔
        (before.get? index).isSome = true ∨
          ∃ content,
            .content (.ok content) ∈ answers ∧
              ∃ agent ∈ content.agents, agent.index = index
  /-- No entry is changed or removed. -/
  kept :
    ∀ index entry,
      before.get? index = some entry → after.get? index = some entry
  /-- No stand-in is entered. -/
  concrete :
    ∀ index entry,
      before.get? index = none →
        after.get? index = some entry → entry.agent.isConcrete = true
  /-- All entries are listed in strictly ascending order. -/
  ascending :
    after.entries.Pairwise
      fun first second => first.agent.index < second.agent.index
  /-- The list holds every entry and nothing else. -/
  listed :
    ∀ entry,
      entry ∈ after.entries ↔ after.get? entry.agent.index = some entry
  /-- The same lines in another order, at whatever times, leave the same labels. -/
  permuted :
    ∀ others : List Turn,
      (turns.map (·.toQuery)).Perm (others.map (·.toQuery)) →
        (before.performAll (others.map Turn.call)).2.labels = after.labels
  /-- A turn whose text is not read, strictly or leniently, leaves everything as it was. -/
  unread :
    ∀ turn ∈ turns,
      ∀ diagnosis,
        Reading.within Content turn.mode turn.maxDepth turn.maxDepth
            turn.text.toList = .error diagnosis →
          ∀ directory : Directory,
            (directory.perform turn.call).2 = directory
  /-- The participants of a content are those that are written outside skipped clauses. -/
  survived :
    ∀ turn content,
      (turn, .content (.ok content)) ∈ turns.zip answers →
        ∀ agent,
          agent ∈ content.agents ↔
            agent.isConcrete = true ∧
              Reading.Survives turn.maxDepth turn.maxDepth
                turn.text.toList agent

/--
Whatever a session knows, any turns in any mixture of modes and limits add the participants
of the contents that they return, and nobody else.
-/
theorem performAll_records
    (directory : Directory)
    (turns : List Turn) :
    directory.Records turns
      (directory.performAll (turns.map Turn.call)).1
      (directory.performAll (turns.map Turn.call)).2 := by
  have known (others : List Turn) (index : UInt32) :=
    (isSome_get?_performAll directory (others.map Turn.call) index).trans
      (or_congr_right cameUp_map_call)
  rw [answers_performAll]
  refine
    { known := known turns
      kept := keeps_performAll directory (turns.map Turn.call)
      concrete := ?concrete
      ascending := pairwise_entries _
      listed := fun _ => mem_entries_iff
      permuted := ?permuted
      unread := fun _ _ _ => perform_of_error
      survived := ?survived }
  case concrete =>
    intro index entry unknown stands
    have isKnown := Option.isSome_of_eq_some stands
    rcases (known turns index).mp isKnown with
        wasKnown | ⟨content, _, agent, mentioned, sameIndex⟩
    · rw [unknown] at wasKnown
      cases wasKnown
    · have same : entry.agent = agent :=
        Agent.eq_of_index ((index_and_label stands).1.trans sameIndex.symm)
      rw [same]
      exact (Content.mem_agents.mp mentioned).1
  case permuted =>
    intro others permuted
    refine labels_congr fun index => ?_
    have sameAnswers :
        (turns.map fun turn => Answer.content turn.result).Perm
          (others.map fun turn => .content turn.result) := by
      simpa [Function.comp_def] using
        permuted.map fun query => Answer.content query.result
    simp only [known, sameAnswers.mem_iff]
  case survived =>
    intro turn content member agent
    have paired :
        turns.zip (turns.map fun turn => Answer.content turn.result) =
          turns.map fun turn => (turn, .content turn.result) := by
      calc turns.zip (turns.map fun turn => Answer.content turn.result)
        _ = (turns.map id).zip
              (turns.map fun turn => Answer.content turn.result) := by
            rw [List.map_id]
        _ = turns.map fun turn => (turn, .content turn.result) :=
            List.zip_map'
    rw [paired] at member
    obtain ⟨source, _, same⟩ := List.mem_map.mp member
    obtain ⟨rfl, returns⟩ := Prod.mk.inj same
    exact Query.mem_agents_iff (Answer.content.inj returns)

/-- A contrary that is too deep is refused first, and then it loses its clause. -/
theorem performAll_records_contrary :
    let text := "Agent[03] NOT (Agent[09] VOTE Agent[04])"
    let turns : List Turn :=
      [⟨⟨.strict, 0, text⟩, fun _ => 200⟩, ⟨⟨.lenient, 0, text⟩, fun _ => 300⟩]
    let before := (empty.enter (fun _ => 100) ⟨4⟩).2
    before.Records turns (before.performAll (turns.map Turn.call)).1
        (before.performAll (turns.map Turn.call)).2 ∧
      (before.performAll (turns.map Turn.call)).2.entries =
        [⟨⟨3⟩, "Agent[03]", 300⟩, ⟨⟨4⟩, "Agent[04]", 100⟩] := by
  intro text turns before
  refine ⟨performAll_records before turns, ?_⟩
  let content :=
    Content.not ⟨3⟩ (.state ⟨9⟩ (.deed .vote ⟨4⟩))
  have wellFormed : content.WellFormed Agent.Admissible := by
    refine .join Agent.admissible_anyone ?_ (by simp [Connective.target?])
      rfl ?_
    · unfold Agent.Admissible
      decide
    · intro clause member
      cases List.mem_singleton.mp member
      refine .state Agent.admissible_anyone ?_ ?_
      · unfold Agent.Admissible
        decide
      · rintro target ⟨⟩
        unfold Agent.Admissible
        decide
  have spoken : content.text = text := by
    decide
  have refused : Content.read 0 text = .error (.depthExceeded 0) := by
    rw [← spoken]
    exact Content.read_text_of_high wellFormed (by decide)
  have degraded :
      Content.readOrSkip 0 text =
        (content.cut 1).attributeSilence .unspecified := by
    rw [← spoken]
    exact Content.readOrSkip_text wellFormed 0
  have filed :
      (before.performAll (turns.map Turn.call)).2.filed =
        [(3, ⟨⟨3⟩, "Agent[03]", 300⟩), (4, ⟨⟨4⟩, "Agent[04]", 100⟩)] := by
    simp only [turns, List.map_cons, List.map_nil, Turn.call, performAll,
      perform, readLine, read, readOrSkip, refused, degraded]
    decide
  rw [entries, filed]
  exact List.mergeSort_of_pairwise (by decide)

end WerewolfSpeech.Directory
