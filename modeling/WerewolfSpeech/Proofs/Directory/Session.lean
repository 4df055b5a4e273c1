import WerewolfSpeech.Proofs.Content.Participant
import WerewolfSpeech.Proofs.Directory.Filing
import WerewolfSpeech.Proofs.Reading.Mention

namespace WerewolfSpeech.Directory

/-!
# What can be relied on in a directory

A call enters agents in the directory and does nothing else. So after a run of calls the
entries are those that were there and those of the agents that came up, and because every
agent is read from its own label, these are found by label as well as by index.
-/

namespace Query

/-- What a line is read as in its mode. -/
def result
    (query : Query) :
    Except Diagnosis Content :=
  match query.mode with
  | .strict => Content.read query.maxDepth query.text
  | .lenient => .ok (Content.readOrSkip query.maxDepth query.text)

/-- What a line is read as is well-formed. -/
private theorem wellFormed_of_result
    {query : Query}
    {content : Content}
    (returns : query.result = .ok content) :
    content.WellFormed Agent.Admissible := by
  rcases query with ⟨mode, maxDepth, text⟩
  cases mode with
  | strict => exact Content.wellFormed_of_read returns
  | lenient =>
      cases returns
      exact Content.wellFormed_readOrSkip maxDepth text

end Query

/-- Whom a line enters: everyone whom it mentions, or nobody if it is not read. -/
def Query.entered
    (query : Query) :
    List Agent :=
  match query.result with
  | .ok content => content.agents
  | .error _ => []

/-- Reading a line returns what it is read as, and enters whom that mentions. -/
theorem readLine_eq
    (clock : Agent → Nat)
    (directory : Directory)
    (query : Query) :
    directory.readLine clock query =
      (query.result, directory.enterEach clock query.entered) := by
  unfold readLine Query.entered Query.result
  cases query.mode with
  | strict =>
      unfold read
      cases Content.read query.maxDepth query.text with
      | ok content => rfl
      | error diagnosis => rfl
  | lenient => rfl

namespace Call

/-- The agents that are entered for a call. -/
def entered
    (call : Call) :
    List Agent :=
  match call.request with
  | .index index => (Agent.ofIndex? index).toList
  | .agent agent => [agent]
  | .line query => query.entered

/-- The agent that the call hands in, if it does, has an admissible index. -/
def Admissible
    (call : Call) :
    Prop :=
  ∀ agent, call.request = .agent agent → agent.Admissible

/-- Only agents with an admissible index are entered for an admissible call. -/
private theorem Admissible.of_mem_entered
    {call : Call}
    (admissible : call.Admissible)
    {agent : Agent}
    (member : agent ∈ call.entered) :
    agent.Admissible := by
  rcases call with ⟨request, clock⟩
  cases request with
  | index index =>
      have found := Option.mem_toList.mp member
      unfold Agent.ofIndex? at found
      split at found
      · next small =>
          cases found
          exact small
      · cases found
  | agent handed =>
      rw [entered, List.mem_singleton] at member
      subst member
      exact admissible agent rfl
  | line query =>
      simp only [entered, Query.entered] at member
      cases returns : query.result with
      | error diagnosis =>
          simp [returns] at member
      | ok content =>
          rw [returns] at member
          exact (Query.wellFormed_of_result returns).admits_of_mem_mentions
            (Content.mem_agents.mp member).2

end Call

/-- A call enters agents and does nothing else. -/
theorem perform_eq_enterEach
    (directory : Directory)
    (call : Call) :
    (directory.perform call).2 =
      directory.enterEach call.clock call.entered := by
  rcases call with ⟨request, clock⟩
  cases request with
  | index index =>
      simp only [perform, enterIndex, Call.entered]
      cases Agent.ofIndex? index with
      | some agent => rfl
      | none => rfl
  | agent agent => rfl
  | line query =>
      simp only [perform, readLine_eq]
      rfl

/-- A call that fails enters nobody. -/
private theorem entered_of_isFailure
    {directory : Directory}
    {call : Call}
    (fails : (directory.perform call).1.isFailure = true) :
    call.entered = [] := by
  rcases call with ⟨request, clock⟩
  cases request with
  | index index =>
      simp only [perform, enterIndex] at fails
      cases found : Agent.ofIndex? index with
      | some agent =>
          rw [found] at fails
          cases fails
      | none => simp [Call.entered, found]
  | agent agent => cases fails
  | line query =>
      simp only [perform, readLine_eq] at fails
      simp only [Call.entered, Query.entered]
      cases returns : query.result with
      | ok content =>
          rw [returns] at fails
          cases fails
      | error diagnosis => rfl

/-- An index came up in a session if one of the calls entered the agent that has it. -/
def CameUp
    (calls : List Call)
    (index : UInt32) :
    Prop :=
  ∃ call ∈ calls, ∃ agent ∈ call.entered, agent.index = index

/-- The directory after a first call and others. -/
theorem performAll_cons
    (directory : Directory)
    (call : Call)
    (rest : List Call) :
    directory.performAll (call :: rest) =
      ((directory.perform call).1 ::
          ((directory.perform call).2.performAll rest).1,
        ((directory.perform call).2.performAll rest).2) :=
  rfl

/-- A run of calls adds the indices that come up in it. -/
theorem isSome_get?_performAll
    (directory : Directory)
    (calls : List Call)
    (index : UInt32) :
    ((directory.performAll calls).2.get? index).isSome = true ↔
      (directory.get? index).isSome = true ∨ CameUp calls index := by
  induction calls generalizing directory with
  | nil => simp [performAll, CameUp]
  | cons call rest inductionHypothesis =>
      rw [performAll_cons, inductionHypothesis, perform_eq_enterEach,
        isSome_get?_enterEach, or_assoc]
      simp [CameUp]

/-- A run of calls keeps all entries. -/
theorem keeps_performAll
    (directory : Directory)
    (calls : List Call) :
    directory.Keeps (directory.performAll calls).2 := by
  induction calls generalizing directory with
  | nil => exact .refl directory
  | cons call rest inductionHypothesis =>
      have keepsFirst : directory.Keeps (directory.perform call).2 := by
        rw [perform_eq_enterEach]
        exact .enterEach call.clock directory call.entered
      exact keepsFirst.trans (inductionHypothesis _)

private theorem isSome_get?_empty
    {index : UInt32} :
    (empty.get? index).isSome = true ↔ False := by
  simp [empty, get?]

/-- A last call finds the directory that the calls before it leave. -/
private theorem performAll_concat
    (directory : Directory)
    (calls : List Call)
    (last : Call) :
    (directory.performAll (calls ++ [last])).2 =
      ((directory.performAll calls).2.perform last).2 := by
  induction calls generalizing directory with
  | nil => rfl
  | cons call rest inductionHypothesis =>
      rw [List.cons_append, performAll_cons, performAll_cons,
        inductionHypothesis]

/-- Every directory is what some session leaves. -/
theorem exists_performAll
    (directory : Directory) :
    ∃ calls, (empty.performAll calls).2 = directory := by
  rcases directory with ⟨filed, distinct, keyed⟩
  induction filed with
  | nil => exact ⟨[], rfl⟩
  | cons newest older inductionHypothesis =>
      rcases newest with ⟨key, agent, label, second⟩
      obtain ⟨sameIndex, sameLabel⟩ := keyed key _ List.mem_cons_self
      change label = agent.label at sameLabel
      subst key label
      obtain ⟨isNew, olderDistinct⟩ := List.nodup_cons.mp distinct
      obtain ⟨calls, left⟩ :=
        inductionHypothesis olderDistinct fun key entry member =>
          keyed key entry (List.mem_cons_of_mem _ member)
      refine ⟨calls ++ [⟨.agent agent, fun _ => second⟩], ?_⟩
      rw [performAll_concat, left]
      change (enter _ _ agent).2 = _
      unfold enter
      split
      · next entry stands =>
          exact absurd
            (List.mem_map_of_mem (mem_filed_iff.mpr stands)) isNew
      · rfl

/-- What can be relied on in the directory that a session leaves. -/
structure Serves
    (directory : Directory)
    (calls : List Call) :
    Prop where
  /-- Under a key is filed the agent that has it as its index, with the label of the agent. -/
  keyed :
    ∀ key entry,
      (key, entry) ∈ directory.filed →
        entry.agent.index = key ∧ entry.label = entry.agent.label
  /-- An index is known if its agent came up, and only then. -/
  known :
    ∀ index,
      (directory.get? index).isSome = true ↔ CameUp calls index
  /-- An agent is found under what is read as it, if it came up. -/
  found :
    ∀ label agent,
      directory.lookup label = .ok (some agent) ↔
        Agent.ofTrimmed label = .ok agent ∧ CameUp calls agent.index
  /-- Nobody is found under what is read as an agent that did not come up. -/
  missing :
    ∀ label,
      directory.lookup label = .ok none ↔
        ∃ agent,
          Agent.ofTrimmed label = .ok agent ∧ ¬ CameUp calls agent.index
  /-- Whatever is not read as an agent is refused for that reason. -/
  refused :
    ∀ label error,
      directory.lookup label = .error error ↔
        Agent.ofTrimmed label = .error error
  /-- An agent is found under its own label, whatever blanks and zeros are added to it. -/
  labelled :
    ∀ entry ∈ directory.entries,
      ∀ before behind : List Char,
        (∀ character ∈ before, Text.isBlank character = true) →
          (∀ character ∈ behind, Text.isBlank character = true) →
            directory.lookup
                (String.ofList before ++ entry.label ++ String.ofList behind) =
              .ok (some entry.agent) ∧
            ∀ zeros,
              directory.lookup
                  (String.ofList before ++
                    Agent.inBrackets
                      (List.replicate zeros '0' ++
                        Numeral.digits entry.agent.index.toNat) ++
                      String.ofList behind) =
                .ok (some entry.agent)
  /-- The list of all entries holds what stands under the indices. -/
  listed :
    ∀ entry,
      entry ∈ directory.entries ↔
        directory.get? entry.agent.index = some entry
  /-- All entries are listed in strictly ascending order. -/
  ascending :
    directory.entries.Pairwise
      fun first second => first.agent.index < second.agent.index
  /-- The size is the number of entries that are listed. -/
  size_eq : directory.size = directory.entries.length
  /-- Whoever is entered is returned. -/
  returned :
    ∀ clock agent, (directory.enter clock agent).1 = agent
  /-- A call that fails changes nothing. -/
  unchanged :
    ∀ call,
      (directory.perform call).1.isFailure = true →
        (directory.perform call).2 = directory
  /-- No call that follows changes or removes an entry. -/
  kept :
    ∀ later index entry,
      directory.get? index = some entry →
        (directory.performAll later).2.get? index = some entry

/-- Whoever came up in a session of admissible calls is admissible. -/
theorem CameUp.admissible
    {calls : List Call}
    (admissible : ∀ call ∈ calls, call.Admissible)
    {agent : Agent}
    (cameUp : CameUp calls agent.index) :
    agent.Admissible := by
  obtain ⟨call, member, entered, isEntered, sameIndex⟩ := cameUp
  rw [← Agent.eq_of_index sameIndex]
  exact (admissible call member).of_mem_entered isEntered

/--
Whatever calls a session makes, an entry is found by the index and by the labels of its
agent from the call on that entered the agent first, and it stays as it is.
-/
theorem performAll_serves
    {calls : List Call}
    (admissible : ∀ call ∈ calls, call.Admissible) :
    (empty.performAll calls).2.Serves calls := by
  have known (index : UInt32) :
      ((empty.performAll calls).2.get? index).isSome = true ↔
        CameUp calls index := by
    rw [isSome_get?_performAll, isSome_get?_empty, false_or]
  -- How the directory came about does not matter from here on.
  generalize (empty.performAll calls).2 = directory at known
  refine
    { keyed := directory.keyed
      known := known
      found := ?found
      missing := ?missing
      refused := fun label error => lookup_eq_error_iff
      labelled := ?labelled
      listed := fun entry => mem_entries_iff
      ascending := pairwise_entries directory
      size_eq := size_eq_length_entries directory
      returned := fun clock => enter_fst clock directory
      unchanged := ?unchanged
      kept := keeps_performAll directory }
  case found =>
    intro label agent
    rw [lookup_eq_some_iff, known]
  case missing =>
    intro label
    simp only [lookup_eq_none_iff, known]
  case labelled =>
    intro entry member before behind blankBefore blankBehind
    have stands := mem_entries_iff.mp member
    have isKnown := Option.isSome_of_eq_some stands
    have mayBeRead : entry.agent.Admissible :=
      ((known _).mp isKnown).admissible admissible
    have isFound
        {word : List Char}
        (succeeds : Agent.ofWord word = .ok entry.agent) :
        directory.lookup
            (String.ofList before ++ String.ofList word ++ String.ofList behind) =
          .ok (some entry.agent) :=
      lookup_eq_some_iff.mpr
        ⟨Agent.ofTrimmed_surrounded blankBefore blankBehind succeeds, isKnown⟩
    constructor
    · rw [(index_and_label stands).2]
      exact isFound (Agent.ofWord_word mayBeRead)
    · intro zeros
      have asWord (inner : List Char) :
          Agent.inBrackets inner = String.ofList (Agent.bracketed inner) := by
        rw [← Agent.toList_inBrackets, String.ofList_toList]
      rw [asWord]
      exact isFound (Agent.ofWord_zeros mayBeRead zeros)
  case unchanged =>
    intro call fails
    rw [perform_eq_enterEach, entered_of_isFailure fails]
    rfl

/-- An index, a stand-in and a line are entered; an index that is too large is refused. -/
theorem performAll_serves_vote :
    let calls : List Call :=
      [⟨.index 5, fun _ => 100⟩, ⟨.agent .anyone, fun _ => 200⟩,
        ⟨.index 2147483648, fun _ => 300⟩,
        ⟨.line ⟨.lenient, 10, "Agent[07] VOTE Agent[05]"⟩, fun _ => 400⟩]
    let directory := (empty.performAll calls).2
    (∀ call ∈ calls, call.Admissible) ∧
      directory.Serves calls ∧
        (empty.performAll calls).1.map Answer.isFailure =
            [false, false, true, false] ∧
          directory.filed.map Prod.fst = [7, 2147483647, 5] ∧
            directory.get? 5 = some ⟨⟨5⟩, "Agent[05]", 100⟩ ∧
              directory.get? 7 = some ⟨⟨7⟩, "Agent[07]", 400⟩ := by
  intro calls directory
  have admissible : ∀ call ∈ calls, call.Admissible := by
    simp only [calls, List.forall_mem_cons, Call.Admissible]
    refine ⟨nofun, ?_, nofun, nofun, nofun⟩
    rintro agent ⟨⟩
    exact Agent.admissible_anyone
  exact ⟨admissible, performAll_serves admissible, by decide, by decide,
    by decide, by decide⟩

end WerewolfSpeech.Directory
