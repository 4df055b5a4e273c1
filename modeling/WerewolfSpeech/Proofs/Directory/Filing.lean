import Mathlib.Data.List.Sort
import WerewolfSpeech.Directory
import WerewolfSpeech.Proofs.Agent.Label
import WerewolfSpeech.Proofs.Line.Layout

namespace WerewolfSpeech

/-!
# What a directory answers

Entering an agent adds one entry at most, under the index of the agent, and keeps all others.
Whatever is asked of a directory can then be told from the entries under the indices alone:
who is found under a label, and who is listed in which order.
-/

namespace Agent

/-- Agents that have the same index are the same. -/
theorem eq_of_index
    {first second : Agent}
    (same : first.index = second.index) :
    first = second :=
  congrArg Agent.mk same

/-- What is read as an agent has no blanks around it. -/
private theorem trim_of_ofWord
    {word : List Char}
    {agent : Agent}
    (succeeds : ofWord word = .ok agent) :
    Text.trim word = word := by
  rcases ofWord_eq_ok.mp succeeds with
      ⟨rfl, _⟩ | ⟨rfl, _⟩ | ⟨digits, rfl, isDigits, _⟩
  · decide
  · decide
  · have isReference : Word.isAgent (bracketed digits) = true :=
      Word.isAgent_iff.mpr
        (Or.inr ⟨digits, rfl, Word.isNumber_of_isDigits isDigits⟩)
    have isWord : Line.IsWord (bracketed digits) :=
      .of_isPlain (Word.isPlain_of_isAgent isReference)
    exact Text.trim_eq_self isWord.ends.1 isWord.ends.2

/-- The agent that a label refers to when the blanks around it are left out. -/
def ofTrimmed
    (label : String) :
    Except AgentError Agent :=
  ofLabel (String.ofList (Text.trim label.toList))

/-- A word that is read as an agent refers to it with blanks around it as well. -/
theorem ofTrimmed_surrounded
    {before behind word : List Char}
    {agent : Agent}
    (blankBefore : ∀ character ∈ before, Text.isBlank character = true)
    (blankBehind : ∀ character ∈ behind, Text.isBlank character = true)
    (succeeds : ofWord word = .ok agent) :
    ofTrimmed
        (String.ofList before ++ String.ofList word ++ String.ofList behind) =
      .ok agent := by
  rw [ofTrimmed, ofLabel, String.toList_ofList]
  simp only [String.toList_append, String.toList_ofList]
  rw [Text.trim_surrounded blankBefore blankBehind,
    trim_of_ofWord succeeds, succeeds]

end Agent

namespace Directory

variable {directory : Directory}

/-! ## Single entries -/

/-- What is filed under a key is what is found there. -/
theorem mem_filed_iff
    {key : UInt32}
    {entry : Entry} :
    (key, entry) ∈ directory.filed ↔ directory.get? key = some entry := by
  rw [get?, List.lookup_eq_some_iff]
  constructor
  · intro member
    obtain ⟨before, behind, parts⟩ := List.append_of_mem member
    have distinct := directory.distinct
    rw [parts, List.map_append, List.map_cons] at distinct
    refine ⟨before, behind, parts, fun other isBefore => ?_⟩
    have different : other.1 ≠ key :=
      (List.nodup_append.mp distinct).2.2 other.1
        (List.mem_map_of_mem isBefore) key List.mem_cons_self
    simpa using different.symm
  · rintro ⟨before, behind, parts, _⟩
    simp [parts]

/-- Under an index stands the entry of the agent that has it, with the label of the agent. -/
theorem index_and_label
    {index : UInt32}
    {entry : Entry}
    (stands : directory.get? index = some entry) :
    entry.agent.index = index ∧ entry.label = entry.agent.label :=
  directory.keyed index entry (mem_filed_iff.mpr stands)

/-- Entering an agent returns that agent. -/
theorem enter_fst
    (clock : Agent → Nat)
    (directory : Directory)
    (agent : Agent) :
    (directory.enter clock agent).1 = agent := by
  unfold enter
  split
  · next entry stands =>
      exact Agent.eq_of_index (index_and_label stands).1
  · rfl

private theorem get?_file
    {agent : Agent}
    (second : Nat)
    (free : directory.get? agent.index = none)
    (index : UInt32) :
    (directory.file agent second free).get? index =
      if index = agent.index then
        some ⟨agent, agent.label, second⟩
      else
        directory.get? index := by
  by_cases same : index = agent.index
  · simp [file, get?, same]
  · have otherKey : (index == agent.index) = false := beq_false_of_ne same
    simp [file, get?, List.lookup_cons, otherKey, same]

/-- Entering an agent adds an entry under its index, if there is none. -/
theorem get?_enter
    (clock : Agent → Nat)
    (directory : Directory)
    (agent : Agent)
    (index : UInt32) :
    (directory.enter clock agent).2.get? index =
      (directory.get? index).or
        (if index = agent.index then
          some ⟨agent, agent.label, clock agent⟩
        else
          none) := by
  unfold enter
  split
  · next entry stands =>
      by_cases same : index = agent.index
      · simp [same, stands]
      · simp [same]
  · next free =>
      rw [get?_file]
      by_cases same : index = agent.index
      · simp [same, free]
      · simp [same]

/-! ## Who is known -/

/-- Once an agent has been entered, its index is known besides those that were. -/
theorem isSome_get?_enter
    (clock : Agent → Nat)
    (directory : Directory)
    (agent : Agent)
    (index : UInt32) :
    ((directory.enter clock agent).2.get? index).isSome = true ↔
      (directory.get? index).isSome = true ∨ agent.index = index := by
  rw [get?_enter, Option.isSome_or, Bool.or_eq_true]
  refine or_congr_right ?_
  split
  · next same => exact iff_of_true rfl same.symm
  · next different => exact iff_of_false nofun (Ne.symm different)

/-- Once agents have been entered, their indices are known besides those that were. -/
theorem isSome_get?_enterEach
    (clock : Agent → Nat)
    (directory : Directory)
    (agents : List Agent)
    (index : UInt32) :
    ((directory.enterEach clock agents).get? index).isSome = true ↔
      (directory.get? index).isSome = true ∨
        ∃ agent ∈ agents, agent.index = index := by
  induction agents generalizing directory with
  | nil => simp [enterEach]
  | cons agent rest inductionHypothesis =>
      rw [enterEach, List.foldl_cons]
      apply (inductionHypothesis (directory.enter clock agent).2).trans
      rw [isSome_get?_enter, or_assoc]
      simp

/-! ## What stays -/

/-- Whatever entry stood under an index stands there still. -/
def Keeps
    (before after : Directory) :
    Prop :=
  ∀ index entry,
    before.get? index = some entry → after.get? index = some entry

namespace Keeps

/-- A directory keeps its own entries. -/
theorem refl
    (directory : Directory) :
    directory.Keeps directory :=
  fun _ _ stands => stands

/-- What is kept twice is kept. -/
theorem trans
    {before between after : Directory}
    (first : before.Keeps between)
    (second : between.Keeps after) :
    before.Keeps after :=
  fun index entry stands => second index entry (first index entry stands)

/-- Entering an agent keeps all entries. -/
theorem enter
    (clock : Agent → Nat)
    (directory : Directory)
    (agent : Agent) :
    directory.Keeps (directory.enter clock agent).2 := by
  intro index entry stands
  rw [get?_enter, stands, Option.some_or]

/-- Entering several agents keeps all entries. -/
theorem enterEach
    (clock : Agent → Nat)
    (directory : Directory)
    (agents : List Agent) :
    directory.Keeps (directory.enterEach clock agents) := by
  induction agents generalizing directory with
  | nil => exact refl directory
  | cons agent rest inductionHypothesis =>
      exact (enter clock directory agent).trans (inductionHypothesis _)

end Keeps

/-! ## The list of all entries -/

/-- The size is the number of entries that are listed. -/
theorem size_eq_length_entries
    (directory : Directory) :
    directory.size = directory.entries.length := by
  rw [size, entries, List.length_mergeSort, List.length_map]

/-- The list of all entries holds what stands under the indices. -/
theorem mem_entries_iff
    {entry : Entry} :
    entry ∈ directory.entries ↔
      directory.get? entry.agent.index = some entry := by
  rw [entries, List.mem_mergeSort, List.mem_map]
  constructor
  · rintro ⟨⟨key, filed⟩, member, rfl⟩
    have stands := mem_filed_iff.mp member
    rw [(index_and_label stands).1]
    exact stands
  · intro stands
    exact ⟨_, mem_filed_iff.mpr stands, rfl⟩

/-- All entries are listed in strictly ascending order. -/
theorem pairwise_entries
    (directory : Directory) :
    directory.entries.Pairwise
      fun first second => first.agent.index < second.agent.index := by
  have keys :
      (directory.filed.map Prod.snd).map (·.agent.index) =
        directory.filed.map Prod.fst := by
    rw [List.map_map]
    refine List.map_congr_left fun filed member => ?_
    exact (directory.keyed filed.1 filed.2 member).1
  -- The entries are sorted by their keys, and of these there are no two alike.
  have sameKeys :
      (directory.entries.map (·.agent.index)).Perm
        (directory.filed.map Prod.fst) := by
    rw [← keys]
    exact (List.mergeSort_perm _ _).map _
  have distinct : (directory.entries.map (·.agent.index)).Nodup :=
    sameKeys.nodup_iff.mpr directory.distinct
  have ordered :
      directory.entries.Pairwise fun first second =>
        decide (first.agent.index ≤ second.agent.index) = true := by
    apply List.pairwise_mergeSort
    · intro first second third
      simpa using UInt32.le_trans
    · intro first second
      simpa using UInt32.le_total first.agent.index second.agent.index
  refine (ordered.and (List.pairwise_map.mp distinct)).imp ?_
  rintro first second ⟨notAbove, different⟩
  exact UInt32.lt_of_le_of_ne (of_decide_eq_true notAbove) different

/-- The agents that are listed are those whose indices are known. -/
private theorem mem_map_agent_entries_iff
    {agent : Agent} :
    agent ∈ directory.entries.map (·.agent) ↔
      (directory.get? agent.index).isSome = true := by
  rw [List.mem_map, Option.isSome_iff_exists]
  constructor
  · rintro ⟨entry, listed, rfl⟩
    exact ⟨entry, mem_entries_iff.mp listed⟩
  · rintro ⟨entry, stands⟩
    have same : entry.agent = agent :=
      Agent.eq_of_index (index_and_label stands).1
    subst same
    exact ⟨entry, mem_entries_iff.mpr stands, rfl⟩

private theorem pairwise_agents
    (directory : Directory) :
    (directory.entries.map (·.agent)).Pairwise
      fun first second => first.index < second.index :=
  List.pairwise_map.mpr directory.pairwise_entries

/-- The labels depend on which indices are known, and not on when they came up. -/
theorem labels_congr
    {other : Directory}
    (same :
      ∀ index,
        (directory.get? index).isSome = true ↔
          (other.get? index).isSome = true) :
    directory.labels = other.labels := by
  have : Std.Asymm fun first second : Agent => first.index < second.index :=
    ⟨fun _ _ => UInt32.lt_asymm⟩
  have sameAgents :
      directory.entries.map (·.agent) = other.entries.map (·.agent) := by
    refine (pairwise_agents directory).eq_of_mem_iff
      (pairwise_agents other) fun agent => ?_
    rw [mem_map_agent_entries_iff, mem_map_agent_entries_iff, same]
  have byAgents (shown : Directory) :
      shown.labels = (shown.entries.map (·.agent)).map Agent.label := by
    rw [labels, List.map_map]
    refine List.map_congr_left fun entry listed => ?_
    exact (index_and_label (mem_entries_iff.mp listed)).2
  rw [byAgents, byAgents, sameAgents]

/-! ## Looking up labels -/

/-- A label is looked up by reading it and finding out whether the agent is known. -/
private theorem lookup_eq_map
    (directory : Directory)
    (label : String) :
    directory.lookup label =
      (Agent.ofTrimmed label).map fun agent =>
        if (directory.get? agent.index).isSome then some agent else none := by
  rw [lookup, Agent.ofTrimmed, Agent.ofLabel, String.toList_ofList]
  cases Agent.ofWord (Text.trim label.toList) with
  | error error => rfl
  | ok agent =>
      refine congrArg Except.ok ?_
      cases stands : directory.get? agent.index with
      | none => simp [stands]
      | some entry =>
          have same := Agent.eq_of_index (index_and_label stands).1
          simp [stands, same]

/-- An agent is found under the labels that are read as it, if it is known. -/
theorem lookup_eq_some_iff
    {label : String}
    {agent : Agent} :
    directory.lookup label = .ok (some agent) ↔
      Agent.ofTrimmed label = .ok agent ∧
        (directory.get? agent.index).isSome = true := by
  rw [lookup_eq_map]
  cases Agent.ofTrimmed label with
  | error error => simp [Except.map]
  | ok other =>
      simp only [Except.map, Except.ok.injEq, Option.ite_none_right_eq_some,
        Option.some.injEq]
      constructor
      · rintro ⟨isKnown, rfl⟩
        exact ⟨rfl, isKnown⟩
      · rintro ⟨rfl, isKnown⟩
        exact ⟨isKnown, rfl⟩

/-- Nobody is found under a label that is read as an agent who is not known. -/
theorem lookup_eq_none_iff
    {label : String} :
    directory.lookup label = .ok none ↔
      ∃ agent,
        Agent.ofTrimmed label = .ok agent ∧
          ¬ (directory.get? agent.index).isSome = true := by
  rw [lookup_eq_map]
  cases Agent.ofTrimmed label with
  | error error => simp [Except.map]
  | ok other => simp [Except.map]

/-- A label is refused for the reason that it is not read as an agent. -/
theorem lookup_eq_error_iff
    {label : String}
    {error : AgentError} :
    directory.lookup label = .error error ↔
      Agent.ofTrimmed label = .error error := by
  rw [lookup_eq_map]
  cases Agent.ofTrimmed label with
  | error other => simp [Except.map]
  | ok other => simp [Except.map]

end Directory

end WerewolfSpeech
