import WerewolfSpeech.Content.Mention
import WerewolfSpeech.Reading

namespace WerewolfSpeech

/-!
# The directory

The directory keeps the agents that came up in a session, each under its index and with the
second at which it came up first. Agents come in by an index, as agents, or because a line
that was read mentions them; a line that cannot be read enters nobody. The clock is read when
an agent is entered for the first time; whoever comes up again keeps the entry of the first
time. Agents are found by an index or by a label. The order in which they came up does not
show: they are listed by ascending index.
-/

/-- What is known of an agent that came up. -/
structure Directory.Entry where
  agent : Agent
  label : String
  firstSeen : Nat
  deriving Repr, DecidableEq

/-- The entries of a session, each filed under the index of its agent. -/
structure Directory where
  filed : List (UInt32 × Directory.Entry)
  /-- Nothing is filed under one key twice. -/
  distinct : (filed.map Prod.fst).Nodup
  /-- An entry is about the agent of its key, and is labelled as that agent is. -/
  keyed :
    ∀ key entry,
      (key, entry) ∈ filed →
        entry.agent.index = key ∧ entry.label = entry.agent.label

namespace Directory

/-- The directory of a session that has not begun. -/
def empty : Directory where
  filed := []
  distinct := List.nodup_nil
  keyed := by simp

/-- The entry under an index. -/
def get?
    (directory : Directory)
    (index : UInt32) :
    Option Entry :=
  directory.filed.lookup index

/-- The directory with an entry for an agent whose index is free. -/
def file
    (directory : Directory)
    (agent : Agent)
    (second : Nat)
    (free : directory.get? agent.index = none) :
    Directory where
  filed := (agent.index, ⟨agent, agent.label, second⟩) :: directory.filed
  distinct := by
    refine List.nodup_cons.mpr ⟨?_, directory.distinct⟩
    intro taken
    obtain ⟨other, member, sameKey⟩ := List.mem_map.mp taken
    have different := List.lookup_eq_none_iff.mp free other member
    simp [sameKey] at different
  keyed := by
    intro key entry member
    rcases List.mem_cons.mp member with isNew | isOld
    · cases isNew
      exact ⟨rfl, rfl⟩
    · exact directory.keyed key entry isOld

/-- The agent as it is filed, and the directory in which it has an entry. -/
def enter
    (clock : Agent → Nat)
    (directory : Directory)
    (agent : Agent) :
    Agent × Directory :=
  match stands : directory.get? agent.index with
  | some entry => (entry.agent, directory)
  | none => (agent, directory.file agent (clock agent) stands)

/-- The directory with entries for several agents. -/
def enterEach
    (clock : Agent → Nat)
    (directory : Directory)
    (agents : List Agent) :
    Directory :=
  agents.foldl (fun directory agent => (directory.enter clock agent).2) directory

/-- The agent of an index as it is filed, if the index is admissible. -/
def enterIndex
    (clock : Agent → Nat)
    (directory : Directory)
    (index : UInt32) :
    Except AgentError Agent × Directory :=
  match Agent.ofIndex? index with
  | some agent => (directory.enter clock agent).map .ok id
  | none => (.error (.indexOutOfRange index.toNat), directory)

/-- The agent that is filed under a label; blanks around the label do not count. -/
def lookup
    (directory : Directory)
    (label : String) :
    Except AgentError (Option Agent) :=
  match Agent.ofWord (Text.trim label.toList) with
  | .ok agent => .ok ((directory.get? agent.index).map (·.agent))
  | .error error => .error error

/-- All entries by ascending index. -/
def entries
    (directory : Directory) :
    List Entry :=
  (directory.filed.map Prod.snd).mergeSort
    fun first second => first.agent.index ≤ second.agent.index

/-- The labels of all entries. -/
def labels
    (directory : Directory) :
    List String :=
  directory.entries.map (·.label)

/-- How many entries are filed. -/
def size
    (directory : Directory) :
    Nat :=
  directory.filed.length

/-- Whether nothing is filed. -/
def isEmpty
    (directory : Directory) :
    Bool :=
  directory.filed.isEmpty

/-- The directory in one line, by its size. -/
def summary
    (directory : Directory) :
    String :=
  "AgentRegistry \x7b count: " ++ String.ofList (Numeral.digits directory.size) ++
    " \x7d"

/-! ## Reading -/

/-- The directory with entries for everyone whom a content mentions. -/
def enterMentioned
    (clock : Agent → Nat)
    (directory : Directory)
    (content : Content) :
    Directory :=
  directory.enterEach clock content.agents

/-- Read a line strictly and enter whom it mentions. -/
def read
    (clock : Agent → Nat)
    (directory : Directory)
    (maxDepth : Nat)
    (text : String) :
    Except Diagnosis (Content × Directory) :=
  match Content.read maxDepth text with
  | .ok content => .ok (content, directory.enterMentioned clock content)
  | .error diagnosis => .error diagnosis

/-- Read a line leniently and enter whom it mentions. -/
def readOrSkip
    (clock : Agent → Nat)
    (directory : Directory)
    (maxDepth : Nat)
    (text : String) :
    Content × Directory :=
  let content := Content.readOrSkip maxDepth text
  (content, directory.enterMentioned clock content)

/-! ## Sessions -/

/-- A line to be read, in a mode and within a limit. -/
structure Query where
  mode : Mode
  maxDepth : Nat
  text : String
  deriving Repr, DecidableEq

/-- What a directory is called for. -/
inductive Request where
  /-- To enter the agent of an index. -/
  | index (index : UInt32)
  /-- To enter an agent. -/
  | agent (agent : Agent)
  /-- To read a line and enter whom it mentions. -/
  | line (query : Query)
  deriving Repr, DecidableEq

/-- A request, and what the clock says when an agent is entered for it. -/
structure Call where
  request : Request
  clock : Agent → Nat

/-- What is returned for a request. -/
inductive Answer where
  | agent (result : Except AgentError Agent)
  | content (result : Except Diagnosis Content)

/-- Whether something was refused. -/
def Answer.isFailure :
    Answer →
    Bool
  | .agent (.error _) => true
  | .content (.error _) => true
  | _ => false

/-- Read a line in its mode and enter whom it mentions. -/
def readLine
    (clock : Agent → Nat)
    (directory : Directory)
    (query : Query) :
    Except Diagnosis Content × Directory :=
  match query.mode with
  | .strict =>
      match directory.read clock query.maxDepth query.text with
      | .ok (content, after) => (.ok content, after)
      | .error diagnosis => (.error diagnosis, directory)
  | .lenient =>
      (directory.readOrSkip clock query.maxDepth query.text).map .ok id

/-- Do what is requested. -/
def perform
    (directory : Directory)
    (call : Call) :
    Answer × Directory :=
  match call.request with
  | .index index => (directory.enterIndex call.clock index).map .agent id
  | .agent agent => (directory.enter call.clock agent).map (.agent ∘ .ok) id
  | .line query => (directory.readLine call.clock query).map .content id

/-- What calls return one after the other, and the directory after the last of them. -/
def performAll
    (directory : Directory) :
    List Call →
    List Answer × Directory
  | [] => ([], directory)
  | call :: rest =>
      let (answer, next) := directory.perform call
      let (answers, after) := performAll next rest
      (answer :: answers, after)

end Directory

end WerewolfSpeech
