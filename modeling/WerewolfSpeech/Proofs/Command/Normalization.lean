import Mathlib.Data.List.Forall2
import WerewolfSpeech.Command.Outcome
import WerewolfSpeech.Proofs.Reading.Fixpoint
import WerewolfSpeech.Proofs.Text.Lines

namespace WerewolfSpeech

/-!
# Normalizing a file of lines

Every line that is not blank is read by itself, and the canonical line of what it is read as
is written. The settings read that line as the same content again. So a text that has been
normalized is normalized already, and the same agents are mentioned in it.
-/

/-- Reading a line with a directory enters whomever the content mentions that is read. -/
theorem Settings.readLine_eq
    (settings : Settings)
    (clock : Agent → Nat)
    (directory : Directory)
    (text : String) :
    settings.readLine clock directory text =
      (Command.readLine settings text).map fun content =>
        (content, directory.enterMentioned clock content) := by
  unfold Command.readLine readLine
  split
  · unfold Directory.read
    cases Content.read settings.maxDepth text <;> rfl
  · rfl

namespace Command

variable {settings : Settings}

/-- A line is read in the mode of the settings. -/
theorem readLine_eq
    (settings : Settings)
    (text : String) :
    readLine settings text =
      if settings.strict then
        Content.read settings.maxDepth text
      else
        .ok (Content.readOrSkip settings.maxDepth text) := by
  unfold readLine Settings.readLine
  split
  · unfold Directory.read
    cases Content.read settings.maxDepth text <;> rfl
  · rfl

/-- Every content that is read from a line is well-formed. -/
private theorem wellFormed_of_readLine
    {text : String}
    {content : Content}
    (succeeds : readLine settings text = .ok content) :
    content.WellFormed Agent.Admissible := by
  rw [readLine_eq] at succeeds
  split at succeeds
  · exact Content.wellFormed_of_read succeeds
  · cases succeeds
    exact Content.wellFormed_readOrSkip settings.maxDepth text

/-- The canonical line of a content that is read from a line is read as that content. -/
private theorem readLine_text
    {text : String}
    {content : Content}
    (succeeds : readLine settings text = .ok content) :
    readLine settings content.text = .ok content := by
  rw [readLine_eq] at succeeds ⊢
  split at succeeds
  · next isStrict =>
      rw [if_pos isStrict]
      exact Content.read_text_of_read succeeds
  · next isLenient =>
      cases succeeds
      rw [if_neg isLenient, Content.readOrSkip_text_readOrSkip]

/-- The numbered lines are read as the contents, one by one. -/
def Reads
    (settings : Settings)
    (lines : List (Nat × String))
    (contents : List Content) :
    Prop :=
  List.Forall₂
    (fun line content => readLine settings line.2 = .ok content)
    lines contents

/-- If no line fails, the lines are read as some contents. -/
private theorem exists_reads_of_canonicalLines
    {lines : List (Nat × String)}
    (noFailure : (canonicalLines settings lines).2 = none) :
    ∃ contents, Reads settings lines contents := by
  induction lines with
  | nil =>
      exact ⟨[], .nil⟩
  | cons line rest inductionHypothesis =>
      rcases line with ⟨number, text⟩
      rw [canonicalLines] at noFailure
      cases succeeds : readLine settings text with
      | error diagnosis =>
          rw [succeeds] at noFailure
          cases noFailure
      | ok content =>
          rw [succeeds] at noFailure
          obtain ⟨contents, reads⟩ := inductionHypothesis noFailure
          exact ⟨content :: contents, .cons succeeds reads⟩

namespace Reads

variable
  {lines : List (Nat × String)}
  {contents : List Content}

/-- Lines that are read do not keep the ones behind them from being written. -/
theorem canonicalLines_append
    (reads : Reads settings lines contents)
    (rest : List (Nat × String)) :
    Command.canonicalLines settings (lines ++ rest) =
      (contents.map Content.text ++ (Command.canonicalLines settings rest).1,
        (Command.canonicalLines settings rest).2) := by
  induction reads with
  | nil =>
      rfl
  | cons succeeds reads inductionHypothesis =>
      rw [List.cons_append, Command.canonicalLines, succeeds, inductionHypothesis,
        List.map_cons, List.cons_append]

/-- The canonical lines are those of the contents that the lines are read as. -/
theorem canonicalLines
    (reads : Reads settings lines contents) :
    Command.canonicalLines settings lines =
      (contents.map Content.text, none) := by
  simpa [Command.canonicalLines] using reads.canonicalLines_append []

/-- Behind lines that are read, the directory is the one that their contents leave. -/
theorem enterLines_append
    (reads : Reads settings lines contents)
    (rest : List (Nat × String))
    (directory : Directory) :
    Command.enterLines settings (lines ++ rest) directory =
      Command.enterLines settings rest
        (contents.foldl (Directory.enterMentioned clock) directory) := by
  induction reads generalizing directory with
  | nil =>
      rfl
  | cons succeeds reads inductionHypothesis =>
      rw [List.cons_append, Command.enterLines, Settings.readLine_eq, succeeds]
      exact inductionHypothesis _

/-- The agents that are entered are those that the contents mention. -/
theorem enterLines
    (reads : Reads settings lines contents)
    (directory : Directory) :
    Command.enterLines settings lines directory =
      .ok (contents.foldl (Directory.enterMentioned clock) directory) := by
  simpa [Command.enterLines] using reads.enterLines_append [] directory

/-- Every content comes from a line. -/
private theorem exists_readLine
    (reads : Reads settings lines contents) :
    ∀ content ∈ contents, ∃ text, readLine settings text = .ok content := by
  induction reads with
  | nil =>
      simp
  | cons succeeds reads inductionHypothesis =>
      exact List.forall_mem_cons.mpr ⟨⟨_, succeeds⟩, inductionHypothesis⟩

end Reads

/-- Canonical lines, however they are numbered, are read as the contents they are of. -/
private theorem reads_numberedFrom
    {contents : List Content}
    (come :
      ∀ content ∈ contents, ∃ text, readLine settings text = .ok content)
    (number : Nat) :
    Reads settings
      (Text.numberedFrom number (contents.map fun content => content.text.toList))
      contents := by
  induction contents generalizing number with
  | nil =>
      exact .nil
  | cons content rest inductionHypothesis =>
      rw [List.forall_mem_cons] at come
      obtain ⟨⟨text, succeeds⟩, restComes⟩ := come
      obtain ⟨_, nonempty, starts, _⟩ :=
        Content.text_ends (wellFormed_of_readLine succeeds)
      have notBlank := Text.isBlankText_eq_false nonempty starts
      rw [List.map_cons, Text.numberedFrom, notBlank]
      refine .cons ?_ (inductionHypothesis restComes (number + 1))
      simpa using readLine_text succeeds

private theorem toList_textOfLines
    (lines : List String) :
    (textOfLines lines).toList =
      lines.flatMap fun line => line.toList ++ ['\n'] := by
  simp [textOfLines, String.toList_join, List.flatMap_map]

/-- The lines of a text of canonical lines are those lines. -/
private theorem lines_textOfLines
    {contents : List Content}
    (come :
      ∀ content ∈ contents, ∃ text, readLine settings text = .ok content) :
    Text.lines (textOfLines (contents.map Content.text)).toList =
      contents.map fun content => content.text.toList := by
  rw [toList_textOfLines]
  induction contents with
  | nil =>
      rfl
  | cons content rest inductionHypothesis =>
      rw [List.forall_mem_cons] at come
      obtain ⟨⟨text, succeeds⟩, restComes⟩ := come
      obtain ⟨oneLine, _, _, ends⟩ :=
        Content.text_ends (wellFormed_of_readLine succeeds)
      rw [List.map_cons, List.flatMap_cons, List.append_assoc,
        List.singleton_append, Text.lines_append oneLine ends,
        inductionHypothesis restComes, List.map_cons]

/-- As many lines are numbered as are not blank. -/
private theorem length_numberedFrom
    (number : Nat)
    (lines : List (List Char)) :
    (Text.numberedFrom number lines).length =
      lines.countP fun line => !Text.isBlankText line := by
  have numbered := congrArg List.length (Text.map_snd_numberedFrom number lines)
  rwa [List.length_map, Text.spoken, List.length_map,
    ← List.countP_eq_length_filter] at numbered

/-- What a text that is normalized without failure is read as, before and after. -/
private theorem exists_reads_of_normalize
    {input : String}
    (noFailure : (normalize settings input).failure = none) :
    ∃ contents,
      Reads settings (Text.numberedLines input) contents ∧
        normalize settings input =
            .written (contents.map Content.text) ∧
          Text.lines (normalize settings input).output.toList =
              contents.map (fun content => content.text.toList) ∧
            Reads settings
              (Text.numberedLines (normalize settings input).output)
              contents := by
  obtain ⟨contents, reads⟩ := exists_reads_of_canonicalLines noFailure
  have output :
      normalize settings input = .written (contents.map Content.text) := by
    rw [normalize, reads.canonicalLines]
    rfl
  have lines := lines_textOfLines reads.exists_readLine
  refine ⟨contents, reads, output, ?_, ?_⟩
  · rw [output]
    exact lines
  · rw [output, Text.numberedLines, Outcome.written, lines]
    exact reads_numberedFrom reads.exists_readLine 1

/-- A text that has been normalized is normalized already, and mentions the same agents. -/
private theorem normalize_settled
    {input : String}
    (noFailure : (normalize settings input).failure = none) :
    normalize settings (normalize settings input).output =
        normalize settings input ∧
      (Text.lines (normalize settings input).output.toList).length =
          (Text.lines input.toList).countP
            (fun line => !Text.isBlankText line) ∧
        agents settings (normalize settings input).output =
          agents settings input := by
  obtain ⟨contents, reads, output, lines, readsAgain⟩ :=
    exists_reads_of_normalize noFailure
  refine ⟨?_, ?_, ?_⟩
  · rw [output] at readsAgain ⊢
    rw [normalize, readsAgain.canonicalLines]
    rfl
  · rw [lines, List.length_map, ← reads.length_eq, Text.numberedLines,
      length_numberedFrom]
  · rw [agents, agents, reads.enterLines, readsAgain.enterLines]

/-- The settings depend on the options and on the file that they are kept in. -/
private theorem settings_congr
    {contents later : String → Option String}
    {config : Option String}
    {strict : Bool}
    (sameConfig : ∀ name ∈ config, later name = contents name)
    (task laterTask : Task) :
    Invocation.settings later ⟨config, strict, laterTask⟩ =
      Invocation.settings contents ⟨config, strict, task⟩ := by
  cases config with
  | none =>
      rfl
  | some name =>
      simp only [Invocation.settings, sameConfig name rfl]

/-- The program exits with zero if it does not fail. -/
theorem Outcome.status_eq_zero_iff
    {outcome : Outcome} :
    outcome.status = 0 ↔ outcome.failure = none := by
  rcases outcome with ⟨output, failure⟩
  cases failure with
  | none =>
      simp [status]
  | some failure =>
      cases failure <;> simp [status]

/-- An invocation that has settings and lines works on the lines by the settings. -/
theorem run_of_given
    {contents : String → Option String}
    {standardInput : String}
    {config file : Option String}
    {strict : Bool}
    {settings : Settings}
    {input : String}
    (configured :
      Invocation.settings contents ⟨config, strict, .normalize file⟩ =
        .ok settings)
    (given : inputOf contents standardInput file = .ok input) :
    Invocation.run contents standardInput ⟨config, strict, .normalize file⟩ =
        normalize settings input ∧
      Invocation.run contents standardInput ⟨config, strict, .agents file⟩ =
        agents settings input := by
  have sameSettings :
      Invocation.settings contents ⟨config, strict, .agents file⟩ =
        .ok settings :=
    configured
  constructor
  · simp only [Invocation.run, configured, Task.run, given]
  · simp only [Invocation.run, sameSettings, Task.run, given]

/-- An invocation to normalize that succeeds has settings, which it normalizes by. -/
private theorem exists_settings_of_run
    {contents : String → Option String}
    {standardInput : String}
    {config file : Option String}
    {strict : Bool}
    {input : String}
    (given : inputOf contents standardInput file = .ok input)
    (exits :
      (Invocation.run contents standardInput
          ⟨config, strict, .normalize file⟩).status = 0) :
    ∃ settings,
      Invocation.settings contents ⟨config, strict, .normalize file⟩ =
          .ok settings ∧
        Invocation.run contents standardInput
            ⟨config, strict, .normalize file⟩ =
          normalize settings input := by
  cases found :
      Invocation.settings contents ⟨config, strict, .normalize file⟩ with
  | ok settings =>
      exact ⟨settings, rfl, (run_of_given found given).1⟩
  | error failure =>
      unfold Invocation.run at exits
      rw [found] at exits
      have noFailure := Outcome.status_eq_zero_iff.mp exits
      cases noFailure

/--
If an invocation to normalize some input exits with zero, the same invocation on its output
exits with zero as well and writes the same output again. The output has one line for each
line of the input that is not blank. The list of agents is the same for both.
-/
theorem run_normalize_settled
    {contents later : String → Option String}
    {standardInput laterInput : String}
    {config file laterFile : Option String}
    {strict : Bool}
    {input output : String}
    (given : inputOf contents standardInput file = .ok input)
    (exits :
      (Invocation.run contents standardInput
          ⟨config, strict, .normalize file⟩).status = 0)
    (writes :
      (Invocation.run contents standardInput
          ⟨config, strict, .normalize file⟩).output = output)
    (sameConfig : ∀ name ∈ config, later name = contents name)
    (handedOn : inputOf later laterInput laterFile = .ok output) :
    ((Invocation.run later laterInput
            ⟨config, strict, .normalize laterFile⟩).status = 0 ∧
        (Invocation.run later laterInput
            ⟨config, strict, .normalize laterFile⟩).output = output) ∧
      (Text.lines output.toList).length =
          (Text.lines input.toList).countP
            (fun line => !Text.isBlankText line) ∧
        Invocation.run later laterInput ⟨config, strict, .agents laterFile⟩ =
          Invocation.run contents standardInput
            ⟨config, strict, .agents file⟩ := by
  obtain ⟨settings, found, normalized⟩ := exists_settings_of_run given exits
  have everywhere :
      ∀ laterTask,
        Invocation.settings later ⟨config, strict, laterTask⟩ =
          .ok settings := by
    intro laterTask
    rw [settings_congr sameConfig (.normalize file), found]
  have noFailure : (normalize settings input).failure = none := by
    rw [← normalized]
    exact Outcome.status_eq_zero_iff.mp exits
  rw [normalized] at writes
  subst writes
  obtain ⟨again, sameCount, sameAgents⟩ := normalize_settled noFailure
  have normalizedAgain :
      Invocation.run later laterInput
          ⟨config, strict, .normalize laterFile⟩ =
        normalize settings input := by
    simp only [Invocation.run, everywhere, Task.run, handedOn, again]
  have before :
      Invocation.run contents standardInput
          ⟨config, strict, .agents file⟩ =
        agents settings input := by
    have sameSettings :
        Invocation.settings contents ⟨config, strict, .agents file⟩ =
          .ok settings := found
    simp only [Invocation.run, sameSettings, Task.run, given]
  have after :
      Invocation.run later laterInput
          ⟨config, strict, .agents laterFile⟩ =
        agents settings input := by
    simp only [Invocation.run, everywhere, Task.run, handedOn, sameAgents]
  refine ⟨⟨?_, ?_⟩, sameCount, after.trans before.symm⟩
  · rw [normalizedAgain]
    exact Outcome.status_eq_zero_iff.mpr noFailure
  · rw [normalizedAgain]

/-- A vote between blank lines, strictly read, is settled once it has been normalized. -/
theorem run_normalize_settled_vote :
    let votes : Invocation := ⟨none, true, .normalize none⟩
    let input := "\n Agent[3]  VOTE Agent[5]\n\n"
    let output := "Agent[03] VOTE Agent[05]\n"
    let noFile : String → Option String := fun _ => none
    (votes.run noFile input).status = 0 ∧
      (votes.run noFile input).output = output ∧
        (votes.run noFile output).output = output := by
  intro votes input output noFile
  have recognized :
      Phrase.ofChars? (Text.trim " Agent[3]  VOTE Agent[5]".toList) =
        some
          (.action (some "Agent[3]".toList) "VOTE".toList
            "Agent[5]".toList) := by
    decide +kernel
  have states :
      (Phrase.action (some "Agent[3]".toList) "VOTE".toList
          "Agent[5]".toList).States
        ⟨3⟩ (.deed .vote ⟨5⟩) :=
    .action .vote rfl rfl
  have vote :
      Content.read 16 " Agent[3]  VOTE Agent[5]" =
        .ok (.state ⟨3⟩ (.deed .vote ⟨5⟩)) := by
    simp only [Content.read, Reading.strictly, Reading.within,
      Reading.line, recognized,
      Reading.phrase_of_states states]
  have numbered :
      Text.numberedLines input = [(2, " Agent[3]  VOTE Agent[5]")] := by
    decide
  have read :
      readLine ⟨16, true⟩ " Agent[3]  VOTE Agent[5]" =
        .ok (.state ⟨3⟩ (.deed .vote ⟨5⟩)) :=
    (readLine_eq _ _).trans vote
  have found : normalize ⟨16, true⟩ input = ⟨output, none⟩ := by
    simp only [normalize, numbered, canonicalLines, read]
    decide
  have normalized : votes.run noFile input = ⟨output, none⟩ := found
  have exits : (votes.run noFile input).status = 0 := by
    rw [normalized]
    rfl
  have writes : (votes.run noFile input).output = output := by
    rw [normalized]
  have given : inputOf noFile input none = .ok input := rfl
  have handedOn : inputOf noFile output none = .ok output := rfl
  obtain ⟨⟨_, writesAgain⟩, _, _⟩ :=
    run_normalize_settled given exits writes (fun _ _ => rfl) handedOn
  exact ⟨exits, writes, writesAgain⟩

end Command

end WerewolfSpeech
