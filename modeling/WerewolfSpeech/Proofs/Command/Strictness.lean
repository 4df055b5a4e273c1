import WerewolfSpeech.Proofs.Command.Normalization
import WerewolfSpeech.Proofs.Reading.Mention

namespace WerewolfSpeech

namespace Command

/-!
# Strict runs stop at the first line that fails

Read strictly, a file of lines is worked on up to the first line that is not blank and cannot
be read. The failure names that line, and the blank lines before it count. What has been
written by then stays written, which is everything before the line if canonical lines are
asked for, and nothing if the agents are. A file without such a line is worked on as it is
when lines are read leniently.
-/

/-- A line holds nothing up if it is blank or can be read. -/
def Passes
    (maxDepth : Nat)
    (line : List Char) :
    Prop :=
  Text.isBlankText line = false →
    ∃ content, Content.read maxDepth (String.ofList line) = .ok content

/-- Every line that is not blank can be read. -/
def AllRead
    (maxDepth : Nat)
    (lines : List (List Char)) :
    Prop :=
  ∀ line ∈ lines, Passes maxDepth line

private theorem allRead_cons
    {maxDepth : Nat}
    {line : List Char}
    {rest : List (List Char)} :
    AllRead maxDepth (line :: rest) ↔
      Passes maxDepth line ∧ AllRead maxDepth rest :=
  List.forall_mem_cons

/-- The first line that is not blank and cannot be read stands at an index, from zero on. -/
structure FailsFirstAt
    (maxDepth : Nat)
    (lines : List (List Char))
    (index : Nat)
    (diagnosis : Diagnosis) :
    Prop where
  fails :
    ∃ line,
      lines[index]? = some line ∧
        Text.isBlankText line = false ∧
          Content.read maxDepth (String.ofList line) = .error diagnosis
  before : AllRead maxDepth (lines.take index)

/-- What has been written when the program fails at the line of a number, and how it exits. -/
structure Outcome.StopsAt
    (outcome : Outcome)
    (number : Nat)
    (diagnosis : Diagnosis)
    (written : String) :
    Prop where
  output : outcome.output = written
  status : outcome.status = 1
  line : outcome.line? = some number
  code : outcome.code? = some diagnosis.code

/-- The failure at a line is reported by its number and the code of the diagnosis. -/
private theorem Outcome.stopsAt_of_eq
    {outcome : Outcome}
    {number : Nat}
    {diagnosis : Diagnosis}
    {written : String}
    (stops : outcome = ⟨written, some (.line (some number) diagnosis)⟩) :
    outcome.StopsAt number diagnosis written := by
  subst stops
  exact ⟨rfl, rfl, rfl, rfl⟩

/-- The contents that the lines which are not blank are read as, in order. -/
def SpokenAs
    (maxDepth : Nat)
    (lines : List (List Char))
    (contents : List Content) :
    Prop :=
  List.Forall₂
    (fun text content => Content.read maxDepth text = .ok content)
    (Text.spoken lines) contents

/-- A line passes, or else it is not blank and there is a diagnosis. -/
private theorem passes_or_fails
    (maxDepth : Nat)
    (line : List Char) :
    Passes maxDepth line ∨
      Text.isBlankText line = false ∧
        ∃ diagnosis,
          Content.read maxDepth (String.ofList line) = .error diagnosis := by
  cases result : Content.read maxDepth (String.ofList line) with
  | ok content =>
      exact .inl fun _ => ⟨content, result⟩
  | error diagnosis =>
      cases blank : Text.isBlankText line with
      | true =>
          refine .inl fun notBlank => ?_
          rw [blank] at notBlank
          cases notBlank
      | false =>
          exact .inr ⟨rfl, diagnosis, rfl⟩

/-- A line in front that passes moves the first failure on by one. -/
theorem FailsFirstAt.cons
    {maxDepth index : Nat}
    {line : List Char}
    {rest : List (List Char)}
    {diagnosis : Diagnosis}
    (passes : Passes maxDepth line)
    (first : FailsFirstAt maxDepth rest index diagnosis) :
    FailsFirstAt maxDepth (line :: rest) (index + 1) diagnosis where
  fails := by
    rw [List.getElem?_cons_succ]
    exact first.fails
  before := by
    rw [List.take_succ_cons]
    exact allRead_cons.mpr ⟨passes, first.before⟩

/-- Either every line that is not blank can be read, or one of them is the first to fail. -/
private theorem allRead_or_failsFirstAt
    (maxDepth : Nat)
    (lines : List (List Char)) :
    AllRead maxDepth lines ∨
      ∃ index diagnosis, FailsFirstAt maxDepth lines index diagnosis := by
  induction lines with
  | nil =>
      exact .inl (by simp [AllRead])
  | cons line rest inductionHypothesis =>
      rcases passes_or_fails maxDepth line with
        passes | ⟨notBlank, diagnosis, fails⟩
      · rcases inductionHypothesis with allRead | ⟨index, diagnosis, first⟩
        · exact .inl (allRead_cons.mpr ⟨passes, allRead⟩)
        · exact .inr ⟨index + 1, diagnosis, first.cons passes⟩
      · refine .inr ⟨0, diagnosis, ⟨line, rfl, notBlank, fails⟩, ?_⟩
        simp [AllRead]

/-- No line is the first to fail if all can be read. -/
private theorem AllRead.not_failsFirstAt
    {maxDepth index : Nat}
    {lines : List (List Char)}
    {diagnosis : Diagnosis}
    (allRead : AllRead maxDepth lines) :
    ¬ FailsFirstAt maxDepth lines index diagnosis := by
  rintro ⟨⟨line, found, notBlank, fails⟩, _⟩
  obtain ⟨content, succeeds⟩ :=
    allRead line (List.mem_of_getElem? found) notBlank
  rw [succeeds] at fails
  cases fails

/-- Lines that can all be read are read as some contents. -/
private theorem AllRead.exists_spokenAs
    {maxDepth : Nat}
    {lines : List (List Char)}
    (allRead : AllRead maxDepth lines) :
    ∃ contents, SpokenAs maxDepth lines contents := by
  induction lines with
  | nil =>
      exact ⟨[], .nil⟩
  | cons line rest inductionHypothesis =>
      obtain ⟨passes, restRead⟩ := allRead_cons.mp allRead
      obtain ⟨contents, spokenAs⟩ := inductionHypothesis restRead
      cases blank : Text.isBlankText line with
      | true =>
          refine ⟨contents, ?_⟩
          rwa [SpokenAs, Text.spoken, List.filter_cons_of_neg (by simp [blank])]
      | false =>
          obtain ⟨content, succeeds⟩ := passes blank
          refine ⟨content :: contents, ?_⟩
          rw [SpokenAs, Text.spoken, List.filter_cons_of_pos (by simp [blank])]
          exact .cons succeeds spokenAs

namespace SpokenAs

variable
  {maxDepth : Nat}
  {lines : List (List Char)}
  {contents : List Content}

/-- What is read strictly is read in either mode, whatever numbers the lines have. -/
theorem reads
    (spokenAs : SpokenAs maxDepth lines contents)
    (strict : Bool)
    (number : Nat) :
    Reads ⟨maxDepth, strict⟩ (Text.numberedFrom number lines) contents := by
  rw [SpokenAs, ← Text.map_snd_numberedFrom number, List.forall₂_map_left_iff]
    at spokenAs
  refine spokenAs.imp ?_
  intro line content succeeds
  rw [readLine_eq]
  cases strict with
  | true => exact succeeds
  | false => exact congrArg Except.ok (Content.readOrSkip_of_read succeeds)

/-- Canonical lines of a file that can be read are the same in either mode. -/
theorem normalize
    {input : String}
    (spokenAs : SpokenAs maxDepth (Text.lines input.toList) contents)
    (strict : Bool) :
    Command.normalize ⟨maxDepth, strict⟩ input =
      .written (contents.map Content.text) := by
  rw [Command.normalize, Text.numberedLines,
    (spokenAs.reads strict 1).canonicalLines]
  rfl

/-- So is the list of its agents. -/
theorem agents
    {input : String}
    (spokenAs : SpokenAs maxDepth (Text.lines input.toList) contents)
    (strict : Bool) :
    Command.agents ⟨maxDepth, strict⟩ input =
      .written
        (directoryLines
          (contents.foldl (Directory.enterMentioned clock) .empty)) := by
  rw [Command.agents, Text.numberedLines, (spokenAs.reads strict 1).enterLines]

end SpokenAs

namespace FailsFirstAt

variable
  {maxDepth index : Nat}
  {lines : List (List Char)}
  {diagnosis : Diagnosis}

/-- The numbered lines divide at the first one that fails, whose number is one more. -/
private theorem exists_numberedFrom
    (first : FailsFirstAt maxDepth lines index diagnosis) :
    ∃ text rest,
      Text.numberedFrom 1 lines =
          Text.numberedFrom 1 (lines.take index) ++ (index + 1, text) :: rest ∧
        readLine ⟨maxDepth, true⟩ text = .error diagnosis := by
  obtain ⟨line, found, notBlank, fails⟩ := first.fails
  obtain ⟨within, isLine⟩ := List.getElem?_eq_some_iff.mp found
  have divided : lines = lines.take index ++ line :: lines.drop (index + 1) := by
    rw [← isLine, List.getElem_cons_drop, List.take_append_drop]
  have taken : 1 + (lines.take index).length = index + 1 := by
    rw [List.length_take_of_le within.le, Nat.add_comm]
  refine
    ⟨String.ofList line,
      Text.numberedFrom (index + 1 + 1) (lines.drop (index + 1)), ?_,
      (readLine_eq _ _).trans fails⟩
  conv_lhs => rw [divided]
  rw [Text.numberedFrom_append, taken, Text.numberedFrom.eq_2, notBlank]
  rfl

variable
  {input : String}
  {contents : List Content}

/-- The canonical lines stop before the first line that fails. -/
theorem normalize
    (first : FailsFirstAt maxDepth (Text.lines input.toList) index diagnosis)
    (spokenAs :
      SpokenAs maxDepth ((Text.lines input.toList).take index) contents) :
    Command.normalize ⟨maxDepth, true⟩ input =
      ⟨textOfLines (contents.map Content.text),
        some (.line (some (index + 1)) diagnosis)⟩ := by
  obtain ⟨text, rest, numbered, fails⟩ := first.exists_numberedFrom
  rw [Command.normalize, Text.numberedLines, numbered,
    (spokenAs.reads true 1).canonicalLines_append, canonicalLines, fails]
  simp

/-- The agents are not written if a line fails. -/
theorem agents
    (first : FailsFirstAt maxDepth (Text.lines input.toList) index diagnosis)
    (spokenAs :
      SpokenAs maxDepth ((Text.lines input.toList).take index) contents) :
    Command.agents ⟨maxDepth, true⟩ input =
      ⟨"", some (.line (some (index + 1)) diagnosis)⟩ := by
  obtain ⟨text, rest, numbered, fails⟩ := first.exists_numberedFrom
  rw [Command.agents, Text.numberedLines, numbered,
    (spokenAs.reads true 1).enterLines_append, enterLines, Settings.readLine_eq,
    fails]
  rfl

end FailsFirstAt

/--
Given some lines and settings that are strict, let the first line that is not blank and
cannot be read be number `index + 1`, blank lines counted. Then the canonical lines of what
stands before it are written, or nothing if the agents are asked for, and the program exits
with one, naming the line and the code of its diagnosis. If there is no such line, it exits
with zero and does exactly what it does on these lines with lenient settings of the same
depth.
-/
theorem run_strict
    {contents : String → Option String}
    {standardInput : String}
    {config file : Option String}
    {flag : Bool}
    {settings : Settings}
    {input : String}
    (configured :
      Invocation.settings contents ⟨config, flag, .normalize file⟩ =
        .ok settings)
    (strict : settings.strict = true)
    (given : inputOf contents standardInput file = .ok input) :
    let lines := Text.lines input.toList
    let normalized :=
      Invocation.run contents standardInput ⟨config, flag, .normalize file⟩
    let listed :=
      Invocation.run contents standardInput ⟨config, flag, .agents file⟩
    (∀ index diagnosis,
        FailsFirstAt settings.maxDepth lines index diagnosis →
        ∃ before,
          SpokenAs settings.maxDepth (lines.take index) before ∧
            normalized.StopsAt (index + 1) diagnosis
              (textOfLines (before.map Content.text)) ∧
              listed.StopsAt (index + 1) diagnosis "") ∧
      ((¬ ∃ index diagnosis,
          FailsFirstAt settings.maxDepth lines index diagnosis) →
        (normalized.status = 0 ∧ listed.status = 0) ∧
          ∀ otherContents otherInput otherConfig otherFlag otherFile,
            Invocation.settings otherContents
                ⟨otherConfig, otherFlag, .normalize otherFile⟩ =
              .ok ⟨settings.maxDepth, false⟩ →
            inputOf otherContents otherInput otherFile = .ok input →
            Invocation.run otherContents otherInput
                  ⟨otherConfig, otherFlag, .normalize otherFile⟩ =
                normalized ∧
              Invocation.run otherContents otherInput
                  ⟨otherConfig, otherFlag, .agents otherFile⟩ =
                listed) := by
  intro lines normalized listed
  rcases settings with ⟨maxDepth, strictly⟩
  obtain rfl : strictly = true := strict
  obtain ⟨normalizes, lists⟩ := run_of_given configured given
  refine ⟨?_, ?_⟩
  · intro index diagnosis first
    obtain ⟨before, spokenAs⟩ := first.before.exists_spokenAs
    refine ⟨before, spokenAs, ?_, ?_⟩
    · exact Outcome.stopsAt_of_eq (normalizes.trans (first.normalize spokenAs))
    · exact Outcome.stopsAt_of_eq (lists.trans (first.agents spokenAs))
  · intro noFailure
    have allRead : AllRead maxDepth lines :=
      (allRead_or_failsFirstAt maxDepth lines).resolve_right noFailure
    obtain ⟨spoken, spokenAs⟩ := allRead.exists_spokenAs
    have normalizedIs := normalizes.trans (spokenAs.normalize true)
    have listedIs := lists.trans (spokenAs.agents true)
    refine ⟨⟨?_, ?_⟩, ?_⟩
    · exact Outcome.status_eq_zero_iff.mpr (congrArg Outcome.failure normalizedIs)
    · exact Outcome.status_eq_zero_iff.mpr (congrArg Outcome.failure listedIs)
    · intro otherContents otherInput otherConfig otherFlag otherFile
        otherConfigured otherGiven
      obtain ⟨otherNormalizes, otherLists⟩ :=
        run_of_given otherConfigured otherGiven
      rw [otherNormalizes, otherLists]
      exact
        ⟨(spokenAs.normalize false).trans normalizedIs.symm,
          (spokenAs.agents false).trans listedIs.symm⟩

/--
A vote between a blank line and one that says nothing is all that is written of three lines;
the vote alone is listed as it is when lines are read leniently.
-/
theorem run_strict_vote :
    let normalizes : Invocation := ⟨none, true, .normalize none⟩
    let lists : Invocation := ⟨none, true, .agents none⟩
    let input := "\nAgent[3] VOTE Agent[5]\n?\n"
    let vote := "Agent[3] VOTE Agent[5]"
    let noFile : String → Option String := fun _ => none
    (normalizes.run noFile input).StopsAt 3 (.parseFailed "?")
        "Agent[03] VOTE Agent[05]\n" ∧
      (lists.run noFile input).StopsAt 3 (.parseFailed "?") "" ∧
        (lists.run noFile vote).status = 0 ∧
          Invocation.run noFile vote ⟨none, false, .agents none⟩ =
            lists.run noFile vote := by
  intro normalizes lists input vote noFile
  have recognized :
      Phrase.ofChars? (Text.trim vote.toList) =
        some
          (.action (some "Agent[3]".toList) "VOTE".toList
            "Agent[5]".toList) := by
    decide +kernel
  have states :
      (Phrase.action (some "Agent[3]".toList) "VOTE".toList
          "Agent[5]".toList).States
        ⟨3⟩ (.deed .vote ⟨5⟩) :=
    .action .vote rfl rfl
  have reads :
      Content.read 16 vote = .ok (.state ⟨3⟩ (.deed .vote ⟨5⟩)) := by
    simp only [Content.read, Reading.strictly, Reading.within,
      Reading.line, recognized,
      Reading.phrase_of_states states]
  have unrecognized : Phrase.ofChars? (Text.trim "?".toList) = none := by
    decide +kernel
  have fails : Content.read 16 "?" = .error (.parseFailed "?") := by
    simp only [Content.read, Reading.strictly, Reading.within,
      Reading.line, unrecognized]
    rfl
  have lines :
      Text.lines input.toList = [[], vote.toList, "?".toList] := by
    decide
  have voteAlone : Text.lines vote.toList = [vote.toList] := by
    decide
  have voteRead : AllRead 16 [vote.toList] := by
    refine List.forall_mem_singleton.mpr fun _ =>
      ⟨.state ⟨3⟩ (.deed .vote ⟨5⟩), ?_⟩
    rwa [String.ofList_toList]
  have beforeRead : AllRead 16 [[], vote.toList] := by
    refine allRead_cons.mpr ⟨?_, voteRead⟩
    intro notBlank
    cases notBlank
  have first :
      FailsFirstAt 16 (Text.lines input.toList) 2 (.parseFailed "?") := by
    rw [lines]
    exact ⟨⟨"?".toList, rfl, by decide, fails⟩, beforeRead⟩
  have configured :
      Invocation.settings noFile ⟨none, true, .normalize none⟩ =
        .ok ⟨16, true⟩ :=
    rfl
  have lenient :
      Invocation.settings noFile ⟨none, false, .normalize none⟩ =
        .ok ⟨16, false⟩ :=
    rfl
  have given : ∀ text, inputOf noFile text none = .ok text := fun _ => rfl
  obtain ⟨stops, _⟩ := run_strict configured rfl (given input)
  obtain ⟨_, agrees⟩ := run_strict configured rfl (given vote)
  obtain ⟨before, spokenAs, normalized, listed⟩ := stops 2 _ first
  have spoken :
      Text.spoken (List.take 2 [[], vote.toList, "?".toList]) = [vote] := by
    decide
  have written : before = [.state ⟨3⟩ (.deed .vote ⟨5⟩)] := by
    rw [SpokenAs, lines, spoken] at spokenAs
    obtain _ | ⟨succeeds, rest⟩ := spokenAs
    cases rest
    cases reads.symm.trans succeeds
    rfl
  rw [written] at normalized
  have noFailure :
      ¬ ∃ index diagnosis,
        FailsFirstAt 16 (Text.lines vote.toList) index diagnosis := by
    rw [voteAlone]
    rintro ⟨index, diagnosis, first⟩
    exact voteRead.not_failsFirstAt first
  obtain ⟨⟨_, exits⟩, same⟩ := agrees noFailure
  exact ⟨normalized, listed, exits, (same _ _ _ _ _ lenient (given vote)).2⟩

end Command

end WerewolfSpeech
