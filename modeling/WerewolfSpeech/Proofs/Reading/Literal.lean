import WerewolfSpeech.Proofs.Reading.RoundTrip

namespace WerewolfSpeech

/-!
# Literals

A literal is an expression in the form in which it is written out by hand: every subject
that somebody gives is written, even where a reader would supply it, and nothing is left
out or completed. A request may be written without its addressee. There are two ways from
a literal to a content. `Literal.build` calls the builder of every node, clauses first, and
`Content.read` reads the line. The main statement is that both give the same content.
-/

/-- The builder of a connective; those of a fixed number of clauses refuse any other. -/
def Connective.build
    (subject : Agent) :
    Connective →
    List Content →
    Except Diagnosis Content
  | .request addressee, [action] =>
      .ok (.request subject addressee action)
  | .inquire addressee, [question] =>
      .ok (.inquire subject addressee question)
  | .because, [reason, action] =>
      .ok (.because subject reason action)
  | .day number, [clause] =>
      .ok (.day subject number clause)
  | .not, [clause] =>
      .ok (.not subject clause)
  | .xor, [first, second] =>
      .ok (.xor subject first second)
  | .and, clauses =>
      Content.and subject clauses
  | .or, clauses =>
      Content.or subject clauses
  | connective, clauses =>
      .error (connective.operator.misfit clauses.length)

/-- An expression as it is written out; a subject that is left out is unspecified. -/
inductive Literal where
  | atomic (subject : Agent) (statement : Statement)
  | joined (subject : Agent) (connective : Connective) (clauses : List Literal)
  /-- A request that does not say who is asked. -/
  | request (subject : Agent) (action : Literal)
  deriving Repr

namespace Literal

mutual

/-- The characters of the line that is written. -/
def chars :
    Literal →
    List Char
  | .atomic subject statement =>
      subject.mentionChars ++ statement.chars
  | .joined subject connective clauses =>
      subject.mentionChars ++ connective.chars ++
        Line.inParentheses (charsOfEach clauses)
  | .request subject action =>
      subject.mentionChars ++ Vocabulary.word Operator.request ++
        Line.inParentheses [action.chars]

/-- The characters of several clauses, one by one. -/
def charsOfEach :
    List Literal →
    List (List Char)
  | [] => []
  | clause :: rest => clause.chars :: charsOfEach rest

end

/-- The line that is written. -/
def text
    (literal : Literal) :
    String :=
  String.ofList literal.chars

/-- The content that the builders make of a literal, clauses first and from left to right. -/
def build :
    Literal →
    Except Diagnosis Content
  | .atomic subject statement =>
      .ok (.state subject statement)
  | .joined subject connective clauses => do
      let built ← clauses.mapM build
      connective.build subject built
  | .request subject action => do
      let built ← action.build
      let addressee :=
        if built.subject = .unspecified then .anyone else built.subject
      return .request subject addressee built

mutual

/-- The height of a literal: an atomic literal has height zero. -/
def height :
    Literal →
    Nat
  | .atomic _ _ => 0
  | .joined _ _ clauses => 1 + heightOfEach clauses
  | .request _ action => 1 + action.height

/-- The largest height of the clauses. -/
def heightOfEach :
    List Literal →
    Nat
  | [] => 0
  | clause :: rest => max clause.height (heightOfEach rest)

end

/--
A literal that can be written: its agents are admissible, its targets are specified, its
silences have no subject, and its connectives have as many clauses as they take.
-/
inductive Proper : Literal → Prop where
  | atomic
      {subject : Agent}
      {statement : Statement}
      (admissible : subject.Admissible)
      (takesSubject : statement.TakesSubject subject)
      (aimed : Aimed Agent.Admissible statement.target?) :
      Proper (.atomic subject statement)
  | joined
      {subject : Agent}
      {connective : Connective}
      {clauses : List Literal}
      (admissible : subject.Admissible)
      (aimed : Aimed Agent.Admissible connective.target?)
      (arityAccepts : connective.operator.arity.accepts clauses.length = true)
      (clausesProper : ∀ clause ∈ clauses, Proper clause) :
      Proper (.joined subject connective clauses)
  | request
      {subject : Agent}
      {action : Literal}
      (admissible : subject.Admissible)
      (actionProper : Proper action) :
      Proper (.request subject action)

private theorem charsOfEach_eq_map
    (clauses : List Literal) :
    charsOfEach clauses = clauses.map chars := by
  induction clauses with
  | nil =>
      rfl
  | cons clause rest inductionHypothesis =>
      simp [charsOfEach, inductionHypothesis]

private theorem height_le_heightOfEach
    {clauses : List Literal}
    {clause : Literal}
    (member : clause ∈ clauses) :
    clause.height ≤ heightOfEach clauses := by
  induction clauses with
  | nil =>
      cases member
  | cons first rest inductionHypothesis =>
      rw [heightOfEach]
      rcases List.mem_cons.mp member with isFirst | inRest
      · subst clause
        exact Nat.le_max_left _ _
      · exact Nat.le_trans (inductionHypothesis inRest)
          (Nat.le_max_right _ _)

end Literal

/-- The builders of connectives do what composing does. -/
private theorem Connective.build_eq_compose
    (connective : Connective)
    (subject : Agent)
    (clauses : List Content) :
    connective.build subject clauses =
      Content.compose subject connective clauses := by
  cases connective with
  | and | or =>
      rfl
  | request _ | inquire _ | day _ | not =>
      rcases clauses with _ | ⟨first, _ | ⟨second, rest⟩⟩ <;> rfl
  | because | xor =>
      rcases clauses with _ | ⟨first, _ | ⟨second, _ | ⟨third, rest⟩⟩⟩ <;>
        rfl

namespace Literal

/-- The words of a request without an addressee join the clauses for whoever they name. -/
private theorem opens_request
    {subject : Agent}
    (admissible : subject.Admissible) :
    Phrase.Opens
      (subject.mention?.toList ++ [Vocabulary.word Operator.request])
      (Phrase.connective subject.mention?
        (Vocabulary.word Operator.request))
      subject
      (fun clauses =>
        .request (Reading.impliedAddressee .request clauses)) where
  sameLine _ := rfl
  formed _ := ⟨Agent.isAgent_of_mention?, rfl, rfl⟩
  joins list :=
    .connective (by decide) list (Agent.subject_mention? admissible)

/-- The line of joined clauses consists of the words of its phrase and the clauses. -/
private theorem chars_joined
    (subject : Agent)
    (connective : Connective)
    (clauses : List Literal) :
    chars (.joined subject connective clauses) =
      [' '].intercalate (connective.phrase subject []).line.words ++
        Line.inParentheses (clauses.map chars) := by
  rw [chars, charsOfEach_eq_map, Connective.mentionChars_append_chars]

/-- The line of a request without an addressee consists of its words and the action. -/
private theorem chars_request
    (subject : Agent)
    (action : Literal) :
    chars (.request subject action) =
      [' '].intercalate
          (subject.mention?.toList ++ [Vocabulary.word Operator.request]) ++
        Line.inParentheses [action.chars] := by
  rw [chars, ← Agent.mentionChars_append subject (List.cons_ne_nil _ _)]
  rfl

namespace Proper

/-- The line of a literal can stand in the parentheses of a clause. -/
theorem isClause_chars
    {literal : Literal}
    (proper : literal.Proper) :
    Line.IsClause literal.chars := by
  induction proper with
  | atomic _ takesSubject aimed =>
      exact Statement.isClause_chars takesSubject aimed
  | joined admissible aimed _ _ inductionHypothesis =>
      rw [chars_joined]
      apply (Connective.opens_phrase admissible aimed).isClause
      simpa using inductionHypothesis
  | request admissible _ inductionHypothesis =>
      rw [chars_request]
      apply (opens_request admissible).isClause
      simpa using inductionHypothesis

/-- The builders accept a literal that can be written. -/
private theorem exists_build
    {literal : Literal}
    (proper : literal.Proper) :
    ∃ content, literal.build = .ok content := by
  induction proper with
  | atomic _ _ _ =>
      exact ⟨.state _ _, by rw [build]⟩
  | @joined subject connective clauses _ _ arityAccepts _ inductionHypothesis =>
      obtain ⟨contents, built⟩ := Attempt.exists_mapM inductionHypothesis
      have sameLength := (Attempt.ok_of_mapM built).1
      refine ⟨Content.join subject connective contents, ?_⟩
      rw [build, built]
      apply (connective.build_eq_compose subject contents).trans
      apply Content.compose_eq_ok_iff.mpr
      exact ⟨by rw [sameLength]; exact arityAccepts, rfl⟩
  | request _ _ inductionHypothesis =>
      obtain ⟨content, built⟩ := inductionHypothesis
      rw [build, built]
      exact ⟨_, rfl⟩

/-- A clause is read as the builders build it, if the levels reach its leaves. -/
private theorem beneath_chars
    {limit levels : Nat}
    {literal : Literal}
    (proper : literal.Proper)
    (low : literal.height < levels) :
    Reading.beneath .strict limit levels literal.chars =
      literal.build := by
  induction levels generalizing literal with
  | zero =>
      exact absurd low (Nat.not_lt_zero _)
  | succ levels inductionHypothesis =>
      rw [Reading.beneath_succ]
      cases proper with
      | atomic admissible takesSubject aimed =>
          rw [build]
          exact Statement.line_chars takesSubject admissible aimed
      | @joined subject connective clauses admissible aimed arityAccepts
          clausesProper =>
          have someGroup : clauses.map chars ≠ [] := by
            rintro noGroup
            apply Operator.ne_zero_of_accepts arityAccepts
            simpa using congrArg List.length noGroup
          -- Reading and building both end with the first clause that fails.
          have clausesRead :
              ((clauses.map chars).mapM fun group =>
                  Reading.clause .strict
                    (Reading.beneath .strict limit levels group)) =
                clauses.mapM build := by
            rw [List.mapM_map]
            apply Attempt.mapM_congr
            intro clause member
            rw [Function.comp_apply, Reading.clause_strict]
            apply inductionHypothesis (clausesProper clause member)
            have notHigher := height_le_heightOfEach member
            rw [height] at low
            omega
          rw [chars_joined,
            (Connective.opens_phrase admissible aimed).line_eq someGroup,
            clausesRead, build]
          · simp only [Connective.build_eq_compose]
          · simpa using fun clause member =>
              (clausesProper clause member).isClause_chars
      | @request subject action admissible actionProper =>
          have actionRead :
              Reading.beneath .strict limit levels action.chars =
                action.build := by
            apply inductionHypothesis actionProper
            rw [height] at low
            omega
          -- The addressee depends on what the action turns out to be.
          obtain ⟨content, built⟩ := actionProper.exists_build
          rw [chars_request,
            (opens_request admissible).line_eq (List.cons_ne_nil _ _),
            List.mapM_cons, List.mapM_nil]
          · simp only [Reading.clause_strict, actionRead, built, build]
            rfl
          · simpa using actionProper.isClause_chars

end Proper

/--
A literal that can be written is read, within as many levels as it is high, as the content
that the builders make of it.
-/
theorem read_text
    {literal : Literal}
    {maxDepth : Nat}
    (proper : literal.Proper)
    (low : literal.height ≤ maxDepth) :
    ∃ content,
      literal.build = .ok content ∧
        Content.read maxDepth literal.text = .ok content := by
  obtain ⟨content, built⟩ := proper.exists_build
  refine ⟨content, built, ?_⟩
  unfold Content.read Reading.strictly text
  rw [String.toList_ofList, ← built]
  exact proper.beneath_chars (Nat.lt_succ_of_le low)

/-- A request without an addressee, of an action that repeats the subject of its clause. -/
theorem read_text_request :
    text (.request ⟨1⟩ (.joined ⟨2⟩ .not [.atomic ⟨2⟩ (.deed .vote .anyone)])) =
        "Agent[01] REQUEST (Agent[02] NOT (Agent[02] VOTE ANY))" ∧
      Proper
        (.request ⟨1⟩ (.joined ⟨2⟩ .not [.atomic ⟨2⟩ (.deed .vote .anyone)])) ∧
        ∃ content,
          build
              (.request ⟨1⟩
                (.joined ⟨2⟩ .not [.atomic ⟨2⟩ (.deed .vote .anyone)])) =
              .ok content ∧
            Content.read 2
                (text
                  (.request ⟨1⟩
                    (.joined ⟨2⟩ .not
                      [.atomic ⟨2⟩ (.deed .vote .anyone)]))) =
              .ok content := by
  have admissible :
      ∀ index : UInt32,
        index.toNat ≤ Agent.anyoneIndex → (Agent.mk index).Admissible :=
    fun _ => id
  have voteProper : Proper (.atomic ⟨2⟩ (.deed .vote .anyone)) := by
    refine .atomic (admissible 2 (by decide)) ?_ ?_
    · intro kind isSilence
      cases isSilence
    · rintro target ⟨⟩
      exact ⟨Agent.admissible_anyone, Agent.anyone_ne_unspecified⟩
  have notProper :
      Proper (.joined ⟨2⟩ .not [.atomic ⟨2⟩ (.deed .vote .anyone)]) := by
    refine .joined (admissible 2 (by decide)) ?_ rfl ?_
    · rintro target ⟨⟩
    · simpa using voteProper
  have proper :
      Proper
        (.request ⟨1⟩
          (.joined ⟨2⟩ .not [.atomic ⟨2⟩ (.deed .vote .anyone)])) :=
    .request (admissible 1 (by decide)) notProper
  exact ⟨rfl, proper, read_text proper (by decide)⟩

end Literal

end WerewolfSpeech
