import WerewolfSpeech.Content.Mention
import WerewolfSpeech.Proofs.Content.Rendering
import WerewolfSpeech.Proofs.Content.Silence
import WerewolfSpeech.Proofs.Line.Reference

namespace WerewolfSpeech

/-!
# Mentioned agents and the canonical line

The line of a node names the subject that it shows and the target, and then whomever the
lines of the clauses name. A content mentions more often than its line names: it keeps the
subjects that the line leaves out. But such a subject is the agent that governs the clause,
and the line has named that agent before it comes to the clause.
-/

/-- No topic contains a bracket. -/
theorem Topic.bracket_not_mem_word
    (topic : Topic) :
    '[' ∉ Vocabulary.word topic := by
  cases topic <;> decide

/-- No operator contains a bracket. -/
theorem Operator.bracket_not_mem_word
    (operator : Operator) :
    '[' ∉ Vocabulary.word operator := by
  cases operator <;> decide

private theorem Numeral.bracket_not_mem_digits
    (value : Nat) :
    '[' ∉ digits value := fun member =>
  absurd ((isDigits_digits value).2 '[' member) (by decide)

private theorem Numeral.bracket_not_mem_signed
    (value : Int) :
    '[' ∉ signed value := by
  have noneInDigits := bracket_not_mem_digits value.natAbs
  unfold signed
  split <;> simp [noneInDigits]

private theorem Citation.bracket_not_mem_chars
    (citation : Citation) :
    '[' ∉ citation.chars := by
  have noneInChannel : '[' ∉ Vocabulary.word citation.channel := by
    cases citation.channel <;> decide
  simp [chars, noneInChannel, Numeral.bracket_not_mem_signed]

/-- A line that begins with a mention names the agent that is mentioned first. -/
private theorem Agent.named_mentionChars_append
    {agent : Agent}
    (admissible : agent.Admissible)
    (rest : List Char) :
    Line.named (agent.mentionChars ++ rest) =
      [agent].filter Agent.isConcrete ++ Line.named rest := by
  unfold mentionChars
  split
  · next isUnspecified =>
      rw [isUnspecified]
      rfl
  · have spaced :
        agent.word ++ [' '] ++ rest = agent.word ++ ' ' :: rest := by
      simp
    rw [spaced, Line.named_append (by decide), Line.named_word admissible]

/-- A keyword and a target name the target. -/
private theorem Line.named_keyword_target
    {keyword : List Char}
    {target : Agent}
    (noBracket : '[' ∉ keyword)
    (admissible : target.Admissible) :
    named (keyword ++ ' ' :: target.word) =
      [target].filter Agent.isConcrete := by
  rw [named_append (by decide), named_eq_nil noBracket,
    named_word admissible, List.nil_append]

/-- The words of a statement name its target. -/
private theorem Statement.named_chars
    {statement : Statement}
    (aimed : Aimed Agent.Admissible statement.target?) :
    Line.named statement.chars =
      statement.target?.toList.filter Agent.isConcrete := by
  cases statement with
  | silence kind =>
      exact Line.named_eq_nil kind.topic.bracket_not_mem_word
  | stance kind citation =>
      have noneInKind : '[' ∉ Vocabulary.word kind.topic :=
        kind.topic.bracket_not_mem_word
      have noneInCitation := citation.bracket_not_mem_chars
      apply Line.named_eq_nil
      simp [chars, noneInKind, noneInCitation]
  | disclosure kind target role =>
      have noneInKind : '[' ∉ Vocabulary.word kind.topic :=
        kind.topic.bracket_not_mem_word
      have noneInRole : '[' ∉ Vocabulary.word role := by
        cases role <;> decide
      rw [chars, Line.named_append (by decide),
        Line.named_keyword_target noneInKind (aimed target rfl).1,
        Line.named_eq_nil noneInRole, List.append_nil]
      rfl
  | finding kind target species =>
      have noneInKind : '[' ∉ Vocabulary.word kind.topic :=
        kind.topic.bracket_not_mem_word
      have noneInSpecies : '[' ∉ Vocabulary.word species := by
        cases species <;> decide
      rw [chars, Line.named_append (by decide),
        Line.named_keyword_target noneInKind (aimed target rfl).1,
        Line.named_eq_nil noneInSpecies, List.append_nil]
      rfl
  | deed kind target =>
      exact Line.named_keyword_target kind.topic.bracket_not_mem_word
        (aimed target rfl).1

/-- The words of a connective name its addressee. -/
private theorem Connective.named_chars
    {connective : Connective}
    (aimed : Aimed Agent.Admissible connective.target?) :
    Line.named connective.chars =
      connective.target?.toList.filter Agent.isConcrete := by
  have noneInOperator := connective.operator.bracket_not_mem_word
  cases connective with
  | request target =>
      exact Line.named_keyword_target noneInOperator (aimed target rfl).1
  | inquire target =>
      exact Line.named_keyword_target noneInOperator (aimed target rfl).1
  | day number =>
      have noneInNumber := Numeral.bracket_not_mem_digits number.toNat
      apply Line.named_eq_nil
      simp [chars, noneInOperator, noneInNumber]
  | because | not | and | or | xor =>
      apply Line.named_eq_nil
      simpa [chars] using noneInOperator

namespace Content

/-- A content mentions its subject, its target and whomever its clauses mention. -/
theorem mentions_joined
    (subject : Agent)
    (connective : Connective)
    (clauses : List Content) :
    mentions (.joined subject connective clauses) =
      subject :: connective.target?.toList ++ clauses.flatMap mentions := by
  have each : mentionsOfClauses clauses = clauses.flatMap mentions := by
    induction clauses with
    | nil =>
        rfl
    | cons clause rest inductionHypothesis =>
        rw [mentionsOfClauses, inductionHypothesis, List.flatMap_cons]
  rw [mentions, each]

/-- The clauses of a line name their participants one clause after the other. -/
private theorem named_clausesChars
    (governor : Agent)
    (clauses : List Content) :
    Line.named (clausesChars governor clauses) =
      clauses.flatMap fun clause =>
        Line.named (charsUnder governor clause) := by
  have separated :
      ∀ (separator : Char) (text : List Char),
        Text.isPlain separator = false →
        Line.named (separator :: text) = Line.named text :=
    fun separator text notPlain => Line.named_append notPlain [] text
  rw [clausesChars_eq_flatMap]
  induction clauses with
  | nil =>
      rfl
  | cons clause rest inductionHypothesis =>
      rw [List.flatMap_cons, List.flatMap_cons, List.cons_append,
        List.cons_append, List.append_assoc, separated _ _ (by decide),
        separated _ _ (by decide), List.singleton_append,
        Line.named_append (by decide), inductionHypothesis]

/-- The words before the clauses of a line and the clauses name their participants apart. -/
private theorem named_append_clausesChars
    (words : List Char)
    (governor : Agent)
    (clauses : List Content) :
    Line.named (words ++ clausesChars governor clauses) =
      Line.named words ++ Line.named (clausesChars governor clauses) := by
  cases clauses with
  | nil =>
      simp [clausesChars, Line.named, Line.references]
  | cons clause rest =>
      rw [clausesChars, Line.named_append (by decide)]
      exact congrArg (Line.named words ++ ·)
        (Line.named_append (by decide) [] _).symm

/-- The line of a statement names the subject that it shows and the target. -/
private theorem named_charsUnder_atomic
    {subject : Agent}
    {statement : Statement}
    (wellFormed :
      (Content.atomic subject statement).WellFormed Agent.Admissible)
    (governor : Agent) :
    Line.named (charsUnder governor (.atomic subject statement)) =
      [(Content.atomic subject statement).shownSubject governor].filter
          Agent.isConcrete ++
        statement.target?.toList.filter Agent.isConcrete := by
  rw [charsUnder_eq, bodyChars,
    Agent.named_mentionChars_append
      (admissible_shownSubject wellFormed governor),
    Statement.named_chars wellFormed.aimed]

/-- The line of joined clauses names its own agents before those of the clauses. -/
private theorem named_charsUnder_joined
    {subject : Agent}
    {connective : Connective}
    {clauses : List Content}
    (wellFormed :
      (Content.joined subject connective clauses).WellFormed
        Agent.Admissible)
    (governor : Agent) :
    Line.named (charsUnder governor (.joined subject connective clauses)) =
      [(Content.joined subject connective clauses).shownSubject
            governor].filter
          Agent.isConcrete ++
        connective.target?.toList.filter Agent.isConcrete ++
        clauses.flatMap fun clause =>
          Line.named (charsUnder (connective.governor subject) clause) := by
  rw [charsUnder_eq, bodyChars,
    Agent.named_mentionChars_append
      (admissible_shownSubject wellFormed governor),
    named_append_clausesChars, Connective.named_chars wellFormed.aimed,
    named_clausesChars, List.append_assoc]

/--
Two lists that add the same agents in the same order to any list of agents on which the
governing agent stands, if that is a participant.
-/
def AddsAlike
    (governor : Agent)
    (first second : List Agent) :
    Prop :=
  ∀ known : List Agent,
    (governor.isConcrete = true → governor ∈ known) →
      (known ++ first).eraseDups = (known ++ second).eraseDups

/-- What a list adds to another one depends on who stands on that one alone. -/
private theorem eraseDups_append_congr
    {known other : List Agent}
    (same : known.eraseDups = other.eraseDups)
    (added : List Agent) :
    (known ++ added).eraseDups = (other ++ added).eraseDups := by
  have sameMembers : ∀ agent, agent ∈ known ↔ agent ∈ other := by
    intro agent
    rw [← List.mem_eraseDups, same, List.mem_eraseDups]
  have sameRemoved : added.removeAll known = added.removeAll other := by
    simp [List.removeAll, sameMembers]
  rw [List.eraseDups_append, List.eraseDups_append, same, sameRemoved]

namespace AddsAlike

/-- Lists that add alike, with lists behind them that add alike to those who are known then. -/
theorem append
    {governor inner : Agent}
    {first second more others : List Agent}
    (alike : AddsAlike governor first second)
    (alikeBehind : AddsAlike inner more others)
    (innerKnown :
      inner.isConcrete = true →
      inner ∈ first ∨ inner = governor) :
    AddsAlike governor (first ++ more) (second ++ others) := by
  intro known governorKnown
  have innerBehind :
      inner.isConcrete = true → inner ∈ known ++ first := by
    intro isConcrete
    rcases innerKnown isConcrete with inFirst | rfl
    · exact List.mem_append_right known inFirst
    · exact List.mem_append_left first (governorKnown isConcrete)
  calc (known ++ (first ++ more)).eraseDups
    _ = (known ++ first ++ more).eraseDups := by
        rw [List.append_assoc]
    _ = (known ++ first ++ others).eraseDups :=
        alikeBehind _ innerBehind
    _ = (known ++ second ++ others).eraseDups :=
        eraseDups_append_congr (alike known governorKnown) others
    _ = (known ++ (second ++ others)).eraseDups := by
        rw [List.append_assoc]

/-- Clauses add alike if each of them does. -/
theorem flatMap
    {governor : Agent}
    {clauses : List Content}
    {first second : Content → List Agent}
    (alike :
      ∀ clause ∈ clauses,
        AddsAlike governor (first clause) (second clause)) :
    AddsAlike governor (clauses.flatMap first) (clauses.flatMap second) := by
  induction clauses with
  | nil =>
      intro known _
      rfl
  | cons clause rest inductionHypothesis =>
      rw [List.forall_mem_cons] at alike
      rw [List.flatMap_cons, List.flatMap_cons]
      exact alike.1.append (inductionHypothesis alike.2)
        fun _ => Or.inr rfl

end AddsAlike

/-- A silence that is attributed has the governing agent as its subject. -/
theorem subject_of_attributed
    {governor : Agent}
    {content : Content}
    (attributed : content.attributeSilence governor = content)
    (silent : content.isSilence = true) :
    content.subject = governor := by
  cases content with
  | atomic subject statement =>
      cases statement with
      | silence kind =>
          rw [attributeSilence_silence, Content.atomic.injEq] at attributed
          exact attributed.1.symm
      | stance kind citation => cases silent
      | disclosure kind target role => cases silent
      | finding kind target species => cases silent
      | deed kind target => cases silent
  | joined subject connective clauses => cases silent

/-- The silences of each clause are attributed if those of the joined clauses are. -/
theorem forall_attributed_of_joined
    {governor subject : Agent}
    {connective : Connective}
    {clauses : List Content}
    (attributed :
      attributeSilence governor (.joined subject connective clauses) =
        .joined subject connective clauses) :
    ∀ clause ∈ clauses,
      clause.attributeSilence (connective.governor subject) = clause := by
  rw [attributeSilence_joined, Content.joined.injEq] at attributed
  have fixed :
      clauses.map (attributeSilence (connective.governor subject)) =
        clauses.map id := by
    rw [List.map_id]
    exact attributed.2.2
  exact List.map_inj_left.mp fixed

/-- An agent that is the governing one, if it is a participant, adds nobody. -/
theorem addsAlike_nil
    {governor agent : Agent}
    (follows : agent.isConcrete = true → agent = governor) :
    AddsAlike governor ([agent].filter Agent.isConcrete) [] := by
  intro known governorKnown
  cases isConcrete : agent.isConcrete with
  | false =>
      simp [isConcrete]
  | true =>
      obtain rfl := follows isConcrete
      have isKnown := governorKnown isConcrete
      simp [isConcrete, List.eraseDups_append, List.removeAll, isKnown]

/-- A subject that a line does not show is known already. -/
private theorem addsAlike_shownSubject
    {governor : Agent}
    {content : Content}
    (attributed : content.attributeSilence governor = content) :
    AddsAlike governor
      ([content.subject].filter Agent.isConcrete)
      ([content.shownSubject governor].filter Agent.isConcrete) := by
  by_cases hidden :
      content.isSilence = true ∨ content.subject = governor
  · have isGovernor : content.subject = governor :=
      hidden.elim (subject_of_attributed attributed) id
    rw [shownSubject, if_pos hidden]
    exact addsAlike_nil fun _ => isGovernor
  · rw [shownSubject, if_neg hidden]
    exact fun _ _ => rfl

/-- The agent that governs the clauses is the addressee or the subject. -/
theorem governor_mem_filter
    {subject : Agent}
    {connective : Connective}
    (isConcrete : (connective.governor subject).isConcrete = true) :
    connective.governor subject ∈
      [subject].filter Agent.isConcrete ++
        connective.target?.toList.filter Agent.isConcrete := by
  cases named : connective.target? with
  | none =>
      rw [Connective.governor_of_no_target? named] at isConcrete ⊢
      simp [isConcrete]
  | some target =>
      rw [Connective.governor_of_target? named] at isConcrete ⊢
      simp [isConcrete]

/--
Once the governing agent is known, a content whose silences are attributed mentions the
same participants as its line names, in the same order.
-/
private theorem addsAlike_mentions
    {governor : Agent}
    {content : Content}
    (wellFormed : content.WellFormed Agent.Admissible)
    (attributed : content.attributeSilence governor = content) :
    AddsAlike governor
      (content.mentions.filter Agent.isConcrete)
      (Line.named (charsUnder governor content)) := by
  induction content generalizing governor with
  | atomic subject statement =>
      rw [named_charsUnder_atomic wellFormed, mentions,
        ← List.singleton_append, List.filter_append]
      exact (addsAlike_shownSubject attributed).append
        (fun _ _ => rfl) fun _ => Or.inr rfl
  | joined subject connective clauses inductionHypothesis =>
      have sameTarget :
          AddsAlike governor
            (connective.target?.toList.filter Agent.isConcrete)
            (connective.target?.toList.filter Agent.isConcrete) :=
        fun _ _ => rfl
      have head :=
        (addsAlike_shownSubject attributed).append sameTarget
          fun _ => Or.inr rfl
      have eachAttributed :
          ∀ clause ∈ clauses,
            clause.attributeSilence (connective.governor subject) =
              clause :=
        forall_attributed_of_joined attributed
      rw [named_charsUnder_joined wellFormed, mentions_joined,
        List.filter_append, List.filter_flatMap,
        ← List.singleton_append, List.filter_append]
      refine head.append (.flatMap fun clause member => ?_)
        fun isConcrete => Or.inl (governor_mem_filter isConcrete)
      exact inductionHypothesis clause member
        (wellFormed.clause member) (eachAttributed clause member)

/-- The line of a content whose silences are attributed names whom the content mentions. -/
theorem agents_eq_named_chars
    {content : Content}
    (wellFormed : content.WellFormed Agent.Admissible)
    (attributed : content.attributeSilence .unspecified = content) :
    content.agents = (Line.named content.chars).eraseDups := by
  have alike := addsAlike_mentions wellFormed attributed
  rw [charsUnder_unspecified] at alike
  exact alike [] fun isConcrete => absurd isConcrete (by decide)

end Content

end WerewolfSpeech
