import WerewolfSpeech.Directory
import WerewolfSpeech.Proofs.Content.Nodes
import WerewolfSpeech.Proofs.Reading.Phrase

namespace WerewolfSpeech

/-!
# Lenient reading extends strict reading

The two modes treat a text alike until a clause fails. From there on the strict result is
an error, while the lenient result has a skipped turn in the place of the clause, which
nothing above it removes: it stays where it is, or the line that it is a clause of fails as
well and is skipped as a whole. So the modes are compared by one relation between results,
which passes from the clauses of a line to the line.
-/

namespace Reading

/-- How the lenient result of a text may differ from the strict one. -/
inductive Relaxes :
    Except Diagnosis Content →
    Except Diagnosis Content →
    Prop where
  /-- Both readings make the same of the text. -/
  | read
      (content : Content) :
      Relaxes (.ok content) (.ok content)
  /-- What strict reading refuses has become a content with a skipped turn. -/
  | degraded
      (diagnosis : Diagnosis)
      {content : Content}
      (hasSkip : content.HasSkip) :
      Relaxes (.error diagnosis) (.ok content)
  /-- Both readings refuse the text. -/
  | refused
      (strictly leniently : Diagnosis) :
      Relaxes (.error strictly) (.error leniently)

/-- How the clauses of a list may differ in the two modes. -/
inductive RelaxesEach :
    Except Diagnosis (List Content) →
    Except Diagnosis (List Content) →
    Prop where
  /-- Every clause is read the same. -/
  | read
      (clauses : List Content) :
      RelaxesEach (.ok clauses) (.ok clauses)
  /-- A clause that strict reading refuses has become one with a skipped turn. -/
  | degraded
      (diagnosis : Diagnosis)
      {clauses : List Content}
      (someSkip : ∃ clause ∈ clauses, clause.HasSkip) :
      RelaxesEach (.error diagnosis) (.ok clauses)
  /-- Both readings refuse the list itself. -/
  | refused
      (strictly leniently : Diagnosis) :
      RelaxesEach (.error strictly) (.error leniently)

/-- Lenient reading makes something of every clause. -/
private theorem Relaxes.exists_clause
    {strictly leniently : Except Diagnosis Content}
    (relaxes : Relaxes strictly leniently) :
    ∃ content,
      clause .lenient leniently = .ok content ∧
        Relaxes strictly (.ok content) := by
  cases relaxes with
  | read content =>
      exact ⟨content, rfl, .read content⟩
  | degraded diagnosis hasSkip =>
      exact ⟨_, rfl, .degraded diagnosis hasSkip⟩
  | refused strictly leniently =>
      exact ⟨.skip, rfl, .degraded strictly Content.hasSkip_skip⟩

section Steps

variable {readStrictly readLeniently : List Char → Except Diagnosis Content}

private theorem relaxesEach_mapM
    (relaxes :
      ∀ group, Relaxes (readStrictly group) (readLeniently group))
    (groups : List (List Char)) :
    RelaxesEach
      (groups.mapM fun group => clause .strict (readStrictly group))
      (groups.mapM fun group => clause .lenient (readLeniently group)) := by
  induction groups with
  | nil =>
      exact .read []
  | cons group rest inductionHypothesis =>
      obtain ⟨content, clauseRead, clauseRelaxes⟩ :=
        (relaxes group).exists_clause
      have strictly :
          clause .strict (readStrictly group) = readStrictly group := by
        cases readStrictly group <;> rfl
      rw [List.mapM_cons, List.mapM_cons, clauseRead, strictly]
      -- The first clause decides, unless strict reading gets past it.
      generalize readStrictly group = first at clauseRelaxes ⊢
      generalize
        (rest.mapM fun group => clause .strict (readStrictly group)) =
          strictRest at inductionHypothesis ⊢
      generalize
        (rest.mapM fun group => clause .lenient (readLeniently group)) =
          lenientRest at inductionHypothesis ⊢
      cases inductionHypothesis with
      | read clauses =>
          cases clauseRelaxes with
          | read _ =>
              exact .read (content :: clauses)
          | degraded diagnosis hasSkip =>
              exact .degraded diagnosis
                ⟨content, List.mem_cons_self, hasSkip⟩
      | degraded diagnosis someSkip =>
          obtain ⟨other, member, hasSkip⟩ := someSkip
          have stillThere :
              ∃ clause ∈ content :: _, clause.HasSkip :=
            ⟨other, List.mem_cons_of_mem content member, hasSkip⟩
          cases clauseRelaxes with
          | read _ =>
              exact .degraded diagnosis stillThere
          | degraded earlier _ =>
              exact .degraded earlier stillThere
      | refused strictRefusal lenientRefusal =>
          cases clauseRelaxes with
          | read _ =>
              exact .refused strictRefusal lenientRefusal
          | degraded earlier _ =>
              exact .refused earlier lenientRefusal

private theorem relaxesEach_clauses
    (relaxes :
      ∀ group, Relaxes (readStrictly group) (readLeniently group))
    (list : List Char) :
    RelaxesEach
      (clauses .strict readStrictly list)
      (clauses .lenient readLeniently list) := by
  unfold clauses
  split
  · exact relaxesEach_mapM relaxes _
  · exact .refused _ _

/-- Composing clauses keeps the skipped turns that are among them. -/
private theorem relaxes_compose
    {strictly leniently : Except Diagnosis (List Content)}
    (relaxes : RelaxesEach strictly leniently)
    (subject : Agent)
    (connective : List Content → Connective) :
    Relaxes
      (strictly >>= fun clauses =>
        Content.compose subject (connective clauses) clauses)
      (leniently >>= fun clauses =>
        Content.compose subject (connective clauses) clauses) := by
  cases relaxes with
  | read clauses =>
      change
        Relaxes
          (Content.compose subject (connective clauses) clauses)
          (Content.compose subject (connective clauses) clauses)
      cases Content.compose subject (connective clauses) clauses with
      | ok content => exact .read content
      | error diagnosis => exact .refused diagnosis diagnosis
  | @degraded diagnosis clauses someSkip =>
      change
        Relaxes (.error diagnosis)
          (Content.compose subject (connective clauses) clauses)
      cases composed :
          Content.compose subject (connective clauses) clauses with
      | ok content =>
          obtain ⟨_, rfl⟩ := Content.compose_eq_ok_iff.mp composed
          exact .degraded diagnosis (Content.hasSkip_join.mpr someSkip)
      | error refusal =>
          exact .refused diagnosis refusal
  | refused strictRefusal lenientRefusal =>
      exact .refused strictRefusal lenientRefusal

private theorem relaxes_phrase
    {found : Phrase}
    (formed : found.Formed)
    (relaxes :
      ∀ group, Relaxes (readStrictly group) (readLeniently group))
    (text : List Char) :
    Relaxes
      (phrase .strict readStrictly text found)
      (phrase .lenient readLeniently text found) := by
  have relaxesJoined :
      ∀ {subject connective list},
        found.Joins subject connective list →
        Relaxes
          (phrase .strict readStrictly text found)
          (phrase .lenient readLeniently text found) := by
    intro subject connective list joins
    rw [phrase_of_joins joins, phrase_of_joins joins]
    exact relaxes_compose (relaxesEach_clauses relaxes list) subject
      connective
  have relaxesStated :
      ∀ {subject statement},
        found.States subject statement →
        Relaxes
          (phrase .strict readStrictly text found)
          (phrase .lenient readLeniently text found) := by
    intro subject statement states
    rw [phrase_of_states states, phrase_of_states states]
    exact .read _
  cases lenientResult : phrase .lenient readLeniently text found with
  | ok content =>
      rw [← lenientResult]
      rcases states_or_joins formed lenientResult with
          ⟨_, _, states⟩ | ⟨_, _, _, joins⟩
      · exact relaxesStated states
      · exact relaxesJoined joins
  | error lenientRefusal =>
      cases strictResult : phrase .strict readStrictly text found with
      | ok content =>
          rw [← lenientResult, ← strictResult]
          rcases states_or_joins formed strictResult with
              ⟨_, _, states⟩ | ⟨_, _, _, joins⟩
          · exact relaxesStated states
          · exact relaxesJoined joins
      | error strictRefusal =>
          exact .refused strictRefusal lenientRefusal

private theorem relaxes_line
    (relaxes :
      ∀ group, Relaxes (readStrictly group) (readLeniently group))
    (text : List Char) :
    Relaxes
      (line .strict readStrictly text)
      (line .lenient readLeniently text) := by
  unfold line
  split
  · next found phrased =>
      obtain ⟨formed, _⟩ := Phrase.ofChars?_eq_some_iff.mp phrased
      exact relaxes_phrase formed relaxes _
  · exact .refused _ _

end Steps

/-- Within any number of levels the lenient result relaxes the strict one. -/
theorem relaxes_within
    (limit levels : Nat)
    (text : List Char) :
    Relaxes
      (within Content .strict limit levels text)
      (within Content .lenient limit levels text) := by
  induction levels generalizing text with
  | zero =>
      apply relaxes_line
      intro group
      exact .refused _ _
  | succ levels inductionHypothesis =>
      apply relaxes_line
      exact inductionHypothesis

end Reading

/-- What strict reading makes of a text, lenient reading makes of it too; else it skips. -/
theorem Content.relaxes_readOrSkip
    (maxDepth : Nat)
    (text : String) :
    Reading.Relaxes (read maxDepth text) (.ok (readOrSkip maxDepth text)) := by
  have relaxes :=
    Reading.relaxes_within maxDepth maxDepth text.toList
  unfold read readOrSkip Reading.strictly Reading.leniently
  generalize Reading.within Content .strict maxDepth maxDepth text.toList =
    strictly at relaxes ⊢
  generalize Reading.within Content .lenient maxDepth maxDepth text.toList =
    leniently at relaxes ⊢
  cases relaxes with
  | read content => exact .read content
  | degraded diagnosis hasSkip => exact .degraded diagnosis hasSkip
  | refused strictly leniently =>
      exact .degraded strictly Content.hasSkip_skip

/--
A text that is read strictly is read leniently as the same content, and the directory is the
same afterwards. If strict reading refuses the text, a turn is skipped somewhere in the
content that lenient reading makes of it.
-/
theorem Directory.readOrSkip_extends_read
    (clock : Agent → Nat)
    (directory : Directory)
    (maxDepth : Nat)
    (text : String) :
    match directory.read clock maxDepth text with
    | .ok (content, after) =>
        directory.readOrSkip clock maxDepth text = (content, after)
    | .error _ =>
        ∃ node ∈ (directory.readOrSkip clock maxDepth text).1.nodes,
          node.isSkip = true := by
  have relaxes := Content.relaxes_readOrSkip maxDepth text
  unfold Directory.read Directory.readOrSkip
  generalize Content.read maxDepth text = strictly at relaxes ⊢
  generalize Content.readOrSkip maxDepth text = content at relaxes ⊢
  cases relaxes with
  | read _ => rfl
  | degraded _ hasSkip => exact hasSkip

end WerewolfSpeech
