import WerewolfSpeech.Proofs.Line.Word

namespace WerewolfSpeech.Line

/-!
# Words with gaps between them

`Spaced` says that a text consists of given words, each of which is followed by a gap of
blanks except for the last one. Cutting a line finds exactly those words, and the clause
list that begins at the first parenthesis, so the cut of a line and the relation determine
each other.
-/

/-- A non-empty run of blanks. -/
def IsGap
    (gap : List Char) :
    Prop :=
  gap ≠ [] ∧ ∀ character ∈ gap, Text.isBlank character = true

/-- Words in a text with a gap between each two of them and nothing else. -/
inductive Spaced : List Word → List Char → Prop where
  | last
      (word : Word) :
      Spaced [word] word
  | more
      (word : Word)
      {gap : List Char}
      {words : List Word}
      {text : List Char}
      (isGap : IsGap gap)
      (rest : Spaced words text) :
      Spaced (word :: words) (word ++ gap ++ text)

/-- A non-empty run of characters that are not blank. -/
def IsWord
    (word : Word) :
    Prop :=
  word ≠ [] ∧ ∀ character ∈ word, Text.isBlank character = false

/-- A word of plain characters is a word. -/
theorem IsWord.of_isPlain
    {word : Word}
    (plain : word.IsPlain) :
    IsWord word :=
  ⟨plain.1, fun character member =>
    Text.isBlank_of_isPlain (plain.2 character member)⟩

/-- A single space is a gap. -/
theorem isGap_space :
    IsGap [' '] :=
  ⟨by simp, List.all_eq_true.mp (by decide)⟩

/-- Words that are one space apart are spaced. -/
theorem spaced_intercalate
    {words : List Word}
    (someWord : words ≠ []) :
    Spaced words ([' '].intercalate words) := by
  induction words with
  | nil =>
      exact absurd rfl someWord
  | cons word rest inductionHypothesis =>
      cases rest with
      | nil =>
          rw [List.intercalate_singleton]
          exact .last word
      | cons second others =>
          rw [List.intercalate_cons_cons]
          exact .more word isGap_space (inductionHypothesis (by simp))

/-- What holds of the space and of the characters of words holds of words one space apart. -/
theorem forall_mem_intercalate
    {property : Char → Prop}
    {words : List Word}
    (ofSpace : property ' ')
    (ofWord : ∀ word ∈ words, ∀ character ∈ word, property character) :
    ∀ character ∈ [' '].intercalate words, property character := by
  induction words with
  | nil =>
      simp
  | cons word rest inductionHypothesis =>
      have ofRest :=
        inductionHypothesis fun other member =>
          ofWord other (List.mem_cons_of_mem word member)
      cases rest with
      | nil =>
          rw [List.intercalate_singleton]
          exact ofWord word List.mem_cons_self
      | cons second others =>
          rw [List.intercalate_cons_cons]
          refine List.forall_mem_append.mpr
            ⟨List.forall_mem_append.mpr
              ⟨ofWord word List.mem_cons_self, ?_⟩, ofRest⟩
          simpa using ofSpace

/-- Words are split at every blank. -/
theorem wordsOf_append_cons
    {blank : Char}
    (isBlank : Text.isBlank blank = true)
    (front behind : List Char) :
    wordsOf (front ++ blank :: behind) =
      wordsOf front ++ wordsOf behind := by
  unfold wordsOf
  rw [List.splitOnP_append_cons front behind isBlank,
    List.filter_append]

private theorem wordsOf_blanks_append
    {blanks : List Char}
    (allBlank : ∀ character ∈ blanks, Text.isBlank character = true)
    (text : List Char) :
    wordsOf (blanks ++ text) = wordsOf text := by
  induction blanks with
  | nil =>
      rfl
  | cons blank rest inductionHypothesis =>
      have firstBlank := allBlank blank List.mem_cons_self
      have dropped :=
        wordsOf_append_cons firstBlank [] (rest ++ text)
      have restDropped :=
        inductionHypothesis fun character member =>
          allBlank character (List.mem_cons_of_mem blank member)
      rw [List.cons_append, ← restDropped]
      simpa [wordsOf] using dropped

private theorem wordsOf_word
    {word : Word}
    (isWord : IsWord word) :
    wordsOf word = [word] := by
  unfold wordsOf
  rw [List.splitOnP_eq_singleton isWord.2]
  simp [isWord.1]

private theorem wordsOf_word_append
    {word gap : List Char}
    (isWord : IsWord word)
    (isGap : IsGap gap)
    (text : List Char) :
    wordsOf (word ++ gap ++ text) = word :: wordsOf text := by
  rcases isGap with ⟨nonempty, allBlank⟩
  cases gap with
  | nil =>
      exact absurd rfl nonempty
  | cons blank rest =>
      have firstBlank := allBlank blank List.mem_cons_self
      rw [List.append_assoc, List.cons_append,
        wordsOf_append_cons firstBlank, wordsOf_word isWord,
        wordsOf_blanks_append fun character member =>
          allBlank character (List.mem_cons_of_mem blank member)]
      rfl

/-- Words with gaps between them are the words of the text, also before more blanks. -/
theorem wordsOf_of_spaced
    {words : List Word}
    {text blanks : List Char}
    (spaced : Spaced words text)
    (areWords : ∀ word ∈ words, IsWord word)
    (allBlank : ∀ character ∈ blanks, Text.isBlank character = true) :
    wordsOf (text ++ blanks) = words := by
  induction spaced with
  | last word =>
      have isWord := areWords word List.mem_cons_self
      cases blanks with
      | nil =>
          rw [List.append_nil]
          exact wordsOf_word isWord
      | cons blank rest =>
          have alone :=
            wordsOf_word_append isWord ⟨by simp, allBlank⟩ []
          have nothing : wordsOf [] = [] := by
            simp [wordsOf]
          rw [List.append_nil, nothing] at alone
          exact alone
  | more word isGap rest inductionHypothesis =>
      have isWord := areWords word List.mem_cons_self
      rw [List.append_assoc _ _ blanks,
        wordsOf_word_append isWord isGap,
        inductionHypothesis fun other member =>
          areWords other (List.mem_cons_of_mem word member)]

/-- Spaced words are not an empty text. -/
theorem Spaced.ne_nil
    {words : List Word}
    {text : List Char}
    (spaced : Spaced words text)
    (areWords : ∀ word ∈ words, IsWord word) :
    text ≠ [] := by
  cases spaced with
  | last word =>
      exact (areWords _ List.mem_cons_self).1
  | more word isGap rest =>
      have nonempty := (areWords _ List.mem_cons_self).1
      simp [nonempty]

/-- What holds of blanks and of the characters of the words holds of the whole text. -/
theorem Spaced.forall_mem
    {property : Char → Prop}
    {words : List Word}
    {text : List Char}
    (spaced : Spaced words text)
    (ofWord : ∀ word ∈ words, ∀ character ∈ word, property character)
    (ofBlank :
      ∀ character, Text.isBlank character = true → property character) :
    ∀ character ∈ text, property character := by
  induction spaced with
  | last word =>
      exact ofWord word List.mem_cons_self
  | more word isGap rest inductionHypothesis =>
      have ofRest :=
        inductionHypothesis fun other member =>
          ofWord other (List.mem_cons_of_mem word member)
      refine List.forall_mem_append.mpr
        ⟨List.forall_mem_append.mpr
          ⟨ofWord word List.mem_cons_self, ?_⟩, ofRest⟩
      intro character member
      exact ofBlank character (isGap.2 character member)

/-- The characters of the words are characters of the text. -/
theorem Spaced.mem_text
    {words : List Word}
    {text : List Char}
    (spaced : Spaced words text)
    {word : Word}
    (wordMember : word ∈ words)
    {character : Char}
    (member : character ∈ word) :
    character ∈ text := by
  induction spaced with
  | last only =>
      rw [List.mem_singleton] at wordMember
      rwa [wordMember] at member
  | more first isGap rest inductionHypothesis =>
      rcases List.mem_cons.mp wordMember with isFirst | inRest
      · subst word
        simp [member]
      · exact List.mem_append_right _ (inductionHypothesis inRest)

/-- After its leading blanks a text does not begin with a blank. -/
theorem startsBlank_trimLeft
    (text : List Char) :
    startsBlank (Text.trimLeft text) = false := by
  have head := List.head?_dropWhile_not Text.isBlank text
  unfold startsBlank Text.trimLeft
  cases first : (text.dropWhile Text.isBlank).head? with
  | none =>
      rfl
  | some character =>
      rw [first] at head
      simpa using head

/-- A trimmed text has no blanks at its ends. -/
theorem ends_trim
    (text : List Char) :
    startsBlank (Text.trim text) = false ∧
      endsBlank (Text.trim text) = false := by
  constructor
  · have front : Text.trim text <+: Text.trimLeft text := by
      rw [Text.trim, Text.trimRight, ← List.reverse_suffix,
        List.reverse_reverse]
      exact List.dropWhile_suffix Text.isBlank
    obtain ⟨behind, whole⟩ := front
    have starts := startsBlank_trimLeft text
    rw [← whole] at starts
    cases trimmed : Text.trim text with
    | nil =>
        rfl
    | cons first rest =>
        rw [trimmed] at starts
        exact starts
  · rw [endsBlank, Text.trim, Text.trimRight, List.getLast?_reverse]
    exact startsBlank_trimLeft (Text.trimLeft text).reverse

/-- How a text ends is decided by its last part. -/
theorem endsBlank_append
    {behind : List Char}
    (nonempty : behind ≠ [])
    (front : List Char) :
    endsBlank (front ++ behind) = endsBlank behind := by
  obtain ⟨lastCharacter, ends⟩ :=
    Option.ne_none_iff_exists'.mp
      (mt List.getLast?_eq_none_iff.mp nonempty)
  rw [endsBlank, endsBlank, List.getLast?_append, ends, Option.some_or]

/-- A text ends with a gap behind which nothing follows. -/
theorem IsGap.endsBlank
    {gap : List Char}
    (isGap : IsGap gap) :
    Line.endsBlank gap = true := by
  rcases isGap with ⟨nonempty, allBlank⟩
  unfold Line.endsBlank
  rw [List.getLast?_eq_some_getLast nonempty]
  exact allBlank _ (List.getLast_mem nonempty)

/-- A text that does not begin with a blank is a word, perhaps a gap, and the rest. -/
private theorem exists_word_gap
    {text : List Char}
    (startNotBlank : startsBlank text = false)
    (nonempty : text ≠ []) :
    ∃ word, IsWord word ∧
      (text = word ∨
        ∃ gap rest,
          IsGap gap ∧
            startsBlank rest = false ∧
              text = word ++ gap ++ rest) := by
  have cut :
      text.takeWhile (fun character => !Text.isBlank character) ++
          text.dropWhile (fun character => !Text.isBlank character) =
        text :=
    List.takeWhile_append_dropWhile
  have isWord :
      IsWord
        (text.takeWhile fun character => !Text.isBlank character) := by
    constructor
    · cases text with
      | nil =>
          exact absurd rfl nonempty
      | cons first rest =>
          simp only [startsBlank, List.head?_cons,
            Option.any_some] at startNotBlank
          simp [startNotBlank]
    · intro character member
      simpa using List.mem_takeWhile_imp member
  refine ⟨_, isWord, ?_⟩
  cases behind :
      text.dropWhile (fun character => !Text.isBlank character) with
  | nil =>
      left
      rw [behind, List.append_nil] at cut
      exact cut.symm
  | cons blank rest =>
      right
      have isBlank : Text.isBlank blank = true := by
        have head :=
          List.head?_dropWhile_not
            (fun character => !Text.isBlank character) text
        rw [behind] at head
        simpa using head
      refine
        ⟨(blank :: rest).takeWhile Text.isBlank,
          Text.trimLeft (blank :: rest),
          ⟨by simp [isBlank], fun _ member =>
            List.mem_takeWhile_imp member⟩,
          startsBlank_trimLeft (blank :: rest), ?_⟩
      rw [List.append_assoc, Text.trimLeft,
        List.takeWhile_append_dropWhile, ← behind, cut]

/-- A text without blanks at its ends has its words spaced out. -/
theorem spaced_wordsOf
    (text : List Char)
    (startNotBlank : startsBlank text = false)
    (endNotBlank : endsBlank text = false)
    (nonempty : text ≠ []) :
    Spaced (wordsOf text) text ∧
      ∀ word ∈ wordsOf text, IsWord word := by
  obtain ⟨word, isWord, alone | ⟨gap, rest, isGap, restStart, shape⟩⟩ :=
    exists_word_gap startNotBlank nonempty
  · subst alone
    rw [wordsOf_word isWord]
    refine ⟨.last text, ?_⟩
    intro other member
    rw [List.mem_singleton] at member
    rwa [member]
  · have restNonempty : rest ≠ [] := by
      rintro rfl
      rw [shape, List.append_nil, endsBlank_append isGap.1,
        isGap.endsBlank] at endNotBlank
      cases endNotBlank
    have shorter : rest.length < text.length := by
      have wordLength := List.length_pos_iff.mpr isWord.1
      rw [shape, List.length_append, List.length_append]
      omega
    have restEnd : endsBlank rest = false := by
      rwa [shape, endsBlank_append restNonempty] at endNotBlank
    obtain ⟨spaced, areWords⟩ :=
      spaced_wordsOf rest restStart restEnd restNonempty
    rw [shape, wordsOf_word_append isWord isGap]
    refine ⟨.more word isGap spaced, ?_⟩
    intro other member
    rcases List.mem_cons.mp member with isFirst | inRest
    · rwa [isFirst]
    · exact areWords other inRest
termination_by text.length

end WerewolfSpeech.Line
