import WerewolfSpeech.Proofs.Reading.Canonical

namespace WerewolfSpeech

/-!
# Recognition

Shapes are tried in a fixed order, but the order decides nothing: a text has one shape at
most. What is read from a text has the shape that the text is recognised by, except that a
request may name its addressee or leave it to its clause. The canonical line of a request
names the addressee, so the shape of that line is always the shape of the content.
-/

/-- The shape that a statement is written in. -/
def Statement.shape :
    Statement →
    Shape
  | .silence _ => .bare
  | .stance _ _ => .agreement
  | .disclosure _ _ _ => .disclosure
  | .finding _ _ _ => .report
  | .deed _ _ => .action

/-- The shape that a connective is written in; a request names its addressee. -/
def Connective.shape :
    Connective →
    Shape
  | .request _ => .addressed
  | .inquire _ => .addressed
  | .day _ => .dated
  | _ => .connective

/-- The shape that a content is written in. -/
def Content.shape :
    Content →
    Shape
  | .atomic _ statement => statement.shape
  | .joined _ connective _ => connective.shape

namespace Shape

private theorem shape_of_phrase?
    {shape : Shape}
    {line : Line}
    {phrase : Phrase}
    (found : shape.phrase? line = some phrase) :
    phrase.shape = shape := by
  -- Whatever the tests are, each shape ends with a phrase of its own.
  cases shape <;>
    · simp only [phrase?, Phrase.bare?, Phrase.agreement?,
        Phrase.disclosure?, Phrase.report?, Phrase.action?,
        Phrase.addressed?, Phrase.connective?, Phrase.dated?] at found
      split at found
      · simp only [Option.bind_eq_bind, Option.bind_eq_some_iff,
          Option.pure_def, Option.some.injEq] at found
        grind [Phrase.shape]
      · cases found

/-- A text has a shape exactly if it makes a phrase of that shape. -/
private theorem fits_iff
    {shape : Shape}
    {text : List Char} :
    shape.fits text = true ↔
      ∃ phrase,
        Phrase.ofChars? text = some phrase ∧ phrase.shape = shape := by
  constructor
  · intro fits
    obtain ⟨phrase, found⟩ := Option.isSome_iff_exists.mp fits
    obtain ⟨line, cut, found⟩ := Option.bind_eq_some_iff.mp found
    obtain ⟨formed, rfl⟩ := Phrase.formed_of_phrase? found
    have laid : Line.Laid phrase.line text :=
      Line.laid_of_ofChars? cut (by simp [Phrase.line])
    exact ⟨phrase, Phrase.ofChars?_eq_some_iff.mpr ⟨formed, laid⟩,
      shape_of_phrase? found⟩
  · rintro ⟨phrase, found, rfl⟩
    obtain ⟨formed, laid⟩ := Phrase.ofChars?_eq_some_iff.mp found
    rw [fits, laid.ofChars?_eq_some, Option.bind_some,
      Phrase.phrase?_line formed]
    rfl

/-- A text has one shape at most. -/
private theorem eq_of_fits
    {first second : Shape}
    {text : List Char}
    (firstFits : first.fits text = true)
    (secondFits : second.fits text = true) :
    first = second := by
  obtain ⟨phrase, found, rfl⟩ := fits_iff.mp firstFits
  obtain ⟨other, otherFound, rfl⟩ := fits_iff.mp secondFits
  rw [found] at otherFound
  rw [Option.some.inj otherFound]

/-- A text that has a shape has no blanks at its ends. -/
private theorem ends_of_fits
    {shape : Shape}
    {text : List Char}
    (fits : shape.fits text = true) :
    Line.startsBlank text = false ∧ Line.endsBlank text = false := by
  obtain ⟨phrase, found, _⟩ := fits_iff.mp fits
  exact (Phrase.ofChars?_eq_some_iff.mp found).2.ends.2

/-- Shapes that are tried in any order find the one that the text has. -/
theorem find?_eq_some_iff
    {order : List Shape}
    {text : List Char}
    {shape : Shape}
    (complete : order.Perm Shape.order) :
    order.find? (fun shape => shape.fits text) = some shape ↔
      shape.fits text = true := by
  constructor
  · intro found
    simpa using List.find?_some found
  · intro fits
    have tried : shape ∈ order := complete.mem_iff.mpr shape.mem_order
    cases found : order.find? fun shape => shape.fits text with
    | none =>
        exact absurd fits (List.find?_eq_none.mp found shape tried)
    | some other =>
        have otherFits := List.find?_some found
        rw [eq_of_fits otherFits fits]

/-- The order in which shapes are tried does not matter. -/
private theorem find?_of_perm
    {order : List Shape}
    (complete : order.Perm Shape.order)
    (text : List Char) :
    order.find? (fun shape => shape.fits (Text.trim text)) =
      recognize? text := by
  ext shape
  rw [find?_eq_some_iff complete, recognize?,
    find?_eq_some_iff (.refl Shape.order)]

/-- A text is recognised by the shape of the phrase that its trimmed form makes. -/
theorem recognize?_eq_some_iff
    {shape : Shape}
    {text : List Char} :
    recognize? text = some shape ↔
      ∃ phrase,
        Phrase.ofChars? (Text.trim text) = some phrase ∧
          phrase.shape = shape := by
  rw [recognize?, find?_eq_some_iff (.refl Shape.order), fits_iff]

/-- A text that is laid out as the line of a phrase is recognised by its shape. -/
private theorem recognize?_of_laid
    {phrase : Phrase}
    {text : List Char}
    (formed : phrase.Formed)
    (laid : Line.Laid phrase.line (Text.trim text)) :
    recognize? text = some phrase.shape :=
  recognize?_eq_some_iff.mpr
    ⟨phrase, Phrase.ofChars?_eq_some_iff.mpr ⟨formed, laid⟩, rfl⟩

end Shape

namespace Content

/-- The line of a well-formed content is laid out as a phrase of the shape of the content. -/
private theorem exists_phrase_charsUnder
    {content : Content}
    (wellFormed : content.WellFormed Agent.Admissible)
    (governor : Agent) :
    ∃ phrase : Phrase,
      phrase.Formed ∧
        Line.Laid phrase.line (charsUnder governor content) ∧
          phrase.shape = content.shape := by
  cases content with
  | atomic subject statement =>
      have takesSubject :=
        takesSubject_shownSubject governor subject statement
      rw [charsUnder_eq, bodyChars]
      refine ⟨_, Statement.formed_phrase takesSubject wellFormed.aimed,
        Statement.laid_chars takesSubject wellFormed.aimed, ?_⟩
      cases statement <;> rfl
  | joined subject connective clauses =>
      have opens :=
        Connective.opens_phrase
          (admissible_shownSubject wellFormed governor) wellFormed.aimed
      have someGroup :
          clauses.map (charsUnder (connective.governor subject)) ≠ [] := by
        simpa using wellFormed.someClause
      obtain ⟨list, laid, _⟩ :=
        opens.laid someGroup (isClause_of_mem_charsUnder wellFormed)
      rw [charsUnder_joined]
      refine ⟨_, opens.formed list, laid, ?_⟩
      cases connective <;> rfl

/-- The canonical line of a well-formed content is recognised by the shape of the content. -/
theorem recognize?_text
    {content : Content}
    (wellFormed : content.WellFormed Agent.Admissible) :
    Shape.recognize? content.text.toList = some content.shape := by
  obtain ⟨phrase, formed, laid, sameShape⟩ :=
    exists_phrase_charsUnder wellFormed .unspecified
  rw [toList_text, ← sameShape]
  rw [← laid.trim] at laid
  exact Shape.recognize?_of_laid formed laid

/-- A phrase that states something has the shape of what it states. -/
private theorem shape_of_states
    {phrase : Phrase}
    {subject : Agent}
    {statement : Statement}
    (states : phrase.States subject statement) :
    phrase.shape = (state subject statement).shape := by
  cases states <;> rfl

/-- A phrase that joins clauses has the shape of the result, or it is a bare request. -/
private theorem shape_of_joins
    {phrase : Phrase}
    {subject : Agent}
    {connective : List Content → Connective}
    {list : List Char}
    (joins : phrase.Joins subject connective list)
    (clauses : List Content) :
    phrase.shape = (join subject (connective clauses) clauses).shape ∨
      (join subject (connective clauses) clauses).operator? =
          some .request ∧
        phrase.shape = .connective := by
  cases joins with
  | addressed addresses list subjectRead targetRead =>
      rcases List.mem_pair.mp addresses with rfl | rfl <;>
        exact Or.inl rfl
  | @connective _ _ operator connects list subjectRead =>
      cases operator with
      | request => exact Or.inr ⟨rfl, rfl⟩
      | inquire => exact absurd connects (by decide)
      | day => exact absurd connects (by decide)
      | _ => exact Or.inl rfl
  | dated list subjectRead dayRead => exact Or.inl rfl

end Content

namespace Reading

/-- What a line is read as has the shape of the line, or it is a request. -/
private theorem recognize?_of_line
    {mode : Mode}
    {readClause : List Char → Except Diagnosis Content}
    {text : List Char}
    {content : Content}
    (succeeds : line mode readClause text = .ok content) :
    Shape.recognize? text = some content.shape ∨
      content.operator? = some .request ∧
        Shape.recognize? text = some .connective := by
  cases readAs_of_line succeeds with
  | stated formed laid states =>
      rw [Shape.recognize?_of_laid formed laid,
        Content.shape_of_states states]
      exact Or.inl rfl
  | joined formed laid joins _ _ _ =>
      rw [Shape.recognize?_of_laid formed laid]
      simpa using Content.shape_of_joins joins _

end Reading

namespace Shape

/--
The shapes exclude each other. A text has one shape at most, and none if there are blanks
at its ends, so it is recognised by the same shape in whatever order the shapes are tried.
What is read from the text has this shape, unless it is a request that names no addressee;
and what is read is recognised from its canonical line by its own shape.
-/
theorem recognize?_exclusive
    (text : String) :
    (∀ first second : Shape,
        first.fits text.toList = true →
        second.fits text.toList = true →
        first = second) ∧
      (∀ shape : Shape,
        shape.fits text.toList = true →
        Line.startsBlank text.toList = false ∧
          Line.endsBlank text.toList = false) ∧
        (∀ order : List Shape,
          order.Perm Shape.order →
          order.find? (fun shape => shape.fits (Text.trim text.toList)) =
            recognize? text.toList) ∧
          ∀ maxDepth content,
            Content.read maxDepth text = .ok content →
            (recognize? text.toList = some content.shape ∨
                content.operator? = some .request ∧
                  recognize? text.toList = some .connective) ∧
              recognize? content.text.toList = some content.shape := by
  refine ⟨fun _ _ => eq_of_fits, fun _ => ends_of_fits,
    fun _ complete => find?_of_perm complete text.toList, ?_⟩
  intro maxDepth content succeeds
  have asLine :
      Reading.line .strict (Reading.beneath .strict maxDepth maxDepth)
          text.toList =
        .ok content := by
    rw [← Reading.beneath_succ]
    exact succeeds
  exact ⟨Reading.recognize?_of_line asLine,
    Content.recognize?_text (Content.wellFormed_of_read succeeds)⟩

/-- A request that leaves its addressee to its clause names that addressee once it is read. -/
theorem recognize?_exclusive_request :
    recognize? "REQUEST (Agent[02] VOTE Agent[01])".toList =
        some .connective ∧
      ∃ content,
        Content.read 16 "REQUEST (Agent[02] VOTE Agent[01])" =
            .ok content ∧
          content.text = "REQUEST Agent[02] (VOTE Agent[01])" ∧
            recognize? content.text.toList = some .addressed := by
  have result :
      (Content.read 16 "REQUEST (Agent[02] VOTE Agent[01])").toOption.map
          (fun content => (content.text, content.shape)) =
        some ("REQUEST Agent[02] (VOTE Agent[01])", .addressed) := by
    decide +kernel
  refine ⟨by decide +kernel, ?_⟩
  cases succeeds :
      Content.read 16 "REQUEST (Agent[02] VOTE Agent[01])" with
  | error diagnosis =>
      rw [succeeds] at result
      cases result
  | ok content =>
      rw [succeeds, Except.toOption, Option.map_some, Option.some.injEq,
        Prod.mk.injEq] at result
      have recognized :=
        (recognize?_exclusive "REQUEST (Agent[02] VOTE Agent[01])").2.2.2
          16 content succeeds
      refine ⟨content, rfl, result.1, ?_⟩
      rw [recognized.2, result.2]

end Shape

end WerewolfSpeech
