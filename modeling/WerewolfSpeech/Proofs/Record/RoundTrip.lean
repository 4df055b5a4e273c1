import WerewolfSpeech.Proofs.Json.Writing
import WerewolfSpeech.Proofs.Vocabulary
import WerewolfSpeech.Record.Json

namespace WerewolfSpeech

/-!
# Records read back

A record is written as an object with its fields in a fixed order. It is read back from that
text, and from any other text with the same fields: their order does not count, and neither
do members of other names, whatever their values are. The fields alone, in their order, make
an array from which the record is read as well. Only the channel of an utterance is lost.
-/

namespace Json

/-! ## Fields -/

private theorem int?_ofInt
    (value : Int) :
    (ofInt value).int? = some value := by
  have noNegativeZero : String.ofList (Numeral.signed value) ≠ "-0" := by
    intro same
    have chars : Numeral.signed value = ['-', '0'] := by
      simpa using congrArg String.toList same
    have zero : some (0 : Int) = some value := by
      rw [← Numeral.ofSigned?_signed value, chars]
      rfl
    cases zero
    exact absurd chars (by decide)
  rw [ofInt, int?, if_neg noNegativeZero, String.toList_ofList,
    Numeral.ofSigned?_signed]

private theorem int32?_ofInt
    (value : Int32) :
    (ofInt value.toInt).int32? = some value := by
  simp [int32?, int?_ofInt, Numeral.fitsInt32_toInt]

private theorem uint32?_ofNat
    (value : UInt32) :
    (ofNat value.toNat).uint32? = some value := by
  have sameNumber : ofNat value.toNat = ofInt value.toNat := by
    rw [ofNat, ofInt, Numeral.signed, if_neg (by omega), Int.natAbs_natCast]
  have fits :
      (0 ≤ (value.toNat : Int) &&
        (value.toNat : Int).toNat < UInt32.size) = true := by
    rw [Int.toNat_natCast, Bool.and_eq_true, decide_eq_true_eq,
      decide_eq_true_eq]
    exact ⟨Int.natCast_nonneg _, value.toNat_lt_size⟩
  rw [uint32?, sameNumber, int?_ofInt, Option.bind_some, if_pos fits,
    Int.toNat_natCast, UInt32.ofNat_toNat]

private theorem term?_ofTerm
    {Term : Type}
    [Vocabulary Term]
    [Vocabulary.Lawful Term]
    (term : Term) :
    (ofTerm term).term? = some term :=
  Vocabulary.find?_word term

/-- The members of an object. -/
def members :
    Json →
    List (String × Json)
  | .object members => members
  | _ => []

/-- The names of the members of an object. -/
def names
    (json : Json) :
    List String :=
  json.members.map Prod.fst

/-- The values of the members of an object. -/
def values
    (json : Json) :
    List Json :=
  json.members.map Prod.snd

/--
The members of an object are the fields of a record in any order, with members of other
names among them.
-/
def Extends
    (members : List (String × Json))
    (json : Json) :
    Prop :=
  (members.filter fun member => member.1 ∈ json.names).Perm json.members

/-- Among fields with different names one alone has the name of a field. -/
private theorem filter_name_eq_singleton
    {fields : List (String × Json)}
    (distinct : (fields.map Prod.fst).Nodup)
    {field : String × Json}
    (isField : field ∈ fields) :
    fields.filter (fun member => member.1 == field.1) = [field] := by
  induction fields with
  | nil =>
      cases isField
  | cons first others inductionHypothesis =>
      rw [List.map_cons, List.nodup_cons] at distinct
      obtain ⟨firstAlone, othersDistinct⟩ := distinct
      rcases List.mem_cons.mp isField with rfl | inOthers
      · have noneBehind :
            others.filter (fun member => member.1 == field.1) = [] := by
          rw [List.filter_eq_nil_iff]
          intro member isMember sameName
          apply firstAlone
          rw [← beq_iff_eq.mp sameName]
          exact List.mem_map_of_mem isMember
        rw [List.filter_cons_of_pos (by simp), noneBehind]
      · have otherName : ¬ (first.1 == field.1) = true := by
          intro sameName
          apply firstAlone
          rw [beq_iff_eq.mp sameName]
          exact List.mem_map_of_mem inOthers
        rw [List.filter_cons, if_neg otherName,
          inductionHypothesis othersDistinct inOthers]

/-- The value of a field is found among the members of an object that extends the fields. -/
theorem Extends.member?
    {members : List (String × Json)}
    {json : Json}
    (all : Extends members json)
    (distinct : json.names.Nodup)
    {field : String × Json}
    (isField : field ∈ json.members) :
    Json.member? members field.1 = some field.2 := by
  have known : field.1 ∈ json.names :=
    List.mem_map_of_mem isField
  have throughNames :
      (members.filter fun member => member.1 ∈ json.names).filter
          (fun member => member.1 == field.1) =
        members.filter (fun member => member.1 == field.1) := by
    rw [List.filter_filter]
    apply List.filter_congr
    intro member _
    by_cases sameName : member.1 = field.1 <;> simp [sameName, known]
  have sameMembers :=
    all.filter fun member : String × Json => member.1 == field.1
  rw [throughNames, filter_name_eq_singleton distinct isField] at sameMembers
  rw [Json.member?, sameMembers.eq_singleton]

/-- The fields of a record are found in an object that extends them. -/
theorem Extends.fields?
    {members : List (String × Json)}
    {json : Json}
    (all : Extends members json)
    (distinct : json.names.Nodup) :
    Json.fields? json.names (.object members) = some json.values := by
  have found :
      ∀ fields ⊆ json.members,
        (fields.map Prod.fst).mapM (Json.member? members) =
          some (fields.map Prod.snd) := by
    intro fields
    induction fields with
    | nil =>
        intro _
        rfl
    | cons first others inductionHypothesis =>
        intro within
        rw [List.cons_subset] at within
        rw [List.map_cons, List.mapM_cons,
          all.member? distinct within.1, inductionHypothesis within.2]
        rfl
  exact found json.members (List.Subset.refl _)

/--
A record is read back: from the text that is written for it, from any text of an object that
extends its fields, and from any text of an array of just the values of its fields.
-/
structure ReadBack
    {Record : Type}
    (json : Json)
    (read? : Json → Option Record)
    (record : Record) :
    Prop where
  written :
    (ofText? json.compact).bind read? = some record
  extended :
    ∀ (members : List (String × Json)) (text : String),
      Extends members json →
      Spells text.toList (.object members) →
      (ofText? text).bind read? = some record
  positional :
    ∀ text : String,
      Spells text.toList (.array json.values) →
      (ofText? text).bind read? = some record

/-- A record is read back if it is read from the values of its fields. -/
private theorem readBack_of_fields
    {Record : Type}
    {members : List (String × Json)}
    {read? : Json → Option Record}
    {record : Record}
    (distinct : (members.map Prod.fst).Nodup)
    (writable : ∀ member ∈ members, member.2.Writable)
    (reads :
      ∀ json : Json,
        json.fields? (members.map Prod.fst) = some (members.map Prod.snd) →
        read? json = some record) :
    ReadBack (.object members) read? record := by
  have ofExtension :
      ∀ others, Extends others (.object members) →
        read? (.object others) = some record :=
    fun others all => reads _ (all.fields? distinct)
  have itself : Extends members (.object members) := by
    have allKnown :
        members.filter (fun member => member.1 ∈ names (.object members)) =
          members :=
      List.filter_eq_self.mpr fun member isMember =>
        decide_eq_true (List.mem_map_of_mem isMember)
    rw [Extends, allKnown]
    exact .refl members
  constructor
  case written =>
    rw [ofText?_compact (.object writable)]
    exact ofExtension members itself
  case extended =>
    intro others text all spells
    rw [ofText?_of_spells spells]
    exact ofExtension others all
  case positional =>
    intro text spells
    rw [ofText?_of_spells spells]
    apply reads
    rw [Json.fields?, if_pos (by simp [values, Json.members])]
    rfl

/-! ## The values of fields have a text -/

private theorem writable_ofInt
    (value : Int) :
    (ofInt value).Writable :=
  .number (by rw [String.toList_ofList]; exact isNumber_signed value)

private theorem writable_ofNat
    (value : Nat) :
    (ofNat value).Writable :=
  .number (by rw [String.toList_ofList]; exact isNumber_digits value)

private theorem writable_ofTerm
    {Term : Type}
    [Vocabulary Term]
    (term : Term) :
    (ofTerm term).Writable :=
  .string _

end Json

open Json

/-! ## Records -/

private theorem Agent.ofJson?_toJson
    (agent : Agent) :
    ofJson? agent.toJson = some agent := by
  simp [ofJson?, toJson, uint32?_ofNat]

/-- An utterance is read back, as one that was talked. -/
theorem Utterance.readBack
    (utterance : Utterance) :
    ReadBack utterance.toJson ofJson? { utterance with channel := .talk } := by
  refine readBack_of_fields (by simp) ?_ ?_
  · simp [writable_ofInt, Agent.toJson, writable_ofNat, Writable.string]
  · intro json found
    simp only [List.map_cons, List.map_nil] at found
    simp [ofJson?, found, int32?_ofInt, Agent.ofJson?_toJson, text?]

/-- A vote is read back. -/
theorem Vote.readBack
    (vote : Vote) :
    ReadBack vote.toJson ofJson? vote := by
  refine readBack_of_fields (by simp) ?_ ?_
  · simp [writable_ofInt, Agent.toJson, writable_ofNat]
  · intro json found
    simp only [List.map_cons, List.map_nil] at found
    simp [ofJson?, found, int32?_ofInt, Agent.ofJson?_toJson]

/-- A judgement is read back. -/
theorem Judgement.readBack
    (judgement : Judgement) :
    ReadBack judgement.toJson ofJson? judgement := by
  refine readBack_of_fields (by simp) ?_ ?_
  · simp [writable_ofInt, Agent.toJson, writable_ofNat, writable_ofTerm]
  · intro json found
    simp only [List.map_cons, List.map_nil] at found
    simp [ofJson?, found, int32?_ofInt, Agent.ofJson?_toJson, term?_ofTerm]

/-- A citation is read back. -/
theorem Citation.readBack
    (citation : Citation) :
    ReadBack citation.toJson ofJson? citation := by
  refine readBack_of_fields (by simp) ?_ ?_
  · simp [writable_ofInt, writable_ofTerm]
  · intro json found
    simp only [List.map_cons, List.map_nil] at found
    simp [ofJson?, found, int32?_ofInt, term?_ofTerm]

/-- Every record is read back; of an utterance it is not known where it was made. -/
theorem records_readBack :
    (∀ utterance : Utterance,
        ReadBack utterance.toJson Utterance.ofJson?
          { utterance with channel := .talk }) ∧
      (∀ vote : Vote, ReadBack vote.toJson Vote.ofJson? vote) ∧
        (∀ judgement : Judgement,
          ReadBack judgement.toJson Judgement.ofJson? judgement) ∧
          ∀ citation : Citation,
            ReadBack citation.toJson Citation.ofJson? citation :=
  ⟨Utterance.readBack, Vote.readBack, Judgement.readBack, Citation.readBack⟩

/--
A whisper with its fields in another order and with its channel among them is read as an
utterance that was talked.
-/
theorem records_readBack_whisper :
    let whisper : Utterance := ⟨.whisper, 7, -1, 3, ⟨2⟩, "Skip\t\"ü\""⟩
    let text :=
      "\x7b\"day\":-1,\"kind\":[\"WHISPER\",\x7b\"day\":null\x7d]," ++
        "\"idx\":7,\"turn\":3,\"agent\":2,\"text\":\"Skip\\t\\\"ü\\\"\"\x7d"
    (Json.ofText? text).bind Utterance.ofJson? =
      some { whisper with channel := .talk } := by
  intro whisper text
  let kind : String × Json :=
    ("kind", .array [.string "WHISPER", .object [("day", .null)]])
  let members : List (String × Json) :=
    [("day", .ofInt (-1)), kind, ("idx", .ofInt 7), ("turn", .ofInt 3),
      ("agent", .ofNat 2), ("text", .string whisper.text)]
  have writable : (Json.object members).Writable := by
    refine .object ?_
    simp only [members, kind, List.forall_mem_cons]
    exact
      ⟨writable_ofInt _,
        .array (by simpa using ⟨.string _, .object (by simpa using .null)⟩),
        writable_ofInt _, writable_ofInt _, writable_ofNat _, .string _,
        by simp⟩
  have spelled : text = (Json.object members).compact := by
    decide
  have spells : Spells text.toList (.object members) := by
    rw [spelled, compact, String.toList_ofList]
    exact writable.spells_compactChars
  have extended : Extends members whisper.toJson := by
    have fields :
        members.filter (fun member => member.1 ∈ whisper.toJson.names) =
          [("day", .ofInt (-1)), ("idx", .ofInt 7), ("turn", .ofInt 3),
            ("agent", .ofNat 2), ("text", .string whisper.text)] := by
      simp [members, kind, Json.names, Json.members, Utterance.toJson]
    rw [Extends, fields]
    exact .swap _ _ _
  exact (records_readBack.1 whisper).extended members text extended spells

end WerewolfSpeech
