namespace WerewolfSpeech.Toml

/-!
# TOML documents

A document is a table of named items. How a table came about decides what may still be
added to it: a table that was only passed through on the way to another one may get a
header of its own, one made by a dotted key may be extended by further dotted keys, and
one written in braces is complete.
-/

/-- How a table came about. -/
inductive Origin where
  /-- The document itself, or a table under its own header. -/
  | header
  /-- A table on the way to one with a header. -/
  | passed
  /-- A table on the way to a value with a dotted key. -/
  | dotted
  /-- A table in braces. -/
  | braces
  deriving Repr, DecidableEq

/-- What a name in a document stands for. -/
inductive Item where
  | string (text : String)
  | integer (value : Int)
  | float
  | boolean (value : Bool)
  | moment
  | array (items : List Item)
  | table (origin : Origin) (members : List (String × Item))
  /-- The tables under the repeated headers of one array, in order. -/
  | tables (elements : List (List (String × Item)))
  deriving Repr

/-- The named items of a table. -/
abbrev Members :=
  List (String × Item)

namespace Members

/-- The item of a name. -/
def item?
    (members : Members)
    (name : String) :
    Option Item :=
  List.lookup name members

/-- The members with another item under a name that is there. -/
def replace
    (members : Members)
    (name : String)
    (item : Item) :
    Members :=
  List.map (fun member => if member.1 = name then (name, item) else member) members

/--
The members with a change made to the table at a path. Tables on the path that are not
there yet are created with the given origin; the last table of an array stands for the
array. A dotted path does not lead through a table with a header of its own.
-/
def changeAt?
    (created : Origin)
    (change : Origin → Members → Option Members) :
    List String →
    Origin →
    Members →
    Option Members
  | [], origin, members => change origin members
  | name :: path, _, members =>
      match item? members name with
      | none =>
          (changeAt? created change path created []).map fun inner =>
            members ++ [(name, .table created inner)]
      | some (.table origin inner) =>
          if origin = .braces || (created = .dotted && origin = .header) then
            none
          else
            (changeAt? created change path origin inner).map fun inner =>
              replace members name (.table origin inner)
      | some (.tables elements) =>
          match elements.getLast? with
          | none => none
          | some last =>
              (changeAt? created change path .header last).map fun last =>
                replace members name (.tables (elements.dropLast ++ [last]))
      | some _ => none

/-- The members with an item under a new name. -/
def insertNew?
    (name : String)
    (item : Item)
    (members : Members) :
    Option Members :=
  match item? members name with
  | none => some (members ++ [(name, item)])
  | some _ => none

/--
The members with an item under a dotted key: the last name in the table that the names
before it lead to. Only a table that dotted keys have made may be reached that way.
-/
def insertAt?
    (path : List String)
    (name : String)
    (item : Item)
    (members : Members) :
    Option Members :=
  changeAt? .dotted
    (fun origin inner =>
      if path.isEmpty || origin = .dotted then
        insertNew? name item inner
      else
        none)
    path .header members

/-- A value under its dotted key. -/
structure Assignment where
  path : List String
  name : String
  item : Item

/-- The members with values under their keys, one after the other. -/
def assign?
    (assignments : List Assignment)
    (members : Members) :
    Option Members :=
  assignments.foldlM
    (fun members assignment =>
      insertAt? assignment.path assignment.name assignment.item members)
    members

/-- The members with a table under its own header. -/
def openTable?
    (path : List String)
    (name : String)
    (assignments : List Assignment)
    (members : Members) :
    Option Members :=
  changeAt? .passed
    (fun _ inner =>
      match item? inner name with
      | none =>
          (assign? assignments []).map fun content =>
            inner ++ [(name, .table .header content)]
      | some (.table .passed content) =>
          (assign? assignments content).map fun content =>
            replace inner name (.table .header content)
      | some _ => none)
    path .header members

/-- The members with one more table in an array of tables. -/
def openElement?
    (path : List String)
    (name : String)
    (assignments : List Assignment)
    (members : Members) :
    Option Members :=
  changeAt? .passed
    (fun _ inner =>
      match item? inner name with
      | none =>
          (assign? assignments []).map fun content =>
            inner ++ [(name, .tables [content])]
      | some (.tables elements) =>
          (assign? assignments []).map fun content =>
            replace inner name (.tables (elements ++ [content]))
      | some _ => none)
    path .header members

end Members

end WerewolfSpeech.Toml
