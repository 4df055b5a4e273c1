import WerewolfSpeech.Text.Blank

namespace WerewolfSpeech.Line

/-!
# Clause lists

A clause list is a sequence of groups in balanced parentheses with nothing but blanks
around them. Splitting it gives what stands inside each outermost pair.
-/

mutual

/-- The groups of a text that begins outside every group. -/
def groupsOutside? :
    List Char →
    Option (List (List Char))
  | [] => some []
  | character :: rest =>
      if character = '(' then
        (groupsInside? 0 rest).map fun found => found.1 :: found.2
      else if Text.isBlank character then
        groupsOutside? rest
      else
        none

/--
The rest of the group that a text begins in, and the groups behind it. The number counts
the parentheses that are open within the group.
-/
def groupsInside? :
    Nat →
    List Char →
    Option (List Char × List (List Char))
  | _, [] => none
  | depth, character :: rest =>
      if character = ')' then
        match depth with
        | 0 => (groupsOutside? rest).map fun found => ([], found)
        | outer + 1 =>
            (groupsInside? outer rest).map fun found => (character :: found.1, found.2)
      else if character = '(' then
        (groupsInside? (depth + 1) rest).map fun found => (character :: found.1, found.2)
      else
        (groupsInside? depth rest).map fun found => (character :: found.1, found.2)

end

/-- The groups of a clause list, of which there has to be one. -/
def splitGroups?
    (list : List Char) :
    Option (List (List Char)) :=
  match groupsOutside? list with
  | some (first :: rest) => some (first :: rest)
  | _ => none

end WerewolfSpeech.Line
