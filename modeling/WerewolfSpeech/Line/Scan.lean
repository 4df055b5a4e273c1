import WerewolfSpeech.Text.Blank

namespace WerewolfSpeech.Line

/-!
# Scanning a clause list

A clause list is scanned once, from its first position to its last. The scan counts the open
parentheses and notes the position at which an outermost group begins, so that the group can
be cut out of the text where it ends. A character that is not blank stops the scan outside
every group, and so does a parenthesis that closes nothing.
-/

/-- What is known of a clause list up to some position. -/
structure Scan (list : String) where
  /-- How many parentheses are open. -/
  depth : Nat
  /-- Where the last outermost group begins. -/
  opened : list.Pos
  /-- The groups that are complete. -/
  groups : List String

namespace Scan

variable {list : String}

/-- Nothing is known of a list at its first position. -/
def start
    (list : String) :
    Scan list :=
  ⟨0, list.startPos, []⟩

/-- The scan behind an opening parenthesis, which ends at a position. -/
def opening
    (scan : Scan list)
    (behind : list.Pos) :
    Scan list where
  depth := scan.depth + 1
  opened := if scan.depth = 0 then behind else scan.opened
  groups := scan.groups

/-- The scan behind a closing parenthesis, which begins at a position. -/
def closing?
    (scan : Scan list)
    (position : list.Pos) :
    Option (Scan list) :=
  match scan.depth with
  | 0 => none
  | 1 =>
      some ⟨0, scan.opened, scan.groups ++ [String.extract scan.opened position]⟩
  | outer + 2 =>
      some ⟨outer + 1, scan.opened, scan.groups⟩

/-- The scan behind the character at a position. -/
def step?
    (scan : Scan list)
    (position : list.Pos)
    (notAtEnd : position ≠ list.endPos) :
    Option (Scan list) :=
  let character := position.get notAtEnd
  if character = '(' then
    some (scan.opening (position.next notAtEnd))
  else if character = ')' then
    scan.closing? position
  else if scan.depth = 0 && !Text.isBlank character then
    none
  else
    some scan

/-- The scan at the end of the list, given the scan at a position. -/
def run?
    (scan : Scan list)
    (position : list.Pos) :
    Option (Scan list) :=
  if atEnd : position = list.endPos then
    some scan
  else
    (scan.step? position atEnd).bind fun next =>
      next.run? (position.next atEnd)
termination_by position

/-- The groups at the end of the list, if none is still open. -/
def closedGroups?
    (scan : Scan list) :
    Option (List String) :=
  if scan.depth = 0 then
    some scan.groups
  else
    none

end Scan

/-- The groups of a clause list, of which there has to be one. -/
def scanGroups?
    (list : String) :
    Option (List String) :=
  (((Scan.start list).run? list.startPos).bind Scan.closedGroups?).filter
    fun groups => !groups.isEmpty

end WerewolfSpeech.Line
