import WerewolfSpeech.Reading
import WerewolfSpeech.Directory
import WerewolfSpeech.Toml.Document

namespace WerewolfSpeech

/-!
# Settings

The settings say how deep clauses may nest and whether a line has to be read in full. They
are kept in a TOML document with two keys, both optional; other keys do not count.
-/

/-- How lines are read. -/
structure Settings where
  maxDepth : Nat
  strict : Bool
  deriving Repr, DecidableEq

/-- Why there are no settings. -/
inductive SettingsError where
  /-- The file cannot be read. -/
  | unreadable
  /-- The text is no document, or a key has a value of the wrong kind. -/
  | malformed
  /-- No clause at all would be admitted. -/
  | noDepth
  deriving Repr, DecidableEq

namespace SettingsError

/-- What is wrong, in words. -/
def message :
    SettingsError →
    String
  | .unreadable => "failed to read config file"
  | .malformed => "failed to parse config file"
  | .noDepth => "invalid config value: max_depth = 0"

/-- The stable code of the error. -/
def code :
    SettingsError →
    String
  | .unreadable => "wolf::config::read"
  | .malformed => "wolf::config::parse"
  | .noDepth => "wolf::config::invalid"

/-- How to put it right. -/
def help :
    SettingsError →
    String
  | .unreadable =>
      "Check that the file exists and is readable."
  | .malformed =>
      "The grammar config is TOML with two optional keys: " ++
        "`max_depth` (integer) and `strict` (boolean)."
  | .noDepth =>
      "`max_depth` must be at least 1."

end SettingsError

namespace Settings

/-- Sixteen levels, leniently read. -/
def default : Settings :=
  ⟨Reading.defaultDepth, false⟩

/-- A depth, which is an integer that is not negative; the usual one if none is given. -/
def depth? :
    Option Toml.Item →
    Option Nat
  | none => some default.maxDepth
  | some (.integer value) => if 0 ≤ value then some value.toNat else none
  | some _ => none

/-- Whether to read strictly, which is a truth value; as usual if none is given. -/
def strictness? :
    Option Toml.Item →
    Option Bool
  | none => some default.strict
  | some (.boolean value) => some value
  | some _ => none

/-- The settings in a document, before it is checked that a clause is admitted. -/
def ofMembers?
    (members : Toml.Members) :
    Option Settings := do
  let maxDepth ← depth? (members.item? "max_depth")
  let strict ← strictness? (members.item? "strict")
  return ⟨maxDepth, strict⟩

/-- The settings in the text of a document. -/
def ofText
    (text : String) :
    Except SettingsError Settings :=
  match (Toml.ofText? text).bind ofMembers? with
  | some settings =>
      if settings.maxDepth = 0 then
        .error .noDepth
      else
        .ok settings
  | none => .error .malformed

/-- The settings in a file, given its text if it can be read. -/
def ofFile
    (contents : Option String) :
    Except SettingsError Settings :=
  match contents with
  | some text => ofText text
  | none => .error .unreadable

/-- Read a line as the settings say, and enter whom it mentions. -/
def readLine
    (settings : Settings)
    (clock : Agent → Nat)
    (directory : Directory)
    (line : String) :
    Except Diagnosis (Content × Directory) :=
  if settings.strict then
    directory.read clock settings.maxDepth line
  else
    .ok (directory.readOrSkip clock settings.maxDepth line)

end Settings

end WerewolfSpeech
