namespace WerewolfSpeech.Command

/-!
# Arguments

An argument of a command line is an option with a long name, a group of short options, the
mark behind which there are no more options, or a word. A single hyphen is a word.
-/

/-- The form of an argument. -/
inductive Argument where
  /-- Two hyphens and a name, and perhaps a value attached by an equals sign. -/
  | long (name : String) (attached : Option String)
  /-- A hyphen and letters. -/
  | short (letters : List Char)
  /-- Two hyphens alone. -/
  | separator
  | word (text : String)
  deriving Repr, DecidableEq

namespace Argument

/-- The option that stands behind two hyphens. -/
def longOf
    (text : List Char) :
    Argument :=
  let name := String.ofList (text.takeWhile (· != '='))
  match text.dropWhile (· != '=') with
  | [] => .long name none
  | _ :: value => .long name (some (String.ofList value))

/-- The form of a text. -/
def ofString
    (text : String) :
    Argument :=
  match text.toList with
  | ['-', '-'] => .separator
  | '-' :: '-' :: rest => longOf rest
  | ['-'] => .word text
  | '-' :: letters => .short letters
  | _ => .word text

/-- Whether the argument is a word. -/
def isWord :
    Argument →
    Bool
  | .word _ => true
  | _ => false

end Argument

end WerewolfSpeech.Command
