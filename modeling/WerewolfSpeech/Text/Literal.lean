namespace WerewolfSpeech.Text

/-!
# Literals

A literal at the front of a text is read by comparing the two character by character.
-/

/-- What stands behind a literal at the front of a text. -/
def after? :
    List Char →
    List Char →
    Option (List Char)
  | [], text => some text
  | expected :: literal, character :: text =>
      if character = expected then
        after? literal text
      else
        none
  | _ :: _, [] => none

end WerewolfSpeech.Text
