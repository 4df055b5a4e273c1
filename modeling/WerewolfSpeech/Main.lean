import WerewolfSpeech.Command.Outcome

namespace WerewolfSpeech.Command

/-!
# The program

Reads the files that the command line names and the standard input if it is needed, writes
the outcome, and reports a failure on the standard error.
-/

/-- The files that an invocation names. -/
def Invocation.files
    (invocation : Invocation) :
    List String :=
  let taskFile :=
    match invocation.task with
    | .parse _ _ => none
    | .normalize file => file
    | .agents file => file
  invocation.config.toList ++ taskFile.toList

/-- Whether the lines come from the standard input. -/
def Invocation.readsInput
    (invocation : Invocation) :
    Bool :=
  match invocation.task with
  | .parse _ _ => false
  | .normalize file => file.isNone
  | .agents file => file.isNone

/-- The lines that report a failure. -/
def Failure.report :
    Failure →
    List String
  | .usage => ["error: the command line is not understood", "", "Usage: " ++ Level.program.usage]
  | .settings error => [error.code, error.message, "help: " ++ error.help]
  | .input file => ["reading " ++ file]
  | .line number diagnosis =>
      (number.map fun number => "line " ++ String.ofList (Numeral.digits number)).toList ++
        [diagnosis.code, diagnosis.message, "help: " ++ diagnosis.help]

/-- The text of a file, if it can be read. -/
def readFile?
    (file : String) :
    IO (Option String) := do
  try
    return some (← IO.FS.readFile ⟨file⟩)
  catch _ =>
    return none

/-- The outcome of some arguments. -/
def outcomeOf
    (arguments : List String) :
    IO Outcome := do
  match Invocation.ofArguments arguments with
  | .error stop => return stop.outcome
  | .ok invocation =>
      let contents ← invocation.files.mapM fun file => return (file, ← readFile? file)
      let standardInput ←
        if invocation.readsInput then (← IO.getStdin).readToEnd else pure ""
      return invocation.run (fun file => (contents.lookup file).join) standardInput

end WerewolfSpeech.Command

/-- Carry out the command line. -/
def main
    (arguments : List String) :
    IO UInt32 := do
  let outcome ← WerewolfSpeech.Command.outcomeOf arguments
  IO.print outcome.output
  for failure in outcome.failure do
    for line in failure.report do
      IO.eprintln line
  return UInt32.ofNat outcome.status
