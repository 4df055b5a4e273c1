import WerewolfSpeech.Command.Help
import WerewolfSpeech.Command.Invocation
import WerewolfSpeech.Record.Json
import WerewolfSpeech.Settings
import WerewolfSpeech.Text.Lines

namespace WerewolfSpeech.Command

/-!
# Carrying out a command line

The outcome is what is written and, if the program fails, why. Canonical lines are written
as they are found, so a line that fails does not take back the ones before it; the list of
agents is written only when all lines have been read.
-/

/-- Why the program fails. -/
inductive Failure where
  /-- The command line is not understood. -/
  | usage
  /-- There are no settings. -/
  | settings (error : SettingsError)
  /-- The file with the lines cannot be read. -/
  | input (file : String)
  /-- A line cannot be read; it has a number unless it is the only one. -/
  | line (number : Option Nat) (diagnosis : Diagnosis)
  deriving Repr, DecidableEq

/-- What is written, and why the program fails if it does. -/
structure Outcome where
  output : String
  failure : Option Failure
  deriving Repr, DecidableEq

namespace Outcome

/-- The exit status. -/
def status
    (outcome : Outcome) :
    Nat :=
  match outcome.failure with
  | none => 0
  | some .usage => 2
  | some _ => 1

/-- The stable code of the reported error. -/
def code?
    (outcome : Outcome) :
    Option String :=
  match outcome.failure with
  | some (.settings error) => some error.code
  | some (.line _ diagnosis) => some diagnosis.code
  | _ => none

/-- The number of the line that failed. -/
def line?
    (outcome : Outcome) :
    Option Nat :=
  match outcome.failure with
  | some (.line number _) => number
  | _ => none

/-- A command line that fails before anything is written. -/
def failed
    (failure : Failure) :
    Outcome :=
  ⟨"", some failure⟩

/-- A command line that succeeds. -/
def written
    (lines : List String) :
    Outcome :=
  ⟨textOfLines lines, none⟩

end Outcome

/-- What a command takes for the second at which an agent came up; it is never written. -/
def clock
    (_agent : Agent) :
    Nat :=
  0

/-- The content of the one line that was given. -/
def readLine
    (settings : Settings)
    (text : String) :
    Except Diagnosis Content :=
  (settings.readLine clock Directory.empty text).map Prod.fst

/-- Read one line and write its canonical form, or all of its fields. -/
def parse
    (settings : Settings)
    (text : String)
    (fields : Bool) :
    Outcome :=
  match readLine settings text with
  | .error diagnosis => .failed (.line none diagnosis)
  | .ok content =>
      .written [if fields then content.view.toJson.pretty else content.text]

/-- The canonical lines up to the first line that fails, and its failure. -/
def canonicalLines
    (settings : Settings) :
    List (Nat × String) →
    List String × Option Failure
  | [] => ([], none)
  | (number, text) :: rest =>
      match readLine settings text with
      | .error diagnosis => ([], some (.line (some number) diagnosis))
      | .ok content =>
          let found := canonicalLines settings rest
          (content.text :: found.1, found.2)

/-- Write the canonical form of every line. -/
def normalize
    (settings : Settings)
    (input : String) :
    Outcome :=
  let found := canonicalLines settings (Text.numberedLines input)
  ⟨textOfLines found.1, found.2⟩

/-- The directory of everyone whom the lines mention, or the failure of the first to fail. -/
def enterLines
    (settings : Settings) :
    List (Nat × String) →
    Directory →
    Except Failure Directory
  | [], directory => .ok directory
  | (number, text) :: rest, directory =>
      match settings.readLine clock directory text with
      | .error diagnosis => .error (.line (some number) diagnosis)
      | .ok found => enterLines settings rest found.2

/-- The list of the agents in a directory. -/
def directoryLines
    (directory : Directory) :
    List String :=
  if directory.isEmpty then
    ["No agents mentioned."]
  else
    ("Agents (" ++ String.ofList (Numeral.digits directory.size) ++ "):") ::
      directory.labels.map fun label => "  " ++ label

/-- Write the labels of everyone who is mentioned. -/
def agents
    (settings : Settings)
    (input : String) :
    Outcome :=
  match enterLines settings (Text.numberedLines input) .empty with
  | .error failure => .failed failure
  | .ok directory => .written (directoryLines directory)

/-- The lines to work on: those of a file, or else those of the standard input. -/
def inputOf
    (contents : String → Option String)
    (standardInput : String) :
    Option String →
    Except Failure String
  | none => .ok standardInput
  | some file =>
      match contents file with
      | some text => .ok text
      | none => .error (.input file)

/-- The settings of an invocation; a flag on the command line can only make them strict. -/
def Invocation.settings
    (contents : String → Option String)
    (invocation : Invocation) :
    Except Failure Settings :=
  match invocation.config with
  | none => .ok ⟨Settings.default.maxDepth, Settings.default.strict || invocation.strict⟩
  | some file =>
      match Settings.ofFile (contents file) with
      | .ok settings => .ok ⟨settings.maxDepth, settings.strict || invocation.strict⟩
      | .error error => .error (.settings error)

/-- Carry out a task. -/
def Task.run
    (contents : String → Option String)
    (standardInput : String)
    (settings : Settings) :
    Task →
    Outcome
  | .parse text fields => Command.parse settings text fields
  | .normalize file =>
      match inputOf contents standardInput file with
      | .ok input => Command.normalize settings input
      | .error failure => .failed failure
  | .agents file =>
      match inputOf contents standardInput file with
      | .ok input => Command.agents settings input
      | .error failure => .failed failure

/-- Carry out an invocation, given the contents of the files that can be read. -/
def Invocation.run
    (contents : String → Option String)
    (standardInput : String)
    (invocation : Invocation) :
    Outcome :=
  match invocation.settings contents with
  | .ok settings => invocation.task.run contents standardInput settings
  | .error failure => .failed failure

/-- What is written instead, if a command line is not carried out. -/
def Stop.outcome :
    Stop →
    Outcome
  | .help page => .written page.lines
  | .version => .written [versionLine]
  | .misuse => .failed .usage

/-- Carry out a command line. -/
def run
    (contents : String → Option String)
    (standardInput : String)
    (arguments : List String) :
    Outcome :=
  match Invocation.ofArguments arguments with
  | .ok invocation => invocation.run contents standardInput
  | .error stop => stop.outcome

end WerewolfSpeech.Command
