import WerewolfSpeech.Command.Invocation

namespace WerewolfSpeech.Command

/-!
# Pages of help

A page says what the program or a task is for, how it is called and which options it has.
-/

/-- The name under which the program is called. -/
def programName : String :=
  "wolf-talk"

/-- The name and the version of the program. -/
def versionLine : String :=
  programName ++ " 0.3.1"

/-- A section of a page: a heading and what belongs to it. -/
def block
    (heading : String)
    (entries : List String) :
    List String :=
  ["", heading ++ ":"] ++ entries.map fun entry => "  " ++ entry

/-- The option that names the file with the settings. -/
def configEntry : String :=
  "    --config <CONFIG>  Grammar config file (TOML)"

/-- The option that asks for strict reading. -/
def strictEntry : String :=
  "    --strict           Fail on unparseable input instead of reading it as `Skip`"

/-- The option that names the file with the lines. -/
def fileEntry : String :=
  "    --file <FILE>      Read from a file instead of stdin"

/-- The option that asks for this help. -/
def helpEntry : String :=
  "-h, --help             Print help"

/-- What each task does. -/
def Level.purpose :
    Level →
    String
  | .program => "Werewolf utterance grammar"
  | .parse => "Parse one utterance and print its canonical form"
  | .normalize => "Normalize utterances line by line"
  | .agents => "List every agent mentioned in the input"

/-- What the task that prints help does. -/
def helpPurpose : String :=
  "Print this message or the help of the given subcommand(s)"

/-- How a task is called. -/
def Level.usage :
    Level →
    String
  | .program => programName ++ " [OPTIONS] <COMMAND>"
  | .parse => programName ++ " parse [OPTIONS] <TEXT>"
  | .normalize => programName ++ " normalize [OPTIONS]"
  | .agents => programName ++ " agents [OPTIONS]"

/-- The sections of a page below its usage. -/
def Level.sections :
    Level →
    List String
  | .program =>
      block "Commands"
        ["parse      " ++ Level.parse.purpose,
          "normalize  " ++ Level.normalize.purpose,
          "agents     " ++ Level.agents.purpose,
          "help       " ++ helpPurpose] ++
        block "Options"
          [configEntry, strictEntry, helpEntry, "-V, --version          Print version"]
  | .parse =>
      block "Arguments"
        ["<TEXT>  Utterance text, e.g. \"REQUEST Agent[02] (VOTE Agent[03])\""] ++
        block "Options"
          [configEntry, "    --json             Print the full tree as JSON", strictEntry,
            helpEntry]
  | .normalize =>
      block "Options" [configEntry, fileEntry, strictEntry, helpEntry]
  | .agents =>
      block "Options" [configEntry, fileEntry, strictEntry, helpEntry]

/-- The lines of a page. -/
def Page.lines :
    Page →
    List String
  | .about level =>
      [level.purpose, "", "Usage: " ++ level.usage] ++ level.sections
  | .help =>
      [helpPurpose, "", "Usage: " ++ programName ++ " help [COMMAND]..."] ++
        block "Arguments" ["[COMMAND]...  Print help for the subcommand(s)"]

/-- The text of lines that all end. -/
def textOfLines
    (lines : List String) :
    String :=
  String.join (lines.map fun line => line ++ "\n")

end WerewolfSpeech.Command
