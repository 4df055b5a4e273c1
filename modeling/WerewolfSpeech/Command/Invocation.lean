import WerewolfSpeech.Command.Argument

namespace WerewolfSpeech.Command

/-!
# Invocations

A command line names a task and gives options before or behind the name. The options that
hold for every task may stand on both sides; a setting behind the name then takes
precedence. No option may be given twice on one side. A request for help or for the
version is granted as soon as it is read, whatever else the command line still lacks.
-/

/-- What the program is asked to do. -/
inductive Task where
  /-- Read one line and write its canonical form, or all of its fields. -/
  | parse (text : String) (fields : Bool)
  /-- Write the canonical form of every line. -/
  | normalize (file : Option String)
  /-- Write the labels of everyone who is mentioned. -/
  | agents (file : Option String)
  deriving Repr, DecidableEq

/-- A command line that has been understood. -/
structure Invocation where
  config : Option String
  strict : Bool
  task : Task
  deriving Repr, DecidableEq

/-- The parts of the command line that have options of their own. -/
inductive Level where
  | program
  | parse
  | normalize
  | agents
  deriving Repr, DecidableEq

/-- What a page of help is about. -/
inductive Page where
  | about (level : Level)
  | help
  deriving Repr, DecidableEq

/-- Why a command line is not carried out. -/
inductive Stop where
  | help (page : Page)
  | version
  | misuse
  deriving Repr, DecidableEq

/-- Options without a value. -/
inductive Flag where
  | strict
  | fields
  | help
  | version
  deriving Repr, DecidableEq

/-- Options with a value, which is the name of a file. -/
inductive Setting where
  | config
  | file
  deriving Repr, DecidableEq

/-- What has been given on one level. -/
structure Given where
  config : Option String
  file : Option String
  strict : Bool
  fields : Bool
  text : Option String
  /-- A setting whose value has been read but not yet judged. -/
  pending : Option (Setting × String)
  deriving Repr, DecidableEq

namespace Level

/-- The level of a word that names a task. -/
def ofTask? :
    String →
    Option Level
  | "parse" => some .parse
  | "normalize" => some .normalize
  | "agents" => some .agents
  | _ => none

/-- The flag of a long name. -/
def flag?
    (level : Level)
    (name : String) :
    Option Flag :=
  if name = "strict" then
    some .strict
  else if name = "help" then
    some .help
  else if name = "version" && level = .program then
    some .version
  else if name = "json" && level = .parse then
    some .fields
  else
    none

/-- The setting of a long name. -/
def setting?
    (level : Level)
    (name : String) :
    Option Setting :=
  if name = "config" then
    some .config
  else if name = "file" && (level = .normalize || level = .agents) then
    some .file
  else
    none

/-- What a group of short options stops the reading with; there is no other kind. -/
def stopOfShort
    (level : Level) :
    List Char →
    Stop
  | 'h' :: _ => .help (.about level)
  | 'V' :: _ => if level = .program then .version else .misuse
  | _ => .misuse

end Level

namespace Given

/-- Nothing. -/
def nothing : Given :=
  ⟨none, none, false, false, none, none⟩

/-- A flag is raised; none may be raised twice. -/
def raise
    (given : Given)
    (level : Level) :
    Flag →
    Except Stop Given
  | .strict => if given.strict then .error .misuse else .ok { given with strict := true }
  | .fields => if given.fields then .error .misuse else .ok { given with fields := true }
  | .help => .error (.help (.about level))
  | .version => .error .version

/-- A setting gets its value, which may not be empty; none may get a second one. -/
def put
    (given : Given)
    (setting : Setting)
    (value : String) :
    Except Stop Given :=
  if value = "" then
    .error .misuse
  else
    match setting with
    | .config =>
        if given.config.isSome then
          .error .misuse
        else
          .ok { given with config := some value }
    | .file =>
        if given.file.isSome then
          .error .misuse
        else
          .ok { given with file := some value }

/-- A setting that is pending is judged. -/
def settle
    (given : Given) :
    Except Stop Given :=
  match given.pending with
  | some (setting, value) => put { given with pending := none } setting value
  | none => .ok given

/-- A word that is no option; only one task takes one. -/
def takeWord
    (given : Given)
    (level : Level)
    (word : String) :
    Except Stop Given :=
  if level = .parse && given.text.isNone then
    .ok { given with text := some word }
  else
    .error .misuse

/-- The options at the front of some arguments, and the arguments from the first word on. -/
def readOptions
    (level : Level)
    (given : Given) :
    List String →
    Except Stop (Given × List String)
  | [] => .ok (given, [])
  | argument :: rest =>
      match Argument.ofString argument with
      | .word _ => .ok (given, argument :: rest)
      | .separator => .ok (given, argument :: rest)
      | .short letters => do
          let _ ← given.settle
          .error (level.stopOfShort letters)
      | .long name attached => do
          let given ← given.settle
          match level.flag? name, level.setting? name, attached, rest with
          | some flag, _, none, rest => do
              let given ← given.raise level flag
              readOptions level given rest
          | _, some setting, some value, rest => do
              let given ← given.put setting value
              readOptions level given rest
          | _, some setting, none, value :: rest =>
              if (Argument.ofString value).isWord then
                readOptions level { given with pending := some (setting, value) } rest
              else
                .error .misuse
          | _, _, _, _ => .error .misuse

/-- All the arguments behind the name of a task. -/
def readTask
    (level : Level)
    (arguments : List String) :
    Except Stop Given := do
  let (given, rest) ← nothing.readOptions level arguments
  match rest with
  | [] => given.settle
  | word :: rest =>
      let given ← given.settle
      if Argument.ofString word = .separator then
        match rest with
        | [] => return given
        | [word] => given.takeWord level word
        | _ => throw .misuse
      else
        let given ← given.takeWord level word
        let (given, rest) ← given.readOptions level rest
        let given ← given.settle
        if rest.isEmpty || rest = ["--"] then
          return given
        else
          throw .misuse

/-- The task of a level with what was given for it. -/
def task
    (given : Given) :
    Level →
    Except Stop Task
  | .program => .error .misuse
  | .parse =>
      match given.text with
      | some text => .ok (.parse text given.fields)
      | none => .error .misuse
  | .normalize => .ok (.normalize given.file)
  | .agents => .ok (.agents given.file)

end Given

/-- The page of help that the words behind `help` ask for. -/
def pageOfWords? :
    List String →
    Option Page
  | [] => some (.about .program)
  | ["help"] => some .help
  | [word] => (Level.ofTask? word).map .about
  | _ => none

/-- The invocation that some arguments spell, or why there is none. -/
def Invocation.ofArguments
    (arguments : List String) :
    Except Stop Invocation := do
  let (outer, rest) ← Given.nothing.readOptions .program arguments
  match rest with
  | [] => throw .misuse
  | word :: rest =>
      if word = "help" then
        match pageOfWords? rest with
        | some page => throw (.help page)
        | none => throw .misuse
      else
        match Level.ofTask? word with
        | none => throw .misuse
        | some level =>
            let inner ← Given.readTask level rest
            let task ← inner.task level
            let outer ← outer.settle
            return ⟨inner.config.or outer.config, inner.strict || outer.strict, task⟩

end WerewolfSpeech.Command
