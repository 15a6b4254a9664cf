import DetachedTasks.Level
import DetachedTasks.Path
import DetachedTasks.Platform
import DetachedTasks.Settings

/-!
# The command line

A command line is a subcommand with options.  The options for the workspace, the settings
file and the log level may stand before the subcommand or behind it, and behind it they win.
An option takes its value from the same argument or from the next one; the next one is not
taken if it looks like an option.  An option that waits for its value is settled when the
next option or argument comes, so the first thing wrong from the left is reported.
-/

namespace DetachedTasks

/-- Why a command line is refused, or what it asks for instead of a command. -/
inductive UsageFault where
  | missingRequiredArgument
  | argumentConflict
  | unknownArgument
  | invalidValue
  | invalidSubcommand
  | tooManyValues
  | missingSubcommand
  /-- A value that its own rule refuses, with what that rule says. -/
  | valueValidation (message : Text)
  | displayHelp
  | displayVersion
  /-- Nothing was asked for at all. -/
  | displayHelpOnMissing
  deriving Repr, DecidableEq

/-- The name of the kind of a usage fault. -/
def UsageFault.kind : UsageFault → Text
  | .missingRequiredArgument => "MissingRequiredArgument".toList
  | .argumentConflict => "ArgumentConflict".toList
  | .unknownArgument => "UnknownArgument".toList
  | .invalidValue => "InvalidValue".toList
  | .invalidSubcommand => "InvalidSubcommand".toList
  | .tooManyValues => "TooManyValues".toList
  | .missingSubcommand => "MissingSubcommand".toList
  | .valueValidation _ => "ValueValidation".toList
  | .displayHelp => "DisplayHelp".toList
  | .displayVersion => "DisplayVersion".toList
  | .displayHelpOnMissing => "DisplayHelpOnMissingArgumentOrSubcommand".toList

/-- What `--version` prints. -/
def versionText : Text := "durabletask 0.1.0\n".toList

/-- The text that is fixed for a usage fault. -/
def UsageFault.message? : UsageFault → Option Text
  | .valueValidation message => some message
  | .displayVersion => some versionText
  | _ => none

/-- What a script is launched with. -/
structure LaunchArguments where
  /-- The file that holds the script. -/
  file : Option Path
  /-- The script itself. -/
  inline : Option Text
  capture : Bool
  platform : Option Platform
  /-- Assignments of variables, in the order given. -/
  environment : List (Text × Text)
  deriving Repr, DecidableEq

/-- What is to be done. -/
inductive Command where
  /-- Launch a script and print the id of its task. -/
  | launch (arguments : LaunchArguments)
  /-- Launch a script, follow its log, and end with its exit code. -/
  | run (arguments : LaunchArguments)
  /-- Print whether a task is complete. -/
  | status (id : Text)
  /-- Print the log of a task. -/
  | log (id : Text)
  /-- Print the captured output of a task. -/
  | output (id : Text)
  /-- Follow the log of a task that was launched before. -/
  | wait (id : Text)
  /-- Remove the control directory of a task. -/
  | cleanup (id : Text)
  deriving Repr, DecidableEq

/-- A command line that was understood. -/
structure Invocation where
  workspace : Path
  /-- The settings file. -/
  settings : Path
  level : Option Level
  command : Command
  deriving Repr, DecidableEq

namespace CommandLine

/-- The options of all commands. -/
inductive Flag where
  | help
  | version
  | workspace
  | config
  | logLevel
  | file
  | inline
  | capture
  | platform
  | env
  deriving Repr, DecidableEq

namespace Flag

/-- The long name of an option. -/
def long : Flag → Text
  | .help => "help".toList
  | .version => "version".toList
  | .workspace => "workspace".toList
  | .config => "config".toList
  | .logLevel => "log-level".toList
  | .file => "file".toList
  | .inline => "inline".toList
  | .capture => "capture".toList
  | .platform => "platform".toList
  | .env => "env".toList

/-- The letter of an option, if it has one. -/
def letter? : Flag → Option Char
  | .help => some 'h'
  | .version => some 'V'
  | .workspace => some 'w'
  | .config => none
  | .logLevel => none
  | .file => some 'f'
  | .inline => some 'c'
  | .capture => none
  | .platform => none
  | .env => some 'e'

/-- Whether an option has a value. -/
def takesValue : Flag → Bool
  | .help => false
  | .version => false
  | .capture => false
  | _ => true

/-- Whether an option may be given several times. -/
def repeats : Flag → Bool
  | .env => true
  | _ => false

end Flag

/-- The subcommands. -/
inductive Verb where
  | launch
  | run
  | status
  | log
  | output
  | wait
  | cleanup
  deriving Repr, DecidableEq

namespace Verb

/-- All subcommands. -/
def all : List Verb :=
  [.launch, .run, .status, .log, .output, .wait, .cleanup]

/-- The name of a subcommand. -/
def name : Verb → Text
  | .launch => "launch".toList
  | .run => "run".toList
  | .status => "status".toList
  | .log => "log".toList
  | .output => "output".toList
  | .wait => "wait".toList
  | .cleanup => "cleanup".toList

/-- The subcommand with a name. -/
def ofName? (name : Text) : Option Verb :=
  all.find? (·.name = name)

/-- Whether a subcommand launches a script; the others take the id of a task. -/
def launches : Verb → Bool
  | .launch => true
  | .run => true
  | _ => false

end Verb

/-- The options that may stand anywhere. -/
def globalFlags : List Flag :=
  [.workspace, .config, .logLevel]

/-- A place where options are read: before the subcommand, or behind it. -/
inductive Scope where
  | top
  | behind (verb : Verb)
  deriving Repr, DecidableEq

namespace Scope

/-- The options that are known in a scope. -/
def flags : Scope → List Flag
  | .top => .help :: .version :: globalFlags
  | .behind verb =>
      let own : List Flag :=
        if verb.launches then [.file, .inline, .capture, .platform, .env] else []
      .help :: globalFlags ++ own

/-- Whether an argument without a dash has a place in a scope. -/
def takesId : Scope → Bool
  | .top => false
  | .behind verb => !verb.launches

/-- The option with a long name. -/
def long?
    (scope : Scope)
    (name : Text) : Option Flag :=
  scope.flags.find? (·.long = name)

/-- The option with a letter. -/
def letter?
    (scope : Scope)
    (letter : Char) : Option Flag :=
  scope.flags.find? (·.letter? = some letter)

end Scope

/-- Something whose value is not settled yet. -/
inductive Pending where
  /-- An option, with its value if that has come. -/
  | option (flag : Flag) (value : Option Text)
  /-- The id of a task. -/
  | id (text : Text)
  deriving Repr, DecidableEq

/-- What was read in one scope. -/
structure Reading where
  /-- The settled options with their values, in order. -/
  given : List (Flag × Text)
  /-- The settled id of a task. -/
  id : Option Text
  pending : Option Pending
  /-- The next argument is the value of the pending option. -/
  awaiting : Bool
  /-- Two dashes were read: nothing that follows is an option. -/
  trailing : Bool
  deriving Repr, DecidableEq

/-- Nothing was read yet. -/
def Reading.start : Reading :=
  { given := []
    id := none
    pending := none
    awaiting := false
    trailing := false }

/-- An assignment of a variable: a name that is not empty, an equals sign and a value. -/
def assignment? (text : Text) : Option (Text × Text) :=
  match text.takeWhile (· != '='), text.dropWhile (· != '=') with
  | [], _ => none
  | _, [] => none
  | name, _ :: value => some (name, value)

/-- What is said of something that is no assignment. -/
def assignmentRefusal (text : Text) : Text :=
  "invalid environment assignment: ".toList ++ text ++ " (expected KEY=VALUE)".toList

/-- Refuse a value that its option does not take. -/
def checkValue
    (flag : Flag)
    (value : Text) : Except UsageFault Unit :=
  match flag with
  | .workspace => if value.isEmpty then .error .invalidValue else .ok ()
  | .config => if value.isEmpty then .error .invalidValue else .ok ()
  | .file => if value.isEmpty then .error .invalidValue else .ok ()
  | .logLevel => if (Level.ofName? value).isSome then .ok () else .error .invalidValue
  | .platform =>
      match Platform.parse value with
      | .ok _ => .ok ()
      | .error spelling => .error (.valueValidation (Platform.refusal spelling))
  | .env =>
      if (assignment? value).isSome then .ok ()
      else .error (.valueValidation (assignmentRefusal value))
  | _ => .ok ()

namespace Reading

/-- Settle an option with its value. -/
def accept
    (reading : Reading)
    (flag : Flag)
    (value : Text) : Except UsageFault Reading :=
  if !flag.repeats && reading.given.any (·.1 = flag) then
    .error .argumentConflict
  else do
    checkValue flag value
    pure { reading with given := reading.given ++ [(flag, value)] }

/-- Settle what is pending. -/
def settle (reading : Reading) : Except UsageFault Reading :=
  let cleared := { reading with pending := none }
  match reading.pending with
  | none => .ok reading
  | some (.id text) => .ok { cleared with id := some text }
  | some (.option _ none) => .error .invalidValue
  | some (.option flag (some value)) => cleared.accept flag value

/-- An option that has no value. -/
def occur
    (reading : Reading)
    (flag : Flag) : Except UsageFault Reading := do
  let settled ← reading.settle
  match flag with
  | .help => .error .displayHelp
  | .version => .error .displayVersion
  | _ =>
      let next ← settled.accept flag []
      pure { next with awaiting := false }

/-- An option with the value that stands in the same argument, or that has to follow. -/
def begin
    (reading : Reading)
    (flag : Flag)
    (attached : Option Text) : Except UsageFault Reading := do
  let settled ← reading.settle
  match attached with
  | some value =>
      let next ← settled.accept flag value
      pure { next with awaiting := false }
  | none => pure { settled with pending := some (.option flag none), awaiting := true }

/-- Read an option with a long name, without its dashes. -/
def long
    (reading : Reading)
    (scope : Scope)
    (text : Text) : Except UsageFault Reading :=
  let name := text.takeWhile (· != '=')
  let attached :=
    match text.dropWhile (· != '=') with
    | [] => none
    | _ :: value => some value
  match scope.long? name with
  | none => .error .unknownArgument
  | some flag =>
      if flag.takesValue then reading.begin flag attached
      else if attached.isSome then .error .tooManyValues
      else reading.occur flag

/-- Read options by their letters.  What follows the letter of an option with a value is the
value; an equals sign before it does not count. -/
def letters
    (reading : Reading)
    (scope : Scope) : Text → Except UsageFault Reading
  | [] => .ok reading
  | letter :: rest =>
      match scope.letter? letter with
      | none => .error .unknownArgument
      | some flag =>
          if flag.takesValue then
            let attached :=
              match rest with
              | [] => none
              | '=' :: value => some value
              | value => some value
            reading.begin flag attached
          else do
            let next ← reading.occur flag
            next.letters scope rest

/-- Read the value of the pending option. -/
def takeValue
    (reading : Reading)
    (value : Text) : Reading :=
  match reading.pending with
  | some (.option flag _) =>
      { reading with
        pending := some (.option flag (some value))
        awaiting := false }
  | _ => { reading with awaiting := false }

/-- Whether an id was read already, settled or not. -/
def hasId (reading : Reading) : Bool :=
  match reading.pending with
  | some (.id _) => true
  | _ => reading.id.isSome

/-- Read an argument that is neither an option nor a value. -/
def plain
    (reading : Reading)
    (scope : Scope)
    (text : Text) : Except UsageFault Reading :=
  if scope.takesId && !reading.hasId then do
    let settled ← reading.settle
    pure { settled with pending := some (.id text), awaiting := false }
  else if scope = .top then
    if reading.trailing && (text = "help".toList || (Verb.ofName? text).isSome) then
      .error .unknownArgument
    else
      .error .invalidSubcommand
  else
    .error .unknownArgument

/-- The last value of an option. -/
def value?
    (reading : Reading)
    (flag : Flag) : Option Text :=
  (reading.given.find? (·.1 = flag)).map (·.2)

end Reading

/-- What the arguments behind `help` ask for. -/
def helpFor : List Text → UsageFault
  | [] => .displayHelp
  | [name] =>
      if name = "help".toList || (Verb.ofName? name).isSome then .displayHelp
      else .invalidSubcommand
  | _ => .invalidSubcommand

/-- What a single argument means. -/
inductive Shape where
  /-- Two dashes alone. -/
  | separator
  /-- An option by its long name. -/
  | long (text : Text)
  /-- Options by their letters. -/
  | letters (text : Text)
  | plain
  deriving Repr, DecidableEq

/-- The shape of an argument; a single dash alone is a plain one. -/
def Shape.of : Text → Shape
  | ['-', '-'] => .separator
  | '-' :: '-' :: text => .long text
  | ['-'] => .plain
  | '-' :: text => .letters text
  | _ => .plain

/-- Read one argument that is no subcommand. -/
def step
    (scope : Scope)
    (reading : Reading)
    (argument : Text) : Except UsageFault Reading :=
  if reading.trailing then
    reading.plain scope argument
  else
    match Shape.of argument with
    | .separator => .ok { reading with trailing := true }
    | .long text => reading.long scope text
    | .letters text => reading.letters scope text
    | .plain =>
        if reading.awaiting then .ok (reading.takeValue argument)
        else reading.plain scope argument

/-- Read arguments up to the subcommand, and answer with it and what follows it. -/
def readTop
    (reading : Reading) :
    List Text → Except UsageFault (Reading × Option (Verb × List Text))
  | [] => .ok (reading, none)
  | argument :: rest =>
      let verb? :=
        if reading.trailing || reading.awaiting then none else Verb.ofName? argument
      if !reading.trailing && !reading.awaiting && argument = "help".toList then
        .error (helpFor rest)
      else
        match verb? with
        | some verb => .ok (reading, some (verb, rest))
        | none => do
            let next ← step .top reading argument
            readTop next rest

/-- What a launch is asked for, once its options are settled. -/
def launchArguments (reading : Reading) : Except UsageFault LaunchArguments :=
  let file := reading.value? .file
  let inline := reading.value? .inline
  if file.isSome && inline.isSome then .error .argumentConflict
  else if file.isNone && inline.isNone then .error .missingRequiredArgument
  else
    .ok
      { file := file.map Path.ofText
        inline
        capture := (reading.value? .capture).isSome
        platform := (reading.value? .platform).bind fun text => (Platform.parse text).toOption
        environment :=
          (reading.given.filter (·.1 = .env)).filterMap fun given => assignment? given.2 }

/-- The id that a subcommand is given. -/
def taskId (reading : Reading) : Except UsageFault Text :=
  match reading.id with
  | some id => .ok id
  | none => .error .missingRequiredArgument

/-- The command of a subcommand with settled options. -/
def command
    (verb : Verb)
    (reading : Reading) : Except UsageFault Command :=
  match verb with
  | .launch => .launch <$> launchArguments reading
  | .run => .run <$> launchArguments reading
  | .status => .status <$> taskId reading
  | .log => .log <$> taskId reading
  | .output => .output <$> taskId reading
  | .wait => .wait <$> taskId reading
  | .cleanup => .cleanup <$> taskId reading

/-- The value of an option that may stand before the subcommand or behind it. -/
def globalValue?
    (top behind : Reading)
    (flag : Flag) : Option Text :=
  (behind.value? flag).or (top.value? flag)

/-- Understand a command line, given without the name of the program. -/
def parse (arguments : List Text) : Except UsageFault Invocation := do
  let (top, verb?) ← readTop Reading.start arguments
  match verb? with
  | none =>
      let settled ← top.settle
      if settled.given.isEmpty then .error .displayHelpOnMissing
      else .error .missingSubcommand
  | some (verb, rest) =>
      let unsettled ← rest.foldlM (step (.behind verb)) Reading.start
      let behind ← unsettled.settle
      let command ← command verb behind
      let settled ← top.settle
      let value? := globalValue? settled behind
      pure
        { workspace := Path.ofText ((value? .workspace).getD ['.'])
          settings := Path.ofText ((value? .config).getD Settings.fileName)
          level := (value? .logLevel).bind Level.ofName?
          command }

end CommandLine

end DetachedTasks
