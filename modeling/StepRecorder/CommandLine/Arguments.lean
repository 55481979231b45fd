import StepRecorder.Config
import StepRecorder.Text.Numeral

/-!
The arguments of the command line: options for the program, a command, and options for the command.
An argument is understood by what stands before it, from left to right:

    [--config C] [watch [--log L] [--registry R] [--steps S] [--poll-ms N] [--offline]]
    [--config C] check [--registry R] [--steps S]

The configuration can be named on either side of the command; behind it, the name counts. No option
can be given twice on one side.
-/

namespace StepRecorder.CommandLine

/-- An option that takes a value. -/
inductive Setting where
  | config
  | log
  | registry
  | steps
  | pollInterval
  deriving Repr, DecidableEq

/-- The name of an option that takes a value. -/
def Setting.name : Setting → Text
  | .config => "config".toList
  | .log => "log".toList
  | .registry => "registry".toList
  | .steps => "steps".toList
  | .pollInterval => "poll-ms".toList

/-- What the options before an argument belong to. -/
inductive Level where
  | program
  | watch
  | check
  deriving Repr, DecidableEq

/-- The options that take a value. -/
def Level.settings : Level → List Setting
  | .program => [.config]
  | .watch => [.config, .log, .registry, .steps, .pollInterval]
  | .check => [.config, .registry, .steps]

/-- The options that are given. -/
structure Options where
  config : Option Text := none
  log : Option Text := none
  registry : Option Text := none
  steps : Option Text := none
  pollInterval : Option Nat := none
  isOffline : Bool := false
  deriving Repr, DecidableEq

/-- What the arguments ask for. -/
inductive Invocation where
  | help
  | version
  | watch (options : Options)
  | check (options : Options)
  deriving Repr, DecidableEq

/-- The number in a text, which can have a plus before it. -/
def number? (text : Text) : Option Nat :=
  Text.word? (if text.head? = some '+' then text.drop 1 else text)

/-- A path, which has to name something. -/
def path? (text : Text) : Option Text := if text.isEmpty then none else some text

namespace Options

/-- The options with one more, unless it is there already or has no meaning. -/
def give? (options : Options) (setting : Setting) (value : Text) : Option Options :=
  match setting with
  | .config =>
    if options.config.isSome then none
    else (path? value).map fun path => { options with config := some path }
  | .log =>
    if options.log.isSome then none
    else (path? value).map fun path => { options with log := some path }
  | .registry =>
    if options.registry.isSome then none
    else (path? value).map fun path => { options with registry := some path }
  | .steps =>
    if options.steps.isSome then none
    else (path? value).map fun path => { options with steps := some path }
  | .pollInterval =>
    if options.pollInterval.isSome then none
    else (number? value).map fun n => { options with pollInterval := some n }

end Options

/-- What is known before an argument. -/
structure Progress where
  level : Level := .program
  /-- The option whose value has to come next. -/
  awaiting : Option Setting := none
  /-- The configuration that is named before the command. -/
  outer : Option Text := none
  options : Options := {}
  deriving Repr

/-- What an argument comes to. -/
inductive Taken where
  | on (progress : Progress)
  | done (invocation : Invocation)
  | refused

namespace Progress

/-- Whether an argument can be the value of the option before it. -/
def isValue (argument : Text) : Bool := argument.head? ≠ some '-' || argument = ['-']

/-- The argument is the value of an option. -/
def takeValue (progress : Progress) (setting : Setting) (value : Text) : Taken :=
  match progress.options.give? setting value with
  | some options => .on { progress with awaiting := none, options }
  | none => .refused

/-- The argument is an option that takes no value. -/
def takeFlag (progress : Progress) (name : Text) : Taken :=
  if name = "help".toList then .done .help
  else if name = "version".toList && progress.level = .program then .done .version
  else if name = "offline".toList && progress.level = .watch && !progress.options.isOffline then
    .on { progress with options := { progress.options with isOffline := true } }
  else .refused

/-- The argument is an option, perhaps with its value. -/
def takeOption (progress : Progress) (option : Text) : Taken :=
  let name := option.takeWhile (· ≠ '=')
  let setting := progress.level.settings.find? fun setting => setting.name = name
  match setting, option.drop name.length with
  | some setting, _ :: value => progress.takeValue setting value
  | some setting, [] => .on { progress with awaiting := some setting }
  | none, _ :: _ => .refused
  | none, [] => progress.takeFlag name

/-- The argument is made of options of one letter, of which the first decides. -/
def takeLetter (progress : Progress) (letter : Char) : Taken :=
  if letter = 'h' then .done .help
  else if letter = 'V' && progress.level = .program then .done .version
  else .refused

/-- The argument is a command. -/
def takeCommand (progress : Progress) (name : Text) : Taken :=
  let next (level : Level) : Taken := .on { level, outer := progress.options.config }
  if progress.level ≠ .program then .refused
  else if name = "watch".toList then next .watch
  else if name = "check".toList then next .check
  else .refused

/-- Takes one more argument. -/
def take (progress : Progress) (argument : Text) : Taken :=
  match progress.awaiting with
  | some setting => if isValue argument then progress.takeValue setting argument else .refused
  | none =>
    match argument with
    | '-' :: '-' :: option => progress.takeOption option
    | '-' :: letter :: _ => progress.takeLetter letter
    | name => progress.takeCommand name

/-- What the arguments ask for once all are taken. -/
def invocation? (progress : Progress) : Option Invocation :=
  let options :=
    { progress.options with config := progress.options.config.orElse fun () => progress.outer }
  match progress.awaiting, progress.level with
  | some _, _ => none
  | none, .check => some (.check options)
  | none, _ => some (.watch options)

end Progress

/-- Whether arguments ask for help on commands that there are. -/
def isHelpOn : List Text → Bool
  | [] => true
  | name :: names =>
    if name = "help".toList then isHelpOn names
    else (name = "watch".toList || name = "check".toList) && names.isEmpty

/-- What arguments ask for after what is known. Two dashes end the options, and nothing can follow
them. -/
def readFrom (progress : Progress) : List Text → Option Invocation
  | [] => progress.invocation?
  | argument :: arguments =>
    if progress.awaiting.isNone && argument = "--".toList then
      if arguments.isEmpty then progress.invocation? else none
    else if progress.awaiting.isNone && progress.level = .program && argument = "help".toList then
      if isHelpOn arguments then some .help else none
    else
      match progress.take argument with
      | .on progress => readFrom progress arguments
      | .done invocation => some invocation
      | .refused => none

/-- What arguments ask for, unless they make no sense. -/
def read (arguments : List Text) : Option Invocation := readFrom {} arguments

end StepRecorder.CommandLine
