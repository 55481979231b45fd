import StepRecorder.CommandLine
import StepRecorder.Log

/-!
The program itself. It reads and writes the files of the operating system; what is read, and what
is to be written, is decided elsewhere. There is no way to a server from here, so every request to
a model finds its connection closed. A recording goes on until the program is stopped from outside.
-/

namespace StepRecorder.Program

/-- A path as the operating system takes it. -/
def pathOf (path : Text) : String := String.ofList path

/-- Some bytes in one piece. -/
def pieceOf (bytes : Bytes) : ByteArray := ⟨bytes.toArray⟩

/-- The cause in an error of the operating system. -/
def causeOf : IO.Error → Cause
  | .noFileOrDirectory _ _ _ => .system .noEntry
  | .alreadyExists _ _ _ => .system .exists
  | .resourceExhausted _ _ _ => .system .noSpace
  | error => .reason error.toString.toList

/-- Does something, and tells what made it fail. -/
def attempt {α : Type} (failure : Cause → Failure) (action : IO α) : ExceptT Failure IO α := do
  match ← action.toBaseIO with
  | .ok result => return result
  | .error error => throw (failure (causeOf error))

/-- Reads a file. -/
def readFile (path : Text) : IO Reading := do
  match ← (IO.FS.readBinFile (pathOf path)).toBaseIO with
  | .ok bytes => return .ok bytes.toList
  | .error error => return .error (causeOf error)

/-- Whether a path leads to something that can be opened. -/
def isThere (path : Text) : IO Bool := do
  match ← (IO.FS.Handle.mk (pathOf path) .read).toBaseIO with
  | .ok _ => return true
  | .error _ => return false

/-- Makes the directories on the way to a path. -/
def makeParents (path : Text) : IO Unit :=
  match Path.parent? path with
  | some parent => IO.FS.createDirAll (pathOf parent)
  | none => return ()

/-- Tells what there is to tell. -/
def tell (notices : List Notice) : IO Unit :=
  notices.forM fun notice =>
    if notice.level = .debug then return ()
    else IO.eprintln (String.ofList (notice.level.word ++ ' ' :: notice.message))

/-- Loads the configuration. -/
def loadConfig (home explicit : Option Text) : IO Config.Loaded := do
  let usual ← (Config.usualPaths home).filterM isThere
  match Config.source? usual.contains home explicit with
  | some path => return Config.ofReading path (← readFile path)
  | none => return Config.withoutFile

/-- A recording of a log on the files of the operating system. -/
structure Session where
  paths : Paths
  conduct : Conduct
  log : IO.FS.Handle
  script : IO.FS.Handle

namespace Session

/-- Carries out a write of a recording. -/
def perform (session : Session) : Correlation.Write → ExceptT Failure IO (List Notice)
  | .registry entries => do
    let temporary := Replacement.temporaryPath session.paths.registry
    let bytes := pieceOf (Text.encode (Registry.render entries))
    attempt (.persistence temporary) (IO.FS.writeBinFile (pathOf temporary) bytes)
    attempt (.persistence session.paths.registry)
      (IO.FS.rename (pathOf temporary) (pathOf session.paths.registry))
    return []
  | .action action => do
    attempt (.persistence session.paths.steps) do
      session.script.write (pieceOf (Text.encode action.script))
      session.script.flush
    return [.actionRecorded action.instruction action.wait]

/-- Takes a line of the log. -/
def onLine (session : Session) (state : Correlation.State) (line : Bytes) :
    ExceptT Failure IO Correlation.State := do
  match Event.ofLine? (Log.lineText line) with
  | none => return state
  | some event =>
    let effect := Correlation.step session.conduct.target session.conduct.oracle state event
    tell effect.before
    if let some write := effect.write then tell (← session.perform write)
    tell effect.after
    return effect.state

/-- Follows the log after a beginning of a line. -/
partial def follow (session : Session) (pollInterval : Nat) (held : Bytes)
    (state : Correlation.State) : ExceptT Failure IO Unit := do
  let unavailable := Failure.sourceUnavailable session.paths.log
  let chunk ← attempt unavailable (session.log.read Follower.chunk.toUSize)
  if chunk.isEmpty then
    let _ ← attempt unavailable (IO.FS.Handle.mk (pathOf session.paths.log) .read)
    IO.sleep (min pollInterval 1000000).toUInt32
    session.follow pollInterval held state
  else
    let (lines, held) := Log.split (held ++ chunk.toList)
    let state ← lines.foldlM session.onLine state
    session.follow pollInterval held state

end Session

/-- Makes the files of a recording. -/
def prepare (paths : Paths) (conduct : Conduct) : ExceptT Failure IO Session := do
  attempt (.sourceUnavailable paths.log) do
    makeParents paths.log
    let _ ← IO.FS.Handle.mk (pathOf paths.log) .append
  for path in [paths.registry, paths.steps] do
    attempt (.persistence path) (makeParents path)
  attempt (.persistence paths.registry)
    (IO.FS.writeBinFile (pathOf paths.registry) (pieceOf (Text.encode (Registry.render []))))
  let script ← attempt (.persistence paths.steps) (IO.FS.Handle.mk (pathOf paths.steps) .write)
  let log ← attempt (.sourceUnavailable paths.log) (IO.FS.Handle.mk (pathOf paths.log) .read)
  return { paths, conduct, log, script }

/-- Ends the program. -/
def leave (exit : CommandLine.Exit) : IO UInt32 := do
  IO.print (String.ofList exit.output)
  IO.eprint (String.ofList exit.errors)
  return exit.code.toUInt32

/-- Records until something fails. -/
def watch (environment : CommandLine.Environment) (config : Config) : IO UInt32 := do
  let (oracle, notice) := CommandLine.oracleOf environment config.oracle
  tell [notice]
  let recording : ExceptT Failure IO Unit := do
    let session ← prepare config.paths ⟨config.target, oracle⟩
    tell [.scanning config.paths.log]
    session.follow config.pollInterval [] (.initial config.collision)
  match ← recording.run with
  | .ok () => leave { code := 0 }
  | .error failure => leave (CommandLine.Trouble.ofFailure failure).exit

/-- Checks a script. -/
def check (config : Config) (options : CommandLine.Options) : IO UInt32 := do
  let registry := options.registry.getD config.paths.registry
  let steps := options.steps.getD config.paths.steps
  let report := Script.checkReadings registry (← readFile registry) steps (← readFile steps)
  leave (CommandLine.checkExit registry steps report)

/-- Does something with the configuration, once it is loaded. -/
def withConfig (home explicit : Option Text) (run : Config → IO UInt32) : IO UInt32 := do
  let loaded ← loadConfig home explicit
  tell loaded.notices
  match loaded.result with
  | .ok config => run config
  | .error error => leave (CommandLine.Trouble.ofLoad error).exit

/-- Does what the arguments ask for. -/
def run (arguments : List Text) : IO UInt32 := do
  let home := (← IO.getEnv "HOME").map String.toList
  match CommandLine.read arguments with
  | none => leave { code := 2, errors := CommandLine.usage }
  | some .help => leave { code := 0, output := CommandLine.usage }
  | some .version => leave { code := 0, output := CommandLine.versionText }
  | some (.check options) => withConfig home options.config fun config => check config options
  | some (.watch options) =>
    withConfig home options.config fun config => do
      let config := CommandLine.configured config options
      let key := (← IO.getEnv (pathOf config.oracle.keyVariable)).map String.toList
      watch { home, variableOf? := fun _ => key, server := fun _ _ => .closed } config

end StepRecorder.Program

/-- The program. -/
def main (arguments : List String) : IO UInt32 :=
  StepRecorder.Program.run (arguments.map String.toList)
