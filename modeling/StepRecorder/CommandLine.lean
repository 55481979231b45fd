import StepRecorder.CommandLine.Arguments
import StepRecorder.CommandLine.Report
import StepRecorder.Oracle.Client

/-!
The program on a disk: what it does with its arguments. A check and everything that is wrong end it
at once; a recording goes on until it is finished from outside.
-/

namespace StepRecorder.CommandLine

/-- What the program finds around it. -/
structure Environment where
  home : Option Text
  variableOf? : Text → Option Text
  server : Server

/-- A configuration as the options of a recording change it. -/
def configured (config : Config) (options : Options) : Config :=
  { config with
    paths :=
      { log := options.log.getD config.paths.log
        registry := options.registry.getD config.paths.registry
        steps := options.steps.getD config.paths.steps }
    pollInterval := options.pollInterval.getD config.pollInterval
    oracle :=
      { config.oracle with isEnabled := config.oracle.isEnabled && !options.isOffline } }

/-- The oracle of a configuration, and what there is to tell of it. -/
def oracleOf (environment : Environment) (settings : OracleSettings) : Oracle × Notice :=
  match Client.ofSettings settings (environment.variableOf? settings.keyVariable) with
  | (some client, notice) => (client.oracle environment.server, notice)
  | (none, notice) => (Oracle.offline, notice)

/-- Where the program stands once it has begun. -/
inductive Stage where
  | ended (exit : Exit) (disk : Disk)
  | recording (conduct : Conduct) (current : Recording)

/-- Begins a recording. -/
def beginWatch (environment : Environment) (disk : Disk) (config : Config) : Stage :=
  let (oracle, notice) := oracleOf environment config.oracle
  match Recording.prepare disk config.paths with
  | (disk, .error failure) => .ended (Trouble.ofFailure failure).exit disk
  | (disk, .ok (follower, artifacts)) =>
    let recording := Recording.begin config.collision disk follower artifacts
    .recording ⟨config.target, oracle⟩
      { recording with notices := [notice, .scanning config.paths.log] }

/-- The end of a check. -/
def runCheck (disk : Disk) (config : Config) (options : Options) : Exit :=
  let registry := options.registry.getD config.paths.registry
  let steps := options.steps.getD config.paths.steps
  checkExit registry steps (Script.checkFiles disk registry steps)

/-- Begins what the arguments ask for, with the configuration loaded. -/
def beginWith (environment : Environment) (disk : Disk) (options : Options)
    (run : Config → Stage) : Stage :=
  match (Config.load disk environment.home options.config).result with
  | .error error => .ended (Trouble.ofLoad error).exit disk
  | .ok config => run config

/-- Begins what the arguments ask for. -/
def begin (environment : Environment) (disk : Disk) (arguments : List Text) : Stage :=
  match read arguments with
  | none => .ended { code := 2, errors := usage } disk
  | some .help => .ended { code := 0, output := usage } disk
  | some .version => .ended { code := 0, output := versionText } disk
  | some (.check options) =>
    beginWith environment disk options fun config => .ended (runCheck disk config options) disk
  | some (.watch options) =>
    beginWith environment disk options fun config =>
      beginWatch environment disk (configured config options)

/-- Lets a recording take all lines that are complete. -/
def Stage.settle : Stage → Stage
  | .recording conduct current => .recording conduct (current.settle conduct)
  | stage => stage

/-- Ends a recording. -/
def Stage.finish : Stage → Exit × Disk
  | .ended exit disk => (exit, disk)
  | .recording _ current =>
    let finished := current.finish
    (recordingExit finished.result, finished.disk)

end StepRecorder.CommandLine
