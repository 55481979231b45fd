import Mathlib.Tactic.SplitIfs
import StepRecorder.CommandLine

/-!
The configuration that a recording begins with. It comes from two sides:

    file or defaults ──▶ rules tried ──▶ configuration ──┐
                                                         ├──▶ recording
    arguments        ──▶ options     ────────────────────┘

The rules are tried before the options take effect. The paths among the options are never empty, and
an option can only disable the oracle, so two of the three rules still hold afterwards. The poll
interval is not looked at again.

Main statement: `recording_obeys_unless_polling_without_pause`.
-/

namespace StepRecorder

namespace Config

theorem violation?_eq_none_iff {config : Config} :
    config.violation? = none ↔ ∀ violation : Violation, violation.isIn config = false := by
  have hall : ∀ violation : Violation, violation ∈ Violation.all := by
    intro violation
    cases violation <;> decide
  rw [violation?, List.find?_eq_none]
  constructor
  · intro h violation
    exact Bool.eq_false_iff.mpr (h violation (hall violation))
  · intro h violation _
    rw [h violation]
    exact Bool.false_ne_true

theorem ofText_obeys {text : Text} {config : Config} (h : ofText text = .ok config) :
    config.violation? = none := by
  unfold ofText at h
  cases hread : unchecked? text with
  | none =>
    rw [hread] at h
    cases h
  | some read =>
    rw [hread] at h
    dsimp only at h
    cases hbroken : read.violation? with
    | some violation =>
      rw [hbroken] at h
      cases h
    | none =>
      rw [hbroken] at h
      obtain rfl := Except.ok.inj h
      exact hbroken

theorem ofReading_obeys {path : Text} {reading : Reading} {config : Config}
    (h : (ofReading path reading).result = .ok config) : config.violation? = none := by
  unfold ofReading at h
  cases htext : reading.text? with
  | error cause =>
    rw [htext] at h
    cases h
  | ok text =>
    rw [htext] at h
    dsimp only at h
    cases hread : ofText text with
    | ok read =>
      rw [hread] at h
      obtain rfl := Except.ok.inj h
      exact ofText_obeys hread
    | error error =>
      rw [hread] at h
      cases error <;> cases h

/-- A configuration that was loaded breaks no rule. -/
theorem load_obeys {disk : Disk} {home explicit : Option Text} {config : Config}
    (h : (load disk home explicit).result = .ok config) : config.violation? = none := by
  unfold load at h
  cases hsource : source? disk.exists? home explicit with
  | some path =>
    rw [hsource] at h
    exact ofReading_obeys h
  | none =>
    rw [hsource] at h
    obtain rfl := Except.ok.inj h
    exact defaults_obey

end Config

namespace CommandLine

theorem path?_ne_nil {text path : Text} (h : path? text = some path) : path ≠ [] := by
  unfold path? at h
  cases text with
  | nil => cases h
  | cons c text =>
    obtain rfl := Option.some.inj h
    exact List.cons_ne_nil c text

/-- Options whose log is not empty where it is given. -/
def Options.NamesLog (options : Options) : Prop := options.log ≠ some []

/-- What an argument comes to: options that name a log, or an end that is no recording. -/
def Taken.NamesLog : Taken → Prop
  | .on progress => progress.options.NamesLog
  | .done invocation => ∀ options, invocation ≠ .watch options
  | .refused => True

theorem Options.NamesLog.give? {options next : Options} {setting : Setting} {value : Text}
    (hlog : options.NamesLog) (h : options.give? setting value = some next) : next.NamesLog := by
  cases setting with
  | log =>
    obtain ⟨-, h⟩ := Option.ite_none_left_eq_some.mp h
    obtain ⟨path, hpath, rfl⟩ := Option.map_eq_some_iff.mp h
    intro hempty
    exact path?_ne_nil hpath (Option.some.inj hempty)
  | config | registry | steps | pollInterval =>
    obtain ⟨-, h⟩ := Option.ite_none_left_eq_some.mp h
    obtain ⟨_, -, rfl⟩ := Option.map_eq_some_iff.mp h
    exact hlog

namespace Progress

variable {progress : Progress}

theorem takeValue_namesLog (h : progress.options.NamesLog) (setting : Setting) (value : Text) :
    (progress.takeValue setting value).NamesLog := by
  unfold takeValue
  cases hgive : progress.options.give? setting value with
  | some options => exact h.give? hgive
  | none => trivial

theorem takeFlag_namesLog (h : progress.options.NamesLog) (name : Text) :
    (progress.takeFlag name).NamesLog := by
  unfold takeFlag
  split_ifs
  · exact nofun
  · exact nofun
  · exact h
  · trivial

theorem takeOption_namesLog (h : progress.options.NamesLog) (option : Text) :
    (progress.takeOption option).NamesLog := by
  unfold takeOption
  dsimp only
  split
  · exact takeValue_namesLog h _ _
  · exact h
  · trivial
  · exact takeFlag_namesLog h _

theorem takeLetter_namesLog (letter : Char) : (progress.takeLetter letter).NamesLog := by
  unfold takeLetter
  split_ifs
  · exact nofun
  · exact nofun
  · trivial

theorem takeCommand_namesLog (name : Text) : (progress.takeCommand name).NamesLog := by
  unfold takeCommand
  -- A command starts with options of its own.
  have hfresh : ({} : Options).NamesLog := nofun
  split_ifs
  · trivial
  · exact hfresh
  · exact hfresh
  · trivial

theorem take_namesLog (h : progress.options.NamesLog) (argument : Text) :
    (progress.take argument).NamesLog := by
  unfold take
  split
  · split_ifs
    · exact takeValue_namesLog h _ _
    · trivial
  · split
    · exact takeOption_namesLog h _
    · exact takeLetter_namesLog _
    · exact takeCommand_namesLog _

theorem invocation?_namesLog {options : Options} (h : progress.options.NamesLog)
    (hasked : progress.invocation? = some (.watch options)) : options.NamesLog := by
  unfold invocation? at hasked
  dsimp only at hasked
  split at hasked
  · cases hasked
  · cases hasked
  · obtain rfl := Invocation.watch.inj (Option.some.inj hasked)
    exact h

end Progress

theorem readFrom_namesLog {progress : Progress} {options : Options} (arguments : List Text)
    (h : progress.options.NamesLog)
    (hread : readFrom progress arguments = some (.watch options)) : options.NamesLog := by
  induction arguments generalizing progress with
  | nil => exact Progress.invocation?_namesLog h hread
  | cons argument arguments ih =>
    unfold readFrom at hread
    split_ifs at hread
    · exact Progress.invocation?_namesLog h hread
    · cases Option.some.inj hread
    · have htaken := Progress.take_namesLog h argument
      cases htake : progress.take argument with
      | on next =>
        rw [htake] at hread htaken
        exact ih htaken hread
      | done invocation =>
        rw [htake] at hread htaken
        exact absurd (Option.some.inj hread) (htaken options)
      | refused =>
        rw [htake] at hread
        cases hread

/-- Of a configuration that breaks no rule, options that name a log make one whose only fault can be
the poll interval. -/
theorem configured_isIn_iff {config : Config} {options : Options}
    (hobeys : config.violation? = none) (hlog : options.NamesLog) (violation : Config.Violation) :
    violation.isIn (configured config options) = true
      ↔ violation = .pollIntervalZero ∧ options.pollInterval = some 0 := by
  have hrule := Config.violation?_eq_none_iff.mp hobeys
  cases violation with
  | pollIntervalZero =>
    have hpoll := of_decide_eq_false (hrule .pollIntervalZero)
    cases hgiven : options.pollInterval with
    | none => simpa [Config.Violation.isIn, configured, hgiven] using hpoll
    | some n => simp [Config.Violation.isIn, configured, hgiven]
  | timeoutZero =>
    have htimeout : config.oracle.isEnabled = true → config.oracle.timeout ≠ 0 := by
      simpa [Config.Violation.isIn] using hrule .timeoutZero
    simp only [Config.Violation.isIn, configured, Bool.and_eq_true, reduceCtorEq, false_and,
      iff_false, not_and]
    intro henabled hzero
    exact htimeout henabled.1 (of_decide_eq_true hzero)
  | logEmpty =>
    have hnamed : config.paths.log ≠ [] := by
      simpa [Config.Violation.isIn] using hrule .logEmpty
    simp only [Config.Violation.isIn, configured, List.isEmpty_iff, reduceCtorEq, false_and,
      iff_false]
    cases hgiven : options.log with
    | none => exact hnamed
    | some log =>
      rintro rfl
      exact hlog hgiven

/-- The configuration that a recording begins with, if the arguments ask for one and a configuration
can be loaded. -/
def startConfig? (environment : Environment) (disk : Disk) (arguments : List Text) :
    Option Config :=
  match read arguments with
  | some (.watch options) =>
    match (Config.load disk environment.home options.config).result with
    | .ok config => some (configured config options)
    | .error _ => none
  | _ => none

theorem of_startConfig?_eq_some {environment : Environment} {disk : Disk} {arguments : List Text}
    {config : Config} (h : startConfig? environment disk arguments = some config) :
    ∃ options loaded, read arguments = some (.watch options)
      ∧ (Config.load disk environment.home options.config).result = .ok loaded
      ∧ config = configured loaded options := by
  unfold startConfig? at h
  split at h
  · rename_i options hread
    split at h
    · rename_i loaded hload
      exact ⟨options, loaded, hread, hload, (Option.some.inj h).symm⟩
    · cases h
  · cases h

/-- The program begins a recording with that configuration, and otherwise ends at once. -/
theorem begin_cases (environment : Environment) (disk : Disk) (arguments : List Text) :
    (∃ config, startConfig? environment disk arguments = some config
        ∧ begin environment disk arguments = beginWatch environment disk config)
      ∨ (startConfig? environment disk arguments = none
        ∧ ∃ exit, begin environment disk arguments = .ended exit disk) := by
  unfold startConfig? begin beginWith
  cases read arguments with
  | none => exact .inr ⟨rfl, _, rfl⟩
  | some invocation =>
    cases invocation with
    | help => exact .inr ⟨rfl, _, rfl⟩
    | version => exact .inr ⟨rfl, _, rfl⟩
    | check options =>
      refine .inr ⟨rfl, ?_⟩
      dsimp only
      cases (Config.load disk environment.home options.config).result with
      | error error => exact ⟨_, rfl⟩
      | ok config => exact ⟨_, rfl⟩
    | watch options =>
      dsimp only
      cases (Config.load disk environment.home options.config).result with
      | error error => exact .inr ⟨rfl, _, rfl⟩
      | ok config => exact .inl ⟨_, rfl, rfl⟩

/-- Whatever configuration a recording begins with, it breaks no rule, unless an option asks for a
poll interval of zero: then it breaks the rule on the poll interval, and no other. -/
theorem recording_obeys_unless_polling_without_pause {environment : Environment} {disk : Disk}
    {arguments : List Text} {config : Config}
    (h : startConfig? environment disk arguments = some config) :
    begin environment disk arguments = beginWatch environment disk config
      ∧ ∃ options, read arguments = some (.watch options)
        ∧ config.paths.log ≠ []
        ∧ (config.oracle.isEnabled = true → 0 < config.oracle.timeout)
        ∧ (config.pollInterval = 0 ↔ options.pollInterval = some 0)
        ∧ (config.violation? = none ↔ options.pollInterval ≠ some 0) := by
  have hbegin : begin environment disk arguments = beginWatch environment disk config := by
    obtain ⟨started, hstarted, hbegin⟩ | ⟨hnone, -⟩ := begin_cases environment disk arguments
    · rw [hbegin, Option.some.inj (h.symm.trans hstarted)]
    · rw [hnone] at h
      cases h
  obtain ⟨options, loaded, hread, hload, rfl⟩ := of_startConfig?_eq_some h
  have hlog : options.NamesLog :=
    readFrom_namesLog arguments (show ({} : Options).NamesLog from nofun) hread
  have hfault := configured_isIn_iff (Config.load_obeys hload) hlog
  refine ⟨hbegin, options, hread, ?log, ?timeout, ?poll, ?rules⟩
  case log => simpa [Config.Violation.isIn] using not_congr (hfault .logEmpty)
  case timeout =>
    have htimeout := not_congr (hfault .timeoutZero)
    simp only [Config.Violation.isIn, reduceCtorEq, false_and, not_false_eq_true, iff_true,
      Bool.and_eq_true, decide_eq_true_eq, not_and] at htimeout
    intro henabled
    exact Nat.pos_of_ne_zero (htimeout henabled)
  case poll => simpa [Config.Violation.isIn] using hfault .pollIntervalZero
  case rules =>
    rw [Config.violation?_eq_none_iff]
    constructor
    · intro hnone hzero
      have hpoll := (hfault .pollIntervalZero).mpr ⟨rfl, hzero⟩
      rw [hnone .pollIntervalZero] at hpoll
      cases hpoll
    · intro hpoll violation
      exact Bool.eq_false_iff.mpr fun hbroken => hpoll ((hfault violation).mp hbroken).2

/-- Options that name another log and a pause, where no configuration is there. -/
theorem recording_obeys_with_options :
    let environment : Environment := ⟨none, fun _ => none, fun _ _ => .closed⟩
    let arguments := ["watch", "--log", "a.log", "--poll-ms", "5"].map String.toList
    ∃ config, startConfig? environment (.ofCurrent "home".toList) arguments = some config
      ∧ config.paths.log ≠ [] ∧ 0 < config.oracle.timeout ∧ config.violation? = none := by
  intro environment arguments
  have hstart : startConfig? environment (.ofCurrent "home".toList) arguments
      = some { paths := { log := "a.log".toList }, pollInterval := 5 } := by
    decide +kernel
  obtain ⟨-, options, hread, hlog, htimeout, -, hrules⟩ :=
    recording_obeys_unless_polling_without_pause hstart
  have hasked : read arguments
      = some (.watch { log := some "a.log".toList, pollInterval := some 5 }) := by
    decide +kernel
  obtain rfl := Invocation.watch.inj (Option.some.inj (hread.symm.trans hasked))
  exact ⟨_, hstart, hlog, htimeout rfl, hrules.mpr nofun⟩

/-- A poll interval of zero is refused in a file, but not among the options. -/
theorem recording_begins_without_pause :
    let environment : Environment := ⟨none, fun _ => none, fun _ _ => .closed⟩
    let arguments := ["watch", "--poll-ms", "0"].map String.toList
    Config.ofText "reader:\n  poll_interval_ms: 0\n".toList = .error (.invalid .pollIntervalZero)
      ∧ ∃ config, startConfig? environment (.ofCurrent "home".toList) arguments = some config
        ∧ config.pollInterval = 0 ∧ config.violation? = some .pollIntervalZero := by
  intro environment arguments
  have hread : Config.unchecked? "reader:\n  poll_interval_ms: 0\n".toList
      = some { pollInterval := 0 } := by
    decide +kernel
  have hstart : startConfig? environment (.ofCurrent "home".toList) arguments
      = some { pollInterval := 0 } := by
    decide +kernel
  refine ⟨?_, _, hstart, rfl, rfl⟩
  rw [Config.ofText, hread]
  rfl

end CommandLine
end StepRecorder
