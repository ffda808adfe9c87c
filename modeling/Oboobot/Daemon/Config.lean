import Oboobot.Domain.Types
import Mathlib.Data.List.Nodup

/-! The configuration file and its validation at load time. -/

namespace Oboobot.Daemon

open Domain

structure RiskSection where
  baseRiskPercent : F64
  maxRiskPercent : F64
  maxOpenPositions : Nat
  dailyLossLimitPercent : F64
  weeklyLossLimitPercent : F64
  spreadMultiplier : F64
  regimeShiftThreshold : F64
  maxExposurePerCurrencyPercent : F64
  maxCorrelationExposurePercent : F64
  correlationExposureThreshold : F64
  correlationStalenessMinutes : Int
  spreadStalenessMinutes : Int
  snapshotLatencyThresholdSeconds : Int
  deriving DecidableEq

/-- Both staleness limits can be made durations. -/
def RiskSection.stalenessLimitsFit (risk : RiskSection) : Bool :=
  Duration.minutesFit risk.correlationStalenessMinutes &&
    Duration.minutesFit risk.spreadStalenessMinutes

structure PairConfig where
  primary : String
  secondary : String
  deriving DecidableEq

/-- The notification section names environment variables and is not modelled. -/
structure Config where
  version : Nat
  risk : RiskSection
  pairs : List PairConfig
  deriving DecidableEq

def currentConfigVersion : Nat := 1

/-- What `validate` objects to; each case is one message of the source. -/
inductive ConfigProblem where
  | versionTooNew (found : Nat)
  | maxRiskPercentOutOfRange (found : F64)
  | baseRiskPercentNotPositive
  | spreadMultiplierTooSmall (found : F64)
  | regimeShiftThresholdOutOfRange (found : F64)
  | maxOpenPositionsZero
  | noPairs
  | duplicatePair (pair : PairConfig)
  deriving DecidableEq

inductive ConfigError where
  | io
  | parse
  | invalid (problem : ConfigProblem)
  deriving DecidableEq

/-- What reading and parsing the file came to. -/
inductive ConfigFile where
  | missing
  | unreadable
  | unparsable
  | parsed (config : Config)
  deriving DecidableEq

/-- The first pair-set that repeats an earlier one. -/
def firstDuplicate (seen : List PairConfig) : List PairConfig → Option PairConfig
  | [] => none
  | pair :: rest => if seen.contains pair then some pair else firstDuplicate (pair :: seen) rest

theorem firstDuplicate_eq_none_iff (seen pairs : List PairConfig) :
    firstDuplicate seen pairs = none ↔ pairs.Nodup ∧ ∀ pair ∈ pairs, pair ∉ seen := by
  induction pairs generalizing seen with
  | nil => simp [firstDuplicate]
  | cons pair rest ih =>
    unfold firstDuplicate
    by_cases repeated : pair ∈ seen
    · simp [repeated]
    · rw [if_neg (by simpa using repeated), ih, List.nodup_cons]
      constructor
      · intro ⟨distinct, fresh⟩
        refine ⟨⟨fun member => fresh pair member (by simp), distinct⟩, ?_⟩
        intro other member
        rcases List.mem_cons.mp member with rfl | later
        · exact repeated
        · exact fun found => fresh other later (by simp [found])
      · intro ⟨⟨single, distinct⟩, fresh⟩
        refine ⟨distinct, fun other member found => ?_⟩
        rcases List.mem_cons.mp found with rfl | old
        · exact single member
        · exact fresh other (by simp [member]) old

namespace Config

def default : Config where
  version := currentConfigVersion
  risk := {
    baseRiskPercent := .finite 1
    maxRiskPercent := .finite 5
    maxOpenPositions := 5
    dailyLossLimitPercent := .finite 5
    weeklyLossLimitPercent := .finite 10
    spreadMultiplier := .finite (3 / 2)
    regimeShiftThreshold := .finite (1 / 5)
    maxExposurePerCurrencyPercent := .finite 15
    maxCorrelationExposurePercent := .finite 10
    correlationExposureThreshold := .finite (7 / 10)
    correlationStalenessMinutes := 30
    spreadStalenessMinutes := 30
    snapshotLatencyThresholdSeconds := 120 }
  pairs := [⟨"EURUSD", "GBPUSD"⟩]

def validate (config : Config) : Except ConfigError Unit :=
  if config.version > currentConfigVersion then .error (.invalid (.versionTooNew config.version))
  else if !F64.within (.finite 0) (.finite 100) config.risk.maxRiskPercent then
    .error (.invalid (.maxRiskPercentOutOfRange config.risk.maxRiskPercent))
  else if config.risk.baseRiskPercent.le (.finite 0) then
    .error (.invalid .baseRiskPercentNotPositive)
  else if config.risk.spreadMultiplier.le (.finite 1) then
    .error (.invalid (.spreadMultiplierTooSmall config.risk.spreadMultiplier))
  else if !F64.within (.finite 0) (.finite 1) config.risk.regimeShiftThreshold then
    .error (.invalid (.regimeShiftThresholdOutOfRange config.risk.regimeShiftThreshold))
  else if config.risk.maxOpenPositions = 0 then .error (.invalid .maxOpenPositionsZero)
  else if config.pairs.isEmpty then .error (.invalid .noPairs)
  else match firstDuplicate [] config.pairs with
    | some pair => .error (.invalid (.duplicatePair pair))
    | none => .ok ()

/-- `Config::load`: a missing file means the defaults. -/
def load : ConfigFile → Except ConfigError Config
  | .missing => .ok default
  | .unreadable => .error .io
  | .unparsable => .error .parse
  | .parsed config => config.validate.map fun _ => config

theorem validate_of_load {parsed config : Config} (loaded : load (.parsed parsed) = .ok config) :
    parsed.validate = .ok () ∧ parsed = config := by
  cases outcome : parsed.validate with
  | error failure => simp [load, outcome, Except.map] at loaded
  | ok _ =>
    simp only [load, outcome, Except.map, Except.ok.injEq] at loaded
    exact ⟨rfl, loaded⟩

/-- Nothing but the pair-sets is checked together with them. -/
theorem validate_single {config : Config} (valid : config.validate = .ok ()) (pair : PairConfig) :
    { config with pairs := [pair] }.validate = .ok () := by
  unfold validate at valid ⊢
  repeat' split at valid
  all_goals first
    | contradiction
    | simp_all [firstDuplicate]

/-- A configuration that loads names every pair-set once. -/
theorem nodup_of_load {file : ConfigFile} {config : Config} (loaded : load file = .ok config) :
    config.pairs.Nodup := by
  cases file with
  | missing =>
    cases loaded
    exact List.nodup_singleton _
  | unreadable => cases loaded
  | unparsable => cases loaded
  | parsed parsed =>
    obtain ⟨accepted, rfl⟩ := validate_of_load loaded
    have unrepeated : firstDuplicate [] parsed.pairs = none := by
      unfold validate at accepted
      repeat' split at accepted
      all_goals first | assumption | cases accepted
    exact ((firstDuplicate_eq_none_iff [] _).mp unrepeated).1

end Config

end Oboobot.Daemon
