import Oboobot.Daemon.CycleContract
import Oboobot.Daemon.Host

/-! Whose True Open level a pair-set's bias is read from. The two level files
are shared by every pair-set and kept from one invocation to the next. -/

namespace Oboobot.Daemon

open Domain SessionTime Strategy Risk Broker Interaction

variable {platform : Platform} {divergence : DivergenceSource}

/-- One bias and what it was computed from. -/
structure BiasLoad where
  timeframe : Timeframe
  symbol : String
  price : Decimal
  level : Option TrueOpenLevel
  bias : Bias

def biasLoadOf : CycleEvent → Option BiasLoad
  | ⟨.observe (.trueOpenBias timeframe symbol price level bias), _⟩ =>
    some { timeframe, symbol, price, level, bias }
  | _ => none

theorem eq_of_biasLoadOf {event : CycleEvent} {load : BiasLoad} (loads : biasLoadOf event = some load) :
    ∃ reply, event =
      ⟨.observe (.trueOpenBias load.timeframe load.symbol load.price load.level load.bias), reply⟩ := by
  unfold biasLoadOf at loads
  split at loads
  · cases loads
    exact ⟨_, rfl⟩
  · cases loads

/-- A bias that leans either way was read from a level of the requested symbol. -/
def ComparesOwnLevel (event : CycleEvent) : Prop :=
  ∀ load ∈ biasLoadOf event, load.bias ≠ .neutral →
    load.level.map TrueOpenLevel.symbol = some load.symbol

instance (event : CycleEvent) : Decidable (ComparesOwnLevel event) :=
  inferInstanceAs (Decidable (∀ load ∈ biasLoadOf event, _ → _))

/-- The level on file is due for a fresh capture, belongs to the requested
symbol, or stands exactly at its price. -/
def Suits (now : Instant) (symbol : String) (price : Decimal) (onFile : TrueOpenLevel) : Prop :=
  onFile.isExpired now = true ∨ onFile.symbol = symbol ∨ onFile.level = price

/-- The file that a bias is about to be read from suits its pair-set. -/
def FileSuits (before : List CycleEvent) (event : CycleEvent) : Prop :=
  ∀ load ∈ biasLoadOf event, ∀ now ∈ (Ledger.ofEvents before).now,
    ∀ file ∈ (Ledger.ofEvents before).trueOpenRead, ∀ onFile ∈ file.2,
      Suits now load.symbol load.price onFile

theorem impliedBias_neutral_iff (price : Decimal) (level : TrueOpenLevel) :
    impliedBias price (some level) = .neutral ↔ level.level = price :=
  (biasFromPrice_neutral_iff price level.level).trans eq_comm

/-- A level that has just been captured belongs to the symbol it was captured for. -/
theorem captured_own {timeframe : Timeframe} {symbol : String} {price : Decimal} {now : Instant}
    {level : Option TrueOpenLevel}
    (captured : level = captureLevel platform.newYork timeframe symbol price now staticHolidayProvider)
    (leans : impliedBias price level ≠ .neutral) :
    level.map TrueOpenLevel.symbol = some symbol := by
  cases level with
  | none => exact absurd rfl leans
  | some level => exact congrArg some (captureLevel_symbol captured.symm)

theorem comparesOwnLevel_iff_fileSuits {cli : Cli} {before back : List CycleEvent}
    {event : CycleEvent} {outcome : Outcome CycleError Unit}
    (trace : Trace (runRealCycle platform divergence cli) (before ++ event :: back) outcome) :
    ComparesOwnLevel event ↔ FileSuits before event := by
  have promised := promised_of_trace trace
  refine forall_congr' fun load => forall_congr' fun loads => ?_
  obtain ⟨reply, rfl⟩ := eq_of_biasLoadOf loads
  obtain ⟨now, onFile, clock, read, chosen, biased⟩ := promised
  simp only [clock, read, Option.mem_some_iff, forall_eq']
  cases onFile with
  | none =>
    rw [needsCapture, if_pos rfl] at chosen
    constructor
    · intro _ onFile found
      cases found
    · intro _ leans
      exact captured_own chosen (biased ▸ leans)
  | some onFile =>
    simp only [Option.mem_some_iff, forall_eq']
    by_cases expired : onFile.isExpired now = true
    · rw [needsCapture, if_pos expired] at chosen
      constructor
      · exact fun _ => .inl expired
      · intro _ leans
        exact captured_own chosen (biased ▸ leans)
    · rw [needsCapture, if_neg expired] at chosen
      rw [biased, chosen, ne_eq, impliedBias_neutral_iff, Suits, Option.map_some, Option.some_inj]
      constructor
      · intro own
        by_cases level : onFile.level = load.price
        · exact .inr (.inr level)
        · exact .inr (.inl (own level))
      · intro suits apart
        rcases suits with due | own | level
        · exact absurd due expired
        · exact own
        · exact absurd level apart

/-- Over any number of invocations, every bias is read from a level of its own
symbol exactly when every level found on file suits the pair-set at hand. -/
theorem ownLevels_iff_filesSuit {Outside : Type} {cli : Nat → Cli}
    {history : List (Entry Call Reply Outside)}
    (joint : Joint (fun session => runRealCycle platform divergence (cli session)) history) :
    (∀ session, Always (fun _ event => ComparesOwnLevel event) (sessionEvents session history)) ↔
      ∀ session, Always FileSuits (sessionEvents session history) := by
  refine forall_congr' fun session => ?_
  obtain ⟨outcome, trace⟩ := joint session
  refine forall_congr' fun before => forall_congr' fun event => forall_congr' fun back =>
    forall_congr' fun same => ?_
  rw [same] at trace
  exact comparesOwnLevel_iff_fileSuits trace

/-- Two pair-sets, a fresh state directory and one invocation. -/
def twoPairSets : List (Entry Call Reply Empty) :=
  playTurns (fun _ => runRealCycle .winter asComputed ⟨false⟩) Host.answer 0 [([], id)]
    (Host.fresh
      { Config.default with pairs := [
          { primary := "EURUSD", secondary := "GBPUSD" },
          { primary := "USDJPY", secondary := "USDCHF" }] }
      (quotedAt [("EURUSD", 1.10), ("GBPUSD", 1.25), ("USDJPY", 150), ("USDCHF", 0.90)]))

theorem twoPairSets_ownLevels_iff :
    (∀ session, Always (fun _ event => ComparesOwnLevel event)
        (sessionEvents session twoPairSets)) ↔
      ∀ session, Always FileSuits (sessionEvents session twoPairSets) :=
  ownLevels_iff_filesSuit (joint_playTurns _ _ _ _)

/-- The bias of USDJPY is read from the level just captured for EURUSD. -/
theorem twoPairSets_not_ownLevels :
    ¬∀ (platform : Platform) (cli : Nat → Cli) (history : List (Entry Call Reply Empty)),
      Joint (fun session => runRealCycle platform asComputed (cli session)) history →
      ∀ session, Always (fun _ event => ComparesOwnLevel event) (sessionEvents session history) := by
  intro claimed
  have own := claimed .winter (fun _ => ⟨false⟩) twoPairSets (joint_playTurns _ _ _ _) 0
  revert own
  decide +kernel

end Oboobot.Daemon
