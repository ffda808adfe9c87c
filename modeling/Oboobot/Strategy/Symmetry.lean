import Oboobot.Strategy.Smt
import Mathlib.Logic.Basic

/-! Divergence treats the two assets alike: it names whichever held the level that
its counterpart alone has taken out. -/

namespace Oboobot.Strategy

open Domain SessionTime

/-- The price has gone strictly beyond the level that a trade in `direction` relies
on: the low for a buy, the high for a sell. -/
def Swept (direction : Direction) (price : Decimal) (levels : BufferLevels) : Prop :=
  match direction with
  | .buy => price < levels.low
  | .sell => levels.high < price

instance (direction : Direction) (price : Decimal) (levels : BufferLevels) :
    Decidable (Swept direction price levels) :=
  match direction with
  | .buy => inferInstanceAs (Decidable (price < levels.low))
  | .sell => inferInstanceAs (Decidable (levels.high < price))

section divergence

variable (primaryPrice : Decimal) (primaryBuffer : BufferLevels) (secondaryPrice : Decimal)
  (secondaryBuffer : BufferLevels)

/-- The target has held the level of `direction` and its counterpart has not. -/
def HeldAlone (direction : Direction) : TradeTarget → Prop
  | .primary => ¬Swept direction primaryPrice primaryBuffer ∧
      Swept direction secondaryPrice secondaryBuffer
  | .secondary => ¬Swept direction secondaryPrice secondaryBuffer ∧
      Swept direction primaryPrice primaryBuffer

/-- At the level of `direction`, one asset alone is beyond its own. -/
def OneSwept (direction : Direction) : Prop :=
  Xor (Swept direction primaryPrice primaryBuffer) (Swept direction secondaryPrice secondaryBuffer)

variable {primaryPrice primaryBuffer secondaryPrice secondaryBuffer}

/-- The low is read first: a divergence at the high counts only where the lows agree. -/
theorem detectDivergence_eq_some_iff (target : TradeTarget) (direction : Direction) :
    detectDivergence primaryPrice primaryBuffer secondaryPrice secondaryBuffer =
        some (target, direction) ↔
      HeldAlone primaryPrice primaryBuffer secondaryPrice secondaryBuffer direction target ∧
        (direction = .sell → ¬OneSwept primaryPrice primaryBuffer secondaryPrice secondaryBuffer .buy) := by
  unfold detectDivergence OneSwept Xor
  by_cases primaryLow : primaryPrice < primaryBuffer.low <;>
    by_cases secondaryLow : secondaryPrice < secondaryBuffer.low <;>
    by_cases primaryHigh : primaryBuffer.high < primaryPrice <;>
    by_cases secondaryHigh : secondaryBuffer.high < secondaryPrice <;>
    cases target <;> cases direction <;>
    simp [HeldAlone, Swept, primaryLow, secondaryLow, primaryHigh, secondaryHigh]

theorem oneSwept_iff_exists (direction : Direction) :
    OneSwept primaryPrice primaryBuffer secondaryPrice secondaryBuffer direction ↔
      ∃ target, HeldAlone primaryPrice primaryBuffer secondaryPrice secondaryBuffer direction target := by
  constructor
  · rintro (⟨swept, held⟩ | ⟨swept, held⟩)
    · exact ⟨.secondary, held, swept⟩
    · exact ⟨.primary, held, swept⟩
  · intro ⟨target, alone⟩
    cases target with
    | primary => exact .inr ⟨alone.2, alone.1⟩
    | secondary => exact .inl ⟨alone.2, alone.1⟩

/-- A divergence is found exactly where one asset alone is beyond its own level. -/
theorem isSome_detectDivergence_iff :
    (detectDivergence primaryPrice primaryBuffer secondaryPrice secondaryBuffer).isSome = true ↔
      OneSwept primaryPrice primaryBuffer secondaryPrice secondaryBuffer .buy ∨
        OneSwept primaryPrice primaryBuffer secondaryPrice secondaryBuffer .sell := by
  rw [Option.isSome_iff_exists]
  constructor
  · intro ⟨⟨target, direction⟩, found⟩
    have alone := ((detectDivergence_eq_some_iff target direction).mp found).1
    have swept := (oneSwept_iff_exists direction).mpr ⟨target, alone⟩
    cases direction with
    | buy => exact .inl swept
    | sell => exact .inr swept
  · intro swept
    by_cases low : OneSwept primaryPrice primaryBuffer secondaryPrice secondaryBuffer .buy
    · obtain ⟨target, alone⟩ := (oneSwept_iff_exists .buy).mp low
      exact ⟨(target, .buy), (detectDivergence_eq_some_iff _ _).mpr ⟨alone, by simp⟩⟩
    · obtain ⟨target, alone⟩ := (oneSwept_iff_exists .sell).mp (swept.resolve_left low)
      exact ⟨(target, .sell), (detectDivergence_eq_some_iff _ _).mpr ⟨alone, fun _ => low⟩⟩

end divergence

def TradeTarget.swap : TradeTarget → TradeTarget
  | .primary => .secondary
  | .secondary => .primary

@[simp] theorem TradeTarget.swap_swap (target : TradeTarget) : target.swap.swap = target := by
  cases target <;> rfl

theorem TradeTarget.pair_swap (target : TradeTarget) (primaryPair secondaryPair : String) :
    target.swap.pair secondaryPair primaryPair = target.pair primaryPair secondaryPair := by
  cases target <;> rfl

/-- The inputs with the two assets' roles exchanged. -/
def DivergenceInputs.swap (inputs : DivergenceInputs) : DivergenceInputs where
  primaryPrice := inputs.secondaryPrice
  secondaryPrice := inputs.primaryPrice
  dailyPrimaryBuffer := inputs.dailySecondaryBuffer
  dailySecondaryBuffer := inputs.dailyPrimaryBuffer
  sessionPrimaryBuffer := inputs.sessionSecondaryBuffer
  sessionSecondaryBuffer := inputs.sessionPrimaryBuffer

section swap

variable {primaryPrice secondaryPrice : Decimal} {primaryBuffer secondaryBuffer : BufferLevels}

theorem heldAlone_swap (direction : Direction) (target : TradeTarget) :
    HeldAlone secondaryPrice secondaryBuffer primaryPrice primaryBuffer direction target ↔
      HeldAlone primaryPrice primaryBuffer secondaryPrice secondaryBuffer direction target.swap := by
  cases target <;> exact Iff.rfl

theorem oneSwept_swap (direction : Direction) :
    OneSwept secondaryPrice secondaryBuffer primaryPrice primaryBuffer direction ↔
      OneSwept primaryPrice primaryBuffer secondaryPrice secondaryBuffer direction :=
  iff_of_eq (xor_comm _ _)

theorem detectDivergence_swap :
    detectDivergence secondaryPrice secondaryBuffer primaryPrice primaryBuffer =
      (detectDivergence primaryPrice primaryBuffer secondaryPrice secondaryBuffer).map
        fun (target, direction) => (target.swap, direction) := by
  ext ⟨target, direction⟩
  have exchanged : (detectDivergence primaryPrice primaryBuffer secondaryPrice secondaryBuffer).map
        (fun (target, direction) => (target.swap, direction)) = some (target, direction) ↔
      detectDivergence primaryPrice primaryBuffer secondaryPrice secondaryBuffer =
        some (target.swap, direction) := by
    rw [Option.map_eq_some_iff]
    constructor
    · rintro ⟨⟨other, same⟩, found, equal⟩
      cases equal
      rw [found, TradeTarget.swap_swap]
    · intro found
      exact ⟨_, found, by simp⟩
  rw [exchanged, detectDivergence_eq_some_iff, detectDivergence_eq_some_iff, heldAlone_swap,
    oneSwept_swap]

theorem evaluateSmt_swap (inputs : DivergenceInputs) :
    evaluateSmt inputs.swap =
      (evaluateSmt inputs).map fun (target, direction, tier) => (target.swap, direction, tier) := by
  have daily : inputs.swap.daily =
      inputs.daily.map fun (target, direction) => (target.swap, direction) :=
    detectDivergence_swap
  have session : inputs.swap.session =
      inputs.session.map fun (target, direction) => (target.swap, direction) :=
    detectDivergence_swap
  have agree (target other : TradeTarget) : target.swap = other.swap ↔ target = other := by
    cases target <;> cases other <;> decide
  unfold evaluateSmt
  rw [daily, session]
  rcases inputs.daily with _ | ⟨target1, d1⟩
  · rcases inputs.session with _ | ⟨target2, d2⟩ <;> rfl
  · rcases inputs.session with _ | ⟨target2, d2⟩
    · rfl
    · simp only [Option.map_some, agree]
      split <;> rfl

end swap

/-- Which asset a divergence names depends on what the two did alone, and not on
which of them is called primary. -/
theorem smt_symmetric :
    (∀ (primaryPrice : Decimal) (primaryBuffer : BufferLevels) (secondaryPrice : Decimal)
        (secondaryBuffer : BufferLevels),
      ((detectDivergence primaryPrice primaryBuffer secondaryPrice secondaryBuffer).isSome = true ↔
        OneSwept primaryPrice primaryBuffer secondaryPrice secondaryBuffer .buy ∨
          OneSwept primaryPrice primaryBuffer secondaryPrice secondaryBuffer .sell) ∧
      ∀ target direction,
        detectDivergence primaryPrice primaryBuffer secondaryPrice secondaryBuffer =
          some (target, direction) →
        HeldAlone primaryPrice primaryBuffer secondaryPrice secondaryBuffer direction target) ∧
    (∀ inputs : DivergenceInputs, evaluateSmt inputs.swap =
      (evaluateSmt inputs).map fun (target, direction, tier) => (target.swap, direction, tier)) ∧
    ∀ (inputs : DivergenceInputs) (weeklyBias dailyBias : Bias) (primaryPair secondaryPair : String)
      (originatingSnapshotId : Uuid) (strength confidence : Decimal) (validUntil : Instant)
      (traceId signalId : Uuid) (timestamp : Instant),
      generateSignal inputs.swap weeklyBias dailyBias secondaryPair primaryPair originatingSnapshotId
          strength confidence validUntil traceId signalId timestamp =
        generateSignal inputs weeklyBias dailyBias primaryPair secondaryPair originatingSnapshotId
          strength confidence validUntil traceId signalId timestamp := by
  refine ⟨?_, evaluateSmt_swap, ?_⟩
  · intro primaryPrice primaryBuffer secondaryPrice secondaryBuffer
    refine ⟨isSome_detectDivergence_iff, ?_⟩
    intro target direction found
    exact ((detectDivergence_eq_some_iff target direction).mp found).1
  · intro inputs weeklyBias dailyBias primaryPair secondaryPair originatingSnapshotId strength
      confidence validUntil traceId signalId timestamp
    unfold generateSignal
    rw [evaluateSmt_swap]
    cases evaluateSmt inputs with
    | none => rfl
    | some found => simp only [Option.map_some, TradeTarget.pair_swap]

end Oboobot.Strategy
