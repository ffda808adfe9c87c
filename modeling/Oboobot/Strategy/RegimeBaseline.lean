import Oboobot.Strategy.Correlation
import Oboobot.Strategy.Scatter
import Mathlib.Data.List.DropRight
import Mathlib.Data.List.Induction

/-! The baseline that a regime shift is measured from, over all that happens to a
correlation window. -/

namespace Oboobot.Strategy

open Domain

theorem Sums.foldl_add (samples : List (Decimal × Decimal)) (sums : Sums) :
    samples.foldl Sums.add sums =
      { x := sums.x + (samples.map Prod.fst).sum
        y := sums.y + (samples.map Prod.snd).sum
        xy := sums.xy + (samples.map fun sample => sample.1 * sample.2).sum
        x2 := sums.x2 + ((samples.map Prod.fst).map fun value => value * value).sum
        y2 := sums.y2 + ((samples.map Prod.snd).map fun value => value * value).sum } := by
  induction samples generalizing sums with
  | nil => simp
  | cons sample rest ih =>
    rw [List.foldl_cons, ih]
    simp [Sums.add, add_assoc]

/-- The square root is zero at zero only. -/
def ZeroAtZero (sqrt : ℚ → ℚ) : Prop := ∀ value, 0 ≤ value → (sqrt value = 0 ↔ value = 0)

theorem Varied.two_le {values : List ℚ} (varied : Varied values) : 2 ≤ values.length := by
  obtain ⟨first, inFirst, second, inSecond, differ⟩ := varied
  match values with
  | [] => simp at inFirst
  | [value] =>
    simp only [List.mem_singleton] at inFirst inSecond
    exact absurd (inFirst.trans inSecond.symm) differ
  | _ :: _ :: _ => simp

/-- What `compute_coefficient` takes the root of. -/
theorem denominator_eq (state : CorrelationState) :
    let sums := state.samples.foldl Sums.add .zero
    (state.samples.length * sums.x2 - sums.x * sums.x) *
      (state.samples.length * sums.y2 - sums.y * sums.y) =
        scatter (state.samples.map Prod.fst) * scatter (state.samples.map Prod.snd) := by
  simp [Sums.foldl_add, Sums.zero, scatter]

/-- A window has a coefficient as soon as the prices of both symbols vary in it. -/
theorem computeCoefficient_isSome_iff {sqrt : ℚ → ℚ} (root : ZeroAtZero sqrt)
    (state : CorrelationState) :
    (computeCoefficient sqrt state).isSome = true ↔
      Varied (state.samples.map Prod.fst) ∧ Varied (state.samples.map Prod.snd) := by
  have scattered : 0 ≤ scatter (state.samples.map Prod.fst) *
      scatter (state.samples.map Prod.snd) :=
    mul_nonneg (scatter_nonneg _) (scatter_nonneg _)
  have zero := root _ scattered
  rw [mul_eq_zero] at zero
  simp only [computeCoefficient, denominator_eq]
  rw [← scatter_ne_zero_iff, ← scatter_ne_zero_iff]
  constructor
  · intro defined
    split at defined
    · simp at defined
    · split at defined
      · simp at defined
      · rename_i nonzero
        rw [zero] at nonzero
        exact not_or.mp nonzero
  · intro ⟨primary, secondary⟩
    have enough : ¬state.samples.length < 2 := by
      have varied := ((scatter_ne_zero_iff _).mp primary).two_le
      rw [List.length_map] at varied
      omega
    have nonzero := mt zero.mp (not_or.mpr ⟨primary, secondary⟩)
    rw [if_neg enough, if_neg nonzero]
    rfl

/-- What happens to a window: a sample is recorded, from history or live, the state is
written to its file, or it is read back from there. -/
inductive CorrelationStep where
  | recordSample (primary secondary : Decimal) (now : Instant)
  | persist
  | reload

/-- The state in memory and the one in the file. -/
structure CorrelationRun where
  memory : CorrelationState
  file : Option CorrelationState

def CorrelationRun.empty : CorrelationRun where
  memory := .default
  file := none

def CorrelationRun.step (run : CorrelationRun) : CorrelationStep → CorrelationRun
  | .recordSample primary secondary now =>
    { run with memory := recordSample run.memory primary secondary now }
  | .persist => { run with file := some run.memory }
  | .reload => { run with memory := run.file.getD .default }

def CorrelationRun.after (steps : List CorrelationStep) : CorrelationRun :=
  steps.foldl CorrelationRun.step .empty

/-- The window after a number of steps. -/
def windowAfter (steps : List CorrelationStep) : CorrelationState :=
  (CorrelationRun.after steps).memory

/-- All price pairs recorded so far, oldest first, and those of them on file. -/
structure PriceRecord where
  known : List (Decimal × Decimal)
  filed : List (Decimal × Decimal)

/-- A step without regard to the size of the window; what was not filed is lost on a
reload. -/
def PriceRecord.step (record : PriceRecord) : CorrelationStep → PriceRecord
  | .recordSample primary secondary _ =>
    { record with known := record.known ++ [(primary, secondary)] }
  | .persist => { record with filed := record.known }
  | .reload => { record with known := record.filed }

def PriceRecord.after (steps : List CorrelationStep) : PriceRecord :=
  steps.foldl PriceRecord.step ⟨[], []⟩

/-- Pushing a value and dropping the oldest one too many keeps the last values. -/
theorem rtake_push {α : Type} {cap : Nat} (positive : 0 < cap) (values : List α) (value : α) :
    (if (values.rtake cap ++ [value]).length > cap then (values.rtake cap ++ [value]).drop 1
      else values.rtake cap ++ [value]) = (values ++ [value]).rtake cap := by
  simp only [List.rtake, List.length_append, List.length_drop, List.length_singleton]
  by_cases full : cap ≤ values.length
  · have longer : values.length - (values.length - cap) + 1 > cap := by omega
    have last : values.length + 1 - cap = values.length - cap + 1 := by omega
    rw [if_pos longer, last, ← List.drop_append_of_le_length (Nat.sub_le _ _), List.drop_drop]
  · have all : values.length - cap = 0 := by omega
    have none' : values.length + 1 - cap = 0 := by omega
    have short : ¬values.length - 0 + 1 > cap := by omega
    rw [all, if_neg short, none', List.drop_zero, List.drop_zero]

/-- The states hold the last of the price pairs, and no baseline. -/
structure CorrelationRun.Follows (run : CorrelationRun) (record : PriceRecord) : Prop where
  memory : run.memory.samples = record.known.rtake maxSamples
  file : (run.file.getD .default).samples = record.filed.rtake maxSamples
  baseline : run.memory.baselineCoefficient = none
  baselineFile : (run.file.getD .default).baselineCoefficient = none

theorem CorrelationRun.Follows.step {run : CorrelationRun} {record : PriceRecord}
    (follows : run.Follows record) (step : CorrelationStep) :
    (run.step step).Follows (record.step step) := by
  cases step with
  | recordSample primary secondary now =>
    refine { follows with memory := ?_ }
    rw [PriceRecord.step, ← rtake_push (by decide), ← follows.memory]
    rfl
  | persist => exact { follows with file := follows.memory, baselineFile := follows.baseline }
  | reload => exact { follows with memory := follows.file, baseline := follows.baselineFile }

theorem CorrelationRun.follows_after (steps : List CorrelationStep) :
    (CorrelationRun.after steps).Follows (.after steps) := by
  induction steps using List.reverseRecOn with
  | nil => constructor <;> rfl
  | append_singleton earlier step ih =>
    rw [CorrelationRun.after, PriceRecord.after, List.foldl_append, List.foldl_append]
    exact ih.step step

/-- The window holds the last recorded price pairs. -/
theorem windowAfter_samples (steps : List CorrelationStep) :
    (windowAfter steps).samples = (PriceRecord.after steps).known.rtake maxSamples :=
  (CorrelationRun.follows_after steps).memory

/-- No step ever sets the baseline. -/
theorem windowAfter_baselineCoefficient (steps : List CorrelationStep) :
    (windowAfter steps).baselineCoefficient = none :=
  (CorrelationRun.follows_after steps).baseline

theorem baseline_of_detectRegimeShift {sqrt : ℚ → ℚ} {state : CorrelationState} {threshold : F64}
    {shift : RegimeShift} (shifted : detectRegimeShift sqrt state threshold = some shift) :
    state.baselineCoefficient = some shift.baseline := by
  unfold detectRegimeShift at shifted
  obtain ⟨baseline, held, compared⟩ := Option.bind_eq_some_iff.mp shifted
  obtain ⟨current, _, reported⟩ := Option.bind_eq_some_iff.mp compared
  dsimp only at reported
  split at reported
  · cases reported
    exact held
  · cases reported

/-- Once the coefficient is defined a baseline is held, and any later coefficient that
lies further from it than the threshold is reported. -/
def ShiftsReported (sqrt : ℚ → ℚ) (steps : List CorrelationStep) : Prop :=
  ∀ before between after, steps = before ++ between ++ after →
    (computeCoefficient sqrt (windowAfter before)).isSome = true →
      ∃ baseline, (windowAfter (before ++ between)).baselineCoefficient = some baseline ∧
        ∀ current (threshold : F64),
          computeCoefficient sqrt (windowAfter (before ++ between)) = some current →
          threshold.lt (.finite |current - baseline|) = true →
          detectRegimeShift sqrt (windowAfter (before ++ between)) threshold =
            some ⟨baseline, current, |current - baseline|⟩

/-- The prices of both symbols vary. -/
def BothVary (samples : List (Decimal × Decimal)) : Prop :=
  Varied (samples.map Prod.fst) ∧ Varied (samples.map Prod.snd)

/-- At no point of the run did both prices vary among the last samples. -/
def OneStandsStill (steps : List CorrelationStep) : Prop :=
  ∀ before after, steps = before ++ after →
    ¬BothVary ((PriceRecord.after before).known.rtake maxSamples)

/-- Regime shifts are told only where there never is a coefficient that could shift. -/
theorem shiftsReported_iff {sqrt : ℚ → ℚ} (root : ZeroAtZero sqrt)
    (steps : List CorrelationStep) : ShiftsReported sqrt steps ↔ OneStandsStill steps := by
  constructor
  · intro reported before after same vary
    rw [← windowAfter_samples] at vary
    have defined := (computeCoefficient_isSome_iff root _).mpr vary
    obtain ⟨baseline, held, _⟩ := reported before [] after (by simpa using same) defined
    rw [windowAfter_baselineCoefficient] at held
    cases held
  · intro still before between after same defined
    have vary := (computeCoefficient_isSome_iff root _).mp defined
    rw [windowAfter_samples] at vary
    exact absurd vary (still before (between ++ after) (by rw [same, List.append_assoc]))

/-- Nothing is known or on file that was not recorded. -/
theorem PriceRecord.recorded_of_mem (steps : List CorrelationStep) :
    (∀ sample ∈ (PriceRecord.after steps).known,
      ∃ now, CorrelationStep.recordSample sample.1 sample.2 now ∈ steps) ∧
    ∀ sample ∈ (PriceRecord.after steps).filed,
      ∃ now, CorrelationStep.recordSample sample.1 sample.2 now ∈ steps := by
  induction steps using List.reverseRecOn with
  | nil => simp [PriceRecord.after]
  | append_singleton earlier step ih =>
    rw [PriceRecord.after, List.foldl_append, ← PriceRecord.after]
    have kept : ∀ sample : Decimal × Decimal,
        (∃ now, CorrelationStep.recordSample sample.1 sample.2 now ∈ earlier) →
          ∃ now, CorrelationStep.recordSample sample.1 sample.2 now ∈ earlier ++ [step] := by
      intro sample ⟨now, taken⟩
      exact ⟨now, List.mem_append_left _ taken⟩
    have filed := fun sample member => kept sample (ih.2 sample member)
    have known := fun sample member => kept sample (ih.1 sample member)
    cases step with
    | recordSample primary secondary now =>
      refine ⟨?_, filed⟩
      intro sample member
      rcases List.mem_append.mp member with old | new
      · exact known sample old
      · obtain rfl := List.mem_singleton.mp new
        exact ⟨now, List.mem_append_right _ List.mem_cons_self⟩
    | persist => exact ⟨known, known⟩
    | reload => exact ⟨filed, filed⟩

/-- A root that is exact on the squares of whole numbers and their quotients. -/
def quotientRoot (value : ℚ) : ℚ := (Nat.sqrt value.num.toNat : ℚ) / Nat.sqrt value.den

theorem quotientRoot_zeroAtZero : ZeroAtZero quotientRoot := by
  intro value nonneg
  have den : Nat.sqrt value.den ≠ 0 := by
    rw [Ne, Nat.sqrt_eq_zero]
    exact value.den_nz
  have num : 0 ≤ value.num := Rat.num_nonneg.mpr nonneg
  rw [quotientRoot, div_eq_zero_iff, Nat.cast_eq_zero, Nat.cast_eq_zero, Nat.sqrt_eq_zero,
    or_iff_left den, ← Rat.num_eq_zero]
  omega

/-- Two cycles in which the primary did not move. -/
def quietPrimary : List CorrelationStep :=
  [.reload, .recordSample 1 1 0, .persist, .reload, .recordSample 1 2 300, .persist]

theorem quietPrimary_reported : ShiftsReported quotientRoot quietPrimary := by
  refine (shiftsReported_iff quotientRoot_zeroAtZero quietPrimary).mpr ?_
  intro before after same ⟨⟨first, inFirst, second, inSecond, differ⟩, _⟩
  have ones : ∀ price ∈ ((PriceRecord.after before).known.rtake maxSamples).map Prod.fst,
      price = 1 := by
    intro price member
    obtain ⟨sample, inWindow, rfl⟩ := List.mem_map.mp member
    obtain ⟨now, taken⟩ := (PriceRecord.recorded_of_mem before).1 _ (List.mem_of_mem_drop inWindow)
    have inRun : CorrelationStep.recordSample sample.1 sample.2 now ∈ quietPrimary := by
      rw [same]
      exact List.mem_append_left _ taken
    simp only [quietPrimary, List.mem_cons, List.not_mem_nil, or_false, reduceCtorEq, false_or,
      CorrelationStep.recordSample.injEq] at inRun
    rcases inRun with ⟨price, _⟩ | ⟨price, _⟩ <;> exact price
  exact differ ((ones first inFirst).trans (ones second inSecond).symm)

/-- Two cycles in which both prices moved: there is a coefficient, and nothing it could
have shifted from. -/
def risingTogether : List CorrelationStep :=
  [.reload, .recordSample 1 1 0, .persist, .reload, .recordSample 2 2 300, .persist]

theorem risingTogether_unreported : ¬ShiftsReported quotientRoot risingTogether := by
  intro reported
  have defined : computeCoefficient quotientRoot (windowAfter risingTogether) = some 1 := by
    decide +kernel
  obtain ⟨baseline, held, _⟩ := reported risingTogether [] [] (by simp) (by rw [defined]; rfl)
  cases held

end Oboobot.Strategy
