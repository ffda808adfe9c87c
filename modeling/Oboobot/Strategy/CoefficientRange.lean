import Oboobot.Strategy.RegimeBaseline
import Mathlib.Analysis.Real.Sqrt

/-! The range of the correlation coefficient, and what it does not depend on. -/

namespace Oboobot.Strategy

open Domain

/-- `compute_coefficient` with the square root of a real number, which is always there. -/
noncomputable def exactCoefficient (state : CorrelationState) : Option ℝ :=
  let n := state.samples.length
  if n < 2 then none
  else
    let sums := state.samples.foldl Sums.add .zero
    let numerator : ℚ := n * sums.xy - sums.x * sums.y
    let radicand : ℚ := (n * sums.x2 - sums.x * sums.x) * (n * sums.y2 - sums.y * sums.y)
    let denominator := Real.sqrt radicand
    if denominator = 0 then none else some (numerator / denominator)

/-- All values are the same. -/
def Constant {K : Type} (values : List K) : Prop :=
  ∀ first ∈ values, ∀ second ∈ values, first = second

theorem not_varied_iff {K : Type} (values : List K) : ¬Varied values ↔ Constant values := by
  simp [Varied, Constant]

section window

variable (state : CorrelationState)

/-- What `compute_coefficient` divides. -/
theorem numerator_eq :
    let sums := state.samples.foldl Sums.add .zero
    state.samples.length * sums.xy - sums.x * sums.y = covariation state.samples := by
  simp [Sums.foldl_add, Sums.zero, covariation]

theorem variances_eq :
    let sums := state.samples.foldl Sums.add .zero
    state.samples.length * sums.x2 - sums.x * sums.x = scatter (state.samples.map Prod.fst) ∧
      state.samples.length * sums.y2 - sums.y * sums.y = scatter (state.samples.map Prod.snd) := by
  simp [Sums.foldl_add, Sums.zero, scatter]

/-- The root that it divides by. -/
noncomputable def spread : ℝ :=
  Real.sqrt (scatter (state.samples.map Prod.fst) * scatter (state.samples.map Prod.snd) : ℚ)

theorem exactCoefficient_eq :
    exactCoefficient state =
      if state.samples.length < 2 ∨ spread state = 0 then none
      else some (covariation state.samples / spread state) := by
  simp only [exactCoefficient, numerator_eq, variances_eq]
  by_cases few : state.samples.length < 2
  · simp [few]
  · simp [few, spread]

theorem spread_eq_zero_iff :
    spread state = 0 ↔
      Constant (state.samples.map Prod.fst) ∨ Constant (state.samples.map Prod.snd) := by
  have nonneg : 0 ≤ scatter (state.samples.map Prod.fst) * scatter (state.samples.map Prod.snd) :=
    mul_nonneg (scatter_nonneg _) (scatter_nonneg _)
  rw [spread, Real.sqrt_eq_zero (Rat.cast_nonneg.mpr nonneg), Rat.cast_eq_zero, mul_eq_zero,
    ← not_varied_iff, ← not_varied_iff, ← scatter_ne_zero_iff, ← scatter_ne_zero_iff, not_not,
    not_not]

/-- The lists vary together by no more than the root. -/
theorem abs_covariation_le : |((covariation state.samples : ℚ) : ℝ)| ≤ spread state := by
  apply Real.abs_le_sqrt
  exact_mod_cast covariation_sq_le state.samples

theorem exactCoefficient_mem {coefficient : ℝ}
    (defined : exactCoefficient state = some coefficient) : -1 ≤ coefficient ∧ coefficient ≤ 1 := by
  rw [exactCoefficient_eq] at defined
  split at defined
  · cases defined
  · rename_i varied
    cases defined
    have nonneg : 0 ≤ spread state := Real.sqrt_nonneg _
    rw [← abs_le, abs_div, abs_of_nonneg nonneg]
    exact div_le_one_of_le₀ (abs_covariation_le state) nonneg

theorem exactCoefficient_eq_none_iff :
    exactCoefficient state = none ↔ state.samples.length < 2 ∨
      Constant (state.samples.map Prod.fst) ∨ Constant (state.samples.map Prod.snd) := by
  rw [← spread_eq_zero_iff, exactCoefficient_eq]
  constructor
  · intro missing
    by_contra defined
    rw [if_neg defined] at missing
    cases missing
  · exact fun undefined => if_pos undefined

/-- Only what both lists are together counts, not their order. -/
theorem exactCoefficient_perm {state other : CorrelationState}
    (perm : other.samples.Perm state.samples) :
    exactCoefficient other = exactCoefficient state := by
  have same : spread other = spread state := by
    rw [spread, spread, scatter_perm (perm.map Prod.fst), scatter_perm (perm.map Prod.snd)]
  rw [exactCoefficient_eq, exactCoefficient_eq, perm.length_eq, same, covariation_perm perm]

theorem exactCoefficient_swap {state other : CorrelationState}
    (swapped : other.samples = state.samples.map Prod.swap) :
    exactCoefficient other = exactCoefficient state := by
  have first : other.samples.map Prod.fst = state.samples.map Prod.snd := by
    rw [swapped, List.map_map]
    rfl
  have second : other.samples.map Prod.snd = state.samples.map Prod.fst := by
    rw [swapped, List.map_map]
    rfl
  have same : spread other = spread state := by
    rw [spread, first, second, mul_comm]
    rfl
  rw [exactCoefficient_eq, exactCoefficient_eq, same, swapped, covariation_swap, List.length_map]

/-- Where the root is rational and `sqrt` finds it, the model computes the same. -/
theorem exactCoefficient_eq_map {sqrt : ℚ → ℚ}
    (exact : (sqrt (scatter (state.samples.map Prod.fst) * scatter (state.samples.map Prod.snd)) : ℝ) =
      spread state) :
    exactCoefficient state = (computeCoefficient sqrt state).map fun coefficient => (coefficient : ℝ) := by
  rw [exactCoefficient_eq, ← exact]
  simp only [computeCoefficient, numerator_eq, variances_eq]
  by_cases few : state.samples.length < 2
  · simp [few]
  · simp only [few, false_or, if_false, Rat.cast_eq_zero]
    split <;> simp

end window

/-- Over every window the variances are no less than what the two series have in common;
the coefficient lies between -1 and 1, is missing just where it has no meaning, and depends
neither on the order of the samples nor on which symbol is which. -/
theorem coefficient_in_range (state : CorrelationState) :
    let n : ℚ := state.samples.length
    let sums := state.samples.foldl Sums.add .zero
    let varianceX := n * sums.x2 - sums.x * sums.x
    let varianceY := n * sums.y2 - sums.y * sums.y
    (n * sums.xy - sums.x * sums.y) ^ 2 ≤ varianceX * varianceY ∧
    0 ≤ varianceX ∧ 0 ≤ varianceY ∧
    (∀ coefficient, exactCoefficient state = some coefficient →
      -1 ≤ coefficient ∧ coefficient ≤ 1) ∧
    (exactCoefficient state = none ↔ state.samples.length < 2 ∨
      Constant (state.samples.map Prod.fst) ∨ Constant (state.samples.map Prod.snd)) ∧
    (∀ other : CorrelationState, other.samples = state.samples.map Prod.swap →
      exactCoefficient other = exactCoefficient state) ∧
    ∀ other : CorrelationState, other.samples.Perm state.samples →
      exactCoefficient other = exactCoefficient state := by
  intro n sums varianceX varianceY
  have numerator : n * sums.xy - sums.x * sums.y = covariation state.samples := numerator_eq state
  obtain ⟨first, second⟩ : varianceX = _ ∧ varianceY = _ := variances_eq state
  rw [numerator, first, second]
  refine ⟨covariation_sq_le _, scatter_nonneg _, scatter_nonneg _, ?_,
    exactCoefficient_eq_none_iff state, ?_, ?_⟩
  · exact fun coefficient => exactCoefficient_mem state
  · exact fun other => exactCoefficient_swap
  · exact fun other => exactCoefficient_perm

end Oboobot.Strategy
