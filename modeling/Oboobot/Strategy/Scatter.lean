import Mathlib.Algebra.Order.BigOperators.Group.List
import Mathlib.Algebra.QuadraticDiscriminant
import Mathlib.Tactic.FieldSimp
import Mathlib.Tactic.Linarith
import Mathlib.Tactic.Ring

/-! How much the values of a list scatter, and how two lists vary together. -/

namespace Oboobot.Strategy

section scatter

variable {K : Type} [Field K] [LinearOrder K] [IsStrictOrderedRing K]

/-- The sum of the squared deviations from the mean, times the count. -/
def scatter (values : List K) : K :=
  values.length * (values.map fun value => value * value).sum - values.sum * values.sum

omit [LinearOrder K] [IsStrictOrderedRing K] in
theorem sum_deviations (values : List K) (center : K) :
    (values.map fun value => (value - center) * (value - center)).sum =
      (values.map fun value => value * value).sum - 2 * center * values.sum +
        values.length * (center * center) := by
  induction values with
  | nil => simp
  | cons head rest ih =>
    simp only [List.map_cons, List.sum_cons, List.length_cons, ih]
    push_cast
    ring

theorem scatter_eq_deviations {values : List K} (nonempty : values ≠ []) :
    scatter values = values.length * (values.map fun value =>
      (value - values.sum / values.length) * (value - values.sum / values.length)).sum := by
  have count : (values.length : K) ≠ 0 := by simpa using nonempty
  rw [sum_deviations, scatter]
  field_simp
  ring

theorem scatter_nonneg (values : List K) : 0 ≤ scatter values := by
  by_cases nonempty : values = []
  · simp [scatter, nonempty]
  · rw [scatter_eq_deviations nonempty]
    apply mul_nonneg (Nat.cast_nonneg _)
    apply List.sum_nonneg
    intro square member
    obtain ⟨value, _, rfl⟩ := List.mem_map.mp member
    exact mul_self_nonneg _

/-- Two of the values differ. -/
def Varied (values : List K) : Prop := ∃ first ∈ values, ∃ second ∈ values, first ≠ second

/-- Only values that are all the same do not scatter. -/
theorem scatter_ne_zero_iff (values : List K) : scatter values ≠ 0 ↔ Varied values := by
  constructor
  · contrapose!
    intro constant
    have same : ∀ first ∈ values, ∀ second ∈ values, first = second := by
      simpa [Varied] using constant
    cases values with
    | nil => simp [scatter]
    | cons head rest =>
      have copies : head :: rest = List.replicate (rest.length + 1) head :=
        List.eq_replicate_iff.mpr ⟨rfl, fun value member => same value member head (by simp)⟩
      rw [scatter, copies]
      simp
      ring
  · rintro ⟨first, inFirst, second, inSecond, differ⟩ none'
    have nonempty : values ≠ [] := List.ne_nil_of_mem inFirst
    have count : (values.length : K) ≠ 0 := by simpa using nonempty
    rw [scatter_eq_deviations nonempty] at none'
    have deviations := (mul_eq_zero.mp none').resolve_left count
    have central : ∀ value ∈ values, value = values.sum / values.length := by
      intro value member
      have zero := List.all_zero_of_le_zero_le_of_sum_eq_zero
        (fun square member => by
          obtain ⟨other, _, rfl⟩ := List.mem_map.mp member
          exact mul_self_nonneg _) deviations (List.mem_map.mpr ⟨value, member, rfl⟩)
      exact sub_eq_zero.mp (mul_self_eq_zero.mp zero)
    exact differ ((central first inFirst).trans (central second inSecond).symm)

end scatter

section covariation

variable {K : Type} [Field K] {pairs : List (K × K)}

/-- The sum of the products of the deviations from both means, times the count. -/
def covariation (pairs : List (K × K)) : K :=
  pairs.length * (pairs.map fun pair => pair.1 * pair.2).sum -
    (pairs.map Prod.fst).sum * (pairs.map Prod.snd).sum

theorem covariation_perm {other : List (K × K)} (perm : other.Perm pairs) :
    covariation other = covariation pairs := by
  rw [covariation, covariation, perm.length_eq, (perm.map _).sum_eq, (perm.map Prod.fst).sum_eq,
    (perm.map Prod.snd).sum_eq]

theorem scatter_perm {values other : List K} (perm : other.Perm values) :
    scatter other = scatter values := by
  rw [scatter, scatter, perm.length_eq, (perm.map _).sum_eq, perm.sum_eq]

theorem covariation_swap : covariation (pairs.map Prod.swap) = covariation pairs := by
  have products : (pairs.map Prod.swap).map (fun pair => pair.1 * pair.2) =
      pairs.map fun pair => pair.1 * pair.2 := by
    rw [List.map_map]
    exact List.map_congr_left fun pair _ => mul_comm _ _
  rw [covariation, products, List.map_map, List.map_map, List.length_map]
  exact congrArg (_ - ·) (mul_comm _ _)

/-- A combination of both lists scatters by what each does, and by what they do together. -/
theorem scatter_combination (pairs : List (K × K)) (slope : K) :
    scatter (pairs.map fun pair => slope * pair.2 + pair.1) =
      scatter (pairs.map Prod.snd) * (slope * slope) + 2 * covariation pairs * slope +
        scatter (pairs.map Prod.fst) := by
  have sum : (pairs.map fun pair => slope * pair.2 + pair.1).sum =
      slope * (pairs.map Prod.snd).sum + (pairs.map Prod.fst).sum := by
    induction pairs with
    | nil => simp
    | cons pair rest ih =>
      simp only [List.map_cons, List.sum_cons, ih]
      ring
  have squares : ((pairs.map fun pair => slope * pair.2 + pair.1).map fun value =>
      value * value).sum = slope * slope * ((pairs.map Prod.snd).map fun value => value * value).sum +
        2 * slope * (pairs.map fun pair => pair.1 * pair.2).sum +
        ((pairs.map Prod.fst).map fun value => value * value).sum := by
    clear sum
    induction pairs with
    | nil => simp
    | cons pair rest ih =>
      simp only [List.map_cons, List.sum_cons, ih]
      ring
  rw [scatter, sum, squares, scatter, scatter, covariation]
  simp only [List.length_map]
  ring

/-- No combination scatters negatively, so the lists vary together no more than each
scatters. -/
theorem covariation_sq_le [LinearOrder K] [IsStrictOrderedRing K] (pairs : List (K × K)) :
    covariation pairs ^ 2 ≤ scatter (pairs.map Prod.fst) * scatter (pairs.map Prod.snd) := by
  have discriminant : discrim (scatter (pairs.map Prod.snd)) (2 * covariation pairs)
      (scatter (pairs.map Prod.fst)) ≤ 0 := by
    apply discrim_le_zero
    intro slope
    rw [← scatter_combination]
    exact scatter_nonneg _
  rw [discrim] at discriminant
  nlinarith only [discriminant]

end covariation

end Oboobot.Strategy
