import Mathlib.Algebra.Order.BigOperators.Group.List
import Mathlib.Algebra.Order.Field.Basic
import Mathlib.Algebra.BigOperators.Ring.List

/-! Means of a list of values that carry weights. -/

namespace Oboobot.Domain

section mean

variable {K Item : Type} [Field K] (value weight : Item → K)

def weightedSum (items : List Item) : K := (items.map fun item => value item * weight item).sum

def totalWeight (items : List Item) : K := (items.map weight).sum

def weightedMean (items : List Item) : K := weightedSum value weight items / totalWeight weight items

variable {value weight} {items front back : List Item}

@[simp] theorem weightedSum_append :
    weightedSum value weight (front ++ back) =
      weightedSum value weight front + weightedSum value weight back := by
  rw [weightedSum, List.map_append, List.sum_append]
  rfl

@[simp] theorem totalWeight_append :
    totalWeight weight (front ++ back) = totalWeight weight front + totalWeight weight back := by
  rw [totalWeight, List.map_append, List.sum_append]
  rfl

@[simp] theorem weightedSum_cons (item : Item) :
    weightedSum value weight (item :: items) =
      value item * weight item + weightedSum value weight items := rfl

@[simp] theorem totalWeight_cons (item : Item) :
    totalWeight weight (item :: items) = weight item + totalWeight weight items := rfl

theorem weightedMean_perm {other : List Item} (perm : other.Perm items) :
    weightedMean value weight other = weightedMean value weight items := by
  have weighted := (perm.map fun item => value item * weight item).sum_eq
  have total := (perm.map weight).sum_eq
  rw [weightedMean, weightedMean, weightedSum, weightedSum, totalWeight, totalWeight, weighted, total]

/-- An item may be taken as two with its value that share its weight. -/
theorem weightedMean_split {item first second : Item} (sameFirst : value first = value item)
    (sameSecond : value second = value item) (shared : weight first + weight second = weight item) :
    weightedMean value weight (front ++ first :: second :: back) =
      weightedMean value weight (front ++ item :: back) := by
  have weighted : value item * weight first + (value item * weight second +
      weightedSum value weight back) = value item * weight item + weightedSum value weight back := by
    rw [← add_assoc, ← mul_add, shared]
  have total : weight first + (weight second + totalWeight weight back) =
      weight item + totalWeight weight back := by
    rw [← add_assoc, shared]
  simp only [weightedMean, weightedSum_append, weightedSum_cons, totalWeight_append,
    totalWeight_cons, sameFirst, sameSecond, weighted, total]

/-- The mean of two parts is made of their means, each with its weight. -/
theorem weightedMean_append (someFront : totalWeight weight front ≠ 0)
    (someBack : totalWeight weight back ≠ 0) :
    weightedMean value weight (front ++ back) =
      (weightedMean value weight front * totalWeight weight front +
        weightedMean value weight back * totalWeight weight back) /
        (totalWeight weight front + totalWeight weight back) := by
  rw [weightedMean, weightedMean, weightedMean, weightedSum_append, totalWeight_append,
    div_mul_cancel₀ _ someFront, div_mul_cancel₀ _ someBack]

end mean

section bounds

variable {K Item : Type} [Field K] [LinearOrder K] [IsStrictOrderedRing K]
  {value weight : Item → K} {items : List Item}

theorem totalWeight_pos (positive : ∀ item ∈ items, 0 < weight item) (nonempty : items ≠ []) :
    0 < totalWeight weight items := by
  apply List.sum_pos
  · intro total member
    obtain ⟨item, present, rfl⟩ := List.mem_map.mp member
    exact positive item present
  · simpa using nonempty

theorem mul_totalWeight_le {low : K} (positive : ∀ item ∈ items, 0 < weight item)
    (least : ∀ item ∈ items, low ≤ value item) :
    low * totalWeight weight items ≤ weightedSum value weight items := by
  rw [totalWeight, ← List.sum_map_mul_left]
  apply List.sum_le_sum
  intro item member
  exact mul_le_mul_of_nonneg_right (least item member) (positive item member).le

theorem le_mul_totalWeight {high : K} (positive : ∀ item ∈ items, 0 < weight item)
    (greatest : ∀ item ∈ items, value item ≤ high) :
    weightedSum value weight items ≤ high * totalWeight weight items := by
  rw [totalWeight, ← List.sum_map_mul_left]
  apply List.sum_le_sum
  intro item member
  exact mul_le_mul_of_nonneg_right (greatest item member) (positive item member).le

theorem le_weightedMean {low : K} (positive : ∀ item ∈ items, 0 < weight item)
    (nonempty : items ≠ []) (least : ∀ item ∈ items, low ≤ value item) :
    low ≤ weightedMean value weight items :=
  (le_div_iff₀ (totalWeight_pos positive nonempty)).mpr (mul_totalWeight_le positive least)

theorem weightedMean_le {high : K} (positive : ∀ item ∈ items, 0 < weight item)
    (nonempty : items ≠ []) (greatest : ∀ item ∈ items, value item ≤ high) :
    weightedMean value weight items ≤ high :=
  (div_le_iff₀ (totalWeight_pos positive nonempty)).mpr (le_mul_totalWeight positive greatest)

end bounds

end Oboobot.Domain
