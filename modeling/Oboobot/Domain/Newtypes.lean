import Mathlib.Data.Rat.Defs
import Mathlib.Algebra.Order.Ring.Rat
import Mathlib.Tactic.Ring
import Mathlib.Tactic.Linarith
import Mathlib.Tactic.Positivity

/-! Money-shaped numbers. `Decimal` is exact: the 28-digit rounding and the
overflow panics of the decimal library are not modelled. -/

namespace Oboobot.Domain

abbrev Decimal := ℚ

/-- A 64-bit float as a configuration file can hold it. A finite value is the number
itself, before any rounding; comparisons with `nan` are false. -/
inductive F64 where
  | nan
  | infinite (negative : Bool)
  | finite (value : ℚ)
  deriving DecidableEq

namespace F64

def lt : F64 → F64 → Bool
  | .finite left, .finite right => left < right
  | .infinite true, .finite _ => true
  | .finite _, .infinite false => true
  | .infinite true, .infinite false => true
  | _, _ => false

def le : F64 → F64 → Bool
  | .nan, _ => false
  | left, right => left.lt right || left == right

/-- `(low..=high).contains(&value)`. -/
def within (low high value : F64) : Bool :=
  low.le value && value.le high

end F64

/-- How the decimal library converts a finite float, rounding it to the digits that it
keeps: it accepts every percentage, and does not round across a whole number. -/
structure FloatConversion where
  tryFrom : ℚ → Option Decimal
  accepts : ∀ value : ℚ, 0 ≤ value → value ≤ 100 → (tryFrom value).isSome = true
  atMost : ∀ (value : ℚ) (bound : ℕ) (decimal : Decimal), bound ≤ 100 → value ≤ bound →
    tryFrom value = some decimal → decimal ≤ bound
  atLeast : ∀ (value : ℚ) (bound : ℕ) (decimal : Decimal), bound ≤ 100 → bound ≤ value →
    tryFrom value = some decimal → bound ≤ decimal

/-- Every number that a 96-bit decimal can hold is taken as it is. -/
def FloatConversion.exact : FloatConversion where
  tryFrom := fun value => if |value| ≤ 2 ^ 96 - 1 then some value else none
  accepts := fun value nonneg atMost => by
    rw [abs_of_nonneg nonneg, if_pos (atMost.trans (by norm_num))]
    rfl
  atMost := fun _ _ _ _ atMost converted => by
    obtain ⟨_, same⟩ := Option.ite_none_right_eq_some.mp converted
    cases same
    exact atMost
  atLeast := fun _ _ _ _ atLeast converted => by
    obtain ⟨_, same⟩ := Option.ite_none_right_eq_some.mp converted
    cases same
    exact atLeast

/-- `Decimal::try_from`. -/
def F64.toDecimal (conversion : FloatConversion) : F64 → Option Decimal
  | .finite value => conversion.tryFrom value
  | _ => none

/-- Stored as the raw fraction: 5% is 0.05. -/
structure Percent where
  ratio : Decimal
  deriving DecidableEq

namespace Percent

def fromRatio (ratio : Decimal) : Percent := ⟨ratio⟩

def fromPercentage (percentage : Decimal) : Percent := ⟨percentage / 100⟩

def asRatio (percent : Percent) : Decimal := percent.ratio

def min (percent other : Percent) : Percent :=
  if percent.ratio ≤ other.ratio then percent else other

@[simp] theorem asRatio_fromRatio (ratio : Decimal) : (fromRatio ratio).asRatio = ratio := rfl

@[simp] theorem asRatio_min (percent other : Percent) :
    (percent.min other).asRatio = Min.min percent.asRatio other.asRatio := by
  unfold min asRatio
  split
  · rename_i smaller
    exact (min_eq_left smaller).symm
  · rename_i larger
    exact (min_eq_right (le_of_not_ge larger)).symm

end Percent

structure Usd where
  amount : Decimal
  deriving DecidableEq

namespace Usd

def fromDecimal (amount : Decimal) : Usd := ⟨amount⟩

def asDecimal (usd : Usd) : Decimal := usd.amount

def zero : Usd := ⟨0⟩

def fromPercentOf (equity : Usd) (percent : Percent) : Usd :=
  ⟨equity.amount * percent.asRatio⟩

@[simp] theorem asDecimal_zero : zero.asDecimal = 0 := rfl

@[simp] theorem asDecimal_fromPercentOf (equity : Usd) (percent : Percent) :
    (fromPercentOf equity percent).asDecimal = equity.asDecimal * percent.asRatio := rfl

end Usd

structure Coefficient where
  value : F64
  deriving DecidableEq

/-- A size is carried as the number whose text the source shows. -/
inductive DomainError where
  | invalidCoefficient (value : F64)
  | emptyFillLegs
  | nonPositiveFillSize (size : Decimal)
  deriving DecidableEq

def Coefficient.toDecimal (conversion : FloatConversion) (coefficient : Coefficient) :
    Except DomainError Decimal :=
  match coefficient.value.toDecimal conversion with
  | some decimal => .ok decimal
  | none => .error (.invalidCoefficient coefficient.value)

/-- The only sanctioned way to combine a percent with a coefficient: the cap is
applied every time. -/
def applyMultiplier (conversion : FloatConversion) (base : Percent) (coefficient : Coefficient)
    (cap : Percent) : Except DomainError Percent := do
  let coefficientDecimal ← coefficient.toDecimal conversion
  return (Percent.fromRatio (base.asRatio * coefficientDecimal)).min cap

theorem FloatConversion.tryFrom_natCast (conversion : FloatConversion) {number : ℕ}
    (small : number ≤ 100) : conversion.tryFrom number = some (number : ℚ) := by
  have accepted := conversion.accepts number (by positivity) (by exact_mod_cast small)
  obtain ⟨decimal, converted⟩ := Option.isSome_iff_exists.mp accepted
  have atMost := conversion.atMost number number decimal small le_rfl converted
  have atLeast := conversion.atLeast number number decimal small le_rfl converted
  rw [converted, le_antisymm atMost atLeast]

theorem applyMultiplier_natCast (conversion : FloatConversion) (base cap : Percent) {number : ℕ}
    (small : number ≤ 100) :
    applyMultiplier conversion base ⟨.finite number⟩ cap =
      .ok ((Percent.fromRatio (base.asRatio * number)).min cap) := by
  simp only [applyMultiplier, Coefficient.toDecimal, F64.toDecimal,
    conversion.tryFrom_natCast small]
  rfl

end Oboobot.Domain
