import Oboobot.Domain.FillLegs
import Mathlib.Data.Finset.Max

/-! The entry price of a position, however its fills are ordered, split or grouped. -/

namespace Oboobot.Domain

variable {legs : List FillLeg}

/-- The average that the loop computes. -/
def averagePrice (legs : List FillLeg) : Decimal := weightedMean FillLeg.price FillLeg.size legs

theorem weightedEntryPrice_eq_ok_iff {price : Decimal} :
    Position.weightedEntryPrice legs = .ok price ↔
      legs ≠ [] ∧ AllPositive legs ∧ price = averagePrice legs := by
  constructor
  · intro average
    obtain ⟨nonempty, positive⟩ := (exists_weightedEntryPrice_iff legs).mp ⟨price, average⟩
    rw [weightedEntryPrice_ok positive nonempty] at average
    cases average
    exact ⟨nonempty, positive, rfl⟩
  · intro given
    obtain ⟨nonempty, positive, rfl⟩ := given
    exact weightedEntryPrice_ok positive nonempty

theorem weightedEntryPrice_isError_iff (legs : List FillLeg) :
    (∃ failure, Position.weightedEntryPrice legs = .error failure) ↔
      legs = [] ∨ ∃ leg ∈ legs, ¬0 < leg.size := by
  have averaged := exists_weightedEntryPrice_iff legs
  have otherwise : (legs = [] ∨ ∃ leg ∈ legs, ¬0 < leg.size) ↔ ¬(legs ≠ [] ∧ AllPositive legs) := by
    simp [AllPositive, imp_iff_not_or]
  rw [otherwise, ← averaged]
  cases Position.weightedEntryPrice legs <;> simp

/-- The legs with the lowest and the highest price. -/
theorem exists_extremes (nonempty : legs ≠ []) :
    ∃ lowest ∈ legs, ∃ highest ∈ legs,
      ∀ leg ∈ legs, lowest.price ≤ leg.price ∧ leg.price ≤ highest.price := by
  obtain ⟨lowest, inLowest, least⟩ := legs.toFinset.exists_min_image FillLeg.price
    ((List.toFinset_nonempty_iff legs).mpr nonempty)
  obtain ⟨highest, inHighest, greatest⟩ := legs.toFinset.exists_max_image FillLeg.price
    ((List.toFinset_nonempty_iff legs).mpr nonempty)
  refine ⟨lowest, List.mem_toFinset.mp inLowest, highest, List.mem_toFinset.mp inHighest, ?_⟩
  intro leg member
  exact ⟨least leg (List.mem_toFinset.mpr member), greatest leg (List.mem_toFinset.mpr member)⟩

/-- What makes a price the average of the legs, whatever their order and grouping. -/
structure Averages (legs : List FillLeg) (price : Decimal) : Prop where
  between : ∃ lowest ∈ legs, ∃ highest ∈ legs,
    (∀ leg ∈ legs, lowest.price ≤ leg.price ∧ leg.price ≤ highest.price) ∧
      lowest.price ≤ price ∧ price ≤ highest.price
  reordered : ∀ other : List FillLeg, other.Perm legs →
    Position.weightedEntryPrice other = .ok price
  split : ∀ front leg back, legs = front ++ leg :: back → ∀ first second : FillLeg,
    first.price = leg.price → second.price = leg.price → first.size + second.size = leg.size →
    0 < first.size → 0 < second.size →
      Position.weightedEntryPrice (front ++ first :: second :: back) = .ok price
  combined : ∀ front back : List FillLeg, (front ++ back).Perm legs → front ≠ [] → back ≠ [] →
    ∃ frontPrice backPrice, Position.weightedEntryPrice front = .ok frontPrice ∧
      Position.weightedEntryPrice back = .ok backPrice ∧
      price = (frontPrice * totalWeight FillLeg.size front +
        backPrice * totalWeight FillLeg.size back) /
          (totalWeight FillLeg.size front + totalWeight FillLeg.size back)

theorem averages_averagePrice (nonempty : legs ≠ []) (positive : AllPositive legs) :
    Averages legs (averagePrice legs) where
  between := by
    obtain ⟨lowest, inLowest, highest, inHighest, extreme⟩ := exists_extremes nonempty
    refine ⟨lowest, inLowest, highest, inHighest, extreme, ?_, ?_⟩
    · exact le_weightedMean positive nonempty fun leg member => (extreme leg member).1
    · exact weightedMean_le positive nonempty fun leg member => (extreme leg member).2
  reordered := by
    intro other perm
    have nonempty' : other ≠ [] := by
      rintro rfl
      exact nonempty perm.nil_eq.symm
    refine weightedEntryPrice_eq_ok_iff.mpr ⟨nonempty', ?_, (weightedMean_perm perm).symm⟩
    exact fun leg member => positive leg (perm.mem_iff.mp member)
  split := by
    intro front leg back same first second sameFirst sameSecond shared ownFirst ownSecond
    subst same
    refine weightedEntryPrice_eq_ok_iff.mpr ⟨by simp, ?_, ?_⟩
    · intro other member
      simp only [List.mem_append, List.mem_cons] at member
      rcases member with before | rfl | rfl | after
      · exact positive other (List.mem_append_left _ before)
      · exact ownFirst
      · exact ownSecond
      · exact positive other (List.mem_append_right _ (List.mem_cons_of_mem _ after))
    · exact (weightedMean_split sameFirst sameSecond shared).symm
  combined := by
    intro front back perm someFront someBack
    have positiveFront : AllPositive front := fun leg member =>
      positive leg (perm.mem_iff.mp (List.mem_append_left _ member))
    have positiveBack : AllPositive back := fun leg member =>
      positive leg (perm.mem_iff.mp (List.mem_append_right _ member))
    refine ⟨averagePrice front, averagePrice back,
      weightedEntryPrice_eq_ok_iff.mpr ⟨someFront, positiveFront, rfl⟩,
      weightedEntryPrice_eq_ok_iff.mpr ⟨someBack, positiveBack, rfl⟩, ?_⟩
    have whole : averagePrice (front ++ back) = averagePrice legs := weightedMean_perm perm
    rw [← whole]
    exact weightedMean_append (totalWeight_pos positiveFront someFront).ne'
      (totalWeight_pos positiveBack someBack).ne'

/-- There is no entry price exactly for want of legs or of a positive size; else it is
their average. -/
theorem entryPrice_averages (legs : List FillLeg) :
    ((∃ failure, Position.weightedEntryPrice legs = .error failure) ↔
      legs = [] ∨ ∃ leg ∈ legs, ¬0 < leg.size) ∧
    ∀ price, Position.weightedEntryPrice legs = .ok price → Averages legs price := by
  refine ⟨weightedEntryPrice_isError_iff legs, ?_⟩
  intro price average
  obtain ⟨nonempty, positive, rfl⟩ := weightedEntryPrice_eq_ok_iff.mp average
  exact averages_averagePrice nonempty positive

end Oboobot.Domain
