import Oboobot.Domain.Types
import Oboobot.Domain.WeightedMean

/-! How a position grows by fills, and what a malformed fill report leaves behind. -/

namespace Oboobot.Domain

/-- One round of the averaging loop: the weighted sum and the total size so far. -/
def addLeg (sums : Decimal × Decimal) (leg : FillLeg) : Except DomainError (Decimal × Decimal) :=
  if leg.size ≤ 0 then .error (.nonPositiveFillSize leg.size)
  else .ok (sums.1 + leg.price * leg.size, sums.2 + leg.size)

def Position.weightedEntryPrice (legs : List FillLeg) : Except DomainError Decimal :=
  if legs.isEmpty then .error .emptyFillLegs
  else do
    let (weightedSum, totalSize) ← legs.foldlM addLeg (0, 0)
    if totalSize = 0 then .error (.nonPositiveFillSize 0)
    else .ok (weightedSum / totalSize)

/-- Returns the position as the call leaves it: the leg is pushed before the price is
recomputed. -/
def Position.applyFillLeg (position : Position) (leg : FillLeg) : Except DomainError Unit × Position :=
  let grown := { position with legs := position.legs ++ [leg] }
  match weightedEntryPrice grown.legs with
  | .error failure => (.error failure, grown)
  | .ok price => (.ok (), { grown with entryPrice := price, lastUpdate := leg.filledAt })

/-- Whatever the outcome, the leg is among the legs afterwards. -/
theorem applyFillLeg_legs (position : Position) (leg : FillLeg) :
    (position.applyFillLeg leg).2.legs = position.legs ++ [leg] := by
  cases average : Position.weightedEntryPrice (position.legs ++ [leg]) <;>
    simp [Position.applyFillLeg, average]

def AllPositive (legs : List FillLeg) : Prop := ∀ leg ∈ legs, 0 < leg.size

instance (legs : List FillLeg) : Decidable (AllPositive legs) :=
  inferInstanceAs (Decidable (∀ leg ∈ legs, 0 < leg.size))

theorem foldlM_addLeg {legs : List FillLeg} (positive : AllPositive legs)
    (sums : Decimal × Decimal) :
    legs.foldlM addLeg sums =
      .ok (sums.1 + weightedSum FillLeg.price FillLeg.size legs,
        sums.2 + totalWeight FillLeg.size legs) := by
  induction legs generalizing sums with
  | nil => simp [pure, Except.pure, weightedSum, totalWeight]
  | cons leg rest ih =>
    have own : ¬leg.size ≤ 0 := not_le.mpr (positive leg List.mem_cons_self)
    have later : AllPositive rest := fun other member => positive other (List.mem_cons_of_mem _ member)
    have first : addLeg sums leg = .ok (sums.1 + leg.price * leg.size, sums.2 + leg.size) :=
      if_neg own
    rw [List.foldlM_cons, first]
    refine (ih later _).trans ?_
    simp [add_assoc]

/-- The loop stops at the first leg whose size is not positive. -/
theorem foldlM_addLeg_error {legs : List FillLeg} (malformed : ¬AllPositive legs)
    (sums : Decimal × Decimal) :
    ∃ leg ∈ legs, leg.size ≤ 0 ∧
      legs.foldlM addLeg sums = .error (.nonPositiveFillSize leg.size) := by
  induction legs generalizing sums with
  | nil => exact absurd (List.forall_mem_nil _) malformed
  | cons leg rest ih =>
    by_cases bad : leg.size ≤ 0
    · refine ⟨leg, List.mem_cons_self, bad, ?_⟩
      rw [List.foldlM_cons, addLeg, if_pos bad]
      rfl
    · have later : ¬AllPositive rest := by
        intro positive
        refine malformed fun other member => ?_
        rcases List.mem_cons.mp member with rfl | there
        · exact not_le.mp bad
        · exact positive other there
      obtain ⟨other, member, size, stops⟩ := ih later (sums.1 + leg.price * leg.size, sums.2 + leg.size)
      refine ⟨other, List.mem_cons_of_mem _ member, size, ?_⟩
      rw [List.foldlM_cons, addLeg, if_neg bad]
      exact stops

/-- Over legs of positive size, the price is their size-weighted average. -/
theorem weightedEntryPrice_ok {legs : List FillLeg} (positive : AllPositive legs)
    (some' : legs ≠ []) :
    Position.weightedEntryPrice legs = .ok (weightedMean FillLeg.price FillLeg.size legs) := by
  have nonempty : legs.isEmpty = false := by simpa using some'
  have total : totalWeight FillLeg.size legs ≠ 0 := (totalWeight_pos positive some').ne'
  simp [Position.weightedEntryPrice, nonempty, foldlM_addLeg positive, total, weightedMean, bind,
    Except.bind]

/-- There is an average exactly when there are legs and all of them have a positive size. -/
theorem exists_weightedEntryPrice_iff (legs : List FillLeg) :
    (∃ price, Position.weightedEntryPrice legs = .ok price) ↔ legs ≠ [] ∧ AllPositive legs := by
  constructor
  · intro ⟨price, average⟩
    have some' : legs ≠ [] := by
      rintro rfl
      cases average
    refine ⟨some', ?_⟩
    by_contra malformed
    obtain ⟨leg, _, _, stops⟩ := foldlM_addLeg_error malformed (0, 0)
    have nonempty : legs.isEmpty = false := by simpa using some'
    simp [Position.weightedEntryPrice, nonempty, stops, bind, Except.bind] at average
  · intro ⟨some', positive⟩
    exact ⟨_, weightedEntryPrice_ok positive some'⟩

/-- The entry price is the weighted average of the legs. -/
def EntryMatches (position : Position) : Prop :=
  Position.weightedEntryPrice position.legs = .ok position.entryPrice

instance (position : Position) : Decidable (EntryMatches position) :=
  inferInstanceAs (Decidable (_ = _))

/-- A fill is applied as a whole or not at all. -/
def AppliesWhole (position : Position) (leg : FillLeg) : Prop :=
  match position.applyFillLeg leg with
  | (.ok _, after) => after.legs = position.legs ++ [leg] ∧ EntryMatches after
  | (.error _, after) => after = position

/-- The position after a sequence of fill reports, whatever became of each. -/
def applyFillLegs (position : Position) (fills : List FillLeg) : Position :=
  fills.foldl (fun position leg => (position.applyFillLeg leg).2) position

/-- Every report of the sequence is applied as a whole or not at all. -/
def AllApplyWhole (position : Position) : List FillLeg → Prop
  | [] => True
  | leg :: later => AppliesWhole position leg ∧ AllApplyWhole (position.applyFillLeg leg).2 later

/-- The entry price matches the legs, and a good fill is accepted. -/
def StillGrows (position : Position) : Prop :=
  EntryMatches position ∧ ∀ leg : FillLeg, 0 < leg.size → (position.applyFillLeg leg).1 = .ok ()

variable {position : Position}

theorem EntryMatches.positive (same : EntryMatches position) : AllPositive position.legs :=
  ((exists_weightedEntryPrice_iff position.legs).mp ⟨_, same⟩).2

theorem allPositive_append_singleton {legs : List FillLeg} (leg : FillLeg)
    (positive : AllPositive legs) : AllPositive (legs ++ [leg]) ↔ 0 < leg.size := by
  constructor
  · exact fun all => all leg (by simp)
  · intro own other member
    rcases List.mem_append.mp member with earlier | last
    · exact positive other earlier
    · exact List.mem_singleton.mp last ▸ own

/-- A fill of positive size is accepted. -/
theorem applyFillLeg_good {leg : FillLeg} (same : EntryMatches position) (good : 0 < leg.size) :
    (position.applyFillLeg leg).1 = .ok () ∧
      (position.applyFillLeg leg).2.legs = position.legs ++ [leg] ∧
      EntryMatches (position.applyFillLeg leg).2 := by
  have positive := (allPositive_append_singleton leg same.positive).mpr good
  obtain ⟨price, average⟩ :=
    (exists_weightedEntryPrice_iff (position.legs ++ [leg])).mpr ⟨by simp, positive⟩
  have applied : position.applyFillLeg leg = (.ok (), { position with
      legs := position.legs ++ [leg], entryPrice := price, lastUpdate := leg.filledAt }) := by
    simp [Position.applyFillLeg, average]
  rw [applied]
  exact ⟨rfl, rfl, average⟩

/-- A leg of any other size is refused, and stays among the legs all the same. -/
theorem applyFillLeg_bad (position : Position) {leg : FillLeg} (bad : ¬0 < leg.size) :
    (∃ failure, (position.applyFillLeg leg).1 = .error failure) ∧
      (position.applyFillLeg leg).2 = { position with legs := position.legs ++ [leg] } := by
  have malformed : ¬∃ price, Position.weightedEntryPrice (position.legs ++ [leg]) = .ok price := by
    rw [exists_weightedEntryPrice_iff]
    exact fun average => bad (average.2 leg (by simp))
  cases average : Position.weightedEntryPrice (position.legs ++ [leg]) with
  | ok price => exact absurd ⟨price, average⟩ malformed
  | error failure => simp [Position.applyFillLeg, average]

theorem appliesWhole_iff {leg : FillLeg} (same : EntryMatches position) :
    AppliesWhole position leg ↔ 0 < leg.size := by
  unfold AppliesWhole
  by_cases good : 0 < leg.size
  · obtain ⟨accepted, grown, still⟩ := applyFillLeg_good same good
    split
    · rename_i applied
      rw [applied] at grown still
      exact iff_of_true ⟨grown, still⟩ good
    · rename_i applied
      rw [applied] at accepted
      cases accepted
  · obtain ⟨⟨failure, refused⟩, pushed⟩ := applyFillLeg_bad position good
    split
    · rename_i applied
      rw [applied] at refused
      cases refused
    · rename_i after applied
      rw [applied] at pushed
      refine iff_of_false ?_ good
      intro unchanged
      have lengths := congrArg (fun position : Position => position.legs.length)
        (pushed.symm.trans unchanged)
      simp at lengths

theorem applyFillLegs_legs (position : Position) (fills : List FillLeg) :
    (applyFillLegs position fills).legs = position.legs ++ fills := by
  induction fills generalizing position with
  | nil => simp [applyFillLegs]
  | cons leg later ih =>
    have rest := ih (position.applyFillLeg leg).2
    rw [applyFillLeg_legs, List.append_assoc, List.singleton_append] at rest
    exact rest

theorem stillGrows_applyFillLegs_iff (same : EntryMatches position) (fills : List FillLeg) :
    StillGrows (applyFillLegs position fills) ↔ AllPositive fills := by
  constructor
  · intro grows leg member
    apply grows.1.positive leg
    rw [applyFillLegs_legs]
    exact List.mem_append_right _ member
  · intro positive
    suffices matched : EntryMatches (applyFillLegs position fills) from
      ⟨matched, fun leg good => (applyFillLeg_good matched good).1⟩
    induction fills generalizing position with
    | nil => exact same
    | cons leg later ih =>
      have good := positive leg List.mem_cons_self
      exact ih (applyFillLeg_good same good).2.2
        fun other member => positive other (List.mem_cons_of_mem _ member)

theorem allApplyWhole_iff (same : EntryMatches position) (fills : List FillLeg) :
    AllApplyWhole position fills ↔ AllPositive fills := by
  induction fills generalizing position with
  | nil => exact iff_of_true trivial (List.forall_mem_nil _)
  | cons leg later ih =>
    rw [AllApplyWhole, appliesWhole_iff same, AllPositive, List.forall_mem_cons]
    refine and_congr_right fun good => ?_
    exact ih (applyFillLeg_good same good).2.2

/-- Over any sequence of fill reports, each is applied as a whole or not at all and
the position keeps growing exactly when every reported size is positive. -/
theorem fills_atomic_iff (same : EntryMatches position) (fills : List FillLeg) :
    AllApplyWhole position fills ∧ StillGrows (applyFillLegs position fills) ↔
      AllPositive fills := by
  rw [allApplyWhole_iff same, stillGrows_applyFillLegs_iff same, and_self]

/-- One unit of EURUSD bought at 1.10. -/
def filledOnce : Position where
  positionId := 101
  traceId := 0
  signalId := 0
  pair := "EURUSD"
  direction := .buy
  legs := [{ price := 1.10, size := 1, filledAt := 0 }]
  entryPrice := 1.10
  currentPrice := 1.10
  unrealizedPnl := 0
  realizedPnl := 0
  entryTime := 0
  lastUpdate := 0
  status := .partiallyFilled
  exitReason := none
  stopLoss := none
  takeProfit := none

theorem filledOnce_atomic_iff :
    AllApplyWhole filledOnce [{ price := 1.20, size := 3, filledAt := 1 }] ∧
        StillGrows (applyFillLegs filledOnce [{ price := 1.20, size := 3, filledAt := 1 }]) ↔
      AllPositive [{ price := 1.20, size := 3, filledAt := 1 }] :=
  fills_atomic_iff (by decide +kernel) _

/-- A report of size zero makes the position refuse the good fill after it. -/
theorem zeroFill_not_atomic :
    ¬∀ (position : Position) (fills : List FillLeg), EntryMatches position →
      AllApplyWhole position fills ∧ StillGrows (applyFillLegs position fills) := by
  intro claimed
  have grows := (claimed filledOnce [{ price := 1.10, size := 0, filledAt := 1 }]
    (by decide +kernel)).2.2 { price := 1.20, size := 3, filledAt := 2 } (by norm_num)
  revert grows
  decide +kernel

end Oboobot.Domain
