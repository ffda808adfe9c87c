import Oboobot.Daemon.Host

/-! What a reconciliation makes of two lists that disagree, and whose record of a
position it keeps. -/

namespace Oboobot.Daemon

open Domain

section split

variable {Item : Type}

/-- Every item of the list goes to one of two parts, and both keep its order. -/
inductive SplitsInto : List Item → List Item → List Item → Prop where
  | nil : SplitsInto [] [] []
  | left {list front back : List Item} (item : Item) (rest : SplitsInto list front back) :
      SplitsInto (item :: list) (item :: front) back
  | right {list front back : List Item} (item : Item) (rest : SplitsInto list front back) :
      SplitsInto (item :: list) front (item :: back)

/-- A choice and its opposite split a list. -/
theorem splitsInto_filter (chosen : Item → Prop) [DecidablePred chosen] (list : List Item) :
    SplitsInto list (list.filter fun item => ¬chosen item) (list.filter fun item => chosen item) := by
  induction list with
  | nil => exact .nil
  | cons item rest ih =>
    by_cases taken : chosen item
    · simpa [List.filter_cons, taken] using SplitsInto.right item ih
    · simpa [List.filter_cons, taken] using SplitsInto.left item ih

end split

variable {brokerPositions locallyKnownPositions : List Position}

theorem mem_orphaned_iff {position : Position} :
    position ∈ (reconcile brokerPositions locallyKnownPositions).orphanedLocally ↔
      position ∈ locallyKnownPositions ∧ position.positionId ∉ positionIds brokerPositions := by
  simp [reconcile]

theorem mem_confirmed_iff {position : Position} :
    position ∈ (reconcile brokerPositions locallyKnownPositions).confirmed ↔
      position ∈ locallyKnownPositions ∧ position.positionId ∈ positionIds brokerPositions := by
  simp [reconcile]

theorem mem_unknown_iff {position : Position} :
    position ∈ (reconcile brokerPositions locallyKnownPositions).unknownToLocal ↔
      position ∈ brokerPositions ∧ position.positionId ∉ positionIds locallyKnownPositions := by
  simp [reconcile]

theorem mem_reconciled_iff {position : Position} :
    position ∈ reconciled brokerPositions locallyKnownPositions ↔
      position ∈ (reconcile brokerPositions locallyKnownPositions).confirmed ∨
        position ∈ (reconcile brokerPositions locallyKnownPositions).unknownToLocal := by
  simp [reconciled, applyReconciliation]

/-- Against the list they came from, reconciled positions change no more. -/
theorem reconciled_of_sameIds
    (same : SameIds (positionIds brokerPositions) (positionIds locallyKnownPositions)) :
    reconciled brokerPositions locallyKnownPositions = locallyKnownPositions := by
  have kept : (reconcile brokerPositions locallyKnownPositions).confirmed =
      locallyKnownPositions := by
    refine List.filter_eq_self.mpr fun position known => ?_
    simpa using (same _).mpr (List.mem_map_of_mem known)
  have noneAdopted : (reconcile brokerPositions locallyKnownPositions).unknownToLocal = [] := by
    refine List.filter_eq_nil_iff.mpr fun position listed => ?_
    simpa using (same _).mp (List.mem_map_of_mem listed)
  rw [reconciled, applyReconciliation, kept, noneAdopted, List.append_nil]

/-- The local list splits into what is orphaned and what is confirmed, the ids that
remain are the broker's, and a second comparison finds nothing to change. -/
theorem reconcile_settles (brokerPositions locallyKnownPositions : List Position) :
    let report := reconcile brokerPositions locallyKnownPositions
    SplitsInto locallyKnownPositions report.orphanedLocally report.confirmed ∧
      (∀ position ∈ report.orphanedLocally, position.positionId ∉ positionIds brokerPositions) ∧
      (∀ position ∈ report.confirmed, position.positionId ∈ positionIds brokerPositions) ∧
      SameIds (positionIds (applyReconciliation report)) (positionIds brokerPositions) ∧
      (report.isClean = true ↔
        SameIds (positionIds brokerPositions) (positionIds locallyKnownPositions)) ∧
      (reconcile brokerPositions (applyReconciliation report)).isClean = true ∧
      applyReconciliation (reconcile brokerPositions (applyReconciliation report)) =
        applyReconciliation report := by
  intro report
  have same : SameIds (positionIds (applyReconciliation report)) (positionIds brokerPositions) :=
    mem_positionIds_reconciled brokerPositions locallyKnownPositions
  have back : SameIds (positionIds brokerPositions) (positionIds (applyReconciliation report)) :=
    fun id => (same id).symm
  refine ⟨?_, ?_, ?_, same, isClean_iff _ _, (isClean_iff _ _).mpr back, reconciled_of_sameIds back⟩
  · exact splitsInto_filter (fun position => position.positionId ∈ positionIds brokerPositions)
      locallyKnownPositions
  · exact fun position orphaned => (mem_orphaned_iff.mp orphaned).2
  · exact fun position confirmed => (mem_confirmed_iff.mp confirmed).2

/-- A record without the two ids that a broker may not carry. -/
def withoutSignal (position : Position) : Position :=
  { position with traceId := 0, signalId := 0 }

/-- The broker has reported this very record, apart from those two ids. -/
def BrokersRecord (brokerPositions : List Position) (position : Position) : Prop :=
  ∃ reported ∈ brokerPositions, reported.positionId = position.positionId ∧
    withoutSignal position = withoutSignal reported

instance (brokerPositions : List Position) (position : Position) :
    Decidable (BrokersRecord brokerPositions position) :=
  inferInstanceAs (Decidable (∃ reported ∈ brokerPositions, _))

/-- The local copies of what the broker still reports are not out of date. -/
def CopiesCurrent (brokerPositions locallyKnownPositions : List Position) : Prop :=
  ∀ position ∈ locallyKnownPositions, ∀ reported ∈ brokerPositions,
    reported.positionId = position.positionId → withoutSignal position = withoutSignal reported

instance (brokerPositions locallyKnownPositions : List Position) :
    Decidable (CopiesCurrent brokerPositions locallyKnownPositions) :=
  inferInstanceAs (Decidable (∀ position ∈ locallyKnownPositions, _))

/-- In a list that names every position once, an id has one record. -/
theorem eq_of_positionId {positions : List Position} (distinct : (positionIds positions).Nodup)
    {position other : Position} (listed : position ∈ positions) (also : other ∈ positions)
    (same : position.positionId = other.positionId) : position = other :=
  List.inj_on_of_nodup_map distinct listed also same

/-- The result is made of the broker's records exactly when no local copy of a
position that the broker reports is out of date. -/
theorem reconciled_brokersRecord_iff (distinct : (positionIds brokerPositions).Nodup) :
    (∀ position ∈ reconciled brokerPositions locallyKnownPositions,
        BrokersRecord brokerPositions position) ↔
      CopiesCurrent brokerPositions locallyKnownPositions := by
  constructor
  · intro records position known reported listed same
    have open' : position.positionId ∈ positionIds brokerPositions :=
      List.mem_map.mpr ⟨reported, listed, same⟩
    have confirmed := mem_confirmed_iff.mpr ⟨known, open'⟩
    obtain ⟨other, also, sameId, equal⟩ := records position (mem_reconciled_iff.mpr (.inl confirmed))
    rw [eq_of_positionId distinct listed also (same.trans sameId.symm)]
    exact equal
  · intro current position member
    rcases mem_reconciled_iff.mp member with confirmed | adopted
    · obtain ⟨known, open'⟩ := mem_confirmed_iff.mp confirmed
      obtain ⟨reported, listed, same⟩ := List.mem_map.mp open'
      exact ⟨reported, listed, same, current position known reported listed same⟩
    · exact ⟨position, (mem_unknown_iff.mp adopted).1, rfl, rfl⟩

/-- A position as it was opened, and as the broker reports it once its stop has
been moved up. -/
def openedEurusd : Position := boughtPosition 101 "EURUSD" 1.10 100 0 (some 1.09)

def trailedEurusd : Position := { openedEurusd with stopLoss := some 1.105, lastUpdate := 1 }

/-- What a broker reports, and what the daemon has on record: one position in both, whose
trace the broker does not carry, one to be adopted and one that is orphaned. -/
def reportedBook : List Position := [openedEurusd, boughtPosition 102 "GBPUSD" 1.27 50 0 none]

def recordedBook : List Position :=
  [boughtPosition 103 "AUDUSD" 0.65 50 0 none, { openedEurusd with traceId := 7 }]

theorem recordedBook_brokersRecord :
    positionIds (reconciled reportedBook recordedBook) = [101, 102] ∧
      ∀ position ∈ reconciled reportedBook recordedBook, BrokersRecord reportedBook position :=
  ⟨by decide +kernel, (reconciled_brokersRecord_iff (by decide +kernel)).mpr (by decide +kernel)⟩

/-- The local copy with the old stop is kept. -/
theorem trailedEurusd_not_brokersRecord :
    ¬∀ brokerPositions locallyKnownPositions : List Position,
      (positionIds brokerPositions).Nodup →
      ∀ position ∈ reconciled brokerPositions locallyKnownPositions,
        BrokersRecord brokerPositions position := by
  intro claimed
  have records := claimed [trailedEurusd] [openedEurusd] (by decide +kernel)
  revert records
  decide +kernel

end Oboobot.Daemon
