import Oboobot.Broker.Adapter
import Mathlib.Data.List.Nodup
import Mathlib.Data.Finset.Dedup
import Mathlib.Data.Finset.Card

/-! Reconciliation of a locally known position list with the broker's own. -/

namespace Oboobot.Daemon

open Domain

def positionIds (positions : List Position) : List Uuid := positions.map Position.positionId

structure ReconciliationReport where
  orphanedLocally : List Position
  unknownToLocal : List Position
  confirmed : List Position
  deriving DecidableEq

def ReconciliationReport.isClean (report : ReconciliationReport) : Bool :=
  report.orphanedLocally.isEmpty && report.unknownToLocal.isEmpty

/-- The comparison that follows a successful `list_open_positions`. -/
def reconcile (brokerPositions locallyKnownPositions : List Position) : ReconciliationReport where
  orphanedLocally := locallyKnownPositions.filter fun position =>
    position.positionId ∉ positionIds brokerPositions
  unknownToLocal := brokerPositions.filter fun position =>
    position.positionId ∉ positionIds locallyKnownPositions
  confirmed := locallyKnownPositions.filter fun position =>
    position.positionId ∈ positionIds brokerPositions

def applyReconciliation (report : ReconciliationReport) : List Position :=
  report.confirmed ++ report.unknownToLocal

/-- Two lists of the same ids. -/
def SameIds (ids others : List Uuid) : Prop := ∀ id, id ∈ ids ↔ id ∈ others

instance (ids others : List Uuid) : Decidable (SameIds ids others) :=
  decidable_of_iff (ids.all others.contains = true ∧ others.all ids.contains = true) <| by
    simp only [List.all_eq_true, List.contains_iff_mem]
    exact ⟨fun ⟨front, back⟩ id => ⟨front id, back id⟩,
      fun same => ⟨fun id => (same id).mp, fun id => (same id).mpr⟩⟩

/-- A report is clean when broker and daemon name the same positions. -/
theorem isClean_iff (brokerPositions locallyKnownPositions : List Position) :
    (reconcile brokerPositions locallyKnownPositions).isClean = true ↔
      SameIds (positionIds brokerPositions) (positionIds locallyKnownPositions) := by
  simp only [ReconciliationReport.isClean, reconcile, Bool.and_eq_true, List.isEmpty_iff,
    List.filter_eq_nil_iff, decide_eq_true_eq, not_not]
  constructor
  · rintro ⟨orphaned, unknown⟩ id
    constructor
    · intro listed
      obtain ⟨position, member, rfl⟩ := List.mem_map.mp listed
      exact unknown position member
    · intro known
      obtain ⟨position, member, rfl⟩ := List.mem_map.mp known
      exact orphaned position member
  · intro same
    exact ⟨fun position member => (same _).mpr (List.mem_map_of_mem member),
      fun position member => (same _).mp (List.mem_map_of_mem member)⟩

/-- The position list a reconciliation leaves the daemon with. -/
def reconciled (brokerPositions locallyKnownPositions : List Position) : List Position :=
  applyReconciliation (reconcile brokerPositions locallyKnownPositions)

/-- Exactly the broker's ids survive, however often the local list repeats them. -/
theorem mem_positionIds_reconciled (brokerPositions locallyKnownPositions : List Position)
    (id : Uuid) :
    id ∈ positionIds (reconciled brokerPositions locallyKnownPositions) ↔
      id ∈ positionIds brokerPositions := by
  simp only [reconciled, applyReconciliation, reconcile, positionIds, List.mem_map,
    List.mem_append, List.mem_filter, decide_eq_true_eq]
  constructor
  · rintro ⟨position, ⟨_, ⟨other, listed, same⟩⟩ | ⟨listed, _⟩, rfl⟩
    · exact ⟨other, listed, same⟩
    · exact ⟨position, listed, rfl⟩
  · intro ⟨position, listed, same⟩
    subst same
    by_cases known : ∃ other ∈ locallyKnownPositions, other.positionId = position.positionId
    · obtain ⟨other, local', same⟩ := known
      exact ⟨other, .inl ⟨local', position, listed, same.symm⟩, same⟩
    · exact ⟨position, .inr ⟨listed, known⟩, rfl⟩

/-- The confirmed part and the adopted part never share an id. -/
theorem disjoint_confirmed_unknown (brokerPositions locallyKnownPositions : List Position) :
    List.Disjoint (positionIds (reconcile brokerPositions locallyKnownPositions).confirmed)
      (positionIds (reconcile brokerPositions locallyKnownPositions).unknownToLocal) := by
  intro id confirmed unknown
  obtain ⟨position, kept, rfl⟩ := List.mem_map.mp confirmed
  obtain ⟨other, adopted, same⟩ := List.mem_map.mp unknown
  have known : position.positionId ∈ positionIds locallyKnownPositions :=
    List.mem_map.mpr ⟨position, (List.mem_filter.mp kept).1, rfl⟩
  have absent : other.positionId ∉ positionIds locallyKnownPositions := by
    simpa using (List.mem_filter.mp adopted).2
  exact absent (same ▸ known)

/-- Against a broker list without repetitions, the outcome repeats an id exactly
when the local list repeats one that the broker still reports. -/
theorem nodup_reconciled_iff {brokerPositions : List Position}
    (distinct : (positionIds brokerPositions).Nodup) (locallyKnownPositions : List Position) :
    (positionIds (reconciled brokerPositions locallyKnownPositions)).Nodup ↔
      (positionIds (reconcile brokerPositions locallyKnownPositions).confirmed).Nodup := by
  have adopted :
      (positionIds (reconcile brokerPositions locallyKnownPositions).unknownToLocal).Nodup :=
    distinct.sublist (List.filter_sublist.map _)
  rw [reconciled, applyReconciliation, positionIds, List.map_append, List.nodup_append']
  constructor
  · exact fun parts => parts.1
  · exact fun kept => ⟨kept, adopted, disjoint_confirmed_unknown _ _⟩

theorem nodup_reconciled {brokerPositions locallyKnownPositions : List Position}
    (broker : (positionIds brokerPositions).Nodup)
    (known : (positionIds locallyKnownPositions).Nodup) :
    (positionIds (reconciled brokerPositions locallyKnownPositions)).Nodup :=
  (nodup_reconciled_iff broker _).mpr (known.sublist (List.filter_sublist.map _))

/-- A known id keeps its multiplicity while the broker reports it; an adopted id
gets the broker's. -/
theorem count_reconciled (brokerPositions locallyKnownPositions : List Position) (id : Uuid) :
    (positionIds (reconciled brokerPositions locallyKnownPositions)).count id =
      if id ∈ positionIds brokerPositions then
        if (positionIds locallyKnownPositions).count id = 0 then (positionIds brokerPositions).count id
        else (positionIds locallyKnownPositions).count id
      else 0 := by
  have confirmed : positionIds (reconcile brokerPositions locallyKnownPositions).confirmed =
      (positionIds locallyKnownPositions).filter (· ∈ positionIds brokerPositions) := by
    unfold positionIds
    rw [List.filter_map]
    rfl
  have unknown : positionIds (reconcile brokerPositions locallyKnownPositions).unknownToLocal =
      (positionIds brokerPositions).filter (· ∉ positionIds locallyKnownPositions) := by
    unfold positionIds
    rw [List.filter_map]
    rfl
  have parts : positionIds (reconciled brokerPositions locallyKnownPositions) =
      positionIds (reconcile brokerPositions locallyKnownPositions).confirmed ++
        positionIds (reconcile brokerPositions locallyKnownPositions).unknownToLocal := by
    simp [reconciled, applyReconciliation, positionIds]
  rw [parts, confirmed, unknown, List.count_append]
  by_cases open' : id ∈ positionIds brokerPositions
  · rw [if_pos open', List.count_filter (by simpa using open')]
    by_cases known : id ∈ positionIds locallyKnownPositions
    · have adopted : id ∉ (positionIds brokerPositions).filter
          (· ∉ positionIds locallyKnownPositions) := by
        simp [known]
      have positive := List.count_pos_iff.mpr known
      rw [List.count_eq_zero_of_not_mem adopted, if_neg (Nat.ne_of_gt positive), Nat.add_zero]
    · rw [List.count_eq_zero_of_not_mem known, if_pos rfl, List.count_filter (by simpa using known),
        Nat.zero_add]
  · rw [if_neg open', List.count_eq_zero_of_not_mem (by simp [open']),
      List.count_eq_zero_of_not_mem (by simp [open'])]

/-- The positions known after these listings, each reconciled with the list before it. -/
def knownAfter (records : List Position) (listings : List (List Position)) : List Position :=
  listings.foldl (fun known listing => reconciled listing known) records

/-- How often the position list holds an id after these listings, given how often
it did before: an id that goes missing starts afresh. -/
def copiesAfter (held : Nat) (listings : List (List Position)) (id : Uuid) : Nat :=
  listings.foldl (fun held listing => if id ∈ positionIds listing then
      if held = 0 then (positionIds listing).count id else held
    else 0) held

theorem count_knownAfter (records : List Position) (listings : List (List Position)) (id : Uuid) :
    (positionIds (knownAfter records listings)).count id =
      copiesAfter ((positionIds records).count id) listings id := by
  induction listings generalizing records with
  | nil => rfl
  | cons listing listings ih =>
    rw [knownAfter, copiesAfter, List.foldl_cons, List.foldl_cons, ← count_reconciled]
    exact ih (reconciled listing records)

theorem mem_positionIds_knownAfter (records : List Position) (listings : List (List Position))
    (listing : List Position) (id : Uuid) :
    id ∈ positionIds (knownAfter records (listings ++ [listing])) ↔ id ∈ positionIds listing := by
  rw [knownAfter, List.foldl_append, List.foldl_cons, List.foldl_nil, mem_positionIds_reconciled]

theorem knownAfter_length_eq_iff (records : List Position) (listings : List (List Position))
    (listing : List Position) :
    (knownAfter records (listings ++ [listing])).length = (positionIds listing).toFinset.card ↔
      ∀ id ∈ positionIds listing,
        copiesAfter ((positionIds records).count id) (listings ++ [listing]) id ≤ 1 := by
  let known := positionIds (knownAfter records (listings ++ [listing]))
  have same : (positionIds listing).toFinset = known.toFinset := by
    ext id
    rw [List.mem_toFinset, List.mem_toFinset, mem_positionIds_knownAfter]
  have length : (knownAfter records (listings ++ [listing])).length = known.length :=
    (List.length_map _).symm
  rw [same, length, List.card_toFinset]
  have distinct : known.length = known.dedup.length ↔ known.Nodup := by
    rw [← List.dedup_eq_self]
    constructor
    · exact fun equal => (List.dedup_sublist known).eq_of_length equal.symm
    · exact fun equal => by rw [equal]
  rw [distinct, List.nodup_iff_count_le_one]
  constructor
  · intro once id _
    rw [← count_knownAfter]
    exact once id
  · intro once id
    by_cases listed : id ∈ positionIds listing
    · have counted := once id listed
      rwa [← count_knownAfter] at counted
    · have absent : id ∉ known := by rwa [mem_positionIds_knownAfter]
      rw [List.count_eq_zero_of_not_mem absent]
      exact Nat.zero_le 1

end Oboobot.Daemon
