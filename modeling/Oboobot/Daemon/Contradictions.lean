import Oboobot.Daemon.OpenedPositions

/-! Opposite readings of one pair, taken from pair-sets that share it. -/

namespace Oboobot.Daemon

open Domain Strategy

section readings

variable {states : List PairCycleState} {pair : String} {direction : Direction} {tier : Tier}

/-- Some pair-set's live divergence names the pair with this direction. -/
def Reads (states : List PairCycleState) (pair : String) (direction : Direction) : Prop :=
  ∃ state ∈ states, ∃ tier, state.resolvedDivergence = some (pair, direction, tier)

/-- One pair-set says to buy the pair and another says to sell it. -/
def BothWays (states : List PairCycleState) (pair : String) : Prop :=
  Reads states pair .buy ∧ Reads states pair .sell

theorem Reads.perm {others : List PairCycleState} (reordered : others.Perm states)
    (read : Reads others pair direction) : Reads states pair direction := by
  obtain ⟨state, member, reading⟩ := read
  exact ⟨state, reordered.mem_iff.mp member, reading⟩

/-- What the map keeps for a pair is one of the pair-sets' readings. -/
theorem Reads.of_currentDivergences
    (kept : currentDivergences states pair = some (direction, tier)) :
    Reads states pair direction := by
  have present := BTreeMap.mem_of_ofPairs kept
  obtain ⟨state, member, reading⟩ := List.mem_filterMap.mp present
  exact ⟨state, member, tier, reading⟩

theorem Reads.kept (read : Reads states pair direction) :
    ∃ last tier, currentDivergences states pair = some (last, tier) := by
  obtain ⟨state, member, tier, reading⟩ := read
  have present : (pair, direction, tier) ∈ states.filterMap PairCycleState.resolvedDivergence :=
    List.mem_filterMap.mpr ⟨state, member, reading⟩
  obtain ⟨⟨last, lastTier⟩, kept⟩ := BTreeMap.exists_ofPairs present
  exact ⟨last, lastTier, kept⟩

/-- The last pair-set to read the pair is the one whose reading is kept. -/
theorem currentDivergences_last {earlier : List PairCycleState} {state : PairCycleState}
    (reading : state.resolvedDivergence = some (pair, direction, tier)) :
    currentDivergences (earlier ++ [state]) pair = some (direction, tier) := by
  have last : [state].filterMap PairCycleState.resolvedDivergence = [(pair, direction, tier)] := by
    simp [reading]
  rw [currentDivergences, List.filterMap_append, last, BTreeMap.ofPairs_append_singleton,
    BTreeMap.insert, if_pos rfl]

/-- Any reading of the pair is kept in some order of the pair-sets. -/
theorem Reads.exists_order (read : Reads states pair direction) :
    ∃ others, others.Perm states ∧
      ∃ tier, currentDivergences others pair = some (direction, tier) := by
  obtain ⟨state, member, tier, reading⟩ := read
  obtain ⟨before, after, split⟩ := List.append_of_mem member
  refine ⟨before ++ after ++ [state], ?_, tier, currentDivergences_last reading⟩
  rw [split, List.append_assoc]
  exact List.Perm.append_left before (List.perm_append_singleton state after)

/-- Without opposite readings the direction kept is the one any pair-set reads. -/
theorem Reads.kept_of_agree (agree : ¬BothWays states pair) (read : Reads states pair direction) :
    ∃ tier, currentDivergences states pair = some (direction, tier) := by
  obtain ⟨last, tier, kept⟩ := read.kept
  have other := Reads.of_currentDivergences kept
  have same : last = direction := by
    cases last <;> cases direction
    · rfl
    · exact absurd ⟨other, read⟩ agree
    · exact absurd ⟨read, other⟩ agree
    · rfl
  exact ⟨tier, same ▸ kept⟩

end readings

section sweep

variable {states : List PairCycleState} {currentPrices : BTreeMap Decimal} {newsExitActive : Bool}
  {position : Position}

/-- Neither its levels nor the news close the position. -/
structure LeftOpen (currentPrices : BTreeMap Decimal) (newsExitActive : Bool)
    (position : Position) : Prop where
  levels : (currentPrices position.pair).bind (riskRewardExit position) = none
  news : newsExitActive = false

def opposite : Direction → Direction
  | .buy => .sell
  | .sell => .buy

theorem ne_iff_eq_opposite {direction held : Direction} :
    direction ≠ held ↔ direction = opposite held := by
  cases direction <;> cases held <;> simp [opposite]

theorem exitDecision_leftOpen (left : LeftOpen currentPrices newsExitActive position)
    (currentDivergences : BTreeMap (Direction × Tier)) :
    exitDecision currentPrices newsExitActive currentDivergences position =
      (smtContradictionExit position currentDivergences).map fun reason =>
        { positionId := position.positionId, reason } := by
  simp [exitDecision, left.levels, left.news]

theorem smtContradictionExit_eq_some_iff {divergences : BTreeMap (Direction × Tier)}
    {reason : ExitReason} :
    smtContradictionExit position divergences = some reason ↔
      reason = .contradiction ∧
        ∃ tier, divergences position.pair = some (opposite position.direction, tier) := by
  unfold smtContradictionExit
  cases kept : divergences position.pair with
  | none => simp
  | some reading =>
    obtain ⟨direction, tier⟩ := reading
    by_cases against : direction ≠ position.direction
    · have opposed := ne_iff_eq_opposite.mp against
      cases held : position.direction <;> simp [opposed, held, opposite, eq_comm]
    · have same := not_not.mp against
      cases held : position.direction <;> simp [same, held, opposite]

theorem isSome_exitDecision_iff (left : LeftOpen currentPrices newsExitActive position)
    (divergences : BTreeMap (Direction × Tier)) :
    (exitDecision currentPrices newsExitActive divergences position).isSome ↔
      ∃ tier, divergences position.pair = some (opposite position.direction, tier) := by
  rw [exitDecision_leftOpen left, Option.isSome_map, Option.isSome_iff_exists]
  simp [smtContradictionExit_eq_some_iff]

theorem BothWays.reads (both : BothWays states position.pair) (direction : Direction) :
    Reads states position.pair direction := by
  cases direction
  · exact both.1
  · exact both.2

/-- Whether a position is flagged depends on the order of the pair-sets only through
opposite readings of its pair. -/
theorem exitDecision_perm {others : List PairCycleState} (reordered : others.Perm states)
    (agree : LeftOpen currentPrices newsExitActive position → ¬BothWays states position.pair) :
    (exitDecision currentPrices newsExitActive (currentDivergences others) position).isSome =
      (exitDecision currentPrices newsExitActive (currentDivergences states) position).isSome := by
  by_cases left : LeftOpen currentPrices newsExitActive position
  · have here := agree left
    have there : ¬BothWays others position.pair := fun both =>
      here ⟨both.1.perm reordered, both.2.perm reordered⟩
    rw [Bool.eq_iff_iff, isSome_exitDecision_iff left, isSome_exitDecision_iff left]
    constructor
    · rintro ⟨tier, kept⟩
      exact ((Reads.of_currentDivergences kept).perm reordered).kept_of_agree here
    · rintro ⟨tier, kept⟩
      exact ((Reads.of_currentDivergences kept).perm reordered.symm).kept_of_agree there
  · -- The levels or the news decide, whatever the divergences say.
    cases levels : (currentPrices position.pair).bind (riskRewardExit position) with
    | some reason => simp [exitDecision, levels]
    | none =>
      cases news : newsExitActive with
      | true => simp [exitDecision, levels]
      | false => exact absurd ⟨levels, news⟩ left

end sweep

variable (positions : List Position) (currentPrices : BTreeMap Decimal)
  (newsEvents : List NewsEvent) (now : Instant) (newsLeadTime : Duration)
  (states : List PairCycleState)

/-- A pair-set's reading against an open position flags it, unless its levels or the
news do. -/
def FlagsEveryContradiction : Prop :=
  ∀ position ∈ positions,
    LeftOpen currentPrices (shouldExitForNews newsEvents now newsLeadTime) position →
    Reads states position.pair (opposite position.direction) →
    { positionId := position.positionId, reason := .contradiction } ∈
      evaluateExits positions currentPrices newsEvents now newsLeadTime (currentDivergences states)

/-- Listing the pair-sets in another order flags the same positions. -/
def OrderIndependent : Prop :=
  ∀ others : List PairCycleState, others.Perm states →
    flaggedPositions positions currentPrices newsEvents now newsLeadTime
        (currentDivergences others) =
      flaggedPositions positions currentPrices newsEvents now newsLeadTime
        (currentDivergences states)

/-- The sweep sees every contradiction, in every order of the pair-sets, exactly when no
position that is left to it has its pair read both ways. -/
theorem contradictions_iff :
    FlagsEveryContradiction positions currentPrices newsEvents now newsLeadTime states ∧
        OrderIndependent positions currentPrices newsEvents now newsLeadTime states ↔
      ∀ position ∈ positions,
        LeftOpen currentPrices (shouldExitForNews newsEvents now newsLeadTime) position →
        ¬BothWays states position.pair := by
  constructor
  · rintro ⟨_, sameFlags⟩ position member left both
    obtain ⟨against, reordered, opposed⟩ := (both.reads (opposite position.direction)).exists_order
    obtain ⟨along, otherwise, tier, kept⟩ := (both.reads position.direction).exists_order
    have same := (sameFlags against reordered).trans (sameFlags along otherwise).symm
    have flagged : position ∈ flaggedPositions positions currentPrices newsEvents now newsLeadTime
        (currentDivergences against) :=
      List.mem_filter.mpr ⟨member, (isSome_exitDecision_iff left _).mpr opposed⟩
    rw [same] at flagged
    obtain ⟨_, kept'⟩ :=
      (isSome_exitDecision_iff left _).mp (List.mem_filter.mp flagged).2
    rw [kept] at kept'
    cases held : position.direction <;> simp [held, opposite] at kept'
  · intro agree
    constructor
    · intro position member left read
      obtain ⟨tier, kept⟩ := read.kept_of_agree (agree position member left)
      refine List.mem_filterMap.mpr ⟨position, member, ?_⟩
      rw [exitDecision_leftOpen left, smtContradictionExit_eq_some_iff.mpr ⟨rfl, tier, kept⟩,
        Option.map_some]
    · intro others reordered
      refine List.filter_congr fun position member => ?_
      exact exitDecision_perm reordered (agree position member)

/-- EURUSD is a sell against GBPUSD. -/
def soldAgainstGbpusd : PairCycleState := { sweptSecondary with
  resolvedDivergence := some ("EURUSD", .sell, .double) }

/-- And a buy against AUDUSD. -/
def boughtAgainstAudusd : PairCycleState := { sweptSecondary with
  pairConfig := { sweptSecondary.pairConfig with secondary := "AUDUSD" }
  resolvedDivergence := some ("EURUSD", .buy, .double) }

/-- The position bought on EURUSD is flagged only if the pair-set that sells comes last. -/
theorem boughtAgainstAudusd_hides_contradiction :
    ¬∀ (positions : List Position) (currentPrices : BTreeMap Decimal)
      (newsEvents : List NewsEvent) (now : Instant) (newsLeadTime : Duration)
      (states : List PairCycleState),
      FlagsEveryContradiction positions currentPrices newsEvents now newsLeadTime states ∧
        OrderIndependent positions currentPrices newsEvents now newsLeadTime states := by
  intro claimed
  let bought := openedBy (orderRequest 5 sweptSnapshot sweptSignal (decisionOn sweptSecondary))
  have flags := (claimed [bought] .empty [] 0 0 [soldAgainstGbpusd, boughtAgainstAudusd]).1
  have sold : Reads [soldAgainstGbpusd, boughtAgainstAudusd] bought.pair .sell :=
    ⟨soldAgainstGbpusd, List.mem_cons_self, .double, rfl⟩
  have flagged := flags bought (List.mem_singleton.mpr rfl) ⟨rfl, rfl⟩ sold
  revert flagged
  decide +kernel

end Oboobot.Daemon
