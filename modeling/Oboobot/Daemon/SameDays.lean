import Oboobot.Daemon.Replay

/-! Two daily histories paired up by index, and the days that meet in a pair. -/

namespace Oboobot.Daemon

open Domain SessionTime Strategy Risk Broker Interaction Daemon.Cycle

/-- Lists that agree wherever both reach are a list and its continuation. -/
theorem agree_iff_prefix {α : Type} {first second : List α} :
    (∀ (index : Nat) left right,
        first[index]? = some left → second[index]? = some right → left = right) ↔
      first <+: second ∨ second <+: first := by
  constructor
  · intro agree
    induction first generalizing second with
    | nil => exact .inl List.nil_prefix
    | cons head rest ih =>
      cases second with
      | nil => exact .inr List.nil_prefix
      | cons head' rest' =>
        obtain rfl := agree 0 head head' rfl rfl
        have later := ih fun index left right => agree (index + 1) left right
        rw [List.cons_prefix_cons, List.cons_prefix_cons]
        exact later.imp (⟨rfl, ·⟩) (⟨rfl, ·⟩)
  · intro continues index left right isLeft isRight
    obtain ⟨reachesFirst, _⟩ := List.getElem?_eq_some_iff.mp isLeft
    obtain ⟨reachesSecond, _⟩ := List.getElem?_eq_some_iff.mp isRight
    rcases continues with ⟨rest, rfl⟩ | ⟨rest, rfl⟩
    · rw [List.getElem?_append_left reachesFirst, isLeft] at isRight
      exact Option.some.inj isRight
    · rw [List.getElem?_append_left reachesSecond, isRight] at isLeft
      exact (Option.some.inj isLeft).symm

/-- The daily closes of one symbol, oldest first, with the days they are of. Days on
which the symbol is not traded are missing. -/
structure DailyHistory where
  bars : List (NaiveDate × Decimal)
  oldestFirst : (bars.map Prod.fst).Pairwise (· < ·)

namespace DailyHistory

def days (history : DailyHistory) : List NaiveDate := history.bars.map Prod.fst

/-- What a broker transmits. -/
def closes (history : DailyHistory) : List Decimal := history.bars.map Prod.snd

end DailyHistory

section

variable (primary secondary : DailyHistory)

/-- Both closes of the bar are those of one day. -/
def OfOneDay (index : Nat) (primaryClose secondaryClose : Decimal) : Prop :=
  ∃ day, primary.bars[index]? = some (day, primaryClose) ∧
    secondary.bars[index]? = some (day, secondaryClose)

/-- Every sample that a backfill seeds pairs two closes of one day. -/
def SeedsByDay : Prop :=
  ∀ primaryPair secondaryPair samples,
    Trace (backfillCorrelation primaryPair secondaryPair)
      [⟨.fetchHistoricalPrices primaryPair backfillDays, .ok primary.closes⟩,
        ⟨.fetchHistoricalPrices secondaryPair backfillDays, .ok secondary.closes⟩]
      (.done (.ok samples)) →
    ∀ index sample, samples[index]? = some sample →
      OfOneDay primary secondary index sample.1 sample.2

/-- At every bar of a replay, the prices of the two pairs are closes of one day. -/
def BarsByDay : Prop :=
  ∀ (pairConfig : PairConfig) (broker : ReplayBroker),
    pairConfig.primary ≠ pairConfig.secondary →
    broker.bars = replayBars pairConfig primary.closes secondary.closes →
    broker.currentIndex < broker.barCount →
    ∃ primaryClose secondaryClose,
      broker.currentPrice pairConfig.primary = some primaryClose ∧
      broker.currentPrice pairConfig.secondary = some secondaryClose ∧
      OfOneDay primary secondary broker.currentIndex primaryClose secondaryClose

end

variable {primary secondary : DailyHistory}

/-- Up to where the shorter history ends, both have the same days. -/
def SameDays (primary secondary : DailyHistory) : Prop :=
  primary.days <+: secondary.days ∨ secondary.days <+: primary.days

/-- Every two bars of one index are of one day. -/
theorem sameDays_iff :
    SameDays primary secondary ↔ ∀ (index : Nat) left right, primary.bars[index]? = some left →
      secondary.bars[index]? = some right → left.1 = right.1 := by
  rw [SameDays, ← agree_iff_prefix]
  constructor
  · intro agree index left right isLeft isRight
    apply agree index left.1 right.1
    · rw [DailyHistory.days, List.getElem?_map, isLeft]
      rfl
    · rw [DailyHistory.days, List.getElem?_map, isRight]
      rfl
  · intro agree index left right isLeft isRight
    rw [DailyHistory.days, List.getElem?_map] at isLeft isRight
    obtain ⟨bar, found, rfl⟩ := Option.map_eq_some_iff.mp isLeft
    obtain ⟨bar', found', rfl⟩ := Option.map_eq_some_iff.mp isRight
    exact agree index bar bar' found found'

theorem ofOneDay_of_agree {index : Nat} {left right : NaiveDate × Decimal}
    (isLeft : primary.bars[index]? = some left) (isRight : secondary.bars[index]? = some right)
    (same : left.1 = right.1) : OfOneDay primary secondary index left.2 right.2 :=
  ⟨left.1, isLeft, same ▸ isRight⟩

theorem OfOneDay.agree {index : Nat} {left right : NaiveDate × Decimal} {close close' : Decimal}
    (oneDay : OfOneDay primary secondary index close close')
    (isLeft : primary.bars[index]? = some left) (isRight : secondary.bars[index]? = some right) :
    left.1 = right.1 := by
  obtain ⟨day, first, second⟩ := oneDay
  rw [isLeft] at first
  rw [isRight] at second
  cases first
  cases second
  rfl

theorem closes_getElem? {history : DailyHistory} {index : Nat} {close : Decimal} :
    history.closes[index]? = some close ↔
      ∃ bar, history.bars[index]? = some bar ∧ bar.2 = close := by
  rw [DailyHistory.closes, List.getElem?_map, Option.map_eq_some_iff]

/-- A backfill returns the closes of the same index. -/
theorem backfill_trace (primaryPair secondaryPair : String)
    (primaryCloses secondaryCloses : List Decimal)
    (result : Except BrokerError (List (Decimal × Decimal))) :
    Trace (backfillCorrelation primaryPair secondaryPair)
        [⟨.fetchHistoricalPrices primaryPair backfillDays, .ok primaryCloses⟩,
          ⟨.fetchHistoricalPrices secondaryPair backfillDays, .ok secondaryCloses⟩]
        (.done result) ↔
      result = .ok (primaryCloses.zip secondaryCloses) := by
  constructor
  · intro trace
    cases trace with
    | answered reply rest =>
      cases rest with
      | answered reply rest =>
        cases rest
        rfl
  · rintro rfl
    exact .answered _ (.answered _ (.done _))

theorem seedsByDay_iff : SeedsByDay primary secondary ↔ SameDays primary secondary := by
  rw [sameDays_iff]
  constructor
  · intro seeds index left right isLeft isRight
    have pair : (primary.closes.zip secondary.closes)[index]? = some (left.2, right.2) :=
      List.getElem?_zip_eq_some.mpr ⟨closes_getElem?.mpr ⟨left, isLeft, rfl⟩,
        closes_getElem?.mpr ⟨right, isRight, rfl⟩⟩
    have trace := (backfill_trace "" "" primary.closes secondary.closes _).mpr rfl
    exact (seeds "" "" _ trace index _ pair).agree isLeft isRight
  · intro agree primaryPair secondaryPair samples trace index sample found
    cases (backfill_trace _ _ _ _ _).mp trace
    obtain ⟨first, second⟩ := List.getElem?_zip_eq_some.mp found
    obtain ⟨left, isLeft, close⟩ := closes_getElem?.mp first
    obtain ⟨right, isRight, close'⟩ := closes_getElem?.mp second
    rw [← close, ← close']
    exact ofOneDay_of_agree isLeft isRight (agree index left right isLeft isRight)

theorem replayBars_of_ne {pairConfig : PairConfig} (different : pairConfig.primary ≠ pairConfig.secondary)
    (primaryCloses secondaryCloses : List Decimal) :
    replayBars pairConfig primaryCloses secondaryCloses =
      [(pairConfig.primary, primaryCloses), (pairConfig.secondary, secondaryCloses)] := by
  simp [replayBars, insertSeries, different]

section replay

variable {broker : ReplayBroker} {pairConfig : PairConfig}
  {primaryCloses secondaryCloses : List Decimal}

theorem currentPrice_primary (different : pairConfig.primary ≠ pairConfig.secondary)
    (serves : broker.bars = replayBars pairConfig primaryCloses secondaryCloses) :
    broker.currentPrice pairConfig.primary = primaryCloses[broker.currentIndex]? := by
  rw [ReplayBroker.currentPrice, serves, replayBars_of_ne different, List.lookup_cons_self]
  rfl

theorem currentPrice_secondary (different : pairConfig.primary ≠ pairConfig.secondary)
    (serves : broker.bars = replayBars pairConfig primaryCloses secondaryCloses) :
    broker.currentPrice pairConfig.secondary = secondaryCloses[broker.currentIndex]? := by
  have other : (pairConfig.secondary == pairConfig.primary) = false := by
    simpa using different.symm
  rw [ReplayBroker.currentPrice, serves, replayBars_of_ne different, List.lookup_cons, other,
    List.lookup_cons_self]
  rfl

theorem barCount_eq (different : pairConfig.primary ≠ pairConfig.secondary)
    (serves : broker.bars = replayBars pairConfig primaryCloses secondaryCloses) :
    broker.barCount = min primaryCloses.length secondaryCloses.length := by
  rw [ReplayBroker.barCount, serves, replayBars_of_ne different]
  rfl

end replay

theorem barsByDay_iff : BarsByDay primary secondary ↔ SameDays primary secondary := by
  rw [sameDays_iff]
  constructor
  · intro bars index left right isLeft isRight
    let pairConfig : PairConfig := ⟨"EURUSD", "GBPUSD"⟩
    have different : pairConfig.primary ≠ pairConfig.secondary := by decide
    let broker : ReplayBroker :=
      { ReplayBroker.new (replayBars pairConfig primary.closes secondary.closes)
          (.fromDecimal 0) with currentIndex := index }
    have within : broker.currentIndex < broker.barCount := by
      rw [barCount_eq different rfl, DailyHistory.closes, DailyHistory.closes, List.length_map,
        List.length_map]
      exact lt_min (List.getElem?_eq_some_iff.mp isLeft).1 (List.getElem?_eq_some_iff.mp isRight).1
    obtain ⟨_, _, _, _, oneDay⟩ := bars pairConfig broker different rfl within
    exact oneDay.agree isLeft isRight
  · intro agree pairConfig broker different serves within
    rw [barCount_eq different serves, lt_min_iff] at within
    obtain ⟨left, isLeft, close⟩ :=
      closes_getElem?.mp (List.getElem?_eq_getElem within.1)
    obtain ⟨right, isRight, close'⟩ :=
      closes_getElem?.mp (List.getElem?_eq_getElem within.2)
    refine ⟨left.2, right.2, ?_, ?_,
      ofOneDay_of_agree isLeft isRight (agree _ left right isLeft isRight)⟩
    · rw [currentPrice_primary different serves]
      exact closes_getElem?.mpr ⟨left, isLeft, rfl⟩
    · rw [currentPrice_secondary different serves]
      exact closes_getElem?.mpr ⟨right, isRight, rfl⟩

/-- Index for index, the closes of two histories are those of the same days exactly if
one history has the days that the other begins with. -/
theorem aligned_iff_sameDays (primary secondary : DailyHistory) :
    SeedsByDay primary secondary ∧ BarsByDay primary secondary ↔ SameDays primary secondary := by
  rw [seedsByDay_iff, barsByDay_iff, and_self]

/-- Histories that reach up to the same day are aligned only if no day is missing in one
of them alone. -/
theorem SameDays.eq_of_getLast? (same : SameDays primary secondary) {last : NaiveDate}
    (ends : primary.days.getLast? = some last) (ends' : secondary.days.getLast? = some last) :
    primary.days = secondary.days := by
  have complete {shorter longer : DailyHistory} (starts : shorter.days <+: longer.days)
      (ends : shorter.days.getLast? = some last) (ends' : longer.days.getLast? = some last) :
      shorter.days = longer.days := by
    obtain ⟨rest, continued⟩ := starts
    cases later : rest.getLast? with
    | none => rw [← continued, List.getLast?_eq_none_iff.mp later, List.append_nil]
    | some final =>
      have sorted : (shorter.days ++ rest).Pairwise (· < ·) := continued ▸ longer.oldestFirst
      rw [← continued, List.getLast?_append, later] at ends'
      cases ends'
      have before := (List.pairwise_append.mp sorted).2.2 last (List.mem_of_getLast? ends) last
        (List.mem_of_getLast? later)
      exact absurd before (lt_irrefl last)
  rcases same with starts | starts
  · exact complete starts ends ends'
  · exact (complete starts ends' ends).symm

/-- The primary was not traded on the third day, the secondary not on the second. -/
def holidayPrimary : DailyHistory := ⟨[(1, 110), (2, 111), (4, 112)], by decide⟩

def holidaySecondary : DailyHistory := ⟨[(1, 130), (3, 131), (4, 132)], by decide⟩

theorem holidays_not_aligned : ¬(SeedsByDay holidayPrimary holidaySecondary ∧
    BarsByDay holidayPrimary holidaySecondary) := by
  intro ⟨seeds, _⟩
  obtain ⟨day, first, second⟩ :=
    seeds "EURUSD" "USDJPY" _ ((backfill_trace _ _ _ _ _).mpr rfl) 1 (111, 131) rfl
  cases first
  cases second

end Oboobot.Daemon
