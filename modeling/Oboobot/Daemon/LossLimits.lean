import Oboobot.Daemon.Account
import Oboobot.Daemon.CycleContract

/-! Orders after a loss limit has been reached, over any number of invocations. -/

namespace Oboobot.Daemon

open Domain SessionTime Strategy Risk Broker Interaction

variable {platform : Platform} {divergence : DivergenceSource} {cli : Nat → Cli} {start : Account}
  {history : List AccountEntry}

/-- At some point of the current New York date, the day's profit and loss was at
or below the daily limit. -/
def DailyLimitReached (newYork : NewYork) (start : Account) (before : List AccountEntry)
    (limit : Percent) : Prop :=
  ∃ front ∈ before.inits,
    (toNy newYork (start.along front).time).dateNaive =
      (toNy newYork (start.along before).time).dateNaive ∧
    (start.along front).realizedToday newYork ≤
      -(Usd.fromPercentOf (start.along front).equity limit).asDecimal

/-- At some point of the current trading week, the week's profit and loss was at
or below the weekly limit. -/
def WeeklyLimitReached (newYork : NewYork) (start : Account) (before : List AccountEntry)
    (limit : Percent) : Prop :=
  ∃ front ∈ before.inits,
    (weekStartFor (toNy newYork (start.along front).time)).instant =
      (weekStartFor (toNy newYork (start.along before).time)).instant ∧
    (start.along front).realizedThisWeek newYork ≤
      -(Usd.fromPercentOf (start.along front).equity limit).asDecimal

def LimitReached (newYork : NewYork) (start : Account) (before : List AccountEntry)
    (config : RiskConfig) : Prop :=
  DailyLimitReached newYork start before config.dailyLossLimitPercent ∨
    WeeklyLimitReached newYork start before config.weeklyLossLimitPercent

/-- The invocation that sends an order has no limit reached. -/
def OrdersWithinLimits (platform : Platform) (start : Account) (before : List AccountEntry)
    (entry : AccountEntry) : Prop :=
  ∀ event ∈ eventOf entry, ∀ _request ∈ orderOf event, ∀ session ∈ actorOf entry,
    ∀ config ∈ (ledgerOf session before).config,
      ¬LimitReached platform.newYork start before (riskConfig platform.conversion config)

/-- A loss limit of nothing refuses the candidate, or one of the gates on the
open book does. -/
def RefusedAnyway (sizing : Sizing) : Prop :=
  sizing.context.equity.asDecimal * sizing.config.dailyLossLimitPercent.asRatio ≤ 0 ∨
  sizing.context.equity.asDecimal * sizing.config.weeklyLossLimitPercent.asRatio ≤ 0 ∨
  ¬BookGatesPass sizing.signal sizing.config sizing.context

/-- While a limit is reached, whatever the acting invocation has evaluated and
not yet answered is refused anyway. -/
def RefusesPastLimits (platform : Platform) (start : Account) (before : List AccountEntry)
    (entry : AccountEntry) : Prop :=
  ∀ session ∈ actorOf entry, ∀ config ∈ (ledgerOf session before).config,
    ∀ sizing ∈ (ledgerOf session before).sizing,
      LimitReached platform.newYork start before (riskConfig platform.conversion config) →
        RefusedAnyway sizing

instance (sizing : Sizing) : Decidable (RefusedAnyway sizing) :=
  inferInstanceAs (Decidable (_ ∨ _ ∨ _))

instance (newYork : NewYork) (start : Account) (before : List AccountEntry) (config : RiskConfig) :
    Decidable (LimitReached newYork start before config) :=
  inferInstanceAs (Decidable ((∃ front ∈ before.inits, _) ∨ ∃ front ∈ before.inits, _))

instance (platform : Platform) (start : Account) (before : List AccountEntry) (entry : AccountEntry) :
    Decidable (OrdersWithinLimits platform start before entry) :=
  inferInstanceAs (Decidable (∀ event ∈ eventOf entry, ∀ _request ∈ orderOf event, _))

instance (platform : Platform) (start : Account) (before : List AccountEntry) (entry : AccountEntry) :
    Decidable (RefusesPastLimits platform start before entry) :=
  inferInstanceAs (Decidable (∀ session ∈ actorOf entry, _))

/-- The loss gates are run on a profit and loss of zero, so they refuse only
where the limits amount to nothing. -/
theorem approved_iff_not_refusedAnyway {ledger : Ledger} {cli : Cli} {config : Config}
    {snapshot : BrokerSnapshot} {now : Instant} {state : PairCycleState} {sizing : Sizing}
    (sized : Sized platform cli ledger config snapshot now state sizing) :
    sizing.decision.approved = true ↔ ¬RefusedAnyway sizing := by
  obtain ⟨decisionId, evaluated⟩ := sized.decision
  obtain ⟨equity, _, computed⟩ := sized.context
  have today : sizing.context.realizedPnlToday.asDecimal = 0 := by
    rw [computed]
    rfl
  have thisWeek : sizing.context.realizedPnlThisWeek.asDecimal = 0 := by
    rw [computed]
    rfl
  have losses : LossGatesPass sizing.config sizing.context ↔
      0 < sizing.context.equity.asDecimal * sizing.config.dailyLossLimitPercent.asRatio ∧
      0 < sizing.context.equity.asDecimal * sizing.config.weeklyLossLimitPercent.asRatio := by
    constructor
    · intro pass
      exact ⟨neg_lt_zero.mp (today ▸ pass.daily), neg_lt_zero.mp (thisWeek ▸ pass.weekly)⟩
    · intro ⟨daily, weekly⟩
      exact ⟨today ▸ neg_lt_zero.mpr daily, thisWeek ▸ neg_lt_zero.mpr weekly⟩
  have refused : ¬RefusedAnyway sizing ↔ LossGatesPass sizing.config sizing.context ∧
      BookGatesPass sizing.signal sizing.config sizing.context := by
    rw [losses, RefusedAnyway, not_or, not_or, not_le, not_le, not_not, and_assoc]
  rw [refused]
  constructor
  · intro approved
    obtain ⟨pass, gates, _⟩ := evaluate_approved evaluated approved
    exact ⟨pass, gates⟩
  · intro passes
    rcases evaluate_cases platform.conversion sizing.signal sizing.config sizing.context decisionId with
      ⟨_, _, same⟩ | ⟨fails, _⟩
    · rw [Except.ok.inj (evaluated.symm.trans same)]
      rfl
    · exact absurd passes fails

/-- Where every candidate past a limit is refused anyway, no order is sent past it. -/
theorem orders_within_limits
    (joint : Joint (fun session => runRealCycle platform divergence (cli session)) history)
    (refuses : Always (RefusesPastLimits platform start) history) :
    Always (OrdersWithinLimits platform start) history := by
  intro before entry back same event found request sends session acts config configured reached
  cases entry with
  | outside happening => cases found
  | event owner own =>
    cases found
    cases acts
    subst same
    obtain ⟨reply, rfl⟩ := eq_of_orderOf sends
    obtain ⟨_, snapshot, now, state, sizing, orderId, sized, pending, approved, rfl⟩ :=
      joint.promised runRealCycle_meets
    have refused := refuses before _ back rfl session rfl config configured sizing pending reached
    exact (approved_iff_not_refusedAnyway sized).mp approved refused

/-- A position of the day before on a pair that is not traded here. -/
def dayOld (id : Uuid) : Position :=
  boughtPosition id "USDJPY" 150 1 (wednesdayMorning - Duration.days 1) none

/-- The day's limit is reached and the book is full when the secondary is swept. -/
def fullBook : List AccountEntry :=
  playTurns (fun _ => runRealCycle .winter secondarySwept ⟨false⟩) Host.answer 0
    [([.closed 9 (.fromDecimal (-600))], id)]
    { Host.fresh .default (quotedAt [("EURUSD", 1.10), ("GBPUSD", 1.20)]) with
      book := [dayOld 1, dayOld 2, dayOld 3, dayOld 4, dayOld 5]
      nextId := 10 }

theorem fullBook_orders_within_limits :
    Always (OrdersWithinLimits .winter openingAccount) fullBook :=
  orders_within_limits (joint_playTurns _ _ _ _) (by decide +kernel)

/-- Three hours after a loss of 600 dollars out of 10000, the next order is sent. -/
theorem reopened_not_within_limits :
    ¬∀ (platform : Platform) (divergence : DivergenceSource) (cli : Nat → Cli) (start : Account)
      (history : List AccountEntry),
      Joint (fun session => runRealCycle platform divergence (cli session)) history →
      Throughout start ClockTold history → Throughout start EquityTold history →
      Throughout start ClosedGone history →
      Always (OrdersWithinLimits platform start) history := by
  intro claimed
  have within := claimed .winter secondarySwept (fun _ => ⟨false⟩) openingAccount
    (reopened (-600) (Duration.hours 3)) (joint_playTurns _ _ _ _) (by decide +kernel)
    (by decide +kernel) (by decide +kernel)
  revert within
  decide +kernel

end Oboobot.Daemon
