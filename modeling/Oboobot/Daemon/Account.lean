import Oboobot.Daemon.Host
import Oboobot.Daemon.Ledger
import Mathlib.Data.List.Induction

/-! The clock and the account that any number of invocations share. Time passes,
the equity moves and positions close outside every invocation. -/

namespace Oboobot.Daemon

open Domain SessionTime Strategy Risk Broker Interaction

inductive Happening where
  | clock (time : Instant)
  | equity (amount : Usd)
  /-- The broker has closed a position, at this profit or loss. -/
  | closed (id : Uuid) (pnl : Usd)

abbrev AccountEntry := Entry Call Reply Happening

/-- An order as it was sent, with the position that the broker's answer names. -/
structure SentOrder where
  time : Instant
  pair : String
  positionId : Option Uuid

structure Closing where
  time : Instant
  id : Uuid
  pnl : Usd

structure Account where
  time : Instant
  equity : Usd
  closings : List Closing
  sent : List SentOrder

/-- The order that an event sends at `time`. -/
def sentOf (time : Instant) : CycleEvent → Option SentOrder
  | ⟨.submitOrder request, .ok order⟩ =>
    some { time, pair := request.pair, positionId := order.positionId }
  | ⟨.submitOrder request, .error _⟩ => some { time, pair := request.pair, positionId := none }
  | _ => none

namespace Account

def after (account : Account) : AccountEntry → Account
  | .outside (.clock time) => { account with time }
  | .outside (.equity amount) => { account with equity := amount }
  | .outside (.closed id pnl) => { account with
      closings := account.closings ++ [{ time := account.time, id, pnl }] }
  | .event _ event => { account with sent := account.sent ++ (sentOf account.time event).toList }

/-- The account after a history that began with it. -/
def along (start : Account) (history : List AccountEntry) : Account := history.foldl after start

@[simp] theorem along_append_singleton (start : Account) (before : List AccountEntry)
    (entry : AccountEntry) : start.along (before ++ [entry]) = (start.along before).after entry := by
  simp [along]

/-- The profit and loss of the positions closed on the current New York date. -/
def realizedToday (newYork : NewYork) (account : Account) : Decimal :=
  ((account.closings.filter fun closing =>
    (toNy newYork closing.time).dateNaive = (toNy newYork account.time).dateNaive).map
      fun closing => closing.pnl.asDecimal).sum

/-- The profit and loss of the positions closed since the trading week began. -/
def realizedThisWeek (newYork : NewYork) (account : Account) : Decimal :=
  ((account.closings.filter fun closing =>
    (weekStartFor (toNy newYork account.time)).instant ≤ closing.time).map
      fun closing => closing.pnl.asDecimal).sum

end Account

/-- The open positions, the clock and so on, as one invocation knows them. -/
def ledgerOf (session : Nat) (history : List AccountEntry) : Ledger :=
  .ofEvents (sessionEvents session history)

/-- A property of every entry of a history, given the account before it. -/
def Throughout (start : Account) (property : Account → AccountEntry → Prop)
    (history : List AccountEntry) : Prop :=
  Always (fun before entry => property (start.along before) entry) history

instance (start : Account) (property : Account → AccountEntry → Prop)
    [∀ account entry, Decidable (property account entry)] (history : List AccountEntry) :
    Decidable (Throughout start property history) :=
  inferInstanceAs (Decidable (Always _ history))

def clockOf : AccountEntry → Option Instant
  | .outside (.clock time) => some time
  | _ => none

def eventOf : AccountEntry → Option CycleEvent
  | .event _ event => some event
  | .outside _ => none

/-- The invocation whose event an entry is. -/
def actorOf : AccountEntry → Option Nat
  | .event session _ => some session
  | .outside _ => none

def nowOf : CycleEvent → Option Instant
  | ⟨.clockNow, now⟩ => some now
  | _ => none

def equityOf : CycleEvent → Option Usd
  | ⟨.getAccountEquity, .ok equity⟩ => some equity
  | _ => none

/-- The clock only moves forward, and every invocation reads it as it stands. -/
def ClockTold (account : Account) (entry : AccountEntry) : Prop :=
  (∀ time ∈ clockOf entry, account.time ≤ time) ∧
    ∀ event ∈ eventOf entry, ∀ now ∈ nowOf event, now = account.time

/-- The broker reports the equity as it stands. -/
def EquityTold (account : Account) (entry : AccountEntry) : Prop :=
  ∀ event ∈ eventOf entry, ∀ equity ∈ equityOf event, equity = account.equity

/-- The broker no longer lists what has been closed. -/
def ClosedGone (account : Account) (entry : AccountEntry) : Prop :=
  ∀ event ∈ eventOf entry, ∀ listing ∈ listingOf event, ∀ position ∈ listing,
    ∀ closing ∈ account.closings, closing.id ≠ position.positionId

/-- The broker reports as entry time the moment of the fill, which lies between
the order and the report. -/
def EntryTimesTold (account : Account) (entry : AccountEntry) : Prop :=
  ∀ event ∈ eventOf entry, ∀ listing ∈ listingOf event, ∀ position ∈ listing,
    ∀ sent ∈ account.sent, sent.positionId = some position.positionId →
      position.pair = sent.pair ∧ sent.time ≤ position.entryTime ∧
        position.entryTime ≤ account.time

section decidable
variable (account : Account) (entry : AccountEntry)

instance : Decidable (ClockTold account entry) := by unfold ClockTold; infer_instance

instance : Decidable (EquityTold account entry) :=
  inferInstanceAs (Decidable (∀ event ∈ eventOf entry, ∀ equity ∈ equityOf event, _))

instance : Decidable (ClosedGone account entry) :=
  inferInstanceAs (Decidable (∀ event ∈ eventOf entry, ∀ listing ∈ listingOf event, _))

instance : Decidable (EntryTimesTold account entry) :=
  inferInstanceAs (Decidable (∀ event ∈ eventOf entry, ∀ listing ∈ listingOf event, _))

end decidable

theorem ledgerOf_own (session : Nat) (before : List AccountEntry) (event : CycleEvent) :
    ledgerOf session (before ++ [.event session event]) = (ledgerOf session before).after event := by
  simp [ledgerOf, Ledger.ofEvents_append_singleton]

theorem time_after_event (account : Account) (session : Nat) (event : CycleEvent) :
    (account.after (.event session event)).time = account.time := rfl

/-- An invocation's reading of the clock is never ahead of it. -/
theorem now_le_time {start : Account} {history : List AccountEntry} {session : Nat} {now : Instant}
    (clock : Throughout start ClockTold history)
    (read : (ledgerOf session history).now = some now) : now ≤ (start.along history).time := by
  induction history using List.reverseRecOn with
  | nil => cases read
  | append_singleton before entry ih =>
    have earlier := ih clock.front
    obtain ⟨forward, told⟩ := clock.last
    rw [Account.along_append_singleton]
    cases entry with
    | outside happening =>
      have kept : now ≤ (start.along before).time := earlier (by simpa [ledgerOf] using read)
      cases happening with
      | clock time => exact kept.trans (forward time rfl)
      | equity amount => exact kept
      | closed id pnl => exact kept
    | event owner event =>
      rw [time_after_event]
      by_cases own : owner = session
      · subst own
        rw [ledgerOf_own] at read
        rcases (ledgerOf owner before).after_now event with ⟨latest, rfl⟩ | same
        · cases read
          exact le_of_eq (told _ rfl _ rfl)
        · exact earlier (same ▸ read)
      · apply earlier
        simpa [ledgerOf, own] using read

/-- The start of the runs below: nothing sent, nothing closed. -/
def openingAccount : Account where
  time := wednesdayMorning
  equity := .fromDecimal 10000
  closings := []
  sent := []

/-- Two invocations that both find the secondary swept. In between, the broker
closes the position that the first one has opened. -/
def reopened (pnl : Decimal) (later : Duration) : List AccountEntry :=
  playTurns (fun _ => runRealCycle .winter secondarySwept ⟨false⟩) Host.answer 0
    [([], id),
      ([.closed 5 (.fromDecimal pnl), .equity (.fromDecimal (10000 + pnl)),
        .clock (wednesdayMorning + later)], fun host => { host with
          book := []
          equity := .fromDecimal (10000 + pnl)
          clock := wednesdayMorning + later })]
    (Host.fresh .default (quotedAt [("EURUSD", 1.10), ("GBPUSD", 1.20)]))

end Oboobot.Daemon
