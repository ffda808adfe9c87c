import Oboobot.Interaction.Program
import Oboobot.Interaction.Runs
import Oboobot.Domain.Newtypes
import Oboobot.Domain.Types
import Oboobot.SessionTime.Calendar
import Oboobot.SessionTime.MacroCycle
import Oboobot.SessionTime.TrueOpen
import Oboobot.Strategy.Smt
import Oboobot.Strategy.Buffers
import Oboobot.Strategy.Correlation
import Oboobot.Risk.Sizing
import Oboobot.Broker.Adapter
import Oboobot.Daemon.Recovery
import Oboobot.Daemon.Operations
import Oboobot.Daemon.Monitor
import Oboobot.Daemon.Health
import Oboobot.Daemon.Config
import Oboobot.Daemon.Interface
import Oboobot.Daemon.Cycle
import Oboobot.Daemon.Ledger
import Oboobot.Daemon.CycleContract
import Oboobot.Daemon.Host
import Oboobot.Daemon.MarketState
import Oboobot.Broker.Deriv
import Oboobot.Daemon.RiskDollars
import Oboobot.Daemon.OrderGates
import Oboobot.Daemon.OpenPositionLimit
import Oboobot.Daemon.PositionHistory
import Oboobot.Daemon.TrueOpenFiles
import Oboobot.Daemon.Account
import Oboobot.Daemon.OrderSpacing
import Oboobot.Daemon.LossLimits
import Oboobot.Persistence.Cursor
import Oboobot.Persistence.TornAppend
import Oboobot.SessionTime.NyClock
import Oboobot.SessionTime.Schedule
import Oboobot.Strategy.BufferHistory
import Oboobot.Daemon.OrderLevels
import Oboobot.Daemon.EventBus
import Oboobot.Broker.DerivClient
import Oboobot.Broker.WireOrders
import Oboobot.Daemon.ExitSweep
import Oboobot.Daemon.Journal
import Oboobot.Daemon.JournalContract
import Oboobot.Daemon.EntryRecords
import Oboobot.Daemon.StatusReports
import Oboobot.Daemon.Mismatches
import Oboobot.Daemon.SimulatedDay
import Oboobot.Daemon.Replay
import Oboobot.Daemon.ReplayReports
import Oboobot.Daemon.Reconciliation
import Oboobot.Domain.FillLegs
import Oboobot.Daemon.OpenedPositions
import Oboobot.Daemon.Contradictions
import Oboobot.Daemon.ArrivedSnapshot
import Oboobot.Daemon.WatchedPositions
import Oboobot.Daemon.MissingQuotes
import Oboobot.Persistence.Snapshot
import Oboobot.Persistence.InterruptedWrites
import Oboobot.SessionTime.CycleWindows
import Oboobot.SessionTime.NextCycle
import Oboobot.Daemon.Scheduler
import Oboobot.Daemon.EntryWindows
import Oboobot.SessionTime.WeekOpens
import Oboobot.SessionTime.LevelBoundaries
import Oboobot.Daemon.LevelHistory
import Oboobot.Daemon.HolidayGate
import Oboobot.Daemon.ReplayClock
import Oboobot.Daemon.ActiveFailures
import Oboobot.Persistence.CursorOffsets
import Oboobot.Daemon.ReplayFile
import Oboobot.Daemon.ReplayBook
import Oboobot.Daemon.TornReplayState
import Oboobot.Strategy.RegimeBaseline
import Oboobot.Daemon.WindowFiles
import Oboobot.Daemon.SpreadUnderTest
import Oboobot.Daemon.StateFileNames
import Oboobot.Daemon.ConfigFloats
import Oboobot.Daemon.SameDays
import Oboobot.Broker.DerivPositions
import Oboobot.Broker.ListedPositions
import Oboobot.Domain.EntryPrice
import Oboobot.Strategy.CoefficientRange
import Oboobot.SessionTime.NextOccurrence
import Oboobot.SessionTime.CivilDates
import Oboobot.SessionTime.Holidays
import Oboobot.Daemon.OverlappingRuns
import Oboobot.Daemon.PhaseCalls
import Oboobot.Daemon.TradeRecords
import Oboobot.Daemon.Dormant
import Oboobot.Daemon.ReplayTrades
import Oboobot.Daemon.SteadySpreads
import Oboobot.Daemon.IdleReplay
import Oboobot.Broker.DerivMarket
import Oboobot.Daemon.WireCycle
import Oboobot.Daemon.WireTrades
import Oboobot.Daemon.CursorOutage
import Oboobot.Broker.Mock
import Oboobot.Daemon.Demo
import Oboobot.Daemon.DemoRestart
import Oboobot.Daemon.ScaledRuns
import Oboobot.Daemon.PairIndependence
import Oboobot.Daemon.DemoAdvice
import Oboobot.Daemon.RangeHistory
import Oboobot.Daemon.OverlappingRanges
import Oboobot.Daemon.ReplayForesight
