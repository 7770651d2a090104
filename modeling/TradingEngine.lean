import TradingEngine.Backtest.AllocatorAgreement
import TradingEngine.Backtest.DailyLossLimit
import TradingEngine.Backtest.MarkedGains
import TradingEngine.Backtest.PositionCap
import TradingEngine.Backtest.RealizedAgreement
import TradingEngine.Backtest.RiskTransparency
import TradingEngine.Backtest.RunAccounts
import TradingEngine.Backtest.Snapshots
import TradingEngine.Backtest.StrategyCoherence
import TradingEngine.Backtest.TenYearBooks
import TradingEngine.Broker.OrderRoundTrip
import TradingEngine.Data.DownloadMerge
import TradingEngine.Data.ValidatorSoundness
import TradingEngine.Execution.OrderRuns
import TradingEngine.LiveData.LateTicks
import TradingEngine.LiveData.MalformedTicks
import TradingEngine.LiveData.TradedVolume
import TradingEngine.LiveExecution.ApprovalExpiry
import TradingEngine.LiveExecution.ApprovalUse
import TradingEngine.LiveExecution.DryRunFootprint
import TradingEngine.LiveExecution.PilotScript
import TradingEngine.Master.Concentration
import TradingEngine.Master.LedgerFile
import TradingEngine.Master.NoLostExit
import TradingEngine.Master.Rerun
import TradingEngine.Master.RunBooks
import TradingEngine.Master.Solvency
import TradingEngine.Master.SurvivingRival
import TradingEngine.Paper.DailyTradeLimit
import TradingEngine.Paper.DriverAgreement
import TradingEngine.Paper.FillPrices
import TradingEngine.Paper.LimitPrices
import TradingEngine.Paper.TickSession
import TradingEngine.Reconciliation.Convergence
import TradingEngine.Reconciliation.Coverage
import TradingEngine.Reconciliation.Soundness
import TradingEngine.Scripts.AnalysisBooks
import TradingEngine.Scripts.BBSqueezeSweep
import TradingEngine.Scripts.SlidingWindow
import TradingEngine.Scripts.TradeLogs
import TradingEngine.Scripts.TradeReconstruction
import TradingEngine.Strategies.BlackSwanPairs
import TradingEngine.Strategies.EntryDiscipline
import TradingEngine.Strategies.GapDecisions
import TradingEngine.Strategies.LongOnlySwanAgreement
import TradingEngine.Strategies.MAPullbackAgreement
import TradingEngine.Strategies.MomentumDecisions
import TradingEngine.Strategies.OpeningRangeDecisions
import TradingEngine.Strategies.Rsi2Decisions
import TradingEngine.Strategies.SquareOff
import TradingEngine.Strategies.SupertrendAgreement
import TradingEngine.Strategies.SymbolIndependence
import TradingEngine.Strategies.TrailingStop
import TradingEngine.Strategies.VwapDecisions
import TradingEngine.Validation.GateMonotonicity
