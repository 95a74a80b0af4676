import Ai4Binance.Lib.SortedMap
import Ai4Binance.Lib.Text
import Ai4Binance.Lib.Decimal
import Ai4Binance.Events.DomainEvent
import Ai4Binance.Exchange.OrderBook
import Ai4Binance.Exchange.OrderBookAtomicity
import Ai4Binance.Exchange.OrderBookSync
import Ai4Binance.Execution.LifecycleRuns
import Ai4Binance.Execution.OrderCommand
import Ai4Binance.Execution.PlaceEvents
import Ai4Binance.Execution.PlaceReplay
import Ai4Binance.Data.Archive
import Ai4Binance.Data.ArchiveAtomicity
import Ai4Binance.Execution.Authorization
import Ai4Binance.Execution.GatedPlace
import Ai4Binance.Execution.SingleUse
import Ai4Binance.Lib.Quantize
import Ai4Binance.Virtual.Evaluate
import Ai4Binance.Virtual.FuturesPosition
import Ai4Binance.Virtual.FuturesStops
import Ai4Binance.Virtual.PaperLifecycle
import Ai4Binance.Virtual.ProcessPosition
import Ai4Binance.Virtual.StaticLiquidation
import Ai4Binance.Virtual.SpotFill
import Ai4Binance.Virtual.SpotLaw
import Ai4Binance.Virtual.SpotReconciliation
import Ai4Binance.Virtual.WalletJournal
import Ai4Binance.Virtual.WalletReading
import Ai4Binance.Virtual.WalletWrites
import Ai4Binance.Virtual.WalletPositions
import Ai4Binance.Virtual.WalletSoundness
import Ai4Binance.Virtual.WalletCandles
import Ai4Binance.Virtual.FuturesConservation
import Ai4Binance.Virtual.FuturesRounding
import Ai4Binance.Virtual.FuturesProgress
import Ai4Binance.Virtual.Progress
import Ai4Binance.Backtesting.FuturesAgreement
import Ai4Binance.Backtesting.SingleTarget
import Ai4Binance.Events.Delivery
import Ai4Binance.Events.DeliveryOrder
import Ai4Binance.Lib.JsonText
import Ai4Binance.Execution.OrderState
import Ai4Binance.Execution.PendingCancel
import Ai4Binance.Execution.FillAccounting
import Ai4Binance.Execution.FillPrice
import Ai4Binance.Execution.LifecycleLiveness
import Ai4Binance.Execution.Revocation
import Ai4Binance.Lib.Datetime
import Ai4Binance.Execution.Enqueue
import Ai4Binance.Execution.Recovery
import Ai4Binance.Exchange.RateLimit
import Ai4Binance.Exchange.RateTermination
import Ai4Binance.Exchange.StreamState
import Ai4Binance.Data.ArchiveManifest
import Ai4Binance.Data.ArchiveTail
import Ai4Binance.Lib.Sequence
import Ai4Binance.Lib.Pages
import Ai4Binance.Lib.Combinations
import Ai4Binance.Lib.Loop
import Ai4Binance.Lib.Tariff
import Ai4Binance.Virtual.Liquidation
import Ai4Binance.Virtual.Leverage
import Ai4Binance.Backtesting.SpotRun
import Ai4Binance.Backtesting.StopFirst
import Ai4Binance.Backtesting.SpotNoLookAhead
import Ai4Binance.Backtesting.SpotConservation
import Ai4Binance.Backtesting.SpotCounterfactual
import Ai4Binance.Backtesting.ReplayDataset
import Ai4Binance.Backtesting.FuturesTrade
import Ai4Binance.Backtesting.FuturesRun
import Ai4Binance.Backtesting.FuturesRecords
import Ai4Binance.Backtesting.FuturesCounterfactual
import Ai4Binance.Portfolio.InventoryRotation
import Ai4Binance.Portfolio.RotationRuns
import Ai4Binance.Portfolio.RotationClosing
import Ai4Binance.Portfolio.Rebalancing
import Ai4Binance.Portfolio.CostBasis
import Ai4Binance.Validation.Cpcv
import Ai4Binance.Validation.CpcvEmbargo
import Ai4Binance.Validation.Lookahead
import Ai4Binance.Accounting.Reconciliation
import Ai4Binance.Data.RetryBudget
import Ai4Binance.Data.MarketDepth
import Ai4Binance.Virtual.PaperConservation
import Ai4Binance.Lib.Isoformat
import Ai4Binance.Governance.CapabilityStore
import Ai4Binance.Governance.SingleUseLeases
import Ai4Binance.Data.ArchiveSeries
import Ai4Binance.Data.ArchiveConflicts
import Ai4Binance.Data.ArchiveInvariant
import Ai4Binance.Data.ArchiveRepresentation
import Ai4Binance.Backtesting.SpotAgreement
import Ai4Binance.Backtesting.SignalAccounting
import Ai4Binance.Ops.InstanceLease
import Ai4Binance.Ops.Supervisor
import Ai4Binance.Exchange.KlineStream
import Ai4Binance.Virtual.LiquidationRoots
import Ai4Binance.Backtesting.TradeLife
import Ai4Binance.Backtesting.GridLaw
import Ai4Binance.Backtesting.HoldingLimit
import Ai4Binance.Backtesting.ProtectiveStop
import Ai4Binance.Data.DepthReplay
import Ai4Binance.Lib.Tranche
import Ai4Binance.Backtesting.QueueFill
import Ai4Binance.Lib.ExactSums
import Ai4Binance.Portfolio.ExposureChecks
import Ai4Binance.Ops.SupervisorBackoff
import Ai4Binance.Lib.RoundMono
import Ai4Binance.Lib.BestPerKey
import Ai4Binance.Lib.LowerCase
import Ai4Binance.Events.TriggerEngine
import Ai4Binance.Lib.Encoding
import Ai4Binance.Lib.Json
import Ai4Binance.Lib.EpochTime
import Ai4Binance.Exchange.KlineParser
import Ai4Binance.Exchange.KlineIngest
import Ai4Binance.Governance.ToolLoopGuard
import Ai4Binance.Lib.PosixPath
import Ai4Binance.Ops.JobAdmission
import Ai4Binance.Lib.While
import Ai4Binance.Storage.TailReader
import Ai4Binance.Data.CandleHealth
import Ai4Binance.Data.CandleHealthAgreement
import Ai4Binance.Data.VolumeSums
import Ai4Binance.Lib.Dict
import Ai4Binance.Storage.Redaction
import Ai4Binance.Lib.JsonPrefix
import Ai4Binance.Lib.JsonWrite
import Ai4Binance.Lib.JsonEq
import Ai4Binance.Lib.JsonLoaded
import Ai4Binance.Lib.Utf8
import Ai4Binance.Lib.HashChain
import Ai4Binance.Storage.BoundedTail
import Ai4Binance.Storage.AuditJournal
import Ai4Binance.Storage.AuditChain
import Ai4Binance.Storage.AuditRuns
import Ai4Binance.Storage.AuditCrash
import Ai4Binance.Storage.AuditTamper
import Ai4Binance.Storage.AuditReplays
import Ai4Binance.Governance.AuditCheckpoint
