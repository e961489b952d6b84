import PoolRouting.Address.Bech32
import PoolRouting.Amount
import PoolRouting.Binary64
import PoolRouting.Binary64.Shortest
import PoolRouting.Cache
import PoolRouting.Cache.Flight
import PoolRouting.Candidates
import PoolRouting.CommandLine
import PoolRouting.CommandLine.Arguments
import PoolRouting.CommandLine.Directory
import PoolRouting.Config
import PoolRouting.Decimal
import PoolRouting.Decimal.Plain
import PoolRouting.Decimal.Scientific
import PoolRouting.Decimal.Text
import PoolRouting.Document.Config
import PoolRouting.Document.Market
import PoolRouting.Document.Swap
import PoolRouting.Document.Transaction
import PoolRouting.Failure
import PoolRouting.Hop
import PoolRouting.Json
import PoolRouting.Json.Printer
import PoolRouting.Json.Reader
import PoolRouting.Json.Record
import PoolRouting.Json.Token
import PoolRouting.Ledger
import PoolRouting.Liquidity
import PoolRouting.Liquidity.Search
import PoolRouting.Pool
import PoolRouting.PriceGuard
import PoolRouting.PriceImpact
import PoolRouting.Quote
import PoolRouting.Route
import PoolRouting.Session
import PoolRouting.Simulation
import PoolRouting.Slippage
import PoolRouting.Swap
import PoolRouting.Text.Blank
import PoolRouting.Text.Hex
import PoolRouting.Text.Split
import PoolRouting.Token
import PoolRouting.Transaction
import PoolRouting.Transaction.CallData
import PoolRouting.Main
import PoolRouting.Proofs.Outcome
import PoolRouting.Proofs.RouteShape
import PoolRouting.Proofs.LiquidityGraph
import PoolRouting.Proofs.RouteSearch
import PoolRouting.Proofs.CandidateOrder
import PoolRouting.Proofs.HopTrade
import PoolRouting.Proofs.RouteSimulation
import PoolRouting.Proofs.QuoteChoice
import PoolRouting.Proofs.QuoteOptimality
import PoolRouting.Proofs.QuoteDuality
import PoolRouting.Proofs.PlanExecution
import PoolRouting.Proofs.CallDecoding
import PoolRouting.Proofs.TransactionDecoding
import PoolRouting.Proofs.CacheSlots
import PoolRouting.Proofs.SessionLookup
import PoolRouting.Proofs.QuoteBuilding
import PoolRouting.Proofs.FlightEffects
import PoolRouting.Proofs.FlightInvariants
import PoolRouting.Proofs.Coalescing
import PoolRouting.Proofs.PoolResemblance
import PoolRouting.Proofs.MarketMatching
import PoolRouting.Proofs.PoolFees
import PoolRouting.Proofs.PoolMirrors
import PoolRouting.Proofs.UsablePools
import PoolRouting.Proofs.QuoteRepeats
import PoolRouting.Proofs.SessionTransparency
import PoolRouting.Proofs.LowerFees
import PoolRouting.Proofs.QuoteRefusal
import PoolRouting.Proofs.NativeCurrency
import PoolRouting.Proofs.QuoteScale
import PoolRouting.Proofs.LeastInput
import PoolRouting.Proofs.CacheReplies
import PoolRouting.Proofs.CacheFailures
import PoolRouting.Proofs.NumeralReading
import PoolRouting.Proofs.EdgeOrder
import PoolRouting.Proofs.RouteEnumeration
import PoolRouting.Proofs.DocumentReading
import PoolRouting.Proofs.Handover
import PoolRouting.Proofs.DecimalValue
import PoolRouting.Proofs.ConstantProduct
import PoolRouting.Proofs.EdgeTables
import PoolRouting.Proofs.PoolIntegrity
import PoolRouting.Proofs.SlippageBounds
import PoolRouting.Proofs.CandidateChoice
import PoolRouting.Proofs.PriceDeviation
import PoolRouting.Proofs.CrashFreedom
import PoolRouting.Proofs.WellFormedQuotes
import PoolRouting.Proofs.DenominatedText
import PoolRouting.Proofs.RouteExecution
