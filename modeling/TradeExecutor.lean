import TradeExecutor.State.Identifier
import TradeExecutor.State.Exec
import TradeExecutor.State.Trade
import TradeExecutor.State.Loan
import TradeExecutor.State.Keyed
import TradeExecutor.State.Portfolio
import TradeExecutor.State.State
import TradeExecutor.Enzyme.Vault
import TradeExecutor.Enzyme.Ledger
import TradeExecutor.Enzyme.Treasury
import TradeExecutor.Enzyme.Redemption
import TradeExecutor.Enzyme.Sync
import TradeExecutor.Enzyme.Scan
import TradeExecutor.Strategy.Interest
import TradeExecutor.Strategy.Weights
import TradeExecutor.Strategy.Accrual
import TradeExecutor.Strategy.InterestLedger
import TradeExecutor.Strategy.Leverage
import TradeExecutor.State.Repair
import TradeExecutor.State.RepairRun
import TradeExecutor.Crossover.Detect
import TradeExecutor.Crossover.Scan
import TradeExecutor.Crossover.Decision
import TradeExecutor.Crossover.Order
import TradeExecutor.Strategy.Universe
import TradeExecutor.Ethereum.Broadcast
import TradeExecutor.Ethereum.Approval
import TradeExecutor.Strategy.Lending
