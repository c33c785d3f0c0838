import RuleArena.Sandbox.Books
import RuleArena.Oracle.Attribution
import RuleArena.Oracle.Terminal
import RuleArena.Oracle.Total
import RuleArena.Sandbox.Idempotency
import RuleArena.Sandbox.EventLog
import RuleArena.Sandbox.Shares
import RuleArena.Sandbox.Counters
import RuleArena.Sandbox.Reservations
import RuleArena.Sandbox.Lifecycle
import RuleArena.Sandbox.Reads
import RuleArena.Sandbox.Reset
import RuleArena.Sandbox.Failures
import RuleArena.Simulator.Conservation
import RuleArena.Simulator.Totality
import RuleArena.Simulator.Reports
import RuleArena.Runtime.Stream
import RuleArena.Runtime.Postgres
import RuleArena.Runtime.Dispatch
import RuleArena.Runtime.Accounting
import RuleArena.Runtime.Checkpoints
import RuleArena.Runtime.Minimization
import RuleArena.Refund.FailClosed
import RuleArena.Refund.Blindness
import RuleArena.Evaluation.Refunds
import RuleArena.Runtime.Cancellation
import RuleArena.Evaluation.Benchmark
import RuleArena.Refund.Gate
import RuleArena.Runtime.Compiler
import RuleArena.Runtime.Twins
import RuleArena.Refund.PostCheck
import RuleArena.Refund.Numerals
import RuleArena.Runtime.Resume
import RuleArena.Runtime.Proposals
import RuleArena.Runtime.RateLimit
import RuleArena.Evaluation.Loss
import RuleArena.Simulator.Search
import RuleArena.Runtime.SpecPath
import RuleArena.Runtime.Endings
import RuleArena.Runtime.Replay
import RuleArena.Runtime.Split
import RuleArena.Runtime.Returns
import RuleArena.Runtime.Paths
import RuleArena.Runtime.Evidence
import RuleArena.Runtime.Acquittal
import RuleArena.Runtime.Trials
import RuleArena.Runtime.Reproduction
import RuleArena.Foundation.Served
import RuleArena.Sandbox.App
import RuleArena.Refund.Deployment
import RuleArena.Refund.Budget
import RuleArena.Refund.Once
import RuleArena.Refund.Transparency
