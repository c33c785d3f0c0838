import RuleArena.Oracle.Evaluator

/-!
# The workflow of a run

What the runtime keeps of an attack run: the run with its status, one strategy
run for each strategy with its checkpoint, and the log of events. A status
changes along the allowed transitions only, and none leads out of a run that is
completed or cancelled.

Costs and times are exact numbers here.
-/

namespace RuleArena

inductive AttackStatus
  | draft
  | needsConfirmation
  | ready
  | searching
  | replaying
  | recovering
  | cancelRequested
  | cancelled
  | failed
  | completed
  deriving DecidableEq, Repr

namespace AttackStatus

def value : AttackStatus → String
  | draft => "DRAFT"
  | needsConfirmation => "NEEDS_CONFIRMATION"
  | ready => "READY"
  | searching => "SEARCHING"
  | replaying => "REPLAYING"
  | recovering => "RECOVERING"
  | cancelRequested => "CANCEL_REQUESTED"
  | cancelled => "CANCELLED"
  | failed => "FAILED"
  | completed => "COMPLETED"

theorem value_injective : Function.Injective value := by
  intro a b h
  cases a <;> cases b <;> first | rfl | exact absurd h (by decide)

/-- `_ALLOWED_TRANSITIONS` -/
def allowedTransitions : AttackStatus → List AttackStatus
  | draft => [needsConfirmation, ready]
  | needsConfirmation => [ready]
  | ready => [searching, cancelRequested, failed]
  | searching => [replaying, completed, recovering, cancelRequested, failed]
  | replaying => [searching, completed, recovering, cancelRequested, failed]
  | recovering => [searching, replaying, cancelRequested, failed]
  | cancelRequested => [cancelled]
  | cancelled => []
  | failed => [recovering]
  | completed => []

/-- The statuses that come with an outcome. -/
def terminal : AttackStatus → Bool
  | completed | cancelled | failed => true
  | _ => false

end AttackStatus

inductive AttackOutcome
  | confirmedViolation
  | unconfirmedCandidate
  | noViolationWithinBudget
  | ambiguousPolicy
  | unsupportedRule
  | infraFailed
  | cancelled
  deriving DecidableEq, Repr

def AttackOutcome.value : AttackOutcome → String
  | confirmedViolation => "CONFIRMED_VIOLATION"
  | unconfirmedCandidate => "UNCONFIRMED_CANDIDATE"
  | noViolationWithinBudget => "NO_VIOLATION_WITHIN_BUDGET"
  | ambiguousPolicy => "AMBIGUOUS_POLICY"
  | unsupportedRule => "UNSUPPORTED_RULE"
  | infraFailed => "INFRA_FAILED"
  | cancelled => "CANCELLED"

/-- The strategies, in the order a run takes them. -/
inductive StrategyType
  | valueFlow
  | lifecycle
  | boundary
  deriving DecidableEq, Repr

namespace StrategyType

def value : StrategyType → String
  | valueFlow => "VALUE_FLOW"
  | lifecycle => "LIFECYCLE"
  | boundary => "BOUNDARY"

/-- `StrategyType` as it is iterated. -/
def all : List StrategyType := [valueFlow, lifecycle, boundary]

end StrategyType

inductive StrategyStatus
  | pending
  | searching
  | stopped
  | failed
  | completed
  deriving DecidableEq, Repr

/-- Why a strategy stopped searching. -/
inductive StrategyTerminalReason
  | candidateFound
  | budgetTime
  | budgetSteps
  | budgetTokensOrCost
  | stopNoCandidate
  | illegalRetryExhausted
  | noLegalAction
  | unparsableOutput
  | cancelled
  deriving DecidableEq, Repr

def StrategyTerminalReason.value : StrategyTerminalReason → String
  | candidateFound => "CANDIDATE_FOUND"
  | budgetTime => "BUDGET_TIME"
  | budgetSteps => "BUDGET_STEPS"
  | budgetTokensOrCost => "BUDGET_TOKENS_OR_COST"
  | stopNoCandidate => "STOP_NO_CANDIDATE"
  | illegalRetryExhausted => "ILLEGAL_RETRY_EXHAUSTED"
  | noLegalAction => "NO_LEGAL_ACTION"
  | unparsableOutput => "UNPARSABLE_OUTPUT"
  | cancelled => "CANCELLED"

/-! ## Budgets -/

structure Budget where
  maxSteps : Nat
  maxTokens : Nat
  maxCost : ℚ≥0
  maxTimeSeconds : ℚ≥0
  steps_pos : 0 < maxSteps
  time_pos : 0 < maxTimeSeconds
  deriving DecidableEq

structure BudgetUsage where
  steps : Nat := 0
  tokens : Nat := 0
  cost : ℚ≥0 := 0
  elapsedSeconds : ℚ≥0 := 0
  deriving DecidableEq

/-- `within` -/
def BudgetUsage.Within (usage : BudgetUsage) (budget : Budget) : Prop :=
  usage.steps ≤ budget.maxSteps ∧ usage.tokens ≤ budget.maxTokens ∧ usage.cost ≤ budget.maxCost ∧
    usage.elapsedSeconds ≤ budget.maxTimeSeconds

instance (usage : BudgetUsage) (budget : Budget) : Decidable (usage.Within budget) :=
  inferInstanceAs (Decidable (_ ∧ _))

/-! ## Records -/

structure AttackRun where
  runId : String
  jobKey : String
  ruleVersionId : String
  scenarioVersionId : String
  sandboxVersion : String
  defectAxes : List String := []
  oracleVersion : String
  status : AttackStatus := .ready
  outcome : Option AttackOutcome := none
  budget : Budget
  randomSeed : Int
  deriving DecidableEq

structure StrategyRun where
  strategyRunId : String
  attackRunId : String
  strategyType : StrategyType
  status : StrategyStatus
  budget : Budget
  usage : BudgetUsage := {}
  deriving DecidableEq

/-- What a worker stores of a search. -/
structure CheckpointState where
  actions : List Json
  usage : BudgetUsage
  modelConfigHash : String
  promptVersion : String
  candidateInvariant : Option InvariantId := none
  deriving DecidableEq

structure Checkpoint where
  strategyRunId : String
  version : Nat
  state : CheckpointState
  deriving DecidableEq

structure RuntimeEvent where
  cursor : Nat
  runId : String
  eventType : String
  data : List (String × Json)
  deriving DecidableEq

structure CounterexampleRecord where
  counterexampleId : String
  attackRunId : String
  candidateKey : String
  invariantId : InvariantId
  originalActions : List Json
  minimizedActions : List Json
  replayRunId : String
  deriving DecidableEq

end RuleArena
