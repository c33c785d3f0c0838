import RuleArena.Foundation.AsciiText
import RuleArena.Foundation.Program
import RuleArena.Runtime.Replay
import RuleArena.Runtime.Search

/-!
# The worker

A worker takes a run through the strategies: each searches with a share of the
budget that is left, the candidate that it ends with is replayed, and the run is
completed when a replay confirms a violation or all strategies are through.

The worker is a program over the store. Another party may request a cancellation
before any of its calls of the store, and what happens in the world while a
strategy has its turn is a `Visit`.
-/

namespace RuleArena

/-- How a worker stops before its last line: it returns, it has not come to the end of a search
    yet, `_remaining_budget` has raised its exception, or something else another one. -/
inductive Stop
  | returned
  | searching
  | starved
  | raised (error : WorkerError)

/-! ## Budgets -/

/-- `MIN_VIABLE_STRATEGY_STEPS` -/
def minViableStrategySteps : Nat := 2

theorem share_pos {unspentSteps : Int} {parts : Nat} (pos : 0 < parts)
    (viable : ¬ unspentSteps < minViableStrategySteps * parts) :
    0 < (unspentSteps / parts).toNat := by
  rw [minViableStrategySteps] at viable
  have : (2 : Int) ≤ unspentSteps / parts :=
    (Int.le_ediv_iff_mul_le (by omega)).2 (by push_cast at viable; omega)
  omega

theorem microsecond_pos (x : ℚ≥0) : 0 < max (1 / 1000000) x :=
  lt_max_of_lt_left (by norm_num)

/-- `_remaining_budget`, unless it raises an exception. -/
def remainingBudget (total : Budget) (used : BudgetUsage) (remainingParts : Nat) :
    Option Budget :=
  let parts := max 1 remainingParts
  let unspentSteps : Int := total.maxSteps - used.steps
  if viable : unspentSteps < minViableStrategySteps * parts then none
  else some {
    maxSteps := (unspentSteps / parts).toNat
    maxTokens := (total.maxTokens - used.tokens) / parts
    maxCost := (total.maxCost - used.cost) / parts
    maxTimeSeconds :=
      max (1 / 1000000) ((total.maxTimeSeconds - used.elapsedSeconds) / parts)
    steps_pos := share_pos (by omega) viable
    time_pos := microsecond_pos _ }

/-- `_add_usage` -/
def addUsage (total part : BudgetUsage) : BudgetUsage where
  steps := total.steps + part.steps
  tokens := total.tokens + part.tokens
  cost := total.cost + part.cost
  elapsedSeconds := total.elapsedSeconds + part.elapsedSeconds

/-! ## The passes of a search -/

namespace Search

variable [Python]

/-- The search as a pass leaves it that raises an exception: what it has persisted before
    stays. -/
def raisedAt (search : Search) (turn : Turn) : Search :=
  let search := search.tick turn
  match search.exhausted, (search.adapter.propose (List.ofFn turn.completions)).2 with
  | .ok none, .proposal proposal =>
    let counted := (search.asked turn).counted
    if ¬ counted.usage.Within counted.strategy.budget then search
    else
      match proposal with
      | .stop _ => (counted.persist counted.usage).toOption.getD counted
      | .action proposal =>
        match validateActionProposal proposal (search.spec.simulator.legalActions search.state)
            counted.history counted.usage counted.strategy.budget with
        | .error _ => counted
        | .ok action =>
          match counted.accept action with
          -- the oracle raises, or the candidate cannot be saved
          | .ok accepted => accepted
          | .error _ =>
            let stableAction := { action with idempotencyKey := some counted.stepKey }
            match counted.spec.simulator.transition counted.state stableAction with
            | .error _ => counted
            | .ok transition =>
              let stepped : Search := { counted with
                state := transition.state
                actions := counted.actions ++ [stableAction]
                usage := { counted.usage with steps := counted.usage.steps + 1 } }
              (stepped.persist stepped.usage).toOption.getD counted
  | _, _ => search

/-- The passes of the loop, with the search as it is when they are over, and how it has ended. -/
def passes (search : Search) : List Turn → Search × Option (Except WorkerError SearchEnd)
  | [] => (search, none)
  | turn :: turns =>
    match search.turn turn with
    | .error e => (search.raisedAt turn, some (.error e))
    | .ok (search, some ended) => (search, some (.ok ended))
    | .ok (search, none) => passes search turns

end Search

/-! ## What happens outside -/

/-- The invariants that a replay finds violated, in the order of the report. -/
def ReplayResult.violated (result : ReplayResult) : List InvariantId :=
  (result.findings.filter (·.status = .violated)).map (·.invariantId)

/-- What happens while a strategy has its turn: how old the run is, the identifier of the strategy
    if it is a new one, the passes of its search, and what the replay gateway returns, unless it
    raises. -/
structure Visit where
  totalElapsed : ℚ≥0 := 0
  uuid : String
  turns : List Turn
  replay : Option ReplayResult := none
  minimized : InvariantId → Option (List SimAction) := fun _ => none
  counterexampleId : InvariantId → String := fun _ => ""

/-- The actions of a strategy that may violate an invariant. -/
structure Candidate where
  actions : List SimAction
  invariant : InvariantId
  deriving DecidableEq

/-- The store, whether a cancellation is requested before each of the next calls, the candidates
    that strategies have ended with, and those that have been replayed. -/
structure WorkerWorld where
  store : InMemoryRuntimeStore
  cancels : List Bool := []
  candidates : List Candidate := []
  replays : List Candidate := []

namespace WorkerWorld

/-- A strategy has ended with a candidate. -/
def noteCandidate (candidate : Candidate) (world : WorkerWorld) : WorkerWorld :=
  { world with candidates := world.candidates ++ [candidate] }

/-- A candidate is given to the replay gateway. -/
def noteReplay (candidate : Candidate) (world : WorkerWorld) : WorkerWorld :=
  { world with replays := world.replays ++ [candidate] }

end WorkerWorld

/-- What a worker remembers from strategy to strategy. -/
structure Progress where
  used : BudgetUsage := {}
  strategiesLeft : Nat
  replayedCandidateKeys : List String := []
  sawUnconfirmed : Bool := false

structure AttackWorker where
  spec : PolicySpec
  searchingStrategies : List StrategyType
  agents : StrategyType → RecordedLLMAdapter
  some_searches : searchingStrategies ≠ []

/-! ## The run -/

def InvariantId.value : InvariantId → String
  | netPaidNonNegative => "NET_PAID_NON_NEGATIVE"
  | refundNotExceedPaid => "REFUND_NOT_EXCEED_PAID"
  | couponSingleConsumption => "COUPON_SINGLE_CONSUMPTION"
  | pointsValueConservation => "POINTS_VALUE_CONSERVATION"
  | orderTerminalMonotonicity => "ORDER_TERMINAL_MONOTONICITY"
  | entitlementNonNegative => "ENTITLEMENT_NON_NEGATIVE"
  | entitlementRefundConsistency => "ENTITLEMENT_REFUND_CONSISTENCY"
  | idempotentEffect => "IDEMPOTENT_EFFECT"

/-- `_candidate_key` -/
def candidateKey [Python] (actions : List SimAction) (invariant : InvariantId) : String :=
  invariant.value ++ ":" ++ Python.sha256 (Json.asciiText
    (Json.arr (actions.map fun action => .str action.canonicalKey)).canonical)

namespace AttackWorker

variable [Python] (worker : AttackWorker) (runId : String)

/-- `_strategy_budget` -/
def strategyBudget (strategyType : StrategyType) (run : AttackRun) (used : BudgetUsage)
    (searchingLeft : Nat) : Option Budget :=
  if strategyType ∉ worker.searchingStrategies then some run.budget
  else remainingBudget run.budget used (max 1 searchingLeft)

/-- A call of the store, before which a cancellation may be requested. -/
def call {α : Type} (op : InMemoryRuntimeStore → Except StoreError (InMemoryRuntimeStore × α)) :
    Program Stop WorkerWorld α := fun world =>
  let store := if world.cancels.headD false then
    world.store.orSame (world.store.requestCancel runId) else world.store
  match op store with
  | .ok (store, a) => (.ok a, { world with store, cancels := world.cancels.tail })
  | .error e => (.error (.raised (.store e)), { world with store, cancels := world.cancels.tail })

/-- A call that only reads. -/
def read {α : Type} (op : InMemoryRuntimeStore → Except StoreError α) :
    Program Stop WorkerWorld α :=
  call runId fun store => do return (store, ← op store)

/-- `compare_and_set_status` -/
def setStatus (expected target : AttackStatus) (outcome : Option AttackOutcome) :
    Program Stop WorkerWorld Bool :=
  call runId (·.compareAndSetStatus runId expected target outcome)

/-- A budget for a strategy, or the exception of `_remaining_budget`. -/
def share : Option Budget → Program Stop WorkerWorld Budget
  | some budget => pure budget
  | none => .raise .starved

/-- An exception that is raised outside of the store. -/
def raising {α : Type} : Except WorkerError α → Program Stop WorkerWorld α
  | .ok a => pure a
  | .error e => .raise (.raised e)

/-- `_search_strategy` -/
def searchStrategy (strategy : StrategyRun) (turns : List Turn) :
    Program Stop WorkerWorld (Option (List SimAction × InvariantId)) := fun world =>
  match Search.start worker.spec runId world.store strategy
      (worker.agents strategy.strategyType) with
  | .error e => (.error (.raised e), world)
  | .ok search =>
    match search.passes turns with
    | (search, none) => (.error .searching, { world with store := search.store })
    | (search, some (.error e)) => (.error (.raised e), { world with store := search.store })
    | (search, some (.ok ended)) =>
      match search.finish ended with
      | .error e => (.error (.raised e), { world with store := search.store })
      | .ok store => (.ok ended.found, { world with store })

/-- The worker gives up a run that is to be cancelled. -/
def cancel {α : Type} : Program Stop WorkerWorld α := do
  let _ ← setStatus runId .cancelRequested .cancelled (some .cancelled)
  Program.raise .returned

/-- The counterexamples of a replay that confirms violations are saved. -/
def confirm (visit : Visit) (actions : List SimAction) (replayed : ReplayResult) :
    List InvariantId → Program Stop WorkerWorld Unit
  | [] => return ()
  | invariantId :: rest => do
    match visit.minimized invariantId with
    | none => Program.raise (.raised .replay)
    | some minimized =>
      let _ ← call runId fun store => Except.ok (store.saveCounterexample {
        counterexampleId := visit.counterexampleId invariantId
        attackRunId := runId
        candidateKey := candidateKey actions invariantId
        invariantId
        originalActions := actions.map serializeAction
        minimizedActions := minimized.map serializeAction
        replayRunId := replayed.runId })
      confirm visit actions replayed rest

/-- A candidate is replayed. -/
def replay (visit : Visit) (actions : List SimAction) (invariant : InvariantId)
    (progress : Progress) : Program Stop WorkerWorld Progress := do
  let current ← read runId (·.getRun runId)
  if current.status = .cancelRequested then cancel runId
  else
    if current.status = .searching then
      let _ ← setStatus runId .searching .replaying none
    Program.modify (WorkerWorld.noteReplay { actions, invariant })
    match visit.replay with
    | none => Program.raise (.raised .replay)
    | some replayed =>
      if replayed.violated ≠ [] then
        confirm runId visit actions replayed replayed.violated
        let _ ← setStatus runId .replaying .completed (some .confirmedViolation)
        Program.raise .returned
      else
        let _ ← setStatus runId .replaying .searching none
        return { progress with sawUnconfirmed := true }

/-- The candidate of a strategy: the one of its checkpoint if the run is being replayed, and else
    what its search comes to. -/
def candidate (visit : Visit) (strategy : StrategyRun) :
    Program Stop WorkerWorld (Option (List SimAction × InvariantId)) := do
  let current ← read runId (·.getRun runId)
  let checkpoint ← read runId fun store => .ok (store.checkpoints strategy.strategyRunId)
  match current.status, checkpoint with
  | .replaying, some { state := { actions, candidateInvariant := some invariantId, .. }, .. } =>
    return some (← raising (actions.mapM deserializeAction), invariantId)
  | _, _ => worker.searchStrategy runId strategy visit.turns

/-- The turn of a strategy. Without a result the time of the run is up. -/
def visit (run : AttackRun) (strategyType : StrategyType) (visit : Visit) (progress : Progress) :
    Program Stop WorkerWorld (Option Progress) := do
  if run.budget.maxTimeSeconds ≤ visit.totalElapsed then return none
  else
    if ← read runId (·.isCancelRequested runId) then cancel runId
    else
      let budget ← share (worker.strategyBudget strategyType run progress.used
        progress.strategiesLeft)
      let strategy ← call runId (·.ensureStrategy visit.uuid runId strategyType budget)
      let candidate ← worker.candidate runId visit strategy
      let budget ← share (worker.strategyBudget strategyType run progress.used
        progress.strategiesLeft)
      let strategy ← call runId (·.ensureStrategy visit.uuid runId strategyType budget)
      let progress := { progress with
        used := addUsage progress.used strategy.usage
        strategiesLeft := if strategyType ∈ worker.searchingStrategies
          then progress.strategiesLeft - 1 else progress.strategiesLeft }
      match candidate with
      | none => return some progress
      | some (actions, invariant) =>
        Program.modify (WorkerWorld.noteCandidate { actions, invariant })
        let key := candidateKey actions invariant
        if key ∈ progress.replayedCandidateKeys then return some progress
        else return some (← replay runId visit actions invariant { progress with
          replayedCandidateKeys := progress.replayedCandidateKeys ++ [key] })

/-- The strategies in turn, until the time is up. -/
def strategies (run : AttackRun) (visits : StrategyType → Visit) :
    List StrategyType → Progress → Program Stop WorkerWorld Progress
  | [], progress => return progress
  | strategyType :: rest, progress => do
    match ← worker.visit runId run strategyType (visits strategyType) progress with
    | none => return progress
    | some progress => strategies run visits rest progress

/-- The strategies in turn, and the end of the run if none has confirmed a violation. -/
def body (run : AttackRun) (visits : StrategyType → Visit) : Program Stop WorkerWorld Unit := do
  let progress ← worker.strategies runId run visits StrategyType.all
    { strategiesLeft := worker.searchingStrategies.length }
  let current ← read runId (·.getRun runId)
  if current.status = .searching then
    let _ ← setStatus runId .searching .completed (some (if progress.sawUnconfirmed
      then .unconfirmedCandidate else .noViolationWithinBudget))

/-- An exception fails a run that is searching or replaying. -/
def fail : Stop → Program Stop WorkerWorld Unit
  | .raised _ | .starved => do
    let current ← read runId (·.getRun runId)
    if current.status = .searching ∨ current.status = .replaying then
      let _ ← setStatus runId current.status .failed (some .infraFailed)
  | _ => return ()

/-- `_recovery_target` -/
def recoveryTarget (run : AttackRun) (visits : StrategyType → Visit) :
    List StrategyType → Program Stop WorkerWorld AttackStatus
  | [] => return .searching
  | strategyType :: rest => do
    let budget ← share (worker.strategyBudget strategyType run {}
      worker.searchingStrategies.length)
    let strategy ← call runId
      (·.ensureStrategy (visits strategyType).uuid runId strategyType budget)
    match ← read runId fun store => .ok (store.checkpoints strategy.strategyRunId) with
    | some { state := { candidateInvariant := some _, .. }, .. } => return .replaying
    | _ => recoveryTarget run visits rest

/-- How a run is entered, by its status: without a result there is nothing to do. -/
def enter (run : AttackRun) (visits : StrategyType → Visit) : Program Stop WorkerWorld Unit :=
  match run.status with
  | .cancelRequested => cancel runId
  | .ready => do
    let _ ← share (remainingBudget run.budget {} worker.searchingStrategies.length)
    if ← setStatus runId .ready .searching none then return () else Program.raise .returned
  | .failed => do
    if ← setStatus runId .failed .recovering none then
      let target ← worker.recoveryTarget runId run visits StrategyType.all
      if ← setStatus runId .recovering target none then return () else Program.raise .returned
    else Program.raise .returned
  | .searching | .replaying => return ()
  | _ => Program.raise .returned

/-- `run` -/
def run (visits : StrategyType → Visit) : Program Stop WorkerWorld Unit := do
  let run ← read runId (·.getRun runId)
  worker.enter runId run visits
  if run.status = .replaying then
    if (← read runId fun store => .ok (store.counterexamples runId)) ≠ [] then
      let _ ← setStatus runId .replaying .completed (some .confirmedViolation)
      Program.raise .returned
  (worker.body runId run visits).rescue (fail runId)

end AttackWorker

end RuleArena
