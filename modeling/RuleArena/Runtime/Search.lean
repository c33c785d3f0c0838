import RuleArena.Runtime.Agents
import RuleArena.Runtime.Store

/-!
# The search of a strategy

A strategy searches step by step: it asks its agent for a proposal, takes an
action that is accepted in the simulator, stores a checkpoint with all actions,
and lets the oracle judge the states it has seen. It ends with a candidate, for
want of budget, because it is told to stop, or because of what its agent says.

A `Search` holds the variables of the loop, and the store. `Search.turn` is one
pass of the loop, in which the agent makes the calls of a `Turn`.
-/

namespace RuleArena

/-- What a worker raises. -/
inductive WorkerError
  | store (error : StoreError)
  | simulator (exception : SimException)
  | oracle (exception : PyException)
  | agent
  | checkpoint
  | candidate
  | budget
  | replay
  deriving DecidableEq

namespace WorkerError

/-- An operation of the store, whose errors the worker does not catch. -/
def ofStore {α : Type} : Except StoreError α → Except WorkerError α
  | .ok a => .ok a
  | .error e => .error (.store e)

@[simp] theorem ofStore_eq_ok {α : Type} {x : Except StoreError α} {a : α} :
    ofStore x = .ok a ↔ x = .ok a := by
  cases x <;> simp [ofStore]

end WorkerError

/-! ## Stored actions -/

/-- `_serialize_action` -/
def serializeAction (action : SimAction) : Json :=
  .obj [("action_type", .str action.actionType.actionType), ("actor_id", .str action.actorId),
    ("target_id", optionText action.targetId),
    ("arguments", .obj ((SimAction.argumentDict action.arguments).map fun (name, value) =>
      (name, value.toJson))),
    ("idempotency_key", optionText action.idempotencyKey)]

/-- `ActionType` as it is iterated. -/
def ActionName.all : List ActionName :=
  [createUser, issueCoupon, createOrder, applyCoupon, payOrder, cancelOrder, refundOrder,
    redeemPoints, activateMembership, consumeEntitlement, cancelMembership, inspectState]

/-- `ActionType(text)` -/
def ActionName.ofActionType? (text : String) : Option ActionName :=
  all.find? fun name => name.actionType = text

/-- The value of a stored argument. -/
def argValue : Json → Except WorkerError ArgValue
  | .str s => return .str s
  | .int i => return .int i
  | .bool b => return .bool b
  | _ => throw .checkpoint

/-- The names that an argument must not have, since `build` takes them itself. -/
def buildParameters : List String := ["action_type", "actor_id", "target_id", "idempotency_key"]

/-- The stored arguments of an action. -/
def storedArguments : Option Json → Except WorkerError (List (String × ArgValue))
  | none => return []
  | some (.obj members) => do
    let arguments ← members.mapM fun (name, value) => do return (name, ← argValue value)
    ensure (∀ name ∈ arguments.map Prod.fst, name ∉ buildParameters) .checkpoint
    return arguments
  | some _ => throw .checkpoint

/-- The text of an entry that may be null or missing. -/
def storedText [Python] (entry : Option Json) : Option String :=
  match entry with
  | none | some .null => none
  | some value => some value.toStr

/-- `_deserialize_action` -/
def deserializeAction [Python] (value : Json) : Except WorkerError SimAction := do
  let arguments ← storedArguments (value.get? "arguments")
  match (value.get? "action_type").bind fun entry => ActionName.ofActionType? entry.toStr with
  | none => throw .checkpoint
  | some actionType =>
    return {
      actionType
      actorId := ((value.get? "actor_id").map Json.toStr).getD "user-1"
      targetId := storedText (value.get? "target_id")
      arguments := SimAction.sortedArguments arguments
      idempotencyKey := storedText (value.get? "idempotency_key") }

/-- `_SCENARIO_INVARIANTS` -/
def ScenarioType.invariants : ScenarioType → List InvariantId
  | promotion => [.netPaidNonNegative, .refundNotExceedPaid, .couponSingleConsumption,
      .orderTerminalMonotonicity, .idempotentEffect]
  | refundPoints => [.netPaidNonNegative, .refundNotExceedPaid, .pointsValueConservation,
      .orderTerminalMonotonicity, .idempotentEffect]
  | membershipEntitlement => [.entitlementNonNegative, .entitlementRefundConsistency,
      .idempotentEffect]

/-- `_resume_state` -/
def resumeState [Python] (simulator : ReferenceSimulator) (actions : List SimAction) :
    Except WorkerError (SimulationState × List Json) :=
  actions.foldlM (fun (state, snapshots) action =>
    match simulator.transition state action with
    | .ok transition => return (transition.state, snapshots ++ [transition.state.snapshot])
    | .error e => throw (.simulator e))
    (simulator.initialState, [simulator.initialState.snapshot])

/-! ## The loop -/

/-- What happens in one pass of the loop: the seconds since the search began, whether a
    cancellation is requested before the pass, and what comes of the calls of the agent. -/
structure Turn where
  seconds : ℚ≥0 := 0
  cancels : Bool := false
  completions : Fin 4 → Completion

/-- How a search ends. -/
structure SearchEnd where
  reason : StrategyTerminalReason
  found : Option (List SimAction × InvariantId) := none
  deriving DecidableEq

/-- The variables of a search. -/
structure Search where
  spec : PolicySpec
  runId : String
  store : InMemoryRuntimeStore
  strategy : StrategyRun
  adapter : RecordedLLMAdapter
  state : SimulationState
  snapshots : List Json
  actions : List SimAction
  history : List HistoryEntry
  usage : BudgetUsage
  priorElapsed : ℚ≥0
  rejection : Option String := none
  illegalRetries : Nat := 0
  rejectedKinds : List RejectionKind := []
  checkpointVersion : Nat

/-- `request_cancel`, by another party: it reads the status and changes it from the one read. -/
def InMemoryRuntimeStore.requestCancel (store : InMemoryRuntimeStore) (runId : String) :
    Except StoreError (InMemoryRuntimeStore × Bool) := do
  let run ← store.getRun runId
  if run.status ∈ [.ready, .searching, .replaying] then
    store.compareAndSetStatus runId run.status .cancelRequested none
  else return (store, false)

/-- `is_cancel_requested` -/
def InMemoryRuntimeStore.isCancelRequested (store : InMemoryRuntimeStore) (runId : String) :
    Except StoreError Bool := do
  return (← store.getRun runId).status = .cancelRequested

/-- The digest under which the configuration of the model is stored. -/
def RecordedLLMAdapter.modelConfigHash [Python] (adapter : RecordedLLMAdapter)
    (strategyType : StrategyType) : String :=
  Python.sha256 <| match adapter.lastCall with
    | some call => call.provider ++ ":" ++ call.model ++ ":" ++ call.temperature
    | none => strategyType.value

namespace Search

variable [Python]

/-- The search of a strategy as it begins: it takes up the actions of its checkpoint. -/
def start (spec : PolicySpec) (runId : String) (store : InMemoryRuntimeStore)
    (strategy : StrategyRun) (adapter : RecordedLLMAdapter) : Except WorkerError Search := do
  let checkpoint := store.checkpoints strategy.strategyRunId
  let actions ← ((checkpoint.map fun checkpoint => checkpoint.state.actions).getD []).mapM
    deserializeAction
  let (state, snapshots) ← resumeState spec.simulator actions
  let strategy := { strategy with status := .searching }
  let (store, _) ← WorkerError.ofStore (store.updateStrategy strategy)
  return {
    spec, runId, store, strategy, adapter, state, snapshots, actions
    history := actions.map fun action =>
      { actionKey := action.canonicalKey, status := .applied }
    usage := strategy.usage
    priorElapsed := strategy.usage.elapsedSeconds
    checkpointVersion := (checkpoint.map Checkpoint.version).getD 0 }

variable (search : Search)

/-- The usage is persisted with the strategy. -/
def persist (usage : BudgetUsage) : Except WorkerError Search := do
  let strategy : StrategyRun := { search.strategy with usage }
  let (store, _) ← WorkerError.ofStore (search.store.updateStrategy strategy)
  return { search with strategy, store }

/-- The candidate is added to the checkpoint, which must be there. -/
def saveCandidate (invariantId : InvariantId) : Except WorkerError (Search × Option SearchEnd) := do
  match search.store.checkpoints search.strategy.strategyRunId with
  | none => throw .candidate
  | some checkpoint =>
    let (store, _) ← WorkerError.ofStore (search.store.saveCheckpoint
      search.strategy.strategyRunId
      { checkpoint.state with candidateInvariant := some invariantId } checkpoint.version)
    return ({ search with store },
      some { reason := .candidateFound, found := some (search.actions, invariantId) })

/-- The agent stops, with a candidate or without one. -/
def stop (proposal : StopProposal) : Except WorkerError (Search × Option SearchEnd) := do
  let search ← search.persist search.usage
  match proposal.candidateInvariant with
  | none => return (search, some { reason := .stopNoCandidate })
  | some invariantId =>
    if search.actions ≠ [] ∧ invariantId ∈ search.spec.scenarioType.invariants then
      search.saveCandidate invariantId
    else return (search, some { reason := .stopNoCandidate })

/-- A proposal is rejected: the agent may try again, twice in a search. -/
def reject (kind : RejectionKind) (message : String) (proposed : ActionName) :
    Except WorkerError (Search × Option SearchEnd) := do
  let search : Search := { search with rejectedKinds := search.rejectedKinds ++ [kind] }
  if 2 ≤ search.illegalRetries then
    return (← search.persist search.usage, some { reason := .illegalRetryExhausted })
  else return ({ search with
    illegalRetries := search.illegalRetries + 1
    rejection := some (message ++ "; you proposed " ++ proposed.actionType ++ ".") }, none)

/-- The idempotency key of the next step. -/
def stepKey : String :=
  search.runId ++ ":" ++ search.strategy.strategyRunId ++ ":step:" ++
    toString (search.usage.steps + 1)

/-- An action is accepted: it is done in the simulator and stored with those before it. -/
def accept (action : SimAction) : Except WorkerError Search := do
  let stableAction := { action with idempotencyKey := some search.stepKey }
  match search.spec.simulator.transition search.state stableAction with
  | .error e => throw (.simulator e)
  | .ok transition =>
    let search : Search := { search with
      state := transition.state
      actions := search.actions ++ [stableAction]
      history := search.history ++
        [{ actionKey := action.canonicalKey, status := transition.status }]
      snapshots := search.snapshots ++ [transition.state.snapshot]
      usage := { search.usage with steps := search.usage.steps + 1 } }
    let search ← search.persist search.usage
    let (store, saved) ← WorkerError.ofStore (search.store.saveCheckpoint
      search.strategy.strategyRunId
      { actions := search.actions.map serializeAction
        usage := search.usage
        modelConfigHash := search.adapter.modelConfigHash search.strategy.strategyType
        promptVersion :=
          (search.adapter.lastCall.map LLMCallRecord.promptVersion).getD "unknown" }
      search.checkpointVersion)
    return { search with store, checkpointVersion := saved.version }

/-- The first invariant that the oracle finds violated in the states seen so far. -/
def violated : Except WorkerError (Option InvariantId) :=
  match Oracle.evaluate search.spec.toRuleSpec search.snapshots [] [] with
  | .error e => throw (.oracle e)
  | .ok findings =>
    return (findings.find? fun finding => finding.status = .violated).map OracleFinding.invariantId

/-- The oracle judges the states: a violation makes the path a candidate. -/
def judge : Except WorkerError (Search × Option SearchEnd) := do
  match ← search.violated with
  | some invariantId => search.saveCandidate invariantId
  | none => return (search, none)

/-- The proposed action is checked, and accepted or rejected. -/
def act (legal : List SimAction) (proposal : ActionProposal) :
    Except WorkerError (Search × Option SearchEnd) :=
  match validateActionProposal proposal legal search.history search.usage
      search.strategy.budget with
  | .error (.rejected kind message) => search.reject kind message proposal.actionType
  | .error .raised => throw .agent
  | .ok action => do (← search.accept action).judge

/-- The usage with the calls that are drained, or with the last one again if there are none. -/
def nextUsage : BudgetUsage :=
  let (callRecords, adapter) := search.adapter.drainCallRecords
  let counted := if callRecords = [] then adapter.lastCall.toList else callRecords
  { search.usage with
    tokens := search.usage.tokens +
      (counted.map fun call => call.usage.inputTokens + call.usage.outputTokens).sum
    cost := search.usage.cost + (counted.map fun call => call.usage.cost).sum }

/-- The calls of the agent are drained, and what they have used is counted. -/
def counted : Search :=
  { search with
    adapter := search.adapter.drainCallRecords.2, rejection := none, usage := search.nextUsage }

/-- What the calls have used is counted, and the proposal of the agent followed. -/
def follow (legal : List SimAction) (proposal : Proposal) :
    Except WorkerError (Search × Option SearchEnd) := do
  if ¬ search.nextUsage.Within search.strategy.budget then
    -- The usage is persisted with the strategy, but not counted in the search.
    let search ← { search.counted with usage := search.usage }.persist search.nextUsage
    return (search, some { reason := .budgetTokensOrCost })
  else
    match proposal with
    | .stop proposal => search.counted.stop proposal
    | .action proposal => search.counted.act legal proposal

/-- The search after the calls of the agent. -/
def asked (turn : Turn) : Search :=
  { search with adapter := (search.adapter.propose (List.ofFn turn.completions)).1 }

/-- The agent is asked. An answer that cannot be parsed ends the search. -/
def ask (legal : List SimAction) (turn : Turn) : Except WorkerError (Search × Option SearchEnd) :=
  match (search.adapter.propose (List.ofFn turn.completions)).2 with
  | .raised => throw .agent
  | .rejected kind =>
    let search := search.asked turn
    return ({ search with rejectedKinds := search.rejectedKinds ++ [kind] },
      some { reason := .unparsableOutput })
  | .proposal proposal => (search.asked turn).follow legal proposal

/-- The search at the top of a pass: the time has gone on, and the run may be cancelled. -/
def tick (turn : Turn) : Search :=
  { search with
    store := if turn.cancels then search.store.orSame (search.store.requestCancel search.runId)
      else search.store
    usage := { search.usage with elapsedSeconds := search.priorElapsed + turn.seconds } }

/-- Why a pass ends the search before the agent is asked. -/
def exhausted : Except WorkerError (Option StrategyTerminalReason) := do
  if ¬ search.usage.Within search.strategy.budget then
    return some (if search.strategy.budget.maxTimeSeconds < search.usage.elapsedSeconds
      then .budgetTime else .budgetTokensOrCost)
  else if search.strategy.budget.maxSteps ≤ search.usage.steps then return some .budgetSteps
  else if ← WorkerError.ofStore (search.store.isCancelRequested search.runId) then
    return some .cancelled
  else if search.spec.simulator.legalActions search.state = [] then return some .noLegalAction
  else return none

/-- One pass of the loop. -/
def turn (turn : Turn) : Except WorkerError (Search × Option SearchEnd) := do
  let search := search.tick turn
  match ← search.exhausted with
  | some reason => return (search, some { reason })
  | none => search.ask (search.spec.simulator.legalActions search.state) turn

/-- The passes of the loop, until the search ends. If it has not ended, it goes on. -/
def loop (search : Search) : List Turn → Except WorkerError (Search × Option SearchEnd)
  | [] => return (search, none)
  | turn :: turns => do
    match ← search.turn turn with
    | (search, some ended) => return (search, some ended)
    | (search, none) => loop search turns

/-! ## The end of a search -/

/-- The counts of a counter, in the order of the first occurrences. -/
def countKinds (kinds : List RejectionKind) : List (String × Json) :=
  (Oracle.distinct kinds).map fun kind => (kind.value, .int (kinds.count kind))

/-- A diagnostic of a search: why it ended, and what it used. -/
structure Diagnostic where
  strategyType : StrategyType
  terminalReason : StrategyTerminalReason
  usage : BudgetUsage
  rejectedProposals : List RejectionKind
  candidatesSubmitted : Nat

/-- A number, as the fraction that it is. -/
def numberJson (x : ℚ≥0) : Json := .str (toString x.num ++ "/" ++ toString x.den)

/-- The data of the event for a diagnostic. -/
def Diagnostic.data (diagnostic : Diagnostic) : List (String × Json) :=
  [("strategy_type", .str diagnostic.strategyType.value),
    ("terminal_reason", .str diagnostic.terminalReason.value),
    ("usage", .obj [("steps", .int diagnostic.usage.steps),
      ("tokens", .int diagnostic.usage.tokens), ("cost", numberJson diagnostic.usage.cost),
      ("elapsed_seconds", numberJson diagnostic.usage.elapsedSeconds)]),
    ("rejected_proposals", .obj (countKinds diagnostic.rejectedProposals)),
    ("candidates_submitted", .int diagnostic.candidatesSubmitted)]

/-- The diagnostic of a search that has ended. -/
def diagnostic (search : Search) (ended : SearchEnd) : Diagnostic where
  strategyType := search.strategy.strategyType
  terminalReason := ended.reason
  usage := search.usage
  rejectedProposals := search.rejectedKinds
  candidatesSubmitted := if ended.found.isSome then 1 else 0

/-- The end of a search is told, and its strategy completed. -/
def finish (search : Search) (ended : SearchEnd) : Except WorkerError InMemoryRuntimeStore := do
  let (store, _) := search.store.appendEvent search.runId "STRATEGY_TERMINATED"
    (search.diagnostic ended).data
  let (store, _) ← WorkerError.ofStore
    (store.updateStrategy { search.strategy with status := .completed })
  return store

end Search

end RuleArena
