import RuleArena.Runtime.Workflow

/-!
# The runtime store

The in-memory store of runs. Each of its operations holds the lock from its
first read to its last write, so that an operation is one step here, and the
operations of all parties are interleaved (`StoreOp`, `InMemoryRuntimeStore.after`).

A status is changed by comparison with the expected one, and in the same step
the change is appended to the log of the run.
-/

namespace RuleArena

/-- What an operation of the store raises. -/
inductive StoreError
  | keyError
  | valueError
  deriving DecidableEq, Repr

/-- A dictionary with one entry changed. -/
def insertEntry {κ α : Type} [DecidableEq κ] (entries : κ → Option α) (key : κ) (value : α) :
    κ → Option α :=
  Function.update entries key (some value)

structure InMemoryRuntimeStore where
  runs : String → Option AttackRun := fun _ => none
  jobs : String → Option String := fun _ => none
  strategies : String → Option StrategyRun := fun _ => none
  strategyKeys : String × StrategyType → Option String := fun _ => none
  checkpoints : String → Option Checkpoint := fun _ => none
  events : String → Option (List RuntimeEvent) := fun _ => none
  counterexampleRecords : List CounterexampleRecord := []

namespace InMemoryRuntimeStore

variable (store : InMemoryRuntimeStore)

/-- The value of an entry that must be there. -/
def entry {α : Type} (value : Option α) : Except StoreError α :=
  match value with
  | some a => return a
  | none => throw .keyError

/-- `append_event`. A run without a log gets one. -/
def appendEvent (runId eventType : String) (data : List (String × Json)) :
    InMemoryRuntimeStore × RuntimeEvent :=
  let values := (store.events runId).getD []
  let event : RuntimeEvent := { cursor := values.length + 1, runId, eventType, data }
  ({ store with events := insertEntry store.events runId (values ++ [event]) }, event)

/-- `events_after` -/
def eventsAfter (runId : String) (cursor : Nat) : Except StoreError (List RuntimeEvent) := do
  let values ← entry (store.events runId)
  return values.filter fun event => cursor < event.cursor

/-- `get_run` -/
def getRun (runId : String) : Except StoreError AttackRun := entry (store.runs runId)

/-- What a run is created with. -/
structure RunRequest where
  jobKey : String
  ruleVersionId : String
  scenarioVersionId : String
  sandboxVersion : String
  oracleVersion : String
  budget : Budget
  randomSeed : Int
  defectAxes : List String := []
  deriving DecidableEq

/-- `create_run`: a known job key gives back the run it was used for. -/
def createRun (uuid : String) (request : RunRequest) :
    Except StoreError (InMemoryRuntimeStore × AttackRun) := do
  match store.jobs request.jobKey with
  | some runId => return (store, ← entry (store.runs runId))
  | none =>
    let item : AttackRun := {
      runId := uuid, jobKey := request.jobKey, ruleVersionId := request.ruleVersionId,
      scenarioVersionId := request.scenarioVersionId, sandboxVersion := request.sandboxVersion,
      defectAxes := request.defectAxes, oracleVersion := request.oracleVersion,
      budget := request.budget, randomSeed := request.randomSeed }
    let store := { store with
      runs := insertEntry store.runs uuid item
      jobs := insertEntry store.jobs request.jobKey uuid
      events := insertEntry store.events uuid [] }
    let store := (store.appendEvent uuid "RUN_CREATED" [("status", .str item.status.value)]).1
    return (store, item)

/-- An outcome in the data of an event. -/
def outcomeJson : Option AttackOutcome → Json
  | some outcome => .str outcome.value
  | none => .null

/-- `compare_and_set_status` -/
def compareAndSetStatus (runId : String) (expected target : AttackStatus)
    (outcome : Option AttackOutcome) : Except StoreError (InMemoryRuntimeStore × Bool) := do
  ensure (target ∈ expected.allowedTransitions) .valueError
  ensure (target.terminal = outcome.isSome) .valueError
  let current ← entry (store.runs runId)
  if current.status = expected then
    let store := { store with
      runs := insertEntry store.runs runId { current with status := target, outcome } }
    let store := (store.appendEvent runId "STATUS_CHANGED" [("from", .str expected.value),
      ("to", .str target.value), ("outcome", outcomeJson outcome)]).1
    return (store, true)
  else return (store, false)

/-- `ensure_strategy` -/
def ensureStrategy (uuid attackRunId : String) (strategyType : StrategyType) (budget : Budget) :
    Except StoreError (InMemoryRuntimeStore × StrategyRun) := do
  match store.strategyKeys (attackRunId, strategyType) with
  | some existing => return (store, ← entry (store.strategies existing))
  | none =>
    let item : StrategyRun := {
      strategyRunId := uuid, attackRunId, strategyType, status := .pending, budget }
    return ({ store with
        strategies := insertEntry store.strategies uuid item
        strategyKeys := insertEntry store.strategyKeys (attackRunId, strategyType) uuid },
      item)

/-- `update_strategy` -/
def updateStrategy (strategy : StrategyRun) :
    Except StoreError (InMemoryRuntimeStore × Unit) := do
  let _ ← entry (store.strategies strategy.strategyRunId)
  return ({ store with
    strategies := insertEntry store.strategies strategy.strategyRunId strategy }, ())

/-- `save_checkpoint` -/
def saveCheckpoint (strategyRunId : String) (state : CheckpointState) (expectedVersion : Nat) :
    Except StoreError (InMemoryRuntimeStore × Checkpoint) := do
  let actual := match store.checkpoints strategyRunId with
    | some current => current.version
    | none => 0
  ensure (actual = expectedVersion) .valueError
  let checkpoint : Checkpoint := { strategyRunId, version := actual + 1, state }
  return ({ store with
    checkpoints := insertEntry store.checkpoints strategyRunId checkpoint }, checkpoint)

/-- `save_counterexample`: the first record of a run and a candidate is kept. -/
def saveCounterexample (record : CounterexampleRecord) :
    InMemoryRuntimeStore × CounterexampleRecord :=
  match store.counterexampleRecords.find? fun existing =>
      existing.attackRunId = record.attackRunId ∧ existing.candidateKey = record.candidateKey with
  | some existing => (store, existing)
  | none => ({ store with counterexampleRecords := store.counterexampleRecords ++ [record] }, record)

/-- `counterexamples` -/
def counterexamples (runId : String) : List CounterexampleRecord :=
  store.counterexampleRecords.filter fun record => record.attackRunId = runId

end InMemoryRuntimeStore

/-! ## Interleaved operations -/

/-- An operation that writes, with the identifier it is given if it makes a new record.
    To request a cancellation is to read the status, and then to change it from the
    one that was read. -/
inductive StoreOp
  | createRun (uuid : String) (request : InMemoryRuntimeStore.RunRequest)
  | compareAndSetStatus (runId : String) (expected target : AttackStatus)
      (outcome : Option AttackOutcome)
  | ensureStrategy (uuid attackRunId : String) (strategyType : StrategyType) (budget : Budget)
  | updateStrategy (strategy : StrategyRun)
  | saveCheckpoint (strategyRunId : String) (state : CheckpointState) (expectedVersion : Nat)
  | appendEvent (runId eventType : String) (data : List (String × Json))
  | saveCounterexample (record : CounterexampleRecord)

namespace InMemoryRuntimeStore

variable (store : InMemoryRuntimeStore)

/-- The store after an operation, which is the same one if the operation raises. -/
def orSame {α : Type} (result : Except StoreError (InMemoryRuntimeStore × α)) :
    InMemoryRuntimeStore :=
  match result with
  | .ok (store, _) => store
  | .error _ => store

/-- The store after an operation. -/
def apply : StoreOp → InMemoryRuntimeStore
  | .createRun uuid request => orSame store (store.createRun uuid request)
  | .compareAndSetStatus runId expected target outcome =>
    orSame store (store.compareAndSetStatus runId expected target outcome)
  | .ensureStrategy uuid attackRunId strategyType budget =>
    orSame store (store.ensureStrategy uuid attackRunId strategyType budget)
  | .updateStrategy strategy => orSame store (store.updateStrategy strategy)
  | .saveCheckpoint strategyRunId state expectedVersion =>
    orSame store (store.saveCheckpoint strategyRunId state expectedVersion)
  | .appendEvent runId eventType data => (store.appendEvent runId eventType data).1
  | .saveCounterexample record => (store.saveCounterexample record).1

/-- The store after a sequence of operations. -/
def after (ops : List StoreOp) : InMemoryRuntimeStore := ops.foldl apply store

end InMemoryRuntimeStore

end RuleArena
