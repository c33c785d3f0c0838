import RuleArena.Runtime.Cancellation
import RuleArena.Foundation.Table

/-!
# The two stores

The runtime has two stores with one contract: dictionaries (`InMemoryRuntimeStore`)
and the tables of a database (`PostgresTables`). Here a store is called by one party,
one call after another.

The stores keep the same records as long as the calls name records that are there,
with identifiers and values that the columns take (`StoreCall.Agrees`); then they
answer the same, up to cursors and the order of counterexamples (`twins_replies`).
-/

namespace RuleArena

/-- What a call of a store raises. The last three come from the database only. -/
inductive StoreFault
  | keyError
  | valueError
  | noResultFound
  | integrityError
  | dataError
  deriving DecidableEq, Repr

def StoreError.fault : StoreError → StoreFault
  | keyError => .keyError
  | valueError => .valueError

/-! ## The database -/

/-- What the types of the columns take, and give back as it was. -/
class PostgresTypes where
  /-- A text that is a `uuid`, as the database prints it. -/
  castUuid : String → Option String
  holdsText : String → Bool
  holdsJson : Json → Bool
  /-- A floating-point number in a JSON column: one such as `1e23` comes back as the integer
      that its decimal digits are, which is another number. -/
  holdsNumber : ℚ≥0 → Bool
  /-- The order in which counterexamples are read. -/
  scan : List CounterexampleRecord → List CounterexampleRecord
  scan_perm : ∀ rows, (scan rows).Perm rows

/-- The tables, each a list of its rows, in the order in which they were inserted. -/
structure PostgresTables where
  ruleVersions : List String := []
  attackRuns : List AttackRun := []
  strategyRuns : List StrategyRun := []
  checkpoints : List Checkpoint := []
  runtimeEvents : List RuntimeEvent := []
  counterexampleRows : List CounterexampleRecord := []
  /-- The last cursor that was given to an event. -/
  sequence : Nat := 0

/-- The columns of a strategy run that are unique together. -/
def StrategyRun.key (strategy : StrategyRun) : String × StrategyType :=
  (strategy.attackRunId, strategy.strategyType)

/-- The columns of a counterexample that are unique together. -/
def CounterexampleRecord.key (record : CounterexampleRecord) : String × String :=
  (record.attackRunId, record.candidateKey)

section Held

variable [PostgresTypes]

open PostgresTypes

/-- `BIGINT` -/
def HoldsBigint (n : Int) : Prop := -2 ^ 63 ≤ n ∧ n < 2 ^ 63

/-- The columns take a budget. Its cost and its time are read as floating-point numbers again. -/
def Budget.Held (budget : Budget) : Prop :=
  holdsJson (.int budget.maxSteps) ∧ holdsJson (.int budget.maxTokens)

/-- The columns take a usage. -/
def BudgetUsage.Held (usage : BudgetUsage) : Prop :=
  holdsJson (.int usage.steps) ∧ holdsJson (.int usage.tokens)

/-- The columns take the values of a run. -/
def InMemoryRuntimeStore.RunRequest.Held (request : InMemoryRuntimeStore.RunRequest) : Prop :=
  holdsText request.jobKey ∧ holdsText request.scenarioVersionId ∧
    holdsText request.sandboxVersion ∧ holdsText request.oracleVersion ∧
    holdsJson (.arr (request.defectAxes.map .str)) ∧ request.budget.Held ∧
    HoldsBigint request.randomSeed

/-- The columns take the state of a search, which is read as it is stored. -/
def CheckpointState.Held (state : CheckpointState) : Prop :=
  holdsJson (.arr state.actions) ∧ state.usage.Held ∧ holdsNumber state.usage.cost ∧
    holdsNumber state.usage.elapsedSeconds ∧ holdsJson (.str state.modelConfigHash) ∧
    holdsJson (.str state.promptVersion)

/-- The columns take a counterexample. -/
def CounterexampleRecord.Held (record : CounterexampleRecord) : Prop :=
  holdsText record.candidateKey ∧ record.candidateKey.length ≤ 128 ∧
    holdsText record.replayRunId ∧ holdsJson (.arr record.originalActions) ∧
    holdsJson (.arr record.minimizedActions)

instance (n : Int) : Decidable (HoldsBigint n) := inferInstanceAs (Decidable (_ ∧ _))

instance (budget : Budget) : Decidable budget.Held := inferInstanceAs (Decidable (_ ∧ _))

instance (usage : BudgetUsage) : Decidable usage.Held := inferInstanceAs (Decidable (_ ∧ _))

instance (request : InMemoryRuntimeStore.RunRequest) : Decidable request.Held :=
  inferInstanceAs (Decidable (_ ∧ _))

instance (state : CheckpointState) : Decidable state.Held :=
  inferInstanceAs (Decidable (_ ∧ _))

instance (record : CounterexampleRecord) : Decidable record.Held :=
  inferInstanceAs (Decidable (_ ∧ _))

end Held

namespace PostgresTables

variable [PostgresTypes] (tables : PostgresTables)

/-- `CAST(… AS uuid)` -/
def castUuid (text : String) : Except StoreFault String :=
  match PostgresTypes.castUuid text with
  | some id => return id
  | none => throw .dataError

/-- `.one()` -/
def one {α : Type} (row : Option α) : Except StoreFault α :=
  match row with
  | some row => return row
  | none => throw .noResultFound

/-- `_append_event` to a run that is there. -/
def insertEvent (id eventType : String) (data : List (String × Json)) : PostgresTables :=
  { tables with
    runtimeEvents := tables.runtimeEvents ++
      [{ cursor := tables.sequence + 1, runId := id, eventType, data }]
    sequence := tables.sequence + 1 }

/-- `INSERT INTO control.attack_run … ON CONFLICT (job_key) DO NOTHING` -/
def insertRun (row : AttackRun) : Except StoreFault PostgresTables := do
  if (Table.find? AttackRun.jobKey tables.attackRuns row.jobKey).isSome then return tables
  ensure (Table.find? AttackRun.runId tables.attackRuns row.runId = none) .integrityError
  ensure (row.ruleVersionId ∈ tables.ruleVersions) .integrityError
  return { tables with attackRuns := tables.attackRuns ++ [row] }

/-- `create_run` -/
def createRun (uuid : String) (request : InMemoryRuntimeStore.RunRequest) :
    Except StoreFault (PostgresTables × AttackRun) := do
  let ruleVersionId ← castUuid request.ruleVersionId
  ensure request.Held .dataError
  let tables ← tables.insertRun {
    runId := uuid, jobKey := request.jobKey, ruleVersionId
    scenarioVersionId := request.scenarioVersionId, sandboxVersion := request.sandboxVersion
    defectAxes := request.defectAxes, oracleVersion := request.oracleVersion
    budget := request.budget, randomSeed := request.randomSeed }
  let row ← one (Table.find? AttackRun.jobKey tables.attackRuns request.jobKey)
  if row.runId = uuid then
    return (tables.insertEvent uuid "RUN_CREATED" [("status", .str AttackStatus.ready.value)], row)
  else return (tables, row)

/-- `get_run` -/
def getRun (runId : String) : Except StoreFault AttackRun := do
  let id ← castUuid runId
  one (Table.find? AttackRun.runId tables.attackRuns id)

/-- `UPDATE control.attack_run … WHERE id = … AND status = …`, with the event if it has
    changed a row. -/
def updateStatus (id : String) (expected target : AttackStatus)
    (outcome : Option AttackOutcome) : PostgresTables × Bool :=
  match Table.find? AttackRun.runId tables.attackRuns id with
  | some row =>
    if row.status = expected then
      let updated : PostgresTables := { tables with
        attackRuns :=
          Table.update AttackRun.runId tables.attackRuns { row with status := target, outcome } }
      (updated.insertEvent id "STATUS_CHANGED" [("from", .str expected.value),
        ("to", .str target.value), ("outcome", InMemoryRuntimeStore.outcomeJson outcome)], true)
    else (tables, false)
  | none => (tables, false)

/-- `compare_and_set_status` -/
def compareAndSetStatus (runId : String) (expected target : AttackStatus)
    (outcome : Option AttackOutcome) : Except StoreFault (PostgresTables × Bool) := do
  ensure (target ∈ expected.allowedTransitions) .valueError
  ensure (target.terminal = outcome.isSome) .valueError
  let id ← castUuid runId
  return tables.updateStatus id expected target outcome

/-- `request_cancel` -/
def requestCancel (runId : String) : Except StoreFault (PostgresTables × Bool) := do
  let run ← tables.getRun runId
  if run.status ∈ AttackStatus.cancellable then
    tables.compareAndSetStatus runId run.status .cancelRequested none
  else return (tables, false)

/-- `INSERT INTO control.strategy_run … ON CONFLICT (attack_run_id, strategy_type) DO NOTHING` -/
def insertStrategy (row : StrategyRun) : Except StoreFault PostgresTables := do
  if (Table.find? StrategyRun.key tables.strategyRuns row.key).isSome then return tables
  ensure (Table.find? StrategyRun.strategyRunId tables.strategyRuns row.strategyRunId = none)
    .integrityError
  ensure (Table.find? AttackRun.runId tables.attackRuns row.attackRunId).isSome .integrityError
  return { tables with strategyRuns := tables.strategyRuns ++ [row] }

/-- `ensure_strategy` -/
def ensureStrategy (uuid attackRunId : String) (strategyType : StrategyType) (budget : Budget) :
    Except StoreFault (PostgresTables × StrategyRun) := do
  let id ← castUuid attackRunId
  ensure budget.Held .dataError
  let tables ← tables.insertStrategy {
    strategyRunId := uuid, attackRunId := id, strategyType, status := .pending, budget }
  let row ← one (Table.find? StrategyRun.key tables.strategyRuns (id, strategyType))
  return (tables, row)

/-- `update_strategy`: the status and the usage are written. -/
def updateStrategy (strategy : StrategyRun) : Except StoreFault (PostgresTables × Unit) := do
  let id ← castUuid strategy.strategyRunId
  ensure strategy.usage.Held .dataError
  match Table.find? StrategyRun.strategyRunId tables.strategyRuns id with
  | some row =>
    return ({ tables with
      strategyRuns := Table.update StrategyRun.strategyRunId tables.strategyRuns
        { row with status := strategy.status, usage := strategy.usage } }, ())
  | none => throw .keyError

/-- `INSERT INTO control.checkpoint … ON CONFLICT (strategy_run_id) DO NOTHING` -/
def insertCheckpoint (id : String) (state : CheckpointState) :
    Except StoreFault (PostgresTables × Checkpoint) := do
  ensure (Table.find? Checkpoint.strategyRunId tables.checkpoints id = none) .valueError
  ensure (Table.find? StrategyRun.strategyRunId tables.strategyRuns id).isSome .integrityError
  let row : Checkpoint := { strategyRunId := id, version := 1, state }
  return ({ tables with checkpoints := tables.checkpoints ++ [row] }, row)

/-- `UPDATE control.checkpoint … WHERE strategy_run_id = … AND version = …` -/
def updateCheckpoint (id : String) (state : CheckpointState) (expectedVersion : Nat) :
    Except StoreFault (PostgresTables × Checkpoint) :=
  match Table.find? Checkpoint.strategyRunId tables.checkpoints id with
  | some current => do
    ensure (current.version = expectedVersion) .valueError
    let row : Checkpoint := { current with version := current.version + 1, state }
    return ({ tables with
      checkpoints := Table.update Checkpoint.strategyRunId tables.checkpoints row }, row)
  | none => throw .valueError

/-- `save_checkpoint` -/
def saveCheckpoint (strategyRunId : String) (state : CheckpointState) (expectedVersion : Nat) :
    Except StoreFault (PostgresTables × Checkpoint) := do
  let id ← castUuid strategyRunId
  ensure state.Held .dataError
  if expectedVersion = 0 then tables.insertCheckpoint id state
  else tables.updateCheckpoint id state expectedVersion

/-- `load_checkpoint` -/
def loadCheckpoint (strategyRunId : String) : Except StoreFault (Option Checkpoint) := do
  let id ← castUuid strategyRunId
  return Table.find? Checkpoint.strategyRunId tables.checkpoints id

/-- `append_event` -/
def appendEvent (runId eventType : String) (data : List (String × Json)) :
    Except StoreFault (PostgresTables × RuntimeEvent) := do
  let id ← castUuid runId
  ensure (PostgresTypes.holdsText eventType ∧ PostgresTypes.holdsJson (.obj data)) .dataError
  ensure (Table.find? AttackRun.runId tables.attackRuns id).isSome .integrityError
  return (tables.insertEvent id eventType data,
    { cursor := tables.sequence + 1, runId, eventType, data })

/-- The events of a run. -/
def log (id : String) : List RuntimeEvent :=
  tables.runtimeEvents.filter fun event => event.runId = id

/-- `events_after`. The events are inserted in the order of their cursors. -/
def eventsAfter (runId : String) (cursor : Nat) : Except StoreFault (List RuntimeEvent) := do
  let id ← castUuid runId
  return ((tables.log id).filter fun event => cursor < event.cursor).map
    fun event => { event with runId }

/-- `INSERT INTO control.counterexample … ON CONFLICT (attack_run_id, candidate_key)
    DO NOTHING` -/
def insertCounterexample (row : CounterexampleRecord) : Except StoreFault PostgresTables := do
  if (Table.find? CounterexampleRecord.key tables.counterexampleRows row.key).isSome then
    return tables
  ensure (Table.find? CounterexampleRecord.counterexampleId tables.counterexampleRows
    row.counterexampleId = none) .integrityError
  ensure (Table.find? AttackRun.runId tables.attackRuns row.attackRunId).isSome .integrityError
  return { tables with counterexampleRows := tables.counterexampleRows ++ [row] }

/-- `save_counterexample` -/
def saveCounterexample (record : CounterexampleRecord) :
    Except StoreFault (PostgresTables × CounterexampleRecord) := do
  let id ← castUuid record.counterexampleId
  let runId ← castUuid record.attackRunId
  ensure record.Held .dataError
  let tables ← tables.insertCounterexample
    { record with counterexampleId := id, attackRunId := runId }
  let row ← one (Table.find? CounterexampleRecord.key tables.counterexampleRows
    (runId, record.candidateKey))
  return (tables, row)

/-- `counterexamples` -/
def counterexamples (runId : String) : Except StoreFault (List CounterexampleRecord) := do
  let id ← castUuid runId
  return PostgresTypes.scan (tables.counterexampleRows.filter fun row => row.attackRunId = id)

end PostgresTables

/-! ## Calls -/

/-- A call of a store, with the identifier it generates if it makes a new record. The
    events of a run are asked for with the cursor of the one that is the so many-th. -/
inductive StoreCall
  | createRun (uuid : String) (request : InMemoryRuntimeStore.RunRequest)
  | getRun (runId : String)
  | compareAndSetStatus (runId : String) (expected target : AttackStatus)
      (outcome : Option AttackOutcome)
  | requestCancel (runId : String)
  | ensureStrategy (uuid attackRunId : String) (strategyType : StrategyType) (budget : Budget)
  | updateStrategy (strategy : StrategyRun)
  | saveCheckpoint (strategyRunId : String) (state : CheckpointState) (expectedVersion : Nat)
  | loadCheckpoint (strategyRunId : String)
  | appendEvent (runId eventType : String) (data : List (String × Json))
  | eventsAfter (runId : String) (seen : Nat)
  | saveCounterexample (record : CounterexampleRecord)
  | counterexamples (runId : String)

/-- What a call returns. -/
inductive StoreReply
  | done
  | run (run : AttackRun)
  | changed (changed : Bool)
  | strategy (strategy : StrategyRun)
  | saved (checkpoint : Checkpoint)
  | loaded (checkpoint : Option Checkpoint)
  | event (event : RuntimeEvent)
  | events (events : List RuntimeEvent)
  | record (record : CounterexampleRecord)
  | records (records : List CounterexampleRecord)

/-- An event without its cursor. -/
def RuntimeEvent.fact (event : RuntimeEvent) : String × String × List (String × Json) :=
  (event.runId, event.eventType, event.data)

/-- Two replies are equal up to cursors and the order of counterexamples. -/
inductive StoreReply.Alike : StoreReply → StoreReply → Prop
  | same (reply : StoreReply) : Alike reply reply
  | event {left right : RuntimeEvent} (h : left.fact = right.fact) : Alike (.event left) (.event right)
  | events {left right : List RuntimeEvent}
    (h : left.map RuntimeEvent.fact = right.map RuntimeEvent.fact) :
    Alike (.events left) (.events right)
  | records {left right : List CounterexampleRecord} (h : left.Perm right) :
    Alike (.records left) (.records right)

/-- A store after a call, which is the same one if the call raises, and the reply. -/
def answer {σ α : Type} (store : σ) (reply : α → StoreReply) :
    Except StoreFault (σ × α) → σ × Except StoreFault StoreReply
  | .ok (store, a) => (store, .ok (reply a))
  | .error fault => (store, .error fault)

/-- A call that only reads. -/
def reading {σ α : Type} (store : σ) (result : Except StoreFault α) : Except StoreFault (σ × α) :=
  result.map fun a => (store, a)

namespace InMemoryRuntimeStore

/-- An error of the in-memory store among those of both. -/
def raised {α : Type} (result : Except StoreError α) : Except StoreFault α :=
  result.mapError StoreError.fault

/-- A call of the in-memory store. -/
def call (store : InMemoryRuntimeStore) :
    StoreCall → InMemoryRuntimeStore × Except StoreFault StoreReply
  | .createRun uuid request => answer store .run (raised (store.createRun uuid request))
  | .getRun runId => answer store .run (reading store (raised (store.getRun runId)))
  | .compareAndSetStatus runId expected target outcome =>
    answer store .changed (raised (store.compareAndSetStatus runId expected target outcome))
  | .requestCancel runId => answer store .changed (raised (store.requestCancel runId))
  | .ensureStrategy uuid attackRunId strategyType budget =>
    answer store .strategy (raised (store.ensureStrategy uuid attackRunId strategyType budget))
  | .updateStrategy strategy =>
    answer store (fun _ => .done) (raised (store.updateStrategy strategy))
  | .saveCheckpoint strategyRunId state expectedVersion =>
    answer store .saved (raised (store.saveCheckpoint strategyRunId state expectedVersion))
  | .loadCheckpoint strategyRunId =>
    answer store .loaded (reading store (.ok (store.checkpoints strategyRunId)))
  | .appendEvent runId eventType data =>
    answer store .event (.ok (store.appendEvent runId eventType data))
  | .eventsAfter runId seen =>
    answer store .events (reading store (raised (store.eventsAfter runId seen)))
  | .saveCounterexample record => answer store .record (.ok (store.saveCounterexample record))
  | .counterexamples runId =>
    answer store .records (reading store (.ok (store.counterexamples runId)))

/-- The replies to a sequence of calls. -/
def replies (store : InMemoryRuntimeStore) : List StoreCall → List (Except StoreFault StoreReply)
  | [] => []
  | call :: calls => (store.call call).2 :: (store.call call).1.replies calls

end InMemoryRuntimeStore

namespace PostgresTables

variable [PostgresTypes]

/-- The cursor of the event of a run that is the so many-th, or the last one of all if the
    run has not so many. -/
def cursorOf (tables : PostgresTables) (runId : String) : Nat → Nat
  | 0 => 0
  | seen + 1 => (((tables.log runId)[seen]?).map RuntimeEvent.cursor).getD tables.sequence

/-- A call of the database. An event that is refused has used up a cursor. -/
def call (tables : PostgresTables) :
    StoreCall → PostgresTables × Except StoreFault StoreReply
  | .createRun uuid request => answer tables .run (tables.createRun uuid request)
  | .getRun runId => answer tables .run (reading tables (tables.getRun runId))
  | .compareAndSetStatus runId expected target outcome =>
    answer tables .changed (tables.compareAndSetStatus runId expected target outcome)
  | .requestCancel runId => answer tables .changed (tables.requestCancel runId)
  | .ensureStrategy uuid attackRunId strategyType budget =>
    answer tables .strategy (tables.ensureStrategy uuid attackRunId strategyType budget)
  | .updateStrategy strategy => answer tables (fun _ => .done) (tables.updateStrategy strategy)
  | .saveCheckpoint strategyRunId state expectedVersion =>
    answer tables .saved (tables.saveCheckpoint strategyRunId state expectedVersion)
  | .loadCheckpoint strategyRunId =>
    answer tables .loaded (reading tables (tables.loadCheckpoint strategyRunId))
  | .appendEvent runId eventType data =>
    answer { tables with sequence := tables.sequence + 1 } .event
      (tables.appendEvent runId eventType data)
  | .eventsAfter runId seen =>
    answer tables .events (reading tables (tables.eventsAfter runId (tables.cursorOf runId seen)))
  | .saveCounterexample record => answer tables .record (tables.saveCounterexample record)
  | .counterexamples runId =>
    answer tables .records (reading tables (tables.counterexamples runId))

/-- The replies to a sequence of calls. -/
def replies (tables : PostgresTables) : List StoreCall → List (Except StoreFault StoreReply)
  | [] => []
  | call :: calls => (tables.call call).2 :: (tables.call call).1.replies calls

end PostgresTables

/-! ## Calls that the stores answer alike -/

section Agrees

variable [PostgresTypes]

open PostgresTypes (castUuid holdsText holdsJson)

/-- The call names records that are there, by identifiers and with values that the columns
    take, and the identifiers it generates are new. -/
def StoreCall.Agrees (versions : List String) (store : InMemoryRuntimeStore) : StoreCall → Prop
  | .createRun uuid request =>
    (StoreOp.createRun uuid request).Fresh store ∧ castUuid uuid = some uuid ∧ request.Held ∧
      if (store.jobs request.jobKey).isSome then (castUuid request.ruleVersionId).isSome = true
      else castUuid request.ruleVersionId = some request.ruleVersionId ∧
        request.ruleVersionId ∈ versions
  | .getRun runId | .requestCancel runId | .eventsAfter runId _ => (store.runs runId).isSome
  -- A transition that is not allowed is refused before the run is looked up.
  | .compareAndSetStatus runId expected target outcome =>
    target ∈ expected.allowedTransitions ∧ target.terminal = outcome.isSome →
      (store.runs runId).isSome
  | .ensureStrategy uuid attackRunId strategyType budget =>
    (StoreOp.ensureStrategy uuid attackRunId strategyType budget).Fresh store ∧
      castUuid uuid = some uuid ∧ budget.Held ∧ (store.runs attackRunId).isSome
  | .updateStrategy strategy =>
    strategy.usage.Held ∧ ∃ id ∈ castUuid strategy.strategyRunId, ∀ row ∈ store.strategies id,
      strategy = { row with status := strategy.status, usage := strategy.usage }
  | .saveCheckpoint strategyRunId state expectedVersion =>
    state.Held ∧ ∃ id ∈ castUuid strategyRunId,
      if expectedVersion = 0 then
        id = strategyRunId ∧ ((store.checkpoints id).isSome ∨ (store.strategies id).isSome)
      else id = strategyRunId ∨ ∀ current ∈ store.checkpoints id, current.version ≠ expectedVersion
  | .loadCheckpoint strategyRunId =>
    ∃ id ∈ castUuid strategyRunId, id = strategyRunId ∨ store.checkpoints id = none
  | .appendEvent runId eventType data =>
    (store.runs runId).isSome ∧ holdsText eventType ∧ holdsJson (.obj data)
  | .saveCounterexample record =>
    record.Held ∧ (castUuid record.counterexampleId).isSome ∧
      ((∃ row ∈ store.counterexampleRecords, row.key = record.key) ∨
        castUuid record.counterexampleId = some record.counterexampleId ∧
        (∀ row ∈ store.counterexampleRecords, row.counterexampleId ≠ record.counterexampleId) ∧
        (store.runs record.attackRunId).isSome)
  | .counterexamples runId =>
    ∃ id ∈ castUuid runId, id = runId ∨ ∀ row ∈ store.counterexampleRecords, row.attackRunId ≠ id

instance (versions : List String) (store : InMemoryRuntimeStore) (call : StoreCall) :
    Decidable (call.Agrees versions store) := by
  cases call <;> unfold StoreCall.Agrees <;> infer_instance

/-- Each of the calls is such a call of the store it finds. -/
def AllAgree (versions : List String) (store : InMemoryRuntimeStore) : List StoreCall → Prop
  | [] => True
  | call :: calls => call.Agrees versions store ∧ AllAgree versions (store.call call).1 calls

instance decidableAllAgree (versions : List String) :
    (store : InMemoryRuntimeStore) → (calls : List StoreCall) →
      Decidable (AllAgree versions store calls)
  | _, [] => .isTrue trivial
  | store, call :: calls =>
    let _ := decidableAllAgree versions (store.call call).1 calls
    inferInstanceAs (Decidable (_ ∧ _))

end Agrees

/-! ## Records in both stores -/

/-- A lookup under another key, after a replacement that keeps it. -/
theorem Table.find?_update_of_same {κ κ' α : Type} [DecidableEq κ] [DecidableEq κ'] {key : α → κ}
    {key' : α → κ'} {rows : List α} {row : α}
    (same : ∀ r ∈ rows, key r = key row → key' r = key' row) (k : κ') :
    Table.find? key' (Table.update key rows row) k =
      (Table.find? key' rows k).map fun r => if key r = key row then row else r := by
  induction rows with
  | nil => rfl
  | cons a rows ih =>
    have rest := ih fun r hr => same r (List.mem_cons_of_mem a hr)
    have head : key' (if key a = key row then row else a) = key' a := by
      split
      · next h => exact (same a List.mem_cons_self h).symm
      · rfl
    simp only [Table.find?, Table.update, List.map_cons, List.find?_cons, head] at rest ⊢
    split
    · rfl
    · exact rest

section Indexed

variable [PostgresTypes] {κ α : Type} [DecidableEq κ] {entries : String → Option α}
  {index : κ → Option String} {id : α → String} {unique : α → κ} {rows : List α}

/-- The entries of a dictionary, with an index, are the rows of a table, with a column that
    is unique. -/
structure Indexed (entries : String → Option α) (index : κ → Option String) (id : α → String)
    (unique : α → κ) (rows : List α) : Prop where
  entry : ∀ k, entries k = Table.find? id rows k
  index : ∀ k, index k = (Table.find? unique rows k).map id
  keyed : Table.Keyed id rows
  canonical : ∀ row ∈ rows, PostgresTypes.castUuid (id row) = some (id row)

namespace Indexed

theorem empty : Indexed (fun _ => none) (fun _ => none) id unique ([] : List α) :=
  ⟨fun _ => rfl, fun _ => rfl, List.nodup_nil, nofun⟩

/-- The identifier of an entry is one of the database. -/
theorem castUuid_eq (h : Indexed entries index id unique rows) {k : String}
    (known : (entries k).isSome) : PostgresTypes.castUuid k = some k := by
  obtain ⟨row, found⟩ := Option.isSome_iff_exists.1 known
  rw [h.entry] at found
  have := h.canonical row (Table.mem_of_find? found)
  rwa [Table.key_of_find? found] at this

theorem append (h : Indexed entries index id unique rows) (row : α) (new : entries (id row) = none)
    (newKey : index (unique row) = none)
    (canonical : PostgresTypes.castUuid (id row) = some (id row)) :
    Indexed (insertEntry entries (id row) row) (insertEntry index (unique row) (id row)) id unique
      (rows ++ [row]) where
  entry k := by
    rw [Table.find?_append, ← h.entry]
    -- the new row is found under its own identifier, and the others as before
    by_cases e : id row = k
    · subst e
      rw [InMemoryRuntimeStore.insertEntry_self, new, if_pos rfl, Option.none_or]
    · rw [InMemoryRuntimeStore.insertEntry_of_ne (Ne.symm e), if_neg e, Option.or_none]
  index k := by
    rw [Table.find?_append]
    by_cases e : unique row = k
    · subst e
      have none : Table.find? unique rows (unique row) = none := by
        rw [h.index, Option.map_eq_none_iff] at newKey
        exact newKey
      rw [InMemoryRuntimeStore.insertEntry_self, none, if_pos rfl, Option.none_or]
      rfl
    · rw [InMemoryRuntimeStore.insertEntry_of_ne (Ne.symm e), if_neg e, Option.or_none, h.index]
  keyed := by
    rw [h.entry, Table.find?_eq_none] at new
    rw [Table.Keyed, List.map_append, List.nodup_append]
    refine ⟨h.keyed, List.nodup_singleton _, fun a ha b hb e => new ?_⟩
    obtain rfl := List.mem_singleton.1 hb
    exact e ▸ ha
  canonical r hr := by
    rcases List.mem_append.1 hr with hr | hr
    · exact h.canonical r hr
    · obtain rfl := List.mem_singleton.1 hr
      exact canonical

theorem update (h : Indexed entries index id unique rows) {key : String} {row old : α}
    (named : id row = key) (found : entries key = some old) (same : unique row = unique old) :
    Indexed (insertEntry entries key row) index id unique (Table.update id rows row) where
  entry k := by
    rw [Table.find?_update, ← h.entry, named]
    split
    · next e =>
      subst e
      rw [InMemoryRuntimeStore.insertEntry_self, found]
      rfl
    · next e => exact InMemoryRuntimeStore.insertEntry_of_ne e row
  index k := by
    rw [h.entry] at found
    rw [Table.find?_update_of_same, h.index, Option.map_map]
    · congr 1
      funext r
      by_cases e : id r = id row
      · rw [Function.comp_apply, if_pos e, e]
      · rw [Function.comp_apply, if_neg e]
    · intro r hr e
      have := Table.find?_of_mem h.keyed hr
      rw [e, named, found] at this
      rw [same, Option.some.inj this]
  keyed := by
    rw [Table.Keyed, Table.map_key_update]
    exact h.keyed
  canonical r hr := by
    rcases Table.mem_update hr with rfl | ⟨hr, -⟩
    · rw [h.entry] at found
      have := h.canonical old (Table.mem_of_find? found)
      rwa [Table.key_of_find? found, ← named] at this
    · exact h.canonical r hr

end Indexed

end Indexed

/-! ## Logs in both stores -/

/-- The logs of the runs that are known tell the same as the rows of the table of events,
    and these have growing cursors. -/
structure LogTwins (known : String → Prop) (log : String → List RuntimeEvent)
    (events : List RuntimeEvent) (sequence : Nat) : Prop where
  facts : ∀ id, (log id).map RuntimeEvent.fact =
    (events.filter fun event => event.runId = id).map RuntimeEvent.fact
  owned : ∀ event ∈ events, known event.runId
  ordered : events.Pairwise fun first second => first.cursor < second.cursor
  bounded : ∀ event ∈ events, 0 < event.cursor ∧ event.cursor ≤ sequence

namespace LogTwins

variable {known known' : String → Prop} {log log' : String → List RuntimeEvent}
  {events : List RuntimeEvent} {sequence : Nat}

theorem mono (h : LogTwins known log events sequence) (imp : ∀ id, known id → known' id) :
    LogTwins known' log events sequence :=
  ⟨h.facts, fun event hm => imp _ (h.owned event hm), h.ordered, h.bounded⟩

/-- A run that is not known has no events. -/
theorem log_eq_nil (h : LogTwins known log events sequence) {id : String} (new : ¬ known id) :
    log id = [] := by
  have none : (events.filter fun event => event.runId = id) = [] := by
    rw [List.filter_eq_nil_iff]
    intro event hm e
    exact new (of_decide_eq_true e ▸ h.owned event hm)
  have := h.facts id
  rwa [none, List.map_nil, List.map_eq_nil_iff] at this

/-- An event of a run is appended to its log, and to the table under the next cursor. -/
theorem append (h : LogTwins known log events sequence) {runId eventType : String}
    {data : List (String × Json)} (owner : known runId) {cursor : String → Nat}
    (grown : ∀ id, log' id = log id ++
      if runId = id then [{ cursor := cursor id, runId := id, eventType, data }] else []) :
    LogTwins known log' (events ++ [{ cursor := sequence + 1, runId, eventType, data }])
      (sequence + 1) where
  facts id := by
    rw [grown, List.map_append, h.facts, List.filter_append, List.map_append]
    by_cases e : runId = id
    · simp [e, RuntimeEvent.fact]
    · simp [e]
  owned other hm := by
    rcases List.mem_append.1 hm with hm | hm
    · exact h.owned other hm
    · obtain rfl := List.mem_singleton.1 hm
      exact owner
  ordered := by
    refine List.pairwise_append.2 ⟨h.ordered, List.pairwise_singleton .., fun a ha b hb => ?_⟩
    obtain rfl := List.mem_singleton.1 hb
    exact Nat.lt_succ_of_le (h.bounded a ha).2
  bounded other hm := by
    rcases List.mem_append.1 hm with hm | hm
    · have := h.bounded other hm
      omega
    · obtain rfl := List.mem_singleton.1 hm
      exact ⟨Nat.succ_pos sequence, le_rfl⟩

end LogTwins

/-- Of events with growing cursors, those above the cursor of one are the ones after it. -/
theorem filter_cursor_getElem {events : List RuntimeEvent}
    (ordered : events.Pairwise fun first second => first.cursor < second.cursor) {n : Nat}
    (h : n < events.length) :
    events.filter (fun event => events[n].cursor < event.cursor) = events.drop (n + 1) := by
  induction events generalizing n with
  | nil => exact absurd h (Nat.not_lt_zero n)
  | cons event events ih =>
    obtain ⟨head, tail⟩ := List.pairwise_cons.1 ordered
    cases n with
    | zero =>
      rw [List.getElem_cons_zero, List.filter_cons, if_neg (by simp), List.drop_succ_cons,
        List.drop_zero, List.filter_eq_self]
      exact fun other hm => decide_eq_true (head other hm)
    | succ n =>
      have later : n < events.length := Nat.lt_of_succ_lt_succ h
      have above := head _ (List.getElem_mem later)
      rw [List.getElem_cons_succ, List.filter_cons, if_neg (by simpa using by omega), ih tail later,
        List.drop_succ_cons]

/-! ## Stores that keep the same -/

section Twins

variable [PostgresTypes]

/-- The stores keep the same records. -/
structure Twins (versions : List String) (store : InMemoryRuntimeStore) (tables : PostgresTables) :
    Prop where
  reachable : store.Reachable
  versions : tables.ruleVersions = versions
  runs : Indexed store.runs store.jobs AttackRun.runId AttackRun.jobKey tables.attackRuns
  strategies : Indexed store.strategies store.strategyKeys StrategyRun.strategyRunId StrategyRun.key
    tables.strategyRuns
  checkpoints : ∀ id, store.checkpoints id =
    Table.find? Checkpoint.strategyRunId tables.checkpoints id
  saved : ∀ row ∈ tables.checkpoints,
    PostgresTypes.castUuid row.strategyRunId = some row.strategyRunId ∧ 0 < row.version
  records : store.counterexampleRecords = tables.counterexampleRows
  named : ∀ row ∈ tables.counterexampleRows,
    PostgresTypes.castUuid row.attackRunId = some row.attackRunId
  events : LogTwins (fun id => (store.runs id).isSome) store.log tables.runtimeEvents
    tables.sequence

/-- The two computations of a reply come to stores that keep the same, and to replies that
    are alike, or raise the same. -/
def Twinned {α : Type} (versions : List String) (reply : α → StoreReply)
    (left : Except StoreFault (InMemoryRuntimeStore × α))
    (right : Except StoreFault (PostgresTables × α)) : Prop :=
  Checked.Related (fun p q => Twins versions p.1 q.1 ∧ (reply p.2).Alike (reply q.2)) left right

variable {versions : List String} {store store' : InMemoryRuntimeStore}
  {tables tables' : PostgresTables} {α : Type} {reply : α → StoreReply}

/-- Both succeed, with the same value. -/
theorem Twinned.ok (twins : Twins versions store' tables') (a : α) :
    Twinned versions reply (.ok (store', a)) (.ok (tables', a)) :=
  Checked.Related.ok ⟨twins, .same _⟩

/-- What the calls answer. -/
theorem Twinned.answer {left : Except StoreFault (InMemoryRuntimeStore × α)}
    {right : Except StoreFault (PostgresTables × α)} (h : Twinned versions reply left right)
    (twins : Twins versions store tables) :
    Twins versions (answer store reply left).1 (answer tables reply right).1 ∧
      Checked.Related StoreReply.Alike (answer store reply left).2 (answer tables reply right).2 := by
  cases h with
  | ok h => exact ⟨h.1, .ok h.2⟩
  | error fault => exact ⟨twins, .error fault⟩

/-- What the calls answer when both succeed. -/
theorem Twinned.answer_ok {left : InMemoryRuntimeStore × α}
    {right : Except StoreFault (PostgresTables × α)} (h : Twinned versions reply (.ok left) right)
    (store : InMemoryRuntimeStore) (tables : PostgresTables) :
    Twins versions (RuleArena.answer store reply (.ok left)).1
        (RuleArena.answer tables reply right).1 ∧
      Checked.Related StoreReply.Alike (RuleArena.answer store reply (.ok left)).2
        (RuleArena.answer tables reply right).2 := by
  cases h with
  | ok h => exact ⟨h.1, .ok h.2⟩

namespace PostgresTables

theorem castUuid_of_eq {text id : String} (h : PostgresTypes.castUuid text = some id) :
    castUuid text = .ok id := by
  unfold castUuid
  rw [h]
  rfl

end PostgresTables

omit [PostgresTypes] in
/-- The store that an operation leads to can be reached. -/
theorem InMemoryRuntimeStore.Reachable.of_ok (reachable : store.Reachable) (op : StoreOp)
    (fresh : op.Fresh store) {result : Except StoreError (InMemoryRuntimeStore × α)} {a : α}
    (applied : store.apply op = store.orSame result) (ok : result = .ok (store', a)) :
    store'.Reachable := by
  have := Reachable.apply op fresh reachable
  rwa [applied, ok] at this

namespace Twins

/-- A run that is there is a row under the same identifier. -/
theorem find_run (twins : Twins versions store tables) {runId : String} {run : AttackRun}
    (known : store.runs runId = some run) :
    PostgresTables.castUuid runId = .ok runId ∧
      Table.find? AttackRun.runId tables.attackRuns runId = some run := by
  refine ⟨PostgresTables.castUuid_of_eq (twins.runs.castUuid_eq ?_), ?_⟩
  · rw [known]
    rfl
  · rw [← twins.runs.entry, known]

/-- `get_run` -/
theorem getRun (twins : Twins versions store tables) {runId : String}
    (known : (store.runs runId).isSome) :
    Twinned versions .run (reading store (InMemoryRuntimeStore.raised (store.getRun runId)))
      (reading tables (tables.getRun runId)) := by
  obtain ⟨run, found⟩ := Option.isSome_iff_exists.1 known
  obtain ⟨cast, row⟩ := twins.find_run found
  have left : store.getRun runId = .ok run := InMemoryRuntimeStore.entry_eq_ok.2 found
  have right : tables.getRun runId = .ok run := by
    rw [PostgresTables.getRun, cast, Checked.ok_bind, row]
    rfl
  rw [left, right]
  exact .ok twins run

/-- The row of a run that is there is changed with its entry, and the change is appended to
    its log. -/
theorem changed (twins : Twins versions store tables) {runId : String} {run : AttackRun}
    (known : store.runs runId = some run) (target : AttackStatus) (outcome : Option AttackOutcome)
    (data : List (String × Json)) (reachable : store'.Reachable)
    (left : store' = (InMemoryRuntimeStore.appendEvent { store with
      runs := insertEntry store.runs runId { run with status := target, outcome } } runId
      "STATUS_CHANGED" data).1) :
    Twins versions store' (PostgresTables.insertEvent { tables with
      attackRuns := Table.update AttackRun.runId tables.attackRuns
        { run with status := target, outcome } } runId "STATUS_CHANGED" data) := by
  have found := known
  rw [twins.runs.entry] at found
  have same : run.runId = runId := Table.key_of_find? found
  -- the runs that are known stay known
  have kept : ∀ id, (store.runs id).isSome →
      (insertEntry store.runs runId { run with status := target, outcome } id).isSome := by
    intro id h
    by_cases e : id = runId
    · rw [e, InMemoryRuntimeStore.insertEntry_self]
      rfl
    · rwa [InMemoryRuntimeStore.insertEntry_of_ne e]
  have runs : Indexed (insertEntry store.runs runId { run with status := target, outcome })
      store.jobs AttackRun.runId AttackRun.jobKey
      (Table.update AttackRun.runId tables.attackRuns { run with status := target, outcome }) :=
    twins.runs.update same known rfl
  have events := (twins.events.mono kept).append (kept runId (by rw [known]; rfl)) fun id =>
    (congrArg (fun store => store.log id) left).trans
      (InMemoryRuntimeStore.log_appendEvent runId "STATUS_CHANGED" data)
  subst left
  exact ⟨reachable, twins.versions, runs, twins.strategies, twins.checkpoints, twins.saved,
    twins.records, twins.named, events⟩

/-- `compare_and_set_status` -/
theorem compareAndSetStatus (twins : Twins versions store tables) {runId : String}
    {expected target : AttackStatus} {outcome : Option AttackOutcome}
    (known : target ∈ expected.allowedTransitions ∧ target.terminal = outcome.isSome →
      (store.runs runId).isSome) :
    Twinned versions .changed
      (InMemoryRuntimeStore.raised (store.compareAndSetStatus runId expected target outcome))
      (tables.compareAndSetStatus runId expected target outcome) := by
  by_cases allowed : target ∈ expected.allowedTransitions
  swap
  · rw [InMemoryRuntimeStore.compareAndSetStatus, PostgresTables.compareAndSetStatus,
      Checked.ensure_of_neg allowed, Checked.ensure_of_neg allowed]
    exact Checked.Related.error StoreFault.valueError
  by_cases terminal : target.terminal = outcome.isSome
  swap
  · rw [InMemoryRuntimeStore.compareAndSetStatus, PostgresTables.compareAndSetStatus,
      Checked.ensure_of_pos allowed, Checked.ensure_of_pos allowed,
      Checked.ensure_of_neg terminal, Checked.ensure_of_neg terminal]
    exact Checked.Related.error StoreFault.valueError
  -- both stores refuse the same transitions, and look the run up
  obtain ⟨run, found⟩ := Option.isSome_iff_exists.1 (known ⟨allowed, terminal⟩)
  obtain ⟨cast, row⟩ := twins.find_run found
  have entry : InMemoryRuntimeStore.entry (store.runs runId) = .ok run :=
    InMemoryRuntimeStore.entry_eq_ok.2 found
  have right : tables.compareAndSetStatus runId expected target outcome =
      .ok (tables.updateStatus runId expected target outcome) := by
    rw [PostgresTables.compareAndSetStatus, Checked.ensure_of_pos allowed,
      Checked.ensure_of_pos terminal, cast]
    rfl
  rw [right, PostgresTables.updateStatus, row]
  dsimp only
  -- either the status is the expected one in both, or nothing is changed
  by_cases same : run.status = expected
  · have left : store.compareAndSetStatus runId expected target outcome = .ok
        ((InMemoryRuntimeStore.appendEvent { store with
          runs := insertEntry store.runs runId { run with status := target, outcome } } runId
          "STATUS_CHANGED" [("from", .str expected.value), ("to", .str target.value),
            ("outcome", InMemoryRuntimeStore.outcomeJson outcome)]).1, true) := by
      rw [InMemoryRuntimeStore.compareAndSetStatus, Checked.ensure_of_pos allowed,
        Checked.ensure_of_pos terminal, entry, Checked.ok_bind, Checked.ok_bind, Checked.ok_bind,
        if_pos same]
      rfl
    have reachable := twins.reachable.of_ok (.compareAndSetStatus runId expected target outcome)
      trivial rfl left
    rw [left, if_pos same]
    exact .ok (twins.changed found target outcome _ reachable rfl) true
  · have left : store.compareAndSetStatus runId expected target outcome = .ok (store, false) := by
      rw [InMemoryRuntimeStore.compareAndSetStatus, Checked.ensure_of_pos allowed,
        Checked.ensure_of_pos terminal, entry, Checked.ok_bind, Checked.ok_bind, Checked.ok_bind,
        if_neg same]
      rfl
    rw [left, if_neg same]
    exact .ok twins false

/-- `request_cancel` -/
theorem requestCancel (twins : Twins versions store tables) {runId : String}
    (known : (store.runs runId).isSome) :
    Twinned versions .changed (InMemoryRuntimeStore.raised (store.requestCancel runId))
      (tables.requestCancel runId) := by
  obtain ⟨run, found⟩ := Option.isSome_iff_exists.1 known
  obtain ⟨cast, row⟩ := twins.find_run found
  have left : store.getRun runId = .ok run := InMemoryRuntimeStore.entry_eq_ok.2 found
  have right : tables.getRun runId = .ok run := by
    rw [PostgresTables.getRun, cast, Checked.ok_bind, row]
    rfl
  rw [← InMemoryRuntimeStore.requestCancelDuring_nil, InMemoryRuntimeStore.requestCancelDuring,
    PostgresTables.requestCancel, left, right, Checked.ok_bind, Checked.ok_bind]
  by_cases status : run.status ∈ AttackStatus.cancellable
  · rw [if_pos status, if_pos status]
    exact twins.compareAndSetStatus fun _ => known
  · rw [if_neg status, if_neg status]
    exact .ok twins false

/-- A job key that is known gives back the same run. -/
theorem createRun_known (twins : Twins versions store tables) {uuid : String}
    {request : InMemoryRuntimeStore.RunRequest} (fresh : store.runs uuid = none)
    (held : request.Held) (known : (store.jobs request.jobKey).isSome)
    (cast : (PostgresTypes.castUuid request.ruleVersionId).isSome) :
    Twinned versions .run (InMemoryRuntimeStore.raised (store.createRun uuid request))
      (tables.createRun uuid request) := by
  obtain ⟨runId, job⟩ := Option.isSome_iff_exists.1 known
  obtain ⟨version, cast⟩ := Option.isSome_iff_exists.1 cast
  have indexed := job
  rw [twins.runs.index, Option.map_eq_some_iff] at indexed
  obtain ⟨row, found, rfl⟩ := indexed
  have entry : store.runs row.runId = some row := by
    rw [twins.runs.entry]
    exact Table.find?_of_mem twins.runs.keyed (Table.mem_of_find? found)
  -- the row under the job key is not the one that would be inserted
  have other : row.runId ≠ uuid := by
    rintro rfl
    rw [fresh] at entry
    cases entry
  have left : store.createRun uuid request = .ok (store, row) := by
    rw [InMemoryRuntimeStore.createRun, job]
    dsimp only
    rw [InMemoryRuntimeStore.entry_eq_ok.2 entry]
    rfl
  -- the insertion does nothing on the conflict, and the row is read
  have right : tables.createRun uuid request = .ok (tables, row) := by
    rw [PostgresTables.createRun, PostgresTables.castUuid_of_eq cast, Checked.ok_bind,
      Checked.ensure_of_pos held, Checked.ok_bind, PostgresTables.insertRun, found]
    dsimp only [Option.isSome_some]
    rw [if_pos rfl]
    change (PostgresTables.one (Table.find? AttackRun.jobKey tables.attackRuns request.jobKey) >>=
      _) = _
    rw [found]
    change (if row.runId = uuid then _ else _) = _
    rw [if_neg other]
    rfl
  rw [left, right]
  exact .ok twins row

/-- A job key that is new makes the same run. -/
theorem createRun_new (twins : Twins versions store tables) {uuid : String}
    {request : InMemoryRuntimeStore.RunRequest}
    (fresh : (StoreOp.createRun uuid request).Fresh store)
    (canonical : PostgresTypes.castUuid uuid = some uuid) (held : request.Held)
    (new : store.jobs request.jobKey = none)
    (cast : PostgresTypes.castUuid request.ruleVersionId = some request.ruleVersionId)
    (version : request.ruleVersionId ∈ versions) :
    Twinned versions .run (InMemoryRuntimeStore.raised (store.createRun uuid request))
      (tables.createRun uuid request) := by
  let item : AttackRun := {
    runId := uuid, jobKey := request.jobKey, ruleVersionId := request.ruleVersionId
    scenarioVersionId := request.scenarioVersionId, sandboxVersion := request.sandboxVersion
    defectAxes := request.defectAxes, oracleVersion := request.oracleVersion
    budget := request.budget, randomSeed := request.randomSeed }
  have noKey : Table.find? AttackRun.jobKey tables.attackRuns request.jobKey = none := by
    rw [twins.runs.index, Option.map_eq_none_iff] at new
    exact new
  have noId : Table.find? AttackRun.runId tables.attackRuns uuid = none := by
    rw [← twins.runs.entry]
    exact fresh.1
  have runs : Indexed (insertEntry store.runs uuid item) (insertEntry store.jobs request.jobKey uuid)
      AttackRun.runId AttackRun.jobKey (tables.attackRuns ++ [item]) :=
    twins.runs.append item fresh.1 new canonical
  let created : InMemoryRuntimeStore := { store with
    runs := insertEntry store.runs uuid item
    jobs := insertEntry store.jobs request.jobKey uuid
    events := insertEntry store.events uuid [] }
  have left : store.createRun uuid request = .ok ((created.appendEvent uuid "RUN_CREATED"
      [("status", .str AttackStatus.ready.value)]).1, item) := by
    rw [InMemoryRuntimeStore.createRun, new]
    rfl
  have right : tables.createRun uuid request = .ok (PostgresTables.insertEvent { tables with
      attackRuns := tables.attackRuns ++ [item] } uuid "RUN_CREATED"
      [("status", .str AttackStatus.ready.value)], item) := by
    have inserted : Table.find? AttackRun.jobKey (tables.attackRuns ++ [item]) request.jobKey =
        some item := by
      rw [Table.find?_append, noKey, if_pos rfl, Option.none_or]
    rw [PostgresTables.createRun, PostgresTables.castUuid_of_eq cast, Checked.ok_bind,
      Checked.ensure_of_pos held, Checked.ok_bind, PostgresTables.insertRun]
    dsimp only
    rw [noKey, if_neg (by simp), Checked.ensure_of_pos noId,
      Checked.ensure_of_pos (by rw [twins.versions]; exact version)]
    change (PostgresTables.one (Table.find? AttackRun.jobKey (tables.attackRuns ++ [item])
      request.jobKey) >>= _) = _
    rw [inserted]
    change (if item.runId = uuid then _ else _) = _
    rw [if_pos rfl]
    rfl
  have kept : ∀ id, (store.runs id).isSome → (insertEntry store.runs uuid item id).isSome := by
    intro id known
    by_cases e : id = uuid
    · rw [e, InMemoryRuntimeStore.insertEntry_self]
      rfl
    · rwa [InMemoryRuntimeStore.insertEntry_of_ne e]
  have log : created.log = store.log := by
    -- The new run had no events, and now it has an empty log.
    funext id
    by_cases e : id = uuid
    · subst e
      rw [twins.events.log_eq_nil (by rw [fresh.1]; simp)]
      simp [created, InMemoryRuntimeStore.log]
    · simp only [created, InMemoryRuntimeStore.log, InMemoryRuntimeStore.insertEntry_of_ne e]
  have there : (insertEntry store.runs uuid item uuid).isSome := by
    rw [InMemoryRuntimeStore.insertEntry_self]
    rfl
  have events := (twins.events.mono kept).append there fun id =>
    (InMemoryRuntimeStore.log_appendEvent uuid "RUN_CREATED"
      [("status", .str AttackStatus.ready.value)]).trans (by rw [log])
  have reachable := twins.reachable.of_ok (.createRun uuid request) fresh rfl left
  rw [left, right]
  refine Twinned.ok ?_ item
  exact ⟨reachable, twins.versions, runs, twins.strategies, twins.checkpoints, twins.saved,
    twins.records, twins.named, events⟩

/-- `ensure_strategy` -/
theorem ensureStrategy (twins : Twins versions store tables) {uuid attackRunId : String}
    {strategyType : StrategyType} {budget : Budget}
    (fresh : (StoreOp.ensureStrategy uuid attackRunId strategyType budget).Fresh store)
    (canonical : PostgresTypes.castUuid uuid = some uuid) (held : budget.Held)
    (known : (store.runs attackRunId).isSome) :
    Twinned versions .strategy
      (InMemoryRuntimeStore.raised (store.ensureStrategy uuid attackRunId strategyType budget))
      (tables.ensureStrategy uuid attackRunId strategyType budget) := by
  obtain ⟨run, there⟩ := Option.isSome_iff_exists.1 known
  obtain ⟨cast, runRow⟩ := twins.find_run there
  let item : StrategyRun := {
    strategyRunId := uuid, attackRunId, strategyType, status := .pending, budget }
  -- the database inserts where there is no conflict, and reads the row
  have inserting : tables.ensureStrategy uuid attackRunId strategyType budget = (do
      let tables ← tables.insertStrategy item
      let row ← PostgresTables.one
        (Table.find? StrategyRun.key tables.strategyRuns (attackRunId, strategyType))
      return (tables, row)) := by
    rw [PostgresTables.ensureStrategy, cast, Checked.ok_bind, Checked.ensure_of_pos held]
    rfl
  rw [inserting, PostgresTables.insertStrategy]
  cases existing : store.strategyKeys (attackRunId, strategyType) with
  -- the strategy is known, and read in both stores
  | some id =>
    have indexed := existing
    rw [twins.strategies.index, Option.map_eq_some_iff] at indexed
    obtain ⟨row, found, rfl⟩ := indexed
    have entry : store.strategies row.strategyRunId = some row := by
      rw [twins.strategies.entry]
      exact Table.find?_of_mem twins.strategies.keyed (Table.mem_of_find? found)
    have left : store.ensureStrategy uuid attackRunId strategyType budget = .ok (store, row) := by
      rw [InMemoryRuntimeStore.ensureStrategy, existing]
      dsimp only
      rw [InMemoryRuntimeStore.entry_eq_ok.2 entry]
      rfl
    rw [left, show Table.find? StrategyRun.key tables.strategyRuns item.key = some row from found,
      if_pos Option.isSome_some]
    change Twinned versions .strategy _ (PostgresTables.one
      (Table.find? StrategyRun.key tables.strategyRuns (attackRunId, strategyType)) >>= _)
    rw [found]
    exact Twinned.ok twins row
  | none =>
    have noKey : Table.find? StrategyRun.key tables.strategyRuns item.key = none := by
      have indexed := existing
      rw [twins.strategies.index, Option.map_eq_none_iff] at indexed
      exact indexed
    have noId : Table.find? StrategyRun.strategyRunId tables.strategyRuns uuid = none := by
      rw [← twins.strategies.entry]
      exact fresh
    have left : store.ensureStrategy uuid attackRunId strategyType budget = .ok ({ store with
        strategies := insertEntry store.strategies uuid item
        strategyKeys := insertEntry store.strategyKeys (attackRunId, strategyType) uuid },
        item) := by
      rw [InMemoryRuntimeStore.ensureStrategy, existing]
      rfl
    -- the row that is read is the one that was inserted
    have inserted : Table.find? StrategyRun.key (tables.strategyRuns ++ [item])
        (attackRunId, strategyType) = some item := by
      rw [Table.find?_append, show Table.find? StrategyRun.key tables.strategyRuns
        (attackRunId, strategyType) = none from noKey,
        if_pos (show item.key = (attackRunId, strategyType) from rfl), Option.none_or]
    have reachable := twins.reachable.of_ok
      (.ensureStrategy uuid attackRunId strategyType budget) fresh rfl left
    rw [left, noKey, if_neg (by simp), Checked.ensure_of_pos noId,
      Checked.ensure_of_pos (by rw [show item.attackRunId = attackRunId from rfl, runRow]; rfl)]
    change Twinned versions .strategy _ (PostgresTables.one (Table.find? StrategyRun.key
      (tables.strategyRuns ++ [item]) (attackRunId, strategyType)) >>= _)
    rw [inserted]
    refine Twinned.ok ?_ item
    exact ⟨reachable, twins.versions, twins.runs,
      twins.strategies.append item fresh existing canonical, twins.checkpoints, twins.saved,
      twins.records, twins.named, twins.events⟩

/-- `update_strategy` -/
theorem updateStrategy (twins : Twins versions store tables) {strategy : StrategyRun} {id : String}
    (held : strategy.usage.Held)
    (cast : PostgresTypes.castUuid strategy.strategyRunId = some id)
    (kept : ∀ row ∈ store.strategies id,
      strategy = { row with status := strategy.status, usage := strategy.usage }) :
    Twinned versions (fun _ => .done)
      (InMemoryRuntimeStore.raised (store.updateStrategy strategy))
      (tables.updateStrategy strategy) := by
  rw [PostgresTables.updateStrategy, PostgresTables.castUuid_of_eq cast, Checked.ok_bind,
    Checked.ensure_of_pos held, Checked.ok_bind, ← twins.strategies.entry]
  cases found : store.strategies id with
  | none =>
    -- Under its own text there is no entry either.
    have missing : store.strategies strategy.strategyRunId = none := by
      by_contra there
      have same := twins.strategies.castUuid_eq (Option.isSome_iff_ne_none.2 there)
      rw [cast, Option.some_inj] at same
      exact there (same ▸ found)
    have left : store.updateStrategy strategy = .error .keyError := by
      rw [InMemoryRuntimeStore.updateStrategy, missing]
      rfl
    rw [left]
    exact Checked.Related.error StoreFault.keyError
  | some row =>
    have written := kept row found
    have named : row.strategyRunId = id := by
      rw [twins.strategies.entry] at found
      exact Table.key_of_find? found
    have same : strategy.strategyRunId = id := by
      rw [written]
      exact named
    have left : store.updateStrategy strategy = .ok ({ store with
        strategies := insertEntry store.strategies strategy.strategyRunId strategy }, ()) := by
      rw [InMemoryRuntimeStore.updateStrategy, same,
        InMemoryRuntimeStore.entry_eq_ok.2 found]
      rfl
    have reachable := twins.reachable.of_ok (.updateStrategy strategy) trivial rfl left
    have strategies := twins.strategies.update rfl (same ▸ found)
      (show strategy.key = row.key by rw [written]; rfl)
    rw [left]
    dsimp only
    rw [← written]
    refine Twinned.ok ?_ ()
    exact ⟨reachable, twins.versions, twins.runs, strategies, twins.checkpoints, twins.saved,
      twins.records, twins.named, twins.events⟩

/-- A checkpoint that is there is under the identifier of the database, at a version from
    one. -/
theorem checkpoint_saved (twins : Twins versions store tables) {id : String}
    {checkpoint : Checkpoint} (found : store.checkpoints id = some checkpoint) :
    checkpoint.strategyRunId = id ∧ PostgresTypes.castUuid id = some id ∧ 0 < checkpoint.version := by
  rw [twins.checkpoints] at found
  have named : checkpoint.strategyRunId = id := Table.key_of_find? found
  have := twins.saved checkpoint (Table.mem_of_find? found)
  rw [named] at this
  exact ⟨named, this⟩

omit [PostgresTypes] in
/-- At another version than the expected one a checkpoint is stale. -/
theorem saveCheckpoint_stale {strategyRunId : String} {checkpoint : Checkpoint}
    (found : store.checkpoints strategyRunId = some checkpoint) {expectedVersion : Nat}
    (other : checkpoint.version ≠ expectedVersion) (state : CheckpointState) :
    store.saveCheckpoint strategyRunId state expectedVersion = .error .valueError := by
  rw [InMemoryRuntimeStore.saveCheckpoint, found]
  dsimp only
  rw [Checked.ensure_of_neg other]
  rfl

/-- The checkpoint of a strategy is stored in both stores. -/
theorem saved_checkpoint (twins : Twins versions store tables) (checkpoint : Checkpoint)
    {rows : List Checkpoint} (reachable : store'.Reachable)
    (left : store' = { store with
      checkpoints := insertEntry store.checkpoints checkpoint.strategyRunId checkpoint })
    (right : ∀ id, Table.find? Checkpoint.strategyRunId rows id =
      insertEntry store.checkpoints checkpoint.strategyRunId checkpoint id)
    (members : ∀ row ∈ rows, row = checkpoint ∨ row ∈ tables.checkpoints)
    (cast : PostgresTypes.castUuid checkpoint.strategyRunId = some checkpoint.strategyRunId)
    (positive : 0 < checkpoint.version) :
    Twins versions store' { tables with checkpoints := rows } := by
  subst left
  refine ⟨reachable, twins.versions, twins.runs, twins.strategies, fun id => (right id).symm,
    fun row hm => ?_, twins.records, twins.named, twins.events⟩
  rcases members row hm with rfl | hm
  · exact ⟨cast, positive⟩
  · exact twins.saved row hm

/-- The first checkpoint of a strategy is inserted. -/
theorem insertCheckpoint (twins : Twins versions store tables) {id : String}
    {state : CheckpointState} (cast : PostgresTypes.castUuid id = some id)
    (known : (store.checkpoints id).isSome ∨ (store.strategies id).isSome) :
    Twinned versions .saved (InMemoryRuntimeStore.raised (store.saveCheckpoint id state 0))
      (tables.insertCheckpoint id state) := by
  rw [PostgresTables.insertCheckpoint, ← twins.checkpoints]
  cases found : store.checkpoints id with
  | some checkpoint =>
    have positive := (twins.checkpoint_saved found).2.2
    rw [saveCheckpoint_stale found (by omega), Checked.ensure_of_neg nofun]
    exact Checked.Related.error StoreFault.valueError
  | none =>
    have strategy : (Table.find? StrategyRun.strategyRunId tables.strategyRuns id).isSome := by
      rw [found] at known
      rw [← twins.strategies.entry]
      simpa using known
    let checkpoint : Checkpoint := { strategyRunId := id, version := 1, state }
    have left : store.saveCheckpoint id state 0 = .ok ({ store with
        checkpoints := insertEntry store.checkpoints id checkpoint }, checkpoint) := by
      rw [InMemoryRuntimeStore.saveCheckpoint, found]
      rfl
    have reachable := twins.reachable.of_ok (.saveCheckpoint id state 0) trivial rfl left
    have rows : ∀ key, Table.find? Checkpoint.strategyRunId (tables.checkpoints ++ [checkpoint]) key =
        insertEntry store.checkpoints id checkpoint key := by
      intro key
      rw [Table.find?_append, ← twins.checkpoints]
      by_cases e : id = key
      · subst e
        rw [InMemoryRuntimeStore.insertEntry_self, found,
          if_pos (show checkpoint.strategyRunId = id from rfl), Option.none_or]
      · rw [InMemoryRuntimeStore.insertEntry_of_ne (Ne.symm e),
          if_neg (show checkpoint.strategyRunId ≠ key from e), Option.or_none]
    rw [left, Checked.ensure_of_pos rfl, Checked.ensure_of_pos strategy]
    refine Twinned.ok (twins.saved_checkpoint checkpoint reachable rfl rows (fun row hm => ?_) cast
      Nat.one_pos) checkpoint
    rcases List.mem_append.1 hm with hm | hm
    · exact .inr hm
    · exact .inl (List.mem_singleton.1 hm)

/-- A checkpoint at the version that is expected is replaced. -/
theorem updateCheckpoint (twins : Twins versions store tables) {strategyRunId id : String}
    {state : CheckpointState} {expectedVersion : Nat}
    (cast : PostgresTypes.castUuid strategyRunId = some id) (positive : expectedVersion ≠ 0)
    (named : id = strategyRunId ∨
      ∀ current ∈ store.checkpoints id, current.version ≠ expectedVersion) :
    Twinned versions .saved
      (InMemoryRuntimeStore.raised (store.saveCheckpoint strategyRunId state expectedVersion))
      (tables.updateCheckpoint id state expectedVersion) := by
  by_cases canonical : id = strategyRunId
  swap
  · -- There is no checkpoint under the text, and none at the version under the identifier.
    have missing : store.checkpoints strategyRunId = none := by
      by_contra there
      obtain ⟨checkpoint, found⟩ := Option.ne_none_iff_exists'.1 there
      have same := (twins.checkpoint_saved found).2.1
      rw [cast, Option.some_inj] at same
      exact canonical same
    have left : store.saveCheckpoint strategyRunId state expectedVersion = .error .valueError := by
      rw [InMemoryRuntimeStore.saveCheckpoint, missing]
      dsimp only
      rw [Checked.ensure_of_neg positive.symm]
      rfl
    rw [left, PostgresTables.updateCheckpoint, ← twins.checkpoints]
    cases found : store.checkpoints id with
    -- without a checkpoint the update has no row, and the version is not 0
    | none => exact Checked.Related.error StoreFault.valueError
    | some checkpoint =>
      have other := (named.resolve_left canonical) checkpoint found
      dsimp only
      rw [Checked.ensure_of_neg other]
      exact Checked.Related.error StoreFault.valueError
  subst canonical
  rw [PostgresTables.updateCheckpoint, ← twins.checkpoints]
  cases found : store.checkpoints id with
  | none =>
    have left : store.saveCheckpoint id state expectedVersion = .error .valueError := by
      rw [InMemoryRuntimeStore.saveCheckpoint, found]
      dsimp only
      rw [Checked.ensure_of_neg positive.symm]
      rfl
    rw [left]
    exact Checked.Related.error StoreFault.valueError
  | some current =>
    obtain ⟨rfl, -, -⟩ := twins.checkpoint_saved found
    dsimp only
    by_cases same : current.version = expectedVersion
    swap
    · rw [saveCheckpoint_stale found same, Checked.ensure_of_neg same]
      exact Checked.Related.error StoreFault.valueError
    let checkpoint : Checkpoint := { current with version := current.version + 1, state }
    have left : store.saveCheckpoint current.strategyRunId state expectedVersion = .ok ({ store with
        checkpoints := insertEntry store.checkpoints current.strategyRunId checkpoint },
        checkpoint) := by
      rw [InMemoryRuntimeStore.saveCheckpoint, found]
      dsimp only
      rw [Checked.ensure_of_pos same]
      rfl
    have reachable := twins.reachable.of_ok
      (.saveCheckpoint current.strategyRunId state expectedVersion) trivial rfl left
    -- the row and the entry are replaced alike
    have rows : ∀ key, Table.find? Checkpoint.strategyRunId
        (Table.update Checkpoint.strategyRunId tables.checkpoints checkpoint) key =
        insertEntry store.checkpoints current.strategyRunId checkpoint key := by
      intro key
      rw [Table.find?_update, ← twins.checkpoints]
      split
      · next e =>
        rw [show key = current.strategyRunId from e, InMemoryRuntimeStore.insertEntry_self, found]
        rfl
      · next e => exact (InMemoryRuntimeStore.insertEntry_of_ne e checkpoint).symm
    rw [left, Checked.ensure_of_pos same]
    exact Twinned.ok (twins.saved_checkpoint checkpoint reachable rfl rows
      (fun row hm => (Table.mem_update hm).imp_right And.left) cast (Nat.succ_pos _)) checkpoint

/-- `save_checkpoint` -/
theorem saveCheckpoint (twins : Twins versions store tables) {strategyRunId id : String}
    {state : CheckpointState} {expectedVersion : Nat} (held : state.Held)
    (cast : PostgresTypes.castUuid strategyRunId = some id)
    (agrees : if expectedVersion = 0 then
        id = strategyRunId ∧ ((store.checkpoints id).isSome ∨ (store.strategies id).isSome)
      else id = strategyRunId ∨
        ∀ current ∈ store.checkpoints id, current.version ≠ expectedVersion) :
    Twinned versions .saved
      (InMemoryRuntimeStore.raised (store.saveCheckpoint strategyRunId state expectedVersion))
      (tables.saveCheckpoint strategyRunId state expectedVersion) := by
  rw [PostgresTables.saveCheckpoint, PostgresTables.castUuid_of_eq cast, Checked.ok_bind,
    Checked.ensure_of_pos held, Checked.ok_bind]
  by_cases first : expectedVersion = 0
  · rw [if_pos first] at agrees ⊢
    subst first
    obtain ⟨rfl, known⟩ := agrees
    exact twins.insertCheckpoint cast known
  · rw [if_neg first] at agrees ⊢
    exact twins.updateCheckpoint cast first agrees

/-- `load_checkpoint` -/
theorem loadCheckpoint (twins : Twins versions store tables) {strategyRunId id : String}
    (cast : PostgresTypes.castUuid strategyRunId = some id)
    (named : id = strategyRunId ∨ store.checkpoints id = none) :
    Twinned versions .loaded (reading store (.ok (store.checkpoints strategyRunId)))
      (reading tables (tables.loadCheckpoint strategyRunId)) := by
  have same : store.checkpoints strategyRunId = store.checkpoints id := by
    rcases named with rfl | none
    · rfl
    · rw [none]
      by_contra there
      obtain ⟨checkpoint, found⟩ := Option.ne_none_iff_exists'.1 there
      have canonical := (twins.checkpoint_saved found).2.1
      rw [cast, Option.some_inj] at canonical
      exact there (canonical ▸ none)
  rw [PostgresTables.loadCheckpoint, PostgresTables.castUuid_of_eq cast, Checked.ok_bind,
    ← twins.checkpoints, same]
  exact Twinned.ok twins (store.checkpoints id)

/-- `append_event` -/
theorem appendEvent (twins : Twins versions store tables) {runId eventType : String}
    {data : List (String × Json)} (known : (store.runs runId).isSome)
    (held : PostgresTypes.holdsText eventType ∧ PostgresTypes.holdsJson (.obj data)) :
    Twinned versions .event (.ok (store.appendEvent runId eventType data))
      (tables.appendEvent runId eventType data) := by
  obtain ⟨run, found⟩ := Option.isSome_iff_exists.1 known
  obtain ⟨cast, row⟩ := twins.find_run found
  have reachable : (store.appendEvent runId eventType data).1.Reachable :=
    .apply (.appendEvent runId eventType data) trivial twins.reachable
  rw [PostgresTables.appendEvent, cast, Checked.ok_bind, Checked.ensure_of_pos held,
    Checked.ok_bind, row, Checked.ensure_of_pos Option.isSome_some]
  refine Checked.Related.ok ⟨?_, .event rfl⟩
  exact ⟨reachable, twins.versions, twins.runs, twins.strategies, twins.checkpoints, twins.saved,
    twins.records, twins.named, twins.events.append known fun id =>
      InMemoryRuntimeStore.log_appendEvent runId eventType data⟩

/-- The events after the so many-th one. -/
theorem filter_cursorOf (twins : Twins versions store tables) (runId : String) (seen : Nat) :
    (tables.log runId).filter (fun event => tables.cursorOf runId seen < event.cursor) =
      (tables.log runId).drop seen := by
  have ordered : (tables.log runId).Pairwise fun first second => first.cursor < second.cursor :=
    twins.events.ordered.filter _
  have bounded : ∀ event ∈ tables.log runId, 0 < event.cursor ∧ event.cursor ≤ tables.sequence :=
    fun event hm => twins.events.bounded event (List.mem_of_mem_filter hm)
  cases seen with
  | zero =>
    rw [List.drop_zero, List.filter_eq_self]
    exact fun event hm => decide_eq_true (bounded event hm).1
  | succ seen =>
    by_cases h : seen < (tables.log runId).length
    · have cursor : tables.cursorOf runId (seen + 1) = (tables.log runId)[seen].cursor := by
        rw [PostgresTables.cursorOf, List.getElem?_eq_getElem h]
        rfl
      rw [cursor, filter_cursor_getElem ordered h]
    · have cursor : tables.cursorOf runId (seen + 1) = tables.sequence := by
        rw [PostgresTables.cursorOf, List.getElem?_eq_none (Nat.le_of_not_lt h)]
        rfl
      rw [cursor, List.drop_eq_nil_of_le (by omega), List.filter_eq_nil_iff]
      intro event hm above
      have := (bounded event hm).2
      have := of_decide_eq_true above
      omega

/-- `events_after` -/
theorem eventsAfter (twins : Twins versions store tables) {runId : String}
    (known : (store.runs runId).isSome) (seen : Nat) :
    Twinned versions .events
      (reading store (InMemoryRuntimeStore.raised (store.eventsAfter runId seen)))
      (reading tables (tables.eventsAfter runId (tables.cursorOf runId seen))) := by
  obtain ⟨run, found⟩ := Option.isSome_iff_exists.1 known
  obtain ⟨cast, -⟩ := twins.find_run found
  have own : ∀ event ∈ (tables.log runId).drop seen, { event with runId } = event := by
    intro event hm
    have named : event.runId = runId :=
      of_decide_eq_true (List.mem_filter.1 (List.mem_of_mem_drop hm)).2
    rw [← named]
  rw [InMemoryRuntimeStore.eventsAfter_eq (twins.reachable.logged runId) known,
    PostgresTables.eventsAfter, cast, Checked.ok_bind, twins.filter_cursorOf,
    List.map_congr_left own, List.map_id']
  refine Checked.Related.ok ⟨twins, .events ?_⟩
  rw [List.map_drop, List.map_drop, twins.events.facts]
  rfl

/-- A lookup of a counterexample by its key. -/
theorem find_record (twins : Twins versions store tables) (record : CounterexampleRecord) :
    (store.counterexampleRecords.find? fun existing =>
      existing.attackRunId = record.attackRunId ∧ existing.candidateKey = record.candidateKey) =
      Table.find? CounterexampleRecord.key tables.counterexampleRows record.key := by
  rw [twins.records, Table.find?]
  congr 1
  funext existing
  exact decide_eq_decide.2 Prod.mk_inj.symm

/-- A counterexample that is there is kept. -/
theorem saveCounterexample_known (twins : Twins versions store tables)
    {record row : CounterexampleRecord} (held : record.Held)
    (cast : (PostgresTypes.castUuid record.counterexampleId).isSome)
    (found : Table.find? CounterexampleRecord.key tables.counterexampleRows record.key = some row) :
    Twinned versions .record (.ok (store.saveCounterexample record))
      (tables.saveCounterexample record) := by
  obtain ⟨id, cast⟩ := Option.isSome_iff_exists.1 cast
  have same : row.key = record.key := Table.key_of_find? found
  have runCast : PostgresTypes.castUuid record.attackRunId = some record.attackRunId := by
    have := twins.named row (Table.mem_of_find? found)
    rwa [show row.attackRunId = record.attackRunId from congrArg Prod.fst same] at this
  have left : store.saveCounterexample record = (store, row) := by
    rw [InMemoryRuntimeStore.saveCounterexample, twins.find_record, found]
  rw [left, PostgresTables.saveCounterexample, PostgresTables.castUuid_of_eq cast, Checked.ok_bind,
    PostgresTables.castUuid_of_eq runCast, Checked.ok_bind, Checked.ensure_of_pos held,
    Checked.ok_bind, PostgresTables.insertCounterexample]
  rw [show Table.find? CounterexampleRecord.key tables.counterexampleRows
    ({ record with counterexampleId := id } : CounterexampleRecord).key = some row from found,
    if_pos Option.isSome_some]
  change Twinned versions .record _ (PostgresTables.one
    (Table.find? CounterexampleRecord.key tables.counterexampleRows record.key) >>= _)
  rw [found]
  exact Twinned.ok twins row

/-- A counterexample under a key that is new is inserted. -/
theorem saveCounterexample_new (twins : Twins versions store tables)
    {record : CounterexampleRecord} (held : record.Held)
    (cast : PostgresTypes.castUuid record.counterexampleId = some record.counterexampleId)
    (fresh : ∀ row ∈ store.counterexampleRecords, row.counterexampleId ≠ record.counterexampleId)
    (known : (store.runs record.attackRunId).isSome)
    (new : Table.find? CounterexampleRecord.key tables.counterexampleRows record.key = none) :
    Twinned versions .record (.ok (store.saveCounterexample record))
      (tables.saveCounterexample record) := by
  obtain ⟨run, there⟩ := Option.isSome_iff_exists.1 known
  obtain ⟨runCast, runRow⟩ := twins.find_run there
  have left : store.saveCounterexample record = ({ store with
      counterexampleRecords := store.counterexampleRecords ++ [record] }, record) := by
    rw [InMemoryRuntimeStore.saveCounterexample, twins.find_record, new]
  have reachable : (store.saveCounterexample record).1.Reachable :=
    .apply (.saveCounterexample record) trivial twins.reachable
  rw [left] at reachable
  have noId : Table.find? CounterexampleRecord.counterexampleId tables.counterexampleRows
      record.counterexampleId = none := by
    rw [Table.find?_eq_none, ← twins.records, List.mem_map]
    rintro ⟨row, hm, e⟩
    exact fresh row hm e
  -- the row that is read is the one that was inserted
  have inserted : Table.find? CounterexampleRecord.key (tables.counterexampleRows ++ [record])
      record.key = some record := by
    rw [Table.find?_append, new, if_pos rfl, Option.none_or]
  rw [left, PostgresTables.saveCounterexample, PostgresTables.castUuid_of_eq cast, Checked.ok_bind,
    runCast, Checked.ok_bind, Checked.ensure_of_pos held, Checked.ok_bind,
    PostgresTables.insertCounterexample, new, if_neg (by simp), Checked.ensure_of_pos noId,
    Checked.ensure_of_pos (by rw [runRow]; rfl)]
  change Twinned versions .record _ (PostgresTables.one (Table.find? CounterexampleRecord.key
    (tables.counterexampleRows ++ [record]) record.key) >>= _)
  rw [inserted]
  refine Twinned.ok ?_ record
  refine ⟨reachable, twins.versions, twins.runs, twins.strategies, twins.checkpoints, twins.saved,
    ?_, fun row hm => ?_, twins.events⟩
  · rw [twins.records]
  · rcases List.mem_append.1 hm with hm | hm
    · exact twins.named row hm
    · obtain rfl := List.mem_singleton.1 hm
      exact twins.runs.castUuid_eq known

/-- `save_counterexample` -/
theorem saveCounterexample (twins : Twins versions store tables) {record : CounterexampleRecord}
    (held : record.Held) (cast : (PostgresTypes.castUuid record.counterexampleId).isSome)
    (agrees : (∃ row ∈ store.counterexampleRecords, row.key = record.key) ∨
      PostgresTypes.castUuid record.counterexampleId = some record.counterexampleId ∧
      (∀ row ∈ store.counterexampleRecords, row.counterexampleId ≠ record.counterexampleId) ∧
      (store.runs record.attackRunId).isSome) :
    Twinned versions .record (.ok (store.saveCounterexample record))
      (tables.saveCounterexample record) := by
  cases found : Table.find? CounterexampleRecord.key tables.counterexampleRows record.key with
  | some row => exact twins.saveCounterexample_known held cast found
  | none =>
    rcases agrees with ⟨row, hm, same⟩ | ⟨cast, fresh, known⟩
    · rw [Table.find?_eq_none, ← twins.records] at found
      exact absurd (List.mem_map.2 ⟨row, hm, same⟩) found
    · exact twins.saveCounterexample_new held cast fresh known found

/-- `counterexamples` -/
theorem counterexamples (twins : Twins versions store tables) {runId id : String}
    (cast : PostgresTypes.castUuid runId = some id)
    (named : id = runId ∨ ∀ row ∈ store.counterexampleRecords, row.attackRunId ≠ id) :
    Twinned versions .records (reading store (.ok (store.counterexamples runId)))
      (reading tables (tables.counterexamples runId)) := by
  have same : store.counterexamples runId =
      tables.counterexampleRows.filter fun row => row.attackRunId = id := by
    rw [InMemoryRuntimeStore.counterexamples, twins.records]
    rcases named with rfl | none
    · rfl
    · -- No counterexample is of a run under the text, and none under the identifier.
      refine List.filter_congr fun row hm => decide_eq_decide.2 (iff_of_false ?_ ?_)
      · rintro rfl
        have canonical := twins.named row hm
        rw [cast, Option.some_inj] at canonical
        exact none row (twins.records ▸ hm) canonical.symm
      · exact none row (twins.records ▸ hm)
  rw [PostgresTables.counterexamples, PostgresTables.castUuid_of_eq cast, Checked.ok_bind, same]
  exact Checked.Related.ok ⟨twins, .records (PostgresTypes.scan_perm _).symm⟩

/-- One call. -/
theorem call (twins : Twins versions store tables) {call : StoreCall}
    (agrees : call.Agrees versions store) :
    Twins versions (store.call call).1 (tables.call call).1 ∧
      Checked.Related StoreReply.Alike (store.call call).2 (tables.call call).2 := by
  cases call with
  | createRun uuid request =>
    obtain ⟨fresh, canonical, held, version⟩ := agrees
    -- a run with the job key is there, or a new one is made
    cases job : store.jobs request.jobKey with
    | some runId =>
      rw [job, if_pos Option.isSome_some] at version
      exact (twins.createRun_known fresh.1 held (by rw [job]; rfl) version).answer twins
    | none =>
      rw [job, if_neg (by simp)] at version
      exact (twins.createRun_new fresh canonical held job version.1 version.2).answer twins
  | getRun runId => exact (twins.getRun agrees).answer twins
  | compareAndSetStatus runId expected target outcome =>
    exact (twins.compareAndSetStatus agrees).answer twins
  | requestCancel runId => exact (twins.requestCancel agrees).answer twins
  | ensureStrategy uuid attackRunId strategyType budget =>
    obtain ⟨fresh, canonical, held, known⟩ := agrees
    exact (twins.ensureStrategy fresh canonical held known).answer twins
  | updateStrategy strategy =>
    obtain ⟨held, id, cast, kept⟩ := agrees
    exact (twins.updateStrategy held cast kept).answer twins
  | saveCheckpoint strategyRunId state expectedVersion =>
    obtain ⟨held, id, cast, named⟩ := agrees
    exact (twins.saveCheckpoint held cast named).answer twins
  | loadCheckpoint strategyRunId =>
    obtain ⟨id, cast, named⟩ := agrees
    exact (twins.loadCheckpoint cast named).answer twins
  | appendEvent runId eventType data =>
    exact (twins.appendEvent agrees.1 agrees.2).answer_ok store _
  | eventsAfter runId seen => exact (twins.eventsAfter agrees seen).answer twins
  | saveCounterexample record =>
    obtain ⟨held, cast, known⟩ := agrees
    exact (twins.saveCounterexample held cast known).answer twins
  | counterexamples runId =>
    obtain ⟨id, cast, named⟩ := agrees
    exact (twins.counterexamples cast named).answer twins

/-- New stores. -/
theorem new (versions : List String) : Twins versions {} { ruleVersions := versions } where
  reachable := .empty
  versions := rfl
  runs := .empty
  strategies := .empty
  checkpoints _ := rfl
  saved := nofun
  records := rfl
  named := nofun
  events := ⟨fun _ => rfl, nofun, .nil, nofun⟩

/-- The replies to a sequence of calls, from stores that keep the same. -/
theorem replies {calls : List StoreCall} (twins : Twins versions store tables)
    (agree : AllAgree versions store calls) :
    List.Forall₂ (Checked.Related StoreReply.Alike) (store.replies calls) (tables.replies calls) := by
  induction calls generalizing store tables with
  | nil => exact .nil
  | cons call calls ih =>
    obtain ⟨next, alike⟩ := twins.call agree.1
    exact .cons alike (ih next agree.2)

end Twins

/-- Both stores, new and called one call after another, answer alike as long as each call
    names records that are there, by identifiers and with values that the columns take. -/
theorem twins_replies {versions : List String} {calls : List StoreCall}
    (agree : AllAgree versions {} calls) :
    List.Forall₂ (Checked.Related StoreReply.Alike) (InMemoryRuntimeStore.replies {} calls)
      (PostgresTables.replies { ruleVersions := versions } calls) :=
  (Twins.new versions).replies agree

end Twins

/-! ## A run in both stores -/

/-- A `uuid` as the database prints it. -/
def isUuid (text : String) : Bool :=
  let groups := text.toList.splitOn '-'
  groups.map List.length = [8, 4, 4, 4, 12] ∧
    groups.all fun group => group.all fun c => c.isDigit ∨ 'a' ≤ c ∧ c ≤ 'f'

/-- The database on texts without a zero character and on identifiers as it prints them. -/
@[reducible] def plainTypes : PostgresTypes where
  castUuid text := if isUuid text then some text else none
  holdsText text := text.toList.all fun c => c ≠ Char.ofNat 0
  holdsJson
    | .int n => n.natAbs < 10 ^ 4300
    | .str text => text.toList.all fun c => c ≠ Char.ofNat 0
    | .null | .bool _ | .float _ | .arr _ | .obj _ => true
  holdsNumber x := x < ((2 ^ 53 : Nat) : ℚ≥0)
  scan rows := rows.reverse
  scan_perm := List.reverse_perm

/-- The identifiers of a run, its rules, a strategy and a counterexample. -/
def twinRun : String := "8f14e45f-ceea-467f-9c3b-0a1b2c3d4e5f"
def twinRules : String := "c9f0f895-fb98-4b91-9f3d-5c1d8e7a6b50"
def twinStrategy : String := "45c48cce-2e2d-4fbd-8a1b-6d7e8f9a0b1c"
def twinRecord : CounterexampleRecord where
  counterexampleId := "d3d94468-02a4-4259-b55d-38e6d163e820"
  attackRunId := twinRun
  candidateKey := "candidate-1"
  invariantId := .idempotentEffect
  originalActions := []
  minimizedActions := []
  replayRunId := "replay-1"

def twinRequest : InMemoryRuntimeStore.RunRequest where
  jobKey := "job-1"
  ruleVersionId := twinRules
  scenarioVersionId := "refund-points"
  sandboxVersion := "fixed"
  oracleVersion := "1.0"
  budget := publicRunBudgetCap
  randomSeed := 7

def twinState : CheckpointState where
  actions := []
  usage := {}
  modelConfigHash := "hash-1"
  promptVersion := "prompt-1"

/-- A run with a stale checkpoint, a job key used again, an illegal transition and a request
    to cancel. -/
def twinCalls : List StoreCall :=
  [.createRun twinRun twinRequest, .getRun twinRun,
    .compareAndSetStatus twinRun .ready .searching none,
    .compareAndSetStatus twinRun .completed .searching none,
    .ensureStrategy twinStrategy twinRun .valueFlow publicRunBudgetCap,
    .saveCheckpoint twinStrategy twinState 0, .saveCheckpoint twinStrategy twinState 0,
    .saveCheckpoint twinStrategy twinState 1, .loadCheckpoint twinStrategy,
    .appendEvent twinRun "LLM_CALL" [], .eventsAfter twinRun 1, .saveCounterexample twinRecord,
    .counterexamples twinRun, .requestCancel twinRun,
    .createRun "a87ff679-a2f3-471d-9181-a67b7542122c" twinRequest]

theorem twins_replies_run :
    let _ := plainTypes
    List.Forall₂ (Checked.Related StoreReply.Alike) (InMemoryRuntimeStore.replies {} twinCalls)
      (PostgresTables.replies { ruleVersions := [twinRules] } twinCalls) :=
  @twins_replies plainTypes [twinRules] twinCalls (by decide +kernel)

/-- A run that does not exist is another error in the database. -/
theorem not_twins_replies :
    let _ := plainTypes
    ¬ List.Forall₂ (Checked.Related StoreReply.Alike)
      (InMemoryRuntimeStore.replies {} [.getRun twinRun])
      (PostgresTables.replies { ruleVersions := [twinRules] } [.getRun twinRun]) := by
  intro _ h
  have right : (PostgresTables.call { ruleVersions := [twinRules] } (.getRun twinRun)).2 =
      .error .noResultFound := by
    rw [PostgresTables.call, PostgresTables.getRun,
      PostgresTables.castUuid_of_eq (show PostgresTypes.castUuid twinRun = some twinRun by decide +kernel)]
    rfl
  rw [PostgresTables.replies, InMemoryRuntimeStore.replies, right] at h
  cases h with
  | cons alike _ => exact nomatch alike

end RuleArena
