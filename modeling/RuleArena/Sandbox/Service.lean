import RuleArena.Sandbox.Handlers

/-!
# The service

A command is executed once for each action and idempotency key of an epoch: a
receipt that exists is given back, and otherwise the handler runs, its outcome
becomes a receipt, and both are committed together. A rejection is recorded as
well, with the changes of the handler undone.

A run's history is the sequence of commands and resets it has seen since it was
created (`RunSpace.after`).
-/

namespace RuleArena

/-- How the service answers a command. -/
inductive Reply
  | receipt (receipt : ActionReceipt)
  /-- The write is durable under this receipt, but the answer does not come back. -/
  | ackLost (receipt : ActionReceipt)
  | error (error : DomainError)
  | crash (crash : Crash)
  deriving DecidableEq

namespace RunSpace

variable [Python] (run : RunSpace) (command : ActionCommand) (key : String) (now : Nat)

/-- The receipts of the current epoch. -/
def epochReceipts : List ActionReceiptRecord := run.receipts.filter (·.epoch = run.epoch)

/-- The receipt of an action under a key in the current epoch. -/
def existing (action : ActionName) (key : String) : Option ActionReceiptRecord :=
  run.epochReceipts.find? fun record => record.actionType = action ∧ record.idempotencyKey = key

/-- The savepoint: the handler, the new version of the state, and the flush. -/
def savepoint : Except Fault (RunSpace × Outcome) := do
  let (run', outcome) ← run.dispatch command key now
  let run' := { run' with
    snapshotVersion :=
      if command.action = ActionName.inspectState then run'.snapshotVersion
      else run'.snapshotVersion + 1 }
  let run' ← run'.flush
  return (run', outcome)

/-- The receipt of an outcome. -/
def recordOf (outcome : Except DomainError Outcome) : ActionReceiptRecord :=
  match outcome with
  | .ok outcome =>
    { epoch := run.epoch, idempotencyKey := key, actionType := command.action,
      status := .succeeded, monetaryEffects := outcome.effects, result := outcome.result,
      error := none, occurredAt := now }
  | .error error =>
    { epoch := run.epoch, idempotencyKey := key, actionType := command.action,
      status := .rejected, monetaryEffects := [], result := [], error := some error,
      occurredAt := now }

/-- Add a receipt, and flush. -/
def addReceipt (record : ActionReceiptRecord) : Except Fault RunSpace :=
  flush { run with receipts := run.receipts ++ [record] }

/-- Execute a command that has no receipt yet, and commit. -/
def perform : Except Fault (RunSpace × ActionReceiptRecord) :=
  match run.savepoint command key now with
  | .ok (run', outcome) => do
    let record := run.recordOf command key now (.ok outcome)
    return (← run'.addReceipt record, record)
  | .error (.domain error) => do
    let record := run.recordOf command key now (.error error)
    return (← run.addReceipt record, record)
  | .error (.crash crash) => throw (.crash crash)

/-- The answer to a command with a durable receipt: under the defect the
    acknowledgement of a refund is lost, that of a replay too. -/
def acknowledge (record : ActionReceiptRecord) : Reply :=
  if command.action = .refundOrder ∧ run.profile.losesRefundAcknowledgement then
    .ackLost (record.toReceipt run.id)
  else .receipt (record.toReceipt run.id)

def keyRequired : DomainError where
  code := "IDEMPOTENCY_KEY_REQUIRED"
  message := "write actions require idempotency_key"

/-- The key a command is executed under: an inspection without one gets a fresh one. -/
def effectiveKey (uuid : String) : String := command.idempotencyKey.getD ("inspect:" ++ uuid)

/-- `execute` -/
def execute (uuid : String) : RunSpace × Reply :=
  if command.requiresIdempotencyKey ∧ command.idempotencyKey = none then (run, .error keyRequired)
  else
    let key := effectiveKey command uuid
    if Char.ofNat 0 ∈ key.toList then (run, .crash .dataError)
    else
      match run.existing command.action key with
      | some record => (run, run.acknowledge command record)
      | none =>
        match run.perform command key now with
        | .ok (run', record) => (run', run.acknowledge command record)
        | .error (.domain error) => (run, .error error)
        | .error (.crash crash) => (run, .crash crash)

/-- `reset_run`: a new epoch without rows. -/
@[simps] def reset : RunSpace :=
  { run with
    epoch := run.epoch + 1, snapshotVersion := 0, user := none, coupons := [], orders := [],
    refunds := [], ledger := [], memberships := [], entitlements := [] }

def receiptNotFound : DomainError where
  code := "RECEIPT_NOT_FOUND"
  message := "receipt was not found"

/-- `get_receipt`: the earliest receipt under a key in the current epoch, whatever
    its action. -/
def getReceipt (key : String) : Except Fault ActionReceipt := do
  queryText key
  match (run.epochReceipts.filter (·.idempotencyKey = key)).insertionSort
      (fun a b => a.occurredAt ≤ b.occurredAt) with
  | record :: _ => return record.toReceipt run.id
  | [] => throw (.domain receiptNotFound)

end RunSpace

/-! ## Runs -/

/-- A request for a run, of which the schema accepts only those whose axes the
    scenario can reach. -/
structure CreateRunRequest where
  scenarioType : ScenarioType
  sandboxVersion : SandboxVersion := .fixed
  defectAxes : Option (List DefectAxis) := none
  axes_reachable : unreachableAxes scenarioType (defectAxes.getD []) = [] := by decide

/-- `create_run` -/
def createRun (request : CreateRunRequest) (id : String) : RunSpace :=
  { id, scenarioType := request.scenarioType, sandboxVersion := request.sandboxVersion,
    defectAxes := request.defectAxes, epoch := 0, snapshotVersion := 0, user := none,
    coupons := [], orders := [], refunds := [], ledger := [], memberships := [],
    entitlements := [], events := [], receipts := [] }

/-- What can happen to a run. -/
inductive Op
  | execute (command : ActionCommand) (uuid : String) (now : Nat)
  | reset

namespace RunSpace

variable [Python]

def apply (run : RunSpace) : Op → RunSpace
  | .execute command uuid now => (run.execute command now uuid).1
  | .reset => run.reset

/-- The run after a history. -/
def after (run : RunSpace) (history : List Op) : RunSpace := history.foldl apply run

@[simp] theorem after_nil (run : RunSpace) : run.after [] = run := rfl

theorem after_append (run : RunSpace) (history history' : List Op) :
    run.after (history ++ history') = (run.after history).after history' :=
  List.foldl_append

theorem after_concat (run : RunSpace) (history : List Op) (op : Op) :
    run.after (history ++ [op]) = (run.after history).apply op := by
  rw [after_append]; rfl

/-- A run that some history leads to. -/
def Reachable (run : RunSpace) : Prop :=
  ∃ (request : CreateRunRequest) (id : String) (history : List Op),
    (createRun request id).after history = run

end RunSpace

/-! ## A first history -/

def createUserCommand : ActionCommand where
  action := .createUser
  actorId := "user-1"
  arguments := [("initial_balance", .str "1000.00")]
  idempotencyKey := some "user"

def createOrderCommand : ActionCommand where
  action := .createOrder
  actorId := "user-1"
  arguments := [("amount", .str "100.00")]
  idempotencyKey := some "order"

def payOrderCommand : ActionCommand where
  action := .payOrder
  actorId := "user-1"
  targetId := some "order-1"
  idempotencyKey := some "pay"

def refundOrderCommand : ActionCommand where
  action := .refundOrder
  actorId := "user-1"
  targetId := some "order-1"
  arguments := [("amount", .str "10.00")]
  idempotencyKey := some "refund"

/-- A user, and an order of 100.00 that is paid for. -/
def paidHistory : List Op :=
  [.execute createUserCommand "" 1, .execute createOrderCommand "" 2,
    .execute payOrderCommand "" 3]

end RuleArena
