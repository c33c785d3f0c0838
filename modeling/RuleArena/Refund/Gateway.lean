import RuleArena.Foundation.Interaction
import RuleArena.Simulator.Offers

/-!
# The tool gateway

The only way out that the refund agent has: a call is one POST to the sandbox,
behind a guard if there is one. The guard is asked whether the write has a
receipt already (`retryCheck`), whether it may be sent (`preCheck`), and whether
the snapshots before and after show what the receipt says (`postCheck`). What the
guard and the sandbox answer is arbitrary: an answer of the guard can be any
object, and one without a decision and a reason is no pass.
-/

namespace RuleArena

/-- What the model takes from the tables of Unicode: the text in upper case, and whether a
    character is a letter or a digit. -/
class UnicodeTables where
  upper : String → String
  isAlnum : Char → Bool

/-- The tables for texts in ASCII, to compute with. -/
@[reducible] def UnicodeTables.ascii : UnicodeTables where
  upper := String.toUpper
  isAlnum := Char.isAlphanum

/-- What a call of the agent can raise: an exception of its own, or one of what it uses. -/
inductive ToolException
  | valueError
  | typeError
  | assertionError
  | other (name : String)
  deriving DecidableEq, Repr

/-! ## What is asked -/

/-- A request to the sandbox, or a check of the guard. -/
inductive ToolQuestion
  | get (path : String)
  | post (path : String) (payload : Json)
  | retryCheck (runId key : String)
  | preCheck (runId : String) (action : SimAction)
  | postCheck (runId : String) (before after : Json)
  deriving DecidableEq

/-- What comes of a request: a response, of which the body is `none` if it is no JSON, a timeout or
    another error of HTTP, with the name of its type, or any other exception. -/
inductive HttpReply
  | response (status : Nat) (body : Option Json)
  | timeout (name : String)
  | httpError (name : String)
  | raised (e : ToolException)
  deriving DecidableEq

/-- The attributes of the object that a guard answers with, if it has them. The decision and the
    reason are read with `str`. -/
structure GuardObject where
  decision : Option String := none
  reasonCode : Option String := none
  detail : List (String × Json) := []
  cachedReceipt : Option Json := none
  deriving DecidableEq

inductive GuardAnswer
  | object (object : GuardObject)
  | raised (e : ToolException)
  deriving DecidableEq

abbrev ToolAnswer : ToolQuestion → Type
  | .get _ | .post .. => HttpReply
  | .retryCheck .. | .preCheck .. | .postCheck .. => GuardAnswer

/-- A computation that uses the sandbox and the guard. -/
abbrev ToolRun (α : Type) := Interaction ToolException ToolAnswer α

/-! ## What a call comes to -/

inductive ToolOutcome
  | succeeded
  | failed
  | timeout
  | refused
  | unknown
  deriving DecidableEq, Repr

def ToolOutcome.value : ToolOutcome → String
  | succeeded => "SUCCEEDED"
  | failed => "FAILED"
  | timeout => "TIMEOUT"
  | refused => "REFUSED"
  | unknown => "UNKNOWN"

structure ToolResult where
  outcome : ToolOutcome
  actionType : ActionName
  idempotencyKey : Option String := none
  receipt : Option Json := none
  errorCode : Option String := none
  errorMessage : Option String := none
  deriving DecidableEq

def ToolResult.succeeded (result : ToolResult) : Bool := result.outcome = .succeeded

def ToolResult.retryable (result : ToolResult) : Bool := result.outcome ∈ [.failed, .timeout]

/-- What is kept of a call for the benchmark. -/
structure ToolCallRecord where
  actionType : ActionName
  targetId : Option String := none
  arguments : List (String × ArgValue) := []
  idempotencyKey : Option String := none
  outcome : ToolOutcome
  guardDecision : Option String := none
  guardReason : Option String := none
  guardChecks : Nat := 0
  deriving DecidableEq

/-- How the gateway reads an answer of the guard. -/
structure GuardVerdict where
  decision : String
  reasonCode : String
  cachedReceipt : Option Json := none
  deriving DecidableEq

/-- `_GuardTrace` -/
structure GuardTrace where
  decision : Option String := none
  reason : Option String := none
  checks : Nat := 0
  deriving DecidableEq

/-- `trace.checks += 1` -/
def GuardTrace.counted (trace : GuardTrace) : GuardTrace := { trace with checks := trace.checks + 1 }

/-- `trace.decision, trace.reason = …` -/
def GuardTrace.noting (trace : GuardTrace) (verdict : GuardVerdict) : GuardTrace :=
  { trace with decision := some verdict.decision, reason := some verdict.reasonCode }

/-- `_read_verdict` -/
def readVerdict [UnicodeTables] (object : GuardObject) : Option GuardVerdict :=
  match object.decision, object.reasonCode with
  | some decision, some reasonCode => some {
      decision := UnicodeTables.upper decision, reasonCode
      cachedReceipt := object.cachedReceipt.filter Json.isObj }
  | _, _ => none

/-- The member of an object, if it is a text. -/
def textMember (members : List (String × Json)) (name : String) : Option String :=
  match members.lookup name with
  | some (.str text) => some text
  | _ => none

/-- `_error_from` -/
def errorFrom : Option Json → Option String × Option String
  | some (.obj payload) =>
    match (payload.lookup "detail").getD (.obj payload) with
    | .obj detail => (textMember detail "code", textMember detail "message")
    | _ => (none, none)
  | _ => (none, none)

/-- The status of a receipt, as an outcome. -/
def receiptOutcome (status : Json) : ToolOutcome :=
  if status = .str "SUCCEEDED" then .succeeded
  else if status = .str "REJECTED" then .failed
  else .unknown

theorem receiptOutcome_eq_succeeded {status : Json} :
    receiptOutcome status = .succeeded ↔ status = .str "SUCCEEDED" := by
  unfold receiptOutcome
  split_ifs with succeeded rejected
  · exact iff_of_true rfl succeeded
  · exact iff_of_false nofun succeeded
  · exact iff_of_false nofun succeeded

theorem receiptOutcome_ne_timeout {status : Json} : receiptOutcome status ≠ .timeout := by
  unfold receiptOutcome
  split_ifs <;> nofun

/-- A receipt of a success. -/
def ReceiptSucceeded (receipt : Json) : Prop := receipt.get "status" = .str "SUCCEEDED"

/-- `_from_receipt` -/
def fromReceipt [Python] (receipt : Json) (action : SimAction) : ToolResult :=
  let status := receipt.get "status"
  let code := (receipt.get "error").get "code"
  let message := (receipt.get "error").get "message"
  { outcome := receiptOutcome status
    actionType := action.actionType
    idempotencyKey := action.idempotencyKey
    receipt := if receiptOutcome status = .succeeded then some receipt else none
    errorCode :=
      if code.truthy then some code.toStr
      else if receiptOutcome status = .succeeded then none
      else some status.toStr
    errorMessage := if message.truthy then some message.toStr else none }

theorem succeeded_fromReceipt [Python] {receipt : Json} {action : SimAction} :
    (fromReceipt receipt action).succeeded ↔ ReceiptSucceeded receipt :=
  decide_eq_true_iff.trans receiptOutcome_eq_succeeded

/-- A result that has no receipt. -/
def withoutReceipt (action : SimAction) (outcome : ToolOutcome) (errorCode : String)
    (errorMessage : Option String := none) : ToolResult where
  outcome
  actionType := action.actionType
  idempotencyKey := action.idempotencyKey
  errorCode := some errorCode
  errorMessage

/-- `code or str(status)` -/
def codeOrStatus (code : Option String) (status : Nat) : String :=
  match code with
  | some code => if code = "" then toString status else code
  | none => toString status

/-- `_interpret` -/
def interpret [Python] (status : Nat) (body : Option Json) (action : SimAction) : ToolResult :=
  if status = 200 then
    match body with
    | some (.obj receipt) => fromReceipt (.obj receipt) action
    | _ => withoutReceipt action .unknown "UNPARSEABLE_RECEIPT"
  else
    let code := codeOrStatus (errorFrom body).1 status
    let message := (errorFrom body).2
    if status ∈ [502, 503, 504] then withoutReceipt action .timeout code message
    else if 500 ≤ status then withoutReceipt action .unknown code message
    else withoutReceipt action .failed code message

/-- `_unknown`: the reason stays in the trace. -/
def unknownResult (action : SimAction) (trace : GuardTrace) (reason : String) :
    ToolResult × GuardTrace :=
  (withoutReceipt action .unknown "OUTCOME_UNKNOWN",
    { trace with decision := some "UNKNOWN", reason := some reason })

/-- `_refusal` -/
def refusal (verdict : Option GuardVerdict) (action : SimAction) (trace : GuardTrace) :
    Option ToolResult × GuardTrace :=
  match verdict with
  | none =>
    let unreadable := unknownResult action trace "VERDICT_UNREADABLE"
    (some unreadable.1, unreadable.2)
  | some verdict =>
    if verdict.decision = "ALLOW" then (none, trace.noting verdict)
    else if verdict.decision = "BLOCK" then
      (some (withoutReceipt action .refused "CALL_NOT_MADE"), trace.noting verdict)
    else (some (withoutReceipt action .unknown "OUTCOME_UNKNOWN"), trace.noting verdict)

/-! ## The gateway -/

/-- A gateway to a run. -/
structure ToolGateway where
  runId : String
  guarded : Bool

/-- An answer of the guard, read. -/
def verdictOf [UnicodeTables] : GuardAnswer → ToolRun (Option GuardVerdict)
  | .object object => pure (readVerdict object)
  | .raised e => .raise e

/-- The body of a snapshot, or the message of `ToolUnavailable`. -/
def snapshotBody : Option Json → Except String Json
  | none => .error "snapshot body was not JSON"
  | some (.obj members) => .ok (.obj members)
  | some _ => .error "snapshot body was not an object"

theorem toOption_snapshotBody (body : Option Json) :
    (snapshotBody body).toOption = body.filter Json.isObj := by
  rcases body with _ | (_ | _ | _ | _ | _ | _ | _) <;> rfl

/-- What `inspect` makes of a reply. -/
def snapshotOf : HttpReply → ToolRun (Except String Json)
  | .response status body =>
    pure (if status = 200 then snapshotBody body
      else .error ("snapshot request returned " ++ toString status))
  | .timeout name | .httpError name => pure (.error ("snapshot request failed: " ++ name))
  | .raised e => .raise e

/-- What `_send` makes of a reply. -/
def resultOf [Python] (action : SimAction) : HttpReply → ToolRun ToolResult
  | .response status body => pure (interpret status body action)
  | .timeout _ => pure (withoutReceipt action .timeout "TIMEOUT")
  | .httpError name => pure (withoutReceipt action .unknown name)
  | .raised e => .raise e

namespace ToolGateway

variable [Python] [UnicodeTables] (gateway : ToolGateway)

def inspect (runId : String) : ToolRun (Except String Json) := do
  snapshotOf (← .query (.get ("/internal/runs/" ++ runId ++ "/snapshot")))

/-- `_snapshot_or_none` -/
def snapshotOrNone : ToolRun (Option Json) := do
  return (← inspect gateway.runId).toOption

/-- `_send` -/
def send (action : SimAction) : ToolRun ToolResult := do
  resultOf action (← .query (.post ("/internal/runs/" ++ gateway.runId ++ "/actions")
    action.toHttpPayload))

def retryCheck (key : String) : ToolRun (Option GuardVerdict) := do
  verdictOf (← .query (.retryCheck gateway.runId key))

def preCheck (action : SimAction) : ToolRun (Option GuardVerdict) := do
  verdictOf (← .query (.preCheck gateway.runId action))

def postCheck (before after : Json) : ToolRun (Option GuardVerdict) := do
  verdictOf (← .query (.postCheck gateway.runId before after))

/-- `_recover` -/
def recover (action : SimAction) (key : String) (trace : GuardTrace) :
    ToolRun (Option ToolResult × GuardTrace) := do
  match ← gateway.retryCheck key with
  | none =>
    let unreadable := unknownResult action trace.counted "VERDICT_UNREADABLE"
    return (some unreadable.1, unreadable.2)
  | some verdict =>
    if verdict.decision ≠ "ALLOW" then
      let stopped := unknownResult action trace.counted verdict.reasonCode
      return (some stopped.1, stopped.2)
    else
      return (verdict.cachedReceipt.map (fromReceipt · action), trace.counted.noting verdict)

/-- After the write: one that timed out is looked for. -/
def settle (action : SimAction) (key : String) (result : ToolResult) (trace : GuardTrace) :
    ToolRun (ToolResult × GuardTrace) :=
  if result.outcome = .timeout then do
    let recovered ← gateway.recover action key trace
    return (recovered.1.getD result, recovered.2)
  else pure (result, trace)

/-- After a success: the snapshots must show it. -/
def confirm (action : SimAction) (before : Json) (result : ToolResult) (trace : GuardTrace) :
    ToolRun (ToolResult × GuardTrace) := do
  match ← gateway.snapshotOrNone with
  | none => return unknownResult action trace.counted "SNAPSHOT_UNAVAILABLE"
  | some after =>
    match ← gateway.postCheck before after with
    | none => return unknownResult action trace.counted.counted "VERDICT_UNREADABLE"
    | some post =>
      if post.decision ≠ "ALLOW" then
        return unknownResult action trace.counted.counted post.reasonCode
      else return (result, trace.counted.counted)

/-- The part of `_dispatch` after the write. -/
def finish (action : SimAction) (key : String) (before : Json) (result : ToolResult)
    (trace : GuardTrace) : ToolRun (ToolResult × GuardTrace) := do
  let settled ← gateway.settle action key result trace
  if ¬ settled.1.succeeded then return settled
  else gateway.confirm action before settled.1 settled.2

/-- The part of `_dispatch` after the checks: the write between its snapshots. -/
def perform (action : SimAction) (key : String) (trace : GuardTrace) :
    ToolRun (ToolResult × GuardTrace) := do
  match ← gateway.snapshotOrNone with
  | none => return unknownResult action trace.counted "SNAPSHOT_UNAVAILABLE"
  | some before => gateway.finish action key before (← gateway.send action) trace.counted

/-- The part of `_dispatch` for a write without a receipt. -/
def checkedDispatch (action : SimAction) (key : String) (trace : GuardTrace) :
    ToolRun (ToolResult × GuardTrace) := do
  let refused := refusal (← gateway.preCheck action) action trace.counted
  match refused.1 with
  | some result => return (result, refused.2)
  | none => gateway.perform action key refused.2

/-- The part of `_dispatch` with a guard. -/
def guardedDispatch (action : SimAction) (key : String) (trace : GuardTrace) :
    ToolRun (ToolResult × GuardTrace) := do
  match ← gateway.retryCheck key with
  | none => return unknownResult action trace.counted "VERDICT_UNREADABLE"
  | some existing =>
    if existing.decision ≠ "ALLOW" then
      return unknownResult action (trace.counted.noting existing) existing.reasonCode
    else
      match existing.cachedReceipt with
      | some receipt => return (fromReceipt receipt action, trace.counted.noting existing)
      | none => gateway.checkedDispatch action key (trace.counted.noting existing)

/-- `_dispatch` -/
def dispatch (action : SimAction) (write : Bool) (trace : GuardTrace) :
    ToolRun (ToolResult × GuardTrace) :=
  if ¬ gateway.guarded ∨ ¬ write then do return (← gateway.send action, trace)
  else
    match action.idempotencyKey with
    | none => .raise .assertionError
    | some key => gateway.guardedDispatch action key trace

/-- Whether a command changes the run. -/
def writes (action : SimAction) : Bool := action.actionType ≠ .inspectState

/-- `call`: the result, and the records of the calls so far. -/
def call (action : SimAction) (calls : List ToolCallRecord) :
    ToolRun (ToolResult × List ToolCallRecord) :=
  if writes action ∧ action.idempotencyKey.getD "" = "" then .raise .valueError
  else do
    let dispatched ← gateway.dispatch action (writes action) {}
    return (dispatched.1, calls ++ [{
      actionType := action.actionType
      targetId := action.targetId
      arguments := SimAction.argumentDict action.arguments
      idempotencyKey := action.idempotencyKey
      outcome := dispatched.1.outcome
      guardDecision := dispatched.2.decision
      guardReason := dispatched.2.reason
      guardChecks := dispatched.2.checks }])

end ToolGateway

end RuleArena
