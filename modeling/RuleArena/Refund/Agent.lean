import RuleArena.Refund.Gateway

/-!
# The refund agent

A deterministic agent: it reads the snapshot of a run through its gateway, decides
from that and the text of a ticket what to do, and calls the gateway to refund
the order, each time under another key, until a call succeeds or must not be
tried again.
-/

namespace RuleArena

structure Ticket where
  ticketId : String
  userId : String
  text : String
  deriving DecidableEq

/-! ## Reading the ticket -/

/-- What a ticket asks for. Without an amount it is all that was paid. -/
structure RefundRequest where
  orderId : String
  amount : Option String := none
  deriving DecidableEq

/-- The characters of `\w`. -/
def isWordChar [UnicodeTables] (c : Char) : Bool :=
  (digitValue? c).isSome || UnicodeTables.isAlnum c || c = '_'

/-- The match of `_ORDER_ID` at the start of a text that stands after `previous`. The digits
    are all that follow: with less of them the match would not end at the end of a word. -/
def orderIdAt [UnicodeTables] (previous : Option Char) (cs : List Char) : Option (List Char) :=
  let digits := (cs.drop 6).takeWhile fun c => (digitValue? c).isSome
  if cs.take 6 = ['o', 'r', 'd', 'e', 'r', '-'] ∧ ¬ previous.any isWordChar ∧ digits ≠ [] ∧
      ¬ (cs.drop (6 + digits.length)).head?.any isWordChar then
    some (cs.take 6 ++ digits)
  else none

/-- `_ORDER_ID.search` -/
def searchOrderId [UnicodeTables] : Option Char → List Char → Option (List Char)
  | _, [] => none
  | previous, c :: cs => orderIdAt previous (c :: cs) <|> searchOrderId (some c) cs

/-- The group of the match of `_REFUND_AMOUNT` at the start of a text. -/
def refundAmountAt (cs : List Char) : Option (List Char) :=
  let rest := (cs.drop 2).dropWhile isSpace
  let whole := rest.takeWhile Char.isDigit
  let fraction := (rest.drop (whole.length + 1)).take 2 |>.takeWhile Char.isDigit
  if cs.take 2 = ['退', '款'] ∧ whole ≠ [] then
    if (rest.drop whole.length).head? = some '.' ∧ fraction ≠ [] then
      some (whole ++ '.' :: fraction)
    else some whole
  else none

/-- `_REFUND_AMOUNT.search` -/
def searchRefundAmount : List Char → Option (List Char)
  | [] => none
  | c :: cs => refundAmountAt (c :: cs) <|> searchRefundAmount cs

/-- `_FULL_REFUND_MARKERS` -/
def fullRefundMarkers : List String := ["全额", "全款", "整单"]

/-- `parse_refund_request` -/
def parseRefundRequest [UnicodeTables] (text : String) : Option RefundRequest :=
  match searchOrderId none text.toList with
  | none => none
  | some order =>
    if ∃ marker ∈ fullRefundMarkers, marker.toList <:+: text.toList then
      some { orderId := String.ofList order }
    else
      (searchRefundAmount text.toList).map fun amount =>
        { orderId := String.ofList order, amount := some (String.ofList amount) }

example :
    let _ := UnicodeTables.ascii
    parseRefundRequest "订单 order-12 退款 100.505" = some ⟨"order-12", some "100.50"⟩ := by
  decide +kernel

/-! ## Deciding -/

structure AgentAction where
  actionType : ActionName
  targetId : Option String := none
  arguments : List (String × ArgValue) := []
  reason : String

inductive AgentDecision
  | action (action : AgentAction)
  | escalate (reason : String)

/-- `REFUNDABLE_ORDER_STATES` -/
def refundableOrderStates : List String := ["PAID", "PARTIALLY_REFUNDED"]

/-- `_decimal` -/
def finiteDecimal : Json → Option PyDecimal
  | .str text => (PyDecimal.parse text).filter PyDecimal.isFinite
  | .int i => some (.ofInt i)
  | _ => none

/-- `_orders`: of several orders of an id the last one counts. -/
def ordersById (snapshot : Json) : Option (List (String × Json)) :=
  match (snapshot.get "state").get "orders" with
  | .arr orders =>
    if orders.all Json.isObj then
      some (orders.filterMap fun order =>
        match order.get "id" with
        | .str id => some (id, order)
        | _ => none).reverse
    else none
  | _ => none

/-- A decision, of which the reason has 500 characters at most. -/
def AgentDecision.checked (decision : AgentDecision) (reason : String) :
    Except ToolException AgentDecision :=
  if reason.length ≤ 500 then .ok decision else .error .valueError

/-- `_escalate` -/
def escalation (reason : String) : Except ToolException AgentDecision :=
  AgentDecision.checked (.escalate reason) reason

variable [Python] [UnicodeTables]

/-- The decision about an order that can be refunded. -/
def decideAmount (request : RefundRequest) (order : Json) : Except ToolException AgentDecision :=
  let amount := (request.amount.map Json.str).getD (order.get "paid_amount")
  if finiteDecimal amount = none then
    escalation ("无法确定订单 " ++ request.orderId ++ " 的退款金额")
  else
    let reason := "按工单为订单 " ++ request.orderId ++ " 退款 " ++ amount.toStr
    AgentDecision.checked (.action {
      actionType := .refundOrder, targetId := some request.orderId
      arguments := [("amount", .str amount.toStr)], reason }) reason

/-- `decide`: the whole policy, of the ticket and the snapshot. -/
def decideTicket (ticket : Ticket) (snapshot : Json) : Except ToolException AgentDecision :=
  match parseRefundRequest ticket.text with
  | none => escalation "工单没有给出可执行的退款请求（订单号或金额缺失）"
  | some request =>
    match ordersById snapshot with
    | none => escalation "工具返回的快照里没有可读的订单集合"
    | some orders =>
      match orders.lookup request.orderId with
      | none => escalation ("订单 " ++ request.orderId ++ " 不在当前可见状态中")
      | some order =>
        match (order.get "status").isIn refundableOrderStates with
        | .error _ => .error .typeError
        | .ok false =>
          escalation ("订单 " ++ request.orderId ++ " 的状态是 " ++ (order.get "status").toStr ++
            "，当前不可退款")
        | .ok true => decideAmount request order

/-- `_sim_action` -/
def AgentAction.toSimAction (action : AgentAction) : SimAction where
  actionType := action.actionType
  targetId := action.targetId
  arguments := SimAction.sortedArguments action.arguments

/-! ## Handling a ticket -/

inductive AgentOutcome
  | completed
  | escalated
  deriving DecidableEq, Repr

def AgentOutcome.value : AgentOutcome → String
  | completed => "COMPLETED"
  | escalated => "ESCALATED"

structure AgentStep where
  proposalType : String
  actionType : Option ActionName := none
  idempotencyKey : Option String := none
  toolOutcome : Option ToolOutcome := none
  toolErrorCode : Option String := none
  toolErrorMessage : Option String := none
  deriving DecidableEq

structure AgentReport where
  ticketId : String
  outcome : AgentOutcome
  claimedComplete : Bool
  escalationReason : Option String := none
  steps : List AgentStep := []
  deriving DecidableEq

/-- `RefundAgent._escalate` -/
def escalated (ticket : Ticket) (steps : List AgentStep) (reason : String) : AgentReport where
  ticketId := ticket.ticketId
  outcome := .escalated
  claimedComplete := false
  escalationReason := some reason
  steps

/-- The report of a refund that succeeded. -/
def completed (ticket : Ticket) (steps : List AgentStep) : AgentReport where
  ticketId := ticket.ticketId
  outcome := .completed
  claimedComplete := true
  steps

/-- An agent with its gateway. It makes one attempt at least. -/
structure RefundAgent where
  gateway : ToolGateway
  maxAttempts : Nat
  attempts_pos : 0 < maxAttempts

/-- The snapshot in the receipt of an inspection. -/
def inspectedSnapshot (result : ToolResult) : Option Json :=
  if result.succeeded then
    match result.receipt with
    | none => none
    | some receipt =>
      let snapshot := (receipt.get "result").get "snapshot"
      if snapshot.isObj then some snapshot else none
  else none

/-- The inspection that an agent begins with. -/
def inspection : SimAction := .build .inspectState none [("scope", .str "RUN")]

/-- The action under the key of an attempt. -/
def keyedAction (ticket : Ticket) (action : SimAction) (attempt : Nat) : SimAction :=
  { action with idempotencyKey := some (ticket.ticketId ++ ":refund:" ++ toString attempt) }

/-- The step of a call of the gateway. -/
def stepOf (action : SimAction) (result : ToolResult) : AgentStep where
  proposalType := "ACTION"
  actionType := some action.actionType
  idempotencyKey := action.idempotencyKey
  toolOutcome := some result.outcome
  toolErrorCode := result.errorCode
  toolErrorMessage := result.errorMessage

/-- Why an agent stops after a result. -/
def stopReason (result : ToolResult) : String :=
  "工具给出 " ++ result.outcome.value ++ "（" ++ result.errorCode.getD "None" ++ "），已停止该分支"

namespace RefundAgent

variable (agent : RefundAgent) (ticket : Ticket)

/-- `_read_state`: the snapshot, the step, and the records of the calls. -/
def readState (calls : List ToolCallRecord) :
    ToolRun ((Option Json × AgentStep) × List ToolCallRecord) := do
  let called ← agent.gateway.call inspection calls
  let step := { stepOf inspection called.1 with toolErrorMessage := none }
  return ((inspectedSnapshot called.1, step), called.2)

/-- The attempts of `handle`. -/
def tryAttempts (action : SimAction) :
    List Nat → List AgentStep → List ToolCallRecord → ToolRun (AgentReport × List ToolCallRecord)
  | [], steps, calls =>
    return (escalated ticket steps
      ("重试 " ++ toString agent.maxAttempts ++ " 次后工具仍未给出确定结果"), calls)
  | attempt :: attempts, steps, calls => do
    let keyed := keyedAction ticket action attempt
    let called ← agent.gateway.call keyed calls
    let steps := steps ++ [stepOf keyed called.1]
    if called.1.succeeded then return (completed ticket steps, called.2)
    else if ¬ called.1.retryable then
      return (escalated ticket steps (stopReason called.1), called.2)
    else tryAttempts action attempts steps called.2

/-- What is done about a decision. -/
def carryOut (steps : List AgentStep) (calls : List ToolCallRecord) :
    Except ToolException AgentDecision → ToolRun (AgentReport × List ToolCallRecord)
  | .error e => .raise e
  | .ok (.escalate reason) =>
    return (escalated ticket (steps ++ [{ proposalType := "ESCALATE" }]) reason, calls)
  | .ok (.action action) =>
    agent.tryAttempts ticket action.toSimAction (List.range' 1 agent.maxAttempts) steps calls

/-- `handle`: the report, and the records of the calls. -/
def handle (calls : List ToolCallRecord) : ToolRun (AgentReport × List ToolCallRecord) := do
  let state ← agent.readState calls
  match state.1.1 with
  | none => return (escalated ticket [state.1.2] "无法通过工具读取订单快照", state.2)
  | some snapshot => agent.carryOut ticket [state.1.2] state.2 (decideTicket ticket snapshot)

end RefundAgent

end RuleArena
