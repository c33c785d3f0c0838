import RuleArena.Foundation.DecimalContext
import RuleArena.Foundation.PyValue
import RuleArena.Sandbox.Domain

/-!
# The oracle

The deterministic oracle reads evidence, the snapshots of a run, its receipts
and its events as JSON values, and judges each of eight invariants. A check ends
with a verdict, early where evidence is missing or unreadable, or raises where
it trusts a value it should not have.

The rules of a scenario say what the oracle judges by (`RuleSpec`).
-/

namespace RuleArena

/-! ## Rules -/

inductive RefundPolicy
  | unusedOnly
  | prorated
  | nonRefundable
  deriving DecidableEq, Repr

/-- How points are granted: `pointsGranted` for each `spendAmount`. -/
structure PointsRule where
  spendAmount : ℚ
  pointsGranted : Nat
  revokeOnRefund : Bool
  spend_pos : 0 < spendAmount
  deriving DecidableEq

/-- A rule, with what the oracle reads of it. -/
inductive Rule
  | promotion
  | refund
  | points (rule : PointsRule)
  | membership (refundPolicy : RefundPolicy)
  deriving DecidableEq

/-- The `rule_type` of a rule. -/
def Rule.ruleType : Rule → String
  | promotion => "PROMOTION"
  | refund => "REFUND"
  | points _ => "POINTS"
  | membership _ => "MEMBERSHIP"

/-- The types of the rules a scenario can have, the one it must have first. -/
def ScenarioType.ruleTypes : ScenarioType → List String
  | promotion => ["PROMOTION", "REFUND"]
  | refundPoints => ["POINTS", "REFUND"]
  | membershipEntitlement => ["MEMBERSHIP"]

structure RuleSpec where
  scenarioType : ScenarioType
  rules : List Rule
  allowed : ∀ rule ∈ rules, rule.ruleType ∈ scenarioType.ruleTypes
  primary : ∃ rule ∈ rules, scenarioType.ruleTypes.head? = some rule.ruleType
  unique : (rules.map Rule.ruleType).Nodup
  deriving DecidableEq

/-- `next((r for r in spec.rules if isinstance(r, PointsRule)), None)` -/
def RuleSpec.pointsRule (spec : RuleSpec) : Option PointsRule :=
  spec.rules.findSome? fun | .points rule => some rule | _ => none

/-- `next((r for r in spec.rules if isinstance(r, MembershipRule)), None)` -/
def RuleSpec.refundPolicy (spec : RuleSpec) : Option RefundPolicy :=
  spec.rules.findSome? fun | .membership policy => some policy | _ => none

/-! ## Findings -/

inductive InvariantId
  | netPaidNonNegative
  | refundNotExceedPaid
  | couponSingleConsumption
  | pointsValueConservation
  | orderTerminalMonotonicity
  | entitlementNonNegative
  | entitlementRefundConsistency
  | idempotentEffect
  deriving DecidableEq, Repr

inductive OracleStatus
  | satisfied
  | violated
  | notApplicable
  | insufficientEvidence
  deriving DecidableEq, Repr

structure OracleFinding where
  invariantId : InvariantId
  status : OracleStatus
  evidence : List (String × Json)
  beforeHash : Option String
  afterHash : Option String
  relatedActionIds : List String
  relatedEventIds : List String
  explanation : String
  deriving DecidableEq

/-- What a check concludes, before the hashes of the snapshots are added. -/
structure Verdict where
  status : OracleStatus
  explanation : String
  evidence : List (String × Json) := []
  actions : List Json := []
  events : List Json := []
  deriving DecidableEq

/-- How a check ends other than by its last line. -/
inductive Exit
  | verdict (verdict : Verdict)
  | raised (exception : PyException)
  deriving DecidableEq

namespace Oracle

variable [Python]

def insufficient (explanation : String) : Exit :=
  .verdict { status := .insufficientEvidence, explanation }

def notApplicable (explanation : String) : Exit := .verdict { status := .notApplicable, explanation }

/-- The last line of a check: it is satisfied if nothing bad was found. -/
def conclude (bad : List Json) (violated satisfied : String) (evidence : List (String × Json))
    (actions events : List Json) : Verdict :=
  if bad = [] then
    { status := .satisfied, explanation := satisfied, evidence, actions, events }
  else { status := .violated, explanation := violated, evidence, actions, events }

/-- The value of a computation that may raise. -/
def raising {α : Type} : Except PyException α → Except Exit α
  | .ok a => .ok a
  | .error exception => .error (.raised exception)

/-- What is found bad of a list of items, in their order. -/
def collect {α ε : Type} (f : α → Except ε (List Json)) : List α → Except ε (List Json)
  | [] => return []
  | a :: as => do return (← f a) ++ (← collect f as)

/-- The texts of a member of items, where it is there. -/
def relatedIds (name : String) (items : List Json) : List String :=
  (items.filter fun item => (item.get name).truthy).map fun item => (item.get name).toStr

def hashOf : Option Json → Option String
  | some snapshot =>
    if (snapshot.get "state_hash").truthy then some (snapshot.get "state_hash").toStr else none
  | none => none

/-- `_finding` -/
def finding (invariantId : InvariantId) (snapshots : List Json) (verdict : Verdict) :
    OracleFinding where
  invariantId := invariantId
  status := verdict.status
  evidence := verdict.evidence
  beforeHash := hashOf snapshots.head?
  afterHash := hashOf snapshots.getLast?
  relatedActionIds := relatedIds "receipt_id" verdict.actions
  relatedEventIds := relatedIds "event_id" verdict.events
  explanation := verdict.explanation

/-! ## Reading evidence -/

omit [Python] in
/-- `_items(_state(snapshot), name)` -/
def items (snapshot : Json) (name : String) : Option (List Json) :=
  match snapshot.get "state" with
  | .obj members =>
    match (Json.obj members).get name with
    | .arr values => if values.all Json.isObj then some values else none
    | _ => none
  | _ => none

/-- The items of the last snapshot. -/
def lastItems (snapshots : List Json) (name : String) : Option (List Json) :=
  snapshots.getLast?.bind (items · name)

/-- `_decimal` -/
def decimal : Json → Option PyDecimal
  | .str s => (PyDecimal.parse s).filter PyDecimal.isFinite
  | .int i => some (.ofInt i)
  | _ => none

/-- `_integer`, of a value that `json.loads` may give. -/
def integer : Json → Option Int
  | .int i => some i
  | .str s => canonicalInt? s
  | _ => none

/-- The value of a member, or a default where it is absent. -/
def getOr (item : Json) (name : String) (default : Json) : Json := (item.get? name).getD default

/-- A value that must be there. -/
def needed {α : Type} (value : Option α) (explanation : String) : Except Exit α :=
  match value with
  | some a => .ok a
  | none => .error (insufficient explanation)

/-- The integral part of a number. -/
def truncate (x : ℚ) : Int := if 0 ≤ x then ⌊x⌋ else ⌈x⌉

/-- `a // b` of two decimals: the quotient must fit into the context. -/
def floorDiv (a b : ℚ) : Except Exit Int := do
  ensure (|truncate (a / b)| < 10 ^ 28) (.raised .invalidOperation)
  return truncate (a / b)
/-! ## Checks -/

/-- `_net_paid` -/
def netPaid (snapshots : List Json) : Except Exit Verdict := do
  let orders ← needed (lastItems snapshots "orders") "订单状态证据缺失。"
  ensure (orders ≠ []) (notApplicable "没有订单。")
  let bad ← collect (fun order => do
    let paid ← needed (decimal (order.get "paid_amount")) "订单金额字段无效。"
    let refunded ← needed (decimal (order.get "refunded_amount")) "订单金额字段无效。"
    let net ← raising (Context.checked (Context.sub paid.value refunded.value))
    if net < 0 then
      return [Json.obj [("order_id", order.get "id"), ("paid", .str paid.toText),
        ("refunded", .str refunded.toText)]]
    else return []) orders
  return conclude bad "存在净支付为负的订单。" "所有订单净支付均非负。" [("orders", .arr bad)] [] []

/-- `_refund_limit` -/
def refundLimit (snapshots : List Json) : Except Exit Verdict := do
  let orders ← needed (lastItems snapshots "orders") "订单状态证据缺失。"
  ensure (orders ≠ []) (notApplicable "没有订单。")
  let bad ← collect (fun order => do
    let paid ← needed (decimal (order.get "paid_amount")) "订单金额字段无效。"
    let refunded ← needed (decimal (order.get "refunded_amount")) "订单金额字段无效。"
    if paid.value < refunded.value then return [Json.str (order.get "id").toStr]
    else return []) orders
  return conclude bad "累计退款超过实付。" "累计退款未超过实付。" [("order_ids", .arr bad)] [] []

/-- The number of events that a coupon was used. -/
def usesOf (events : List Json) (couponId : String) : Nat :=
  events.countP fun event =>
    event.get "event_type" = .str "COUPON_USED" ∧ (event.get "aggregate_id").toStr = couponId

/-- `_coupon_consumption` -/
def couponConsumption (snapshots events : List Json) : Except Exit Verdict := do
  let coupons ← needed (lastItems snapshots "coupons") "优惠券状态证据缺失。"
  ensure (coupons ≠ []) (notApplicable "没有优惠券。")
  let bad ← collect (fun coupon => do
    let usageCount ← needed (integer (getOr coupon "usage_count" (.int 0)))
      "优惠券使用次数字段无效。"
    let couponId := (coupon.get "id").toStr
    if 1 < usageCount ∨ 1 < usesOf events couponId then return [Json.str couponId]
    else return []) coupons
  return conclude bad "优惠券被重复消费。" "每张优惠券最多消费一次。" [("coupon_ids", .arr bad)] [] events

/-- The points an event moves for an order: whether they are granted or revoked,
    the order, and the amount. -/
def pointsEntry (event : Json) : Except Exit (List (Bool × String × Int)) := do
  let eventType := event.get "event_type"
  if ← raising (eventType.isIn ["POINTS_GRANTED", "POINTS_REVOKED"]) then
    let payload := getOr event "payload" (.obj [])
    if payload.isObj then
      let orderId := (getOr payload "order_id" (.str "")).toStr
      let value := getOr payload "amount" (getOr payload "points" (.int 0))
      match (if value.truthy then value else .int 0).toInt with
      | .ok amount => return [(decide (eventType = .str "POINTS_GRANTED"), orderId, amount)]
      | .error .overflowError => throw (.raised .overflowError)
      | .error _ => throw (insufficient "积分事件金额无效。")
    else return []
  else return []

/-- The entries of all events. -/
def pointsEntries : List Json → Except Exit (List (Bool × String × Int))
  | [] => return []
  | event :: events => do return (← pointsEntry event) ++ (← pointsEntries events)

/-- The points granted (or revoked) for an order. -/
def pointsOf (entries : List (Bool × String × Int)) (granted : Bool) (orderId : String) : Int :=
  ((entries.filter fun entry => entry.1 = granted ∧ entry.2.1 = orderId).map (·.2.2)).sum

/-- What the grants of an order should be. -/
def expectedGrant (rule : PointsRule) (paid : PyDecimal) : Except Exit Int := do
  return (← floorDiv paid.value rule.spendAmount) * rule.pointsGranted

/-- What should have been revoked of an order. -/
def expectedRevoke (rule : PointsRule) (expected : Int) (paid refunded : PyDecimal) : Int :=
  if 0 < paid.value ∧ rule.revokeOnRefund then
    truncate (Context.div (Context.mul expected refunded.value) paid.value)
  else 0

/-- The points of the orders. The dictionary of grants is asked for an order only
    if it has a member, but reporting an order gives it one: `known` says whether
    it has any. -/
def pointsOrders (rule : PointsRule) (entries : List (Bool × String × Int)) (anyEvents : Bool)
    (known : Bool) : List Json → Except Exit (List Json)
  | [] => return []
  | order :: orders => do
    let paid ← needed (decimal (order.get "paid_amount")) "订单实付金额无效。"
    let expected ← expectedGrant rule paid
    let orderId := (order.get "id").toStr
    let stateGrant ← raising (getOr order "points_granted" (.int 0)).toInt
    let mismatch := stateGrant ≠ expected ∨ (known ∧ pointsOf entries true orderId ≠ expected)
    let granted : List Json := if mismatch then
      [.obj [("order_id", .str orderId), ("expected_grant", .int expected),
        ("state_grant", order.get "points_granted"),
        ("event_grant", .int (pointsOf entries true orderId))]] else []
    let refunded ← needed (decimal (order.get "refunded_amount")) "订单退款金额无效。"
    let revoke := expectedRevoke rule expected paid refunded
    let revoked : List Json := if anyEvents ∧ pointsOf entries false orderId ≠ revoke then
      [.obj [("order_id", .str orderId), ("expected_revoke", .int revoke),
        ("event_revoke", .int (pointsOf entries false orderId))]] else []
    let rest ← pointsOrders rule entries anyEvents (known || decide mismatch) orders
    return granted ++ revoked ++ rest

/-- A user whose points are negative. -/
def negativeBalance (user : Json) : Except Exit (List Json) := do
  let pointsBalance ← needed (integer (getOr user "points_balance" (.int 0))) "用户积分字段无效。"
  if pointsBalance < 0 then
    return [Json.obj [("negative_user_balance", .bool true), ("user_id", user.get "id")]]
  else return []

/-- `_points_conservation` -/
def pointsConservation (spec : RuleSpec) (snapshots events : List Json) :
    Except Exit Verdict := do
  let rule ← match spec.pointsRule with
    | some rule => .ok rule
    | none => .error (notApplicable "规则不包含积分。")
  let orders ← needed (lastItems snapshots "orders") "积分判定所需状态缺失。"
  let users ← needed (lastItems snapshots "users") "积分判定所需状态缺失。"
  let entries ← pointsEntries events
  let badOrders ← pointsOrders rule entries (decide (events ≠ []))
    (entries.any fun entry => entry.1) orders
  let badUsers ← collect negativeBalance users
  let bad := badOrders ++ badUsers
  return conclude bad "积分价值流与冻结规则不一致。" "积分价值流守恒。" [("mismatches", .arr bad)] [] events

/-- The states an order does not leave. -/
def terminalOrderStates : List String := ["CANCELLED", "REFUNDED"]

/-- The identifiers and the states of the orders of the snapshots. -/
def orderStates : List Json → Except Exit (List (String × String))
  | [] => return []
  | snapshot :: snapshots => do
    let orders ← needed (items snapshot "orders") "快照缺少订单集合。"
    return orders.map (fun order => ((order.get "id").toStr, (order.get "status").toStr)) ++
      (← orderStates snapshots)

/-- The states of an order, in their order. -/
def historyOf (states : List (String × String)) (orderId : String) : List String :=
  (states.filter (·.1 = orderId)).map Prod.snd

/-- A history leaves a terminal state. -/
def leavesTerminal : List String → Bool
  | a :: b :: rest => (a ∈ terminalOrderStates && b ≠ a) || leavesTerminal (b :: rest)
  | _ => false

/-- The elements of a list without repetitions, in the order of their first occurrence. -/
def distinct {α : Type} [DecidableEq α] (l : List α) : List α := l.reverse.dedup.reverse

/-- `_terminal_monotonicity` -/
def terminalMonotonicity (snapshots : List Json) : Except Exit Verdict := do
  ensure (¬ snapshots.length < 2) (insufficient "至少需要两个连续快照。")
  let states ← orderStates snapshots
  let histories := (distinct (states.map Prod.fst)).map fun id => (id, historyOf states id)
  let bad := (histories.filter fun history => leavesTerminal history.2).map fun history =>
    (history.1, Json.arr (history.2.map .str))
  ensure (histories ≠ []) (notApplicable "没有订单。")
  return conclude (bad.map Prod.snd) "订单从终态非法回退。" "订单终态保持单调。"
    [("histories", .obj bad)] [] []

/-- The quantities of an entitlement. -/
def quantities (item : Json) : Except Exit (Int × Int × Int) := do
  let granted ← needed (integer (getOr item "granted_quantity" (.int 0))) "权益数量字段无效。"
  let consumed ← needed (integer (getOr item "consumed_quantity" (.int 0))) "权益数量字段无效。"
  let revoked ← needed (integer (getOr item "revoked_quantity" (.int 0))) "权益数量字段无效。"
  return (granted, consumed, revoked)

/-- `_entitlement_non_negative` -/
def entitlementNonNegative (snapshots : List Json) : Except Exit Verdict := do
  let values ← needed (lastItems snapshots "entitlements") "权益状态证据缺失。"
  ensure (values ≠ []) (notApplicable "没有权益。")
  let bad ← collect (fun item => do
    let (granted, consumed, revoked) ← quantities item
    let available := granted - consumed - revoked
    if available < 0 then
      return [Json.obj [("entitlement_id", item.get "id"), ("available", .int available)]]
    else return []) values
  return conclude bad "权益余额为负。" "权益余额均非负。" [("entitlements", .arr bad)] [] []

/-- An event says that a membership was refunded. -/
def isRefundOf (membershipId : String) (event : Json) : Bool :=
  let payload := getOr event "payload" (.obj [])
  let named := if (payload.get "membership_id").truthy then (payload.get "membership_id").toStr
    else ""
  event.get "event_type" = .str "MEMBERSHIP_REFUNDED" &&
    ((event.get "aggregate_id").toStr = membershipId || named = membershipId)

/-- An entitlement was consumed after its membership was refunded. -/
def consumedAfterRefund (membershipId entitlementId : String) (events : List Json) : Bool :=
  ((events.dropWhile fun event => !isRefundOf membershipId event).drop 1).any fun later =>
    later.get "event_type" = .str "ENTITLEMENT_CONSUMED" &&
      (later.get "aggregate_id").toStr = entitlementId

/-- What is found bad of a membership that ended. -/
def endedMembership (policy : RefundPolicy) (events : List Json) (membership entitlement : Json) :
    Except Exit (List Json) := do
  let (granted, consumed, revoked) ← quantities entitlement
  let available := granted - consumed - revoked
  let refunded := decide (membership.get "status" = .str "REFUNDED")
  let membershipId := (membership.get "id").toStr
  let left : List Json := if available ≠ 0 then
    [.obj [("membership_id", membership.get "id"), ("available", .int available)]] else []
  let forbidden : List Json := if policy = .nonRefundable ∧ refunded then
    [.obj [("membership_id", membership.get "id"), ("reason", .str "non_refundable")]] else []
  let used : List Json := if policy = .unusedOnly ∧ refunded ∧ 0 < consumed then
    [.obj [("membership_id", membership.get "id"), ("reason", .str "used_then_refunded")]] else []
  let late : List Json :=
    if refunded ∧ consumedAfterRefund membershipId (entitlement.get "id").toStr events then
      [.obj [("membership_id", .str membershipId), ("reason", .str "consumed_after_refund")]]
    else []
  return left ++ forbidden ++ used ++ late

/-- `_entitlement_refund` -/
def entitlementRefund (spec : RuleSpec) (snapshots events : List Json) :
    Except Exit Verdict := do
  let policy ← match spec.refundPolicy with
    | some policy => .ok policy
    | none => .error (notApplicable "规则不包含会员权益。")
  let memberships ← needed (lastItems snapshots "memberships") "会员或权益证据缺失。"
  let entitlements ← needed (lastItems snapshots "entitlements") "会员或权益证据缺失。"
  ensure (memberships ≠ []) (notApplicable "没有会员。")
  let bad ← collect (fun membership => do
    if ← raising ((membership.get "status").isIn ["CANCELLED", "REFUNDED"]) then
      -- Of several entitlements of a membership the dictionary holds the last one.
      let entitlement ← needed (entitlements.reverse.find? fun entitlement =>
        (entitlement.get "membership_id").toStr = (membership.get "id").toStr) "会员缺少关联权益。"
      endedMembership policy events membership entitlement
    else return []) memberships
  return conclude bad "退款与权益有效性不一致。" "会员终止后权益状态与规则一致。"
    [("memberships", .arr bad)] [] []

/-- The action and the key of a receipt. -/
def receiptKey (receipt : Json) : String × String :=
  ((getOr receipt "action_type" (receipt.get "action")).toStr, (receipt.get "idempotency_key").toStr)

/-- What receipts of one request have to agree in. -/
def fingerprint (receipt : Json) : String × Json × Json :=
  ((receipt.get "status").toStr, receipt.get "result", receipt.get "monetary_effects")

/-- Two events of one type carry a key. -/
def duplicateEffect (events : List Json) (key : String) : Bool :=
  let keyed := (events.filter fun event => (event.get "idempotency_key").truthy).map fun event =>
    ((event.get "event_type").toStr, (event.get "idempotency_key").toStr)
  keyed.any fun pair => 1 < keyed.count pair && pair.2 = key

/-- The receipts that say a request succeeded. -/
def successful : List Json → Except Exit (List Json)
  | [] => return []
  | receipt :: receipts => do
    let found ← raising ((receipt.get "status").isIn ["SUCCEEDED", "APPLIED"])
    let rest ← successful receipts
    return if found then receipt :: rest else rest

/-- `_idempotency` -/
def idempotency (receipts events : List Json) : Except Exit Verdict := do
  let keyed := receipts.filter fun receipt => (receipt.get "idempotency_key").truthy
  ensure (keyed ≠ []) (insufficient "没有幂等键回执证据。")
  let bad ← collect (fun key => do
    let values := keyed.filter fun receipt => receiptKey receipt = key
    let succeeded ← successful values
    if 1 < (values.map fingerprint).dedup.length ∨
        (1 < succeeded.length ∧ duplicateEffect events key.2) then
      return [Json.obj [("action_type", .str key.1), ("idempotency_key", .str key.2)]]
    else return []) (distinct (keyed.map receiptKey))
  return conclude bad "同一幂等请求产生不一致或重复副作用。" "重复请求未产生额外副作用。"
    [("keys", .arr bad)] receipts events

/-! ## The report -/

/-- The finding of a check, if it does not raise. -/
def settle (invariantId : InvariantId) (snapshots : List Json) :
    Except Exit Verdict → Except PyException OracleFinding
  | .ok verdict => .ok (finding invariantId snapshots verdict)
  | .error (.verdict verdict) => .ok (finding invariantId snapshots verdict)
  | .error (.raised exception) => .error exception

/-- The checks, in their order. -/
def checks (spec : RuleSpec) (snapshots receipts events : List Json) :
    List (InvariantId × Except Exit Verdict) :=
  [(.netPaidNonNegative, netPaid snapshots),
    (.refundNotExceedPaid, refundLimit snapshots),
    (.couponSingleConsumption, couponConsumption snapshots events),
    (.pointsValueConservation, pointsConservation spec snapshots events),
    (.orderTerminalMonotonicity, terminalMonotonicity snapshots),
    (.entitlementNonNegative, entitlementNonNegative snapshots),
    (.entitlementRefundConsistency, entitlementRefund spec snapshots events),
    (.idempotentEffect, idempotency receipts events)]

/-- `evaluate`: the findings of the report. -/
def evaluate (spec : RuleSpec) (snapshots receipts events : List Json) :
    Except PyException (List OracleFinding) :=
  (checks spec snapshots receipts events).mapM fun check => settle check.1 snapshots check.2

end Oracle

end RuleArena
