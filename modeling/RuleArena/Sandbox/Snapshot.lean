import RuleArena.Sandbox.Arguments

/-!
# Snapshots

What a run shows of its rows: the snapshot with the hash of the canonical text
of its state, the events of the current epoch, and a receipt as it is sent back.
-/

namespace RuleArena

/-- A text, or null. -/
def optionText : Option String → Json
  | some s => .str s
  | none => .null

def TestUser.toJson (user : TestUser) : Json :=
  .obj [("id", .str user.id), ("balance", .str (amountText user.balance)),
    ("currency", .str user.currency.value), ("points_balance", .int user.pointsBalance),
    ("is_new_user", .bool user.isNewUser),
    ("membership_status", .str user.membershipStatus.value)]

def Coupon.toJson (coupon : Coupon) : Json :=
  .obj [("id", .str coupon.id), ("owner_id", .str coupon.ownerId),
    ("face_value", .str (amountText coupon.faceValue)),
    ("threshold", .str (amountText coupon.threshold)), ("currency", .str coupon.currency.value),
    ("status", .str coupon.status.value),
    ("reserved_order_id", optionText coupon.reservedOrderId),
    ("used_order_id", optionText coupon.usedOrderId), ("usage_count", .int coupon.usageCount)]

def Order.toJson (order : Order) : Json :=
  .obj [("id", .str order.id), ("user_id", .str order.userId),
    ("original_amount", .str (amountText order.originalAmount)),
    ("discount_amount", .str (amountText order.discountAmount)),
    ("paid_amount", .str (amountText order.paidAmount)),
    ("refunded_amount", .str (amountText order.refundedAmount)),
    ("points_granted", .int order.pointsGranted), ("currency", .str order.currency.value),
    ("status", .str order.status.value), ("coupon_id", optionText order.couponId)]

def Membership.toJson (membership : Membership) : Json :=
  .obj [("id", .str membership.id), ("user_id", .str membership.userId),
    ("paid_amount", .str (amountText membership.paidAmount)),
    ("currency", .str membership.currency.value), ("status", .str membership.status.value)]

def Entitlement.toJson (entitlement : Entitlement) : Json :=
  .obj [("id", .str entitlement.id), ("membership_id", .str entitlement.membershipId),
    ("entitlement_type", .str entitlement.entitlementType),
    ("granted_quantity", .int entitlement.grantedQuantity),
    ("consumed_quantity", .int entitlement.consumedQuantity),
    ("revoked_quantity", .int entitlement.revokedQuantity),
    ("status", .str entitlement.status.value)]

/-- The rows in the order of their identifiers. -/
def orderById {α : Type} (key : α → String) (rows : List α) : List α :=
  rows.insertionSort fun a b => key a ≤ key b

@[simp] theorem mem_orderById {α : Type} {key : α → String} {rows : List α} {r : α} :
    r ∈ orderById key rows ↔ r ∈ rows := List.mem_insertionSort _

namespace RunSpace

variable [Python] (run : RunSpace)

/-- The state a snapshot shows. -/
def stateJson : Json :=
  .obj [("users", .arr (run.user.toList.map TestUser.toJson)),
    ("coupons", .arr ((orderById Coupon.id run.coupons).map Coupon.toJson)),
    ("orders", .arr ((orderById Order.id run.orders).map Order.toJson)),
    ("memberships", .arr ((orderById Membership.id run.memberships).map Membership.toJson)),
    ("entitlements", .arr ((orderById Entitlement.id run.entitlements).map Entitlement.toJson))]

/-- `state_hash` -/
def stateHash : String := Python.sha256 run.stateJson.canonical

/-- `_snapshot` -/
def snapshot (now : Nat) : Json :=
  .obj [("schema_version", .str "1.0"), ("run_id", .str run.id),
    ("snapshot_version", .int run.snapshotVersion), ("state_hash", .str run.stateHash),
    ("state", run.stateJson), ("captured_at", .str (Python.isoformat now))]

/-- `_event_json`, but for the `event_id` that is drawn for each event. -/
def eventJson (event : BusinessEvent) : Json :=
  .obj [("schema_version", .str "1.0"), ("run_id", .str run.id),
    ("sequence", .int event.sequence), ("aggregate_type", .str event.aggregateType.value),
    ("aggregate_id", .str event.aggregateId), ("event_type", .str event.eventType.value),
    ("payload", .obj event.payload), ("idempotency_key", .str event.idempotencyKey),
    ("occurred_at", .str (Python.isoformat event.occurredAt))]

/-- `get_events`: the events of the current epoch in the order of their sequence
    numbers. -/
def getEvents : List Json :=
  (run.epochEvents.insertionSort fun a b => a.sequence ≤ b.sequence).map run.eventJson

end RunSpace

/-! ## Receipts -/

/-- A receipt as the service gives it back. -/
structure ActionReceipt where
  runId : String
  idempotencyKey : Option String
  actionType : ActionName
  status : ActionStatus
  monetaryEffects : List Money
  result : List (String × Json)
  error : Option DomainError
  occurredAt : Nat
  deriving DecidableEq

/-- The key of a receipt that the service made up for an inspection is not shown. -/
def shownKey (key : String) : Option String :=
  if key.toList.take 8 = ['i', 'n', 's', 'p', 'e', 'c', 't', ':'] then none else some key

/-- `_receipt_from_record` -/
def ActionReceiptRecord.toReceipt (record : ActionReceiptRecord) (runId : String) : ActionReceipt :=
  { runId, idempotencyKey := shownKey record.idempotencyKey, actionType := record.actionType,
    status := record.status, monetaryEffects := record.monetaryEffects, result := record.result,
    error := record.error, occurredAt := record.occurredAt }

def Money.toJson (money : Money) : Json :=
  .obj [("currency", .str money.currency.value), ("amount", .str money.amount.text)]

def DomainError.toJson (error : DomainError) : Json :=
  .obj [("schema_version", .str "1.0"), ("code", .str error.code),
    ("message", .str error.message), ("retryable", .bool false),
    ("details", .obj error.details)]

/-- The JSON form of a receipt, but for the `receipt_id` that is drawn for each of them. -/
def ActionReceipt.toJson [Python] (receipt : ActionReceipt) : Json :=
  .obj [("schema_version", .str "1.0"), ("run_id", .str receipt.runId),
    ("idempotency_key", optionText receipt.idempotencyKey),
    ("action_type", .str receipt.actionType.actionType), ("status", .str receipt.status.value),
    ("monetary_effects", .arr (receipt.monetaryEffects.map Money.toJson)),
    ("result", .obj receipt.result),
    ("error", match receipt.error with | some error => error.toJson | none => .null),
    ("occurred_at", .str (Python.isoformat receipt.occurredAt))]

end RuleArena
