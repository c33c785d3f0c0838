import RuleArena.Foundation.AsciiText
import RuleArena.Sandbox.Snapshot
import RuleArena.Simulator.State

/-!
# Snapshots of the simulator

A state of the simulator as the worker shows it to the oracle
(`SimulationState.normalized`): a JSON value with the names of the simulator's
own fields, its rows sorted by their identifiers. Beside it the same state under
the names of the sandbox's snapshots (`SimulationState.inSandbox`), which the
oracle was written for.
-/

namespace RuleArena

def SimMembershipState.value : SimMembershipState → String
  | none => "NONE"
  | active => "ACTIVE"
  | inactive => "INACTIVE"

def SimCouponStatus.value : SimCouponStatus → String
  | available => "AVAILABLE"
  | reserved => "RESERVED"
  | used => "USED"

def SimOrderStatus.value : SimOrderStatus → String
  | created => "CREATED"
  | paid => "PAID"
  | partiallyRefunded => "PARTIALLY_REFUNDED"
  | refunded => "REFUNDED"

def SimMembershipStatus.value : SimMembershipStatus → String
  | active => "ACTIVE"
  | cancelled => "CANCELLED"
  | refunded => "REFUNDED"

/-- An amount that is `Decimal("0")` until an action sets it. -/
def amountOnceSet (set : Bool) (cents : Int) : String := if set then amountText cents else "0"

/-! ## The names of the simulator -/

def SimUser.normalized (user : SimUser) : Json :=
  .obj [("balance", .str (amountText user.balance)), ("currency", .str user.currency.value),
    ("is_new_user", .bool user.isNewUser),
    ("membership_status", .str user.membershipStatus.value),
    ("points_balance", .int user.pointsBalance), ("user_id", .str user.userId)]

def SimCoupon.normalized (coupon : SimCoupon) : Json :=
  .obj [("coupon_id", .str coupon.couponId), ("currency", .str coupon.currency.value),
    ("face_value", .str (amountText coupon.faceValue)), ("owner_id", .str coupon.ownerId),
    ("reserved_order_id", optionText coupon.reservedOrderId),
    ("status", .str coupon.status.value), ("threshold", .str (amountText coupon.threshold)),
    ("usage_count", .int coupon.usageCount), ("used_order_id", optionText coupon.usedOrderId)]

def SimOrder.normalized (order : SimOrder) : Json :=
  .obj [("coupon_id", optionText order.couponId), ("currency", .str order.currency.value),
    ("discount_amount", .str (amountOnceSet order.couponId.isSome order.discountAmount)),
    ("order_id", .str order.orderId),
    ("original_amount", .str (amountText order.originalAmount)),
    ("paid_amount", .str (amountOnceSet (order.status ≠ .created) order.paidAmount)),
    ("points_granted", .int order.pointsGranted), ("points_revoked", .int order.pointsRevoked),
    ("refund_count", .int order.refundCount),
    ("refunded_amount", .str (amountOnceSet (order.refundCount ≠ 0) order.refundedAmount)),
    ("status", .str order.status.value), ("user_id", .str order.userId)]

/-- A membership. A prorated refund of nothing is written "0.00" by the source. -/
def SimMembership.normalized (membership : SimMembership) : Json :=
  .obj [("currency", .str membership.currency.value),
    ("membership_id", .str membership.membershipId),
    ("paid_amount", .str (amountText membership.paidAmount)),
    ("refunded_amount", .str (amountOnceSet (membership.refundedAmount ≠ 0)
      membership.refundedAmount)),
    ("status", .str membership.status.value), ("user_id", .str membership.userId)]

def SimEntitlement.normalized (entitlement : SimEntitlement) : Json :=
  .obj [("consumed", .int entitlement.consumed),
    ("entitlement_id", .str entitlement.entitlementId), ("granted", .int entitlement.granted),
    ("membership_id", .str entitlement.membershipId), ("revoked", .int entitlement.revoked)]

/-- The remembered keys, sorted by their texts. -/
def SimulationState.seenKeys (state : SimulationState) : List Json :=
  let items := state.seenIdempotencyKeys.map fun (action, key) =>
    Json.arr [.str action.actionType, .str key]
  items.insertionSort fun a b =>
    Json.asciiText (String.ofList a.render) ≤ Json.asciiText (String.ofList b.render)

/-- `normalized` -/
def SimulationState.normalized (state : SimulationState) : Json :=
  .obj [("coupons", .arr ((orderById SimCoupon.couponId state.coupons).map SimCoupon.normalized)),
    ("entitlements", .arr ((orderById SimEntitlement.entitlementId state.entitlements).map
      SimEntitlement.normalized)),
    ("memberships", .arr ((orderById SimMembership.membershipId state.memberships).map
      SimMembership.normalized)),
    ("orders", .arr ((orderById SimOrder.orderId state.orders).map SimOrder.normalized)),
    ("scenario_type", .str state.scenarioType.value),
    ("seen_idempotency_keys", .arr state.seenKeys),
    ("users", .arr ((orderById SimUser.userId state.users).map SimUser.normalized))]

/-! ## The names of the sandbox -/

def SimUser.inSandbox (user : SimUser) : Json :=
  .obj [("id", .str user.userId), ("balance", .str (amountText user.balance)),
    ("currency", .str user.currency.value), ("points_balance", .int user.pointsBalance),
    ("is_new_user", .bool user.isNewUser),
    ("membership_status", .str user.membershipStatus.value)]

def SimCoupon.inSandbox (coupon : SimCoupon) : Json :=
  .obj [("id", .str coupon.couponId), ("owner_id", .str coupon.ownerId),
    ("face_value", .str (amountText coupon.faceValue)),
    ("threshold", .str (amountText coupon.threshold)), ("currency", .str coupon.currency.value),
    ("status", .str coupon.status.value),
    ("reserved_order_id", optionText coupon.reservedOrderId),
    ("used_order_id", optionText coupon.usedOrderId), ("usage_count", .int coupon.usageCount)]

def SimOrder.inSandbox (order : SimOrder) : Json :=
  .obj [("id", .str order.orderId), ("user_id", .str order.userId),
    ("original_amount", .str (amountText order.originalAmount)),
    ("discount_amount", .str (amountText order.discountAmount)),
    ("paid_amount", .str (amountText order.paidAmount)),
    ("refunded_amount", .str (amountText order.refundedAmount)),
    ("points_granted", .int order.pointsGranted), ("currency", .str order.currency.value),
    ("status", .str order.status.value), ("coupon_id", optionText order.couponId)]

def SimMembership.inSandbox (membership : SimMembership) : Json :=
  .obj [("id", .str membership.membershipId), ("user_id", .str membership.userId),
    ("paid_amount", .str (amountText membership.paidAmount)),
    ("currency", .str membership.currency.value), ("status", .str membership.status.value)]

def SimEntitlement.inSandbox (entitlement : SimEntitlement) : Json :=
  .obj [("id", .str entitlement.entitlementId), ("membership_id", .str entitlement.membershipId),
    ("granted_quantity", .int entitlement.granted),
    ("consumed_quantity", .int entitlement.consumed),
    ("revoked_quantity", .int entitlement.revoked)]

/-- The state of a snapshot of the sandbox that shows the same rows. -/
def SimulationState.inSandbox (state : SimulationState) : Json :=
  .obj [("users", .arr ((orderById SimUser.userId state.users).map SimUser.inSandbox)),
    ("coupons", .arr ((orderById SimCoupon.couponId state.coupons).map SimCoupon.inSandbox)),
    ("orders", .arr ((orderById SimOrder.orderId state.orders).map SimOrder.inSandbox)),
    ("memberships", .arr ((orderById SimMembership.membershipId state.memberships).map
      SimMembership.inSandbox)),
    ("entitlements", .arr ((orderById SimEntitlement.entitlementId state.entitlements).map
      SimEntitlement.inSandbox))]

/-! ## Snapshots -/

section Snapshot

variable [Python]

/-- `state_hash` -/
def SimulationState.stateHash (state : SimulationState) : String :=
  Python.sha256 (Json.asciiText state.normalized.canonical)

/-- The snapshot of a state that the worker keeps. -/
def SimulationState.snapshot (state : SimulationState) : Json :=
  .obj [("state", state.normalized), ("state_hash", .str state.stateHash)]

/-- The snapshot of a state under the names of the sandbox. -/
def SimulationState.sandboxSnapshot (state : SimulationState) : Json :=
  .obj [("state", state.inSandbox), ("state_hash", .str state.stateHash)]

end Snapshot

end RuleArena
