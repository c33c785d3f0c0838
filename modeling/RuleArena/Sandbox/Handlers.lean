import RuleArena.Sandbox.Snapshot

/-!
# The handlers

One handler for each action, as the service has them. A handler takes the run
as it finds it and gives back the run with its changes, the result and the
monetary effects; it fails with a rejection, which undoes its changes, or with
another exception, which undoes the whole transaction.

The checks stand in the order of the source, and so do the flushes: a value a
column cannot hold is refused when the handler first appends an event after
setting it.
-/

namespace RuleArena

/-- What a handler gives back besides the run. -/
structure Outcome where
  result : List (String × Json)
  effects : List Money := []
  deriving DecidableEq

/-- What of an entitlement is neither consumed nor revoked. -/
def Entitlement.available (entitlement : Entitlement) : Int :=
  entitlement.grantedQuantity - entitlement.consumedQuantity - entitlement.revokedQuantity

/-- The actions of a scenario, besides those every scenario has. -/
def ScenarioType.actions : ScenarioType → List ActionName
  | promotion => [.issueCoupon, .createOrder, .applyCoupon, .payOrder, .cancelOrder, .refundOrder]
  | refundPoints => [.createOrder, .payOrder, .cancelOrder, .refundOrder, .redeemPoints]
  | membershipEntitlement => [.activateMembership, .consumeEntitlement, .cancelMembership]

namespace RunSpace

variable (run : RunSpace) (command : ActionCommand) (key : String) (now : Nat)

/-- `_create_user` -/
def createUser : Except Fault (RunSpace × Outcome) := do
  command.checkArgs ["initial_balance"] ["initial_balance"]
  let (amount, currency) ← money (command.argument "initial_balance") "initial_balance"
  ensure (0 ≤ amount.toInt) (.reject "INVALID_AMOUNT" "initial_balance cannot be negative")
  ensure (run.user = none) (.reject "USER_ALREADY_EXISTS" "a run can contain only one test user")
  let user : TestUser := {
    id := "user-1", balance := amount.toInt, currency, pointsBalance := 0, isNewUser := true,
    membershipStatus := .inactive }
  let run ← (run.setUser user).event .user user.id .userCreated [("user_id", .str user.id)] key now
  return (run, {
    result := [("user_id", .str user.id), ("balance", .str amount.text)],
    effects := [⟨currency, amount⟩] })

/-- `_issue_coupon` -/
def issueCoupon : Except Fault (RunSpace × Outcome) := do
  command.checkArgs ["value", "threshold"] ["value", "threshold"]
  let user ← run.getUser command.targetOrActor
  let (value, currency) ← money (command.argument "value") "value"
  let (threshold, thresholdCurrency) ← money (command.argument "threshold") "threshold"
  ensure (¬ (value.toInt ≤ 0 ∨ threshold.toInt < 0))
    (.reject "INVALID_AMOUNT" "coupon value must be positive")
  ensure (¬ (currency ≠ thresholdCurrency ∨ currency ≠ user.currency))
    (.reject "CURRENCY_MISMATCH" "all monetary values must use one currency")
  let coupon : Coupon := {
    id := nextId run.coupons "coupon", ownerId := user.id, faceValue := value.toInt,
    threshold := threshold.toInt, currency, status := .available, reservedOrderId := none,
    usedOrderId := none, usageCount := 0 }
  let run ← (run.addCoupon coupon).event .coupon coupon.id .couponIssued
    [("coupon_id", .str coupon.id), ("owner_id", .str coupon.ownerId)] key now
  return (run, {
    result := [("coupon_id", .str coupon.id), ("value", .str value.text),
      ("threshold", .str threshold.text)],
    effects := [⟨currency, value⟩] })

/-- `_create_order` -/
def createOrder : Except Fault (RunSpace × Outcome) := do
  command.checkArgs ["amount"] ["amount"]
  let user ← run.getUser command.targetOrActor
  let (amount, currency) ← money (command.argument "amount") "amount"
  ensure (¬ amount.toInt ≤ 0) (.reject "INVALID_AMOUNT" "order amount must be positive")
  ensure (currency = user.currency)
    (.reject "CURRENCY_MISMATCH" "order currency differs from user currency")
  let order : Order := {
    id := nextId run.orders "order", userId := user.id, originalAmount := amount.toInt,
    discountAmount := 0, paidAmount := 0, refundedAmount := 0, pointsGranted := 0, currency,
    status := .pendingPayment, couponId := none }
  let run ← (run.addOrder order).event .order order.id .orderCreated
    [("order_id", .str order.id), ("user_id", .str user.id)] key now
  return (run, {
    result := [("order_id", .str order.id), ("amount", .str amount.text)],
    effects := [⟨currency, amount⟩] })

/-- `_apply_coupon` -/
def applyCoupon : Except Fault (RunSpace × Outcome) := do
  command.checkArgs ["coupon_id"] ["coupon_id"]
  let orderId ← command.target "order_id"
  let order ← run.getOrder orderId
  ensure (order.couponId = none)
    (.reject "COUPON_ALREADY_APPLIED" "an order can use only one coupon")
  let couponId ← stringArgument (command.argument "coupon_id") "coupon_id"
  let coupon ← run.getCoupon couponId
  ensure (order.status = .pendingPayment)
    (.reject "ORDER_NOT_PENDING" "coupon can only be applied to a pending order")
  ensure (coupon.status = .available ∨ coupon.status = .restored)
    (.reject "COUPON_NOT_AVAILABLE" "coupon is not available")
  ensure (coupon.ownerId = order.userId)
    (.reject "COUPON_OWNER_MISMATCH" "coupon belongs to another user")
  ensure (¬ (coupon.currency ≠ order.currency ∨ order.originalAmount < coupon.threshold))
    (.reject "COUPON_CONDITION_FAILED" "order does not meet coupon conditions")
  let discount := min coupon.faceValue order.originalAmount
  let order := { order with discountAmount := discount, couponId := some coupon.id }
  let coupon := { coupon with status := .reserved, reservedOrderId := some order.id }
  let run ← ((run.setOrder order).setCoupon coupon).event .coupon coupon.id .couponReserved
    [("coupon_id", .str coupon.id), ("order_id", .str order.id)] key now
  return (run, {
    result := [("order_id", .str order.id), ("coupon_id", .str coupon.id),
      ("discount", .str (amountText discount))],
    effects := [⟨order.currency, .ofInt discount⟩] })

/-- The coupon block of `_pay_order`: the coupon reserved for an order is used. -/
def useCoupon (order : Order) : Except Fault RunSpace :=
  match order.couponId with
  | none => return run
  | some couponId => do
    let coupon ← run.getCoupon couponId
    ensure (¬ (coupon.status ≠ .reserved ∨ coupon.reservedOrderId ≠ some order.id))
      (.reject "COUPON_STATE_INVALID" "reserved coupon does not match order")
    let coupon := { coupon with
      status := .used, reservedOrderId := none, usedOrderId := some order.id,
      usageCount := coupon.usageCount + 1 }
    (run.setCoupon coupon).event .coupon coupon.id .couponUsed
      [("coupon_id", .str coupon.id), ("order_id", .str order.id)] key now

/-- Grant points for an order: the balance, the ledger and the event. -/
def grantPoints (user : TestUser) (order : Order) (points : Int) (ledgerKey : String) :
    Except Fault RunSpace :=
  ((run.setUser { user with pointsBalance := user.pointsBalance + points }).addLedger user.id
    (some order.id) .grant points ledgerKey).event .user user.id .pointsGranted
    [("user_id", .str user.id), ("order_id", .str order.id), ("amount", .int points)] key now

/-- `_pay_order` -/
def payOrder : Except Fault (RunSpace × Outcome) := do
  command.checkArgs [] []
  let orderId ← command.target "order_id"
  let order ← run.getOrder orderId
  ensure (order.status ≠ .cancelled)
    (.reject "ORDER_CANCELLED" "cancelled orders cannot be paid")
  ensure (order.status = .pendingPayment)
    (.reject "ORDER_NOT_PENDING" "order is not awaiting payment")
  let user ← run.getUser order.userId
  let paid := order.originalAmount - order.discountAmount
  ensure (¬ paid ≤ 0) (.reject "INVALID_PAYMENT" "paid amount must be positive")
  ensure (¬ user.balance < paid) (.reject "INSUFFICIENT_BALANCE" "user balance is insufficient")
  let user := { user with balance := user.balance - paid }
  let order := { order with paidAmount := paid, status := .paid }
  let run ← ((run.setUser user).setOrder order).useCoupon key now order
  let run ← run.event .order order.id .paymentCaptured
    [("order_id", .str order.id), ("paid_amount", .str (amountText paid))] key now
  let result := [("order_id", .str order.id), ("paid_amount", .str (amountText paid))]
  let effects := [⟨order.currency, .ofInt paid⟩]
  if run.scenarioType = .refundPoints then
    let points := pointsFor paid
    let order := { order with pointsGranted := points }
    let run ← (run.setOrder order).grantPoints key now user order points (key ++ ":points-grant")
    return (run, { result := result ++ [("points_granted", .int points)], effects })
  else
    return (run, { result, effects })

/-- The coupon block of `_cancel_order`: the coupon reserved for an order is restored. -/
def releaseCoupon (order : Order) : Except Fault RunSpace :=
  match order.couponId with
  | none => return run
  | some couponId => do
    let coupon ← run.getCoupon couponId
    if coupon.status = .reserved ∧ coupon.reservedOrderId = some order.id then
      let coupon := { coupon with status := .restored, reservedOrderId := none }
      (run.setCoupon coupon).event .coupon coupon.id .couponRestored
        [("coupon_id", .str coupon.id), ("order_id", .str order.id)] key now
    else return run

/-- `_cancel_order` -/
def cancelOrder : Except Fault (RunSpace × Outcome) := do
  command.checkArgs [] []
  let orderId ← command.target "order_id"
  let order ← run.getOrder orderId
  ensure (order.status = .draft ∨ order.status = .pendingPayment)
    (.reject "ORDER_NOT_CANCELLABLE" "order cannot be cancelled")
  let run ← run.releaseCoupon key now order
  let order := { order with status := .cancelled }
  let run ← (run.setOrder order).event .order order.id .orderCancelled
    [("order_id", .str order.id)] key now
  return (run, {
    result := [("order_id", .str order.id), ("status", .str order.status.value)] })

/-- The ceiling of a refund: what is left of the payment, or the whole of it under
    the defect. -/
def refundCeiling (order : Order) : Int :=
  if run.profile.allowsRefundAgainstOriginalAmount ∧ run.scenarioType = .promotion then
    order.paidAmount
  else order.paidAmount - order.refundedAmount

/-- The points already revoked for an order, as the ledger has them. -/
def alreadyRevoked (orderId : String) : Int :=
  -((run.ledger.filter fun entry => entry.orderId = some orderId ∧ entry.entryType = .revoke).map
    PointsLedgerEntry.amount).sum

/-- The points revoked in all once an order is refunded as far as it is: those of
    the refunded share, rounded down. The share is computed in the decimal
    context. -/
def targetRevoke (order : Order) (fullRefund : Bool) : Int :=
  if fullRefund then order.pointsGranted
  else ⌊Context.div (Context.mul order.pointsGranted (order.refundedAmount / 100 : ℚ))
    (order.paidAmount / 100 : ℚ)⌋

/-- `_revoke_points` -/
def revokePoints (user : TestUser) (order : Order) (fullRefund : Bool) : Except Fault RunSpace := do
  let delta := max (targetRevoke order fullRefund - run.alreadyRevoked order.id) 0
  if delta = 0 then return run
  else
    ensure (¬ user.pointsBalance < delta) (.reject "POINTS_ALREADY_REDEEMED"
      "refund cannot revoke points that have already been redeemed")
    ((run.setUser { user with pointsBalance := user.pointsBalance - delta }).addLedger user.id
      (some order.id) .revoke (-delta) (key ++ ":points-revoke")).event .user user.id
      .pointsRevoked [("user_id", .str user.id), ("order_id", .str order.id),
        ("amount", .int delta)] key now

/-- The points block of `_refund_order`. -/
def refundPoints (user : TestUser) (order : Order) (amount : Int) : Except Fault RunSpace :=
  if run.scenarioType = .refundPoints then
    if run.profile.grantsPointsAgainOnRefund then
      run.grantPoints key now user order (pointsFor amount) (key ++ ":refund-points-grant")
    else run.revokePoints key now user order (order.refundedAmount ≥ order.paidAmount)
  else return run

/-- The coupon block of `_refund_order`: the defect gives a used coupon back. -/
def restoreCoupon (order : Order) : Except Fault RunSpace :=
  match order.couponId with
  | none => return run
  | some couponId =>
    if run.scenarioType = .promotion ∧ order.status = .refunded ∧
        run.profile.restoresCouponAfterFullRefund then do
      let coupon ← run.getCoupon couponId
      let coupon := { coupon with status := .available, usedOrderId := none }
      (run.setCoupon coupon).event .coupon coupon.id .couponRestored
        [("coupon_id", .str coupon.id), ("order_id", .str order.id)] key now
    else return run

/-- `_refund_order` -/
def refundOrder : Except Fault (RunSpace × Outcome) := do
  command.checkArgs ["amount"] ["amount"]
  let orderId ← command.target "order_id"
  let order ← run.getOrder orderId
  ensure (order.status = .paid ∨ order.status = .partiallyRefunded)
    (.reject "ORDER_NOT_REFUNDABLE" "order is not refundable")
  let (amount, currency) ← money (command.argument "amount") "amount"
  ensure (¬ (amount.toInt ≤ 0 ∨ currency ≠ order.currency))
    (.reject "INVALID_REFUND" "refund amount is invalid")
  ensure (¬ run.refundCeiling order < amount.toInt)
    (.reject "REFUND_EXCEEDS_PAID" "refunds cannot exceed the paid amount")
  let user ← run.getUser order.userId
  let user := { user with balance := user.balance + amount.toInt }
  let refunded := order.refundedAmount + amount.toInt
  let order := { order with
    refundedAmount := refunded,
    status := if refunded ≥ order.paidAmount then .refunded else .partiallyRefunded }
  let refund : Refund := {
    id := nextId run.refunds "refund", orderId := order.id, amount := amount.toInt,
    idempotencyKey := key }
  let run ← (((run.setUser user).setOrder order).addRefund refund).event .order order.id
    .refundIssued [("order_id", .str order.id), ("amount", .str amount.text)] key now
  let run ← run.refundPoints key now user order amount.toInt
  let run ← run.restoreCoupon key now order
  return (run, {
    result := [("refund_id", .str refund.id), ("order_id", .str order.id),
      ("refunded_amount", .str amount.text),
      ("order_refunded_total", .str (amountText order.refundedAmount))],
    effects := [⟨currency, amount⟩] })

/-- `_redeem_points` -/
def redeemPoints : Except Fault (RunSpace × Outcome) := do
  command.checkArgs ["amount"] ["amount"]
  let amount ← positiveInt (command.argument "amount") "amount"
  let user ← run.getUser command.targetOrActor
  ensure (¬ (user.pointsBalance < amount ∧
      ¬ (run.scenarioType = .refundPoints ∧ run.profile.allowsPointsOverredemption)))
    (.reject "INSUFFICIENT_POINTS" "points balance is insufficient")
  let user := { user with pointsBalance := user.pointsBalance - amount }
  let run ← ((run.setUser user).addLedger user.id none .redeem (-amount)
    (key ++ ":points-redeem")).event .user user.id .pointsRedeemed
    [("user_id", .str user.id), ("amount", .int amount)] key now
  return (run, { result := [("user_id", .str user.id), ("redeemed_points", .int amount)] })

/-- `_activate_membership` -/
def activateMembership : Except Fault (RunSpace × Outcome) := do
  command.checkArgs ["paid_amount", "quantity"] ["paid_amount", "quantity"]
  let user ← run.getUser command.targetOrActor
  let (paidAmount, currency) ← money (command.argument "paid_amount") "paid_amount"
  let quantity ← positiveInt (command.argument "quantity") "quantity"
  ensure (¬ (paidAmount.toInt ≤ 0 ∨ currency ≠ user.currency))
    (.reject "INVALID_MEMBERSHIP" "membership price is invalid")
  ensure (user.membershipStatus = .inactive)
    (.reject "MEMBERSHIP_ALREADY_ACTIVE" "user already has a membership")
  ensure (¬ user.balance < paidAmount.toInt)
    (.reject "INSUFFICIENT_BALANCE" "user balance is insufficient")
  let user := { user with
    balance := user.balance - paidAmount.toInt, membershipStatus := .active }
  let membership : Membership := {
    id := nextId run.memberships "membership", userId := user.id,
    paidAmount := paidAmount.toInt, currency, status := .active }
  let entitlement : Entitlement := {
    id := nextId run.entitlements "entitlement", membershipId := membership.id,
    entitlementType := "USAGE", grantedQuantity := quantity, consumedQuantity := 0,
    revokedQuantity := 0, status := .granted }
  let run ← (((run.setUser user).addMembership membership).addEntitlement entitlement).event
    .membership membership.id .membershipActivated
    [("membership_id", .str membership.id), ("user_id", .str user.id)] key now
  let run ← run.event .entitlement entitlement.id .entitlementGranted
    [("entitlement_id", .str entitlement.id), ("quantity", .int quantity)] key now
  return (run, {
    result := [("membership_id", .str membership.id), ("entitlement_id", .str entitlement.id),
      ("quantity", .int quantity)],
    effects := [⟨currency, paidAmount⟩] })

/-- `_consume_entitlement` -/
def consumeEntitlement : Except Fault (RunSpace × Outcome) := do
  command.checkArgs ["quantity"] ["quantity"]
  let quantity ← positiveInt (command.argument "quantity") "quantity"
  let entitlementId ← command.target "entitlement_id"
  let entitlement ← run.getEntitlement entitlementId
  ensure (¬ (entitlement.status = .revoked ∨ entitlement.status = .consumed))
    (.reject "ENTITLEMENT_NOT_AVAILABLE" "entitlement is not available")
  ensure (¬ (¬ run.profile.allowsEntitlementOverconsumption ∧ entitlement.available < quantity))
    (.reject "INSUFFICIENT_ENTITLEMENT" "entitlement quantity is insufficient")
  let consumed := entitlement.consumedQuantity + quantity
  let entitlement := { entitlement with
    consumedQuantity := consumed,
    status := if consumed ≥ entitlement.grantedQuantity then .consumed else .partiallyConsumed }
  let run ← (run.setEntitlement entitlement).event .entitlement entitlement.id
    .entitlementConsumed
    [("entitlement_id", .str entitlement.id), ("quantity", .int quantity)] key now
  return (run, {
    result := [("entitlement_id", .str entitlement.id),
      ("consumed_quantity", .int entitlement.consumedQuantity)] })

/-- The entitlement block of `_cancel_membership`: what is available is revoked, if
    anything is and `allowed` holds. -/
def revokeEntitlement (allowed : Bool) (entitlement : Entitlement) : Except Fault RunSpace :=
  if allowed ∧ 0 < entitlement.available then
    let available := entitlement.available
    let entitlement := { entitlement with
      revokedQuantity := entitlement.revokedQuantity + available, status := .revoked }
    (run.setEntitlement entitlement).event .entitlement entitlement.id .entitlementRevoked
      [("entitlement_id", .str entitlement.id), ("quantity", .int available)] key now
  else return run

/-- `_cancel_membership` -/
def cancelMembership : Except Fault (RunSpace × Outcome) := do
  command.checkArgs ["refund_requested"] ["refund_requested"]
  let refundRequested ← strictBool (command.argument "refund_requested") "refund_requested"
  let membershipId ← command.target "membership_id"
  let membership ← run.getMembership membershipId
  ensure (membership.status = .active)
    (.reject "MEMBERSHIP_NOT_ACTIVE" "membership is not active")
  let user ← run.getUser membership.userId
  let entitlement ← run.getEntitlementByMembership membership.id
  if refundRequested then
    ensure (¬ (0 < entitlement.consumedQuantity ∧
        ¬ run.profile.allowsFullMembershipRefundAfterConsumption))
      (.reject "ENTITLEMENT_CONSUMED"
        "a membership with consumed entitlement cannot receive a full refund")
    let user := { user with
      balance := user.balance + membership.paidAmount, membershipStatus := .inactive }
    let membership := { membership with status := .refunded }
    let run := (run.setUser user).setMembership membership
    let run ← run.revokeEntitlement key now
      (!run.profile.leavesEntitlementAfterMembershipRefund) entitlement
    let run ← run.event .membership membership.id .membershipRefunded
      [("membership_id", .str membership.id),
        ("amount", .str (amountText membership.paidAmount))] key now
    return (run, {
      result := [("membership_id", .str membership.id), ("status", .str membership.status.value),
        ("refunded_amount", .str (amountText membership.paidAmount))],
      effects := [⟨membership.currency, .ofInt membership.paidAmount⟩] })
  else
    let user := { user with membershipStatus := .inactive }
    let membership := { membership with status := .cancelled }
    let run := (run.setUser user).setMembership membership
    -- The defect is scoped to refunds: a plain cancellation leaves nothing behind.
    let run ← run.revokeEntitlement key now true entitlement
    let run ← run.event .membership membership.id .membershipCancelled
      [("membership_id", .str membership.id)] key now
    return (run, {
      result := [("membership_id", .str membership.id), ("status", .str membership.status.value)] })

/-- The scope of an inspection. A list or an object cannot be looked up in the set
    of scopes. -/
def inspectScope (value : Json) : Except Fault String :=
  match value with
  | .str scope => do
    ensure (scope ∈ ["RUN", "USER", "ORDER", "MEMBERSHIP"])
      (.reject "INVALID_SCOPE" "inspect scope is invalid")
    return scope
  | .arr _ | .obj _ => throw (.crash .typeError)
  | _ => throw (.reject "INVALID_SCOPE" "inspect scope is invalid")

/-- `_inspect_state` -/
def inspectState [Python] : Except Fault (RunSpace × Outcome) := do
  command.checkArgs ["scope"] []
  let scope ← inspectScope (((Json.obj command.arguments).get? "scope").getD (.str "RUN"))
  return (run, { result := [("scope", .str scope), ("snapshot", run.snapshot now)] })

/-! ## Dispatch -/

/-- The handler of an action. -/
def handler [Python] : Except Fault (RunSpace × Outcome) :=
  match command.action with
  | .createUser => run.createUser command key now
  | .issueCoupon => run.issueCoupon command key now
  | .createOrder => run.createOrder command key now
  | .applyCoupon => run.applyCoupon command key now
  | .payOrder => run.payOrder command key now
  | .cancelOrder => run.cancelOrder command key now
  | .refundOrder => run.refundOrder command key now
  | .redeemPoints => run.redeemPoints command key now
  | .activateMembership => run.activateMembership command key now
  | .consumeEntitlement => run.consumeEntitlement command key now
  | .cancelMembership => run.cancelMembership command key now
  | .inspectState => run.inspectState command now

/-- `_dispatch` -/
def dispatch [Python] : Except Fault (RunSpace × Outcome) := do
  ensure (command.action ∈ [.createUser, .inspectState] ++ run.scenarioType.actions)
    (.domain {
      code := "ACTION_NOT_SUPPORTED", message := "the action is not supported by this scenario",
      details := [("action", .str command.action.value),
        ("scenario_type", .str run.scenarioType.value)] })
  run.handler command key now

end RunSpace

end RuleArena
