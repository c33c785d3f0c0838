import RuleArena.Simulator.State

/-!
# The transitions of the reference simulator

A handler reads the arguments of an action, checks it against the state and the
rules, and gives the new state and its events. It ends early with a rejection
or an exception, and `transition` turns the exceptions it knows into
rejections.

Sums of amounts are exact: amounts have at most 28 digits, a sum is only
compared with such an amount, and rounding does not carry it past one.
-/

namespace RuleArena

/-- The simulator: the rules of a policy, one of each type. -/
structure ReferenceSimulator where
  scenarioType : ScenarioType
  promotion : Option PromotionRule
  refund : Option RefundRule
  points : Option PointsRule
  membership : Option MembershipRule
  deriving DecidableEq

/-- `ReferenceSimulator(rule_spec)` -/
def PolicySpec.simulator (spec : PolicySpec) : ReferenceSimulator where
  scenarioType := spec.scenarioType
  promotion := spec.rules.findSome? fun | .promotion rule => some rule | _ => none
  refund := spec.rules.findSome? fun | .refund rule => some rule | _ => none
  points := spec.rules.findSome? fun | .points rule => some rule | _ => none
  membership := spec.rules.findSome? fun | .membership rule => some rule | _ => none

inductive TransitionStatus
  | applied
  | rejected
  | unsupported
  deriving DecidableEq, Repr

structure TransitionResult where
  status : TransitionStatus
  state : SimulationState
  events : List SimEvent := []
  code : Option String := none
  deriving DecidableEq, Repr

/-- The actions of a scenario. -/
def ScenarioType.simActions : ScenarioType → List ActionName
  | promotion => [.issueCoupon, .createOrder, .applyCoupon, .payOrder, .cancelOrder, .refundOrder]
  | refundPoints => [.createOrder, .payOrder, .cancelOrder, .refundOrder, .redeemPoints]
  | membershipEntitlement => [.activateMembership, .consumeEntitlement, .cancelMembership]

/-- `quantize(CENT, rounding=ROUND_HALF_UP)` of a number, in cents. -/
def quantizeCents (x : ℚ) : Except SimFault Int := do
  let cents := if 0 ≤ x then ⌊x * 100 + 1 / 2⌋ else ⌈x * 100 - 1 / 2⌉
  ensure (|cents| < 10 ^ 28) arithmeticError
  return cents

namespace ReferenceSimulator

variable (simulator : ReferenceSimulator)

def initialState : SimulationState where
  scenarioType := simulator.scenarioType

variable (state : SimulationState) (action : SimAction)

/-- `_do_create_user` -/
def doCreateUser : Except SimFault (SimulationState × List SimEvent) := do
  ensure (state.users = []) (.reject "USER_EXISTS")
  let currency ← ((action.argument? "currency").getD (.str "CNY")).currency
  let balance ← ((action.argument? "initial_balance").getD (.str "0")).money
  let balance ← ordered balance
  ensure (¬ balance < 0) (.reject "INVALID_AMOUNT")
  let user : SimUser := { userId := action.actorId, balance, currency }
  return ({ state with users := [user] },
    [{ eventType := .userCreated, aggregateType := .user, aggregateId := user.userId }])

/-- An amount an action may name, and its default from the rules. -/
def moneyOr (name : String) (default : MoneyAmount) : Except SimFault (Option Int) :=
  match action.argument? name with
  | some value => value.money
  | none => quantizeMoney default.decimal

/-- `_do_issue_coupon` -/
def doIssueCoupon : Except SimFault (SimulationState × List SimEvent) := do
  match simulator.promotion with
  | none => throw (.reject "PRECONDITION_FAILED")
  | some promotion =>
    ensure (state.users ≠ []) (.reject "PRECONDITION_FAILED")
    let ownerId := action.targetOrActor
    ensure (∃ user ∈ state.users, user.userId = ownerId) (.reject "USER_NOT_FOUND")
    let faceValue ← moneyOr action "value" promotion.discountAmount.amount
    let threshold ← moneyOr action "threshold" promotion.minimumOrderAmount.amount
    let currency ← ((action.argument? "currency").getD (.str "CNY")).currency
    let faceValue ← ordered faceValue
    ensure (¬ faceValue ≤ 0) (.reject "INVALID_COUPON")
    let threshold ← ordered threshold
    ensure (¬ (threshold < 0 ∨ currency ≠ promotion.discountAmount.currency))
      (.reject "INVALID_COUPON")
    let coupon : SimCoupon := {
      couponId := "coupon-" ++ toString (state.coupons.length + 1), ownerId, faceValue, threshold,
      currency }
    return ({ state with coupons := state.coupons ++ [coupon] },
      [{ eventType := .couponIssued, aggregateType := .coupon, aggregateId := coupon.couponId }])

/-- `_money(action.argument("amount"))`, where an absent argument is `Decimal("None")`. -/
def amountOf : Except SimFault (Option Int) :=
  match action.argument? "amount" with
  | some value => value.money
  | none => throw arithmeticError

/-- `_do_create_order` -/
def doCreateOrder : Except SimFault (SimulationState × List SimEvent) := do
  ensure (state.users ≠ []) (.reject "USER_NOT_FOUND")
  let userId := action.targetOrActor
  ensure (∃ user ∈ state.users, user.userId = userId) (.reject "USER_NOT_FOUND")
  let amount ← amountOf action
  let currency ← ((action.argument? "currency").getD (.str "CNY")).currency
  let amount ← ordered amount
  ensure (¬ amount ≤ 0) (.reject "INVALID_AMOUNT")
  let order : SimOrder := {
    orderId := "order-" ++ toString (state.orders.length + 1), userId, originalAmount := amount,
    currency }
  return ({ state with orders := state.orders ++ [order] },
    [{ eventType := .orderCreated, aggregateType := .order, aggregateId := order.orderId }])

/-- `_do_apply_coupon` -/
def doApplyCoupon : Except SimFault (SimulationState × List SimEvent) := do
  let couponId ← ((action.argument? "coupon_id").getD (.str "")).toStr
  match locate (fun item => action.targetId = some item.orderId) state.orders,
      locate (fun item => item.couponId = couponId) state.coupons with
  | some (oi, order), some (ci, coupon) =>
    ensure (¬ (order.status ≠ .created ∨ order.couponId.isSome ∨ coupon.status ≠ .available ∨
        coupon.ownerId ≠ order.userId ∨ coupon.currency ≠ order.currency ∨
        order.originalAmount < coupon.threshold))
      (.reject "COUPON_NOT_APPLICABLE")
    let order := { order with
      couponId := some couponId,
      discountAmount := min coupon.faceValue order.originalAmount }
    let coupon := { coupon with status := .reserved, reservedOrderId := action.targetId }
    return ({ state with orders := state.orders.set oi order, coupons := state.coupons.set ci coupon },
      [{ eventType := .couponReserved, aggregateType := .coupon, aggregateId := couponId }])
  | _, _ => throw (.reject "ASSET_NOT_FOUND")

/-- The coupon of an order, which is there. -/
def couponOf (couponId : String) : Except SimFault (Nat × SimCoupon) :=
  match locate (fun item => item.couponId = couponId) state.coupons with
  | some found => return found
  | none => throw (.raised .stopIteration)

/-- The user of an order, who is there. -/
def userOf (userId : String) : Except SimFault (Nat × SimUser) :=
  match locate (fun item => item.userId = userId) state.users with
  | some found => return found
  | none => throw (.raised .stopIteration)

/-- The points granted for an amount. -/
def granted (amount : Int) : Except SimFault Int := do
  match simulator.points with
  | some points =>
    -- The integral part of a quotient has at most 28 digits.
    let units := Oracle.truncate ((amount / 100 : ℚ) / points.spendAmount)
    ensure (|units| < 10 ^ 28) arithmeticError
    return units * points.pointsGranted
  | none => return 0

/-- The coupon block of `_do_pay_order`: the coupon of the order is used. -/
def useCoupon (order : SimOrder) : Except SimFault (List SimCoupon × List SimEvent) :=
  match order.couponId with
  | some couponId => do
    let (ci, coupon) ← couponOf state couponId
    let coupon := { coupon with
      status := .used, usedOrderId := some order.orderId, usageCount := coupon.usageCount + 1 }
    return (state.coupons.set ci coupon,
      [{ eventType := .couponUsed, aggregateType := .coupon, aggregateId := couponId }])
  | none => return (state.coupons, [])

/-- `_do_pay_order` -/
def doPayOrder : Except SimFault (SimulationState × List SimEvent) := do
  match locate (fun item => action.targetId = some item.orderId) state.orders with
  | none => throw (.reject "ORDER_NOT_PAYABLE")
  | some (oi, order) =>
    ensure (order.status = .created) (.reject "ORDER_NOT_PAYABLE")
    let amount := order.originalAmount - order.discountAmount
    let (ui, user) ← userOf state order.userId
    ensure (¬ user.balance < amount) (.reject "INSUFFICIENT_BALANCE")
    let granted ← simulator.granted amount
    let user := { user with
      balance := user.balance - amount, pointsBalance := user.pointsBalance + granted,
      isNewUser := false }
    let order := { order with paidAmount := amount, pointsGranted := granted, status := .paid }
    let (coupons, used) ← useCoupon state order
    let points : List SimEvent := if granted ≠ 0 then
      [{ eventType := .pointsGranted, aggregateType := .user, aggregateId := user.userId,
         payload := [("amount", .int granted), ("order_id", .str order.orderId)] }] else []
    return ({ state with
        users := state.users.set ui user, orders := state.orders.set oi order, coupons },
      [{ eventType := .paymentCaptured, aggregateType := .order, aggregateId := order.orderId }] ++
        used ++ points)

/-- The rules for refunds refuse a refund of an amount. -/
def refusesRefund (order : SimOrder) (amount : Int) : Bool :=
  match simulator.refund with
  | some refund =>
    (!refund.allowPartialRefund && amount ≠ order.paidAmount - order.refundedAmount) ||
      refund.maximumRefundsPerOrder ≤ order.refundCount
  | none => false

/-- The rules revoke points on a refund. -/
def revokesPoints : Bool := simulator.points.any PointsRule.revokeOnRefund

/-- `target_revoke`: the points of an order that are to be revoked once so much of it
    is refunded. It is bound only where the order was granted some. -/
def targetRevoke (order : SimOrder) (total : Int) : Option Int :=
  if simulator.revokesPoints ∧ order.pointsGranted ≠ 0 then
    some (if total = order.paidAmount then order.pointsGranted
      else ⌊Context.div (Context.mul order.pointsGranted (total / 100 : ℚ))
        (order.paidAmount / 100 : ℚ)⌋)
  else none

/-- The new `points_revoked` of an order. -/
def pointsRevoked (order : SimOrder) (target : Option Int) : Except SimFault Int :=
  if simulator.revokesPoints then
    match target with
    | some target => return target
    -- The name is not bound.
    | none => throw (.raised .unboundLocalError)
  else return order.pointsRevoked

/-- The coupon block of `_do_refund_order`: on a full refund the coupon of the order
    comes back, if the rules say so. -/
def restoreCoupon (order : SimOrder) (full : Bool) :
    Except SimFault (List SimCoupon × List SimEvent) :=
  match order.couponId with
  | some couponId =>
    if full ∧ simulator.promotion.any PromotionRule.restoreOnFullRefund then do
      let (ci, coupon) ← couponOf state couponId
      let coupon := { coupon with
        status := .available, reservedOrderId := none, usedOrderId := none }
      return (state.coupons.set ci coupon,
        [{ eventType := .couponRestored, aggregateType := .coupon, aggregateId := couponId }])
    else return (state.coupons, [])
  | none => return (state.coupons, [])

/-- `_do_refund_order` -/
def doRefundOrder : Except SimFault (SimulationState × List SimEvent) := do
  match locate (fun item => action.targetId = some item.orderId) state.orders with
  | none => throw (.reject "ORDER_NOT_FOUND")
  | some (oi, order) =>
    let amount ← amountOf action
    ensure (order.status = .paid ∨ order.status = .partiallyRefunded) (.reject "INVALID_REFUND")
    let amount ← ordered amount
    ensure (¬ (amount ≤ 0 ∨ order.paidAmount < order.refundedAmount + amount))
      (.reject "INVALID_REFUND")
    ensure (simulator.refusesRefund order amount = false) (.reject "REFUND_POLICY_REJECTED")
    let (ui, user) ← userOf state order.userId
    let total := order.refundedAmount + amount
    let full := total = order.paidAmount
    let target := simulator.targetRevoke order total
    let delta := match target with
      | some target => max (target - order.pointsRevoked) 0
      | none => 0
    ensure (¬ user.pointsBalance < delta ∨ target = none) (.reject "POINTS_ALREADY_REDEEMED")
    let user := { user with
      balance := user.balance + amount, pointsBalance := user.pointsBalance - delta }
    let revoked : List SimEvent := if delta ≠ 0 then
      [{ eventType := .pointsRevoked, aggregateType := .user, aggregateId := user.userId,
         payload := [("amount", .int delta), ("order_id", .str order.orderId)] }] else []
    let pointsRevoked ← simulator.pointsRevoked order target
    let order := { order with
      refundedAmount := total, pointsRevoked, refundCount := order.refundCount + 1,
      status := if full then .refunded else .partiallyRefunded }
    let (coupons, restored) ← simulator.restoreCoupon state order full
    return ({ state with
        users := state.users.set ui user, orders := state.orders.set oi order, coupons },
      [{ eventType := .refundIssued, aggregateType := .order, aggregateId := order.orderId,
         payload := [("amount", .str (Amount.ofInt amount).text)] }] ++ revoked ++ restored)

/-- `_do_redeem_points` -/
def doRedeemPoints : Except SimFault (SimulationState × List SimEvent) := do
  match state.users with
  | [] => throw (.reject "USER_NOT_FOUND")
  | user :: users =>
    let amount ← ((action.argument? "amount").getD (.int 0)).toInt
    ensure (¬ (amount ≤ 0 ∨ user.pointsBalance < amount)) (.reject "INSUFFICIENT_POINTS")
    let user := { user with pointsBalance := user.pointsBalance - amount }
    return ({ state with users := user :: users },
      [{ eventType := .pointsRedeemed, aggregateType := .user, aggregateId := user.userId,
         payload := [("amount", .int amount)] }])

/-- `_do_activate_membership` -/
def doActivateMembership : Except SimFault (SimulationState × List SimEvent) := do
  match simulator.membership with
  | none => throw (.reject "PRECONDITION_FAILED")
  | some rule =>
    ensure (state.users ≠ [] ∧ state.memberships = []) (.reject "PRECONDITION_FAILED")
    match locate (fun item => item.userId = action.targetOrActor) state.users with
    | none => throw (.reject "USER_NOT_FOUND")
    | some (ui, user) =>
      let paid ← moneyOr action "paid_amount" rule.price.amount
      let quantity ← ((action.argument? "quantity").getD (.int rule.entitlementQuantity)).toInt
      let mismatch : SimFault := .reject "MEMBERSHIP_RULE_MISMATCH"
      -- A NaN differs from every price.
      match paid with
      | none => throw mismatch
      | some paid =>
        ensure (¬ ((paid / 100 : ℚ) ≠ rule.price.amount.decimal.value ∨
          quantity ≠ rule.entitlementQuantity ∨ user.balance < paid)) mismatch
        let membership : SimMembership := {
          membershipId := "membership-1", userId := user.userId, paidAmount := paid,
          currency := rule.price.currency }
        let entitlement : SimEntitlement := {
          entitlementId := "entitlement-1", membershipId := membership.membershipId,
          granted := quantity }
        let user := { user with balance := user.balance - paid, membershipStatus := .active }
        return ({ state with
            users := state.users.set ui user, memberships := [membership],
            entitlements := [entitlement] },
          [{ eventType := .membershipActivated, aggregateType := .membership,
             aggregateId := membership.membershipId },
           { eventType := .entitlementGranted, aggregateType := .entitlement,
             aggregateId := entitlement.entitlementId, payload := [("quantity", .int quantity)] }])

/-- `_do_consume_entitlement` -/
def doConsumeEntitlement : Except SimFault (SimulationState × List SimEvent) := do
  ensure (state.entitlements ≠ []) (.reject "ENTITLEMENT_NOT_FOUND")
  let quantity ← ((action.argument? "quantity").getD (.int 0)).toInt
  match locate (fun item => action.targetId = some item.entitlementId) state.entitlements with
  | none => throw (.reject "ENTITLEMENT_NOT_FOUND")
  | some (ei, entitlement) =>
    ensure (¬ (quantity ≤ 0 ∨ entitlement.available < quantity)) (.reject "INSUFFICIENT_ENTITLEMENT")
    let entitlement := { entitlement with consumed := entitlement.consumed + quantity }
    return ({ state with entitlements := state.entitlements.set ei entitlement },
      [{ eventType := .entitlementConsumed, aggregateType := .entitlement,
         aggregateId := entitlement.entitlementId, payload := [("quantity", .int quantity)] }])

/-- What is refunded of a membership that is cancelled. -/
def membershipRefund (rule : MembershipRule) (requested : Bool) (membership : SimMembership)
    (entitlement : SimEntitlement) : Except SimFault Int := do
  if requested ∧ rule.refundPolicy ≠ .nonRefundable then
    if rule.refundPolicy = .prorated then
      ensure (entitlement.granted ≠ 0) arithmeticError
      quantizeCents (Context.div
        (Context.mul (membership.paidAmount / 100 : ℚ) entitlement.available) entitlement.granted)
    else return membership.paidAmount
  else return 0

/-- `_do_cancel_membership` -/
def doCancelMembership : Except SimFault (SimulationState × List SimEvent) := do
  match state.memberships, simulator.membership with
  | membership :: memberships, some rule =>
    ensure (membership.status = .active) (.reject "MEMBERSHIP_NOT_ACTIVE")
    match state.entitlements, state.users with
    | entitlement :: entitlements, user :: users =>
      let requested := ((action.argument? "refund_requested").getD (.bool false)).truthy
      ensure (¬ (requested ∧ rule.refundPolicy = .unusedOnly ∧ entitlement.consumed ≠ 0))
        (.reject "ENTITLEMENT_CONSUMED")
      let refund ← membershipRefund rule requested membership entitlement
      let membership := { membership with
        status := if refund ≠ 0 then .refunded else .cancelled, refundedAmount := refund }
      let entitlement := { entitlement with revoked := entitlement.revoked + entitlement.available }
      let user := { user with balance := user.balance + refund, membershipStatus := .inactive }
      return ({ state with
          users := user :: users, memberships := membership :: memberships,
          entitlements := entitlement :: entitlements },
        [{ eventType := .membershipCancelled, aggregateType := .membership,
           aggregateId := membership.membershipId },
         { eventType := .entitlementRevoked, aggregateType := .entitlement,
           aggregateId := entitlement.entitlementId }])
    | _, _ => throw (.raised .indexError)
  | _, _ => throw (.reject "MEMBERSHIP_NOT_ACTIVE")

/-- The handler of an action, if there is one. -/
def handler? : ActionName → Option (Except SimFault (SimulationState × List SimEvent))
  | .createUser => some (doCreateUser state action)
  | .issueCoupon => some (simulator.doIssueCoupon state action)
  | .createOrder => some (doCreateOrder state action)
  | .applyCoupon => some (doApplyCoupon state action)
  | .payOrder => some (simulator.doPayOrder state action)
  | .refundOrder => some (simulator.doRefundOrder state action)
  | .redeemPoints => some (doRedeemPoints state action)
  | .activateMembership => some (simulator.doActivateMembership state action)
  | .consumeEntitlement => some (doConsumeEntitlement state action)
  | .cancelMembership => some (simulator.doCancelMembership state action)
  | .cancelOrder | .inspectState => none

/-- The exceptions that `transition` turns into rejections. -/
def caught : SimException → Bool
  | .arithmeticError | .typeError | .valueError | .stopIteration => true
  | .indexError | .unboundLocalError => false

/-- The key an action is remembered under, if it has one. -/
def marker? : Option (ActionName × String) :=
  match action.idempotencyKey with
  | some key => if key = "" then none else some (action.actionType, key)
  | none => none

/-- `transition` -/
def transition : Except SimException TransitionResult :=
  if action.actionType ≠ .createUser ∧ action.actionType ∉ state.scenarioType.simActions then
    .ok { status := .unsupported, state, code := some "ACTION_NOT_SUPPORTED" }
  else if ∃ marker ∈ marker? action, marker ∈ state.seenIdempotencyKeys then
    .ok { status := .applied, state }
  else
    match simulator.handler? state action action.actionType with
    | none => .ok { status := .unsupported, state, code := some "UNSUPPORTED_ACTION" }
    | some (.ok (state', events)) =>
      .ok {
        status := .applied
        state := { state' with
          seenIdempotencyKeys := state'.seenIdempotencyKeys ++ (marker? action).toList }
        events }
    | some (.error (.reject code)) => .ok { status := .rejected, state, code := some code }
    | some (.error (.raised exception)) =>
      if caught exception then .ok { status := .rejected, state, code := some "INVALID_ARGUMENT" }
      else .error exception

end ReferenceSimulator

end RuleArena
