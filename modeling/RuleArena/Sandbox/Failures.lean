import RuleArena.Sandbox.Answers
import RuleArena.Sandbox.Counters
import RuleArena.Sandbox.Money
import RuleArena.Sandbox.Reservations

/-!
# When a command fails

A command should be answered with a receipt, of success or of rejection. For each
handler there is a condition (`createUserFits` and so on) on the run and the
command for that: the checks of the handler in their order, as premises, and what
has to fit where they lead. `execute_answers` says that it is exact.
-/

namespace RuleArena

namespace RunSpace

/-! ## Conditions -/

section Conditions

variable (run : RunSpace) (command : ActionCommand) (key : String)

/-- `_create_user`: the balance fits. -/
def createUserFits : Prop :=
  command.checkArgs ["initial_balance"] ["initial_balance"] = .ok () →
  ∀ amount currency,
    money (command.argument "initial_balance") "initial_balance" = .ok (amount, currency) →
  run.user = none → Numeric amount.toInt ∧ run.HasRoom 1

/-- `_issue_coupon`: the name of the owner is plain, and value and threshold fit. -/
def issueCouponFits : Prop :=
  command.checkArgs ["value", "threshold"] ["value", "threshold"] = .ok () →
  Plain command.targetOrActor ∧ ∀ user, run.user = some user → user.id = command.targetOrActor →
  ∀ value currency, money (command.argument "value") "value" = .ok (value, currency) →
  ∀ threshold thresholdCurrency,
    money (command.argument "threshold") "threshold" = .ok (threshold, thresholdCurrency) →
  ¬ (value.toInt ≤ 0 ∨ threshold.toInt < 0) →
  ¬ (currency ≠ thresholdCurrency ∨ currency ≠ user.currency) →
    Numeric value.toInt ∧ Numeric threshold.toInt ∧ run.HasRoom 1

/-- `_create_order`: the name of the user is plain, and the amount fits. -/
def createOrderFits : Prop :=
  command.checkArgs ["amount"] ["amount"] = .ok () →
  Plain command.targetOrActor ∧ ∀ user, run.user = some user → user.id = command.targetOrActor →
  ∀ amount currency, money (command.argument "amount") "amount" = .ok (amount, currency) →
  ¬ amount.toInt ≤ 0 → currency = user.currency → Numeric amount.toInt ∧ run.HasRoom 1

/-- `_apply_coupon`: the names of the order and of the coupon are plain. -/
def applyCouponFits : Prop :=
  command.checkArgs ["coupon_id"] ["coupon_id"] = .ok () →
  ∀ orderId, command.target "order_id" = .ok orderId →
  Plain orderId ∧ ∀ order, Table.find? Order.id run.orders orderId = some order →
  order.couponId = none →
  ∀ couponId, stringArgument (command.argument "coupon_id") "coupon_id" = .ok couponId →
  Plain couponId ∧ ∀ coupon, Table.find? Coupon.id run.coupons couponId = some coupon →
  order.status = .pendingPayment → (coupon.status = .available ∨ coupon.status = .restored) →
  coupon.ownerId = order.userId →
  ¬ (coupon.currency ≠ order.currency ∨ order.originalAmount < coupon.threshold) → run.HasRoom 1

/-- What a new entry of the ledger and the balance after it have to fit. -/
def PointsFit (user : TestUser) (points : Int) (ledgerKey : String) : Prop :=
  Int32 (user.pointsBalance + points) ∧ Int32 points ∧ ledgerKey.length ≤ 256

/-- One event more for an order with a coupon. -/
def couponEvents (order : Order) : Nat := if order.couponId = none then 0 else 1

/-- `_pay_order`: the name of the order is plain, and the points it grants fit. -/
def payOrderFits : Prop :=
  command.checkArgs [] [] = .ok () →
  ∀ orderId, command.target "order_id" = .ok orderId →
  Plain orderId ∧ ∀ order, Table.find? Order.id run.orders orderId = some order →
  order.status ≠ .cancelled → order.status = .pendingPayment →
  ∀ user, run.user = some user → user.id = order.userId →
  ¬ order.price ≤ 0 → ¬ user.balance < order.price →
    run.HasRoom (1 + couponEvents order) ∧
    (run.scenarioType = .refundPoints → run.HasRoom (2 + couponEvents order) ∧
      PointsFit user (pointsFor order.price) (key ++ ":points-grant"))

/-- `_cancel_order`: the name of the order is plain. -/
def cancelOrderFits : Prop :=
  command.checkArgs [] [] = .ok () →
  ∀ orderId, command.target "order_id" = .ok orderId →
  Plain orderId ∧ ∀ order, Table.find? Order.id run.orders orderId = some order →
  (order.status = .draft ∨ order.status = .pendingPayment) →
    run.HasRoom (1 + if order.status = .pendingPayment then couponEvents order else 0)

/-- The points of a refund fit: those granted again under the defect, or those
    revoked, if there are so many. -/
def refundPointsFit (user : TestUser) (order : Order) (amount : Int) : Prop :=
  if run.profile.grantsPointsAgainOnRefund then
    run.HasRoom 2 ∧ PointsFit user (pointsFor amount) (key ++ ":refund-points-grant")
  else
    let delta := max (targetRevoke (order.refund amount)
      ((order.refund amount).refundedAmount ≥ order.paidAmount) - run.alreadyRevoked order.id) 0
    delta ≠ 0 → ¬ user.pointsBalance < delta →
      run.HasRoom 2 ∧ (key ++ ":points-revoke").length ≤ 256

/-- `_refund_order`: the name of the order is plain, and the balance, the refunded
    amount and the points fit. -/
def refundOrderFits : Prop :=
  command.checkArgs ["amount"] ["amount"] = .ok () →
  ∀ orderId, command.target "order_id" = .ok orderId →
  Plain orderId ∧ ∀ order, Table.find? Order.id run.orders orderId = some order →
  (order.status = .paid ∨ order.status = .partiallyRefunded) →
  ∀ amount currency, money (command.argument "amount") "amount" = .ok (amount, currency) →
  ¬ (amount.toInt ≤ 0 ∨ currency ≠ order.currency) →
  ¬ run.refundCeiling order < amount.toInt →
  ∀ user, run.user = some user → user.id = order.userId →
    (Numeric (user.balance + amount.toInt) ∧ Numeric (order.refundedAmount + amount.toInt) ∧
      run.HasRoom 1) ∧
    (run.scenarioType = .refundPoints → run.refundPointsFit key user order amount.toInt) ∧
    (run.scenarioType = .promotion → order.couponId ≠ none →
      (order.refund amount.toInt).status = .refunded →
      run.profile.restoresCouponAfterFullRefund → run.HasRoom 2)

/-- `_redeem_points`: the quantity can be counted, the name of the user is plain, and
    the points fit. -/
def redeemPointsFits : Prop :=
  command.checkArgs ["amount"] ["amount"] = .ok () →
  (command.argument "amount").Countable ∧
  ∀ amount, positiveInt (command.argument "amount") "amount" = .ok amount →
  Plain command.targetOrActor ∧ ∀ user, run.user = some user → user.id = command.targetOrActor →
  ¬ (user.pointsBalance < amount ∧
      ¬ (run.scenarioType = .refundPoints ∧ run.profile.allowsPointsOverredemption)) →
    run.HasRoom 1 ∧ PointsFit user (-amount) (key ++ ":points-redeem")

/-- `_activate_membership`: the name of the user is plain, and the quantity can be
    counted and fits. -/
def activateMembershipFits : Prop :=
  command.checkArgs ["paid_amount", "quantity"] ["paid_amount", "quantity"] = .ok () →
  Plain command.targetOrActor ∧ ∀ user, run.user = some user → user.id = command.targetOrActor →
  ∀ paidAmount currency,
    money (command.argument "paid_amount") "paid_amount" = .ok (paidAmount, currency) →
  (command.argument "quantity").Countable ∧
  ∀ quantity, positiveInt (command.argument "quantity") "quantity" = .ok quantity →
  ¬ (paidAmount.toInt ≤ 0 ∨ currency ≠ user.currency) → user.membershipStatus = .inactive →
  ¬ user.balance < paidAmount.toInt → Int32 quantity ∧ run.HasRoom 2

/-- `_consume_entitlement`: the quantity can be counted and fits, and the name of the
    entitlement is plain. -/
def consumeEntitlementFits : Prop :=
  command.checkArgs ["quantity"] ["quantity"] = .ok () →
  (command.argument "quantity").Countable ∧
  ∀ quantity, positiveInt (command.argument "quantity") "quantity" = .ok quantity →
  ∀ entitlementId, command.target "entitlement_id" = .ok entitlementId →
  Plain entitlementId ∧
  ∀ entitlement, Table.find? Entitlement.id run.entitlements entitlementId = some entitlement →
  ¬ (entitlement.status = .revoked ∨ entitlement.status = .consumed) →
  ¬ (¬ run.profile.allowsEntitlementOverconsumption ∧ entitlement.available < quantity) →
    Int32 (entitlement.consumedQuantity + quantity) ∧ run.HasRoom 1

/-- One event more for an entitlement that is revoked. -/
def revocationEvents (allowed : Bool) (entitlement : Entitlement) : Nat :=
  if allowed ∧ 0 < entitlement.available then 1 else 0

/-- `_cancel_membership`: the name of the membership is plain, and the balance fits. -/
def cancelMembershipFits : Prop :=
  command.checkArgs ["refund_requested"] ["refund_requested"] = .ok () →
  ∀ refundRequested,
    strictBool (command.argument "refund_requested") "refund_requested" = .ok refundRequested →
  ∀ membershipId, command.target "membership_id" = .ok membershipId →
  Plain membershipId ∧
  ∀ membership, Table.find? Membership.id run.memberships membershipId = some membership →
  membership.status = .active →
  ∀ user, run.user = some user → user.id = membership.userId →
  ∀ entitlement,
    Table.find? Entitlement.membershipId run.entitlements membership.id = some entitlement →
  if refundRequested then
    ¬ (0 < entitlement.consumedQuantity ∧
      ¬ run.profile.allowsFullMembershipRefundAfterConsumption) →
    Numeric (user.balance + membership.paidAmount) ∧ run.HasRoom (1 + revocationEvents
      (!run.profile.leavesEntitlementAfterMembershipRefund) entitlement)
  else run.HasRoom (1 + revocationEvents true entitlement)

/-- `_inspect_state`: the scope can be looked up. -/
def inspectStateFits : Prop :=
  command.checkArgs ["scope"] [] = .ok () →
  (((Json.obj command.arguments).get? "scope").getD (.str "RUN")).Hashable

/-- What a command needs to be answered by its handler. -/
def Fits : Prop :=
  match command.action with
  | .createUser => run.createUserFits command
  | .issueCoupon => run.issueCouponFits command
  | .createOrder => run.createOrderFits command
  | .applyCoupon => run.applyCouponFits command
  | .payOrder => run.payOrderFits command key
  | .cancelOrder => run.cancelOrderFits command
  | .refundOrder => run.refundOrderFits command key
  | .redeemPoints => run.redeemPointsFits command key
  | .activateMembership => run.activateMembershipFits command
  | .consumeEntitlement => run.consumeEntitlementFits command
  | .cancelMembership => run.cancelMembershipFits command
  | .inspectState => inspectStateFits command

end Conditions

/-! ## Blocks -/

section Blocks

variable {run : RunSpace} {key : String} {now : Nat}

/-- Points are granted if the entry and the balance fit. -/
theorem grantPoints_answers {Q : Prop} (base : run.Storable ↔ Q) {user : TestUser} {order : Order}
    {points : Int} {ledgerKey : String} (users : ∀ user ∈ run.user, user.Storable)
    (balance : Numeric user.balance)
    (ledger : Table.Fits PointsLedgerEntry.Storable PointsLedgerEntry.idempotencyKey run.ledger)
    (new : ledgerKey ∉ run.ledger.map PointsLedgerEntry.idempotencyKey) :
    Answers (run.grantPoints key now user order points ledgerKey) ↔
      Q ∧ run.HasRoom 1 ∧ PointsFit user points ledgerKey := by
  refine answers_flush.trans ((storable_addEvent (storable_addLedger (storable_setUser base
    (user.addPoints points) users) ledger new)).trans ?_)
  simp [TestUser.Storable, PointsFit, balance]
  tauto

/-- A payment is captured, and points are granted where the scenario has them. -/
theorem capture_answers (storable : run.Storable) {user : TestUser} {order : Order}
    {payload : List (String × Json)} {f g : RunSpace → RunSpace × Outcome}
    (balance : Numeric user.balance) (orderFits : order.captured.Storable)
    (found : Table.find? Order.id run.orders order.id = some order.captured)
    (new : key ++ ":points-grant" ∉ run.ledger.map PointsLedgerEntry.idempotencyKey) :
    Answers (run.event .order order.id .paymentCaptured payload key now >>= fun run =>
        if run.scenarioType = .refundPoints then
          (run.setOrder (order.captured.withPoints (pointsFor order.price))).grantPoints key now
            user (order.captured.withPoints (pointsFor order.price)) (pointsFor order.price)
            (key ++ ":points-grant") >>= fun run => pure (f run)
        else pure (g run)) ↔
      run.HasRoom 1 ∧ (run.scenarioType = .refundPoints →
        run.HasRoom 2 ∧ PointsFit user (pointsFor order.price) (key ++ ":points-grant")) := by
  refine (answers_event (Q := run.scenarioType = .refundPoints →
    run.HasRoom 2 ∧ PointsFit user (pointsFor order.price) (key ++ ":points-grant"))
    fun captured => ?_).trans
      (and_congr_left' ((storable_addEvent (iff_true_intro storable)).trans (by simp)))
  rw [addEvent_scenarioType]
  by_cases hs : run.scenarioType = .refundPoints
  · rw [if_pos hs, answers_map, imp_iff_right hs]
    refine (grantPoints_answers (storable_setOrder (iff_true_intro captured)
      (order.captured.withPoints (pointsFor order.price)) captured.ordersFit found) captured.user
      balance captured.ledgerFits new).trans ?_
    obtain ⟨original, discount, paid, refunded, -⟩ := orderFits
    have points : (order.captured.withPoints (pointsFor order.price)).Storable ↔
        Int32 (pointsFor order.price) :=
      ⟨fun h => h.2.2.2.2, fun h => ⟨original, discount, paid, refunded, h⟩⟩
    rw [points]
    simp [PointsFit]
    tauto
  · rw [if_neg hs]
    exact iff_of_true (answers_pure.2 trivial) fun h => absurd h hs

/-- The coupon of a pending order is there to be used. -/
theorem useCoupon_reserved {paid : RunSpace} (identified : Identified run)
    (reservations : Reservations run) (keyed : Table.Keyed Coupon.id run.coupons) {order : Order}
    (hm : order ∈ run.orders) (pending : order.status = .pendingPayment) {couponId : String}
    (hc : order.couponId = some couponId) (coupons : paid.coupons = run.coupons) :
    ∃ coupon ∈ run.coupons, Table.find? Coupon.id paid.coupons coupon.id = some coupon ∧
      paid.useCoupon key now order.captured =
        (paid.setCoupon (coupon.usedFor order.id)).event .coupon coupon.id .couponUsed
          [("coupon_id", .str coupon.id), ("order_id", .str order.id)] key now := by
  obtain ⟨coupon, hcm, rfl⟩ := List.mem_map.1 (reservations.issued order hm couponId hc)
  obtain ⟨status, mine⟩ := reservations.pending order hm coupon hcm hc pending
  have found : Table.find? Coupon.id paid.coupons coupon.id = some coupon := by
    rw [coupons]
    exact Table.find?_of_mem keyed hcm
  refine ⟨coupon, hcm, found, ?_⟩
  have row : paid.getCoupon coupon.id = .ok coupon :=
    getRow_eq_ok.2 ⟨identified.plain_coupon hcm, found⟩
  have valid : ¬ (coupon.status ≠ .reserved ∨ coupon.reservedOrderId ≠ some order.captured.id) := by
    simp [status, mine]
  unfold useCoupon
  rw [show order.captured.couponId = some coupon.id from hc]
  dsimp only
  rw [row, Checked.ok_bind, Checked.ensure_of_pos valid, Checked.ok_bind]
  rfl

/-- The coupon of an order that is cancelled is released if the order is pending. -/
theorem releaseCoupon_cases (storable : run.Storable) (identified : Identified run)
    (reservations : Reservations run) {order : Order} (hm : order ∈ run.orders) :
    (¬ (order.status = .pendingPayment ∧ order.couponId ≠ none) ∧
      run.releaseCoupon key now order = .ok run) ∨
    ((order.status = .pendingPayment ∧ order.couponId ≠ none) ∧
      ∃ coupon, Table.find? Coupon.id run.coupons coupon.id = some coupon ∧
        run.releaseCoupon key now order = (run.setCoupon coupon.released).event .coupon coupon.id
          .couponRestored [("coupon_id", .str coupon.id), ("order_id", .str order.id)] key now) := by
  rcases Option.eq_none_or_eq_some order.couponId with hc | ⟨couponId, hc⟩
  · refine .inl ⟨fun h => h.2 hc, ?_⟩
    unfold releaseCoupon
    rw [hc]
    rfl
  obtain ⟨coupon, hcm, rfl⟩ := List.mem_map.1 (reservations.issued order hm couponId hc)
  have found := Table.find?_of_mem storable.coupons_keyed hcm
  have row : run.getCoupon coupon.id = .ok coupon :=
    getRow_eq_ok.2 ⟨identified.plain_coupon hcm, found⟩
  by_cases hs : order.status = .pendingPayment
  · refine .inr ⟨⟨hs, by simp [hc]⟩, coupon, found, ?_⟩
    unfold releaseCoupon
    rw [hc]
    dsimp only
    rw [row, Checked.ok_bind, if_pos (reservations.pending order hm coupon hcm hc hs)]
    rfl
  · refine .inl ⟨fun h => hs h.1, ?_⟩
    -- A coupon is only reserved for orders that are pending.
    have other : ¬ (coupon.status = .reserved ∧ coupon.reservedOrderId = some order.id) := by
      rintro ⟨reserved, mine⟩
      obtain ⟨holder, hh, pending, -, his⟩ := reservations.reserved coupon hcm reserved
      have first := Table.find?_of_mem storable.orders_keyed hh
      rw [Option.some.inj (his.symm.trans mine),
        Table.find?_of_mem storable.orders_keyed hm] at first
      exact hs (Option.some.inj first ▸ pending)
    unfold releaseCoupon
    rw [hc]
    dsimp only
    rw [row, Checked.ok_bind, if_neg other]
    rfl

/-- Coupons come back in promotions only. -/
theorem restoreCoupon_idle {order : Order} (h : run.scenarioType = .refundPoints) :
    run.restoreCoupon key now order = .ok run := by
  unfold restoreCoupon
  split
  · rfl
  · exact if_neg fun h' => by simp [h] at h'

/-- A coupon comes back if there is room for the event. -/
theorem restoreCoupon_answers (storable : run.Storable) {order : Order}
    (issued : ∀ couponId ∈ order.couponId, Plain couponId ∧
      couponId ∈ run.coupons.map Coupon.id) :
    Answers (run.restoreCoupon key now order) ↔
      (run.scenarioType = .promotion → order.couponId ≠ none → order.status = .refunded →
        run.profile.restoresCouponAfterFullRefund → run.HasRoom 1) := by
  rcases Option.eq_none_or_eq_some order.couponId with hc | ⟨couponId, hc⟩
  · unfold restoreCoupon
    rw [hc]
    simpa using answers_pure
  obtain ⟨plain, hid⟩ := issued couponId hc
  obtain ⟨coupon, hcm, rfl⟩ := List.mem_map.1 hid
  have found := Table.find?_of_mem storable.coupons_keyed hcm
  have row : run.getCoupon coupon.id = .ok coupon := getRow_eq_ok.2 ⟨plain, found⟩
  unfold restoreCoupon
  rw [hc]
  dsimp only
  split_ifs with h
  · rw [row, Checked.ok_bind]
    have back : coupon.givenBack.Storable := storable.coupons coupon hcm
    refine answers_flush.trans ((storable_addEvent (storable_setCoupon (iff_true_intro storable)
      coupon.givenBack storable.couponsFit found)).trans ?_)
    simp [back, h]
  · refine iff_of_true (answers_pure.2 trivial) fun h₁ _ h₃ h₄ => absurd ⟨h₁, h₃, h₄⟩ h

/-- Points are granted again under the defect, and revoked without it. -/
theorem refundPoints_answers (storable : run.Storable) {user : TestUser} {order : Order}
    {amount : Int} (balance : Numeric user.balance) (points : Int32 user.pointsBalance)
    (granted : key ++ ":refund-points-grant" ∉ run.ledger.map PointsLedgerEntry.idempotencyKey)
    (revoked : key ++ ":points-revoke" ∉ run.ledger.map PointsLedgerEntry.idempotencyKey)
    (scenario : run.scenarioType = .refundPoints) :
    Answers (run.refundPoints key now user order amount) ↔
      if run.profile.grantsPointsAgainOnRefund then
        run.HasRoom 1 ∧ PointsFit user (pointsFor amount) (key ++ ":refund-points-grant")
      else
        let delta := max (targetRevoke order (order.refundedAmount ≥ order.paidAmount) -
          run.alreadyRevoked order.id) 0
        delta ≠ 0 → ¬ user.pointsBalance < delta →
          run.HasRoom 1 ∧ (key ++ ":points-revoke").length ≤ 256 := by
  unfold refundPoints
  rw [if_pos scenario]
  split_ifs with again
  · exact (grantPoints_answers (iff_true_intro storable) storable.user balance storable.ledgerFits
      granted).trans (and_iff_right trivial)
  · unfold revokePoints
    dsimp only
    generalize hd : max (targetRevoke order (decide (order.refundedAmount ≥ order.paidAmount)) -
      run.alreadyRevoked order.id) 0 = delta
    split_ifs with none
    · exact iff_of_true (answers_pure.2 trivial) fun h => absurd none h
    · refine Iff.trans ?_ (imp_iff_right none).symm
      refine answers_check fun covered => ?_
      refine answers_flush.trans ((storable_addEvent (storable_addLedger (storable_setUser
        (iff_true_intro storable) (user.addPoints (-delta)) storable.user) storable.ledgerFits
        revoked)).trans ?_)
      have positive : 0 ≤ delta := hd ▸ le_max_right _ _
      have fits : Int32 (user.pointsBalance + -delta) ∧ Int32 (-delta) := by
        have := not_lt.1 covered
        unfold Int32 at *
        omega
      simp [TestUser.Storable, balance, fits]
      tauto

/-- After the refund itself, its points and then its coupon have to fit. -/
theorem afterRefund_answers {user : TestUser} {order : Order} {amount : Amount}
    {f : RunSpace → RunSpace × Outcome}
    (flushed : (run.refunded user order amount key now).Storable)
    (points : Int32 user.pointsBalance)
    (issued : ∀ couponId ∈ (order.refund amount.toInt).couponId,
      Plain couponId ∧ couponId ∈ run.coupons.map Coupon.id)
    (granted : key ++ ":refund-points-grant" ∉ run.ledger.map PointsLedgerEntry.idempotencyKey)
    (revoked : key ++ ":points-revoke" ∉ run.ledger.map PointsLedgerEntry.idempotencyKey) :
    Answers ((run.refunded user order amount key now).refundPoints key now
        (user.credit amount.toInt) (order.refund amount.toInt) amount.toInt >>= fun run =>
      run.restoreCoupon key now (order.refund amount.toInt) >>= fun run => pure (f run)) ↔
      (run.scenarioType = .refundPoints → run.refundPointsFit key user order amount.toInt) ∧
      (run.scenarioType = .promotion → order.couponId ≠ none →
        (order.refund amount.toInt).status = .refunded →
        run.profile.restoresCouponAfterFullRefund → run.HasRoom 2) := by
  have credited := flushed.user (user.credit amount.toInt) rfl
  have room : (run.refunded user order amount key now).HasRoom 1 ↔ run.HasRoom 2 :=
    hasRoom_addEvent
  by_cases scenario : run.scenarioType = .refundPoints
  · refine (answers_then fun paid hp => ?_).trans ((refundPoints_answers flushed credited.1
      points granted revoked scenario).trans ?_)
    · rw [restoreCoupon_idle ((refundPoints_frame hp).scenarioType.trans scenario)]
      exact answers_pure.2 trivial
    · rw [room]
      simp only [scenario, reduceCtorEq, false_imp_iff, and_true, true_imp_iff]
      rfl
  · have idle : (run.refunded user order amount key now).refundPoints key now
        (user.credit amount.toInt) (order.refund amount.toInt) amount.toInt =
          .ok (run.refunded user order amount key now) := if_neg scenario
    rw [idle, Checked.ok_bind]
    refine answers_map.trans ((restoreCoupon_answers flushed issued).trans ?_)
    rw [room]
    exact (and_iff_right fun h => absurd h scenario).symm

/-- What is available of an entitlement is revoked, and the membership ends. -/
theorem close_answers {Q : Prop} (base : run.Storable ↔ Q) {allowed : Bool}
    {entitlement : Entitlement} {aggregateId : String} {eventType : BusinessEventType}
    {payload : List (String × Json)} {f : RunSpace → RunSpace × Outcome}
    (entitlements : Table.Fits Entitlement.Storable Entitlement.id run.entitlements)
    (found : Table.find? Entitlement.id run.entitlements entitlement.id = some entitlement)
    (consumed : 0 ≤ entitlement.consumedQuantity) :
    Answers (run.revokeEntitlement key now allowed entitlement >>= fun run =>
        run.event .membership aggregateId eventType payload key now >>= fun run => pure (f run)) ↔
      Q ∧ run.HasRoom (1 + revocationEvents allowed entitlement) := by
  unfold revokeEntitlement revocationEvents
  split_ifs with h
  · refine Iff.trans (answers_event (Q := run.HasRoom 2) ?_) ?_
    · intro flushed
      refine answers_last.trans ((storable_addEvent (iff_true_intro flushed)).trans ?_)
      simp
    refine (and_congr_left' (storable_addEvent (storable_setEntitlement base
      entitlement.revokeAvailable entitlements found))).trans ?_
    have revoked : entitlement.revokeAvailable.Storable := by
      obtain ⟨granted, taken, revoked⟩ := entitlements.1 entitlement (Table.mem_of_find? found)
      refine ⟨granted, taken, ?_⟩
      have available := h.2
      unfold Int32 at *
      simp only [Entitlement.revokeAvailable_revokedQuantity, Entitlement.available] at *
      omega
    have fewer : run.HasRoom 2 → run.HasRoom 1 := fun h => h.mono (by omega)
    simp [revoked]
    tauto
  · rw [pure_bind]
    exact answers_last.trans (storable_addEvent base)

end Blocks

/-! ## Handlers -/

section Handlers

variable {run : RunSpace} {command : ActionCommand} {key : String} {now : Nat}
  (storable : run.Storable) (identified : Identified run)

include storable identified

omit identified in
theorem createUser_answers :
    Answers (run.createUser command key now) ↔ run.createUserFits command := by
  unfold createUser createUserFits
  refine answers_args fun _ => answers_money fun amount currency hm =>
    answers_passed (nonneg_of_money hm) (answers_check fun hu => answers_last.trans ?_)
  rw [storable_addEvent (storable_setUser (iff_true_intro storable) _ storable.user)]
  simp [TestUser.Storable, Int32]

theorem issueCoupon_answers :
    Answers (run.issueCoupon command key now) ↔ run.issueCouponFits command := by
  unfold issueCoupon issueCouponFits
  refine answers_args fun _ => answers_user fun user hu _ => answers_money fun value currency _ =>
    answers_money fun threshold thresholdCurrency _ => answers_check fun _ => answers_check fun _ =>
    answers_last.trans ?_
  rw [storable_addEvent (storable_addCoupon (iff_true_intro storable) _ storable.couponsFit
    (identified.coupons.next (rowId_injective _)))]
  simp [Coupon.Storable, Int32, and_assoc]

theorem createOrder_answers :
    Answers (run.createOrder command key now) ↔ run.createOrderFits command := by
  unfold createOrder createOrderFits
  refine answers_args fun _ => answers_user fun user hu _ => answers_money fun amount currency _ =>
    answers_check fun _ => answers_check fun _ => answers_last.trans ?_
  rw [storable_addEvent (storable_addOrder (iff_true_intro storable) _ storable.ordersFit
    (identified.orders.next (rowId_injective _)))]
  simp [Order.Storable, Int32, Numeric]

omit identified in
theorem applyCoupon_answers :
    Answers (run.applyCoupon command key now) ↔ run.applyCouponFits command := by
  unfold applyCoupon applyCouponFits
  refine answers_args fun _ => answers_target fun orderId _ => answers_row fun order ho _ =>
    answers_check fun _ => answers_string fun couponId _ => answers_row fun coupon hc _ =>
    answers_check fun _ => answers_check fun _ => answers_check fun _ => answers_check fun _ =>
    answers_last.trans ?_
  obtain rfl := Table.key_of_find? ho
  obtain rfl := Table.key_of_find? hc
  have orderFits := storable.orders order (Table.mem_of_find? ho)
  have couponFits := storable.coupons coupon (Table.mem_of_find? hc)
  refine (storable_addEvent (storable_setCoupon (storable_setOrder (iff_true_intro storable)
    (order.discountedBy coupon) storable.ordersFit ho) (coupon.reservedFor order.id)
    storable.couponsFit hc)).trans ?_
  have discount : (order.discountedBy coupon).Storable := by
    obtain ⟨original, -, rest⟩ := orderFits
    refine ⟨original, ?_, rest⟩
    have := couponFits.1
    unfold Numeric at *
    simp only [Order.discountedBy_discountAmount]
    omega
  have reserved : (coupon.reservedFor order.id).Storable := couponFits
  simp [discount, reserved]

theorem payOrder_answers (reservations : Reservations run)
    (used : ∀ coupon ∈ run.coupons,
      0 ≤ coupon.usageCount ∧ coupon.usageCount ≤ run.lastSequence)
    (keys : Keys run) (new : run.existing .payOrder key = none) :
    Answers (run.payOrder command key now) ↔ run.payOrderFits command key := by
  unfold payOrder payOrderFits
  refine answers_args fun _ => answers_target fun orderId _ => answers_row fun order ho _ =>
    answers_check fun _ => answers_check fun pending => ?_
  have hm := Table.mem_of_find? ho
  obtain rfl := Table.key_of_find? ho
  refine (answers_user fun user hu _ => answers_check fun positive =>
    answers_check fun covered => ?_).trans (and_iff_right (identified.owners order hm))
  obtain ⟨original, discount, -, rest⟩ := storable.orders order hm
  have userFits := storable.user user hu
  have hp : ¬ order.price ≤ 0 := positive
  have hb : ¬ user.balance < order.price := covered
  have payFits : (user.pay order.price).Storable := by
    refine ⟨?_, userFits.2⟩
    have := userFits.1
    unfold Numeric at *
    simp only [TestUser.pay_balance]
    omega
  have captureFits : order.captured.Storable := by
    refine ⟨original, discount, ?_, rest⟩
    have := userFits.1
    unfold Numeric at *
    simp only [Order.captured_paidAmount]
    omega
  have paidFits := (storable_setOrder (storable_setUser (iff_true_intro storable)
    (user.pay order.price) storable.user) order.captured storable.ordersFit ho).2
    ⟨⟨trivial, payFits⟩, captureFits⟩
  have newKey := keys.ledger_new new
    (by decide : (ActionName.payOrder, ":points-grant") ∈ ledgerSuffixes)
  have found : Table.find? Order.id
      ((run.setUser (user.pay order.price)).setOrder order.captured).orders order.id =
        some order.captured := by
    simp [Table.find?_update, ho]
  change Answers (((run.setUser (user.pay order.price)).setOrder order.captured).useCoupon key now
    order.captured >>= _) ↔ _
  rcases Option.eq_none_or_eq_some order.couponId with hc | ⟨couponId, hc⟩
  · have skip : ((run.setUser (user.pay order.price)).setOrder order.captured).useCoupon key now
        order.captured = .ok ((run.setUser (user.pay order.price)).setOrder order.captured) := by
      unfold useCoupon
      rw [show order.captured.couponId = none from hc]
      rfl
    rw [skip, Checked.ok_bind]
    refine (capture_answers paidFits payFits.1 captureFits found newKey).trans ?_
    simp [couponEvents, hc, PointsFit]
  · obtain ⟨coupon, hcm, hcf, use⟩ := useCoupon_reserved identified reservations
      storable.coupons_keyed hm pending hc
      (show ((run.setUser (user.pay order.price)).setOrder order.captured).coupons = run.coupons
        from rfl)
    rw [use]
    refine (answers_event (Q := run.HasRoom 2 ∧ (run.scenarioType = .refundPoints →
      run.HasRoom 3 ∧ PointsFit user (pointsFor order.price) (key ++ ":points-grant")))
      ?_).trans ?_
    · intro flushed
      refine (capture_answers flushed payFits.1 captureFits found newKey).trans ?_
      simp [PointsFit]
    rw [storable_addEvent (storable_setCoupon (iff_true_intro paidFits) (coupon.usedFor order.id)
      paidFits.couponsFit hcf)]
    have couponFits := storable.coupons coupon hcm
    -- A coupon is used once for each event that says so.
    have counted : run.HasRoom 1 → (coupon.usedFor order.id).Storable := by
      intro room
      have count := used coupon hcm
      refine ⟨couponFits.1, couponFits.2.1, ?_⟩
      unfold HasRoom at room
      unfold Int32
      simp only [Coupon.usedFor_usageCount]
      omega
    have fewer : run.HasRoom 2 → run.HasRoom 1 := fun h => h.mono (by omega)
    simp [couponEvents, hc, PointsFit]
    tauto

omit identified in
theorem redeemPoints_answers (keys : Keys run) (new : run.existing .redeemPoints key = none) :
    Answers (run.redeemPoints command key now) ↔ run.redeemPointsFits command key := by
  unfold redeemPoints redeemPointsFits
  refine answers_args fun _ => answers_quantity fun amount _ => answers_user fun user hu _ =>
    answers_check fun _ => answers_last.trans ?_
  have newKey := keys.ledger_new new
    (by decide : (ActionName.redeemPoints, ":points-redeem") ∈ ledgerSuffixes)
  refine (storable_addEvent (storable_addLedger (storable_setUser (iff_true_intro storable)
    (user.addPoints (-amount)) storable.user) storable.ledgerFits newKey)).trans ?_
  have balance := (storable.user user hu).1
  simp [TestUser.Storable, PointsFit, balance]
  tauto

theorem activateMembership_answers :
    Answers (run.activateMembership command key now) ↔ run.activateMembershipFits command := by
  unfold activateMembership activateMembershipFits
  refine answers_args fun _ => answers_user fun user hu _ => answers_money fun amount currency _ =>
    answers_quantity fun quantity hq => answers_check fun positive => answers_check fun _ =>
    answers_check fun covered => ?_
  have userFits := storable.user user hu
  have bounds : Numeric (user.balance - amount.toInt) ∧ Numeric amount.toInt := by
    have := userFits.1
    unfold Numeric at *
    omega
  refine Iff.trans (answers_event (Q := run.HasRoom 2) ?_) ?_
  · intro flushed
    refine answers_last.trans ((storable_addEvent (iff_true_intro flushed)).trans ?_)
    simp
  rw [storable_addEvent (storable_addEntitlement (storable_addMembership (storable_setUser
    (iff_true_intro storable) _ storable.user) _ storable.membershipsFit
    (identified.memberships.next (rowId_injective _))) _ storable.entitlementsFit
    (identified.entitlements.next (rowId_injective _)))]
  have fewer : run.HasRoom 2 → run.HasRoom 1 := fun h => h.mono (by omega)
  have points : Int32 user.pointsBalance := userFits.2
  have zero : Int32 0 := by decide
  simp [TestUser.Storable, Entitlement.Storable, bounds, points, zero]
  tauto

omit identified in
theorem consumeEntitlement_answers :
    Answers (run.consumeEntitlement command key now) ↔ run.consumeEntitlementFits command := by
  unfold consumeEntitlement consumeEntitlementFits
  refine answers_args fun _ => answers_quantity fun quantity _ => answers_target fun entitlementId _ =>
    answers_row fun entitlement he _ => answers_check fun _ => answers_check fun _ =>
    answers_last.trans ?_
  obtain rfl := Table.key_of_find? he
  obtain ⟨granted, -, revoked⟩ := storable.entitlements entitlement (Table.mem_of_find? he)
  refine (storable_addEvent (storable_setEntitlement (iff_true_intro storable)
    (entitlement.consume quantity) storable.entitlementsFit he)).trans ?_
  simp [Entitlement.Storable, granted, revoked]

omit storable identified in
/-- A scope that cannot be looked up is the only thing an inspection fails at. -/
theorem inspectState_answers [Python] :
    Answers (run.inspectState command now) ↔ inspectStateFits command := by
  unfold inspectState inspectStateFits
  exact answers_args fun _ => answers_map.trans answers_scope

theorem cancelOrder_answers (reservations : Reservations run) :
    Answers (run.cancelOrder command key now) ↔ run.cancelOrderFits command := by
  unfold cancelOrder cancelOrderFits
  refine answers_args fun _ => answers_target fun orderId _ => answers_row fun order ho _ =>
    answers_check fun _ => ?_
  have hm := Table.mem_of_find? ho
  obtain rfl := Table.key_of_find? ho
  have cancelled : (order.withStatus .cancelled).Storable := storable.orders order hm
  rcases releaseCoupon_cases storable identified reservations hm with
    ⟨idle, release⟩ | ⟨⟨pending, carries⟩, coupon, hcf, release⟩
  · rw [release, Checked.ok_bind]
    refine answers_last.trans ((storable_addEvent (storable_setOrder (iff_true_intro storable)
      (order.withStatus .cancelled) storable.ordersFit ho)).trans ?_)
    have none : (if order.status = .pendingPayment then couponEvents order else 0) = 0 := by
      unfold couponEvents
      split_ifs <;> tauto
    simp [cancelled, none]
  · rw [release]
    refine Iff.trans (answers_event (Q := run.HasRoom 2) ?_) ?_
    · intro flushed
      refine answers_last.trans ((storable_addEvent (storable_setOrder (iff_true_intro flushed)
        (order.withStatus .cancelled) flushed.ordersFit ho)).trans ?_)
      simp [cancelled]
    rw [storable_addEvent (storable_setCoupon (iff_true_intro storable) coupon.released
      storable.couponsFit hcf)]
    have released : coupon.released.Storable := storable.coupons coupon (Table.mem_of_find? hcf)
    have fewer : run.HasRoom 2 → run.HasRoom 1 := fun h => h.mono (by omega)
    simp [released, pending, couponEvents, carries]
    tauto

theorem refundOrder_answers (reservations : Reservations run) (keys : Keys run)
    (nonneg : ∀ order ∈ run.orders, 0 ≤ order.refundedAmount)
    (new : run.existing .refundOrder key = none) :
    Answers (run.refundOrder command key now) ↔ run.refundOrderFits command key := by
  unfold refundOrder refundOrderFits
  refine answers_args fun _ => answers_target fun orderId _ => answers_row fun order ho _ =>
    answers_check fun _ => answers_money fun amount currency _ => answers_check fun positive =>
    answers_check fun _ => ?_
  have hm := Table.mem_of_find? ho
  obtain rfl := Table.key_of_find? ho
  refine (answers_user fun user hu _ => ?_).trans (and_iff_right (identified.owners order hm))
  have points : Int32 user.pointsBalance := (storable.user user hu).2
  obtain ⟨original, discount, paid, -, granted⟩ := storable.orders order hm
  have value : Numeric (order.refundedAmount + amount.toInt) → Numeric amount.toInt := by
    have := nonneg order hm
    unfold Numeric
    omega
  refine Iff.trans (answers_event (Q := (run.scenarioType = .refundPoints →
    run.refundPointsFit key user order amount.toInt) ∧ (run.scenarioType = .promotion →
    order.couponId ≠ none → (order.refund amount.toInt).status = .refunded →
    run.profile.restoresCouponAfterFullRefund → run.HasRoom 2)) ?_) ?_
  · intro flushed
    exact afterRefund_answers flushed points
      (fun couponId hc => ⟨identified.carried order hm couponId hc,
        reservations.issued order hm couponId hc⟩)
      (keys.ledger_new new (by decide)) (keys.ledger_new new (by decide))
  refine and_congr_left' ((storable_addEvent (storable_addRefund (storable_setOrder
    (storable_setUser (iff_true_intro storable) (user.credit amount.toInt) storable.user)
    (order.refund amount.toInt) storable.ordersFit ho)
    ⟨nextId run.refunds "refund", order.id, amount.toInt, key⟩ ⟨storable.refunds,
    storable.refunds_keyed⟩ storable.refunds_key (identified.refunds.next (rowId_injective _))
    (keys.refund_new new))).trans ?_)
  simp [TestUser.Storable, Order.Storable, points, original, discount, paid, granted]
  tauto

theorem cancelMembership_answers :
    Answers (run.cancelMembership command key now) ↔ run.cancelMembershipFits command := by
  unfold cancelMembership cancelMembershipFits
  refine answers_args fun _ => answers_bool fun refundRequested _ => answers_target fun id _ =>
    answers_row fun membership hmf plain => answers_check fun _ => ?_
  have hm := Table.mem_of_find? hmf
  obtain rfl := Table.key_of_find? hmf
  refine (answers_user fun user hu _ => ?_).trans (and_iff_right (identified.holders membership hm))
  refine (answers_row fun entitlement he _ => ?_).trans (and_iff_right plain)
  have member := Table.mem_of_find? he
  have found := Table.find?_of_mem storable.entitlements_keyed member
  have consumed := identified.consumed entitlement member
  have price := storable.memberships membership hm
  have points : Int32 user.pointsBalance := (storable.user user hu).2
  have balance : Numeric user.balance := (storable.user user hu).1
  cases refundRequested
  · refine (close_answers (storable_setMembership (storable_setUser (iff_true_intro storable)
      (user.withMembership .inactive) storable.user) (membership.withStatus .cancelled)
      storable.membershipsFit hmf) storable.entitlementsFit found consumed).trans ?_
    simp [TestUser.Storable, price, points, balance]
  · refine answers_check fun _ => ?_
    refine (close_answers (storable_setMembership (storable_setUser (iff_true_intro storable)
      ((user.credit membership.paidAmount).withMembership .inactive) storable.user)
      (membership.withStatus .refunded) storable.membershipsFit hmf) storable.entitlementsFit found
      consumed).trans ?_
    simp [TestUser.Storable, price, points]
    exact fun _ => .rfl

end Handlers

/-! ## Commands -/

section Commands

variable {run : RunSpace} {command : ActionCommand} {key : String} {now : Nat}

/-- A coupon has been used as often as events say so. -/
theorem Reachable.usageCount_le [Python] (h : Reachable run) {coupon : Coupon}
    (hm : coupon ∈ run.coupons) :
    0 ≤ coupon.usageCount ∧ coupon.usageCount ≤ run.lastSequence := by
  have count : coupon.usageCount = run.epochEvents.countP fun event =>
      event.eventType = .couponUsed ∧ event.aggregateId = coupon.id := by
    rw [← tally_useWeight, ← h.books.coupon_events coupon.id,
      Table.valueAt_of_find? (Table.find?_of_mem h.storable.coupons_keyed hm)]
  rw [count, h.contiguous.lastSequence]
  exact ⟨Int.natCast_nonneg _, Int.ofNat_le.2 List.countP_le_length⟩

/-- The handler of a command without a receipt answers where the command fits. -/
theorem handler_answers [Python] (reachable : Reachable run)
    (new : run.existing command.action key = none) :
    Answers (run.handler command key now) ↔ run.Fits command key := by
  have storable := reachable.storable
  have identified := reachable.identified
  have reservations := reachable.reservations
  unfold handler Fits
  cases action : command.action with
  | createUser => exact createUser_answers storable
  | issueCoupon => exact issueCoupon_answers storable identified
  | createOrder => exact createOrder_answers storable identified
  | applyCoupon => exact applyCoupon_answers storable
  | payOrder =>
    exact payOrder_answers storable identified reservations (fun _ => reachable.usageCount_le)
      reachable.keys (action ▸ new)
  | cancelOrder => exact cancelOrder_answers storable identified reservations
  | refundOrder =>
    exact refundOrder_answers storable identified reservations reachable.keys
      (fun order hm => (reachable.orders_wellFormed order hm).nonneg.2) (action ▸ new)
  | redeemPoints => exact redeemPoints_answers storable reachable.keys (action ▸ new)
  | activateMembership => exact activateMembership_answers storable identified
  | consumeEntitlement => exact consumeEntitlement_answers storable
  | cancelMembership => exact cancelMembership_answers storable identified
  | inspectState => exact inspectState_answers

/-- What a handler leaves fits under its new version. -/
theorem versioned_storable [Python] (reachable : Reachable run) {r : RunSpace} {outcome : Outcome}
    (h : run.handler command key now = .ok (r, outcome)) :
    (r.versioned command.action).Storable := by
  have frame := handler_frame h
  unfold versioned
  by_cases inspect : command.action = .inspectState
  · unfold handler at h
    rw [inspect] at h
    obtain rfl := inspectState_ok h
    simpa [inspect] using reachable.storable
  · have logged : run.Logged r := handler_logged inspect _ h
    obtain ⟨storable, longer⟩ := logged
    -- The last event is numbered by their number, and its number fits.
    have last : Int32 r.epochEvents.length := by
      have hm : r.epochEvents.length ∈ r.epochEvents.map (·.sequence) := by
        rw [(handler_writes h).contiguous reachable.contiguous, List.mem_range'_1]
        omega
      obtain ⟨event, hm, number⟩ := List.mem_map.1 hm
      exact number ▸ storable.events event (List.mem_of_mem_filter hm)
    have version := reachable.snapshotVersion_le
    refine { storable with snapshotVersion := ?_ }
    dsimp only
    rw [if_neg inspect, frame.snapshotVersion]
    unfold Int32 at *
    omega

/-- The savepoint of a command answers if the action is none of the scenario, or the
    command fits. -/
theorem savepoint_answers [Python] (reachable : Reachable run)
    (new : run.existing command.action key = none) :
    Answers (run.savepoint command key now) ↔
      (command.action ∈ [.createUser, .inspectState] ++ run.scenarioType.actions →
        run.Fits command key) := by
  have dispatched : Answers (run.dispatch command key now) ↔
      (command.action ∈ [.createUser, .inspectState] ++ run.scenarioType.actions →
        run.Fits command key) :=
    answers_check fun _ => handler_answers reachable new
  refine Iff.trans (answers_then ?_) dispatched
  rintro ⟨r, outcome⟩ hd
  have flushed : (r.versioned command.action).flush = .ok (r.versioned command.action) :=
    (flush_eq_ok _).2 ⟨versioned_storable reachable (dispatch_ok hd).1, rfl⟩
  unfold versioned at flushed
  dsimp only
  rw [flushed, Checked.ok_bind]
  exact answers_pure.2 trivial

end Commands

end RunSpace

/-- The command is answered: with a receipt, or with the loss of the acknowledgement
    of a refund under the defect. -/
def Reply.Answers (run : RunSpace) (command : ActionCommand) (reply : Reply) : Prop :=
  ∃ receipt, reply = .receipt receipt ∨ (reply = .ackLost receipt ∧
    command.action = .refundOrder ∧ run.profile.losesRefundAcknowledgement)

namespace RunSpace

theorem crash_not_answers {run : RunSpace} {command : ActionCommand} {crash : Crash} :
    ¬ (Reply.crash crash).Answers run command := by
  rintro ⟨_, h | ⟨h, -⟩⟩ <;> cases h

theorem acknowledge_answers [Python] (run : RunSpace) (command : ActionCommand)
    (record : ActionReceiptRecord) : (run.acknowledge command record).Answers run command := by
  unfold acknowledge
  split_ifs with lost
  · exact ⟨_, .inr ⟨rfl, lost⟩⟩
  · exact ⟨_, .inl rfl⟩

/-- Whatever has happened to a run, a command with a key, if it needs one, is answered
    exactly if its key is plain and it has a receipt, or is none of the scenario, or
    fits. -/
theorem execute_answers [Python] (request : CreateRunRequest) (id : String) (history : List Op)
    (command : ActionCommand) (now : Nat) (uuid : String)
    (keyed : command.requiresIdempotencyKey → command.idempotencyKey ≠ none) :
    let run := (createRun request id).after history
    (run.execute command now uuid).2.Answers run command ↔
      Plain (effectiveKey command uuid) ∧
      (run.existing command.action (effectiveKey command uuid) = none →
        command.action ∈ [.createUser, .inspectState] ++ run.scenarioType.actions →
          run.Fits command (effectiveKey command uuid)) := by
  intro run
  have reachable : Reachable run := ⟨request, id, history, rfl⟩
  clear_value run
  unfold execute
  rw [if_neg fun h => keyed h.1 h.2]
  dsimp only
  by_cases plain : Plain (effectiveKey command uuid)
  swap
  · rw [if_pos (not_not.1 plain)]
    exact iff_of_false crash_not_answers fun h => plain h.1
  rw [if_neg plain, and_iff_right plain]
  cases hx : run.existing command.action (effectiveKey command uuid) with
  | some record =>
    exact iff_of_true (acknowledge_answers ..) nofun
  | none =>
    rw [imp_iff_right rfl, ← savepoint_answers reachable hx, perform_eq reachable.storable hx]
    cases hs : run.savepoint command (effectiveKey command uuid) now with
    | ok p => exact iff_of_true (acknowledge_answers ..) .ok
    | error fault =>
      cases fault with
      | domain error => exact iff_of_true (acknowledge_answers ..) (.throw trivial)
      | crash crash => exact iff_of_false crash_not_answers fun h => h _ rfl

end RunSpace

/-! ## A refund, and a scope that is a list -/

/-- The rule at work: a refund after a payment. -/
theorem execute_answers_refund :
    let _ := Python.transparent
    let run := (createRun { scenarioType := .promotion } "run").after paidHistory
    (run.execute refundOrderCommand 4 "").2.Answers run refundOrderCommand ↔
      Plain "refund" ∧ (run.existing .refundOrder "refund" = none →
        .refundOrder ∈ [.createUser, .inspectState] ++ run.scenarioType.actions →
          run.Fits refundOrderCommand "refund") := by
  intro _
  generalize paidHistory = history
  exact RunSpace.execute_answers { scenarioType := .promotion } "run" history refundOrderCommand 4
    "" (by decide)

def inspectListCommand : ActionCommand where
  action := .inspectState
  actorId := "user-1"
  arguments := [("scope", .arr [])]
  actor_length := ActionCommand.user_length
  target_length := ActionCommand.no_target
  key_length := ActionCommand.no_key

/-- A list cannot be looked up among the scopes, and what Python raises then
    escapes. -/
theorem inspectState_escapes :
    let _ := Python.transparent
    let run := createRun { scenarioType := .promotion } "run"
    ¬ (run.execute inspectListCommand 1 "").2.Answers run inspectListCommand := by
  intro _ run
  have escapes : (run.execute inspectListCommand 1 "").2 = .crash .typeError := by decide +kernel
  rw [escapes]
  exact RunSpace.crash_not_answers

end RuleArena
