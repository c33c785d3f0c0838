import RuleArena.Sandbox.Service

/-!
# What a handler does

One inversion lemma for each handler and each block of one: from a successful
run of it, the checks that passed and the run it leads to, written as a chain of
updates of the run it started from. Later proofs start from these lemmas and
never unfold a handler.
-/

namespace RuleArena

/-! ## Rows after an action -/

@[simps] def TestUser.pay (user : TestUser) (amount : Int) : TestUser :=
  { user with balance := user.balance - amount }

@[simps] def TestUser.credit (user : TestUser) (amount : Int) : TestUser :=
  { user with balance := user.balance + amount }

@[simps] def TestUser.addPoints (user : TestUser) (points : Int) : TestUser :=
  { user with pointsBalance := user.pointsBalance + points }

@[simps] def TestUser.withMembership (user : TestUser) (status : MembershipStatus) : TestUser :=
  { user with membershipStatus := status }

/-- What an order costs. -/
def Order.price (order : Order) : Int := order.originalAmount - order.discountAmount

@[simps] def Order.discountedBy (order : Order) (coupon : Coupon) : Order :=
  { order with
    discountAmount := min coupon.faceValue order.originalAmount, couponId := some coupon.id }

@[simps] def Order.captured (order : Order) : Order :=
  { order with paidAmount := order.price, status := .paid }

@[simps] def Order.withPoints (order : Order) (points : Int) : Order :=
  { order with pointsGranted := points }

@[simps] def Order.withStatus (order : Order) (status : OrderStatus) : Order :=
  { order with status }

@[simps] def Order.refund (order : Order) (amount : Int) : Order :=
  { order with
    refundedAmount := order.refundedAmount + amount,
    status := if order.refundedAmount + amount ≥ order.paidAmount then .refunded
      else .partiallyRefunded }

@[simps] def Coupon.reservedFor (coupon : Coupon) (orderId : String) : Coupon :=
  { coupon with status := .reserved, reservedOrderId := some orderId }

@[simps] def Coupon.usedFor (coupon : Coupon) (orderId : String) : Coupon :=
  { coupon with
    status := .used, reservedOrderId := none, usedOrderId := some orderId,
    usageCount := coupon.usageCount + 1 }

@[simps] def Coupon.released (coupon : Coupon) : Coupon :=
  { coupon with status := .restored, reservedOrderId := none }

@[simps] def Coupon.givenBack (coupon : Coupon) : Coupon :=
  { coupon with status := .available, usedOrderId := none }

@[simps] def Membership.withStatus (membership : Membership) (status : MembershipStatus) : Membership :=
  { membership with status }

@[simps] def Entitlement.consume (entitlement : Entitlement) (quantity : Int) : Entitlement :=
  { entitlement with
    consumedQuantity := entitlement.consumedQuantity + quantity,
    status := if entitlement.consumedQuantity + quantity ≥ entitlement.grantedQuantity
      then .consumed else .partiallyConsumed }

@[simps] def Entitlement.revokeAvailable (entitlement : Entitlement) : Entitlement :=
  { entitlement with
    revokedQuantity := entitlement.revokedQuantity + entitlement.available, status := .revoked }

/-! ## Handlers -/

namespace RunSpace

variable {run run' : RunSpace} {command : ActionCommand} {key : String} {now : Nat}
  {outcome : Outcome}

theorem event_eq_ok {aggregateType : AggregateType} {aggregateId : String}
    {eventType : BusinessEventType} {payload : List (String × Json)}
    (h : run.event aggregateType aggregateId eventType payload key now = .ok run') :
    run' = run.addEvent aggregateType aggregateId eventType payload key now ∧ run'.Storable := by
  rw [event, flush_eq_ok] at h
  exact ⟨h.2.symm, h.2 ▸ h.1⟩

/-- A row that was looked up is found under its own key. -/
theorem find?_of_getRow {α : Type} {rowKey : α → String} {rows : List α} {id : String}
    {missing : Fault} {row : α} (h : getRow rowKey rows id missing = .ok row) :
    Table.find? rowKey rows (rowKey row) = some row ∧ rowKey row = id := by
  have hf := (getRow_eq_ok.1 h).2
  have hk := Table.key_of_find? hf
  exact ⟨hk ▸ hf, hk⟩

theorem createUser_ok (h : run.createUser command key now = .ok (run', outcome)) :
    ∃ amount currency, money (command.argument "initial_balance") "initial_balance" =
        .ok (amount, currency) ∧
      run.user = none ∧
      run' = (run.setUser ⟨"user-1", amount.toInt, currency, 0, true, .inactive⟩).addEvent .user
        "user-1" .userCreated [("user_id", .str "user-1")] key now := by
  simp only [createUser, Checked.bind_eq_ok, Checked.ensure_eq_ok, Checked.pure_eq_ok] at h
  obtain ⟨-, -, ⟨amount, currency⟩, hm, -, -, -, hu, r, hr, h⟩ := h
  obtain ⟨rfl, -⟩ := event_eq_ok hr
  exact ⟨amount, currency, hm, hu, (Prod.mk.inj h).1.symm⟩

theorem issueCoupon_ok (h : run.issueCoupon command key now = .ok (run', outcome)) :
    ∃ user value threshold currency, run.user = some user ∧ 0 < value ∧ 0 ≤ threshold ∧
      run' = (run.addCoupon ⟨nextId run.coupons "coupon", user.id, value, threshold, currency,
        .available, none, none, 0⟩).addEvent .coupon (nextId run.coupons "coupon") .couponIssued
        [("coupon_id", .str (nextId run.coupons "coupon")), ("owner_id", .str user.id)] key now := by
  simp only [issueCoupon, Checked.bind_eq_ok, Checked.ensure_eq_ok, Checked.pure_eq_ok] at h
  obtain ⟨-, -, user, hu, ⟨value, currency⟩, -, ⟨threshold, _⟩, -, -, hv, -, -, r, hr, h⟩ := h
  obtain ⟨rfl, -⟩ := event_eq_ok hr
  dsimp only at hv
  exact ⟨user, value.toInt, threshold.toInt, currency, (getUser_eq_ok _ |>.1 hu).2.1, by omega,
    by omega, (Prod.mk.inj h).1.symm⟩

theorem createOrder_ok (h : run.createOrder command key now = .ok (run', outcome)) :
    ∃ user amount currency, run.user = some user ∧ 0 < amount ∧
      run' = (run.addOrder ⟨nextId run.orders "order", user.id, amount, 0, 0, 0, 0, currency,
        .pendingPayment, none⟩).addEvent .order (nextId run.orders "order") .orderCreated
        [("order_id", .str (nextId run.orders "order")), ("user_id", .str user.id)] key now := by
  simp only [createOrder, Checked.bind_eq_ok, Checked.ensure_eq_ok, Checked.pure_eq_ok] at h
  obtain ⟨-, -, user, hu, ⟨amount, currency⟩, -, -, ha, -, -, r, hr, h⟩ := h
  obtain ⟨rfl, -⟩ := event_eq_ok hr
  dsimp only at ha
  exact ⟨user, amount.toInt, currency, (getUser_eq_ok _ |>.1 hu).2.1, by omega,
    (Prod.mk.inj h).1.symm⟩

theorem applyCoupon_ok (h : run.applyCoupon command key now = .ok (run', outcome)) :
    ∃ order coupon, Table.find? Order.id run.orders order.id = some order ∧
      Table.find? Coupon.id run.coupons coupon.id = some coupon ∧
      order.couponId = none ∧ order.status = .pendingPayment ∧
      (coupon.status = .available ∨ coupon.status = .restored) ∧
      run' = ((run.setOrder (order.discountedBy coupon)).setCoupon
        (coupon.reservedFor order.id)).addEvent .coupon coupon.id .couponReserved
        [("coupon_id", .str coupon.id), ("order_id", .str order.id)] key now := by
  simp only [applyCoupon, Checked.bind_eq_ok, Checked.ensure_eq_ok, Checked.pure_eq_ok] at h
  obtain ⟨-, -, _, -, order, ho, -, hn, _, -, coupon, hc, -, hs, -, hcs, -, -, -, -, r, hr, h⟩ := h
  obtain ⟨rfl, -⟩ := event_eq_ok hr
  exact ⟨order, coupon, (find?_of_getRow ho).1, (find?_of_getRow hc).1, hn, hs, hcs,
    (Prod.mk.inj h).1.symm⟩

/-- The coupon of an order, if it has one, is used. -/
theorem useCoupon_ok {order : Order} (h : run.useCoupon key now order = .ok run') :
    (order.couponId = none ∧ run' = run) ∨
    ∃ coupon, order.couponId = some coupon.id ∧
      Table.find? Coupon.id run.coupons coupon.id = some coupon ∧
      coupon.status = .reserved ∧ coupon.reservedOrderId = some order.id ∧
      run' = (run.setCoupon (coupon.usedFor order.id)).addEvent .coupon coupon.id .couponUsed
        [("coupon_id", .str coupon.id), ("order_id", .str order.id)] key now := by
  unfold useCoupon at h
  split at h
  · rename_i hn
    exact .inl ⟨hn, (Checked.pure_eq_ok.1 h).symm⟩
  · rename_i couponId hn
    simp only [Checked.bind_eq_ok, Checked.ensure_eq_ok] at h
    obtain ⟨coupon, hc, -, hs, hr⟩ := h
    obtain ⟨hf, rfl⟩ := find?_of_getRow hc
    obtain ⟨rfl, -⟩ := event_eq_ok hr
    simp only [ne_eq, not_or, not_not] at hs
    exact .inr ⟨coupon, hn, hf, hs.1, hs.2, rfl⟩

theorem grantPoints_ok {user : TestUser} {order : Order} {points : Int} {ledgerKey : String}
    (h : run.grantPoints key now user order points ledgerKey = .ok run') :
    run' = ((run.setUser (user.addPoints points)).addLedger
        user.id (some order.id) .grant points ledgerKey).addEvent .user user.id .pointsGranted
      [("user_id", .str user.id), ("order_id", .str order.id), ("amount", .int points)] key now :=
  (event_eq_ok h).1

/-- A payment takes what the order costs from the balance, uses the coupon of the
    order, and grants points where the scenario has them. -/
theorem payOrder_ok (h : run.payOrder command key now = .ok (run', outcome)) :
    ∃ order user r, command.targetId = some order.id ∧
      Table.find? Order.id run.orders order.id = some order ∧
      order.status = .pendingPayment ∧ run.user = some user ∧ 0 < order.price ∧
      order.price ≤ user.balance ∧
      ((run.setUser (user.pay order.price)).setOrder order.captured).useCoupon key now
        order.captured = .ok r ∧
      (run.scenarioType ≠ .refundPoints ∧
          run' = r.addEvent .order order.id .paymentCaptured [("order_id", .str order.id),
            ("paid_amount", .str (amountText order.price))] key now ∨
        run.scenarioType = .refundPoints ∧
          ((r.addEvent .order order.id .paymentCaptured [("order_id", .str order.id),
            ("paid_amount", .str (amountText order.price))] key now).setOrder
            (order.captured.withPoints (pointsFor order.price))).grantPoints key now
            (user.pay order.price) (order.captured.withPoints (pointsFor order.price))
            (pointsFor order.price) (key ++ ":points-grant") = .ok run') := by
  simp only [payOrder, Checked.bind_eq_ok, Checked.ensure_eq_ok] at h
  obtain ⟨-, -, id, ht, order, ho, -, -, -, hs, user, hu, -, hp, -, hb, r, hr, r₁, hr₁, h⟩ := h
  obtain ⟨hf, rfl⟩ := find?_of_getRow ho
  obtain ⟨rfl, -⟩ := event_eq_ok hr₁
  have scenario : r.scenarioType = run.scenarioType := by
    rcases useCoupon_ok hr with ⟨-, rfl⟩ | ⟨_, -, -, -, -, rfl⟩ <;> rfl
  refine ⟨order, user, r, (command.target_eq_ok.1 ht).1, hf, hs, (getUser_eq_ok _ |>.1 hu).2.1,
    not_le.1 hp, not_lt.1 hb, hr, ?_⟩
  split at h
  · rename_i hsc
    simp only [Checked.bind_eq_ok, Checked.pure_eq_ok, Prod.mk.injEq] at h
    obtain ⟨r₂, hr₂, rfl, -⟩ := h
    exact .inr ⟨scenario.symm.trans hsc, hr₂⟩
  · rename_i hsc
    exact .inl ⟨fun e => hsc (scenario.trans e), (Prod.mk.inj (Checked.pure_eq_ok.1 h)).1.symm⟩

/-- The coupon reserved for an order, if there is one, is restored. -/
theorem releaseCoupon_ok {order : Order} (h : run.releaseCoupon key now order = .ok run') :
    run' = run ∨
    ∃ coupon, order.couponId = some coupon.id ∧
      Table.find? Coupon.id run.coupons coupon.id = some coupon ∧
      coupon.status = .reserved ∧ coupon.reservedOrderId = some order.id ∧
      run' = (run.setCoupon coupon.released).addEvent .coupon coupon.id .couponRestored
        [("coupon_id", .str coupon.id), ("order_id", .str order.id)] key now := by
  unfold releaseCoupon at h
  split at h
  · exact .inl (Checked.pure_eq_ok.1 h).symm
  · rename_i couponId hn
    simp only [Checked.bind_eq_ok] at h
    obtain ⟨coupon, hc, hr⟩ := h
    obtain ⟨hf, rfl⟩ := find?_of_getRow hc
    split at hr
    · rename_i hs
      exact .inr ⟨coupon, hn, hf, hs.1, hs.2, (event_eq_ok hr).1⟩
    · exact .inl (Checked.pure_eq_ok.1 hr).symm

/-- A coupon that is reserved for the order is restored. -/
theorem releaseCoupon_reserved {order : Order} {coupon : Coupon}
    (h : run.releaseCoupon key now order = .ok run') (carries : order.couponId = some coupon.id)
    (hc : Table.find? Coupon.id run.coupons coupon.id = some coupon)
    (hs : coupon.status = .reserved) (hr : coupon.reservedOrderId = some order.id) :
    run' = (run.setCoupon coupon.released).addEvent .coupon coupon.id .couponRestored
      [("coupon_id", .str coupon.id), ("order_id", .str order.id)] key now := by
  simp only [releaseCoupon, carries, Checked.bind_eq_ok] at h
  obtain ⟨found, hf, h⟩ := h
  obtain rfl : found = coupon := Option.some.inj ((getRow_eq_ok.1 hf).2.symm.trans hc)
  rw [if_pos ⟨hs, hr⟩] at h
  exact (event_eq_ok h).1

theorem cancelOrder_ok (h : run.cancelOrder command key now = .ok (run', outcome)) :
    ∃ order r, Table.find? Order.id run.orders order.id = some order ∧
      (order.status = .draft ∨ order.status = .pendingPayment) ∧
      run.releaseCoupon key now order = .ok r ∧
      run' = (r.setOrder (order.withStatus .cancelled)).addEvent .order order.id .orderCancelled
        [("order_id", .str order.id)] key now := by
  simp only [cancelOrder, Checked.bind_eq_ok, Checked.ensure_eq_ok, Checked.pure_eq_ok] at h
  obtain ⟨-, -, id, ht, order, ho, -, hs, r, hr, r₁, hr₁, h⟩ := h
  obtain ⟨hf, rfl⟩ := find?_of_getRow ho
  obtain ⟨rfl, -⟩ := event_eq_ok hr₁
  exact ⟨order, r, hf, hs, hr, (Prod.mk.inj h).1.symm⟩

/-- Points are revoked as far as the refunded share asks for more than has been
    revoked, which takes that many points of the balance. -/
theorem revokePoints_ok {user : TestUser} {order : Order} {fullRefund : Bool}
    (h : run.revokePoints key now user order fullRefund = .ok run') :
    (targetRevoke order fullRefund ≤ run.alreadyRevoked order.id ∧ run' = run) ∨
    ∃ delta, delta = targetRevoke order fullRefund - run.alreadyRevoked order.id ∧ 0 < delta ∧
      delta ≤ user.pointsBalance ∧
      run' = ((run.setUser (user.addPoints (-delta))).addLedger user.id (some order.id) .revoke
          (-delta) (key ++ ":points-revoke")).addEvent .user user.id .pointsRevoked
        [("user_id", .str user.id), ("order_id", .str order.id), ("amount", .int delta)]
        key now := by
  simp only [revokePoints] at h
  split at h
  · rename_i hd
    exact .inl ⟨by omega, (Checked.pure_eq_ok.1 h).symm⟩
  · rename_i hd
    simp only [Checked.bind_eq_ok, Checked.ensure_eq_ok] at h
    obtain ⟨-, hb, hr⟩ := h
    have e : max (targetRevoke order fullRefund - run.alreadyRevoked order.id) 0 =
      targetRevoke order fullRefund - run.alreadyRevoked order.id := by omega
    rw [e] at hb hr hd
    exact .inr ⟨_, rfl, by omega, by omega, (event_eq_ok hr).1⟩

/-- The points of a refund: revoked, or granted again under the defect. -/
theorem refundPoints_ok {user : TestUser} {order : Order} {amount : Int}
    (h : run.refundPoints key now user order amount = .ok run') :
    (run.scenarioType ≠ .refundPoints ∧ run' = run) ∨
    (run.scenarioType = .refundPoints ∧ run.profile.grantsPointsAgainOnRefund = true ∧
      run.grantPoints key now user order (pointsFor amount) (key ++ ":refund-points-grant") =
        .ok run') ∨
    (run.scenarioType = .refundPoints ∧ run.profile.grantsPointsAgainOnRefund = false ∧
      run.revokePoints key now user order (order.refundedAmount ≥ order.paidAmount) =
        .ok run') := by
  unfold refundPoints at h
  split_ifs at h with hs hp
  · exact .inr (.inl ⟨hs, hp, h⟩)
  · exact .inr (.inr ⟨hs, by simpa using hp, h⟩)
  · exact .inl ⟨hs, (Checked.pure_eq_ok.1 h).symm⟩

/-- A coupon comes back only under the defect. -/
theorem restoreCoupon_ok {order : Order} (h : run.restoreCoupon key now order = .ok run') :
    run' = run ∨
    ∃ coupon, (run.profile.restoresCouponAfterFullRefund = true ∧ order.status = .refunded) ∧
      order.couponId = some coupon.id ∧
      Table.find? Coupon.id run.coupons coupon.id = some coupon ∧
      run' = (run.setCoupon coupon.givenBack).addEvent .coupon coupon.id .couponRestored
        [("coupon_id", .str coupon.id), ("order_id", .str order.id)] key now := by
  unfold restoreCoupon at h
  split at h
  · exact .inl (Checked.pure_eq_ok.1 h).symm
  · rename_i couponId hn
    split at h
    · rename_i hp
      simp only [Checked.bind_eq_ok] at h
      obtain ⟨coupon, hc, hr⟩ := h
      obtain ⟨hf, rfl⟩ := find?_of_getRow hc
      exact .inr ⟨coupon, ⟨hp.2.2, hp.2.1⟩, hn, hf, (event_eq_ok hr).1⟩
    · exact .inl (Checked.pure_eq_ok.1 h).symm

/-- A refund, before its points and its coupon: the balance, the order, the row of
    the refund and the event. -/
def refunded (run : RunSpace) (user : TestUser) (order : Order) (amount : Amount) (key : String)
    (now : Nat) : RunSpace :=
  (((run.setUser (user.credit amount.toInt)).setOrder (order.refund amount.toInt)).addRefund
    ⟨nextId run.refunds "refund", order.id, amount.toInt, key⟩).addEvent .order order.id
    .refundIssued [("order_id", .str order.id), ("amount", .str amount.text)] key now

theorem refundOrder_ok (h : run.refundOrder command key now = .ok (run', outcome)) :
    ∃ order user amount r, command.targetId = some order.id ∧
      Table.find? Order.id run.orders order.id = some order ∧
      (order.status = .paid ∨ order.status = .partiallyRefunded) ∧
      (∃ currency, money (command.argument "amount") "amount" = .ok (amount, currency)) ∧
      0 < amount.toInt ∧ amount.toInt ≤ run.refundCeiling order ∧ run.user = some user ∧
      (run.refunded user order amount key now).refundPoints key now (user.credit amount.toInt)
        (order.refund amount.toInt) amount.toInt = .ok r ∧
      r.restoreCoupon key now (order.refund amount.toInt) = .ok run' ∧
      (run.refunded user order amount key now).Storable := by
  simp only [refundOrder, Checked.bind_eq_ok, Checked.ensure_eq_ok, Checked.pure_eq_ok] at h
  obtain ⟨-, -, id, ht, order, ho, -, hs, ⟨amount, currency⟩, hm, -, ha, -, hc, user, hu, r, hr,
    r₁, hr₁, r₂, hr₂, h⟩ := h
  obtain ⟨hf, rfl⟩ := find?_of_getRow ho
  obtain ⟨rfl, hst⟩ := event_eq_ok hr
  obtain ⟨rfl, -⟩ := Prod.mk.inj h
  dsimp only at ha hc
  exact ⟨order, user, amount, r₁, (command.target_eq_ok.1 ht).1, hf, hs, ⟨currency, hm⟩, by omega,
    by omega, (getUser_eq_ok _ |>.1 hu).2.1, hr₁, hr₂, hst⟩

theorem redeemPoints_ok (h : run.redeemPoints command key now = .ok (run', outcome)) :
    ∃ user amount, run.user = some user ∧ 0 < amount ∧
      (amount ≤ user.pointsBalance ∨ run.profile.allowsPointsOverredemption = true) ∧
      run' = ((run.setUser (user.addPoints (-amount))).addLedger user.id none .redeem (-amount)
          (key ++ ":points-redeem")).addEvent .user user.id .pointsRedeemed
        [("user_id", .str user.id), ("amount", .int amount)] key now := by
  simp only [redeemPoints, Checked.bind_eq_ok, Checked.ensure_eq_ok, Checked.pure_eq_ok] at h
  obtain ⟨-, -, amount, ha, user, hu, -, hb, r, hr, h⟩ := h
  obtain ⟨rfl, -⟩ := event_eq_ok hr
  refine ⟨user, amount, (getUser_eq_ok _ |>.1 hu).2.1, pos_of_positiveInt ha, ?_,
    (Prod.mk.inj h).1.symm⟩
  by_contra hn
  rw [not_or] at hn
  exact hb ⟨not_le.1 hn.1, fun hp => hn.2 hp.2⟩

/-- A membership with its entitlement, as an activation adds them. -/
def activated (run : RunSpace) (user : TestUser) (amount quantity : Int) (currency : Currency)
    (key : String) (now : Nat) : RunSpace :=
  (((run.setUser ((user.pay amount).withMembership .active)).addMembership
    ⟨nextId run.memberships "membership", user.id, amount, currency, .active⟩).addEntitlement
    ⟨nextId run.entitlements "entitlement", nextId run.memberships "membership", "USAGE", quantity,
      0, 0, .granted⟩).addEvent .membership (nextId run.memberships "membership")
    .membershipActivated [("membership_id", .str (nextId run.memberships "membership")),
      ("user_id", .str user.id)] key now

theorem activateMembership_ok
    (h : run.activateMembership command key now = .ok (run', outcome)) :
    ∃ user amount quantity currency, run.user = some user ∧ user.membershipStatus = .inactive ∧
      0 < amount ∧ amount ≤ user.balance ∧ 0 < quantity ∧
      run' = (run.activated user amount quantity currency key now).addEvent .entitlement
        (nextId run.entitlements "entitlement") .entitlementGranted
        [("entitlement_id", .str (nextId run.entitlements "entitlement")),
          ("quantity", .int quantity)] key now := by
  simp only [activateMembership, Checked.bind_eq_ok, Checked.ensure_eq_ok,
    Checked.pure_eq_ok] at h
  obtain ⟨-, -, user, hu, ⟨amount, currency⟩, -, quantity, hq, -, ha, -, hs, -, hb, r, hr, r₁, hr₁,
    h⟩ := h
  obtain ⟨rfl, -⟩ := event_eq_ok hr
  obtain ⟨rfl, -⟩ := event_eq_ok hr₁
  dsimp only at ha hb
  exact ⟨user, amount.toInt, quantity, currency, (getUser_eq_ok _ |>.1 hu).2.1, hs, by omega,
    by omega, pos_of_positiveInt hq, (Prod.mk.inj h).1.symm⟩

theorem consumeEntitlement_ok
    (h : run.consumeEntitlement command key now = .ok (run', outcome)) :
    ∃ entitlement quantity,
      Table.find? Entitlement.id run.entitlements entitlement.id = some entitlement ∧
      0 < quantity ∧ entitlement.status ≠ .revoked ∧ entitlement.status ≠ .consumed ∧
      (quantity ≤ entitlement.available ∨
        run.profile.allowsEntitlementOverconsumption = true) ∧
      run' = (run.setEntitlement (entitlement.consume quantity)).addEvent .entitlement
        entitlement.id .entitlementConsumed
        [("entitlement_id", .str entitlement.id), ("quantity", .int quantity)] key now := by
  simp only [consumeEntitlement, Checked.bind_eq_ok, Checked.ensure_eq_ok,
    Checked.pure_eq_ok] at h
  obtain ⟨-, -, quantity, hq, id, -, entitlement, he, -, hs, -, ha, r, hr, h⟩ := h
  obtain ⟨rfl, -⟩ := event_eq_ok hr
  rw [not_or] at hs
  refine ⟨entitlement, quantity, (find?_of_getRow he).1, pos_of_positiveInt hq, hs.1, hs.2, ?_,
    (Prod.mk.inj h).1.symm⟩
  by_contra hn
  rw [not_or] at hn
  exact ha ⟨hn.2, not_le.1 hn.1⟩

/-- What is available of an entitlement is revoked, if anything is. -/
theorem revokeEntitlement_ok {allowed : Bool} {entitlement : Entitlement}
    (h : run.revokeEntitlement key now allowed entitlement = .ok run') :
    ((allowed = true → entitlement.available ≤ 0) ∧ run' = run) ∨
    (allowed = true ∧ 0 < entitlement.available ∧
      run' = (run.setEntitlement entitlement.revokeAvailable).addEvent .entitlement entitlement.id
        .entitlementRevoked
        [("entitlement_id", .str entitlement.id), ("quantity", .int entitlement.available)]
        key now) := by
  unfold revokeEntitlement at h
  split at h
  · rename_i ha
    exact .inr ⟨ha.1, ha.2, (event_eq_ok h).1⟩
  · rename_i ha
    exact .inl ⟨fun e => not_lt.1 fun h => ha ⟨e, h⟩, (Checked.pure_eq_ok.1 h).symm⟩

/-- A membership ends cancelled or refunded; the price is credited in the second case. -/
theorem cancelMembership_ok (h : run.cancelMembership command key now = .ok (run', outcome)) :
    ∃ membership user entitlement r,
      Table.find? Membership.id run.memberships membership.id = some membership ∧
      membership.status = .active ∧ run.user = some user ∧
      Table.find? Entitlement.membershipId run.entitlements membership.id = some entitlement ∧
      (((0 < entitlement.consumedQuantity →
            run.profile.allowsFullMembershipRefundAfterConsumption = true) ∧
          ((run.setUser ((user.credit membership.paidAmount).withMembership
              .inactive)).setMembership (membership.withStatus .refunded)).revokeEntitlement key now
              (!run.profile.leavesEntitlementAfterMembershipRefund) entitlement = .ok r ∧
          run' = r.addEvent .membership membership.id .membershipRefunded
            [("membership_id", .str membership.id),
              ("amount", .str (amountText membership.paidAmount))] key now) ∨
        (((run.setUser (user.withMembership .inactive)).setMembership
            (membership.withStatus .cancelled)).revokeEntitlement key now true entitlement = .ok r ∧
          run' = r.addEvent .membership membership.id .membershipCancelled
            [("membership_id", .str membership.id)] key now)) := by
  simp only [cancelMembership, Checked.bind_eq_ok, Checked.ensure_eq_ok] at h
  obtain ⟨-, -, refundRequested, -, id, -, membership, hm, -, hs, user, hu, entitlement, he, h⟩ := h
  obtain ⟨hf, rfl⟩ := find?_of_getRow hm
  obtain ⟨hfe, hid⟩ := find?_of_getRow he
  cases refundRequested with
  | true =>
    simp only [if_true, Checked.bind_eq_ok, Checked.ensure_eq_ok, Checked.pure_eq_ok] at h
    obtain ⟨-, hc, r, hr, r₁, hr₁, h⟩ := h
    obtain ⟨rfl, -⟩ := event_eq_ok hr₁
    exact ⟨membership, user, entitlement, r, hf, hs, (getUser_eq_ok _ |>.1 hu).2.1, hid ▸ hfe,
      .inl ⟨fun h0 => by simpa [h0] using hc, hr, (Prod.mk.inj h).1.symm⟩⟩
  | false =>
    simp only [Bool.false_eq_true, if_false, Checked.bind_eq_ok, Checked.pure_eq_ok] at h
    obtain ⟨r, hr, r₁, hr₁, h⟩ := h
    obtain ⟨rfl, -⟩ := event_eq_ok hr₁
    exact ⟨membership, user, entitlement, r, hf, hs, (getUser_eq_ok _ |>.1 hu).2.1, hid ▸ hfe,
      .inr ⟨hr, (Prod.mk.inj h).1.symm⟩⟩

theorem inspectState_ok [Python] (h : run.inspectState command now = .ok (run', outcome)) :
    run' = run := by
  simp only [inspectState, Checked.bind_eq_ok, Checked.pure_eq_ok, Prod.mk.injEq] at h
  obtain ⟨-, -, -, -, h, -⟩ := h
  exact h.symm

end RunSpace

end RuleArena
