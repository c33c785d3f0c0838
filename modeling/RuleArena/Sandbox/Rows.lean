import RuleArena.Sandbox.Runs

/-!
# What handlers make of rows

A rule for each table: a property that new rows have, and that the updates the
handlers make preserve, holds of all rows after a handler. An order in a terminal
state stays as it is (`handler_order_kept`).
-/

namespace RuleArena

namespace RunSpace

variable {run run' : RunSpace} {command : ActionCommand} {key : String} {now : Nat}
  {outcome : Outcome}

/-! ## Orders -/

/-- What a handler can make of the orders. -/
theorem handler_orders [Python] {P : Order → Prop}
    (h : run.handler command key now = .ok (run', outcome)) (all : ∀ order ∈ run.orders, P order)
    (new : ∀ id userId amount currency, 0 < amount →
      P ⟨id, userId, amount, 0, 0, 0, 0, currency, .pendingPayment, none⟩)
    (discount : ∀ order ∈ run.orders, ∀ coupon ∈ run.coupons, order.status = .pendingPayment →
      order.couponId = none → P order → P (order.discountedBy coupon))
    (capture : ∀ order ∈ run.orders, order.status = .pendingPayment → 0 < order.price →
      run.scenarioType ≠ .refundPoints → P order → P order.captured)
    (capturePoints : ∀ order ∈ run.orders, order.status = .pendingPayment → 0 < order.price →
      run.scenarioType = .refundPoints → P order →
      P (order.captured.withPoints (pointsFor order.price)))
    (cancel : ∀ order ∈ run.orders, (order.status = .draft ∨ order.status = .pendingPayment) →
      P order → P (order.withStatus .cancelled))
    (refund : ∀ order ∈ run.orders, (order.status = .paid ∨ order.status = .partiallyRefunded) →
      ∀ amount, 0 < amount → amount ≤ run.refundCeiling order → P order →
      P (order.refund amount)) :
    ∀ order ∈ run'.orders, P order := by
  have update : ∀ row, P row → ∀ order ∈ Table.update Order.id run.orders row, P order := by
    intro row hrow order hm
    rcases Table.mem_update hm with rfl | ⟨hm, -⟩
    · exact hrow
    · exact all order hm
  unfold handler at h
  split at h
  · obtain ⟨_, _, -, -, rfl⟩ := createUser_ok h
    simpa using all
  · obtain ⟨_, _, _, _, -, -, -, rfl⟩ := issueCoupon_ok h
    simpa using all
  · obtain ⟨_, _, _, -, ha, rfl⟩ := createOrder_ok h
    intro order hm
    simp only [addEvent_orders, addOrder_orders, List.mem_append, List.mem_singleton] at hm
    rcases hm with hm | rfl
    · exact all order hm
    · exact new _ _ _ _ ha
  · obtain ⟨order, coupon, ho, hc, hn, hs, -, rfl⟩ := applyCoupon_ok h
    have hm := Table.mem_of_find? ho
    simpa using update _ (discount order hm coupon (Table.mem_of_find? hc) hs hn (all order hm))
  · obtain ⟨order, user, r, -, ho, hs, -, hp, -, hr, h⟩ := payOrder_ok h
    have hm := Table.mem_of_find? ho
    have orders := (useCoupon_rows hr).2.1
    rcases h with ⟨hsc, rfl⟩ | ⟨hsc, h⟩
    · simpa [orders] using update _ (capture order hm hs hp hsc (all order hm))
    · rw [(grantPoints_rows h).2.1]
      intro o ho'
      simp only [setOrder_orders, addEvent_orders, orders] at ho'
      -- The order is written twice, the second time with its points.
      rcases Table.mem_update ho' with rfl | ⟨ho', hne⟩
      · exact capturePoints order hm hs hp hsc (all order hm)
      · rcases Table.mem_update ho' with rfl | ⟨ho', -⟩
        · exact absurd rfl hne
        · exact all o (by simpa using ho')
  · obtain ⟨order, r, ho, hs, hr, rfl⟩ := cancelOrder_ok h
    have hm := Table.mem_of_find? ho
    simpa [(releaseCoupon_rows hr).2.1] using update _ (cancel order hm hs (all order hm))
  · obtain ⟨order, user, amount, r, -, ho, hs, -, ha, hc, -, hr, h, -⟩ := refundOrder_ok h
    have hm := Table.mem_of_find? ho
    rw [(restoreCoupon_rows h).2.1, (refundPoints_rows hr (by simp [refunded])).2.1]
    simpa [refunded] using update _ (refund order hm hs _ ha hc (all order hm))
  · obtain ⟨_, _, -, -, -, rfl⟩ := redeemPoints_ok h
    simpa using all
  · obtain ⟨_, _, _, _, -, -, -, -, -, rfl⟩ := activateMembership_ok h
    simpa [activated] using all
  · obtain ⟨_, _, -, -, -, -, -, rfl⟩ := consumeEntitlement_ok h
    simpa using all
  · obtain ⟨_, _, _, r, -, -, -, -, ⟨-, hr, rfl⟩ | ⟨hr, rfl⟩⟩ := cancelMembership_ok h
    all_goals simpa [(revokeEntitlement_rows hr).2.1] using all
  · rw [inspectState_ok h]
    exact all

/-- An order in a terminal state stays as it is. -/
theorem handler_order_kept [Python] (h : run.handler command key now = .ok (run', outcome))
    {id : String} {order : Order} (hf : Table.find? Order.id run.orders id = some order)
    (terminal : order.status = .cancelled ∨ order.status = .refunded) :
    Table.find? Order.id run'.orders id = some order := by
  -- The orders that handlers replace are not in a terminal state.
  have update : ∀ {orders : List Order}, Table.find? Order.id orders id = some order →
      ∀ old row : Order, Table.find? Order.id orders old.id = some old →
      (old.status ≠ .cancelled ∧ old.status ≠ .refunded) → row.id = old.id →
      Table.find? Order.id (Table.update Order.id orders row) id = some order := by
    intro orders hf old row hold hs hrow
    rw [Table.find?_update, if_neg]
    · exact hf
    · rintro rfl
      rw [hrow, hold] at hf
      obtain rfl := Option.some.inj hf
      rcases terminal with e | e
      · exact hs.1 e
      · exact hs.2 e
  unfold handler at h
  split at h
  · obtain ⟨_, _, -, -, rfl⟩ := createUser_ok h
    exact hf
  · obtain ⟨_, _, _, _, -, -, -, rfl⟩ := issueCoupon_ok h
    exact hf
  · obtain ⟨_, _, _, -, -, rfl⟩ := createOrder_ok h
    simp [Table.find?_append, hf]
  · obtain ⟨old, coupon, ho, -, -, hs, -, rfl⟩ := applyCoupon_ok h
    exact update hf old (old.discountedBy coupon) ho (by simp [hs]) rfl
  · obtain ⟨old, _, r, -, ho, hs, -, -, -, hr, h⟩ := payOrder_ok h
    have orders := (useCoupon_rows hr).2.1
    have once := update hf old old.captured ho (by simp [hs]) rfl
    rcases h with ⟨-, rfl⟩ | ⟨-, h⟩
    · simpa [orders] using once
    · rw [(grantPoints_rows h).2.1]
      refine update (by simpa [orders] using once) old.captured (old.captured.withPoints _) ?_
        (by simp) rfl
      simp [orders, Table.find?_update, ho]
  · obtain ⟨old, r, ho, hs, hr, rfl⟩ := cancelOrder_ok h
    have orders := (releaseCoupon_rows hr).2.1
    rw [addEvent_orders, setOrder_orders, orders]
    refine update hf old (old.withStatus .cancelled) ho ?_ rfl
    rcases hs with hs | hs <;> simp [hs]
  · obtain ⟨old, user, amount, r, -, ho, hs, -, -, -, -, hr, h, -⟩ := refundOrder_ok h
    rw [(restoreCoupon_rows h).2.1, (refundPoints_rows hr (by simp [refunded])).2.1]
    refine update hf old (old.refund amount.toInt) ho ?_ rfl
    rcases hs with hs | hs <;> simp [hs]
  · obtain ⟨_, _, -, -, -, rfl⟩ := redeemPoints_ok h
    exact hf
  · obtain ⟨_, _, _, _, -, -, -, -, -, rfl⟩ := activateMembership_ok h
    exact hf
  · obtain ⟨_, _, -, -, -, -, -, rfl⟩ := consumeEntitlement_ok h
    exact hf
  · obtain ⟨_, _, _, r, -, -, -, -, ⟨-, hr, rfl⟩ | ⟨hr, rfl⟩⟩ := cancelMembership_ok h
    all_goals
      have orders := (revokeEntitlement_rows hr).2.1
      simpa [orders] using hf
  · rw [inspectState_ok h]
    exact hf

/-! ## Memberships -/

/-- What a handler can make of the memberships. -/
theorem handler_memberships [Python] {P : Membership → Prop}
    (h : run.handler command key now = .ok (run', outcome))
    (all : ∀ membership ∈ run.memberships, P membership)
    (new : ∀ id userId amount currency, 0 < amount → P ⟨id, userId, amount, currency, .active⟩)
    (close : ∀ membership ∈ run.memberships, membership.status = .active → P membership →
      ∀ status, status = .cancelled ∨ status = .refunded → P (membership.withStatus status)) :
    ∀ membership ∈ run'.memberships, P membership := by
  have update : ∀ row, P row →
      ∀ membership ∈ Table.update Membership.id run.memberships row, P membership := by
    intro row hrow membership hm
    rcases Table.mem_update hm with rfl | ⟨hm, -⟩
    · exact hrow
    · exact all membership hm
  unfold handler at h
  split at h
  · obtain ⟨_, _, -, -, rfl⟩ := createUser_ok h
    simpa using all
  · obtain ⟨_, _, _, _, -, -, -, rfl⟩ := issueCoupon_ok h
    simpa using all
  · obtain ⟨_, _, _, -, -, rfl⟩ := createOrder_ok h
    simpa using all
  · obtain ⟨_, _, -, -, -, -, -, rfl⟩ := applyCoupon_ok h
    simpa using all
  · obtain ⟨_, _, r, -, -, -, -, -, -, hr, ⟨-, rfl⟩ | ⟨-, h⟩⟩ := payOrder_ok h
    · simpa [(useCoupon_rows hr).2.2.1] using all
    · simpa [(grantPoints_rows h).2.2.2.1, (useCoupon_rows hr).2.2.1] using all
  · obtain ⟨_, r, -, -, hr, rfl⟩ := cancelOrder_ok h
    simpa [(releaseCoupon_rows hr).2.2.1] using all
  · obtain ⟨_, _, _, r, -, -, -, -, -, -, -, hr, h, -⟩ := refundOrder_ok h
    rw [(restoreCoupon_rows h).2.2.1, (refundPoints_rows hr (by simp [refunded])).2.2.2.1]
    simpa [refunded] using all
  · obtain ⟨_, _, -, -, -, rfl⟩ := redeemPoints_ok h
    simpa using all
  · obtain ⟨_, _, _, _, -, -, ha, -, -, rfl⟩ := activateMembership_ok h
    intro membership hm
    simp only [addEvent_memberships, activated, addEntitlement_memberships,
      addMembership_memberships, setUser_memberships, List.mem_append, List.mem_singleton] at hm
    rcases hm with hm | rfl
    · exact all membership hm
    · exact new _ _ _ _ ha
  · obtain ⟨_, _, -, -, -, -, -, rfl⟩ := consumeEntitlement_ok h
    simpa using all
  · obtain ⟨membership, _, _, r, hf, hs, -, -, ⟨-, hr, rfl⟩ | ⟨hr, rfl⟩⟩ := cancelMembership_ok h
    all_goals
      have hm := Table.mem_of_find? hf
      simpa [(revokeEntitlement_rows hr).2.2] using
        update _ (close membership hm hs (all membership hm) _ (by simp))
  · rw [inspectState_ok h]
    exact all

/-! ## Coupons -/

theorem useCoupon_coupons {P : Coupon → Prop} {order : Order}
    (h : run.useCoupon key now order = .ok run') (all : ∀ coupon ∈ run.coupons, P coupon)
    (use : ∀ coupon ∈ run.coupons, coupon.status = .reserved → P coupon →
      P (coupon.usedFor order.id)) : ∀ coupon ∈ run'.coupons, P coupon := by
  rcases useCoupon_ok h with ⟨-, rfl⟩ | ⟨coupon, -, hc, hs, -, rfl⟩
  · exact all
  · intro c hm
    rcases Table.mem_update hm with rfl | ⟨hm, -⟩
    · exact use coupon (Table.mem_of_find? hc) hs (all coupon (Table.mem_of_find? hc))
    · exact all c hm

theorem releaseCoupon_coupons {P : Coupon → Prop} {order : Order}
    (h : run.releaseCoupon key now order = .ok run') (all : ∀ coupon ∈ run.coupons, P coupon)
    (release : ∀ coupon ∈ run.coupons, coupon.status = .reserved → P coupon →
      P coupon.released) : ∀ coupon ∈ run'.coupons, P coupon := by
  rcases releaseCoupon_ok h with rfl | ⟨coupon, -, hc, hs, -, rfl⟩
  · exact all
  · intro c hm
    rcases Table.mem_update hm with rfl | ⟨hm, -⟩
    · exact release coupon (Table.mem_of_find? hc) hs (all coupon (Table.mem_of_find? hc))
    · exact all c hm

theorem restoreCoupon_coupons {P : Coupon → Prop} {order : Order}
    (h : run.restoreCoupon key now order = .ok run') (all : ∀ coupon ∈ run.coupons, P coupon)
    (giveBack : run.profile.restoresCouponAfterFullRefund = true → ∀ coupon ∈ run.coupons,
      P coupon → P coupon.givenBack) : ∀ coupon ∈ run'.coupons, P coupon := by
  rcases restoreCoupon_ok h with rfl | ⟨coupon, hp, -, hc, rfl⟩
  · exact all
  · intro c hm
    rcases Table.mem_update hm with rfl | ⟨hm, -⟩
    · exact giveBack hp.1 coupon (Table.mem_of_find? hc) (all coupon (Table.mem_of_find? hc))
    · exact all c hm

/-- What a handler can make of the coupons. -/
theorem handler_coupons [Python] {P : Coupon → Prop}
    (h : run.handler command key now = .ok (run', outcome))
    (all : ∀ coupon ∈ run.coupons, P coupon)
    (new : ∀ id ownerId value threshold currency,
      P ⟨id, ownerId, value, threshold, currency, .available, none, none, 0⟩)
    (reserve : ∀ coupon ∈ run.coupons, (coupon.status = .available ∨ coupon.status = .restored) →
      P coupon → ∀ orderId, P (coupon.reservedFor orderId))
    (use : ∀ coupon ∈ run.coupons, coupon.status = .reserved → P coupon →
      ∀ orderId, P (coupon.usedFor orderId))
    (release : ∀ coupon ∈ run.coupons, coupon.status = .reserved → P coupon → P coupon.released)
    (giveBack : run.profile.restoresCouponAfterFullRefund = true → ∀ coupon ∈ run.coupons,
      P coupon → P coupon.givenBack) : ∀ coupon ∈ run'.coupons, P coupon := by
  unfold handler at h
  split at h
  · obtain ⟨_, _, -, -, rfl⟩ := createUser_ok h
    exact all
  · obtain ⟨_, _, _, _, -, -, -, rfl⟩ := issueCoupon_ok h
    intro coupon hm
    simp only [addEvent_coupons, addCoupon_coupons, List.mem_append, List.mem_singleton] at hm
    rcases hm with hm | rfl
    · exact all coupon hm
    · exact new ..
  · obtain ⟨_, _, _, -, -, rfl⟩ := createOrder_ok h
    exact all
  · obtain ⟨_, coupon, -, hc, -, -, hs, rfl⟩ := applyCoupon_ok h
    intro c hm
    rcases Table.mem_update hm with rfl | ⟨hm, -⟩
    · exact reserve coupon (Table.mem_of_find? hc) hs (all coupon (Table.mem_of_find? hc)) _
    · exact all c hm
  · obtain ⟨order, _, r, -, -, -, -, -, -, hr, h⟩ := payOrder_ok h
    have used := useCoupon_coupons hr all fun c hm hs hc => use c hm hs hc _
    rcases h with ⟨-, rfl⟩ | ⟨-, h⟩
    · exact used
    · rw [(grantPoints_rows h).2.2.1]
      exact used
  · obtain ⟨_, r, -, -, hr, rfl⟩ := cancelOrder_ok h
    have released := releaseCoupon_coupons hr all release
    exact released
  · obtain ⟨_, _, _, r, -, -, -, -, -, -, -, hr, h, -⟩ := refundOrder_ok h
    have rows := refundPoints_rows hr (by simp [refunded])
    have coupons : r.coupons = run.coupons := rows.2.2.1
    have profile : r.profile = run.profile :=
      (refunded_frame.trans (refundPoints_frame hr)).profile
    refine restoreCoupon_coupons h (coupons ▸ all) ?_
    rw [coupons, profile]
    exact giveBack
  · obtain ⟨_, _, -, -, -, rfl⟩ := redeemPoints_ok h
    exact all
  · obtain ⟨_, _, _, _, -, -, -, -, -, rfl⟩ := activateMembership_ok h
    exact all
  · obtain ⟨_, _, -, -, -, -, -, rfl⟩ := consumeEntitlement_ok h
    exact all
  · obtain ⟨_, _, _, r, -, -, -, -, ⟨-, hr, rfl⟩ | ⟨hr, rfl⟩⟩ := cancelMembership_ok h
    all_goals
      rcases revokeEntitlement_ok hr with ⟨-, rfl⟩ | ⟨-, -, rfl⟩ <;> exact all
  · rw [inspectState_ok h]
    exact all

/-! ## Entitlements -/

/-- What a handler can make of the entitlements. -/
theorem handler_entitlements [Python] {P : Entitlement → Prop}
    (h : run.handler command key now = .ok (run', outcome))
    (all : ∀ entitlement ∈ run.entitlements, P entitlement)
    (new : ∀ id membershipId quantity, 0 < quantity →
      P ⟨id, membershipId, "USAGE", quantity, 0, 0, .granted⟩)
    (consume : ∀ entitlement ∈ run.entitlements, ∀ quantity, 0 < quantity →
      entitlement.status ≠ .revoked → entitlement.status ≠ .consumed →
      (quantity ≤ entitlement.available ∨ run.profile.allowsEntitlementOverconsumption = true) →
      P entitlement → P (entitlement.consume quantity))
    (revoke : ∀ entitlement ∈ run.entitlements, P entitlement → P entitlement.revokeAvailable) :
    ∀ entitlement ∈ run'.entitlements, P entitlement := by
  unfold handler at h
  split at h
  · obtain ⟨_, _, -, -, rfl⟩ := createUser_ok h
    exact all
  · obtain ⟨_, _, _, _, -, -, -, rfl⟩ := issueCoupon_ok h
    exact all
  · obtain ⟨_, _, _, -, -, rfl⟩ := createOrder_ok h
    exact all
  · obtain ⟨_, _, -, -, -, -, -, rfl⟩ := applyCoupon_ok h
    exact all
  · obtain ⟨_, _, r, -, -, -, -, -, -, hr, ⟨-, rfl⟩ | ⟨-, h⟩⟩ := payOrder_ok h
    · rw [addEvent_entitlements, (useCoupon_rows hr).2.2.2]
      exact all
    · rw [(grantPoints_rows h).2.2.2.2, setOrder_entitlements, addEvent_entitlements,
        (useCoupon_rows hr).2.2.2]
      exact all
  · obtain ⟨_, r, -, -, hr, rfl⟩ := cancelOrder_ok h
    rw [addEvent_entitlements, setOrder_entitlements, (releaseCoupon_rows hr).2.2.2]
    exact all
  · obtain ⟨_, _, _, r, -, -, -, -, -, -, -, hr, h, -⟩ := refundOrder_ok h
    rw [(restoreCoupon_rows h).2.2.2, (refundPoints_rows hr (by simp [refunded])).2.2.2.2]
    exact all
  · obtain ⟨_, _, -, -, -, rfl⟩ := redeemPoints_ok h
    exact all
  · obtain ⟨_, _, quantity, _, -, -, -, -, hq, rfl⟩ := activateMembership_ok h
    intro entitlement hm
    rcases List.mem_append.1 hm with hm | hm
    · exact all entitlement hm
    · exact List.mem_singleton.1 hm ▸ new _ _ _ hq
  · obtain ⟨entitlement, quantity, hf, hq, hs, hs', ha, rfl⟩ := consumeEntitlement_ok h
    have hm := Table.mem_of_find? hf
    intro e he
    rcases Table.mem_update he with rfl | ⟨he, -⟩
    · exact consume entitlement hm quantity hq hs hs' ha (all entitlement hm)
    · exact all e he
  · obtain ⟨_, _, entitlement, r, -, -, -, hf, h⟩ := cancelMembership_ok h
    have hm := Table.mem_of_find? hf
    have revoked : ∀ {r₀ : RunSpace} {allowed : Bool},
        r₀.revokeEntitlement key now allowed entitlement = .ok r →
        r₀.entitlements = run.entitlements → ∀ e ∈ r.entitlements, P e := by
      intro r₀ allowed hr same
      rcases revokeEntitlement_ok hr with ⟨-, rfl⟩ | ⟨-, -, rfl⟩
      · exact same ▸ all
      · intro e he
        rcases Table.mem_update he with rfl | ⟨he, -⟩
        · exact revoke entitlement hm (all entitlement hm)
        · exact all e (same ▸ he)
    rcases h with ⟨-, hr, rfl⟩ | ⟨hr, rfl⟩
    · exact revoked hr rfl
    · exact revoked hr rfl
  · rw [inspectState_ok h]
    exact all

end RunSpace

end RuleArena
