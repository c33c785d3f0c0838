import RuleArena.Simulator.Transition

/-!
# What a transition does

An action that is applied makes one of ten changes of the state
(`ReferenceSimulator.Change`); every other transition leaves the state as it is
(`transition_cases`). Later proofs go through the changes and never unfold a
handler.

* A change says which rows it starts from, what the handler has checked of them,
  and what the state is afterwards. There is one for each action but the inspection
  and the cancellation of an order, which the simulator has no handler for.
* The rows after an action are definitions of their own (`SimOrder.refund`,
  `SimCoupon.usedFor`), whose fields are simp lemmas.
* What holds in the beginning and is kept by every change holds after every
  sequence of actions (`run_induction`), whatever keys the simulator remembers.
-/

namespace RuleArena

/-! ## Rows after an action -/

@[simps] def SimUser.pay (user : SimUser) (amount granted : Int) : SimUser :=
  { user with
    balance := user.balance - amount, pointsBalance := user.pointsBalance + granted,
    isNewUser := false }

@[simps] def SimUser.credit (user : SimUser) (amount delta : Int) : SimUser :=
  { user with balance := user.balance + amount, pointsBalance := user.pointsBalance - delta }

@[simps] def SimUser.redeem (user : SimUser) (amount : Int) : SimUser :=
  { user with pointsBalance := user.pointsBalance - amount }

@[simps] def SimUser.withMembership (user : SimUser) (amount : Int) (status : SimMembershipState) :
    SimUser :=
  { user with balance := user.balance + amount, membershipStatus := status }

/-- What an order costs. -/
def SimOrder.price (order : SimOrder) : Int := order.originalAmount - order.discountAmount

@[simps] def SimOrder.discountedBy (order : SimOrder) (coupon : SimCoupon) : SimOrder :=
  { order with
    couponId := some coupon.couponId,
    discountAmount := min coupon.faceValue order.originalAmount }

@[simps] def SimOrder.captured (order : SimOrder) (granted : Int) : SimOrder :=
  { order with paidAmount := order.price, pointsGranted := granted, status := .paid }

@[simps] def SimOrder.refund (order : SimOrder) (amount pointsRevoked : Int) : SimOrder :=
  { order with
    refundedAmount := order.refundedAmount + amount, pointsRevoked,
    refundCount := order.refundCount + 1,
    status := if order.refundedAmount + amount = order.paidAmount then .refunded
      else .partiallyRefunded }

@[simps] def SimCoupon.reservedFor (coupon : SimCoupon) (orderId : String) : SimCoupon :=
  { coupon with status := .reserved, reservedOrderId := some orderId }

@[simps] def SimCoupon.usedFor (coupon : SimCoupon) (orderId : String) : SimCoupon :=
  { coupon with
    status := .used, usedOrderId := some orderId, usageCount := coupon.usageCount + 1 }

@[simps] def SimCoupon.givenBack (coupon : SimCoupon) : SimCoupon :=
  { coupon with status := .available, reservedOrderId := none, usedOrderId := none }

@[simps] def SimMembership.close (membership : SimMembership) (refund : Int) : SimMembership :=
  { membership with
    status := if refund ≠ 0 then .refunded else .cancelled, refundedAmount := refund }

@[simps] def SimEntitlement.consume (entitlement : SimEntitlement) (quantity : Int) :
    SimEntitlement :=
  { entitlement with consumed := entitlement.consumed + quantity }

@[simps] def SimEntitlement.revoke (entitlement : SimEntitlement) : SimEntitlement :=
  { entitlement with revoked := entitlement.revoked + entitlement.available }

namespace ReferenceSimulator

/-- The points that are taken when the target of an order is to be revoked. -/
def revokeDelta (order : SimOrder) (target : Int) : Int := max (target - order.pointsRevoked) 0

/-- What an applied action does to the rows of a state. -/
inductive Change (simulator : ReferenceSimulator) (state : SimulationState) :
    ActionName → SimulationState → Prop
  | createUser {userId : String} {balance : Int} {currency : Currency} (none : state.users = [])
      (nonneg : 0 ≤ balance) :
      Change simulator state .createUser { state with users := [{ userId, balance, currency }] }
  | issueCoupon {promotion : PromotionRule} {ownerId : String} {faceValue threshold : Int}
      {currency : Currency} (rule : simulator.promotion = some promotion)
      (owner : ∃ user ∈ state.users, user.userId = ownerId) (value : 0 < faceValue)
      (bound : 0 ≤ threshold) (same : currency = promotion.discountAmount.currency) :
      Change simulator state .issueCoupon { state with
        coupons := state.coupons ++ [{
          couponId := "coupon-" ++ toString (state.coupons.length + 1), ownerId, faceValue,
          threshold, currency }] }
  | createOrder {userId : String} {amount : Int} {currency : Currency}
      (owner : ∃ user ∈ state.users, user.userId = userId) (pos : 0 < amount)
      (small : amount < 10 ^ 28) :
      Change simulator state .createOrder { state with
        orders := state.orders ++ [{
          orderId := "order-" ++ toString (state.orders.length + 1), userId,
          originalAmount := amount, currency }] }
  | applyCoupon {oi ci : Nat} {order : SimOrder} {coupon : SimCoupon}
      (ho : state.orders[oi]? = some order) (hc : state.coupons[ci]? = some coupon)
      (created : order.status = .created) (plain : order.couponId = none)
      (available : coupon.status = .available) (owned : coupon.ownerId = order.userId)
      (same : coupon.currency = order.currency) (reached : coupon.threshold ≤ order.originalAmount) :
      Change simulator state .applyCoupon { state with
        orders := state.orders.set oi (order.discountedBy coupon)
        coupons := state.coupons.set ci (coupon.reservedFor order.orderId) }
  | payOrder {oi ui : Nat} {order : SimOrder} {user : SimUser} {granted : Int}
      {coupons : List SimCoupon} (ho : state.orders[oi]? = some order)
      (hu : state.users[ui]? = some user) (own : user.userId = order.userId)
      (created : order.status = .created) (enough : order.price ≤ user.balance)
      (points : simulator.granted order.price = .ok granted)
      (used : (order.couponId = none ∧ coupons = state.coupons) ∨
        ∃ ci coupon, order.couponId = some coupon.couponId ∧ state.coupons[ci]? = some coupon ∧
          coupons = state.coupons.set ci (coupon.usedFor order.orderId)) :
      Change simulator state .payOrder { state with
        users := state.users.set ui (user.pay order.price granted)
        orders := state.orders.set oi (order.captured granted)
        coupons }
  | refundOrder {oi ui : Nat} {order : SimOrder} {user : SimUser} {amount revoked delta : Int}
      {coupons : List SimCoupon} (ho : state.orders[oi]? = some order)
      (hu : state.users[ui]? = some user) (own : user.userId = order.userId)
      (open' : order.status = .paid ∨ order.status = .partiallyRefunded) (pos : 0 < amount)
      (within : order.refundedAmount + amount ≤ order.paidAmount)
      (points : (simulator.revokesPoints = false ∧ revoked = order.pointsRevoked ∧ delta = 0) ∨
        (simulator.revokesPoints = true ∧
          simulator.targetRevoke order (order.refundedAmount + amount) = some revoked ∧
          delta = revokeDelta order revoked ∧ delta ≤ user.pointsBalance))
      (restored : coupons = state.coupons ∨
        ∃ ci coupon, order.couponId = some coupon.couponId ∧ state.coupons[ci]? = some coupon ∧
          coupons = state.coupons.set ci coupon.givenBack) :
      Change simulator state .refundOrder { state with
        users := state.users.set ui (user.credit amount delta)
        orders := state.orders.set oi (order.refund amount revoked)
        coupons }
  | redeemPoints {user : SimUser} {users : List SimUser} {amount : Int}
      (hu : state.users = user :: users) (pos : 0 < amount) (enough : amount ≤ user.pointsBalance) :
      Change simulator state .redeemPoints { state with users := user.redeem amount :: users }
  | activateMembership {rule : MembershipRule} {ui : Nat} {user : SimUser} {paid : Int}
      (hr : simulator.membership = some rule) (first : state.memberships = [])
      (hu : state.users[ui]? = some user)
      (price : (paid / 100 : ℚ) = rule.price.amount.decimal.value)
      (enough : paid ≤ user.balance) :
      Change simulator state .activateMembership { state with
        users := state.users.set ui (user.withMembership (-paid) .active)
        memberships := [{
          membershipId := "membership-1", userId := user.userId, paidAmount := paid,
          currency := rule.price.currency }]
        entitlements := [{
          entitlementId := "entitlement-1", membershipId := "membership-1",
          granted := rule.entitlementQuantity }] }
  | consumeEntitlement {ei : Nat} {entitlement : SimEntitlement} {quantity : Int}
      (he : state.entitlements[ei]? = some entitlement) (pos : 0 < quantity)
      (enough : quantity ≤ entitlement.available) :
      Change simulator state .consumeEntitlement { state with
        entitlements := state.entitlements.set ei (entitlement.consume quantity) }
  | cancelMembership {rule : MembershipRule} {requested : Bool} {membership : SimMembership}
      {memberships : List SimMembership} {entitlement : SimEntitlement}
      {entitlements : List SimEntitlement} {user : SimUser} {users : List SimUser} {refund : Int}
      (hr : simulator.membership = some rule) (hm : state.memberships = membership :: memberships)
      (he : state.entitlements = entitlement :: entitlements) (hu : state.users = user :: users)
      (active : membership.status = .active)
      (unused : requested = true → rule.refundPolicy = .unusedOnly → entitlement.consumed = 0)
      (amount : membershipRefund rule requested membership entitlement = .ok refund) :
      Change simulator state .cancelMembership { state with
        users := user.withMembership refund .inactive :: users
        memberships := membership.close refund :: memberships
        entitlements := entitlement.revoke :: entitlements }

/-! ## Handlers -/

section Handlers

variable {simulator : ReferenceSimulator} {state state' : SimulationState} {action : SimAction}
  {events : List SimEvent}

/-- Each handler that succeeds makes the change of its action. -/
theorem doCreateUser_ok (h : doCreateUser state action = .ok (state', events)) :
    Change simulator state .createUser state' := by
  simp only [doCreateUser, Checked.bind_eq_ok, Checked.ensure_eq_ok, Checked.pure_eq_ok,
    Prod.mk.injEq] at h
  obtain ⟨-, none, currency, -, -, -, balance, -, -, nonneg, rfl, -⟩ := h
  exact .createUser none (not_lt.1 nonneg)

theorem doIssueCoupon_ok (h : simulator.doIssueCoupon state action = .ok (state', events)) :
    Change simulator state .issueCoupon state' := by
  unfold doIssueCoupon at h
  split at h
  · simp at h
  · rename_i promotion rule
    simp only [Checked.bind_eq_ok, Checked.ensure_eq_ok, Checked.pure_eq_ok, Prod.mk.injEq, not_or,
      not_not] at h
    obtain ⟨-, -, -, owner, -, -, -, -, currency, -, faceValue, -, -, value, threshold, -, -,
      ⟨bound, same⟩, rfl, -⟩ := h
    exact .issueCoupon rule owner (not_le.1 value) (not_lt.1 bound) same

/-- An amount that was read has at most 28 digits. -/
theorem quantizeMoney_small {decimal : PyDecimal} {amount : Int}
    (h : quantizeMoney decimal = .ok (some amount)) : amount < 10 ^ 28 := by
  unfold quantizeMoney at h
  split at h
  · rename_i a ha
    obtain rfl := Option.some.inj (Checked.pure_eq_ok.1 h)
    have cents : a.cents < 10 ^ 28 := by
      unfold PyDecimal.quantize at ha
      split at ha
      · split_ifs at ha with zero fits
        · cases ha
          norm_num
        · cases ha
          exact (numDigits_le_iff (by norm_num)).1 (by exact_mod_cast fits.2)
      all_goals cases ha
    unfold Amount.toInt
    split <;> omega
  · simp at h
  · simp at h

/-- So has the amount of an action. -/
theorem amountOf_small {amount : Int} (h : amountOf action = .ok (some amount)) :
    amount < 10 ^ 28 := by
  unfold amountOf at h
  split at h
  · simp only [ArgValue.money, Checked.bind_eq_ok] at h
    obtain ⟨text, -, h⟩ := h
    split at h
    · exact quantizeMoney_small h
    · simp at h
  · simp at h

/-- An amount that can be compared is a number. -/
theorem ordered_ok {amount : Option Int} {cents : Int} (h : ordered amount = .ok cents) :
    amount = some cents := by
  unfold ordered at h
  split at h
  · rw [Checked.pure_eq_ok.1 h]
  · simp at h

theorem doCreateOrder_ok (h : doCreateOrder state action = .ok (state', events)) :
    Change simulator state .createOrder state' := by
  simp only [doCreateOrder, Checked.bind_eq_ok, Checked.ensure_eq_ok, Checked.pure_eq_ok,
    Prod.mk.injEq] at h
  obtain ⟨-, -, -, owner, read, hread, currency, -, amount, hamount, -, pos, rfl, -⟩ := h
  obtain rfl := ordered_ok hamount
  exact .createOrder owner (not_le.1 pos) (amountOf_small hread)

theorem doApplyCoupon_ok (h : doApplyCoupon state action = .ok (state', events)) :
    Change simulator state .applyCoupon state' := by
  simp only [doApplyCoupon, Checked.bind_eq_ok] at h
  obtain ⟨couponId, -, h⟩ := h
  split at h
  · rename_i oi order ci coupon ho hc
    simp only [Checked.bind_eq_ok, Checked.ensure_eq_ok, Checked.pure_eq_ok, Prod.mk.injEq, not_or,
      not_not, Bool.not_eq_true, Option.isSome_eq_false_iff, Option.isNone_iff_eq_none, not_lt] at h
    obtain ⟨-, ⟨created, plain, available, owned, same, reached⟩, rfl, -⟩ := h
    obtain ⟨ho, target⟩ := locate_spec ho
    obtain ⟨hc, named⟩ := locate_spec hc
    have named := of_decide_eq_true named
    have target := of_decide_eq_true target
    have change : Change simulator state .applyCoupon _ :=
      Change.applyCoupon ho hc created plain available owned same reached
    rw [← named, target]
    exact change
  · simp at h

/-- The coupon that is found is the row at its index, and has the name. -/
theorem couponOf_ok {couponId : String} {found : Nat × SimCoupon}
    (h : couponOf state couponId = .ok found) :
    state.coupons[found.1]? = some found.2 ∧ found.2.couponId = couponId := by
  unfold couponOf at h
  split at h
  · rename_i found' hl
    obtain rfl := Checked.pure_eq_ok.1 h
    exact ⟨(locate_spec hl).1, of_decide_eq_true (locate_spec hl).2⟩
  · simp at h

/-- The user that is found is the row at its index, and has the name. -/
theorem userOf_ok {userId : String} {found : Nat × SimUser}
    (h : userOf state userId = .ok found) :
    state.users[found.1]? = some found.2 ∧ found.2.userId = userId := by
  unfold userOf at h
  split at h
  · rename_i found' hl
    obtain rfl := Checked.pure_eq_ok.1 h
    exact ⟨(locate_spec hl).1, of_decide_eq_true (locate_spec hl).2⟩
  · simp at h

/-- Where the order has a coupon, that coupon is used, and no other. -/
theorem useCoupon_ok {order : SimOrder} {coupons : List SimCoupon}
    (h : useCoupon state order = .ok (coupons, events)) :
    (order.couponId = none ∧ coupons = state.coupons) ∨
      ∃ ci coupon, order.couponId = some coupon.couponId ∧ state.coupons[ci]? = some coupon ∧
        coupons = state.coupons.set ci (coupon.usedFor order.orderId) := by
  unfold useCoupon at h
  split at h
  · rename_i couponId hid
    simp only [Checked.bind_eq_ok, Checked.pure_eq_ok, Prod.mk.injEq] at h
    obtain ⟨⟨ci, coupon⟩, hcoupon, rfl, -⟩ := h
    obtain ⟨hc, rfl⟩ := couponOf_ok hcoupon
    exact .inr ⟨ci, coupon, hid, hc, rfl⟩
  · rename_i hid
    simp only [Checked.pure_eq_ok, Prod.mk.injEq] at h
    exact .inl ⟨hid, h.1.symm⟩

theorem doPayOrder_ok (h : simulator.doPayOrder state action = .ok (state', events)) :
    Change simulator state .payOrder state' := by
  unfold doPayOrder at h
  split at h
  · simp at h
  · rename_i oi order ho
    simp only [Checked.bind_eq_ok, Checked.ensure_eq_ok, Checked.pure_eq_ok, Prod.mk.injEq] at h
    obtain ⟨-, created, ⟨ui, user⟩, hu, -, enough, granted, points, ⟨coupons, used⟩, hc, rfl, -⟩ := h
    obtain ⟨ho, -⟩ := locate_spec ho
    obtain ⟨hu, own⟩ := userOf_ok hu
    exact .payOrder ho hu own created (not_lt.1 enough) points (useCoupon_ok hc)

/-- The coupons stay, or the coupon of the order is given back. -/
theorem restoreCoupon_ok {order : SimOrder} {full : Bool} {coupons : List SimCoupon}
    (h : simulator.restoreCoupon state order full = .ok (coupons, events)) :
    coupons = state.coupons ∨
      ∃ ci coupon, order.couponId = some coupon.couponId ∧ state.coupons[ci]? = some coupon ∧
        coupons = state.coupons.set ci coupon.givenBack := by
  unfold restoreCoupon at h
  split at h
  · rename_i couponId hid
    split at h
    · simp only [Checked.bind_eq_ok, Checked.pure_eq_ok, Prod.mk.injEq] at h
      obtain ⟨⟨ci, coupon⟩, hcoupon, rfl, -⟩ := h
      obtain ⟨hc, rfl⟩ := couponOf_ok hcoupon
      exact .inr ⟨ci, coupon, hid, hc, rfl⟩
    · simp only [Checked.pure_eq_ok, Prod.mk.injEq] at h
      exact .inl h.1.symm
  · simp only [Checked.pure_eq_ok, Prod.mk.injEq] at h
    exact .inl h.1.symm

/-- Points are revoked up to the target, where there is one. -/
theorem pointsRevoked_ok {order : SimOrder} {target : Option Int} {revoked : Int}
    (h : simulator.pointsRevoked order target = .ok revoked) :
    (simulator.revokesPoints = false ∧ revoked = order.pointsRevoked) ∨
      (simulator.revokesPoints = true ∧ target = some revoked) := by
  unfold pointsRevoked at h
  split at h
  · rename_i revokes
    split at h
    · exact .inr ⟨revokes, congrArg some (Checked.pure_eq_ok.1 h)⟩
    · simp at h
  · rename_i keeps
    exact .inl ⟨by simpa using keeps, (Checked.pure_eq_ok.1 h).symm⟩

theorem doRefundOrder_ok (h : simulator.doRefundOrder state action = .ok (state', events)) :
    Change simulator state .refundOrder state' := by
  unfold doRefundOrder at h
  split at h
  · simp at h
  · rename_i oi order ho
    simp only [Checked.bind_eq_ok, Checked.ensure_eq_ok, Checked.pure_eq_ok, Prod.mk.injEq] at h
    obtain ⟨-, -, -, open', amount, -, -, within, -, -, ⟨ui, user⟩, hu, -, enough, revoked,
      points, ⟨coupons, restored⟩, hc, rfl, -⟩ := h
    obtain ⟨ho, -⟩ := locate_spec ho
    obtain ⟨hu, own⟩ := userOf_ok hu
    rw [not_or, not_le, not_lt] at within
    refine .refundOrder ho hu own open' within.1 within.2 ?_ (restoreCoupon_ok hc)
    rcases pointsRevoked_ok points with ⟨keeps, rfl⟩ | ⟨revokes, ht⟩
    · exact .inl ⟨keeps, rfl, by simp [targetRevoke, keeps]⟩
    · simp only [ht, reduceCtorEq, or_false, not_lt] at enough ⊢
      exact .inr ⟨revokes, trivial, rfl, enough⟩

theorem doRedeemPoints_ok (h : doRedeemPoints state action = .ok (state', events)) :
    Change simulator state .redeemPoints state' := by
  unfold doRedeemPoints at h
  split at h
  · simp at h
  · rename_i user users hu
    simp only [Checked.bind_eq_ok, Checked.ensure_eq_ok, Checked.pure_eq_ok, Prod.mk.injEq, not_or,
      not_le, not_lt] at h
    obtain ⟨amount, -, -, ⟨pos, enough⟩, rfl, -⟩ := h
    exact .redeemPoints hu pos enough

theorem doActivateMembership_ok
    (h : simulator.doActivateMembership state action = .ok (state', events)) :
    Change simulator state .activateMembership state' := by
  unfold doActivateMembership at h
  split at h
  · simp at h
  · rename_i rule hr
    simp only [Checked.bind_eq_ok, Checked.ensure_eq_ok] at h
    obtain ⟨-, ⟨-, first⟩, h⟩ := h
    split at h
    · simp at h
    · rename_i ui user hu
      simp only [Checked.bind_eq_ok] at h
      obtain ⟨paid, -, quantity, -, h⟩ := h
      split at h
      · simp at h
      · rename_i paid
        simp only [Checked.bind_eq_ok, Checked.ensure_eq_ok, Checked.pure_eq_ok, Prod.mk.injEq,
          not_or, not_not, not_lt] at h
        obtain ⟨-, ⟨price, rfl, enough⟩, rfl, -⟩ := h
        exact .activateMembership hr first (locate_spec hu).1 price enough

theorem doConsumeEntitlement_ok (h : doConsumeEntitlement state action = .ok (state', events)) :
    Change simulator state .consumeEntitlement state' := by
  simp only [doConsumeEntitlement, Checked.bind_eq_ok] at h
  obtain ⟨-, -, quantity, -, h⟩ := h
  split at h
  · simp at h
  · rename_i ei entitlement he
    simp only [Checked.bind_eq_ok, Checked.ensure_eq_ok, Checked.pure_eq_ok, Prod.mk.injEq, not_or,
      not_le, not_lt] at h
    obtain ⟨-, ⟨pos, enough⟩, rfl, -⟩ := h
    exact .consumeEntitlement (locate_spec he).1 pos enough

theorem doCancelMembership_ok
    (h : simulator.doCancelMembership state action = .ok (state', events)) :
    Change simulator state .cancelMembership state' := by
  unfold doCancelMembership at h
  split at h
  · rename_i membership memberships rule hm hr
    simp only [Checked.bind_eq_ok, Checked.ensure_eq_ok] at h
    obtain ⟨-, active, h⟩ := h
    split at h
    · rename_i entitlement entitlements user users he hu
      simp only [Checked.bind_eq_ok, Checked.ensure_eq_ok, Checked.pure_eq_ok, Prod.mk.injEq] at h
      obtain ⟨-, unused, refund, amount, rfl, -⟩ := h
      refine .cancelMembership hr hm he hu active (fun requested policy => ?_) amount
      by_contra consumed
      exact unused ⟨requested, policy, consumed⟩
    · simp at h
  · simp at h

/-- What a handler does is one of the changes. -/
theorem handler_change {name : ActionName}
    (h : simulator.handler? state action name = some (.ok (state', events))) :
    Change simulator state name state' := by
  cases name <;> simp only [handler?, Option.some.injEq, reduceCtorEq] at h
  · exact doCreateUser_ok h
  · exact doIssueCoupon_ok h
  · exact doCreateOrder_ok h
  · exact doApplyCoupon_ok h
  · exact doPayOrder_ok h
  · exact doRefundOrder_ok h
  · exact doRedeemPoints_ok h
  · exact doActivateMembership_ok h
  · exact doConsumeEntitlement_ok h
  · exact doCancelMembership_ok h

/-- A transition that returns applies a change, and remembers the key of the action, or
    leaves the state as it is. -/
theorem transition_cases {result : TransitionResult}
    (h : simulator.transition state action = .ok result) :
    result.state = state ∨
      result.status = .applied ∧ ∃ state', Change simulator state action.actionType state' ∧
        result.state = { state' with
          seenIdempotencyKeys := state'.seenIdempotencyKeys ++ (marker? action).toList } := by
  unfold transition at h
  split_ifs at h
  · cases h
    exact .inl rfl
  · cases h
    exact .inl rfl
  · split at h
    · cases h
      exact .inl rfl
    · rename_i state' events hh
      cases h
      exact .inr ⟨rfl, state', handler_change hh, rfl⟩
    · cases h
      exact .inl rfl
    · split at h
      · cases h
        exact .inl rfl
      · cases h

end Handlers

/-! ## Runs -/

variable (simulator : ReferenceSimulator)

/-- The state after an action: the one a transition gives, and the same one where it raises. -/
def next (state : SimulationState) (action : SimAction) : SimulationState :=
  match simulator.transition state action with
  | .ok result => result.state
  | .error _ => state

/-- The state after a sequence of actions. -/
def run (actions : List SimAction) : SimulationState :=
  actions.foldl simulator.next simulator.initialState

@[simp] theorem run_nil : simulator.run [] = simulator.initialState := rfl

/-- A run ends with its last action. -/
theorem run_concat (actions : List SimAction) (action : SimAction) :
    simulator.run (actions ++ [action]) = simulator.next (simulator.run actions) action := by
  simp [run]

/-- An action changes the rows of a state, or leaves the state as it is. -/
theorem next_cases (state : SimulationState) (action : SimAction) :
    simulator.next state action = state ∨
      ∃ state', Change simulator state action.actionType state' ∧
        simulator.next state action = { state' with
          seenIdempotencyKeys := state'.seenIdempotencyKeys ++ (marker? action).toList } := by
  unfold next
  split
  · rename_i result h
    exact (transition_cases h).imp id And.right
  · exact .inl rfl

/-- What holds in the beginning and is kept by every change, whatever keys are
    remembered, holds after every sequence of actions. -/
theorem run_induction {P : SimulationState → Prop} (init : P simulator.initialState)
    (step : ∀ state state' name, P state → Change simulator state name state' → P state')
    (keys : ∀ state keys, P state → P { state with seenIdempotencyKeys := keys })
    (actions : List SimAction) : P (simulator.run actions) := by
  induction actions using List.reverseRecOn with
  | nil => exact init
  | append_singleton actions action ih =>
    rw [run_concat]
    rcases simulator.next_cases (simulator.run actions) action with h | ⟨state', change, h⟩
    · rwa [h]
    · rw [h]
      exact keys _ _ (step _ _ _ ih change)

end ReferenceSimulator

end RuleArena
