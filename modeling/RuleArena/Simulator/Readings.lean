import RuleArena.Simulator.Effects

/-!
# What the oracle relies on

Facts of every state of the simulator that the checks of the oracle need: the
amounts can be read back, the points of a payment fit into the decimal context,
the orders have different names, and a membership that ended left nothing of its
entitlement (`run_readable`).
-/

namespace RuleArena

/-! ## What the rows of a state satisfy -/

/-- What the oracle relies on in an order. -/
structure SimOrder.Readable (simulator : ReferenceSimulator) (order : SimOrder) : Prop where
  price : 0 ≤ order.price ∧ order.price < 10 ^ 28
  original : order.originalAmount < 10 ^ 28
  paid : 0 ≤ order.paidAmount ∧ order.paidAmount < 10 ^ 28
  within : 0 ≤ order.refundedAmount ∧ order.refundedAmount ≤ order.paidAmount
  granted : ∃ granted, simulator.granted order.paidAmount = .ok granted
  unpaid : order.status = .created → order.paidAmount = 0 ∧ order.refundCount = 0
  refunded : order.refundCount = 0 → order.refundedAmount = 0

/-- What the oracle relies on in a membership and its entitlement. -/
structure SimMembership.Readable (rule : MembershipRule) (membership : SimMembership)
    (entitlement : SimEntitlement) : Prop where
  named : membership.membershipId = "membership-1"
  own : entitlement.membershipId = "membership-1"
  consumed : 0 ≤ entitlement.consumed
  available : 0 ≤ entitlement.available
  ended : membership.status ≠ .active → entitlement.available = 0
  refunded : membership.status = .refunded → rule.refundPolicy ≠ .nonRefundable ∧
    (rule.refundPolicy = .unusedOnly → entitlement.consumed = 0)

namespace ReferenceSimulator

structure Readable (simulator : ReferenceSimulator) (state : SimulationState) : Prop where
  coupons : ∀ coupon ∈ state.coupons, 0 < coupon.faceValue
  named : ∀ (i : Nat) (order : SimOrder), state.orders[i]? = some order →
    order.orderId = "order-" ++ toString (i + 1)
  orders : ∀ order ∈ state.orders, order.Readable simulator
  memberships : (state.memberships = [] ∧ state.entitlements = []) ∨
    ∃ rule membership entitlement, simulator.membership = some rule ∧
      state.memberships = [membership] ∧ state.entitlements = [entitlement] ∧
      membership.Readable rule entitlement

variable {simulator : ReferenceSimulator} {state state' : SimulationState}

/-- Points are granted for nothing paid. -/
theorem granted_zero (simulator : ReferenceSimulator) :
    ∃ granted, simulator.granted 0 = .ok granted := by
  unfold ReferenceSimulator.granted
  split
  · exact ⟨_, by simp [Oracle.truncate, ensure]; rfl⟩
  · exact ⟨0, rfl⟩

/-- The orders keep their names when one is replaced by itself after a change. -/
theorem named_set {orders : List SimOrder} {oi : Nat} {order order' : SimOrder}
    (ho : orders[oi]? = some order) (same : order'.orderId = order.orderId)
    (named : ∀ (i : Nat) (o : SimOrder), orders[i]? = some o → o.orderId = "order-" ++ toString (i + 1))
    (i : Nat) (o : SimOrder) (h : (orders.set oi order')[i]? = some o) :
    o.orderId = "order-" ++ toString (i + 1) := by
  rw [List.getElem?_set] at h
  split_ifs at h with hi hl
  · subst hi
    cases h
    exact same.trans (named oi order ho)
  · exact named i o h

/-- What is refunded of a membership under a policy without refunds, or without a request. -/
theorem membershipRefund_zero {rule : MembershipRule} {requested : Bool}
    {membership : SimMembership} {entitlement : SimEntitlement} {refund : Int}
    (h : membershipRefund rule requested membership entitlement = .ok refund) (some : refund ≠ 0) :
    requested = true ∧ rule.refundPolicy ≠ .nonRefundable := by
  unfold membershipRefund at h
  split at h
  · rename_i hr
    exact hr
  · exact absurd (Checked.pure_eq_ok.1 h).symm some

/-- A row takes the place of an order, and the coupons keep what they are worth. -/
theorem Readable.setOrder (readable : Readable simulator state) {oi : Nat} {order : SimOrder}
    (order' : SimOrder) (ho : state.orders[oi]? = some order)
    (same : order'.orderId = order.orderId) (row : order'.Readable simulator)
    {users : List SimUser} {coupons : List SimCoupon}
    (values : ∀ coupon ∈ coupons, 0 < coupon.faceValue) :
    Readable simulator { state with users, orders := state.orders.set oi order', coupons } :=
  ⟨values, named_set ho same readable.named, forall_mem_set readable.orders row,
    readable.memberships⟩

theorem createOrder_readable (readable : Readable simulator state) {userId : String}
    {amount : Int} {currency : Currency} (pos : 0 < amount) (small : amount < 10 ^ 28) :
    Readable simulator { state with
      orders := state.orders ++ [{
        orderId := "order-" ++ toString (state.orders.length + 1), userId,
        originalAmount := amount, currency }] } := by
  refine ⟨readable.coupons, fun i order h => ?_, fun order hm => ?_, readable.memberships⟩
  · rw [List.getElem?_append] at h
    split_ifs at h with hi
    · exact readable.named i order h
    · -- The new order is the last one.
      obtain ⟨hj, rfl⟩ := List.getElem?_eq_some_iff.1 h
      obtain rfl : i = state.orders.length := by
        have : i - state.orders.length < 1 := hj
        omega
      simp
  · rcases List.mem_append.1 hm with hm | hm
    · exact readable.orders order hm
    · obtain rfl := List.mem_singleton.1 hm
      exact ⟨by simp [SimOrder.price]; omega, small, by simp, by simp, granted_zero simulator,
        by simp, by simp⟩

theorem consumeEntitlement_readable (readable : Readable simulator state) {ei : Nat}
    {entitlement : SimEntitlement} {quantity : Int}
    (he : state.entitlements[ei]? = some entitlement) (pos : 0 < quantity)
    (enough : quantity ≤ entitlement.available) :
    Readable simulator { state with
      entitlements := state.entitlements.set ei (entitlement.consume quantity) } := by
  refine ⟨readable.coupons, readable.named, readable.orders, ?_⟩
  rcases readable.memberships with ⟨-, none⟩ | ⟨rule, membership, e, hr, hm, hs, row⟩
  · simp [none] at he
  · rw [hs] at he
    obtain ⟨rfl, rfl⟩ : ei = 0 ∧ e = entitlement := by
      cases ei with
      | zero => exact ⟨rfl, Option.some.inj he⟩
      | succ ei => simp at he
    have available := row.available
    have consumed := row.consumed
    -- The entitlement of a membership that ended cannot be consumed.
    have active : membership.status = .active := by
      by_contra ended
      have := row.ended ended
      omega
    refine .inr ⟨rule, membership, e.consume quantity, hr, hm, by simp [hs], row.named, row.own, ?_,
      ?_, fun ended => absurd active ended, fun refunded => ?_⟩
    · simp only [SimEntitlement.consume_consumed]
      omega
    · simp only [SimEntitlement.available, SimEntitlement.consume_granted,
        SimEntitlement.consume_consumed, SimEntitlement.consume_revoked] at enough ⊢
      omega
    · rw [active] at refunded
      cases refunded

theorem cancelMembership_readable (readable : Readable simulator state) {rule : MembershipRule}
    {requested : Bool} {membership : SimMembership} {memberships : List SimMembership}
    {entitlement : SimEntitlement} {entitlements : List SimEntitlement} {users : List SimUser}
    {refund : Int} (hr : simulator.membership = some rule)
    (hm : state.memberships = membership :: memberships)
    (he : state.entitlements = entitlement :: entitlements)
    (unused : requested = true → rule.refundPolicy = .unusedOnly → entitlement.consumed = 0)
    (amount : membershipRefund rule requested membership entitlement = .ok refund) :
    Readable simulator { state with
      users
      memberships := membership.close refund :: memberships
      entitlements := entitlement.revoke :: entitlements } := by
  refine ⟨readable.coupons, readable.named, readable.orders, ?_⟩
  rcases readable.memberships with ⟨none, -⟩ | ⟨rule', m, e, hr', hm', hs, row⟩
  · simp [none] at hm
  · obtain ⟨rfl, rfl⟩ := List.cons.inj (hm.symm.trans hm')
    obtain ⟨rfl, rfl⟩ := List.cons.inj (he.symm.trans hs)
    obtain rfl := Option.some.inj (hr.symm.trans hr')
    have spent : (entitlement.revoke).available = 0 := by
      simp only [SimEntitlement.available, SimEntitlement.revoke_granted,
        SimEntitlement.revoke_consumed, SimEntitlement.revoke_revoked]
      omega
    refine .inr ⟨rule, _, _, hr, rfl, rfl, row.named, row.own, row.consumed, spent.ge,
      fun _ => spent, fun refunded => ?_⟩
    -- It counts as refunded only where money moved.
    have moved : refund ≠ 0 := by
      rintro rfl
      simp [SimMembership.close] at refunded
    obtain ⟨asked, refundable⟩ := membershipRefund_zero amount moved
    exact ⟨refundable, unused asked⟩

theorem change_readable (readable : Readable simulator state) {name : ActionName}
    (change : Change simulator state name state') : Readable simulator state' := by
  cases change with
  | createUser => exact ⟨readable.coupons, readable.named, readable.orders, readable.memberships⟩
  | issueCoupon _ _ value =>
    refine ⟨fun coupon hm => ?_, readable.named, readable.orders, readable.memberships⟩
    rcases List.mem_append.1 hm with hm | hm
    · exact readable.coupons coupon hm
    · rw [List.mem_singleton.1 hm]
      exact value
  | createOrder _ pos small => exact createOrder_readable readable pos small
  | @applyCoupon oi ci order coupon ho hc created plain =>
    have row := readable.orders order (List.mem_of_getElem? ho)
    have value := readable.coupons coupon (List.mem_of_getElem? hc)
    refine readable.setOrder (order.discountedBy coupon) ho rfl ⟨?_, row.original, row.paid,
      row.within, row.granted, row.unpaid, row.refunded⟩ ?_
    · have original := row.original
      simp only [SimOrder.price, SimOrder.discountedBy_originalAmount,
        SimOrder.discountedBy_discountAmount]
      omega
    · exact forall_mem_set readable.coupons value
  | @payOrder oi ui order user granted coupons ho hu own created enough points used =>
    have row := readable.orders order (List.mem_of_getElem? ho)
    have refunded := row.refunded (row.unpaid created).2
    refine readable.setOrder (order.captured granted) ho rfl ⟨row.price, row.original, row.price,
      ?_, ⟨granted, points⟩, (fun again => by cases again), row.refunded⟩ ?_
    · simpa [refunded] using row.price.1
    · rcases used with ⟨-, rfl⟩ | ⟨ci, coupon, -, hc, rfl⟩
      · exact readable.coupons
      · exact forall_mem_set readable.coupons (readable.coupons coupon (List.mem_of_getElem? hc))
  | @refundOrder oi ui order user amount revoked delta coupons ho hu own open' pos within points
      restored =>
    have row := readable.orders order (List.mem_of_getElem? ho)
    refine readable.setOrder (order.refund amount revoked) ho rfl ⟨row.price, row.original, row.paid,
      ⟨add_nonneg row.within.1 pos.le, within⟩, row.granted, fun created => ?_,
      fun none => by cases none⟩ ?_
    · simp only [SimOrder.refund_status] at created
      split at created <;> cases created
    · rcases restored with rfl | ⟨ci, coupon, -, hc, rfl⟩
      · exact readable.coupons
      · exact forall_mem_set readable.coupons (readable.coupons coupon (List.mem_of_getElem? hc))
  | redeemPoints => exact ⟨readable.coupons, readable.named, readable.orders, readable.memberships⟩
  | @activateMembership rule ui user paid hr first hu price enough =>
    refine ⟨readable.coupons, readable.named, readable.orders,
      .inr ⟨rule, _, _, hr, rfl, rfl, rfl, rfl, le_rfl, ?_, fun h => absurd rfl h,
        fun refunded => by cases refunded⟩⟩
    simp [SimEntitlement.available]
  | consumeEntitlement he pos enough => exact consumeEntitlement_readable readable he pos enough
  | cancelMembership hr hm he _ _ unused amount =>
    exact cancelMembership_readable readable hr hm he unused amount

theorem run_readable (simulator : ReferenceSimulator) (actions : List SimAction) :
    Readable simulator (simulator.run actions) :=
  simulator.run_induction ⟨by simp [initialState], by simp [initialState], by simp [initialState],
      .inl ⟨rfl, rfl⟩⟩
    (fun _ _ _ readable => change_readable readable) (fun _ _ h => ⟨h.coupons, h.named, h.orders, h.memberships⟩)
    actions

end ReferenceSimulator

end RuleArena
