import RuleArena.Sandbox.Runs

/-!
# The books

The state of a run is written down four times: in its rows, in the points
ledger, in the table of refunds and in the event log. The books agree
(`Books`): the rows show what the ledger, the refunds and the events of the
epoch add up to.

What the events say is a `tally`: the sum of a weight over the events of the
epoch. An update that changes no amount keeps the books as long as its event has
no weight; the others come in blocks that write every record of one change, and
each block keeps the books (`Books.points`, `Books.refunded`, `Books.used`,
`Books.consumed`, `Books.revoked`). A handler is a sequence of such updates.
-/

namespace RuleArena

/-! ## What events say -/

/-- The number a member of an event's payload holds. -/
def BusinessEvent.quantity (event : BusinessEvent) (name : String) : Int :=
  match (Json.obj event.payload).get name with
  | .int i => i
  | _ => 0

/-- The amount a member of an event's payload holds, in cents. -/
def BusinessEvent.cents (event : BusinessEvent) (name : String) : Int :=
  match money ((Json.obj event.payload).get name) name with
  | .ok (amount, _) => amount.toInt
  | .error _ => 0

/-- The points an event moves. -/
def pointsWeight (event : BusinessEvent) : Int :=
  match event.eventType with
  | .pointsGranted => event.quantity "amount"
  | .pointsRevoked | .pointsRedeemed => -event.quantity "amount"
  | _ => 0

/-- The cents an event refunds of an order. -/
def refundWeight (orderId : String) (event : BusinessEvent) : Int :=
  if event.eventType = .refundIssued ∧ event.aggregateId = orderId then event.cents "amount" else 0

/-- One for each use of a coupon. -/
def useWeight (couponId : String) (event : BusinessEvent) : Int :=
  if event.eventType = .couponUsed ∧ event.aggregateId = couponId then 1 else 0

/-- The quantity of an entitlement an event of a type is about. -/
def entitlementWeight (eventType : BusinessEventType) (entitlementId : String)
    (event : BusinessEvent) : Int :=
  if event.eventType = eventType ∧ event.aggregateId = entitlementId then event.quantity "quantity"
  else 0

/-- An event that moves nothing the books record. -/
def BusinessEventType.Silent (eventType : BusinessEventType) : Prop :=
  eventType ∉ [.pointsGranted, .pointsRevoked, .pointsRedeemed, .refundIssued, .couponUsed,
    .entitlementConsumed, .entitlementRevoked]

instance (eventType : BusinessEventType) : Decidable eventType.Silent :=
  inferInstanceAs (Decidable (¬ _))

namespace RunSpace

/-- The sum of a weight over the events of the epoch. -/
def tally (weight : BusinessEvent → Int) (run : RunSpace) : Int :=
  (run.epochEvents.map weight).sum

theorem tally_addEvent (weight : BusinessEvent → Int) (run : RunSpace)
    (aggregateType : AggregateType) (aggregateId : String) (eventType : BusinessEventType)
    (payload : List (String × Json)) (key : String) (now : Nat) :
    (run.addEvent aggregateType aggregateId eventType payload key now).tally weight =
      run.tally weight +
        weight (run.newEvent aggregateType aggregateId eventType payload key now) := by
  rw [tally, epochEvents_addEvent, List.map_append, List.sum_append]
  simp [tally]

/-- The points of the user, zero where there is none. -/
def pointsBalance (run : RunSpace) : Int := (run.user.map TestUser.pointsBalance).getD 0

/-- The refunds of an order, as the table of refunds has them. -/
def refundRows (run : RunSpace) (orderId : String) : Int :=
  ((run.refunds.filter (·.orderId = orderId)).map Refund.amount).sum

/-- The entries of the points ledger added up. -/
def ledgerSum (run : RunSpace) : Int := (run.ledger.map PointsLedgerEntry.amount).sum

/-- The rows, the ledger, the refunds and the events of the epoch agree. An
    identifier without a row counts as a row of zeros. -/
structure Books (run : RunSpace) : Prop where
  points_ledger : run.pointsBalance = run.ledgerSum
  points_events : run.pointsBalance = run.tally pointsWeight
  refund_rows : ∀ id,
    Table.valueAt Order.id Order.refundedAmount run.orders id = run.refundRows id
  refund_events : ∀ id,
    Table.valueAt Order.id Order.refundedAmount run.orders id = run.tally (refundWeight id)
  coupon_events : ∀ id,
    Table.valueAt Coupon.id Coupon.usageCount run.coupons id = run.tally (useWeight id)
  consumed_events : ∀ id,
    Table.valueAt Entitlement.id Entitlement.consumedQuantity run.entitlements id =
      run.tally (entitlementWeight .entitlementConsumed id)
  revoked_events : ∀ id,
    Table.valueAt Entitlement.id Entitlement.revokedQuantity run.entitlements id =
      run.tally (entitlementWeight .entitlementRevoked id)

namespace Books

variable {run : RunSpace}

/-! ## Updates that change no amount -/

/-- The books agree after an event if every column moves by the weight the event
    has in it. -/
theorem addEvent_of (h : Books run) (base : RunSpace) (sameEvents : base.epochEvents = run.epochEvents)
    {aggregateType : AggregateType} {aggregateId : String} {eventType : BusinessEventType}
    {payload : List (String × Json)} {key : String} {now : Nat} {event : BusinessEvent}
    (he : base.newEvent aggregateType aggregateId eventType payload key now = event)
    (ledger : base.pointsBalance - run.pointsBalance = base.ledgerSum - run.ledgerSum)
    (points : base.pointsBalance = run.pointsBalance + pointsWeight event)
    (refundRows : ∀ id, Table.valueAt Order.id Order.refundedAmount base.orders id -
      Table.valueAt Order.id Order.refundedAmount run.orders id =
        base.refundRows id - run.refundRows id)
    (refunds : ∀ id, Table.valueAt Order.id Order.refundedAmount base.orders id =
      Table.valueAt Order.id Order.refundedAmount run.orders id + refundWeight id event)
    (uses : ∀ id, Table.valueAt Coupon.id Coupon.usageCount base.coupons id =
      Table.valueAt Coupon.id Coupon.usageCount run.coupons id + useWeight id event)
    (consumed : ∀ id, Table.valueAt Entitlement.id Entitlement.consumedQuantity
      base.entitlements id = Table.valueAt Entitlement.id Entitlement.consumedQuantity
        run.entitlements id + entitlementWeight .entitlementConsumed id event)
    (revoked : ∀ id, Table.valueAt Entitlement.id Entitlement.revokedQuantity
      base.entitlements id = Table.valueAt Entitlement.id Entitlement.revokedQuantity
        run.entitlements id + entitlementWeight .entitlementRevoked id event) :
    Books (base.addEvent aggregateType aggregateId eventType payload key now) := by
  have tallied : ∀ weight, (base.addEvent aggregateType aggregateId eventType payload key
      now).tally weight = run.tally weight + weight event := by
    intro weight
    rw [tally_addEvent, he, tally, tally, sameEvents]
  refine ⟨?_, ?_, fun id => ?_, fun id => ?_, fun id => ?_, fun id => ?_, fun id => ?_⟩
  · exact (by have := h.points_ledger; omega : base.pointsBalance = base.ledgerSum)
  · rw [tallied, ← h.points_events]; exact points
  · have now := h.refund_rows id
    have moved := refundRows id
    rw [now] at moved
    exact sub_left_injective moved
  · rw [tallied, ← h.refund_events id]; exact refunds id
  · rw [tallied, ← h.coupon_events id]; exact uses id
  · rw [tallied, ← h.consumed_events id]; exact consumed id
  · rw [tallied, ← h.revoked_events id]; exact revoked id

theorem addEvent (h : Books run) (eventType : BusinessEventType) (silent : eventType.Silent)
    (aggregateType : AggregateType) (aggregateId : String) (payload : List (String × Json))
    (key : String) (now : Nat) :
    Books (run.addEvent aggregateType aggregateId eventType payload key now) := by
  simp only [BusinessEventType.Silent, List.mem_cons, not_or] at silent
  have points : pointsWeight (run.newEvent aggregateType aggregateId eventType payload key now) =
      0 := by
    cases eventType <;> simp_all [pointsWeight, newEvent]
  refine h.addEvent_of run rfl rfl (by simp) (by simp [points]) (by simp) ?_ ?_ ?_ ?_ <;>
    simp [refundWeight, useWeight, entitlementWeight, newEvent, silent]

theorem setUser (h : Books run) (user : TestUser) (hu : user.pointsBalance = run.pointsBalance) :
    Books (run.setUser user) :=
  ⟨hu.trans h.points_ledger, hu.trans h.points_events, h.refund_rows, h.refund_events,
    h.coupon_events, h.consumed_events, h.revoked_events⟩

/-- Replacing a row moves the column by what it moves the value of the row. -/
theorem valueAt_update {α : Type} {key : α → String} {rows : List α} {old : α} {f : α → Int}
    (row : α) {delta : Int} (hf : Table.find? key rows (key row) = some old) (moved : f row = f old + delta)
    (id : String) : Table.valueAt key f (Table.update key rows row) id =
      Table.valueAt key f rows id + if key row = id then delta else 0 := by
  rw [Table.valueAt_update hf]
  by_cases e : id = key row
  · rw [if_pos e, if_pos e.symm, e, Table.valueAt_of_find? hf, moved]
  · rw [if_neg e, if_neg fun e' => e e'.symm, add_zero]

theorem valueAt_update_same {α : Type} {key : α → String} {rows : List α} {old : α}
    {f : α → Int} (row : α) (hf : Table.find? key rows (key row) = some old) (same : f row = f old)
    (id : String) :
    Table.valueAt key f (Table.update key rows row) id = Table.valueAt key f rows id := by
  rw [valueAt_update row hf (by rw [same, add_zero]), ite_self, add_zero]

/-- Adding a row of zeros leaves the column as it is. -/
theorem valueAt_append {α : Type} {key : α → String} {rows : List α} {row : α} {f : α → Int}
    (fresh : Table.find? key rows (key row) = none) (zero : f row = 0) (id : String) :
    Table.valueAt key f (rows ++ [row]) id = Table.valueAt key f rows id := by
  rw [Table.valueAt_append fresh]
  split
  · rename_i e
    rw [e, zero, Table.valueAt, fresh]; rfl
  · rfl

theorem setOrder (h : Books run) (order : Order) {old : Order}
    (hf : Table.find? Order.id run.orders order.id = some old)
    (same : order.refundedAmount = old.refundedAmount) : Books (run.setOrder order) :=
  ⟨h.points_ledger, h.points_events,
    fun id => (valueAt_update_same _ hf same id).trans (h.refund_rows id),
    fun id => (valueAt_update_same _ hf same id).trans (h.refund_events id), h.coupon_events,
    h.consumed_events, h.revoked_events⟩

theorem setCoupon (h : Books run) (coupon : Coupon) {old : Coupon}
    (hf : Table.find? Coupon.id run.coupons coupon.id = some old)
    (same : coupon.usageCount = old.usageCount) : Books (run.setCoupon coupon) :=
  ⟨h.points_ledger, h.points_events, h.refund_rows, h.refund_events,
    fun id => (valueAt_update_same _ hf same id).trans (h.coupon_events id), h.consumed_events,
    h.revoked_events⟩

theorem setMembership (h : Books run) (membership : Membership) :
    Books (run.setMembership membership) :=
  ⟨h.points_ledger, h.points_events, h.refund_rows, h.refund_events, h.coupon_events,
    h.consumed_events, h.revoked_events⟩

theorem addMembership (h : Books run) (membership : Membership) :
    Books (run.addMembership membership) :=
  ⟨h.points_ledger, h.points_events, h.refund_rows, h.refund_events, h.coupon_events,
    h.consumed_events, h.revoked_events⟩

theorem addOrder (h : Books run) {order : Order}
    (fresh : Table.find? Order.id run.orders order.id = none) (zero : order.refundedAmount = 0) :
    Books (run.addOrder order) :=
  ⟨h.points_ledger, h.points_events,
    fun id => (valueAt_append fresh zero id).trans (h.refund_rows id),
    fun id => (valueAt_append fresh zero id).trans (h.refund_events id), h.coupon_events,
    h.consumed_events, h.revoked_events⟩

theorem addCoupon (h : Books run) {coupon : Coupon}
    (fresh : Table.find? Coupon.id run.coupons coupon.id = none) (zero : coupon.usageCount = 0) :
    Books (run.addCoupon coupon) :=
  ⟨h.points_ledger, h.points_events, h.refund_rows, h.refund_events,
    fun id => (valueAt_append fresh zero id).trans (h.coupon_events id), h.consumed_events,
    h.revoked_events⟩

theorem addEntitlement (h : Books run) {entitlement : Entitlement}
    (fresh : Table.find? Entitlement.id run.entitlements entitlement.id = none)
    (consumed : entitlement.consumedQuantity = 0) (revoked : entitlement.revokedQuantity = 0) :
    Books (run.addEntitlement entitlement) :=
  ⟨h.points_ledger, h.points_events, h.refund_rows, h.refund_events, h.coupon_events,
    fun id => (valueAt_append fresh consumed id).trans (h.consumed_events id),
    fun id => (valueAt_append fresh revoked id).trans (h.revoked_events id)⟩

/-! ## Blocks that move an amount -/

/-- Points move in the balance, in the ledger and in an event. -/
theorem points (h : Books run) {user : TestUser} {delta quantity : Int}
    {eventType : BusinessEventType} {payload : List (String × Json)}
    (hu : user.pointsBalance = run.pointsBalance)
    (hq : (Json.obj payload).get "amount" = .int quantity)
    (he : eventType = .pointsGranted ∧ delta = quantity ∨
      (eventType = .pointsRevoked ∨ eventType = .pointsRedeemed) ∧ delta = -quantity)
    (orderId : Option String) (entryType : LedgerEntryType) (ledgerKey key : String) (now : Nat) :
    Books (((run.setUser (user.addPoints delta)).addLedger user.id orderId entryType delta
      ledgerKey).addEvent .user user.id eventType payload key now) := by
  have balance : (user.addPoints delta).pointsBalance = run.pointsBalance + delta := by
    rw [TestUser.addPoints, hu]
  have ledger : (run.addLedger user.id orderId entryType delta ledgerKey).ledgerSum =
      run.ledgerSum + delta := by simp [ledgerSum, addLedger]
  have other : eventType ≠ .refundIssued ∧ eventType ≠ .couponUsed ∧
      eventType ≠ .entitlementConsumed ∧ eventType ≠ .entitlementRevoked := by
    rcases he with ⟨rfl, -⟩ | ⟨rfl | rfl, -⟩ <;> decide
  have same : ((run.setUser (user.addPoints delta)).addLedger user.id orderId entryType delta
      ledgerKey).epochEvents = run.epochEvents := rfl
  refine h.addEvent_of _ same rfl ?_ ?_ (fun _ => by simp [refundRows]) ?_ ?_ ?_ ?_
  · refine Eq.trans (b := delta) ?_ (Eq.symm ?_)
    · exact (congrArg (· - run.pointsBalance) balance).trans (by simp)
    · exact (congrArg (· - run.ledgerSum) ledger).trans (by simp)
  · refine balance.trans ?_
    rcases he with ⟨rfl, rfl⟩ | ⟨rfl | rfl, rfl⟩ <;>
      simp [pointsWeight, newEvent, BusinessEvent.quantity, hq]
  all_goals simp [refundWeight, useWeight, entitlementWeight, other]

/-- A refund: the order, the row of the refund and the event. -/
theorem refund (h : Books run) {order : Order} {amount : Amount} {user : TestUser}
    (hf : Table.find? Order.id run.orders order.id = some order)
    (hu : user.pointsBalance = run.pointsBalance) (nonneg : 0 ≤ amount.toInt)
    (numeric : Numeric amount.toInt) (key : String) (now : Nat) :
    Books (run.refunded user order amount key now) := by
  have column : ∀ id, Table.valueAt Order.id Order.refundedAmount
      (Table.update Order.id run.orders (order.refund amount.toInt)) id =
      Table.valueAt Order.id Order.refundedAmount run.orders id +
        if order.id = id then amount.toInt else 0 :=
    valueAt_update (order.refund amount.toInt) hf rfl
  have weight : ∀ id run', refundWeight id (newEvent run' .order order.id .refundIssued
      [("order_id", .str order.id), ("amount", .str amount.text)] key now) =
      if order.id = id then amount.toInt else 0 := by
    intro id run'
    have small : amount.cents < 10 ^ 28 := by
      have := numeric.1
      have := numeric.2
      have : amount.toInt.natAbs = amount.cents := by
        unfold Amount.toInt
        split <;> simp
      omega
    have text : money (.str amount.text) "amount" = .ok (amount, .cny) :=
      money_text nonneg small "amount"
    simp [refundWeight, newEvent, BusinessEvent.cents, Json.get, Json.get?, List.lookup, text]
  refine h.addEvent_of (((run.setUser (user.credit amount.toInt)).setOrder
    (order.refund amount.toInt)).addRefund _) rfl rfl ?_ ?_ (fun id => ?_) (fun id => ?_) ?_ ?_ ?_
  · exact (congrArg (· - run.pointsBalance) hu).trans (by simp [ledgerSum])
  · exact hu.trans (by simp [pointsWeight])
  · have rows : (((run.refunds ++ [Refund.mk (nextId run.refunds "refund") order.id amount.toInt
        key]).filter fun r : Refund => r.orderId = id).map Refund.amount).sum =
        run.refundRows id + if order.id = id then amount.toInt else 0 := by
      by_cases e : order.id = id <;> simp [refundRows, e]
    refine ((congrArg (· - _) (column id)).trans ?_).trans
      (congrArg (· - run.refundRows id) rows).symm
    ring
  · rw [weight]
    exact column id
  all_goals simp [useWeight, entitlementWeight]

/-- A coupon is used: the coupon and the event. -/
theorem used (h : Books run) {coupon : Coupon}
    (hf : Table.find? Coupon.id run.coupons coupon.id = some coupon) (orderId : String)
    (payload : List (String × Json)) (key : String) (now : Nat) :
    Books ((run.setCoupon (coupon.usedFor orderId)).addEvent .coupon coupon.id .couponUsed payload
      key now) := by
  have column := valueAt_update (f := Coupon.usageCount) (coupon.usedFor orderId) hf rfl
  refine h.addEvent_of (run.setCoupon _) rfl rfl ?_ ?_ (fun _ => ?_) ?_ (fun id => ?_) ?_ ?_
  · simp [pointsBalance, ledgerSum]
  · simp [pointsBalance, pointsWeight]
  · simp [refundRows]
  · simp [refundWeight]
  · simpa [useWeight] using column id
  all_goals simp [entitlementWeight]

/-- An entitlement is consumed: the entitlement and the event. -/
theorem consumed (h : Books run) {entitlement : Entitlement}
    (hf : Table.find? Entitlement.id run.entitlements entitlement.id = some entitlement)
    {quantity : Int} {payload : List (String × Json)}
    (hq : (Json.obj payload).get "quantity" = .int quantity) (key : String) (now : Nat) :
    Books ((run.setEntitlement (entitlement.consume quantity)).addEvent .entitlement
      entitlement.id .entitlementConsumed payload key now) := by
  have column := valueAt_update (f := Entitlement.consumedQuantity) (entitlement.consume quantity)
    hf rfl
  have same := valueAt_update_same (f := Entitlement.revokedQuantity)
    (entitlement.consume quantity) hf rfl
  refine h.addEvent_of (run.setEntitlement _) rfl rfl ?_ ?_ (fun _ => ?_) ?_ ?_ (fun id => ?_)
    fun id => ?_
  · simp [pointsBalance, ledgerSum]
  · simp [pointsBalance, pointsWeight]
  · simp [refundRows]
  · simp [refundWeight]
  · simp [useWeight]
  · simpa [entitlementWeight, BusinessEvent.quantity, hq] using column id
  · simpa [entitlementWeight] using same id

/-- What is available of an entitlement is revoked: the entitlement and the event. -/
theorem revoked (h : Books run) {entitlement : Entitlement}
    (hf : Table.find? Entitlement.id run.entitlements entitlement.id = some entitlement)
    {payload : List (String × Json)}
    (hq : (Json.obj payload).get "quantity" = .int entitlement.available) (key : String)
    (now : Nat) :
    Books ((run.setEntitlement entitlement.revokeAvailable).addEvent .entitlement entitlement.id
      .entitlementRevoked payload key now) := by
  have column := valueAt_update (f := Entitlement.revokedQuantity) entitlement.revokeAvailable
    hf rfl
  have same := valueAt_update_same (f := Entitlement.consumedQuantity)
    entitlement.revokeAvailable hf rfl
  refine h.addEvent_of (run.setEntitlement _) rfl rfl ?_ ?_ (fun _ => ?_) ?_ ?_ (fun id => ?_)
    fun id => ?_
  · simp [pointsBalance, ledgerSum]
  · simp [pointsBalance, pointsWeight]
  · simp [refundRows]
  · simp [refundWeight]
  · simp [useWeight]
  · simpa [entitlementWeight] using same id
  · simpa [entitlementWeight, BusinessEvent.quantity, hq] using column id

end Books

/-! ## Handlers -/

variable {run run' : RunSpace} {command : ActionCommand} {key : String} {now : Nat}
  {outcome : Outcome}

theorem pointsBalance_of_user {user : TestUser} (hu : run.user = some user) :
    user.pointsBalance = run.pointsBalance := by
  simp [pointsBalance, hu]

theorem useCoupon_books {order : Order} (h : run.useCoupon key now order = .ok run')
    (hb : Books run) : Books run' := by
  rcases useCoupon_ok h with ⟨-, rfl⟩ | ⟨coupon, -, hf, -, -, rfl⟩
  · exact hb
  · exact hb.used hf _ _ _ _

theorem releaseCoupon_books {order : Order} (h : run.releaseCoupon key now order = .ok run')
    (hb : Books run) : Books run' := by
  rcases releaseCoupon_ok h with rfl | ⟨coupon, -, hf, -, -, rfl⟩
  · exact hb
  · exact (hb.setCoupon coupon.released hf rfl).addEvent _ (by decide) ..

theorem grantPoints_books {user : TestUser} {order : Order} {points : Int} {ledgerKey : String}
    (h : run.grantPoints key now user order points ledgerKey = .ok run')
    (hu : user.pointsBalance = run.pointsBalance) (hb : Books run) : Books run' := by
  rw [grantPoints_ok h]
  exact hb.points hu (by simp [Json.get, Json.get?, List.lookup]) (.inl ⟨rfl, rfl⟩) ..

theorem refundPoints_books {user : TestUser} {order : Order} {amount : Int}
    (h : run.refundPoints key now user order amount = .ok run')
    (hu : user.pointsBalance = run.pointsBalance) (hb : Books run) : Books run' := by
  rcases refundPoints_ok h with ⟨-, rfl⟩ | ⟨-, -, h⟩ | ⟨-, -, h⟩
  · exact hb
  · exact grantPoints_books h hu hb
  · rcases revokePoints_ok h with ⟨-, rfl⟩ | ⟨delta, -, -, -, rfl⟩
    · exact hb
    · exact hb.points hu (by simp [Json.get, Json.get?, List.lookup]) (.inr ⟨.inl rfl, rfl⟩) ..

theorem restoreCoupon_books {order : Order} (h : run.restoreCoupon key now order = .ok run')
    (hb : Books run) : Books run' := by
  rcases restoreCoupon_ok h with rfl | ⟨coupon, -, -, hf, rfl⟩
  · exact hb
  · exact (hb.setCoupon coupon.givenBack hf rfl).addEvent _ (by decide) ..

theorem revokeEntitlement_books {allowed : Bool} {entitlement : Entitlement}
    (h : run.revokeEntitlement key now allowed entitlement = .ok run')
    (hf : Table.find? Entitlement.id run.entitlements entitlement.id = some entitlement)
    (hb : Books run) : Books run' := by
  rcases revokeEntitlement_ok h with ⟨-, rfl⟩ | ⟨-, -, rfl⟩
  · exact hb
  · exact hb.revoked hf (by simp [Json.get, Json.get?, List.lookup]) _ _

/-- Every handler keeps the books. -/
theorem handler_books [Python] (hs : run.Storable) (hs' : run'.Storable)
    (h : run.handler command key now = .ok (run', outcome)) (hb : Books run) : Books run' := by
  unfold handler at h
  split at h
  · obtain ⟨_, _, -, hu, rfl⟩ := createUser_ok h
    exact (hb.setUser _ (by simp [pointsBalance, hu])).addEvent _ (by decide) ..
  · obtain ⟨_, _, _, _, -, -, -, rfl⟩ := issueCoupon_ok h
    exact (hb.addCoupon (fresh_of_keyed hs'.coupons_keyed) rfl).addEvent _ (by decide) ..
  · obtain ⟨_, _, _, -, -, rfl⟩ := createOrder_ok h
    exact (hb.addOrder (fresh_of_keyed hs'.orders_keyed) rfl).addEvent _ (by decide) ..
  · obtain ⟨order, coupon, ho, hc, -, -, -, rfl⟩ := applyCoupon_ok h
    exact ((hb.setOrder (order.discountedBy coupon) ho rfl).setCoupon
      (coupon.reservedFor order.id) hc rfl).addEvent _ (by decide) ..
  · obtain ⟨order, user, r, -, ho, -, hu, -, -, hr, h⟩ := payOrder_ok h
    have points := pointsBalance_of_user hu
    have paid := useCoupon_books hr
      ((hb.setUser (user.pay order.price) points).setOrder order.captured ho rfl)
    have captured := paid.addEvent .paymentCaptured (by decide) .order order.id
      [("order_id", .str order.id), ("paid_amount", .str (amountText order.price))] key now
    rcases h with ⟨-, rfl⟩ | ⟨-, h⟩
    · exact captured
    · have hr' := useCoupon_rows hr
      have found : Table.find? Order.id r.orders order.id = some order.captured := by
        rw [hr'.2.1]
        simp [Table.find?_update, ho]
      refine grantPoints_books h ?_ (captured.setOrder
        (order.captured.withPoints (pointsFor order.price)) found rfl)
      simp [pointsBalance, hr'.1]
  · obtain ⟨order, r, ho, -, hr, rfl⟩ := cancelOrder_ok h
    have found : Table.find? Order.id r.orders order.id = some order := by
      rw [(releaseCoupon_rows hr).2.1, ho]
    exact ((releaseCoupon_books hr hb).setOrder (order.withStatus .cancelled) found
      rfl).addEvent _ (by decide) ..
  · obtain ⟨order, user, amount, r, -, ho, -, -, ha, -, hu, hr, h, hst⟩ := refundOrder_ok h
    have numeric : Numeric amount.toInt := hst.refunds
      ⟨nextId run.refunds "refund", order.id, amount.toInt, key⟩ (by simp [refunded])
    have points : (user.credit amount.toInt).pointsBalance =
        (run.refunded user order amount key now).pointsBalance := by simp [refunded, pointsBalance]
    exact restoreCoupon_books h (refundPoints_books hr points
      (hb.refund ho (pointsBalance_of_user hu) ha.le numeric key now))
  · obtain ⟨user, amount, hu, -, -, rfl⟩ := redeemPoints_ok h
    exact hb.points (pointsBalance_of_user hu) (by simp [Json.get, Json.get?, List.lookup])
      (.inr ⟨.inr rfl, rfl⟩) ..
  · obtain ⟨user, _, quantity, _, hu, -, -, -, -, rfl⟩ := activateMembership_ok h
    have points := pointsBalance_of_user hu
    exact ((((hb.setUser ((user.pay _).withMembership .active) points).addMembership
      _).addEntitlement (fresh_of_keyed hs'.entitlements_keyed) rfl rfl).addEvent _ (by decide)
      ..).addEvent _ (by decide) ..
  · obtain ⟨entitlement, quantity, hf, -, -, -, -, rfl⟩ := consumeEntitlement_ok h
    exact hb.consumed hf (by simp [Json.get, Json.get?, List.lookup]) _ _
  · obtain ⟨membership, user, entitlement, r, -, -, hu, he, h⟩ := cancelMembership_ok h
    have points := pointsBalance_of_user hu
    have found : Table.find? Entitlement.id run.entitlements entitlement.id = some entitlement :=
      Table.find?_of_mem hs.entitlements_keyed (Table.mem_of_find? he)
    rcases h with ⟨-, hr, rfl⟩ | ⟨hr, rfl⟩
    · exact (revokeEntitlement_books hr found ((hb.setUser ((user.credit _).withMembership
        .inactive) points).setMembership _)).addEvent _ (by decide) ..
    · exact (revokeEntitlement_books hr found ((hb.setUser (user.withMembership .inactive)
        points).setMembership _)).addEvent _ (by decide) ..
  · rw [inspectState_ok h]
    exact hb

theorem tally_useWeight (run : RunSpace) (couponId : String) :
    run.tally (useWeight couponId) = run.epochEvents.countP fun event =>
      event.eventType = .couponUsed ∧ event.aggregateId = couponId := by
  rw [tally]
  induction run.epochEvents with
  | nil => rfl
  | cons event events ih =>
    rw [List.map_cons, List.sum_cons, ih, List.countP_cons, useWeight]
    split <;> simp_all [add_comm]

/-- In every reachable run the books agree. -/
theorem Reachable.books [Python] (h : Reachable run) : Books run := by
  refine h.induction (fun request id => ?_) (fun run hr hb => ?_) ?_ (fun run _ _ hb => ?_)
  · constructor <;> simp [createRun, pointsBalance, ledgerSum, tally, epochEvents, Table.valueAt,
      Table.find?, refundRows]
  · have := hr.ordered.epochEvents_reset
    constructor <;> simp [pointsBalance, ledgerSum, tally, this, Table.valueAt, Table.find?,
      refundRows]
  · intro run run' command key now outcome hr hs' h hb
    exact handler_books hr.storable hs' h hb
  · exact ⟨hb.1, hb.2, hb.3, hb.4, hb.5, hb.6, hb.7⟩

/-- After every history, the ledger, the table of refunds and the events of the
    epoch add up to what the rows show. -/
theorem ledger_consistency [Python] (request : CreateRunRequest) (id : String)
    (history : List Op) :
    let run := (createRun request id).after history
    (∀ user ∈ run.user, user.pointsBalance = (run.ledger.map PointsLedgerEntry.amount).sum ∧
      user.pointsBalance = (run.epochEvents.map pointsWeight).sum) ∧
    (∀ order ∈ run.orders,
      order.refundedAmount =
        ((run.refunds.filter (·.orderId = order.id)).map Refund.amount).sum ∧
      order.refundedAmount = (run.epochEvents.map (refundWeight order.id)).sum) ∧
    (∀ coupon ∈ run.coupons, coupon.usageCount = run.epochEvents.countP fun event =>
      event.eventType = .couponUsed ∧ event.aggregateId = coupon.id) ∧
    (∀ entitlement ∈ run.entitlements,
      entitlement.consumedQuantity =
        (run.epochEvents.map (entitlementWeight .entitlementConsumed entitlement.id)).sum ∧
      entitlement.revokedQuantity =
        (run.epochEvents.map (entitlementWeight .entitlementRevoked entitlement.id)).sum) := by
  intro run
  have reachable : Reachable run := ⟨request, id, history, rfl⟩
  have books := reachable.books
  have keyed := reachable.storable
  refine ⟨fun user hu => ?_, fun order ho => ?_, fun coupon hc => ?_, fun entitlement he => ?_⟩
  · rw [pointsBalance_of_user hu]
    exact ⟨books.points_ledger, books.points_events⟩
  · rw [← Table.valueAt_of_find? (Table.find?_of_mem keyed.orders_keyed ho) Order.refundedAmount]
    exact ⟨books.refund_rows order.id, books.refund_events order.id⟩
  · rw [← tally_useWeight, ← books.coupon_events coupon.id,
      Table.valueAt_of_find? (Table.find?_of_mem keyed.coupons_keyed hc)]
  · have found := Table.find?_of_mem keyed.entitlements_keyed he
    constructor
    · rw [← Table.valueAt_of_find? found Entitlement.consumedQuantity]
      exact books.consumed_events entitlement.id
    · rw [← Table.valueAt_of_find? found Entitlement.revokedQuantity]
      exact books.revoked_events entitlement.id

end RunSpace

end RuleArena
