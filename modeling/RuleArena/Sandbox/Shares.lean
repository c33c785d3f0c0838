import RuleArena.Sandbox.Faithful
import RuleArena.Sandbox.Idempotency

/-!
# The points of orders

In a faithful environment the points granted for an order, as its row and the
events have them, are those of what was paid, and the points revoked, as the
ledger and the events have them, are the share of them that was refunded,
rounded down (`Order.pointsDue`). The share a refund computes in the decimal
context is exact (`targetRevoke_eq`), so a sequence of partial refunds revokes
what a single one would.

Since the revoked share is rounded down, the points that are kept are bounded by
what is kept of the payment rounded up (`reward_conserved`), not by the points
function of it, which rounds down (`reward_not_conserved`).
-/

namespace RuleArena

/-- The points to revoke of an order, refunded as far as it is. -/
def Order.pointsDue (order : Order) : Int :=
  order.pointsGranted * order.refundedAmount / order.paidAmount

/-- The points an event of a type moves for an order. -/
def orderPoints (eventType : BusinessEventType) (orderId : String) (event : BusinessEvent) : Int :=
  if event.eventType = eventType ∧ (Json.obj event.payload).get "order_id" = .str orderId then
    event.quantity "amount"
  else 0

/-- The share of the points in the decimal context. -/
theorem Context.share_eq {points refunded paid : Int} (hp : 0 < paid) (hp' : paid < 10 ^ 16)
    (hg : 0 ≤ points) (hg' : points < 2 ^ 31) (hr : 0 ≤ refunded) (hr' : refunded ≤ paid) :
    ⌊Context.div (Context.mul points (refunded / 100 : ℚ)) (paid / 100 : ℚ)⌋ =
      points * refunded / paid := by
  have product : 0 ≤ points * refunded := mul_nonneg hg hr
  have small : points * refunded ≤ 2 ^ 31 * paid :=
    mul_le_mul hg'.le hr' hr (by norm_num)
  have exact_mul : Context.mul points (refunded / 100 : ℚ) = ((points * refunded : ℤ) : ℚ) / 100 := by
    rw [Context.mul, show (points : ℚ) * (refunded / 100) = ((points * refunded : ℤ) : ℚ) / 100 by
      push_cast; ring]
    refine Context.round_cents ?_
    rw [abs_of_nonneg product]
    omega
  rw [exact_mul, Context.div, div_div_div_cancel_right₀ (by norm_num)]
  exact Context.floor_round hp hp'.le product (by omega)

namespace RunSpace

variable {run run' : RunSpace} {command : ActionCommand} {key : String} {now : Nat}
  {outcome : Outcome}

/-- The points of an order are those of what was paid, where the scenario has points. -/
theorem Reachable.pointsGranted_eq [Python] (h : Reachable run) :
    ∀ order ∈ run.orders, order.pointsGranted =
      if run.scenarioType = .refundPoints then pointsFor order.paidAmount else 0 := by
  refine h.induction (P := fun run => ∀ order ∈ run.orders, order.pointsGranted =
      if run.scenarioType = .refundPoints then pointsFor order.paidAmount else 0)
    (by simp [createRun]) (by simp) ?_ fun _ _ _ ih => ih
  intro run run' command key now outcome hr _ h all
  rw [(handler_frame h).scenarioType]
  refine handler_orders h all ?_ ?_ ?_ ?_ ?_ ?_
  · intros
    simp [pointsFor]
  · intro order _ _ _ _ _ ho
    exact ho
  · intro order hm hs _ hsc _
    simp [hsc, ((hr.orders_wellFormed order hm).of_pending hs).2.2]
  · intro order _ _ _ hsc _
    simp [hsc]
  · intro order _ _ ho
    exact ho
  · intro order _ _ _ _ _ ho
    exact ho

/-- The points a refund asks for are the share that is due. -/
theorem targetRevoke_eq {order : Order} (storable : order.Storable) (hp : 0 < order.paidAmount)
    (hg : 0 ≤ order.pointsGranted) (hr : 0 ≤ order.refundedAmount)
    (hr' : order.refundedAmount ≤ order.paidAmount) :
    targetRevoke order (order.refundedAmount ≥ order.paidAmount) = order.pointsDue := by
  unfold targetRevoke Order.pointsDue
  split
  · rename_i full
    have full : order.refundedAmount = order.paidAmount :=
      le_antisymm hr' (of_decide_eq_true full)
    rw [full, Int.mul_ediv_cancel _ hp.ne']
  · exact Context.share_eq hp storable.2.2.1.2 hg storable.2.2.2.2.2 hr hr'

/-! ## The books of points -/

/-- The points of each order, as its row, the events and the ledger have them. -/
structure Shares (run : RunSpace) : Prop where
  granted : ∀ id, run.tally (orderPoints .pointsGranted id) =
    Table.valueAt Order.id Order.pointsGranted run.orders id
  revoked : ∀ id, run.tally (orderPoints .pointsRevoked id) =
    Table.valueAt Order.id Order.pointsDue run.orders id
  ledger : ∀ id, run.alreadyRevoked id = Table.valueAt Order.id Order.pointsDue run.orders id

namespace Shares

/-- Every record moves by the same points. -/
theorem moves (h : Shares run) (granted revoked : String → Int)
    (events : ∀ id, run'.tally (orderPoints .pointsGranted id) =
        run.tally (orderPoints .pointsGranted id) + granted id ∧
      run'.tally (orderPoints .pointsRevoked id) =
        run.tally (orderPoints .pointsRevoked id) + revoked id)
    (ledger : ∀ id, run'.alreadyRevoked id = run.alreadyRevoked id + revoked id)
    (orders : ∀ id, Table.valueAt Order.id Order.pointsGranted run'.orders id =
        Table.valueAt Order.id Order.pointsGranted run.orders id + granted id ∧
      Table.valueAt Order.id Order.pointsDue run'.orders id =
        Table.valueAt Order.id Order.pointsDue run.orders id + revoked id) : Shares run' :=
  ⟨fun id => by rw [(events id).1, (orders id).1, h.granted],
    fun id => by rw [(events id).2, (orders id).2, h.revoked],
    fun id => by rw [ledger id, (orders id).2, h.ledger]⟩

theorem of_rows (h : Shares run) (orders : run'.orders = run.orders := by rfl)
    (ledger : run'.ledger = run.ledger := by rfl)
    (events : run'.epochEvents = run.epochEvents := by rfl) : Shares run' := by
  refine h.moves 0 0 (fun id => ?_) (fun id => ?_) fun id => ?_
  · simp [tally, events]
  · simp [alreadyRevoked, ledger]
  · simp [orders]

/-- An event that moves no points of an order. -/
theorem addEvent (h : Shares run) (aggregateType : AggregateType) (aggregateId : String)
    (eventType : BusinessEventType) (payload : List (String × Json)) (key : String) (now : Nat)
    (other : eventType ≠ .pointsGranted ∧ eventType ≠ .pointsRevoked := by decide) :
    Shares (run.addEvent aggregateType aggregateId eventType payload key now) := by
  refine h.moves 0 0 (fun id => ?_) (fun id => ?_) fun id => ?_
  · simp [tally_addEvent, orderPoints, other]
  · simp [alreadyRevoked]
  · simp

theorem setOrder (h : Shares run) (order : Order) {old : Order}
    (hf : Table.find? Order.id run.orders order.id = some old)
    (granted : order.pointsGranted = old.pointsGranted)
    (due : order.pointsDue = old.pointsDue) : Shares (run.setOrder order) := by
  refine h.moves 0 0 (fun id => ?_) (fun id => ?_) fun id => ?_
  · exact ⟨(add_zero _).symm, (add_zero _).symm⟩
  · exact (add_zero _).symm
  · exact ⟨(Books.valueAt_update_same _ hf granted id).trans (add_zero _).symm,
      (Books.valueAt_update_same _ hf due id).trans (add_zero _).symm⟩

theorem addOrder (h : Shares run) (order : Order)
    (fresh : Table.find? Order.id run.orders order.id = none) (zero : order.pointsGranted = 0) :
    Shares (run.addOrder order) := by
  have due : order.pointsDue = 0 := by simp [Order.pointsDue, zero]
  refine h.moves 0 0 (fun id => ?_) (fun id => ?_) fun id => ?_
  · exact ⟨(add_zero _).symm, (add_zero _).symm⟩
  · exact (add_zero _).symm
  · exact ⟨(Books.valueAt_append fresh zero id).trans (add_zero _).symm,
      (Books.valueAt_append fresh due id).trans (add_zero _).symm⟩

theorem useCoupon {order : Order} (h : run.useCoupon key now order = .ok run') (hs : Shares run) :
    Shares run' := by
  rcases useCoupon_ok h with ⟨-, rfl⟩ | ⟨_, -, -, -, -, rfl⟩
  · exact hs
  · exact Shares.addEvent (hs.of_rows) ..

theorem releaseCoupon {order : Order} (h : run.releaseCoupon key now order = .ok run')
    (hs : Shares run) : Shares run' := by
  rcases releaseCoupon_ok h with rfl | ⟨_, -, -, -, -, rfl⟩
  · exact hs
  · exact Shares.addEvent (hs.of_rows) ..

theorem revokeEntitlement {allowed : Bool} {entitlement : Entitlement}
    (h : run.revokeEntitlement key now allowed entitlement = .ok run') (hs : Shares run) :
    Shares run' := by
  rcases revokeEntitlement_ok h with ⟨-, rfl⟩ | ⟨-, -, rfl⟩
  · exact hs
  · exact Shares.addEvent (hs.of_rows) ..

/-- Points are granted for an order: its row, the ledger and the event. -/
theorem grant (h : Shares run) (order : Order) {old : Order}
    (hf : Table.find? Order.id run.orders order.id = some old) (none : old.pointsGranted = 0)
    (unrefunded : order.refundedAmount = 0) (user : TestUser) (ledgerKey key : String) (now : Nat) :
    Shares ((((run.setOrder order).setUser (user.addPoints order.pointsGranted)).addLedger user.id
      (some order.id) .grant order.pointsGranted ledgerKey).addEvent .user user.id .pointsGranted
      [("user_id", .str user.id), ("order_id", .str order.id), ("amount", .int order.pointsGranted)]
      key now) := by
  have due : order.pointsDue = old.pointsDue := by
    simp [Order.pointsDue, unrefunded, none]
  refine h.moves (fun id => if order.id = id then order.pointsGranted else 0) 0 (fun id => ?_)
    (fun id => ?_) fun id => ?_
  · rw [tally_addEvent, tally_addEvent]
    refine ⟨congrArg (run.tally _ + ·) ?_, congrArg (run.tally _ + ·) ?_⟩ <;>
      simp [orderPoints, BusinessEvent.quantity, Json.get, Json.get?, List.lookup]
  · simp [alreadyRevoked]
  · exact ⟨Books.valueAt_update order hf (by rw [none, zero_add]) id,
      (Books.valueAt_update_same order hf due id).trans (add_zero _).symm⟩

/-- The points of an order are revoked as far as it is refunded: its row, the
    ledger and the event. -/
theorem refund (h : Shares run) {order : Order} {user user' : TestUser} {amount : Amount}
    (hf : Table.find? Order.id run.orders order.id = some order) (hp : 0 < order.paidAmount)
    (hg : 0 ≤ order.pointsGranted) (ha : 0 ≤ amount.toInt)
    (due : targetRevoke (order.refund amount.toInt)
      ((order.refund amount.toInt).refundedAmount ≥ (order.refund amount.toInt).paidAmount) =
        (order.refund amount.toInt).pointsDue)
    (hr : (run.refunded user order amount key now).revokePoints key now user'
      (order.refund amount.toInt) ((order.refund amount.toInt).refundedAmount ≥
        (order.refund amount.toInt).paidAmount) = .ok run') : Shares run' := by
  have column : ∀ id, Table.valueAt Order.id Order.pointsDue
      (Table.update Order.id run.orders (order.refund amount.toInt)) id =
      Table.valueAt Order.id Order.pointsDue run.orders id + if order.id = id then
        (order.refund amount.toInt).pointsDue - order.pointsDue else 0 :=
    Books.valueAt_update (order.refund amount.toInt) hf (by ring)
  have granted := Books.valueAt_update_same (f := Order.pointsGranted) (order.refund amount.toInt)
    hf rfl
  have already : (run.refunded user order amount key now).alreadyRevoked order.id =
      order.pointsDue := by
    rw [← Table.valueAt_of_find? hf Order.pointsDue, ← h.ledger]
    rfl
  have grows : order.pointsDue ≤ (order.refund amount.toInt).pointsDue :=
    Int.ediv_le_ediv hp (mul_le_mul_of_nonneg_left (le_add_of_nonneg_right ha) hg)
  have tallied : ∀ weight : BusinessEvent → Int,
      (∀ event, event.eventType = .refundIssued → weight event = 0) →
      (run.refunded user order amount key now).tally weight = run.tally weight := by
    intro weight none
    rw [refunded, tally_addEvent, none _ rfl, add_zero]
    rfl
  rcases revokePoints_ok hr with ⟨enough, rfl⟩ | ⟨delta, e, -, -, rfl⟩
  · -- Nothing is due that was not revoked before.
    have same : (order.refund amount.toInt).pointsDue = order.pointsDue :=
      le_antisymm (by rw [← due, ← already]; exact enough) grows
    refine h.moves 0 0 (fun id => ?_) (fun id => (add_zero _).symm) fun id => ?_
    · rw [tallied _ fun _ e => by simp [orderPoints, e],
        tallied _ fun _ e => by simp [orderPoints, e]]
      exact ⟨(add_zero _).symm, (add_zero _).symm⟩
    · exact ⟨(granted id).trans (add_zero _).symm, (column id).trans (by simp [same])⟩
  · have e : delta = (order.refund amount.toInt).pointsDue - order.pointsDue := by
      rw [e, ← due, ← already]
      rfl
    refine h.moves 0 (fun id => if order.id = id then delta else 0) (fun id => ?_) (fun id => ?_)
      fun id => ?_
    · rw [tally_addEvent, tally_addEvent]
      have kept : ∀ eventType, eventType ≠ .refundIssued →
          (run.refunded user order amount key now).tally (orderPoints eventType id) =
            run.tally (orderPoints eventType id) := fun _ ne =>
        tallied _ fun _ e => by simp [orderPoints, e, ne.symm]
      refine ⟨congrArg₂ (· + ·) (kept _ (by decide)) ?_, congrArg₂ (· + ·) (kept _ (by decide)) ?_⟩ <;>
        simp [orderPoints, BusinessEvent.quantity, Json.get, Json.get?, List.lookup]
    · have rows : (run.refunded user order amount key now).ledger = run.ledger := rfl
      by_cases hid : order.id = id
      · simp [alreadyRevoked, rows, hid]
        ring
      · simp [alreadyRevoked, rows, hid]
    · refine ⟨(granted id).trans (add_zero _).symm, ?_⟩
      rw [e]
      exact column id

end Shares

/-- A handler in a faithful environment keeps the points of orders. -/
theorem handler_shares [Python] (hr : Reachable run) (faithful : run.profile.Faithful)
    (hs' : run'.Storable) (h : run.handler command key now = .ok (run', outcome))
    (hs : Shares run) : Shares run' := by
  have wf := hr.orders_wellFormed
  unfold handler at h
  split at h
  · obtain ⟨_, _, -, -, rfl⟩ := createUser_ok h
    exact Shares.addEvent hs.of_rows ..
  · obtain ⟨_, _, _, _, -, -, -, rfl⟩ := issueCoupon_ok h
    exact Shares.addEvent hs.of_rows ..
  · obtain ⟨_, _, _, -, -, rfl⟩ := createOrder_ok h
    exact (hs.addOrder _ (fresh_of_keyed hs'.orders_keyed) rfl).addEvent ..
  · obtain ⟨order, coupon, ho, -, -, -, -, rfl⟩ := applyCoupon_ok h
    exact Shares.addEvent ((hs.setOrder (order.discountedBy coupon) ho rfl rfl).of_rows) ..
  · obtain ⟨order, user, r, -, ho, hst, hu, hp, -, hr', h⟩ := payOrder_ok h
    have unpaid := (wf order (Table.mem_of_find? ho)).of_pending hst
    have set : Shares (run.setOrder order.captured) :=
      hs.setOrder order.captured ho rfl (by simp [Order.pointsDue, unpaid])
    have used : Shares r := Shares.useCoupon hr' set.of_rows
    rcases h with ⟨-, rfl⟩ | ⟨-, h⟩
    · exact used.addEvent ..
    · have found : Table.find? Order.id r.orders order.id = some order.captured := by
        rw [(useCoupon_rows hr').2.1]
        simp [Table.find?_update, ho]
      rw [grantPoints_ok h]
      exact (used.addEvent ..).grant (order.captured.withPoints (pointsFor order.price)) found
        unpaid.2.2 unpaid.2.1 ..
  · obtain ⟨order, r, ho, -, hr, rfl⟩ := cancelOrder_ok h
    have found : Table.find? Order.id r.orders order.id = some order := by
      rw [(releaseCoupon_rows hr).2.1, ho]
    exact ((Shares.releaseCoupon hr hs).setOrder (order.withStatus .cancelled) found rfl
      rfl).addEvent ..
  · obtain ⟨order, user, amount, r, -, ho, hst, -, ha, hc, hu, hr', h, hst'⟩ := refundOrder_ok h
    have hm := Table.mem_of_find? ho
    have open_ := (wf order hm).of_refundable hst
    have points := hr.pointsGranted_eq order hm
    rw [refundCeiling_of_faithful faithful] at hc
    have profile : (run.refunded user order amount key now).profile = run.profile :=
      refunded_frame.profile
    -- The coupon does not come back.
    rcases restoreCoupon_ok h with rfl | ⟨_, hp, -⟩
    · rcases refundPoints_ok hr' with ⟨hsc, rfl⟩ | ⟨-, hp, -⟩ | ⟨hsc, -, hr'⟩
      · have none : order.pointsGranted = 0 := points.trans (if_neg hsc)
        have set := hs.setOrder (order.refund amount.toInt) ho rfl
          (by simp [Order.pointsDue, none])
        exact Shares.addEvent set.of_rows ..
      · rw [profile] at hp
        simp [faithful.flags] at hp
      · have nonneg : 0 ≤ order.pointsGranted := by
          rw [points]
          split
          · exact Int.ediv_nonneg open_.1.le (by norm_num)
          · exact le_rfl
        have stored : (order.refund amount.toInt).Storable := hst'.orders _ (by
          rw [refunded]
          exact Table.mem_update_self ho)
        refine hs.refund ho open_.1 nonneg ha.le ?_ hr'
        refine targetRevoke_eq stored open_.1 nonneg ?_ ?_ <;>
          simp only [Order.refund_refundedAmount, Order.refund_paidAmount] <;> omega
    · rw [(refundPoints_frame hr').profile, profile] at hp
      simp [faithful.flags] at hp
  · obtain ⟨user, amount, -, -, -, rfl⟩ := redeemPoints_ok h
    have redeemed : Shares ((run.setUser (user.addPoints (-amount))).addLedger user.id none .redeem
        (-amount) (key ++ ":points-redeem")) :=
      hs.moves 0 0 (fun _ => ⟨(add_zero _).symm, (add_zero _).symm⟩)
        (fun _ => by simp [alreadyRevoked]) fun _ => ⟨(add_zero _).symm, (add_zero _).symm⟩
    exact redeemed.addEvent ..
  · obtain ⟨_, _, _, _, -, -, -, -, -, rfl⟩ := activateMembership_ok h
    exact Shares.addEvent (Shares.addEvent hs.of_rows ..) ..
  · obtain ⟨_, _, -, -, -, -, -, rfl⟩ := consumeEntitlement_ok h
    exact Shares.addEvent hs.of_rows ..
  · obtain ⟨_, _, _, r, -, -, -, -, ⟨-, hr, rfl⟩ | ⟨hr, rfl⟩⟩ := cancelMembership_ok h
    all_goals exact (Shares.revokeEntitlement hr hs.of_rows).addEvent ..
  · rw [inspectState_ok h]
    exact hs

theorem Reachable.shares [Python] (h : Reachable run) (faithful : run.profile.Faithful) :
    Shares run := by
  refine h.faithful_induction (fun _ _ => ?_) (fun run hr _ => ?_)
    (fun _ _ _ _ _ _ hr hf hs' h ih => handler_shares hr hf hs' h ih)
    (fun _ _ _ ih => ih.of_rows) faithful
  · exact ⟨fun _ => rfl, fun _ => rfl, fun _ => rfl⟩
  · have none := hr.ordered.epochEvents_reset
    exact ⟨fun _ => by simp [tally, none, Table.valueAt, Table.find?],
      fun _ => by simp [tally, none, Table.valueAt, Table.find?],
      fun _ => by simp [alreadyRevoked, Table.valueAt, Table.find?]⟩

/-! ## Rewards -/

/-- What is kept of the points is at most what is kept of the payment, rounded up. -/
theorem kept_points_le {paid refunded : ℤ} (hp : 0 < paid) (hr : refunded ≤ paid) :
    paid / 100 - paid / 100 * refunded / paid ≤ ⌈((paid - refunded : ℤ) : ℚ) / 100⌉ := by
  have granted : paid / 100 * 100 ≤ paid := Int.ediv_mul_le paid (by norm_num)
  have share : paid / 100 * refunded < (paid / 100 * refunded / paid + 1) * paid :=
    Int.lt_ediv_add_one_mul_self _ hp
  have kept : 100 * (paid / 100 - paid / 100 * refunded / paid - 1) < paid - refunded := by
    refine Int.lt_of_mul_lt_mul_left (a := paid) ?_ hp.le
    calc paid * (100 * (paid / 100 - paid / 100 * refunded / paid - 1))
        < 100 * (paid / 100 * paid - paid / 100 * refunded) := by linarith
      _ = paid / 100 * 100 * (paid - refunded) := by ring
      _ ≤ paid * (paid - refunded) := mul_le_mul_of_nonneg_right granted (sub_nonneg.2 hr)
  rw [Int.le_ceil_iff, lt_div_iff₀ (by norm_num)]
  have kept : (100 : ℚ) * ((paid / 100 - paid / 100 * refunded / paid : ℤ) - 1) <
      (paid - refunded : ℤ) := by exact_mod_cast kept
  linarith

/-- In a faithful environment with points, the points that an order was granted and
    that were not revoked are at most what is kept of its payment, rounded up. -/
theorem reward_conserved [Python] (request : CreateRunRequest) (id : String) (history : List Op)
    (scenario : request.scenarioType = .refundPoints)
    (faithful : (createRun request id).profile.Faithful) :
    let run := (createRun request id).after history
    ∀ order ∈ run.orders, 0 < order.paidAmount →
      order.pointsGranted - run.alreadyRevoked order.id ≤
        ⌈((order.paidAmount - order.refundedAmount : ℤ) : ℚ) / 100⌉ := by
  intro run order hm paid
  have reachable : Reachable run := ⟨request, id, history, rfl⟩
  have created := created_after (createRun request id) history
  have faithful : run.profile.Faithful := created.2.1 ▸ faithful
  have granted : order.pointsGranted = order.paidAmount / 100 :=
    (reachable.pointsGranted_eq order hm).trans (if_pos (created.2.2.trans scenario))
  have revoked : run.alreadyRevoked order.id = order.pointsDue :=
    ((reachable.shares faithful).ledger order.id).trans
      (Table.valueAt_of_find? (Table.find?_of_mem reachable.storable.orders_keyed hm) _)
  rw [revoked, Order.pointsDue, granted]
  exact kept_points_le paid (reachable.refunded_le_paid faithful order hm)

end RunSpace

def createOddOrderCommand : ActionCommand :=
  { createOrderCommand with arguments := [("amount", .str "1.99")] }

def refundOddOrderCommand : ActionCommand :=
  { refundOrderCommand with arguments := [("amount", .str "1.00")] }

/-- An order of 1.99 that is paid for and of which 1.00 is refunded. -/
def oddHistory : List Op :=
  [.execute createUserCommand "" 1, .execute createOddOrderCommand "" 2,
    .execute payOrderCommand "" 3, .execute refundOddOrderCommand "" 4]

/-- The rule at work: of the one point granted for 1.99 none is revoked with 1.00. -/
theorem reward_conserved_odd :
    let _ := Python.transparent
    let run := (createRun { scenarioType := .refundPoints } "run").after oddHistory
    ∃ order ∈ run.orders, order.pointsGranted - run.alreadyRevoked order.id ≤
      ⌈((order.paidAmount - order.refundedAmount : ℤ) : ℚ) / 100⌉ := by
  intro _ run
  have found : (run.orders.find? fun order => 0 < order.paidAmount).isSome = true := by
    decide +kernel
  obtain ⟨order, ho⟩ := Option.isSome_iff_exists.1 found
  refine ⟨order, List.mem_of_find?_eq_some ho, ?_⟩
  exact RunSpace.reward_conserved { scenarioType := .refundPoints } "run" oddHistory rfl rfl order
    (List.mem_of_find?_eq_some ho) (by simpa using List.find?_some ho)

/-- The point that is kept is more than the points function of the 0.99 kept of the
    payment. -/
theorem reward_not_conserved :
    let _ := Python.transparent
    let run := (createRun { scenarioType := .refundPoints } "run").after oddHistory
    ∃ order ∈ run.orders, 0 < order.paidAmount ∧
      pointsFor (order.paidAmount - order.refundedAmount) <
        order.pointsGranted - run.alreadyRevoked order.id := by
  decide +kernel

end RuleArena
