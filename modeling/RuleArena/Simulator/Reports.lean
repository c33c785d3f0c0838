import RuleArena.Oracle.Attribution
import RuleArena.Oracle.Statuses
import RuleArena.Simulator.Readings
import RuleArena.Simulator.Snapshots

/-!
# Simulator states before the oracle

The worker shows the oracle the states of the simulator under the names of the
simulator's own fields. The oracle looks for others: it finds no identifier of
an order or of a membership, and no quantities of an entitlement. Most checks do
without them. Two do not: without identifiers the orders of all snapshots have
one history together, and a membership that ended has no entitlement. A report
is the one for the same states under the names of the sandbox exactly if neither
shows (`reports_agree`).
-/

namespace RuleArena

namespace Oracle

/-! ## Two checks that end alike -/

/-- Two checks end with the same status. -/
def Alike (x y : Except Exit Verdict) : Prop :=
  ∃ status, statusOf x = .ok status ∧ statusOf y = .ok status

/-- Two computations find something bad, or neither does. -/
def Matching (x y : Except Exit (List Json)) : Prop :=
  ∃ bad bad', x = .ok bad ∧ y = .ok bad' ∧ (bad = [] ↔ bad' = [])

section Alike

variable {α : Type}

theorem Matching.pure {bad bad' : List Json} (h : bad = [] ↔ bad' = []) :
    Matching (pure bad) (pure bad') := ⟨bad, bad', rfl, rfl, h⟩

/-- What is bad of the same items under different names. -/
theorem Matching.collect {f g : Json → Except Exit (List Json)} {x y : α → Json} {items : List α}
    (h : ∀ a ∈ items, Matching (f (x a)) (g (y a))) :
    Matching (Oracle.collect f (items.map x)) (Oracle.collect g (items.map y)) := by
  induction items with
  | nil => exact ⟨[], [], rfl, rfl, Iff.rfl⟩
  | cons a items ih =>
    obtain ⟨bad, bad', hf, hg, same⟩ := h a List.mem_cons_self
    obtain ⟨rest, rest', hfs, hgs, sames⟩ := ih fun b hb => h b (List.mem_cons_of_mem _ hb)
    refine ⟨bad ++ rest, bad' ++ rest', ?_, ?_, ?_⟩
    · simp [Oracle.collect, hf, hfs]
    · simp [Oracle.collect, hg, hgs]
    · simp [same, sames]

theorem Matching.ite {c c' : Prop} [Decidable c] [Decidable c'] {bad bad' : Json} (h : c ↔ c') :
    Matching (if c then return [bad] else return []) (if c' then return [bad'] else return []) := by
  by_cases hc : c
  · rw [if_pos hc, if_pos (h.1 hc)]
    exact .pure (by simp)
  · rw [if_neg hc, if_neg (h.not.1 hc)]
    exact .pure Iff.rfl

/-- Two checks that fail their first condition together. -/
theorem alike_ensure {c c' : Prop} [Decidable c] [Decidable c'] {verdict : Verdict}
    {f g : Unit → Except Exit Verdict} (h : c ↔ c') (rest : c → Alike (f ()) (g ())) :
    Alike (ensure c (.verdict verdict) >>= f) (ensure c' (.verdict verdict) >>= g) := by
  by_cases hc : c
  · rw [Checked.ensure_of_pos hc, Checked.ensure_of_pos (h.1 hc)]
    exact rest hc
  · rw [Checked.ensure_of_neg hc, Checked.ensure_of_neg (h.not.1 hc)]
    exact ⟨verdict.status, rfl, rfl⟩

theorem alike_conclude_pure {bad bad' : List Json} (same : bad = [] ↔ bad' = [])
    {violated satisfied : String} {evidence evidence' : List (String × Json)}
    {actions events : List Json} :
    Alike (pure (conclude bad violated satisfied evidence actions events))
      (pure (conclude bad' violated satisfied evidence' actions events)) := by
  refine ⟨if bad = [] then .satisfied else .violated, ?_, ?_⟩
  · exact congrArg _ (conclude_status ..)
  · simp only [same]
    exact congrArg _ (conclude_status ..)

/-- Two checks that conclude from what they found. -/
theorem alike_conclude {x y : Except Exit (List Json)} (h : Matching x y)
    {violated satisfied : String} {evidence evidence' : List Json → List (String × Json)}
    {actions events : List Json} :
    Alike (x >>= fun bad => pure (conclude bad violated satisfied (evidence bad) actions events))
      (y >>= fun bad =>
        pure (conclude bad violated satisfied (evidence' bad) actions events)) := by
  obtain ⟨bad, bad', rfl, rfl, same⟩ := h
  exact alike_conclude_pure same

end Alike

/-! ## Reading by name -/

section Reading

variable [Python] {state : SimulationState} {states : List SimulationState}

theorem items_normalized (state : SimulationState) :
    items state.snapshot "users" =
      some ((orderById SimUser.userId state.users).map SimUser.normalized) ∧
    items state.snapshot "coupons" =
      some ((orderById SimCoupon.couponId state.coupons).map SimCoupon.normalized) ∧
    items state.snapshot "orders" =
      some ((orderById SimOrder.orderId state.orders).map SimOrder.normalized) ∧
    items state.snapshot "memberships" = some
      ((orderById SimMembership.membershipId state.memberships).map SimMembership.normalized) ∧
    items state.snapshot "entitlements" = some
      ((orderById SimEntitlement.entitlementId state.entitlements).map
        SimEntitlement.normalized) := by
  simp [items, SimulationState.snapshot, SimulationState.normalized, Json.get, Json.get?,
    List.lookup, Json.isObj, SimUser.normalized, SimCoupon.normalized, SimOrder.normalized,
    SimMembership.normalized, SimEntitlement.normalized]

theorem items_inSandbox (state : SimulationState) :
    items state.sandboxSnapshot "users" =
      some ((orderById SimUser.userId state.users).map SimUser.inSandbox) ∧
    items state.sandboxSnapshot "coupons" =
      some ((orderById SimCoupon.couponId state.coupons).map SimCoupon.inSandbox) ∧
    items state.sandboxSnapshot "orders" =
      some ((orderById SimOrder.orderId state.orders).map SimOrder.inSandbox) ∧
    items state.sandboxSnapshot "memberships" = some
      ((orderById SimMembership.membershipId state.memberships).map SimMembership.inSandbox) ∧
    items state.sandboxSnapshot "entitlements" = some
      ((orderById SimEntitlement.entitlementId state.entitlements).map
        SimEntitlement.inSandbox) := by
  simp [items, SimulationState.sandboxSnapshot, SimulationState.inSandbox, Json.get, Json.get?,
    List.lookup, Json.isObj, SimUser.inSandbox, SimCoupon.inSandbox, SimOrder.inSandbox,
    SimMembership.inSandbox, SimEntitlement.inSandbox]

theorem lastItems_normalized (last : states.getLast? = some state) (name : String) :
    lastItems (states.map SimulationState.snapshot) name = items state.snapshot name := by
  rw [lastItems, List.getLast?_map, last]
  rfl

theorem lastItems_inSandbox (last : states.getLast? = some state) (name : String) :
    lastItems (states.map SimulationState.sandboxSnapshot) name =
      items state.sandboxSnapshot name := by
  rw [lastItems, List.getLast?_map, last]
  rfl

omit [Python] in
theorem decimal_amountOnceSet (set : Bool) {cents : Int} (unset : set = false → cents = 0)
    (small : |cents| < 10 ^ 28) :
    ∃ d, decimal (.str (amountOnceSet set cents)) = some d ∧ d.value = cents / 100 := by
  cases set with
  | true => exact decimal_text small
  | false =>
    rw [unset rfl]
    exact ⟨.finite false 0 0, by decide, by simp [PyDecimal.value]⟩

omit [Python] in
theorem simOrder_get (order : SimOrder) :
    order.normalized.get "paid_amount" =
      .str (amountOnceSet (order.status ≠ .created) order.paidAmount) ∧
    order.normalized.get "refunded_amount" =
      .str (amountOnceSet (order.refundCount ≠ 0) order.refundedAmount) ∧
    order.inSandbox.get "paid_amount" = .str (amountText order.paidAmount) ∧
    order.inSandbox.get "refunded_amount" = .str (amountText order.refundedAmount) := by
  simp [SimOrder.normalized, SimOrder.inSandbox, Json.get, Json.get?, List.lookup]

omit [Python] in
theorem simOrder_points (order : SimOrder) :
    getOr order.normalized "points_granted" (.int 0) = .int order.pointsGranted ∧
    getOr order.inSandbox "points_granted" (.int 0) = .int order.pointsGranted := by
  simp [SimOrder.normalized, SimOrder.inSandbox, Json.get?, getOr, List.lookup]

omit [Python] in
/-- The amounts of an order are read alike under both names. -/
theorem simOrder_amounts {simulator : ReferenceSimulator} {order : SimOrder}
    (row : order.Readable simulator) :
    ∃ paid refunded paid' refunded',
      decimal (order.normalized.get "paid_amount") = some paid ∧
      decimal (order.normalized.get "refunded_amount") = some refunded ∧
      decimal (order.inSandbox.get "paid_amount") = some paid' ∧
      decimal (order.inSandbox.get "refunded_amount") = some refunded' ∧
      paid.value = order.paidAmount / 100 ∧ refunded.value = order.refundedAmount / 100 ∧
      paid'.value = order.paidAmount / 100 ∧ refunded'.value = order.refundedAmount / 100 ∧
      Context.InRange (Context.sub paid.value refunded.value) := by
  have small : |order.paidAmount| < 10 ^ 28 := by
    rw [abs_of_nonneg row.paid.1]
    exact row.paid.2
  have small' : |order.refundedAmount| < 10 ^ 28 := by
    rw [abs_of_nonneg row.within.1]
    exact row.within.2.trans_lt row.paid.2
  simp only [simOrder_get]
  obtain ⟨paid, hp, vp⟩ := decimal_amountOnceSet (order.status ≠ .created)
    (fun unset => (row.unpaid (by simpa using unset)).1) small
  obtain ⟨refunded, hr, vr⟩ := decimal_amountOnceSet (order.refundCount ≠ 0)
    (fun unset => row.refunded (by simpa using unset)) small'
  obtain ⟨paid', hp', vp'⟩ := decimal_text small
  obtain ⟨refunded', hr', vr'⟩ := decimal_text small'
  refine ⟨paid, refunded, paid', refunded', hp, hr, hp', hr', vp, vr, vp', vr', ?_⟩
  rw [vp, vr]
  refine (Context.sub_cents ?_).2
  rw [abs_of_nonneg (sub_nonneg.2 row.within.2)]
  exact (sub_le_self _ row.within.1).trans_lt row.paid.2

end Reading

/-! ## Checks that need no identifiers -/

section Checks

variable [Python] {simulator : ReferenceSimulator} {state : SimulationState}
  {states : List SimulationState}

theorem alike_netPaid (readable : simulator.Readable state)
    (last : states.getLast? = some state) :
    Alike (netPaid (states.map SimulationState.snapshot))
      (netPaid (states.map SimulationState.sandboxSnapshot)) := by
  rw [netPaid, netPaid, lastItems_normalized last, lastItems_inSandbox last]
  simp only [items_normalized, items_inSandbox, needed_some, Checked.ok_bind]
  refine alike_ensure (by simp) fun _ => alike_conclude (.collect fun order hm => ?_)
  obtain ⟨paid, refunded, paid', refunded', hp, hr, hp', hr', vp, vr, vp', vr', inRange⟩ :=
    simOrder_amounts (readable.orders order (mem_orderById.1 hm))
  have inRange' := inRange
  rw [vp, vr, ← vp', ← vr'] at inRange'
  simp only [hp, hr, hp', hr', needed_some, Checked.ok_bind, raising,
    Context.checked_of_inRange inRange, Context.checked_of_inRange inRange']
  exact .ite (by rw [vp, vr, vp', vr'])

theorem alike_refundLimit (readable : simulator.Readable state)
    (last : states.getLast? = some state) :
    Alike (refundLimit (states.map SimulationState.snapshot))
      (refundLimit (states.map SimulationState.sandboxSnapshot)) := by
  rw [refundLimit, refundLimit, lastItems_normalized last, lastItems_inSandbox last]
  simp only [items_normalized, items_inSandbox, needed_some, Checked.ok_bind]
  refine alike_ensure (by simp) fun _ => alike_conclude (.collect fun order hm => ?_)
  obtain ⟨paid, refunded, paid', refunded', hp, hr, hp', hr', vp, vr, vp', vr', -⟩ :=
    simOrder_amounts (readable.orders order (mem_orderById.1 hm))
  simp only [hp, hr, hp', hr', needed_some, Checked.ok_bind]
  exact .ite (by rw [vp, vr, vp', vr'])

theorem alike_couponConsumption (last : states.getLast? = some state) :
    Alike (couponConsumption (states.map SimulationState.snapshot) [])
      (couponConsumption (states.map SimulationState.sandboxSnapshot) []) := by
  rw [couponConsumption, couponConsumption, lastItems_normalized last,
    lastItems_inSandbox last]
  simp only [items_normalized, items_inSandbox, needed_some, Checked.ok_bind]
  refine alike_ensure (by simp) fun _ => alike_conclude (.collect fun coupon hm => ?_)
  have count : getOr coupon.normalized "usage_count" (.int 0) = .int coupon.usageCount ∧
      getOr coupon.inSandbox "usage_count" (.int 0) = .int coupon.usageCount := by
    simp [SimCoupon.normalized, SimCoupon.inSandbox, Json.get?, getOr, List.lookup]
  simp only [count, integer, needed_some, Checked.ok_bind]
  exact .ite (by simp [usesOf])

/-- The orders show the same mismatches of points under both names, whichever they are. -/
theorem matching_pointsOrders {rule : PointsRule} (points : simulator.points = some rule)
    {orders : List SimOrder} (rows : ∀ order ∈ orders, order.Readable simulator) (known : Bool) :
    Matching (pointsOrders rule [] false known (orders.map SimOrder.normalized))
      (pointsOrders rule [] false known (orders.map SimOrder.inSandbox)) := by
  induction orders generalizing known with
  | nil => exact .pure Iff.rfl
  | cons order orders ih =>
    have row := rows order List.mem_cons_self
    obtain ⟨paid, refunded, paid', refunded', hp, hr, hp', hr', vp, vr, vp', vr', -⟩ :=
      simOrder_amounts row
    -- The points of the payment were computed when it was made.
    obtain ⟨expected, he⟩ : ∃ expected, ∀ d : PyDecimal, d.value = order.paidAmount / 100 →
        expectedGrant rule d = .ok expected := by
      obtain ⟨granted, h⟩ := row.granted
      simp only [ReferenceSimulator.granted, points, Checked.bind_eq_ok,
        Checked.ensure_eq_ok] at h
      obtain ⟨-, fits, -⟩ := h
      refine ⟨truncate (order.paidAmount / 100 / rule.spendAmount) * rule.pointsGranted,
        fun d hd => ?_⟩
      rw [expectedGrant, floorDiv, hd, Checked.ensure_of_pos fits]
      rfl
    have grant : (Json.int order.pointsGranted).toInt = .ok order.pointsGranted := rfl
    obtain ⟨rest, rest', hm, hm', same⟩ := ih (fun o ho => rows o (List.mem_cons_of_mem _ ho))
      (known || decide (order.pointsGranted ≠ expected ∨ (known ∧ (0 : Int) ≠ expected)))
    have none : ∀ granted orderId, pointsOf [] granted orderId = 0 := fun _ _ => rfl
    simp only [List.map_cons, pointsOrders, hp, hr, hp', hr', he paid vp, he paid' vp',
      simOrder_points, grant, raising, none, needed_some, Checked.ok_bind, hm, hm']
    refine .pure ?_
    by_cases mismatch : order.pointsGranted ≠ expected ∨ (known = true ∧ (0 : Int) ≠ expected)
    · simp [mismatch]
    · simp [mismatch, same]

theorem alike_pointsConservation {spec : RuleSpec} (rule : spec.pointsRule = simulator.points)
    (readable : simulator.Readable state) (last : states.getLast? = some state) :
    Alike (pointsConservation spec (states.map SimulationState.snapshot) [])
      (pointsConservation spec (states.map SimulationState.sandboxSnapshot) []) := by
  rw [pointsConservation, pointsConservation, rule]
  cases hp : simulator.points with
  | none => exact ⟨.notApplicable, rfl, rfl⟩
  | some rule =>
    simp only [lastItems_normalized last, lastItems_inSandbox last, items_normalized,
      items_inSandbox, needed_some, Checked.ok_bind, pointsEntries, pure_bind]
    obtain ⟨bad, bad', ho, ho', same⟩ := matching_pointsOrders hp
      (fun order (hm : order ∈ orderById SimOrder.orderId state.orders) =>
        readable.orders order (mem_orderById.1 hm)) false
    have users : Matching
        (collect negativeBalance ((orderById SimUser.userId state.users).map SimUser.normalized))
        (collect negativeBalance ((orderById SimUser.userId state.users).map SimUser.inSandbox)) :=
      .collect fun user hm => by
        have balance : getOr user.normalized "points_balance" (.int 0) = .int user.pointsBalance ∧
            getOr user.inSandbox "points_balance" (.int 0) = .int user.pointsBalance := by
          simp [SimUser.normalized, SimUser.inSandbox, Json.get?, getOr, List.lookup]
        simp only [negativeBalance, balance, integer, needed_some, Checked.ok_bind]
        exact .ite Iff.rfl
    obtain ⟨more, more', hu, hu', sames⟩ := users
    simp only [ne_eq, eq_self, not_true_eq_false, decide_false, List.any_nil, ho, ho', hu, hu',
      Checked.ok_bind]
    exact alike_conclude_pure (by simp [same, sames])

omit [Python] in
theorem alike_idempotency [Python] : Alike (idempotency [] []) (idempotency [] []) :=
  ⟨.insufficientEvidence, rfl, rfl⟩

end Checks

/-! ## Terminal states -/

section Terminal

/-- The statuses of orders leave a terminal state where a refunded order is followed by
    one that is not. -/
theorem leavesTerminal_iff (orders : List SimOrder) :
    leavesTerminal (orders.map fun order => order.status.value) = false ↔
      orders.IsChain fun a b => a.status = .refunded → b.status = .refunded := by
  induction orders with
  | nil => simp [leavesTerminal]
  | cons a orders ih =>
    cases orders with
    | nil => simp [leavesTerminal]
    | cons b orders =>
      rw [List.isChain_cons_cons, ← ih, List.map_cons, List.map_cons, leavesTerminal]
      simp only [Bool.or_eq_false_iff]
      refine and_congr_left fun _ => ?_
      cases a.status <;> cases b.status <;> decide

variable [Python]

omit [Python] in
theorem simOrder_names (order : SimOrder) :
    order.normalized.get "id" = .null ∧
    order.normalized.get "status" = .str order.status.value ∧
    order.inSandbox.get "id" = .str order.orderId ∧
    order.inSandbox.get "status" = .str order.status.value := by
  simp [SimOrder.normalized, SimOrder.inSandbox, Json.get, Json.get?, List.lookup]

/-- Under the names of the simulator no order has an identifier. -/
theorem orderStates_normalized (states : List SimulationState) :
    orderStates (states.map SimulationState.snapshot) = .ok
      ((states.flatMap fun state => orderById SimOrder.orderId state.orders).map
        fun order => (Json.null.toStr, order.status.value)) := by
  induction states with
  | nil => rfl
  | cons state states ih =>
    rw [List.map_cons, orderStates, (items_normalized _).2.2.1, ih, needed_some, Checked.ok_bind,
      Checked.ok_bind, List.flatMap_cons, List.map_append, List.map_map]
    simp only [Function.comp_def, simOrder_names, Json.toStr_str]
    rfl

theorem orderStates_inSandbox (states : List SimulationState) :
    orderStates (states.map SimulationState.sandboxSnapshot) = .ok
      (states.flatMap fun state => (orderById SimOrder.orderId state.orders).map
        fun order => (order.orderId, order.status.value)) := by
  induction states with
  | nil => rfl
  | cons state states ih =>
    rw [List.map_cons, orderStates, (items_inSandbox _).2.2.1, ih, needed_some, Checked.ok_bind,
      Checked.ok_bind, List.flatMap_cons, List.map_map]
    simp only [Function.comp_def, simOrder_names, Json.toStr_str]
    rfl

omit [Python] in
/-- The history of orders that all have one name. -/
theorem historyOf_unnamed (name : String) (orders : List SimOrder) (id : String) :
    historyOf (orders.map fun order => (name, order.status.value)) id =
      if id = name then orders.map fun order => order.status.value else [] := by
  rw [historyOf, List.filter_map, List.map_map]
  split_ifs with h
  · subst h
    simp [Function.comp_def]
  · simp [Function.comp_def, Ne.symm h]

/-- The histories of the orders of a run, under their identifiers and all together. -/
theorem terminalMonotonicity_statuses {states : List SimulationState}
    (first : ∀ state ∈ states.head?, state.orders = [])
    (keyed : ∀ state ∈ states, Table.Keyed SimOrder.orderId state.orders)
    (chain : states.IsChain fun a b => ∀ id order,
      Table.find? SimOrder.orderId a.orders id = some order → order.status = .refunded →
        Table.find? SimOrder.orderId b.orders id = some order) :
    ∃ merged own, statusOf (terminalMonotonicity (states.map SimulationState.snapshot)) =
        .ok merged ∧
      statusOf (terminalMonotonicity (states.map SimulationState.sandboxSnapshot)) = .ok own ∧
      own ≠ .violated ∧
      (merged = own ↔ (states.flatMap fun state => orderById SimOrder.orderId state.orders).IsChain
        fun a b => a.status = .refunded → b.status = .refunded) := by
  by_cases two : states.length < 2
  · -- The only snapshot is that of the first state.
    have none : states.flatMap (fun state => orderById SimOrder.orderId state.orders) = [] := by
      rcases states with _ | ⟨state, _ | ⟨next, states⟩⟩
      · rfl
      · simp [first state rfl, orderById]
      · simp at two
    rw [terminalMonotonicity, terminalMonotonicity, Checked.ensure_of_neg (by simpa using two),
      Checked.ensure_of_neg (by simpa using two), none]
    exact ⟨.insufficientEvidence, .insufficientEvidence, rfl, rfl, by decide, by simp⟩
  · obtain ⟨absent, sound, bad⟩ := terminalMonotonicity_status (by simpa using two)
      (orderStates_normalized states)
    obtain ⟨absent', sound', -⟩ := terminalMonotonicity_status (by simpa using two)
      (orderStates_inSandbox states)
    -- Under their identifiers the orders stay refunded.
    have stays : ∀ id, leavesTerminal (historyOf (states.flatMap fun state =>
        (orderById SimOrder.orderId state.orders).map fun order =>
          (order.orderId, order.status.value)) id) = false := by
      intro id
      rw [historyOf_eq keyed]
      refine leavesTerminal_eq_false (List.isChain_map_of_isChain _ (fun a b h state hs ht => ?_)
        chain)
      obtain ⟨order, found, rfl⟩ := Option.map_eq_some_iff.1 hs
      have refunded : order.status = .refunded := by
        revert ht
        cases order.status <;> decide
      rw [h id order found refunded]
      rfl
    rw [← leavesTerminal_iff]
    set orders := states.flatMap fun state => orderById SimOrder.orderId state.orders with ho
    have own : (states.flatMap fun state => (orderById SimOrder.orderId state.orders).map
        fun order => (order.orderId, order.status.value)) =
          orders.map fun order => (order.orderId, order.status.value) := by
      rw [ho, List.map_flatMap]
    rw [own] at absent' sound' stays
    by_cases none : orders = []
    · rw [none] at absent absent' ⊢
      exact ⟨_, _, absent rfl, absent' rfl, by decide, iff_of_true rfl rfl⟩
    · have sound' := sound' (by simpa using none) stays
      cases leaves : leavesTerminal (orders.map fun order => order.status.value) with
      | false =>
        refine ⟨_, _, sound (by simpa using none) fun id => ?_, sound', by decide,
          iff_of_true rfl rfl⟩
        rw [historyOf_unnamed]
        split_ifs
        · exact leaves
        · rfl
      | true =>
        refine ⟨_, _, bad Json.null.toStr ?_, sound', by decide, iff_of_false (by decide) (by decide)⟩
        rw [historyOf_unnamed, if_pos rfl]
        exact leaves

end Terminal

/-! ## Entitlements -/

section Entitlements

variable [Python] {simulator : ReferenceSimulator} {state : SimulationState}
  {states : List SimulationState}

omit [Python] in
theorem simEntitlement_get (entitlement : SimEntitlement) :
    quantities entitlement.normalized = .ok (0, 0, 0) ∧
    quantities entitlement.inSandbox =
      .ok (entitlement.granted, entitlement.consumed, entitlement.revoked) ∧
    entitlement.normalized.get "membership_id" = .str entitlement.membershipId ∧
    entitlement.inSandbox.get "membership_id" = .str entitlement.membershipId := by
  simp [quantities, needed, integer, SimEntitlement.normalized, SimEntitlement.inSandbox, getOr,
    Json.get, Json.get?, List.lookup]

omit [Python] in
theorem simMembership_get (membership : SimMembership) :
    membership.normalized.get "id" = .null ∧
    membership.normalized.get "status" = .str membership.status.value ∧
    membership.inSandbox.get "id" = .str membership.membershipId ∧
    membership.inSandbox.get "status" = .str membership.status.value := by
  simp [SimMembership.normalized, SimMembership.inSandbox, Json.get, Json.get?, List.lookup]

omit [Python] in
theorem orderById_singleton {α : Type} (key : α → String) (a : α) : orderById key [a] = [a] := rfl

theorem alike_entitlementNonNegative (readable : simulator.Readable state)
    (last : states.getLast? = some state) :
    Alike (entitlementNonNegative (states.map SimulationState.snapshot))
      (entitlementNonNegative (states.map SimulationState.sandboxSnapshot)) := by
  rw [entitlementNonNegative, entitlementNonNegative, lastItems_normalized last,
    lastItems_inSandbox last]
  simp only [items_normalized, items_inSandbox, needed_some, Checked.ok_bind]
  refine alike_ensure (by simp) fun _ => alike_conclude (.collect fun entitlement hm => ?_)
  have available : 0 ≤ entitlement.available := by
    rcases readable.memberships with ⟨-, none⟩ | ⟨rule, membership, e, -, -, hs, row⟩
    · simp [none] at hm
    · rw [mem_orderById, hs, List.mem_singleton] at hm
      exact hm ▸ row.available
  simp only [simEntitlement_get, Checked.ok_bind]
  unfold SimEntitlement.available at available
  exact .ite (by simpa using available)

/-- Nothing is bad of a membership that ended. -/
theorem endedMembership_inSandbox {rule : MembershipRule} {membership : SimMembership}
    {entitlement : SimEntitlement} (row : membership.Readable rule entitlement)
    (ended : membership.status ≠ .active) :
    endedMembership rule.refundPolicy [] membership.inSandbox entitlement.inSandbox = .ok [] := by
  have available := row.ended ended
  unfold SimEntitlement.available at available
  simp only [endedMembership, simEntitlement_get, simMembership_get, Checked.ok_bind, available]
  cases hs : membership.status with
  | active => exact absurd hs ended
  | cancelled => simp [SimMembershipStatus.value]
  | refunded =>
    obtain ⟨refundable, unused⟩ := row.refunded hs
    by_cases policy : rule.refundPolicy = .unusedOnly
    · simp [SimMembershipStatus.value, refundable, unused policy, consumedAfterRefund]
    · simp [SimMembershipStatus.value, refundable, policy, consumedAfterRefund]

/-- How the check of the memberships ends under both names. -/
theorem entitlementRefund_statuses {spec : RuleSpec}
    (unnamed : Python.repr .null = "None")
    (rule : spec.refundPolicy = simulator.membership.map MembershipRule.refundPolicy)
    (readable : simulator.Readable state) (last : states.getLast? = some state) :
    ∃ missing own,
      statusOf (entitlementRefund spec (states.map SimulationState.snapshot) []) =
        .ok missing ∧
      statusOf (entitlementRefund spec (states.map SimulationState.sandboxSnapshot) []) =
        .ok own ∧
      (missing = own ↔ ∀ membership ∈ state.memberships, membership.status = .active) := by
  rw [entitlementRefund, entitlementRefund, rule]
  rcases readable.memberships with ⟨none, none'⟩ | ⟨rule, membership, entitlement, hr, hm, he, row⟩
  · -- Without memberships neither check applies.
    cases simulator.membership with
    | none => exact ⟨.notApplicable, .notApplicable, rfl, rfl, by simp [none]⟩
    | some rule =>
      simp only [Option.map_some, Checked.ok_bind, lastItems_normalized last,
        lastItems_inSandbox last, items_normalized, items_inSandbox, needed_some, none, none']
      exact ⟨.notApplicable, .notApplicable, rfl, rfl, by simp⟩
  · simp only [hr, Option.map_some, Checked.ok_bind, lastItems_normalized last,
      lastItems_inSandbox last, items_normalized, items_inSandbox, needed_some, hm, he,
      orderById_singleton, List.map_cons, List.map_nil]
    rw [Checked.ensure_of_pos (List.cons_ne_nil _ _), Checked.ensure_of_pos (List.cons_ne_nil _ _)]
    simp only [Checked.ok_bind, collect, simMembership_get, simEntitlement_get, List.reverse_singleton,
      List.find?_cons, List.find?_nil, row.named, row.own, Json.toStr, unnamed]
    cases hs : membership.status with
    | active => exact ⟨.satisfied, .satisfied, rfl, rfl, by simp [hs]⟩
    | cancelled =>
      have sound := endedMembership_inSandbox row (by simp [hs])
      refine ⟨.insufficientEvidence, .satisfied, rfl, ?_, by simp [hs]⟩
      simp [SimMembershipStatus.value, Json.isIn, raising, needed, sound]
      rfl
    | refunded =>
      have sound := endedMembership_inSandbox row (by simp [hs])
      refine ⟨.insufficientEvidence, .satisfied, rfl, ?_, by simp [hs]⟩
      simp [SimMembershipStatus.value, Json.isIn, raising, needed, sound]
      rfl

end Entitlements

end Oracle

/-! ## Runs -/

namespace ReferenceSimulator

variable {simulator : ReferenceSimulator} {state state' : SimulationState}

theorem Readable.keyed (readable : simulator.Readable state) :
    Table.Keyed SimOrder.orderId state.orders := by
  refine List.nodup_iff_injective_getElem.2 fun i j h => Fin.ext ?_
  simp only [List.getElem_map] at h
  have hi := readable.named i _ (List.getElem?_eq_getElem (by simpa using i.2))
  have hj := readable.named j _ (List.getElem?_eq_getElem (by simpa using j.2))
  rw [hi, hj, String.append_right_inj] at h
  exact Nat.succ_injective (Nat.repr_injective h)

/-- An item that is not the one replaced stays. -/
theorem mem_set_of_ne {α : Type} {items : List α} {i : Nat} {a b c : α}
    (hb : items[i]? = some b) (ha : a ∈ items) (ne : a ≠ b) : a ∈ items.set i c := by
  obtain ⟨j, hj⟩ := List.mem_iff_getElem?.1 ha
  refine List.mem_of_getElem? (i := j) ?_
  rw [List.getElem?_set_ne, hj]
  rintro rfl
  exact ne (Option.some.inj (hj.symm.trans hb))

/-- A refunded order stays as it is. -/
theorem change_refunded {name : ActionName} (change : Change simulator state name state')
    {order : SimOrder} (hm : order ∈ state.orders) (refunded : order.status = .refunded) :
    order ∈ state'.orders := by
  cases change with
  | createOrder => exact List.mem_append_left _ hm
  | applyCoupon ho _ created =>
    exact mem_set_of_ne ho hm (by rintro rfl; simp [refunded] at created)
  | payOrder ho _ _ created =>
    exact mem_set_of_ne ho hm (by rintro rfl; simp [refunded] at created)
  | refundOrder ho _ _ open' =>
    exact mem_set_of_ne ho hm (by rintro rfl; simp [refunded] at open')
  | _ => exact hm

theorem next_refunded (action : SimAction) {order : SimOrder} (hm : order ∈ state.orders)
    (refunded : order.status = .refunded) : order ∈ (simulator.next state action).orders := by
  rcases simulator.next_cases state action with h | ⟨state', change, h⟩
  · rwa [h]
  · rw [h]
    exact change_refunded change hm refunded

/-- The states of a run, one after the other. -/
def states (simulator : ReferenceSimulator) (actions : List SimAction) : List SimulationState :=
  actions.inits.map simulator.run

theorem states_concat (actions : List SimAction) (action : SimAction) :
    simulator.states (actions ++ [action]) =
      simulator.states actions ++ [simulator.run (actions ++ [action])] := by
  simp [states, List.inits_append]

theorem states_getLast? (actions : List SimAction) :
    (simulator.states actions).getLast? = some (simulator.run actions) := by
  induction actions using List.reverseRecOn with
  | nil => rfl
  | append_singleton actions action => simp [states_concat]

theorem states_head? (actions : List SimAction) :
    (simulator.states actions).head? = some simulator.initialState := by
  cases actions <;> simp [states]

/-- The states of a run follow each other. -/
theorem states_chain (actions : List SimAction) :
    (simulator.states actions).IsChain fun a b => ∃ action, b = simulator.next a action := by
  induction actions using List.reverseRecOn with
  | nil => simp [states]
  | append_singleton actions action ih =>
    rw [states_concat, List.isChain_append]
    refine ⟨ih, by simp, fun a ha b hb => ⟨action, ?_⟩⟩
    rw [states_getLast?] at ha
    cases ha
    cases hb
    exact simulator.run_concat actions action

theorem states_readable {actions : List SimAction} (h : state ∈ simulator.states actions) :
    simulator.Readable state := by
  obtain ⟨done, -, rfl⟩ := List.mem_map.1 h
  exact simulator.run_readable done

end ReferenceSimulator

/-! ## Reports -/

namespace PolicySpec

variable (spec : PolicySpec)

theorem pointsRule_eq : spec.toRuleSpec.pointsRule = spec.simulator.points := by
  simp only [RuleSpec.pointsRule, toRuleSpec, simulator, List.findSome?_map]
  refine congrArg (List.findSome? · spec.rules) (funext fun rule => ?_)
  cases rule <;> rfl

theorem refundPolicy_eq : spec.toRuleSpec.refundPolicy =
    spec.simulator.membership.map MembershipRule.refundPolicy := by
  simp only [RuleSpec.refundPolicy, toRuleSpec, simulator, List.findSome?_map,
    List.map_findSome?]
  refine congrArg (List.findSome? · spec.rules) (funext fun rule => ?_)
  cases rule <;> rfl

end PolicySpec

open Oracle in
/-- The oracle reports the same statuses for the states of a run as for the same states
    under the names of the sandbox, and no order that leaves a terminal state, exactly if
    in the list of the orders of all snapshots no refunded order is followed by one that
    is not, and no membership has ended. -/
theorem reports_agree [Python] (unnamed : Python.repr .null = "None") (spec : PolicySpec)
    (actions : List SimAction) :
    let states := spec.simulator.states actions
    (∃ found,
        statuses spec.toRuleSpec (states.map SimulationState.snapshot) [] [] = .ok found ∧
        statuses spec.toRuleSpec (states.map SimulationState.sandboxSnapshot) [] [] = .ok found ∧
        (InvariantId.orderTerminalMonotonicity, OracleStatus.violated) ∉ found) ↔
      (states.flatMap fun state => orderById SimOrder.orderId state.orders).IsChain
          (fun a b => a.status = .refunded → b.status = .refunded) ∧
        ∀ membership ∈ (spec.simulator.run actions).memberships,
          membership.status = .active := by
  intro states
  have last : states.getLast? = some (spec.simulator.run actions) :=
    ReferenceSimulator.states_getLast? actions
  have readable := spec.simulator.run_readable actions
  obtain ⟨s₁, h₁, h₁'⟩ := alike_netPaid readable last
  obtain ⟨s₂, h₂, h₂'⟩ := alike_refundLimit readable last
  obtain ⟨s₃, h₃, h₃'⟩ := alike_couponConsumption last
  obtain ⟨s₄, h₄, h₄'⟩ := alike_pointsConservation spec.pointsRule_eq readable last
  obtain ⟨merged, own, h₅, h₅', sound, terminal⟩ := terminalMonotonicity_statuses
    (by
      intro state (h : state ∈ states.head?)
      rw [ReferenceSimulator.states_head?] at h
      cases h
      rfl)
    (fun state h => (ReferenceSimulator.states_readable h).keyed)
    (by
      refine List.IsChain.imp_of_mem_imp ?_ (ReferenceSimulator.states_chain actions)
      rintro a b - hb ⟨action, rfl⟩ id order found refunded
      have stays : order ∈ (spec.simulator.next a action).orders :=
        ReferenceSimulator.next_refunded action (Table.mem_of_find? found) refunded
      rw [← Table.key_of_find? found]
      exact Table.find?_of_mem (ReferenceSimulator.states_readable hb).keyed stays)
  obtain ⟨s₆, h₆, h₆'⟩ := alike_entitlementNonNegative readable last
  obtain ⟨missing, own', h₇, h₇', ended⟩ := entitlementRefund_statuses unnamed
    spec.refundPolicy_eq readable last
  obtain ⟨s₈, h₈, h₈'⟩ := alike_idempotency
  have found := statuses_eq
    (.cons h₁ (.cons h₂ (.cons h₃ (.cons h₄ (.cons h₅ (.cons h₆ (.cons h₇ (.cons h₈ .nil))))))))
  have found' := statuses_eq
    (.cons h₁' (.cons h₂' (.cons h₃' (.cons h₄' (.cons h₅' (.cons h₆' (.cons h₇'
      (.cons h₈' .nil))))))))
  rw [found, found', ← terminal, ← ended]
  simp only [checks, List.map_cons, List.map_nil, List.zip_cons_cons, List.zip_nil_right]
  constructor
  · rintro ⟨_, ⟨⟩, same, -⟩
    simp only [Except.ok.injEq, List.cons.injEq, Prod.mk.injEq, true_and, and_true] at same
    exact ⟨same.1.symm, same.2.symm⟩
  · rintro ⟨rfl, rfl⟩
    exact ⟨_, rfl, rfl, by simpa using sound.symm⟩

theorem reports_agree_refund :
    let _ : Python := { Python.transparent with repr := fun _ => "None" }
    let states := pointsPolicy.simulator.states
      (paidOrderActions "10.00" "5.00" ++ [refundOrderAction "5.00"])
    ∃ found,
      Oracle.statuses pointsPolicy.toRuleSpec (states.map SimulationState.snapshot) [] [] =
        .ok found ∧
      Oracle.statuses pointsPolicy.toRuleSpec (states.map SimulationState.sandboxSnapshot) [] [] =
        .ok found ∧
      (InvariantId.orderTerminalMonotonicity, OracleStatus.violated) ∉ found := by
  intro _ states
  exact (reports_agree rfl pointsPolicy _).2 (by decide +kernel)

/-- An order that is refunded before another one is made reads as one order that comes
    back from a refund. -/
theorem reports_disagree :
    let _ : Python := { Python.transparent with repr := fun _ => "None" }
    ¬ ∀ (spec : PolicySpec) (actions : List SimAction), ∃ found,
      Oracle.statuses spec.toRuleSpec
        ((spec.simulator.states actions).map SimulationState.snapshot) [] [] = .ok found ∧
      Oracle.statuses spec.toRuleSpec
        ((spec.simulator.states actions).map SimulationState.sandboxSnapshot) [] [] = .ok found ∧
      (InvariantId.orderTerminalMonotonicity, OracleStatus.violated) ∉ found := by
  intro _ claim
  have found := claim pointsPolicy (paidOrderActions "10.00" "5.00" ++
    [refundOrderAction "5.00", createOrderAction "1.00"])
  revert found
  decide +kernel

end RuleArena
