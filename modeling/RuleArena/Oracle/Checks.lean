import RuleArena.Oracle.Evidence
import RuleArena.Sandbox.EventLog
import RuleArena.Sandbox.Lifecycle
import RuleArena.Sandbox.Shares

/-!
# What the checks say of a faithful run

What the oracle reads out of snapshots, receipts and events are the rows of the
run, its receipts and its event log. A check acquits (`Oracle.Acquits`) when it
ends without an exception and with a verdict other than a violation; there is
one theorem for each check, from the invariants of faithful runs.
-/

namespace RuleArena

namespace Oracle

/-! ## Verdicts -/

/-- A check ends without an exception and does not report a violation. -/
def Acquits : Except Exit Verdict → Prop
  | .ok verdict => verdict.status ≠ .violated
  | .error (.verdict verdict) => verdict.status ≠ .violated
  | .error (.raised _) => False

/-- An exit with a verdict that is no violation. -/
def IsVerdict (exit : Exit) : Prop := ∃ verdict, exit = .verdict verdict ∧ verdict.status ≠ .violated

/-- A check that ends early does so without an exception and reports no violation. -/
def Quiet (result : Except Exit Verdict) : Prop := Checked.Fails IsVerdict result

/-- A check reports a violation. -/
def Accuses (result : Except Exit Verdict) : Prop :=
  ∃ verdict, result = .ok verdict ∧ verdict.status = .violated

theorem acquits_iff {result : Except Exit Verdict} :
    Acquits result ↔ Quiet result ∧ ¬ Accuses result := by
  cases result with
  | ok verdict =>
    refine ⟨fun h => ⟨.ok, ?_⟩, fun h violated => h.2 ⟨verdict, rfl, violated⟩⟩
    rintro ⟨_, ⟨⟩, violated⟩
    exact h violated
  | error exit =>
    cases exit with
    | verdict verdict =>
      refine ⟨fun h => ⟨?_, nofun⟩, fun h => ?_⟩
      · rintro _ ⟨⟩
        exact ⟨verdict, rfl, h⟩
      · obtain ⟨_, ⟨⟩, fine⟩ := h.1 _ rfl
        exact fine
    | raised exception =>
      refine ⟨False.elim, fun h => ?_⟩
      obtain ⟨_, ⟨⟩, -⟩ := h.1 _ rfl

theorem accuses_conclude {bad : List Json} {violated satisfied : String}
    {evidence : List (String × Json)} {actions events : List Json} :
    Accuses (.ok (conclude bad violated satisfied evidence actions events)) ↔ bad ≠ [] := by
  unfold conclude
  split_ifs with h <;> simp [Accuses, h]

@[simp] theorem needed_some {α : Type} (a : α) (explanation : String) :
    needed (some a) explanation = .ok a := rfl

theorem acquits_of_ensure {c : Prop} [Decidable c] {f : Unit → Except Exit Verdict} {exit : Exit}
    (h : c → Acquits (f ()))
    (fine : Acquits (.error exit) := by simp [Acquits, notApplicable, insufficient]) :
    Acquits (ensure c exit >>= f) := by
  by_cases hc : c
  · rw [Checked.ensure_of_pos hc]
    exact h hc
  · rw [Checked.ensure_of_neg hc]
    exact fine

theorem acquits_conclude {violated satisfied : String} {evidence : List (String × Json)}
    {actions events : List Json} :
    Acquits (.ok (conclude [] violated satisfied evidence actions events)) := by
  simp [Acquits, conclude]

theorem collect_eq_nil {α ε : Type} {f : α → Except ε (List Json)} :
    ∀ {l : List α}, (∀ a ∈ l, f a = .ok []) → collect f l = .ok []
  | [], _ => rfl
  | a :: as, h => by
    rw [collect, h a List.mem_cons_self, collect_eq_nil fun b hb => h b (List.mem_cons_of_mem _ hb)]
    rfl

/-- What is collected of items that can all be read. -/
theorem collect_eq {α ε : Type} {f : α → Except ε (List Json)} {g : α → List Json} :
    ∀ {l : List α}, (∀ a ∈ l, f a = .ok (g a)) → collect f l = .ok (l.flatMap g)
  | [], _ => rfl
  | a :: as, h => by
    rw [collect, h a List.mem_cons_self, collect_eq fun b hb => h b (List.mem_cons_of_mem _ hb)]
    rfl

/-- A check that collects what is bad of some items and finds nothing. -/
theorem acquits_collect {α : Type} {f : α → Except Exit (List Json)} {l : List α}
    {violated satisfied : String} {evidence : List Json → List (String × Json)}
    {actions events : List Json} (h : ∀ a ∈ l, f a = .ok []) :
    Acquits (collect f l >>= fun bad =>
      pure (conclude bad violated satisfied (evidence bad) actions events)) := by
  rw [collect_eq_nil h]
  exact acquits_conclude

/-! ## Reading rows -/

/-- An amount of at most 28 digits is read back as it is. -/
theorem decimal_text {cents : Int} (h : |cents| < 10 ^ 28) :
    ∃ d, decimal (.str (amountText cents)) = some d ∧ d.value = cents / 100 := by
  have small : (Amount.ofInt cents).cents < 10 ^ 28 := by
    have := abs_lt.1 h
    simp only [Amount.ofInt]
    omega
  have digits : numDigits (Amount.ofInt cents).cents ≤ 10 ^ 18 :=
    ((numDigits_le_iff (by omega)).2 small).trans (by norm_num)
  refine ⟨.finite (Amount.ofInt cents).negative (Amount.ofInt cents).cents (-2), ?_, ?_⟩
  · rw [decimal, amountText, PyDecimal.parse_text digits]
    rfl
  · rw [PyDecimal.value_finite_amount, Amount.value, Amount.toInt_ofInt]

/-- An amount of a row is read back as it is. -/
theorem decimal_amountText {cents : Int} (h : Numeric cents) :
    ∃ d, decimal (.str (amountText cents)) = some d ∧ d.value = cents / 100 :=
  decimal_text (abs_lt.2 ⟨by have := h.1; omega, by have := h.2; omega⟩)

theorem order_get (order : Order) :
    order.toJson.get "id" = .str order.id ∧
    order.toJson.get "paid_amount" = .str (amountText order.paidAmount) ∧
    order.toJson.get "refunded_amount" = .str (amountText order.refundedAmount) ∧
    order.toJson.get "status" = .str order.status.value ∧
    getOr order.toJson "points_granted" (.int 0) = .int order.pointsGranted := by
  simp [Order.toJson, Json.get, Json.get?, getOr, List.lookup]

theorem entitlement_get (entitlement : Entitlement) :
    entitlement.toJson.get "id" = .str entitlement.id ∧
    entitlement.toJson.get "membership_id" = .str entitlement.membershipId ∧
    quantities entitlement.toJson =
      .ok (entitlement.grantedQuantity, entitlement.consumedQuantity,
        entitlement.revokedQuantity) := by
  refine ⟨by simp [Entitlement.toJson, Json.get, Json.get?, List.lookup],
    by simp [Entitlement.toJson, Json.get, Json.get?, List.lookup], ?_⟩
  simp [quantities, needed, integer, Entitlement.toJson, getOr, Json.get?, List.lookup]

theorem settle_of_acquits [Python] (invariantId : InvariantId) (snapshots : List Json)
    {result : Except Exit Verdict} (h : Acquits result) :
    ∃ found, settle invariantId snapshots result = .ok found ∧ found.status ≠ .violated :=
  match result, h with
  | .ok verdict, h => ⟨finding invariantId snapshots verdict, rfl, h⟩
  | .error (.verdict verdict), h => ⟨finding invariantId snapshots verdict, rfl, h⟩

/-- The report of checks that acquit. -/
theorem report_of_acquits [Python] {snapshots : List Json}
    {checks : List (InvariantId × Except Exit Verdict)}
    (h : ∀ check ∈ checks, Acquits check.2) :
    ∃ findings, checks.mapM (fun check => settle check.1 snapshots check.2) = .ok findings ∧
      ∀ finding ∈ findings, finding.status ≠ .violated := by
  induction checks with
  | nil => exact ⟨[], rfl, by simp⟩
  | cons check checks ih =>
    obtain ⟨found, hs, hf⟩ := settle_of_acquits check.1 snapshots (h check List.mem_cons_self)
    obtain ⟨findings, hm, all⟩ := ih fun c hc => h c (List.mem_cons_of_mem _ hc)
    refine ⟨found :: findings, by rw [List.mapM_cons, hs, hm]; rfl, ?_⟩
    simpa using ⟨hf, all⟩

/-! ## What points should be -/

/-- What an order should have been granted. -/
theorem expectedGrant_eq {rule : PointsRule} (spend : rule.spendAmount = 1)
    (granted : rule.pointsGranted = 1) {paid : PyDecimal} {cents : Int} (nonneg : 0 ≤ cents)
    (small : cents < 10 ^ 16) (hv : paid.value = cents / 100) :
    expectedGrant rule paid = .ok (pointsFor cents) := by
  have quotient : truncate (paid.value / 1) = cents / 100 := by
    rw [hv, div_one, truncate, if_pos (by positivity)]
    exact_mod_cast Rat.floor_intCast_div_natCast cents 100
  have fits : |truncate (paid.value / 1)| < 10 ^ 28 := by
    rw [quotient, abs_of_nonneg (Int.ediv_nonneg nonneg (by norm_num))]
    omega
  rw [expectedGrant, floorDiv, spend, Checked.ensure_of_pos fits, granted, quotient]
  simp [pointsFor]

/-- What should have been revoked of an order is what was. -/
theorem expectedRevoke_eq {rule : PointsRule} (revoke : rule.revokeOnRefund = true) {order : Order}
    (stored : order.Storable) (hg : 0 ≤ order.pointsGranted) (hp : 0 ≤ order.paidAmount)
    (hr : 0 ≤ order.refundedAmount) (hr' : order.refundedAmount ≤ order.paidAmount)
    {paid refunded : PyDecimal} (vp : paid.value = order.paidAmount / 100)
    (vr : refunded.value = order.refundedAmount / 100) :
    expectedRevoke rule order.pointsGranted paid refunded = order.pointsDue := by
  rw [expectedRevoke, vp, vr, revoke]
  rcases hp.eq_or_lt with zero | pos
  · simp [Order.pointsDue, ← zero]
  · have share := Context.share_eq pos stored.2.2.1.2 hg stored.2.2.2.2.2 hr hr'
    have nonneg : 0 ≤ Context.div (Context.mul order.pointsGranted (order.refundedAmount / 100 : ℚ))
        (order.paidAmount / 100 : ℚ) := by
      rw [← Int.floor_nonneg, share]
      exact Int.ediv_nonneg (mul_nonneg hg hr) hp
    have paid : (0 : ℚ) < order.paidAmount / 100 := by
      have : (0 : ℚ) < order.paidAmount := by exact_mod_cast pos
      positivity
    rw [if_pos ⟨paid, rfl⟩, truncate, if_pos nonneg, share, Order.pointsDue]

/-- A points rule belongs to the scenario with points. -/
theorem scenario_of_pointsRule {spec : RuleSpec} {rule : PointsRule}
    (h : spec.pointsRule = some rule) : spec.scenarioType = .refundPoints := by
  obtain ⟨r, hm, hr⟩ := List.exists_of_findSome?_eq_some h
  have ha := spec.allowed r hm
  cases r <;> simp at hr
  cases hs : spec.scenarioType <;> rw [hs] at ha <;>
    simp [Rule.ruleType, ScenarioType.ruleTypes] at ha ⊢

/-! ## The states of orders -/

/-- The state of an order of a run. -/
def stateOf (run : RunSpace) (orderId : String) : Option String :=
  (Table.find? Order.id run.orders orderId).map fun order => order.status.value

/-- A terminal state is still that of the order in another run. -/
def Keeps (run run' : RunSpace) : Prop :=
  ∀ orderId state, stateOf run orderId = some state → state ∈ terminalOrderStates →
    stateOf run' orderId = some state

/-- The states of a row in its order of the stages, from the rows of all stages. -/
theorem historyOf_eq {σ ρ : Type} {rows : σ → List ρ} {key status : ρ → String} {stages : List σ}
    (keyed : ∀ stage ∈ stages, Table.Keyed key (rows stage)) (id : String) :
    historyOf (stages.flatMap fun stage =>
      (orderById key (rows stage)).map fun row => (key row, status row)) id =
      (stages.map fun stage => (Table.find? key (rows stage) id).map status).reduceOption := by
  induction stages with
  | nil => rfl
  | cons stage stages ih =>
    have hk := keyed stage List.mem_cons_self
    have perm : (orderById key (rows stage)).Perm (rows stage) := List.perm_insertionSort _ _
    have hk' : Table.Keyed key (orderById key (rows stage)) := (perm.map key).nodup_iff.2 hk
    have first : historyOf ((orderById key (rows stage)).map fun row => (key row, status row)) id =
        ((Table.find? key (rows stage) id).map status).toList := by
      have found := Table.filter_eq hk' id
      rw [Table.find?_perm hk perm] at found
      rw [historyOf, List.filter_map, List.map_map]
      refine (congrArg (List.map _) found).trans ?_
      cases Table.find? key (rows stage) id <;> rfl
    have rest := ih fun s hs => keyed s (List.mem_cons_of_mem _ hs)
    have split : ∀ l l', historyOf (l ++ l') id = historyOf l id ++ historyOf l' id := by
      simp [historyOf]
    rw [List.flatMap_cons, split, first, rest, List.map_cons]
    cases Table.find? key (rows stage) id <;> rfl

theorem leavesTerminal_eq_false {states : List (Option String)}
    (h : states.IsChain fun a b => ∀ state, a = some state → state ∈ terminalOrderStates →
      b = some state) : leavesTerminal states.reduceOption = false := by
  induction states with
  | nil => rfl
  | cons a states ih =>
    have rest := ih h.tail
    cases a with
    | none => exact rest
    | some state =>
      cases states with
      | nil => rfl
      | cons b states =>
        have keeps := (List.isChain_cons_cons.1 h).1 state rfl
        by_cases ht : state ∈ terminalOrderStates
        · obtain rfl := keeps ht
          simpa [leavesTerminal] using rest
        · cases hr : List.reduceOption (b :: states) with
          | nil => simp [List.reduceOption_cons_of_some, hr, leavesTerminal]
          | cons c cs =>
            rw [hr] at rest
            simp [List.reduceOption_cons_of_some, hr, leavesTerminal, ht, rest]

section Reading

variable [Python] {run : RunSpace}

theorem items_snapshot (run : RunSpace) (now : Nat) :
    items (run.snapshot now) "users" = some (run.user.toList.map TestUser.toJson) ∧
    items (run.snapshot now) "coupons" =
      some ((orderById Coupon.id run.coupons).map Coupon.toJson) ∧
    items (run.snapshot now) "orders" =
      some ((orderById Order.id run.orders).map Order.toJson) ∧
    items (run.snapshot now) "memberships" =
      some ((orderById Membership.id run.memberships).map Membership.toJson) ∧
    items (run.snapshot now) "entitlements" =
      some ((orderById Entitlement.id run.entitlements).map Entitlement.toJson) := by
  simp [items, RunSpace.snapshot, RunSpace.stateJson, Json.get, Json.get?, List.lookup, Json.isObj,
    TestUser.toJson, Coupon.toJson, Order.toJson, Membership.toJson, Entitlement.toJson]

/-- The events of a run, in the order of the log. -/
theorem getEvents_eq (h : run.EventsOrdered) :
    run.getEvents = run.epochEvents.map run.eventJson := by
  rw [RunSpace.getEvents, List.Pairwise.insertionSort_eq]
  exact h.sorted.imp fun h => h.le

theorem event_get (event : BusinessEvent) :
    (run.eventJson event).get "event_type" = .str event.eventType.value ∧
    (run.eventJson event).get "aggregate_id" = .str event.aggregateId ∧
    (run.eventJson event).get "idempotency_key" = .str event.idempotencyKey ∧
    getOr (run.eventJson event) "payload" (.obj []) = .obj event.payload := by
  simp [RunSpace.eventJson, Json.get, Json.get?, getOr, List.lookup]

end Reading

/-! ## Orders -/

section Checks

variable [Python] {run : RunSpace} {snapshots : List Json} {now : Nat}

/-- The last of the snapshots is one of a run. -/
theorem lastItems_eq (last : snapshots.getLast? = some (run.snapshot now)) (name : String) :
    lastItems snapshots name = items (run.snapshot now) name := by
  rw [lastItems, last, Option.bind_some]

theorem acquits_netPaid (hr : run.Reachable)
    (within : ∀ order ∈ run.orders, order.refundedAmount ≤ order.paidAmount)
    (last : snapshots.getLast? = some (run.snapshot now)) : Acquits (netPaid snapshots) := by
  rw [netPaid, lastItems_eq last, (items_snapshot run now).2.2.1]
  refine acquits_of_ensure fun _ => acquits_collect ?_
  simp only [List.mem_map, mem_orderById, forall_exists_index, and_imp]
  rintro _ order hm rfl
  have stored := hr.storable.orders order hm
  obtain ⟨paid, hp, vp⟩ := decimal_amountText stored.2.2.1
  obtain ⟨refunded, hrf, vr⟩ := decimal_amountText stored.2.2.2.1
  have le := within order hm
  have small : |order.paidAmount - order.refundedAmount| < 10 ^ 28 := by
    have := stored.2.2.1
    have := stored.2.2.2.1
    simp only [Numeric] at *
    rw [abs_lt]
    omega
  obtain ⟨net, inRange⟩ := Context.sub_cents small
  rw [← vp, ← vr] at net inRange
  have nonneg : ¬ Context.sub paid.value refunded.value < 0 := by
    rw [net, not_lt]
    have : (0 : ℚ) ≤ ((order.paidAmount - order.refundedAmount : ℤ) : ℚ) := by
      exact_mod_cast sub_nonneg.2 le
    positivity
  simp only [order_get, hp, hrf, needed_some, Checked.ok_bind,
    Context.checked_of_inRange inRange, raising, if_neg nonneg]
  rfl

theorem acquits_refundLimit (hr : run.Reachable)
    (within : ∀ order ∈ run.orders, order.refundedAmount ≤ order.paidAmount)
    (last : snapshots.getLast? = some (run.snapshot now)) : Acquits (refundLimit snapshots) := by
  rw [refundLimit, lastItems_eq last, (items_snapshot run now).2.2.1]
  refine acquits_of_ensure fun _ => acquits_collect ?_
  simp only [List.mem_map, mem_orderById, forall_exists_index, and_imp]
  rintro _ order hm rfl
  have stored := hr.storable.orders order hm
  obtain ⟨paid, hp, vp⟩ := decimal_amountText stored.2.2.1
  obtain ⟨refunded, hrf, vr⟩ := decimal_amountText stored.2.2.2.1
  have le : (order.refundedAmount : ℚ) ≤ order.paidAmount := by
    exact_mod_cast within order hm
  have within : ¬ paid.value < refunded.value := by
    rw [vp, vr, not_lt]
    exact div_le_div_of_nonneg_right le (by norm_num)
  simp only [order_get, hp, hrf, needed_some, Checked.ok_bind, if_neg within]
  rfl

/-! ## Coupons -/

theorem usesOf_eq (events : List BusinessEvent) (couponId : String) :
    usesOf (events.map run.eventJson) couponId = events.countP fun event =>
      event.eventType = .couponUsed ∧ event.aggregateId = couponId := by
  rw [usesOf, List.countP_map]
  refine List.countP_congr fun event _ => ?_
  have type : event.eventType.value = "COUPON_USED" ↔ event.eventType = .couponUsed :=
    ⟨fun h => BusinessEventType.value_inj (b := .couponUsed) h, fun h => h ▸ rfl⟩
  simp [event_get, type]

theorem acquits_couponConsumption (hr : run.Reachable)
    (kept : run.profile.restoresCouponAfterFullRefund = false)
    (last : snapshots.getLast? = some (run.snapshot now)) :
    Acquits (couponConsumption snapshots run.getEvents) := by
  rw [couponConsumption, lastItems_eq last, (items_snapshot run now).2.1, getEvents_eq hr.ordered]
  refine acquits_of_ensure fun _ => acquits_collect ?_
  simp only [List.mem_map, mem_orderById, forall_exists_index, and_imp]
  rintro _ coupon hm rfl
  have once : coupon.usageCount ≤ 1 := by
    rw [hr.coupon_single kept coupon hm]
    split <;> omega
  have count : (usesOf (run.epochEvents.map run.eventJson) coupon.id : ℤ) = coupon.usageCount := by
    rw [usesOf_eq, ← RunSpace.tally_useWeight, ← hr.books.coupon_events,
      Table.valueAt_of_find? (Table.find?_of_mem hr.storable.coupons_keyed hm)]
  have get : coupon.toJson.get "id" = .str coupon.id ∧
      getOr coupon.toJson "usage_count" (.int 0) = .int coupon.usageCount := by
    simp [Coupon.toJson, Json.get, Json.get?, getOr, List.lookup]
  have fine : ¬ (1 < coupon.usageCount ∨
      1 < usesOf (run.epochEvents.map run.eventJson) coupon.id) := by omega
  simp only [get, integer, needed_some, Checked.ok_bind, Json.toStr_str, if_neg fine]
  rfl

/-! ## Points -/

/-- What the oracle reads of an event about points. -/
theorem pointsEntry_eq (run : RunSpace) {event : BusinessEvent} (legible : event.Legible) :
    pointsEntry (run.eventJson event) = .ok
      (if event.eventType = .pointsGranted ∨ event.eventType = .pointsRevoked then
        [(decide (event.eventType = .pointsGranted),
          ((Json.obj event.payload).get "order_id").toStr, event.quantity "amount")] else []) := by
  have value : ∀ t : BusinessEventType, event.eventType.value = t.value ↔ event.eventType = t :=
    fun t => ⟨fun h => BusinessEventType.value_inj h, fun h => h ▸ rfl⟩
  have types : event.eventType.value ∈ ["POINTS_GRANTED", "POINTS_REVOKED"] ↔
      event.eventType = .pointsGranted ∨ event.eventType = .pointsRevoked := by
    simp only [List.mem_cons, List.not_mem_nil, or_false]
    exact or_congr (value .pointsGranted) (value .pointsRevoked)
  have granted : event.eventType.value = "POINTS_GRANTED" ↔ event.eventType = .pointsGranted :=
    value .pointsGranted
  by_cases h : event.eventType = .pointsGranted ∨ event.eventType = .pointsRevoked
  · obtain ⟨orderId, points, ho, hp⟩ := legible.2 h
    have amount : (if (Json.int points).truthy then Json.int points else .int 0).toInt =
        .ok points := by
      by_cases hz : points = 0 <;> simp [Json.truthy, hz] <;> rfl
    have quantity : event.quantity "amount" = points := by
      simp [BusinessEvent.quantity, Json.get, hp]
    have get : ∀ default, getOr (.obj event.payload) "amount" default = .int points := by
      simp [getOr, hp]
    have order : getOr (.obj event.payload) "order_id" (.str "") = .str orderId ∧
        (Json.obj event.payload).get "order_id" = .str orderId := by
      simp [getOr, Json.get, ho]
    have isIn : (Json.str event.eventType.value).isIn ["POINTS_GRANTED", "POINTS_REVOKED"] =
        .ok true := congrArg Except.ok (decide_eq_true (types.2 h))
    simp only [pointsEntry, event_get, isIn, raising, Checked.ok_bind, if_true, Json.isObj, get, order,
      amount, if_pos h, quantity, Json.str.injEq, granted]
    rfl
  · have isIn : (Json.str event.eventType.value).isIn ["POINTS_GRANTED", "POINTS_REVOKED"] =
        .ok false := congrArg Except.ok (decide_eq_false fun hm => h (types.1 hm))
    simp only [pointsEntry, event_get, isIn, raising, Checked.ok_bind, if_neg h,
      Bool.false_eq_true, if_false]
    rfl

/-- The entries the oracle makes of the event log. -/
theorem pointsEntries_eq (run : RunSpace) {events : List BusinessEvent}
    (legible : ∀ event ∈ events, event.Legible) :
    ∃ entries, pointsEntries (events.map run.eventJson) = .ok entries ∧
      ∀ orderId, pointsOf entries true orderId =
          (events.map (orderPoints .pointsGranted orderId)).sum ∧
        pointsOf entries false orderId =
          (events.map (orderPoints .pointsRevoked orderId)).sum := by
  induction events with
  | nil => exact ⟨[], rfl, fun _ => ⟨rfl, rfl⟩⟩
  | cons event events ih =>
    obtain ⟨entries, he, sums⟩ := ih fun e hm => legible e (List.mem_cons_of_mem _ hm)
    have entry := pointsEntry_eq run (legible event List.mem_cons_self)
    refine ⟨_, by rw [List.map_cons, pointsEntries, entry, he]; rfl, fun orderId => ?_⟩
    have split : ∀ l granted, pointsOf (l ++ entries) granted orderId =
        pointsOf l granted orderId + pointsOf entries granted orderId := by
      simp [pointsOf]
    rw [split, split, (sums orderId).1, (sums orderId).2, List.map_cons, List.map_cons,
      List.sum_cons, List.sum_cons]
    -- What is left is the entry of the first event.
    have first : ∀ granted, pointsOf (if event.eventType = .pointsGranted ∨
        event.eventType = .pointsRevoked then [(decide (event.eventType = .pointsGranted),
          ((Json.obj event.payload).get "order_id").toStr, event.quantity "amount")] else [])
        granted orderId =
        orderPoints (if granted then .pointsGranted else .pointsRevoked) orderId event := by
      intro granted
      by_cases h : event.eventType = .pointsGranted ∨ event.eventType = .pointsRevoked
      · obtain ⟨order, points, ho, -⟩ := (legible event List.mem_cons_self).2 h
        have get : (Json.obj event.payload).get "order_id" = .str order := by simp [Json.get, ho]
        rw [if_pos h, get]
        rcases h with h | h <;> cases granted <;> by_cases e : order = orderId <;>
          simp [pointsOf, orderPoints, get, h, e]
      · rw [not_or] at h
        cases granted <;> simp [pointsOf, orderPoints, h]
    exact ⟨congrArg (· + _) (first true), congrArg (· + _) (first false)⟩

theorem pointsOrders_eq {rule : PointsRule} {entries : List (Bool × String × Int)}
    (anyEvents : Bool) (spend : rule.spendAmount = 1) (granted : rule.pointsGranted = 1)
    (revoke : rule.revokeOnRefund = true) (hr : run.Reachable) (hf : run.profile.Faithful)
    (scenario : run.scenarioType = .refundPoints)
    (sums : ∀ orderId, pointsOf entries true orderId = run.tally (orderPoints .pointsGranted orderId) ∧
      pointsOf entries false orderId = run.tally (orderPoints .pointsRevoked orderId)) :
    ∀ (orders : List Order) (known : Bool), (∀ order ∈ orders, order ∈ run.orders) →
      pointsOrders rule entries anyEvents known (orders.map Order.toJson) = .ok []
  | [], _, _ => rfl
  | order :: orders, known, mem => by
    have hm := mem order List.mem_cons_self
    have stored := hr.storable.orders order hm
    have nonneg := (hr.orders_wellFormed order hm).nonneg
    have points : order.pointsGranted = pointsFor order.paidAmount := by
      rw [hr.pointsGranted_eq order hm, if_pos scenario]
    have hg : 0 ≤ order.pointsGranted := points ▸ Int.ediv_nonneg nonneg.1 (by norm_num)
    have found := Table.find?_of_mem hr.storable.orders_keyed hm
    have grantEvents : pointsOf entries true order.id = order.pointsGranted := by
      rw [(sums order.id).1, (hr.shares hf).granted, Table.valueAt_of_find? found]
    have revokeEvents : pointsOf entries false order.id = order.pointsDue := by
      rw [(sums order.id).2, (hr.shares hf).revoked, Table.valueAt_of_find? found]
    obtain ⟨paid, hp, vp⟩ := decimal_amountText stored.2.2.1
    obtain ⟨refunded, hrf, vr⟩ := decimal_amountText stored.2.2.2.1
    have expected : expectedGrant rule paid = .ok order.pointsGranted := by
      rw [expectedGrant_eq spend granted nonneg.1 stored.2.2.1.2 vp, points]
    have due := expectedRevoke_eq revoke stored hg nonneg.1 nonneg.2
      (hr.refunded_le_paid hf order hm) vp vr
    have rest := pointsOrders_eq anyEvents spend granted revoke hr hf scenario sums orders known
      fun o ho => mem o (List.mem_cons_of_mem _ ho)
    have stateGrant : (Json.int order.pointsGranted).toInt = .ok order.pointsGranted := rfl
    rw [List.map_cons, pointsOrders]
    simp only [order_get, hp, hrf, needed_some, expected, Checked.ok_bind, raising, stateGrant,
      Json.toStr_str, grantEvents, revokeEvents, due, ne_eq, not_true, and_false, or_self,
      decide_false, Bool.or_false, if_false, rest]
    rfl

theorem acquits_pointsConservation (hr : run.Reachable) (hf : run.profile.Faithful)
    {spec : RuleSpec} (describes : spec.Describes run.scenarioType)
    (last : snapshots.getLast? = some (run.snapshot now)) :
    Acquits (pointsConservation spec snapshots run.getEvents) := by
  rw [pointsConservation]
  cases hrule : spec.pointsRule with
  | none => simp [Acquits, notApplicable]
  | some rule =>
    obtain ⟨spend, granted, revoke⟩ := describes.points rule hrule
    have scenario := describes.scenarioType.symm.trans (scenario_of_pointsRule hrule)
    obtain ⟨entries, he, sums⟩ := pointsEntries_eq run hr.events_legible
    have orders := pointsOrders_eq (decide (run.getEvents ≠ [])) spend granted revoke hr hf scenario
      sums (orderById Order.id run.orders) (entries.any fun entry => entry.1)
      fun order hm => mem_orderById.1 hm
    have users : ∀ user ∈ run.user.toList.map TestUser.toJson, negativeBalance user = .ok [] := by
      intro _ hm
      obtain ⟨user, hu, rfl⟩ := List.mem_map.1 hm
      have nonneg := hr.points_nonneg hf user (by simpa using hu)
      have get : getOr user.toJson "points_balance" (.int 0) = .int user.pointsBalance := by
        simp [TestUser.toJson, Json.get?, getOr, List.lookup]
      simp only [negativeBalance, get, integer, needed_some, Checked.ok_bind,
        if_neg (not_lt.2 nonneg)]
      rfl
    simp only [lastItems_eq last, items_snapshot, needed_some, Checked.ok_bind]
    rw [getEvents_eq hr.ordered] at orders ⊢
    rw [he, Checked.ok_bind, orders, Checked.ok_bind, collect_eq_nil users]
    exact acquits_conclude

/-! ## Terminal states -/

theorem orderStates_eq (stages : List (RunSpace × Nat)) :
    orderStates (stages.map fun stage => stage.1.snapshot stage.2) =
      .ok (stages.flatMap fun stage =>
        (orderById Order.id stage.1.orders).map fun order => (order.id, order.status.value)) := by
  induction stages with
  | nil => rfl
  | cons stage stages ih =>
    rw [List.map_cons, orderStates, (items_snapshot _ _).2.2.1, ih, needed_some, Checked.ok_bind,
      Checked.ok_bind, List.flatMap_cons, List.map_map]
    simp only [Function.comp_def, order_get, Json.toStr_str]
    rfl

theorem acquits_terminalMonotonicity {stages : List (RunSpace × Nat)}
    (keyed : ∀ stage ∈ stages, Table.Keyed Order.id stage.1.orders)
    (chain : stages.IsChain fun a b => Keeps a.1 b.1) :
    Acquits (terminalMonotonicity (stages.map fun stage => stage.1.snapshot stage.2)) := by
  rw [terminalMonotonicity]
  refine acquits_of_ensure fun _ => ?_
  rw [orderStates_eq, Checked.ok_bind]
  refine acquits_of_ensure fun _ => ?_
  -- No history leaves a terminal state.
  have stays : ∀ orderId, leavesTerminal (historyOf (stages.flatMap fun stage =>
      (orderById Order.id stage.1.orders).map fun order => (order.id, order.status.value))
      orderId) = false := by
    intro orderId
    rw [historyOf_eq keyed]
    exact leavesTerminal_eq_false (List.isChain_map_of_isChain _
      (fun a b (h : Keeps a.1 b.1) => h orderId) chain)
  simp only [List.filter_map, Function.comp_def, stays, List.filter_false, List.map_nil]
  exact acquits_conclude

/-! ## Entitlements -/

theorem acquits_entitlementNonNegative
    (nonneg : ∀ entitlement ∈ run.entitlements, 0 ≤ entitlement.available)
    (last : snapshots.getLast? = some (run.snapshot now)) :
    Acquits (entitlementNonNegative snapshots) := by
  rw [entitlementNonNegative, lastItems_eq last, (items_snapshot run now).2.2.2.2]
  refine acquits_of_ensure fun _ => acquits_collect ?_
  simp only [List.mem_map, mem_orderById, forall_exists_index, and_imp]
  rintro _ entitlement hm rfl
  have available : ¬ entitlement.grantedQuantity - entitlement.consumedQuantity -
      entitlement.revokedQuantity < 0 := not_lt.2 (nonneg entitlement hm)
  simp only [entitlement_get, Checked.ok_bind, if_neg available]
  rfl

/-- An entitlement that was not consumed has no event of a consumption. -/
theorem not_consumed (hr : run.Reachable) {entitlement : Entitlement}
    (hm : entitlement ∈ run.entitlements) (unused : entitlement.consumedQuantity = 0) :
    ∀ event ∈ run.epochEvents, event.eventType = .entitlementConsumed →
      event.aggregateId ≠ entitlement.id := by
  intro event he type aggregate
  have sum := hr.books.consumed_events entitlement.id
  rw [Table.valueAt_of_find? (Table.find?_of_mem hr.storable.entitlements_keyed hm), unused,
    RunSpace.tally] at sum
  have nonneg : ∀ x ∈ run.epochEvents.map
      (entitlementWeight .entitlementConsumed entitlement.id), 0 ≤ x := by
    intro x hx
    obtain ⟨e, hm, rfl⟩ := List.mem_map.1 hx
    unfold entitlementWeight
    split
    · rename_i h
      exact ((hr.events_legible e hm).1 h.1).le
    · exact le_rfl
  have zero := List.all_zero_of_le_zero_le_of_sum_eq_zero nonneg sum.symm (List.mem_map_of_mem he)
  have pos := (hr.events_legible event he).1 type
  rw [entitlementWeight, if_pos ⟨type, aggregate⟩] at zero
  omega

/-- Nothing is bad of a membership that ended if nothing of its entitlement is overdrawn. -/
theorem endedMembership_eq (hr : run.Reachable) (settled : run.Settled)
    {membership : Membership} {entitlement : Entitlement} (hm : membership ∈ run.memberships)
    (he : entitlement ∈ run.entitlements) (own : entitlement.membershipId = membership.id)
    (ended : membership.status = .cancelled ∨ membership.status = .refunded)
    (nonneg : membership.status = .cancelled → 0 ≤ entitlement.available) :
    endedMembership .unusedOnly (run.epochEvents.map run.eventJson) membership.toJson
      entitlement.toJson = .ok [] := by
  have active : membership.status ≠ .active := by rcases ended with h | h <;> simp [h]
  obtain ⟨spent, unused⟩ := settled.spent membership hm entitlement he own active
  have left : entitlement.available = 0 := by
    refine le_antisymm spent ?_
    rcases ended with h | h
    · exact nonneg h
    · exact not_lt.1 fun negative => ((settled.sound entitlement he).overdrawn negative).ne'
        (unused h)
  have get : membership.toJson.get "id" = .str membership.id ∧
      membership.toJson.get "status" = .str membership.status.value := by
    simp [Membership.toJson, Json.get, Json.get?, List.lookup]
  have refunded : membership.status.value = "REFUNDED" ↔ membership.status = .refunded := by
    cases membership.status <;> decide
  have late : membership.status = .refunded → consumedAfterRefund membership.id entitlement.id
      (run.epochEvents.map run.eventJson) = false := by
    intro hs
    rw [consumedAfterRefund, List.any_eq_false]
    intro later hl
    obtain ⟨event, hm', rfl⟩ := List.mem_map.1 ((List.dropWhile_sublist _).mem (List.mem_of_mem_drop hl))
    have no := not_consumed hr he (unused hs) event hm'
    have type : event.eventType.value = "ENTITLEMENT_CONSUMED" ↔
        event.eventType = .entitlementConsumed :=
      ⟨fun h => BusinessEventType.value_inj (b := .entitlementConsumed) h, fun h => h ▸ rfl⟩
    simpa [event_get, type] using no
  have left' : ¬ entitlement.grantedQuantity - entitlement.consumedQuantity -
      entitlement.revokedQuantity ≠ 0 := not_not.2 left
  have used : ¬ (membership.status = .refunded ∧ 0 < entitlement.consumedQuantity) := by
    rintro ⟨hs, hc⟩
    exact hc.ne' (unused hs)
  have late' : ¬ (membership.status = .refunded ∧ consumedAfterRefund membership.id entitlement.id
      (run.epochEvents.map run.eventJson) = true) := by
    rintro ⟨hs, hl⟩
    simp [late hs] at hl
  simp only [endedMembership, entitlement_get, Checked.ok_bind, get, Json.str.injEq, refunded,
    Json.toStr_str, decide_eq_true_eq, if_neg left', true_and, if_neg used, if_neg late', reduceCtorEq,
    false_and, if_false, List.append_nil]
  rfl

omit [Python] in
/-- What the check reads of a membership. -/
theorem membership_get (membership : Membership) :
    membership.toJson.get "id" = .str membership.id ∧
    membership.toJson.get "status" = .str membership.status.value ∧
    (Json.str membership.status.value).isIn ["CANCELLED", "REFUNDED"] =
      .ok (decide (membership.status = .cancelled ∨ membership.status = .refunded)) := by
  refine ⟨by simp [Membership.toJson, Json.get, Json.get?, List.lookup],
    by simp [Membership.toJson, Json.get, Json.get?, List.lookup], ?_⟩
  cases membership.status <;> rfl

/-- A membership has one entitlement. -/
theorem entitlements_owned (hr : run.Reachable) :
    Table.Keyed Entitlement.membershipId run.entitlements := by
  rw [Table.Keyed, hr.members.paired]
  exact hr.storable.memberships_keyed

/-- The check finds the entitlement of a membership. -/
theorem ownEntitlement_eq (hr : run.Reachable) {entitlement : Entitlement}
    (he : entitlement ∈ run.entitlements) :
    (((orderById Entitlement.id run.entitlements).map Entitlement.toJson).reverse.find? fun item =>
      (item.get "membership_id").toStr = entitlement.membershipId) = some entitlement.toJson := by
  cases hfind : List.find? _ _ with
  | none =>
    have := List.find?_eq_none.1 hfind entitlement.toJson (by simpa using ⟨entitlement, he, rfl⟩)
    simp [entitlement_get] at this
  | some found =>
    have hmem := List.mem_of_find?_eq_some hfind
    simp only [List.mem_reverse, List.mem_map, mem_orderById] at hmem
    obtain ⟨other, ho, rfl⟩ := hmem
    have same := List.find?_some hfind
    simp only [entitlement_get, Json.toStr_str, decide_eq_true_eq] at same
    have keyed := entitlements_owned hr
    have first := Table.find?_of_mem keyed ho
    rw [same, Table.find?_of_mem keyed he] at first
    rw [Option.some.inj first]

/-- Every membership has an entitlement. -/
theorem exists_entitlement (hr : run.Reachable) {membership : Membership}
    (hm : membership ∈ run.memberships) :
    ∃ entitlement ∈ run.entitlements, entitlement.membershipId = membership.id := by
  rw [← List.mem_map, hr.members.paired]
  exact List.mem_map_of_mem hm

theorem acquits_entitlementRefund (hr : run.Reachable) (settled : run.Settled)
    (nonneg : ∀ membership ∈ run.memberships, membership.status = .cancelled →
      ∀ entitlement ∈ run.entitlements, entitlement.membershipId = membership.id →
        0 ≤ entitlement.available) {spec : RuleSpec} (describes : spec.Describes run.scenarioType)
    (last : snapshots.getLast? = some (run.snapshot now)) :
    Acquits (entitlementRefund spec snapshots run.getEvents) := by
  rw [entitlementRefund]
  cases hpolicy : spec.refundPolicy with
  | none => simp [Acquits, notApplicable]
  | some policy =>
    obtain rfl := describes.refundPolicy policy hpolicy
    simp only [lastItems_eq last, items_snapshot, needed_some, Checked.ok_bind,
      getEvents_eq hr.ordered]
    refine acquits_of_ensure fun _ => acquits_collect ?_
    simp only [List.mem_map, mem_orderById, forall_exists_index, and_imp]
    rintro _ membership hm rfl
    simp only [membership_get, raising, Checked.ok_bind, decide_eq_true_eq, Json.toStr_str]
    split
    · rename_i ended
      obtain ⟨entitlement, he, own⟩ := exists_entitlement hr hm
      rw [← own, ownEntitlement_eq hr he, needed_some, Checked.ok_bind]
      exact endedMembership_eq hr settled hm he own ended fun cancelled =>
        nonneg membership hm cancelled entitlement he own
    · rfl

end Checks

end Oracle

end RuleArena
