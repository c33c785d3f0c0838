import RuleArena.Oracle.Repeats
import RuleArena.Sandbox.Reset

/-!
# The oracle reads no labels

Which run a snapshot or an event is of, and when it was taken, is not looked at
by any check, and is in no finding.

* What a check finds in the evidence without its labels is what it finds
  (`LabelFree`). This is shown check by check, from what the checks read: the
  items of the last snapshot, the states of orders, the types and payloads of
  events.
* A receipt is different: the whole result of a request is compared with that of
  another under the same key, and the result of an inspection is a snapshot with
  its labels. What the sandbox gives back for a key it gives back again as it is,
  so that receipts may be told apart by labels only where they are not compared
  (`settle_idempotency`).

Together, the oracle reports the same of two runs that are told apart by labels
only (`evaluate_alike`).
-/

namespace RuleArena

/-- The members of a snapshot or an event that say of which run it is, and when. -/
def labelNames : List String := ["run_id", "captured_at", "occurred_at"]

namespace Json

variable {value : Json} {name : String}

theorem lookup_filter {α : Type} [DecidableEq α] {β : Type} (kept : α → Bool) {a : α}
    (keeps : kept a = true) (l : List (α × β)) :
    (l.filter fun entry => kept entry.1).lookup a = l.lookup a := by
  induction l with
  | nil => rfl
  | cons entry l ih =>
    obtain ⟨b, value⟩ := entry
    by_cases same : a = b
    · subst same
      rw [List.filter_cons, if_pos keeps, List.lookup_cons_self, List.lookup_cons_self]
    · rw [List.lookup_cons, beq_false_of_ne same, List.filter_cons]
      split_ifs
      · rw [List.lookup_cons, beq_false_of_ne same]
        exact ih
      · exact ih

/-- What is no label can be read as before. -/
theorem unlabelled_get? (other : name ∉ labelNames) :
    value.unlabelled.get? name = value.get? name := by
  cases value with
  | obj members => exact lookup_filter (· ∉ labelNames) (decide_eq_true other) members
  | _ => rfl

theorem unlabelled_get (other : name ∉ labelNames) : value.unlabelled.get name = value.get name :=
  congrArg (Option.getD · null) (unlabelled_get? other)

end Json

namespace Oracle

variable [Python] {spec : RuleSpec} {snapshots snapshots' events events' : List Json}

/-! ## What is read -/

omit [Python] in
theorem getOr_unlabelled {value : Json} {name : String} (other : name ∉ labelNames)
    (default : Json) : getOr value.unlabelled name default = getOr value name default :=
  congrArg (Option.getD · default) (Json.unlabelled_get? other)

omit [Python] in
theorem items_unlabelled (snapshot : Json) (name : String) :
    items snapshot.unlabelled name = items snapshot name := by
  unfold items
  rw [Json.unlabelled_get (by decide)]

omit [Python] in
theorem lastItems_unlabelled (snapshots : List Json) (name : String) :
    lastItems (snapshots.map Json.unlabelled) name = lastItems snapshots name := by
  rw [lastItems, List.getLast?_map, lastItems]
  cases snapshots.getLast? with
  | none => rfl
  | some snapshot => exact items_unlabelled snapshot name

theorem orderStates_unlabelled (snapshots : List Json) :
    orderStates (snapshots.map Json.unlabelled) = orderStates snapshots := by
  induction snapshots with
  | nil => rfl
  | cons snapshot snapshots ih =>
    rw [List.map_cons, orderStates, orderStates, items_unlabelled, ih]

/-- The hash of a snapshot is read from it, and is no label. -/
theorem hashOf_unlabelled (snapshot : Option Json) :
    hashOf (snapshot.map Json.unlabelled) = hashOf snapshot := by
  cases snapshot with
  | none => rfl
  | some snapshot =>
    simp only [Option.map_some, hashOf]
    rw [Json.unlabelled_get (by decide)]

/-- Identifiers other than the labels are shown as they are. -/
theorem relatedIds_unlabelled {name : String} (other : name ∉ labelNames) (items : List Json) :
    relatedIds name (items.map Json.unlabelled) = relatedIds name items := by
  simp only [relatedIds, List.filter_map, List.map_map, Function.comp_def,
    Json.unlabelled_get other]

omit [Python] in
theorem eventType_unlabelled (event : Json) :
    event.unlabelled.get "event_type" = event.get "event_type" := Json.unlabelled_get (by decide)

omit [Python] in
theorem aggregateId_unlabelled (event : Json) :
    event.unlabelled.get "aggregate_id" = event.get "aggregate_id" :=
  Json.unlabelled_get (by decide)

/-- Uses of a coupon are counted by type and aggregate. -/
theorem usesOf_unlabelled (events : List Json) (couponId : String) :
    usesOf (events.map Json.unlabelled) couponId = usesOf events couponId := by
  simp only [usesOf, List.countP_map, Function.comp_def, eventType_unlabelled,
    aggregateId_unlabelled]

/-- An entry of points is read from the payload. -/
theorem pointsEntry_unlabelled (event : Json) :
    pointsEntry event.unlabelled = pointsEntry event := by
  unfold pointsEntry
  rw [Json.unlabelled_get (by decide), getOr_unlabelled (by decide)]

theorem pointsEntries_unlabelled (events : List Json) :
    pointsEntries (events.map Json.unlabelled) = pointsEntries events := by
  induction events with
  | nil => rfl
  | cons event events ih =>
    rw [List.map_cons, pointsEntries, pointsEntries, pointsEntry_unlabelled, ih]

theorem isRefundOf_unlabelled (membershipId : String) (event : Json) :
    isRefundOf membershipId event.unlabelled = isRefundOf membershipId event := by
  unfold isRefundOf
  rw [getOr_unlabelled (by decide), eventType_unlabelled, aggregateId_unlabelled]

/-- What was consumed after a refund is told by the order of the events alone. -/
theorem consumedAfterRefund_unlabelled (membershipId entitlementId : String)
    (events : List Json) : consumedAfterRefund membershipId entitlementId
      (events.map Json.unlabelled) = consumedAfterRefund membershipId entitlementId events := by
  rw [consumedAfterRefund, List.dropWhile_map, ← List.map_drop, List.any_map, consumedAfterRefund]
  simp only [Function.comp_def, isRefundOf_unlabelled, eventType_unlabelled,
    aggregateId_unlabelled]

theorem endedMembership_unlabelled (policy : RefundPolicy) (events : List Json)
    (membership entitlement : Json) :
    endedMembership policy (events.map Json.unlabelled) membership entitlement =
      endedMembership policy events membership entitlement := by
  unfold endedMembership
  simp only [consumedAfterRefund_unlabelled]

/-- A doubled effect is found by type and key. -/
theorem duplicateEffect_unlabelled (events : List Json) (key : String) :
    duplicateEffect (events.map Json.unlabelled) key = duplicateEffect events key := by
  have keyed (event : Json) :
      event.unlabelled.get "idempotency_key" = event.get "idempotency_key" :=
    Json.unlabelled_get (by decide)
  simp only [duplicateEffect, List.filter_map, List.map_map, Function.comp_def,
    eventType_unlabelled, keyed]

/-! ## What is found -/

/-- What a check finds in the evidence without its labels is what it finds. -/
def LabelFree (check : List Json → List Json → Except Exit Verdict) : Prop :=
  ∀ id snapshots events, settle id (snapshots.map Json.unlabelled)
    (check (snapshots.map Json.unlabelled) (events.map Json.unlabelled)) =
      settle id snapshots (check snapshots events)

/-- A finding shows of the snapshots only their hashes. -/
theorem finding_unlabelled (id : InvariantId) (snapshots : List Json) (verdict : Verdict) :
    finding id (snapshots.map Json.unlabelled) verdict = finding id snapshots verdict := by
  unfold finding
  rw [List.head?_map, List.getLast?_map, hashOf_unlabelled, hashOf_unlabelled]

theorem settle_unlabelled (id : InvariantId) (snapshots : List Json)
    (result : Except Exit Verdict) :
    settle id (snapshots.map Json.unlabelled) result = settle id snapshots result := by
  rcases result with (verdict | exception) | verdict
  · exact congrArg Except.ok (finding_unlabelled ..)
  · rfl
  · exact congrArg Except.ok (finding_unlabelled ..)

/-- The events of a verdict are shown by their identifiers. -/
theorem settle_conclude (id : InvariantId) (snapshots : List Json) {bad : List Json}
    {violated satisfied : String} {evidence : List (String × Json)}
    {actions actions' events events' : List Json}
    (sameActions : relatedIds "receipt_id" actions = relatedIds "receipt_id" actions')
    (sameEvents : relatedIds "event_id" events = relatedIds "event_id" events') :
    settle id snapshots (pure (conclude bad violated satisfied evidence actions events)) =
      settle id snapshots (pure (conclude bad violated satisfied evidence actions' events')) := by
  refine congrArg Except.ok ?_
  unfold conclude finding
  split_ifs <;> simp only [sameActions, sameEvents]

/-- Two checks that begin alike are settled alike if their rests are. -/
theorem settle_bind {α : Type} (id : InvariantId) (snapshots : List Json) {x : Except Exit α}
    {rest rest' : α → Except Exit Verdict}
    (same : ∀ a, settle id snapshots (rest a) = settle id snapshots (rest' a)) :
    settle id snapshots (x >>= rest) = settle id snapshots (x >>= rest') := by
  cases x with
  | error exit => rfl
  | ok a => exact same a

/-- No check reads a label: each reads states and types, and identifiers that a run
    numbers for itself. -/
theorem labelFree_netPaid : LabelFree fun snapshots _ => netPaid snapshots := by
  intro id snapshots _
  simp only [settle_unlabelled, netPaid, lastItems_unlabelled]

theorem labelFree_refundLimit : LabelFree fun snapshots _ => refundLimit snapshots := by
  intro id snapshots _
  simp only [settle_unlabelled, refundLimit, lastItems_unlabelled]

theorem labelFree_couponConsumption : LabelFree couponConsumption := by
  intro id snapshots events
  rw [settle_unlabelled, couponConsumption, lastItems_unlabelled, couponConsumption]
  simp only [usesOf_unlabelled]
  refine settle_bind id snapshots fun coupons =>
    settle_bind id snapshots fun _ => settle_bind id snapshots fun bad => ?_
  exact settle_conclude id snapshots rfl (relatedIds_unlabelled (by decide) events)

theorem labelFree_pointsConservation (spec : RuleSpec) : LabelFree (pointsConservation spec) := by
  intro id snapshots events
  rw [settle_unlabelled, pointsConservation, lastItems_unlabelled, lastItems_unlabelled,
    pointsEntries_unlabelled, pointsConservation]
  simp only [ne_eq, List.map_eq_nil_iff]
  cases spec.pointsRule with
  | none => rfl
  | some rule =>
    refine settle_bind id snapshots fun rule => settle_bind id snapshots fun orders =>
      settle_bind id snapshots fun users => settle_bind id snapshots fun entries =>
      settle_bind id snapshots fun badOrders => settle_bind id snapshots fun badUsers => ?_
    exact settle_conclude id snapshots rfl (relatedIds_unlabelled (by decide) events)

theorem labelFree_terminalMonotonicity :
    LabelFree fun snapshots _ => terminalMonotonicity snapshots := by
  intro id snapshots _
  simp only [settle_unlabelled, terminalMonotonicity, orderStates_unlabelled, List.length_map]

theorem labelFree_entitlementNonNegative :
    LabelFree fun snapshots _ => entitlementNonNegative snapshots := by
  intro id snapshots _
  simp only [settle_unlabelled, entitlementNonNegative, lastItems_unlabelled]

theorem labelFree_entitlementRefund (spec : RuleSpec) : LabelFree (entitlementRefund spec) := by
  intro id snapshots events
  rw [settle_unlabelled, entitlementRefund, lastItems_unlabelled, lastItems_unlabelled,
    entitlementRefund]
  simp only [endedMembership_unlabelled]

/-! ## Receipts -/

/-- The keys of receipts can be read without their labels. -/
theorem keyedReceipts_unlabelled (receipts : List ActionReceipt) :
    (keyedReceipts (receipts.map ActionReceipt.unlabelled)).map receiptKey =
      (keyedReceipts receipts).map receiptKey := by
  simp only [keyedReceipts, List.map_map, List.filter_map]
  rfl

/-- What is found bad of a request. -/
def badKey (receipts : List ActionReceipt) (events : List Json) (pair : String × String) :
    List Json :=
  if duplicateEffect events pair.2 ∧ 1 < (receipts.countP fun receipt =>
      receipt.actionType.actionType = pair.1 ∧ receipt.idempotencyKey = some pair.2 ∧
        receipt.status = .succeeded) then
    [.obj [("action_type", .str pair.1), ("idempotency_key", .str pair.2)]]
  else []

/-- A request is found bad for what happened under its key. -/
theorem badKey_unlabelled (receipts : List ActionReceipt) (events : List Json)
    (pair : String × String) :
    badKey (receipts.map ActionReceipt.unlabelled) (events.map Json.unlabelled) pair =
      badKey receipts events pair := by
  rw [badKey, duplicateEffect_unlabelled, List.countP_map]
  rfl

section Requests

variable {a b run : RunSpace} {receipts receipts' : List ActionReceipt}

/-- A run whose receipts they are gives one answer for each key, so that only what happened twice
    is found bad. -/
theorem idempotency_eq (hr : run.Reachable)
    (own : ∀ receipt ∈ receipts, ∃ record ∈ run.epochReceipts, receipt = record.toReceipt run.id) :
    idempotency (receipts.map ActionReceipt.toJson) run.getEvents = (do
      ensure (keyedReceipts receipts ≠ []) (insufficient "没有幂等键回执证据。")
      let bad := (distinct ((keyedReceipts receipts).map receiptKey)).flatMap
        (badKey receipts run.getEvents)
      return conclude bad "同一幂等请求产生不一致或重复副作用。" "重复请求未产生额外副作用。"
        [("keys", .arr bad)] (receipts.map ActionReceipt.toJson) run.getEvents) := by
  have texts : ∀ action key, (receipts.countP fun receipt => receipt.actionType = action ∧
      receipt.idempotencyKey = some key ∧ receipt.status = .succeeded) =
      receipts.countP fun receipt => receipt.actionType.actionType = action.actionType ∧
        receipt.idempotencyKey = some key ∧ receipt.status = .succeeded := by
    refine fun action key => List.countP_congr fun receipt _ => ?_
    simp only [decide_eq_true_eq]
    exact and_congr_left' ⟨congrArg _, ActionName.actionType_inj⟩
  rw [idempotency]
  refine congrArg _ (funext fun _ => ?_)
  rw [collect_eq (g := badKey receipts run.getEvents), Checked.ok_bind]
  · rfl
  · intro pair hm
    obtain ⟨action, key, named, rfl, -⟩ := mem_keyed.1
      (List.mem_reverse.1 (List.mem_dedup.1 (List.mem_reverse.1 hm)))
    change (successful (List.filter _ (keyedReceipts receipts)) >>= fun succeeded =>
      if 1 < ((List.filter _ (keyedReceipts receipts)).map fingerprint).dedup.length ∨ _ then _
      else _) = _
    rw [group_eq receipts action named, badKey, getEvents_eq hr.ordered,
      group_verdict hr own, texts]

/-- The identifiers of receipts are not shown: they have none. -/
theorem relatedIds_receipts (receipts : List ActionReceipt) :
    relatedIds "receipt_id" (receipts.map ActionReceipt.toJson) = [] := by
  rw [relatedIds, List.map_eq_nil_iff, List.filter_eq_nil_iff]
  rintro _ mem
  obtain ⟨receipt, -, rfl⟩ := List.mem_map.1 mem
  exact Bool.false_ne_true

/-- The check of idempotency tells two runs apart only by what it does not read. -/
theorem settle_idempotency (ha : a.Reachable) (hb : b.Reachable)
    (own : ∀ receipt ∈ receipts, ∃ record ∈ a.epochReceipts, receipt = record.toReceipt a.id)
    (own' : ∀ receipt ∈ receipts', ∃ record ∈ b.epochReceipts, receipt = record.toReceipt b.id)
    (same : receipts.map ActionReceipt.unlabelled = receipts'.map ActionReceipt.unlabelled)
    (sameEvents : a.getEvents.map Json.unlabelled = b.getEvents.map Json.unlabelled)
    (id : InvariantId) (snapshots : List Json) :
    settle id snapshots (idempotency (receipts.map ActionReceipt.toJson) a.getEvents) =
      settle id snapshots (idempotency (receipts'.map ActionReceipt.toJson) b.getEvents) := by
  have keys : (keyedReceipts receipts).map receiptKey =
      (keyedReceipts receipts').map receiptKey := by
    rw [← keyedReceipts_unlabelled receipts, same, keyedReceipts_unlabelled]
  have empty : keyedReceipts receipts ≠ [] ↔ keyedReceipts receipts' ≠ [] := by
    rw [ne_eq, ← List.map_eq_nil_iff, keys, List.map_eq_nil_iff]
  have bad : badKey receipts a.getEvents = badKey receipts' b.getEvents := by
    funext pair
    rw [← badKey_unlabelled, same, sameEvents, badKey_unlabelled]
  rw [idempotency_eq ha own, idempotency_eq hb own', keys, bad]
  simp only [empty]
  refine settle_bind id snapshots fun _ => settle_conclude id snapshots ?_ ?_
  · rw [relatedIds_receipts, relatedIds_receipts]
  · rw [← relatedIds_unlabelled (by decide), sameEvents, relatedIds_unlabelled (by decide)]

/-- What a check without labels finds is the same for evidence that is the same without them. -/
theorem LabelFree.settle {check : List Json → List Json → Except Exit Verdict}
    (h : LabelFree check) (sameStates : snapshots.map Json.unlabelled =
      snapshots'.map Json.unlabelled)
    (sameEvents : events.map Json.unlabelled = events'.map Json.unlabelled) (id : InvariantId) :
    settle id snapshots (check snapshots events) = Oracle.settle id snapshots'
      (check snapshots' events') := by
  rw [← h id snapshots events, sameStates, sameEvents, h id snapshots' events']

/-- The oracle reports the same of two runs that are told apart by labels only. -/
theorem evaluate_alike (spec : RuleSpec) (ha : a.Reachable) (hb : b.Reachable)
    (own : ∀ receipt ∈ receipts, ∃ record ∈ a.epochReceipts, receipt = record.toReceipt a.id)
    (own' : ∀ receipt ∈ receipts', ∃ record ∈ b.epochReceipts, receipt = record.toReceipt b.id)
    (sameStates : snapshots.map Json.unlabelled = snapshots'.map Json.unlabelled)
    (same : receipts.map ActionReceipt.unlabelled = receipts'.map ActionReceipt.unlabelled)
    (sameEvents : a.getEvents.map Json.unlabelled = b.getEvents.map Json.unlabelled) :
    evaluate spec snapshots (receipts.map ActionReceipt.toJson) a.getEvents =
      evaluate spec snapshots' (receipts'.map ActionReceipt.toJson) b.getEvents := by
  have requests : Oracle.settle .idempotentEffect snapshots
      (idempotency (receipts.map ActionReceipt.toJson) a.getEvents) =
      Oracle.settle .idempotentEffect snapshots'
        (idempotency (receipts'.map ActionReceipt.toJson) b.getEvents) := by
    rw [settle_idempotency ha hb own own' same sameEvents, ← settle_unlabelled, sameStates,
      settle_unlabelled]
  simp only [evaluate, checks, List.mapM_cons, List.mapM_nil]
  rw [labelFree_netPaid.settle sameStates sameEvents,
    labelFree_refundLimit.settle sameStates sameEvents,
    labelFree_couponConsumption.settle sameStates sameEvents,
    (labelFree_pointsConservation spec).settle sameStates sameEvents,
    labelFree_terminalMonotonicity.settle sameStates sameEvents,
    labelFree_entitlementNonNegative.settle sameStates sameEvents,
    (labelFree_entitlementRefund spec).settle sameStates sameEvents, requests]

end Requests

end Oracle

end RuleArena
