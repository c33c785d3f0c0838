import RuleArena.Sandbox.Faithful

/-!
# The events of commands

The events a command appends carry its key and are of the types its action has
(`ActionName.effects`), where refunds do not repeat effects of other actions. No two actions share a type,
and an action is executed once under a key: a key is not found twice with one
type of event (`Reachable.events_once`).
-/

namespace RuleArena

/-- The types of the events of an action in a faithful environment. -/
def ActionName.effects : ActionName → List BusinessEventType
  | createUser => [.userCreated]
  | issueCoupon => [.couponIssued]
  | createOrder => [.orderCreated]
  | applyCoupon => [.couponReserved]
  | payOrder => [.couponUsed, .paymentCaptured, .pointsGranted]
  | cancelOrder => [.couponRestored, .orderCancelled]
  | refundOrder => [.refundIssued, .pointsRevoked]
  | redeemPoints => [.pointsRedeemed]
  | activateMembership => [.membershipActivated, .entitlementGranted]
  | consumeEntitlement => [.entitlementConsumed]
  | cancelMembership => [.entitlementRevoked, .membershipRefunded, .membershipCancelled]
  | inspectState => []

/-- A type of event belongs to one action. -/
theorem ActionName.effects_inj {a b : ActionName} {eventType : BusinessEventType}
    (ha : eventType ∈ a.effects) (hb : eventType ∈ b.effects) : a = b := by
  revert ha hb
  cases a <;> cases b <;> simp only [effects, List.mem_cons, List.not_mem_nil, or_false] <;>
    rintro (rfl | rfl | rfl) <;> simp

theorem ActionName.effects_nodup (a : ActionName) : a.effects.Nodup := by cases a <;> decide

/-- What a reader of an event finds in its payload: a consumption is of a positive
    quantity, and an event about the points of an order names the order and the
    points. -/
def BusinessEvent.Legible (event : BusinessEvent) : Prop :=
  (event.eventType = .entitlementConsumed → 0 < event.quantity "quantity") ∧
  (event.eventType = .pointsGranted ∨ event.eventType = .pointsRevoked →
    ∃ orderId points, (Json.obj event.payload).get? "order_id" = some (.str orderId) ∧
      (Json.obj event.payload).get? "amount" = some (.int points))

/-- A refund may have effects that another action has too: used coupons come back, as
    those of cancelled orders do, or points are granted, as for payments. -/
def SandboxProfile.repeatsEffects (profile : SandboxProfile) : Bool :=
  profile.restoresCouponAfterFullRefund || profile.grantsPointsAgainOnRefund

namespace RunSpace

variable {run run' run'' : RunSpace} {command : ActionCommand} {key : String} {now : Nat}
  {outcome : Outcome} {types types' : List BusinessEventType}

/-- The second run has events of some types under a key besides those of the first. -/
def Appends (run run' : RunSpace) (key : String) (types : List BusinessEventType) : Prop :=
  ∃ added, run'.epochEvents = run.epochEvents ++ added ∧ added.map (·.eventType) = types ∧
    ∀ event ∈ added, event.idempotencyKey = key ∧ event.Legible

theorem Appends.of_rows (h : run'.epochEvents = run.epochEvents := by rfl) :
    Appends run run' key [] :=
  ⟨[], by simp [h], rfl, by simp⟩

theorem Appends.trans (h : Appends run run' key types) (h' : Appends run' run'' key types') :
    Appends run run'' key (types ++ types') := by
  obtain ⟨added, e, rfl, ok⟩ := h
  obtain ⟨added', e', rfl, ok'⟩ := h'
  refine ⟨added ++ added', by rw [e', e, List.append_assoc], by simp, fun event hm => ?_⟩
  rcases List.mem_append.1 hm with hm | hm
  · exact ok event hm
  · exact ok' event hm

theorem Appends.rows (h : Appends run run' key types)
    (e : run''.epochEvents = run'.epochEvents := by rfl) : Appends run run'' key types := by
  simpa using h.trans (.of_rows e)

/-- An event that can be read. -/
theorem Appends.addLegible (h : Appends run run' key types) (aggregateType : AggregateType)
    (aggregateId : String) (eventType : BusinessEventType) (payload : List (String × Json))
    (now : Nat)
    (legible : (run'.newEvent aggregateType aggregateId eventType payload key now).Legible) :
    Appends run (run'.addEvent aggregateType aggregateId eventType payload key now) key
      (types ++ [eventType]) := by
  refine h.trans ⟨[_], epochEvents_addEvent .., rfl, fun event hm => ?_⟩
  rw [List.mem_singleton.1 hm]
  exact ⟨rfl, legible⟩

/-- An event about which there is nothing to read. -/
theorem Appends.addEvent (h : Appends run run' key types) (aggregateType : AggregateType)
    (aggregateId : String) (eventType : BusinessEventType) (payload : List (String × Json))
    (now : Nat)
    (other : eventType ∉ [.entitlementConsumed, .pointsGranted, .pointsRevoked] := by decide) :
    Appends run (run'.addEvent aggregateType aggregateId eventType payload key now) key
      (types ++ [eventType]) := by
  simp only [List.mem_cons, List.not_mem_nil, or_false, not_or] at other
  refine h.addLegible _ _ _ _ _ ⟨fun e => absurd e other.1, fun e => ?_⟩
  rcases e with e | e
  · exact absurd e other.2.1
  · exact absurd e other.2.2

/-- An event about the points of an order. -/
theorem Appends.addPoints (h : Appends run run' key types) (aggregateType : AggregateType)
    (aggregateId userId orderId : String) (eventType : BusinessEventType) (points : Int) (now : Nat)
    (other : eventType ≠ .entitlementConsumed := by decide) :
    Appends run (run'.addEvent aggregateType aggregateId eventType [("user_id", .str userId),
      ("order_id", .str orderId), ("amount", .int points)] key now) key (types ++ [eventType]) :=
  h.addLegible _ _ _ _ _ ⟨fun e => absurd e other, fun _ => ⟨orderId, points, rfl, rfl⟩⟩

/-! ## Handlers -/

theorem useCoupon_appends {order : Order} (h : run.useCoupon key now order = .ok run') :
    ∃ types, (types = [] ∨ types = [.couponUsed]) ∧ Appends run run' key types := by
  rcases useCoupon_ok h with ⟨-, rfl⟩ | ⟨_, -, -, -, -, rfl⟩
  · exact ⟨_, .inl rfl, .of_rows⟩
  · exact ⟨_, .inr rfl, Appends.addEvent .of_rows ..⟩

theorem releaseCoupon_appends {order : Order} (h : run.releaseCoupon key now order = .ok run') :
    ∃ types, (types = [] ∨ types = [.couponRestored]) ∧ Appends run run' key types := by
  rcases releaseCoupon_ok h with rfl | ⟨_, -, -, -, -, rfl⟩
  · exact ⟨_, .inl rfl, .of_rows⟩
  · exact ⟨_, .inr rfl, Appends.addEvent .of_rows ..⟩

theorem grantPoints_appends {user : TestUser} {order : Order} {points : Int} {ledgerKey : String}
    (h : run.grantPoints key now user order points ledgerKey = .ok run') :
    Appends run run' key [.pointsGranted] := by
  rw [grantPoints_ok h]
  exact Appends.addPoints .of_rows ..

theorem refundPoints_appends {user : TestUser} {order : Order} {amount : Int}
    (h : run.refundPoints key now user order amount = .ok run') :
    ∃ types, (types = [] ∨ types = [.pointsRevoked] ∨
      run.profile.grantsPointsAgainOnRefund = true ∧ types = [.pointsGranted]) ∧
      Appends run run' key types := by
  rcases refundPoints_ok h with ⟨-, rfl⟩ | ⟨-, hp, h⟩ | ⟨-, -, h⟩
  · exact ⟨_, .inl rfl, .of_rows⟩
  · exact ⟨_, .inr (.inr ⟨hp, rfl⟩), grantPoints_appends h⟩
  · rcases revokePoints_ok h with ⟨-, rfl⟩ | ⟨_, -, -, -, rfl⟩
    · exact ⟨_, .inl rfl, .of_rows⟩
    · exact ⟨_, .inr (.inl rfl), Appends.addPoints .of_rows ..⟩

theorem restoreCoupon_appends {order : Order} (h : run.restoreCoupon key now order = .ok run') :
    ∃ types, (types = [] ∨ run.profile.restoresCouponAfterFullRefund = true ∧
      types = [.couponRestored]) ∧ Appends run run' key types := by
  rcases restoreCoupon_ok h with rfl | ⟨_, hp, -, -, rfl⟩
  · exact ⟨_, .inl rfl, .of_rows⟩
  · exact ⟨_, .inr ⟨hp.1, rfl⟩, Appends.addEvent .of_rows ..⟩

theorem revokeEntitlement_appends {allowed : Bool} {entitlement : Entitlement}
    (h : run.revokeEntitlement key now allowed entitlement = .ok run') :
    ∃ types, (types = [] ∨ types = [.entitlementRevoked]) ∧ Appends run run' key types := by
  rcases revokeEntitlement_ok h with ⟨-, rfl⟩ | ⟨-, -, rfl⟩
  · exact ⟨_, .inl rfl, .of_rows⟩
  · exact ⟨_, .inr rfl, Appends.addEvent .of_rows ..⟩

/-- A handler appends events of the types of its action, but for a refund that
    repeats effects. -/
theorem handler_appends [Python] (h : run.handler command key now = .ok (run', outcome)) :
    ∃ types, (run.profile.repeatsEffects = false → types.Sublist command.action.effects) ∧
      Appends run run' key types := by
  unfold handler at h
  split at h <;> rename_i ha <;> rw [ha]
  · obtain ⟨_, _, -, -, rfl⟩ := createUser_ok h
    exact ⟨_, fun _ => .refl _, Appends.addEvent .of_rows ..⟩
  · obtain ⟨_, _, _, _, -, -, -, rfl⟩ := issueCoupon_ok h
    exact ⟨_, fun _ => .refl _, Appends.addEvent .of_rows ..⟩
  · obtain ⟨_, _, _, -, -, rfl⟩ := createOrder_ok h
    exact ⟨_, fun _ => .refl _, Appends.addEvent .of_rows ..⟩
  · obtain ⟨_, _, -, -, -, -, -, rfl⟩ := applyCoupon_ok h
    exact ⟨_, fun _ => .refl _, Appends.addEvent .of_rows ..⟩
  · obtain ⟨order, _, r, -, -, -, -, -, -, hr, h⟩ := payOrder_ok h
    obtain ⟨types, ht, used⟩ := useCoupon_appends hr
    have used : Appends run r key types := Appends.trans .of_rows used
    rcases h with ⟨-, rfl⟩ | ⟨-, h⟩
    · exact ⟨_, fun _ => by rcases ht with rfl | rfl <;> decide, used.addEvent ..⟩
    · have captured : ∀ payload, Appends run ((r.addEvent .order order.id .paymentCaptured payload
          key now).setOrder (order.captured.withPoints (pointsFor order.price))) key
          (types ++ [.paymentCaptured]) := fun _ => (used.addEvent ..).rows
      exact ⟨_, fun _ => by rcases ht with rfl | rfl <;> decide, (captured _).trans (grantPoints_appends h)⟩
  · obtain ⟨_, r, -, -, hr, rfl⟩ := cancelOrder_ok h
    obtain ⟨types, ht, released⟩ := releaseCoupon_appends hr
    exact ⟨_, fun _ => by rcases ht with rfl | rfl <;> decide, released.rows.addEvent ..⟩
  · obtain ⟨order, user, amount, r, -, -, -, -, -, -, -, hr, h, -⟩ := refundOrder_ok h
    have refunded : Appends run (run.refunded user order amount key now) key [.refundIssued] :=
      Appends.addEvent .of_rows ..
    obtain ⟨types, ht, revoked⟩ := refundPoints_appends hr
    obtain ⟨types', ht', restored⟩ := restoreCoupon_appends h
    refine ⟨_, fun once => ?_, (refunded.trans revoked).trans restored⟩
    rw [refunded_frame.profile] at ht
    rw [(refundPoints_frame hr).profile, refunded_frame.profile] at ht'
    simp only [SandboxProfile.repeatsEffects, Bool.or_eq_false_iff] at once
    simp only [once, Bool.false_eq_true, false_and, or_false] at ht ht'
    rcases ht with rfl | rfl <;> rw [ht'] <;> decide
  · obtain ⟨_, _, -, -, -, rfl⟩ := redeemPoints_ok h
    exact ⟨_, fun _ => .refl _, Appends.addEvent .of_rows ..⟩
  · obtain ⟨_, _, _, _, -, -, -, -, -, rfl⟩ := activateMembership_ok h
    exact ⟨_, fun _ => .refl _, Appends.addEvent (Appends.addEvent .of_rows ..) ..⟩
  · obtain ⟨entitlement, quantity, -, hq, -, -, -, rfl⟩ := consumeEntitlement_ok h
    refine ⟨_, fun _ => .refl _, Appends.addLegible .of_rows _ _ _ _ _ ⟨fun _ => hq, ?_⟩⟩
    rintro (e | e) <;> cases e
  · obtain ⟨_, _, _, r, -, -, -, -, ⟨-, hr, rfl⟩ | ⟨hr, rfl⟩⟩ := cancelMembership_ok h
    all_goals
      obtain ⟨types, ht, revoked⟩ := revokeEntitlement_appends hr
      exact ⟨_, fun _ => by rcases ht with rfl | rfl <;> decide,
        (Appends.trans .of_rows revoked).addEvent ..⟩
  · rw [inspectState_ok h]
    exact ⟨_, fun _ => .refl _, .of_rows⟩

/-! ## Runs -/

/-- The events of the epoch come from commands that have a receipt, and a key is
    not found twice with one type of event. -/
structure EventsOnce (run : RunSpace) : Prop where
  receipt : ∀ event ∈ run.epochEvents, ∃ record ∈ run.epochReceipts,
    event.eventType ∈ record.actionType.effects ∧ record.idempotencyKey = event.idempotencyKey
  once : (run.epochEvents.map fun event => (event.eventType, event.idempotencyKey)).Nodup
  legible : ∀ event ∈ run.epochEvents, event.Legible

/-- Events of a command whose action and key have no receipt. -/
theorem EventsOnce.appends (h : EventsOnce run) (record : ActionReceiptRecord)
    (ha : Appends run run' record.idempotencyKey types)
    (ht : types.Sublist record.actionType.effects)
    (new : run.existing record.actionType record.idempotencyKey = none)
    (receipts : run'.epochReceipts = run.epochReceipts ++ [record]) : EventsOnce run' := by
  obtain ⟨added, e, rfl, ok⟩ := ha
  have types : ∀ event ∈ added, event.eventType ∈ record.actionType.effects := fun event hm =>
    ht.subset (List.mem_map_of_mem hm)
  refine ⟨fun event hm => ?_, ?_, fun event hm => ?_⟩
  · rw [receipts]
    rcases List.mem_append.1 (e ▸ hm) with hm | hm
    · obtain ⟨old, hold, h⟩ := h.receipt event hm
      exact ⟨old, List.mem_append_left _ hold, h⟩
    · exact ⟨record, List.mem_append_right _ (List.mem_singleton.2 rfl), types event hm,
        (ok event hm).1.symm⟩
  · rw [e, List.map_append, List.nodup_append]
    refine ⟨h.once, ?_, ?_⟩
    · have nodup : (added.map (·.eventType)).Nodup := ht.nodup (ActionName.effects_nodup _)
      refine List.Nodup.of_map Prod.fst ?_
      simpa [Function.comp_def] using nodup
    · -- An old event of the same type and key has a receipt of the action under the key.
      rintro a ha b hb rfl
      obtain ⟨old, hold, rfl⟩ := List.mem_map.1 ha
      obtain ⟨event, hm, heq⟩ := List.mem_map.1 hb
      simp only [Prod.mk.injEq] at heq
      obtain ⟨r, hr, heff, hkey⟩ := h.receipt old hold
      have same := ActionName.effects_inj heff (heq.1 ▸ types event hm)
      refine List.find?_eq_none.1 new r hr ?_
      simp [same, hkey, ← heq.2, (ok event hm).1]
  · rcases List.mem_append.1 (e ▸ hm) with hm | hm
    · exact h.legible event hm
    · exact (ok event hm).2

/-- Where refunds do not repeat effects, no key is found twice with one type of event. -/
theorem Reachable.events_single [Python] (h : Reachable run)
    (once : run.profile.repeatsEffects = false) : EventsOnce run := by
  refine h.induct (P := fun run => run.profile.repeatsEffects = false → EventsOnce run)
    (fun _ _ _ => ⟨by simp [createRun, epochEvents], by simp [createRun, epochEvents],
      by simp [createRun, epochEvents]⟩) (fun run op hr ih hf => ?_) once
  cases op with
  | reset =>
    have none : (run.apply .reset).epochEvents = [] := hr.ordered.epochEvents_reset
    exact ⟨by simp [none], by simp [none], by simp [none]⟩
  | execute command uuid now =>
    rw [RunSpace.apply] at hf ⊢
    rcases execute_cases run command now uuid with e | ⟨record, new, hp, -⟩
    · rw [e] at hf ⊢
      exact ih hf
    · have receipts := perform_receipts hp
      rcases perform_ok hp with ⟨-, ⟨r, outcome, hd, rfl, -, e⟩ | ⟨error, -, rfl, e⟩⟩ <;>
        rw [e] at hf receipts ⊢
      · have frame := handler_frame (dispatch_ok hd).1
        have once : run.profile.repeatsEffects = false := by rw [← frame.profile]; exact hf
        obtain ⟨types, ht, ha⟩ := handler_appends (dispatch_ok hd).1
        exact (ih once).appends (run.recordOf command (effectiveKey command uuid) now
          (.ok outcome)) (ha.rows (by rfl)) (ht once) new receipts
      · exact EventsOnce.appends (ih hf) (run.recordOf command (effectiveKey command uuid) now
          (.error error)) .of_rows (List.nil_sublist _) new receipts

theorem Reachable.events_once [Python] (h : Reachable run) (faithful : run.profile.Faithful) :
    EventsOnce run :=
  h.events_single (by simp [SandboxProfile.repeatsEffects, faithful.flags])

/-- In every reachable run the events can be read. -/
theorem Reachable.events_legible [Python] (h : Reachable run) :
    ∀ event ∈ run.epochEvents, event.Legible := by
  refine h.induction (P := fun run => ∀ event ∈ run.epochEvents, event.Legible)
    (by simp [createRun, epochEvents]) (fun run hr _ => ?_) ?_ fun _ _ _ ih => ih
  · rw [hr.ordered.epochEvents_reset]
    simp
  · intro run run' command key now outcome _ _ h ih event hm
    obtain ⟨types, -, added, e, -, ok⟩ := handler_appends h
    rcases List.mem_append.1 (e ▸ hm) with hm | hm
    · exact ih event hm
    · exact (ok event hm).2

end RunSpace

end RuleArena
