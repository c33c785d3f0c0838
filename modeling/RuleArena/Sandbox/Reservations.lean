import RuleArena.Sandbox.Faithful

/-!
# Reservations

A coupon is reserved for the one pending order that carries it, and used for the
one paid order that carries it; an order that was cancelled, or that was refunded
and gave its coupon back, still carries it but has no claim on it any more
(`Reservations`). So a payment always finds the coupon of its order reserved for
it, and without a defect a coupon is used once.
-/

namespace RuleArena

/-- The order has used its coupon and has not given it back: under the defect a
    full refund does. -/
def Order.Holds (order : Order) (restores : Bool) : Prop :=
  order.status = .paid ∨ order.status = .partiallyRefunded ∨
    (order.status = .refunded ∧ restores = false)

namespace RunSpace

/-- The coupons and the orders that carry them agree. -/
structure Reservations (run : RunSpace) : Prop where
  issued : ∀ order ∈ run.orders, ∀ id ∈ order.couponId, id ∈ run.coupons.map Coupon.id
  pending : ∀ order ∈ run.orders, ∀ coupon ∈ run.coupons, order.couponId = some coupon.id →
    order.status = .pendingPayment →
      coupon.status = .reserved ∧ coupon.reservedOrderId = some order.id
  held : ∀ order ∈ run.orders, ∀ coupon ∈ run.coupons, order.couponId = some coupon.id →
    order.Holds run.profile.restoresCouponAfterFullRefund →
      coupon.status = .used ∧ coupon.usedOrderId = some order.id
  reserved : ∀ coupon ∈ run.coupons, coupon.status = .reserved → ∃ order ∈ run.orders,
    order.status = .pendingPayment ∧ order.couponId = some coupon.id ∧
      coupon.reservedOrderId = some order.id
  free : ∀ coupon ∈ run.coupons, coupon.status ≠ .reserved → coupon.reservedOrderId = none

variable {run run' : RunSpace} {command : ActionCommand} {key : String} {now : Nat}
  {outcome : Outcome}

namespace Reservations

theorem of_rows (h : Reservations run) (orders : run'.orders = run.orders := by rfl)
    (coupons : run'.coupons = run.coupons := by rfl)
    (profile : run'.profile = run.profile := by rfl) : Reservations run' := by
  constructor
  · rw [orders, coupons]; exact h.issued
  · rw [orders, coupons]; exact h.pending
  · rw [orders, coupons, profile]; exact h.held
  · rw [orders, coupons]; exact h.reserved
  · rw [coupons]; exact h.free

/-- A new coupon is carried by no order. -/
theorem addCoupon (h : Reservations run) (coupon : Coupon)
    (fresh : Table.find? Coupon.id run.coupons coupon.id = none) (hs : coupon.status ≠ .reserved)
    (free : coupon.reservedOrderId = none) : Reservations (run.addCoupon coupon) := by
  have unknown : ∀ order ∈ run.orders, order.couponId ≠ some coupon.id := fun order hm e =>
    Table.find?_eq_none.1 fresh (h.issued order hm _ e)
  refine ⟨fun order hm id hid => ?_, fun order hm c hc e => ?_, fun order hm c hc e => ?_,
    fun c hc e => ?_, fun c hc e => ?_⟩
  · simpa using .inl (List.mem_map.1 (h.issued order hm id hid))
  · rcases List.mem_append.1 hc with hc | hc
    · exact h.pending order hm c hc e
    · exact absurd (List.mem_singleton.1 hc ▸ e) (unknown order hm)
  · rcases List.mem_append.1 hc with hc | hc
    · exact h.held order hm c hc e
    · exact absurd (List.mem_singleton.1 hc ▸ e) (unknown order hm)
  · rcases List.mem_append.1 hc with hc | hc
    · exact h.reserved c hc e
    · exact absurd (List.mem_singleton.1 hc ▸ e) hs
  · rcases List.mem_append.1 hc with hc | hc
    · exact h.free c hc e
    · exact List.mem_singleton.1 hc ▸ free

/-- A new order carries no coupon. -/
theorem addOrder (h : Reservations run) (order : Order) (none : order.couponId = none) :
    Reservations (run.addOrder order) := by
  refine ⟨fun o hm id hid => ?_, fun o hm c hc e => ?_, fun o hm c hc e => ?_,
    fun c hc e => ?_, h.free⟩
  · rcases List.mem_append.1 hm with hm | hm
    · exact h.issued o hm id hid
    · rw [List.mem_singleton.1 hm, none] at hid
      cases hid
  · rcases List.mem_append.1 hm with hm | hm
    · exact h.pending o hm c hc e
    · rw [List.mem_singleton.1 hm, none] at e
      cases e
  · rcases List.mem_append.1 hm with hm | hm
    · exact h.held o hm c hc e
    · rw [List.mem_singleton.1 hm, none] at e
      cases e
  · obtain ⟨o, hm, h⟩ := h.reserved c hc e
    exact ⟨o, List.mem_append_left _ hm, h⟩

/-- An order changes and its coupon stays: it had none, or it does not gain a claim
    and had reserved none. -/
theorem setOrder (h : Reservations run) (keyed : Table.Keyed Order.id run.orders) (order : Order)
    {old : Order}
    (ho : Table.find? Order.id run.orders order.id = some old)
    (same : order.couponId = old.couponId)
    (claims : old.couponId = none ∨ old.status ≠ .pendingPayment ∧
      order.status ≠ .pendingPayment ∧ (order.Holds run.profile.restoresCouponAfterFullRefund →
        old.Holds run.profile.restoresCouponAfterFullRefund)) :
    Reservations (run.setOrder order) := by
  have hold := Table.mem_of_find? ho
  have hid : old.id = order.id := Table.key_of_find? ho
  refine ⟨fun o hm id he => ?_, fun o hm c hc e hs => ?_, fun o hm c hc e hs => ?_,
    fun c hc e => ?_, h.free⟩
  · rcases Table.mem_update hm with rfl | ⟨hm, -⟩
    · exact h.issued old hold id (same ▸ he)
    · exact h.issued o hm id he
  · rcases Table.mem_update hm with rfl | ⟨hm, -⟩
    · rcases claims with none | ⟨-, not, -⟩
      · rw [same, none] at e
        cases e
      · exact absurd hs not
    · exact h.pending o hm c hc e hs
  · rcases Table.mem_update hm with rfl | ⟨hm, -⟩
    · rcases claims with none | ⟨-, -, holds⟩
      · rw [same, none] at e
        cases e
      · exact hid ▸ h.held old hold c hc (same ▸ e) (holds hs)
    · exact h.held o hm c hc e hs
  · obtain ⟨o, hm, hs, hc', hr⟩ := h.reserved c hc e
    refine ⟨o, List.mem_map.2 ⟨o, hm, if_neg fun he => ?_⟩, hs, hc', hr⟩
    -- The order that changes had not reserved a coupon.
    obtain rfl : o = old := by
      have := Table.find?_of_mem keyed hm
      rw [he, ho] at this
      exact (Option.some.inj this).symm
    rcases claims with none | ⟨not, -⟩
    · rw [none] at hc'
      cases hc'
    · exact not hs

/-- Where an order has a claim on a coupon no other order has one. -/
theorem alone (h : Reservations run) {order : Order} {coupon : Coupon} (hm : order ∈ run.orders)
    (hc : coupon ∈ run.coupons) (carries : order.couponId = some coupon.id)
    (claim : order.status = .pendingPayment ∨
      order.Holds run.profile.restoresCouponAfterFullRefund) :
    ∀ o ∈ run.orders, o.id ≠ order.id → o.couponId = some coupon.id →
      o.status ≠ .pendingPayment ∧ ¬ o.Holds run.profile.restoresCouponAfterFullRefund := by
  intro o ho ne e
  rcases claim with hs | hs
  · have mine := h.pending order hm coupon hc carries hs
    refine ⟨fun hs' => ne ?_, fun hs' => ?_⟩
    · have theirs := h.pending o ho coupon hc e hs'
      exact Option.some.inj (theirs.2.symm.trans mine.2)
    · have theirs := h.held o ho coupon hc e hs'
      rw [mine.1] at theirs
      cases theirs.1
  · have mine := h.held order hm coupon hc carries hs
    refine ⟨fun hs' => ?_, fun hs' => ne ?_⟩
    · have theirs := h.pending o ho coupon hc e hs'
      rw [mine.1] at theirs
      cases theirs.1
    · have theirs := h.held o ho coupon hc e hs'
      exact Option.some.inj (theirs.2.symm.trans mine.2)

/-- No order has a claim on a coupon that can be applied. -/
theorem unclaimed (h : Reservations run) {coupon : Coupon} (hc : coupon ∈ run.coupons)
    (available : coupon.status = .available ∨ coupon.status = .restored) :
    ∀ o ∈ run.orders, o.couponId = some coupon.id →
      o.status ≠ .pendingPayment ∧ ¬ o.Holds run.profile.restoresCouponAfterFullRefund := by
  intro o ho e
  refine ⟨fun hs => ?_, fun hs => ?_⟩
  · have := (h.pending o ho coupon hc e hs).1
    rcases available with ha | ha <;> rw [ha] at this <;> cases this
  · have := (h.held o ho coupon hc e hs).1
    rcases available with ha | ha <;> rw [ha] at this <;> cases this

/-- An order and its coupon change together, and no other order has a claim on the
    coupon. -/
theorem set (h : Reservations run) (keyed : Table.Keyed Order.id run.orders) (order : Order)
    (coupon : Coupon) {old : Order} {oldCoupon : Coupon}
    (ho : Table.find? Order.id run.orders order.id = some old)
    (hc : Table.find? Coupon.id run.coupons coupon.id = some oldCoupon)
    (carries : order.couponId = some coupon.id)
    (was : old.couponId = none ∨ old.couponId = some coupon.id)
    (alone : ∀ o ∈ run.orders, o.id ≠ order.id → o.couponId = some coupon.id →
      o.status ≠ .pendingPayment ∧ ¬ o.Holds run.profile.restoresCouponAfterFullRefund)
    (pending : order.status = .pendingPayment →
      coupon.status = .reserved ∧ coupon.reservedOrderId = some order.id)
    (held : order.Holds run.profile.restoresCouponAfterFullRefund →
      coupon.status = .used ∧ coupon.usedOrderId = some order.id)
    (reserved : coupon.status = .reserved →
      order.status = .pendingPayment ∧ coupon.reservedOrderId = some order.id)
    (free : coupon.status ≠ .reserved → coupon.reservedOrderId = none) :
    Reservations ((run.setOrder order).setCoupon coupon) := by
  have keys : (Table.update Coupon.id run.coupons coupon).map Coupon.id =
      run.coupons.map Coupon.id := Table.map_key_update _ _
  have here : coupon.id ∈ run.coupons.map Coupon.id := by
    rw [← Table.key_of_find? hc]
    exact List.mem_map_of_mem (Table.mem_of_find? hc)
  refine ⟨fun o hm id hid => ?_, fun o hm c hc' e hs => ?_, fun o hm c hc' e hs => ?_,
    fun c hc' e => ?_, fun c hc' e => ?_⟩
  · rw [setCoupon_coupons, setOrder_coupons, keys]
    rcases Table.mem_update hm with rfl | ⟨hm, -⟩
    · exact Option.some.inj (carries.symm.trans hid) ▸ here
    · exact h.issued o hm id hid
  · rcases Table.mem_update hm with rfl | ⟨mo, ne⟩ <;>
      rcases Table.mem_update hc' with rfl | ⟨mc, ne'⟩
    · exact pending hs
    · exact absurd (Option.some.inj (e.symm.trans carries)) ne'
    · exact absurd hs (alone o mo ne e).1
    · exact h.pending o mo c mc e hs
  · rcases Table.mem_update hm with rfl | ⟨mo, ne⟩ <;>
      rcases Table.mem_update hc' with rfl | ⟨mc, ne'⟩
    · exact held hs
    · exact absurd (Option.some.inj (e.symm.trans carries)) ne'
    · exact absurd hs (alone o mo ne e).2
    · exact h.held o mo c mc e hs
  · rcases Table.mem_update hc' with rfl | ⟨hc', ne'⟩
    · exact ⟨order, Table.mem_update_self ho, (reserved e).1, carries, (reserved e).2⟩
    · obtain ⟨o, hm, hs, hoc, hr⟩ := h.reserved c hc' e
      refine ⟨o, List.mem_map.2 ⟨o, hm, if_neg fun he => ?_⟩, hs, hoc, hr⟩
      -- The order that changes carried no coupon but this one.
      obtain rfl : o = old := by
        have := Table.find?_of_mem keyed hm
        rw [he, ho] at this
        exact (Option.some.inj this).symm
      rcases was with was | was <;> rw [was] at hoc
      · cases hoc
      · exact ne' (Option.some.inj hoc).symm
  · rcases Table.mem_update hc' with rfl | ⟨hc', -⟩
    · exact free e
    · exact h.free c hc' e

end Reservations

/-! ## Handlers -/

/-- The pending order that pays has its coupon reserved for it. -/
theorem Reservations.pay (h : Reservations run) (storable : run.Storable) {order : Order}
    (ho : Table.find? Order.id run.orders order.id = some order)
    (hs : order.status = .pendingPayment) {user : TestUser} {r : RunSpace}
    (hr : ((run.setUser user).setOrder order.captured).useCoupon key now order.captured = .ok r)
    (paid : Order) (hid : paid.id = order.id) (hp : paid.status = .paid)
    (hc : paid.couponId = order.couponId) (orders : run'.orders = Table.update Order.id run.orders paid)
    (coupons : run'.coupons = r.coupons) (profile : run'.profile = run.profile) :
    Reservations run' := by
  have hm := Table.mem_of_find? ho
  rcases useCoupon_ok hr with ⟨hn, rfl⟩ | ⟨coupon, carries, hc', hcs, -, rfl⟩
  · have hn : order.couponId = none := hn
    exact (h.setOrder storable.orders_keyed paid (hid ▸ ho) hc (.inl hn)).of_rows orders coupons
      profile
  · have carries : order.couponId = some coupon.id := carries
    have mc : coupon ∈ run.coupons := Table.mem_of_find? hc'
    refine Reservations.of_rows (h.set storable.orders_keyed paid (coupon.usedFor order.id)
      (hid ▸ ho) hc' (hc.trans carries) (.inr carries) ?_ (fun e => ?_) (fun _ => ?_) nofun
      fun _ => rfl) orders coupons profile
    · rw [hid]
      exact fun o ho ne e => h.alone hm mc carries (.inl hs) o ho ne e
    · rw [hp] at e
      cases e
    · exact ⟨rfl, by rw [hid]; rfl⟩

/-- An order that is cancelled gives up the coupon that was reserved for it. -/
theorem Reservations.cancel (h : Reservations run) (storable : run.Storable) {order : Order}
    {r : RunSpace} (ho : Table.find? Order.id run.orders order.id = some order)
    (hrel : run.releaseCoupon key now order = .ok r)
    (orders : run'.orders = (r.setOrder (order.withStatus .cancelled)).orders)
    (coupons : run'.coupons = r.coupons) (profile : run'.profile = r.profile) :
    Reservations run' := by
  have keyed := storable.orders_keyed
  have hm := Table.mem_of_find? ho
  have holds : ¬ (order.withStatus .cancelled).Holds run.profile.restoresCouponAfterFullRefund := by
    rintro (e | e | ⟨e, -⟩) <;> cases e
  by_cases pending : order.status = .pendingPayment ∧ order.couponId ≠ none
  · -- The coupon of a pending order is reserved for it, and released.
    obtain ⟨id, carries⟩ := Option.ne_none_iff_exists'.1 pending.2
    obtain ⟨coupon, mc, rfl⟩ := List.mem_map.1 (h.issued order hm id carries)
    have mine := h.pending order hm coupon mc carries pending.1
    have found := Table.find?_of_mem storable.coupons_keyed mc
    obtain rfl := releaseCoupon_reserved hrel carries found mine.1 mine.2
    exact (h.set keyed (order.withStatus .cancelled) coupon.released ho found carries
      (.inr carries) (fun o mo ne e => h.alone hm mc carries (.inl pending.1) o mo ne e)
      (fun e => by cases e) (fun e => absurd e holds) (fun e => by cases e) fun _ => rfl).of_rows
        orders coupons profile
  · rw [not_and_or, not_not] at pending
    rcases releaseCoupon_ok hrel with rfl | ⟨coupon, carries, hc, hcs, hco, rfl⟩
    · refine (h.setOrder keyed (order.withStatus .cancelled) ho rfl ?_).of_rows orders coupons
        profile
      rcases pending with not | none
      · exact .inr ⟨not, by rintro ⟨⟩, fun e => absurd e holds⟩
      · exact .inl none
    · -- The order that a coupon is reserved for is pending and carries it.
      obtain ⟨o, mo, hs', hoc, hro⟩ := h.reserved coupon (Table.mem_of_find? hc) hcs
      have same : o = order := by
        have := Table.find?_of_mem keyed mo
        rw [← Option.some.inj (hro.symm.trans hco).symm, ho] at this
        exact (Option.some.inj this).symm
      subst same
      rcases pending with not | none
      · exact absurd hs' not
      · rw [none] at hoc
        cases hoc

/-- An order that is refunded keeps its coupon, or gives it back with all that was
    paid. -/
theorem Reservations.refund (h : Reservations run) (storable : run.Storable) {order : Order}
    {amount : Int} {r : RunSpace} (ho : Table.find? Order.id run.orders order.id = some order)
    (hs : order.status = .paid ∨ order.status = .partiallyRefunded)
    (hc : r.restoreCoupon key now (order.refund amount) = .ok run')
    (orders : r.orders = (run.setOrder (order.refund amount)).orders)
    (coupons : r.coupons = run.coupons) (profile : r.profile = run.profile) :
    Reservations run' := by
  have keyed := storable.orders_keyed
  have hm := Table.mem_of_find? ho
  have holds : order.Holds run.profile.restoresCouponAfterFullRefund := by
    rcases hs with hs | hs
    · exact .inl hs
    · exact .inr (.inl hs)
  have notPending : order.status ≠ .pendingPayment := by
    rcases hs with hs | hs <;> rw [hs] <;> decide
  have notPending' : (order.refund amount).status ≠ .pendingPayment := by
    rw [Order.refund_status]
    split <;> decide
  rcases restoreCoupon_ok hc with rfl | ⟨coupon, restores, carries, hf, rfl⟩
  · exact (h.setOrder keyed (order.refund amount) ho rfl
      (.inr ⟨notPending, notPending', fun _ => holds⟩)).of_rows orders coupons profile
  · rw [coupons] at hf
    have mc : coupon ∈ run.coupons := Table.mem_of_find? hf
    have mine := h.held order hm coupon mc carries holds
    have free := h.free coupon mc (by rw [mine.1]; decide)
    rw [profile] at restores
    refine (h.set keyed (order.refund amount) coupon.givenBack ho hf carries (.inr carries)
      (fun o mo ne e => h.alone hm mc carries (.inr holds) o mo ne e)
      (fun e => absurd e notPending') (fun e => ?_) (fun e => by cases e)
      fun _ => free).of_rows orders ?_ profile
    · -- A refunded order has given its coupon back.
      rcases e with e | e | ⟨-, e⟩
      · rw [restores.2] at e; cases e
      · rw [restores.2] at e; cases e
      · rw [restores.1] at e; cases e
    · rw [addEvent_coupons, setCoupon_coupons, coupons]
      rfl

theorem handler_reservations [Python] (storable : run.Storable) (storable' : run'.Storable)
    (h : run.handler command key now = .ok (run', outcome)) (hr : Reservations run) :
    Reservations run' := by
  have keyed := storable.orders_keyed
  unfold handler at h
  split at h
  · obtain ⟨_, _, -, -, rfl⟩ := createUser_ok h
    exact hr.of_rows
  · obtain ⟨_, _, _, _, -, -, -, rfl⟩ := issueCoupon_ok h
    exact (hr.addCoupon _ (fresh_of_keyed storable'.coupons_keyed) (by simp) rfl).of_rows
  · obtain ⟨_, _, _, -, -, rfl⟩ := createOrder_ok h
    exact (hr.addOrder _ rfl).of_rows
  · obtain ⟨order, coupon, ho, hc, hn, hs, ha, rfl⟩ := applyCoupon_ok h
    have hm := Table.mem_of_find? hc
    refine (hr.set keyed (order.discountedBy coupon) (coupon.reservedFor order.id) ho hc rfl
      (.inl hn) (fun o ho _ e => hr.unclaimed hm ha o ho e) (fun _ => ⟨rfl, rfl⟩) (fun e => ?_)
      (fun _ => ⟨hs, rfl⟩) fun e => absurd rfl e).of_rows
    rcases e with e | e | ⟨e, -⟩ <;> rw [Order.discountedBy_status, hs] at e <;> cases e
  · obtain ⟨order, user, r, -, ho, hs, -, -, -, hu, ⟨-, rfl⟩ | ⟨-, h⟩⟩ := payOrder_ok h
    · exact hr.pay storable ho hs hu order.captured rfl rfl rfl (useCoupon_rows hu).2.1 rfl
        (useCoupon_writes hu).frame.profile
    · have rows := grantPoints_rows h
      refine hr.pay storable ho hs hu (order.captured.withPoints (pointsFor order.price)) rfl rfl rfl
        ?_ rows.2.2.1 ((grantPoints_writes h).frame.profile.trans (useCoupon_writes hu).frame.profile)
      rw [rows.2.1, setOrder_orders, addEvent_orders, (useCoupon_rows hu).2.1]
      exact Table.update_update rfl
  · obtain ⟨order, r, ho, hs, hrel, rfl⟩ := cancelOrder_ok h
    exact hr.cancel storable ho hrel rfl rfl rfl
  · obtain ⟨order, user, amount, r, -, ho, hs, -, -, -, -, hp, h, -⟩ := refundOrder_ok h
    have rows := refundPoints_rows hp (by simp [refunded])
    exact hr.refund storable ho hs h rows.2.1 rows.2.2.1
      (refunded_frame.trans (refundPoints_frame hp)).profile
  · obtain ⟨_, _, -, -, -, rfl⟩ := redeemPoints_ok h
    exact hr.of_rows
  · obtain ⟨_, _, _, _, -, -, -, -, -, rfl⟩ := activateMembership_ok h
    exact hr.of_rows
  · obtain ⟨_, _, -, -, -, -, -, rfl⟩ := consumeEntitlement_ok h
    exact hr.of_rows
  · obtain ⟨_, _, _, r, -, -, -, -, ⟨-, he, rfl⟩ | ⟨he, rfl⟩⟩ := cancelMembership_ok h
    all_goals
      rcases revokeEntitlement_ok he with ⟨-, rfl⟩ | ⟨-, -, rfl⟩ <;> exact hr.of_rows
  · rw [inspectState_ok h]
    exact hr

theorem Reachable.reservations [Python] (h : Reachable run) : Reservations run := by
  refine h.induction (fun _ _ => ?_) (fun _ _ _ => ?_)
    (fun _ _ _ _ _ _ hr hs' h ih => handler_reservations hr.storable hs' h ih)
    fun _ _ _ ih => ih.of_rows
  all_goals constructor <;> simp [createRun]

/-! ## Payments -/

/-- The code a command is rejected with. -/
def code? : Fault → Option String
  | .domain error => some error.code
  | .crash _ => none

/-- A payment is not refused because of the coupon of its order. -/
theorem payOrder_fails (hr : Reservations run) (command : ActionCommand) (key : String)
    (now : Nat) :
    Checked.Fails (code? · ≠ some "COUPON_STATE_INVALID") (run.payOrder command key now) := by
  have flushed : ∀ r : RunSpace,
      Checked.Fails (code? · ≠ some "COUPON_STATE_INVALID") r.flush := fun r =>
    .bind (.ensure fun _ => nofun) fun _ _ => .pure
  have row : ∀ {α : Type} (rowKey : α → String) (rows : List α) (id code message : String),
      code ≠ "COUPON_STATE_INVALID" → Checked.Fails (code? · ≠ some "COUPON_STATE_INVALID")
        (getRow rowKey rows id (.reject code message)) := by
    intro α rowKey rows id code message hc
    refine .bind (.ensure fun _ => nofun) fun _ _ => ?_
    split
    · exact .pure
    · exact .throw (by simpa [code?, Fault.reject] using hc)
  refine .bind ?_ fun _ _ => .bind ?_ fun orderId _ => .bind (row _ _ _ _ _ (by decide))
    fun order ho => .bind (.ensure fun _ => by simp [code?, Fault.reject]) fun _ _ =>
    .bind (.ensure fun _ => by simp [code?, Fault.reject]) fun _ hs => .bind ?_ fun user hu =>
    .bind (.ensure fun _ => by simp [code?, Fault.reject]) fun _ _ =>
    .bind (.ensure fun _ => by simp [code?, Fault.reject]) fun _ _ => .bind ?_ fun r _ =>
    .bind (flushed _) fun r' _ => ?_
  · refine .bind (.ensure fun _ => by simp [code?]) fun _ _ => ?_
    exact .ensure fun _ => by simp [code?]
  · unfold ActionCommand.target
    split
    · exact .bind (.ensure fun _ => by simp [code?, Fault.reject]) fun _ _ => .pure
    · exact .throw (by simp [code?, Fault.reject])
  · refine .bind (.ensure fun _ => nofun) fun _ _ => ?_
    split
    · exact .bind (.ensure fun _ => by simp [code?, Fault.reject]) fun _ _ => .pure
    · exact .throw (by simp [code?, Fault.reject])
  · unfold useCoupon
    split
    · exact .pure
    · rename_i couponId carries
      refine .bind (row _ _ _ _ _ (by decide)) fun coupon hc => .bind (.ensure fun invalid => ?_)
        fun _ _ => flushed _
      -- The coupon of a pending order is reserved for it.
      obtain ⟨hf, rfl⟩ := find?_of_getRow hc
      have mine := hr.pending order (Table.mem_of_find? (find?_of_getRow ho).1) coupon
        (Table.mem_of_find? hf) carries (Checked.ensure_eq_ok.1 hs)
      simp [mine] at invalid
  · split
    · exact .bind (flushed _) fun _ _ => .pure
    · exact .pure

/-- No payment has been rejected because of the coupon of its order. -/
theorem Reachable.no_invalid_coupon [Python] (h : Reachable run) :
    ∀ record ∈ run.receipts, record.actionType = .payOrder →
      ∀ error ∈ record.error, error.code ≠ "COUPON_STATE_INVALID" := by
  refine h.induct (P := fun run => ∀ record ∈ run.receipts, record.actionType = .payOrder →
    ∀ error ∈ record.error, error.code ≠ "COUPON_STATE_INVALID") (by simp [createRun])
    fun run op hr ih => ?_
  cases op with
  | reset => exact ih
  | execute command uuid now =>
    rw [RunSpace.apply]
    rcases execute_cases run command now uuid with e | ⟨added, -, hp, -⟩
    · rw [e]; exact ih
    · rcases perform_ok hp with ⟨-, ⟨r, outcome, hd, rfl, -, e⟩ | ⟨error, hs, rfl, e⟩⟩ <;> rw [e] <;>
        intro record hm <;> rcases List.mem_append.1 hm with hm | hm
      · exact ih record ((handler_frame (dispatch_ok hd).1).receipts ▸ hm)
      · rw [List.mem_singleton.1 hm]
        rintro _ error ⟨⟩
      · exact ih record hm
      · rw [List.mem_singleton.1 hm]
        intro ha error' he
        obtain rfl : error = error' := Option.some.inj he
        have fails : Checked.Fails (code? · ≠ some "COUPON_STATE_INVALID")
            (run.savepoint command (effectiveKey command uuid) now) := by
          refine .bind (.bind (.ensure fun _ => by simp [code?]) fun _ _ => ?_) fun _ _ =>
            .bind (.bind (.ensure fun _ e => by cases e) fun _ _ => .pure) fun _ _ => .pure
          have ha : command.action = .payOrder := ha
          rw [handler, ha]
          exact payOrder_fails hr.reservations command _ now
        simpa [code?] using fails _ hs

/-! ## The rules of coupons -/

/-- In a faithful environment an order that was paid for holds its coupon. -/
theorem Reservations.holder_unique (h : Reservations run) (storable : run.Storable)
    (faithful : run.profile.Faithful) {coupon : Coupon} (hc : coupon ∈ run.coupons)
    {a b : Order} (ha : a ∈ run.orders) (hb : b ∈ run.orders) (ca : a.couponId = some coupon.id)
    (cb : b.couponId = some coupon.id)
    (pa : a.status = .paid ∨ a.status = .partiallyRefunded ∨ a.status = .refunded)
    (pb : b.status = .paid ∨ b.status = .partiallyRefunded ∨ b.status = .refunded) : a = b := by
  have holds : ∀ {o : Order}, o.status = .paid ∨ o.status = .partiallyRefunded ∨
      o.status = .refunded → o.Holds run.profile.restoresCouponAfterFullRefund := by
    rintro o (e | e | e)
    · exact .inl e
    · exact .inr (.inl e)
    · exact .inr (.inr ⟨e, faithful.flags.1⟩)
  have ua := (h.held a ha coupon hc ca (holds pa)).2
  have ub := (h.held b hb coupon hc cb (holds pb)).2
  have fa := Table.find?_of_mem storable.orders_keyed ha
  have fb := Table.find?_of_mem storable.orders_keyed hb
  rw [Option.some.inj (ua.symm.trans ub)] at fa
  exact Option.some.inj (fa.symm.trans fb)

/-- A coupon is reserved for an order exactly if the order is pending and carries
    it; no two pending orders carry one coupon; a coupon that is not reserved names
    no order it is reserved for; and no payment has been rejected because of its
    coupon. In a faithful environment a coupon is used once, by one order. -/
theorem coupon_reservations [Python] (request : CreateRunRequest) (id : String)
    (history : List Op) :
    let run := (createRun request id).after history
    (∀ coupon ∈ run.coupons, ∀ orderId,
      coupon.status = .reserved ∧ coupon.reservedOrderId = some orderId ↔
        ∃ order ∈ run.orders, order.id = orderId ∧ order.status = .pendingPayment ∧
          order.couponId = some coupon.id) ∧
    (∀ a ∈ run.orders, ∀ b ∈ run.orders, a.status = .pendingPayment → b.status = .pendingPayment →
      a.couponId ≠ none → a.couponId = b.couponId → a = b) ∧
    (∀ coupon ∈ run.coupons, coupon.status ≠ .reserved → coupon.reservedOrderId = none) ∧
    (∀ record ∈ run.receipts, record.actionType = .payOrder →
      ∀ error ∈ record.error, error.code ≠ "COUPON_STATE_INVALID") ∧
    (run.profile.Faithful → ∀ coupon ∈ run.coupons,
      (run.epochEvents.countP fun event =>
        event.eventType = .couponUsed ∧ event.aggregateId = coupon.id) ≤ 1 ∧
      ∀ a ∈ run.orders, ∀ b ∈ run.orders, a.couponId = some coupon.id →
        b.couponId = some coupon.id →
        (a.status = .paid ∨ a.status = .partiallyRefunded ∨ a.status = .refunded) →
        (b.status = .paid ∨ b.status = .partiallyRefunded ∨ b.status = .refunded) → a = b) := by
  intro run
  have reachable : Reachable run := ⟨request, id, history, rfl⟩
  have h := reachable.reservations
  have storable := reachable.storable
  refine ⟨fun coupon hc orderId => ⟨fun ⟨hs, hr⟩ => ?_, ?_⟩, ?_, h.free,
    reachable.no_invalid_coupon, fun faithful coupon hc => ⟨?_, ?_⟩⟩
  · obtain ⟨order, hm, hp, carries, hro⟩ := h.reserved coupon hc hs
    exact ⟨order, hm, Option.some.inj (hro.symm.trans hr), hp, carries⟩
  · rintro ⟨order, hm, rfl, hp, carries⟩
    exact h.pending order hm coupon hc carries hp
  · intro a ha b hb pa pb carried same
    obtain ⟨id, ca⟩ := Option.ne_none_iff_exists'.1 carried
    obtain ⟨coupon, hc, rfl⟩ := List.mem_map.1 (h.issued a ha id ca)
    by_contra ne
    have distinct : b.id ≠ a.id := by
      intro e
      have fa := Table.find?_of_mem storable.orders_keyed ha
      have fb := Table.find?_of_mem storable.orders_keyed hb
      rw [e] at fb
      exact ne (Option.some.inj (fa.symm.trans fb))
    exact (h.alone ha hc ca (.inl pa) b hb distinct (same ▸ ca)).1 pb
  · -- The events of its uses are as many as the coupon counts.
    have count := (reachable.books.coupon_events coupon.id).symm.trans
      (Table.valueAt_of_find? (Table.find?_of_mem storable.coupons_keyed hc) _)
    rw [tally_useWeight, reachable.coupon_used_once faithful coupon hc] at count
    split at count <;> omega
  · exact fun a ha b hb ca cb pa pb => h.holder_unique storable faithful hc ha hb ca cb pa pb

end RunSpace

end RuleArena
