import RuleArena.Sandbox.Books
import RuleArena.Sandbox.Money

/-!
# Faithful environments

What a run whose environment has no defect keeps besides what every run keeps.
Refunds stay within the payment, a coupon is used at most once, points do not
become negative, and an entitlement whose membership ended has nothing left.
-/

namespace RuleArena

/-! ## Entitlements -/

/-- More of an entitlement is consumed and revoked than was granted only if some of it
    was consumed, and while it is open something is available of it and nothing was
    revoked. -/
structure Entitlement.Sound (entitlement : Entitlement) : Prop where
  counted : 0 ≤ entitlement.consumedQuantity
  overdrawn : entitlement.available < 0 → 0 < entitlement.consumedQuantity
  opened : entitlement.status ≠ .revoked → entitlement.status ≠ .consumed →
    0 < entitlement.available ∧ entitlement.revokedQuantity = 0

/-- What is left of an entitlement when its membership has ended. -/
def Entitlement.Spent (entitlement : Entitlement) (status : MembershipStatus) : Prop :=
  entitlement.available ≤ 0 ∧ (status = .refunded → entitlement.consumedQuantity = 0)

/-- An open entitlement stays sound when some of it is consumed. -/
theorem Entitlement.Sound.consume {entitlement : Entitlement} (h : entitlement.Sound)
    (open' : entitlement.status ≠ .revoked ∧ entitlement.status ≠ .consumed) {quantity : Int}
    (hq : 0 < quantity) : (entitlement.consume quantity).Sound := by
  have counted := h.counted
  have revoked := (h.opened open'.1 open'.2).2
  refine ⟨by simp; omega, fun _ => by simp; omega, fun _ hs => ?_⟩
  simp only [Entitlement.consume_status, ne_eq, ite_eq_left_iff, not_forall] at hs
  simp only [Entitlement.available, Entitlement.consume_grantedQuantity,
    Entitlement.consume_consumedQuantity, Entitlement.consume_revokedQuantity]
  obtain ⟨more, -⟩ := hs
  omega

namespace RunSpace

variable {run run' : RunSpace} {command : ActionCommand} {key : String} {now : Nat}
  {outcome : Outcome}

/-- The induction rule for environments of a kind. -/
theorem Reachable.profile_induction [Python] {P : RunSpace → Prop} (Q : SandboxProfile → Prop)
    (created : ∀ request id, P (createRun request id))
    (reset : ∀ run, Reachable run → P run → P run.reset)
    (handler : ∀ run run' command key now outcome, Reachable run → Q run.profile →
      run'.Storable → run.handler command key now = .ok (run', outcome) → P run → P run')
    (committed : ∀ run version receipts, P run →
      P { run with snapshotVersion := version, receipts })
    (h : Reachable run) (hq : Q run.profile) : P run := by
  refine h.induction (P := fun run => Q run.profile → P run) (fun _ _ _ => created _ _)
    (fun run hr ih hf => reset run hr (ih hf)) ?_ (fun run _ _ ih hf => committed run _ _ (ih hf))
    hq
  intro run run' command key now outcome hr hs h ih hf
  rw [(handler_frame h).profile] at hf
  exact handler run run' command key now outcome hr hf hs h (ih hf)

/-- The induction rule for faithful environments. -/
theorem Reachable.faithful_induction [Python] {P : RunSpace → Prop}
    (created : ∀ request id, P (createRun request id))
    (reset : ∀ run, Reachable run → P run → P run.reset)
    (handler : ∀ run run' command key now outcome, Reachable run → run.profile.Faithful →
      run'.Storable → run.handler command key now = .ok (run', outcome) → P run → P run')
    (committed : ∀ run version receipts, P run →
      P { run with snapshotVersion := version, receipts })
    (h : Reachable run) (faithful : run.profile.Faithful) : P run :=
  h.profile_induction SandboxProfile.Faithful created reset handler committed faithful

/-! ## Orders, coupons and points -/

theorem refundCeiling_of_left (h : run.profile.allowsRefundAgainstOriginalAmount = false)
    (order : Order) : run.refundCeiling order = order.paidAmount - order.refundedAmount := by
  simp [refundCeiling, h]

theorem refundCeiling_of_faithful (h : run.profile.Faithful) (order : Order) :
    run.refundCeiling order = order.paidAmount - order.refundedAmount :=
  refundCeiling_of_left h.flags.2.1 order

/-- Refunds stay within the payment where they are judged by what is left of it. -/
theorem Reachable.refunds_within [Python] (h : Reachable run)
    (left : run.profile.allowsRefundAgainstOriginalAmount = false) :
    ∀ order ∈ run.orders, order.refundedAmount ≤ order.paidAmount := by
  refine h.profile_induction
    (P := fun run => ∀ order ∈ run.orders, order.refundedAmount ≤ order.paidAmount)
    (·.allowsRefundAgainstOriginalAmount = false) (by simp [createRun]) (by simp) ?_
    (fun _ _ _ ih => ih) left
  intro run run' command key now outcome hr hl _ h all
  refine handler_orders h all ?_ ?_ ?_ ?_ ?_ ?_
  · intros; simp
  · intro order _ _ _ _ _ ho
    exact ho
  · intro order hm hs hp _ _
    simpa [((hr.orders_wellFormed order hm).of_pending hs).2.1] using hp.le
  · intro order hm hs hp _ _
    simpa [((hr.orders_wellFormed order hm).of_pending hs).2.1] using hp.le
  · intro order _ _ ho
    exact ho
  · intro order _ _ amount _ hc _
    rw [refundCeiling_of_left hl] at hc
    simp only [Order.refund_refundedAmount, Order.refund_paidAmount]
    omega

/-- Refunds stay within the payment. -/
theorem Reachable.refunded_le_paid [Python] (h : Reachable run) (hf : run.profile.Faithful) :
    ∀ order ∈ run.orders, order.refundedAmount ≤ order.paidAmount :=
  h.refunds_within hf.flags.2.1

/-- Where a used coupon does not come back, a coupon has been used once if its status
    says so, and not at all otherwise. -/
theorem Reachable.coupon_single [Python] (h : Reachable run)
    (kept : run.profile.restoresCouponAfterFullRefund = false) :
    ∀ coupon ∈ run.coupons, coupon.usageCount = if coupon.status = .used then 1 else 0 := by
  refine h.profile_induction (P := fun run => ∀ coupon ∈ run.coupons,
    coupon.usageCount = if coupon.status = .used then 1 else 0)
    (·.restoresCouponAfterFullRefund = false) (by simp [createRun]) (by simp) ?_
    (fun _ _ _ ih => ih) kept
  intro run run' command key now outcome _ hk _ h all
  refine handler_coupons h all ?_ ?_ ?_ ?_ ?_
  · intros; simp
  · rintro coupon _ (hs | hs) hc _ <;> simpa [hs] using hc
  · intro coupon _ hs hc _
    simpa [hs] using hc
  · intro coupon _ hs hc
    simpa [hs] using hc
  · intro hp
    simp [hk] at hp

/-- A coupon has been used once if its status says so, and not at all otherwise. -/
theorem Reachable.coupon_used_once [Python] (h : Reachable run) (hf : run.profile.Faithful) :
    ∀ coupon ∈ run.coupons, coupon.usageCount = if coupon.status = .used then 1 else 0 :=
  h.coupon_single hf.flags.1

/-- The points of the user do not become negative. -/
theorem Reachable.points_nonneg [Python] (h : Reachable run) (hf : run.profile.Faithful) :
    ∀ user ∈ run.user, 0 ≤ user.pointsBalance := by
  refine h.faithful_induction (P := fun run => ∀ user ∈ run.user, 0 ≤ user.pointsBalance)
    (by simp [createRun]) (by simp) ?_ (fun _ _ _ ih => ih) hf
  intro run run' command key now outcome _ hf _ h all
  unfold RunSpace.handler at h
  split at h
  · obtain ⟨_, _, -, -, rfl⟩ := createUser_ok h
    simp
  · obtain ⟨_, _, _, _, -, -, -, rfl⟩ := issueCoupon_ok h
    simpa using all
  · obtain ⟨_, _, _, -, -, rfl⟩ := createOrder_ok h
    simpa using all
  · obtain ⟨_, _, -, -, -, -, -, rfl⟩ := applyCoupon_ok h
    simpa using all
  · obtain ⟨order, user, r, -, -, -, hu, hp, -, hr, h⟩ := payOrder_ok h
    have balance : 0 ≤ user.pointsBalance := all user hu
    rcases h with ⟨-, rfl⟩ | ⟨-, h⟩
    · simpa [(useCoupon_rows hr).1] using balance
    · have points : 0 ≤ pointsFor order.price := Int.ediv_nonneg hp.le (by norm_num)
      simpa [(grantPoints_rows h).1] using add_nonneg balance points
  · obtain ⟨_, r, -, -, hr, rfl⟩ := cancelOrder_ok h
    simpa [(releaseCoupon_rows hr).1] using all
  · obtain ⟨order, user, amount, r, -, -, -, -, -, -, hu, hr, h, -⟩ := refundOrder_ok h
    have balance : 0 ≤ user.pointsBalance := all user hu
    rw [(restoreCoupon_rows h).1]
    rcases refundPoints_ok hr with ⟨-, rfl⟩ | ⟨-, hp, -⟩ | ⟨-, -, hr⟩
    · simpa [refunded] using balance
    · have : run.profile.grantsPointsAgainOnRefund = true := hp
      simp [hf.flags] at this
    · rcases revokePoints_ok hr with ⟨-, rfl⟩ | ⟨delta, -, -, hd, rfl⟩
      · simpa [refunded] using balance
      · simp only [TestUser.credit_pointsBalance] at hd
        simp
        omega
  · obtain ⟨user, amount, hu, -, ha, rfl⟩ := redeemPoints_ok h
    simp only [hf.flags, Bool.false_eq_true, or_false] at ha
    simp
    omega
  · obtain ⟨user, _, _, _, hu, -, -, -, -, rfl⟩ := activateMembership_ok h
    simpa [activated] using all user hu
  · obtain ⟨_, _, -, -, -, -, -, rfl⟩ := consumeEntitlement_ok h
    simpa using all
  · obtain ⟨_, user, _, r, -, -, hu, -, ⟨-, hr, rfl⟩ | ⟨hr, rfl⟩⟩ := cancelMembership_ok h
    all_goals simpa [(revokeEntitlement_rows hr).1] using all user hu
  · rw [inspectState_ok h]
    exact all

/-! ## Memberships and entitlements -/

/-- Each membership has its entitlement, of which no more is consumed and revoked
    than was granted. An entitlement whose membership ended has nothing left, and
    was not consumed if the membership was refunded. -/
structure Entitled (run : RunSpace) : Prop where
  paired : run.entitlements.map Entitlement.membershipId = run.memberships.map Membership.id
  nonneg : ∀ entitlement ∈ run.entitlements,
    0 ≤ entitlement.consumedQuantity ∧ 0 ≤ entitlement.available
  ended : ∀ membership ∈ run.memberships, ∀ entitlement ∈ run.entitlements,
    entitlement.membershipId = membership.id → membership.status ≠ .active →
      entitlement.available = 0 ∧
        (membership.status = .refunded → entitlement.consumedQuantity = 0)

/-- Each membership has its entitlement, of which nothing is available once the
    membership has ended. -/
structure Settled (run : RunSpace) : Prop where
  paired : run.entitlements.map Entitlement.membershipId = run.memberships.map Membership.id
  sound : ∀ entitlement ∈ run.entitlements, entitlement.Sound
  spent : ∀ membership ∈ run.memberships, ∀ entitlement ∈ run.entitlements,
    entitlement.membershipId = membership.id → membership.status ≠ .active →
      entitlement.Spent membership.status

theorem Settled.activate (h : Settled run) (membership : Membership) (entitlement : Entitlement)
    (fresh : Table.find? Membership.id run.memberships membership.id = none)
    (active : membership.status = .active) (he : entitlement.membershipId = membership.id)
    (new : entitlement.Sound) :
    Settled ((run.addMembership membership).addEntitlement entitlement) := by
  have unused : ∀ e ∈ run.entitlements, e.membershipId ≠ membership.id := by
    intro e hm heq
    refine Table.find?_eq_none.1 fresh ?_
    rw [← h.paired, ← heq]
    exact List.mem_map_of_mem hm
  refine ⟨by simp [h.paired, he], fun e hm => ?_, fun m hm e hme heq hs => ?_⟩
  · rcases List.mem_append.1 hm with hm | hm
    · exact h.sound e hm
    · exact List.mem_singleton.1 hm ▸ new
  · rcases List.mem_append.1 hm with hm | hm <;> rcases List.mem_append.1 hme with hme | hme
    · exact h.spent m hm e hme heq hs
    · rw [List.mem_singleton.1 hme, he] at heq
      exact absurd (heq ▸ List.mem_map_of_mem hm) (Table.find?_eq_none.1 fresh)
    · rw [List.mem_singleton.1 hm] at heq
      exact absurd heq (unused e hme)
    · exact absurd (List.mem_singleton.1 hm ▸ active) hs

/-- An entitlement changes of which something is available. -/
theorem Settled.set (h : Settled run) (keyed : Table.Keyed Entitlement.id run.entitlements)
    (row : Entitlement) {old : Entitlement}
    (hf : Table.find? Entitlement.id run.entitlements row.id = some old)
    (same : row.membershipId = old.membershipId) (new : row.Sound) (available : 0 < old.available) :
    Settled (run.setEntitlement row) := by
  refine ⟨(Table.map_update keyed hf _ same).trans h.paired, fun e he => ?_,
    fun m hm e he heq hs => ?_⟩
  · rcases Table.mem_update he with rfl | ⟨he, -⟩
    · exact new
    · exact h.sound e he
  · rcases Table.mem_update he with rfl | ⟨he, -⟩
    · have spent := (h.spent m hm old (Table.mem_of_find? hf) (same ▸ heq) hs).1
      omega
    · exact h.spent m hm e he heq hs

/-- A membership ends, and its entitlement has nothing left. -/
theorem Settled.close (h : Settled run) (storable : run.Storable) {membership : Membership}
    {entitlement : Entitlement} (row : Entitlement) {status : MembershipStatus}
    (hf : Table.find? Entitlement.id run.entitlements row.id = some entitlement)
    (he : entitlement.membershipId = membership.id)
    (same : row.membershipId = entitlement.membershipId) (new : row.Sound)
    (spent : row.Spent status) :
    Settled ((run.setMembership (membership.withStatus status)).setEntitlement row) := by
  have paired : (Table.update Membership.id run.memberships (membership.withStatus status)).map
      Membership.id = run.memberships.map Membership.id := Table.map_key_update _ _
  refine ⟨((Table.map_update storable.entitlements_keyed hf _ same).trans h.paired).trans
    paired.symm, fun e he => ?_, fun m hm' e he' heq hs => ?_⟩
  · rcases Table.mem_update he with rfl | ⟨he, -⟩
    · exact new
    · exact h.sound e he
  · -- The keys of memberships and of entitlements determine each other.
    rcases Table.mem_update he' with rfl | ⟨he', hne⟩ <;>
      rcases Table.mem_update hm' with rfl | ⟨hm', hne'⟩
    · exact spent
    · exact absurd (heq.symm.trans (same.trans he)) hne'
    · have keyed : Table.Keyed Entitlement.membershipId run.entitlements := by
        rw [Table.Keyed, h.paired]
        exact storable.memberships_keyed
      have found := Table.find?_of_mem keyed he'
      have found' := Table.find?_of_mem keyed (Table.mem_of_find? hf)
      rw [heq] at found
      rw [he] at found'
      obtain rfl := Option.some.inj (found.symm.trans found')
      exact absurd (Table.key_of_find? hf) hne
    · exact h.spent m hm' e he' heq hs

/-- The end of a membership where what is left of its entitlement is revoked. -/
theorem Settled.revoke (h : Settled run) (storable : run.Storable) {user : TestUser}
    {membership : Membership} {entitlement : Entitlement} {status : MembershipStatus}
    (he : Table.find? Entitlement.membershipId run.entitlements membership.id = some entitlement)
    (hr : ((run.setUser user).setMembership (membership.withStatus status)).revokeEntitlement key
      now true entitlement = .ok run')
    (refunded : status = .refunded → entitlement.consumedQuantity = 0) : Settled run' := by
  have hme := Table.mem_of_find? he
  have hf := Table.find?_of_mem storable.entitlements_keyed hme
  have sound := h.sound _ hme
  rcases revokeEntitlement_ok hr with ⟨left, rfl⟩ | ⟨-, -, rfl⟩
  · -- Nothing is left: the entitlement may as well be replaced by itself.
    have closed := h.close storable entitlement hf (Table.key_of_find? he) rfl sound
      ⟨left rfl, refunded⟩
    have same : (run.setMembership (membership.withStatus status)).setEntitlement entitlement =
        run.setMembership (membership.withStatus status) := by
      rw [setEntitlement, setMembership_entitlements,
        Table.update_self storable.entitlements_keyed hf]
      rfl
    rw [same] at closed
    exact ⟨closed.paired, closed.sound, closed.spent⟩
  · have none_left : entitlement.revokeAvailable.available = 0 := by
      simp only [Entitlement.available, Entitlement.revokeAvailable]
      ring
    have closed := h.close storable entitlement.revokeAvailable hf (Table.key_of_find? he) rfl
      ⟨sound.counted, fun negative => by omega, fun open' => absurd rfl open'⟩
      ⟨none_left.le, refunded⟩
    exact ⟨closed.paired, closed.sound, closed.spent⟩

/-- A handler where memberships are refunded unused and leave nothing behind. -/
theorem handler_settled [Python] (hr : Reachable run)
    (unused : run.profile.allowsFullMembershipRefundAfterConsumption = false)
    (nothing : run.profile.leavesEntitlementAfterMembershipRefund = false)
    (hs' : run'.Storable) (h : run.handler command key now = .ok (run', outcome))
    (hs : Settled run) : Settled run' := by
  have storable := hr.storable
  -- Most handlers leave both tables as they are.
  have kept : run'.memberships = run.memberships → run'.entitlements = run.entitlements →
      Settled run' := fun hm he => ⟨he ▸ hm ▸ hs.paired, he ▸ hs.sound, he ▸ hm ▸ hs.spent⟩
  unfold handler at h
  split at h
  · obtain ⟨_, _, -, -, rfl⟩ := createUser_ok h
    exact kept rfl rfl
  · obtain ⟨_, _, _, _, -, -, -, rfl⟩ := issueCoupon_ok h
    exact kept rfl rfl
  · obtain ⟨_, _, _, -, -, rfl⟩ := createOrder_ok h
    exact kept rfl rfl
  · obtain ⟨_, _, -, -, -, -, -, rfl⟩ := applyCoupon_ok h
    exact kept rfl rfl
  · obtain ⟨_, _, r, -, -, -, -, -, -, hr, ⟨-, rfl⟩ | ⟨-, h⟩⟩ := payOrder_ok h
    · exact kept (useCoupon_rows hr).2.2.1 (useCoupon_rows hr).2.2.2
    · have rows := grantPoints_rows h
      exact kept (rows.2.2.2.1.trans (useCoupon_rows hr).2.2.1)
        (rows.2.2.2.2.trans (useCoupon_rows hr).2.2.2)
  · obtain ⟨_, r, -, -, hr, rfl⟩ := cancelOrder_ok h
    exact kept (releaseCoupon_rows hr).2.2.1 (releaseCoupon_rows hr).2.2.2
  · obtain ⟨_, _, _, r, -, -, -, -, -, -, -, hr, h, -⟩ := refundOrder_ok h
    have rows := refundPoints_rows hr (by simp [refunded])
    exact kept ((restoreCoupon_rows h).2.2.1.trans rows.2.2.2.1)
      ((restoreCoupon_rows h).2.2.2.trans rows.2.2.2.2)
  · obtain ⟨_, _, -, -, -, rfl⟩ := redeemPoints_ok h
    exact kept rfl rfl
  · obtain ⟨user, amount, quantity, currency, -, -, -, -, hq, rfl⟩ := activateMembership_ok h
    have fresh := fresh_of_keyed hs'.memberships_keyed
    have whole : Entitlement.Sound ⟨nextId run.entitlements "entitlement",
        nextId run.memberships "membership", "USAGE", quantity, 0, 0, .granted⟩ :=
      ⟨le_rfl, fun h => by simp [Entitlement.available] at h; omega,
        fun _ _ => by simpa [Entitlement.available] using hq⟩
    have added := hs.activate _ _ fresh rfl rfl whole
    exact ⟨added.paired, added.sound, added.spent⟩
  · obtain ⟨entitlement, quantity, hfe, hq, revoked, consumed, -, rfl⟩ := consumeEntitlement_ok h
    have sound := hs.sound _ (Table.mem_of_find? hfe)
    have set := hs.set storable.entitlements_keyed (entitlement.consume quantity) hfe rfl
      (sound.consume ⟨revoked, consumed⟩ hq) (sound.opened revoked consumed).1
    exact ⟨set.paired, set.sound, set.spent⟩
  · obtain ⟨membership, user, entitlement, r, -, -, -, hfe, ⟨hc, hr, rfl⟩ | ⟨hr, rfl⟩⟩ :=
      cancelMembership_ok h
    · simp only [unused, nothing, Bool.false_eq_true, imp_false, not_lt, Bool.not_false] at hc hr
      have whole := le_antisymm hc (hs.sound _ (Table.mem_of_find? hfe)).counted
      have closed := hs.revoke storable hfe hr fun _ => whole
      exact ⟨closed.paired, closed.sound, closed.spent⟩
    · have closed := hs.revoke storable hfe hr fun e => by cases e
      exact ⟨closed.paired, closed.sound, closed.spent⟩
  · rw [inspectState_ok h]
    exact hs

theorem Reachable.settled [Python] (h : Reachable run)
    (unused : run.profile.allowsFullMembershipRefundAfterConsumption = false)
    (nothing : run.profile.leavesEntitlementAfterMembershipRefund = false) : Settled run :=
  h.profile_induction (fun profile => profile.allowsFullMembershipRefundAfterConsumption = false ∧
      profile.leavesEntitlementAfterMembershipRefund = false)
    (fun _ _ => ⟨rfl, by simp [createRun], by simp [createRun]⟩)
    (fun _ _ _ => ⟨rfl, by simp, by simp⟩)
    (fun _ _ _ _ _ _ hr hp hs' h ih => handler_settled hr hp.1 hp.2 hs' h ih)
    (fun _ _ _ ih => ⟨ih.paired, ih.sound, ih.spent⟩) ⟨unused, nothing⟩

/-- No more of an entitlement is consumed and revoked than was granted where
    consumption is bounded. -/
theorem Reachable.available_nonneg [Python] (h : Reachable run)
    (bounded : run.profile.allowsEntitlementOverconsumption = false) :
    ∀ entitlement ∈ run.entitlements, 0 ≤ entitlement.available := by
  refine h.profile_induction (P := fun run => ∀ entitlement ∈ run.entitlements,
    0 ≤ entitlement.available) (·.allowsEntitlementOverconsumption = false) (by simp [createRun])
    (by simp) ?_ (fun _ _ _ ih => ih) bounded
  intro run run' command key now outcome _ hb _ h all
  refine handler_entitlements h all ?_ ?_ ?_
  · intro id membershipId quantity hq
    simpa [Entitlement.available] using hq.le
  · intro entitlement _ quantity _ _ _ ha _
    simp only [hb, Bool.false_eq_true, or_false] at ha
    simp only [Entitlement.available, Entitlement.consume_grantedQuantity,
      Entitlement.consume_consumedQuantity, Entitlement.consume_revokedQuantity] at ha ⊢
    omega
  · intro entitlement _ _
    simp only [Entitlement.available, Entitlement.revokeAvailable_grantedQuantity,
      Entitlement.revokeAvailable_consumedQuantity, Entitlement.revokeAvailable_revokedQuantity]
    omega

theorem Reachable.entitled [Python] (h : Reachable run) (hf : run.profile.Faithful) :
    Entitled run := by
  obtain ⟨-, -, -, -, -, unused, nothing, bounded⟩ := hf.flags
  have settled := h.settled unused nothing
  have nonneg := h.available_nonneg bounded
  refine ⟨settled.paired, fun e he => ⟨(settled.sound e he).counted, nonneg e he⟩, ?_⟩
  intro membership hm entitlement he own ended
  have spent := settled.spent membership hm entitlement he own ended
  exact ⟨le_antisymm spent.1 (nonneg entitlement he), spent.2⟩

end RunSpace

end RuleArena
