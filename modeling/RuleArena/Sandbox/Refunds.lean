import RuleArena.Sandbox.Failures
import RuleArena.Sandbox.Faithful

/-!
# When a refund is rejected

A refund that passes the checks of its handler, in an environment without defects, is
accepted, or it is rejected because the points that it would revoke have been redeemed
(`Reachable.refund_passes`). Nothing else on its way rejects it: the owner of its order
is there, and its scenario has refunds.
-/

namespace RuleArena

namespace RunSpace

variable {run run' : RunSpace} {action : ActionName} {command : ActionCommand} {key : String}
  {now : Nat} {outcome : Outcome}

/-! ## The owners of orders -/

/-- The orders are of the test user. -/
structure Owned (run : RunSpace) : Prop where
  user : ∀ user ∈ run.user, user.id = "user-1"
  owners : ∀ order ∈ run.orders, order.userId = "user-1" ∧ run.user ≠ none

theorem Edits.owned (h : Edits action key run run') (owned : Owned run) : Owned run' := by
  induction h with
  | newUser _ user id ih =>
    exact ⟨by rintro _ ⟨⟩; exact id, fun order hm => ⟨(ih.owners order hm).1, nofun⟩⟩
  | setUser _ user old found id ih =>
    exact ⟨by rintro _ ⟨⟩; exact id.trans (ih.user old found),
      fun order hm => ⟨(ih.owners order hm).1, nofun⟩⟩
  | newOrder _ order user found id owner coupon ih =>
    refine ⟨ih.user, fun o hm => ?_⟩
    rcases List.mem_append.1 hm with hm | hm
    · exact ih.owners o hm
    · rw [List.mem_singleton.1 hm, owner]
      exact ⟨ih.user user found, fun missing => nomatch found.symm.trans missing⟩
  | setOrder _ order old found owner coupon ih =>
    refine ⟨ih.user, fun o hm => ?_⟩
    rcases Table.mem_update hm with rfl | ⟨hm, -⟩
    · rw [owner]
      exact ih.owners old (Table.mem_of_find? found)
    · exact ih.owners o hm
  | refl => exact owned
  | _ =>
    rename_i ih
    exact ⟨ih.user, ih.owners⟩

theorem Reachable.owned [Python] (h : Reachable run) : Owned run :=
  h.induction (fun _ _ => ⟨nofun, List.forall_mem_nil _⟩) (fun _ _ _ => ⟨nofun, List.forall_mem_nil _⟩)
    (fun _ _ _ _ _ _ _ _ h ih => (handler_edits h).owned ih) fun _ _ _ ih => ⟨ih.user, ih.owners⟩

/-! ## The scenarios of orders -/

/-- Only the handler that creates orders gives a run its first one. -/
theorem handler_no_orders [Python] (h : run.handler command key now = .ok (run', outcome))
    (none : run.orders = []) (other : command.action ≠ .createOrder) : run'.orders = [] := by
  have missing {id : String} {order : Order} (found : Table.find? Order.id run.orders id = some order) :
      False := by
    rw [none] at found
    cases found
  unfold handler at h
  split at h
  · obtain ⟨_, _, -, -, rfl⟩ := createUser_ok h
    exact none
  · obtain ⟨_, _, _, _, -, -, -, rfl⟩ := issueCoupon_ok h
    exact none
  · exact absurd ‹_› other
  · obtain ⟨_, _, found, -⟩ := applyCoupon_ok h
    exact (missing found).elim
  · obtain ⟨_, _, _, -, found, -⟩ := payOrder_ok h
    exact (missing found).elim
  · obtain ⟨_, _, found, -⟩ := cancelOrder_ok h
    exact (missing found).elim
  · obtain ⟨_, _, _, _, -, found, -⟩ := refundOrder_ok h
    exact (missing found).elim
  · obtain ⟨_, _, -, -, -, rfl⟩ := redeemPoints_ok h
    exact none
  · obtain ⟨_, _, _, _, -, -, -, -, -, rfl⟩ := activateMembership_ok h
    exact none
  · obtain ⟨_, _, -, -, -, -, -, rfl⟩ := consumeEntitlement_ok h
    exact none
  · obtain ⟨_, _, _, r, -, -, -, -, ⟨-, hr, rfl⟩ | ⟨hr, rfl⟩⟩ := cancelMembership_ok h
    all_goals exact (revokeEntitlement_rows hr).2.1.trans none
  · rw [inspectState_ok h]
    exact none

/-- Without refunds a scenario has no orders. -/
theorem Reachable.no_orders [Python] (h : Reachable run) :
    .refundOrder ∉ run.scenarioType.actions → run.orders = [] := by
  refine h.induct (P := fun run => .refundOrder ∉ run.scenarioType.actions → run.orders = [])
    (fun _ _ _ => rfl) fun run op hr ih => ?_
  cases op with
  | reset => exact fun _ => rfl
  | execute command uuid now =>
    rw [RunSpace.apply]
    rcases execute_cases run command now uuid with e | ⟨record, -, hp, -⟩
    · rw [e]
      exact ih
    · rcases perform_ok hp with ⟨-, ⟨r, outcome, hd, -, -, e⟩ | ⟨error, -, -, e⟩⟩ <;> rw [e]
      · obtain ⟨handled, allowed⟩ := dispatch_ok hd
        intro without
        have without : .refundOrder ∉ run.scenarioType.actions :=
          (handler_frame handled).scenarioType ▸ without
        have kept : r.orders = [] := by
          refine handler_no_orders handled (ih without) fun creates => ?_
          rw [creates] at allowed
          revert without allowed
          cases run.scenarioType <;> decide
        exact kept
      · exact ih

/-! ## After the checks -/

/-- A fault is the one of points that have been redeemed, or that of the database. -/
def PointsRedeemed : Fault → Prop
  | .domain error => error.code = "POINTS_ALREADY_REDEEMED"
  | .crash _ => True

theorem event_passes (run : RunSpace) {aggregateType : AggregateType} {aggregateId : String}
    {eventType : BusinessEventType} {payload : List (String × Json)} :
    Checked.Fails PointsRedeemed (run.event aggregateType aggregateId eventType payload key now) :=
  .bind (.ensure fun _ => trivial) fun _ _ => .pure

theorem refundPoints_passes (faithful : run.profile.Faithful) {user : TestUser} {order : Order}
    {amount : Int} : Checked.Fails PointsRedeemed (run.refundPoints key now user order amount) := by
  unfold refundPoints
  refine .ite ?_ .pure
  rw [if_neg (by rw [faithful.flags.2.2.2.1]; nofun)]
  exact .ite .pure (.bind (.ensure fun _ => rfl) fun _ _ => event_passes _)

theorem restoreCoupon_passes (faithful : run.profile.Faithful) {order : Order} :
    Checked.Fails PointsRedeemed (run.restoreCoupon key now order) := by
  unfold restoreCoupon
  split
  · exact .pure
  · rw [if_neg (by rw [faithful.flags.1]; nofun)]
    exact .pure

theorem refundPoints_profile {user : TestUser} {order : Order} {amount : Int}
    (h : run.refundPoints key now user order amount = .ok run') : run'.profile = run.profile := by
  rcases refundPoints_ok h with ⟨-, rfl⟩ | ⟨-, -, h⟩ | ⟨-, -, h⟩
  · rfl
  · rw [grantPoints_ok h]
    rfl
  · rcases revokePoints_ok h with ⟨-, rfl⟩ | ⟨_, -, -, -, rfl⟩ <;> rfl

theorem Identified.order_id (h : Identified run) {order : Order} (hm : order ∈ run.orders) :
    Plain order.id ∧ order.id ≠ "" := by
  have hid := List.mem_map_of_mem (f := Order.id) hm
  rw [h.orders] at hid
  obtain ⟨n, -, e⟩ := List.mem_map.1 hid
  rw [← e]
  refine ⟨plain_rowId (by decide) n, fun empty => ?_⟩
  have := congrArg String.toList empty
  simp [rowId] at this

/-- A refund that passes the checks of its handler is not rejected, unless points have been
    redeemed. -/
theorem Reachable.refund_passes [Python] (h : Reachable run) (faithful : run.profile.Faithful)
    {order : Order} {amount : Amount} (refund : command.action = .refundOrder)
    (args : command.checkArgs ["amount"] ["amount"] = .ok ())
    (target : command.targetId = some order.id)
    (found : Table.find? Order.id run.orders order.id = some order)
    (refundable : order.status = .paid ∨ order.status = .partiallyRefunded)
    (read : money (command.argument "amount") "amount" = .ok (amount, order.currency))
    (positive : 0 < amount.toInt)
    (fits : order.refundedAmount + amount.toInt ≤ order.paidAmount) :
    Checked.Fails PointsRedeemed (run.savepoint command key now) := by
  have mem := Table.mem_of_find? found
  obtain ⟨plain, nonempty⟩ := h.identified.order_id mem
  obtain ⟨owner, exists'⟩ := h.owned.owners order mem
  obtain ⟨user, hu⟩ := Option.ne_none_iff_exists'.1 exists'
  have id : user.id = order.userId := (h.owned.user user hu).trans owner.symm
  have scenario : ActionName.refundOrder ∈ run.scenarioType.actions := by
    by_contra without
    rw [h.no_orders without] at mem
    cases mem
  have target : command.target "order_id" = .ok order.id :=
    command.target_eq_ok.2 ⟨target, nonempty⟩
  have row : run.getOrder order.id = .ok order := getRow_eq_ok.2 ⟨plain, found⟩
  have owned : run.getUser order.userId = .ok user :=
    (getUser_eq_ok _).2 ⟨h.identified.owners order mem, hu, id⟩
  have handled : Checked.Fails PointsRedeemed (run.refundOrder command key now) := by
    unfold refundOrder
    rw [args, Checked.ok_bind, target, Checked.ok_bind, row, Checked.ok_bind,
      Checked.ensure_of_pos refundable, Checked.ok_bind, read, Checked.ok_bind]
    dsimp only
    rw [Checked.ensure_of_pos (by simp [positive]), Checked.ok_bind, Checked.ensure_of_pos
      (by rw [refundCeiling_of_faithful faithful]; omega), Checked.ok_bind, owned, Checked.ok_bind]
    refine .bind (event_passes _) fun r hr => ?_
    obtain ⟨rfl, -⟩ := event_eq_ok hr
    refine .bind (refundPoints_passes (by exact faithful)) fun r' hr' => ?_
    refine .bind (restoreCoupon_passes ?_) fun _ _ => .pure
    rw [refundPoints_profile hr']
    exact faithful
  unfold savepoint dispatch
  refine .bind (.bind (.ensure fun outside => ?_) fun _ _ => ?_) fun _ _ => ?_
  · rw [refund] at outside
    exact absurd (List.mem_append_right _ scenario) outside
  · unfold handler
    rw [refund]
    exact handled
  · exact .bind (.bind (.ensure fun _ => trivial) fun _ _ => .pure) fun _ _ => .pure

end RunSpace

end RuleArena
