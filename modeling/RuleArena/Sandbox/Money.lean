import RuleArena.Sandbox.Rows

/-!
# Money

Money only moves: what the user's balance loses or gains, the orders and the
memberships gain or lose. The money of a run is the balance together with what
is kept of the payments for orders and for memberships that were not refunded
(`money_conserved`), and it is the initial balance that the user was created with.

The amounts of an order fit its status (`Order.WellFormed`), so that a payment
starts from nothing and a refund from less than was paid.
-/

namespace RuleArena

/-- The amounts of an order fit its status. -/
def Order.WellFormed (order : Order) : Prop :=
  match order.status with
  | .draft | .pendingPayment | .cancelled =>
    order.paidAmount = 0 ∧ order.refundedAmount = 0 ∧ order.pointsGranted = 0
  | .paid => 0 < order.paidAmount ∧ order.refundedAmount = 0
  | .partiallyRefunded => 0 < order.refundedAmount ∧ order.refundedAmount < order.paidAmount
  | .refunded => 0 < order.paidAmount ∧ order.paidAmount ≤ order.refundedAmount

theorem Order.WellFormed.nonneg {order : Order} (h : order.WellFormed) :
    0 ≤ order.paidAmount ∧ 0 ≤ order.refundedAmount := by
  unfold WellFormed at h
  split at h <;> omega

theorem Order.WellFormed.of_pending {order : Order} (h : order.WellFormed)
    (hs : order.status = .pendingPayment) :
    order.paidAmount = 0 ∧ order.refundedAmount = 0 ∧ order.pointsGranted = 0 := by
  simpa [WellFormed, hs] using h

/-- What a refundable order has been paid and refunded. -/
theorem Order.WellFormed.of_refundable {order : Order} (h : order.WellFormed)
    (hs : order.status = .paid ∨ order.status = .partiallyRefunded) :
    0 < order.paidAmount ∧ 0 ≤ order.refundedAmount ∧
      order.refundedAmount < order.paidAmount := by
  rcases hs with hs | hs <;> simp only [WellFormed, hs] at h <;> omega

theorem Order.WellFormed.refund {order : Order} (h : order.WellFormed)
    (hs : order.status = .paid ∨ order.status = .partiallyRefunded) {amount : Int}
    (ha : 0 < amount) : (order.refund amount).WellFormed := by
  have := h.of_refundable hs
  unfold WellFormed
  simp only [Order.refund_status, Order.refund_paidAmount, Order.refund_refundedAmount]
  split_ifs with hp
  · exact ⟨this.1, hp⟩
  · exact ⟨by omega, not_le.1 hp⟩

/-- What is kept of the price of a membership. -/
def Membership.kept (membership : Membership) : Int :=
  if membership.status = .refunded then 0 else membership.paidAmount

namespace RunSpace

variable {run run' : RunSpace} {command : ActionCommand} {key : String} {now : Nat}
  {outcome : Outcome}

/-! ## Orders and memberships -/

/-- In every reachable run the amounts of every order fit its status. -/
theorem Reachable.orders_wellFormed [Python] (h : Reachable run) :
    ∀ order ∈ run.orders, order.WellFormed := by
  refine h.induction (P := fun run => ∀ order ∈ run.orders, order.WellFormed) (by simp [createRun])
    (by simp) ?_ fun _ _ _ ih => ih
  intro run run' command key now outcome _ _ h all
  refine handler_orders h all ?_ ?_ ?_ ?_ ?_ ?_
  · intros; simp [Order.WellFormed]
  · intro order _ coupon _ hs _ ho
    simpa [Order.WellFormed, hs] using ho
  · intro order _ hs hp _ ho
    exact ⟨hp, (ho.of_pending hs).2.1⟩
  · intro order _ hs hp _ ho
    exact ⟨hp, (ho.of_pending hs).2.1⟩
  · rintro order _ (hs | hs) ho <;> simpa [Order.WellFormed, hs] using ho
  · intro order _ hs amount ha _ ho
    exact ho.refund hs ha

theorem Reachable.memberships_paid [Python] (h : Reachable run) :
    ∀ membership ∈ run.memberships, 0 < membership.paidAmount := by
  refine h.induction (P := fun run => ∀ membership ∈ run.memberships, 0 < membership.paidAmount)
    (by simp [createRun]) (by simp) ?_ fun _ _ _ ih => ih
  intro run run' command key now outcome _ _ h all
  exact handler_memberships h all (fun _ _ _ _ ha => ha) fun _ _ _ hp _ _ => hp

/-! ## Conservation -/

/-- What is kept of the payments of the user. -/
def held (run : RunSpace) : Int :=
  (run.orders.map fun order => order.paidAmount - order.refundedAmount).sum +
    (run.memberships.map Membership.kept).sum

/-- A handler creates the user with the balance the command asks for, or leaves the
    user's balance and what is kept alone, or moves money between the two. -/
theorem handler_money [Python] (hr : Reachable run)
    (h : run.handler command key now = .ok (run', outcome)) :
    (command.action = .createUser ∧ run.user = none ∧ run'.held = run.held ∧
      ∃ amount currency user', money (command.argument "initial_balance") "initial_balance" =
        .ok (amount, currency) ∧ run'.user = some user' ∧ user'.balance = amount.toInt) ∨
    (run'.user.map TestUser.balance = run.user.map TestUser.balance ∧ run'.held = run.held) ∨
    (∃ user user', run.user = some user ∧ run'.user = some user' ∧
      user'.balance + run'.held = user.balance + run.held ∧
      (0 ≤ user.balance → 0 ≤ user'.balance)) := by
  have storable := hr.storable
  -- What replacing an order does to what is kept of the payments for orders.
  have moved : ∀ row {order : Order}, Table.find? Order.id run.orders row.id = some order →
      ((Table.update Order.id run.orders row).map fun order =>
        order.paidAmount - order.refundedAmount).sum =
        (run.orders.map fun order => order.paidAmount - order.refundedAmount).sum -
          (order.paidAmount - order.refundedAmount) + (row.paidAmount - row.refundedAmount) :=
    fun row order hf => Table.sum_update storable.orders_keyed hf _
  unfold handler at h
  split at h
  · rename_i ha
    obtain ⟨amount, currency, hm, hu, rfl⟩ := createUser_ok h
    exact .inl ⟨ha, hu, by simp [held], amount, currency, _, hm, rfl, rfl⟩
  · obtain ⟨_, _, _, _, -, -, -, rfl⟩ := issueCoupon_ok h
    exact .inr (.inl (by simp [held]))
  · obtain ⟨_, _, _, -, -, rfl⟩ := createOrder_ok h
    exact .inr (.inl (by simp [held]))
  · obtain ⟨order, coupon, ho, -, -, -, -, rfl⟩ := applyCoupon_ok h
    exact .inr (.inl (by simp [held, moved (order.discountedBy coupon) ho]))
  · obtain ⟨order, user, r, -, ho, hs, hu, -, hb, hr', h⟩ := payOrder_ok h
    have wf := (hr.orders_wellFormed order (Table.mem_of_find? ho)).of_pending hs
    have rows := useCoupon_rows hr'
    right; right
    have paid := moved order.captured ho
    rcases h with ⟨-, rfl⟩ | ⟨-, h⟩
    · refine ⟨user, user.pay order.price, hu, by simp [rows], ?_, fun _ => sub_nonneg.2 hb⟩
      simp [held, rows, paid, wf]
      ring
    · have rows' := grantPoints_rows h
      refine ⟨user, _, hu, rows'.1, ?_, fun _ => sub_nonneg.2 hb⟩
      have twice : Table.update Order.id (Table.update Order.id run.orders order.captured)
          (order.captured.withPoints (pointsFor order.price)) =
          Table.update Order.id run.orders (order.captured.withPoints (pointsFor order.price)) :=
        Table.update_update rfl
      simp [held, rows', rows, twice, moved (order.captured.withPoints (pointsFor order.price)) ho,
        wf]
      ring
  · obtain ⟨order, r, ho, hs, hr, rfl⟩ := cancelOrder_ok h
    have rows := releaseCoupon_rows hr
    exact .inr (.inl (by simp [held, rows, moved (order.withStatus .cancelled) ho]))
  · obtain ⟨order, user, amount, r, -, ho, hs, -, ha, -, hu, hr', h, -⟩ := refundOrder_ok h
    have rows := restoreCoupon_rows h
    obtain ⟨⟨points, hu'⟩, rows'⟩ := refundPoints_rows hr' (by simp [refunded])
    right; right
    refine ⟨user, _, hu, rows.1.trans hu', ?_, fun hb => ?_⟩
    · simp [held, rows, rows', refunded, moved (order.refund amount.toInt) ho]
      ring
    · exact add_nonneg hb ha.le
  · obtain ⟨user, _, hu, -, -, rfl⟩ := redeemPoints_ok h
    exact .inr (.inl (by simp [held, hu]))
  · obtain ⟨user, amount, _, _, hu, -, -, hb, -, rfl⟩ := activateMembership_ok h
    right; right
    refine ⟨user, _, hu, rfl, ?_, fun _ => sub_nonneg.2 hb⟩
    simp [held, activated, Membership.kept]
    ring
  · obtain ⟨_, _, -, -, -, -, -, rfl⟩ := consumeEntitlement_ok h
    exact .inr (.inl (by simp [held]))
  · obtain ⟨membership, user, entitlement, r, hf, hs, hu, -, h⟩ := cancelMembership_ok h
    have closed : ∀ row, Table.find? Membership.id run.memberships row.id = some membership →
        ((Table.update Membership.id run.memberships row).map Membership.kept).sum =
          (run.memberships.map Membership.kept).sum - membership.kept + row.kept :=
      fun row hrow => Table.sum_update storable.memberships_keyed hrow _
    have kept : membership.kept = membership.paidAmount := by simp [Membership.kept, hs]
    rcases h with ⟨-, hr', rfl⟩ | ⟨hr', rfl⟩
    · have rows := revokeEntitlement_rows hr'
      right; right
      refine ⟨user, _, hu, rows.1, ?_, fun hb => ?_⟩
      · simp [held, rows, closed (membership.withStatus .refunded) hf, kept]
        simp [Membership.kept]
        ring
      · exact add_nonneg hb (hr.memberships_paid membership (Table.mem_of_find? hf)).le
    · have rows := revokeEntitlement_rows hr'
      right; left
      constructor
      · simp [rows, hu]
      · simp [held, rows, closed (membership.withStatus .cancelled) hf, kept]
        simp [Membership.kept]
  · rw [inspectState_ok h]
    exact .inr (.inl ⟨rfl, rfl⟩)

/-- Before there is a user there is no money. -/
theorem Reachable.held_eq_zero [Python] (h : Reachable run) (hu : run.user = none) :
    run.held = 0 := by
  refine h.induction (P := fun run => run.user = none → run.held = 0) (by simp [createRun, held])
    (by simp [held]) ?_ (fun _ _ _ ih => ih) hu
  intro run run' command key now outcome hr _ h ih hu'
  rcases handler_money hr h with ⟨-, -, -, _, _, user', -, e, -⟩ | ⟨e, same⟩ | ⟨_, user', -, e, -⟩
  · simp [e] at hu'
  · rw [same]
    rw [hu'] at e
    exact ih (Option.map_eq_none_iff.1 e.symm)
  · simp [e] at hu'

/-- What a command does with the money is what its handler does, or nothing. -/
theorem execute_money [Python] (hr : Reachable run) (command : ActionCommand) (now : Nat)
    (uuid : String) :
    let run' := (run.execute command now uuid).1
    (command.action = .createUser ∧ run.user = none ∧ run'.held = run.held ∧
      ∃ amount currency user', money (command.argument "initial_balance") "initial_balance" =
        .ok (amount, currency) ∧ run'.user = some user' ∧ user'.balance = amount.toInt) ∨
    (run'.user.map TestUser.balance = run.user.map TestUser.balance ∧ run'.held = run.held) ∨
    (∃ user user', run.user = some user ∧ run'.user = some user' ∧
      user'.balance + run'.held = user.balance + run.held ∧
      (0 ≤ user.balance → 0 ≤ user'.balance)) := by
  intro run'
  rcases execute_cases run command now uuid with e | ⟨record, -, hp, -⟩
  · exact .inr (.inl (by simp [run', e]))
  · rcases perform_ok hp with ⟨-, ⟨r, outcome, hd, -, -, e⟩ | ⟨error, -, -, e⟩⟩
    · simp only [run', e]
      have h := handler_money hr (dispatch_ok hd).1
      exact h
    · exact .inr (.inl (by simp only [run', e]; exact ⟨rfl, rfl⟩))

/-- The user's balance and what is kept of the payments make up the amount that
    the user was created with since the last reset, by the command that succeeded. -/
theorem money_conserved [Python] (request : CreateRunRequest) (id : String) (history : List Op)
    (user : TestUser) (hu : ((createRun request id).after history).user = some user) :
    let run := (createRun request id).after history
    ∃ before command uuid now after amount currency,
      history = before ++ .execute command uuid now :: after ∧ Op.reset ∉ after ∧
      command.action = .createUser ∧ ((createRun request id).after before).user = none ∧
      money (command.argument "initial_balance") "initial_balance" = .ok (amount, currency) ∧
      ((createRun request id).after (before ++ [.execute command uuid now])).user.map
        TestUser.balance = some amount.toInt ∧
      user.balance + ((run.orders.map fun order => order.paidAmount - order.refundedAmount).sum +
        (run.memberships.map fun membership =>
          if membership.status = .refunded then 0 else membership.paidAmount).sum) =
        amount.toInt ∧
      0 ≤ user.balance := by
  intro run
  change ∃ before command uuid now after, ∃ amount : Amount, ∃ currency, _ ∧ _ ∧ _ ∧ _ ∧ _ ∧ _ ∧
    user.balance + run.held = amount.toInt ∧ _
  induction history using List.reverseRecOn generalizing user with
  | nil => simp [createRun] at hu
  | append_singleton history op ih =>
    have hr : Reachable ((createRun request id).after history) := ⟨request, id, history, rfl⟩
    simp only [run, after_concat] at hu ⊢
    cases op with
    | reset => simp [RunSpace.apply] at hu
    | execute command uuid now =>
      rcases execute_money hr command now uuid with
        ⟨ha, none, same, amount, currency, user', hm, hu', e⟩ | ⟨e, same⟩ |
        ⟨old, user', hold, hu', e, nonneg⟩
      · obtain rfl := Option.some.inj (hu'.symm.trans hu)
        refine ⟨history, command, uuid, now, [], amount, currency, rfl, by simp, ha, none, hm,
          ?_, ?_, e ▸ nonneg_of_money hm⟩
        · rw [RunSpace.apply, hu', Option.map_some, e]
        · rw [RunSpace.apply, same, hr.held_eq_zero none, e, add_zero]
      · -- Neither the balance nor what is kept changes.
        obtain ⟨old, hold, hb⟩ : ∃ old, ((createRun request id).after history).user = some old ∧
            old.balance = user.balance := by
          rw [RunSpace.apply] at hu
          rw [hu] at e
          exact Option.map_eq_some_iff.1 e.symm
        obtain ⟨before, creation, u, n, after, amount, currency, rfl, noReset, ha, none, hm, made,
          h⟩ := ih old hold
        rw [after_concat] at made
        refine ⟨before, creation, u, n, after ++ [.execute command uuid now], amount, currency,
          by simp, by simpa using noReset, ha, none, hm, made, ?_⟩
        rw [RunSpace.apply, same, ← hb]
        exact h
      · obtain rfl := Option.some.inj (hu'.symm.trans hu)
        obtain ⟨before, creation, u, n, after, amount, currency, rfl, noReset, ha, none, hm, made,
          total, hb⟩ := ih old hold
        rw [after_concat] at made
        refine ⟨before, creation, u, n, after ++ [.execute command uuid now], amount, currency,
          by simp, by simpa using noReset, ha, none, hm, made, ?_, nonneg hb⟩
        rw [RunSpace.apply, e, total]

end RunSpace

/-- The rule at work on an order that is paid for. -/
theorem money_conserved_paid :
    let _ := Python.transparent
    ∃ user, ((createRun { scenarioType := .promotion } "run").after paidHistory).user = some user ∧
      0 ≤ user.balance := by
  intro _
  generalize hp : paidHistory = history
  have found : ((createRun { scenarioType := .promotion } "run").after history).user.isSome =
      true := by
    rw [← hp]
    decide +kernel
  obtain ⟨user, hu⟩ := Option.isSome_iff_exists.1 found
  obtain ⟨_, _, _, _, _, _, _, -, -, -, -, -, -, -, nonneg⟩ :=
    RunSpace.money_conserved { scenarioType := .promotion } "run" history user hu
  exact ⟨user, hu, nonneg⟩

end RuleArena
