import RuleArena.Sandbox.Runs

/-!
# Identifiers and keys

The rows of a table are numbered, and their identifiers say so; refunds and
entries of the ledger carry the key of the command they come from. New rows
therefore never collide with old ones: a command that has no receipt yet brings
a key that no refund and no entry has (`Reachable.refund_new`,
`Reachable.ledger_new`).

`Edits` lists the updates that handlers are made of, with what of them matters
here.
-/

namespace RuleArena

/-- A text that a query takes: it has no NUL. A lone surrogate, which Python can hold in a
    text and a query takes no more, is no character of a `String`. -/
def Plain (text : String) : Prop := Char.ofNat 0 ∉ text.toList

instance (text : String) : Decidable (Plain text) := inferInstanceAs (Decidable (_ ∉ _))

/-- The identifier of a row by its number. -/
def rowId (kind : String) (n : Nat) : String := kind ++ "-" ++ toString n

theorem rowId_injective (kind : String) : Function.Injective (rowId kind) := by
  intro m n h
  have digits : Nat.toDigits 10 m = Nat.toDigits 10 n := by
    have := congrArg String.toList h
    simpa [rowId, Nat.toList_repr] using this
  rw [← Nat.ofDigitChars_ten_toDigits (n := m), digits, Nat.ofDigitChars_ten_toDigits]

theorem plain_rowId {kind : String} (h : Plain kind) (n : Nat) : Plain (rowId kind n) := by
  intro hm
  simp only [rowId, String.toList_append, List.mem_append] at hm
  rcases hm with (hm | hm) | hm
  · exact h hm
  · exact absurd hm (by decide)
  · have hm : Char.ofNat 0 ∈ n.repr.toList := hm
    rw [Nat.toList_repr] at hm
    exact absurd (Nat.isDigit_of_mem_toDigits (by omega) (by omega) hm) (by decide)

/-- What follows the key of a command in the key of an entry of the ledger. -/
def ledgerSuffixes : List (ActionName × String) :=
  [(.payOrder, ":points-grant"), (.refundOrder, ":points-revoke"),
    (.refundOrder, ":refund-points-grant"), (.redeemPoints, ":points-redeem")]

/-- The key of an entry tells the key and the action of its command. -/
theorem ledgerKey_inj {key key' : String} {first second : ActionName × String}
    (hf : first ∈ ledgerSuffixes) (hs : second ∈ ledgerSuffixes)
    (h : key ++ first.2 = key' ++ second.2) : key = key' ∧ first = second := by
  have lists : key.toList ++ first.2.toList = key'.toList ++ second.2.toList := by
    simpa using congrArg String.toList h
  -- One of the two suffixes ends with the other.
  have nested : first.2.toList <:+ second.2.toList ∨ second.2.toList <:+ first.2.toList := by
    rcases List.append_eq_append_iff.1 lists with ⟨l, -, e⟩ | ⟨l, -, e⟩
    · exact .inr ⟨l, e.symm⟩
    · exact .inl ⟨l, e.symm⟩
  have same : first = second := by
    simp only [ledgerSuffixes, List.mem_cons, List.not_mem_nil, or_false] at hf hs
    rcases hf with rfl | rfl | rfl | rfl <;> rcases hs with rfl | rfl | rfl | rfl <;>
      first | rfl | (revert nested; decide)
  subst same
  exact ⟨String.toList_inj.1 (List.append_cancel_right lists), rfl⟩

namespace RunSpace

/-! ## Updates -/

/-- The second run comes from the first one by the updates that the handler of an
    action makes under a key. -/
inductive Edits (action : ActionName) (key : String) (run : RunSpace) : RunSpace → Prop
  | refl : Edits action key run run
  | event {r : RunSpace} (h : Edits action key run r) (aggregateType : AggregateType)
      (aggregateId : String) (eventType : BusinessEventType) (payload : List (String × Json))
      (eventKey : String) (now : Nat) :
      Edits action key run (r.addEvent aggregateType aggregateId eventType payload eventKey now)
  | newUser {r : RunSpace} (h : Edits action key run r) (user : TestUser)
      (id : user.id = "user-1") : Edits action key run (r.setUser user)
  | setUser {r : RunSpace} (h : Edits action key run r) (user old : TestUser)
      (found : r.user = some old) (id : user.id = old.id) : Edits action key run (r.setUser user)
  | newOrder {r : RunSpace} (h : Edits action key run r) (order : Order) (user : TestUser)
      (found : r.user = some user) (id : order.id = nextId r.orders "order")
      (owner : order.userId = user.id) (coupon : order.couponId = none) :
      Edits action key run (r.addOrder order)
  | setOrder {r : RunSpace} (h : Edits action key run r) (order old : Order)
      (found : Table.find? Order.id r.orders order.id = some old)
      (owner : order.userId = old.userId)
      (coupon : order.couponId = old.couponId ∨
        ∃ coupon ∈ r.coupons, order.couponId = some coupon.id) :
      Edits action key run (r.setOrder order)
  | newCoupon {r : RunSpace} (h : Edits action key run r) (coupon : Coupon)
      (id : coupon.id = nextId r.coupons "coupon") : Edits action key run (r.addCoupon coupon)
  | setCoupon {r : RunSpace} (h : Edits action key run r) (coupon : Coupon) :
      Edits action key run (r.setCoupon coupon)
  | refund {r : RunSpace} (h : Edits action key run r) (refund : Refund)
      (id : refund.id = nextId r.refunds "refund") (own : refund.idempotencyKey = key)
      (here : action = .refundOrder) : Edits action key run (r.addRefund refund)
  | ledger {r : RunSpace} (h : Edits action key run r) (userId : String) (orderId : Option String)
      (entryType : LedgerEntryType) (amount : Int) (suffix : String)
      (here : (action, suffix) ∈ ledgerSuffixes) :
      Edits action key run (r.addLedger userId orderId entryType amount (key ++ suffix))
  | newMembership {r : RunSpace} (h : Edits action key run r) (membership : Membership)
      (user : TestUser) (found : r.user = some user)
      (id : membership.id = nextId r.memberships "membership")
      (owner : membership.userId = user.id) : Edits action key run (r.addMembership membership)
  | setMembership {r : RunSpace} (h : Edits action key run r) (membership old : Membership)
      (found : Table.find? Membership.id r.memberships membership.id = some old)
      (owner : membership.userId = old.userId) : Edits action key run (r.setMembership membership)
  | newEntitlement {r : RunSpace} (h : Edits action key run r) (entitlement : Entitlement)
      (id : entitlement.id = nextId r.entitlements "entitlement")
      (fresh : entitlement.consumedQuantity = 0) :
      Edits action key run (r.addEntitlement entitlement)
  | setEntitlement {r : RunSpace} (h : Edits action key run r) (entitlement old : Entitlement)
      (found : old ∈ r.entitlements)
      (consumed : old.consumedQuantity ≤ entitlement.consumedQuantity) :
      Edits action key run (r.setEntitlement entitlement)

variable {run run' : RunSpace} {action : ActionName} {command : ActionCommand} {key : String}
  {now : Nat} {outcome : Outcome}

theorem useCoupon_edits {order : Order} {r : RunSpace} (h : Edits action key run r)
    (hr : r.useCoupon key now order = .ok run') : Edits action key run run' := by
  rcases useCoupon_ok hr with ⟨-, rfl⟩ | ⟨coupon, -, -, -, -, rfl⟩
  · exact h
  · exact (h.setCoupon _).event ..

theorem releaseCoupon_edits {order : Order} {r : RunSpace} (h : Edits action key run r)
    (hr : r.releaseCoupon key now order = .ok run') : Edits action key run run' := by
  rcases releaseCoupon_ok hr with rfl | ⟨coupon, -, -, -, -, rfl⟩
  · exact h
  · exact (h.setCoupon _).event ..

theorem restoreCoupon_edits {order : Order} {r : RunSpace} (h : Edits action key run r)
    (hr : r.restoreCoupon key now order = .ok run') : Edits action key run run' := by
  rcases restoreCoupon_ok hr with rfl | ⟨coupon, -, -, -, rfl⟩
  · exact h
  · exact (h.setCoupon _).event ..

theorem grantPoints_edits {user old : TestUser} {order : Order} {points : Int} {suffix : String}
    {r : RunSpace} (h : Edits action key run r) (here : (action, suffix) ∈ ledgerSuffixes)
    (found : r.user = some old) (id : user.id = old.id)
    (hr : r.grantPoints key now user order points (key ++ suffix) = .ok run') :
    Edits action key run run' := by
  rw [grantPoints_ok hr]
  exact ((h.setUser (user.addPoints points) old found id).ledger _ _ _ _ suffix here).event ..

theorem refundPoints_edits {user old : TestUser} {order : Order} {amount : Int} {r : RunSpace}
    (h : Edits .refundOrder key run r) (found : r.user = some old) (id : user.id = old.id)
    (hr : r.refundPoints key now user order amount = .ok run') :
    Edits .refundOrder key run run' := by
  rcases refundPoints_ok hr with ⟨-, rfl⟩ | ⟨-, -, hr⟩ | ⟨-, -, hr⟩
  · exact h
  · exact grantPoints_edits h (by decide) found id hr
  · rcases revokePoints_ok hr with ⟨-, rfl⟩ | ⟨delta, -, -, -, rfl⟩
    · exact h
    · exact ((h.setUser (user.addPoints (-delta)) old found id).ledger _ _ _ _ ":points-revoke"
        (by decide)).event ..

theorem revokeEntitlement_edits {allowed : Bool} {entitlement : Entitlement} {r : RunSpace}
    (h : Edits action key run r) (found : entitlement ∈ r.entitlements)
    (hr : r.revokeEntitlement key now allowed entitlement = .ok run') :
    Edits action key run run' := by
  rcases revokeEntitlement_ok hr with ⟨-, rfl⟩ | ⟨-, -, rfl⟩
  · exact h
  · exact (h.setEntitlement entitlement.revokeAvailable entitlement found le_rfl).event ..

/-- A handler is made of these updates. -/
theorem handler_edits [Python] (h : run.handler command key now = .ok (run', outcome)) :
    Edits command.action key run run' := by
  unfold handler at h
  split at h <;> rename_i action <;> rw [action]
  · obtain ⟨_, _, -, -, rfl⟩ := createUser_ok h
    exact (Edits.refl.newUser _ rfl).event ..
  · obtain ⟨_, _, _, _, -, -, -, rfl⟩ := issueCoupon_ok h
    exact (Edits.refl.newCoupon _ rfl).event ..
  · obtain ⟨user, _, _, hu, -, rfl⟩ := createOrder_ok h
    exact (Edits.refl.newOrder _ user hu rfl rfl rfl).event ..
  · obtain ⟨order, coupon, ho, hc, -, -, -, rfl⟩ := applyCoupon_ok h
    exact ((Edits.refl.setOrder (order.discountedBy coupon) order ho rfl
      (.inr ⟨coupon, Table.mem_of_find? hc, rfl⟩)).setCoupon _).event ..
  · obtain ⟨order, user, r, -, ho, -, hu, -, -, hr, h⟩ := payOrder_ok h
    have used : Edits .payOrder key run r := useCoupon_edits
      ((Edits.refl.setUser (user.pay order.price) user hu rfl).setOrder order.captured order ho rfl
        (.inl rfl)) hr
    rcases h with ⟨-, rfl⟩ | ⟨-, h⟩
    · exact used.event ..
    · have rows := useCoupon_rows hr
      refine grantPoints_edits ((used.event ..).setOrder
        (order.captured.withPoints (pointsFor order.price)) order.captured ?_ rfl (.inl rfl))
        (by decide) rows.1 rfl h
      rw [addEvent_orders, rows.2.1]
      simp [Table.find?_update, ho]
  · obtain ⟨order, r, ho, -, hr, rfl⟩ := cancelOrder_ok h
    refine ((releaseCoupon_edits .refl hr).setOrder (order.withStatus .cancelled) order ?_ rfl
      (.inl rfl)).event ..
    rw [(releaseCoupon_rows hr).2.1]
    exact ho
  · obtain ⟨order, user, amount, r, -, ho, -, -, -, -, hu, hr, h, -⟩ := refundOrder_ok h
    have issued : Edits .refundOrder key run (run.refunded user order amount key now) :=
      (((Edits.refl.setUser (user.credit amount.toInt) user hu rfl).setOrder
        (order.refund amount.toInt) order ho rfl (.inl rfl)).refund
        ⟨nextId run.refunds "refund", order.id, amount.toInt, key⟩ rfl rfl rfl).event ..
    exact restoreCoupon_edits (refundPoints_edits issued rfl rfl hr) h
  · obtain ⟨user, amount, hu, -, -, rfl⟩ := redeemPoints_ok h
    exact ((Edits.refl.setUser (user.addPoints (-amount)) user hu rfl).ledger _ _ _ _
      ":points-redeem" (by decide)).event ..
  · obtain ⟨user, amount, quantity, currency, hu, -, -, -, -, rfl⟩ := activateMembership_ok h
    let member := (user.pay amount).withMembership .active
    exact ((((Edits.refl.setUser member user hu rfl).newMembership
      ⟨nextId run.memberships "membership", user.id, amount, currency, .active⟩ member rfl rfl
      rfl).newEntitlement ⟨nextId run.entitlements "entitlement",
        nextId run.memberships "membership", "USAGE", quantity, 0, 0, .granted⟩ rfl
      rfl).event ..).event ..
  · obtain ⟨entitlement, quantity, he, hq, -, -, -, rfl⟩ := consumeEntitlement_ok h
    exact (Edits.refl.setEntitlement (entitlement.consume quantity) entitlement
      (Table.mem_of_find? he) (by simp; omega)).event ..
  · obtain ⟨membership, user, _, r, hm, -, hu, he, ⟨-, hr, rfl⟩ | ⟨hr, rfl⟩⟩ :=
      cancelMembership_ok h
    · exact (revokeEntitlement_edits ((Edits.refl.setUser
        ((user.credit membership.paidAmount).withMembership .inactive) user hu rfl).setMembership
        (membership.withStatus .refunded) membership hm rfl) (Table.mem_of_find? he) hr).event ..
    · exact (revokeEntitlement_edits ((Edits.refl.setUser
        (user.withMembership .inactive) user hu rfl).setMembership
        (membership.withStatus .cancelled) membership hm rfl) (Table.mem_of_find? he) hr).event ..
  · rw [inspectState_ok h]
    exact .refl

/-! ## Identifiers -/

/-- Rows are numbered, every text that a later query takes from a row is plain, and
    nothing is consumed less than not at all. -/
structure Identified (run : RunSpace) : Prop where
  user : ∀ user ∈ run.user, Plain user.id
  owners : ∀ order ∈ run.orders, Plain order.userId
  carried : ∀ order ∈ run.orders, ∀ couponId ∈ order.couponId, Plain couponId
  holders : ∀ membership ∈ run.memberships, Plain membership.userId
  coupons : Table.Numbered (rowId "coupon") Coupon.id run.coupons
  orders : Table.Numbered (rowId "order") Order.id run.orders
  refunds : Table.Numbered (rowId "refund") Refund.id run.refunds
  memberships : Table.Numbered (rowId "membership") Membership.id run.memberships
  entitlements : Table.Numbered (rowId "entitlement") Entitlement.id run.entitlements
  consumed : ∀ entitlement ∈ run.entitlements, 0 ≤ entitlement.consumedQuantity

theorem Identified.plain_coupon (h : Identified run) {coupon : Coupon} (hm : coupon ∈ run.coupons) :
    Plain coupon.id := by
  have hid := List.mem_map_of_mem (f := Coupon.id) hm
  rw [h.coupons] at hid
  obtain ⟨n, -, e⟩ := List.mem_map.1 hid
  exact e ▸ plain_rowId (by decide) n

/-- Every update keeps rows identified. -/
theorem Edits.identified (h : Edits action key run run') (hi : Identified run) :
    Identified run' := by
  induction h with
  | refl => exact hi
  | event _ _ _ _ _ _ _ ih => exact { ih with }
  | newUser _ user id ih =>
    exact { ih with user := by rintro _ ⟨⟩; rw [id]; decide }
  | setUser _ user old found id ih =>
    exact { ih with user := by rintro _ ⟨⟩; rw [id]; exact ih.user old found }
  | newOrder _ order user found id owner coupon ih =>
    exact { ih with
      owners := by
        intro o hm
        rcases List.mem_append.1 hm with hm | hm
        · exact ih.owners o hm
        · rw [List.mem_singleton.1 hm, owner]
          exact ih.user user found
      carried := by
        intro o hm
        rcases List.mem_append.1 hm with hm | hm
        · exact ih.carried o hm
        · rw [List.mem_singleton.1 hm, coupon]
          nofun
      orders := ih.orders.append id }
  | setOrder _ order old found owner coupon ih =>
    have hold := Table.mem_of_find? found
    exact { ih with
      owners := by
        intro o hm
        rcases Table.mem_update hm with rfl | ⟨hm, -⟩
        · exact owner ▸ ih.owners old hold
        · exact ih.owners o hm
      carried := by
        intro o hm
        rcases Table.mem_update hm with rfl | ⟨hm, -⟩
        · rcases coupon with e | ⟨coupon, hc, e⟩
          · exact e ▸ ih.carried old hold
          · rintro couponId hid
            rw [e] at hid
            exact Option.some.inj hid ▸ ih.plain_coupon hc
        · exact ih.carried o hm
      orders := ih.orders.update order }
  | newCoupon _ coupon id ih => exact { ih with coupons := ih.coupons.append id }
  | setCoupon _ coupon ih => exact { ih with coupons := ih.coupons.update coupon }
  | refund _ refund id _ _ ih => exact { ih with refunds := ih.refunds.append id }
  | ledger _ _ _ _ _ _ _ ih => exact { ih with }
  | newMembership _ membership user found id owner ih =>
    exact { ih with
      holders := by
        intro m hm
        rcases List.mem_append.1 hm with hm | hm
        · exact ih.holders m hm
        · rw [List.mem_singleton.1 hm, owner]
          exact ih.user user found
      memberships := ih.memberships.append id }
  | setMembership _ membership old found owner ih =>
    exact { ih with
      holders := by
        intro m hm
        rcases Table.mem_update hm with rfl | ⟨hm, -⟩
        · exact owner ▸ ih.holders old (Table.mem_of_find? found)
        · exact ih.holders m hm
      memberships := ih.memberships.update membership }
  | newEntitlement _ entitlement id fresh ih =>
    exact { ih with
      entitlements := ih.entitlements.append id
      consumed := by
        intro e hm
        rcases List.mem_append.1 hm with hm | hm
        · exact ih.consumed e hm
        · rw [List.mem_singleton.1 hm, fresh] }
  | setEntitlement _ entitlement old found consumed ih =>
    exact { ih with
      entitlements := ih.entitlements.update entitlement
      consumed := by
        intro e hm
        rcases Table.mem_update hm with rfl | ⟨hm, -⟩
        · exact (ih.consumed old found).trans consumed
        · exact ih.consumed e hm }

theorem Reachable.identified [Python] (h : Reachable run) : Identified run := by
  refine h.induction (fun _ _ => ?_) (fun run _ _ => ?_)
    (fun _ _ _ _ _ _ _ _ h ih => (handler_edits h).identified ih) fun _ _ _ ih => { ih with }
  · constructor <;> simp [createRun, Table.Numbered]
  · constructor <;> simp [Table.Numbered]

/-! ## Keys -/

/-- The keys of refunds and of entries of the ledger come from commands that have a
    receipt. -/
structure Keys (run : RunSpace) : Prop where
  refunds : ∀ refund ∈ run.refunds, ∃ record ∈ run.epochReceipts,
    record.actionType = .refundOrder ∧ record.idempotencyKey = refund.idempotencyKey
  ledger : ∀ entry ∈ run.ledger, ∃ record ∈ run.epochReceipts,
    ∃ suffix, (record.actionType, suffix) ∈ ledgerSuffixes ∧
      entry.idempotencyKey = record.idempotencyKey ++ suffix

/-- A handler brings its own key. -/
theorem Edits.keys (h : Edits action key run run') :
    (∀ refund ∈ run'.refunds, refund ∈ run.refunds ∨
      action = .refundOrder ∧ refund.idempotencyKey = key) ∧
    ∀ entry ∈ run'.ledger, entry ∈ run.ledger ∨
      ∃ suffix, (action, suffix) ∈ ledgerSuffixes ∧ entry.idempotencyKey = key ++ suffix := by
  induction h with
  | refl => exact ⟨fun _ => .inl, fun _ => .inl⟩
  | refund _ refund _ own here ih =>
    refine ⟨fun f hm => ?_, ih.2⟩
    rcases List.mem_append.1 hm with hm | hm
    · exact ih.1 f hm
    · rw [List.mem_singleton.1 hm]
      exact .inr ⟨here, own⟩
  | ledger _ _ _ _ _ suffix here ih =>
    refine ⟨ih.1, fun e hm => ?_⟩
    rcases List.mem_append.1 hm with hm | hm
    · exact ih.2 e hm
    · rw [List.mem_singleton.1 hm]
      exact .inr ⟨suffix, here, rfl⟩
  | _ => assumption

theorem Reachable.keys [Python] (h : Reachable run) : Keys run := by
  refine h.induct (P := Keys) (fun _ _ => ⟨by simp [createRun], by simp [createRun]⟩)
    fun run op hr ih => ?_
  cases op with
  | reset => exact ⟨by simp [RunSpace.apply], by simp [RunSpace.apply]⟩
  | execute command uuid now =>
    rw [RunSpace.apply]
    rcases execute_cases run command now uuid with e | ⟨added, -, hp, -⟩
    · rw [e]; exact ih
    · have own : added ∈ (run.execute command now uuid).1.epochReceipts := by
        rw [perform_receipts hp]
        exact List.mem_append_right _ (List.mem_singleton.2 rfl)
      have kept : run.epochReceipts ⊆ (run.execute command now uuid).1.epochReceipts := by
        rw [perform_receipts hp]
        exact List.subset_append_left _ _
      rcases perform_ok hp with ⟨-, ⟨r, outcome, hd, rfl, -, e⟩ | ⟨error, -, rfl, e⟩⟩ <;>
        rw [e] at own kept ⊢
      · have edits := (handler_edits (dispatch_ok hd).1).keys
        refine ⟨fun refund hm => ?_, fun entry hm => ?_⟩
        · rcases edits.1 refund hm with hm | ⟨action, own'⟩
          · obtain ⟨record, hrec, found⟩ := ih.refunds refund hm
            exact ⟨record, kept hrec, found⟩
          · exact ⟨_, own, action, own'.symm⟩
        · rcases edits.2 entry hm with hm | ⟨suffix, here, own'⟩
          · obtain ⟨record, hrec, found⟩ := ih.ledger entry hm
            exact ⟨record, kept hrec, found⟩
          · exact ⟨_, own, suffix, here, own'⟩
      · refine ⟨fun refund hm => ?_, fun entry hm => ?_⟩
        · obtain ⟨record, hrec, found⟩ := ih.refunds refund hm
          exact ⟨record, kept hrec, found⟩
        · obtain ⟨record, hrec, found⟩ := ih.ledger entry hm
          exact ⟨record, kept hrec, found⟩

/-- The key of a refund that has no receipt yet is new to the refunds. -/
theorem Keys.refund_new (h : Keys run) (new : run.existing .refundOrder key = none) :
    key ∉ run.refunds.map Refund.idempotencyKey := by
  intro hkey
  obtain ⟨refund, hm, rfl⟩ := List.mem_map.1 hkey
  obtain ⟨record, hrec, action, same⟩ := h.refunds refund hm
  simpa [action, same] using List.find?_eq_none.1 new record hrec

/-- The keys of an action that has no receipt yet are new to the ledger. -/
theorem Keys.ledger_new (h : Keys run) (new : run.existing action key = none) {suffix : String}
    (here : (action, suffix) ∈ ledgerSuffixes) :
    key ++ suffix ∉ run.ledger.map PointsLedgerEntry.idempotencyKey := by
  intro hm
  obtain ⟨entry, hm, e⟩ := List.mem_map.1 hm
  obtain ⟨record, hrec, other, there, own⟩ := h.ledger entry hm
  obtain ⟨same, pair⟩ := ledgerKey_inj there here (own.symm.trans e)
  simpa [(Prod.mk.inj pair).1, same] using List.find?_eq_none.1 new record hrec

end RunSpace

end RuleArena
