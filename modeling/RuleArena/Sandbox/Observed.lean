import RuleArena.Sandbox.Idempotency
import RuleArena.Sandbox.Reads

/-!
# What snapshots show of a command

A write that succeeds changes a row that snapshots show, in every scenario and with
every defect: a row is new, or the balance, the points or the membership of the user
have changed, or the state of an order, a membership or an entitlement. A write that
is rejected leaves the rows as they were. So the states of the snapshots before and
after tell whether it took effect (`Reachable.write_observed`).

States are compared up to the order of the members of their objects, as dictionaries
and as the texts that are hashed are.
-/

namespace RuleArena

/-! ## Values up to the order of members -/

namespace Json

/-- They agree at each member. -/
theorem get?_of_sortKeys {left right : List (String × Json)} (nodup : (left.map Prod.fst).Nodup)
    (nodup' : (right.map Prod.fst).Nodup) (h : (obj left).sortKeys = (obj right).sortKeys)
    (name : String) : ((obj left).get? name).map sortKeys = ((obj right).get? name).map sortKeys := by
  rw [← get?_sortKeys nodup, h, get?_sortKeys nodup']

end Json

/-- Amounts that a column holds have different texts. -/
theorem amountText_inj {a b : Int} (ha : Numeric a) (hb : Numeric b)
    (h : amountText a = amountText b) : a = b := by
  have digits {i : Int} (hi : Numeric i) : numDigits (Amount.ofInt i).cents ≤ 10 ^ 18 := by
    obtain ⟨lower, upper⟩ := hi
    have few : numDigits i.natAbs ≤ 16 := (numDigits_le_iff (by omega)).2 (by omega)
    exact few.trans (by omega)
  have same := congrArg Amount.toInt (Amount.text_inj (digits ha) (digits hb) h)
  rwa [Amount.toInt_ofInt, Amount.toInt_ofInt] at same

theorem MembershipStatus.value_inj {a b : MembershipStatus} (h : a.value = b.value) : a = b := by
  revert h; cases a <;> cases b <;> decide

theorem optionText_inj {a b : Option String}
    (h : (optionText a).sortKeys = (optionText b).sortKeys) : a = b := by
  cases a <;> cases b <;> simp_all [optionText, Json.sortKeys]

/-- What is read off a user: the balance as a text, the points and the membership. -/
theorem TestUser.shown {a b : TestUser} (h : a.toJson.sortKeys = b.toJson.sortKeys) :
    amountText a.balance = amountText b.balance ∧ a.pointsBalance = b.pointsBalance ∧
      a.membershipStatus = b.membershipStatus := by
  have get := Json.get?_of_sortKeys (by simp) (by simp) h
  refine ⟨?_, ?_, MembershipStatus.value_inj ?_⟩
  · simpa [Json.get?, List.lookup, Json.sortKeys] using get "balance"
  · simpa [Json.get?, List.lookup, Json.sortKeys] using get "points_balance"
  · simpa [Json.get?, List.lookup, Json.sortKeys] using get "membership_status"

/-- What is read off an order. -/
theorem Order.shown {a b : Order} (h : a.toJson.sortKeys = b.toJson.sortKeys) :
    a.id = b.id ∧ a.status = b.status ∧ a.couponId = b.couponId := by
  have get := Json.get?_of_sortKeys (by simp) (by simp) h
  refine ⟨?_, OrderStatus.value_inj ?_, optionText_inj ?_⟩
  · simpa [Json.get?, List.lookup, Json.sortKeys] using get "id"
  · simpa [Json.get?, List.lookup, Json.sortKeys] using get "status"
  · simpa [Json.get?, List.lookup] using get "coupon_id"

/-- What is read off a membership. -/
theorem Membership.shown {a b : Membership} (h : a.toJson.sortKeys = b.toJson.sortKeys) :
    a.id = b.id ∧ a.status = b.status := by
  have get := Json.get?_of_sortKeys (by simp) (by simp) h
  refine ⟨?_, MembershipStatus.value_inj ?_⟩
  · simpa [Json.get?, List.lookup, Json.sortKeys] using get "id"
  · simpa [Json.get?, List.lookup, Json.sortKeys] using get "status"

/-- What is read off an entitlement. -/
theorem Entitlement.shown {a b : Entitlement} (h : a.toJson.sortKeys = b.toJson.sortKeys) :
    a.id = b.id ∧ a.consumedQuantity = b.consumedQuantity := by
  have get := Json.get?_of_sortKeys (by simp) (by simp) h
  constructor
  · simpa [Json.get?, List.lookup, Json.sortKeys] using get "id"
  · simpa [Json.get?, List.lookup, Json.sortKeys] using get "consumed_quantity"

/-! ## Plain values -/

theorem plain_optionText (text : Option String) : (optionText text).Plain := by
  cases text <;> trivial

theorem RunSpace.plain_stateJson (run : RunSpace) : run.stateJson.Plain := by
  have rows {α : Type} {toJson : α → Json} (plain : ∀ a, (toJson a).Plain) (as : List α) :
      (Json.arr (as.map toJson)).Plain := by
    rw [Json.Plain, Json.plainItems_iff]
    intro item hm
    obtain ⟨a, -, rfl⟩ := List.mem_map.1 hm
    exact plain a
  have users : ∀ user : TestUser, user.toJson.Plain := fun user => by
    simp [TestUser.toJson, Json.Plain, Json.PlainMembers]
  have coupons : ∀ coupon : Coupon, coupon.toJson.Plain := fun coupon => by
    simp [Coupon.toJson, Json.Plain, Json.PlainMembers, plain_optionText]
  have orders : ∀ order : Order, order.toJson.Plain := fun order => by
    simp [Order.toJson, Json.Plain, Json.PlainMembers, plain_optionText]
  have memberships : ∀ membership : Membership, membership.toJson.Plain := fun membership => by
    simp [Membership.toJson, Json.Plain, Json.PlainMembers]
  have entitlements : ∀ entitlement : Entitlement, entitlement.toJson.Plain := fun entitlement => by
    simp [Entitlement.toJson, Json.Plain, Json.PlainMembers]
  rw [stateJson, Json.Plain]
  exact ⟨rows users _, rows coupons _, rows orders _, rows memberships _, rows entitlements _,
    trivial⟩

/-! ## Tables in snapshots -/

section Shown

variable {α : Type} {key : α → String} {toJson : α → Json} {rows rows' : List α}

/-- Two tables look the same in snapshots. -/
def SameShown (key : α → String) (toJson : α → Json) (rows rows' : List α) : Prop :=
  (Json.arr ((orderById key rows).map toJson)).sortKeys =
    (Json.arr ((orderById key rows').map toJson)).sortKeys

theorem SameShown.map_eq (h : SameShown key toJson rows rows') :
    (orderById key rows).map (Json.sortKeys ∘ toJson) =
      (orderById key rows').map (Json.sortKeys ∘ toJson) := by
  rw [SameShown, Json.sortKeys, Json.sortKeys, Json.sortItems_eq, Json.sortItems_eq, Json.arr.injEq,
    List.map_map, List.map_map] at h
  exact h

theorem SameShown.length_eq (h : SameShown key toJson rows rows') : rows.length = rows'.length := by
  have same := congrArg List.length h.map_eq
  rwa [List.length_map, List.length_map, orderById, orderById, List.length_insertionSort,
    List.length_insertionSort] at same

/-- A row of the second looks like one of the first. -/
theorem SameShown.exists_row (h : SameShown key toJson rows rows') {row : α} (hm : row ∈ rows') :
    ∃ old ∈ rows, (toJson old).sortKeys = (toJson row).sortKeys := by
  have there : (Json.sortKeys ∘ toJson) row ∈ (orderById key rows').map (Json.sortKeys ∘ toJson) :=
    List.mem_map_of_mem (mem_orderById.2 hm)
  rw [← h.map_eq] at there
  obtain ⟨old, ho, same⟩ := List.mem_map.1 there
  exact ⟨old, mem_orderById.1 ho, same⟩

/-- A row that was replaced looks like the old one. -/
theorem SameShown.replaced (h : SameShown key toJson rows rows') (keyed : Table.Keyed key rows)
    (row : α) {old : α} (found : Table.find? key rows (key row) = some old) (hm : row ∈ rows')
    (shows : ∀ a b, (toJson a).sortKeys = (toJson b).sortKeys → key a = key b) :
    (toJson old).sortKeys = (toJson row).sortKeys := by
  obtain ⟨other, ho, same⟩ := h.exists_row hm
  have there := Table.find?_of_mem keyed ho
  rw [shows _ _ same, found] at there
  rwa [Option.some.inj there]

end Shown

namespace RunSpace

variable {run run' : RunSpace} {command : ActionCommand} {key : String} {now : Nat}
  {outcome : Outcome}

/-- Two runs look the same in snapshots. -/
structure Unseen (run run' : RunSpace) : Prop where
  users : run.shownUsers.sortKeys = run'.shownUsers.sortKeys
  coupons : SameShown Coupon.id Coupon.toJson run.coupons run'.coupons
  orders : SameShown Order.id Order.toJson run.orders run'.orders
  memberships : SameShown Membership.id Membership.toJson run.memberships run'.memberships
  entitlements : SameShown Entitlement.id Entitlement.toJson run.entitlements run'.entitlements

theorem unseen_of_state (h : run.stateJson.sortKeys = run'.stateJson.sortKeys) :
    Unseen run run' := by
  have get := Json.get?_of_sortKeys (by simp) (by simp) h
  constructor
  · simpa [shownUsers, Json.get?, List.lookup] using get "users"
  · simpa [SameShown, Json.get?, List.lookup] using get "coupons"
  · simpa [SameShown, Json.get?, List.lookup] using get "orders"
  · simpa [SameShown, Json.get?, List.lookup] using get "memberships"
  · simpa [SameShown, Json.get?, List.lookup] using get "entitlements"

/-- A user that is there looks the same. -/
theorem Unseen.user (h : Unseen run run') {user user' : TestUser} (hu : run.user = some user)
    (hu' : run'.user = some user') :
    amountText user.balance = amountText user'.balance ∧
      user.pointsBalance = user'.pointsBalance ∧
      user.membershipStatus = user'.membershipStatus := by
  have same := h.users
  rw [shownUsers, shownUsers, hu, hu'] at same
  refine TestUser.shown ?_
  simpa [Json.sortKeys, Json.sortItems] using same

/-- A balance that has changed is seen. -/
theorem Unseen.balance (h : Unseen run run') (fits : ∀ user ∈ run.user, user.Storable)
    (fits' : ∀ user ∈ run'.user, user.Storable) {user user' : TestUser} (hu : run.user = some user)
    (hu' : run'.user = some user') : user.balance = user'.balance :=
  amountText_inj (fits user hu).1 (fits' user' hu').1 (h.user hu hu').1

/-- What a handler for a write has changed is seen. -/
theorem handler_observed [Python] (storable : run.Storable)
    (fits : ∀ user ∈ run'.user, user.Storable) (write : command.action ≠ .inspectState)
    (h : run.handler command key now = .ok (run', outcome)) : ¬ Unseen run run' := by
  intro unseen
  unfold handler at h
  split at h
  · obtain ⟨_, _, -, hu, rfl⟩ := createUser_ok h
    have same := unseen.users
    rw [shownUsers, hu] at same
    simp [shownUsers, Json.sortKeys, Json.sortItems] at same
  · obtain ⟨_, _, _, _, -, -, -, rfl⟩ := issueCoupon_ok h
    have same := unseen.coupons.length_eq
    simp at same
  · obtain ⟨_, _, _, -, -, rfl⟩ := createOrder_ok h
    have same := unseen.orders.length_eq
    simp at same
  · obtain ⟨order, coupon, found, -, none, -, -, rfl⟩ := applyCoupon_ok h
    have same := Order.shown (unseen.orders.replaced storable.orders_keyed
      (order.discountedBy coupon) found (Table.mem_update_self found)
      fun _ _ e => (Order.shown e).1)
    rw [none] at same
    cases same.2.2
  · obtain ⟨order, user, r, -, -, -, hu, positive, -, hr, h⟩ := payOrder_ok h
    have rows := useCoupon_rows hr
    obtain ⟨user', hu', balance⟩ : ∃ user', run'.user = some user' ∧
        user'.balance = user.balance - order.price := by
      rcases h with ⟨-, rfl⟩ | ⟨-, h⟩
      · exact ⟨user.pay order.price, by rw [addEvent_user, rows.1]; rfl, rfl⟩
      · exact ⟨_, (grantPoints_rows h).1, rfl⟩
    have same := unseen.balance storable.user fits hu hu'
    omega
  · obtain ⟨order, r, found, states, hr, rfl⟩ := cancelOrder_ok h
    have rows := releaseCoupon_rows hr
    have there : order.withStatus .cancelled ∈ Table.update Order.id r.orders
        (order.withStatus .cancelled) := by
      rw [rows.2.1]
      exact Table.mem_update_self found
    have same := Order.shown (unseen.orders.replaced storable.orders_keyed
      (order.withStatus .cancelled) found there fun _ _ e => (Order.shown e).1)
    rcases states with state | state <;> rw [state] at same <;> cases same.2.1
  · obtain ⟨order, user, amount, r, -, -, -, -, positive, -, hu, hr, h, -⟩ := refundOrder_ok h
    have restored := restoreCoupon_rows h
    obtain ⟨⟨points, hp⟩, -⟩ := refundPoints_rows hr (by simp [refunded])
    have same := unseen.balance storable.user fits hu (restored.1.trans hp)
    have credited : ((user.credit amount.toInt).addPoints points).balance =
      user.balance + amount.toInt := rfl
    omega
  · obtain ⟨user, amount, hu, positive, -, rfl⟩ := redeemPoints_ok h
    have same := (unseen.user hu (show _ = some (user.addPoints (-amount)) by simp)).2.1
    have redeemed : (user.addPoints (-amount)).pointsBalance = user.pointsBalance + -amount := rfl
    omega
  · obtain ⟨user, amount, quantity, currency, hu, inactive, -, -, -, rfl⟩ := activateMembership_ok h
    have same := (unseen.user hu (show _ = some ((user.pay amount).withMembership .active) by
      simp [activated])).2.2
    rw [inactive] at same
    cases same
  · obtain ⟨entitlement, quantity, found, positive, -, -, -, rfl⟩ := consumeEntitlement_ok h
    have same := Entitlement.shown (unseen.entitlements.replaced storable.entitlements_keyed
      (entitlement.consume quantity) found (Table.mem_update_self found)
      fun _ _ e => (Entitlement.shown e).1)
    have consumed : (entitlement.consume quantity).consumedQuantity =
      entitlement.consumedQuantity + quantity := rfl
    omega
  · obtain ⟨membership, user, entitlement, r, found, active, -, -, h⟩ := cancelMembership_ok h
    obtain ⟨status, ended, there⟩ : ∃ status, status ≠ .active ∧
        membership.withStatus status ∈ run'.memberships := by
      rcases h with ⟨-, hr, rfl⟩ | ⟨hr, rfl⟩
      · refine ⟨.refunded, by decide, ?_⟩
        rw [addEvent_memberships, (revokeEntitlement_rows hr).2.2]
        exact Table.mem_update_self found
      · refine ⟨.cancelled, by decide, ?_⟩
        rw [addEvent_memberships, (revokeEntitlement_rows hr).2.2]
        exact Table.mem_update_self found
    have same := Membership.shown (unseen.memberships.replaced storable.memberships_keyed
      (membership.withStatus status) found there fun _ _ e => (Membership.shown e).1)
    rw [active] at same
    exact ended same.2.symm
  · exact write ‹_›

/-- A command under a new key took effect if its receipt says so. -/
def TookEffect [Python] (run : RunSpace) (command : ActionCommand) (key : String) (now : Nat)
    (uuid : String) : Prop :=
  ∃ record, (run.execute command now uuid).1.existing command.action key = some record ∧
    record.status = .succeeded

/-- A write under a new key changes the state of the snapshots exactly if its receipt tells of
    success. -/
theorem Reachable.observed [Python] (reachable : run.Reachable)
    (write : command.action ≠ .inspectState) (keyed : command.idempotencyKey = some key)
    (new : run.existing command.action key = none) (now : Nat) (uuid : String) :
    (run.TookEffect command key now uuid ∧
        ¬ Unseen run (run.execute command now uuid).1) ∨
      (¬ run.TookEffect command key now uuid ∧
        (run.execute command now uuid).1.stateJson = run.stateJson) := by
  have effective : effectiveKey command uuid = key := by rw [effectiveKey, keyed, Option.getD_some]
  rcases execute_cases run command now uuid with e | ⟨record, -, hp, -⟩
  · refine .inr ⟨?_, congrArg stateJson e⟩
    rintro ⟨record, there, -⟩
    rw [e, new] at there
    cases there
  · rw [effective] at hp
    have there := existing_perform new hp
    rcases perform_ok hp with ⟨-, ⟨r, outcome, hd, rfl, storable, e⟩ | ⟨error, -, rfl, e⟩⟩
    · refine .inl ⟨⟨_, there, rfl⟩, ?_⟩
      have fits : ∀ user ∈ r.user, user.Storable := storable.user
      rw [e]
      intro unseen
      exact handler_observed reachable.storable fits write (dispatch_ok hd).1
        ⟨unseen.users, unseen.coupons, unseen.orders, unseen.memberships, unseen.entitlements⟩
    · refine .inr ⟨?_, ?_⟩
      · rintro ⟨record, there', succeeded⟩
        rw [there] at there'
        rw [← Option.some.inj there'] at succeeded
        cases succeeded
      · rw [e]
        rfl

/-- Under an injective digest the hash tells as much as the state. -/
theorem unseen_of_hash [Python] (injective : Function.Injective Python.sha256)
    (h : run.stateHash = run'.stateHash) : Unseen run run' :=
  unseen_of_state (Json.canonical_inj run.plain_stateJson run'.plain_stateJson (injective h))

end RunSpace

end RuleArena
