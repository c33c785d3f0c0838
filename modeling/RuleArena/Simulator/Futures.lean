import RuleArena.Simulator.Offers
import RuleArena.Simulator.Readings

/-!
# States with the same hash

The hash of a state is made of its normalized form, in which the rows are sorted
by their identifiers, the amounts are texts, and the remembered keys are a sorted
list. Of the states that are reached the form still tells the rows and their
order, as a row is named after its place (`rows_of_normalized`), and the handlers
do not look at the keys (`handler_withKeys`). So states with one form have one
future (`futures_agree`).
-/

namespace RuleArena

/-! ## Texts -/

theorem digits_inj {m n : Nat} (h : Amount.digits m = Amount.digits n) : m = n := by
  obtain ⟨units, cents⟩ := List.append_inj' h rfl
  have units : m / 100 = n / 100 := by
    refine Nat.repr_injective (String.toList_inj.1 ?_)
    rwa [Nat.toList_repr, Nat.toList_repr]
  simp only [List.cons.injEq, true_and, and_true] at cents
  have := Json.digitChar_inj (by omega) (by omega) cents.1
  have := Json.digitChar_inj (by omega) (by omega) cents.2
  omega

/-- An amount without its sign begins with a digit. -/
theorem digits_ne_minus {n : Nat} {rest : List Char} : Amount.digits n ≠ '-' :: rest := by
  intro h
  have mem : '-' ∈ Amount.digits n := h ▸ List.mem_cons_self
  rcases Amount.mem_digits mem with digit | dot
  · exact absurd digit (by decide)
  · exact absurd dot (by decide)

theorem amountText_injective : Function.Injective amountText := by
  intro a b h
  have h := String.ofList_injective h
  have same : decide (a < 0) = decide (b < 0) ∧ a.natAbs = b.natAbs := by
    by_cases ha : a < 0 <;> by_cases hb : b < 0 <;>
      simp only [Amount.ofInt, ha, hb, decide_true, decide_false, if_true, if_false,
        Bool.false_eq_true, List.nil_append, List.cons_append, List.cons.injEq, true_and] at h ⊢
    · exact digits_inj h
    · exact absurd h.symm digits_ne_minus
    · exact absurd h digits_ne_minus
    · exact digits_inj h
  have sign := decide_eq_decide.1 same.1
  omega

theorem amountText_ne_zero (a : Int) : amountText a ≠ "0" := by
  intro h
  have mem : '.' ∈ (amountText a).toList := by
    simp [amountText, Amount.text, Amount.digits]
  rw [h] at mem
  exact absurd mem (by decide)

/-- An amount that is nothing until it is set is told by its text. -/
theorem amountOnceSet_inj {set set' : Bool} {a b : Int} (ha : set = false → a = 0)
    (hb : set' = false → b = 0) (h : amountOnceSet set a = amountOnceSet set' b) : a = b := by
  cases set <;> cases set' <;> simp only [amountOnceSet, if_true, Bool.false_eq_true, if_false] at h
  · rw [ha rfl, hb rfl]
  · exact absurd h.symm (amountText_ne_zero b)
  · exact absurd h (amountText_ne_zero a)
  · exact amountText_injective h

theorem optionText_injective : Function.Injective optionText := by
  intro a b h
  cases a <;> cases b <;> simp_all [optionText]

theorem Currency.value_injective : Function.Injective Currency.value := by
  intro a b h
  revert h
  cases a <;> cases b <;> decide

theorem SimMembershipState.value_injective : Function.Injective SimMembershipState.value := by
  intro a b h
  revert h
  cases a <;> cases b <;> decide

theorem SimCouponStatus.value_injective : Function.Injective SimCouponStatus.value := by
  intro a b h
  revert h
  cases a <;> cases b <;> decide

theorem SimOrderStatus.value_injective : Function.Injective SimOrderStatus.value := by
  intro a b h
  revert h
  cases a <;> cases b <;> decide

theorem SimMembershipStatus.value_injective : Function.Injective SimMembershipStatus.value := by
  intro a b h
  revert h
  cases a <;> cases b <;> decide

theorem ScenarioType.value_injective : Function.Injective ScenarioType.value := by
  intro a b h
  revert h
  cases a <;> cases b <;> decide

/-! ## Rows -/

theorem SimUser.normalized_injective : Function.Injective SimUser.normalized := by
  rintro ⟨⟩ ⟨⟩ h
  simp only [SimUser.normalized, Json.obj.injEq, List.cons.injEq, Prod.mk.injEq, Json.str.injEq,
    Json.int.injEq, Json.bool.injEq, true_and, and_true] at h
  obtain ⟨balance, currency, new, membership, points, id⟩ := h
  simp [amountText_injective balance, Currency.value_injective currency, new,
    SimMembershipState.value_injective membership, points, id]

theorem SimCoupon.normalized_injective : Function.Injective SimCoupon.normalized := by
  rintro ⟨⟩ ⟨⟩ h
  simp only [SimCoupon.normalized, Json.obj.injEq, List.cons.injEq, Prod.mk.injEq, Json.str.injEq,
    Json.int.injEq, true_and, and_true, Int.natCast_inj] at h
  obtain ⟨id, currency, value, owner, reserved, status, threshold, count, used⟩ := h
  simp [id, Currency.value_injective currency, amountText_injective value, owner,
    optionText_injective reserved, SimCouponStatus.value_injective status,
    amountText_injective threshold, count, optionText_injective used]

/-- The amounts of an order that are not set yet are nothing. -/
structure SimOrder.Started (order : SimOrder) : Prop where
  discount : order.couponId = none → order.discountAmount = 0
  paid : order.status = .created → order.paidAmount = 0
  refunded : order.refundCount = 0 → order.refundedAmount = 0

theorem SimOrder.normalized_inj {a b : SimOrder} (ha : a.Started) (hb : b.Started)
    (h : a.normalized = b.normalized) : a = b := by
  simp only [SimOrder.normalized, Json.obj.injEq, List.cons.injEq, Prod.mk.injEq, Json.str.injEq,
    Json.int.injEq, true_and, and_true, Int.natCast_inj] at h
  obtain ⟨coupon, currency, discount, id, original, paid, granted, revoked, count, refunded, status,
    user⟩ := h
  have discount := amountOnceSet_inj (fun none => ha.discount (by simpa using none))
    (fun none => hb.discount (by simpa using none)) discount
  have paid := amountOnceSet_inj (fun created => ha.paid (by simpa using created))
    (fun created => hb.paid (by simpa using created)) paid
  have refunded := amountOnceSet_inj (fun none => ha.refunded (by simpa using none))
    (fun none => hb.refunded (by simpa using none)) refunded
  have coupon := optionText_injective coupon
  have currency := Currency.value_injective currency
  have original := amountText_injective original
  have status := SimOrderStatus.value_injective status
  obtain ⟨⟩ := a
  obtain ⟨⟩ := b
  simp_all only

theorem SimMembership.normalized_injective : Function.Injective SimMembership.normalized := by
  intro a b h
  simp only [SimMembership.normalized, Json.obj.injEq, List.cons.injEq, Prod.mk.injEq,
    Json.str.injEq, true_and, and_true] at h
  obtain ⟨currency, id, paid, refunded, status, user⟩ := h
  have refunded := amountOnceSet_inj (fun none => by simpa using none)
    (fun none => by simpa using none) refunded
  have currency := Currency.value_injective currency
  have paid := amountText_injective paid
  have status := SimMembershipStatus.value_injective status
  obtain ⟨⟩ := a
  obtain ⟨⟩ := b
  simp_all only

theorem SimEntitlement.normalized_injective : Function.Injective SimEntitlement.normalized := by
  rintro ⟨⟩ ⟨⟩ h
  simp only [SimEntitlement.normalized, Json.obj.injEq, List.cons.injEq, Prod.mk.injEq,
    Json.str.injEq, Json.int.injEq, true_and, and_true] at h
  obtain ⟨consumed, id, granted, membership, revoked⟩ := h
  simp [consumed, id, granted, membership, revoked]

/-! ## Rows and their places -/

section Places

variable {α β : Type} {key : α → String}

theorem eq_of_map_eq {f : α → β} : ∀ {rows rows' : List α},
    (∀ a ∈ rows, ∀ b ∈ rows', f a = f b → a = b) → rows.map f = rows'.map f → rows = rows'
  | [], [], _, _ => rfl
  | [], _ :: _, _, h => by cases h
  | _ :: _, [], _, h => by cases h
  | a :: rows, b :: rows', inj, h => by
    obtain ⟨first, rest⟩ := List.cons.inj h
    rw [inj a List.mem_cons_self b List.mem_cons_self first,
      eq_of_map_eq (fun c hc d hd =>
        inj c (List.mem_cons_of_mem _ hc) d (List.mem_cons_of_mem _ hd)) rest]

/-- Every row is named after its place. -/
def Placed (key : α → String) (name : Nat → String) (rows : List α) : Prop :=
  ∀ (i : Nat) (a : α), rows[i]? = some a → key a = name i

variable {name : Nat → String} {rows rows' : List α} {a b : α}

theorem Placed.nil : Placed key name [] := by
  intro i a h
  rw [List.getElem?_nil] at h
  cases h

/-- Rows that are named after their places are told by their contents. -/
theorem Placed.eq_of_perm (inj : Function.Injective name) (placed : Placed key name rows)
    (placed' : Placed key name rows') (perm : rows.Perm rows') : rows = rows' := by
  refine List.ext_getElem perm.length_eq fun i hi hi' => ?_
  obtain ⟨j, hj⟩ := List.mem_iff_getElem?.1 (perm.mem_iff.1 (List.getElem_mem hi))
  have same : name i = name j :=
    (placed i _ (List.getElem?_eq_getElem hi)).symm.trans (placed' j _ hj)
  rw [← inj same, List.getElem?_eq_getElem hi'] at hj
  exact (Option.some.inj hj).symm

/-- Sorting such rows by their names and writing them down loses nothing. -/
theorem Placed.eq_of_normalized (inj : Function.Injective name) {f : α → β}
    (placed : Placed key name rows) (placed' : Placed key name rows')
    (told : ∀ a ∈ rows, ∀ b ∈ rows', f a = f b → a = b)
    (h : (orderById key rows).map f = (orderById key rows').map f) : rows = rows' := by
  have sorted : orderById key rows = orderById key rows' :=
    eq_of_map_eq (fun a ha b hb => told a (mem_orderById.1 ha) b (mem_orderById.1 hb)) h
  refine placed.eq_of_perm inj placed' ?_
  calc rows.Perm (orderById key rows) := (List.perm_insertionSort _ _).symm
    _ = orderById key rows' := sorted
    List.Perm _ rows' := List.perm_insertionSort _ _

/-- Rows with different names are sorted to one list, whatever their order is. -/
theorem orderById_eq_of_perm (told : ∀ a ∈ rows, ∀ b ∈ rows', key a = key b → a = b)
    (perm : rows.Perm rows') : orderById key rows = orderById key rows' := by
  refine @List.Perm.eq_of_pairwise _ (fun a b => key a ≤ key b) _ _
    (fun a b ha hb ab ba => told a (mem_orderById.1 ha) b (mem_orderById.1 hb) (le_antisymm ab ba))
    (List.pairwise_insertionSort _ _) (List.pairwise_insertionSort _ _) ?_
  calc (orderById key rows).Perm rows := List.perm_insertionSort _ _
    List.Perm _ rows' := perm
    List.Perm _ (orderById key rows') := (List.perm_insertionSort _ _).symm

theorem Placed.set {i : Nat} (placed : Placed key name rows) (ha : rows[i]? = some a)
    (same : key b = key a) : Placed key name (rows.set i b) := by
  intro j c h
  rw [List.getElem?_set] at h
  split_ifs at h with hi hl
  · subst hi
    cases h
    exact same.trans (placed i a ha)
  · exact placed j c h

theorem Placed.concat (placed : Placed key name rows) (new : key a = name rows.length) :
    Placed key name (rows ++ [a]) := by
  intro i b h
  rw [List.getElem?_append] at h
  split_ifs at h with hi
  · exact placed i b h
  · obtain ⟨hj, rfl⟩ := List.getElem?_eq_some_iff.1 h
    obtain rfl : i = rows.length := by
      have : i - rows.length < 1 := hj
      omega
    simpa using new

/-- At most one row is told by what is written of it. -/
theorem eq_of_single {f : α → β} (inj : Function.Injective f) (single : rows.length ≤ 1)
    (single' : rows'.length ≤ 1)
    (h : (orderById key rows).map f = (orderById key rows').map f) : rows = rows' := by
  have sorted : orderById key rows = orderById key rows' := List.map_injective_iff.2 inj h
  match rows, rows', single, single', sorted with
  | [], [], _, _, _ => rfl
  | [a], [b], _, _, h => exact h
  | [], [b], _, _, h => cases h
  | [a], [], _, _, h => cases h

end Places

/-- The name of a row of a kind. -/
def placeName (kind : String) (i : Nat) : String := kind ++ toString (i + 1)

theorem placeName_eq {kind : String} {i : Nat} : placeName kind i = kind ++ toString (i + 1) := rfl

theorem placeName_injective (kind : String) : Function.Injective (placeName kind) := by
  intro i j h
  rw [placeName, placeName, String.append_right_inj] at h
  exact Nat.succ_injective (Nat.repr_injective h)

namespace ReferenceSimulator

/-! ## The rows of a state that is reached -/

/-- The rows of a state that is reached are named after their places. -/
structure Regular (state : SimulationState) : Prop where
  users : state.users.length ≤ 1
  coupons : Placed SimCoupon.couponId (placeName "coupon-") state.coupons
  orders : Placed SimOrder.orderId (placeName "order-") state.orders
  started : ∀ order ∈ state.orders, order.Started
  memberships : state.memberships.length ≤ 1
  entitlements : state.entitlements.length ≤ 1

section Rows

variable {simulator : ReferenceSimulator} {state state' : SimulationState}

theorem change_regular (regular : Regular state) {name : ActionName}
    (change : Change simulator state name state') : Regular state' := by
  obtain ⟨users, coupons, orders, started, memberships, entitlements⟩ := regular
  cases change with
  | createUser => exact ⟨le_rfl, coupons, orders, started, memberships, entitlements⟩
  | issueCoupon =>
    exact ⟨users, coupons.concat placeName_eq.symm, orders, started, memberships, entitlements⟩
  | createOrder =>
    refine ⟨users, coupons, orders.concat placeName_eq.symm, ?_, memberships, entitlements⟩
    refine List.forall_mem_append.2 ⟨started, List.forall_mem_singleton.2 ?_⟩
    exact ⟨fun _ => rfl, fun _ => rfl, fun _ => rfl⟩
  | applyCoupon ho hc =>
    have row := started _ (List.mem_of_getElem? ho)
    refine ⟨users, coupons.set hc rfl, orders.set ho rfl, forall_mem_set started ?_, memberships,
      entitlements⟩
    exact ⟨nofun, row.paid, row.refunded⟩
  | payOrder ho hu _ _ _ _ used =>
    have row := started _ (List.mem_of_getElem? ho)
    refine ⟨(List.length_set ..).trans_le users, ?_, orders.set ho rfl, forall_mem_set started ?_,
      memberships, entitlements⟩
    · rcases used with ⟨-, rfl⟩ | ⟨ci, coupon, -, hc, rfl⟩
      · exact coupons
      · exact coupons.set hc rfl
    · exact ⟨row.discount, nofun, row.refunded⟩
  | refundOrder ho hu _ _ _ _ _ restored =>
    have row := started _ (List.mem_of_getElem? ho)
    refine ⟨(List.length_set ..).trans_le users, ?_, orders.set ho rfl, forall_mem_set started ?_,
      memberships, entitlements⟩
    · rcases restored with rfl | ⟨ci, coupon, -, hc, rfl⟩
      · exact coupons
      · exact coupons.set hc rfl
    · refine ⟨row.discount, fun created => ?_, nofun⟩
      simp only [SimOrder.refund_status] at created
      split at created <;> cases created
  | redeemPoints hu =>
    exact ⟨by simpa [hu] using users, coupons, orders, started, memberships, entitlements⟩
  | activateMembership =>
    exact ⟨(List.length_set ..).trans_le users, coupons, orders, started, le_rfl, le_rfl⟩
  | consumeEntitlement =>
    exact ⟨users, coupons, orders, started, memberships,
      (List.length_set ..).trans_le entitlements⟩
  | cancelMembership _ hm he hu =>
    exact ⟨by simpa [hu] using users, coupons, orders, started, by simpa [hm] using memberships,
      by simpa [he] using entitlements⟩

theorem run_regular (simulator : ReferenceSimulator) (actions : List SimAction) :
    Regular (simulator.run actions) :=
  simulator.run_induction
    ⟨Nat.zero_le _, .nil, .nil, List.forall_mem_nil _, Nat.zero_le _, Nat.zero_le _⟩
    (fun _ _ _ regular => change_regular regular) (fun _ _ regular => { regular with }) actions

/-- The normalized form tells the rows. -/
theorem rows_of_normalized (regular : Regular state) (regular' : Regular state')
    (h : state.normalized = state'.normalized) :
    state' = { state with seenIdempotencyKeys := state'.seenIdempotencyKeys } ∧
      state.seenKeys = state'.seenKeys := by
  simp only [SimulationState.normalized, Json.obj.injEq, List.cons.injEq, Prod.mk.injEq,
    Json.arr.injEq, Json.str.injEq, true_and, and_true] at h
  obtain ⟨coupons, entitlements, memberships, orders, scenario, keys, users⟩ := h
  have coupons := regular.coupons.eq_of_normalized (placeName_injective _) regular'.coupons
    (fun _ _ _ _ same => SimCoupon.normalized_injective same) coupons
  have orders := regular.orders.eq_of_normalized (placeName_injective _) regular'.orders
    (fun a ha b hb => SimOrder.normalized_inj (regular.started a ha) (regular'.started b hb)) orders
  have users := eq_of_single SimUser.normalized_injective regular.users regular'.users users
  have memberships := eq_of_single SimMembership.normalized_injective regular.memberships
    regular'.memberships memberships
  have entitlements := eq_of_single SimEntitlement.normalized_injective regular.entitlements
    regular'.entitlements entitlements
  have scenario := ScenarioType.value_injective scenario
  obtain ⟨⟩ := state
  obtain ⟨⟩ := state'
  simp_all

end Rows

/-! ## The keys of a state -/

section Keys

variable {keys keys' : List (ActionName × String)}

/-- What is written of a remembered key. -/
def keyJson (marker : ActionName × String) : Json :=
  .arr [.str marker.1.actionType, .str marker.2]

/-- The text that the remembered keys are sorted by. -/
def keyText (item : Json) : String := Json.asciiText (String.ofList item.render)

theorem keyText_keyJson_injective : Function.Injective fun marker => keyText (keyJson marker) := by
  rintro ⟨name, key⟩ ⟨name', key'⟩ h
  obtain ⟨sameName, sameKey⟩ := Json.asciiText_pair_inj h
  exact Prod.ext (ActionName.actionType_inj sameName) sameKey

theorem seenKeys_eq (state : SimulationState) :
    state.seenKeys = orderById keyText (state.seenIdempotencyKeys.map keyJson) :=
  rfl

/-- The keys are told up to their order. -/
theorem seenKeys_eq_iff {state state' : SimulationState} :
    state.seenKeys = state'.seenKeys ↔
      state.seenIdempotencyKeys.Perm state'.seenIdempotencyKeys := by
  rw [seenKeys_eq, seenKeys_eq]
  constructor
  · intro sorted
    have injective : Function.Injective keyJson := fun _ _ same =>
      keyText_keyJson_injective (congrArg keyText same)
    refine (List.map_perm_map_iff injective).1 ?_
    calc (state.seenIdempotencyKeys.map keyJson).Perm (orderById keyText _) :=
          (List.perm_insertionSort _ _).symm
      _ = orderById keyText (state'.seenIdempotencyKeys.map keyJson) := sorted
      List.Perm _ (state'.seenIdempotencyKeys.map keyJson) := List.perm_insertionSort _ _
  · intro perm
    refine orderById_eq_of_perm (fun a ha b hb same => ?_) (perm.map _)
    obtain ⟨marker, -, rfl⟩ := List.mem_map.1 ha
    obtain ⟨marker', -, rfl⟩ := List.mem_map.1 hb
    rw [keyText_keyJson_injective same]

theorem normalized_withKeys (state : SimulationState) (perm : keys.Perm keys') :
    ({ state with seenIdempotencyKeys := keys } : SimulationState).normalized =
      ({ state with seenIdempotencyKeys := keys' } : SimulationState).normalized := by
  have same : ({ state with seenIdempotencyKeys := keys } : SimulationState).seenKeys =
      ({ state with seenIdempotencyKeys := keys' } : SimulationState).seenKeys :=
    seenKeys_eq_iff.2 perm
  unfold SimulationState.normalized
  rw [same]

/-- What a handler gives, with other keys in its state. -/
def withKeys (keys : List (ActionName × String)) (out : SimulationState × List SimEvent) :
    SimulationState × List SimEvent :=
  ({ out.1 with seenIdempotencyKeys := keys }, out.2)

theorem bind_withKeys {α : Type} {x : Except SimFault α}
    {f g : α → Except SimFault (SimulationState × List SimEvent)}
    (h : ∀ a, g a = (f a).map (withKeys keys)) : x >>= g = (x >>= f).map (withKeys keys) := by
  cases x with
  | error fault => rfl
  | ok a => exact h a

variable (simulator : ReferenceSimulator) (state : SimulationState) (action : SimAction)

theorem doCreateUser_withKeys : doCreateUser { state with seenIdempotencyKeys := keys } action =
    (doCreateUser state action).map (withKeys keys) := by
  refine bind_withKeys fun _ => bind_withKeys fun currency => bind_withKeys fun balance => ?_
  exact bind_withKeys fun balance => bind_withKeys fun _ => rfl

theorem doIssueCoupon_withKeys :
    simulator.doIssueCoupon { state with seenIdempotencyKeys := keys } action =
      (simulator.doIssueCoupon state action).map (withKeys keys) := by
  unfold doIssueCoupon
  cases simulator.promotion with
  | none => rfl
  | some promotion =>
    refine bind_withKeys fun _ => bind_withKeys fun _ => ?_
    refine bind_withKeys fun faceValue => bind_withKeys fun threshold => ?_
    refine bind_withKeys fun currency => bind_withKeys fun faceValue => bind_withKeys fun _ => ?_
    exact bind_withKeys fun threshold => bind_withKeys fun _ => rfl

theorem doCreateOrder_withKeys : doCreateOrder { state with seenIdempotencyKeys := keys } action =
    (doCreateOrder state action).map (withKeys keys) := by
  refine bind_withKeys fun _ => bind_withKeys fun _ => bind_withKeys fun amount => ?_
  exact bind_withKeys fun currency => bind_withKeys fun amount => bind_withKeys fun _ => rfl

theorem doApplyCoupon_withKeys : doApplyCoupon { state with seenIdempotencyKeys := keys } action =
    (doApplyCoupon state action).map (withKeys keys) := by
  refine bind_withKeys fun couponId => ?_
  dsimp only
  cases locate (fun item => action.targetId = some item.orderId) state.orders with
  | none => rfl
  | some order =>
    cases locate (fun item => item.couponId = couponId) state.coupons with
    | none => rfl
    | some coupon => exact bind_withKeys fun _ => rfl

theorem doPayOrder_withKeys :
    simulator.doPayOrder { state with seenIdempotencyKeys := keys } action =
      (simulator.doPayOrder state action).map (withKeys keys) := by
  unfold doPayOrder
  dsimp only
  cases locate (fun item => action.targetId = some item.orderId) state.orders with
  | none => rfl
  | some found =>
    refine bind_withKeys fun _ => bind_withKeys fun user => bind_withKeys fun _ => ?_
    exact bind_withKeys fun granted => bind_withKeys fun coupons => rfl

theorem doRefundOrder_withKeys :
    simulator.doRefundOrder { state with seenIdempotencyKeys := keys } action =
      (simulator.doRefundOrder state action).map (withKeys keys) := by
  unfold doRefundOrder
  dsimp only
  cases locate (fun item => action.targetId = some item.orderId) state.orders with
  | none => rfl
  | some found =>
    refine bind_withKeys fun amount => bind_withKeys fun _ => bind_withKeys fun amount => ?_
    refine bind_withKeys fun _ => bind_withKeys fun _ => bind_withKeys fun user => ?_
    refine bind_withKeys fun _ => bind_withKeys fun revoked => ?_
    exact bind_withKeys fun coupons => rfl

theorem doRedeemPoints_withKeys : doRedeemPoints { state with seenIdempotencyKeys := keys } action =
    (doRedeemPoints state action).map (withKeys keys) := by
  unfold doRedeemPoints
  dsimp only
  cases state.users with
  | nil => rfl
  | cons user users => exact bind_withKeys fun amount => bind_withKeys fun _ => rfl

theorem doActivateMembership_withKeys :
    simulator.doActivateMembership { state with seenIdempotencyKeys := keys } action =
      (simulator.doActivateMembership state action).map (withKeys keys) := by
  unfold doActivateMembership
  dsimp only
  cases simulator.membership with
  | none => rfl
  | some rule =>
    refine bind_withKeys fun _ => ?_
    cases locate (fun item => item.userId = action.targetOrActor) state.users with
    | none => rfl
    | some user =>
      refine bind_withKeys fun paid => bind_withKeys fun quantity => ?_
      cases paid with
      | none => rfl
      | some paid => exact bind_withKeys fun _ => rfl

theorem doConsumeEntitlement_withKeys :
    doConsumeEntitlement { state with seenIdempotencyKeys := keys } action =
      (doConsumeEntitlement state action).map (withKeys keys) := by
  refine bind_withKeys fun _ => bind_withKeys fun quantity => ?_
  dsimp only
  cases locate (fun item => action.targetId = some item.entitlementId) state.entitlements with
  | none => rfl
  | some entitlement => exact bind_withKeys fun _ => rfl

theorem doCancelMembership_withKeys :
    simulator.doCancelMembership { state with seenIdempotencyKeys := keys } action =
      (simulator.doCancelMembership state action).map (withKeys keys) := by
  unfold doCancelMembership
  dsimp only
  cases state.memberships with
  | nil => rfl
  | cons membership memberships =>
    cases simulator.membership with
    | none => rfl
    | some rule =>
      refine bind_withKeys fun _ => ?_
      cases state.entitlements with
      | nil => rfl
      | cons entitlement entitlements =>
        cases state.users with
        | nil => rfl
        | cons user users => exact bind_withKeys fun _ => bind_withKeys fun refund => rfl

/-- The handlers do not look at the remembered keys. -/
theorem handler_withKeys (name : ActionName) :
    simulator.handler? { state with seenIdempotencyKeys := keys } action name =
      (simulator.handler? state action name).map (Except.map (withKeys keys)) := by
  cases name with
  | createUser => exact congrArg some (doCreateUser_withKeys state action)
  | issueCoupon => exact congrArg some (doIssueCoupon_withKeys simulator state action)
  | createOrder => exact congrArg some (doCreateOrder_withKeys state action)
  | applyCoupon => exact congrArg some (doApplyCoupon_withKeys state action)
  | payOrder => exact congrArg some (doPayOrder_withKeys simulator state action)
  | cancelOrder => rfl
  | refundOrder => exact congrArg some (doRefundOrder_withKeys simulator state action)
  | redeemPoints => exact congrArg some (doRedeemPoints_withKeys state action)
  | activateMembership => exact congrArg some (doActivateMembership_withKeys simulator state action)
  | consumeEntitlement => exact congrArg some (doConsumeEntitlement_withKeys state action)
  | cancelMembership => exact congrArg some (doCancelMembership_withKeys simulator state action)
  | inspectState => rfl

variable {simulator} {state} {action}

/-- The handlers leave the remembered keys as they are. -/
theorem keys_of_handler {name : ActionName} {state' : SimulationState} {events : List SimEvent}
    (h : simulator.handler? state action name = some (.ok (state', events))) :
    state'.seenIdempotencyKeys = state.seenIdempotencyKeys := by
  have same := @handler_withKeys state.seenIdempotencyKeys simulator state action name
  rw [show ({ state with seenIdempotencyKeys := state.seenIdempotencyKeys } : SimulationState) =
    state from rfl, h] at same
  exact congrArg (fun out : SimulationState × List SimEvent => out.1.seenIdempotencyKeys)
    (Except.ok.inj (Option.some.inj same))

end Keys

/-! ## Transitions -/

/-- What a transition shows: its status, its code and its events, and the normalized form of
    its state. -/
def outcome (result : TransitionResult) :
    TransitionStatus × Option String × List SimEvent × Json :=
  (result.status, result.code, result.events, result.state.normalized)

/-- A transition shows the same whatever the order of the remembered keys. -/
theorem transition_withKeys (simulator : ReferenceSimulator) (state : SimulationState)
    (action : SimAction) {keys : List (ActionName × String)}
    (perm : keys.Perm state.seenIdempotencyKeys) :
    (simulator.transition { state with seenIdempotencyKeys := keys } action).map outcome =
      (simulator.transition state action).map outcome := by
  have same : ({ state with seenIdempotencyKeys := keys } : SimulationState).normalized =
      state.normalized := normalized_withKeys state perm
  unfold transition
  dsimp only
  simp only [perm.mem_iff, handler_withKeys]
  split_ifs with unsupported seen
  · simp only [Except.map, outcome, same]
  · simp only [Except.map, outcome, same]
  · cases h : simulator.handler? state action action.actionType with
    | none => simp only [Option.map_none, Except.map, outcome, same]
    | some result =>
      cases result with
      | ok out =>
        obtain ⟨state', events⟩ := out
        have kept := keys_of_handler h
        have moved := normalized_withKeys state'
          (perm.append_right (marker? action).toList)
        simp only [Option.map_some, Except.map, outcome, withKeys, kept, moved]
      | error fault =>
        cases fault with
        | reject code => simp only [Option.map_some, Except.map, outcome, same]
        | raised exception =>
          simp only [Option.map_some, Except.map]
          split_ifs
          · simp only [outcome, same]
          · rfl

/-- The same is offered in both states, and every action shows the same in both. -/
structure SameFuture (simulator : ReferenceSimulator) (state state' : SimulationState) : Prop where
  offered : simulator.legalActions state = simulator.legalActions state'
  shown : ∀ action : SimAction, (simulator.transition state action).map outcome =
    (simulator.transition state' action).map outcome

end ReferenceSimulator

open ReferenceSimulator in
/-- States that are reached and have one normalized form have one future. -/
theorem futures_agree (spec : PolicySpec) (actions actions' : List SimAction)
    (same : (spec.simulator.run actions).normalized = (spec.simulator.run actions').normalized) :
    spec.simulator.SameFuture (spec.simulator.run actions) (spec.simulator.run actions') := by
  obtain ⟨rows, keys⟩ := rows_of_normalized (spec.simulator.run_regular actions)
    (spec.simulator.run_regular actions') same
  rw [rows]
  exact ⟨rfl, fun action =>
    (transition_withKeys spec.simulator _ action (seenKeys_eq_iff.1 keys).symm).symm⟩

/-- A user, and two orders of theirs with keys. -/
def keyedOrders (first second : String) : List SimAction :=
  [{ actionType := .createUser },
   { createOrderAction "1.00" with idempotencyKey := some first },
   { createOrderAction "1.00" with idempotencyKey := some second }]

theorem futures_agree_keys :
    pointsPolicy.simulator.SameFuture (pointsPolicy.simulator.run (keyedOrders "a" "b"))
      (pointsPolicy.simulator.run (keyedOrders "b" "a")) :=
  futures_agree pointsPolicy _ _ (by decide +kernel)

end RuleArena
