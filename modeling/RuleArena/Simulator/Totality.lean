import RuleArena.Simulator.Effects

/-!
# When a transition returns

A transition turns every exception of a handler into a rejection, except the two
it does not know.

* An `IndexError` never occurs, since a state with a membership has an entitlement
  and a user (`ReferenceSimulator.Provided`, which every change keeps).
* An unbound local does: a refund of an order that was granted no points reads the
  points to be revoked, which nothing assigned (`Unassigned`).

Every other transition returns (`transition_returns`). The handlers are gone
through part by part with the rules for computations that return: a check that
rejects, or raises what is caught, returns where it is not passed, so that the
rest counts only where it is (`returns_check`, `returns_guard`).
-/

namespace RuleArena

/-- A rejection, or an exception that becomes one. -/
def SimFault.IsRejection : SimFault → Prop
  | .reject _ => True
  | .raised exception => ReferenceSimulator.caught exception = true

/-- A part of a handler comes to a value, or to a rejection. -/
def Returns {α : Type} (x : Except SimFault α) : Prop := Checked.Fails SimFault.IsRejection x

section Rules

variable {α β : Type}

/-- A value is returned. -/
theorem returns_pure {a : α} : Returns (pure a) := Checked.Fails.pure

theorem returns_throw {fault : SimFault} :
    Returns (throw fault : Except SimFault α) ↔ fault.IsRejection := Checked.fails_throw

/-- A check that rejects returns where it is not passed. -/
theorem returns_check {c : Prop} [Decidable c] {code : String} {f : Unit → Except SimFault β} :
    Returns (ensure c (.reject code) >>= f) ↔ (c → Returns (f ())) :=
  Checked.fails_ensure_bind trivial

/-- An exception that is caught becomes a rejection. -/
theorem returns_guard {c : Prop} [Decidable c] {exception : SimException}
    {f : Unit → Except SimFault β} (known : ReferenceSimulator.caught exception = true) :
    Returns (ensure c (.raised exception) >>= f) ↔ (c → Returns (f ())) :=
  Checked.fails_ensure_bind known

/-- After a part that returns, the rest counts on its values. -/
theorem returns_then {x : Except SimFault α} {f : α → Except SimFault β} (hx : Returns x) :
    Returns (x >>= f) ↔ ∀ a, x = .ok a → Returns (f a) :=
  Checked.fails_bind.trans (and_iff_right hx)

/-- After a part that returns, a rest that always returns. -/
theorem Returns.next {x : Except SimFault α} {f : α → Except SimFault β} (hx : Returns x)
    (rest : ∀ a, Returns (f a)) : Returns (x >>= f) :=
  (returns_then hx).2 fun a _ => rest a

end Rules

/-! ## Arguments -/

/-- `InvalidOperation`, the exception of `quantize`, is caught. -/
theorem quantizeMoney_returns (decimal : PyDecimal) : Returns (quantizeMoney decimal) := by
  unfold quantizeMoney
  split
  · exact returns_pure
  · exact returns_pure
  · exact returns_throw.2 rfl

/-- So is that of a comparison with a NaN. -/
theorem ordered_returns (amount : Option Int) : Returns (ordered amount) := by
  unfold ordered
  split
  · exact returns_pure
  · exact returns_throw.2 rfl

namespace ArgValue

theorem toStr_returns (value : ArgValue) : Returns value.toStr := by
  cases value with
  | str s => exact returns_pure
  | int i => exact (returns_guard rfl).2 fun _ => returns_pure
  | bool b => exact returns_pure

theorem toInt_returns (value : ArgValue) : Returns value.toInt := by
  cases value with
  | str s =>
    rw [toInt]
    split
    · exact returns_pure
    · exact returns_throw.2 rfl
  | int i => exact returns_pure
  | bool b => exact returns_pure

theorem money_returns (value : ArgValue) : Returns value.money := by
  refine value.toStr_returns.next fun text => ?_
  split
  · exact quantizeMoney_returns _
  · exact returns_throw.2 rfl

theorem currency_returns (value : ArgValue) : Returns value.currency := by
  refine value.toStr_returns.next fun text => ?_
  split
  · exact returns_pure
  · exact returns_throw.2 rfl

end ArgValue

namespace ReferenceSimulator

variable {simulator : ReferenceSimulator} {state : SimulationState} {action : SimAction}

/-- An amount is read from the arguments, or is that of the rule. -/
theorem moneyOr_returns (name : String) (default : MoneyAmount) :
    Returns (moneyOr action name default) := by
  unfold moneyOr
  split
  · exact ArgValue.money_returns _
  · exact quantizeMoney_returns _

theorem amountOf_returns : Returns (amountOf action) := by
  unfold amountOf
  split
  · exact ArgValue.money_returns _
  · exact returns_throw.2 rfl

/-! ## Handlers -/

theorem doCreateUser_returns : Returns (doCreateUser state action) := by
  refine returns_check.2 fun _ => ?_
  refine (ArgValue.currency_returns _).next fun currency => ?_
  refine (ArgValue.money_returns _).next fun balance => ?_
  refine (ordered_returns _).next fun balance => ?_
  exact returns_check.2 fun _ => returns_pure

theorem doIssueCoupon_returns : Returns (simulator.doIssueCoupon state action) := by
  unfold doIssueCoupon
  split
  · exact returns_throw.2 trivial
  · refine returns_check.2 fun _ => returns_check.2 fun _ => ?_
    refine (moneyOr_returns _ _).next fun faceValue => ?_
    refine (moneyOr_returns _ _).next fun threshold => ?_
    refine (ArgValue.currency_returns _).next fun currency => ?_
    refine (ordered_returns _).next fun faceValue => returns_check.2 fun _ => ?_
    refine (ordered_returns _).next fun threshold => returns_check.2 fun _ => ?_
    exact returns_pure

theorem doCreateOrder_returns : Returns (doCreateOrder state action) := by
  refine returns_check.2 fun _ => returns_check.2 fun _ => ?_
  refine amountOf_returns.next fun amount => ?_
  refine (ArgValue.currency_returns _).next fun currency => ?_
  exact (ordered_returns _).next fun amount => returns_check.2 fun _ => returns_pure

theorem doApplyCoupon_returns : Returns (doApplyCoupon state action) := by
  refine (ArgValue.toStr_returns _).next fun couponId => ?_
  split
  · exact returns_check.2 fun _ => returns_pure
  · exact returns_throw.2 trivial

/-- A coupon that is not there is a `StopIteration`, which is caught. -/
theorem couponOf_returns (couponId : String) : Returns (couponOf state couponId) := by
  unfold couponOf
  split
  · exact returns_pure
  · exact returns_throw.2 rfl

/-- So is a user that is not there. -/
theorem userOf_returns (userId : String) : Returns (userOf state userId) := by
  unfold userOf
  split
  · exact returns_pure
  · exact returns_throw.2 rfl

/-- Points that do not fit the context are an `InvalidOperation`. -/
theorem granted_returns (amount : Int) : Returns (simulator.granted amount) := by
  unfold granted
  split
  · exact (returns_guard rfl).2 fun _ => returns_pure
  · exact returns_pure

theorem useCoupon_returns (order : SimOrder) : Returns (useCoupon state order) := by
  unfold useCoupon
  split
  · exact (couponOf_returns _).next fun _ => returns_pure
  · exact returns_pure

theorem doPayOrder_returns : Returns (simulator.doPayOrder state action) := by
  unfold doPayOrder
  split
  · exact returns_throw.2 trivial
  · refine returns_check.2 fun _ => ?_
    refine (userOf_returns _).next fun found => returns_check.2 fun _ => ?_
    refine (granted_returns _).next fun granted => ?_
    exact (useCoupon_returns _).next fun _ => returns_pure

theorem restoreCoupon_returns (order : SimOrder) (full : Bool) :
    Returns (simulator.restoreCoupon state order full) := by
  unfold restoreCoupon
  split
  · split
    · exact (couponOf_returns _).next fun _ => returns_pure
    · exact returns_pure
  · exact returns_pure

theorem doRedeemPoints_returns : Returns (doRedeemPoints state action) := by
  unfold doRedeemPoints
  split
  · exact returns_throw.2 trivial
  · exact (ArgValue.toInt_returns _).next fun amount => returns_check.2 fun _ => returns_pure

theorem doActivateMembership_returns : Returns (simulator.doActivateMembership state action) := by
  unfold doActivateMembership
  split
  · exact returns_throw.2 trivial
  · refine returns_check.2 fun _ => ?_
    split
    · exact returns_throw.2 trivial
    · refine (moneyOr_returns _ _).next fun paid => ?_
      refine (ArgValue.toInt_returns _).next fun quantity => ?_
      split
      · exact returns_throw.2 trivial
      · exact returns_check.2 fun _ => returns_pure

theorem doConsumeEntitlement_returns : Returns (doConsumeEntitlement state action) := by
  refine returns_check.2 fun _ => (ArgValue.toInt_returns _).next fun quantity => ?_
  split
  · exact returns_throw.2 trivial
  · exact returns_check.2 fun _ => returns_pure

theorem quantizeCents_returns (x : ℚ) : Returns (quantizeCents x) :=
  (returns_guard rfl).2 fun _ => returns_pure

theorem membershipRefund_returns (rule : MembershipRule) (requested : Bool)
    (membership : SimMembership) (entitlement : SimEntitlement) :
    Returns (membershipRefund rule requested membership entitlement) := by
  unfold membershipRefund
  split
  · split
    · exact (returns_guard rfl).2 fun _ => quantizeCents_returns _
    · exact returns_pure
  · exact returns_pure

/-! ### What there is in a state -/

/-- The orders of a state are those of its users, and with a membership come an
    entitlement and a user. -/
structure Provided (state : SimulationState) : Prop where
  orders : ∀ order ∈ state.orders, ∃ user ∈ state.users, user.userId = order.userId
  memberships : state.memberships ≠ [] → state.entitlements ≠ [] ∧ state.users ≠ []

/-- A user that replaces one under the same name leaves the names as they are. -/
theorem userNamed_set {users : List SimUser} {ui : Nat} {user user' : SimUser} {name : String}
    (hu : users[ui]? = some user) (same : user'.userId = user.userId)
    (h : ∃ u ∈ users, u.userId = name) : ∃ u ∈ users.set ui user', u.userId = name := by
  have names : (users.set ui user').map SimUser.userId = users.map SimUser.userId := by
    rw [List.map_set, same]
    refine List.ext_getElem? fun i => ?_
    rw [List.getElem?_set]
    split_ifs with hi hl
    · subst hi
      simp [hu]
    · subst hi
      simp [List.getElem?_eq_none (not_lt.1 hl)]
    · rfl
  simpa only [← List.mem_map, names] using h

/-- A change leaves orders without users, and memberships without entitlements,
    to no state. -/
theorem change_provided {state' : SimulationState} {name : ActionName} (provided : Provided state)
    (change : Change simulator state name state') : Provided state' := by
  cases change with
  | createUser none =>
    -- Without users there are no orders.
    have orders : ∀ order ∈ state.orders, False := fun order hm => by
      obtain ⟨user, hu, -⟩ := provided.orders order hm
      simp [none] at hu
    exact ⟨fun order hm => (orders order hm).elim,
      fun h => ⟨(provided.memberships h).1, List.cons_ne_nil _ _⟩⟩
  | issueCoupon => exact ⟨provided.orders, provided.memberships⟩
  | createOrder owner =>
    refine ⟨fun order hm => ?_, provided.memberships⟩
    rcases List.mem_append.1 hm with hm | hm
    · exact provided.orders order hm
    · obtain rfl := List.mem_singleton.1 hm
      exact owner
  | @applyCoupon oi ci order coupon ho hc =>
    refine ⟨fun order' hm => ?_, provided.memberships⟩
    rcases List.mem_or_eq_of_mem_set hm with hm | rfl
    · exact provided.orders order' hm
    · exact provided.orders order (List.mem_of_getElem? ho)
  | @payOrder oi ui order user granted coupons ho hu own =>
    refine ⟨fun order' hm => userNamed_set hu rfl ?_, fun h => ?_⟩
    · rcases List.mem_or_eq_of_mem_set hm with hm | rfl
      · exact provided.orders order' hm
      · exact ⟨user, List.mem_of_getElem? hu, own⟩
    · simpa using provided.memberships h
  | @refundOrder oi ui order user amount revoked delta coupons ho hu own =>
    refine ⟨fun order' hm => userNamed_set hu rfl ?_, fun h => ?_⟩
    · rcases List.mem_or_eq_of_mem_set hm with hm | rfl
      · exact provided.orders order' hm
      · exact ⟨user, List.mem_of_getElem? hu, own⟩
    · simpa using provided.memberships h
  | @redeemPoints user users amount hu =>
    refine ⟨fun order hm => ?_, fun h => ⟨(provided.memberships h).1, List.cons_ne_nil _ _⟩⟩
    simpa [hu] using provided.orders order hm
  | @activateMembership rule ui user paid hr first hu =>
    refine ⟨fun order hm => userNamed_set hu rfl (provided.orders order hm),
      fun _ => ⟨List.cons_ne_nil _ _, ?_⟩⟩
    have := List.ne_nil_of_mem (List.mem_of_getElem? hu)
    simpa using this
  | consumeEntitlement he =>
    refine ⟨provided.orders, fun h => ?_⟩
    simpa using provided.memberships h
  | @cancelMembership rule requested membership memberships entitlement entitlements user users refund
      hr hm he hu =>
    refine ⟨fun order ho => ?_, fun _ => ⟨List.cons_ne_nil _ _, List.cons_ne_nil _ _⟩⟩
    simpa [hu] using provided.orders order ho

/-- Every state of the simulator is provided. -/
theorem run_provided (simulator : ReferenceSimulator) (actions : List SimAction) :
    Provided (simulator.run actions) :=
  simulator.run_induction ⟨by simp [initialState], by simp [initialState]⟩
    (fun _ _ _ => change_provided) (fun _ _ h => ⟨h.orders, h.memberships⟩) actions

/-- A membership can be cancelled in every state that has what belongs to one. -/
theorem doCancelMembership_returns (provided : Provided state) :
    Returns (simulator.doCancelMembership state action) := by
  unfold doCancelMembership
  split
  · rename_i membership memberships rule hm hr
    refine returns_check.2 fun _ => ?_
    split
    · refine returns_check.2 fun _ => ?_
      exact (membershipRefund_returns _ _ _ _).next fun _ => returns_pure
    · rename_i missing
      obtain ⟨entitlements, users⟩ := provided.memberships (by simp [hm])
      obtain ⟨entitlement, es, he⟩ := List.exists_cons_of_ne_nil entitlements
      obtain ⟨user, us, hu⟩ := List.exists_cons_of_ne_nil users
      exact (missing entitlement es user us he hu).elim
  · exact returns_throw.2 trivial

/-! ### Refunds -/

/-- A refund that passes every check, of an order that was granted no points, under
    rules that revoke points on a refund. -/
def Unassigned (simulator : ReferenceSimulator) (state : SimulationState) (action : SimAction) :
    Prop :=
  simulator.revokesPoints = true ∧
    ∃ order ∈ state.orders.find? (fun order => action.targetId = some order.orderId),
      order.pointsGranted = 0 ∧ (order.status = .paid ∨ order.status = .partiallyRefunded) ∧
      ∃ amount, amountOf action = .ok (some amount) ∧ 0 < amount ∧
        order.refundedAmount + amount ≤ order.paidAmount ∧
        simulator.refusesRefund order amount = false

/-- The points to be revoked are read though nothing assigned them exactly where the
    rules revoke points and there is no target. -/
theorem pointsRevoked_returns {order : SimOrder} {target : Option Int} :
    Returns (simulator.pointsRevoked order target) ↔
      ¬ (simulator.revokesPoints = true ∧ target = none) := by
  unfold pointsRevoked
  split
  · rename_i revokes
    split
    · simp [returns_pure]
    · simp [returns_throw, SimFault.IsRejection, caught, revokes]
  · rename_i keeps
    simp [returns_pure, keeps]

/-- There is no target for an order that was granted no points. -/
theorem targetRevoke_eq_none {order : SimOrder} {total : Int}
    (revokes : simulator.revokesPoints = true) :
    simulator.targetRevoke order total = none ↔ order.pointsGranted = 0 := by
  simp [targetRevoke, revokes]

/-- A refund returns but for the one that reads what nothing assigned. -/
theorem doRefundOrder_returns (provided : Provided state) :
    Returns (simulator.doRefundOrder state action) ↔ ¬ Unassigned simulator state action := by
  unfold doRefundOrder Unassigned
  rw [← locate_map_snd]
  split
  · rename_i missing
    simp [missing, returns_throw, SimFault.IsRejection]
  · rename_i oi order ho
    obtain ⟨user, hm, own⟩ := provided.orders order (locate_mem ho)
    -- The user of the order is found.
    obtain ⟨found, hfound⟩ : ∃ found, userOf state order.userId = .ok found := by
      unfold userOf
      split
      · exact ⟨_, rfl⟩
      · rename_i missing
        have := locate_eq_none.1 missing user hm
        simp [own] at this
    simp only [ho, Option.map_some, Option.mem_some_iff, exists_eq_left']
    rw [returns_then amountOf_returns]
    constructor
    · rintro h ⟨revokes, none, open', amount, hamount, pos, within, allowed⟩
      have h := h _ hamount
      rw [returns_check] at h
      have h := h open'
      rw [returns_then (ordered_returns _)] at h
      have h := h amount rfl
      rw [returns_check] at h
      have h := h (by simp [pos, within])
      rw [returns_check] at h
      have h := h allowed
      rw [returns_then (userOf_returns _)] at h
      have h := h found hfound
      have target : simulator.targetRevoke order (order.refundedAmount + amount) = .none :=
        (targetRevoke_eq_none revokes).2 none
      simp only [target] at h
      rw [returns_check] at h
      have h := Checked.fails_bind.1 (h (.inr trivial))
      exact pointsRevoked_returns.1 h.1 ⟨revokes, rfl⟩
    · intro sound amount hamount
      refine returns_check.2 fun open' => ?_
      refine (returns_then (ordered_returns _)).2 fun amount' hordered => ?_
      refine returns_check.2 fun within => returns_check.2 fun allowed => ?_
      refine (userOf_returns _).next fun user => returns_check.2 fun _ => ?_
      obtain rfl := ordered_ok hordered
      rw [not_or, not_le, not_lt] at within
      refine (pointsRevoked_returns.2 ?_).next fun revoked => ?_
      · rintro ⟨revokes, target⟩
        exact sound ⟨revokes, (targetRevoke_eq_none revokes).1 target, open', amount', hamount,
          within.1, within.2, allowed⟩
      · exact (restoreCoupon_returns _ _).next fun _ => returns_pure

/-! ## Transitions -/

/-- A handler returns, unless it is that of a refund with an unbound local. -/
theorem handler_returns (provided : Provided state) {name : ActionName}
    {x : Except SimFault (SimulationState × List SimEvent)}
    (h : simulator.handler? state action name = some x) :
    Returns x ↔ ¬ (name = .refundOrder ∧ Unassigned simulator state action) := by
  cases name <;> simp only [handler?, Option.some.injEq, reduceCtorEq] at h <;> subst h <;>
    simp only [reduceCtorEq, false_and, not_false_eq_true, iff_true, true_and]
  · exact doCreateUser_returns
  · exact doIssueCoupon_returns
  · exact doCreateOrder_returns
  · exact doApplyCoupon_returns
  · exact doPayOrder_returns
  · exact doRefundOrder_returns provided
  · exact doRedeemPoints_returns
  · exact doActivateMembership_returns
  · exact doConsumeEntitlement_returns
  · exact doCancelMembership_returns provided

/-- The action is one of its scenario, and not remembered as applied. -/
def Handled (state : SimulationState) (action : SimAction) : Prop :=
  (action.actionType = .createUser ∨ action.actionType ∈ state.scenarioType.simActions) ∧
    ∀ marker ∈ marker? action, marker ∉ state.seenIdempotencyKeys

theorem transition_returns_iff (provided : Provided state) :
    (∃ result, simulator.transition state action = .ok result ∧
      (result.status ≠ .applied → result.state = state)) ↔
      ¬ (Handled state action ∧ action.actionType = .refundOrder ∧
        Unassigned simulator state action) := by
  unfold transition Handled
  split_ifs with unsupported seen
  · rw [← not_or] at unsupported
    simp [unsupported]
  · refine iff_of_true ⟨_, rfl, fun _ => rfl⟩ ?_
    rintro ⟨⟨-, fresh⟩, -⟩
    obtain ⟨marker, hm, known⟩ := seen
    exact fresh marker hm known
  · have handled : (action.actionType = .createUser ∨
        action.actionType ∈ state.scenarioType.simActions) ∧
        ∀ marker ∈ marker? action, marker ∉ state.seenIdempotencyKeys :=
      ⟨by tauto, fun marker hm known => seen ⟨marker, hm, known⟩⟩
    rw [and_iff_right handled]
    split
    · rename_i none
      refine iff_of_true ⟨_, rfl, fun _ => rfl⟩ ?_
      rintro ⟨refund, -⟩
      rw [refund] at none
      cases none
    · rename_i state' events h
      exact iff_of_true ⟨_, rfl, fun h => absurd rfl h⟩
        ((handler_returns provided h).1 Checked.Fails.ok)
    · rename_i code h
      refine iff_of_true ⟨_, rfl, fun _ => rfl⟩ ((handler_returns provided h).1 ?_)
      exact returns_throw.2 trivial
    · rename_i exception h
      rw [← handler_returns provided h]
      split_ifs with known
      · exact iff_of_true ⟨_, rfl, fun _ => rfl⟩ (returns_throw.2 known)
      · refine iff_of_false (by rintro ⟨_, ⟨⟩, -⟩) fun returns => known ?_
        exact returns _ rfl

end ReferenceSimulator

/-- In every state that is reached, a transition returns, and leaves the state as it is
    unless the action is applied, exactly where the action is not a refund with an
    unbound local. -/
theorem transition_returns (spec : PolicySpec) (actions : List SimAction) (action : SimAction) :
    let simulator := spec.simulator
    let state := simulator.run actions
    (∃ result, simulator.transition state action = .ok result ∧
      (result.status ≠ .applied → result.state = state)) ↔
      ¬ (ReferenceSimulator.Handled state action ∧ action.actionType = .refundOrder ∧
        ReferenceSimulator.Unassigned simulator state action) :=
  ReferenceSimulator.transition_returns_iff (spec.simulator.run_provided actions)

/-- An order of 0.50 is granted no points, and its refund raises. -/
theorem transition_raises :
    ¬ ∀ (spec : PolicySpec) (actions : List SimAction) (action : SimAction),
      ∃ result, spec.simulator.transition (spec.simulator.run actions) action = .ok result ∧
        (result.status ≠ .applied → result.state = spec.simulator.run actions) := by
  intro claim
  have returns := claim pointsPolicy (paidOrderActions "10.00" "0.50") (refundOrderAction "0.50")
  revert returns
  decide +kernel

end RuleArena
