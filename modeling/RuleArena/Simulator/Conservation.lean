import RuleArena.Simulator.Effects

/-!
# Conservation in the simulator

Whatever actions are simulated, the money of a state stays what the user was
created with: what is not on the balance was paid for an order or a membership
and not refunded (`simulator_conserves`). Refunds stay within payments, and
nothing becomes negative.

Points and prorated refunds are products that the decimal context has to hold
exactly, which bounds the initial balance and the rules (`Small`).
-/

namespace RuleArena

/-- Replacing an item changes a sum by what it changes in that item. -/
theorem sum_set {α : Type} (f : α → ℤ) {items : List α} {i : Nat} {a : α}
    (h : items[i]? = some a) (b : α) :
    ((items.set i b).map f).sum = (items.map f).sum - f a + f b := by
  induction items generalizing i with
  | nil => simp at h
  | cons c items ih =>
    cases i with
    | zero =>
      cases h
      simp
      ring
    | succ i =>
      rw [List.set_cons_succ, List.map_cons, List.sum_cons, List.map_cons, List.sum_cons, ih h]
      ring

/-! ## The money of a state -/

/-- What is kept of the payment for an order. -/
def SimOrder.net (order : SimOrder) : Int := order.paidAmount - order.refundedAmount

/-- What is kept of the payment for a membership. -/
def SimMembership.net (membership : SimMembership) : Int :=
  membership.paidAmount - membership.refundedAmount

/-- The balances and what is kept of payments. -/
def SimulationState.total (state : SimulationState) : Int :=
  (state.users.map SimUser.balance).sum + (state.orders.map SimOrder.net).sum +
    (state.memberships.map SimMembership.net).sum

/-! ## Sound rows -/

/-- Refunds stay within the payment and points within what was granted; the points of
    the payment can be computed exactly. -/
structure SimOrder.Sound (order : SimOrder) : Prop where
  priced : 0 ≤ order.price
  refunded : 0 ≤ order.refundedAmount ∧ order.refundedAmount ≤ order.paidAmount
  paid : order.paidAmount ≤ order.price
  revoked : 0 ≤ order.pointsRevoked ∧ order.pointsRevoked ≤ order.pointsGranted
  exact' : order.pointsGranted * order.paidAmount < 10 ^ 28
  created : order.status = .created →
    order.paidAmount = 0 ∧ order.refundedAmount = 0 ∧ order.pointsGranted = 0

structure SimMembership.Sound (membership : SimMembership) : Prop where
  refunded : 0 ≤ membership.refundedAmount ∧ membership.refundedAmount ≤ membership.paidAmount
  active : membership.status = .active → membership.refundedAmount = 0

structure SimEntitlement.Sound (entitlement : SimEntitlement) : Prop where
  consumed : 0 ≤ entitlement.consumed
  revoked : 0 ≤ entitlement.revoked
  available : 0 ≤ entitlement.available

namespace ReferenceSimulator

/-- An initial balance and the rules are small enough for exact arithmetic: the points
    that the balance can buy, times the balance, and the price of a membership, times
    its quantity, have at most 28 digits. -/
structure Small (simulator : ReferenceSimulator) (balance : Int) : Prop where
  points : ∀ rule ∈ simulator.points,
    (balance / 100 : ℚ) / rule.spendAmount * rule.pointsGranted * balance < 10 ^ 28
  membership : ∀ rule ∈ simulator.membership,
    rule.price.amount.decimal.value * 100 * rule.entitlementQuantity < 10 ^ 28

/-- The books of a state whose user was created with a balance. -/
structure Sound (balance : Int) (state : SimulationState) : Prop where
  single : ∃ user, state.users = [user] ∧ 0 ≤ user.balance ∧ 0 ≤ user.pointsBalance
  total : state.total = balance
  coupons : ∀ coupon ∈ state.coupons, 0 < coupon.faceValue
  orders : ∀ order ∈ state.orders, order.Sound
  memberships : ∀ membership ∈ state.memberships, membership.Sound
  entitlements : ∀ entitlement ∈ state.entitlements, entitlement.Sound
  product : ∀ membership ∈ state.memberships, ∀ entitlement ∈ state.entitlements,
    membership.paidAmount * entitlement.granted < 10 ^ 28

/-- A state without rows. -/
structure Empty (state : SimulationState) : Prop where
  users : state.users = []
  coupons : state.coupons = []
  orders : state.orders = []
  memberships : state.memberships = []
  entitlements : state.entitlements = []

variable {simulator : ReferenceSimulator} {state state' : SimulationState} {balance : Int}

/-! ## Arithmetic -/

/-- Points are granted for full units of an amount. -/
theorem granted_ok {amount granted : Int} (nonneg : 0 ≤ amount)
    (h : simulator.granted amount = .ok granted) :
    0 ≤ granted ∧ (simulator.points = none → granted = 0) ∧ ∀ rule ∈ simulator.points,
      (granted : ℚ) ≤ (amount / 100 : ℚ) / rule.spendAmount * rule.pointsGranted := by
  unfold ReferenceSimulator.granted at h
  split at h
  · rename_i rule hr
    simp only [Checked.bind_eq_ok, Checked.ensure_eq_ok, Checked.pure_eq_ok] at h
    obtain ⟨-, -, rfl⟩ := h
    have quotient : 0 ≤ (amount / 100 : ℚ) / rule.spendAmount := by
      have := rule.spend_pos
      have : (0 : ℚ) ≤ amount := by exact_mod_cast nonneg
      positivity
    rw [Oracle.truncate, if_pos quotient]
    refine ⟨mul_nonneg (Int.floor_nonneg.2 quotient) (Int.natCast_nonneg _), by simp [hr], ?_⟩
    intro rule' hr'
    obtain rfl := Option.some.inj (hr.symm.trans hr')
    push_cast
    exact mul_le_mul_of_nonneg_right (Int.floor_le _) (Nat.cast_nonneg _)
  · rename_i hr
    obtain rfl := Checked.pure_eq_ok.1 h
    simp [hr]

/-- The points to be revoked are not more than were granted. -/
theorem targetRevoke_bounds {order : SimOrder} (sound : order.Sound) {total target : Int}
    (nonneg : 0 ≤ total) (within : total ≤ order.paidAmount)
    (h : simulator.targetRevoke order total = some target) :
    0 ≤ target ∧ target ≤ order.pointsGranted := by
  have granted : 0 ≤ order.pointsGranted := sound.revoked.1.trans sound.revoked.2
  unfold targetRevoke at h
  split_ifs at h with ht hf
  · cases h
    exact ⟨granted, le_rfl⟩
  · cases h
    have paid : (0 : ℚ) < order.paidAmount := by
      have : 0 < order.paidAmount := by omega
      exact_mod_cast this
    have total' : (0 : ℚ) ≤ total := by exact_mod_cast nonneg
    have granted' : (0 : ℚ) ≤ order.pointsGranted := by exact_mod_cast granted
    -- The product has at most 28 digits.
    have product : Context.mul order.pointsGranted (total / 100 : ℚ) =
        ((order.pointsGranted * total : ℤ) : ℚ) / 100 := by
      rw [Context.mul, show (order.pointsGranted : ℚ) * (total / 100) =
        ((order.pointsGranted * total : ℤ) : ℚ) / 100 by push_cast; ring]
      refine Context.round_cents ?_
      rw [abs_of_nonneg (mul_nonneg granted nonneg)]
      exact (mul_le_mul_of_nonneg_left within granted).trans_lt sound.exact'
    have share : ((order.pointsGranted * total : ℤ) : ℚ) / 100 / (order.paidAmount / 100 : ℚ) =
        order.pointsGranted * total / order.paidAmount := by
      push_cast
      field_simp
    rw [product, Context.div, share]
    have quotient : 0 ≤ (order.pointsGranted : ℚ) * total / order.paidAmount := by positivity
    refine ⟨Int.floor_nonneg.2 (Context.round_nonneg quotient), ?_⟩
    have small : |order.pointsGranted| < 10 ^ 28 := by
      rw [abs_of_nonneg granted]
      have : 0 < order.paidAmount := by exact_mod_cast paid
      exact (le_mul_of_one_le_right granted (by omega)).trans_lt sound.exact'
    have bound := Context.round_le (n := order.pointsGranted) (e := 0) quotient (by decide) (by
      rw [zpow_zero, mul_one, div_le_iff₀ paid]
      have : (total : ℚ) ≤ order.paidAmount := by exact_mod_cast within
      exact mul_le_mul_of_nonneg_left this granted') small
    rw [zpow_zero, mul_one] at bound
    exact_mod_cast (Int.floor_le _).trans bound

/-- A number that is not more than some cents is not quantized to more. -/
theorem quantizeCents_bounds {x : ℚ} {cents bound : Int} (nonneg : 0 ≤ x)
    (le : x ≤ (bound : ℚ) / 100) (h : quantizeCents x = .ok cents) :
    0 ≤ cents ∧ cents ≤ bound := by
  simp only [quantizeCents, if_pos nonneg, Checked.bind_eq_ok, Checked.ensure_eq_ok,
    Checked.pure_eq_ok] at h
  obtain ⟨-, -, rfl⟩ := h
  refine ⟨Int.floor_nonneg.2 (by positivity), Int.lt_add_one_iff.1 (Int.floor_lt.2 ?_)⟩
  push_cast
  linarith

/-- What is refunded of a membership is not more than was paid, whatever the policy. -/
theorem membershipRefund_bounds {rule : MembershipRule} {requested : Bool}
    {membership : SimMembership} {entitlement : SimEntitlement} {refund : Int}
    (paid : 0 ≤ membership.paidAmount) (sound : entitlement.Sound)
    (product : membership.paidAmount * entitlement.granted < 10 ^ 28)
    (h : membershipRefund rule requested membership entitlement = .ok refund) :
    0 ≤ refund ∧ refund ≤ membership.paidAmount := by
  unfold membershipRefund at h
  split_ifs at h with hr hp
  · simp only [Checked.bind_eq_ok, Checked.ensure_eq_ok] at h
    obtain ⟨-, nonzero, h⟩ := h
    have available : entitlement.available ≤ entitlement.granted := by
      have := sound.consumed
      have := sound.revoked
      unfold SimEntitlement.available
      omega
    have left := sound.available
    have granted : (0 : ℚ) < entitlement.granted := by
      have : 0 < entitlement.granted := by omega
      exact_mod_cast this
    have paid' : (0 : ℚ) ≤ membership.paidAmount := by exact_mod_cast paid
    have left' : (0 : ℚ) ≤ entitlement.available := by exact_mod_cast left
    have le : (entitlement.available : ℚ) ≤ entitlement.granted := by exact_mod_cast available
    have small : membership.paidAmount * entitlement.available < 10 ^ 28 :=
      (mul_le_mul_of_nonneg_left available paid).trans_lt product
    have exact : Context.mul (membership.paidAmount / 100 : ℚ) entitlement.available =
        ((membership.paidAmount * entitlement.available : ℤ) : ℚ) / 100 := by
      rw [Context.mul, show (membership.paidAmount / 100 : ℚ) * entitlement.available =
        ((membership.paidAmount * entitlement.available : ℤ) : ℚ) / 100 by push_cast; ring]
      refine Context.round_cents ?_
      rwa [abs_of_nonneg (mul_nonneg paid left)]
    have quotient : 0 ≤ ((membership.paidAmount * entitlement.available : ℤ) : ℚ) / 100 /
        entitlement.granted := by
      push_cast
      positivity
    have price : |membership.paidAmount| < 10 ^ 28 := by
      rw [abs_of_nonneg paid]
      have : 1 ≤ entitlement.granted := by exact_mod_cast granted
      exact (le_mul_of_one_le_right paid this).trans_lt product
    rw [exact, Context.div] at h
    refine quantizeCents_bounds (Context.round_nonneg quotient) ?_ h
    have bound := Context.round_le (n := membership.paidAmount) (e := -2) quotient (by decide) (by
      push_cast
      rw [div_le_iff₀ granted, show ((10 : ℚ) ^ (-2 : ℤ)) = 1 / 100 by norm_num]
      have := mul_le_mul_of_nonneg_left le paid'
      linarith) price
    rwa [show ((10 : ℚ) ^ (-2 : ℤ)) = 1 / 100 by norm_num, mul_one_div] at bound
  · obtain rfl := Checked.pure_eq_ok.1 h
    exact ⟨paid, le_rfl⟩
  · obtain rfl := Checked.pure_eq_ok.1 h
    exact ⟨le_rfl, paid⟩

/-! ## One change -/

/-- The user of a state with one user. -/
theorem Sound.user (sound : Sound balance state) {ui : Nat} {user : SimUser}
    (h : state.users[ui]? = some user) :
    state.users = [user] ∧ ui = 0 ∧ 0 ≤ user.balance ∧ 0 ≤ user.pointsBalance := by
  obtain ⟨user', users, nonneg⟩ := sound.single
  rw [users] at h ⊢
  cases ui with
  | zero =>
    cases h
    exact ⟨rfl, rfl, nonneg⟩
  | succ ui => simp at h

/-- The balance is a part of the money of the state. -/
theorem Sound.balance_le (sound : Sound balance state) {user : SimUser}
    (h : state.users = [user]) : user.balance ≤ balance := by
  have orders : 0 ≤ (state.orders.map SimOrder.net).sum := by
    refine List.sum_nonneg fun x hx => ?_
    obtain ⟨order, hm, rfl⟩ := List.mem_map.1 hx
    exact sub_nonneg.2 (sound.orders order hm).refunded.2
  have memberships : 0 ≤ (state.memberships.map SimMembership.net).sum := by
    refine List.sum_nonneg fun x hx => ?_
    obtain ⟨membership, hm, rfl⟩ := List.mem_map.1 hx
    exact sub_nonneg.2 (sound.memberships membership hm).refunded.2
  have total := sound.total
  simp only [SimulationState.total, h, List.map_cons, List.map_nil, List.sum_cons,
    List.sum_nil] at total
  omega

theorem payOrder_sound (small : simulator.Small balance) (sound : Sound balance state)
    {oi ui : Nat} {order : SimOrder} {user : SimUser} {granted : Int} {coupons : List SimCoupon}
    (ho : state.orders[oi]? = some order) (hu : state.users[ui]? = some user)
    (created : order.status = .created) (enough : order.price ≤ user.balance)
    (points : simulator.granted order.price = .ok granted)
    (values : ∀ coupon ∈ coupons, 0 < coupon.faceValue) :
    Sound balance { state with
      users := state.users.set ui (user.pay order.price granted)
      orders := state.orders.set oi (order.captured granted)
      coupons } := by
  have row := sound.orders order (List.mem_of_getElem? ho)
  obtain ⟨users, rfl, -, pointsBalance⟩ := sound.user hu
  obtain ⟨nonneg, none, bound⟩ := granted_ok row.priced points
  have limit := enough.trans (sound.balance_le users)
  refine ⟨⟨user.pay order.price granted, by simp [users], ?_, ?_⟩, ?_, values, ?_,
    sound.memberships, sound.entitlements, sound.product⟩
  · simpa using enough
  · simpa using add_nonneg pointsBalance nonneg
  · have total := sound.total
    simp only [SimulationState.total, sum_set _ hu, sum_set _ ho, SimOrder.net,
      SimUser.pay_balance, SimOrder.captured_paidAmount, SimOrder.captured_refundedAmount,
      (row.created created).1] at total ⊢
    omega
  · refine forall_mem_set sound.orders ⟨row.priced, ⟨?_, ?_⟩, le_rfl, ⟨row.revoked.1, ?_⟩, ?_, ?_⟩
    · simp [(row.created created).2.1]
    · simpa [(row.created created).2.1] using row.priced
    · have revoked := row.revoked.2
      rw [(row.created created).2.2] at revoked
      exact revoked.trans nonneg
    · -- The points are those of a part of the initial balance.
      cases hp : simulator.points with
      | none => simp [none hp]
      | some rule =>
        have spend := rule.spend_pos
        have price : (0 : ℚ) ≤ order.price := by exact_mod_cast row.priced
        have price_le : (order.price : ℚ) ≤ balance := by exact_mod_cast limit
        have balance_nonneg : (0 : ℚ) ≤ balance := price.trans price_le
        have product : ((granted * order.price : ℤ) : ℚ) < 10 ^ 28 := by
          push_cast
          calc (granted : ℚ) * order.price
              ≤ (order.price / 100 : ℚ) / rule.spendAmount * rule.pointsGranted * order.price :=
                mul_le_mul_of_nonneg_right (bound rule hp) price
            _ ≤ (balance / 100 : ℚ) / rule.spendAmount * rule.pointsGranted * balance := by
                gcongr
            _ < 10 ^ 28 := small.points rule hp
        exact_mod_cast product
    · simp

theorem refundOrder_sound (sound : Sound balance state) {oi ui : Nat} {order : SimOrder}
    {user : SimUser} {amount revoked delta : Int} {coupons : List SimCoupon}
    (ho : state.orders[oi]? = some order) (hu : state.users[ui]? = some user) (pos : 0 < amount)
    (within : order.refundedAmount + amount ≤ order.paidAmount)
    (points : (simulator.revokesPoints = false ∧ revoked = order.pointsRevoked ∧ delta = 0) ∨
      (simulator.revokesPoints = true ∧
        simulator.targetRevoke order (order.refundedAmount + amount) = some revoked ∧
        delta = revokeDelta order revoked ∧ delta ≤ user.pointsBalance))
    (values : ∀ coupon ∈ coupons, 0 < coupon.faceValue) :
    Sound balance { state with
      users := state.users.set ui (user.credit amount delta)
      orders := state.orders.set oi (order.refund amount revoked)
      coupons } := by
  have row := sound.orders order (List.mem_of_getElem? ho)
  obtain ⟨users, rfl, nonneg, pointsBalance⟩ := sound.user hu
  have refunded := row.refunded.1
  have target : 0 ≤ revoked ∧ revoked ≤ order.pointsGranted ∧ delta ≤ user.pointsBalance := by
    rcases points with ⟨-, rfl, rfl⟩ | ⟨-, ht, -, enough⟩
    · exact ⟨row.revoked.1, row.revoked.2, pointsBalance⟩
    · have bounds := targetRevoke_bounds row (by omega) within ht
      exact ⟨bounds.1, bounds.2, enough⟩
  refine ⟨⟨user.credit amount delta, by simp [users], ?_, ?_⟩, ?_, values, ?_,
    sound.memberships, sound.entitlements, sound.product⟩
  · simpa using by omega
  · simpa using target.2.2
  · have total := sound.total
    simp only [SimulationState.total, sum_set _ hu, sum_set _ ho, SimOrder.net,
      SimUser.credit_balance, SimOrder.refund_paidAmount, SimOrder.refund_refundedAmount] at total ⊢
    omega
  · refine forall_mem_set sound.orders ⟨row.priced, ⟨?_, within⟩, row.paid,
      ⟨target.1, target.2.1⟩, row.exact', ?_⟩
    · simpa using by omega
    · intro created
      simp only [SimOrder.refund_status] at created
      split at created <;> cases created

theorem applyCoupon_sound (sound : Sound balance state) {oi ci : Nat} {order : SimOrder}
    {coupon : SimCoupon} (ho : state.orders[oi]? = some order)
    (hc : state.coupons[ci]? = some coupon) (created : order.status = .created) :
    Sound balance { state with
      orders := state.orders.set oi (order.discountedBy coupon)
      coupons := state.coupons.set ci (coupon.reservedFor order.orderId) } := by
  have row := sound.orders order (List.mem_of_getElem? ho)
  have value := sound.coupons coupon (List.mem_of_getElem? hc)
  refine ⟨sound.single, ?_, forall_mem_set sound.coupons (by simpa using value), ?_,
    sound.memberships, sound.entitlements, sound.product⟩
  · have total := sound.total
    simp only [SimulationState.total, sum_set _ ho, SimOrder.net,
      SimOrder.discountedBy_paidAmount, SimOrder.discountedBy_refundedAmount] at total ⊢
    omega
  · have priced : 0 ≤ (order.discountedBy coupon).price := by
      simp [SimOrder.price]
    refine forall_mem_set sound.orders ⟨priced, row.refunded, ?_, row.revoked, row.exact',
      row.created⟩
    simpa [(row.created created).1] using priced

theorem activateMembership_sound (small : simulator.Small balance) (sound : Sound balance state)
    {rule : MembershipRule} {ui : Nat} {user : SimUser} {paid : Int}
    (hr : simulator.membership = some rule) (first : state.memberships = [])
    (hu : state.users[ui]? = some user)
    (price : (paid / 100 : ℚ) = rule.price.amount.decimal.value) (enough : paid ≤ user.balance) :
    Sound balance { state with
      users := state.users.set ui (user.withMembership (-paid) .active)
      memberships := [{
        membershipId := "membership-1", userId := user.userId, paidAmount := paid,
        currency := rule.price.currency }]
      entitlements := [{
        entitlementId := "entitlement-1", membershipId := "membership-1",
        granted := rule.entitlementQuantity }] } := by
  obtain ⟨users, rfl, nonneg, points⟩ := sound.user hu
  have paid_pos : 0 < paid := by
    have := rule.price_pos
    rw [← price] at this
    have : (0 : ℚ) < paid := by linarith
    exact_mod_cast this
  have quantity := rule.quantity_pos
  refine ⟨⟨user.withMembership (-paid) .active, by simp [users], ?_, ?_⟩, ?_, sound.coupons,
    sound.orders, ?_, ?_, ?_⟩
  · simpa using enough
  · simpa using points
  · have total := sound.total
    simp only [SimulationState.total, sum_set _ hu, first, List.map_nil, List.sum_nil,
      SimUser.withMembership_balance, SimMembership.net, List.map_cons, List.sum_cons] at total ⊢
    omega
  · simpa using ⟨⟨le_rfl, paid_pos.le⟩, fun _ => rfl⟩
  · simpa using ⟨le_rfl, le_rfl, by simp [SimEntitlement.available]⟩
  · -- The price times the quantity fits into the context.
    have product := small.membership rule hr
    rw [← price] at product
    simp only [List.mem_singleton, forall_eq]
    have : ((paid * rule.entitlementQuantity : ℤ) : ℚ) < 10 ^ 28 := by
      push_cast
      linarith
    exact_mod_cast this

theorem consumeEntitlement_sound (sound : Sound balance state) {ei : Nat}
    {entitlement : SimEntitlement} {quantity : Int}
    (he : state.entitlements[ei]? = some entitlement) (pos : 0 < quantity)
    (enough : quantity ≤ entitlement.available) :
    Sound balance { state with
      entitlements := state.entitlements.set ei (entitlement.consume quantity) } := by
  have row := sound.entitlements entitlement (List.mem_of_getElem? he)
  have consumed := row.consumed
  have available : (entitlement.consume quantity).available = entitlement.available - quantity := by
    simp only [SimEntitlement.available, SimEntitlement.consume_granted,
      SimEntitlement.consume_consumed, SimEntitlement.consume_revoked]
    omega
  refine ⟨sound.single, sound.total, sound.coupons, sound.orders, sound.memberships,
    forall_mem_set sound.entitlements ⟨?_, row.revoked, ?_⟩, fun membership hm =>
      forall_mem_set (sound.product membership hm) ?_⟩
  · simpa using by omega
  · rw [available]
    omega
  · exact sound.product membership hm entitlement (List.mem_of_getElem? he)

theorem cancelMembership_sound (sound : Sound balance state) {rule : MembershipRule}
    {requested : Bool} {membership : SimMembership} {memberships : List SimMembership}
    {entitlement : SimEntitlement} {entitlements : List SimEntitlement} {user : SimUser}
    {users : List SimUser} {refund : Int} (hm : state.memberships = membership :: memberships)
    (he : state.entitlements = entitlement :: entitlements) (hu : state.users = user :: users)
    (active : membership.status = .active)
    (amount : membershipRefund rule requested membership entitlement = .ok refund) :
    Sound balance { state with
      users := user.withMembership refund .inactive :: users
      memberships := membership.close refund :: memberships
      entitlements := entitlement.revoke :: entitlements } := by
  have found : state.users[0]? = some user := by simp [hu]
  obtain ⟨users', -, nonneg, points⟩ := sound.user found
  obtain rfl : users = [] := by simpa [hu] using users'
  have row := sound.memberships membership (by simp [hm])
  have own := sound.entitlements entitlement (by simp [he])
  have product := sound.product membership (by simp [hm]) entitlement (by simp [he])
  have bounds := membershipRefund_bounds (row.refunded.1.trans row.refunded.2) own product amount
  have revoked : 0 ≤ entitlement.revoked + entitlement.available :=
    add_nonneg own.revoked own.available
  refine ⟨⟨user.withMembership refund .inactive, rfl, ?_, ?_⟩, ?_, sound.coupons, sound.orders,
    ?_, ?_, ?_⟩
  · simpa using add_nonneg nonneg bounds.1
  · simpa using points
  · have total := sound.total
    simp only [SimulationState.total, hu, hm, List.map_cons, List.map_nil, List.sum_cons,
      List.sum_nil, SimMembership.net, SimUser.withMembership_balance,
      SimMembership.close_paidAmount, SimMembership.close_refundedAmount,
      row.active active] at total ⊢
    omega
  · intro m hm'
    rcases List.mem_cons.1 hm' with rfl | hm'
    · refine ⟨by simpa using bounds, fun h => ?_⟩
      simp only [SimMembership.close_status] at h
      split at h <;> cases h
    · exact sound.memberships m (by simp [hm, hm'])
  · intro e he'
    rcases List.mem_cons.1 he' with rfl | he'
    · refine ⟨own.consumed, by simpa using revoked, ?_⟩
      simp [SimEntitlement.available]
    · exact sound.entitlements e (by simp [he, he'])
  · -- Neither what was paid nor what was granted changes.
    intro m hm' e he'
    rcases List.mem_cons.1 hm' with rfl | hm' <;> rcases List.mem_cons.1 he' with rfl | he'
    · simpa using product
    · exact sound.product membership (by simp [hm]) e (by simp [he, he'])
    · exact sound.product m (by simp [hm, hm']) entitlement (by simp [he])
    · exact sound.product m (by simp [hm, hm']) e (by simp [he, he'])

/-- A change keeps the books. -/
theorem change_sound (small : simulator.Small balance) (sound : Sound balance state)
    {name : ActionName} (change : Change simulator state name state') : Sound balance state' := by
  cases change with
  | createUser none =>
    obtain ⟨user, users, -⟩ := sound.single
    simp [users] at none
  | issueCoupon _ _ value =>
    refine ⟨sound.single, sound.total, ?_, sound.orders, sound.memberships, sound.entitlements,
      sound.product⟩
    intro coupon hm
    rcases List.mem_append.1 hm with hm | hm
    · exact sound.coupons coupon hm
    · rw [List.mem_singleton.1 hm]
      exact value
  | createOrder _ pos =>
    refine ⟨sound.single, ?_, sound.coupons, ?_, sound.memberships, sound.entitlements,
      sound.product⟩
    · simpa [SimulationState.total, SimOrder.net] using sound.total
    · intro order hm
      rcases List.mem_append.1 hm with hm | hm
      · exact sound.orders order hm
      · rw [List.mem_singleton.1 hm]
        exact ⟨by simpa [SimOrder.price] using pos.le, by simp, by simpa [SimOrder.price] using pos.le,
          by simp, by simp, by simp⟩
  | applyCoupon ho hc created => exact applyCoupon_sound sound ho hc created
  | payOrder ho hu _ created enough points used =>
    refine payOrder_sound small sound ho hu created enough points ?_
    rcases used with ⟨-, rfl⟩ | ⟨ci, coupon, -, hc, rfl⟩
    · exact sound.coupons
    · exact forall_mem_set sound.coupons (sound.coupons coupon (List.mem_of_getElem? hc))
  | refundOrder ho hu _ _ pos within points restored =>
    refine refundOrder_sound sound ho hu pos within points ?_
    rcases restored with rfl | ⟨ci, coupon, -, hc, rfl⟩
    · exact sound.coupons
    · exact forall_mem_set sound.coupons (sound.coupons coupon (List.mem_of_getElem? hc))
  | @redeemPoints user users amount hu pos enough =>
    have found : state.users[0]? = some user := by simp [hu]
    obtain ⟨users', -, nonneg, points⟩ := sound.user found
    obtain rfl : users = [] := by simpa [hu] using users'
    refine ⟨⟨user.redeem amount, rfl, nonneg, ?_⟩, ?_, sound.coupons, sound.orders,
      sound.memberships, sound.entitlements, sound.product⟩
    · simpa using enough
    · simpa [SimulationState.total, hu] using sound.total
  | activateMembership hr first hu price enough =>
    exact activateMembership_sound small sound hr first hu price enough
  | consumeEntitlement he pos enough => exact consumeEntitlement_sound sound he pos enough
  | cancelMembership _ hm he hu active _ amount =>
    exact cancelMembership_sound sound hm he hu active amount

/-! ## Runs -/

/-- Nothing but a user can be created in a state without rows. -/
theorem change_empty (empty : Empty state) {name : ActionName}
    (change : Change simulator state name state') :
    ∃ user, state'.users = [user] ∧ Sound user.balance state' := by
  cases change with
  | @createUser userId balance currency none nonneg =>
    refine ⟨_, rfl, ⟨_, rfl, nonneg, le_rfl⟩, ?_, ?_, ?_, ?_, ?_, ?_⟩ <;>
      simp [SimulationState.total, empty.orders, empty.memberships, empty.entitlements,
        empty.coupons]
  | issueCoupon _ owner => simp [empty.users] at owner
  | createOrder owner => simp [empty.users] at owner
  | applyCoupon ho => simp [empty.orders] at ho
  | payOrder ho => simp [empty.orders] at ho
  | refundOrder ho => simp [empty.orders] at ho
  | redeemPoints hu => simp [empty.users] at hu
  | activateMembership _ _ hu => simp [empty.users] at hu
  | consumeEntitlement he => simp [empty.entitlements] at he
  | cancelMembership _ hm => simp [empty.memberships] at hm

/-- The balance of the user in the first state of a run that has one. -/
def initialBalance (simulator : ReferenceSimulator) (actions : List SimAction) : Option Int :=
  (actions.inits.map simulator.run).findSome? fun state => state.users.head?.map SimUser.balance

theorem initialBalance_concat (actions : List SimAction) (action : SimAction) :
    simulator.initialBalance (actions ++ [action]) = (simulator.initialBalance actions).or
      ((simulator.run (actions ++ [action])).users.head?.map SimUser.balance) := by
  simp [initialBalance, List.inits_append, List.findSome?_append]

/-- After every sequence of actions the state has no rows yet, or sound books. -/
theorem run_sound (simulator : ReferenceSimulator) (actions : List SimAction) :
    (Empty (simulator.run actions) ∧ simulator.initialBalance actions = none) ∨
      ∃ balance, simulator.initialBalance actions = some balance ∧
        (simulator.Small balance → Sound balance (simulator.run actions)) := by
  induction actions using List.reverseRecOn with
  | nil => exact .inl ⟨⟨rfl, rfl, rfl, rfl, rfl⟩, rfl⟩
  | append_singleton actions action ih =>
    rw [initialBalance_concat, run_concat]
    have step := simulator.next_cases (simulator.run actions) action
    rcases ih with ⟨empty, unopened⟩ | ⟨balance, opened, ih⟩
    · rw [unopened, Option.none_or]
      rcases step with h | ⟨state', change, h⟩
      · rw [h]
        exact .inl ⟨empty, by simp [empty.users]⟩
      · obtain ⟨user, users, sound⟩ := change_empty empty change
        rw [h]
        refine .inr ⟨user.balance, by simp [users], fun _ => ?_⟩
        exact ⟨sound.single, sound.total, sound.coupons, sound.orders, sound.memberships,
          sound.entitlements, sound.product⟩
    · refine .inr ⟨balance, by rw [opened, Option.some_or], fun small => ?_⟩
      rcases step with h | ⟨state', change, h⟩
      · rw [h]
        exact ih small
      · have sound := change_sound small (ih small) change
        rw [h]
        exact ⟨sound.single, sound.total, sound.coupons, sound.orders, sound.memberships,
          sound.entitlements, sound.product⟩

end ReferenceSimulator

/-- After every sequence of actions, what is on the balance and what is kept of payments
    is the initial balance, and refunds, revoked points and consumption stay within
    payments, granted points and grants. -/
theorem simulator_conserves (spec : PolicySpec) (actions : List SimAction)
    (small : ∀ balance ∈ spec.simulator.initialBalance actions, spec.simulator.Small balance) :
    let state := spec.simulator.run actions
    (∀ user ∈ state.users,
      some (user.balance +
        (state.orders.map fun order => order.paidAmount - order.refundedAmount).sum +
        (state.memberships.map fun membership =>
          membership.paidAmount - membership.refundedAmount).sum) =
          spec.simulator.initialBalance actions ∧
      0 ≤ user.balance ∧ 0 ≤ user.pointsBalance) ∧
    (∀ order ∈ state.orders,
      0 ≤ order.refundedAmount ∧ order.refundedAmount ≤ order.paidAmount ∧
      order.paidAmount ≤ order.originalAmount - order.discountAmount ∧
      0 ≤ order.pointsRevoked ∧ order.pointsRevoked ≤ order.pointsGranted) ∧
    (∀ entitlement ∈ state.entitlements, 0 ≤ entitlement.available) ∧
    ∀ membership ∈ state.memberships,
      0 ≤ membership.refundedAmount ∧ membership.refundedAmount ≤ membership.paidAmount := by
  intro state
  rcases spec.simulator.run_sound actions with ⟨empty, -⟩ | ⟨balance, opened, sound⟩
  · have users : state.users = [] := empty.users
    have orders : state.orders = [] := empty.orders
    have memberships : state.memberships = [] := empty.memberships
    have entitlements : state.entitlements = [] := empty.entitlements
    simp [users, orders, memberships, entitlements]
  · have sound : ReferenceSimulator.Sound balance state := sound (small balance opened)
    obtain ⟨user, users, nonneg⟩ := sound.single
    have total := sound.total
    simp only [SimulationState.total, users, List.map_cons, List.map_nil, List.sum_cons,
      List.sum_nil, add_zero] at total
    refine ⟨fun user' hm => ?_, fun order hm => ?_, fun e hm => (sound.entitlements e hm).available,
      fun m hm => (sound.memberships m hm).refunded⟩
    · obtain rfl : user' = user := by simpa [users] using hm
      exact ⟨by rw [opened, ← total]; rfl, nonneg⟩
    · have row := sound.orders order hm
      exact ⟨row.refunded.1, row.refunded.2, row.paid, row.revoked.1, row.revoked.2⟩

theorem simulator_conserves_refund :
    let actions := paidOrderActions "10.00" "5.00" ++ [refundOrderAction "2.00"]
    let simulator := pointsPolicy.simulator
    simulator.initialBalance actions = some 1000 ∧
      (simulator.run actions).orders.map SimOrder.refundedAmount = [200] ∧
      ∀ user ∈ (simulator.run actions).users,
        some (user.balance +
          ((simulator.run actions).orders.map fun order =>
            order.paidAmount - order.refundedAmount).sum +
          ((simulator.run actions).memberships.map fun membership =>
            membership.paidAmount - membership.refundedAmount).sum) =
            simulator.initialBalance actions ∧
        0 ≤ user.balance ∧ 0 ≤ user.pointsBalance := by
  intro actions simulator
  have opened : simulator.initialBalance actions = some 1000 := by decide +kernel
  refine ⟨opened, by decide +kernel, (simulator_conserves pointsPolicy actions ?_).1⟩
  intro balance h
  obtain rfl : 1000 = balance := Option.some.inj (opened.symm.trans h)
  refine ⟨fun rule hr => ?_, fun rule hr => by cases hr⟩
  obtain rfl : ⟨1, 1, true, by norm_num⟩ = rule := Option.some.inj hr
  norm_num

end RuleArena
