import RuleArena.Oracle.Attribution
import RuleArena.Oracle.Statuses

/-!
# What the oracle does with any evidence

The evidence comes from outside, and nothing says that it has the shape of the
sandbox's. The oracle is to settle each invariant all the same, and to call the
evidence insufficient where it cannot read a number that the invariant needs
(`Oracle.Settles`).

It does so exactly for evidence without certain values (`Oracle.Digestible`):
three checks look a status or a type up in a set, which a list or an object
cannot be, and the check of the points converts numbers that may have no integer.

The evidence is JSON that Python has read, so its integers are not too long for
`str`, and nothing is said of amounts so large that the points to be revoked for
them overflow (`Oracle.WithinLimits`).
-/

namespace RuleArena

/-! ## Evidence from outside -/

mutual

/-- A value that `json.loads` may give: its integers have at most 4300 digits. -/
def Json.Loads : Json → Prop
  | .int i => |i| < 10 ^ 4300
  | .arr items => Json.LoadsItems items
  | .obj members => Json.LoadsMembers members
  | _ => True

def Json.LoadsItems : List Json → Prop
  | [] => True
  | item :: items => Json.Loads item ∧ Json.LoadsItems items

def Json.LoadsMembers : List (String × Json) → Prop
  | [] => True
  | (_, value) :: members => Json.Loads value ∧ Json.LoadsMembers members

end

/-! ## One item after another -/

/-- Every item is fine as long as the items before it pass. -/
def InTurn {α : Type} (fine passes : α → Prop) : List α → Prop
  | [] => True
  | a :: as => fine a ∧ (passes a → InTurn fine passes as)

section InTurn

variable {α : Type} {fine passes fine' passes' : α → Prop}

theorem InTurn.congr (same : ∀ a, fine a ↔ fine' a) (pass : ∀ a, fine a → (passes a ↔ passes' a)) :
    ∀ l, InTurn fine passes l ↔ InTurn fine' passes' l
  | [] => Iff.rfl
  | a :: as => by
    have rest := InTurn.congr same pass as
    constructor
    · rintro ⟨first, h⟩
      exact ⟨(same a).1 first, fun passed => rest.1 (h ((pass a first).2 passed))⟩
    · rintro ⟨first, h⟩
      have first := (same a).2 first
      exact ⟨first, fun passed => rest.2 (h ((pass a first).1 passed))⟩

theorem inTurn_of_forall : ∀ {l : List α}, (∀ a ∈ l, fine a) → InTurn fine passes l
  | [], _ => trivial
  | _ :: _, h => ⟨(List.forall_mem_cons.1 h).1, fun _ =>
      inTurn_of_forall (List.forall_mem_cons.1 h).2⟩

/-- Where what is fine passes, all items are looked at. -/
theorem inTurn_iff_forall (pass : ∀ a, fine a → passes a) (l : List α) :
    InTurn fine passes l ↔ ∀ a ∈ l, fine a := by
  refine ⟨fun h => ?_, inTurn_of_forall⟩
  induction l with
  | nil => exact fun _ hm => absurd hm List.not_mem_nil
  | cons a as ih => exact List.forall_mem_cons.2 ⟨h.1, ih (h.2 (pass a h.1))⟩

/-- Where all items pass, all are fine. -/
theorem InTurn.forall {l : List α} (h : InTurn fine passes l) (all : ∀ a ∈ l, passes a) :
    ∀ a ∈ l, fine a := by
  induction l with
  | nil => exact fun _ hm => absurd hm List.not_mem_nil
  | cons a as ih =>
    rw [List.forall_mem_cons] at all ⊢
    exact ⟨h.1, ih (h.2 all.1) all.2⟩

end InTurn

namespace Oracle

/-! ## What is asked of the evidence -/

/-- A value that can be looked up in a set. -/
def Hashable : Json → Prop
  | .arr _ | .obj _ => False
  | _ => True

/-- The amounts of an order can be read. -/
def OrderReadable (order : Json) : Prop :=
  (decimal (order.get "paid_amount")).isSome ∧ (decimal (order.get "refunded_amount")).isSome

def PointsReadable (order : Json) : Prop :=
  (integer (getOr order "points_granted" (.int 0))).isSome

def CouponReadable (coupon : Json) : Prop :=
  (integer (getOr coupon "usage_count" (.int 0))).isSome

def UserReadable (user : Json) : Prop :=
  (integer (getOr user "points_balance" (.int 0))).isSome

def EntitlementReadable (item : Json) : Prop :=
  (integer (getOr item "granted_quantity" (.int 0))).isSome ∧
    (integer (getOr item "consumed_quantity" (.int 0))).isSome ∧
      (integer (getOr item "revoked_quantity" (.int 0))).isSome

/-- An event grants or revokes points. -/
def MovesPoints (event : Json) : Prop :=
  (event.get "event_type" = .str "POINTS_GRANTED" ∨
    event.get "event_type" = .str "POINTS_REVOKED") ∧
      (getOr event "payload" (.obj [])).isObj

/-- How many points an event says it moves. -/
def movedPoints (event : Json) : Json :=
  let payload := getOr event "payload" (.obj [])
  let value := getOr payload "amount" (getOr payload "points" (.int 0))
  if value.truthy then value else .int 0

def EventReadable (event : Json) : Prop :=
  MovesPoints event → ∃ n, (movedPoints event).toInt = .ok n

/-- An order whose amounts, if they can be read, have a difference that does not overflow. -/
def NetFine (order : Json) : Prop :=
  ∀ paid refunded, decimal (order.get "paid_amount") = some paid →
    decimal (order.get "refunded_amount") = some refunded →
      Context.InRange (Context.sub paid.value refunded.value)

/-- An event whose type can be looked up, and whose points are no infinite number. -/
def EventFine (event : Json) : Prop :=
  Hashable (event.get "event_type") ∧
    (MovesPoints event → (movedPoints event).toInt ≠ .error .overflowError)

/-- An order whose paid amount, if it can be read, is worth points of at most 28 digits, and whose
    points are then what `int` takes. -/
def OrderFine (rule : PointsRule) (order : Json) : Prop :=
  ∀ paid, decimal (order.get "paid_amount") = some paid →
    |truncate (paid.value / rule.spendAmount)| < 10 ^ 28 ∧
      ∃ n, (getOr order "points_granted" (.int 0)).toInt = .ok n

section Membership

variable [Python]

/-- A membership that has not ended, or whose entitlement can be read: of several, the last. -/
def MembershipReadable (entitlements : List Json) (membership : Json) : Prop :=
  membership.get "status" = .str "CANCELLED" ∨ membership.get "status" = .str "REFUNDED" →
    ∃ entitlement, (entitlements.reverse.find? fun entitlement =>
        (entitlement.get "membership_id").toStr = (membership.get "id").toStr) = some entitlement ∧
      EntitlementReadable entitlement

/-- Items of the last snapshot are missing, or one of them cannot be read. -/
def Lacking (snapshots : List Json) (name : String) (readable : Json → Prop) : Prop :=
  ∀ items, lastItems snapshots name = some items → ∃ item ∈ items, ¬ readable item

/-- An invariant needs numbers that are missing from the last snapshot, or are none. -/
def Unreadable (spec : RuleSpec) (snapshots : List Json) : InvariantId → Prop
  | .netPaidNonNegative | .refundNotExceedPaid => Lacking snapshots "orders" OrderReadable
  | .couponSingleConsumption => Lacking snapshots "coupons" CouponReadable
  | .pointsValueConservation => spec.pointsRule ≠ none ∧
      (Lacking snapshots "orders" (fun order => OrderReadable order ∧ PointsReadable order) ∨
        Lacking snapshots "users" UserReadable)
  | .entitlementNonNegative => Lacking snapshots "entitlements" EntitlementReadable
  | .entitlementRefundConsistency => spec.refundPolicy ≠ none ∧
      ∀ entitlements, lastItems snapshots "entitlements" = some entitlements →
        Lacking snapshots "memberships" (MembershipReadable entitlements)
  | .orderTerminalMonotonicity | .idempotentEffect => False

/-- The events, the orders and the users that the check of the points can digest: it converts the
    points of an order before it knows that they are an integer. -/
structure PointsDigestible (rule : PointsRule) (orders users events : List Json) : Prop where
  event : InTurn EventFine EventReadable events
  order : (∀ event ∈ events, EventReadable event) →
    InTurn (OrderFine rule) OrderReadable orders
  granted : (∀ event ∈ events, EventReadable event) → (∀ order ∈ orders, OrderReadable order) →
    (∀ user ∈ users, UserReadable user) → ∀ order ∈ orders, PointsReadable order

/-- Evidence that no check raises an exception on, or takes for more than it is. -/
structure Digestible (spec : RuleSpec) (snapshots receipts events : List Json) : Prop where
  amounts : ∀ orders, lastItems snapshots "orders" = some orders →
    InTurn NetFine OrderReadable orders
  points : ∀ rule orders users, spec.pointsRule = some rule →
    lastItems snapshots "orders" = some orders → lastItems snapshots "users" = some users →
      PointsDigestible rule orders users events
  memberships : ∀ memberships entitlements, spec.refundPolicy ≠ none →
    lastItems snapshots "memberships" = some memberships →
      lastItems snapshots "entitlements" = some entitlements →
        InTurn (fun membership => Hashable (membership.get "status"))
          (MembershipReadable entitlements) memberships
  receipts : ∀ receipt ∈ receipts, (receipt.get "idempotency_key").truthy →
    Hashable (receipt.get "status")

end Membership

/-! ## How a check ends -/

/-- An exit that is no exception. -/
def Concludes (exit : Exit) : Prop := ∀ exception, exit ≠ .raised exception

/-- An exit that is an exception, or finds the evidence insufficient. -/
def Doubts (exit : Exit) : Prop :=
  ∀ verdict, exit = .verdict verdict → verdict.status = .insufficientEvidence

theorem concludes_insufficient (explanation : String) : Concludes (insufficient explanation) :=
  nofun

theorem concludes_notApplicable (explanation : String) : Concludes (notApplicable explanation) :=
  nofun

theorem not_concludes_raised {exception : PyException} : ¬ Concludes (.raised exception) :=
  fun h => h exception rfl

theorem doubts_insufficient (explanation : String) : Doubts (insufficient explanation) := by
  rintro _ ⟨⟩
  rfl

theorem doubts_raised (exception : PyException) : Doubts (.raised exception) := nofun

/-- A check ends with a status if it raises no exception. -/
theorem concludes_iff {result : Except Exit Verdict} :
    Checked.Fails Concludes result ↔ ∃ status, statusOf result = .ok status := by
  match result with
  | .ok verdict => exact ⟨fun _ => ⟨_, rfl⟩, fun _ => .ok⟩
  | .error (.verdict verdict) =>
    refine ⟨fun _ => ⟨_, rfl⟩, ?_⟩
    rintro - _ ⟨⟩ exception ⟨⟩
  | .error (.raised exception) =>
    refine ⟨fun h => (not_concludes_raised (h _ rfl)).elim, ?_⟩
    rintro ⟨_, ⟨⟩⟩

theorem concludes_of_quiet {result : Except Exit Verdict} (quiet : Quiet result) :
    Checked.Fails Concludes result := by
  intro exit h exception raised
  obtain ⟨verdict, rfl, -⟩ := quiet exit h
  cases raised

/-- A check that has no value and raises no exception finds the evidence insufficient. -/
theorem status_of_doubts {result : Except Exit Verdict} (doubts : Checked.Fails Doubts result)
    (none : ¬ ∃ verdict, result = .ok verdict) {status : OracleStatus}
    (h : statusOf result = .ok status) : status = .insufficientEvidence := by
  match result, h with
  | .ok verdict, _ => exact absurd ⟨verdict, rfl⟩ none
  | .error (.verdict verdict), h =>
    cases h
    exact doubts _ rfl verdict rfl

section Rules

variable {α : Type} {P : Exit → Prop}

theorem fails_needed_of (h : ∀ explanation, P (insufficient explanation)) {value : Option α}
    {explanation : String} : Checked.Fails P (needed value explanation) := by
  unfold needed
  split
  · exact .ok
  · exact .throw (h _)

theorem needed_eq_ok {value : Option α} {explanation : String} {a : α} :
    needed value explanation = .ok a ↔ value = some a := by
  cases value <;> simp [needed]

theorem fails_map {β : Type} {x : Except Exit α} {g : α → β} :
    Checked.Fails P (x >>= fun a => pure (g a)) ↔ Checked.Fails P x := by
  simp only [Checked.fails_bind, Checked.fails_pure, implies_true, and_true]

section Lists

variable {β : Type} (f : α → Except Exit (List β)) (run : List α → Except Exit (List β))

/-- A computation that appends what comes of each item of a list. -/
theorem fails_list (nil : run [] = pure [])
    (cons : ∀ a as, run (a :: as) = do return (← f a) ++ (← run as)) (l : List α) :
    Checked.Fails P (run l) ↔
      InTurn (fun a => Checked.Fails P (f a)) (fun a => ∃ bad, f a = .ok bad) l := by
  induction l with
  | nil =>
    rw [nil]
    exact Checked.fails_pure
  | cons a as ih =>
    rw [cons, Checked.fails_bind, InTurn, ← ih, forall_exists_index]
    exact and_congr_right fun _ => forall₂_congr fun _ _ => fails_map

theorem list_eq_ok (nil : run [] = pure [])
    (cons : ∀ a as, run (a :: as) = do return (← f a) ++ (← run as)) {l : List α} :
    (∃ all, run l = .ok all) ↔ ∀ a ∈ l, ∃ some, f a = .ok some := by
  induction l with
  | nil => exact ⟨fun _ _ hm => absurd hm List.not_mem_nil, fun _ => ⟨[], nil⟩⟩
  | cons a as ih =>
    rw [List.forall_mem_cons, ← ih, cons]
    constructor
    · rintro ⟨_, h⟩
      obtain ⟨first, hf, h⟩ := Checked.bind_eq_ok.1 h
      obtain ⟨rest, hr, -⟩ := Checked.bind_eq_ok.1 h
      exact ⟨⟨first, hf⟩, rest, hr⟩
    · rintro ⟨⟨first, hf⟩, rest, hr⟩
      exact ⟨first ++ rest, by rw [hf, hr]; rfl⟩

end Lists

theorem fails_collect_iff {f : α → Except Exit (List Json)} (l : List α) :
    Checked.Fails P (collect f l) ↔
      InTurn (fun a => Checked.Fails P (f a)) (fun a => ∃ bad, f a = .ok bad) l :=
  fails_list f (collect f) rfl (fun _ _ => rfl) l

theorem collect_eq_ok {f : α → Except Exit (List Json)} {l : List α} :
    (∃ bad, collect f l = .ok bad) ↔ ∀ a ∈ l, ∃ bad, f a = .ok bad :=
  list_eq_ok f (collect f) rfl fun _ _ => rfl

theorem fails_isIn {value : Json} {names : List String} :
    Checked.Fails Concludes (raising (value.isIn names)) ↔ Hashable value := by
  cases value with
  | arr _ => exact ⟨fun h => not_concludes_raised (h _ rfl), False.elim⟩
  | obj _ => exact ⟨fun h => not_concludes_raised (h _ rfl), False.elim⟩
  | _ => exact ⟨fun _ => trivial, fun _ => .ok⟩

theorem doubts_raising {x : Except PyException α} : Checked.Fails Doubts (raising x) := by
  cases x with
  | ok a => exact .ok
  | error exception => exact .throw (doubts_raised exception)

end Rules

/-! ## Checks that only read numbers -/

section Checks

variable [Python] {snapshots events : List Json}

omit [Python] in
/-- A check that collects what is bad of the items of the last snapshot, and reads each of them. -/
theorem status_of_lacking {name text : String} {exit : Exit}
    {f : Json → Except Exit (List Json)} {g : List Json → Verdict} {readable : Json → Prop}
    (lacking : Lacking snapshots name readable) (doubts : ∀ item, Checked.Fails Doubts (f item))
    (reads : ∀ item bad, f item = .ok bad → readable item) {status : OracleStatus}
    (h : statusOf (needed (lastItems snapshots name) text >>= fun items =>
      ensure (items ≠ []) exit >>= fun _ => collect f items >>= fun bad => pure (g bad)) =
        .ok status) : status = .insufficientEvidence := by
  cases found : lastItems snapshots name with
  | none =>
    rw [found] at h
    cases h
    rfl
  | some items =>
    obtain ⟨item, hm, unread⟩ := lacking items found
    rw [found, needed_some, Checked.ok_bind,
      Checked.ensure_of_pos (List.ne_nil_of_mem hm), Checked.ok_bind] at h
    refine status_of_doubts (fails_map.2 ?_) ?_ h
    · exact (fails_collect_iff items).2 (inTurn_of_forall fun item _ => doubts item)
    · rintro ⟨verdict, hv⟩
      obtain ⟨bad, hb, -⟩ := Checked.bind_eq_ok.1 hv
      obtain ⟨_, h⟩ := collect_eq_ok.1 ⟨bad, hb⟩ item hm
      exact unread (reads item _ h)

omit [Python] in
theorem quantities_eq_ok {item : Json} :
    (∃ amounts, quantities item = .ok amounts) ↔ EntitlementReadable item := by
  simp only [quantities, EntitlementReadable, Checked.bind_eq_ok, needed_eq_ok,
    Option.isSome_iff_exists]
  constructor
  · rintro ⟨_, granted, hg, consumed, hc, revoked, hr, -⟩
    exact ⟨⟨granted, hg⟩, ⟨consumed, hc⟩, revoked, hr⟩
  · rintro ⟨⟨granted, hg⟩, ⟨consumed, hc⟩, revoked, hr⟩
    exact ⟨_, granted, hg, consumed, hc, revoked, hr, rfl⟩

omit [Python] in
theorem doubts_quantities {item : Json} : Checked.Fails Doubts (quantities item) := by
  have doubts : ∀ {α : Type} {value : Option α} {text : String},
      Checked.Fails Doubts (needed value text) := fails_needed_of doubts_insufficient
  exact .bind doubts fun _ _ => .bind doubts fun _ _ => .bind doubts fun _ _ => .pure

section Amounts

variable {order : Json} {text text' : String}
  {rest : PyDecimal → PyDecimal → Except Exit (List Json)}

omit [Python] in
theorem doubts_amounts (doubts : ∀ paid refunded, Checked.Fails Doubts (rest paid refunded)) :
    Checked.Fails Doubts (needed (decimal (order.get "paid_amount")) text >>= fun paid =>
      needed (decimal (order.get "refunded_amount")) text' >>= rest paid) :=
  .bind (fails_needed_of doubts_insufficient) fun paid _ =>
    .bind (fails_needed_of doubts_insufficient) fun refunded _ => doubts paid refunded

omit [Python] in
theorem readable_of_amounts {bad : List Json}
    (read : (needed (decimal (order.get "paid_amount")) text >>= fun paid =>
      needed (decimal (order.get "refunded_amount")) text' >>= rest paid) = .ok bad) :
    OrderReadable order := by
  obtain ⟨paid, hp, read⟩ := Checked.bind_eq_ok.1 read
  obtain ⟨refunded, hr, -⟩ := Checked.bind_eq_ok.1 read
  exact ⟨Option.isSome_iff_exists.2 ⟨paid, needed_eq_ok.1 hp⟩,
    Option.isSome_iff_exists.2 ⟨refunded, needed_eq_ok.1 hr⟩⟩

end Amounts

omit [Python] in
theorem fails_checked {x : ℚ} :
    Checked.Fails Concludes (raising (Context.checked x)) ↔ Context.InRange x := by
  constructor
  · intro fine
    by_contra h
    rw [Context.checked, Checked.ensure_of_neg h] at fine
    exact not_concludes_raised (fine _ rfl)
  · intro h
    rw [Context.checked_of_inRange h]
    exact .ok

omit [Python] in
/-- The check of the net payments raises nothing exactly if no difference overflows, as far as the
    amounts can be read. -/
theorem concludes_netPaid : Checked.Fails Concludes (netPaid snapshots) ↔
    ∀ orders, lastItems snapshots "orders" = some orders → InTurn NetFine OrderReadable orders := by
  -- a single order raises exactly if its difference overflows
  have each (order : Json) : Checked.Fails Concludes (needed (decimal (order.get "paid_amount"))
      "订单金额字段无效。" >>= fun paid => needed (decimal (order.get "refunded_amount"))
        "订单金额字段无效。" >>= fun refunded =>
          raising (Context.checked (Context.sub paid.value refunded.value)) >>= fun net =>
            if net < 0 then pure [Json.obj [("order_id", order.get "id"),
              ("paid", .str paid.toText), ("refunded", .str refunded.toText)]] else pure []) ↔
      NetFine order := by
    have last (net : ℚ) (bad : List Json) : Checked.Fails Concludes
        (if net < 0 then (pure bad : Except Exit (List Json)) else pure []) := .ite .pure .pure
    simp only [Checked.fails_bind, fails_needed_of concludes_insufficient, needed_eq_ok, true_and,
      fails_checked, last, implies_true, and_true]
    exact ⟨fun h paid refunded hp hr => h paid hp refunded hr,
      fun h paid hp refunded hr => h paid refunded hp hr⟩
  -- an order that can be read lets the check go on to the next one
  have passes (order : Json) (fine : NetFine order) : (∃ bad, (needed
      (decimal (order.get "paid_amount")) "订单金额字段无效。" >>= fun paid =>
        needed (decimal (order.get "refunded_amount")) "订单金额字段无效。" >>= fun refunded =>
          raising (Context.checked (Context.sub paid.value refunded.value)) >>= fun net =>
            if net < 0 then pure [Json.obj [("order_id", order.get "id"),
              ("paid", .str paid.toText), ("refunded", .str refunded.toText)]] else pure []) =
        .ok bad) ↔ OrderReadable order := by
    refine ⟨fun ⟨_, read⟩ => readable_of_amounts read, fun ⟨hp, hr⟩ => ?_⟩
    obtain ⟨paid, hp⟩ := Option.isSome_iff_exists.1 hp
    obtain ⟨refunded, hr⟩ := Option.isSome_iff_exists.1 hr
    rw [hp, hr, needed_some, needed_some, Checked.ok_bind, Checked.ok_bind,
      Context.checked_of_inRange (fine paid refunded hp hr)]
    dsimp only [raising, Checked.ok_bind]
    split_ifs
    · exact ⟨_, rfl⟩
    · exact ⟨_, rfl⟩
  rw [netPaid, Checked.fails_bind]
  simp only [fails_needed_of concludes_insufficient, needed_eq_ok, true_and]
  refine forall₂_congr fun orders _ => ?_
  rw [Checked.fails_ensure_bind (concludes_notApplicable _), fails_map, fails_collect_iff,
    InTurn.congr each fun order fine => passes order ((each order).1 fine)]
  refine ⟨fun h => ?_, fun h _ => h⟩
  by_cases none : orders = []
  · subst none
    trivial
  · exact h none

omit [Python] in
theorem netPaid_unreadable (lacking : Lacking snapshots "orders" OrderReadable)
    {status : OracleStatus} (h : statusOf (netPaid snapshots) = .ok status) :
    status = .insufficientEvidence :=
  status_of_lacking lacking (fun _ => doubts_amounts fun _ _ =>
    .bind doubts_raising fun _ _ => .ite .pure .pure) (fun _ _ => readable_of_amounts) h

theorem refundLimit_unreadable (lacking : Lacking snapshots "orders" OrderReadable)
    {status : OracleStatus} (h : statusOf (refundLimit snapshots) = .ok status) :
    status = .insufficientEvidence :=
  status_of_lacking lacking (fun _ => doubts_amounts fun _ _ => .ite .pure .pure)
    (fun _ _ => readable_of_amounts) h

theorem couponConsumption_unreadable (lacking : Lacking snapshots "coupons" CouponReadable)
    {status : OracleStatus} (h : statusOf (couponConsumption snapshots events) = .ok status) :
    status = .insufficientEvidence := by
  refine status_of_lacking lacking (fun coupon => ?_) (fun coupon bad read => ?_) h
  · exact .bind (fails_needed_of doubts_insufficient) fun _ _ => .ite .pure .pure
  · obtain ⟨usageCount, hu, -⟩ := Checked.bind_eq_ok.1 read
    exact Option.isSome_iff_exists.2 ⟨usageCount, needed_eq_ok.1 hu⟩

omit [Python] in
theorem entitlementNonNegative_unreadable
    (lacking : Lacking snapshots "entitlements" EntitlementReadable) {status : OracleStatus}
    (h : statusOf (entitlementNonNegative snapshots) = .ok status) :
    status = .insufficientEvidence := by
  refine status_of_lacking lacking (fun item => ?_) (fun item bad read => ?_) h
  · exact .bind doubts_quantities fun _ _ => .ite .pure .pure
  · obtain ⟨amounts, ha, -⟩ := Checked.bind_eq_ok.1 read
    exact quantities_eq_ok.1 ⟨amounts, ha⟩

/-- The check of the histories raises nothing. -/
theorem concludes_terminalMonotonicity :
    Checked.Fails Concludes (terminalMonotonicity snapshots) := by
  have states : Checked.Fails Concludes (orderStates snapshots) := by
    induction snapshots with
    | nil => exact .pure
    | cons snapshot snapshots ih =>
      exact .bind (fails_needed_of concludes_insufficient) fun _ _ => .bind ih fun _ _ => .pure
  exact .bind (.ensure fun _ => concludes_insufficient _) fun _ _ => .bind states fun _ _ =>
    .bind (.ensure fun _ => concludes_notApplicable _) fun _ _ => .pure

/-! ## Memberships -/

/-- What is found bad of one membership. -/
def endedCheck (policy : RefundPolicy) (entitlements events : List Json) (membership : Json) :
    Except Exit (List Json) := do
  if ← raising ((membership.get "status").isIn ["CANCELLED", "REFUNDED"]) then
    let entitlement ← needed (entitlements.reverse.find? fun entitlement =>
      (entitlement.get "membership_id").toStr = (membership.get "id").toStr) "会员缺少关联权益。"
    endedMembership policy events membership entitlement
  else return []

omit [Python] in
theorem isIn_eq {value : Json} (h : Hashable value) (a b : String) :
    raising (value.isIn [a, b]) = .ok (decide (value = .str a ∨ value = .str b)) := by
  cases value with
  | str s => simp [Json.isIn, raising, pure, Except.pure]
  | arr _ => exact h.elim
  | obj _ => exact h.elim
  | _ => simp [Json.isIn, raising, pure, Except.pure]

section Ended

variable {policy : RefundPolicy} {entitlements : List Json} {membership : Json}

theorem doubts_endedCheck :
    Checked.Fails Doubts (endedCheck policy entitlements events membership) := by
  refine .bind doubts_raising fun _ _ => .ite ?_ .pure
  exact .bind (fails_needed_of doubts_insufficient) fun _ _ =>
    .bind doubts_quantities fun _ _ => .pure

theorem concludes_endedCheck :
    Checked.Fails Concludes (endedCheck policy entitlements events membership) ↔
      Hashable (membership.get "status") := by
  rw [endedCheck, Checked.fails_bind, fails_isIn]
  refine and_iff_left fun _ _ => .ite ?_ .pure
  exact .bind (fails_needed_of concludes_insufficient) fun _ _ =>
    .bind (.bind (fails_needed_of concludes_insufficient) fun _ _ =>
      .bind (fails_needed_of concludes_insufficient) fun _ _ =>
        .bind (fails_needed_of concludes_insufficient) fun _ _ => .pure) fun _ _ => .pure

theorem endedCheck_eq_ok (h : Hashable (membership.get "status")) :
    (∃ bad, endedCheck policy entitlements events membership = .ok bad) ↔
      MembershipReadable entitlements membership := by
  rw [endedCheck, isIn_eq h, Checked.ok_bind, MembershipReadable]
  by_cases ended : membership.get "status" = .str "CANCELLED" ∨
      membership.get "status" = .str "REFUNDED"
  · rw [if_pos (decide_eq_true ended), forall_prop_of_true ended]
    simp only [Checked.bind_eq_ok, needed_eq_ok, ← quantities_eq_ok, endedMembership]
    constructor
    · rintro ⟨_, entitlement, found, amounts, ha, -⟩
      exact ⟨entitlement, found, amounts, ha⟩
    · rintro ⟨entitlement, found, amounts, ha⟩
      exact ⟨_, entitlement, found, amounts, ha, rfl⟩
  · rw [if_neg (by simpa using ended)]
    exact ⟨fun _ h => absurd h ended, fun _ => ⟨[], rfl⟩⟩

end Ended

theorem entitlementRefund_eq {spec : RuleSpec} {policy : RefundPolicy}
    (h : spec.refundPolicy = some policy) :
    entitlementRefund spec snapshots events = (do
      let memberships ← needed (lastItems snapshots "memberships") "会员或权益证据缺失。"
      let entitlements ← needed (lastItems snapshots "entitlements") "会员或权益证据缺失。"
      ensure (memberships ≠ []) (notApplicable "没有会员。")
      let bad ← collect (endedCheck policy entitlements events) memberships
      return conclude bad "退款与权益有效性不一致。" "会员终止后权益状态与规则一致。"
        [("memberships", .arr bad)] [] []) := by
  rw [entitlementRefund, h]
  rfl

theorem concludes_entitlementRefund {spec : RuleSpec} :
    Checked.Fails Concludes (entitlementRefund spec snapshots events) ↔
      ∀ memberships entitlements, spec.refundPolicy ≠ none →
        lastItems snapshots "memberships" = some memberships →
          lastItems snapshots "entitlements" = some entitlements →
            InTurn (fun membership => Hashable (membership.get "status"))
              (MembershipReadable entitlements) memberships := by
  cases h : spec.refundPolicy with
  | none =>
    rw [entitlementRefund, h]
    exact ⟨fun _ _ _ some => absurd rfl some, fun _ => .throw (concludes_notApplicable _)⟩
  | some policy =>
    -- only a status that cannot be looked up in a set raises
    have each : ∀ entitlements memberships,
        Checked.Fails Concludes (collect (endedCheck policy entitlements events) memberships) ↔
          InTurn (fun membership => Hashable (membership.get "status"))
            (MembershipReadable entitlements) memberships := by
      intro entitlements memberships
      rw [fails_collect_iff]
      exact InTurn.congr (fun _ => concludes_endedCheck)
        (fun _ fine => endedCheck_eq_ok (concludes_endedCheck.1 fine)) memberships
    rw [entitlementRefund_eq h]
    simp only [Checked.fails_bind (P := Concludes), fails_needed_of concludes_insufficient,
      needed_eq_ok, true_and, Checked.fails_ensure, concludes_notApplicable, implies_true,
      Checked.ensure_eq_ok, each, Checked.fails_pure, and_true]
    constructor
    · intro all memberships entitlements _ hm he
      -- without memberships the check does not apply
      by_cases none : memberships = []
      · rw [none]
        trivial
      · exact all memberships hm entitlements he () none
    · exact fun all memberships hm entitlements he _ _ =>
        all memberships entitlements (Option.some_ne_none policy) hm he

theorem entitlementRefund_unreadable {spec : RuleSpec}
    (unread : Unreadable spec snapshots .entitlementRefundConsistency)
    (fine : Checked.Fails Concludes (entitlementRefund spec snapshots events))
    {status : OracleStatus} (h : statusOf (entitlementRefund spec snapshots events) = .ok status) :
    status = .insufficientEvidence := by
  have turn := concludes_entitlementRefund.1 fine
  obtain ⟨hasPolicy, lacking⟩ := unread
  obtain ⟨policy, hp⟩ := Option.ne_none_iff_exists'.1 hasPolicy
  rw [entitlementRefund_eq hp] at h
  cases hm : lastItems snapshots "memberships" with
  | none =>
    rw [hm] at h
    cases h
    rfl
  | some memberships =>
    cases he : lastItems snapshots "entitlements" with
    | none =>
      rw [hm, he] at h
      cases h
      rfl
    | some entitlements =>
      obtain ⟨membership, mem, unread⟩ := lacking entitlements he memberships hm
      rw [hm, he, needed_some, needed_some, Checked.ok_bind, Checked.ok_bind,
        Checked.ensure_of_pos (List.ne_nil_of_mem mem), Checked.ok_bind] at h
      refine status_of_doubts (fails_map.2 ?_) ?_ h
      · exact (fails_collect_iff memberships).2 (inTurn_of_forall fun _ _ => doubts_endedCheck)
      -- a verdict would have read the membership that cannot be read
      · rintro ⟨verdict, hv⟩
        obtain ⟨bad, hb, -⟩ := Checked.bind_eq_ok.1 hv
        obtain ⟨found, hf⟩ := collect_eq_ok.1 ⟨bad, hb⟩ membership mem
        obtain ⟨value, looked, -⟩ := Checked.bind_eq_ok.1 hf
        have hashable : Hashable (membership.get "status") :=
          fails_isIn.1 (by rw [looked]; exact .ok)
        exact unread ((endedCheck_eq_ok hashable).1 ⟨found, hf⟩)

/-! ## Receipts -/

omit [Python] in
theorem concludes_successful (receipts : List Json) :
    Checked.Fails Concludes (successful receipts) ↔
      ∀ receipt ∈ receipts, Hashable (receipt.get "status") := by
  induction receipts with
  | nil => exact iff_of_true .pure fun _ hm => absurd hm List.not_mem_nil
  | cons receipt receipts ih =>
    rw [successful, Checked.fails_bind, fails_isIn, List.forall_mem_cons, ← ih]
    refine and_congr_right fun hashable => ?_
    rw [isIn_eq hashable]
    simp only [Except.ok.injEq, forall_eq', fails_map]

omit [Python] in
theorem successful_eq_ok {receipts : List Json}
    (h : ∀ receipt ∈ receipts, Hashable (receipt.get "status")) :
    ∃ found, successful receipts = .ok found := by
  induction receipts with
  | nil => exact ⟨[], rfl⟩
  | cons receipt receipts ih =>
    rw [List.forall_mem_cons] at h
    obtain ⟨rest, hr⟩ := ih h.2
    exact ⟨_, by rw [successful, isIn_eq h.1, Checked.ok_bind, hr]; rfl⟩

omit [Python] in
/-- The receipts of one request can be looked through if each of their statuses can be looked up. -/
theorem concludes_group {values bad : List Json} {test : List Json → Prop} [DecidablePred test] :
    Checked.Fails Concludes (successful values >>= fun succeeded =>
        if test succeeded then pure bad else pure []) ↔
      ∀ receipt ∈ values, Hashable (receipt.get "status") := by
  rw [Checked.fails_bind, concludes_successful]
  exact and_iff_left fun _ _ => .ite .pure .pure

omit [Python] in
theorem group_eq_ok {values bad : List Json} {test : List Json → Prop} [DecidablePred test]
    (h : ∀ receipt ∈ values, Hashable (receipt.get "status")) :
    ∃ found, (successful values >>= fun succeeded =>
      if test succeeded then (pure bad : Except Exit (List Json)) else pure []) = .ok found := by
  obtain ⟨found, hf⟩ := successful_eq_ok h
  rw [hf, Checked.ok_bind]
  split_ifs
  · exact ⟨bad, rfl⟩
  · exact ⟨[], rfl⟩

theorem concludes_idempotency {receipts : List Json} :
    Checked.Fails Concludes (idempotency receipts events) ↔
      ∀ receipt ∈ receipts, (receipt.get "idempotency_key").truthy →
        Hashable (receipt.get "status") := by
  rw [idempotency]
  dsimp only
  rw [Checked.fails_ensure_bind (concludes_insufficient _), fails_map, fails_collect_iff]
  constructor
  · intro h receipt hm key
    have keyed : receipt ∈ receipts.filter fun receipt => (receipt.get "idempotency_key").truthy :=
      List.mem_filter.2 ⟨hm, key⟩
    have own : receiptKey receipt ∈ distinct ((receipts.filter fun receipt =>
        (receipt.get "idempotency_key").truthy).map receiptKey) := by
      simpa [distinct] using ⟨receipt, ⟨hm, key⟩, rfl⟩
    have groups := (inTurn_iff_forall (fun _ fine => group_eq_ok (concludes_group.1 fine)) _).1
      (h (List.ne_nil_of_mem keyed))
    exact concludes_group.1 (groups _ own) receipt (List.mem_filter.2 ⟨keyed, by simp⟩)
  · intro h _
    refine inTurn_of_forall fun _ _ => concludes_group.2 fun receipt hm => ?_
    obtain ⟨hm, key⟩ := List.mem_filter.1 (List.mem_filter.1 hm).1
    exact h receipt hm key

/-! ## Points -/

omit [Python] in
theorem pointsEntry_moves [Python] {event : Json} (h : MovesPoints event) :
    pointsEntry event =
      match (movedPoints event).toInt with
      | .ok amount => .ok [(decide (event.get "event_type" = .str "POINTS_GRANTED"),
          (getOr (getOr event "payload" (.obj [])) "order_id" (.str "")).toStr, amount)]
      | .error .overflowError => .error (.raised .overflowError)
      | .error _ => .error (insufficient "积分事件金额无效。") := by
  have hashable : Hashable (event.get "event_type") := by
    obtain type | type := h.1 <;> rw [type] <;> trivial
  rw [pointsEntry]
  dsimp only
  rw [isIn_eq hashable, Checked.ok_bind, if_pos (decide_eq_true h.1), if_pos h.2]
  rfl

theorem pointsEntry_stays {event : Json} (hashable : Hashable (event.get "event_type"))
    (h : ¬ MovesPoints event) : pointsEntry event = .ok [] := by
  rw [pointsEntry]
  dsimp only
  rw [isIn_eq hashable, Checked.ok_bind]
  by_cases type : event.get "event_type" = .str "POINTS_GRANTED" ∨
      event.get "event_type" = .str "POINTS_REVOKED"
  · rw [if_pos (decide_eq_true type), if_neg fun object => h ⟨type, object⟩]
    rfl
  · rw [if_neg (by simpa using type)]
    rfl

theorem concludes_pointsEntry {event : Json} :
    Checked.Fails Concludes (pointsEntry event) ↔ EventFine event := by
  by_cases hashable : Hashable (event.get "event_type")
  · by_cases moves : MovesPoints event
    · rw [pointsEntry_moves moves, EventFine, forall_prop_of_true moves, and_iff_right hashable]
      cases (movedPoints event).toInt with
      | ok amount => exact iff_of_true .ok nofun
      | error exception =>
        cases exception with
        | overflowError => exact iff_of_false (fun h => not_concludes_raised (h _ rfl)) (· rfl)
        | _ => exact iff_of_true (.throw (concludes_insufficient _)) nofun
    · rw [pointsEntry_stays hashable moves]
      exact iff_of_true .ok ⟨hashable, fun h => absurd h moves⟩
  · refine iff_of_false (fun h => hashable ?_) fun h => hashable h.1
    rw [pointsEntry] at h
    exact fails_isIn.1 (Checked.fails_bind.1 h).1

theorem pointsEntry_eq_ok {event : Json} (fine : EventFine event) :
    (∃ entries, pointsEntry event = .ok entries) ↔ EventReadable event := by
  by_cases moves : MovesPoints event
  · rw [pointsEntry_moves moves, EventReadable, forall_prop_of_true moves]
    cases (movedPoints event).toInt with
    | ok amount => exact iff_of_true ⟨_, rfl⟩ ⟨_, rfl⟩
    | error exception =>
      cases exception <;> exact iff_of_false (by rintro ⟨_, ⟨⟩⟩) (by rintro ⟨_, ⟨⟩⟩)
  · rw [pointsEntry_stays fine.1 moves]
    exact iff_of_true ⟨_, rfl⟩ fun h => absurd h moves

theorem doubts_pointsEntry {event : Json} : Checked.Fails Doubts (pointsEntry event) := by
  refine .bind doubts_raising fun _ _ => .ite ?_ .pure
  dsimp only
  split_ifs
  · split
    · exact .pure
    · exact .throw (doubts_raised _)
    · exact .throw (doubts_insufficient _)
  · split
    · exact .pure
    · exact .throw (doubts_raised _)
    · exact .throw (doubts_insufficient _)
  · exact .pure

theorem fails_pointsEntries {P : Exit → Prop} (events : List Json) :
    Checked.Fails P (pointsEntries events) ↔
      InTurn (fun event => Checked.Fails P (pointsEntry event))
        (fun event => ∃ entries, pointsEntry event = .ok entries) events :=
  fails_list pointsEntry pointsEntries rfl (fun _ _ => rfl) events

theorem pointsEntries_eq_ok {events : List Json} :
    (∃ entries, pointsEntries events = .ok entries) ↔
      ∀ event ∈ events, ∃ entries, pointsEntry event = .ok entries :=
  list_eq_ok pointsEntry pointsEntries rfl fun _ _ => rfl

section Points

variable {rule : PointsRule} {entries : List (Bool × String × Int)} {anyEvents : Bool}

omit [Python] in
theorem expectedGrant_of_fits {paid : PyDecimal}
    (fits : |truncate (paid.value / rule.spendAmount)| < 10 ^ 28) :
    expectedGrant rule paid =
      .ok (truncate (paid.value / rule.spendAmount) * rule.pointsGranted) := by
  rw [expectedGrant, floorDiv, Checked.ensure_of_pos fits]
  rfl

omit [Python] in
theorem expectedGrant_of_not_fits {paid : PyDecimal}
    (large : ¬ |truncate (paid.value / rule.spendAmount)| < 10 ^ 28) :
    expectedGrant rule paid = .error (.raised .invalidOperation) := by
  rw [expectedGrant, floorDiv, Checked.ensure_of_neg large]
  rfl

theorem doubts_pointsOrders (known : Bool) (orders : List Json) :
    Checked.Fails Doubts (pointsOrders rule entries anyEvents known orders) := by
  induction orders generalizing known with
  | nil => exact .pure
  | cons order orders ih =>
    have grant : ∀ paid, Checked.Fails Doubts (expectedGrant rule paid) := fun paid =>
      .bind (.bind (.ensure fun _ => doubts_raised _) fun _ _ => .pure) fun _ _ => .pure
    exact .bind (fails_needed_of doubts_insufficient) fun paid _ => .bind (grant paid) fun _ _ =>
      .bind doubts_raising fun _ _ => .bind (fails_needed_of doubts_insufficient) fun _ _ =>
        .bind (ih _) fun _ _ => .pure

theorem concludes_pointsOrders (known : Bool) (orders : List Json) :
    Checked.Fails Concludes (pointsOrders rule entries anyEvents known orders) ↔
      InTurn (OrderFine rule) OrderReadable orders := by
  induction orders generalizing known with
  | nil => exact Checked.fails_pure
  | cons order orders ih =>
    rw [pointsOrders, InTurn, OrderFine, OrderReadable]
    cases hp : decimal (order.get "paid_amount") with
    | none =>
      refine iff_of_true (.throw (concludes_insufficient _)) ⟨?_, ?_⟩
      · rintro _ ⟨⟩
      · rintro ⟨⟨⟩, -⟩
    | some paid =>
      simp only [needed_some, Checked.ok_bind, Option.some.injEq, forall_eq']
      -- the points of the amount are computed first, and may not fit the context
      by_cases fits : |truncate (paid.value / rule.spendAmount)| < 10 ^ 28
      · rw [expectedGrant_of_fits fits, Checked.ok_bind, and_iff_right fits]
        cases hg : (getOr order "points_granted" (.int 0)).toInt with
        -- points without an integer raise
        | error exception =>
          exact iff_of_false (fun h => not_concludes_raised (h _ rfl)) (by rintro ⟨⟨_, ⟨⟩⟩, -⟩)
        | ok granted =>
          cases hr : decimal (order.get "refunded_amount") with
          | none => exact iff_of_true (.throw (concludes_insufficient _)) ⟨⟨_, rfl⟩, by simp⟩
          | some refunded =>
            simp only [raising, needed_some, Checked.ok_bind, fails_map, ih]
            exact ⟨fun h => ⟨⟨granted, rfl⟩, fun _ => h⟩, fun h => h.2 ⟨rfl, rfl⟩⟩
      · rw [expectedGrant_of_not_fits fits]
        exact iff_of_false (fun h => not_concludes_raised (h _ rfl)) fun h => fits h.1.1

theorem pointsOrders_eq_ok (known : Bool) (orders : List Json) :
    (∃ bad, pointsOrders rule entries anyEvents known orders = .ok bad) ↔
      ∀ order ∈ orders, OrderFine rule order ∧ OrderReadable order := by
  induction orders generalizing known with
  | nil => exact ⟨fun _ _ hm => absurd hm List.not_mem_nil, fun _ => ⟨[], rfl⟩⟩
  | cons order orders ih =>
    rw [List.forall_mem_cons, pointsOrders, OrderFine, OrderReadable]
    cases hp : decimal (order.get "paid_amount") with
    | none => exact iff_of_false (by rintro ⟨_, ⟨⟩⟩) (by simp)
    | some paid =>
      simp only [needed_some, Checked.ok_bind, Option.some.injEq, forall_eq']
      by_cases fits : |truncate (paid.value / rule.spendAmount)| < 10 ^ 28
      · rw [expectedGrant_of_fits fits, Checked.ok_bind, and_iff_right fits]
        cases hg : (getOr order "points_granted" (.int 0)).toInt with
        -- points without an integer raise
        | error exception => exact iff_of_false (by rintro ⟨_, ⟨⟩⟩) (by simp)
        | ok granted =>
          cases hr : decimal (order.get "refunded_amount") with
          | none => exact iff_of_false (by rintro ⟨_, ⟨⟩⟩) (by simp)
          | some refunded =>
            simp only [raising, needed_some, Checked.ok_bind, Checked.bind_eq_ok,
              Checked.pure_eq_ok]
            rw [← ih]
            constructor
            · rintro ⟨_, rest, hr, -⟩
              exact ⟨⟨⟨granted, rfl⟩, rfl, rfl⟩, rest, hr⟩
            · rintro ⟨-, rest, hr⟩
              exact ⟨_, rest, hr, rfl⟩
      · rw [expectedGrant_of_not_fits fits]
        exact iff_of_false (by rintro ⟨_, ⟨⟩⟩) fun h => fits h.1.1.1

omit [Python] in
theorem negativeBalance_eq_ok {user : Json} :
    (∃ bad, negativeBalance user = .ok bad) ↔ UserReadable user := by
  rw [negativeBalance, UserReadable]
  cases integer (getOr user "points_balance" (.int 0)) with
  | none => exact iff_of_false (by rintro ⟨_, ⟨⟩⟩) (by simp)
  | some balance =>
    refine iff_of_true ?_ rfl
    rw [needed_some, Checked.ok_bind]
    split_ifs
    · exact ⟨_, rfl⟩
    · exact ⟨_, rfl⟩

omit [Python] in
theorem doubts_negativeBalance {user : Json} : Checked.Fails Doubts (negativeBalance user) :=
  .bind (fails_needed_of doubts_insufficient) fun _ _ => .ite .pure .pure

omit [Python] in
theorem concludes_negativeBalance {user : Json} : Checked.Fails Concludes (negativeBalance user) :=
  .bind (fails_needed_of concludes_insufficient) fun _ _ => .ite .pure .pure

/-- The check of the points of orders and users that are there. -/
def pointsCheck (rule : PointsRule) (orders users events : List Json) : Except Exit Verdict := do
  let entries ← pointsEntries events
  let badOrders ← pointsOrders rule entries (decide (events ≠ []))
    (entries.any fun entry => entry.1) orders
  let badUsers ← collect negativeBalance users
  let bad := badOrders ++ badUsers
  return conclude bad "积分价值流与冻结规则不一致。" "积分价值流守恒。" [("mismatches", .arr bad)] [] events

variable {spec : RuleSpec} {orders users : List Json}

theorem pointsConservation_eq (h : spec.pointsRule = some rule) :
    pointsConservation spec snapshots events = (do
      let orders ← needed (lastItems snapshots "orders") "积分判定所需状态缺失。"
      let users ← needed (lastItems snapshots "users") "积分判定所需状态缺失。"
      pointsCheck rule orders users events) := by
  rw [pointsConservation, h]
  rfl

theorem concludes_pointsCheck :
    Checked.Fails Concludes (pointsCheck rule orders users events) ↔
      InTurn EventFine EventReadable events ∧
        ((∀ event ∈ events, EventReadable event) →
          InTurn (OrderFine rule) OrderReadable orders) := by
  have turn : Checked.Fails Concludes (pointsEntries events) ↔
      InTurn EventFine EventReadable events :=
    (fails_pointsEntries events).trans (InTurn.congr (fun _ => concludes_pointsEntry)
      (fun _ fine => pointsEntry_eq_ok (concludes_pointsEntry.1 fine)) events)
  have balances : Checked.Fails Concludes (collect negativeBalance users) :=
    (fails_collect_iff users).2 (inTurn_of_forall fun _ _ => concludes_negativeBalance)
  rw [pointsCheck, Checked.fails_bind, turn]
  refine and_congr_right fun fine => ?_
  -- The entries are there exactly if all events can be read.
  have read : (∃ entries, pointsEntries events = .ok entries) ↔
      ∀ event ∈ events, EventReadable event := by
    rw [pointsEntries_eq_ok]
    constructor
    · intro all event hm
      obtain ⟨entries, he⟩ := all event hm
      exact (pointsEntry_eq_ok (concludes_pointsEntry.1 (by rw [he]; exact .ok))).1 ⟨entries, he⟩
    · exact fun all event hm => (pointsEntry_eq_ok (fine.forall all event hm)).2 (all event hm)
  rw [← read, forall_exists_index]
  refine forall₂_congr fun entries _ => ?_
  rw [Checked.fails_bind, concludes_pointsOrders]
  exact and_iff_left fun _ _ => fails_map.2 balances

theorem doubts_pointsCheck : Checked.Fails Doubts (pointsCheck rule orders users events) :=
  .bind ((fails_pointsEntries events).2 (inTurn_of_forall fun _ _ => doubts_pointsEntry))
    fun _ _ => .bind (doubts_pointsOrders _ _) fun _ _ =>
      fails_map.2 ((fails_collect_iff users).2 (inTurn_of_forall fun _ _ => doubts_negativeBalance))

/-- The check comes to its last line exactly if it can read everything. -/
theorem pointsCheck_eq_ok :
    (∃ verdict, pointsCheck rule orders users events = .ok verdict) ↔
      (∀ event ∈ events, ∃ entries, pointsEntry event = .ok entries) ∧
        (∀ order ∈ orders, OrderFine rule order ∧ OrderReadable order) ∧
          ∀ user ∈ users, UserReadable user := by
  simp only [← negativeBalance_eq_ok, ← collect_eq_ok]
  rw [← pointsEntries_eq_ok]
  constructor
  · rintro ⟨_, h⟩
    obtain ⟨entries, he, h⟩ := Checked.bind_eq_ok.1 h
    obtain ⟨bad, ho, h⟩ := Checked.bind_eq_ok.1 h
    obtain ⟨more, hu, -⟩ := Checked.bind_eq_ok.1 h
    exact ⟨⟨entries, he⟩, (pointsOrders_eq_ok _ _).1 ⟨bad, ho⟩, more, hu⟩
  · rintro ⟨⟨entries, he⟩, all, more, hu⟩
    obtain ⟨bad, ho⟩ : ∃ bad, pointsOrders rule entries (decide (events ≠ []))
        (entries.any fun entry => entry.1) orders = .ok bad := (pointsOrders_eq_ok _ _).2 all
    exact ⟨_, by rw [pointsCheck, he, Checked.ok_bind, ho, Checked.ok_bind, hu]; rfl⟩

/-- Where the check raises nothing, it calls the evidence insufficient exactly if there is
    something that it cannot read. -/
theorem pointsCheck_status (fine : Checked.Fails Concludes (pointsCheck rule orders users events))
    {status : OracleStatus} (h : statusOf (pointsCheck rule orders users events) = .ok status) :
    status ≠ .insufficientEvidence ↔ (∀ event ∈ events, EventReadable event) ∧
      (∀ order ∈ orders, OrderReadable order) ∧ ∀ user ∈ users, UserReadable user := by
  obtain ⟨turn, next⟩ := concludes_pointsCheck.1 fine
  -- there is a verdict exactly if everything can be read
  have all : (∃ verdict, pointsCheck rule orders users events = .ok verdict) ↔
      (∀ event ∈ events, EventReadable event) ∧ (∀ order ∈ orders, OrderReadable order) ∧
        ∀ user ∈ users, UserReadable user := by
    rw [pointsCheck_eq_ok]
    constructor
    · rintro ⟨entries, rest, balances⟩
      refine ⟨fun event hm => ?_, fun order hm => (rest order hm).2, balances⟩
      obtain ⟨found, he⟩ := entries event hm
      exact (pointsEntry_eq_ok (concludes_pointsEntry.1 (by rw [he]; exact .ok))).1 ⟨found, he⟩
    · rintro ⟨readable, rest, balances⟩
      exact ⟨fun event hm => (pointsEntry_eq_ok (turn.forall readable event hm)).2
        (readable event hm), fun order hm => ⟨(next readable).forall rest order hm, rest order hm⟩,
        balances⟩
  rw [← all]
  constructor
  · intro known
    by_contra none
    exact known (status_of_doubts doubts_pointsCheck none h)
  · rintro ⟨verdict, hv⟩ rfl
    obtain ⟨_, -, hv'⟩ := Checked.bind_eq_ok.1 hv
    obtain ⟨_, -, hv'⟩ := Checked.bind_eq_ok.1 hv'
    obtain ⟨_, -, hv'⟩ := Checked.bind_eq_ok.1 hv'
    obtain rfl := Checked.pure_eq_ok.1 hv'
    rw [hv] at h
    have known := Except.ok.inj h
    rw [conclude_status] at known
    split_ifs at known

theorem concludes_pointsConservation :
    Checked.Fails Concludes (pointsConservation spec snapshots events) ↔
      ∀ rule orders users, spec.pointsRule = some rule →
        lastItems snapshots "orders" = some orders → lastItems snapshots "users" = some users →
          Checked.Fails Concludes (pointsCheck rule orders users events) := by
  cases h : spec.pointsRule with
  | none =>
    rw [pointsConservation, h]
    refine iff_of_true (.throw (concludes_notApplicable _)) ?_
    rintro _ _ _ ⟨⟩
  | some rule =>
    rw [pointsConservation_eq h]
    simp only [Checked.fails_bind (P := Concludes), fails_needed_of concludes_insufficient,
      needed_eq_ok, true_and, Option.some.injEq]
    constructor
    · rintro all _ orders users rfl ho hu
      exact all orders ho users hu
    · exact fun all orders ho users hu => all rule orders users rfl ho hu

/-- The check finds the evidence insufficient for whatever is unreadable exactly if, where it can
    read all the rest, the points of every order are an integer. -/
theorem pointsConservation_unreadable
    (fine : Checked.Fails Concludes (pointsConservation spec snapshots events))
    {status : OracleStatus} (h : statusOf (pointsConservation spec snapshots events) = .ok status) :
    (Unreadable spec snapshots .pointsValueConservation → status = .insufficientEvidence) ↔
      ∀ rule orders users, spec.pointsRule = some rule →
        lastItems snapshots "orders" = some orders → lastItems snapshots "users" = some users →
          (∀ event ∈ events, EventReadable event) → (∀ order ∈ orders, OrderReadable order) →
            (∀ user ∈ users, UserReadable user) → ∀ order ∈ orders, PointsReadable order := by
  rw [concludes_pointsConservation] at fine
  rw [Unreadable]
  cases hr : spec.pointsRule with
  | none => exact iff_of_true (fun unread => absurd rfl unread.1) nofun
  | some rule =>
    rw [pointsConservation_eq hr] at h
    cases ho : lastItems snapshots "orders" with
    | none =>
      rw [ho] at h
      cases h
      exact iff_of_true (fun _ => rfl) nofun
    | some orders =>
      cases hu : lastItems snapshots "users" with
      | none =>
        rw [ho, hu] at h
        cases h
        exact iff_of_true (fun _ => rfl) nofun
      | some users =>
        rw [ho, hu, needed_some, needed_some, Checked.ok_bind, Checked.ok_bind] at h
        have known := pointsCheck_status (fine rule orders users hr ho hu) h
        simp only [Lacking, ho, hu, Option.some.injEq, forall_eq']
        constructor
        -- all else can be read, so that the check has a verdict
        · rintro sound _ _ _ rfl rfl rfl readable rest balances order hm
          by_contra unread
          refine known.2 ⟨readable, rest, balances⟩ (sound ⟨Option.some_ne_none rule, .inl ?_⟩)
          exact ⟨order, hm, fun both => unread both.2⟩
        -- a verdict reads everything but the points of the orders
        · rintro strict ⟨-, unread⟩
          by_contra other
          obtain ⟨readable, rest, balances⟩ := known.1 other
          obtain ⟨order, hm, bad⟩ | ⟨user, hm, bad⟩ := unread
          · exact bad ⟨rest order hm,
              strict rule orders users rfl rfl rfl readable rest balances order hm⟩
          · exact bad (balances user hm)

end Points

/-! ## The report -/

theorem settle_eq_ok {id : InvariantId} {result : Except Exit Verdict} {found : OracleFinding}
    (h : settle id snapshots result = .ok found) :
    found.invariantId = id ∧ statusOf result = .ok found.status := by
  match result, h with
  | .ok verdict, h =>
    cases h
    exact ⟨rfl, rfl⟩
  | .error (.verdict verdict), h =>
    cases h
    exact ⟨rfl, rfl⟩

theorem settle_of_status (id : InvariantId) (snapshots : List Json) {result : Except Exit Verdict}
    {status : OracleStatus} (h : statusOf result = .ok status) :
    ∃ found, settle id snapshots result = .ok found := by
  match result, h with
  | .ok verdict, _ => exact ⟨_, rfl⟩
  | .error (.verdict verdict), _ => exact ⟨_, rfl⟩

theorem report_ids {checks : List (InvariantId × Except Exit Verdict)}
    {findings : List OracleFinding}
    (h : checks.mapM (fun check => settle check.1 snapshots check.2) = .ok findings) :
    findings.map OracleFinding.invariantId = checks.map Prod.fst := by
  induction checks generalizing findings with
  | nil =>
    cases h
    rfl
  | cons check checks ih =>
    rw [List.mapM_cons] at h
    obtain ⟨found, hf, h⟩ := Checked.bind_eq_ok.1 h
    obtain ⟨rest, hr, h⟩ := Checked.bind_eq_ok.1 h
    obtain rfl := Checked.pure_eq_ok.1 h
    exact congrArg₂ _ (settle_eq_ok hf).1 (ih hr)

/-- What a report of some checks is asked for, check by check. -/
theorem report_iff {unread : InvariantId → Prop}
    {checks : List (InvariantId × Except Exit Verdict)} :
    (∃ findings, checks.mapM (fun check => settle check.1 snapshots check.2) = .ok findings ∧
      ∀ finding ∈ findings, unread finding.invariantId → finding.status = .insufficientEvidence) ↔
    ∀ check ∈ checks, ∃ status, statusOf check.2 = .ok status ∧
      (unread check.1 → status = .insufficientEvidence) := by
  induction checks with
  | nil => exact iff_of_true ⟨[], rfl, by simp⟩ (by simp)
  | cons check checks ih =>
    rw [List.forall_mem_cons, ← ih, List.mapM_cons]
    constructor
    · rintro ⟨_, h, sound⟩
      obtain ⟨found, hf, h⟩ := Checked.bind_eq_ok.1 h
      obtain ⟨rest, hr, h⟩ := Checked.bind_eq_ok.1 h
      obtain rfl := Checked.pure_eq_ok.1 h
      rw [List.forall_mem_cons] at sound
      obtain ⟨id, status⟩ := settle_eq_ok hf
      exact ⟨⟨found.status, status, id ▸ sound.1⟩, rest, hr, sound.2⟩
    · rintro ⟨⟨status, hs, sound⟩, rest, hr, others⟩
      obtain ⟨found, hf⟩ := settle_of_status check.1 snapshots hs
      obtain ⟨id, known⟩ := settle_eq_ok hf
      obtain rfl := Except.ok.inj (hs.symm.trans known)
      refine ⟨found :: rest, by rw [hf, hr]; rfl, ?_⟩
      exact List.forall_mem_cons.2 ⟨id.symm ▸ sound, others⟩

omit [Python] in
theorem settled {result : Except Exit Verdict} {unread : Prop}
    (fine : Checked.Fails Concludes result)
    (doubted : ∀ status, statusOf result = .ok status → unread → status = .insufficientEvidence) :
    ∃ status, statusOf result = .ok status ∧ (unread → status = .insufficientEvidence) := by
  obtain ⟨status, h⟩ := concludes_iff.1 fine
  exact ⟨status, h, doubted status h⟩

variable {spec : RuleSpec} {receipts : List Json}

theorem Digestible.checks (digestible : Digestible spec snapshots receipts events) :
    ∀ check ∈ Oracle.checks spec snapshots receipts events, ∃ status,
      statusOf check.2 = .ok status ∧
        (Unreadable spec snapshots check.1 → status = .insufficientEvidence) := by
  have points : Checked.Fails Concludes (pointsConservation spec snapshots events) :=
    concludes_pointsConservation.2 fun rule orders users hr ho hu =>
      have turn := digestible.points rule orders users hr ho hu
      concludes_pointsCheck.2 ⟨turn.event, turn.order⟩
  have refund : Checked.Fails Concludes (entitlementRefund spec snapshots events) :=
    concludes_entitlementRefund.2 digestible.memberships
  simp only [Oracle.checks, List.forall_mem_cons]
  refine ⟨settled (concludes_netPaid.2 digestible.amounts) fun _ h unread =>
      netPaid_unreadable unread h,
    settled (concludes_of_quiet quiet_refundLimit) fun _ h unread =>
      refundLimit_unreadable unread h,
    settled (concludes_of_quiet quiet_couponConsumption) fun _ h unread =>
      couponConsumption_unreadable unread h,
    settled points fun _ h => (pointsConservation_unreadable points h).2
      fun rule orders users hr ho hu => (digestible.points rule orders users hr ho hu).granted,
    settled concludes_terminalMonotonicity fun _ _ => False.elim,
    settled (concludes_of_quiet quiet_entitlementNonNegative) fun _ h unread =>
      entitlementNonNegative_unreadable unread h,
    settled refund fun _ h unread => entitlementRefund_unreadable unread refund h,
    settled (concludes_idempotency.2 digestible.receipts) fun _ _ => False.elim, by simp⟩

end Checks

end Oracle

end RuleArena
