import RuleArena.Oracle.Total

/-!
# What a run has lost

The orders that have been refunded too much come out of two findings of the oracle's
report, and how much they have lost out of the snapshot. One finding names the orders
that have more refunded than paid (`Oracle.flagged_refundLimit`), the other those of
them whose difference is not rounded away (`Oracle.flagged_netPaid`).

The amount is the sum of what the orders are over, as a context computes it
(`loss_eq`): each difference and each sum is rounded to 28 digits, and one that is
too large overflows. So it is the exact sum where none of them needs more digits.
-/

namespace RuleArena

/-! ## Rounding -/

namespace Context

/-- A number that is not negative up to the precision of a sum is exact, and in range. -/
theorem exact_of_small {e : ℤ} (least : etiny ≤ e) (most : e + 28 ≤ 10 ^ 6) {x : ℚ}
    (precise : ∃ n : ℤ, x = n * 10 ^ e) (nonneg : 0 ≤ x) (small : x < 10 ^ (e + 28)) :
    round x = x ∧ InRange x := by
  obtain ⟨n, rfl⟩ := precise
  have unit : (0 : ℚ) < 10 ^ e := zpow_pos (by norm_num) _
  refine ⟨round_eq least ?_, inRange_of_lt most (by rwa [abs_of_nonneg nonneg])⟩
  have lower : (0 : ℚ) ≤ n := nonneg_of_mul_nonneg_left nonneg unit
  have upper : (n : ℚ) < 10 ^ 28 := by
    refine lt_of_mul_lt_mul_right (small.trans_eq ?_) unit.le
    rw [zpow_add₀ (by norm_num), mul_comm]
    norm_num
  rw [abs_lt]
  have lower : 0 ≤ n := by exact_mod_cast lower
  have upper : n < 10 ^ 28 := by exact_mod_cast upper
  omega

/-- A difference that is negative once it is rounded was negative before. -/
theorem lt_of_sub_neg {x y : ℚ} (h : sub x y < 0) : x < y := by
  by_contra le
  exact absurd (round_nonneg (sub_nonneg.2 (not_lt.1 le))) h.not_ge

end Context

/-! ## Reading the report -/

section Reading

variable [Python]

/-- `_decimal`: what `str` gives for the value is read, and what is no numeral counts for zero. -/
def lossDecimal : Json → PyDecimal
  | .int i => if numDigits i.natAbs ≤ 4300 then .ofInt i else .ofInt 0
  | value => (PyDecimal.parse value.toStr).getD (.ofInt 0)

omit [Python] in
/-- A number to compute with: an order that a report of the same snapshot flags has no other. -/
def finiteValue (number : PyDecimal) : Except PyException ℚ :=
  if number.isFinite then .ok number.value else .error .invalidOperation

omit [Python] in
/-- The orders of a snapshot that have a text for an identifier, the last one first. -/
def ordersNamed (snapshot : Json) : Except PyException (List (String × Json)) :=
  let orders := match snapshot.get "state" with
    | .obj members => (Json.obj members).get? "orders"
    | _ => none
  match orders with
  | none | some (.str _) | some (.obj _) => .ok []
  | some (.arr orders) => .ok (orders.filterMap fun order =>
      match order.get "id" with
      | .str id => if order.isObj then some (id, order) else none
      | _ => none).reverse
  | some _ => .error .typeError

omit [Python] in
/-- A list in the evidence of a finding. -/
def evidenceList (finding : OracleFinding) (name : String) : List Json :=
  match finding.evidence.lookup name with
  | some (.arr values) => values
  | _ => []

/-- The orders that a finding flags if it is a violation: those of either shape. -/
def flagged (finding : OracleFinding) : List String :=
  if finding.status = .violated then
    (evidenceList finding "order_ids").map Json.toStr ++
      ((evidenceList finding "orders").filter fun item =>
        item.isObj ∧ item.get "order_id" ≠ .null).map fun item => (item.get "order_id").toStr
  else []

/-- `LOSS_INVARIANTS` -/
def lossInvariants : List InvariantId := [.refundNotExceedPaid, .netPaidNonNegative]

/-- What an order adds to a loss. -/
def addLoss (orders : List (String × Json)) (total : ℚ) (orderId : String) :
    Except PyException ℚ :=
  match orders.lookup orderId with
  | none => .ok total
  | some order => do
    let refunded ← finiteValue (lossDecimal (order.get "refunded_amount"))
    let paid ← finiteValue (lossDecimal (order.get "paid_amount"))
    let excess ← Context.checked (Context.sub refunded paid)
    if 0 < excess then Context.checked (Context.add total excess) else return total

omit [Python] in
/-- `report.finding`: the finding about an invariant. A report without it raises. -/
def findingOf (report : List OracleFinding) (invariantId : InvariantId) :
    Except PyException OracleFinding :=
  match report.find? fun finding => finding.invariantId = invariantId with
  | some finding => .ok finding
  | none => .error .valueError

/-- `_loss`: the orders that have lost money, and how much. -/
def loss (report : List OracleFinding) (snapshot : Json) :
    Except PyException (List String × ℚ) := do
  let orders ← ordersNamed snapshot
  let findings ← lossInvariants.mapM (findingOf report)
  let ids := (findings.flatMap flagged).dedup.insertionSort (· ≤ ·)
  return (ids, ← ids.foldlM (addLoss orders) 0)

end Reading

/-! ## The orders of a snapshot -/

namespace Oracle

/-- An amount that can be read: a numeral in a text, or an integer that has a text. -/
def ReadableAmount (value : Json) : Prop :=
  (∃ text negative coefficient exponent, value = .str text ∧
    PyDecimal.parse text = some (.finite negative coefficient exponent)) ∨
  ∃ i : ℤ, value = .int i ∧ numDigits i.natAbs ≤ 4300

/-- The orders of a snapshot can be read: each has a name of its own, and both its amounts. -/
structure LossReadable (snapshot : Json) (orders : List Json) : Prop where
  read : items snapshot "orders" = some orders
  named : ∀ order ∈ orders, ∃ id, order.get "id" = .str id
  once : (orders.map fun order => order.get "id").Nodup
  paid : ∀ order ∈ orders, ReadableAmount (order.get "paid_amount")
  refunded : ∀ order ∈ orders, ReadableAmount (order.get "refunded_amount")

/-- The number an amount stands for. -/
def amountOf (order : Json) (name : String) : ℚ :=
  ((decimal (order.get name)).map PyDecimal.value).getD 0

/-- How much more has been refunded than was paid. -/
def excessOf (order : Json) : ℚ := amountOf order "refunded_amount" - amountOf order "paid_amount"

/-- The orders that have been refunded more than was paid. -/
def overRefunded (orders : List Json) : List Json := orders.filter fun order =>
  amountOf order "paid_amount" < amountOf order "refunded_amount"

theorem ReadableAmount.decimal {value : Json} (readable : ReadableAmount value) :
    ∃ number, decimal value = some number ∧ number.isFinite := by
  obtain ⟨text, negative, coefficient, exponent, rfl, parsed⟩ | ⟨i, rfl, -⟩ := readable
  · refine ⟨.finite negative coefficient exponent, ?_, rfl⟩
    rw [Oracle.decimal, parsed]
    rfl
  · exact ⟨.ofInt i, rfl, rfl⟩

theorem ReadableAmount.lossDecimal [Python] {order : Json} {name : String}
    (readable : ReadableAmount (order.get name)) :
    finiteValue (lossDecimal (order.get name)) = .ok (amountOf order name) := by
  unfold amountOf
  obtain ⟨text, negative, coefficient, exponent, value, parsed⟩ | ⟨i, value, short⟩ := readable
  · rw [value]
    change finiteValue ((PyDecimal.parse text).getD _) =
      .ok ((((PyDecimal.parse text).filter _).map PyDecimal.value).getD 0)
    rw [parsed]
    rfl
  · rw [value, Oracle.decimal, RuleArena.lossDecimal, if_pos short]
    rfl

theorem flatMap_if {α β : Type} (p : α → Prop) [DecidablePred p] (f : α → β) (l : List α) :
    l.flatMap (fun a => if p a then [f a] else []) = (l.filter fun a => p a).map f := by
  induction l with
  | nil => rfl
  | cons a l ih =>
    rw [List.flatMap_cons, ih]
    by_cases h : p a <;> simp [h]

section Findings

variable {snapshots : List Json} {snapshot : Json} {orders : List Json}

/-- Both checks compare the amounts of an order, one of them by their rounded difference. -/
theorem LossReadable.amounts (readable : LossReadable snapshot orders) {order : Json}
    (mem : order ∈ orders) :
    ∃ paid refunded, decimal (order.get "paid_amount") = some paid ∧
      decimal (order.get "refunded_amount") = some refunded ∧
      paid.value = amountOf order "paid_amount" ∧
      refunded.value = amountOf order "refunded_amount" := by
  obtain ⟨paid, hp, -⟩ := (readable.paid order mem).decimal
  obtain ⟨refunded, hr, -⟩ := (readable.refunded order mem).decimal
  have paid_eq : paid.value = amountOf order "paid_amount" := by
    rw [amountOf, hp]
    rfl
  have refunded_eq : refunded.value = amountOf order "refunded_amount" := by
    rw [amountOf, hr]
    rfl
  exact ⟨paid, refunded, hp, hr, paid_eq, refunded_eq⟩

variable [Python]

/-- The identifiers of orders. -/
def names (orders : List Json) : List String := orders.map fun order => (order.get "id").toStr

theorem flagged_ids (invariantId : InvariantId) (violated satisfied : String)
    (ids : List String) :
    flagged (finding invariantId snapshots (conclude (ids.map .str) violated satisfied
      [("order_ids", .arr (ids.map .str))] [] [])) = ids := by
  cases ids with
  | nil => rfl
  | cons id ids =>
    rw [conclude, if_neg (by simp)]
    refine (if_pos rfl).trans ?_
    change (List.map Json.str (id :: ids)).map Json.toStr ++ [] = _
    simp [Function.comp_def]

theorem flagged_orders (invariantId : InvariantId) (violated satisfied : String)
    {orders : List Json} (named : ∀ order ∈ orders, ∃ id, order.get "id" = .str id)
    (rest : Json → List (String × Json)) :
    flagged (finding invariantId snapshots (conclude
      (orders.map fun order => .obj (("order_id", order.get "id") :: rest order)) violated satisfied
      [("orders", .arr (orders.map fun order =>
        .obj (("order_id", order.get "id") :: rest order)))] [] [])) = names orders := by
  cases orders with
  | nil => rfl
  | cons order orders =>
    rw [conclude, if_neg (by simp)]
    refine (if_pos rfl).trans ?_
    rw [show evidenceList _ "order_ids" = [] from rfl, show evidenceList _ "orders" =
      (order :: orders).map fun order => .obj (("order_id", order.get "id") :: rest order) from rfl,
      List.map_nil, List.nil_append, List.filter_eq_self.2 ?_, List.map_map]
    · rfl
    · rw [List.forall_mem_map]
      intro order mem
      obtain ⟨id, hid⟩ := named order mem
      simp [Json.isObj, Json.get, Json.get?, List.lookup] at hid ⊢
      simp [hid]

/-- The finding about refunds flags the orders that have been refunded too much. -/
theorem flagged_refundLimit (readable : LossReadable snapshot orders)
    (last : snapshots.getLast? = some snapshot) :
    ∃ found, settle .refundNotExceedPaid snapshots (refundLimit snapshots) = .ok found ∧
      found.invariantId = .refundNotExceedPaid ∧ flagged found = names (overRefunded orders) := by
  rw [refundLimit, lastItems, last, Option.bind_some, readable.read, needed_some, Checked.ok_bind]
  by_cases some : orders = []
  · subst some
    exact ⟨_, rfl, rfl, rfl⟩
  · rw [Checked.ensure_of_pos some, Checked.ok_bind, collect_eq (g := fun order =>
      if amountOf order "paid_amount" < amountOf order "refunded_amount" then
        [Json.str (order.get "id").toStr] else []) fun order mem => ?_]
    · rw [flatMap_if]
      refine ⟨_, rfl, rfl, ?_⟩
      have ids := @flagged_ids snapshots _ .refundNotExceedPaid "累计退款超过实付。"
        "累计退款未超过实付。" (names (overRefunded orders))
      rw [names, List.map_map] at ids
      exact ids
    · obtain ⟨paid, refunded, hp, hr, paid_eq, refunded_eq⟩ := readable.amounts mem
      rw [hp, hr, needed_some, needed_some, Checked.ok_bind, Checked.ok_bind, paid_eq,
        refunded_eq]
      split_ifs <;> rfl

/-- What the finding about net payments says of the amounts of an order. -/
def amountTexts (order : Json) : List (String × Json) :=
  [("paid", .str (((decimal (order.get "paid_amount")).map PyDecimal.toText).getD "")),
    ("refunded", .str (((decimal (order.get "refunded_amount")).map PyDecimal.toText).getD ""))]

/-- The difference of the amounts of an order, as a context computes it. -/
def netOf (order : Json) : ℚ :=
  Context.sub (amountOf order "paid_amount") (amountOf order "refunded_amount")

omit [Python] in
/-- What the check of the net payments does with an order. -/
theorem LossReadable.net (readable : LossReadable snapshot orders) {order : Json}
    (mem : order ∈ orders) :
    (needed (decimal (order.get "paid_amount")) "订单金额字段无效。" >>= fun paid =>
      needed (decimal (order.get "refunded_amount")) "订单金额字段无效。" >>= fun refunded =>
        raising (Context.checked (Context.sub paid.value refunded.value)) >>= fun net =>
          if net < 0 then pure [Json.obj [("order_id", order.get "id"),
            ("paid", .str paid.toText), ("refunded", .str refunded.toText)]] else pure []) =
      raising (Context.checked (netOf order)) >>= fun net =>
        if net < 0 then pure [Json.obj (("order_id", order.get "id") :: amountTexts order)]
        else pure [] := by
  obtain ⟨paid, refunded, hp, hr, paid_eq, refunded_eq⟩ := readable.amounts mem
  rw [amountTexts, netOf, hp, hr, needed_some, needed_some, Checked.ok_bind, Checked.ok_bind,
    paid_eq, refunded_eq]
  rfl

/-- The finding about net payments flags some of the same orders, unless a difference
    overflows. -/
theorem flagged_netPaid (readable : LossReadable snapshot orders)
    (last : snapshots.getLast? = some snapshot) {found : OracleFinding}
    (h : settle .netPaidNonNegative snapshots (netPaid snapshots) = .ok found) :
    found.invariantId = .netPaidNonNegative ∧ flagged found ⊆ names (overRefunded orders) := by
  obtain ⟨status, hs⟩ : ∃ status, statusOf (netPaid snapshots) = .ok status :=
    ⟨_, (settle_eq_ok h).2⟩
  have read : lastItems snapshots "orders" = some orders := by
    rw [lastItems, last, Option.bind_some, readable.read]
  -- the check has come to a verdict, so that no difference overflows
  have inRange : ∀ order ∈ orders, Context.InRange (netOf order) := by
    have turn := concludes_netPaid.1 (concludes_iff.2 ⟨status, hs⟩) orders read
    have fine := turn.forall fun order mem => by
      obtain ⟨paid, refunded, hp, hr, -⟩ := readable.amounts mem
      exact ⟨Option.isSome_iff_exists.2 ⟨paid, hp⟩, Option.isSome_iff_exists.2 ⟨refunded, hr⟩⟩
    intro order mem
    obtain ⟨paid, refunded, hp, hr, paid_eq, refunded_eq⟩ := readable.amounts mem
    have := fine order mem paid refunded hp hr
    rwa [paid_eq, refunded_eq] at this
  rw [netPaid, read, needed_some, Checked.ok_bind] at h
  by_cases some : orders = []
  · subst some
    obtain rfl := Except.ok.inj h
    exact ⟨rfl, List.nil_subset _⟩
  · rw [Checked.ensure_of_pos some, Checked.ok_bind, collect_eq (g := fun order =>
      if netOf order < 0 then [Json.obj (("order_id", order.get "id") :: amountTexts order)]
      else []) fun order mem => ?_, flatMap_if] at h
    · obtain rfl := Except.ok.inj h
      -- a difference below zero is one of an order that lost money
      have flags := @flagged_orders snapshots _ .netPaidNonNegative "存在净支付为负的订单。"
        "所有订单净支付均非负。" (orders.filter fun order => netOf order < 0)
        (fun order mem => readable.named order (List.mem_of_mem_filter mem)) amountTexts
      refine ⟨rfl, fun name mem => List.map_subset _ (fun order mem => ?_) (flags ▸ mem)⟩
      obtain ⟨mem, negative⟩ := List.mem_filter.1 mem
      exact List.mem_filter.2
        ⟨mem, decide_eq_true (Context.lt_of_sub_neg (of_decide_eq_true negative))⟩
    · refine (readable.net mem).trans ?_
      rw [Context.checked_of_inRange (inRange order mem)]
      dsimp only [raising, Checked.ok_bind]
      split_ifs <;> rfl

/-- What an order that has been refunded too much adds to a loss. -/
def addExcess (total : ℚ) (order : Json) : Except PyException ℚ := do
  let excess ← Context.checked
    (Context.sub (amountOf order "refunded_amount") (amountOf order "paid_amount"))
  if 0 < excess then Context.checked (Context.add total excess) else return total

/-- What the orders that have been refunded too much add up to, in the order of their
    identifiers. -/
def excesses (orders : List Json) : Except PyException ℚ :=
  (orderById (fun order => (order.get "id").toStr) (overRefunded orders)).foldlM addExcess 0

theorem LossReadable.keyed (readable : LossReadable snapshot orders) :
    Table.Keyed (fun order => (order.get "id").toStr) orders := by
  refine List.Nodup.map_on (fun order mem order' mem' same => ?_)
    (List.Nodup.of_map _ readable.once)
  obtain ⟨id, hid⟩ := readable.named order mem
  obtain ⟨id', hid'⟩ := readable.named order' mem'
  refine List.inj_on_of_nodup_map readable.once mem mem' ?_
  rw [hid, hid'] at same ⊢
  exact congrArg Json.str same

theorem lookup_named {orders : List Json}
    (keyed : Table.Keyed (fun order => (order.get "id").toStr) orders) {order : Json}
    (mem : order ∈ orders) :
    (orders.map fun order => ((order.get "id").toStr, order)).lookup (order.get "id").toStr =
      some order := by
  induction orders with
  | nil => cases mem
  | cons first orders ih =>
    rw [Table.Keyed, List.map_cons, List.nodup_cons] at keyed
    rw [List.map_cons, List.lookup_cons]
    obtain rfl | later := List.mem_cons.1 mem
    · rw [beq_self_eq_true]
    · have other : ((order.get "id").toStr == (first.get "id").toStr) = false := by
        rw [beq_eq_false_iff_ne]
        exact fun same => keyed.1 (same ▸ List.mem_map_of_mem later)
      rw [other]
      exact ih keyed.2 later

theorem LossReadable.ordersNamed (readable : LossReadable snapshot orders) :
    RuleArena.ordersNamed snapshot =
      .ok (orders.map fun order => ((order.get "id").toStr, order)).reverse := by
  have read := readable.read
  unfold items at read
  unfold RuleArena.ordersNamed
  generalize snapshot.get "state" = state at read ⊢
  cases state with
  | obj members =>
    dsimp only at read ⊢
    split at read
    · next values got =>
      split_ifs at read with objects
      obtain rfl := Option.some.inj read
      -- the orders are there, and no null
      have there : (Json.obj members).get? "orders" = some (.arr values) := by
        cases h : (Json.obj members).get? "orders" with
        | none =>
          rw [Json.get, h] at got
          cases got
        | some value =>
          rw [Json.get, h] at got
          exact congrArg some got
      rw [there]
      dsimp only
      refine congrArg (fun orders => Except.ok (List.reverse orders)) ?_
      rw [← List.filterMap_eq_map]
      refine List.filterMap_congr fun order mem => ?_
      obtain ⟨id, hid⟩ := readable.named order mem
      rw [Function.comp_apply, hid]
      dsimp only
      rw [if_pos (List.all_eq_true.1 objects order mem), Json.toStr_str]
    · cases read
  | _ => cases read

/-- An order is looked up by its identifier, and adds the rounded difference. -/
theorem LossReadable.addLoss (readable : LossReadable snapshot orders) {order : Json}
    (mem : order ∈ orders) (total : ℚ) :
    RuleArena.addLoss (orders.map fun order => ((order.get "id").toStr, order)).reverse total
        (order.get "id").toStr = addExcess total order := by
  have keys : ((orders.map fun order => ((order.get "id").toStr, order)).map Prod.fst).Nodup := by
    rw [List.map_map]
    exact readable.keyed
  have found := lookup_named readable.keyed mem
  rw [Json.lookup_perm (List.reverse_perm _).symm keys] at found
  unfold RuleArena.addLoss
  rw [found]
  dsimp only
  rw [(readable.refunded order mem).lossDecimal, (readable.paid order mem).lossDecimal,
    Checked.ok_bind, Checked.ok_bind]
  rfl

/-- The two findings of a report. -/
theorem findings_of_evaluate {spec : RuleSpec} {receipts events : List Json}
    {report : List OracleFinding} (readable : LossReadable snapshot orders)
    (last : snapshots.getLast? = some snapshot)
    (evaluated : evaluate spec snapshots receipts events = .ok report) :
    ∃ limit net, (report.find? fun finding => finding.invariantId = .refundNotExceedPaid) =
        some limit ∧
      (report.find? fun finding => finding.invariantId = .netPaidNonNegative) = some net ∧
      flagged limit = names (overRefunded orders) ∧ flagged net ⊆ names (overRefunded orders) := by
  obtain ⟨limit, hl, limitId, limitFlags⟩ := flagged_refundLimit readable last
  unfold evaluate checks at evaluated
  rw [List.mapM_cons, List.mapM_cons] at evaluated
  dsimp only at evaluated
  obtain ⟨net, hn, evaluated⟩ := Checked.bind_eq_ok.1 evaluated
  obtain ⟨netId, netFlags⟩ := flagged_netPaid readable last hn
  rw [hl, Checked.ok_bind] at evaluated
  obtain ⟨later, h, same⟩ := Checked.bind_eq_ok.1 evaluated
  obtain ⟨rest, -, h⟩ := Checked.bind_eq_ok.1 h
  obtain rfl := Checked.pure_eq_ok.1 h
  obtain rfl := Checked.pure_eq_ok.1 same
  refine ⟨limit, net, ?_, ?_, limitFlags, netFlags⟩
  · rw [List.find?_cons_of_neg (by simp [netId]), List.find?_cons_of_pos (by simp [limitId])]
  · rw [List.find?_cons_of_pos (by simp [netId])]

omit [Python] in
/-- Two orders of the same texts are sorted to one. -/
theorem insertionSort_perm {l l' : List String} (h : l.Perm l') :
    l.insertionSort (· ≤ ·) = l'.insertionSort (· ≤ ·) :=
  List.Perm.eq_of_pairwise' (r := fun a b : String => a ≤ b) (List.pairwise_insertionSort _ _)
    (List.pairwise_insertionSort _ _)
    ((List.perm_insertionSort _ _).trans (h.trans (List.perm_insertionSort _ _).symm))

theorem names_orderById (orders : List Json) :
    names (orderById (fun order => (order.get "id").toStr) orders) =
      (names orders).insertionSort (· ≤ ·) :=
  List.Perm.eq_of_pairwise' (r := fun a b : String => a ≤ b)
    (List.pairwise_map.2 (List.pairwise_insertionSort
      (fun a b : Json => (a.get "id").toStr ≤ (b.get "id").toStr) _))
    (List.pairwise_insertionSort _ _)
    (((List.perm_insertionSort _ _).map _).trans (List.perm_insertionSort _ _).symm)

/-- Both findings together name the orders of a loss once. -/
theorem LossReadable.dedup (readable : LossReadable snapshot orders) {some : List String}
    (subset : some ⊆ names (overRefunded orders)) :
    (names (overRefunded orders) ++ some).dedup.insertionSort (· ≤ ·) =
      (names (overRefunded orders)).insertionSort (· ≤ ·) := by
  have nodup : (names (overRefunded orders)).Nodup :=
    readable.keyed.sublist ((List.filter_sublist).map _)
  exact insertionSort_perm
    ((List.perm_ext_iff_of_nodup (List.nodup_dedup _) nodup).2 fun id => by
      rw [List.mem_dedup, List.mem_append]
      exact ⟨fun h => h.elim (fun h => h) fun h => subset h, .inl⟩)

/-- The loss of orders of the snapshot is what they add. -/
theorem foldlM_addLoss (readable : LossReadable snapshot orders) {lost : List Json}
    (mem : ∀ order ∈ lost, order ∈ orders) (total : ℚ) :
    (names lost).foldlM
        (RuleArena.addLoss (orders.map fun order => ((order.get "id").toStr, order)).reverse)
        total = lost.foldlM addExcess total := by
  induction lost generalizing total with
  | nil => rfl
  | cons order rest ih =>
    rw [List.forall_mem_cons] at mem
    rw [names, List.map_cons, List.foldlM_cons, List.foldlM_cons, readable.addLoss mem.1]
    exact congrArg _ (funext fun total => ih mem.2 total)

omit [Python] in
/-- What is added up exactly: differences of one precision whose sum is small. -/
theorem foldlM_addExcess {e : ℤ} (least : Context.etiny ≤ e) (most : e + 28 ≤ 10 ^ 6)
    {lost : List Json}
    (exceeds : ∀ order ∈ lost, 0 < excessOf order ∧ ∃ n : ℤ, excessOf order = n * 10 ^ e)
    {total : ℚ} (start : ∃ n : ℤ, total = n * 10 ^ e) (nonneg : 0 ≤ total)
    (small : total + (lost.map excessOf).sum < 10 ^ (e + 28)) :
    lost.foldlM addExcess total = .ok (total + (lost.map excessOf).sum) := by
  induction lost generalizing total with
  | nil => simp [pure, Except.pure]
  | cons order rest ih =>
    rw [List.forall_mem_cons] at exceeds
    obtain ⟨⟨pos, n, hn⟩, exceeds⟩ := exceeds
    obtain ⟨m, hm⟩ := start
    rw [List.map_cons, List.sum_cons, ← add_assoc] at small ⊢
    -- all partial sums are below the bound, for no summand is negative
    have later : 0 ≤ (rest.map excessOf).sum := by
      refine List.sum_nonneg ?_
      rw [List.forall_mem_map]
      exact fun order mem => (exceeds order mem).1.le
    have sum : total + excessOf order = ((m + n : ℤ) : ℚ) * 10 ^ e := by
      rw [hm, hn]
      push_cast
      ring
    have bound := (le_add_of_nonneg_right later).trans_lt small
    obtain ⟨exact, inRange⟩ := Context.exact_of_small least most ⟨n, hn⟩ pos.le
      ((le_add_of_nonneg_left nonneg).trans_lt bound)
    obtain ⟨exact', inRange'⟩ := Context.exact_of_small least most ⟨m + n, sum⟩
      (add_nonneg nonneg pos.le) bound
    -- so neither the difference nor the sum is rounded
    have added : addExcess total order = .ok (total + excessOf order) := by
      have excess : Context.sub (amountOf order "refunded_amount")
          (amountOf order "paid_amount") = excessOf order := exact
      rw [addExcess, excess, Context.checked_of_inRange inRange, Checked.ok_bind, if_pos pos,
        Context.add, exact', Context.checked_of_inRange inRange']
    rw [List.foldlM_cons, added]
    exact ih exceeds ⟨m + n, sum⟩ (add_nonneg nonneg pos.le) small

theorem excesses_eq {e : ℤ} (least : Context.etiny ≤ e) (most : e + 28 ≤ 10 ^ 6)
    (precise : ∀ order ∈ overRefunded orders, ∃ n : ℤ, excessOf order = n * 10 ^ e)
    (small : ((overRefunded orders).map excessOf).sum < 10 ^ (e + 28)) :
    excesses orders = .ok ((overRefunded orders).map excessOf).sum := by
  have perm : (orderById (fun order => (order.get "id").toStr) (overRefunded orders)).Perm
      (overRefunded orders) := List.perm_insertionSort _ _
  have sum := (perm.map excessOf).sum_eq
  rw [excesses, foldlM_addExcess least most (fun order mem => ?_) ⟨0, by simp⟩ le_rfl, zero_add,
    sum]
  · rwa [zero_add, sum]
  · have mem := mem_orderById.1 mem
    exact ⟨sub_pos.2 (of_decide_eq_true (List.mem_filter.1 mem).2), precise order mem⟩

end Findings

end Oracle

namespace Oracle

/-- The loss of the orders that the two findings flag. -/
theorem loss_of_report [Python] {spec : RuleSpec} {snapshots receipts events : List Json}
    {snapshot : Json} {orders : List Json} {report : List OracleFinding}
    (readable : LossReadable snapshot orders) (last : snapshots.getLast? = some snapshot)
    (evaluated : evaluate spec snapshots receipts events = .ok report) :
    loss report snapshot = (excesses orders).map fun total =>
      ((names (overRefunded orders)).insertionSort (· ≤ ·), total) := by
  obtain ⟨limit, net, hl, hn, limitFlags, netFlags⟩ :=
    findings_of_evaluate readable last evaluated
  have found : lossInvariants.mapM (findingOf report) = .ok [limit, net] := by
    rw [lossInvariants, List.mapM_cons, List.mapM_cons, List.mapM_nil, findingOf, findingOf, hl, hn]
    rfl
  have mem : ∀ order ∈ orderById (fun order => (order.get "id").toStr) (overRefunded orders),
      order ∈ orders := fun order hm => List.mem_of_mem_filter (mem_orderById.1 hm)
  have terms := foldlM_addLoss readable mem 0
  unfold loss
  rw [readable.ordersNamed, Checked.ok_bind, found, Checked.ok_bind, List.flatMap_cons,
    List.flatMap_cons, List.flatMap_nil, List.append_nil, limitFlags, readable.dedup netFlags,
    ← names_orderById]
  dsimp only
  rw [terms, excesses]
  cases (orderById (fun order => (order.get "id").toStr) (overRefunded orders)).foldlM addExcess 0
    with
  | ok total => rfl
  | error e => rfl

end Oracle

open Oracle in
/-- The loss of a report is that of the orders that have been refunded too much, sorted, and the
    amount the sum of the differences, each difference and each sum as a context computes it. It
    is the exact sum where all differences have one precision and their sum no more digits. -/
theorem loss_eq [Python] {spec : RuleSpec} {snapshots receipts events : List Json}
    {snapshot : Json} {orders : List Json} {report : List OracleFinding}
    (readable : LossReadable snapshot orders) (last : snapshots.getLast? = some snapshot)
    (evaluated : evaluate spec snapshots receipts events = .ok report) :
    (loss report snapshot = (excesses orders).map fun total =>
      ((names (overRefunded orders)).insertionSort (· ≤ ·), total)) ∧
    ∀ e : ℤ, Context.etiny ≤ e → e + 28 ≤ 10 ^ 6 →
      (∀ order ∈ overRefunded orders, ∃ n : ℤ, excessOf order = n * 10 ^ e) →
      ((overRefunded orders).map excessOf).sum < 10 ^ (e + 28) →
      excesses orders = .ok ((overRefunded orders).map excessOf).sum := by
  exact ⟨loss_of_report readable last evaluated,
    fun e least most precise small => excesses_eq least most precise small⟩

namespace Oracle

def lossOrder (id paid refunded : String) : Json :=
  .obj [("id", .str id), ("paid_amount", .str paid), ("refunded_amount", .str refunded)]

def lossSnapshot (orders : List Json) : Json := .obj [("state", .obj [("orders", .arr orders)])]

/-- An order that has been refunded and not paid. -/
def refundedOrder (refunded : String) : Json := lossOrder "order-1" "0.00" refunded

def refundedSnapshot (refunded : String) : Json := lossSnapshot [refundedOrder refunded]

theorem refundedSnapshot_readable {refunded : String} {coefficient : Nat} {exponent : ℤ}
    (parsed : PyDecimal.parse refunded = some (.finite false coefficient exponent)) :
    LossReadable (refundedSnapshot refunded) [refundedOrder refunded] where
  read := rfl
  named := List.forall_mem_singleton.2 ⟨"order-1", rfl⟩
  once := List.nodup_singleton _
  paid := List.forall_mem_singleton.2 (.inl ⟨"0.00", false, 0, -2, rfl, by decide⟩)
  refunded :=
    List.forall_mem_singleton.2 (.inl ⟨refunded, false, coefficient, exponent, rfl, parsed⟩)

/-- Two orders that have been refunded too much, and one between them that has not. -/
def threeOrders : List Json :=
  [lossOrder "order-3" "1.00" "1.50", lossOrder "order-2" "2.00" "2.00",
    lossOrder "order-1" "0.00" "0.01"]

theorem threeOrders_readable : LossReadable (lossSnapshot threeOrders) threeOrders where
  read := rfl
  named := by
    rintro order (_ | ⟨_, _ | ⟨_, _ | ⟨_, ⟨⟩⟩⟩⟩)
    · exact ⟨"order-3", rfl⟩
    · exact ⟨"order-2", rfl⟩
    · exact ⟨"order-1", rfl⟩
  once := by decide
  paid := by
    rintro order (_ | ⟨_, _ | ⟨_, _ | ⟨_, ⟨⟩⟩⟩⟩)
    · exact .inl ⟨"1.00", false, 100, -2, rfl, by decide⟩
    · exact .inl ⟨"2.00", false, 200, -2, rfl, by decide⟩
    · exact .inl ⟨"0.00", false, 0, -2, rfl, by decide⟩
  refunded := by
    rintro order (_ | ⟨_, _ | ⟨_, _ | ⟨_, ⟨⟩⟩⟩⟩)
    · exact .inl ⟨"1.50", false, 150, -2, rfl, by decide⟩
    · exact .inl ⟨"2.00", false, 200, -2, rfl, by decide⟩
    · exact .inl ⟨"0.01", false, 1, -2, rfl, by decide⟩

end Oracle

open Oracle in
theorem loss_eq_cent :
    let _ := Python.transparent
    ∃ report, evaluate pointsSpec [lossSnapshot threeOrders] [] [] = .ok report ∧
      loss report (lossSnapshot threeOrders) = .ok (["order-1", "order-3"], 51 / 100) := by
  intro _
  have raised : (evaluate pointsSpec [lossSnapshot threeOrders] [] []).toOption.isSome := by
    decide +kernel
  have exceeding : overRefunded threeOrders = [lossOrder "order-3" "1.00" "1.50",
      lossOrder "order-1" "0.00" "0.01"] := by
    decide +kernel
  have first : excessOf (lossOrder "order-3" "1.00" "1.50") = 50 / 100 := by decide +kernel
  have second : excessOf (lossOrder "order-1" "0.00" "0.01") = 1 / 100 := by decide +kernel
  have sorted : (names (overRefunded threeOrders)).insertionSort (· ≤ ·) =
      ["order-1", "order-3"] := by
    decide +kernel
  cases evaluated : evaluate pointsSpec [lossSnapshot threeOrders] [] [] with
  | error e =>
    rw [evaluated] at raised
    cases raised
  | ok report =>
    obtain ⟨lost, exact⟩ := loss_eq threeOrders_readable rfl evaluated
    refine ⟨report, rfl, ?_⟩
    rw [lost, exact (-2) (by decide) (by decide) ?_ ?_, sorted, exceeding]
    · simp [Except.map, first, second]
      norm_num
    · rw [exceeding, List.forall_mem_cons, List.forall_mem_singleton, first, second]
      exact ⟨⟨50, by norm_num⟩, 1, by norm_num⟩
    · rw [exceeding]
      simp only [List.map_cons, List.map_nil, first, second]
      norm_num

open Oracle in
/-- An amount of 29 digits is rounded to 28. -/
theorem loss_not_exact :
    let _ := Python.transparent
    ¬ ∀ (spec : RuleSpec) (snapshots receipts events : List Json) (snapshot : Json)
      (orders : List Json) (report : List OracleFinding), LossReadable snapshot orders →
      snapshots.getLast? = some snapshot →
      evaluate spec snapshots receipts events = .ok report →
      loss report snapshot = .ok ((names (overRefunded orders)).insertionSort (· ≤ ·),
        ((overRefunded orders).map excessOf).sum) := by
  intro _ claim
  have raised : (evaluate pointsSpec [refundedSnapshot "10000000000000000000000000001"]
      [] []).toOption.isSome := by
    decide +kernel
  cases evaluated :
    evaluate pointsSpec [refundedSnapshot "10000000000000000000000000001"] [] [] with
  | error e =>
    rw [evaluated] at raised
    cases raised
  | ok report =>
    have readable := @refundedSnapshot_readable "10000000000000000000000000001" (10 ^ 28 + 1) 0
      (by decide +kernel)
    have same := (loss_of_report readable rfl evaluated).symm.trans
      (claim _ _ _ _ _ _ _ readable rfl evaluated)
    have differs : (excesses [refundedOrder "10000000000000000000000000001"]).toOption ≠
        some ((overRefunded [refundedOrder "10000000000000000000000000001"]).map excessOf).sum := by
      decide +kernel
    cases added : excesses [refundedOrder "10000000000000000000000000001"] with
    | error e =>
      rw [added] at same
      cases same
    | ok total =>
      rw [added] at same differs
      exact differs (congrArg some (Prod.mk.inj (Except.ok.inj same)).2)

end RuleArena
