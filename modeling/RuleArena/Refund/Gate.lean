import RuleArena.Foundation.DecimalContext
import RuleArena.Refund.Gateway
import RuleArena.Sandbox.Refunds
import RuleArena.Sandbox.Snapshot

/-!
# The check before a refund

Before a refund is sent the gate reads the order in the snapshot of the run, and does
the arithmetic of the sandbox: the amount, rounded to cents, must fit into what is
left of the payment. Both read the amount with a parser of their own.

They agree on a refund unless the amount is a numeral that takes more than 28 digits
at two places: then the gate raises (`RuntimeGate.preCheck_mirrors_iff`).
-/

namespace RuleArena

/-! ## Sums -/

namespace PyDecimal

/-- A coefficient without its last digits, ties to even. -/
def dropDigits (coefficient drop : Nat) : Nat :=
  let unit := 10 ^ drop
  let kept := coefficient / unit
  let rest := 2 * (coefficient % unit)
  if rest < unit ∨ rest = unit ∧ kept % 2 = 0 then kept else kept + 1

/-- `_fix`: a number with at most 28 digits. -/
def fix (negative : Bool) (coefficient : Nat) (exponent : Int) : PyDecimal :=
  let drop := numDigits coefficient - 28
  let kept := dropDigits coefficient drop
  if numDigits kept ≤ 28 then finite negative kept (exponent + drop)
  else finite negative (kept / 10) (exponent + drop + 1)

/-- The signed coefficient of a number under a smaller exponent. -/
def scaled (negative : Bool) (coefficient : Nat) (exponent least : Int) : Int :=
  let scaled := coefficient * 10 ^ (exponent - least).toNat
  if negative then -scaled else scaled

/-- `a + b` of finite numbers. -/
def add : PyDecimal → PyDecimal → PyDecimal
  | finite negative coefficient exponent, finite negative' coefficient' exponent' =>
    let least := min exponent exponent'
    let sum := scaled negative coefficient exponent least +
      scaled negative' coefficient' exponent' least
    fix (if sum = 0 then negative && negative' else decide (sum < 0)) sum.natAbs least
  | x, _ => x

theorem le_dropDigits (coefficient drop : Nat) :
    coefficient / 10 ^ drop ≤ dropDigits coefficient drop := by
  unfold dropDigits
  dsimp only
  split_ifs <;> omega

theorem le_value {coefficient : Nat} {exponent : Int} (digits : 10 ^ 27 ≤ coefficient)
    (places : -1 ≤ exponent) : (10 : ℚ) ^ 26 ≤ (finite false coefficient exponent).value := by
  have coefficient_le : (10 : ℚ) ^ 27 ≤ coefficient := by exact_mod_cast digits
  have unit : (10 : ℚ) ^ (-1 : ℤ) ≤ 10 ^ exponent := zpow_le_zpow_right₀ (by norm_num) places
  calc (10 : ℚ) ^ 26 = 10 ^ 27 * (10 : ℚ) ^ (-1 : ℤ) := by norm_num
    _ ≤ coefficient * (10 : ℚ) ^ exponent := mul_le_mul coefficient_le unit (by positivity) (by positivity)
    _ = (finite false coefficient exponent).value := by simp [value]

/-- A number of more than 28 digits at two places stays large when it is rounded. -/
theorem le_value_fix {n : Nat} (long : 10 ^ 28 ≤ n) : (10 : ℚ) ^ 26 ≤ (fix false n (-2)).value := by
  have digits : 28 < numDigits n := by
    by_contra few
    have := (numDigits_le_iff (by omega)).1 (not_lt.1 few)
    omega
  have kept : 10 ^ 27 ≤ dropDigits n (numDigits n - 28) := by
    refine le_trans ((Nat.le_div_iff_mul_le (by positivity)).2 ?_) (le_dropDigits _ _)
    by_contra less
    have more : 27 + (numDigits n - 28) = numDigits n - 1 := by omega
    rw [← pow_add, more, not_le, ← numDigits_le_iff (by omega)] at less
    omega
  unfold fix
  dsimp only
  split_ifs with fits
  · exact le_value kept (by omega)
  · have kept : 10 ^ 28 ≤ dropDigits n (numDigits n - 28) := by
      by_contra less
      exact fits ((numDigits_le_iff (by omega)).2 (not_le.1 less))
    exact le_value (by omega) (by omega)

/-- A sum of amounts is compared with a small one as it should be, although it is rounded. -/
theorem value_lt_add {paid refunded amount : Nat} (small : paid < 10 ^ 16) :
    (finite false paid (-2)).value <
        (add (finite false refunded (-2)) (finite false amount (-2))).value ↔
      paid < refunded + amount := by
  have sum : add (finite false refunded (-2)) (finite false amount (-2)) =
      fix false (refunded + amount) (-2) := by
    have natAbs : ((refunded : Int) + amount).natAbs = refunded + amount := by omega
    have nonneg : ¬ (refunded : Int) + amount < 0 := by omega
    simp [add, scaled, natAbs, nonneg]
  have value (n : Nat) : (finite false n (-2)).value = n / 100 := by
    norm_num [PyDecimal.value, div_eq_mul_inv]
  rw [sum]
  rcases lt_or_ge (refunded + amount) (10 ^ 28) with few | long
  · have digits : numDigits (refunded + amount) ≤ 28 := (numDigits_le_iff (by omega)).2 few
    have kept : dropDigits (refunded + amount) 0 = refunded + amount := by
      simp [dropDigits, Nat.mod_one]
    rw [fix, Nat.sub_eq_zero_of_le digits, kept, if_pos digits]
    simp only [Nat.cast_zero, add_zero, value]
    rw [div_lt_div_iff_of_pos_right (by norm_num)]
    exact_mod_cast Iff.rfl
  · refine iff_of_true (lt_of_lt_of_le ?_ (le_value_fix long)) (by omega)
    rw [value, div_lt_iff₀ (by norm_num)]
    have : (paid : ℚ) < 10 ^ 16 := by exact_mod_cast small
    linarith

end PyDecimal

/-- An amount as a number of two places. -/
def Amount.toDecimal (amount : Amount) : PyDecimal := .finite amount.negative amount.cents (-2)

/-! ## The gate -/

inductive GateDecisionType
  | allow
  | block
  | unknown
  deriving DecidableEq, Repr

inductive GateReason
  | notARefundWrite
  | withinRefundBudget
  | refundBudgetExceeded
  | orderNotRefundable
  | orderNotFound
  | refundAmountUnreadable
  | snapshotUnavailable
  | snapshotUnreadable
  | effectObserved
  | effectNotObserved
  | staleView
  deriving DecidableEq, Repr

structure GateDecision where
  decision : GateDecisionType
  reasonCode : GateReason
  detail : List (String × Json) := []
  deriving DecidableEq

/-- What the gate reads of a `SimAction`. Its arguments are not checked there, and may be
    anything. -/
structure GateAction where
  actionType : ActionName
  targetId : Option String := none
  arguments : List (String × Json) := []
  deriving DecidableEq

/-- `action.argument(name)` -/
def GateAction.argument (action : GateAction) (name : String) : Json :=
  (action.arguments.reverse.lookup name).getD .null

namespace RuntimeGate

/-- `Decimal(raw)` of a text or an integer, as far as it can be read. -/
def numeral : Json → Option PyDecimal
  | .str s => PyDecimal.parse s
  | .int i => some (.ofInt i)
  | _ => none

/-- The value of a monetary argument. -/
def rawAmount (value : Json) : Json := if value.isObj then value.get "amount" else value

/-- `_money` -/
def money (value : Json) : Except ToolException (Option Amount) :=
  match numeral (rawAmount value) with
  | some (.finite negative coefficient exponent) =>
    match (PyDecimal.finite negative coefficient exponent).quantize with
    | some (.inl amount) => .ok (if 0 < amount.toInt then some amount else none)
    | _ => .error (.other "InvalidOperation")
  | _ => .ok none

/-- `_decimal` -/
def decimal (value : Json) : Option PyDecimal := (numeral value).filter PyDecimal.isFinite

/-- `_orders`, as a list. -/
def orders (snapshot : Json) : Option (List Json) :=
  match (snapshot.get "state").get "orders" with
  | .arr orders => if orders.all Json.isObj then some orders else none
  | _ => none

/-- `orders.get(order_id)`: of several orders of a name the last one counts. -/
def orderOf (orders : List Json) (orderId : String) : Option Json :=
  orders.reverse.find? fun order => order.get "id" = .str orderId

/-- The refund against the order that it is of. -/
def checkBudget (order : Json) (orderId : String) (amount : Amount) : GateDecision :=
  match decimal (order.get "paid_amount"), decimal (order.get "refunded_amount") with
  | some paid, some refunded =>
    let total := refunded.add amount.toDecimal
    let detail := [("order_id", .str orderId), ("paid_amount", .str paid.toText),
      ("refunded_amount", .str refunded.toText), ("requested_amount", .str amount.toDecimal.toText),
      ("projected_refunded_total", .str total.toText)]
    if paid.value < total.value then ⟨.block, .refundBudgetExceeded, detail⟩
    else ⟨.allow, .withinRefundBudget, detail⟩
  | _, _ => ⟨.unknown, .snapshotUnreadable, [("order_id", .str orderId),
      ("paid_amount", order.get "paid_amount"), ("refunded_amount", order.get "refunded_amount")]⟩

/-- The order that a refund is of: it must be in a state to be refunded. A state that cannot be
    looked up is an error. -/
def checkOrder (order : Json) (orderId : String) (amount : Amount) :
    Except ToolException GateDecision :=
  match order.get "status" with
  | .arr _ | .obj _ => .error .typeError
  | status =>
    if status = .str "PAID" ∨ status = .str "PARTIALLY_REFUNDED" then
      .ok (checkBudget order orderId amount)
    else
      .ok ⟨.block, .orderNotRefundable, [("order_id", .str orderId), ("status", status)]⟩

/-- `pre_check`, with what the snapshot of the run comes to. -/
def preCheck (snapshot : Option Json) (runId : String) (action : GateAction) :
    Except ToolException GateDecision :=
  if action.actionType ≠ .refundOrder then
    .ok ⟨.allow, .notARefundWrite, [("action_type", .str action.actionType.actionType)]⟩
  else do
    match ← money (action.argument "amount"), action.targetId with
    | some amount, some orderId =>
      match snapshot with
      | none => return ⟨.unknown, .snapshotUnavailable, [("run_id", .str runId)]⟩
      | some snapshot =>
        match orders snapshot with
        | none => return ⟨.unknown, .snapshotUnreadable, [("run_id", .str runId)]⟩
        | some orders =>
          match orderOf orders orderId with
          | none => return ⟨.block, .orderNotFound, [("order_id", .str orderId)]⟩
          | some order => checkOrder order orderId amount
    | _, targetId =>
      return ⟨.unknown, .refundAmountUnreadable, [("target_id", optionText targetId),
        ("amount", action.argument "amount")]⟩

/-! ## Reading amounts -/

/-- A number that can be brought to two places: a finite one takes at most 28 digits there. -/
def FitsCents : PyDecimal → Prop
  | .finite _ coefficient exponent => coefficient = 0 ∨ numDigits coefficient + exponent + 2 ≤ 28 ∧
      numDigits (PyDecimal.roundHalfUp coefficient exponent) ≤ 28
  | _ => True

/-- The amount is no numeral that takes more than 28 digits at two places. -/
def AmountFits (value : Json) : Prop := ∀ decimal ∈ numeral (rawAmount value), FitsCents decimal

theorem quantize_finite {negative : Bool} {coefficient : Nat} {exponent : Int} :
    (∃ amount, (PyDecimal.finite negative coefficient exponent).quantize = some (.inl amount)) ↔
      FitsCents (.finite negative coefficient exponent) := by
  unfold PyDecimal.quantize FitsCents
  dsimp only
  split_ifs with zero fits
  · exact iff_of_true ⟨_, rfl⟩ (.inl zero)
  · exact iff_of_true ⟨_, rfl⟩ (.inr fits)
  · exact iff_of_false nofun (not_or.2 ⟨zero, fits⟩)

/-- The gate reads an amount, or finds that it is none, exactly where it fits. -/
theorem money_ok_iff {value : Json} : (∃ amount, money value = .ok amount) ↔ AmountFits value := by
  unfold money AmountFits
  cases read : numeral (rawAmount value) with
  | none => exact iff_of_true ⟨_, rfl⟩ nofun
  | some decimal =>
    have only : (∀ d ∈ some decimal, FitsCents d) ↔ FitsCents decimal :=
      ⟨fun h => h decimal rfl, by rintro h _ ⟨⟩; exact h⟩
    rw [only]
    cases decimal with
    | inf => exact iff_of_true ⟨_, rfl⟩ trivial
    | nan => exact iff_of_true ⟨_, rfl⟩ trivial
    | finite sign coefficient exponent =>
      rw [← @quantize_finite sign]
      dsimp only
      split
      · rename_i amount quantized
        exact iff_of_true ⟨_, rfl⟩ ⟨amount, quantized⟩
      · rename_i other
        exact iff_of_false nofun fun ⟨amount, quantized⟩ => other amount quantized

/-- An amount that the gate reads is positive, of at most 28 digits. -/
theorem money_spec {value : Json} {amount : Amount} (h : money value = .ok (some amount)) :
    0 < amount.toInt ∧ ∃ decimal, numeral (rawAmount value) = some decimal ∧
      decimal.quantize = some (.inl amount) := by
  unfold money at h
  split at h
  · rename_i negative coefficient exponent read
    split at h
    · rename_i quantized
      split_ifs at h with positive
      · obtain rfl := Option.some.inj (Except.ok.inj h)
        exact ⟨positive, _, read, quantized⟩
      · cases h
    · cases h
  · cases h

/-- Both read the same numerals. -/
theorem rawDecimal_eq_ok {raw : Json} {field : String} {decimal : PyDecimal} :
    rawDecimal raw field = .ok (some decimal) ↔ numeral raw = some decimal := by
  cases raw with
  | str s => exact Checked.pure_eq_ok
  | int i => exact Checked.pure_eq_ok
  | _ => exact iff_of_false nofun nofun

/-- What the sandbox reads as an amount the gate reads the same way. -/
theorem money_of_ok {value : Json} {field : String} {amount : Amount} {currency : Currency}
    (h : RuleArena.money value field = .ok (amount, currency)) :
    money value = .ok (if 0 < amount.toInt then some amount else none) := by
  simp only [RuleArena.money, Checked.bind_eq_ok] at h
  obtain ⟨raw, named, read, decimal, h⟩ := h
  have same : raw.1 = rawAmount value := by
    cases value with
    | obj members =>
      obtain ⟨_, -, named⟩ := Checked.bind_eq_ok.1 named
      exact congrArg Prod.fst (Checked.pure_eq_ok.1 named).symm
    | _ => exact congrArg Prod.fst (Checked.pure_eq_ok.1 named).symm
  split at h
  · rename_i found _ quantized _
    simp only [Checked.bind_eq_ok, Checked.ensure_eq_ok, Checked.pure_eq_ok, Prod.mk.injEq] at h
    obtain ⟨_, -, rfl, -⟩ := h
    obtain ⟨number, rfl, rounded⟩ := Option.bind_eq_some_iff.1 quantized
    rw [money, ← same, rawDecimal_eq_ok.1 decimal]
    cases number with
    | finite negative coefficient exponent => simp only [rounded]
    | inf => cases rounded
    | nan signaling => cases signaling <;> cases rounded
  · cases h
  · cases h

/-- A plain amount that the gate reads the sandbox reads the same way. -/
theorem ok_of_money {value : Json} {field : String} {amount : Amount} (plain : value.isObj = false)
    (h : money value = .ok (some amount)) :
    RuleArena.money value field = .ok (amount, .cny) := by
  obtain ⟨positive, decimal, read, quantized⟩ := money_spec h
  have raw : rawMoney value field = .ok (value, .str "CNY") := by
    cases value <;> first | rfl | cases plain
  have same : rawAmount value = value := by
    rw [rawAmount, plain]
    rfl
  have number := (@rawDecimal_eq_ok value field decimal).2 (same ▸ read)
  have currency : Currency.ofJson? (.str "CNY") = some .cny := by decide
  simp [RuleArena.money, raw, number, quantized, currency, Checked.ensure_of_pos positive.le]

/-! ## Reading snapshots -/

section Snapshot

variable {run : RunSpace} {now : Nat}

theorem decimal_amountText {cents : Int} (nonneg : 0 ≤ cents) (small : cents < 10 ^ 16) :
    decimal (.str (amountText cents)) = some (.finite false cents.natAbs (-2)) := by
  have digits : numDigits cents.natAbs ≤ 10 ^ 18 :=
    ((numDigits_le_iff (by omega)).2 (by omega : cents.natAbs < 10 ^ 16)).trans (by norm_num)
  have sign : decide (cents < 0) = false := decide_eq_false (by omega)
  have read := PyDecimal.parse_text (a := Amount.ofInt cents) digits
  rw [decimal, numeral, amountText, read, Amount.ofInt, sign]
  rfl

theorem orders_snapshot [Python] : orders (run.snapshot now) =
    some ((orderById Order.id run.orders).map Order.toJson) := by
  have objects : ((orderById Order.id run.orders).map Order.toJson).all Json.isObj = true := by
    rw [List.all_eq_true]
    intro order mem
    obtain ⟨_, -, rfl⟩ := List.mem_map.1 mem
    rfl
  exact if_pos objects

/-- The order that the gate finds is the one of that name. -/
theorem orderOf_snapshot (keyed : Table.Keyed Order.id run.orders) (orderId : String) :
    orderOf ((orderById Order.id run.orders).map Order.toJson) orderId =
      (Table.find? Order.id run.orders orderId).map Order.toJson := by
  have perm : (orderById Order.id run.orders).reverse.Perm run.orders :=
    (List.reverse_perm _).trans (List.perm_insertionSort _ _)
  have named : ((fun order : Json => decide (order.get "id" = .str orderId)) ∘ Order.toJson) =
      fun order : Order => decide (order.id = orderId) := by
    funext order
    have id : order.toJson.get "id" = .str order.id := rfl
    simp only [Function.comp_apply, id, Json.str.injEq]
  rw [orderOf, ← List.map_reverse, List.find?_map, named, ← Table.find?_perm keyed perm]
  rfl

/-- The gate lets a refund of an order pass if the order is paid, and the amount fits in what is
    left of the payment. -/
theorem checkOrder_toJson {order : Order} {orderId : String} {amount : Amount}
    (refunded : 0 ≤ order.refundedAmount) (within : order.refundedAmount ≤ order.paidAmount)
    (paid : Numeric order.paidAmount) (positive : 0 < amount.toInt) :
    ∃ decision, checkOrder order.toJson orderId amount = .ok decision ∧
      (decision.decision = .allow ↔
        (order.status = .paid ∨ order.status = .partiallyRefunded) ∧
          order.refundedAmount + amount.toInt ≤ order.paidAmount) := by
  have status : order.toJson.get "status" = .str order.status.value := rfl
  have paidText : order.toJson.get "paid_amount" = .str (amountText order.paidAmount) := rfl
  have refundedText : order.toJson.get "refunded_amount" =
    .str (amountText order.refundedAmount) := rfl
  obtain ⟨negative, cents⟩ := amount
  have sign : negative = false := by
    cases negative with
    | false => rfl
    | true =>
      have : (0 : Int) < -cents := positive
      omega
  subst sign
  have states : (Json.str order.status.value = .str "PAID" ∨
      Json.str order.status.value = .str "PARTIALLY_REFUNDED") ↔
        (order.status = .paid ∨ order.status = .partiallyRefunded) := by
    cases order.status <;> decide
  rw [checkOrder, status]
  dsimp only
  by_cases refundable : order.status = .paid ∨ order.status = .partiallyRefunded
  · rw [if_pos (states.2 refundable)]
    refine ⟨_, rfl, ?_⟩
    rw [checkBudget, paidText, refundedText,
      decimal_amountText (by omega) paid.2, decimal_amountText refunded (by have := paid.2; omega)]
    have small : order.paidAmount.natAbs < 10 ^ 16 := by have := paid.2; omega
    have compare := @PyDecimal.value_lt_add _ order.refundedAmount.natAbs cents small
    have value : (Amount.mk false cents).toInt = cents := rfl
    dsimp only [Amount.toDecimal]
    split_ifs with exceeds
    · rw [compare] at exceeds
      exact iff_of_false nofun (by omega)
    · rw [compare] at exceeds
      exact iff_of_true rfl ⟨refundable, by omega⟩
  · rw [if_neg (mt states.1 refundable)]
    exact ⟨_, rfl, iff_of_false nofun fun h => refundable h.1⟩

end Snapshot

/-! ## The gate and the sandbox -/

/-- A command that sends an action to the sandbox. -/
structure Sends (command : ActionCommand) (action : GateAction) : Prop where
  actionType : command.action = action.actionType
  targetId : command.targetId = action.targetId
  arguments : command.arguments = action.arguments

/-- The sandbox rejects. -/
def Rejects {α : Type} (x : Except Fault α) : Prop := ∃ error, x = .error (.domain error)

/-- The sandbox accepts, up to points that have been redeemed. -/
def Accepts {α : Type} (x : Except Fault α) : Prop :=
  (∃ a, x = .ok a) ∨ ∃ error, x = .error (.domain error) ∧ error.code = "POINTS_ALREADY_REDEEMED"

/-- The order that an action is of, if there is one, is in Chinese currency. -/
def InCny (run : RunSpace) (action : GateAction) : Prop :=
  ∀ orderId ∈ action.targetId, ∀ order, Table.find? Order.id run.orders orderId = some order →
    order.currency = .cny

/-- The gate decides about a refund as the sandbox does: what it does not allow is rejected, and a
    plain amount in the currency of the order that it allows is accepted. -/
def Mirrors [Python] (run : RunSpace) (action : GateAction) (key : String) (captured now : Nat) :
    Prop :=
  ∃ decision, preCheck (some (run.snapshot captured)) run.id action = .ok decision ∧
    (decision.decision ≠ .allow → ∀ command, Sends command action →
      Rejects (run.savepoint command key now)) ∧
    (decision.decision = .allow → (action.argument "amount").isObj = false → InCny run action →
      ∀ command, Sends command action → Accepts (run.savepoint command key now))

/-- What the refund writes the database can hold: where the scenario has refunds, the name of the
    order is plain, and a plain amount in the currency of the order fits. -/
def Holdable (run : RunSpace) (action : GateAction) (key : String) : Prop :=
  ∀ command, Sends command action → .refundOrder ∈ run.scenarioType.actions →
    (∀ orderId ∈ action.targetId, orderId ≠ "" → Plain orderId) ∧
      ((action.argument "amount").isObj = false → InCny run action → run.Fits command key)

/-- A refund that is covered by what is left of the payment of its order. -/
def Payable (run : RunSpace) (targetId : Option String) (read : Option Amount) : Prop :=
  ∃ order amount, targetId = some order.id ∧ read = some amount ∧
    Table.find? Order.id run.orders order.id = some order ∧
    (order.status = .paid ∨ order.status = .partiallyRefunded) ∧
    order.refundedAmount + amount.toInt ≤ order.paidAmount

theorem ok_or_rejects {α : Type} {x : Except Fault α} (h : Answers x) :
    (∃ a, x = .ok a) ∨ Rejects x := by
  cases x with
  | ok a => exact .inl ⟨a, rfl⟩
  | error fault =>
    cases fault with
    | domain error => exact .inr ⟨error, rfl⟩
    | crash crash => exact (h _ rfl).elim

theorem answers_of_rejects {α : Type} {x : Except Fault α} (h : Rejects x) : Answers x := by
  obtain ⟨error, rfl⟩ := h
  exact .throw trivial

theorem answers_of_accepts {α : Type} {x : Except Fault α} (h : Accepts x) : Answers x := by
  obtain ⟨a, rfl⟩ | ⟨error, rfl, -⟩ := h
  · exact .ok
  · exact .throw trivial

section Mirror

variable [Python] {run : RunSpace} {action : GateAction} {command : ActionCommand} {value : Json}
  {key : String} {captured now : Nat}

/-- The gate allows a refund, of which it can read the amount, if it is covered. -/
theorem preCheck_payable (reachable : RunSpace.Reachable run) (faithful : run.profile.Faithful)
    (refund : action.actionType = .refundOrder) {read : Option Amount}
    (reads : money (action.argument "amount") = .ok read) :
    ∃ decision, preCheck (some (run.snapshot captured)) run.id action = .ok decision ∧
      (decision.decision = .allow ↔ Payable run action.targetId read) := by
  unfold preCheck
  rw [if_neg (not_not.2 refund), reads, Checked.ok_bind]
  cases read with
  | none => exact ⟨_, rfl, iff_of_false nofun (by rintro ⟨_, _, _, ⟨⟩, _⟩)⟩
  | some amount =>
    cases target : action.targetId with
    | none => exact ⟨_, rfl, iff_of_false nofun (by rintro ⟨_, _, ⟨⟩, _⟩)⟩
    | some orderId =>
      dsimp only
      rw [orders_snapshot]
      dsimp only
      rw [orderOf_snapshot reachable.storable.orders_keyed]
      cases found : Table.find? Order.id run.orders orderId with
      | none =>
        refine ⟨_, rfl, iff_of_false nofun ?_⟩
        rintro ⟨order, _, same, -, listed, -⟩
        rw [Option.some.inj same, listed] at found
        cases found
      | some order =>
        have mem := Table.mem_of_find? found
        obtain rfl := Table.key_of_find? found
        obtain ⟨decision, decides, allows⟩ := @checkOrder_toJson order order.id amount
          (reachable.orders_wellFormed order mem).nonneg.2
          (reachable.refunded_le_paid faithful order mem)
          (reachable.storable.orders order mem).2.2.1 (money_spec reads).1
        refine ⟨decision, decides, allows.trans ⟨fun h => ⟨order, amount, rfl, rfl, found, h⟩, ?_⟩⟩
        rintro ⟨other, _, same, ⟨⟩, listed, h⟩
        rw [← Option.some.inj same, found] at listed
        exact Option.some.inj listed ▸ h

omit [Python] in
theorem argument_of_only (sends : Sends command action)
    (only : action.arguments = [("amount", value)]) :
    command.argument "amount" = value ∧ action.argument "amount" = value ∧
      command.checkArgs ["amount"] ["amount"] = .ok () := by
  have arguments := sends.arguments.trans only
  refine ⟨?_, ?_, ?_⟩
  · simp [ActionCommand.argument, arguments, Json.get, Json.get?]
  · simp [GateAction.argument, only]
  · simp [ActionCommand.checkArgs, ActionCommand.argumentNames, arguments, ensure]

/-- A refund that the sandbox makes is covered. -/
theorem payable_of_ok (faithful : run.profile.Faithful) (sends : Sends command action)
    (refund : action.actionType = .refundOrder) (only : action.arguments = [("amount", value)])
    {read : Option Amount} (reads : money value = .ok read) {result : RunSpace × Outcome}
    (h : run.savepoint command key now = .ok result) : Payable run action.targetId read := by
  obtain ⟨-, r, dispatched, -⟩ := RunSpace.savepoint_ok h
  have handled := (RunSpace.dispatch_ok dispatched).1
  unfold RunSpace.handler at handled
  rw [sends.actionType.trans refund] at handled
  obtain ⟨order, _, amount, _, target, found, refundable, ⟨currency, parsed⟩, positive, ceiling, -⟩ :=
    RunSpace.refundOrder_ok handled
  rw [(argument_of_only sends only).1] at parsed
  have same := reads.symm.trans (money_of_ok parsed)
  rw [if_pos positive] at same
  rw [RunSpace.refundCeiling_of_faithful faithful] at ceiling
  exact ⟨order, amount, sends.targetId.symm.trans target, Except.ok.inj same, found, refundable,
    by omega⟩

omit [Python] in
/-- A refund that is not covered writes nothing, so that only the name of the order must be
    plain. -/
theorem fits_of_not_payable (faithful : run.profile.Faithful) (sends : Sends command action)
    (refund : action.actionType = .refundOrder) (only : action.arguments = [("amount", value)])
    {read : Option Amount} (reads : money value = .ok read)
    (uncovered : ¬ Payable run action.targetId read)
    (plain : ∀ orderId ∈ action.targetId, orderId ≠ "" → Plain orderId) :
    run.Fits command key := by
  unfold RunSpace.Fits
  rw [sends.actionType.trans refund]
  intro _ orderId target
  obtain ⟨target, nonempty⟩ := command.target_eq_ok.1 target
  rw [sends.targetId] at target
  refine ⟨plain orderId target nonempty, fun order found refundable amount currency parsed valid
    ceiling => (uncovered ?_).elim⟩
  rw [(argument_of_only sends only).1] at parsed
  have same := reads.symm.trans (money_of_ok parsed)
  rw [if_pos (by omega)] at same
  rw [RunSpace.refundCeiling_of_faithful faithful] at ceiling
  obtain rfl := Table.key_of_find? found
  exact ⟨order, amount, target, Except.ok.inj same, found, refundable, by omega⟩

/-- The gate decides about a refund in an environment without defects as the sandbox does, exactly
    if its amount takes at most 28 digits at two places, and what it writes can be held. -/
theorem preCheck_mirrors_iff (reachable : RunSpace.Reachable run)
    (faithful : run.profile.Faithful) (refund : action.actionType = .refundOrder)
    (only : action.arguments = [("amount", value)])
    (new : run.existing .refundOrder key = none) :
    Mirrors run action key captured now ↔ AmountFits value ∧ Holdable run action key := by
  have answers (command : ActionCommand) (sends : Sends command action) :
      Answers (run.savepoint command key now) ↔
        (.refundOrder ∈ run.scenarioType.actions → run.Fits command key) := by
    have action := sends.actionType.trans refund
    rw [RunSpace.savepoint_answers reachable (by rw [action]; exact new), action]
    simp
  have named (command : ActionCommand) (sends : Sends command action) (fits : run.Fits command key)
      (orderId : String) (target : orderId ∈ action.targetId) (nonempty : orderId ≠ "") :
      Plain orderId := by
    unfold RunSpace.Fits at fits
    rw [sends.actionType.trans refund] at fits
    exact (fits (argument_of_only sends only).2.2 orderId
      (command.target_eq_ok.2 ⟨sends.targetId.trans target, nonempty⟩)).1
  have argument : action.argument "amount" = value := by simp [GateAction.argument, only]
  constructor
  · rintro ⟨decision, decides, rejects, accepts⟩
    have reads : ∃ read, money (action.argument "amount") = .ok read := by
      unfold preCheck at decides
      rw [if_neg (not_not.2 refund)] at decides
      obtain ⟨read, reads, -⟩ := Checked.bind_eq_ok.1 decides
      exact ⟨read, reads⟩
    refine ⟨argument ▸ money_ok_iff.1 reads, fun command sends scenario => ⟨?_, ?_⟩⟩
    · intro orderId target nonempty
      obtain ⟨read, reads⟩ := reads
      obtain ⟨_, decides', allows⟩ :=
        @preCheck_payable _ run action captured reachable faithful refund read reads
      obtain rfl := Except.ok.inj (decides.symm.trans decides')
      by_cases allowed : decision.decision = .allow
      · obtain ⟨order, _, same, -, found, -⟩ := allows.1 allowed
        obtain rfl := Option.some.inj (same.symm.trans target)
        exact (reachable.identified.order_id (Table.mem_of_find? found)).1
      · have fits := (answers command sends).1
          (answers_of_rejects (rejects allowed command sends)) scenario
        exact named command sends fits orderId target nonempty
    · intro plain cny
      by_cases allowed : decision.decision = .allow
      · exact (answers command sends).1
          (answers_of_accepts (accepts allowed plain cny command sends)) scenario
      · exact (answers command sends).1
          (answers_of_rejects (rejects allowed command sends)) scenario
  · rintro ⟨fits, holdable⟩
    obtain ⟨read, reads⟩ := money_ok_iff.2 fits
    obtain ⟨decision, decides, allows⟩ :=
      @preCheck_payable _ run action captured reachable faithful refund read (argument ▸ reads)
    refine ⟨decision, decides, fun blocked command sends => ?_, fun allowed plain cny command sends =>
      ?_⟩
    · have uncovered : ¬ Payable run action.targetId read := fun payable =>
        blocked (allows.2 payable)
      have answered := (answers command sends).2 fun scenario =>
        fits_of_not_payable faithful sends refund only reads uncovered
          (holdable command sends scenario).1
      rcases ok_or_rejects answered with ⟨_, ok⟩ | rejects
      · exact (uncovered (payable_of_ok faithful sends refund only reads ok)).elim
      · exact rejects
    · obtain ⟨order, amount, target, rfl, found, refundable, covered⟩ := allows.1 allowed
      have answered := (answers command sends).2 fun scenario =>
        (holdable command sends scenario).2 plain cny
      obtain ⟨sent, -, args⟩ := argument_of_only sends only
      have currency : order.currency = .cny := cny order.id target order found
      rw [argument] at plain
      have parsed : RuleArena.money (command.argument "amount") "amount" =
          .ok (amount, order.currency) := by
        rw [sent, currency]
        exact ok_of_money plain reads
      have passes := @RunSpace.Reachable.refund_passes run command key now _ reachable faithful order
        amount (sends.actionType.trans refund) args (sends.targetId.trans target) found refundable parsed
        (money_spec reads).1 covered
      rcases ok_or_rejects answered with ok | ⟨error, rejects⟩
      · exact .inl ok
      · exact .inr ⟨error, rejects, passes _ rejects⟩

end Mirror

/-- A refund of the first order. -/
def refundAction (amount : String) : GateAction where
  actionType := .refundOrder
  targetId := some "order-1"
  arguments := [("amount", .str amount)]

/-- The rule at work: a refund after a payment. -/
theorem preCheck_mirrors_iff_paid :
    let _ := Python.transparent
    let run := (createRun { scenarioType := .promotion } "run").after paidHistory
    Mirrors run (refundAction "10.00") "gated" 4 5 ↔
      AmountFits (.str "10.00") ∧ Holdable run (refundAction "10.00") "gated" := by
  intro _ run
  have faithful : run.profile.axes = [] := by decide +kernel
  have new : run.existing .refundOrder "gated" = none := by decide +kernel
  exact preCheck_mirrors_iff ⟨_, _, _, rfl⟩ faithful rfl rfl new

/-- At two places a one with thirty zeros takes 33 digits, and the gate raises. -/
theorem not_preCheck_mirrors :
    let _ := Python.transparent
    let run := (createRun { scenarioType := .promotion } "run").after paidHistory
    ¬ Mirrors run (refundAction "1e30") "gated" 4 5 := by
  rintro _ run ⟨_, decides, -⟩
  have raises : preCheck (some (run.snapshot 4)) run.id (refundAction "1e30") =
      .error (.other "InvalidOperation") := rfl
  rw [raises] at decides
  cases decides

end RuntimeGate

end RuleArena
