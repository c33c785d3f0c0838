import RuleArena.Foundation.PyValue
import RuleArena.Simulator.Policy

/-!
# The state of the reference simulator

The simulator is a small model of the rules, independent of the sandbox. A state
holds its rows in lists, in the order of their creation, and remembers the keys
of the actions that were applied. Amounts are numbers of cents.

An action's arguments are texts, integers and truth values, which a handler
reads with what Python makes of them (`ArgValue.money`, `ArgValue.toInt`).
-/

namespace RuleArena

/-! ## Rows -/

inductive SimMembershipState
  | none
  | active
  | inactive
  deriving DecidableEq, Repr

inductive SimCouponStatus
  | available
  | reserved
  | used
  deriving DecidableEq, Repr

inductive SimOrderStatus
  | created
  | paid
  | partiallyRefunded
  | refunded
  deriving DecidableEq, Repr

inductive SimMembershipStatus
  | active
  | cancelled
  | refunded
  deriving DecidableEq, Repr

structure SimUser where
  userId : String
  balance : Int
  currency : Currency
  pointsBalance : Int := 0
  membershipStatus : SimMembershipState := .none
  isNewUser : Bool := true
  deriving DecidableEq, Repr

structure SimCoupon where
  couponId : String
  ownerId : String
  faceValue : Int
  threshold : Int
  currency : Currency
  status : SimCouponStatus := .available
  reservedOrderId : Option String := none
  usedOrderId : Option String := none
  usageCount : Nat := 0
  deriving DecidableEq, Repr

structure SimOrder where
  orderId : String
  userId : String
  originalAmount : Int
  currency : Currency
  discountAmount : Int := 0
  paidAmount : Int := 0
  refundedAmount : Int := 0
  pointsGranted : Int := 0
  pointsRevoked : Int := 0
  refundCount : Nat := 0
  status : SimOrderStatus := .created
  couponId : Option String := none
  deriving DecidableEq, Repr

structure SimMembership where
  membershipId : String
  userId : String
  paidAmount : Int
  currency : Currency
  status : SimMembershipStatus := .active
  refundedAmount : Int := 0
  deriving DecidableEq, Repr

structure SimEntitlement where
  entitlementId : String
  membershipId : String
  granted : Int
  consumed : Int := 0
  revoked : Int := 0
  deriving DecidableEq, Repr

def SimEntitlement.available (entitlement : SimEntitlement) : Int :=
  entitlement.granted - entitlement.consumed - entitlement.revoked

structure SimulationState where
  scenarioType : ScenarioType
  users : List SimUser := []
  coupons : List SimCoupon := []
  orders : List SimOrder := []
  memberships : List SimMembership := []
  entitlements : List SimEntitlement := []
  seenIdempotencyKeys : List (ActionName × String) := []
  deriving DecidableEq, Repr

/-! ## Actions -/

/-- A value of an argument. -/
inductive ArgValue
  | str (s : String)
  | int (i : Int)
  | bool (b : Bool)
  deriving DecidableEq, Repr

structure SimAction where
  actionType : ActionName
  actorId : String := "user-1"
  targetId : Option String := none
  arguments : List (String × ArgValue) := []
  idempotencyKey : Option String := none
  deriving DecidableEq, Repr

/-- `action.argument(name)`: of several arguments of a name the last one counts. -/
def SimAction.argument? (action : SimAction) (name : String) : Option ArgValue :=
  action.arguments.reverse.lookup name

/-- `action.target_id or action.actor_id` -/
def SimAction.targetOrActor (action : SimAction) : String :=
  match action.targetId with
  | some target => if target = "" then action.actorId else target
  | none => action.actorId

structure SimEvent where
  eventType : BusinessEventType
  aggregateType : AggregateType
  aggregateId : String
  payload : List (String × ArgValue) := []
  deriving DecidableEq, Repr

/-! ## Reading arguments -/

/-- What a handler can raise. -/
inductive SimException
  | arithmeticError
  | typeError
  | valueError
  | stopIteration
  | indexError
  | unboundLocalError
  deriving DecidableEq, Repr

/-- How a handler ends without applying an action. -/
inductive SimFault
  | reject (code : String)
  | raised (exception : SimException)
  deriving DecidableEq, Repr

def arithmeticError : SimFault := .raised .arithmeticError

def valueError : SimFault := .raised .valueError

/-- `quantize(CENT, rounding=ROUND_HALF_UP)` of a numeral, in cents. A NaN stays a NaN. -/
def quantizeMoney (decimal : PyDecimal) : Except SimFault (Option Int) :=
  match decimal.quantize with
  | some (.inl amount) => return some amount.toInt
  | some (.inr ()) => return none
  | none => throw arithmeticError

/-- An amount in a comparison of order, which a NaN has no place in. -/
def ordered (amount : Option Int) : Except SimFault Int :=
  match amount with
  | some cents => return cents
  | none => throw arithmeticError

namespace ArgValue

/-- `str(value)`, which refuses integers of more than 4300 digits. -/
def toStr : ArgValue → Except SimFault String
  | str s => return s
  | int i => do
    ensure (numDigits i.natAbs ≤ 4300) valueError
    return toString i
  | bool b => return if b then "True" else "False"

/-- `int(value)` -/
def toInt : ArgValue → Except SimFault Int
  | str s =>
    match parseInt s with
    | some i => return i
    | none => throw valueError
  | int i => return i
  | bool b => return if b then 1 else 0

/-- `bool(value)` -/
def truthy : ArgValue → Bool
  | str s => s ≠ ""
  | int i => i ≠ 0
  | bool b => b

/-- `_money` -/
def money (value : ArgValue) : Except SimFault (Option Int) := do
  match PyDecimal.parse (← value.toStr) with
  | some decimal => quantizeMoney decimal
  | none => throw arithmeticError

/-- `Currency(str(value))` -/
def currency (value : ArgValue) : Except SimFault Currency := do
  match Currency.ofJson? (.str (← value.toStr)) with
  | some currency => return currency
  | none => throw valueError

end ArgValue

/-! ## Actions to try -/

def createOrderAction (amount : String) : SimAction where
  actionType := .createOrder
  arguments := [("amount", .str amount)]

/-- A user with a balance, and one order of theirs that is paid. -/
def paidOrderActions (balance amount : String) : List SimAction :=
  [{ actionType := .createUser, arguments := [("initial_balance", .str balance)] },
   createOrderAction amount,
   { actionType := .payOrder, targetId := some "order-1" }]

def refundOrderAction (amount : String) : SimAction where
  actionType := .refundOrder
  targetId := some "order-1"
  arguments := [("amount", .str amount)]

/-! ## Rows by their position -/

/-- The first item with a property, and its position. -/
def locate {α : Type} (p : α → Bool) : List α → Option (Nat × α)
  | [] => none
  | a :: as => if p a then some (0, a) else (locate p as).map fun found => (found.1 + 1, found.2)

theorem locate_spec {α : Type} {p : α → Bool} {items : List α} {i : Nat} {a : α}
    (h : locate p items = some (i, a)) : items[i]? = some a ∧ p a = true := by
  induction items generalizing i with
  | nil => cases h
  | cons b items ih =>
    unfold locate at h
    split at h
    · rename_i hb
      cases h
      exact ⟨rfl, hb⟩
    · obtain ⟨⟨j, c⟩, hj, e⟩ := Option.map_eq_some_iff.1 h
      cases e
      exact ih hj

theorem locate_mem {α : Type} {p : α → Bool} {items : List α} {i : Nat} {a : α}
    (h : locate p items = some (i, a)) : a ∈ items :=
  List.mem_of_getElem? (locate_spec h).1

theorem locate_eq_none {α : Type} {p : α → Bool} {items : List α} :
    locate p items = none ↔ ∀ a ∈ items, p a = false := by
  induction items with
  | nil => simp [locate]
  | cons a items ih =>
    rw [locate]
    split
    · rename_i ha
      simp [ha]
    · rename_i ha
      simpa [ha] using ih

/-- What holds of every item and of a new one still holds when the new one replaces an item. -/
theorem forall_mem_set {α : Type} {P : α → Prop} {items : List α} {i : Nat} {a : α}
    (all : ∀ b ∈ items, P b) (new : P a) : ∀ b ∈ items.set i a, P b := by
  intro b hb
  rcases List.mem_or_eq_of_mem_set hb with hb | rfl
  · exact all b hb
  · exact new

theorem locate_map_snd {α : Type} (p : α → Bool) (items : List α) :
    (locate p items).map Prod.snd = items.find? p := by
  induction items with
  | nil => rfl
  | cons a items ih =>
    rw [locate, List.find?_cons]
    by_cases ha : p a
    · simp [ha]
    · simp [ha, ← ih, Function.comp_def]

end RuleArena
