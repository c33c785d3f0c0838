import RuleArena.Foundation.DecimalContext
import RuleArena.Foundation.PyValue
import RuleArena.Foundation.Table
import RuleArena.Sandbox.Domain

/-!
# Run spaces

The rows a run owns, and what the database lets them be. Amounts are numbers of
cents: every amount that reaches a row has been quantized to two places.

The tables hold rows of the current epoch only; a reset deletes them. Events and
receipts stay and carry the epoch they belong to.

`RunSpace.Storable` is what a flush enforces: the ranges of the numeric columns,
the lengths of texts, and the uniqueness constraints. `RunSpace.event` is where
a handler flushes.
-/

namespace RuleArena

/-! ## Rows -/

structure TestUser where
  id : String
  balance : Int
  currency : Currency
  pointsBalance : Int
  isNewUser : Bool
  membershipStatus : MembershipStatus
  deriving DecidableEq, Repr

structure Coupon where
  id : String
  ownerId : String
  faceValue : Int
  threshold : Int
  currency : Currency
  status : CouponStatus
  reservedOrderId : Option String
  usedOrderId : Option String
  usageCount : Int
  deriving DecidableEq, Repr

structure Order where
  id : String
  userId : String
  originalAmount : Int
  discountAmount : Int
  paidAmount : Int
  refundedAmount : Int
  pointsGranted : Int
  currency : Currency
  status : OrderStatus
  couponId : Option String
  deriving DecidableEq, Repr

structure Refund where
  id : String
  orderId : String
  amount : Int
  idempotencyKey : String
  deriving DecidableEq, Repr

structure PointsLedgerEntry where
  userId : String
  orderId : Option String
  entryType : LedgerEntryType
  amount : Int
  idempotencyKey : String
  deriving DecidableEq, Repr

structure Membership where
  id : String
  userId : String
  paidAmount : Int
  currency : Currency
  status : MembershipStatus
  deriving DecidableEq, Repr

structure Entitlement where
  id : String
  membershipId : String
  entitlementType : String
  grantedQuantity : Int
  consumedQuantity : Int
  revokedQuantity : Int
  status : EntitlementStatus
  deriving DecidableEq, Repr

structure BusinessEvent where
  epoch : Nat
  sequence : Nat
  aggregateType : AggregateType
  aggregateId : String
  eventType : BusinessEventType
  payload : List (String × Json)
  idempotencyKey : String
  occurredAt : Nat
  deriving DecidableEq

structure Money where
  currency : Currency
  amount : Amount
  deriving DecidableEq, Repr

/-- A business outcome that a command is refused with. -/
structure DomainError where
  code : String
  message : String
  details : List (String × Json) := []
  deriving DecidableEq

/-- A durable receipt. -/
structure ActionReceiptRecord where
  epoch : Nat
  idempotencyKey : String
  actionType : ActionName
  status : ActionStatus
  monetaryEffects : List Money
  result : List (String × Json)
  error : Option DomainError
  occurredAt : Nat
  deriving DecidableEq

/-- A run with all the rows that belong to it. -/
structure RunSpace where
  id : String
  scenarioType : ScenarioType
  sandboxVersion : SandboxVersion
  defectAxes : Option (List DefectAxis)
  epoch : Nat
  snapshotVersion : Nat
  /-- A run has at most one test user. -/
  user : Option TestUser
  coupons : List Coupon
  orders : List Order
  refunds : List Refund
  ledger : List PointsLedgerEntry
  memberships : List Membership
  entitlements : List Entitlement
  events : List BusinessEvent
  receipts : List ActionReceiptRecord
  deriving DecidableEq

/-! ## What the database stores -/

/-- A `Numeric(18, 4)` column holds fourteen digits before the point. -/
def Numeric (cents : Int) : Prop := -10 ^ 16 < cents ∧ cents < 10 ^ 16

instance (cents : Int) : Decidable (Numeric cents) := inferInstanceAs (Decidable (_ ∧ _))

/-- An `Integer` column holds 32 bits. -/
def Int32 (i : Int) : Prop := -2 ^ 31 ≤ i ∧ i < 2 ^ 31

instance (i : Int) : Decidable (Int32 i) := inferInstanceAs (Decidable (_ ∧ _))

def TestUser.Storable (user : TestUser) : Prop := Numeric user.balance ∧ Int32 user.pointsBalance

instance (user : TestUser) : Decidable user.Storable := inferInstanceAs (Decidable (_ ∧ _))

def Coupon.Storable (coupon : Coupon) : Prop :=
  Numeric coupon.faceValue ∧ Numeric coupon.threshold ∧ Int32 coupon.usageCount

instance (coupon : Coupon) : Decidable coupon.Storable := inferInstanceAs (Decidable (_ ∧ _))

def Order.Storable (order : Order) : Prop :=
  Numeric order.originalAmount ∧ Numeric order.discountAmount ∧ Numeric order.paidAmount ∧
    Numeric order.refundedAmount ∧ Int32 order.pointsGranted

instance (order : Order) : Decidable order.Storable := inferInstanceAs (Decidable (_ ∧ _))

def Entitlement.Storable (entitlement : Entitlement) : Prop :=
  Int32 entitlement.grantedQuantity ∧ Int32 entitlement.consumedQuantity ∧
    Int32 entitlement.revokedQuantity

instance (entitlement : Entitlement) : Decidable entitlement.Storable :=
  inferInstanceAs (Decidable (_ ∧ _))

def PointsLedgerEntry.Storable (entry : PointsLedgerEntry) : Prop :=
  Int32 entry.amount ∧ entry.idempotencyKey.length ≤ 256

instance (entry : PointsLedgerEntry) : Decidable entry.Storable :=
  inferInstanceAs (Decidable (_ ∧ _))

namespace RunSpace

/-- What holds of the rows of a run after a flush: they fit their columns, and
    the primary keys and the uniqueness constraints hold. -/
structure Storable (run : RunSpace) : Prop where
  snapshotVersion : Int32 run.snapshotVersion
  user : ∀ user ∈ run.user, user.Storable
  coupons : ∀ coupon ∈ run.coupons, coupon.Storable
  orders : ∀ order ∈ run.orders, order.Storable
  refunds : ∀ refund ∈ run.refunds, Numeric refund.amount
  ledger : ∀ entry ∈ run.ledger, entry.Storable
  memberships : ∀ membership ∈ run.memberships, Numeric membership.paidAmount
  entitlements : ∀ entitlement ∈ run.entitlements, entitlement.Storable
  events : ∀ event ∈ run.events, Int32 event.sequence
  coupons_keyed : Table.Keyed Coupon.id run.coupons
  orders_keyed : Table.Keyed Order.id run.orders
  memberships_keyed : Table.Keyed Membership.id run.memberships
  entitlements_keyed : Table.Keyed Entitlement.id run.entitlements
  refunds_keyed : Table.Keyed Refund.id run.refunds
  refunds_key : Table.Keyed Refund.idempotencyKey run.refunds
  ledger_key : Table.Keyed PointsLedgerEntry.idempotencyKey run.ledger
  events_sequence : Table.Keyed (fun event => (event.epoch, event.sequence)) run.events
  receipts_key : Table.Keyed
    (fun record => (record.epoch, record.actionType, record.idempotencyKey)) run.receipts

instance {κ α : Type} [DecidableEq κ] (key : α → κ) (rows : List α) :
    Decidable (Table.Keyed key rows) := inferInstanceAs (Decidable (List.Nodup _))

instance (run : RunSpace) : Decidable run.Storable :=
  decidable_of_iff
    (Int32 run.snapshotVersion ∧ (∀ user ∈ run.user, user.Storable) ∧
      (∀ coupon ∈ run.coupons, coupon.Storable) ∧ (∀ order ∈ run.orders, order.Storable) ∧
      (∀ refund ∈ run.refunds, Numeric refund.amount) ∧ (∀ entry ∈ run.ledger, entry.Storable) ∧
      (∀ membership ∈ run.memberships, Numeric membership.paidAmount) ∧
      (∀ entitlement ∈ run.entitlements, entitlement.Storable) ∧
      (∀ event ∈ run.events, Int32 event.sequence) ∧
      Table.Keyed Coupon.id run.coupons ∧ Table.Keyed Order.id run.orders ∧
      Table.Keyed Membership.id run.memberships ∧ Table.Keyed Entitlement.id run.entitlements ∧
      Table.Keyed Refund.id run.refunds ∧ Table.Keyed Refund.idempotencyKey run.refunds ∧
      Table.Keyed PointsLedgerEntry.idempotencyKey run.ledger ∧
      Table.Keyed (fun event => (event.epoch, event.sequence)) run.events ∧
      Table.Keyed (fun record => (record.epoch, record.actionType, record.idempotencyKey))
        run.receipts)
    ⟨fun ⟨a, b, c, d, e, f, g, h, i, j, k, l, m, n, o, p, q, r⟩ =>
      ⟨a, b, c, d, e, f, g, h, i, j, k, l, m, n, o, p, q, r⟩,
    fun ⟨a, b, c, d, e, f, g, h, i, j, k, l, m, n, o, p, q, r⟩ =>
      ⟨a, b, c, d, e, f, g, h, i, j, k, l, m, n, o, p, q, r⟩⟩

end RunSpace

/-! ## Failures -/

/-- Exceptions other than a business outcome: they undo the whole transaction. -/
inductive Crash
  /-- An unhashable value was looked up in a set. -/
  | typeError
  /-- An infinite number was converted to an integer. -/
  | overflowError
  /-- An integer of more than 4300 digits was converted to a text. -/
  | valueError
  /-- The database refused a value. -/
  | dataError
  deriving DecidableEq, Repr

inductive Fault
  | domain (error : DomainError)
  | crash (crash : Crash)
  deriving DecidableEq

/-- A business rejection without details. -/
def Fault.reject (code message : String) : Fault := .domain { code, message }

/-- A text as the parameter of a query: the database refuses a NUL character. -/
def queryText (text : String) : Except Fault Unit :=
  ensure (Char.ofNat 0 ∉ text.toList) (.crash .dataError)

namespace RunSpace

variable (run : RunSpace)

def profile : SandboxProfile := .forRun run.sandboxVersion run.defectAxes

/-- Write the changes of a transaction to the database. -/
def flush : Except Fault RunSpace := do
  ensure run.Storable (.crash .dataError)
  return run

@[simp] theorem flush_eq_ok {run' : RunSpace} :
    run.flush = .ok run' ↔ run.Storable ∧ run = run' := by
  simp [flush]

/-! ## Updates -/

@[simps] def setUser (user : TestUser) : RunSpace := { run with user := some user }

@[simps] def setCoupon (coupon : Coupon) : RunSpace :=
  { run with coupons := Table.update Coupon.id run.coupons coupon }

@[simps] def setOrder (order : Order) : RunSpace :=
  { run with orders := Table.update Order.id run.orders order }

@[simps] def setMembership (membership : Membership) : RunSpace :=
  { run with memberships := Table.update Membership.id run.memberships membership }

@[simps] def setEntitlement (entitlement : Entitlement) : RunSpace :=
  { run with entitlements := Table.update Entitlement.id run.entitlements entitlement }

@[simps] def addCoupon (coupon : Coupon) : RunSpace := { run with coupons := run.coupons ++ [coupon] }

@[simps] def addOrder (order : Order) : RunSpace := { run with orders := run.orders ++ [order] }

@[simps] def addRefund (refund : Refund) : RunSpace := { run with refunds := run.refunds ++ [refund] }

@[simps] def addMembership (membership : Membership) : RunSpace :=
  { run with memberships := run.memberships ++ [membership] }

@[simps] def addEntitlement (entitlement : Entitlement) : RunSpace :=
  { run with entitlements := run.entitlements ++ [entitlement] }

/-- `_ledger`: a new entry of the points ledger. -/
@[simps] def addLedger (userId : String) (orderId : Option String) (entryType : LedgerEntryType)
    (amount : Int) (ledgerKey : String) : RunSpace :=
  { run with ledger := run.ledger ++ [⟨userId, orderId, entryType, amount, ledgerKey⟩] }

/-- The events of the current epoch. -/
def epochEvents : List BusinessEvent := run.events.filter (·.epoch = run.epoch)

/-- `max(sequence)` over the events of the current epoch, zero if there is none. -/
def lastSequence : Nat := (run.epochEvents.map (·.sequence)).foldl max 0

/-- The event a handler appends. -/
@[simps] def newEvent (aggregateType : AggregateType) (aggregateId : String)
    (eventType : BusinessEventType) (payload : List (String × Json)) (key : String) (now : Nat) :
    BusinessEvent :=
  { epoch := run.epoch, sequence := run.lastSequence + 1, aggregateType, aggregateId, eventType,
    payload, idempotencyKey := key, occurredAt := now }

/-- The run with an event appended. -/
@[simps] def addEvent (aggregateType : AggregateType) (aggregateId : String)
    (eventType : BusinessEventType) (payload : List (String × Json)) (key : String) (now : Nat) :
    RunSpace :=
  { run with
    events := run.events ++
      [run.newEvent aggregateType aggregateId eventType payload key now] }

/-- `_event`: append an event under the next sequence number, and flush. -/
def event (aggregateType : AggregateType) (aggregateId : String)
    (eventType : BusinessEventType) (payload : List (String × Json)) (key : String) (now : Nat) :
    Except Fault RunSpace :=
  (run.addEvent aggregateType aggregateId eventType payload key now).flush

/-! ## Lookups -/

/-- `_user` -/
def getUser (userId : String) : Except Fault TestUser := do
  queryText userId
  match run.user with
  | some user =>
    ensure (user.id = userId) (.reject "USER_NOT_FOUND" "user was not found")
    return user
  | none => throw (.reject "USER_NOT_FOUND" "user was not found")

/-- A row looked up under an identifier. -/
def getRow {α : Type} (key : α → String) (rows : List α) (id : String) (missing : Fault) :
    Except Fault α := do
  queryText id
  match Table.find? key rows id with
  | some row => return row
  | none => throw missing

/-- `_order` -/
def getOrder (orderId : String) : Except Fault Order :=
  getRow Order.id run.orders orderId (.reject "ORDER_NOT_FOUND" "order was not found")

/-- `_coupon` -/
def getCoupon (couponId : String) : Except Fault Coupon :=
  getRow Coupon.id run.coupons couponId (.reject "COUPON_NOT_FOUND" "coupon was not found")

/-- `_membership` -/
def getMembership (membershipId : String) : Except Fault Membership :=
  getRow Membership.id run.memberships membershipId
    (.reject "MEMBERSHIP_NOT_FOUND" "membership was not found")

/-- `_entitlement` -/
def getEntitlement (entitlementId : String) : Except Fault Entitlement :=
  getRow Entitlement.id run.entitlements entitlementId
    (.reject "ENTITLEMENT_NOT_FOUND" "entitlement was not found")

/-- `_entitlement_by_membership` -/
def getEntitlementByMembership (membershipId : String) : Except Fault Entitlement :=
  getRow Entitlement.membershipId run.entitlements membershipId
    (.reject "ENTITLEMENT_NOT_FOUND" "membership entitlement was not found")

/-- `_next_id`: the number of rows, plus one. -/
def nextId {α : Type} (rows : List α) (kind : String) : String :=
  kind ++ "-" ++ toString (rows.length + 1)

@[simp] theorem getUser_eq_ok {userId : String} {user : TestUser} :
    run.getUser userId = .ok user ↔
      Char.ofNat 0 ∉ userId.toList ∧ run.user = some user ∧ user.id = userId := by
  unfold getUser queryText
  cases run.user with
  | none => simp
  | some u =>
    simp only [Checked.bind_eq_ok, Checked.ensure_eq_ok, Checked.pure_eq_ok, Option.some.injEq,
      exists_const]
    constructor
    · rintro ⟨h, e, rfl⟩; exact ⟨h, rfl, e⟩
    · rintro ⟨h, rfl, e⟩; exact ⟨h, e, rfl⟩

theorem getRow_eq_ok {α : Type} {key : α → String} {rows : List α} {id : String} {missing : Fault}
    {row : α} : getRow key rows id missing = .ok row ↔
      Char.ofNat 0 ∉ id.toList ∧ Table.find? key rows id = some row := by
  unfold getRow queryText
  cases Table.find? key rows id <;> simp

end RunSpace

end RuleArena
