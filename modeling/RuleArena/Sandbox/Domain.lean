import RuleArena.Foundation.JsonText

/-!
# The vocabulary of the sandbox

The closed sets of words of the commerce sandbox: scenarios, currencies, the
actions a command can name, the states of its rows, the types of its events,
and the defects an environment can exhibit.

Each set is an enumeration of the source, with its `value`, the text that stands
for it in a command, a receipt, a snapshot or an event. The oracle reads these
texts back, so that they are told apart (`OrderStatus.value_inj`,
`BusinessEventType.value_inj`).

A run's environment is a `SandboxProfile`: the set of defect axes it exhibits.
Each axis is consulted at a single site, and is reachable only in the scenarios
`axesByScenario` lists it under. An environment without defects is `Faithful`.
-/

namespace RuleArena

/-- The three business flows an environment is created for. -/
inductive ScenarioType
  | promotion
  | refundPoints
  | membershipEntitlement
  deriving DecidableEq, Repr

/-- The name in a request. -/
def ScenarioType.value : ScenarioType → String
  | promotion => "PROMOTION"
  | refundPoints => "REFUND_POINTS"
  | membershipEntitlement => "MEMBERSHIP_ENTITLEMENT"

/-- The currencies amounts are in. -/
inductive Currency
  | cny
  | usd
  deriving DecidableEq, Repr

def Currency.value : Currency → String
  | cny => "CNY"
  | usd => "USD"

/-- `Currency(value)`: the currency a value is the name of. -/
def Currency.ofJson? : Json → Option Currency
  | .str s => if s = "CNY" then some cny else if s = "USD" then some usd else none
  | _ => none

/-- The versions an environment can be created in. -/
inductive SandboxVersion
  | fixed
  | vulnerable
  deriving DecidableEq, Repr

/-- The actions a command can name. -/
inductive ActionName
  | createUser
  | issueCoupon
  | createOrder
  | applyCoupon
  | payOrder
  | cancelOrder
  | refundOrder
  | redeemPoints
  | activateMembership
  | consumeEntitlement
  | cancelMembership
  | inspectState
  deriving DecidableEq, Repr

/-- The name in a command. -/
def ActionName.value : ActionName → String
  | createUser => "create_user"
  | issueCoupon => "issue_coupon"
  | createOrder => "create_order"
  | applyCoupon => "apply_coupon"
  | payOrder => "pay_order"
  | cancelOrder => "cancel_order"
  | refundOrder => "refund_order"
  | redeemPoints => "redeem_points"
  | activateMembership => "activate_membership"
  | consumeEntitlement => "consume_entitlement"
  | cancelMembership => "cancel_membership"
  | inspectState => "inspect_state"

/-- The name in a receipt: the `ActionType`, in upper case. -/
def ActionName.actionType : ActionName → String
  | createUser => "CREATE_USER"
  | issueCoupon => "ISSUE_COUPON"
  | createOrder => "CREATE_ORDER"
  | applyCoupon => "APPLY_COUPON"
  | payOrder => "PAY_ORDER"
  | cancelOrder => "CANCEL_ORDER"
  | refundOrder => "REFUND_ORDER"
  | redeemPoints => "REDEEM_POINTS"
  | activateMembership => "ACTIVATE_MEMBERSHIP"
  | consumeEntitlement => "CONSUME_ENTITLEMENT"
  | cancelMembership => "CANCEL_MEMBERSHIP"
  | inspectState => "INSPECT_STATE"

/-- Receipts tell the actions apart. -/
theorem ActionName.actionType_inj {a b : ActionName} (h : a.actionType = b.actionType) : a = b := by
  revert h; cases a <;> cases b <;> decide

/-- How a command ended. -/
inductive ActionStatus
  | succeeded
  | rejected
  deriving DecidableEq, Repr

def ActionStatus.value : ActionStatus → String
  | succeeded => "SUCCEEDED"
  | rejected => "REJECTED"

/-! ## The states of rows -/

/-- The states of an order, from its creation to its refund. -/
inductive OrderStatus
  | draft
  | pendingPayment
  | paid
  | partiallyRefunded
  | refunded
  | cancelled
  deriving DecidableEq, Repr

def OrderStatus.value : OrderStatus → String
  | draft => "DRAFT"
  | pendingPayment => "PENDING_PAYMENT"
  | paid => "PAID"
  | partiallyRefunded => "PARTIALLY_REFUNDED"
  | refunded => "REFUNDED"
  | cancelled => "CANCELLED"

/-- Snapshots tell the states of orders apart. -/
theorem OrderStatus.value_inj {a b : OrderStatus} (h : a.value = b.value) : a = b := by
  revert h; cases a <;> cases b <;> decide

/-- The states of a coupon. A restored one can be applied again. -/
inductive CouponStatus
  | available
  | reserved
  | used
  | restored
  deriving DecidableEq, Repr

def CouponStatus.value : CouponStatus → String
  | available => "AVAILABLE"
  | reserved => "RESERVED"
  | used => "USED"
  | restored => "RESTORED"

/-- The states of a membership. It ends cancelled, or refunded. -/
inductive MembershipStatus
  | inactive
  | active
  | cancelled
  | refunded
  deriving DecidableEq, Repr

def MembershipStatus.value : MembershipStatus → String
  | inactive => "INACTIVE"
  | active => "ACTIVE"
  | cancelled => "CANCELLED"
  | refunded => "REFUNDED"

/-- The states of an entitlement. -/
inductive EntitlementStatus
  | granted
  | partiallyConsumed
  | consumed
  | revoked
  deriving DecidableEq, Repr

def EntitlementStatus.value : EntitlementStatus → String
  | granted => "GRANTED"
  | partiallyConsumed => "PARTIALLY_CONSUMED"
  | consumed => "CONSUMED"
  | revoked => "REVOKED"

/-- What an entry of the ledger of points records. -/
inductive LedgerEntryType
  | grant
  | revoke
  | redeem
  deriving DecidableEq, Repr

/-! ## Events -/

/-- What an event is about. -/
inductive AggregateType
  | user
  | coupon
  | order
  | membership
  | entitlement
  deriving DecidableEq, Repr

def AggregateType.value : AggregateType → String
  | user => "USER"
  | coupon => "COUPON"
  | order => "ORDER"
  | membership => "MEMBERSHIP"
  | entitlement => "ENTITLEMENT"

/-- What can happen to the rows of a run. -/
inductive BusinessEventType
  | userCreated
  | couponIssued
  | couponReserved
  | couponUsed
  | couponRestored
  | orderCreated
  | paymentCaptured
  | orderCancelled
  | refundIssued
  | pointsGranted
  | pointsRevoked
  | pointsRedeemed
  | membershipActivated
  | entitlementGranted
  | entitlementConsumed
  | entitlementRevoked
  | membershipCancelled
  | membershipRefunded
  deriving DecidableEq, Repr

def BusinessEventType.value : BusinessEventType → String
  | userCreated => "USER_CREATED"
  | couponIssued => "COUPON_ISSUED"
  | couponReserved => "COUPON_RESERVED"
  | couponUsed => "COUPON_USED"
  | couponRestored => "COUPON_RESTORED"
  | orderCreated => "ORDER_CREATED"
  | paymentCaptured => "PAYMENT_CAPTURED"
  | orderCancelled => "ORDER_CANCELLED"
  | refundIssued => "REFUND_ISSUED"
  | pointsGranted => "POINTS_GRANTED"
  | pointsRevoked => "POINTS_REVOKED"
  | pointsRedeemed => "POINTS_REDEEMED"
  | membershipActivated => "MEMBERSHIP_ACTIVATED"
  | entitlementGranted => "ENTITLEMENT_GRANTED"
  | entitlementConsumed => "ENTITLEMENT_CONSUMED"
  | entitlementRevoked => "ENTITLEMENT_REVOKED"
  | membershipCancelled => "MEMBERSHIP_CANCELLED"
  | membershipRefunded => "MEMBERSHIP_REFUNDED"

/-- The evidence tells the types of events apart. -/
theorem BusinessEventType.value_inj {a b : BusinessEventType} (h : a.value = b.value) : a = b := by
  revert h; cases a <;> cases b <;> decide

/-! ## Profiles -/

/-- One way an environment may deviate from the frozen rules. -/
inductive DefectAxis
  | couponRestoredOnRefund
  | refundAgainstOriginal
  | refundAckLost
  | pointsGrantedAgainOnRefund
  | pointsOverredemption
  | fullRefundAfterConsumption
  | entitlementLeftAfterRefund
  | entitlementOverconsumption
  deriving DecidableEq, Repr

/-- All axes, in the order of their declaration. -/
def DefectAxis.all : List DefectAxis :=
  [couponRestoredOnRefund, refundAgainstOriginal, refundAckLost, pointsGrantedAgainOnRefund,
   pointsOverredemption, fullRefundAfterConsumption, entitlementLeftAfterRefund,
   entitlementOverconsumption]

/-- Axes that change what the caller learns, not what the business did. -/
def transportDefectAxes : List DefectAxis := [.refundAckLost]

/-- Which defects the flows of a scenario can reach at all. -/
def axesByScenario : ScenarioType → List DefectAxis
  | .promotion => [.couponRestoredOnRefund, .refundAgainstOriginal, .refundAckLost]
  | .refundPoints => [.pointsGrantedAgainOnRefund, .pointsOverredemption, .refundAckLost]
  | .membershipEntitlement =>
    [.fullRefundAfterConsumption, .entitlementLeftAfterRefund, .entitlementOverconsumption]

/-- The axes asked for that no flow of the scenario can reach. -/
def unreachableAxes (scenario : ScenarioType) (axes : List DefectAxis) : List DefectAxis :=
  axes.filter (· ∉ axesByScenario scenario)

/-- Every business defect: what the `vulnerable` version carries. -/
def allAxes : List DefectAxis := DefectAxis.all.filter (· ∉ transportDefectAxes)

/-- The defects a run's environment exhibits. -/
structure SandboxProfile where
  axes : List DefectAxis
  deriving DecidableEq, Repr

namespace SandboxProfile

/-- The whole-suite profiles: `vulnerable` carries every axis, `fixed` none. -/
def forVersion (version : SandboxVersion) : SandboxProfile :=
  ⟨if version = .vulnerable then allAxes else []⟩

/-- A run's profile: its declared axes, or the version's whole set when absent. -/
def forRun (version : SandboxVersion) (storedAxes : Option (List DefectAxis)) : SandboxProfile :=
  match storedAxes with
  | none => forVersion version
  | some axes => ⟨axes⟩

variable (profile : SandboxProfile)

/-- A coupon is available again after all of its order was refunded. -/
def restoresCouponAfterFullRefund : Bool := .couponRestoredOnRefund ∈ profile.axes

/-- Refunds are bounded by what the order cost before the discount. -/
def allowsRefundAgainstOriginalAmount : Bool := .refundAgainstOriginal ∈ profile.axes

/-- A refund is executed, and its caller is not told. -/
def losesRefundAcknowledgement : Bool := .refundAckLost ∈ profile.axes

/-- A refund grants points where it should revoke them. -/
def grantsPointsAgainOnRefund : Bool := .pointsGrantedAgainOnRefund ∈ profile.axes

/-- More points than there are can be redeemed. -/
def allowsPointsOverredemption : Bool := .pointsOverredemption ∈ profile.axes

/-- A membership is refunded in full though its entitlement was used. -/
def allowsFullMembershipRefundAfterConsumption : Bool := .fullRefundAfterConsumption ∈ profile.axes

/-- The entitlement outlives the membership. -/
def leavesEntitlementAfterMembershipRefund : Bool := .entitlementLeftAfterRefund ∈ profile.axes

/-- More of an entitlement than there is can be consumed. -/
def allowsEntitlementOverconsumption : Bool := .entitlementOverconsumption ∈ profile.axes

/-- The environment has no defect. -/
def Faithful : Prop := profile.axes = []

variable {profile}

/-- A faithful environment deviates nowhere. -/
theorem Faithful.flags (h : profile.Faithful) :
    profile.restoresCouponAfterFullRefund = false ∧
    profile.allowsRefundAgainstOriginalAmount = false ∧
    profile.losesRefundAcknowledgement = false ∧
    profile.grantsPointsAgainOnRefund = false ∧
    profile.allowsPointsOverredemption = false ∧
    profile.allowsFullMembershipRefundAfterConsumption = false ∧
    profile.leavesEntitlementAfterMembershipRefund = false ∧
    profile.allowsEntitlementOverconsumption = false := by
  rw [Faithful] at h
  simp [restoresCouponAfterFullRefund, allowsRefundAgainstOriginalAmount,
    losesRefundAcknowledgement, grantsPointsAgainOnRefund, allowsPointsOverredemption,
    allowsFullMembershipRefundAfterConsumption, leavesEntitlementAfterMembershipRefund,
    allowsEntitlementOverconsumption, h]

end SandboxProfile

end RuleArena
