import RuleArena.Simulator.Effects
import RuleArena.Simulator.Snapshots

/-!
# The actions a simulator offers

For a state the simulator names the actions that a strategy may propose
(`legalActions`): those of the scenario, with arguments at the bounds of the
rules and one unit past them. They are ordered by their canonical keys, the
texts of their HTTP payloads.
-/

namespace RuleArena

/-! ## Texts of actions -/

/-- `format(decimal, "f")` -/
def PyDecimal.toFixed : PyDecimal → String
  | finite negative coefficient exponent =>
    let digits := Nat.toDigits 10 coefficient
    -- A zero has no places to the left of its digit.
    let exponent := if coefficient = 0 ∧ 0 < exponent then 0 else exponent
    let left : Int := exponent + digits.length
    let body :=
      if left < 0 then '0' :: '.' :: (List.replicate (-left).toNat '0' ++ digits)
      else if digits.length ≤ left then digits ++ List.replicate (left.toNat - digits.length) '0'
      else (if left = 0 then ['0'] else digits.take left.toNat) ++
        '.' :: digits.drop left.toNat
    String.ofList ((if negative then ['-'] else []) ++ body)
  | inf negative => if negative then "-Infinity" else "Infinity"
  | nan signaling => if signaling then "sNaN" else "NaN"

def ArgValue.toJson : ArgValue → Json
  | str s => .str s
  | int i => .int i
  | bool b => .bool b

namespace SimAction

/-- `dict(self.arguments)`: of several arguments of a name the last one counts, in the
    place of the first. -/
def argumentDict (arguments : List (String × ArgValue)) : List (String × ArgValue) :=
  arguments.foldl (fun entries argument =>
    if argument.1 ∈ entries.map Prod.fst then
      entries.map fun entry => if entry.1 = argument.1 then argument else entry
    else entries ++ [argument]) []

/-- `to_http_payload` -/
def toHttpPayload (action : SimAction) : Json :=
  .obj [("schema_version", .str "1.0"), ("action", .str action.actionType.value),
    ("actor_id", .str action.actorId), ("target_id", optionText action.targetId),
    ("arguments", .obj ((argumentDict action.arguments).map fun (name, value) =>
      (name, value.toJson))),
    ("idempotency_key", optionText action.idempotencyKey)]

/-- `canonical_key` -/
def canonicalKey (action : SimAction) : String := Json.asciiText action.toHttpPayload.canonical

/-- The arguments of an action, sorted by their names. -/
def sortedArguments (arguments : List (String × ArgValue)) : List (String × ArgValue) :=
  arguments.insertionSort fun a b => a.1 ≤ b.1

/-- `SimAction.build` -/
def build (actionType : ActionName) (targetId : Option String)
    (arguments : List (String × ArgValue)) : SimAction :=
  { actionType, targetId, arguments := sortedArguments arguments }

end SimAction

namespace ReferenceSimulator

/-- `_refund_offers`: the amount that remains, and one cent more. -/
def refundOffers (order : SimOrder) : List SimAction :=
  if order.paidAmount ≤ 0 then [] else
  let remaining := order.paidAmount - order.refundedAmount
  [.build .refundOrder (some order.orderId)
      [("amount", .str (amountText (if 0 < remaining then remaining else order.paidAmount)))],
    .build .refundOrder (some order.orderId) [("amount", .str (amountText (remaining + 1)))]]

def payOffer (order : SimOrder) : SimAction := .build .payOrder (some order.orderId) []

variable (simulator : ReferenceSimulator) (state : SimulationState)

/-- What the scenario of a state offers to its user. -/
def offers (user : SimUser) : List SimAction :=
  match state.scenarioType with
  | .promotion =>
    match simulator.promotion with
    | none => []
    | some promotion =>
      [.build .issueCoupon (some user.userId)
          [("value", .str promotion.discountAmount.amount.decimal.toFixed),
            ("threshold", .str promotion.minimumOrderAmount.amount.decimal.toFixed)],
        .build .createOrder (some user.userId)
          [("amount", .str promotion.minimumOrderAmount.amount.decimal.toFixed)]] ++
      state.orders.flatMap fun order =>
        state.coupons.map (fun coupon => .build .applyCoupon (some order.orderId)
          [("coupon_id", .str coupon.couponId)]) ++ payOffer order :: refundOffers order
  | .refundPoints =>
    .build .createOrder (some user.userId) [("amount", .str "200.00")] ::
      (state.orders.flatMap fun order => payOffer order :: refundOffers order) ++
      [.build .redeemPoints (some user.userId) [("amount", .int user.pointsBalance)],
        .build .redeemPoints (some user.userId) [("amount", .int (user.pointsBalance + 1))]]
  | .membershipEntitlement =>
    match simulator.membership with
    | none => []
    | some membership =>
      .build .activateMembership (some user.userId)
          [("paid_amount", .str membership.price.amount.decimal.toFixed),
            ("quantity", .int membership.entitlementQuantity)] ::
        (state.entitlements.flatMap fun entitlement =>
          [.build .consumeEntitlement (some entitlement.entitlementId) [("quantity", .int 1)],
            .build .consumeEntitlement (some entitlement.entitlementId)
              [("quantity", .int (max entitlement.available 0 + 1))]]) ++
        state.memberships.map fun membership => .build .cancelMembership
          (some membership.membershipId) [("refund_requested", .bool true)]

/-- `legal_actions` -/
def legalActions : List SimAction :=
  match state.users with
  | [] => [.build .createUser none [("initial_balance", .str "500.00")]]
  | user :: _ => (simulator.offers state user).insertionSort fun a b =>
      a.canonicalKey ≤ b.canonicalKey

/-- There are legal actions if there is no user yet, or an offer to the user. -/
theorem legalActions_ne_nil {simulator : ReferenceSimulator} {state : SimulationState}
    (offered : ∀ user ∈ state.users.head?, simulator.offers state user ≠ []) :
    simulator.legalActions state ≠ [] := by
  unfold legalActions
  split
  · exact List.cons_ne_nil _ _
  · next user rest users =>
    rw [users] at offered
    intro none
    have sorted := List.perm_insertionSort
      (fun a b : SimAction => a.canonicalKey ≤ b.canonicalKey) (simulator.offers state user)
    rw [none] at sorted
    exact offered user rfl (List.nil_perm.1 sorted)

end ReferenceSimulator

end RuleArena
