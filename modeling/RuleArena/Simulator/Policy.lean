import RuleArena.Foundation.DecimalContext
import RuleArena.Oracle.Evaluator

/-!
# The rules of a policy

A policy names its scenario and its rules: the rule the scenario is about, and
possibly one for refunds. The oracle reads a part of it only, the `RuleSpec`
(`PolicySpec.toRuleSpec`); the reference simulator reads all of it.
-/

namespace RuleArena

/-- An amount of a rule: a number of at most four places below 10^14. -/
structure MoneyAmount where
  decimal : PyDecimal
  isFinite : decimal.isFinite = true
  scaled : ∃ n : ℕ, n < 10 ^ 18 ∧ decimal.value = n / 10 ^ 4
  deriving DecidableEq

/-- A rule's amount and its currency. -/
structure RuleMoney where
  currency : Currency
  amount : MoneyAmount
  deriving DecidableEq

structure PromotionRule where
  minimumOrderAmount : RuleMoney
  discountAmount : RuleMoney
  restoreOnFullRefund : Bool
  one_currency : minimumOrderAmount.currency = discountAmount.currency
  deriving DecidableEq

structure RefundRule where
  allowPartialRefund : Bool
  maximumRefundsPerOrder : Nat
  positive : 1 ≤ maximumRefundsPerOrder
  deriving DecidableEq

structure MembershipRule where
  price : RuleMoney
  entitlementQuantity : Nat
  refundPolicy : RefundPolicy
  price_pos : 0 < price.amount.decimal.value
  quantity_pos : 1 ≤ entitlementQuantity
  deriving DecidableEq

inductive PolicyRule
  | promotion (rule : PromotionRule)
  | refund (rule : RefundRule)
  | points (rule : PointsRule)
  | membership (rule : MembershipRule)
  deriving DecidableEq

/-- What the oracle reads of a rule. -/
def PolicyRule.toRule : PolicyRule → Rule
  | promotion _ => .promotion
  | refund _ => .refund
  | points rule => .points rule
  | membership rule => .membership rule.refundPolicy

/-- A rule specification as the schema of policies accepts it. -/
structure PolicySpec where
  scenarioType : ScenarioType
  rules : List PolicyRule
  allowed : ∀ rule ∈ rules, rule.toRule.ruleType ∈ scenarioType.ruleTypes
  primary : ∃ rule ∈ rules, scenarioType.ruleTypes.head? = some rule.toRule.ruleType
  unique : (rules.map fun rule => rule.toRule.ruleType).Nodup

namespace PolicySpec

/-- What the oracle reads of a policy. -/
def toRuleSpec (spec : PolicySpec) : RuleSpec where
  scenarioType := spec.scenarioType
  rules := spec.rules.map PolicyRule.toRule
  allowed := by simpa using spec.allowed
  primary := by simpa using spec.primary
  unique := by simpa [Function.comp_def] using spec.unique

end PolicySpec

namespace MoneyAmount

/-- The amount of a number of cents. -/
def ofCents (cents : Nat) (small : cents < 10 ^ 16 := by decide) : MoneyAmount where
  decimal := .finite false cents (-2)
  isFinite := rfl
  scaled := ⟨cents * 100, by omega, by
    norm_num [PyDecimal.value]
    ring⟩

theorem nonneg (amount : MoneyAmount) : 0 ≤ amount.decimal.value := by
  obtain ⟨n, -, e⟩ := amount.scaled
  rw [e]
  positivity

end MoneyAmount

theorem unit_pos : (0 : ℚ) < 1 := one_pos

theorem pointsPolicy_allowed : ∀ rule ∈ [PolicyRule.points ⟨1, 1, true, unit_pos⟩],
    rule.toRule.ruleType ∈ ScenarioType.refundPoints.ruleTypes := by
  decide

theorem pointsPolicy_primary : ∃ rule ∈ [PolicyRule.points ⟨1, 1, true, unit_pos⟩],
    ScenarioType.refundPoints.ruleTypes.head? = some rule.toRule.ruleType :=
  ⟨_, List.mem_singleton_self _, rfl⟩

theorem pointsPolicy_unique : ([PolicyRule.points ⟨1, 1, true, unit_pos⟩].map
    fun rule => rule.toRule.ruleType).Nodup :=
  List.nodup_singleton _

/-- One point for each unit spent, revoked when the payment is refunded. -/
def pointsPolicy : PolicySpec where
  scenarioType := .refundPoints
  rules := [.points ⟨1, 1, true, unit_pos⟩]
  allowed := pointsPolicy_allowed
  primary := pointsPolicy_primary
  unique := pointsPolicy_unique

end RuleArena
