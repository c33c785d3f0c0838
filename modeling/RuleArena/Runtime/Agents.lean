import RuleArena.Runtime.Workflow
import RuleArena.Simulator.Offers

/-!
# The agents of a strategy

An agent asks its model, through an adapter that records each call, for the next
step of a search: an action or a stop. An answer that is no proposal is asked
for again, three times at most. What the agent proposes is checked before
anything is done with it (`validateActionProposal`): an action must be one that
the simulator offers, or such a one with another positive amount, and must not
repeat one that was not applied.
-/

namespace RuleArena

/-! ## Proposals -/

/-- The arguments are a dictionary. -/
structure ActionProposal where
  actionType : ActionName
  actorId : String := "user-1"
  targetId : Option String := none
  arguments : List (String × ArgValue) := []
  unique : (arguments.map Prod.fst).Nodup := by decide

structure StopProposal where
  candidateInvariant : Option InvariantId := none

inductive Proposal
  | action (proposal : ActionProposal)
  | stop (proposal : StopProposal)

inductive RejectionKind
  | unspecified
  | parseInvalid
  | actionNotLegal
  | paramsOutOfRange
  | duplicateAction
  | stepBudgetExhausted
  | forbiddenContext
  | strategyMismatch
  deriving DecidableEq, Repr

def RejectionKind.value : RejectionKind → String
  | unspecified => "UNSPECIFIED"
  | parseInvalid => "PARSE_INVALID"
  | actionNotLegal => "ACTION_NOT_LEGAL"
  | paramsOutOfRange => "PARAMS_OUT_OF_RANGE"
  | duplicateAction => "DUPLICATE_ACTION"
  | stepBudgetExhausted => "STEP_BUDGET_EXHAUSTED"
  | forbiddenContext => "FORBIDDEN_CONTEXT"
  | strategyMismatch => "STRATEGY_MISMATCH"

/-! ## Calls of the model -/

structure LLMUsage where
  inputTokens : Nat := 0
  outputTokens : Nat := 0
  cost : ℚ≥0 := 0
  deriving DecidableEq

structure LLMCallRecord where
  provider : String
  model : String
  temperature : String
  promptVersion : String
  usage : LLMUsage
  deriving DecidableEq

/-- The adapter of an agent, with the calls that it has recorded and nobody has drained. -/
structure RecordedLLMAdapter where
  provider : String
  model : String
  temperature : String := "0"
  promptVersion : String := "compiler-v1"
  lastCall : Option LLMCallRecord := none
  pendingCalls : List LLMCallRecord := []
  deriving DecidableEq

namespace RecordedLLMAdapter

variable (adapter : RecordedLLMAdapter)

/-- The record of a call that used so much. -/
def recordOf (usage : LLMUsage) : LLMCallRecord where
  provider := adapter.provider
  model := adapter.model
  temperature := adapter.temperature
  promptVersion := adapter.promptVersion
  usage

/-- `_record` -/
def record (usage : LLMUsage) : RecordedLLMAdapter :=
  { adapter with
    lastCall := some (adapter.recordOf usage)
    pendingCalls := adapter.pendingCalls ++ [adapter.recordOf usage] }

/-- `drain_call_records` -/
def drainCallRecords : List LLMCallRecord × RecordedLLMAdapter :=
  (adapter.pendingCalls, { adapter with pendingCalls := [] })

end RecordedLLMAdapter

/-- What comes of one call: an answer, with what it used and the proposal it is if it is one,
    an error of the transport or the provider that may pass, or any other error. -/
inductive Completion
  | answer (usage : LLMUsage) (proposal : Option Proposal)
  | transient
  | fatal (usage : LLMUsage)

/-- What a call used. One that fails is recorded, too. -/
def Completion.usage : Completion → LLMUsage
  | answer usage _ | fatal usage => usage
  | transient => {}

/-- How `propose` ends. -/
inductive AgentReply
  | proposal (proposal : Proposal)
  | rejected (kind : RejectionKind)
  | raised

namespace RecordedLLMAdapter

/-- The attempts of `propose`, each with its call. If all fail the last failure counts. -/
def propose (adapter : RecordedLLMAdapter) : List Completion → RecordedLLMAdapter × AgentReply
  | [] => (adapter, .raised)
  | completion :: completions =>
    let adapter := adapter.record completion.usage
    match completion with
    | .answer _ (some proposal) => (adapter, .proposal proposal)
    | .answer _ none =>
      if completions = [] then (adapter, .rejected .parseInvalid) else adapter.propose completions
    | .transient => adapter.propose completions
    | .fatal _ => (adapter, .raised)

end RecordedLLMAdapter

/-! ## Checking an action -/

/-- Whether Python takes two values for equal: a truth value is an integer. -/
def ArgValue.equal : ArgValue → ArgValue → Bool
  | str s, str t => s = t
  | str _, _ | _, str _ => false
  | int i, int j => i = j
  | bool b, bool c => b = c
  | int i, bool b | bool b, int i => i = if b then 1 else 0

/-- How a check ends without an action. -/
inductive ProposalFailure
  | rejected (kind : RejectionKind) (message : String)
  | raised
  deriving DecidableEq

/-- What a search remembers of an action: its canonical key, and whether it was applied. -/
structure HistoryEntry where
  actionKey : String
  status : TransitionStatus
  deriving DecidableEq

/-- The arguments of an action that may have any positive value. -/
def flexibleArguments : ActionName → List String
  | .createUser => ["initial_balance"]
  | .createOrder | .refundOrder | .redeemPoints => ["amount"]
  | .consumeEntitlement => ["quantity"]
  | _ => []

/-- Whether two dictionaries of arguments have the same names. -/
def SameNames (names names' : List String) : Prop :=
  (∀ name ∈ names, name ∈ names') ∧ ∀ name ∈ names', name ∈ names

instance (names names' : List String) : Decidable (SameNames names names') :=
  inferInstanceAs (Decidable (_ ∧ _))

/-- Whether two dictionaries with the same names are equal. -/
def equalArguments (arguments template : List (String × ArgValue)) : Bool :=
  arguments.all fun (name, value) => (template.lookup name).any value.equal

/-- `Decimal(str(value)) > 0`. A NaN has no place in the order, and what is no numeral is
    not positive here. -/
def positive (value : ArgValue) : Except ProposalFailure Bool :=
  match value.toStr with
  | .error _ => throw .raised
  | .ok text =>
    match PyDecimal.parse text with
    | none => return false
    | some (.nan _) => throw .raised
    | some (.inf negative) => return !negative
    | some (.finite negative coefficient _) => return !negative && coefficient ≠ 0

/-- Whether the arguments of an action are those of a template, or fit into it. -/
def parameterMatch (flexible : List String) (arguments : List (String × ArgValue)) :
    List SimAction → Except ProposalFailure Bool
  | [] => return false
  | template :: templates => do
    if ¬ SameNames (arguments.map Prod.fst) (template.arguments.map Prod.fst) then
      parameterMatch flexible arguments templates
    else if equalArguments arguments template.arguments then return true
    else if ¬ SameNames (arguments.map Prod.fst) flexible then
      parameterMatch flexible arguments templates
    else
      match arguments with
      | [] => parameterMatch flexible arguments templates
      | (_, value) :: _ =>
        if ← positive value then return true else parameterMatch flexible arguments templates

/-- The action of a proposal. -/
def ActionProposal.candidate (proposal : ActionProposal) : SimAction where
  actionType := proposal.actionType
  actorId := proposal.actorId
  targetId := proposal.targetId
  arguments := SimAction.sortedArguments proposal.arguments

/-- `canonical_key` can write the arguments, none of which is an integer of too many digits. -/
def SimAction.Writable (action : SimAction) : Prop :=
  ∀ argument ∈ action.arguments, argument.2.toStr.toOption.isSome

instance (action : SimAction) : Decidable action.Writable :=
  inferInstanceAs (Decidable (∀ argument ∈ action.arguments, _))

/-- `validate_action_proposal` -/
def validateActionProposal (proposal : ActionProposal) (legalActions : List SimAction)
    (history : List HistoryEntry) (usage : BudgetUsage) (budget : Budget) :
    Except ProposalFailure SimAction := do
  ensure (¬ budget.maxSteps ≤ usage.steps)
    (.rejected .stepBudgetExhausted "step budget exhausted")
  let candidate := proposal.candidate
  let matching := legalActions.filter fun item =>
    item.actionType = candidate.actionType ∧ item.targetId = candidate.targetId
  ensure (matching ≠ []) (.rejected .actionNotLegal "action or arguments are not currently legal")
  ensure (← parameterMatch (flexibleArguments candidate.actionType) candidate.arguments matching)
    (.rejected .paramsOutOfRange "action parameters are outside the legal schema or range")
  -- the key of the candidate is computed for each entry of the history
  ensure (history = [] ∨ candidate.Writable) .raised
  ensure (¬ ∃ item ∈ history, item.actionKey = candidate.canonicalKey ∧ item.status ≠ .applied)
    (.rejected .duplicateAction "duplicate action in the current strategy history")
  return candidate

end RuleArena
