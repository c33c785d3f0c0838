import RuleArena.Runtime.Agents

/-!
# What the check of a proposal accepts

A proposal is rejected, or accepted for what it proposes: an action that is
offered, or one that differs from it in the positive number of the one parameter
that may vary, and that was not tried in vain before (`ActionProposal.Admits`).

This holds unless the parameter is looked at and is no number, or a key has to be
computed and an argument has no text: an infinity is accepted for a positive
number, and what cannot be compared, or cannot be written, raises something that
is no rejection (`validate_exact_iff`).
-/

namespace RuleArena

open Checked

/-- The proposal repeats an action that was accepted and not applied. -/
def ActionProposal.Repeats (proposal : ActionProposal) (history : List HistoryEntry) : Prop :=
  ∃ item ∈ history, item.actionKey = proposal.candidate.canonicalKey ∧ item.status ≠ .applied

instance (proposal : ActionProposal) (history : List HistoryEntry) :
    Decidable (proposal.Repeats history) :=
  inferInstanceAs (Decidable (∃ item ∈ history, _))

/-! ## The value of a parameter -/

namespace ArgValue

/-- What `Decimal(str(value))` reads, if the value has a text and if it is a numeral. -/
def decimal (value : ArgValue) : Option (Option PyDecimal) :=
  value.toStr.toOption.map PyDecimal.parse

/-- The value is a positive finite number. -/
def Positive (value : ArgValue) : Prop :=
  ∃ coefficient exponent, value.decimal = some (some (.finite false coefficient exponent)) ∧
    coefficient ≠ 0

/-- The value is the positive infinity. -/
def Infinite (value : ArgValue) : Prop := value.decimal = some (some (.inf false))

/-- The value has no text, or is not a number. -/
def Unreadable (value : ArgValue) : Prop :=
  value.decimal = none ∨ ∃ signaling, value.decimal = some (some (.nan signaling))

end ArgValue

/-- Whether a value is positive: what is unreadable raises, and the infinity is positive. -/
theorem positive_cases (value : ArgValue) :
    value.Unreadable ∧ positive value = .error .raised ∨
      value.Infinite ∧ positive value = .ok true ∨ value.Positive ∧ positive value = .ok true ∨
      ¬ value.Unreadable ∧ ¬ value.Infinite ∧ positive value = .ok false := by
  have read : value.decimal = value.toStr.toOption.map PyDecimal.parse := rfl
  unfold positive ArgValue.Unreadable ArgValue.Infinite ArgValue.Positive
  cases ht : value.toStr with
  | error e =>
    rw [ht] at read
    exact .inl ⟨.inl read, rfl⟩
  | ok text =>
    rw [ht] at read
    rw [read]
    dsimp only [Except.toOption, Option.map_some]
    cases PyDecimal.parse text with
    | none => exact .inr (.inr (.inr ⟨by simp, by simp, rfl⟩))
    | some number =>
      cases number with
      | nan signaling => exact .inl ⟨.inr ⟨signaling, rfl⟩, rfl⟩
      | inf negative =>
        cases negative with
        | false => exact .inr (.inl ⟨rfl, rfl⟩)
        | true => exact .inr (.inr (.inr ⟨by simp, by simp, rfl⟩))
      | finite negative coefficient exponent =>
        by_cases positive : negative = false ∧ coefficient ≠ 0
        · obtain ⟨rfl, nonzero⟩ := positive
          refine .inr (.inr (.inl ⟨⟨coefficient, exponent, rfl, nonzero⟩, ?_⟩))
          simp [nonzero, pure, Except.pure]
        · refine .inr (.inr (.inr ⟨by simp, by simp, ?_⟩))
          simp only [not_and, not_not] at positive
          cases negative with
          | false => simp [positive rfl, pure, Except.pure]
          | true => rfl

/-- An infinity is neither unreadable nor a positive number. -/
theorem ArgValue.Infinite.isolated {value : ArgValue} (infinite : value.Infinite) :
    ¬ value.Unreadable ∧ ¬ value.Positive := by
  unfold Unreadable Positive
  rw [show value.decimal = _ from infinite]
  exact ⟨by simp, by simp⟩

theorem ArgValue.Positive.readable {value : ArgValue} (positive : value.Positive) :
    ¬ value.Unreadable := by
  obtain ⟨coefficient, exponent, number, -⟩ := positive
  unfold Unreadable
  rw [number]
  simp

/-! ## The templates -/

/-- An action has the arguments of another one. -/
def SimAction.SameParameters (action template : SimAction) : Prop :=
  SameNames (action.arguments.map Prod.fst) (template.arguments.map Prod.fst)

instance (action template : SimAction) : Decidable (action.SameParameters template) :=
  inferInstanceAs (Decidable (SameNames _ _))

namespace ActionProposal

variable (proposal : ActionProposal)

/-- The offered actions of the type and the target of the proposal. -/
def matching (legalActions : List SimAction) : List SimAction :=
  legalActions.filter fun item =>
    item.actionType = proposal.candidate.actionType ∧ item.targetId = proposal.candidate.targetId

/-- The only argument of the proposal is the one that may vary, and this is its value. -/
def Varies (value : ArgValue) : Prop :=
  ∃ name, proposal.candidate.arguments = [(name, value)] ∧
    flexibleArguments proposal.candidate.actionType = [name]

/-- What a proposal is accepted for: the action is the one proposed, it is offered but for the
    positive number of the parameter that may vary, and it was not tried in vain. -/
structure Admits (legalActions : List SimAction) (history : List HistoryEntry)
    (action : SimAction) : Prop where
  action_eq : action = proposal.candidate
  offered : ∃ template ∈ legalActions, template.actionType = proposal.candidate.actionType ∧
    template.targetId = proposal.candidate.targetId ∧
    proposal.candidate.SameParameters template ∧
    (equalArguments proposal.candidate.arguments template.arguments ∨
      ∃ value, proposal.Varies value ∧ value.Positive)
  untried : ¬ proposal.Repeats history

/-- A proposal is rejected, or accepted for what it proposes. -/
def Exact (legalActions : List SimAction) (history : List HistoryEntry)
    (result : Except ProposalFailure SimAction) : Prop :=
  (∃ kind message, result = .error (.rejected kind message)) ∨
    ∃ action, result = .ok action ∧ proposal.Admits legalActions history action

/-- The value that varies is a number wherever it is looked at. It is looked at when the first
    offered action that has the arguments of the proposal is another one. An infinity does no
    harm if the proposal is rejected as a repetition, or is offered as it is after all. -/
def Numeric (legalActions : List SimAction) (history : List HistoryEntry) : Prop :=
  ∀ value template, proposal.Varies value →
    (proposal.matching legalActions).find? (proposal.candidate.SameParameters ·) = some template →
    ¬ equalArguments proposal.candidate.arguments template.arguments →
    ¬ value.Unreadable ∧ (value.Infinite → proposal.Repeats history ∨
      ∃ other ∈ proposal.matching legalActions, proposal.candidate.SameParameters other ∧
        equalArguments proposal.candidate.arguments other.arguments)

/-- The key of the proposal can be computed wherever it is looked for in the history: when the
    proposal is offered as it is. -/
def Keyed (legalActions : List SimAction) (history : List HistoryEntry) : Prop :=
  ∀ template ∈ proposal.matching legalActions, proposal.candidate.SameParameters template →
    equalArguments proposal.candidate.arguments template.arguments →
      history = [] ∨ proposal.candidate.Writable

/-- The only argument has a text, and so the key has one. -/
theorem Varies.writable {proposal : ActionProposal} {value : ArgValue}
    (varies : proposal.Varies value) (readable : ¬ value.Unreadable) :
    proposal.candidate.Writable := by
  obtain ⟨name, only, -⟩ := varies
  intro argument mem
  rw [only, List.mem_singleton] at mem
  subst mem
  dsimp only
  cases written : value.toStr with
  | ok text => rfl
  | error e =>
    refine absurd (.inl ?_) readable
    rw [ArgValue.decimal, written]
    rfl

end ActionProposal

/-- A proposal whose arguments are those that may vary has one of them. -/
theorem varies_of_sameNames {proposal : ActionProposal} {name : String} {value : ArgValue}
    {rest : List (String × ArgValue)}
    (flexible : SameNames (proposal.candidate.arguments.map Prod.fst)
      (flexibleArguments proposal.candidate.actionType))
    (first : proposal.candidate.arguments = (name, value) :: rest) : proposal.Varies value := by
  have unique : (proposal.candidate.arguments.map Prod.fst).Nodup :=
    ((List.perm_insertionSort _ _).map Prod.fst).nodup_iff.2 proposal.unique
  have one (actionType : ActionName) : (flexibleArguments actionType).length ≤ 1 := by
    cases actionType <;> decide
  rw [first] at flexible unique
  cases hf : flexibleArguments proposal.candidate.actionType with
  | nil => exact absurd (flexible.1 name List.mem_cons_self) (by rw [hf]; exact List.not_mem_nil)
  | cons parameter parameters =>
    obtain rfl : parameters = [] := by
      have := one proposal.candidate.actionType
      rw [hf, List.length_cons] at this
      exact List.length_eq_zero_iff.1 (by omega)
    rw [hf] at flexible
    have same : name = parameter := List.mem_singleton.1 (flexible.1 name List.mem_cons_self)
    cases rest with
    | nil => exact ⟨parameter, by rw [first, same], hf⟩
    | cons other rest =>
      have again : other.1 = parameter := List.mem_singleton.1 (flexible.1 other.1 (by simp))
      rw [List.map_cons, List.map_cons, List.nodup_cons, same, again] at unique
      exact absurd List.mem_cons_self unique.1

section Templates

variable {flexible : List String} {arguments : List (String × ArgValue)}
  {templates : List SimAction} {template : SimAction}

theorem parameterMatch_none (none : templates.find? (fun template =>
    SameNames (arguments.map Prod.fst) (template.arguments.map Prod.fst)) = none) :
    parameterMatch flexible arguments templates = .ok false := by
  induction templates with
  | nil => rfl
  | cons template templates ih =>
    rw [List.find?_eq_none, List.forall_mem_cons, ← List.find?_eq_none] at none
    unfold parameterMatch
    rw [if_pos (by simpa using none.1)]
    exact ih none.2

/-- The first action that has the arguments is the one proposed. -/
theorem parameterMatch_equal (first : templates.find? (fun template =>
      SameNames (arguments.map Prod.fst) (template.arguments.map Prod.fst)) = some template)
    (equal : equalArguments arguments template.arguments) :
    parameterMatch flexible arguments templates = .ok true := by
  induction templates with
  | nil => cases first
  | cons other templates ih =>
    unfold parameterMatch
    rw [List.find?_cons] at first
    by_cases same : SameNames (arguments.map Prod.fst) (other.arguments.map Prod.fst)
    · rw [decide_eq_true same] at first
      obtain rfl := Option.some.inj first
      rw [if_neg (not_not_intro same), if_pos equal]
      rfl
    · rw [decide_eq_false same] at first
      rw [if_pos same]
      exact ih first

/-- The first action that has the arguments is another one, and the value that varies decides. -/
theorem parameterMatch_decided {name : String} {value : ArgValue}
    {rest : List (String × ArgValue)} (hargs : arguments = (name, value) :: rest)
    (first : templates.find? (fun template =>
      SameNames (arguments.map Prod.fst) (template.arguments.map Prod.fst)) = some template)
    (other : ¬ equalArguments arguments template.arguments)
    (varies : SameNames (arguments.map Prod.fst) flexible)
    (decided : positive value ≠ .ok false) :
    parameterMatch flexible arguments templates = positive value := by
  induction templates with
  | nil => cases first
  | cons head templates ih =>
    unfold parameterMatch
    rw [List.find?_cons] at first
    by_cases same : SameNames (arguments.map Prod.fst) (head.arguments.map Prod.fst)
    · rw [decide_eq_true same] at first
      obtain rfl := Option.some.inj first
      rw [if_neg (not_not_intro same), if_neg other, if_neg (not_not_intro varies)]
      subst hargs
      dsimp only
      cases hp : positive value with
      | error e => rfl
      | ok b =>
        cases b with
        | true => rfl
        | false => exact absurd hp decided
    · rw [decide_eq_false same] at first
      rw [if_pos same]
      exact ih first

/-- No value varies, or the one that does is not positive: only an equal action counts. -/
theorem parameterMatch_settled (idle : SameNames (arguments.map Prod.fst) flexible →
      ∀ name value rest, arguments = (name, value) :: rest → positive value = .ok false) :
    parameterMatch flexible arguments templates = .ok (decide (∃ template ∈ templates,
      SameNames (arguments.map Prod.fst) (template.arguments.map Prod.fst) ∧
        equalArguments arguments template.arguments)) := by
  induction templates with
  | nil => simp [parameterMatch, pure, Except.pure]
  | cons template templates ih =>
    unfold parameterMatch
    by_cases same : SameNames (arguments.map Prod.fst) (template.arguments.map Prod.fst)
    · rw [if_neg (not_not_intro same)]
      by_cases equal : equalArguments arguments template.arguments
      · rw [if_pos equal, decide_eq_true ⟨template, List.mem_cons_self, same, equal⟩]
        rfl
      · have later : (∃ other ∈ template :: templates,
            SameNames (arguments.map Prod.fst) (other.arguments.map Prod.fst) ∧
              equalArguments arguments other.arguments) ↔ ∃ other ∈ templates,
            SameNames (arguments.map Prod.fst) (other.arguments.map Prod.fst) ∧
              equalArguments arguments other.arguments := by
          rw [List.exists_mem_cons_iff, or_iff_right fun found => equal found.2]
        rw [if_neg equal, decide_eq_decide.2 later, ← ih]
        split_ifs with varies
        · cases arguments with
          | nil => rfl
          | cons argument rest =>
            dsimp only
            rw [idle varies argument.1 argument.2 rest rfl]
            rfl
        · rfl
    · have later : (∃ other ∈ template :: templates,
          SameNames (arguments.map Prod.fst) (other.arguments.map Prod.fst) ∧
            equalArguments arguments other.arguments) ↔ ∃ other ∈ templates,
          SameNames (arguments.map Prod.fst) (other.arguments.map Prod.fst) ∧
            equalArguments arguments other.arguments := by
        rw [List.exists_mem_cons_iff, or_iff_right fun found => same found.1]
      rw [if_pos same, decide_eq_decide.2 later]
      exact ih

end Templates

/-! ## The check -/

/-- The history is checked last, and of the usage the steps only. -/
theorem validateActionProposal_eq (proposal : ActionProposal) (legalActions : List SimAction)
    (history : List HistoryEntry) {usage usage' : BudgetUsage} (budget : Budget)
    (steps : usage'.steps = usage.steps) :
    validateActionProposal proposal legalActions history usage budget =
      validateActionProposal proposal legalActions [] usage' budget >>= fun action => do
        ensure (history = [] ∨ proposal.candidate.Writable) .raised
        ensure (¬ proposal.Repeats history)
          (.rejected .duplicateAction "duplicate action in the current strategy history")
        return action := by
  have none (α : Type) (x : Unit → Except ProposalFailure α) (e : ProposalFailure) :
      (ensure (¬ ∃ item ∈ ([] : List HistoryEntry),
        item.actionKey = proposal.candidate.canonicalKey ∧ item.status ≠ .applied) e >>= x) =
          x () :=
    congrArg (· >>= x) (ensure_of_pos fun ⟨_, mem, _⟩ => absurd mem List.not_mem_nil)
  unfold validateActionProposal
  rw [steps]
  simp only [bind_assoc, none, pure_bind]
  rfl


section Check

variable {proposal : ActionProposal} {legalActions : List SimAction}
  {history : List HistoryEntry} {usage : BudgetUsage} {budget : Budget}

/-- The check once there are steps left and something is offered. -/
theorem validate_of_match (room : ¬ budget.maxSteps ≤ usage.steps)
    (offered : proposal.matching legalActions ≠ []) :
    validateActionProposal proposal legalActions history usage budget =
      parameterMatch (flexibleArguments proposal.candidate.actionType)
        proposal.candidate.arguments (proposal.matching legalActions) >>= fun fits => do
          ensure fits
            (.rejected .paramsOutOfRange "action parameters are outside the legal schema or range")
          ensure (history = [] ∨ proposal.candidate.Writable) .raised
          ensure (¬ proposal.Repeats history)
            (.rejected .duplicateAction "duplicate action in the current strategy history")
          return proposal.candidate := by
  unfold validateActionProposal
  rw [ensure_of_pos room]
  dsimp only [ok_bind]
  rw [ensure_of_pos (by exact offered)]
  rfl

theorem validate_unfit (room : ¬ budget.maxSteps ≤ usage.steps)
    (unfit : parameterMatch (flexibleArguments proposal.candidate.actionType)
      proposal.candidate.arguments (proposal.matching legalActions) = .ok false) :
    proposal.Exact legalActions history
      (validateActionProposal proposal legalActions history usage budget) := by
  by_cases offered : proposal.matching legalActions = []
  · refine .inl ⟨.actionNotLegal, "action or arguments are not currently legal", ?_⟩
    unfold validateActionProposal
    rw [ensure_of_pos room]
    dsimp only [ok_bind]
    rw [ensure_of_neg (by exact not_not_intro offered)]
    rfl
  · refine .inl ⟨.paramsOutOfRange, "action parameters are outside the legal schema or range", ?_⟩
    rw [validate_of_match room offered, unfit]
    rfl

theorem validate_fit (room : ¬ budget.maxSteps ≤ usage.steps)
    (fit : parameterMatch (flexibleArguments proposal.candidate.actionType)
      proposal.candidate.arguments (proposal.matching legalActions) = .ok true) :
    validateActionProposal proposal legalActions history usage budget = do
      ensure (history = [] ∨ proposal.candidate.Writable) .raised
      ensure (¬ proposal.Repeats history)
        (.rejected .duplicateAction "duplicate action in the current strategy history")
      return proposal.candidate := by
  have offered : proposal.matching legalActions ≠ [] := by
    intro none
    rw [none] at fit
    cases fit
  rw [validate_of_match room offered, fit]
  rfl

/-- What fits is exactly what is proposed, if it is a repetition or is offered, and if its key can
    be computed. -/
theorem exact_iff_of_fit (room : ¬ budget.maxSteps ≤ usage.steps)
    (fit : parameterMatch (flexibleArguments proposal.candidate.actionType)
      proposal.candidate.arguments (proposal.matching legalActions) = .ok true) :
    proposal.Exact legalActions history
        (validateActionProposal proposal legalActions history usage budget) ↔
      (history = [] ∨ proposal.candidate.Writable) ∧
        (proposal.Repeats history ∨ proposal.Admits legalActions history proposal.candidate) := by
  rw [validate_fit room fit]
  by_cases keyed : history = [] ∨ proposal.candidate.Writable
  · rw [ensure_of_pos keyed, ok_bind, and_iff_right keyed]
    by_cases repeats : proposal.Repeats history
    · rw [ensure_of_neg (not_not_intro repeats)]
      exact ⟨fun _ => .inl repeats, fun _ => .inl ⟨_, _, rfl⟩⟩
    · rw [ensure_of_pos repeats]
      constructor
      · rintro (⟨kind, message, h⟩ | ⟨action, h, admits⟩)
        · cases h
        · cases h
          exact .inr admits
      · rintro (h | admits)
        · exact absurd h repeats
        · exact .inr ⟨_, rfl, admits⟩
  · rw [ensure_of_neg keyed]
    refine iff_of_false ?_ fun exact => keyed exact.1
    rintro (⟨_, _, h⟩ | ⟨_, h, -⟩) <;> cases h

theorem mem_matching {template : SimAction} :
    template ∈ proposal.matching legalActions ↔ template ∈ legalActions ∧
      template.actionType = proposal.candidate.actionType ∧
        template.targetId = proposal.candidate.targetId := by
  simp [ActionProposal.matching]

/-- A template of the proposal is a reason to accept it. -/
theorem admits_or_repeats {template : SimAction}
    (offered : template ∈ proposal.matching legalActions)
    (same : proposal.candidate.SameParameters template)
    (fits : equalArguments proposal.candidate.arguments template.arguments ∨
      ∃ value, proposal.Varies value ∧ value.Positive) :
    proposal.Repeats history ∨ proposal.Admits legalActions history proposal.candidate := by
  by_cases repeats : proposal.Repeats history
  · exact .inl repeats
  · obtain ⟨mem, actionType, target⟩ := mem_matching.1 offered
    exact .inr ⟨rfl, ⟨template, mem, actionType, target, same, fits⟩, repeats⟩

/-- If nothing varies, or what varies is no positive number, the check is exact just if the key of
    what is offered as it is can be computed. -/
theorem exact_iff_of_settled (room : ¬ budget.maxSteps ≤ usage.steps)
    (idle : ∀ value, proposal.Varies value → positive value = .ok false) :
    proposal.Exact legalActions history
        (validateActionProposal proposal legalActions history usage budget) ↔
      proposal.Keyed legalActions history := by
  have settled := @parameterMatch_settled _ _ (proposal.matching legalActions)
    fun flexible name value rest first => idle value (varies_of_sameNames flexible first)
  by_cases found : ∃ template ∈ proposal.matching legalActions,
      SameNames (proposal.candidate.arguments.map Prod.fst) (template.arguments.map Prod.fst) ∧
        equalArguments proposal.candidate.arguments template.arguments
  · rw [decide_eq_true found] at settled
    obtain ⟨template, mem, same, equal⟩ := found
    rw [exact_iff_of_fit room settled]
    exact ⟨fun exact _ _ _ _ => exact.1, fun keyed =>
      ⟨keyed template mem same equal, admits_or_repeats mem same (.inl equal)⟩⟩
  · rw [decide_eq_false found] at settled
    exact iff_of_true (validate_unfit room settled) fun template mem same equal =>
      absurd ⟨template, mem, same, equal⟩ found

end Check

/-- A proposal is rejected, or accepted for what it proposes, exactly if the parameter that
    varies is a number wherever it is looked at, and the key can be computed wherever it is. -/
theorem validate_exact_iff (proposal : ActionProposal) (legalActions : List SimAction)
    (history : List HistoryEntry) (usage : BudgetUsage) (budget : Budget) :
    proposal.Exact legalActions history
        (validateActionProposal proposal legalActions history usage budget) ↔
      (usage.steps < budget.maxSteps →
        proposal.Numeric legalActions history ∧ proposal.Keyed legalActions history) := by
  by_cases room : budget.maxSteps ≤ usage.steps
  · refine iff_of_true (.inl ⟨.stepBudgetExhausted, "step budget exhausted", ?_⟩)
      fun left => absurd left (not_lt.2 room)
    unfold validateActionProposal
    rw [ensure_of_neg (not_not_intro room)]
    rfl
  rw [imp_iff_right (not_le.1 room)]
  cases first : (proposal.matching legalActions).find?
      (proposal.candidate.SameParameters ·) with
  | none =>
    refine iff_of_true (validate_unfit room (parameterMatch_none first)) ⟨?_, ?_⟩
    · intro value template _ found
      rw [first] at found
      cases found
    · intro template mem same
      exact absurd (decide_eq_true same) (List.find?_eq_none.1 first template mem)
  | some template =>
    have offered := List.mem_of_find?_eq_some first
    have same : proposal.candidate.SameParameters template := by
      simpa using List.find?_some first
    by_cases equal : equalArguments proposal.candidate.arguments template.arguments
    · rw [exact_iff_of_fit room (parameterMatch_equal first equal)]
      constructor
      · intro exact
        refine ⟨fun value other _ found differs => ?_, fun _ _ _ _ => exact.1⟩
        obtain rfl := Option.some.inj (first.symm.trans found)
        exact absurd equal differs
      · intro condition
        exact ⟨condition.2 template offered same equal,
          admits_or_repeats offered same (.inl equal)⟩
    by_cases varies : ∃ value, proposal.Varies value
    · obtain ⟨value, varies⟩ := varies
      have only {value' : ArgValue} (h : proposal.Varies value') : value' = value := by
        obtain ⟨name, hargs, -⟩ := varies
        obtain ⟨name', hargs', -⟩ := h
        exact (Prod.mk.inj (List.cons.inj (hargs'.symm.trans hargs)).1).2
      have decided (h : positive value ≠ .ok false) :
          parameterMatch (flexibleArguments proposal.candidate.actionType)
            proposal.candidate.arguments (proposal.matching legalActions) = positive value := by
        obtain ⟨name, hargs, hflexible⟩ := varies
        refine parameterMatch_decided hargs first equal ?_ h
        rw [hargs, hflexible]
        exact ⟨fun _ => id, fun _ => id⟩
      have keyed (readable : ¬ value.Unreadable) : proposal.Keyed legalActions history :=
        fun _ _ _ _ => .inr (varies.writable readable)
      obtain ⟨unreadable, hp⟩ | ⟨infinite, hp⟩ | ⟨positive, hp⟩ | ⟨readable, finite, hp⟩ :=
        positive_cases value
      · -- The comparison raises, and so does the check.
        refine iff_of_false ?_ fun condition =>
          (condition.1 value template varies first equal).1 unreadable
        have raised := (decided (by rw [hp]; exact nofun)).trans hp
        have some : proposal.matching legalActions ≠ [] := List.ne_nil_of_mem offered
        rw [validate_of_match room some, raised]
        rintro (⟨_, _, h⟩ | ⟨_, h, -⟩) <;> cases h
      · have written : history = [] ∨ proposal.candidate.Writable :=
          .inr (varies.writable infinite.isolated.1)
        rw [exact_iff_of_fit room ((decided (by rw [hp]; exact nofun)).trans hp),
          and_iff_right written]
        constructor
        · intro accepted
          refine ⟨fun value' other varies' found _ => ?_, keyed infinite.isolated.1⟩
          obtain rfl := only varies'
          refine ⟨infinite.isolated.1, fun _ => accepted.imp_right fun admits => ?_⟩
          obtain ⟨other, mem, actionType, target, same, fits⟩ := admits.offered
          obtain equal | ⟨value', varies', positive⟩ := fits
          · exact ⟨other, mem_matching.2 ⟨mem, actionType, target⟩, same, equal⟩
          · obtain rfl := only varies'
            exact absurd positive infinite.isolated.2
        · intro condition
          obtain repeats | ⟨other, mem, same, equal⟩ :=
            (condition.1 value template varies first equal).2 infinite
          · exact .inl repeats
          · exact admits_or_repeats mem same (.inl equal)
      · have written : history = [] ∨ proposal.candidate.Writable :=
          .inr (varies.writable positive.readable)
        refine iff_of_true ((exact_iff_of_fit room
          ((decided (by rw [hp]; exact nofun)).trans hp)).2
            ⟨written, admits_or_repeats offered same (.inr ⟨value, varies, positive⟩)⟩)
          ⟨fun value' other varies' _ _ => ?_, keyed positive.readable⟩
        obtain rfl := only varies'
        exact ⟨positive.readable, fun infinite => absurd positive infinite.isolated.2⟩
      · rw [exact_iff_of_settled room fun value' h => only h ▸ hp]
        refine iff_of_true (keyed readable) ⟨fun value' other varies' _ _ => ?_, keyed readable⟩
        obtain rfl := only varies'
        exact ⟨readable, fun infinite => absurd infinite finite⟩
    · rw [exact_iff_of_settled room fun value h => absurd ⟨value, h⟩ varies]
      exact ⟨fun keyed => ⟨fun value _ h => absurd ⟨value, h⟩ varies, keyed⟩, And.right⟩

/-- What is no number can be proposed for a balance, and raises. -/
theorem validate_not_exact :
    ¬ ∀ (proposal : ActionProposal) (legalActions : List SimAction) (history : List HistoryEntry)
      (usage : BudgetUsage) (budget : Budget), proposal.Exact legalActions history
        (validateActionProposal proposal legalActions history usage budget) := by
  intro claim
  have raised : validateActionProposal
      { actionType := .createUser
        arguments := [("initial_balance", .str "NaN")]
        unique := List.nodup_singleton _ }
      [.build .createUser none [("initial_balance", .str "500.00")]] [] {}
      { maxSteps := 6, maxTokens := 1000, maxCost := 1, maxTimeSeconds := 1
        steps_pos := by decide
        time_pos := one_pos } = .error .raised := by
    decide +kernel
  obtain ⟨kind, message, h⟩ | ⟨action, h, -⟩ := claim _ _ _ _ _
  · exact absurd (raised.symm.trans h) nofun
  · exact absurd (raised.symm.trans h) nofun

end RuleArena
