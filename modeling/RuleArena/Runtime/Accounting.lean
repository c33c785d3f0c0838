import RuleArena.Runtime.Passes

/-!
# The accounts of a search

A search counts the tokens and the cost of the calls of its agent in its usage.
What it has counted and what is not drained yet is always what was not drained
when it began and what the agent has produced since (`Counted`). The usage that
is persisted lags behind by the calls of the proposals that were rejected since
an action was accepted (`unwritten`), and the two may miss the last calls.

A cost is a floating-point number in the source. Here it is the fraction that
this number is, and costs are added exactly: what is said of sums of costs is
said of costs whose sums are not rounded.

The event that tells the end of a search and the strategy that is persisted then
have the accepted steps and all that was produced exactly if the last pass is
one that accounts for it (`accounts_iff`).
-/

namespace RuleArena

namespace Search

variable {search search' : Search} {ended : Option SearchEnd} {pass : Turn}

/-! ## What the agent produces -/

/-- The calls that the agent makes in a pass. -/
def produced (search : Search) (turn : Turn) : List LLMCallRecord :=
  match (search.tick turn).exhausted with
  | .ok none =>
    ((search.tick turn).asked turn).adapter.pendingCalls.drop search.adapter.pendingCalls.length
  | _ => []

/-- Whether the action that the agent proposes in a pass is rejected. -/
def rejects [Python] (search : Search) (turn : Turn) : Bool :=
  match ((search.tick turn).adapter.propose (List.ofFn turn.completions)).2 with
  | .proposal (.action proposal) =>
    match validateActionProposal proposal (search.spec.simulator.legalActions search.state)
        search.history ((search.tick turn).asked turn).nextUsage search.strategy.budget with
    | .error _ => true
    | .ok _ => false
  | _ => false

/-- After some passes, the calls of the proposals that were rejected since an action was last
    accepted, after those that there were before. -/
def unwritten [Python] (search : Search) (calls : List LLMCallRecord) :
    List Turn → List LLMCallRecord
  | [] => calls
  | turn :: turns =>
    match search.turn turn with
    | .ok (search', none) => search'.unwritten
        (if search.rejects turn then calls ++ ((search.tick turn).asked turn).adapter.pendingCalls
          else []) turns
    | _ => calls

/-- The accounts of a search, which began with calls left over and has produced others, and
    has not persisted what some of them used. -/
structure Counted (search : Search) (leftover records unwritten : List LLMCallRecord) :
    Prop where
  stored : search.store.strategies search.strategy.strategyRunId = some search.strategy
  steps : search.usage.steps = search.actions.length
  stored_steps : search.strategy.usage.steps = search.actions.length
  balanced : search.usage.spent + spent search.adapter.pendingCalls =
    spent leftover + spent records
  written : search.strategy.usage.spent + spent unwritten = search.usage.spent

/-- The calls of a pass in which the agent is asked. -/
theorem produced_spec (ready : (search.tick pass).exhausted = .ok none) :
    ((search.tick pass).asked pass).adapter.pendingCalls =
        search.adapter.pendingCalls ++ search.produced pass ∧
      ((search.tick pass).asked pass).nextUsage.spent = search.usage.spent +
        spent (search.adapter.pendingCalls ++ search.produced pass) := by
  obtain ⟨records, hr, more⟩ := RecordedLLMAdapter.pendingCalls_propose
    (search.tick pass).adapter (List.ofFn pass.completions)
  have pending : ((search.tick pass).asked pass).adapter.pendingCalls =
      search.adapter.pendingCalls ++ records := hr
  have same : search.produced pass = records := by
    rw [produced, ready, pending]
    exact List.drop_left
  have drained : ((search.tick pass).asked pass).adapter.pendingCalls ≠ [] := by
    rw [pending]
    exact List.append_ne_nil_of_right_ne_nil _ (more (by simp))
  rw [same]
  refine ⟨pending, ?_⟩
  rw [nextUsage, RecordedLLMAdapter.drainCallRecords]
  dsimp only
  rw [if_neg drained, pending]
  rfl

variable {leftover records unwritten : List LLMCallRecord}

/-- When a proposal is followed, all that was produced is counted. -/
theorem Counted.followed (counted : search.Counted leftover records unwritten)
    (ready : (search.tick pass).exhausted = .ok none)
    (followed : Followed ((search.tick pass).asked pass).counted search' ended) :
    search'.usage.steps = search'.actions.length ∧
      search'.usage.spent = spent leftover + spent (records ++ search.produced pass) := by
  obtain ⟨pending, next⟩ := produced_spec ready
  constructor
  · have := counted.steps
    have steps : search'.usage.steps + search.actions.length =
      search.usage.steps + search'.actions.length := followed.steps
    omega
  · calc search'.usage.spent
      _ = ((search.tick pass).asked pass).nextUsage.spent := followed.spent
      _ = search.usage.spent + spent search.adapter.pendingCalls +
          spent (search.produced pass) := by rw [next, spent_append, add_assoc]
      _ = spent leftover + spent (records ++ search.produced pass) := by
        rw [counted.balanced, spent_append, add_assoc]

/-- The strategy that is persisted then has the steps of the search. -/
theorem Counted.followed_stored (counted : search.Counted leftover records unwritten)
    (ready : (search.tick pass).exhausted = .ok none)
    (followed : Followed ((search.tick pass).asked pass).counted search' ended) :
    search'.store.strategies search'.strategy.strategyRunId = some search'.strategy ∧
      search'.strategy.usage.steps = search'.actions.length := by
  have same : search'.strategy.strategyRunId = search.strategy.strategyRunId := by
    rw [followed.strategy]
    rfl
  refine ⟨same ▸ followed.stored (stored_tick counted.stored), ?_⟩
  obtain ⟨steps, -⟩ := counted.followed ready followed
  rcases followed.persisted with persisted | ⟨-, kept, usage⟩
  · rw [persisted, steps]
  · -- Nothing was done in this pass, and the steps were persisted before.
    have stored := counted.stored_steps
    have before := counted.steps
    have after : search'.usage.steps = search.usage.steps := by rw [usage]; rfl
    calc search'.strategy.usage.steps
      _ = search.strategy.usage.steps := by rw [kept]; rfl
      _ = search'.actions.length := by omega

theorem within_of_ready (ready : search.exhausted = .ok none) :
    search.usage.Within search.strategy.budget := by
  by_contra exceeded
  unfold exhausted at ready
  rw [if_pos exceeded] at ready
  cases Option.some_ne_none _ (Checked.pure_eq_ok.1 ready)

section Passes

variable [Python]

/-- A search of a fresh strategy begins with nothing counted. -/
theorem Counted.start {spec : PolicySpec} {runId : String} {store : InMemoryRuntimeStore}
    {strategy : StrategyRun} {adapter : RecordedLLMAdapter} (fresh : strategy.usage = {})
    (unsaved : store.checkpoints strategy.strategyRunId = none)
    (h : Search.start spec runId store strategy adapter = .ok search) :
    search.Counted adapter.pendingCalls [] [] := by
  unfold Search.start at h
  simp only [unsaved, Option.map_none, Option.getD_none, List.mapM_nil, Checked.bind_eq_ok,
    Checked.pure_eq_ok, WorkerError.ofStore_eq_ok, InMemoryRuntimeStore.updateStrategy] at h
  obtain ⟨_, rfl, _, -, _, ⟨-, -, rfl⟩, rfl⟩ := h
  refine ⟨InMemoryRuntimeStore.insertEntry_self .., ?_, ?_, ?_, add_zero _⟩
  · exact congrArg BudgetUsage.steps fresh
  · exact congrArg BudgetUsage.steps fresh
  · change strategy.usage.spent + _ = _
    rw [fresh]
    exact add_comm _ _

/-- What a pass that goes on has not persisted. -/
theorem Counted.next_written (counted : search.Counted leftover records unwritten)
    (h : search.turn pass = .ok (search', none)) :
    search'.strategy.usage.spent + spent (if search.rejects pass then
      unwritten ++ ((search.tick pass).asked pass).adapter.pendingCalls else []) =
        search'.usage.spent := by
  obtain ⟨ready, proposal, reply, -, ⟨kind, message, refused, -, rfl⟩ |
    ⟨action, fits, accepted, -⟩⟩ := next_cases h
  · -- The calls are counted, and the strategy stays as it is.
    have rejects : search.rejects pass = true := by
      rw [Search.rejects, reply]
      dsimp only
      rw [refused]
    obtain ⟨pending, next⟩ := produced_spec ready
    rw [if_pos rejects, spent_append, ← add_assoc, pending]
    exact (congrArg (· + _) counted.written).trans next.symm
  · have rejects : search.rejects pass = false := by
      rw [Search.rejects, reply]
      dsimp only
      rw [fits]
    rw [rejects, (accept_followed accepted).2]
    exact add_zero _

/-- A pass that does not end the search keeps the accounts. -/
theorem Counted.next (counted : search.Counted leftover records unwritten)
    (h : search.turn pass = .ok (search', none)) :
    search'.Counted leftover (records ++ search.produced pass)
      (if search.rejects pass then
        unwritten ++ ((search.tick pass).asked pass).adapter.pendingCalls else []) := by
  have written := counted.next_written h
  obtain ⟨-, -, -, ⟨⟩⟩ | ⟨ready, ⟨-, -, -, ⟨⟩⟩ | ⟨-, -, ⟨-, -, ⟨⟩⟩ | ⟨-, followed⟩⟩⟩ := turn_cases h
  obtain ⟨steps, balanced⟩ := counted.followed ready followed
  obtain ⟨stored, stored_steps⟩ := counted.followed_stored ready followed
  refine ⟨stored, steps, stored_steps, ?_, written⟩
  rw [followed.adapter, balanced]
  exact add_zero _

/-- The calls that the agent makes in a search. -/
def producedBy (search : Search) : List Turn → List LLMCallRecord
  | [] => []
  | turn :: turns => search.produced turn ++
    match search.turn turn with
    | .ok (search, none) => search.producedBy turns
    | _ => []

/-- So do the passes of a search that has not ended. -/
theorem Counted.passes (counted : search.Counted leftover records unwritten) {turns : List Turn}
    (h : search.loop turns = .ok (search', none)) :
    search'.Counted leftover (records ++ search.producedBy turns)
      (search.unwritten unwritten turns) := by
  induction turns generalizing search records unwritten with
  | nil =>
    obtain ⟨rfl, -⟩ := Prod.mk.inj (Checked.pure_eq_ok.1 h)
    simpa [producedBy, Search.unwritten] using counted
  | cons turn turns ih =>
    obtain ⟨⟨between, ended⟩, ht, h⟩ := Checked.bind_eq_ok.1 h
    cases ended with
    | some ended => cases h
    | none =>
      rw [producedBy, Search.unwritten, ht, ← List.append_assoc]
      exact ih (counted.next ht) h

end Passes

end Search

namespace Search

theorem six_steps : 0 < 6 := by decide

theorem minute_pos : (0 : ℚ≥0) < (60 : ℕ) := by norm_num

def newBudget : Budget where
  maxSteps := 6
  maxTokens := 1000
  maxCost := 1
  maxTimeSeconds := (60 : ℕ)
  steps_pos := six_steps
  time_pos := minute_pos

def newRequest : InMemoryRuntimeStore.RunRequest where
  jobKey := "job"
  ruleVersionId := "rules"
  scenarioVersionId := "refund-points"
  sandboxVersion := "fixed"
  oracleVersion := "1.0"
  budget := newBudget
  randomSeed := 0

/-- The store in which a run has a strategy that has not begun. -/
def newStore : InMemoryRuntimeStore := InMemoryRuntimeStore.after {} [
  .createRun "run" newRequest,
  .compareAndSetStatus "run" .ready .searching none,
  .ensureStrategy "strategy" "run" .valueFlow newBudget]

def newStrategy : StrategyRun where
  strategyRunId := "strategy"
  attackRunId := "run"
  strategyType := .valueFlow
  status := .pending
  budget := newBudget

def newAdapter : RecordedLLMAdapter where
  provider := "provider"
  model := "model"

/-- Every call of the agent gives this answer. -/
def answering (proposal : Option Proposal) : Turn where
  completions _ := .answer { inputTokens := 10, outputTokens := 1 } proposal

/-- The agent proposes to create the user. -/
def creating : Turn :=
  answering (some (.action {
    actionType := .createUser
    arguments := [("initial_balance", .str "500.00")]
    unique := List.nodup_singleton _ }))

theorem ordering_unique : ([("amount", ArgValue.str "200.00")].map Prod.fst).Nodup :=
  List.nodup_singleton _

/-- The agent proposes an order for the user. -/
def ordering : ActionProposal where
  actionType := .createOrder
  targetId := some "user-1"
  arguments := [("amount", .str "200.00")]
  unique := ordering_unique

/-- The search as it begins. -/
def newSearch [Python] : Search where
  spec := pointsPolicy
  runId := "run"
  store := newStore.apply (.updateStrategy { newStrategy with status := .searching })
  strategy := { newStrategy with status := .searching }
  adapter := newAdapter
  state := pointsPolicy.simulator.initialState
  snapshots := [pointsPolicy.simulator.initialState.snapshot]
  actions := []
  history := []
  usage := {}
  priorElapsed := 0
  checkpointVersion := 0

theorem start_newSearch [Python] :
    start pointsPolicy "run" newStore newStrategy newAdapter = .ok newSearch := rfl

theorem ok_of_toOption {ε α : Type} {x : Except ε α} {a : α} (h : x.toOption = some a) :
    x = .ok a := by
  cases x with
  | error e => cases h
  | ok b => exact congrArg Except.ok (Option.some.inj h)

end Search

end RuleArena
