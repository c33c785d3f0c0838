import RuleArena.Runtime.Log
import RuleArena.Runtime.Search

/-!
# What one pass of a search does

A pass ends before the agent is asked, or with an answer that is no proposal, or
with a proposal over the budget, or the proposal is followed (`turn_cases`).
What is said of a search that follows a proposal (`Followed`) is all that the
accounts of a search need.
-/

namespace RuleArena

/-! ## Spending -/

/-- What calls have used: their tokens and their cost. -/
def spent (records : List LLMCallRecord) : Nat × ℚ≥0 :=
  ((records.map fun call => call.usage.inputTokens + call.usage.outputTokens).sum,
    (records.map fun call => call.usage.cost).sum)

theorem spent_append (records records' : List LLMCallRecord) :
    spent (records ++ records') = spent records + spent records' := by
  simp [spent]

@[simp] theorem spent_nil : spent [] = 0 := rfl

/-- The tokens and the cost of a usage. -/
def BudgetUsage.spent (usage : BudgetUsage) : Nat × ℚ≥0 := (usage.tokens, usage.cost)

namespace RecordedLLMAdapter

/-- The agent makes a call at least, and every one is recorded. -/
theorem pendingCalls_propose (adapter : RecordedLLMAdapter) (completions : List Completion) :
    ∃ records, (adapter.propose completions).1.pendingCalls = adapter.pendingCalls ++ records ∧
      (completions ≠ [] → records ≠ []) := by
  induction completions generalizing adapter with
  | nil => exact ⟨[], (List.append_nil _).symm, fun h => absurd rfl h⟩
  | cons completion completions ih =>
    obtain ⟨records, hr, -⟩ := ih (adapter.record completion.usage)
    have more : ∃ records, ((adapter.record completion.usage).propose completions).1.pendingCalls =
        adapter.pendingCalls ++ records ∧ (completion :: completions ≠ [] → records ≠ []) :=
      ⟨adapter.recordOf completion.usage :: records, by rw [hr, record]; simp, fun _ => nofun⟩
    have one : ∃ records, (adapter.record completion.usage).pendingCalls =
        adapter.pendingCalls ++ records ∧ (completion :: completions ≠ [] → records ≠ []) :=
      ⟨[adapter.recordOf completion.usage], rfl, fun _ => nofun⟩
    cases completion with
    | answer usage proposal =>
      cases proposal with
      | some proposal => exact one
      | none =>
        rw [propose]
        split_ifs
        · exact one
        · exact more
    | transient => exact more
    | fatal => exact one

end RecordedLLMAdapter

namespace Search

variable {search search' : Search} {ended : Option SearchEnd} {turn : Turn}

/-! ## Writing to the store -/

/-- A search whose usage is persisted. -/
def persisted (search : Search) (usage : BudgetUsage) : Search :=
  { search with
    strategy := { search.strategy with usage }
    store := { search.store with
      strategies := insertEntry search.store.strategies search.strategy.strategyRunId
        { search.strategy with usage } } }

theorem persist_eq_ok {usage : BudgetUsage} (h : search.persist usage = .ok search') :
    search' = search.persisted usage := by
  simp only [persist, Checked.bind_eq_ok, Checked.pure_eq_ok, WorkerError.ofStore_eq_ok,
    InMemoryRuntimeStore.updateStrategy] at h
  obtain ⟨⟨store, -⟩, ⟨-, -, rfl, -⟩, rfl⟩ := h
  rfl

/-- A search that has stored a checkpoint. -/
def checkpointed (search : Search) (checkpoint : Checkpoint) : Search :=
  { search with store := { search.store with
    checkpoints := insertEntry search.store.checkpoints search.strategy.strategyRunId checkpoint } }

theorem saveCandidate_eq_ok {invariantId : InvariantId}
    (h : search.saveCandidate invariantId = .ok (search', ended)) :
    (∃ checkpoint, search' = search.checkpointed checkpoint) ∧ ended = some
      { reason := .candidateFound, found := some (search.actions, invariantId) } := by
  unfold saveCandidate at h
  split at h
  · cases h
  · simp only [InMemoryRuntimeStore.saveCheckpoint, Checked.bind_eq_ok, Checked.pure_eq_ok,
      WorkerError.ofStore_eq_ok, Prod.mk.injEq] at h
    obtain ⟨⟨store, -⟩, ⟨-, -, rfl, -⟩, rfl, rfl⟩ := h
    exact ⟨⟨_, rfl⟩, rfl⟩

/-- Whoever requests a cancellation touches the runs and their events only. -/
theorem requestCancel_frame (store : InMemoryRuntimeStore) (runId : String) :
    ∃ runs events, store.orSame (store.requestCancel runId) = { store with runs, events } := by
  refine InMemoryRuntimeStore.orSame_of
    (P := fun store' => ∃ runs events, store' = { store with runs, events })
    ⟨_, _, rfl⟩ fun store' changed h => ?_
  obtain ⟨run, -, h⟩ := Checked.bind_eq_ok.1 h
  split_ifs at h
  · obtain ⟨-, -, ⟨rfl, -⟩ | ⟨-, -, -, -, rfl⟩⟩ :=
      InMemoryRuntimeStore.compareAndSetStatus_cases h
    · exact ⟨_, _, rfl⟩
    · exact ⟨_, _, rfl⟩
  · obtain ⟨rfl, -⟩ := Prod.mk.inj (Checked.pure_eq_ok.1 h)
    exact ⟨_, _, rfl⟩

theorem tick_frame (search : Search) (turn : Turn) :
    ∃ runs events, (search.tick turn).store = { search.store with runs, events } := by
  unfold tick
  split_ifs
  · exact requestCancel_frame ..
  · exact ⟨_, _, rfl⟩

theorem stored_tick {strategyRunId : String} {strategy : StrategyRun}
    (stored : search.store.strategies strategyRunId = some strategy) :
    (search.tick turn).store.strategies strategyRunId = some strategy := by
  obtain ⟨runs, events, same⟩ := search.tick_frame turn
  rw [same]
  exact stored

/-! ## Following a proposal -/

/-- What a search has done when it has followed a proposal: its usage has not changed but for
    the step of an action, and is persisted, unless the proposal was rejected. -/
structure Followed (search search' : Search) (ended : Option SearchEnd) : Prop where
  adapter : search'.adapter = search.adapter
  spent : search'.usage.spent = search.usage.spent
  steps : search'.usage.steps + search.actions.length =
    search.usage.steps + search'.actions.length
  elapsed : search'.priorElapsed = search.priorElapsed
  strategy : search'.strategy = { search.strategy with usage := search'.strategy.usage }
  persisted : search'.strategy.usage = search'.usage ∨
    ended = none ∧ search'.strategy = search.strategy ∧ search'.usage = search.usage
  stored : search.store.strategies search.strategy.strategyRunId = some search.strategy →
    search'.store.strategies search.strategy.strategyRunId = some search'.strategy

theorem followed_persisted : Followed search (search.persisted search.usage) ended where
  adapter := rfl
  spent := rfl
  steps := rfl
  elapsed := rfl
  strategy := rfl
  persisted := .inl rfl
  stored _ := InMemoryRuntimeStore.insertEntry_self ..

/-- A checkpoint changes none of it. -/
theorem Followed.checkpointed (followed : Followed search search' ended) {checkpoint : Checkpoint}
    {ended' : Option SearchEnd} (persisted : search'.strategy.usage = search'.usage) :
    Followed search (search'.checkpointed checkpoint) ended' :=
  { followed with persisted := .inl persisted }

theorem stop_followed {proposal : StopProposal}
    (h : search.stop proposal = .ok (search', ended)) : Followed search search' ended := by
  obtain ⟨persisted, hp, h⟩ := Checked.bind_eq_ok.1 h
  obtain rfl := persist_eq_ok hp
  split at h
  · obtain ⟨rfl, rfl⟩ := Prod.mk.inj (Checked.pure_eq_ok.1 h)
    exact followed_persisted
  · split_ifs at h
    · obtain ⟨⟨checkpoint, rfl⟩, rfl⟩ := saveCandidate_eq_ok h
      have followed : Followed search (search.persisted search.usage) none := followed_persisted
      exact followed.checkpointed rfl
    · obtain ⟨rfl, rfl⟩ := Prod.mk.inj (Checked.pure_eq_ok.1 h)
      exact followed_persisted

/-- A stop ends the search. -/
theorem stop_ended {proposal : StopProposal} (h : search.stop proposal = .ok (search', ended)) :
    ended ≠ none := by
  rintro rfl
  obtain ⟨persisted, hp, h⟩ := Checked.bind_eq_ok.1 h
  split at h
  · cases h
  · split_ifs at h
    · exact absurd (saveCandidate_eq_ok h).2 nofun
    · cases h

theorem reject_followed {kind : RejectionKind} {message : String} {proposed : ActionName}
    (h : search.reject kind message proposed = .ok (search', ended)) :
    Followed search search' ended := by
  unfold reject at h
  dsimp only at h
  split_ifs at h
  · simp only [Checked.bind_eq_ok, Checked.pure_eq_ok, Prod.mk.injEq] at h
    obtain ⟨persisted, hp, rfl, rfl⟩ := h
    obtain rfl := persist_eq_ok hp
    exact ⟨rfl, rfl, rfl, rfl, rfl, .inl rfl, fun _ => InMemoryRuntimeStore.insertEntry_self ..⟩
  · obtain ⟨rfl, rfl⟩ := Prod.mk.inj (Checked.pure_eq_ok.1 h)
    exact ⟨rfl, rfl, rfl, rfl, rfl, .inr ⟨rfl, rfl, rfl⟩, id⟩

/-! ## Doing an action -/

variable [Python]

/-- A search in which an action has been done. -/
def stepped (search : Search) (action : SimAction) (transition : TransitionResult) : Search :=
  { search with
    state := transition.state
    actions := search.actions ++ [{ action with idempotencyKey := some search.stepKey }]
    history := search.history ++
      [{ actionKey := action.canonicalKey, status := transition.status }]
    snapshots := search.snapshots ++ [transition.state.snapshot]
    usage := { search.usage with steps := search.usage.steps + 1 } }

theorem accept_eq_ok {action : SimAction} (h : search.accept action = .ok search') :
    ∃ transition checkpoint, search.spec.simulator.transition search.state
        { action with idempotencyKey := some search.stepKey } = .ok transition ∧
      checkpoint.state.actions =
        (search.stepped action transition).actions.map serializeAction ∧
      search' = { ((search.stepped action transition).persisted
        (search.stepped action transition).usage).checkpointed checkpoint with
          checkpointVersion := checkpoint.version } := by
  unfold accept at h
  dsimp only at h
  split at h
  · cases h
  · next transition moved =>
    obtain ⟨persisted, hp, h⟩ := Checked.bind_eq_ok.1 h
    obtain rfl := persist_eq_ok hp
    simp only [InMemoryRuntimeStore.saveCheckpoint, Checked.bind_eq_ok, Checked.pure_eq_ok,
      WorkerError.ofStore_eq_ok] at h
    obtain ⟨⟨store, saved⟩, ⟨-, -, stored⟩, rfl⟩ := h
    obtain ⟨rfl, rfl⟩ := Prod.mk.inj stored
    exact ⟨transition, _, moved, rfl, rfl⟩

theorem accept_followed {action : SimAction} (h : search.accept action = .ok search') :
    Followed search search' none ∧ search'.strategy.usage = search'.usage := by
  obtain ⟨transition, checkpoint, -, -, rfl⟩ := accept_eq_ok h
  refine ⟨⟨rfl, rfl, ?_, rfl, rfl, .inl rfl, fun _ => InMemoryRuntimeStore.insertEntry_self ..⟩,
    rfl⟩
  change search.usage.steps + 1 + search.actions.length =
    search.usage.steps + (search.actions ++ [_]).length
  rw [List.length_append, List.length_singleton]
  omega

theorem act_followed {legal : List SimAction} {proposal : ActionProposal}
    (h : search.act legal proposal = .ok (search', ended)) : Followed search search' ended := by
  unfold act at h
  split at h
  · exact reject_followed h
  · cases h
  · obtain ⟨accepted, ha, h⟩ := Checked.bind_eq_ok.1 h
    obtain ⟨followed, persisted⟩ := accept_followed ha
    obtain ⟨violated, -, h⟩ := Checked.bind_eq_ok.1 h
    cases violated with
    | none =>
      obtain ⟨rfl, rfl⟩ := Prod.mk.inj (Checked.pure_eq_ok.1 h)
      exact followed
    | some invariantId =>
      obtain ⟨⟨checkpoint, rfl⟩, rfl⟩ := saveCandidate_eq_ok h
      exact followed.checkpointed persisted

/-! ## Passes -/

/-- How a pass goes: it ends at its top, or with an answer that is no proposal, or with a
    proposal that is over the budget, or a proposal is followed. -/
theorem turn_cases (h : search.turn turn = .ok (search', ended)) :
    (∃ reason, (search.tick turn).exhausted = .ok (some reason) ∧ search' = search.tick turn ∧
      ended = some { reason }) ∨
    (search.tick turn).exhausted = .ok none ∧
      ((∃ kind, ((search.tick turn).adapter.propose (List.ofFn turn.completions)).2 =
          .rejected kind ∧
        search' = { (search.tick turn).asked turn with
          rejectedKinds := search.rejectedKinds ++ [kind] } ∧
        ended = some { reason := .unparsableOutput }) ∨
      ∃ proposal, ((search.tick turn).adapter.propose (List.ofFn turn.completions)).2 =
          .proposal proposal ∧
        (¬ ((search.tick turn).asked turn).nextUsage.Within search.strategy.budget ∧
          search' = { ((search.tick turn).asked turn).counted with
            usage := (search.tick turn).usage }.persisted
              ((search.tick turn).asked turn).nextUsage ∧
          ended = some { reason := .budgetTokensOrCost } ∨
        ((search.tick turn).asked turn).nextUsage.Within search.strategy.budget ∧
          Followed ((search.tick turn).asked turn).counted search' ended)) := by
  obtain ⟨exhausted, he, h⟩ := Checked.bind_eq_ok.1 h
  rw [he]
  cases exhausted with
  | some reason =>
    obtain ⟨rfl, rfl⟩ := Prod.mk.inj (Checked.pure_eq_ok.1 h)
    exact .inl ⟨reason, rfl, rfl, rfl⟩
  | none =>
    refine .inr ⟨rfl, ?_⟩
    dsimp only [ask] at h
    split at h
    · cases h
    · next kind hr =>
      obtain ⟨rfl, rfl⟩ := Prod.mk.inj (Checked.pure_eq_ok.1 h)
      exact .inl ⟨kind, hr, rfl, rfl⟩
    · next proposal hr =>
      refine .inr ⟨proposal, hr, ?_⟩
      unfold follow at h
      split_ifs at h with within
      · refine .inr ⟨within, ?_⟩
        cases proposal with
        | stop proposal => exact stop_followed h
        | action proposal => exact act_followed h
      · obtain ⟨persisted, hp, h⟩ := Checked.bind_eq_ok.1 h
        obtain rfl := persist_eq_ok hp
        obtain ⟨rfl, rfl⟩ := Prod.mk.inj (Checked.pure_eq_ok.1 h)
        exact .inl ⟨within, rfl, rfl⟩

/-- A pass that does not end the search: the agent has proposed an action, which was rejected
    or was accepted and led to nothing that the oracle finds violated. -/
theorem next_cases (h : search.turn turn = .ok (search', none)) :
    (search.tick turn).exhausted = .ok none ∧ ∃ proposal,
      ((search.tick turn).adapter.propose (List.ofFn turn.completions)).2 =
        .proposal (.action proposal) ∧
      ((search.tick turn).asked turn).nextUsage.Within search.strategy.budget ∧
      ((∃ kind message, validateActionProposal proposal
          (search.spec.simulator.legalActions search.state) search.history
          ((search.tick turn).asked turn).nextUsage search.strategy.budget =
            .error (.rejected kind message) ∧
        ¬ 2 ≤ search.illegalRetries ∧
        search' = { ((search.tick turn).asked turn).counted with
          rejectedKinds := search.rejectedKinds ++ [kind]
          illegalRetries := search.illegalRetries + 1
          rejection := some
            (message ++ "; you proposed " ++ proposal.actionType.actionType ++ ".") }) ∨
      ∃ action, validateActionProposal proposal
          (search.spec.simulator.legalActions search.state) search.history
          ((search.tick turn).asked turn).nextUsage search.strategy.budget = .ok action ∧
        ((search.tick turn).asked turn).counted.accept action = .ok search' ∧
        search'.violated = .ok none) := by
  obtain ⟨exhausted, he, h⟩ := Checked.bind_eq_ok.1 h
  cases exhausted with
  | some reason => cases h
  | none =>
    refine ⟨he, ?_⟩
    dsimp only [ask] at h
    split at h
    · cases h
    · cases h
    · next proposal hr =>
      unfold follow at h
      split_ifs at h with within
      · cases proposal with
        | stop proposal => exact absurd rfl (stop_ended h)
        | action proposal =>
          refine ⟨proposal, hr, within, ?_⟩
          dsimp only [act] at h
          split at h
          · next kind message hv =>
            refine .inl ⟨kind, message, hv, ?_⟩
            unfold reject at h
            dsimp only at h
            split_ifs at h with exhausted
            · obtain ⟨_, -, h⟩ := Checked.bind_eq_ok.1 h
              cases h
            · obtain ⟨rfl, -⟩ := Prod.mk.inj (Checked.pure_eq_ok.1 h)
              exact ⟨exhausted, rfl⟩
          · cases h
          · next action hv =>
            obtain ⟨accepted, ha, h⟩ := Checked.bind_eq_ok.1 h
            obtain ⟨violated, hn, h⟩ := Checked.bind_eq_ok.1 h
            cases violated with
            | some invariantId => exact absurd (saveCandidate_eq_ok h).2 nofun
            | none =>
              obtain ⟨rfl, -⟩ := Prod.mk.inj (Checked.pure_eq_ok.1 h)
              exact .inr ⟨action, hv, ha, hn⟩
      · obtain ⟨_, -, h⟩ := Checked.bind_eq_ok.1 h
        cases h

end Search

end RuleArena
