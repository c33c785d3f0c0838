import RuleArena.Oracle.Total
import RuleArena.Runtime.Resume
import RuleArena.Simulator.Reports
import RuleArena.Simulator.Totality

/-!
# How a search ends

Every pass of a search that does not end it takes a step of its budget or one of
the two retries, so that the passes come to an end (`Search.left_next`). On rules
with which the simulator raises nothing a pass returns, unless the check of the
proposed action raises (`Search.Steady.returns`): the store has what the search
keeps in it, and the oracle digests the snapshots of the simulator
(`evaluate_simulated`).

A search of an agent that answers with proposals ends within three proposals more
than it has steps left (`search_ends`).
-/

namespace RuleArena

/-! ## What remains of a budget -/

/-- The arguments of a budget, before they are validated. -/
structure BudgetArguments where
  maxSteps : Int
  maxTokens : Int
  maxCost : ℚ
  maxTimeSeconds : ℚ

namespace BudgetArguments

/-- Positive steps and time, and tokens and a cost that are not negative. -/
structure Valid (arguments : BudgetArguments) : Prop where
  steps : 0 < arguments.maxSteps
  tokens : 0 ≤ arguments.maxTokens
  cost : 0 ≤ arguments.maxCost
  time : 0 < arguments.maxTimeSeconds

end BudgetArguments

namespace Search

/-- The budget that the agent is told: what the usage leaves of that of the strategy. -/
def remaining (search : Search) : BudgetArguments where
  maxSteps := search.strategy.budget.maxSteps - search.usage.steps
  maxTokens := search.strategy.budget.maxTokens - search.usage.tokens
  maxCost := max 0 (search.strategy.budget.maxCost - search.usage.cost)
  maxTimeSeconds :=
    max (1 / 1000000) (search.strategy.budget.maxTimeSeconds - search.usage.elapsedSeconds)

variable {search search' : Search} {ended : Option SearchEnd} {pass : Turn}

/-- An agent that is asked has a step left. -/
theorem steps_lt_of_ready (ready : search.exhausted = .ok none) :
    search.usage.steps < search.strategy.budget.maxSteps := by
  by_contra spent
  unfold exhausted at ready
  rw [if_pos (not_lt.1 spent)] at ready
  split_ifs at ready
  all_goals cases ready

theorem remaining_valid (ready : search.exhausted = .ok none) : search.remaining.Valid := by
  obtain ⟨-, tokens, -, -⟩ := within_of_ready ready
  have steps := steps_lt_of_ready ready
  exact {
    steps := by unfold remaining; dsimp only; omega
    tokens := by unfold remaining; dsimp only; omega
    cost := le_max_left ..
    time := lt_max_of_lt_left (by norm_num) }

/-! ## What is left of a search -/

/-- The steps and the retries that a search has left. -/
def left (search : Search) : Nat :=
  search.strategy.budget.maxSteps - search.usage.steps + (2 - search.illegalRetries)

variable [Python]

/-- A pass that does not end the search takes one of them. -/
theorem left_next (h : search.turn pass = .ok (search', none)) :
    search'.left + 1 = search.left := by
  obtain ⟨ready, proposal, -, -, ⟨kind, message, -, more, rfl⟩ | ⟨action, -, ha, -⟩⟩ :=
    next_cases h
  · change _ + (2 - (search.illegalRetries + 1)) + 1 = _ + (2 - search.illegalRetries)
    have same : ((search.tick pass).asked pass).counted.strategy.budget.maxSteps -
        ((search.tick pass).asked pass).counted.usage.steps =
        search.strategy.budget.maxSteps - search.usage.steps := rfl
    rw [same]
    omega
  · obtain ⟨transition, checkpoint, -, -, rfl⟩ := accept_eq_ok ha
    have room := steps_lt_of_ready ready
    change search.usage.steps < search.strategy.budget.maxSteps at room
    change search.strategy.budget.maxSteps - (search.usage.steps + 1) +
      (2 - search.illegalRetries) + 1 = _
    unfold left
    omega

omit [Python] in
theorem stop_actions {proposal : StopProposal}
    (h : search.stop proposal = .ok (search', ended)) : search'.actions = search.actions := by
  obtain ⟨persisted, hp, h⟩ := Checked.bind_eq_ok.1 h
  obtain rfl := persist_eq_ok hp
  split at h
  · obtain ⟨rfl, -⟩ := Prod.mk.inj (Checked.pure_eq_ok.1 h)
    rfl
  · split_ifs at h
    · obtain ⟨⟨checkpoint, rfl⟩, -⟩ := saveCandidate_eq_ok h
      rfl
    · obtain ⟨rfl, -⟩ := Prod.mk.inj (Checked.pure_eq_ok.1 h)
      rfl

omit [Python] in
theorem reject_actions {kind : RejectionKind} {message : String} {proposed : ActionName}
    (h : search.reject kind message proposed = .ok (search', ended)) :
    search'.actions = search.actions := by
  unfold reject at h
  dsimp only at h
  split_ifs at h
  · simp only [Checked.bind_eq_ok, Checked.pure_eq_ok, Prod.mk.injEq] at h
    obtain ⟨persisted, hp, rfl, -⟩ := h
    obtain rfl := persist_eq_ok hp
    rfl
  · obtain ⟨rfl, -⟩ := Prod.mk.inj (Checked.pure_eq_ok.1 h)
    rfl

theorem act_actions {legal : List SimAction} {proposal : ActionProposal}
    (h : search.act legal proposal = .ok (search', ended)) :
    search'.actions.length ≤ search.actions.length + 1 := by
  unfold act at h
  split at h
  · rw [reject_actions h]
    exact Nat.le_succ _
  · cases h
  · next action _ =>
    obtain ⟨accepted, ha, h⟩ := Checked.bind_eq_ok.1 h
    obtain ⟨transition, checkpoint, -, -, rfl⟩ := accept_eq_ok ha
    have stepped : (search.stepped action transition).actions.length = search.actions.length + 1 :=
      List.length_append
    obtain ⟨violated, -, h⟩ := Checked.bind_eq_ok.1 h
    cases violated with
    | none =>
      obtain ⟨rfl, -⟩ := Prod.mk.inj (Checked.pure_eq_ok.1 h)
      exact stepped.le
    | some invariantId =>
      obtain ⟨⟨checkpoint, rfl⟩, -⟩ := saveCandidate_eq_ok h
      exact stepped.le

/-- A pass accepts one action at most, and only with a step that is left. -/
theorem turn_actions (h : search.turn pass = .ok (search', ended)) :
    search'.actions.length ≤ search.actions.length +
      (search.strategy.budget.maxSteps - search.usage.steps) := by
  obtain ⟨exhausted, ready, h⟩ := Checked.bind_eq_ok.1 h
  cases exhausted with
  | some reason =>
    obtain ⟨rfl, -⟩ := Prod.mk.inj (Checked.pure_eq_ok.1 h)
    exact Nat.le_add_right _ _
  | none =>
    have room := steps_lt_of_ready ready
    change search.usage.steps < search.strategy.budget.maxSteps at room
    dsimp only [ask] at h
    split at h
    · cases h
    · obtain ⟨rfl, -⟩ := Prod.mk.inj (Checked.pure_eq_ok.1 h)
      exact Nat.le_add_right _ _
    · next proposal _ =>
      unfold follow at h
      split_ifs at h
      · cases proposal with
        | stop proposal =>
          rw [stop_actions h]
          exact Nat.le_add_right _ _
        | action proposal =>
          have one := act_actions h
          change _ ≤ search.actions.length + 1 at one
          omega
      · obtain ⟨persisted, hp, h⟩ := Checked.bind_eq_ok.1 h
        obtain rfl := persist_eq_ok hp
        obtain ⟨rfl, -⟩ := Prod.mk.inj (Checked.pure_eq_ok.1 h)
        exact Nat.le_add_right _ _

/-- What a pass that goes on has accepted and what it may accept. -/
theorem actions_next (h : search.turn pass = .ok (search', none)) :
    search'.actions.length + (search'.strategy.budget.maxSteps - search'.usage.steps) =
      search.actions.length + (search.strategy.budget.maxSteps - search.usage.steps) := by
  obtain ⟨ready, proposal, -, -, ⟨kind, message, -, -, rfl⟩ | ⟨action, -, ha, -⟩⟩ := next_cases h
  · rfl
  · obtain ⟨transition, checkpoint, -, -, rfl⟩ := accept_eq_ok ha
    have room := steps_lt_of_ready ready
    change search.usage.steps < search.strategy.budget.maxSteps at room
    change (search.actions ++ [_]).length +
      (search.strategy.budget.maxSteps - (search.usage.steps + 1)) = _
    rw [List.length_append, List.length_singleton]
    omega

/-! ## What a search needs to go on -/

/-- A search of a run that exists, with the state and the snapshots that its actions lead to,
    whose strategy and whose checkpoints are in the store. -/
structure Steady (search : Search) : Prop where
  run : (search.store.runs search.runId).isSome
  stored : (search.store.strategies search.strategy.strategyRunId).isSome
  version : search.store.checkpointVersion search.strategy.strategyRunId = search.checkpointVersion
  begun : search.actions ≠ [] →
    (search.store.checkpoints search.strategy.strategyRunId).isSome
  computed : resumeState search.spec.simulator search.actions =
    .ok (search.state, search.snapshots)

omit [Python] in
theorem runs_requestCancel_isSome {store : InMemoryRuntimeStore} {runId : String}
    (run : (store.runs runId).isSome) :
    ((store.orSame (store.requestCancel runId)).runs runId).isSome := by
  refine InMemoryRuntimeStore.orSame_of
    (P := fun store' => (store'.runs runId).isSome) run fun store' changed h => ?_
  obtain ⟨current, -, h⟩ := Checked.bind_eq_ok.1 h
  split_ifs at h
  · obtain ⟨-, -, ⟨rfl, -⟩ | ⟨-, -, -, -, rfl⟩⟩ :=
      InMemoryRuntimeStore.compareAndSetStatus_cases h
    · exact run
    · change (insertEntry store.runs runId _ runId).isSome
      rw [InMemoryRuntimeStore.insertEntry_self]
      rfl
  · obtain ⟨rfl, -⟩ := Prod.mk.inj (Checked.pure_eq_ok.1 h)
    exact run

theorem Steady.tick (steady : search.Steady) (turn : Turn) : (search.tick turn).Steady := by
  obtain ⟨runs, events, same⟩ := search.tick_frame turn
  have kept : (search.tick turn).store.strategies = search.store.strategies ∧
      (search.tick turn).store.checkpoints = search.store.checkpoints := by
    rw [same]
    exact ⟨rfl, rfl⟩
  obtain ⟨strategies, checkpoints⟩ := kept
  refine ⟨?_, ?_, ?_, ?_, steady.computed⟩
  · unfold Search.tick
    split_ifs
    · exact runs_requestCancel_isSome steady.run
    · exact steady.run
  · rw [strategies]
    exact steady.stored
  · rw [InMemoryRuntimeStore.checkpointVersion, checkpoints]
    exact steady.version
  · rw [checkpoints]
    exact steady.begun

/-- What the agent has said before its proposal is followed changes none of it. -/
theorem Steady.counted (steady : search.Steady) (turn : Turn) :
    (search.asked turn).counted.Steady :=
  ⟨steady.run, steady.stored, steady.version, steady.begun, steady.computed⟩

omit [Python] in
theorem exists_exhausted (run : (search.store.runs search.runId).isSome) :
    ∃ reason, search.exhausted = .ok reason := by
  obtain ⟨run, known⟩ := Option.isSome_iff_exists.1 run
  have requested : search.store.isCancelRequested search.runId =
      .ok (decide (run.status = .cancelRequested)) := by
    rw [InMemoryRuntimeStore.isCancelRequested, InMemoryRuntimeStore.getRun, known]
    rfl
  unfold exhausted
  rw [requested]
  dsimp only [WorkerError.ofStore, Checked.ok_bind]
  split_ifs
  all_goals exact ⟨_, rfl⟩

omit [Python] in
theorem persist_eq (stored : (search.store.strategies search.strategy.strategyRunId).isSome)
    (usage : BudgetUsage) : search.persist usage = .ok (search.persisted usage) := by
  obtain ⟨strategy, known⟩ := Option.isSome_iff_exists.1 stored
  unfold persist InMemoryRuntimeStore.updateStrategy
  dsimp only
  rw [known]
  rfl

omit [Python] in
/-- A checkpoint of the version that is expected is stored. -/
theorem saveCheckpoint_of_version {store : InMemoryRuntimeStore} {strategyRunId : String}
    {version : Nat} (known : store.checkpointVersion strategyRunId = version)
    (state : CheckpointState) : ∃ result,
      WorkerError.ofStore (store.saveCheckpoint strategyRunId state version) = .ok result := by
  rw [InMemoryRuntimeStore.saveCheckpoint_eq, if_pos known]
  exact ⟨_, rfl⟩

omit [Python] in
theorem exists_saveCandidate
    (saved : (search.store.checkpoints search.strategy.strategyRunId).isSome)
    (invariantId : InvariantId) : ∃ result, search.saveCandidate invariantId = .ok result := by
  obtain ⟨checkpoint, known⟩ := Option.isSome_iff_exists.1 saved
  unfold saveCandidate
  rw [known]
  have version : search.store.checkpointVersion search.strategy.strategyRunId =
      checkpoint.version := by rw [InMemoryRuntimeStore.checkpointVersion, known]; rfl
  obtain ⟨saved, h⟩ := saveCheckpoint_of_version version
    { checkpoint.state with candidateInvariant := some invariantId }
  dsimp only
  rw [h]
  exact ⟨_, rfl⟩

theorem Steady.exists_stop (steady : search.Steady) (proposal : StopProposal) :
    ∃ result, search.stop proposal = .ok result := by
  unfold Search.stop
  rw [persist_eq steady.stored, Checked.ok_bind]
  split
  · exact ⟨_, rfl⟩
  · split_ifs with named
    · have saved : ((search.persisted search.usage).store.checkpoints
          (search.persisted search.usage).strategy.strategyRunId).isSome := steady.begun named.1
      exact exists_saveCandidate saved _
    · exact ⟨_, rfl⟩

theorem Steady.exists_reject (steady : search.Steady) (kind : RejectionKind) (message : String)
    (proposed : ActionName) : ∃ result, search.reject kind message proposed = .ok result := by
  unfold Search.reject
  dsimp only
  split_ifs
  · have rejected : Steady { search with rejectedKinds := search.rejectedKinds ++ [kind] } :=
      ⟨steady.run, steady.stored, steady.version, steady.begun, steady.computed⟩
    rw [persist_eq rejected.stored]
    exact ⟨_, rfl⟩
  · exact ⟨_, rfl⟩

/-! ## The oracle -/

omit [Python] in
/-- A state that is resumed is the one that the actions lead to, and so are the snapshots. -/
theorem resumed_spec [Python] {simulator : ReferenceSimulator} {actions : List SimAction}
    {state : SimulationState} {snapshots : List Json}
    (h : resumeState simulator actions = .ok (state, snapshots)) :
    state = simulator.run actions ∧
      snapshots = (simulator.states actions).map SimulationState.snapshot := by
  induction actions using List.reverseRecOn generalizing state snapshots with
  | nil =>
    obtain ⟨rfl, rfl⟩ := Prod.mk.inj (Checked.pure_eq_ok.1 h)
    exact ⟨rfl, rfl⟩
  | append_singleton actions action ih =>
    rw [resumeState, List.foldlM_append] at h
    obtain ⟨⟨before, earlier⟩, resumed, h⟩ := Checked.bind_eq_ok.1 h
    obtain ⟨rfl, rfl⟩ := ih resumed
    rw [List.foldlM_cons] at h
    obtain ⟨⟨after, later⟩, moved, h⟩ := Checked.bind_eq_ok.1 h
    obtain ⟨rfl, rfl⟩ := Prod.mk.inj (Checked.pure_eq_ok.1 h)
    dsimp only at moved
    split at moved
    · next transition step =>
      obtain ⟨rfl, rfl⟩ := Prod.mk.inj (Checked.pure_eq_ok.1 moved)
      have next : simulator.run (actions ++ [action]) = transition.state := by
        rw [ReferenceSimulator.run_concat, ReferenceSimulator.next, step]
      rw [ReferenceSimulator.states_concat, next, List.map_append]
      exact ⟨rfl, rfl⟩
    · cases moved

end Search

open Oracle in
/-- The oracle raises nothing on the snapshots of the simulator. -/
theorem evaluate_simulated [Python] (spec : PolicySpec) (actions : List SimAction) :
    ∃ findings, evaluate spec.toRuleSpec
      ((spec.simulator.states actions).map SimulationState.snapshot) [] [] = .ok findings := by
  have last := spec.simulator.states_getLast? actions
  obtain ⟨points, hp, -⟩ := alike_pointsConservation spec.pointsRule_eq
    (spec.simulator.run_readable actions) last
  obtain ⟨net, hn, -⟩ := alike_netPaid (spec.simulator.run_readable actions) last
  have refund : Checked.Fails Concludes (entitlementRefund spec.toRuleSpec
      ((spec.simulator.states actions).map SimulationState.snapshot) []) := by
    refine concludes_entitlementRefund.2 fun memberships _ _ hm _ => ?_
    rw [lastItems_normalized last, (items_normalized _).2.2.2.1] at hm
    obtain rfl := Option.some.inj hm
    refine inTurn_of_forall fun item mem => ?_
    obtain ⟨membership, -, rfl⟩ := List.mem_map.1 mem
    rw [(simMembership_get membership).2.1]
    trivial
  have idempotent : Checked.Fails Concludes (idempotency [] []) :=
    concludes_idempotency.2 (by simp)
  let unread : InvariantId → Prop := fun _ => False
  have each : ∀ check ∈ checks spec.toRuleSpec
      ((spec.simulator.states actions).map SimulationState.snapshot) [] [],
      ∃ status, statusOf check.2 = .ok status ∧
        (unread check.1 → status = .insufficientEvidence) := by
    simp only [checks, List.forall_mem_cons]
    refine ⟨⟨net, hn, False.elim⟩, settled (concludes_of_quiet quiet_refundLimit) fun _ _ => False.elim,
      settled (concludes_of_quiet quiet_couponConsumption) fun _ _ => False.elim,
      ⟨points, hp, False.elim⟩, settled concludes_terminalMonotonicity fun _ _ => False.elim,
      settled (concludes_of_quiet quiet_entitlementNonNegative) fun _ _ => False.elim,
      settled refund fun _ _ => False.elim, settled idempotent fun _ _ => False.elim, by simp⟩
  obtain ⟨findings, h, -⟩ := report_iff.2 each
  exact ⟨findings, h⟩

namespace Search

/-! ## Passes that return -/

variable [Python] {search search' : Search} {turn : Turn}

/-- The simulator raises nothing, whatever is done. -/
def Tireless (spec : PolicySpec) : Prop :=
  ∀ actions action, ∃ result,
    spec.simulator.transition (spec.simulator.run actions) action = .ok result

theorem Steady.exists_accept (steady : search.Steady) (tireless : Tireless search.spec)
    (action : SimAction) : ∃ search', search.accept action = .ok search' := by
  obtain ⟨state, -⟩ := resumed_spec steady.computed
  obtain ⟨transition, moved⟩ := tireless search.actions
    { action with idempotencyKey := some search.stepKey }
  rw [← state] at moved
  have known : ((search.stepped action transition).store.strategies
      (search.stepped action transition).strategy.strategyRunId).isSome := steady.stored
  have stored := persist_eq known (search.stepped action transition).usage
  have version : ((search.stepped action transition).persisted
      (search.stepped action transition).usage).store.checkpointVersion
        search.strategy.strategyRunId = search.checkpointVersion := steady.version
  obtain ⟨saved, h⟩ := saveCheckpoint_of_version version
    { actions := (search.stepped action transition).actions.map serializeAction
      usage := (search.stepped action transition).usage
      modelConfigHash := search.adapter.modelConfigHash search.strategy.strategyType
      promptVersion := (search.adapter.lastCall.map LLMCallRecord.promptVersion).getD "unknown" }
  unfold accept
  dsimp only
  rw [moved]
  exact ⟨_, Checked.bind_eq_ok.2 ⟨_, stored, Checked.bind_eq_ok.2 ⟨saved, h, rfl⟩⟩⟩

/-- What an accepted action leads to can go on. -/
theorem Steady.accepted (steady : search.Steady) {action : SimAction}
    (h : search.accept action = .ok search') : search'.Steady := by
  obtain ⟨transition, checkpoint, moved, -, rfl⟩ := accept_eq_ok h
  have saved : insertEntry search.store.checkpoints search.strategy.strategyRunId checkpoint
      search.strategy.strategyRunId = some checkpoint := InMemoryRuntimeStore.insertEntry_self ..
  refine ⟨steady.run, ?_, ?_, fun _ => ?_, resumeState_append steady.computed moved⟩
  · exact Option.isSome_iff_exists.2 ⟨_, InMemoryRuntimeStore.insertEntry_self ..⟩
  · change ((insertEntry search.store.checkpoints search.strategy.strategyRunId checkpoint
        search.strategy.strategyRunId).map _).getD 0 = _
    rw [saved]
    rfl
  · exact Option.isSome_iff_exists.2 ⟨checkpoint, saved⟩

theorem Steady.exists_judge (steady : search.Steady) (begun : search.actions ≠ []) :
    ∃ result, search.judge = .ok result := by
  obtain ⟨-, snapshots⟩ := resumed_spec steady.computed
  obtain ⟨findings, h⟩ := evaluate_simulated search.spec search.actions
  unfold judge violated
  rw [snapshots, h]
  dsimp only
  rw [pure_bind]
  split
  · exact exists_saveCandidate (steady.begun begun) _
  · exact ⟨_, rfl⟩

/-- The check of a proposed action raises: what is compared with zero is not a number. -/
def Raises (search : Search) (proposal : ActionProposal) : Prop :=
  validateActionProposal proposal (search.spec.simulator.legalActions search.state) search.history
    search.usage search.strategy.budget = .error .raised

theorem Steady.exists_act (steady : search.Steady) (tireless : Tireless search.spec)
    (proposal : ActionProposal) :
    (∃ result, search.act (search.spec.simulator.legalActions search.state) proposal =
        .ok result) ∨
      search.Raises proposal ∧
        search.act (search.spec.simulator.legalActions search.state) proposal = .error .agent := by
  unfold act Raises
  split
  · exact .inl (steady.exists_reject _ _ _)
  · exact .inr ⟨by assumption, rfl⟩
  · next action _ =>
    obtain ⟨accepted, ha⟩ := steady.exists_accept tireless action
    have begun : accepted.actions ≠ [] := by
      obtain ⟨transition, checkpoint, -, -, rfl⟩ := accept_eq_ok ha
      exact List.append_ne_nil_of_right_ne_nil _ (List.cons_ne_nil _ _)
    obtain ⟨result, hj⟩ := (steady.accepted ha).exists_judge begun
    exact .inl ⟨result, Checked.bind_eq_ok.2 ⟨accepted, ha, hj⟩⟩

/-- The agent answers with a proposal. -/
def Replies (turn : Turn) : Prop :=
  ∃ usage proposal, turn.completions 0 = .answer usage (some proposal)

/-- A pass in which the agent answers with a proposal returns, unless the check of the proposed
    action raises. -/
theorem Steady.returns (steady : search.Steady) (tireless : Tireless search.spec)
    (replies : Replies turn) :
    (∃ result, search.turn turn = .ok result) ∨ search.turn turn = .error .agent ∧
      (search.tick turn).exhausted = .ok none ∧ ∃ usage proposal,
        turn.completions 0 = .answer usage (some (.action proposal)) ∧
        ((search.tick turn).asked turn).counted.Raises proposal := by
  have ticked := steady.tick turn
  obtain ⟨reason, exhausted⟩ := exists_exhausted ticked.run
  unfold Search.turn
  dsimp only
  rw [exhausted, Checked.ok_bind]
  cases reason with
  | some reason => exact .inl ⟨_, rfl⟩
  | none =>
    obtain ⟨usage, proposal, answer⟩ := replies
    have answered : ((search.tick turn).adapter.propose (List.ofFn turn.completions)).2 =
        .proposal proposal := by
      rw [List.ofFn_succ, answer]
      rfl
    have counted := ticked.counted turn
    dsimp only
    unfold ask
    rw [answered]
    dsimp only
    unfold follow
    split_ifs
    · cases proposal with
      | stop proposal => exact .inl (counted.exists_stop proposal)
      | action proposal =>
        rcases counted.exists_act tireless proposal with returned | ⟨raises, error⟩
        · exact .inl returned
        · exact .inr ⟨error, rfl, usage, proposal, answer, raises⟩
    · have spent : Steady { ((search.tick turn).asked turn).counted with
          usage := (search.tick turn).usage } :=
        ⟨counted.run, counted.stored, counted.version, counted.begun, counted.computed⟩
      have stored := persist_eq spent.stored ((search.tick turn).asked turn).nextUsage
      exact .inl ⟨_, Checked.bind_eq_ok.2 ⟨_, stored, rfl⟩⟩

/-- A search that is started can go on. -/
theorem Steady.start {spec : PolicySpec} {runId : String} {store : InMemoryRuntimeStore}
    {strategy : StrategyRun} {adapter : RecordedLLMAdapter} (run : (store.runs runId).isSome)
    (h : start spec runId store strategy adapter = .ok search) : search.Steady := by
  obtain ⟨actions, loaded, h⟩ := Checked.bind_eq_ok.1 h
  obtain ⟨⟨state, snapshots⟩, computed, h⟩ := Checked.bind_eq_ok.1 h
  simp only [Checked.bind_eq_ok, Checked.pure_eq_ok, WorkerError.ofStore_eq_ok,
    InMemoryRuntimeStore.updateStrategy] at h
  obtain ⟨_, ⟨-, -, rfl⟩, rfl⟩ := h
  refine ⟨run, ?_, rfl, fun begun => ?_, computed⟩
  · exact Option.isSome_iff_exists.2 ⟨_, InMemoryRuntimeStore.insertEntry_self ..⟩
  · -- Without a checkpoint there are no actions to take up.
    rw [Option.isSome_iff_ne_none]
    intro unsaved
    change store.checkpoints strategy.strategyRunId = none at unsaved
    rw [unsaved] at loaded
    exact begun (Checked.pure_eq_ok.1 loaded).symm

omit [Python] in
theorem left_start [Python] {spec : PolicySpec} {runId : String} {store : InMemoryRuntimeStore}
    {strategy : StrategyRun} {adapter : RecordedLLMAdapter}
    (h : Search.start spec runId store strategy adapter = .ok search) :
    search.strategy.budget.maxSteps - search.usage.steps =
        strategy.budget.maxSteps - strategy.usage.steps ∧
      search.left = strategy.budget.maxSteps - strategy.usage.steps + 2 := by
  obtain ⟨_, -, h⟩ := Checked.bind_eq_ok.1 h
  obtain ⟨_, -, h⟩ := Checked.bind_eq_ok.1 h
  simp only [Checked.bind_eq_ok, Checked.pure_eq_ok] at h
  obtain ⟨_, -, rfl⟩ := h
  exact ⟨rfl, rfl⟩

/-- A search that goes on can. -/
theorem Steady.next (steady : search.Steady) (h : search.turn turn = .ok (search', none)) :
    search'.Steady := by
  have counted := (steady.tick turn).counted turn
  obtain ⟨-, proposal, -, -, ⟨kind, message, -, -, rfl⟩ | ⟨action, -, ha, -⟩⟩ := next_cases h
  · exact ⟨counted.run, counted.stored, counted.version, counted.begun, counted.computed⟩
  · exact counted.accepted ha

/-! ## All passes -/

/-- The proposals that a search asks its agent for. -/
def proposals (search : Search) : List Turn → Nat
  | [] => 0
  | turn :: turns => (if (search.tick turn).exhausted = .ok none then 1 else 0) +
    match search.turn turn with
    | .ok (search, none) => search.proposals turns
    | _ => 0

theorem proposals_le (search : Search) (turns : List Turn) :
    search.proposals turns ≤ turns.length := by
  induction turns generalizing search with
  | nil => exact le_rfl
  | cons turn turns ih =>
    have rest : (match search.turn turn with
        | .ok (search, none) => search.proposals turns
        | _ => 0) ≤ turns.length := by
      split
      · exact ih _
      · exact Nat.zero_le _
    rw [proposals, List.length_cons]
    split_ifs <;> omega

/-- The search before a pass, if it has not ended by then. -/
def Reaches (search : Search) (turns : ℕ → Turn) (n : ℕ) (search' : Search) : Prop :=
  search.loop ((List.range n).map turns) = .ok (search', none)

theorem reaches_zero (search : Search) (turns : ℕ → Turn) : search.Reaches turns 0 search := rfl

theorem Reaches.cons {turns : ℕ → Turn} {n : ℕ} {between : Search}
    (h : search.turn (turns 0) = .ok (between, none))
    (rest : between.Reaches (fun i => turns (i + 1)) n search') :
    search.Reaches turns (n + 1) search' := by
  rw [Reaches, List.range_succ_eq_map, List.map_cons, List.map_map]
  exact Checked.bind_eq_ok.2 ⟨_, h, rest⟩

/-- The pass in which a search ends, with a number of actions that it has accepted at most: it
    returns, or the check of the proposed action raises. -/
structure EndsIn (search : Search) (turns : ℕ → Turn) (accepted n : ℕ) (last : Search) : Prop where
  reached : search.Reaches turns n last
  ended : (∃ search' ended, last.turn (turns n) = .ok (search', some ended) ∧
      search'.actions.length ≤ search.actions.length + accepted) ∨
    last.turn (turns n) = .error .agent ∧
      last.actions.length ≤ search.actions.length + accepted ∧
      ∃ usage proposal, (turns n).completions 0 = .answer usage (some (.action proposal)) ∧
        ((last.tick (turns n)).asked (turns n)).counted.Raises proposal

/-- A search that can go on ends within what it has left. -/
theorem Steady.ends (steady : search.Steady) (tireless : Tireless search.spec)
    {turns : ℕ → Turn} (replies : ∀ i, Replies (turns i)) :
    ∃ n ≤ search.left, ∃ last, search.EndsIn turns
      (search.strategy.budget.maxSteps - search.usage.steps) n last := by
  induction hl : search.left generalizing search turns with
  | zero =>
    refine ⟨0, le_rfl, search, search.reaches_zero turns, ?_⟩
    rcases steady.returns tireless (replies 0) with ⟨⟨search', ended⟩, h⟩ | ⟨error, -, raises⟩
    · cases ended with
      | none => cases (left_next h).trans hl
      | some ended => exact .inl ⟨search', ended, h, turn_actions h⟩
    · exact .inr ⟨error, Nat.le_add_right _ _, raises⟩
  | succ left ih =>
    rcases steady.returns tireless (replies 0) with ⟨⟨search', ended⟩, h⟩ | ⟨error, -, raises⟩
    · cases ended with
      | none =>
        have spec : search'.spec = search.spec := (next_framed h).spec
        obtain ⟨n, le, last, reached, ended⟩ := ih (steady.next h) (spec ▸ tireless)
          (fun i => replies (i + 1)) (Nat.succ.inj ((left_next h).trans hl))
        rw [actions_next h] at ended
        exact ⟨n + 1, Nat.succ_le_succ le, last, reached.cons h, ended⟩
      | some ended =>
        exact ⟨0, Nat.zero_le _, search, search.reaches_zero turns,
          .inl ⟨search', ended, h, turn_actions h⟩⟩
    · exact ⟨0, Nat.zero_le _, search, search.reaches_zero turns,
        .inr ⟨error, Nat.le_add_right _ _, raises⟩⟩

end Search

open Search in
/-- A search that is started, of an agent that answers with actions and stops, comes to an end
    within three proposals more than its strategy has steps left: it returns, or the check of the
    last action raises. It accepts no more actions than there were steps left, and every remaining
    budget that the agent is told is valid. -/
theorem search_ends [Python] {spec : PolicySpec} {runId : String} {store : InMemoryRuntimeStore}
    {strategy : StrategyRun} {adapter : RecordedLLMAdapter} {search : Search} {turns : ℕ → Turn}
    (tireless : Tireless spec) (run : (store.runs runId).isSome)
    (started : start spec runId store strategy adapter = .ok search)
    (replies : ∀ i, Replies (turns i)) :
    (∃ n last,
      search.EndsIn turns (strategy.budget.maxSteps - strategy.usage.steps) n last ∧
      search.proposals ((List.range (n + 1)).map turns) ≤
        strategy.budget.maxSteps - strategy.usage.steps + 3) ∧
      ∀ i before, search.Reaches turns i before →
        (before.tick (turns i)).exhausted = .ok none → (before.tick (turns i)).remaining.Valid := by
  obtain ⟨rfl, -, -, budget, -⟩ := started_framed started
  have steady : search.Steady := .start run started
  obtain ⟨steps, left⟩ := left_start started
  refine ⟨?_, fun i before _ ready => remaining_valid ready⟩
  obtain ⟨n, le, last, ends⟩ := steady.ends tireless replies
  refine ⟨n, last, steps ▸ ends, (search.proposals_le _).trans ?_⟩
  rw [List.length_map, List.length_range]
  omega

/-! ## A search of an agent that repeats itself -/

theorem keptPoints_allowed : ∀ rule ∈ [PolicyRule.points ⟨1, 1, false, unit_pos⟩],
    rule.toRule.ruleType ∈ ScenarioType.refundPoints.ruleTypes := by
  decide

theorem keptPoints_primary : ∃ rule ∈ [PolicyRule.points ⟨1, 1, false, unit_pos⟩],
    ScenarioType.refundPoints.ruleTypes.head? = some rule.toRule.ruleType :=
  ⟨_, List.mem_singleton_self _, rfl⟩

theorem keptPoints_unique : ([PolicyRule.points ⟨1, 1, false, unit_pos⟩].map
    fun rule => rule.toRule.ruleType).Nodup :=
  List.nodup_singleton _

/-- One point for each unit spent, kept when the payment is refunded. -/
def keptPointsPolicy : PolicySpec where
  scenarioType := .refundPoints
  rules := [.points ⟨1, 1, false, unit_pos⟩]
  allowed := keptPoints_allowed
  primary := keptPoints_primary
  unique := keptPoints_unique

/-- The simulator raises nothing with rules that leave the points of a refunded order alone. -/
theorem Search.tireless_of_kept {spec : PolicySpec}
    (kept : spec.simulator.revokesPoints = false) : Search.Tireless spec := by
  intro actions action
  have returns := (transition_returns spec actions action).2
  obtain ⟨result, h, -⟩ := returns (by
    rintro ⟨-, -, revokes, -⟩
    rw [kept] at revokes
    cases revokes)
  exact ⟨result, h⟩

/-- The search with rules that leave the points of a refunded order alone. -/
def keptPointsSearch : Search :=
  letI := Python.transparent
  { Search.newSearch with
    spec := keptPointsPolicy
    state := keptPointsPolicy.simulator.initialState
    snapshots := [keptPointsPolicy.simulator.initialState.snapshot] }

/-- The agent proposes an order before there is a user, and then to create the user, again and
    again. -/
def hastyTurns (i : ℕ) : Turn :=
  if i = 0 then Search.answering (some (.action Search.ordering)) else Search.creating

/-- The first proposal is illegal, and the second one is accepted. -/
theorem search_ends_hasty :
    let _ := Python.transparent
    (∃ first second, keptPointsSearch.turn (hastyTurns 0) = .ok (first, none) ∧
      first.rejectedKinds = [.actionNotLegal] ∧
      first.turn (hastyTurns 1) = .ok (second, none) ∧ second.actions.length = 1) ∧
    ∃ n last, keptPointsSearch.EndsIn hastyTurns 6 n last := by
  intro _
  have started : Search.start keptPointsPolicy "run" Search.newStore Search.newStrategy
      Search.newAdapter = .ok keptPointsSearch := rfl
  have replies (i : ℕ) : Search.Replies (hastyTurns i) := by
    unfold hastyTurns
    split_ifs
    · exact ⟨_, _, rfl⟩
    · exact ⟨_, _, rfl⟩
  have passes : (keptPointsSearch.turn (hastyTurns 0)).toOption.map (fun first =>
      (first.2.isNone ∧ first.1.rejectedKinds = [.actionNotLegal] ∧
        (first.1.turn (hastyTurns 1)).toOption.map (fun second =>
          (second.1.actions.length, second.2)) = some (1, none) : Bool)) = some true := by
    decide +kernel
  obtain ⟨⟨n, last, ends, -⟩, -⟩ :=
    search_ends (Search.tireless_of_kept rfl) rfl started replies
  obtain ⟨⟨first, ended⟩, passed, facts⟩ := Option.map_eq_some_iff.1 passes
  obtain ⟨goes, rejected, accepted⟩ := of_decide_eq_true facts
  obtain rfl : ended = none := Option.isNone_iff_eq_none.1 goes
  obtain ⟨⟨second, ended⟩, passed', facts⟩ := Option.map_eq_some_iff.1 accepted
  obtain ⟨length, rfl⟩ := Prod.mk.inj facts
  exact ⟨⟨first, second, Search.ok_of_toOption passed, rejected, Search.ok_of_toOption passed',
    length⟩, n, last, ends⟩

end RuleArena
