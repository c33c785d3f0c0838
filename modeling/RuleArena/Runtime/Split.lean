import RuleArena.Runtime.Endings
import RuleArena.Runtime.Worker

/-!
# How a worker splits the budget of a run

Every strategy that searches gets an equal part of the steps that are left. A part
that is not used up goes to the others, so that each of them still gets two steps
at least, and all of them together never take more than the run may take.

A search writes to its own strategy and its own checkpoint only, and never takes
more steps than its budget has (`Search.Bounded`).
-/

namespace RuleArena

/-! ## Parts of a budget -/

/-- A part of at least two steps, of which there is one for each strategy that is left. -/
theorem remainingBudget_eq_some {total : Budget} {used : BudgetUsage} {parts : Nat}
    (pos : 0 < parts) (viable : minViableStrategySteps * parts + used.steps ≤ total.maxSteps) :
    ∃ budget, remainingBudget total used parts = some budget ∧
      minViableStrategySteps ≤ budget.maxSteps ∧
      budget.maxSteps * parts + used.steps ≤ total.maxSteps := by
  have one : max 1 parts = parts := max_eq_right pos
  have enough : ¬ ((total.maxSteps : Int) - used.steps <
      minViableStrategySteps * (parts : Nat)) := by
    have : ((minViableStrategySteps * parts + used.steps : Nat) : Int) ≤ total.maxSteps := by
      exact_mod_cast viable
    push_cast at this
    omega
  unfold remainingBudget
  simp only [one]
  rw [dif_neg enough]
  refine ⟨_, rfl, ?_, ?_⟩
  · have := (Int.le_ediv_iff_mul_le (c := (parts : Int)) (by omega)).2 (not_lt.1 enough)
    change _ ≤ (((total.maxSteps : Int) - used.steps) / (parts : Nat)).toNat
    omega
  · have le := Int.ediv_mul_le ((total.maxSteps : Int) - used.steps) (b := (parts : Int)) (by omega)
    have nonneg : 0 ≤ ((total.maxSteps : Int) - used.steps) / (parts : Nat) := by
      refine Int.ediv_nonneg ?_ (by omega)
      refine le_trans ?_ (not_lt.1 enough)
      positivity
    change (((total.maxSteps : Int) - used.steps) / (parts : Nat)).toNat * parts + used.steps ≤ _
    zify
    rw [Int.toNat_of_nonneg nonneg]
    omega

/-- A budget is split only if there are enough steps. -/
theorem viable_of_isSome {total : Budget} {used : BudgetUsage} {parts : Nat} (pos : 0 < parts)
    (h : (remainingBudget total used parts).isSome) :
    minViableStrategySteps * parts + used.steps ≤ total.maxSteps := by
  have one : max 1 parts = parts := max_eq_right pos
  unfold remainingBudget at h
  simp only [one] at h
  split_ifs at h with starved
  · cases h
  · have : ((minViableStrategySteps * parts : Nat) : Int) ≤ total.maxSteps - used.steps := by
      push_cast
      omega
    omega

/-- What is left when a part is taken, of which not all may be used. -/
theorem part_left {total used steps part parts : Nat} (pos : 0 < parts)
    (viable : minViableStrategySteps ≤ part) (fits : part * parts + used ≤ total)
    (within : steps ≤ part) : minViableStrategySteps * (parts - 1) + (used + steps) ≤ total := by
  obtain ⟨rest, rfl⟩ := Nat.exists_eq_add_of_lt pos
  have := Nat.mul_le_mul_right rest viable
  have split : part * (0 + rest + 1) = part * rest + part := by ring
  rw [split] at fits
  rw [show 0 + rest + 1 - 1 = rest by omega]
  omega

/-! ## What a search writes -/

/-- What the store keeps of searches. -/
structure SearchRecords where
  strategies : String → Option StrategyRun
  strategyKeys : String × StrategyType → Option String
  checkpoints : String → Option Checkpoint

def InMemoryRuntimeStore.records (store : InMemoryRuntimeStore) : SearchRecords where
  strategies := store.strategies
  strategyKeys := store.strategyKeys
  checkpoints := store.checkpoints

/-- Records that differ from others in one strategy only, which has a budget and has taken no
    more steps than a number. -/
structure SearchRecords.Owned (before : SearchRecords) (id : String) (budget : Budget) (most : Nat)
    (records : SearchRecords) : Prop where
  strategyKeys : records.strategyKeys = before.strategyKeys
  strategies : ∀ id' ≠ id, records.strategies id' = before.strategies id'
  checkpoints : ∀ id' ≠ id, records.checkpoints id' = before.checkpoints id'
  own : ∃ strategy, records.strategies id = some strategy ∧ strategy.budget = budget ∧
    strategy.usage.steps ≤ most

theorem SearchRecords.Owned.mono {before records : SearchRecords} {id : String} {budget : Budget}
    {few most : Nat} (owned : before.Owned id budget few records) (le : few ≤ most) :
    before.Owned id budget most records :=
  { owned with
    own := by
      obtain ⟨strategy, found, budget_eq, within⟩ := owned.own
      exact ⟨strategy, found, budget_eq, within.trans le⟩ }

namespace Search

/-- A search that has changed nothing but its own records, and taken at most a number of steps. -/
structure Bounded (before : SearchRecords) (id : String) (budget : Budget) (most : Nat)
    (search : Search) : Prop where
  strategyRunId : search.strategy.strategyRunId = id
  budget_eq : search.strategy.budget = budget
  steps : search.usage.steps ≤ most
  known : search.strategy.usage.steps ≤ most
  owned : before.Owned id budget most search.store.records

variable {before : SearchRecords} {id : String} {budget : Budget} {most : Nat}
  {search search' : Search} {ended : Option SearchEnd} {turn : Turn}

theorem Bounded.persisted (bounded : Bounded before id budget most search) {usage : BudgetUsage}
    (steps : usage.steps ≤ most) : Bounded before id budget most (search.persisted usage) where
  strategyRunId := bounded.strategyRunId
  budget_eq := bounded.budget_eq
  steps := bounded.steps
  known := steps
  owned := {
    strategyKeys := bounded.owned.strategyKeys
    strategies := fun id' other =>
      (InMemoryRuntimeStore.insertEntry_of_ne (bounded.strategyRunId ▸ other) _).trans
        (bounded.owned.strategies id' other)
    checkpoints := bounded.owned.checkpoints
    own := by
      refine ⟨{ search.strategy with usage }, ?_, bounded.budget_eq, steps⟩
      rw [← bounded.strategyRunId]
      exact InMemoryRuntimeStore.insertEntry_self .. }

theorem Bounded.checkpointed (bounded : Bounded before id budget most search)
    (checkpoint : Checkpoint) : Bounded before id budget most (search.checkpointed checkpoint) where
  strategyRunId := bounded.strategyRunId
  budget_eq := bounded.budget_eq
  steps := bounded.steps
  known := bounded.known
  owned := {
    strategyKeys := bounded.owned.strategyKeys
    strategies := bounded.owned.strategies
    checkpoints := fun id' other =>
      (InMemoryRuntimeStore.insertEntry_of_ne (bounded.strategyRunId ▸ other) _).trans
        (bounded.owned.checkpoints id' other)
    own := bounded.owned.own }

theorem Bounded.tick (bounded : Bounded before id budget most search) (turn : Turn) :
    Bounded before id budget most (search.tick turn) where
  strategyRunId := bounded.strategyRunId
  budget_eq := bounded.budget_eq
  steps := bounded.steps
  known := bounded.known
  owned := by
    obtain ⟨runs, events, same⟩ := search.tick_frame turn
    rw [same]
    exact bounded.owned

/-- What the agent has said before its proposal is followed writes nothing. -/
theorem Bounded.counted (bounded : Bounded before id budget most search) (turn : Turn) :
    Bounded before id budget most (search.asked turn).counted :=
  ⟨bounded.strategyRunId, bounded.budget_eq, bounded.steps, bounded.known, bounded.owned⟩

theorem Bounded.saveCandidate (bounded : Bounded before id budget most search)
    {invariantId : InvariantId} (h : search.saveCandidate invariantId = .ok (search', ended)) :
    Bounded before id budget most search' := by
  obtain ⟨⟨checkpoint, rfl⟩, -⟩ := saveCandidate_eq_ok h
  exact bounded.checkpointed checkpoint

theorem Bounded.stop (bounded : Bounded before id budget most search) {proposal : StopProposal}
    (h : search.stop proposal = .ok (search', ended)) : Bounded before id budget most search' := by
  obtain ⟨persisted, hp, h⟩ := Checked.bind_eq_ok.1 h
  obtain rfl := persist_eq_ok hp
  have persisted := bounded.persisted bounded.steps
  split at h
  · obtain ⟨rfl, -⟩ := Prod.mk.inj (Checked.pure_eq_ok.1 h)
    exact persisted
  · split_ifs at h
    · exact persisted.saveCandidate h
    · obtain ⟨rfl, -⟩ := Prod.mk.inj (Checked.pure_eq_ok.1 h)
      exact persisted

theorem Bounded.reject (bounded : Bounded before id budget most search) {kind : RejectionKind}
    {message : String} {proposed : ActionName}
    (h : search.reject kind message proposed = .ok (search', ended)) :
    Bounded before id budget most search' := by
  unfold Search.reject at h
  dsimp only at h
  have rejected : Bounded before id budget most
      { search with rejectedKinds := search.rejectedKinds ++ [kind] } :=
    ⟨bounded.strategyRunId, bounded.budget_eq, bounded.steps, bounded.known, bounded.owned⟩
  split_ifs at h
  · simp only [Checked.bind_eq_ok, Checked.pure_eq_ok, Prod.mk.injEq] at h
    obtain ⟨persisted, hp, rfl, -⟩ := h
    obtain rfl := persist_eq_ok hp
    exact rejected.persisted bounded.steps
  · obtain ⟨rfl, -⟩ := Prod.mk.inj (Checked.pure_eq_ok.1 h)
    exact ⟨bounded.strategyRunId, bounded.budget_eq, bounded.steps, bounded.known, bounded.owned⟩

variable [Python]

theorem Bounded.stepped (bounded : Bounded before id budget most search)
    (room : search.usage.steps < most) (action : SimAction) (transition : TransitionResult) :
    Bounded before id budget most
      ((search.stepped action transition).persisted (search.stepped action transition).usage) := by
  have stepped : Bounded before id budget most (search.stepped action transition) :=
    ⟨bounded.strategyRunId, bounded.budget_eq, room, bounded.known, bounded.owned⟩
  exact stepped.persisted room

theorem Bounded.accept (bounded : Bounded before id budget most search)
    (room : search.usage.steps < most) {action : SimAction}
    (h : search.accept action = .ok search') : Bounded before id budget most search' := by
  obtain ⟨transition, checkpoint, -, -, rfl⟩ := accept_eq_ok h
  have checkpointed := (bounded.stepped room action transition).checkpointed checkpoint
  exact ⟨checkpointed.strategyRunId, checkpointed.budget_eq, checkpointed.steps,
    checkpointed.known, checkpointed.owned⟩

theorem Bounded.act (bounded : Bounded before id budget most search)
    (room : search.usage.steps < most) {legal : List SimAction} {proposal : ActionProposal}
    (h : search.act legal proposal = .ok (search', ended)) :
    Bounded before id budget most search' := by
  unfold Search.act at h
  split at h
  · exact bounded.reject h
  · cases h
  · next action _ =>
    obtain ⟨stepped, ha, h⟩ := Checked.bind_eq_ok.1 h
    have accepted := bounded.accept room ha
    obtain ⟨violated, -, h⟩ := Checked.bind_eq_ok.1 h
    cases violated with
    | none =>
      obtain ⟨rfl, -⟩ := Prod.mk.inj (Checked.pure_eq_ok.1 h)
      exact accepted
    | some invariantId => exact accepted.saveCandidate h

/-! ## Passes -/

/-- The agent never proposes an action in a pass. -/
def Idle (turn : Turn) : Prop :=
  ∀ i usage proposal, turn.completions i ≠ .answer usage (some (.action proposal))

omit [Python] in
theorem mem_of_propose {adapter : RecordedLLMAdapter} {completions : List Completion}
    {proposal : Proposal} (h : (adapter.propose completions).2 = .proposal proposal) :
    ∃ usage, .answer usage (some proposal) ∈ completions := by
  induction completions generalizing adapter with
  | nil => cases h
  | cons completion completions ih =>
    cases completion with
    | answer usage answered =>
      cases answered with
      | some answered =>
        cases h
        exact ⟨usage, List.mem_cons_self⟩
      | none =>
        rw [RecordedLLMAdapter.propose] at h
        split_ifs at h
        obtain ⟨usage, mem⟩ := ih h
        exact ⟨usage, List.mem_cons_of_mem _ mem⟩
    | transient =>
      obtain ⟨usage, mem⟩ := ih h
      exact ⟨usage, List.mem_cons_of_mem _ mem⟩
    | fatal usage => cases h

omit [Python] in
/-- A step can be taken in a pass in which the agent proposes an action. -/
theorem Bounded.room (bounded : Bounded before id budget most search)
    (allowed : most = budget.maxSteps ∨ Idle turn) (ready : (search.tick turn).exhausted = .ok none)
    {proposal : ActionProposal}
    (asked : ((search.tick turn).adapter.propose (List.ofFn turn.completions)).2 =
      .proposal (.action proposal)) : search.usage.steps < most := by
  obtain rfl | idle := allowed
  · have := steps_lt_of_ready ready
    rw [(bounded.tick turn).budget_eq] at this
    exact this
  · obtain ⟨usage, mem⟩ := mem_of_propose asked
    obtain ⟨i, answered⟩ := List.mem_ofFn.1 mem
    exact absurd answered (idle i usage proposal)

theorem Bounded.pass (bounded : Bounded before id budget most search)
    (allowed : most = budget.maxSteps ∨ Idle turn) (h : search.turn turn = .ok (search', ended)) :
    Bounded before id budget most search' := by
  have ticked := bounded.tick turn
  obtain ⟨exhausted, ready, h⟩ := Checked.bind_eq_ok.1 h
  cases exhausted with
  | some reason =>
    obtain ⟨rfl, -⟩ := Prod.mk.inj (Checked.pure_eq_ok.1 h)
    exact ticked
  | none =>
    have counted := ticked.counted turn
    dsimp only [ask] at h
    split at h
    · cases h
    · obtain ⟨rfl, -⟩ := Prod.mk.inj (Checked.pure_eq_ok.1 h)
      exact ⟨ticked.strategyRunId, ticked.budget_eq, ticked.steps, ticked.known, ticked.owned⟩
    · next proposal asked =>
      unfold follow at h
      split_ifs at h
      · cases proposal with
        | stop proposal => exact counted.stop h
        | action proposal => exact counted.act (bounded.room allowed ready asked) h
      · obtain ⟨persisted, hp, h⟩ := Checked.bind_eq_ok.1 h
        obtain rfl := persist_eq_ok hp
        obtain ⟨rfl, -⟩ := Prod.mk.inj (Checked.pure_eq_ok.1 h)
        have spent : Bounded before id budget most
            { ((search.tick turn).asked turn).counted with usage := (search.tick turn).usage } :=
          ⟨ticked.strategyRunId, ticked.budget_eq, ticked.steps, ticked.known, ticked.owned⟩
        exact spent.persisted ticked.steps

omit [Python] in
/-- Something that is persisted if it can be. -/
theorem Bounded.getD_persist {usage : BudgetUsage} {default : Search}
    (bounded : Bounded before id budget most (search.persisted usage))
    (other : Bounded before id budget most default) :
    Bounded before id budget most ((search.persist usage).toOption.getD default) := by
  cases h : search.persist usage with
  | error e => exact other
  | ok persisted =>
    obtain rfl := persist_eq_ok h
    exact bounded

theorem Bounded.raisedAt (bounded : Bounded before id budget most search)
    (allowed : most = budget.maxSteps ∨ Idle turn) :
    Bounded before id budget most (search.raisedAt turn) := by
  have ticked := bounded.tick turn
  have counted := ticked.counted turn
  unfold Search.raisedAt
  dsimp only
  split
  · next proposal ready asked =>
    split_ifs
    · cases proposal with
      | stop proposal => exact (counted.persisted counted.steps).getD_persist counted
      | action proposal =>
        have room := bounded.room allowed ready asked
        dsimp only
        split
        · exact counted
        · split
          · next accepted ha => exact counted.accept room ha
          · split
            · exact counted
            · refine Bounded.getD_persist (Bounded.persisted ?_ room) counted
              exact ⟨counted.strategyRunId, counted.budget_eq, room, counted.known, counted.owned⟩
    · exact ticked
  · exact ticked

theorem Bounded.passes (bounded : Bounded before id budget most search) {turns : List Turn}
    (allowed : most = budget.maxSteps ∨ ∀ turn ∈ turns, Idle turn) :
    Bounded before id budget most (search.passes turns).1 := by
  induction turns generalizing search with
  | nil => exact bounded
  | cons turn turns ih =>
    have first := allowed.imp_right fun idle => idle turn List.mem_cons_self
    have later := allowed.imp_right fun idle turn mem => idle turn (List.mem_cons_of_mem _ mem)
    rw [Search.passes]
    split
    · exact bounded.raisedAt first
    · next h => exact bounded.pass first h
    · next h => exact ih (bounded.pass first h) later

/-- A new strategy begins with nothing taken. -/
theorem Bounded.start {spec : PolicySpec} {runId : String} {store : InMemoryRuntimeStore}
    {strategy : StrategyRun} {adapter : RecordedLLMAdapter}
    (owned : before.Owned strategy.strategyRunId strategy.budget most store.records)
    (fresh : strategy.usage = {}) (unsaved : store.checkpoints strategy.strategyRunId = none)
    (h : Search.start spec runId store strategy adapter = .ok search) :
    Bounded before strategy.strategyRunId strategy.budget most search := by
  unfold Search.start at h
  simp only [unsaved, Option.map_none, Option.getD_none, List.mapM_nil, Checked.bind_eq_ok,
    Checked.pure_eq_ok, WorkerError.ofStore_eq_ok, InMemoryRuntimeStore.updateStrategy] at h
  obtain ⟨_, rfl, _, -, _, ⟨-, -, rfl⟩, rfl⟩ := h
  have none : strategy.usage.steps ≤ most := by rw [fresh]; exact Nat.zero_le _
  exact {
    strategyRunId := rfl
    budget_eq := rfl
    steps := none
    known := none
    owned := {
      strategyKeys := owned.strategyKeys
      strategies := fun id' other =>
        (InMemoryRuntimeStore.insertEntry_of_ne other _).trans (owned.strategies id' other)
      checkpoints := owned.checkpoints
      own := ⟨{ strategy with status := .searching },
        InMemoryRuntimeStore.insertEntry_self .., rfl, none⟩ } }

omit [Python] in
theorem Bounded.finish (bounded : Bounded before id budget most search) {ended : SearchEnd}
    {store : InMemoryRuntimeStore} (h : search.finish ended = .ok store) :
    before.Owned id budget most store.records := by
  unfold Search.finish at h
  simp only [Checked.bind_eq_ok, Checked.pure_eq_ok, WorkerError.ofStore_eq_ok,
    InMemoryRuntimeStore.updateStrategy] at h
  obtain ⟨_, ⟨-, -, rfl⟩, rfl⟩ := h
  exact {
    strategyKeys := bounded.owned.strategyKeys
    strategies := fun id' other =>
      (InMemoryRuntimeStore.insertEntry_of_ne (bounded.strategyRunId ▸ other) _).trans
        (bounded.owned.strategies id' other)
    checkpoints := bounded.owned.checkpoints
    own := by
      refine ⟨{ search.strategy with status := .completed }, ?_, bounded.budget_eq, bounded.known⟩
      rw [← bounded.strategyRunId]
      exact InMemoryRuntimeStore.insertEntry_self .. }

end Search

/-! ## Programs that leave the records alone -/

namespace AttackWorker

variable {α β : Type} {runId : String} {P : SearchRecords → Prop}

/-- A call of the store says what becomes of the records. -/
theorem call_meets {op : InMemoryRuntimeStore → Except StoreError (InMemoryRuntimeStore × α)}
    {Q : α → SearchRecords → Prop} {E : Stop → SearchRecords → Prop}
    (ok : ∀ store store' a, P store.records → op store = .ok (store', a) → Q a store'.records)
    (error : ∀ store e, P store.records → op store = .error e →
      E (.raised (.store e)) store.records) :
    (call runId op).Meets (fun world => P world.store.records)
      (fun a world => Q a world.store.records) fun stop world => E stop world.store.records := by
  intro world hw
  have before : P (if world.cancels.headD false then
      world.store.orSame (world.store.requestCancel runId) else world.store).records := by
    split_ifs
    · obtain ⟨runs, events, same⟩ := Search.requestCancel_frame world.store runId
      rw [same]
      exact hw
    · exact hw
  unfold call
  dsimp only
  generalize (if world.cancels.headD false then
    world.store.orSame (world.store.requestCancel runId) else world.store) = store at before ⊢
  cases h : op store with
  | ok done =>
    obtain ⟨store', a⟩ := done
    refine ⟨?_, ?_⟩
    · rintro _ _ ⟨⟩
      exact ok store store' a before h
    · rintro _ _ ⟨⟩
  | error e =>
    refine ⟨?_, ?_⟩
    · rintro _ _ ⟨⟩
    · rintro _ _ ⟨⟩
      exact error store e before h

/-- A program that leaves the records of searches alone, and does not find a budget too small. -/
def Quiet (m : Program Stop WorkerWorld α) : Prop :=
  ∀ P : SearchRecords → Prop, m.Meets (fun world => P world.store.records)
    (fun _ world => P world.store.records)
    fun stop world => P world.store.records ∧ stop ≠ .starved

theorem Quiet.pure (a : α) : Quiet (pure a) := fun _ => .pure fun _ h => h

theorem Quiet.raise {stop : Stop} (other : stop ≠ .starved) :
    Quiet (Program.raise stop : Program Stop WorkerWorld α) :=
  fun _ => .raise fun _ h => ⟨h, other⟩

theorem Quiet.bind {m : Program Stop WorkerWorld α} {f : α → Program Stop WorkerWorld β}
    (h : Quiet m) (rest : ∀ a, Quiet (f a)) : Quiet (m >>= f) :=
  fun P => (h P).bind fun a => rest a P

theorem Quiet.ite {c : Prop} [Decidable c] {m n : Program Stop WorkerWorld α} (pos : Quiet m)
    (neg : Quiet n) : Quiet (if c then m else n) := by
  split
  · exact pos
  · exact neg

theorem Quiet.call {op : InMemoryRuntimeStore → Except StoreError (InMemoryRuntimeStore × α)}
    (keeps : ∀ store store' a, op store = .ok (store', a) → store'.records = store.records) :
    Quiet (call runId op) := by
  intro P
  refine call_meets (Q := fun _ => P) (E := fun stop records => P records ∧ stop ≠ .starved)
    (fun store store' a h done => ?_) fun store e h _ => ⟨h, ?_⟩
  · rw [keeps store store' a done]
    exact h
  · rintro ⟨⟩

theorem quiet_read {op : InMemoryRuntimeStore → Except StoreError α} : Quiet (read runId op) := by
  refine .call fun store store' a h => ?_
  obtain ⟨_, -, h⟩ := Checked.bind_eq_ok.1 h
  obtain ⟨rfl, -⟩ := Prod.mk.inj (Checked.pure_eq_ok.1 h)
  rfl

theorem quiet_setStatus {expected target : AttackStatus} {outcome : Option AttackOutcome} :
    Quiet (setStatus runId expected target outcome) := by
  refine .call fun store store' changed h => ?_
  obtain ⟨-, -, ⟨rfl, -⟩ | ⟨-, -, -, -, rfl⟩⟩ := InMemoryRuntimeStore.compareAndSetStatus_cases h
  · rfl
  · rfl

theorem quiet_raising {x : Except WorkerError α} : Quiet (raising x) := by
  cases x with
  | ok a => exact .pure a
  | error e => exact .raise nofun

variable [Python]

omit [Python] in
theorem records_saveCounterexample (store : InMemoryRuntimeStore) (record : CounterexampleRecord) :
    (store.saveCounterexample record).1.records = store.records := by
  unfold InMemoryRuntimeStore.saveCounterexample
  split
  · rfl
  · rfl

theorem quiet_confirm {visit : Visit} {actions : List SimAction} {replayed : ReplayResult}
    (violated : List InvariantId) : Quiet (confirm runId visit actions replayed violated) := by
  induction violated with
  | nil => exact .pure ()
  | cons invariantId rest ih =>
    rw [confirm]
    cases visit.minimized invariantId with
    | none => exact .raise nofun
    | some minimized =>
      refine Quiet.bind (.call fun store store' a h => ?_) fun _ => ih
      obtain rfl := congrArg Prod.fst (Except.ok.inj h)
      exact records_saveCounterexample ..

omit [Python] in
theorem quiet_noteReplay (candidate : Candidate) :
    Quiet (Program.modify (WorkerWorld.noteReplay candidate)) :=
  fun _ => .modify fun _ h => h

/-- A replay that returns has not confirmed anything. -/
theorem replay_meets {visit : Visit} {actions : List SimAction} {invariant : InvariantId}
    {progress : Progress} :
    (replay runId visit actions invariant progress).Meets (fun world => P world.store.records)
      (fun progress' world => progress' = { progress with sawUnconfirmed := true } ∧
        P world.store.records)
      fun stop world => P world.store.records ∧ stop ≠ .starved := by
  unfold replay
  refine (quiet_read P).bind fun current => .ite (fun _ => ?_) fun _ => ?_
  · exact (quiet_setStatus P).bind fun _ => .raise fun _ h => ⟨h, nofun⟩
  have begun (m : Program Stop WorkerWorld Progress)
      (h : m.Meets (fun world => P world.store.records)
        (fun progress' world => progress' = { progress with sawUnconfirmed := true } ∧
          P world.store.records)
        fun stop world => P world.store.records ∧ stop ≠ .starved) :
      (if current.status = .searching then do
          let _ ← setStatus runId .searching .replaying none
          Program.modify (WorkerWorld.noteReplay { actions, invariant })
          m
        else do
          Program.modify (WorkerWorld.noteReplay { actions, invariant })
          m : Program Stop WorkerWorld Progress).Meets (fun world => P world.store.records)
        (fun progress' world => progress' = { progress with sawUnconfirmed := true } ∧
          P world.store.records)
        fun stop world => P world.store.records ∧ stop ≠ .starved := by
    refine .ite (fun _ => (quiet_setStatus P).bind fun _ => ?_) fun _ => ?_
    · exact (quiet_noteReplay _ P).bind fun _ => h
    · exact (quiet_noteReplay _ P).bind fun _ => h
  cases visit.replay with
  | none => exact begun _ (.raise fun _ h => ⟨h, nofun⟩)
  | some replayed =>
    refine begun _ (.ite (fun _ => ?_) fun _ => ?_)
    · exact (quiet_confirm _ P).bind fun _ => (quiet_setStatus P).bind fun _ =>
        .raise fun _ h => ⟨h, nofun⟩
    · exact (quiet_setStatus P).bind fun _ => .pure fun _ h => ⟨rfl, h⟩

/-! ## The parts of the strategies -/

end AttackWorker

namespace SearchRecords

variable (records before : SearchRecords) (runId : String)

/-- The strategy of a type in a run. -/
def strategyOf (strategyType : StrategyType) : Option StrategyRun :=
  (records.strategyKeys (runId, strategyType)).bind records.strategies

/-- The steps that the strategy of a type has taken. -/
def stepsOf (strategyType : StrategyType) : Nat :=
  ((records.strategyOf runId strategyType).map fun strategy => strategy.usage.steps).getD 0

/-- The steps that all strategies of a run have taken. -/
def totalSteps : Nat := (StrategyType.all.map (records.stepsOf runId)).sum

/-- The records with the identifier of a new strategy. -/
def opened (strategyType : StrategyType) (id : String) : SearchRecords :=
  { records with strategyKeys := insertEntry records.strategyKeys (runId, strategyType) id }

variable {records before runId}

/-- The steps of a new strategy come to those of the others. -/
theorem totalSteps_of {strategyType : StrategyType} {strategy : StrategyRun}
    (new : before.strategyOf runId strategyType = none)
    (own : records.strategyOf runId strategyType = some strategy)
    (others : ∀ other ≠ strategyType,
      records.strategyOf runId other = before.strategyOf runId other) :
    records.totalSteps runId = before.totalSteps runId + strategy.usage.steps := by
  have zero : before.stepsOf runId strategyType = 0 := by
    rw [stepsOf, new]
    rfl
  have steps : records.stepsOf runId =
      Function.update (before.stepsOf runId) strategyType strategy.usage.steps := by
    funext other
    by_cases same : other = strategyType
    · rw [same, Function.update_self, stepsOf, own]
      rfl
    · rw [Function.update_of_ne same, stepsOf, others other same, stepsOf]
  rw [totalSteps, totalSteps, steps]
  cases strategyType <;> simp [StrategyType.all, zero] <;> omega

end SearchRecords

namespace AttackWorker

/-- No more steps have been taken than the run may take, and every strategy that searches may take
    enough of them. -/
structure Afforded (worker : AttackWorker) (runId : String) (total : Budget)
    (records : SearchRecords) : Prop where
  steps : records.totalSteps runId ≤ total.maxSteps
  viable : ∀ strategyType ∈ worker.searchingStrategies, ∀ strategy ∈
    records.strategyOf runId strategyType, minViableStrategySteps ≤ strategy.budget.maxSteps

/-- A run between the turns of its strategies, of which some are still to come. -/
structure Splits (worker : AttackWorker) (runId : String) (total : Budget)
    (visits : StrategyType → Visit) (todo : List StrategyType) (progress : Progress)
    (records : SearchRecords) : Prop where
  unseen : ∀ strategyType ∈ todo, records.strategyKeys (runId, strategyType) = none
  fresh : ∀ strategyType ∈ todo, records.checkpoints (visits strategyType).uuid = none
  own : ∀ strategyType, ∀ id ∈ records.strategyKeys (runId, strategyType),
    id = (visits strategyType).uuid
  used : progress.used.steps = records.totalSteps runId
  parts : (todo.filter (· ∈ worker.searchingStrategies)).length ≤ progress.strategiesLeft
  left : minViableStrategySteps * progress.strategiesLeft + progress.used.steps ≤ total.maxSteps
  viable : ∀ strategyType ∈ worker.searchingStrategies, ∀ strategy ∈
    records.strategyOf runId strategyType, minViableStrategySteps ≤ strategy.budget.maxSteps

variable {worker : AttackWorker} {runId : String} {total budget : Budget}
  {visits : StrategyType → Visit} {todo : List StrategyType} {progress : Progress}
  {before records : SearchRecords} {strategyType : StrategyType} {strategy : StrategyRun}
  {run : AttackRun} {most : Nat}

theorem Splits.afforded (splits : worker.Splits runId total visits todo progress records) :
    worker.Afforded runId total records where
  steps := by
    have := splits.left
    have := splits.used
    omega
  viable := splits.viable

/-- A strategy whose turn it is and that searches is one of those that are left. -/
theorem Splits.left_pos
    (splits : worker.Splits runId total visits (strategyType :: todo) progress records)
    (searches : strategyType ∈ worker.searchingStrategies) : 0 < progress.strategiesLeft := by
  have parts := splits.parts
  rw [List.filter_cons_of_pos (by simpa using searches), List.length_cons] at parts
  omega

/-- Every strategy gets a budget, and one that searches a part that leaves enough to the others. -/
theorem Splits.strategyBudget_eq
    (splits : worker.Splits runId run.budget visits (strategyType :: todo) progress records) :
    ∃ budget, worker.strategyBudget strategyType run progress.used progress.strategiesLeft =
        some budget ∧
      (strategyType ∈ worker.searchingStrategies → minViableStrategySteps ≤ budget.maxSteps ∧
        budget.maxSteps * progress.strategiesLeft + progress.used.steps ≤ run.budget.maxSteps) := by
  unfold strategyBudget
  by_cases searches : strategyType ∈ worker.searchingStrategies
  · have pos := splits.left_pos searches
    obtain ⟨budget, eq, viable, fits⟩ := remainingBudget_eq_some pos splits.left
    rw [if_neg (not_not.2 searches), max_eq_right pos]
    exact ⟨budget, eq, fun _ => ⟨viable, fits⟩⟩
  · rw [if_pos searches]
    exact ⟨run.budget, rfl, fun h => absurd h searches⟩

/-- The turn of a strategy leaves enough to the others. -/
theorem Splits.next (uuids : Function.Injective fun strategyType => (visits strategyType).uuid)
    (splits : worker.Splits runId total visits (strategyType :: todo) progress before)
    (nodup : (strategyType :: todo).Nodup)
    (owned : (before.opened runId strategyType (visits strategyType).uuid).Owned
      (visits strategyType).uuid budget most records)
    (found : records.strategies (visits strategyType).uuid = some strategy)
    (part : strategyType ∈ worker.searchingStrategies →
      minViableStrategySteps ≤ budget.maxSteps ∧
        budget.maxSteps * progress.strategiesLeft + progress.used.steps ≤ total.maxSteps ∧
        most = budget.maxSteps)
    (idle : strategyType ∉ worker.searchingStrategies → most = 0) :
    worker.Splits runId total visits todo { progress with
      used := addUsage progress.used strategy.usage
      strategiesLeft := if strategyType ∈ worker.searchingStrategies
        then progress.strategiesLeft - 1 else progress.strategiesLeft } records := by
  obtain ⟨strategy', found', budget_eq, within⟩ := owned.own
  obtain rfl : strategy' = strategy := Option.some.inj (found'.symm.trans found)
  have keys (other : StrategyType) (different : other ≠ strategyType) :
      records.strategyKeys (runId, other) = before.strategyKeys (runId, other) := by
    rw [owned.strategyKeys]
    exact InMemoryRuntimeStore.insertEntry_of_ne (fun same => different (Prod.mk.inj same).2) _
  have key : records.strategyKeys (runId, strategyType) = some (visits strategyType).uuid := by
    rw [owned.strategyKeys]
    exact InMemoryRuntimeStore.insertEntry_self ..
  have new : before.strategyOf runId strategyType = none := by
    rw [SearchRecords.strategyOf, splits.unseen _ List.mem_cons_self]
    rfl
  have self : records.strategyOf runId strategyType = some strategy' := by
    rw [SearchRecords.strategyOf, key]
    exact found
  have others (other : StrategyType) (different : other ≠ strategyType) :
      records.strategyOf runId other = before.strategyOf runId other := by
    rw [SearchRecords.strategyOf, SearchRecords.strategyOf, keys other different]
    cases known : before.strategyKeys (runId, other) with
    | none => rfl
    | some id =>
      rw [splits.own other id known]
      exact owned.strategies _ fun same => different (uuids same)
  have ne_of_mem {other : StrategyType} (mem : other ∈ todo) : other ≠ strategyType :=
    fun same => (List.nodup_cons.1 nodup).1 (same ▸ mem)
  have steps : (addUsage progress.used strategy'.usage).steps =
      progress.used.steps + strategy'.usage.steps := rfl
  constructor
  · intro other mem
    rw [keys other (ne_of_mem mem)]
    exact splits.unseen other (List.mem_cons_of_mem _ mem)
  · intro other mem
    rw [owned.checkpoints _ fun same => ne_of_mem mem (uuids same)]
    exact splits.fresh other (List.mem_cons_of_mem _ mem)
  · intro other id known
    by_cases same : other = strategyType
    · rw [same, key] at known
      rw [same, Option.some.inj known]
    · rw [keys other same] at known
      exact splits.own other id known
  · rw [SearchRecords.totalSteps_of new self others, ← splits.used]
    rfl
  · have parts := splits.parts
    by_cases searches : strategyType ∈ worker.searchingStrategies
    · rw [List.filter_cons_of_pos (by simpa using searches), List.length_cons] at parts
      dsimp only
      rw [if_pos searches]
      omega
    · rw [List.filter_cons_of_neg (by simpa using searches)] at parts
      dsimp only
      rw [if_neg searches]
      exact parts
  · dsimp only
    rw [steps]
    split_ifs with searches
    · obtain ⟨viable, fits, rfl⟩ := part searches
      exact part_left (splits.left_pos searches) viable fits within
    · have none : strategy'.usage.steps = 0 := Nat.le_zero.1 (idle searches ▸ within)
      rw [none]
      exact splits.left
  · intro other searches stored known
    by_cases same : other = strategyType
    · subst same
      obtain rfl : strategy' = stored := Option.some.inj (self.symm.trans known)
      rw [budget_eq]
      exact (part searches).1
    · exact splits.viable other searches stored (others other same ▸ known)

/-! ## Runs of the worker -/

/-- What holds of the records stays so in a quiet program. -/
theorem Quiet.meets {α : Type} {m : Program Stop WorkerWorld α} (h : Quiet m)
    {P : SearchRecords → Prop}
    (holds : ∀ records, P records → worker.Afforded runId total records) :
    m.Meets (fun world => P world.store.records) (fun _ world => P world.store.records)
      fun stop world => worker.Afforded runId total world.store.records ∧ stop ≠ .starved :=
  (h P).mono (fun _ h => h) (fun _ _ h => h) fun _ _ h => ⟨holds _ h.1, h.2⟩

/-- The strategy of a type that has not been seen is a new one. -/
theorem ensure_new (unseen : before.strategyKeys (runId, strategyType) = none) {uuid : String} :
    (call runId (·.ensureStrategy uuid runId strategyType budget)).Meets
      (fun world => world.store.records = before)
      (fun strategy world =>
        strategy = StrategyRun.mk uuid runId strategyType .pending budget {} ∧
        (before.opened runId strategyType uuid).Owned uuid budget 0 world.store.records ∧
        world.store.records.checkpoints uuid = before.checkpoints uuid)
      fun _ _ => False := by
  refine call_meets (P := (· = before)) (Q := fun strategy records =>
    strategy = StrategyRun.mk uuid runId strategyType .pending budget {} ∧
      (before.opened runId strategyType uuid).Owned uuid budget 0 records ∧
        records.checkpoints uuid = before.checkpoints uuid) (E := fun _ _ => False) ?_ ?_
  · rintro store store' strategy rfl h
    have new : store.strategyKeys (runId, strategyType) = none := unseen
    rw [InMemoryRuntimeStore.ensureStrategy, new] at h
    obtain ⟨rfl, rfl⟩ := Prod.mk.inj (Checked.pure_eq_ok.1 h)
    refine ⟨rfl, ⟨rfl, ?_, fun _ _ => rfl, ?_⟩, rfl⟩
    · intro other different
      exact InMemoryRuntimeStore.insertEntry_of_ne different _
    · exact ⟨_, InMemoryRuntimeStore.insertEntry_self .., rfl, le_rfl⟩
  · rintro store e rfl h
    have new : store.strategyKeys (runId, strategyType) = none := unseen
    rw [InMemoryRuntimeStore.ensureStrategy, new] at h
    cases h

/-- The strategy of a type that has been seen is the stored one. -/
theorem ensure_again {uuid id : String} {offered : Budget}
    (known : before.strategyKeys (runId, strategyType) = some id) :
    (call runId (·.ensureStrategy uuid runId strategyType offered)).Meets
      (fun world => before.Owned id budget most world.store.records)
      (fun strategy world => before.Owned id budget most world.store.records ∧
        world.store.records.strategies id = some strategy)
      fun _ _ => False := by
  refine call_meets (P := before.Owned id budget most) (Q := fun strategy records =>
    before.Owned id budget most records ∧ records.strategies id = some strategy)
    (E := fun _ _ => False) ?_ ?_
  · intro store store' strategy owned h
    have key : store.strategyKeys (runId, strategyType) = some id :=
      (congrFun owned.strategyKeys _).trans known
    obtain ⟨stored, found, -⟩ := owned.own
    have entry : InMemoryRuntimeStore.entry (store.strategies id) = .ok stored := by
      rw [show store.strategies id = some stored from found]
      rfl
    rw [InMemoryRuntimeStore.ensureStrategy, key] at h
    simp only [entry, Checked.ok_bind] at h
    obtain ⟨rfl, rfl⟩ := Prod.mk.inj (Checked.pure_eq_ok.1 h)
    exact ⟨owned, found⟩
  · intro store e owned h
    have key : store.strategyKeys (runId, strategyType) = some id :=
      (congrFun owned.strategyKeys _).trans known
    obtain ⟨stored, found, -⟩ := owned.own
    have entry : InMemoryRuntimeStore.entry (store.strategies id) = .ok stored := by
      rw [show store.strategies id = some stored from found]
      rfl
    rw [InMemoryRuntimeStore.ensureStrategy, key] at h
    simp only [entry, Checked.ok_bind] at h
    cases h

variable [Python]

/-- A search takes at most the steps of its budget, and none if its agent only stops. -/
theorem searchStrategy_meets {turns : List Turn} (fresh : strategy.usage = {})
    (allowed : most = strategy.budget.maxSteps ∨ ∀ turn ∈ turns, Search.Idle turn) :
    (worker.searchStrategy runId strategy turns).Meets
      (fun world => before.Owned strategy.strategyRunId strategy.budget most world.store.records ∧
        world.store.records.checkpoints strategy.strategyRunId = none)
      (fun _ world => before.Owned strategy.strategyRunId strategy.budget most
        world.store.records)
      fun stop world => before.Owned strategy.strategyRunId strategy.budget most
        world.store.records ∧ stop ≠ .starved := by
  intro world hw
  obtain ⟨owned, unsaved⟩ := hw
  unfold searchStrategy
  dsimp only
  cases started : Search.start worker.spec runId world.store strategy
      (worker.agents strategy.strategyType) with
  | error e =>
    refine ⟨?_, ?_⟩
    · rintro _ _ ⟨⟩
    · rintro _ _ ⟨⟩
      exact ⟨owned, nofun⟩
  | ok search =>
    have bounded := (Search.Bounded.start owned fresh unsaved started).passes allowed
    dsimp only
    rcases passed : search.passes turns with ⟨search', _ | e | ended⟩ <;>
      rw [passed] at bounded
    · refine ⟨?_, ?_⟩
      · rintro _ _ ⟨⟩
      · rintro _ _ ⟨⟩
        exact ⟨bounded.owned, nofun⟩
    · refine ⟨?_, ?_⟩
      · rintro _ _ ⟨⟩
      · rintro _ _ ⟨⟩
        exact ⟨bounded.owned, nofun⟩
    · dsimp only
      cases finished : search'.finish ended with
      | error e =>
        refine ⟨?_, ?_⟩
        · rintro _ _ ⟨⟩
        · rintro _ _ ⟨⟩
          exact ⟨bounded.owned, nofun⟩
      | ok store =>
        refine ⟨?_, ?_⟩
        · rintro _ _ ⟨⟩
          exact bounded.finish finished
        · rintro _ _ ⟨⟩

theorem candidate_meets (first : SearchRecords) {visit : Visit} (fresh : strategy.usage = {})
    (allowed : most = strategy.budget.maxSteps ∨ ∀ turn ∈ visit.turns, Search.Idle turn) :
    (worker.candidate runId visit strategy).Meets
      (fun world => first.Owned strategy.strategyRunId strategy.budget most world.store.records ∧
        world.store.records.checkpoints strategy.strategyRunId = none)
      (fun _ world => first.Owned strategy.strategyRunId strategy.budget most
        world.store.records)
      fun stop world => first.Owned strategy.strategyRunId strategy.budget most
        world.store.records ∧ stop ≠ .starved := by
  have quiet {α : Type} {m : Program Stop WorkerWorld α} (h : Quiet m) : m.Meets
      (fun world => first.Owned strategy.strategyRunId strategy.budget most world.store.records ∧
        world.store.records.checkpoints strategy.strategyRunId = none)
      (fun _ world => first.Owned strategy.strategyRunId strategy.budget most
        world.store.records ∧ world.store.records.checkpoints strategy.strategyRunId = none)
      fun stop world => first.Owned strategy.strategyRunId strategy.budget most
        world.store.records ∧ stop ≠ .starved :=
    (h fun records => first.Owned strategy.strategyRunId strategy.budget most records ∧
      records.checkpoints strategy.strategyRunId = none).mono (fun _ h => h) (fun _ _ h => h)
      fun _ _ h => ⟨h.1.1, h.2⟩
  unfold candidate
  refine (quiet quiet_read).bind fun current => (quiet quiet_read).bind fun checkpoint => ?_
  split
  · exact (quiet quiet_raising).bind fun actions => .pure fun world h => h.1
  · exact searchStrategy_meets fresh allowed

/-- The turn of a strategy. -/
theorem visit_meets (uuids : Function.Injective fun strategyType => (visits strategyType).uuid)
    (inert : ∀ strategyType ∉ worker.searchingStrategies, ∀ turn ∈ (visits strategyType).turns,
      Search.Idle turn) (nodup : (strategyType :: todo).Nodup) :
    (worker.visit runId run strategyType (visits strategyType) progress).Meets
      (fun world => worker.Splits runId run.budget visits (strategyType :: todo) progress
        world.store.records)
      (fun done world => worker.Afforded runId run.budget world.store.records ∧
        ∀ progress ∈ done, worker.Splits runId run.budget visits todo progress
          world.store.records)
      fun stop world => worker.Afforded runId run.budget world.store.records ∧
        stop ≠ .starved := by
  refine Program.Meets.of_part (fun world : WorkerWorld => world.store.records)
    (I := worker.Splits runId run.budget visits (strategyType :: todo) progress)
    fun before splits => ?_
  have hold : ∀ records, records = before → worker.Afforded runId run.budget records :=
    fun records same => same ▸ splits.afforded
  obtain ⟨budget, share_eq, part⟩ := splits.strategyBudget_eq
  let most := if strategyType ∈ worker.searchingStrategies then budget.maxSteps else 0
  have part' (searches : strategyType ∈ worker.searchingStrategies) :=
    (part searches).imp_right fun fits => And.intro fits (if_pos searches : most = budget.maxSteps)
  have idle (h : strategyType ∉ worker.searchingStrategies) : most = 0 := if_neg h
  have allowed : most = budget.maxSteps ∨
      ∀ turn ∈ (visits strategyType).turns, Search.Idle turn := by
    by_cases searches : strategyType ∈ worker.searchingStrategies
    · exact .inl (if_pos searches)
    · exact .inr (inert strategyType searches)
  have next {records : SearchRecords} {strategy : StrategyRun}
      (owned : (before.opened runId strategyType (visits strategyType).uuid).Owned
        (visits strategyType).uuid budget most records)
      (found : records.strategies (visits strategyType).uuid = some strategy) :=
    splits.next uuids nodup owned found part' idle
  have during (records : SearchRecords)
      (owned : (before.opened runId strategyType (visits strategyType).uuid).Owned
        (visits strategyType).uuid budget most records) :
      worker.Afforded runId run.budget records := by
    obtain ⟨strategy, found, -⟩ := owned.own
    exact (next owned found).afforded
  unfold visit
  rw [share_eq]
  refine .ite (fun _ => .pure fun world h => ⟨hold _ h, nofun⟩) fun _ => ?_
  refine (quiet_read.meets hold).bind fun cancelled => .ite (fun _ => ?_) fun _ => ?_
  · exact (quiet_setStatus.meets hold).bind fun _ => .raise fun _ h => ⟨hold _ h, nofun⟩
  refine Program.Meets.bind (Q := fun given world => given = budget ∧
    world.store.records = before) (.pure fun _ h => ⟨rfl, h⟩) fun given => ?_
  refine .of_pre (fun _ h => h.1) fun same => ?_
  subst same
  refine ((ensure_new (splits.unseen _ List.mem_cons_self)).mono (fun _ h => h.2)
    (fun _ _ h => h) nofun).bind fun strategy => ?_
  refine .of_pre (fun _ h => h.1) fun same => ?_
  subst same
  refine ((candidate_meets (before.opened runId strategyType (visits strategyType).uuid) rfl
      allowed).mono
    (fun _ h => ⟨h.2.1.mono (Nat.zero_le _), h.2.2.trans (splits.fresh _ List.mem_cons_self)⟩)
    (fun _ _ h => h) fun _ _ h => ⟨during _ h.1, h.2⟩).bind fun candidate => ?_
  refine Program.Meets.bind (Q := fun _ world => (before.opened runId strategyType
    (visits strategyType).uuid).Owned (visits strategyType).uuid given most world.store.records)
    (.pure fun _ h => h) fun given' => ?_
  have known : (before.opened runId strategyType (visits strategyType).uuid).strategyKeys
      (runId, strategyType) = some (visits strategyType).uuid :=
    InMemoryRuntimeStore.insertEntry_self ..
  refine ((ensure_again known).mono (fun _ h => h) (fun _ _ h => h) nofun).bind fun strategy => ?_
  have again (world : WorkerWorld) (h : (before.opened runId strategyType
      (visits strategyType).uuid).Owned (visits strategyType).uuid given most world.store.records ∧
      world.store.records.strategies (visits strategyType).uuid = some strategy) :=
    next h.1 h.2
  cases candidate with
  | none =>
    refine .pure fun world h => ⟨(again world h).afforded, ?_⟩
    rintro _ ⟨⟩
    exact again world h
  | some candidate =>
    obtain ⟨actions, invariant⟩ := candidate
    refine Program.Meets.bind (.modify fun _ h => h) fun _ =>
      .ite (fun _ => .pure fun world h => ⟨(again world h).afforded, ?_⟩) fun _ => ?_
    · rintro _ ⟨⟩
      exact again world h
    · refine (replay_meets (P := fun records => (before.opened runId strategyType
        (visits strategyType).uuid).Owned (visits strategyType).uuid given most records ∧
        records.strategies (visits strategyType).uuid = some strategy)).mono (fun _ h => h)
        (fun _ _ h => h) (fun _ world h => ⟨(again world h.1).afforded, h.2⟩) |>.bind
        fun progress' => .pure fun world h => ⟨(again world h.2).afforded, ?_⟩
      rintro _ ⟨⟩
      obtain ⟨rfl, h⟩ := h
      exact { again world h with }

/-- The turns of the strategies, one after another. -/
theorem strategies_meets
    (uuids : Function.Injective fun strategyType => (visits strategyType).uuid)
    (inert : ∀ strategyType ∉ worker.searchingStrategies, ∀ turn ∈ (visits strategyType).turns,
      Search.Idle turn) (nodup : todo.Nodup) :
    (worker.strategies runId run visits todo progress).Meets
      (fun world => worker.Splits runId run.budget visits todo progress world.store.records)
      (fun _ world => worker.Afforded runId run.budget world.store.records)
      fun stop world => worker.Afforded runId run.budget world.store.records ∧
        stop ≠ .starved := by
  induction todo generalizing progress with
  | nil => exact .pure fun _ splits => splits.afforded
  | cons strategyType rest ih =>
    rw [strategies]
    refine (visit_meets uuids inert nodup).bind fun done => ?_
    cases done with
    | none => exact .pure fun _ h => h.1
    | some progress =>
      exact (ih (List.nodup_cons.1 nodup).2).mono (fun _ h => h.2 progress rfl) (fun _ _ h => h)
        fun _ _ h => h

/-- The search of a run whose strategies have not begun. -/
theorem body_meets (uuids : Function.Injective fun strategyType => (visits strategyType).uuid)
    (inert : ∀ strategyType ∉ worker.searchingStrategies, ∀ turn ∈ (visits strategyType).turns,
      Search.Idle turn) :
    (worker.body runId run visits).Meets
      (fun world => worker.Splits runId run.budget visits StrategyType.all
        { strategiesLeft := worker.searchingStrategies.length } world.store.records)
      (fun _ world => worker.Afforded runId run.budget world.store.records)
      fun stop world => worker.Afforded runId run.budget world.store.records ∧
        stop ≠ .starved := by
  unfold body
  refine (strategies_meets uuids inert (by decide)).bind fun progress => ?_
  refine (quiet_read.meets fun _ h => h).bind fun current => .ite (fun _ => ?_) fun _ => ?_
  · exact (quiet_setStatus.meets fun _ h => h).bind fun _ => .pure fun _ h => h
  · exact .pure fun _ h => h

omit [Python] in
theorem quiet_fail (stop : Stop) : Quiet (fail runId stop) := by
  have failing : Quiet (do
      let current ← read runId (·.getRun runId)
      if current.status = .searching ∨ current.status = .replaying then
        let _ ← setStatus runId current.status .failed (some .infraFailed)) :=
    quiet_read.bind fun current => .ite (quiet_setStatus.bind fun _ => .pure ()) (.pure ())
  cases stop with
  | returned => exact .pure ()
  | searching => exact .pure ()
  | starved => exact failing
  | raised error => exact failing

omit [Python] in
/-- A run may have been cancelled before the worker reads it. -/
theorem read_run :
    (read runId (·.getRun runId)).Meets
      (fun world => world.store.runs runId = some run ∧ world.store.records = before)
      (fun found world => (found = run ∨ found.status = .cancelRequested) ∧
        world.store.records = before)
      fun _ _ => False := by
  intro world hw
  obtain ⟨known, same⟩ := hw
  have cancelled : (∃ found, (world.store.orSame (world.store.requestCancel runId)).runs runId =
      some found ∧ (found = run ∨ found.status = .cancelRequested)) ∧
      (world.store.orSame (world.store.requestCancel runId)).records = before := by
    refine InMemoryRuntimeStore.orSame_of (P := fun store => (∃ found, store.runs runId =
      some found ∧ (found = run ∨ found.status = .cancelRequested)) ∧ store.records = before)
      ⟨⟨run, known, .inl rfl⟩, same⟩ fun store changed h => ?_
    obtain ⟨current, -, h⟩ := Checked.bind_eq_ok.1 h
    split_ifs at h
    · obtain ⟨stored, found, ⟨rfl, -⟩ | ⟨-, -, data, -, rfl⟩⟩ :=
        InMemoryRuntimeStore.compareAndSetStatus_cases h
      · exact ⟨⟨run, known, .inl rfl⟩, same⟩
      · exact ⟨⟨_, InMemoryRuntimeStore.insertEntry_self .., .inr rfl⟩, same⟩
    · obtain ⟨rfl, -⟩ := Prod.mk.inj (Checked.pure_eq_ok.1 h)
      exact ⟨⟨run, known, .inl rfl⟩, same⟩
  have found : (∃ found, (if world.cancels.headD false then
      world.store.orSame (world.store.requestCancel runId) else world.store).runs runId =
      some found ∧ (found = run ∨ found.status = .cancelRequested)) ∧
      (if world.cancels.headD false then
        world.store.orSame (world.store.requestCancel runId) else world.store).records =
          before := by
    split_ifs
    · exact cancelled
    · exact ⟨⟨run, known, .inl rfl⟩, same⟩
  unfold read call
  dsimp only
  generalize (if world.cancels.headD false then
    world.store.orSame (world.store.requestCancel runId) else world.store) = store at found ⊢
  obtain ⟨⟨found, stored, status⟩, same⟩ := found
  have entry : store.getRun runId = .ok found := by
    rw [InMemoryRuntimeStore.getRun, stored]
    rfl
  simp only [entry, Checked.ok_bind]
  refine ⟨?_, ?_⟩
  · rintro _ _ ⟨⟩
    exact ⟨status, same⟩
  · rintro _ _ ⟨⟩

omit [Python] in
/-- What holds of the records when the worker has entered a run that is ready. -/
theorem enter_ready (ready : run.status = .ready)
    (checked : (remainingBudget run.budget {} worker.searchingStrategies.length).isSome)
    (hold : ∀ records, records = before → worker.Afforded runId run.budget records) :
    (worker.enter runId run visits).Meets (fun world => world.store.records = before)
      (fun _ world => world.store.records = before)
      fun stop world => worker.Afforded runId run.budget world.store.records ∧
        stop ≠ .starved := by
  obtain ⟨budget, eq⟩ := Option.isSome_iff_exists.1 checked
  unfold enter
  rw [ready]
  dsimp only
  rw [eq]
  refine Program.Meets.bind (Q := fun _ world => world.store.records = before)
    (.pure fun _ h => h) fun _ => ?_
  refine (quiet_setStatus.meets hold).bind fun entered => .ite (fun _ => ?_) fun _ => ?_
  · exact .pure fun _ h => h
  · exact .raise fun _ h => ⟨hold _ h, nofun⟩

end AttackWorker

/-- From a run that is ready and whose budget has passed the check, the steps of all strategies stay
    within those of the run, every strategy that searches may take two steps at least, and no later
    budget is found too small. -/
theorem AttackWorker.run_affords [Python] (worker : AttackWorker) (runId : String)
    (visits : StrategyType → Visit) (world : WorkerWorld) {run : AttackRun}
    (known : world.store.runs runId = some run) (ready : run.status = .ready)
    (checked : (remainingBudget run.budget {} worker.searchingStrategies.length).isSome)
    (unseen : ∀ strategyType, world.store.strategyKeys (runId, strategyType) = none)
    (fresh : ∀ strategyType, world.store.checkpoints (visits strategyType).uuid = none)
    (uuids : Function.Injective fun strategyType => (visits strategyType).uuid)
    (inert : ∀ strategyType ∉ worker.searchingStrategies, ∀ turn ∈ (visits strategyType).turns,
      Search.Idle turn) :
    let ended := worker.run runId visits world
    worker.Afforded runId run.budget ended.2.store.records ∧ ended.1 ≠ .error .starved := by
  have strategyOf (strategyType : StrategyType) :
      world.store.records.strategyOf runId strategyType = none := by
    rw [SearchRecords.strategyOf, show world.store.records.strategyKeys (runId, strategyType) =
      none from unseen strategyType]
    rfl
  have pos : 0 < worker.searchingStrategies.length := List.length_pos_iff.2 worker.some_searches
  have splits : worker.Splits runId run.budget visits StrategyType.all
      { strategiesLeft := worker.searchingStrategies.length } world.store.records := by
    constructor
    · exact fun strategyType _ => unseen strategyType
    · exact fun strategyType _ => fresh strategyType
    · intro strategyType id known
      rw [show world.store.records.strategyKeys (runId, strategyType) = none from
        unseen strategyType] at known
      cases known
    · simp [SearchRecords.totalSteps, SearchRecords.stepsOf, strategyOf, StrategyType.all]
    · refine List.Subperm.length_le (List.subperm_of_subset (List.Nodup.filter _ (by decide)) ?_)
      intro strategyType mem
      simpa using (List.mem_filter.1 mem).2
    · exact viable_of_isSome pos checked
    · intro strategyType _ strategy known
      rw [strategyOf] at known
      cases known
  have meets : (worker.run runId visits).Meets
      (fun world' => world'.store.runs runId = some run ∧
        world'.store.records = world.store.records)
      (fun _ world => worker.Afforded runId run.budget world.store.records)
      fun stop world => worker.Afforded runId run.budget world.store.records ∧
        stop ≠ .starved := by
    have hold : ∀ records, records = world.store.records →
        worker.Afforded runId run.budget records := fun records same => same ▸ splits.afforded
    unfold AttackWorker.run
    refine (AttackWorker.read_run.mono (fun _ h => h) (fun _ _ h => h) nofun).bind fun found => ?_
    refine .of_pre (fun _ h => h.1) fun status => ?_
    rcases status with rfl | cancelled
    · refine ((AttackWorker.enter_ready ready checked hold).mono (fun _ h => h.2)
        (fun _ _ h => h) fun _ _ h => h).bind fun _ => ?_
      rw [if_neg (by rw [ready]; decide)]
      refine Program.Meets.rescue ((AttackWorker.body_meets uuids inert).mono
        (fun _ h => h ▸ splits) (fun _ _ h => h) fun _ _ h => h) fun stop => ?_
      exact (AttackWorker.quiet_fail stop fun records =>
        worker.Afforded runId found.budget records ∧ stop ≠ .starved).mono (fun _ h => h)
        (fun _ _ h => h) fun _ _ h => ⟨h.1.1, h.2⟩
    · refine Program.Meets.bind (Q := fun _ _ => False) ?_ fun _ => .of_pre (fun _ h => h) nofun
      unfold AttackWorker.enter
      rw [cancelled]
      exact ((AttackWorker.quiet_setStatus.meets hold).mono (fun _ h => h.2) (fun _ _ h => h)
        fun _ _ h => h).bind fun _ => .raise fun _ h => ⟨hold _ h, nofun⟩
  obtain ⟨ok, error⟩ := meets world ⟨known, rfl⟩
  intro ended
  rcases h : ended.1 with stop | done
  · obtain ⟨afforded, fed⟩ := error stop ended.2 (Prod.ext h rfl)
    exact ⟨afforded, fun same => fed (Except.error.inj same)⟩
  · exact ⟨ok done ended.2 (Prod.ext h rfl), nofun⟩

/-- Two strategies search: one creates the user and stops, the other one stops at once. -/
def twoSearch : AttackWorker where
  spec := pointsPolicy
  searchingStrategies := [.valueFlow, .lifecycle]
  agents _ := Search.newAdapter
  some_searches := List.cons_ne_nil _ _

def readyRun : AttackRun where
  runId := "run"
  jobKey := "job"
  ruleVersionId := "rules"
  scenarioVersionId := "refund-points"
  sandboxVersion := "fixed"
  oracleVersion := "1.0"
  budget := Search.newBudget
  randomSeed := 0

def readyWorld : WorkerWorld where
  store := InMemoryRuntimeStore.after {} [.createRun "run" Search.newRequest]

def twoVisits (strategyType : StrategyType) : Visit where
  uuid := strategyType.value
  turns := (if strategyType = .valueFlow then [Search.creating] else []) ++
    [Search.answering (some (.stop {}))]

theorem AttackWorker.run_affords_two :
    let _ := Python.transparent
    twoSearch.Afforded "run" Search.newBudget
        (twoSearch.run "run" twoVisits readyWorld).2.store.records ∧
      (twoSearch.run "run" twoVisits readyWorld).1 ≠ .error .starved := by
  intro _
  have known : readyWorld.store.runs "run" = some readyRun := rfl
  have uuids : Function.Injective fun strategyType => (twoVisits strategyType).uuid := by
    intro strategyType other same
    cases strategyType <;> cases other <;> first | rfl | exact absurd same (by decide)
  refine twoSearch.run_affords "run" twoVisits readyWorld known rfl (by decide +kernel)
    (fun _ => rfl) (fun _ => rfl) uuids fun strategyType outside turn mem => ?_
  cases strategyType with
  | boundary =>
    obtain rfl := List.mem_singleton.1 mem
    rintro _ _ _ ⟨⟩
  | valueFlow => exact absurd List.mem_cons_self outside
  | lifecycle => exact absurd (List.mem_cons_of_mem _ List.mem_cons_self) outside

end RuleArena
