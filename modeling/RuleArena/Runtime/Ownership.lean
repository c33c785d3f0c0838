import RuleArena.Runtime.Split

/-!
# What belongs to a strategy

Every strategy of a run has an identifier, the stored one or the one that it will
get. Its search writes under this identifier only, so that the checkpoints of the
other strategies stay as they are, and the keys that it gives to its actions name
the strategy (`SimAction.KeyOf`). Hence the actions of a candidate tell whose it is
(`AttackWorker.candidate_own`).

The keys are only known where those of the checkpoints are: the proposition `Q`
stands for the cases in which they are.
-/

namespace RuleArena

/-! ## Keys of actions -/

/-- The last one of some characters tells what is before and after it. -/
theorem append_cons_inj {α : Type} {c : α} {x x' y y' : List α} (h : x ++ c :: y = x' ++ c :: y')
    (last : c ∉ y) (last' : c ∉ y') : x = x' ∧ y = y' := by
  rcases List.append_eq_append_iff.1 h with ⟨more, rfl, rest⟩ | ⟨more, rfl, rest⟩
  · cases more with
    | nil => exact ⟨(List.append_nil x).symm, (List.cons.inj rest).2⟩
    | cons first more =>
      exact absurd (List.mem_append_right more List.mem_cons_self)
        ((List.cons.inj rest).2 ▸ last)
  · cases more with
    | nil => exact ⟨List.append_nil x', (List.cons.inj rest).2.symm⟩
    | cons first more =>
      exact absurd (List.mem_append_right more List.mem_cons_self)
        ((List.cons.inj rest).2 ▸ last')

theorem colon_not_mem_toString (n : Nat) : ':' ∉ (toString n).toList := by
  intro mem
  have digit : ':' ∈ Nat.toDigits 10 n := by simpa using mem
  exact absurd (Nat.isDigit_of_mem_toDigits (by decide) (by decide) digit) (by decide)

/-- The action has a key of a strategy in a run. -/
def SimAction.KeyOf (runId id : String) (action : SimAction) : Prop :=
  ∃ n : Nat, action.idempotencyKey = some (runId ++ ":" ++ id ++ ":step:" ++ toString n)

/-- A key names one strategy. -/
theorem SimAction.KeyOf.eq {runId id id' : String} {action action' : SimAction}
    (h : action.KeyOf runId id) (h' : action'.KeyOf runId id')
    (same : action.idempotencyKey = action'.idempotencyKey) : id = id' := by
  obtain ⟨n, key⟩ := h
  obtain ⟨n', key'⟩ := h'
  rw [key, key', Option.some_inj] at same
  have lists := congrArg String.toList same
  simp only [String.toList_append, List.append_assoc, List.append_cancel_left_eq] at lists
  have split (m : Nat) (name : String) : name.toList ++ (":step:".toList ++ (toString m).toList) =
      (name.toList ++ [':', 's', 't', 'e', 'p']) ++ ':' :: (toString m).toList := by simp
  rw [split, split] at lists
  obtain ⟨names, -⟩ := append_cons_inj lists (colon_not_mem_toString n) (colon_not_mem_toString n')
  exact String.toList_inj.1 (List.append_left_injective _ names)

/-- Some actions, all with keys of a strategy. -/
def KeysOf (runId id : String) (actions : List SimAction) : Prop :=
  actions ≠ [] ∧ ∀ action ∈ actions, action.KeyOf runId id

section Stored

variable [Python]

theorem idempotencyKey_deserialize {action action' : SimAction}
    (h : deserializeAction (serializeAction action) = .ok action') :
    action'.idempotencyKey = action.idempotencyKey := by
  obtain ⟨arguments, -, h⟩ := Checked.bind_eq_ok.1 h
  split at h
  · cases h
  · obtain rfl := Checked.pure_eq_ok.1 h
    change storedText (some (optionText action.idempotencyKey)) = _
    cases action.idempotencyKey with
    | none => rfl
    | some key => rfl

/-- Actions that come back from a checkpoint have the keys with which they were stored. -/
theorem keys_deserialize {actions actions' : List SimAction}
    (h : (actions.map serializeAction).mapM deserializeAction = .ok actions') :
    actions'.map SimAction.idempotencyKey = actions.map SimAction.idempotencyKey := by
  induction actions generalizing actions' with
  | nil =>
    obtain rfl := Checked.pure_eq_ok.1 h
    rfl
  | cons action actions ih =>
    rw [List.map_cons, List.mapM_cons] at h
    obtain ⟨first, deserializes, h⟩ := Checked.bind_eq_ok.1 h
    obtain ⟨rest, others, h⟩ := Checked.bind_eq_ok.1 h
    obtain rfl := Checked.pure_eq_ok.1 h
    rw [List.map_cons, List.map_cons, idempotencyKey_deserialize deserializes, ih others]

/-- What is stored in a checkpoint has keys of a strategy. -/
def Checkpoint.KeysOf (runId id : String) (checkpoint : Checkpoint) : Prop :=
  ∀ actions, checkpoint.state.actions.mapM deserializeAction = .ok actions →
    RuleArena.KeysOf runId id actions

theorem Checkpoint.keysOf_of_serialize {runId id : String} {actions : List SimAction}
    {checkpoint : Checkpoint} (keys : RuleArena.KeysOf runId id actions)
    (stored : checkpoint.state.actions = actions.map serializeAction) :
    checkpoint.KeysOf runId id := by
  intro actions' h
  rw [stored] at h
  have same := keys_deserialize h
  refine ⟨?_, fun action' mem => ?_⟩
  · rintro rfl
    exact keys.1 (List.map_eq_nil_iff.1 same.symm)
  · have mem := List.mem_map_of_mem (f := SimAction.idempotencyKey) mem
    rw [same] at mem
    obtain ⟨action, mem, key⟩ := List.mem_map.1 mem
    obtain ⟨n, own⟩ := keys.2 action mem
    exact ⟨n, key ▸ own⟩

end Stored

/-! ## Searches -/

variable [Python] {Q : Prop} {before : SearchRecords} {runId id : String}

/-- Records that differ from others in the strategies and one checkpoint at most, which has keys
    of its strategy. -/
structure SearchRecords.OwnedBy (Q : Prop) (before : SearchRecords) (runId id : String)
    (records : SearchRecords) : Prop where
  strategyKeys : records.strategyKeys = before.strategyKeys
  named : ∀ id' strategy, records.strategies id' = some strategy → strategy.strategyRunId = id'
  others : ∀ id' ≠ id, records.checkpoints id' = before.checkpoints id'
  own : Q → ∀ checkpoint ∈ records.checkpoints id, checkpoint.KeysOf runId id

namespace Search

/-- A search that writes under the identifier of its strategy, and gives its actions keys of it. -/
structure Owns (Q : Prop) (before : SearchRecords) (runId id : String) (search : Search) :
    Prop where
  runId_eq : search.runId = runId
  strategyRunId : search.strategy.strategyRunId = id
  keys : Q → ∀ action ∈ search.actions, action.KeyOf runId id
  records : before.OwnedBy Q runId id search.store.records

/-- The candidate of a search, if it ends with one, has keys of the strategy. -/
def Finds (Q : Prop) (runId id : String) (ended : Option SearchEnd) : Prop :=
  Q → ∀ result ∈ ended, ∀ found ∈ result.found, KeysOf runId id found.1

variable {search search' : Search} {ended : Option SearchEnd} {turn : Turn}

theorem Owns.of_same (owns : Owns Q before runId id search) (run : search'.runId = search.runId)
    (strategy : search'.strategy.strategyRunId = search.strategy.strategyRunId)
    (actions : search'.actions = search.actions)
    (records : search'.store.records = search.store.records) :
    Owns Q before runId id search' :=
  ⟨run.trans owns.runId_eq, strategy.trans owns.strategyRunId, actions ▸ owns.keys,
    records ▸ owns.records⟩

theorem Owns.persisted (owns : Owns Q before runId id search) (usage : BudgetUsage) :
    Owns Q before runId id (search.persisted usage) where
  runId_eq := owns.runId_eq
  strategyRunId := owns.strategyRunId
  keys := owns.keys
  records := { owns.records with
    named := by
      intro id' strategy stored
      by_cases same : id' = search.strategy.strategyRunId
      · subst same
        have self := InMemoryRuntimeStore.insertEntry_self search.store.strategies
          search.strategy.strategyRunId { search.strategy with usage }
        obtain rfl := Option.some.inj (self.symm.trans stored)
        rfl
      · exact owns.records.named id' strategy
          ((InMemoryRuntimeStore.insertEntry_of_ne same _).symm.trans stored) }

theorem Owns.checkpointed (owns : Owns Q before runId id search) {checkpoint : Checkpoint}
    (keys : Q → checkpoint.KeysOf runId id) :
    Owns Q before runId id (search.checkpointed checkpoint) where
  runId_eq := owns.runId_eq
  strategyRunId := owns.strategyRunId
  keys := owns.keys
  records := { owns.records with
    others := fun id' other =>
      (InMemoryRuntimeStore.insertEntry_of_ne (owns.strategyRunId ▸ other) _).trans
        (owns.records.others id' other)
    own := by
      intro known stored mem
      rw [← owns.strategyRunId] at mem
      have self := InMemoryRuntimeStore.insertEntry_self search.store.checkpoints
        search.strategy.strategyRunId checkpoint
      obtain rfl := Option.some.inj (self.symm.trans mem)
      exact keys known }

theorem Owns.tick (owns : Owns Q before runId id search) (turn : Turn) :
    Owns Q before runId id (search.tick turn) := by
  obtain ⟨runs, events, same⟩ := search.tick_frame turn
  refine owns.of_same rfl rfl rfl ?_
  rw [same]
  rfl

omit [Python] in
theorem finds_none : Finds Q runId id none := fun _ _ mem => by cases mem

omit [Python] in
theorem finds_of_none {result : SearchEnd} (none : result.found = none) :
    Finds Q runId id (some result) := by
  rintro - _ ⟨⟩ found mem
  rw [none] at mem
  cases mem

/-- The candidate is added to the checkpoint, and is what the search ends with. -/
theorem Owns.saveCandidate (owns : Owns Q before runId id search) {invariantId : InvariantId}
    (begun : search.actions ≠ []) (h : search.saveCandidate invariantId = .ok (search', ended)) :
    Owns Q before runId id search' ∧ Finds Q runId id ended := by
  unfold Search.saveCandidate at h
  split at h
  · cases h
  · next checkpoint stored =>
    simp only [InMemoryRuntimeStore.saveCheckpoint, Checked.bind_eq_ok, Checked.pure_eq_ok,
      WorkerError.ofStore_eq_ok, Prod.mk.injEq] at h
    obtain ⟨⟨store, -⟩, ⟨-, -, rfl, -⟩, rfl, rfl⟩ := h
    refine ⟨owns.checkpointed fun known => ?_, ?_⟩
    · exact owns.records.own known checkpoint (owns.strategyRunId ▸ stored)
    · rintro known _ ⟨⟩ _ ⟨⟩
      exact ⟨begun, owns.keys known⟩

theorem Owns.stop (owns : Owns Q before runId id search) {proposal : StopProposal}
    (h : search.stop proposal = .ok (search', ended)) :
    Owns Q before runId id search' ∧ Finds Q runId id ended := by
  obtain ⟨persisted, hp, h⟩ := Checked.bind_eq_ok.1 h
  obtain rfl := persist_eq_ok hp
  have persisted := owns.persisted search.usage
  split at h
  · obtain ⟨rfl, rfl⟩ := Prod.mk.inj (Checked.pure_eq_ok.1 h)
    exact ⟨persisted, finds_of_none rfl⟩
  · split_ifs at h with valid
    · exact persisted.saveCandidate valid.1 h
    · obtain ⟨rfl, rfl⟩ := Prod.mk.inj (Checked.pure_eq_ok.1 h)
      exact ⟨persisted, finds_of_none rfl⟩

theorem Owns.reject (owns : Owns Q before runId id search) {kind : RejectionKind}
    {message : String} {proposed : ActionName}
    (h : search.reject kind message proposed = .ok (search', ended)) :
    Owns Q before runId id search' ∧ Finds Q runId id ended := by
  unfold Search.reject at h
  dsimp only at h
  split_ifs at h
  · simp only [Checked.bind_eq_ok, Checked.pure_eq_ok, Prod.mk.injEq] at h
    obtain ⟨persisted, hp, rfl, rfl⟩ := h
    obtain rfl := persist_eq_ok hp
    have rejected : Owns Q before runId id
        { search with rejectedKinds := search.rejectedKinds ++ [kind] } :=
      owns.of_same rfl rfl rfl rfl
    exact ⟨rejected.persisted _, finds_of_none rfl⟩
  · obtain ⟨rfl, rfl⟩ := Prod.mk.inj (Checked.pure_eq_ok.1 h)
    exact ⟨owns.of_same rfl rfl rfl rfl, finds_none⟩

/-- An accepted action gets the next key of the strategy. -/
theorem Owns.stepped (owns : Owns Q before runId id search) (action : SimAction)
    (transition : TransitionResult) :
    Owns Q before runId id (search.stepped action transition) where
  runId_eq := owns.runId_eq
  strategyRunId := owns.strategyRunId
  keys := by
    intro known action' mem
    rcases List.mem_append.1 mem with mem | mem
    · exact owns.keys known action' mem
    · obtain rfl := List.mem_singleton.1 mem
      exact ⟨search.usage.steps + 1, by rw [stepKey, owns.runId_eq, owns.strategyRunId]⟩
  records := owns.records

theorem Owns.accept (owns : Owns Q before runId id search) {action : SimAction}
    (h : search.accept action = .ok search') :
    Owns Q before runId id search' ∧ search'.actions ≠ [] := by
  obtain ⟨transition, checkpoint, -, stored, rfl⟩ := accept_eq_ok h
  have stepped := owns.stepped action transition
  have begun : (search.stepped action transition).actions ≠ [] :=
    List.append_ne_nil_of_right_ne_nil _ (List.cons_ne_nil _ _)
  have saved : Owns Q before runId id (((search.stepped action transition).persisted
      (search.stepped action transition).usage).checkpointed checkpoint) :=
    (stepped.persisted _).checkpointed fun known =>
      Checkpoint.keysOf_of_serialize ⟨begun, stepped.keys known⟩ stored
  exact ⟨saved.of_same rfl rfl rfl rfl, begun⟩

theorem Owns.act (owns : Owns Q before runId id search) {legal : List SimAction}
    {proposal : ActionProposal} (h : search.act legal proposal = .ok (search', ended)) :
    Owns Q before runId id search' ∧ Finds Q runId id ended := by
  unfold Search.act at h
  split at h
  · exact owns.reject h
  · cases h
  · obtain ⟨stepped, ha, h⟩ := Checked.bind_eq_ok.1 h
    obtain ⟨accepted, begun⟩ := owns.accept ha
    obtain ⟨violated, -, h⟩ := Checked.bind_eq_ok.1 h
    cases violated with
    | none =>
      obtain ⟨rfl, rfl⟩ := Prod.mk.inj (Checked.pure_eq_ok.1 h)
      exact ⟨accepted, finds_none⟩
    | some invariantId => exact accepted.saveCandidate begun h

theorem Owns.counted (owns : Owns Q before runId id search) (turn : Turn) :
    Owns Q before runId id (search.asked turn).counted := owns.of_same rfl rfl rfl rfl

theorem Owns.pass (owns : Owns Q before runId id search)
    (h : search.turn turn = .ok (search', ended)) :
    Owns Q before runId id search' ∧ Finds Q runId id ended := by
  have ticked := owns.tick turn
  obtain ⟨exhausted, -, h⟩ := Checked.bind_eq_ok.1 h
  cases exhausted with
  -- the pass ends before it asks
  | some reason =>
    obtain ⟨rfl, rfl⟩ := Prod.mk.inj (Checked.pure_eq_ok.1 h)
    exact ⟨ticked, finds_of_none rfl⟩
  | none =>
    have counted := ticked.counted turn
    dsimp only [ask] at h
    split at h
    · cases h
    -- the reply is no proposal, and the search ends
    · obtain ⟨rfl, rfl⟩ := Prod.mk.inj (Checked.pure_eq_ok.1 h)
      exact ⟨ticked.of_same rfl rfl rfl rfl, finds_of_none rfl⟩
    · next proposal asked =>
      unfold follow at h
      split_ifs at h
      · cases proposal with
        | stop proposal => exact counted.stop h
        | action proposal => exact counted.act h
      -- a proposal that comes too late is not followed
      · obtain ⟨persisted, hp, h⟩ := Checked.bind_eq_ok.1 h
        obtain rfl := persist_eq_ok hp
        obtain ⟨rfl, rfl⟩ := Prod.mk.inj (Checked.pure_eq_ok.1 h)
        have spent : Owns Q before runId id
            { ((search.tick turn).asked turn).counted with usage := (search.tick turn).usage } :=
          ticked.of_same rfl rfl rfl rfl
        exact ⟨spent.persisted _, finds_of_none rfl⟩

theorem Owns.getD_persist {usage : BudgetUsage} {default persisting : Search}
    (owns : Owns Q before runId id (persisting.persisted usage))
    (other : Owns Q before runId id default) :
    Owns Q before runId id ((persisting.persist usage).toOption.getD default) := by
  cases h : persisting.persist usage with
  | error e => exact other
  | ok persisted =>
    obtain rfl := persist_eq_ok h
    exact owns

theorem Owns.raisedAt (owns : Owns Q before runId id search) :
    Owns Q before runId id (search.raisedAt turn) := by
  have ticked := owns.tick turn
  have counted := ticked.counted turn
  unfold Search.raisedAt
  dsimp only
  split
  · next proposal ready asked =>
    -- only a proposal that is followed persists anything before it raises
    split_ifs
    · cases proposal with
      | stop proposal => exact (counted.persisted _).getD_persist counted
      | action proposal =>
        dsimp only
        split
        · exact counted
        · next action valid =>
          split
          -- the oracle has raised after the action was accepted
          · next accepted ha => exact (counted.accept ha).1
          · split
            · exact counted
            · next transition moved =>
              refine Owns.getD_persist (Owns.persisted ?_ _) counted
              exact (counted.stepped action transition).of_same rfl rfl rfl rfl
    · exact ticked
  · exact ticked

theorem Owns.passes (owns : Owns Q before runId id search) (turns : List Turn) :
    Owns Q before runId id (search.passes turns).1 ∧
      ∀ ended, (search.passes turns).2 = some (.ok ended) → Finds Q runId id (some ended) := by
  induction turns generalizing search with
  | nil => exact ⟨owns, fun _ none => by cases none⟩
  | cons turn turns ih =>
    rw [Search.passes]
    split
    · exact ⟨owns.raisedAt, fun _ none => by cases none⟩
    · next h =>
      obtain ⟨passed, finds⟩ := owns.pass h
      refine ⟨passed, ?_⟩
      rintro _ ⟨⟩
      exact finds
    · next h => exact ih (owns.pass h).1

theorem Owns.start {spec : PolicySpec} {store : InMemoryRuntimeStore} {strategy : StrategyRun}
    {adapter : RecordedLLMAdapter}
    (owned : before.OwnedBy Q runId strategy.strategyRunId store.records)
    (h : Search.start spec runId store strategy adapter = .ok search) :
    Owns Q before runId strategy.strategyRunId search := by
  unfold Search.start at h
  simp only [Checked.bind_eq_ok, Checked.pure_eq_ok, WorkerError.ofStore_eq_ok,
    InMemoryRuntimeStore.updateStrategy] at h
  obtain ⟨actions, resumed, _, -, _, ⟨-, -, rfl⟩, rfl⟩ := h
  refine ⟨rfl, rfl, fun known => ?_, { owned with named := ?_ }⟩
  -- the actions of a search are those of its checkpoint
  · cases stored : store.checkpoints strategy.strategyRunId with
    | none =>
      rw [stored] at resumed
      obtain rfl := Checked.pure_eq_ok.1 resumed
      exact List.forall_mem_nil _
    | some checkpoint =>
      rw [stored] at resumed
      exact (owned.own known checkpoint stored actions resumed).2
  -- only the row of the strategy itself is written
  · intro id' other known
    by_cases same : id' = strategy.strategyRunId
    · subst same
      have self := InMemoryRuntimeStore.insertEntry_self store.strategies strategy.strategyRunId
        { strategy with status := .searching }
      obtain rfl := Option.some.inj (self.symm.trans known)
      rfl
    · exact owned.named id' other
        ((InMemoryRuntimeStore.insertEntry_of_ne same _).symm.trans known)

theorem Owns.finish (owns : Owns Q before runId id search) {ended : SearchEnd}
    {store : InMemoryRuntimeStore} (h : search.finish ended = .ok store) :
    before.OwnedBy Q runId id store.records := by
  unfold Search.finish at h
  simp only [Checked.bind_eq_ok, Checked.pure_eq_ok, WorkerError.ofStore_eq_ok,
    InMemoryRuntimeStore.updateStrategy] at h
  obtain ⟨_, ⟨-, -, rfl⟩, rfl⟩ := h
  refine { owns.records with named := ?_ }
  intro id' other known
  by_cases same : id' = search.strategy.strategyRunId
  · subst same
    have self := InMemoryRuntimeStore.insertEntry_self search.store.strategies
      search.strategy.strategyRunId { search.strategy with status := .completed }
    obtain rfl := Option.some.inj (self.symm.trans known)
    rfl
  · exact owns.records.named id' other
      ((InMemoryRuntimeStore.insertEntry_of_ne same _).symm.trans known)

end Search

/-! ## Runs -/

/-- The identifiers of the strategies of a run: those that are stored, and those that new ones
    will get. Every stored strategy has its own. -/
structure SearchRecords.Named (runId : String) (visits : StrategyType → Visit)
    (ids : StrategyType → String) (records : SearchRecords) : Prop where
  ids_eq : ∀ strategyType, (records.strategyKeys (runId, strategyType)).getD
    (visits strategyType).uuid = ids strategyType
  named : ∀ id strategy, records.strategies id = some strategy → strategy.strategyRunId = id

namespace AttackWorker

variable {visits : StrategyType → Visit} {ids : StrategyType → String}
  {strategyType : StrategyType} {budget : Budget} {worker : AttackWorker} {strategy : StrategyRun}
  {visit : Visit} {checkpoints : String → Option Checkpoint}

omit [Python] in
/-- A strategy that is looked up or made has its identifier, and no checkpoint is changed. -/
theorem ensureStrategy_named {P : (String → Option Checkpoint) → Prop} :
    (call runId (·.ensureStrategy (visits strategyType).uuid runId strategyType budget)).Meets
      (fun world => world.store.records.Named runId visits ids ∧ P world.store.checkpoints)
      (fun (strategy : StrategyRun) world => strategy.strategyRunId = ids strategyType ∧
        world.store.records.Named runId visits ids ∧ P world.store.checkpoints)
      fun _ _ => True := by
  refine call_meets (P := fun records => records.Named runId visits ids ∧ P records.checkpoints)
    (Q := fun (strategy : StrategyRun) records => strategy.strategyRunId = ids strategyType ∧
      records.Named runId visits ids ∧ P records.checkpoints) (E := fun _ _ => True)
    (fun store store' strategy holds h => ?_) fun _ _ _ _ => trivial
  obtain ⟨named, kept⟩ := holds
  have id_eq := named.ids_eq strategyType
  unfold InMemoryRuntimeStore.ensureStrategy at h
  split at h
  -- the strategy is there under an identifier
  · next existing key =>
    obtain ⟨stored, found, h⟩ := Checked.bind_eq_ok.1 h
    obtain ⟨rfl, rfl⟩ := Prod.mk.inj (Checked.pure_eq_ok.1 h)
    have stored := InMemoryRuntimeStore.entry_eq_ok.1 found
    rw [show store.records.strategyKeys (runId, strategyType) = some existing from key] at id_eq
    exact ⟨(named.named existing _ stored).trans id_eq, named, kept⟩
  · next key =>
    obtain ⟨rfl, rfl⟩ := Prod.mk.inj (Checked.pure_eq_ok.1 h)
    rw [show store.records.strategyKeys (runId, strategyType) = none from key] at id_eq
    refine ⟨id_eq, ⟨fun other => ?_, fun id strategy stored => ?_⟩, kept⟩
    -- a new strategy gets the identifier of its visit, the others keep theirs
    · by_cases same : other = strategyType
      · subst same
        change (insertEntry store.strategyKeys (runId, other) (visits other).uuid
          (runId, other)).getD _ = _
        rw [InMemoryRuntimeStore.insertEntry_self]
        exact id_eq
      · change (insertEntry store.strategyKeys (runId, strategyType) (visits strategyType).uuid
          (runId, other)).getD _ = _
        rw [InMemoryRuntimeStore.insertEntry_of_ne fun pair => same (Prod.mk.inj pair).2]
        exact named.ids_eq other
    · by_cases same : id = (visits strategyType).uuid
      · subst same
        have self := InMemoryRuntimeStore.insertEntry_self store.strategies
          (visits strategyType).uuid (StrategyRun.mk (visits strategyType).uuid runId strategyType
            .pending budget {})
        obtain rfl := Option.some.inj (self.symm.trans stored)
        rfl
      · exact named.named id strategy
          ((InMemoryRuntimeStore.insertEntry_of_ne same _).symm.trans stored)

/-- What is known of the records when a strategy has searched from some checkpoints. -/
structure Searched (Q : Prop) (runId : String) (visits : StrategyType → Visit)
    (ids : StrategyType → String) (id : String) (checkpoints : String → Option Checkpoint)
    (records : SearchRecords) : Prop where
  named : records.Named runId visits ids
  others : ∀ id' ≠ id, records.checkpoints id' = checkpoints id'
  own : Q → ∀ checkpoint ∈ records.checkpoints id, checkpoint.KeysOf runId id

theorem Searched.of_owned {records records' : SearchRecords}
    (searched : Searched Q runId visits ids id checkpoints records)
    (owned : records.OwnedBy Q runId id records') :
    Searched Q runId visits ids id checkpoints records' where
  named := ⟨fun strategyType => owned.strategyKeys ▸ searched.named.ids_eq strategyType,
    owned.named⟩
  others := fun id' other => (owned.others id' other).trans (searched.others id' other)
  own := owned.own

/-- A search writes under its identifier only, and its candidate has keys of the strategy. -/
theorem searchStrategy_own {turns : List Turn} :
    (worker.searchStrategy runId strategy turns).Meets
      (fun world => Searched Q runId visits ids strategy.strategyRunId checkpoints
        world.store.records)
      (fun found world => Searched Q runId visits ids strategy.strategyRunId checkpoints
        world.store.records ∧ (Q → ∀ candidate ∈ found,
          KeysOf runId strategy.strategyRunId candidate.1))
      fun _ _ => True := by
  intro world searched
  unfold searchStrategy
  cases started : Search.start worker.spec runId world.store strategy
      (worker.agents strategy.strategyType) with
  | error e => exact ⟨fun _ _ raised => (by cases raised), fun _ _ _ => trivial⟩
  | ok search =>
    -- before its first pass the search has written nothing
    have owned : world.store.records.OwnedBy Q runId strategy.strategyRunId
        world.store.records :=
      ⟨rfl, searched.named.named, fun _ _ => rfl, searched.own⟩
    obtain ⟨owns, finds⟩ := (Search.Owns.start owned started).passes turns
    dsimp only
    generalize search.passes turns = passes at owns finds
    obtain ⟨search', _ | e | ended⟩ := passes
    · exact ⟨fun _ _ raised => (by cases raised), fun _ _ _ => trivial⟩
    · exact ⟨fun _ _ raised => (by cases raised), fun _ _ _ => trivial⟩
    · dsimp only
      -- what the passes have written is owned, and finishing keeps it so
      cases finished : search'.finish ended with
      | error e => exact ⟨fun _ _ raised => (by cases raised), fun _ _ _ => trivial⟩
      | ok store =>
        refine ⟨?_, fun _ _ _ => trivial⟩
        rintro _ _ ⟨⟩
        exact ⟨searched.of_owned (owns.finish finished), fun known candidate mem =>
          finds ended rfl known ended rfl candidate mem⟩

/-- The candidate of a strategy has its keys, whether it is a stored one or a new one. -/
theorem candidate_own :
    (worker.candidate runId visit strategy).Meets
      (fun world => Searched Q runId visits ids strategy.strategyRunId checkpoints
        world.store.records)
      (fun found world => Searched Q runId visits ids strategy.strategyRunId checkpoints
        world.store.records ∧ (Q → ∀ candidate ∈ found,
          KeysOf runId strategy.strategyRunId candidate.1))
      fun _ _ => True := by
  have reads {α : Type} {op : InMemoryRuntimeStore → Except StoreError α}
      {R : α → SearchRecords → Prop}
      (ok : ∀ store a, Searched Q runId visits ids strategy.strategyRunId checkpoints
        store.records → op store = .ok a → R a store.records) :
      (read runId op).Meets
        (fun world => Searched Q runId visits ids strategy.strategyRunId checkpoints
          world.store.records) (fun a world => R a world.store.records) fun _ _ => True := by
    refine call_meets (Q := R) (E := fun _ _ => True) (fun store store' a searched h => ?_)
      fun _ _ _ _ => trivial
    obtain ⟨_, read, h⟩ := Checked.bind_eq_ok.1 h
    obtain ⟨rfl, rfl⟩ := Prod.mk.inj (Checked.pure_eq_ok.1 h)
    exact ok _ _ searched read
  unfold candidate
  refine (reads (R := fun _ records => Searched Q runId visits ids strategy.strategyRunId
    checkpoints records) fun _ _ h _ => h).bind fun current => ?_
  refine (reads (R := fun checkpoint records => Searched Q runId visits ids strategy.strategyRunId
    checkpoints records ∧ (Q → ∀ saved ∈ checkpoint, saved.KeysOf runId strategy.strategyRunId))
    fun store checkpoint searched h => ?_).bind fun checkpoint => ?_
  · obtain rfl := Except.ok.inj h
    exact ⟨searched, searched.own⟩
  -- a stored candidate is restored from the checkpoint, and else the strategy searches
  · split
    · next _ _ actions _ _ _ invariantId _ =>
      refine Program.Meets.bind (Q := fun found world => (Searched Q runId visits ids
        strategy.strategyRunId checkpoints world.store.records) ∧
          (Q → KeysOf runId strategy.strategyRunId found)) ?_ fun found =>
          .pure fun world h => ⟨h.1, ?_⟩
      · cases restored : actions.mapM deserializeAction with
        | error e => exact .raise fun _ _ => trivial
        | ok found => exact .pure fun _ h => ⟨h.1, fun known => h.2 known _ rfl found restored⟩
      · rintro known _ ⟨⟩
        exact h.2 known
    · exact searchStrategy_own.mono (fun _ h => h.1) (fun _ _ h => h) fun _ _ h => h

omit [Python] in
/-- A budget is given, or an exception raised. -/
theorem share_meets {P : WorkerWorld → Prop} {E : Stop → WorkerWorld → Prop} {given : Option Budget}
    (starved : ∀ world, P world → E .starved world) :
    (share given).Meets P (fun _ => P) E := by
  cases given with
  | none => exact .raise starved
  | some budget => exact .pure fun _ h => h

end AttackWorker

end RuleArena
