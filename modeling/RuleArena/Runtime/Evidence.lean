import RuleArena.Runtime.Returns

/-!
# The evidence for an outcome

Workers take up runs in any order and any number of times. Each returns, or ends by an
exception of the store, of a search or of a replay, or is left in the middle of a search;
between them other parties create runs, change statuses and request cancellations
(`Episode`). Whatever they do, a run that ends with a confirmed violation has a
counterexample, and each counterexample is one that a worker has saved when the replay of
a candidate found its invariant violated (`after_evidence`).

All that a worker does but for its replays comes without a verdict: it neither saves a
counterexample nor confirms a violation (`NoVerdict`).
-/

namespace RuleArena

namespace InMemoryRuntimeStore

variable {store store' store'' : InMemoryRuntimeStore} {runId : String}

/-! ## Confirmed violations -/

/-- A run has a counterexample. -/
def Refuted (store : InMemoryRuntimeStore) (runId : String) : Prop :=
  ∃ record ∈ store.counterexampleRecords, record.attackRunId = runId

/-- Each confirmed violation is the outcome of a completed run with a counterexample. -/
def Backed (store : InMemoryRuntimeStore) : Prop :=
  ∀ runId run, store.runs runId = some run → run.outcome = some .confirmedViolation →
    run.status = .completed ∧ store.Refuted runId

theorem refuted_iff : store.Refuted runId ↔ store.counterexamples runId ≠ [] := by
  unfold Refuted counterexamples
  rw [ne_eq, List.filter_eq_nil_iff]
  push Not
  simp only [decide_eq_true_eq]

/-- Neither a counterexample is saved nor a violation confirmed. -/
structure NoVerdict (store store' : InMemoryRuntimeStore) : Prop where
  records : store'.counterexampleRecords = store.counterexampleRecords
  confirmed : ∀ runId run, store'.runs runId = some run →
    run.outcome = some .confirmedViolation → store.runs runId = some run

instance : Std.Refl NoVerdict := ⟨fun _ => ⟨rfl, fun _ _ found _ => found⟩⟩

instance : IsTrans InMemoryRuntimeStore NoVerdict :=
  ⟨fun _ _ _ h h' => ⟨h'.records.trans h.records, fun runId run found outcome =>
    h.confirmed runId run (h'.confirmed runId run found outcome) outcome⟩⟩

theorem NoVerdict.rfl : NoVerdict store store := Std.Refl.refl store

theorem NoVerdict.trans (h : NoVerdict store store') (h' : NoVerdict store' store'') :
    NoVerdict store store'' :=
  IsTrans.trans _ _ _ h h'

theorem NoVerdict.of_same (records : store'.counterexampleRecords = store.counterexampleRecords)
    (runs : store'.runs = store.runs) : NoVerdict store store' :=
  ⟨records, fun _ _ found _ => runs ▸ found⟩

/-- A run is written with an outcome that is no confirmed violation. -/
theorem NoVerdict.of_insert {run : AttackRun}
    (records : store'.counterexampleRecords = store.counterexampleRecords)
    (runs : store'.runs = insertEntry store.runs runId run)
    (other : run.outcome ≠ some .confirmedViolation) : NoVerdict store store' := by
  refine ⟨records, fun runId' run' found outcome => ?_⟩
  rw [runs] at found
  by_cases same : runId' = runId
  · subst same
    rw [insertEntry_self, Option.some.injEq] at found
    subst found
    exact absurd outcome other
  · rwa [insertEntry_of_ne same] at found

theorem Refuted.noVerdict (h : store.Refuted runId) (same : NoVerdict store store') :
    store'.Refuted runId := by
  unfold Refuted
  rw [same.records]
  exact h

theorem Backed.noVerdict (h : store.Backed) (same : NoVerdict store store') : store'.Backed := by
  intro runId run found outcome
  obtain ⟨completed, refuted⟩ := h runId run (same.confirmed runId run found outcome) outcome
  exact ⟨completed, refuted.noVerdict same⟩

/-! ## Operations -/

/-- A status is changed without confirming a violation. -/
theorem compareAndSetStatus_noVerdict {expected target : AttackStatus}
    {outcome : Option AttackOutcome} {changed : Bool}
    (other : outcome ≠ some .confirmedViolation)
    (h : store.compareAndSetStatus runId expected target outcome = .ok (store', changed)) :
    NoVerdict store store' := by
  obtain ⟨run, -, ⟨rfl, -⟩ | ⟨-, -, data, -, rfl⟩⟩ := compareAndSetStatus_cases h
  · exact .rfl
  · exact .of_insert rfl rfl other

theorem requestCancel_noVerdict (store : InMemoryRuntimeStore) (runId : String) :
    NoVerdict store (store.orSame (store.requestCancel runId)) := by
  refine orSame_of (P := NoVerdict store) .rfl fun store' changed h => ?_
  obtain ⟨run, -, h⟩ := Checked.bind_eq_ok.1 h
  split_ifs at h
  · exact compareAndSetStatus_noVerdict (by decide) h
  · obtain ⟨rfl, -⟩ := Prod.mk.inj (Checked.pure_eq_ok.1 h)
    exact .rfl

theorem ensureStrategy_noVerdict {uuid : String} {strategyType : StrategyType} {budget : Budget}
    {strategy : StrategyRun}
    (h : store.ensureStrategy uuid runId strategyType budget = .ok (store', strategy)) :
    NoVerdict store store' := by
  unfold ensureStrategy at h
  split at h
  · obtain ⟨_, -, h⟩ := Checked.bind_eq_ok.1 h
    obtain ⟨rfl, -⟩ := Prod.mk.inj (Checked.pure_eq_ok.1 h)
    exact .rfl
  · obtain ⟨rfl, -⟩ := Prod.mk.inj (Checked.pure_eq_ok.1 h)
    exact .of_same rfl rfl

/-- A new run has no outcome. -/
theorem createRun_noVerdict {uuid : String} {request : RunRequest} {item : AttackRun}
    (h : store.createRun uuid request = .ok (store', item)) : NoVerdict store store' := by
  unfold createRun at h
  split at h
  · obtain ⟨_, -, h⟩ := Checked.bind_eq_ok.1 h
    obtain ⟨rfl, -⟩ := Prod.mk.inj (Checked.pure_eq_ok.1 h)
    exact .rfl
  · obtain ⟨rfl, -⟩ := Prod.mk.inj (Checked.pure_eq_ok.1 h)
    exact .of_insert rfl rfl nofun

end InMemoryRuntimeStore

/-- An operation that neither saves a counterexample nor confirms a violation. -/
def StoreOp.NoVerdict : StoreOp → Prop
  | .saveCounterexample _ => False
  | .compareAndSetStatus _ _ _ outcome => outcome ≠ some .confirmedViolation
  | _ => True

open InMemoryRuntimeStore (NoVerdict)

theorem StoreOp.NoVerdict.apply {op : StoreOp} (other : op.NoVerdict)
    (store : InMemoryRuntimeStore) :
    InMemoryRuntimeStore.NoVerdict store (store.apply op) := by
  open InMemoryRuntimeStore in
  cases op with
  | createRun uuid request =>
    exact orSame_of (P := InMemoryRuntimeStore.NoVerdict store) .rfl
      fun _ _ h => createRun_noVerdict h
  | compareAndSetStatus runId expected target outcome =>
    exact orSame_of (P := InMemoryRuntimeStore.NoVerdict store) .rfl
      fun _ _ h => compareAndSetStatus_noVerdict other h
  | ensureStrategy uuid attackRunId strategyType budget =>
    exact orSame_of (P := InMemoryRuntimeStore.NoVerdict store) .rfl
      fun _ _ h => ensureStrategy_noVerdict h
  | updateStrategy strategy =>
    refine orSame_of (P := InMemoryRuntimeStore.NoVerdict store) .rfl fun _ _ h => ?_
    obtain ⟨_, -, h⟩ := Checked.bind_eq_ok.1 h
    obtain ⟨rfl, -⟩ := Prod.mk.inj (Checked.pure_eq_ok.1 h)
    exact .of_same rfl rfl
  | saveCheckpoint strategyRunId state expectedVersion =>
    refine orSame_of (P := InMemoryRuntimeStore.NoVerdict store) .rfl fun _ _ h => ?_
    obtain ⟨_, -, h⟩ := Checked.bind_eq_ok.1 h
    obtain ⟨rfl, -⟩ := Prod.mk.inj (Checked.pure_eq_ok.1 h)
    exact .of_same rfl rfl
  | appendEvent runId eventType data => exact .of_same rfl rfl
  | saveCounterexample record => exact absurd other id

/-! ## Searches -/

namespace Search

variable {search search' : Search} {ended : Option SearchEnd} {turn : Turn}

/-- Two searches with the same counterexamples in their stores. -/
def SameRecords (search search' : Search) : Prop :=
  search'.store.counterexampleRecords = search.store.counterexampleRecords

theorem saveCandidate_records {invariantId : InvariantId}
    (h : search.saveCandidate invariantId = .ok (search', ended)) :
    SameRecords search search' := by
  obtain ⟨⟨checkpoint, rfl⟩, -⟩ := saveCandidate_eq_ok h
  exact rfl

theorem stop_records {proposal : StopProposal} (h : search.stop proposal = .ok (search', ended)) :
    SameRecords search search' := by
  obtain ⟨persisted, hp, h⟩ := Checked.bind_eq_ok.1 h
  obtain rfl := persist_eq_ok hp
  split at h
  · obtain ⟨rfl, -⟩ := Prod.mk.inj (Checked.pure_eq_ok.1 h)
    exact rfl
  · split_ifs at h
    · have same : SameRecords _ search' := saveCandidate_records h
      exact same
    · obtain ⟨rfl, -⟩ := Prod.mk.inj (Checked.pure_eq_ok.1 h)
      exact rfl

theorem reject_records {kind : RejectionKind} {message : String} {proposed : ActionName}
    (h : search.reject kind message proposed = .ok (search', ended)) :
    SameRecords search search' := by
  unfold Search.reject at h
  dsimp only at h
  split_ifs at h
  · simp only [Checked.bind_eq_ok, Checked.pure_eq_ok, Prod.mk.injEq] at h
    obtain ⟨persisted, hp, rfl, -⟩ := h
    obtain rfl := persist_eq_ok hp
    exact rfl
  · obtain ⟨rfl, -⟩ := Prod.mk.inj (Checked.pure_eq_ok.1 h)
    exact rfl

theorem getD_persist_records {persisting default : Search} {usage : BudgetUsage}
    (same : SameRecords search persisting) (same' : SameRecords search default) :
    SameRecords search ((persisting.persist usage).toOption.getD default) := by
  cases h : persisting.persist usage with
  | error e => exact same'
  | ok persisted =>
    obtain rfl := persist_eq_ok h
    exact same

/-- At the top of a pass a cancellation may have been requested. -/
theorem tick_noVerdict (search : Search) (turn : Turn) :
    NoVerdict search.store (search.tick turn).store := by
  unfold Search.tick
  split_ifs
  · exact InMemoryRuntimeStore.requestCancel_noVerdict ..
  · exact .rfl

variable [Python]

theorem raisedAt_records (search : Search) (turn : Turn) :
    SameRecords (search.tick turn) (search.raisedAt turn) := by
  unfold Search.raisedAt
  dsimp only
  split
  · split_ifs
    · split
      · exact getD_persist_records rfl rfl
      · split
        · exact rfl
        · split
          · next accepted ha =>
            obtain ⟨transition, checkpoint, -, -, rfl⟩ := accept_eq_ok ha
            exact rfl
          · split
            · exact rfl
            · exact getD_persist_records rfl rfl
    · exact rfl
  · exact rfl

theorem act_records {legal : List SimAction} {proposal : ActionProposal}
    (h : search.act legal proposal = .ok (search', ended)) : SameRecords search search' := by
  unfold Search.act at h
  split at h
  · exact reject_records h
  · cases h
  · obtain ⟨accepted, ha, h⟩ := Checked.bind_eq_ok.1 h
    obtain ⟨transition, checkpoint, -, -, rfl⟩ := accept_eq_ok ha
    obtain ⟨violated, -, h⟩ := Checked.bind_eq_ok.1 h
    cases violated with
    | none =>
      obtain ⟨rfl, -⟩ := Prod.mk.inj (Checked.pure_eq_ok.1 h)
      exact rfl
    | some invariantId =>
      have same : SameRecords _ search' := saveCandidate_records h
      exact same

theorem turn_records (h : search.turn turn = .ok (search', ended)) :
    SameRecords (search.tick turn) search' := by
  obtain ⟨exhausted, ready, h⟩ := Checked.bind_eq_ok.1 h
  cases exhausted with
  | some reason =>
    obtain ⟨rfl, -⟩ := Prod.mk.inj (Checked.pure_eq_ok.1 h)
    exact rfl
  | none =>
    dsimp only [ask] at h
    split at h
    · cases h
    · obtain ⟨rfl, -⟩ := Prod.mk.inj (Checked.pure_eq_ok.1 h)
      exact rfl
    · next proposal asked =>
      unfold follow at h
      split_ifs at h
      · have same : SameRecords ((search.tick turn).asked turn).counted search' := by
          cases proposal with
          | stop proposal => exact stop_records h
          | action proposal => exact act_records h
        exact same
      · obtain ⟨persisted, hp, h⟩ := Checked.bind_eq_ok.1 h
        obtain rfl := persist_eq_ok hp
        obtain ⟨rfl, -⟩ := Prod.mk.inj (Checked.pure_eq_ok.1 h)
        exact rfl

theorem turn_noVerdict (h : search.turn turn = .ok (search', ended)) :
    NoVerdict search.store search'.store :=
  (tick_noVerdict search turn).trans (.of_same (turn_records h) (turn_runs h).runs)

/-- A search comes without a verdict, pass by pass. -/
theorem passes_noVerdict (search : Search) (turns : List Turn) :
    NoVerdict search.store (search.passes turns).1.store := by
  induction turns generalizing search with
  | nil => exact .rfl
  | cons turn turns ih =>
    rw [Search.passes]
    split
    · exact (tick_noVerdict search turn).trans
        (.of_same (raisedAt_records search turn) (raisedAt_runs search turn).runs)
    · next passed => exact turn_noVerdict passed
    · next passed => exact (turn_noVerdict passed).trans (ih _)

theorem start_noVerdict {spec : PolicySpec} {runId : String} {store : InMemoryRuntimeStore}
    {strategy : StrategyRun} {adapter : RecordedLLMAdapter}
    (h : Search.start spec runId store strategy adapter = .ok search) :
    NoVerdict store search.store := by
  refine .of_same ?_ (start_runs h).1
  unfold Search.start at h
  simp only [Checked.bind_eq_ok, Checked.pure_eq_ok, WorkerError.ofStore_eq_ok,
    InMemoryRuntimeStore.updateStrategy] at h
  obtain ⟨_, -, _, -, _, ⟨-, -, rfl⟩, rfl⟩ := h
  exact rfl

omit [Python] in
theorem finish_noVerdict {ended : SearchEnd} {store : InMemoryRuntimeStore}
    (h : search.finish ended = .ok store) : NoVerdict search.store store := by
  refine .of_same ?_ (finish_runs h)
  unfold Search.finish at h
  simp only [Checked.bind_eq_ok, Checked.pure_eq_ok, WorkerError.ofStore_eq_ok,
    InMemoryRuntimeStore.updateStrategy] at h
  obtain ⟨_, ⟨-, -, rfl⟩, rfl⟩ := h
  exact rfl

end Search

/-! ## Sessions -/

/-- A counterexample that a visit saves when the replay of a candidate finds its invariant
    violated. -/
structure CounterexampleRecord.OfReplay [Python] (runId : String) (visit : Visit)
    (candidate : Candidate) (record : CounterexampleRecord) : Prop where
  attackRunId : record.attackRunId = runId
  candidateKey : record.candidateKey = RuleArena.candidateKey candidate.actions record.invariantId
  originalActions : record.originalActions = candidate.actions.map serializeAction
  replayed : ∃ replayed, visit.replay = some replayed ∧ record.replayRunId = replayed.runId ∧
    record.invariantId ∈ replayed.violated
  minimized : ∃ minimized, visit.minimized record.invariantId = some minimized ∧
    record.minimizedActions = minimized.map serializeAction

/-- The part of a world that a worker has no evidence in. -/
structure WorkerWorld.Calm (world world' : WorkerWorld) : Prop where
  replays : world'.replays = world.replays
  store : NoVerdict world.store world'.store

namespace WorkerWorld

instance : Std.Refl Calm := ⟨fun _ => ⟨rfl, .rfl⟩⟩

instance : IsTrans WorkerWorld Calm :=
  ⟨fun _ _ _ h h' => ⟨h'.replays.trans h.replays, h.store.trans h'.store⟩⟩

/-- The candidates that a session has replayed, each in the turn of a strategy, and what it has
    saved: its counterexamples are those of its replays. -/
structure Attested [Python] (runId : String) (visits : StrategyType → Visit)
    (before : List CounterexampleRecord) (replayed : List (StrategyType × Candidate))
    (world : WorkerWorld) : Prop where
  replays : world.replays = replayed.map (·.2)
  backed : world.store.Backed
  records : ∀ record ∈ world.store.counterexampleRecords, record ∈ before ∨
    ∃ turn ∈ replayed, record.OfReplay runId (visits turn.1) turn.2

variable [Python] {runId : String} {visits : StrategyType → Visit}
  {before : List CounterexampleRecord} {replayed : List (StrategyType × Candidate)}
  {world world' : WorkerWorld}

theorem Attested.calm (h : world.Attested runId visits before replayed)
    (calm : world.Calm world') : world'.Attested runId visits before replayed where
  replays := calm.replays.trans h.replays
  backed := h.backed.noVerdict calm.store
  records record mem := h.records record (calm.store.records ▸ mem)

/-- A further replay. -/
theorem Attested.noteReplay (h : world.Attested runId visits before replayed)
    (strategyType : StrategyType) (candidate : Candidate) :
    (world.noteReplay candidate).Attested runId visits before
      (replayed ++ [(strategyType, candidate)]) where
  replays := by
    rw [List.map_append, ← h.replays]
    rfl
  backed := h.backed
  records record mem := by
    rcases h.records record mem with old | ⟨turn, done, ofReplay⟩
    · exact .inl old
    · exact .inr ⟨turn, List.mem_append_left _ done, ofReplay⟩

end WorkerWorld

namespace AttackWorker

open WorkerWorld (Calm Attested)

variable {α : Type} {runId : String}

/-! ## What comes without a verdict -/

/-- A call finds what calm moves keep, and leaves what its operation makes of it. -/
theorem call_found {op : InMemoryRuntimeStore → Except StoreError (InMemoryRuntimeStore × α)}
    {P : WorkerWorld → Prop} {Q : α → WorkerWorld → Prop}
    (keeps : ∀ world world', Calm world world' → P world → P world')
    (ok : ∀ world store a, P world → op world.store = .ok (store, a) →
      Q a { world with store := store }) :
    (call runId op).Meets P Q fun _ => P := by
  intro world hw
  have asked : P { world with
      store := if world.cancels.headD false then
        world.store.orSame (world.store.requestCancel runId) else world.store
      cancels := world.cancels.tail } := by
    refine keeps world _ ⟨rfl, ?_⟩ hw
    dsimp only
    split_ifs
    · exact InMemoryRuntimeStore.requestCancel_noVerdict ..
    · exact .rfl
  unfold call
  dsimp only
  generalize (if world.cancels.headD false then
    world.store.orSame (world.store.requestCancel runId) else world.store) = store at asked ⊢
  cases h : op store with
  | ok done =>
    refine ⟨?_, ?_⟩
    · rintro _ _ ⟨⟩
      exact ok _ done.1 done.2 asked h
    · rintro _ _ ⟨⟩
  | error e =>
    refine ⟨?_, ?_⟩
    · rintro _ _ ⟨⟩
    · rintro _ _ ⟨⟩
      exact asked

theorem call_calm {op : InMemoryRuntimeStore → Except StoreError (InMemoryRuntimeStore × α)}
    (noVerdict : ∀ store store' a, op store = .ok (store', a) → NoVerdict store store') :
    (call runId op).Moves Calm := by
  intro world
  have moves : (call runId op).Meets (Calm world) (fun _ => Calm world) fun _ => Calm world :=
    call_found (fun _ _ calm h => IsTrans.trans _ _ _ h calm) fun world' store a h eq =>
      ⟨h.replays, h.store.trans (noVerdict world'.store store a eq)⟩
  obtain ⟨ok, error⟩ := moves world (Std.Refl.refl world)
  cases h : call runId op world with
  | mk result world' =>
    cases result with
    | ok a => exact ok a world' h
    | error e => exact error e world' h

theorem read_calm {op : InMemoryRuntimeStore → Except StoreError α} :
    (read runId op).Moves Calm := by
  refine call_calm fun store store' a h => ?_
  obtain ⟨_, -, h⟩ := Checked.bind_eq_ok.1 h
  obtain ⟨rfl, -⟩ := Prod.mk.inj (Checked.pure_eq_ok.1 h)
  exact .rfl

theorem setStatus_calm {expected target : AttackStatus} {outcome : Option AttackOutcome}
    (other : outcome ≠ some .confirmedViolation) :
    (setStatus runId expected target outcome).Moves Calm :=
  call_calm fun _ _ _ h => InMemoryRuntimeStore.compareAndSetStatus_noVerdict other h

theorem ensureStrategy_calm {uuid : String} {strategyType : StrategyType} {budget : Budget} :
    (call runId (·.ensureStrategy uuid runId strategyType budget)).Moves Calm :=
  call_calm fun _ _ _ h => InMemoryRuntimeStore.ensureStrategy_noVerdict h

theorem share_calm {budget : Option Budget} : (share budget).Moves Calm := by
  cases budget with
  | some budget => exact .pure budget
  | none => exact .raise _

theorem raising_calm {x : Except WorkerError α} : (raising x).Moves Calm := by
  cases x with
  | ok a => exact .pure a
  | error e => exact .raise _

theorem cancel_calm : (cancel runId : Program Stop WorkerWorld α).Moves Calm :=
  (setStatus_calm (by decide)).bind fun _ => .raise _

theorem fail_calm (stop : Stop) : (fail runId stop).Moves Calm := by
  have failing : (do
      let current ← read runId (·.getRun runId)
      if current.status = .searching ∨ current.status = .replaying then
        let _ ← setStatus runId current.status .failed (some .infraFailed) :
          Program Stop WorkerWorld Unit).Moves Calm :=
    read_calm.bind fun _ => .ite ((setStatus_calm (by decide)).bind fun _ => .pure _) (.pure _)
  cases stop with
  | returned => exact .pure _
  | searching => exact .pure _
  | starved => exact failing
  | raised error => exact failing

variable {worker : AttackWorker} {visits : StrategyType → Visit}

theorem recoveryTarget_calm {run : AttackRun} {todo : List StrategyType} :
    (worker.recoveryTarget runId run visits todo).Moves Calm := by
  induction todo with
  | nil => exact .pure _
  | cons strategyType rest ih =>
    rw [recoveryTarget]
    refine share_calm.bind fun budget => ensureStrategy_calm.bind fun strategy =>
      read_calm.bind fun checkpoint => ?_
    split
    · exact .pure _
    · exact ih

theorem enter_calm {run : AttackRun} : (worker.enter runId run visits).Moves Calm := by
  have or_returned {expected target : AttackStatus} {rest : Program Stop WorkerWorld Unit}
      (h : rest.Moves Calm) : (setStatus runId expected target none >>= fun changed =>
        if changed then rest else Program.raise .returned).Moves Calm :=
    (setStatus_calm (by decide)).bind fun _ => .ite h (.raise _)
  unfold enter
  split
  · exact cancel_calm
  · exact share_calm.bind fun _ => or_returned (.pure _)
  · exact or_returned (recoveryTarget_calm.bind fun _ => or_returned (.pure _))
  · exact .pure _
  · exact .pure _
  · exact .raise _

variable [Python]

theorem searchStrategy_calm {strategy : StrategyRun} {turns : List Turn} :
    (worker.searchStrategy runId strategy turns).Moves Calm := by
  intro world
  unfold searchStrategy
  cases hs : Search.start worker.spec runId world.store strategy
      (worker.agents strategy.strategyType) with
  | error e => exact Std.Refl.refl world
  | ok search =>
    have passed := (Search.start_noVerdict hs).trans (search.passes_noVerdict turns)
    dsimp only
    generalize search.passes turns = passes at passed
    obtain ⟨search, none | error | ended⟩ := passes
    · exact ⟨rfl, passed⟩
    · exact ⟨rfl, passed⟩
    · dsimp only
      cases hf : search.finish ended with
      | error e => exact ⟨rfl, passed⟩
      | ok store => exact ⟨rfl, passed.trans (Search.finish_noVerdict hf)⟩

theorem candidate_calm {visit : Visit} {strategy : StrategyRun} :
    (worker.candidate runId visit strategy).Moves Calm := by
  unfold candidate
  refine read_calm.bind fun current => read_calm.bind fun checkpoint => ?_
  split
  · exact raising_calm.bind fun _ => .pure _
  · exact searchStrategy_calm

/-! ## Replays -/

variable {before : List CounterexampleRecord} {replayed : List (StrategyType × Candidate)}

/-- All that is calm keeps what is attested. -/
theorem keeps_attested {m : Program Stop WorkerWorld α} (h : m.Moves Calm) :
    m.Meets (Attested runId visits before replayed)
      (fun _ => Attested runId visits before replayed)
      fun _ => Attested runId visits before replayed :=
  h.meets fun _ _ calm attested => attested.calm calm

/-- A counterexample is there once it has been saved, or another one of its candidate. -/
theorem save_attested {strategyType : StrategyType} {candidate : Candidate}
    {record : CounterexampleRecord} (done : (strategyType, candidate) ∈ replayed)
    (ofReplay : record.OfReplay runId (visits strategyType) candidate) :
    (call runId fun store => Except.ok (store.saveCounterexample record)).Meets
      (Attested runId visits before replayed)
      (fun _ world => world.store.Refuted runId ∧ Attested runId visits before replayed world)
      fun _ => Attested runId visits before replayed := by
  refine call_found (fun _ _ calm attested => attested.calm calm) fun world store saved h eq => ?_
  have eq := congrArg Prod.fst (Except.ok.inj eq)
  unfold InMemoryRuntimeStore.saveCounterexample at eq
  split at eq
  · next existing found =>
    obtain rfl : world.store = store := eq
    have own := List.find?_some found
    simp only [Bool.decide_and, Bool.and_eq_true, decide_eq_true_eq] at own
    exact ⟨⟨existing, List.mem_of_find?_eq_some found, own.1.trans ofReplay.attackRunId⟩, h⟩
  · subst eq
    have saved : record ∈ world.store.counterexampleRecords ++ [record] :=
      List.mem_append_right _ (List.mem_singleton.2 rfl)
    refine ⟨⟨record, saved, ofReplay.attackRunId⟩, h.replays, ?_, fun record' mem => ?_⟩
    · intro runId' run found outcome
      obtain ⟨completed, record', mem, own⟩ := h.backed runId' run found outcome
      exact ⟨completed, record', List.mem_append_left _ mem, own⟩
    · rcases List.mem_append.1 mem with old | new
      · exact h.records record' old
      · obtain rfl := List.mem_singleton.1 new
        exact .inr ⟨_, done, ofReplay⟩

/-- The violations that a replay confirms, one after the other. -/
theorem confirm_attested {strategyType : StrategyType} {candidate : Candidate}
    {replay : ReplayResult} (done : (strategyType, candidate) ∈ replayed)
    (replied : (visits strategyType).replay = some replay) (violated : List InvariantId)
    (found : ∀ invariantId ∈ violated, invariantId ∈ replay.violated) (refuted : Prop) :
    (confirm runId (visits strategyType) candidate.actions replay violated).Meets
      (fun world => (refuted → world.store.Refuted runId) ∧
        Attested runId visits before replayed world)
      (fun _ world => (refuted ∨ violated ≠ [] → world.store.Refuted runId) ∧
        Attested runId visits before replayed world)
      fun _ => Attested runId visits before replayed := by
  induction violated generalizing refuted with
  | nil => exact .pure fun _ h => ⟨fun case => h.1 (case.resolve_right (absurd rfl)), h.2⟩
  | cons invariantId rest ih =>
    obtain ⟨first, later⟩ := List.forall_mem_cons.1 found
    rw [confirm]
    cases hm : (visits strategyType).minimized invariantId with
    | none => exact .raise fun _ h => h.2
    | some minimized =>
      refine ((save_attested done ⟨rfl, rfl, rfl, ⟨replay, replied, rfl, first⟩,
        minimized, hm, rfl⟩).mono (fun _ h => h.2) (fun _ _ h => ?_) fun _ _ h => h).bind
          fun _ => (ih later True).mono (fun _ h => h) (fun _ _ h => ?_) fun _ _ h => h
      · exact ⟨fun _ => h.1, h.2⟩
      · exact ⟨fun _ => h.1 (.inl trivial), h.2⟩

/-- A run whose counterexample is stored is completed with a confirmed violation. -/
theorem confirmed_attested {expected : AttackStatus} :
    (setStatus runId expected .completed (some .confirmedViolation)).Meets
      (fun world => world.store.Refuted runId ∧ Attested runId visits before replayed world)
      (fun _ => Attested runId visits before replayed)
      fun _ => Attested runId visits before replayed := by
  refine (call_found (fun _ _ calm h => ⟨h.1.noVerdict calm.store, h.2.calm calm⟩)
    fun world store changed h eq => ?_).mono (fun _ h => h) (fun _ _ h => h) fun _ _ h => h.2
  obtain ⟨refuted, h⟩ := h
  obtain ⟨run, -, ⟨rfl, -⟩ | ⟨-, -, data, -, rfl⟩⟩ :=
    InMemoryRuntimeStore.compareAndSetStatus_cases eq
  · exact h
  · refine ⟨h.replays, fun runId' run' found outcome => ?_, h.records⟩
    by_cases same : runId' = runId
    · subst same
      obtain rfl := Option.some.inj ((InMemoryRuntimeStore.insertEntry_self ..).symm.trans found)
      exact ⟨rfl, refuted⟩
    · exact h.backed runId' run' ((InMemoryRuntimeStore.insertEntry_of_ne same _).symm.trans found)
        outcome

/-- The turn of a strategy: it has replayed one candidate, or none. -/
def AfterTurn (runId : String) (visits : StrategyType → Visit)
    (before : List CounterexampleRecord) (replayed : List (StrategyType × Candidate))
    (strategyType : StrategyType) (world : WorkerWorld) : Prop :=
  Attested runId visits before replayed world ∨
    ∃ candidate, Attested runId visits before (replayed ++ [(strategyType, candidate)]) world

theorem calm_turn {m : Program Stop WorkerWorld α} {strategyType : StrategyType}
    (h : m.Moves Calm) :
    m.Meets (Attested runId visits before replayed)
      (fun _ => Attested runId visits before replayed)
      fun _ => AfterTurn runId visits before replayed strategyType :=
  (keeps_attested h).mono (fun _ h => h) (fun _ _ h => h) fun _ _ h => .inl h

/-- A replay finds violations, which are confirmed, or sends the run back to its search. -/
theorem judged_attested {strategyType : StrategyType} {candidate : Candidate}
    {replay : ReplayResult} {progress : Progress} (done : (strategyType, candidate) ∈ replayed)
    (replied : (visits strategyType).replay = some replay) :
    (if replay.violated ≠ [] then do
        confirm runId (visits strategyType) candidate.actions replay replay.violated
        let _ ← setStatus runId .replaying .completed (some .confirmedViolation)
        Program.raise .returned
      else do
        let _ ← setStatus runId .replaying .searching none
        return { progress with sawUnconfirmed := true } : Program Stop WorkerWorld Progress).Meets
      (Attested runId visits before replayed)
      (fun _ => Attested runId visits before replayed)
      fun _ => Attested runId visits before replayed := by
  refine .ite (fun some_violated => ?_) fun _ => ?_
  · refine ((confirm_attested done replied _ (fun _ mem => mem) False).mono
      (fun _ h => ⟨False.elim, h⟩) (fun _ _ h => ?_) fun _ _ h => h).bind fun _ =>
        confirmed_attested.bind fun _ => .raise fun _ h => h
    exact ⟨h.1 (.inr some_violated), h.2⟩
  · exact (keeps_attested (setStatus_calm (by decide))).bind fun _ => .pure fun _ h => h

theorem replay_attested {strategyType : StrategyType} {candidate : Candidate}
    {progress : Progress} :
    (replay runId (visits strategyType) candidate.actions candidate.invariant progress).Meets
      (Attested runId visits before replayed)
      (fun _ => AfterTurn runId visits before replayed strategyType)
      fun _ => AfterTurn runId visits before replayed strategyType := by
  unfold replay
  refine (calm_turn read_calm).bind fun current => .ite (fun _ => ?_) fun _ => ?_
  · exact (calm_turn cancel_calm).mono (fun _ h => h) (fun _ _ h => .inl h) fun _ _ h => h
  -- whether or not the status is changed, the candidate is replayed
  have begun (m : Program Stop WorkerWorld Progress)
      (h : m.Meets (Attested runId visits before (replayed ++ [(strategyType, candidate)]))
        (fun _ => Attested runId visits before (replayed ++ [(strategyType, candidate)]))
        fun _ => Attested runId visits before (replayed ++ [(strategyType, candidate)])) :
      (if current.status = .searching then do
          let _ ← setStatus runId .searching .replaying none
          Program.modify (WorkerWorld.noteReplay candidate)
          m
        else do
          Program.modify (WorkerWorld.noteReplay candidate)
          m : Program Stop WorkerWorld Progress).Meets (Attested runId visits before replayed)
        (fun _ => AfterTurn runId visits before replayed strategyType)
        fun _ => AfterTurn runId visits before replayed strategyType := by
    have noted : (Program.modify (WorkerWorld.noteReplay candidate) >>= fun _ => m).Meets
        (Attested runId visits before replayed)
        (fun _ => AfterTurn runId visits before replayed strategyType)
        fun _ => AfterTurn runId visits before replayed strategyType :=
      Program.Meets.bind (.modify fun _ h => h.noteReplay strategyType candidate) fun _ =>
        h.mono (fun _ h => h) (fun _ _ h => .inr ⟨candidate, h⟩) fun _ _ h => .inr ⟨candidate, h⟩
    exact .ite (fun _ => (calm_turn (setStatus_calm (by decide))).bind fun _ => noted)
      fun _ => noted
  have done : (strategyType, candidate) ∈ replayed ++ [(strategyType, candidate)] :=
    List.mem_append_right _ (List.mem_singleton.2 rfl)
  cases replied : (visits strategyType).replay with
  | none => exact begun _ (.raise fun _ h => h)
  | some replay => exact begun _ (judged_attested done replied)

variable {run : AttackRun}

theorem visit_attested {strategyType : StrategyType} {progress : Progress} :
    (worker.visit runId run strategyType (visits strategyType) progress).Meets
      (Attested runId visits before replayed)
      (fun _ => AfterTurn runId visits before replayed strategyType)
      fun _ => AfterTurn runId visits before replayed strategyType := by
  unfold AttackWorker.visit
  refine .ite (fun _ => .pure fun _ h => .inl h) fun _ => ?_
  refine (calm_turn read_calm).bind fun requested => .ite (fun _ => ?_) fun _ => ?_
  · exact (calm_turn cancel_calm).mono (fun _ h => h) (fun _ _ h => .inl h) fun _ _ h => h
  refine (calm_turn share_calm).bind fun budget => (calm_turn ensureStrategy_calm).bind
    fun strategy => (calm_turn candidate_calm).bind fun candidate =>
    (calm_turn share_calm).bind fun budget => (calm_turn ensureStrategy_calm).bind
    fun strategy => ?_
  cases candidate with
  | none => exact .pure fun _ h => .inl h
  | some candidate =>
    refine Program.Meets.bind (.modify fun _ h => ⟨h.replays, h.backed, h.records⟩) fun _ =>
      .ite (fun _ => .pure fun _ h => .inl h) fun _ => ?_
    exact Program.Meets.bind (@replay_attested runId visits _ before replayed strategyType
      ⟨candidate.1, candidate.2⟩ _) fun _ => .pure fun _ h => h

/-- What a session attests when the strategies that are left have not had their turn. -/
def Attests (runId : String) (visits : StrategyType → Visit)
    (before : List CounterexampleRecord) (left : List StrategyType) (world : WorkerWorld) :
    Prop :=
  ∃ replayed, (replayed.map (·.1) ++ left).Sublist StrategyType.all ∧
    Attested runId visits before replayed world

omit [Python] in
theorem sublist_of_append {α : Type} {done left all : List α} (sub : (done ++ left).Sublist all) :
    (done ++ []).Sublist all := by
  rw [List.append_nil]
  exact (List.sublist_append_left done left).trans sub

theorem Attests.ended {left : List StrategyType} {world : WorkerWorld}
    (h : Attests runId visits before left world) : Attests runId visits before [] world := by
  obtain ⟨replayed, sub, attested⟩ := h
  exact ⟨replayed, sublist_of_append sub, attested⟩

theorem AfterTurn.attests {strategyType : StrategyType} {rest : List StrategyType}
    {world : WorkerWorld} (sub : (replayed.map (·.1) ++ strategyType :: rest).Sublist
      StrategyType.all) (h : AfterTurn runId visits before replayed strategyType world) :
    Attests runId visits before rest world := by
  rcases h with attested | ⟨candidate, attested⟩
  · refine ⟨replayed, .trans ?_ sub, attested⟩
    exact (List.sublist_cons_self strategyType rest).append_left _
  · refine ⟨_, ?_, attested⟩
    rw [List.map_append, List.append_assoc]
    exact sub

theorem calm_attests {m : Program Stop WorkerWorld α} (h : m.Moves Calm)
    {left : List StrategyType} :
    m.Meets (Attests runId visits before left) (fun _ => Attests runId visits before left)
      fun _ => Attests runId visits before [] := by
  refine (h.meets (I := Attests runId visits before left) ?_).mono (fun _ h => h)
    (fun _ _ h => h) fun _ _ h => h.ended
  rintro world world' calm ⟨replayed, sub, attested⟩
  exact ⟨replayed, sub, attested.calm calm⟩

theorem strategies_attests {todo : List StrategyType} {progress : Progress} :
    (worker.strategies runId run visits todo progress).Meets (Attests runId visits before todo)
      (fun _ => Attests runId visits before []) fun _ => Attests runId visits before [] := by
  induction todo generalizing progress with
  | nil => exact .pure fun _ h => h
  | cons strategyType rest ih =>
    rw [strategies]
    have turn : (worker.visit runId run strategyType (visits strategyType) progress).Meets
        (Attests runId visits before (strategyType :: rest))
        (fun _ => Attests runId visits before rest) fun _ => Attests runId visits before [] := by
      rintro world ⟨replayed, sub, attested⟩
      exact (visit_attested.mono (fun _ h => h) (fun _ _ h => h.attests sub)
        fun _ _ h => (h.attests sub).ended) world attested
    refine turn.bind fun done => ?_
    cases done with
    | none => exact .pure fun _ h => h.ended
    | some progress => exact ih

theorem body_attests :
    (worker.body runId run visits).Meets (Attests runId visits before StrategyType.all)
      (fun _ => Attests runId visits before []) fun _ => Attests runId visits before [] := by
  unfold body
  refine strategies_attests.bind fun progress => (calm_attests read_calm).bind fun current =>
    .ite (fun _ => ?_) fun _ => .pure fun _ h => h
  have other : (some (if progress.sawUnconfirmed then .unconfirmedCandidate
      else .noViolationWithinBudget) : Option AttackOutcome) ≠ some .confirmedViolation := by
    split
    · decide
    · decide
  exact (calm_attests (setStatus_calm other)).bind fun _ => .pure fun _ h => h

/-- A run whose counterexamples are read is refuted if there are any. -/
theorem read_refuted :
    (read runId fun store => .ok (store.counterexamples runId)).Meets
      (Attested runId visits before replayed)
      (fun found world => (found ≠ [] → world.store.Refuted runId) ∧
        Attested runId visits before replayed world)
      fun _ => Attested runId visits before replayed := by
  refine call_found (fun _ _ calm h => h.calm calm) fun world store found h eq => ?_
  obtain ⟨rfl, rfl⟩ := Prod.mk.inj (Except.ok.inj eq)
  exact ⟨InMemoryRuntimeStore.refuted_iff.2, h⟩

/-- However a session ends, it attests what it has saved. -/
theorem run_attests (worker : AttackWorker) (runId : String) (visits : StrategyType → Visit)
    (world : WorkerWorld) (first : world.replays = []) (backed : world.store.Backed) :
    Attests runId visits world.store.counterexampleRecords []
      (worker.run runId visits world).2 := by
  have meets : (worker.run runId visits).Meets
      (Attested runId visits world.store.counterexampleRecords [])
      (fun _ => Attests runId visits world.store.counterexampleRecords [])
      fun _ => Attests runId visits world.store.counterexampleRecords [] := by
    have ended {world' : WorkerWorld}
        (h : world'.Attested runId visits world.store.counterexampleRecords []) :
        Attests runId visits world.store.counterexampleRecords [] world' :=
      ⟨[], List.nil_sublist _, h⟩
    have calm {α : Type} {m : Program Stop WorkerWorld α} (h : m.Moves Calm) :
        m.Meets (Attested runId visits world.store.counterexampleRecords [])
          (fun _ => Attested runId visits world.store.counterexampleRecords [])
          fun _ => Attests runId visits world.store.counterexampleRecords [] :=
      (keeps_attested h).mono (fun _ h => h) (fun _ _ h => h) fun _ _ h => ended h
    have searched {run : AttackRun} :
        ((worker.body runId run visits).rescue (fail runId)).Meets
          (Attested runId visits world.store.counterexampleRecords [])
          (fun _ => Attests runId visits world.store.counterexampleRecords [])
          fun _ => Attests runId visits world.store.counterexampleRecords [] :=
      (body_attests.mono (fun _ h => ⟨[], List.Sublist.refl _, h⟩) (fun _ _ h => h)
        fun _ _ h => h).rescue fun stop => calm_attests (fail_calm stop)
    unfold AttackWorker.run
    refine (calm read_calm).bind fun run => (calm enter_calm).bind fun _ =>
      .ite (fun _ => ?_) fun _ => searched
    refine (read_refuted.mono (fun _ h => h) (fun _ _ h => h) fun _ _ h => ended h).bind
      fun found => .ite (fun some_found => ?_) fun _ => ?_
    · refine (confirmed_attested.mono (fun _ h => ⟨h.1 some_found, h.2⟩) (fun _ _ h => h)
        fun _ _ h => ended h).bind fun _ => .raise fun _ h => ended h
    · exact searched.mono (fun _ h => h.2) (fun _ _ h => h) fun _ _ h => h
  have initial : world.Attested runId visits world.store.counterexampleRecords [] :=
    ⟨first, backed, fun _ mem => .inl mem⟩
  obtain ⟨ok, error⟩ := meets world initial
  cases h : worker.run runId visits world with
  | mk result world' =>
    cases result with
    | ok a => exact ok a world' h
    | error e => exact error e world' h

end AttackWorker

/-! ## Episodes -/

/-- What happens to a store: a worker takes up a run, of which a cancellation may be requested
    before each of its calls, or another party does an operation. -/
inductive Episode
  | worked (worker : AttackWorker) (runId : String) (visits : StrategyType → Visit)
      (cancels : List Bool)
  | other (op : StoreOp)

namespace Episode

variable [Python]

def apply (store : InMemoryRuntimeStore) : Episode → InMemoryRuntimeStore
  | .worked worker runId visits cancels => (worker.run runId visits { store, cancels }).2.store
  | .other op => store.apply op

/-- The store after a sequence of episodes. -/
def after (episodes : List Episode) : InMemoryRuntimeStore := episodes.foldl apply {}

/-- One of the sessions has saved the counterexample, which was not there before, when the replay
    of a candidate in the turn of one of its strategies has found the invariant violated. -/
def Proves (episodes : List Episode) (record : CounterexampleRecord) : Prop :=
  ∃ earlier worker runId visits cancels later,
    ∃ replayed : List (StrategyType × Candidate), ∃ strategyType candidate,
    episodes = earlier ++ .worked worker runId visits cancels :: later ∧
    record ∉ (after earlier).counterexampleRecords ∧
    record ∈ (after (earlier ++ [.worked worker runId visits cancels])).counterexampleRecords ∧
    (worker.run runId visits { store := after earlier, cancels }).2.replays =
      replayed.map (·.2) ∧
    (replayed.map (·.1)).Sublist StrategyType.all ∧
    (strategyType, candidate) ∈ replayed ∧ record.OfReplay runId (visits strategyType) candidate

theorem after_concat (episodes : List Episode) (episode : Episode) :
    after (episodes ++ [episode]) = apply (after episodes) episode := by
  rw [after, List.foldl_append]
  rfl

theorem Proves.concat {episodes : List Episode} {record : CounterexampleRecord}
    (h : Proves episodes record) (episode : Episode) : Proves (episodes ++ [episode]) record := by
  obtain ⟨earlier, worker, runId, visits, cancels, later, replayed, strategyType, candidate,
    rfl, rest⟩ := h
  refine ⟨earlier, worker, runId, visits, cancels, later ++ [episode], replayed, strategyType,
    candidate, ?_, rest⟩
  rw [List.append_assoc]
  rfl

/-- What holds after any episodes: each confirmed violation is backed by a counterexample, and
    each counterexample is proved by a session. -/
structure Sound (episodes : List Episode) : Prop where
  backed : (after episodes).Backed
  proved : ∀ record ∈ (after episodes).counterexampleRecords, Proves episodes record

theorem Sound.concat {episodes : List Episode} (sound : Sound episodes) (episode : Episode)
    (noVerdict : ∀ op, episode = .other op → op.NoVerdict) : Sound (episodes ++ [episode]) := by
  cases episode with
  | other op =>
    have same := (noVerdict op rfl).apply (after episodes)
    refine ⟨after_concat .. ▸ sound.backed.noVerdict same, fun record mem => ?_⟩
    rw [after_concat] at mem
    exact (sound.proved record (same.records ▸ mem)).concat _
  | worked worker runId visits cancels =>
    obtain ⟨replayed, sub, attested⟩ :=
      worker.run_attests runId visits { store := after episodes, cancels } rfl sound.backed
    refine ⟨after_concat .. ▸ attested.backed, fun record mem => ?_⟩
    by_cases old : record ∈ (after episodes).counterexampleRecords
    · exact (sound.proved record old).concat _
    · have saved := mem
      rw [after_concat] at saved
      rcases attested.records record saved with there | ⟨⟨strategyType, candidate⟩, done, ofReplay⟩
      · exact absurd there old
      · rw [List.append_nil] at sub
        exact ⟨episodes, worker, runId, visits, cancels, [], replayed, strategyType, candidate,
          rfl, old, mem, attested.replays, sub, done, ofReplay⟩

theorem sound (episodes : List Episode)
    (noVerdict : ∀ op, .other op ∈ episodes → op.NoVerdict) : Sound episodes := by
  induction episodes using List.reverseRecOn with
  | nil =>
    refine ⟨fun runId run found outcome => ?_, fun record mem => ?_⟩
    · cases found
    · cases mem
  | append_singleton episodes episode ih =>
    refine (ih fun op mem => noVerdict op (List.mem_append_left _ mem)).concat episode ?_
    rintro op rfl
    exact noVerdict op (List.mem_append_right _ (List.mem_singleton.2 rfl))

/-- Whatever workers and other parties do, a run that ends with a confirmed violation has a
    counterexample, and each counterexample is one that a worker has saved when the replay of
    its actions found its invariant violated. -/
theorem after_evidence (episodes : List Episode)
    (noVerdict : ∀ op, .other op ∈ episodes → op.NoVerdict) :
    (∀ runId run, (after episodes).runs runId = some run →
      run.outcome = some .confirmedViolation →
        run.status = .completed ∧ (after episodes).counterexamples runId ≠ []) ∧
    ∀ record ∈ (after episodes).counterexampleRecords, Proves episodes record := by
  obtain ⟨backed, proved⟩ := sound episodes noVerdict
  refine ⟨fun runId run found outcome => ?_, proved⟩
  obtain ⟨completed, refuted⟩ := backed runId run found outcome
  exact ⟨completed, InMemoryRuntimeStore.refuted_iff.1 refuted⟩

/-- The strategy that has stored a candidate finds it violated. The first worker cannot minimize
    its path and fails the run. -/
def refutingVisits (minimizes : Bool) (strategyType : StrategyType) : Visit where
  uuid := strategyType.value
  turns := []
  replay := some {
    classification := .confirmedViolation
    targetInvariant := .entitlementNonNegative
    runId := "replay"
    actions := []
    findings := [{
      invariantId := .entitlementNonNegative, status := .violated, evidence := []
      beforeHash := none, afterHash := none, relatedActionIds := [], relatedEventIds := []
      explanation := "an entitlement is negative" }]
    snapshots := []
    receipts := []
    events := [] }
  minimized _ := if minimizes then some [] else none
  counterexampleId _ := "counterexample"

/-- A run that is left replaying a candidate, a worker that fails it, and one that recovers it. -/
def refuting : List Episode := [
  .other (.createRun "run" Search.newRequest),
  .other (.compareAndSetStatus "run" .ready .searching none),
  .other (.ensureStrategy "strategy" "run" .valueFlow Search.newBudget),
  .other (.saveCheckpoint "strategy" {
    foundState with candidateInvariant := some .entitlementNonNegative } 0),
  .other (.compareAndSetStatus "run" .searching .replaying none),
  .worked twoSearch "run" (refutingVisits false) [],
  .worked twoSearch "run" (refutingVisits true) []]

omit [Python] in
theorem refuting_noVerdict : ∀ op, .other op ∈ refuting → op.NoVerdict := by
  intro op mem
  simp only [refuting, List.mem_cons, List.not_mem_nil, or_false, other.injEq,
    reduceCtorEq] at mem
  rcases mem with rfl | rfl | rfl | rfl | rfl
  · exact trivial
  · exact (Option.some_ne_none _).symm
  · exact trivial
  · exact trivial
  · exact (Option.some_ne_none _).symm

omit [Python] in
theorem after_evidence_refuting :
    let _ := Python.transparent
    ∃ record ∈ (after refuting).counterexampleRecords,
      record.attackRunId = "run" ∧ Proves refuting record := by
  intro _
  obtain ⟨confirmed, proved⟩ := after_evidence refuting refuting_noVerdict
  have outcome : ((after refuting).runs "run").any
      (·.outcome = some .confirmedViolation) = true := by decide +kernel
  obtain ⟨run, found, outcome⟩ := (Option.any_eq_true ..).1 outcome
  obtain ⟨record, mem⟩ := List.exists_mem_of_ne_nil _
    (confirmed "run" run found (of_decide_eq_true outcome)).2
  obtain ⟨stored, own⟩ := List.mem_filter.1 mem
  exact ⟨record, stored, of_decide_eq_true own, proved record stored⟩

end Episode

end RuleArena
