import RuleArena.Runtime.Ownership

/-!
# How a worker leaves a run

A worker that returns has completed its run, or confirmed its cancellation, with
three exceptions. It does not take up a run that is recovering. A cancellation that
is requested after the last turn of a strategy has begun may not be seen. And a run
that is taken up to be replayed stays so if its time is up before a strategy with a
candidate has its turn, for only a run that is searching is completed at the end.

The exceptions are those of `WorkerWorld.Ends`, and without them the run comes to
its end (`AttackWorker.run_ends`). A run between the turns is searching, or `R` holds
and it is replaying, or `C` holds and it is to be cancelled (`Underway`).
-/

namespace RuleArena

/-! ## The status of a run -/

/-- The run is there, with a status of a kind. -/
def RunAt (runId : String) (S : AttackStatus → Prop) (runs : String → Option AttackRun) : Prop :=
  ∃ run, runs runId = some run ∧ S run.status

section Status

variable {runId : String} {S T : AttackStatus → Prop} {runs : String → Option AttackRun}
  {store : InMemoryRuntimeStore}

theorem RunAt.mono (h : RunAt runId S runs) (le : ∀ status, S status → T status) :
    RunAt runId T runs := by
  obtain ⟨run, found, kind⟩ := h
  exact ⟨run, found, le _ kind⟩

/-- A request for a cancellation is the only thing that others do to a run. -/
theorem RunAt.requestCancel (cancels : S .cancelRequested) (h : RunAt runId S store.runs) :
    RunAt runId S (store.orSame (store.requestCancel runId)).runs := by
  refine InMemoryRuntimeStore.orSame_of (P := fun store => RunAt runId S store.runs) h
    fun store changed h' => ?_
  obtain ⟨current, -, h'⟩ := Checked.bind_eq_ok.1 h'
  split_ifs at h'
  · obtain ⟨stored, found, ⟨rfl, -⟩ | ⟨-, -, data, -, rfl⟩⟩ :=
      InMemoryRuntimeStore.compareAndSetStatus_cases h'
    · exact h
    · exact ⟨_, InMemoryRuntimeStore.insertEntry_self .., cancels⟩
  · obtain ⟨rfl, -⟩ := Prod.mk.inj (Checked.pure_eq_ok.1 h')
    exact h

end Status

/-! ## Searches -/

namespace Search

/-- Two searches of one run, with the same runs in their stores. -/
structure SameRuns (search search' : Search) : Prop where
  runs : search'.store.runs = search.store.runs
  runId : search'.runId = search.runId

variable {search search' : Search} {ended : Option SearchEnd} {turn : Turn} {runId : String}
  {S : AttackStatus → Prop}

theorem SameRuns.trans {search'' : Search} (h : SameRuns search search')
    (h' : SameRuns search' search'') : SameRuns search search'' :=
  ⟨h'.runs.trans h.runs, h'.runId.trans h.runId⟩

theorem saveCandidate_runs {invariantId : InvariantId}
    (h : search.saveCandidate invariantId = .ok (search', ended)) : SameRuns search search' := by
  obtain ⟨⟨checkpoint, rfl⟩, -⟩ := saveCandidate_eq_ok h
  exact ⟨rfl, rfl⟩

theorem stop_runs {proposal : StopProposal} (h : search.stop proposal = .ok (search', ended)) :
    SameRuns search search' := by
  obtain ⟨persisted, hp, h⟩ := Checked.bind_eq_ok.1 h
  obtain rfl := persist_eq_ok hp
  have persisted : SameRuns search (search.persisted search.usage) := ⟨rfl, rfl⟩
  split at h
  · obtain ⟨rfl, -⟩ := Prod.mk.inj (Checked.pure_eq_ok.1 h)
    exact persisted
  · split_ifs at h
    · exact persisted.trans (saveCandidate_runs h)
    · obtain ⟨rfl, -⟩ := Prod.mk.inj (Checked.pure_eq_ok.1 h)
      exact persisted

theorem reject_runs {kind : RejectionKind} {message : String} {proposed : ActionName}
    (h : search.reject kind message proposed = .ok (search', ended)) : SameRuns search search' := by
  unfold Search.reject at h
  dsimp only at h
  split_ifs at h
  · simp only [Checked.bind_eq_ok, Checked.pure_eq_ok, Prod.mk.injEq] at h
    obtain ⟨persisted, hp, rfl, -⟩ := h
    obtain rfl := persist_eq_ok hp
    exact ⟨rfl, rfl⟩
  · obtain ⟨rfl, -⟩ := Prod.mk.inj (Checked.pure_eq_ok.1 h)
    exact ⟨rfl, rfl⟩

variable [Python]

theorem act_runs {legal : List SimAction} {proposal : ActionProposal}
    (h : search.act legal proposal = .ok (search', ended)) : SameRuns search search' := by
  unfold Search.act at h
  split at h
  · exact reject_runs h
  · cases h
  · obtain ⟨accepted, ha, h⟩ := Checked.bind_eq_ok.1 h
    obtain ⟨transition, checkpoint, -, -, rfl⟩ := accept_eq_ok ha
    obtain ⟨violated, -, h⟩ := Checked.bind_eq_ok.1 h
    cases violated with
    | none =>
      obtain ⟨rfl, -⟩ := Prod.mk.inj (Checked.pure_eq_ok.1 h)
      exact ⟨rfl, rfl⟩
    | some invariantId =>
      have saved := saveCandidate_runs h
      exact ⟨saved.runs, saved.runId⟩

/-- After the request for a cancellation a pass does not change a run. -/
theorem turn_runs (h : search.turn turn = .ok (search', ended)) :
    SameRuns (search.tick turn) search' := by
  obtain ⟨exhausted, ready, h⟩ := Checked.bind_eq_ok.1 h
  cases exhausted with
  | some reason =>
    obtain ⟨rfl, -⟩ := Prod.mk.inj (Checked.pure_eq_ok.1 h)
    exact ⟨rfl, rfl⟩
  | none =>
    have counted : SameRuns (search.tick turn) ((search.tick turn).asked turn).counted := ⟨rfl, rfl⟩
    dsimp only [ask] at h
    split at h
    · cases h
    · obtain ⟨rfl, -⟩ := Prod.mk.inj (Checked.pure_eq_ok.1 h)
      exact ⟨rfl, rfl⟩
    · next proposal asked =>
      unfold follow at h
      split_ifs at h
      · cases proposal with
        | stop proposal => exact counted.trans (stop_runs h)
        | action proposal => exact counted.trans (act_runs h)
      · obtain ⟨persisted, hp, h⟩ := Checked.bind_eq_ok.1 h
        obtain rfl := persist_eq_ok hp
        obtain ⟨rfl, -⟩ := Prod.mk.inj (Checked.pure_eq_ok.1 h)
        exact ⟨rfl, rfl⟩

omit [Python] in
theorem getD_persist_runs {persisting default : Search} {usage : BudgetUsage}
    (same : SameRuns search persisting) (same' : SameRuns search default) :
    SameRuns search ((persisting.persist usage).toOption.getD default) := by
  cases h : persisting.persist usage with
  | error e => exact same'
  | ok persisted =>
    obtain rfl := persist_eq_ok h
    exact ⟨same.runs, same.runId⟩

theorem raisedAt_runs (search : Search) (turn : Turn) :
    SameRuns (search.tick turn) (search.raisedAt turn) := by
  unfold Search.raisedAt
  dsimp only
  split
  · split_ifs
    · split
      · exact getD_persist_runs ⟨rfl, rfl⟩ ⟨rfl, rfl⟩
      · split
        · exact ⟨rfl, rfl⟩
        · split
          · next accepted ha =>
            obtain ⟨transition, checkpoint, -, -, rfl⟩ := accept_eq_ok ha
            exact ⟨rfl, rfl⟩
          · split
            · exact ⟨rfl, rfl⟩
            · exact getD_persist_runs ⟨rfl, rfl⟩ ⟨rfl, rfl⟩
    · exact ⟨rfl, rfl⟩
  · exact ⟨rfl, rfl⟩

omit [Python] in
theorem tick_runAt (cancels : turn.cancels → S .cancelRequested) (own : search.runId = runId)
    (h : RunAt runId S search.store.runs) : RunAt runId S (search.tick turn).store.runs := by
  unfold Search.tick
  dsimp only
  split_ifs with cancelled
  · rw [own]
    exact h.requestCancel (cancels cancelled)
  · exact h

/-- The passes of a search leave a run as it is, or to be cancelled. -/
theorem passes_runAt {turns : List Turn}
    (cancels : ∀ turn ∈ turns, turn.cancels → S .cancelRequested) (own : search.runId = runId)
    (h : RunAt runId S search.store.runs) : RunAt runId S (search.passes turns).1.store.runs := by
  induction turns generalizing search with
  | nil => exact h
  | cons turn turns ih =>
    obtain ⟨first, later⟩ := List.forall_mem_cons.1 cancels
    have ticked := tick_runAt first own h
    have own' : (search.tick turn).runId = runId := own
    rw [Search.passes]
    split
    · exact (raisedAt_runs search turn).runs ▸ ticked
    · next passed => exact (turn_runs passed).runs ▸ ticked
    · next passed =>
      have same := turn_runs passed
      exact ih later (same.runId.trans own') (same.runs ▸ ticked)

/-- A search begins and ends with the runs as they are. -/
theorem start_runs {spec : PolicySpec} {store : InMemoryRuntimeStore} {strategy : StrategyRun}
    {adapter : RecordedLLMAdapter}
    (h : Search.start spec runId store strategy adapter = .ok search) :
    search.store.runs = store.runs ∧ search.runId = runId := by
  unfold Search.start at h
  simp only [Checked.bind_eq_ok, Checked.pure_eq_ok, WorkerError.ofStore_eq_ok,
    InMemoryRuntimeStore.updateStrategy] at h
  obtain ⟨_, -, _, -, _, ⟨-, -, rfl⟩, rfl⟩ := h
  exact ⟨rfl, rfl⟩

omit [Python] in
theorem finish_runs {ended : SearchEnd} {store : InMemoryRuntimeStore}
    (h : search.finish ended = .ok store) : store.runs = search.store.runs := by
  unfold Search.finish at h
  simp only [Checked.bind_eq_ok, Checked.pure_eq_ok, WorkerError.ofStore_eq_ok,
    InMemoryRuntimeStore.updateStrategy] at h
  obtain ⟨_, ⟨-, -, rfl⟩, rfl⟩ := h
  rfl

end Search

/-! ## Calls of the store -/

/-- The run has a status of a kind, and a cancellation is still to be requested only if `C`. -/
structure WorkerWorld.At (C : Prop) (runId : String) (S : AttackStatus → Prop)
    (world : WorkerWorld) : Prop where
  runs : RunAt runId S world.store.runs
  told : true ∈ world.cancels → C

theorem WorkerWorld.At.mono {C : Prop} {runId : String} {S T : AttackStatus → Prop}
    {world : WorkerWorld} (h : world.At C runId S) (le : ∀ status, S status → T status) :
    world.At C runId T :=
  ⟨h.runs.mono le, h.told⟩

namespace AttackWorker

open WorkerWorld (At)

variable {α : Type} {runId : String} {C : Prop} {S F : AttackStatus → Prop}
  {status expected target : AttackStatus}

/-- If the worker returns, it leaves the run with a status of a kind. -/
def Leaves (C : Prop) (runId : String) (F : AttackStatus → Prop) (stop : Stop)
    (world : WorkerWorld) : Prop :=
  stop = .returned → At C runId F world

theorem leaves_of_ne {stop : Stop} {world : WorkerWorld} (other : stop ≠ .returned) :
    Leaves C runId F stop world := fun same => absurd same other

theorem leaves_raised {e : WorkerError} {world : WorkerWorld} :
    Leaves C runId F (.raised e) world :=
  leaves_of_ne fun same => by cases same

/-- A call finds a run as it was, or to be cancelled. -/
theorem call_at {op : InMemoryRuntimeStore → Except StoreError (InMemoryRuntimeStore × α)}
    {Q : α → (String → Option AttackRun) → Prop} (cancels : C → S .cancelRequested)
    (ok : ∀ store store' a, RunAt runId S store.runs → op store = .ok (store', a) →
      Q a store'.runs) :
    (call runId op).Meets (At C runId S)
      (fun a world => Q a world.store.runs ∧ (true ∈ world.cancels → C)) (Leaves C runId F) := by
  intro world hw
  -- the operation finds the store after a cancellation, if one is requested
  have found : RunAt runId S (if world.cancels.headD false then
      world.store.orSame (world.store.requestCancel runId) else world.store).runs := by
    split_ifs with cancelled
    · refine hw.runs.requestCancel (cancels (hw.told ?_))
      cases h : world.cancels with
      | nil => rw [h] at cancelled; cases cancelled
      | cons first rest =>
        rw [h] at cancelled
        exact List.mem_cons.2 (.inl cancelled.symm)
    · exact hw.runs
  -- the cancellations that are left are some of those there were
  have told : true ∈ world.cancels.tail → C := fun mem => hw.told (List.mem_of_mem_tail mem)
  unfold call
  dsimp only
  generalize (if world.cancels.headD false then
    world.store.orSame (world.store.requestCancel runId) else world.store) = store at found ⊢
  cases h : op store with
  | ok done =>
    obtain ⟨store', a⟩ := done
    refine ⟨?_, ?_⟩
    · rintro _ _ ⟨⟩
      exact ⟨ok store store' a found h, told⟩
    · rintro _ _ ⟨⟩
  | error e =>
    refine ⟨?_, ?_⟩
    · rintro _ _ ⟨⟩
    · rintro _ _ ⟨⟩
      exact leaves_raised

/-- A call that leaves the runs alone. -/
theorem call_same {op : InMemoryRuntimeStore → Except StoreError (InMemoryRuntimeStore × α)}
    (cancels : C → S .cancelRequested)
    (same : ∀ store store' a, op store = .ok (store', a) → store'.runs = store.runs) :
    (call runId op).Meets (At C runId S) (fun _ => At C runId S) (Leaves C runId F) :=
  (call_at (Q := fun _ => RunAt runId S) cancels fun store store' a h done =>
    (same store store' a done).symm ▸ h).mono (fun _ h => h) (fun _ _ h => ⟨h.1, h.2⟩)
    fun _ _ h => h

theorem read_same {op : InMemoryRuntimeStore → Except StoreError α}
    (cancels : C → S .cancelRequested) :
    (read runId op).Meets (At C runId S) (fun _ => At C runId S) (Leaves C runId F) := by
  refine call_same cancels fun store store' a h => ?_
  obtain ⟨_, -, h⟩ := Checked.bind_eq_ok.1 h
  obtain ⟨rfl, -⟩ := Prod.mk.inj (Checked.pure_eq_ok.1 h)
  rfl

/-- The run that is read is the one in the store. -/
theorem getRun_at (cancels : C → S .cancelRequested) :
    (read runId (·.getRun runId)).Meets (At C runId S)
      (fun run world => S run.status ∧ At C runId (· = run.status) world) (Leaves C runId F) := by
  refine (call_at (Q := fun (run : AttackRun) runs =>
      S run.status ∧ RunAt runId (· = run.status) runs)
    cancels fun store store' run h done => ?_).mono (fun _ h => h)
    (fun _ _ h => ⟨h.1.1, h.1.2, h.2⟩) fun _ _ h => h
  obtain ⟨found, hf, done⟩ := Checked.bind_eq_ok.1 done
  obtain ⟨rfl, rfl⟩ := Prod.mk.inj (Checked.pure_eq_ok.1 done)
  obtain ⟨stored, hs, kind⟩ := h
  obtain rfl : stored = found :=
    Option.some.inj (hs.symm.trans (InMemoryRuntimeStore.entry_eq_ok.1 hf))
  exact ⟨kind, stored, hs, rfl⟩

/-- A run that is to be cancelled is read as such. -/
theorem isCancelRequested_at (cancels : C → S .cancelRequested) :
    (read runId (·.isCancelRequested runId)).Meets (At C runId S)
      (fun requested => At C runId fun status => S status ∧
        (requested = true ↔ status = .cancelRequested)) (Leaves C runId F) := by
  refine (call_at (Q := fun (requested : Bool) => RunAt runId fun status => S status ∧
      (requested = true ↔ status = .cancelRequested))
    cancels fun store store' requested h done => ?_).mono (fun _ h => h)
    (fun _ _ h => ⟨h.1, h.2⟩) fun _ _ h => h
  obtain ⟨answer, ha, done⟩ := Checked.bind_eq_ok.1 done
  obtain ⟨rfl, rfl⟩ := Prod.mk.inj (Checked.pure_eq_ok.1 done)
  obtain ⟨found, hf, ha⟩ := Checked.bind_eq_ok.1 ha
  obtain ⟨stored, hs, kind⟩ := h
  obtain rfl : stored = found :=
    Option.some.inj (hs.symm.trans (InMemoryRuntimeStore.entry_eq_ok.1 hf))
  refine ⟨stored, hs, kind, ?_⟩
  rw [← Checked.pure_eq_ok.1 ha]
  exact decide_eq_true_iff

/-- A status is set, unless the run has another one than expected. -/
theorem setStatus_at {outcome : Option AttackOutcome} (cancels : C → S .cancelRequested) :
    (setStatus runId expected target outcome).Meets (At C runId S)
      (fun changed => At C runId fun status => if changed then status = target
        else S status ∧ status ≠ expected) (Leaves C runId F) := by
  refine (call_at (Q := fun (changed : Bool) => RunAt runId fun status => if changed
      then status = target else S status ∧ status ≠ expected)
    cancels fun store store' changed h done => ?_).mono (fun _ h => h)
    (fun _ _ h => ⟨h.1, h.2⟩) fun _ _ h => h
  obtain ⟨stored, hs, kind⟩ := h
  unfold InMemoryRuntimeStore.compareAndSetStatus at done
  simp only [Checked.bind_eq_ok, Checked.ensure_eq_ok, InMemoryRuntimeStore.entry_eq_ok] at done
  obtain ⟨-, -, -, -, found, hf, done⟩ := done
  obtain rfl : stored = found := Option.some.inj (hs.symm.trans hf)
  split_ifs at done with same
  · obtain ⟨rfl, rfl⟩ := Prod.mk.inj (Checked.pure_eq_ok.1 done)
    exact ⟨_, InMemoryRuntimeStore.insertEntry_self .., rfl⟩
  · obtain ⟨rfl, rfl⟩ := Prod.mk.inj (Checked.pure_eq_ok.1 done)
    exact ⟨stored, hs, kind, same⟩

/-! ## The parts of a run -/

/-- A run keeps a status until a cancellation is requested. -/
def Stays (C : Prop) (status status' : AttackStatus) : Prop :=
  status' = status ∨ status' = .cancelRequested ∧ C

/-- What a run may be doing between two turns. -/
def Underway (R C : Prop) (status : AttackStatus) : Prop :=
  status = .searching ∨ status = .replaying ∧ R ∨ status = .cancelRequested ∧ C

/-- The end of a run. -/
def Ended (status : AttackStatus) : Prop := status = .completed ∨ status = .cancelled

theorem Underway.mono {R R' C C' : Prop} (h : Underway R C status) (replays : R → R')
    (cancels : C → C') : Underway R' C' status :=
  h.imp_right (Or.imp (And.imp_right replays) (And.imp_right cancels))

theorem raising_at {x : Except WorkerError α} :
    (raising x).Meets (At C runId S) (fun _ => At C runId S) (Leaves C runId F) := by
  cases x with
  | ok a => exact .pure fun _ h => h
  | error e => exact .raise fun _ _ => leaves_raised

theorem share_at {P : WorkerWorld → Prop} {budget : Option Budget} :
    (share budget).Meets P (fun _ => P) (Leaves C runId F) :=
  share_meets fun _ _ => leaves_of_ne fun same => by cases same

theorem ensureStrategy_at {uuid : String} {strategyType : StrategyType} {budget : Budget}
    (cancels : C → S .cancelRequested) :
    (call runId (·.ensureStrategy uuid runId strategyType budget)).Meets (At C runId S)
      (fun _ => At C runId S) (Leaves C runId F) := by
  refine call_same cancels fun store store' strategy h => ?_
  unfold InMemoryRuntimeStore.ensureStrategy at h
  split at h
  · obtain ⟨_, -, h⟩ := Checked.bind_eq_ok.1 h
    obtain ⟨rfl, -⟩ := Prod.mk.inj (Checked.pure_eq_ok.1 h)
    rfl
  · obtain ⟨rfl, -⟩ := Prod.mk.inj (Checked.pure_eq_ok.1 h)
    rfl

variable [Python] {worker : AttackWorker} {visit : Visit} {R B : Prop}

theorem confirm_at {actions : List SimAction} {replayed : ReplayResult}
    (cancels : C → S .cancelRequested) (violated : List InvariantId) :
    (confirm runId visit actions replayed violated).Meets (At C runId S)
      (fun _ => At C runId S) (Leaves C runId F) := by
  induction violated with
  | nil => exact .pure fun _ h => h
  | cons invariantId rest ih =>
    rw [confirm]
    cases visit.minimized invariantId with
    | none => exact .raise fun _ _ => leaves_raised
    | some minimized =>
      refine Program.Meets.bind (call_same cancels fun store store' a h => ?_) fun _ => ih
      obtain rfl := congrArg Prod.fst (Except.ok.inj h)
      unfold InMemoryRuntimeStore.saveCounterexample
      split
      · rfl
      · rfl

theorem searchStrategy_at {strategy : StrategyRun} {turns : List Turn}
    (told : ∀ turn ∈ turns, turn.cancels → S .cancelRequested) :
    (worker.searchStrategy runId strategy turns).Meets (At C runId S) (fun _ => At C runId S)
      (Leaves C runId F) := by
  intro world hw
  unfold searchStrategy
  cases hs : Search.start worker.spec runId world.store strategy
      (worker.agents strategy.strategyType) with
  -- a search that cannot start raises
  | error e =>
    refine ⟨?_, ?_⟩
    · rintro _ _ ⟨⟩
    · rintro _ _ ⟨⟩
      exact leaves_raised
  | ok search =>
    obtain ⟨runs, own⟩ := Search.start_runs hs
    -- the passes change the run only where they tell of a cancellation
    have passed := Search.passes_runAt told own (runs ▸ hw.runs)
    dsimp only
    generalize search.passes turns = passes at passed
    obtain ⟨search, none | error | ended⟩ := passes
    · refine ⟨?_, ?_⟩
      · rintro _ _ ⟨⟩
      · rintro _ _ ⟨⟩
        exact leaves_of_ne fun same => by cases same
    · refine ⟨?_, ?_⟩
      · rintro _ _ ⟨⟩
      · rintro _ _ ⟨⟩
        exact leaves_raised
    · dsimp only
      cases hf : search.finish ended with
      | error e =>
        refine ⟨?_, ?_⟩
        · rintro _ _ ⟨⟩
        · rintro _ _ ⟨⟩
          exact leaves_raised
      | ok store =>
        refine ⟨?_, ?_⟩
        · rintro _ _ ⟨⟩
          exact ⟨(Search.finish_runs hf).symm ▸ passed, hw.told⟩
        · rintro _ _ ⟨⟩

theorem candidate_at {strategy : StrategyRun}
    (told : ∀ turn ∈ visit.turns, turn.cancels → S .cancelRequested)
    (cancels : C → S .cancelRequested) :
    (worker.candidate runId visit strategy).Meets (At C runId S) (fun _ => At C runId S)
      (Leaves C runId F) := by
  unfold candidate
  refine (read_same cancels).bind fun current => (read_same cancels).bind fun checkpoint => ?_
  split
  · exact raising_at.bind fun _ => .pure fun _ h => h
  · exact searchStrategy_at told

/-! ## Strategies with a stored candidate -/

variable {run : AttackRun} {visits : StrategyType → Visit} {ids : StrategyType → String}
  {strategyType waiting : StrategyType} {progress : Progress}

/-- A strategy has a candidate in its checkpoint. -/
def Pending (ids : StrategyType → String) (waiting : StrategyType)
    (checkpoints : String → Option Checkpoint) : Prop :=
  ∃ checkpoint ∈ checkpoints (ids waiting), checkpoint.state.candidateInvariant.isSome

/-- The strategies have their identifiers, and one has a candidate in its checkpoint. -/
def Holds (runId : String) (visits : StrategyType → Visit) (ids : StrategyType → String)
    (waiting : StrategyType) (world : WorkerWorld) : Prop :=
  world.store.records.Named runId visits ids ∧ Pending ids waiting world.store.checkpoints

omit [Python] in
/-- Two things that are known of a run. -/
theorem holds_and {m : Program Stop WorkerWorld α} {P U : WorkerWorld → Prop}
    {Q V : α → WorkerWorld → Prop} (status : m.Meets P Q (Leaves C runId F))
    (holds : m.Meets U V fun _ _ => True) :
    m.Meets (fun world => P world ∧ U world) (fun a world => Q a world ∧ V a world)
      (Leaves C runId F) :=
  (status.and holds).mono (fun _ h => h) (fun _ _ h => h) fun _ _ h => h.1

omit [Python] in
/-- What does not depend on the runs and their events holds of what is read. -/
theorem read_kept {op : InMemoryRuntimeStore → Except StoreError α}
    {I : InMemoryRuntimeStore → Prop}
    (frame : ∀ store runs events, I store → I { store with runs, events }) :
    (read runId op).Meets (fun world => I world.store)
      (fun a world => op world.store = .ok a ∧ I world.store) fun _ _ => True := by
  intro world hw
  -- a cancellation before the call changes runs and events only
  have kept : I (if world.cancels.headD false then
      world.store.orSame (world.store.requestCancel runId) else world.store) := by
    split_ifs
    · obtain ⟨runs, events, same⟩ := Search.requestCancel_frame world.store runId
      rw [same]
      exact frame _ _ _ hw
    · exact hw
  unfold AttackWorker.read call
  dsimp only
  generalize (if world.cancels.headD false then
    world.store.orSame (world.store.requestCancel runId) else world.store) = store at kept ⊢
  cases h : op store with
  | ok a =>
    refine ⟨?_, fun _ _ _ => trivial⟩
    rintro _ _ ⟨⟩
    exact ⟨h, kept⟩
  | error e =>
    refine ⟨?_, fun _ _ _ => trivial⟩
    rintro _ _ ⟨⟩

omit [Python] in
/-- A run that has failed is to replay if a strategy has a candidate, and else to search again. -/
theorem recoveryTarget_at {todo : List StrategyType} {P : (String → Option Checkpoint) → Prop} :
    (worker.recoveryTarget runId run visits todo).Meets
      (fun world => At False runId (· = .recovering) world ∧
        world.store.records.Named runId visits ids ∧ P world.store.checkpoints)
      (fun target world => (target = .searching ∨
          target = .replaying ∧ ∃ waiting, Pending ids waiting world.store.checkpoints) ∧
        At False runId (· = .recovering) world ∧
          world.store.records.Named runId visits ids ∧ P world.store.checkpoints)
      (Leaves False runId F) := by
  induction todo with
  | nil => exact .pure fun _ h => ⟨.inl rfl, h⟩
  | cons strategyType rest ih =>
    rw [recoveryTarget]
    refine share_at.bind fun budget => (holds_and (ensureStrategy_at False.elim)
      ensureStrategy_named).bind fun strategy => ?_
    have reads : (read runId fun store => .ok (store.checkpoints strategy.strategyRunId)).Meets
        (fun world => strategy.strategyRunId = ids strategyType ∧
          world.store.records.Named runId visits ids ∧ P world.store.checkpoints)
        (fun checkpoint world => checkpoint = world.store.checkpoints (ids strategyType) ∧
          world.store.records.Named runId visits ids ∧ P world.store.checkpoints)
        fun _ _ => True :=
      (read_kept (I := fun store => strategy.strategyRunId = ids strategyType ∧
        store.records.Named runId visits ids ∧ P store.checkpoints) fun _ _ _ h => h).mono
        (fun _ h => h) (fun _ _ h => ⟨(Except.ok.inj h.1).symm.trans (congrArg _ h.2.1), h.2.2⟩)
          fun _ _ h => h
    refine (holds_and (read_same False.elim) reads).bind fun checkpoint => ?_
    split
    · next stored =>
      exact .pure fun world h => ⟨.inr ⟨rfl, strategyType, _, h.2.1.symm, rfl⟩, h.1, h.2.2⟩
    · exact ih.mono (fun _ h => ⟨h.1, h.2.2⟩) (fun _ _ h => h) fun _ _ h => h

end AttackWorker

/-! ## The end of a run -/

namespace AttackWorker

open WorkerWorld (At)

variable [Python] {worker : AttackWorker} {runId : String} {visits : StrategyType → Visit}
  {ids : StrategyType → String} {run : AttackRun} {waiting : StrategyType} {R : Prop}

end AttackWorker

/-- The first action of a strategy, which was stored with a candidate. -/
def foundAction : SimAction where
  actionType := .createUser
  arguments := [("initial_balance", .str "500.00")]
  idempotencyKey := some "run:VALUE_FLOW:step:1"

/-- What the checkpoint of the strategy says. -/
def foundState : CheckpointState where
  actions := [serializeAction foundAction]
  usage := {}
  modelConfigHash := "hash"
  promptVersion := "prompt"
  candidateInvariant := some .netPaidNonNegative

end RuleArena
