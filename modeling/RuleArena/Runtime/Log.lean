import RuleArena.Runtime.Store

/-!
# The log of a run

The events of a run are appended to its log, numbered from one: their cursors.
What an operation does to the runs and their logs is said once (`Change`); what
holds of the logs of all stores in use follows from it.

* `InMemoryRuntimeStore.Reachable.logged`: the log of a run is numbered, and the change to
  the status of a run that has ended is in its log;
* `InMemoryRuntimeStore.Change.log_prefix`: a log only grows.
-/

namespace RuleArena

/-- The identifiers of new records are new. -/
def StoreOp.Fresh (store : InMemoryRuntimeStore) : StoreOp → Prop
  | .createRun uuid _ => store.runs uuid = none ∧ store.events uuid = none
  | .ensureStrategy uuid .. => store.strategies uuid = none
  | _ => True

instance (store : InMemoryRuntimeStore) (op : StoreOp) : Decidable (op.Fresh store) := by
  cases op <;> unfold StoreOp.Fresh <;> infer_instance

namespace InMemoryRuntimeStore

variable {store : InMemoryRuntimeStore} {runId : String}

/-- The stores that operations lead to. -/
inductive Reachable : InMemoryRuntimeStore → Prop
  | empty : Reachable {}
  | apply {store : InMemoryRuntimeStore} (op : StoreOp) (fresh : op.Fresh store) (before : Reachable store) :
    Reachable (store.apply op)

/-- The log of a run. -/
def log (store : InMemoryRuntimeStore) (runId : String) : List RuntimeEvent :=
  (store.events runId).getD []

@[simp] theorem insertEntry_self {κ α : Type} [DecidableEq κ] (entries : κ → Option α) (key : κ)
    (value : α) : insertEntry entries key value key = some value :=
  Function.update_self ..

theorem insertEntry_of_ne {κ α : Type} [DecidableEq κ] {entries : κ → Option α} {key key' : κ}
    (h : key' ≠ key) (value : α) : insertEntry entries key value key' = entries key' :=
  Function.update_of_ne h ..

/-- The event that tells that a run has changed to a status. -/
def ChangedTo (status : AttackStatus) (event : RuntimeEvent) : Prop :=
  event.eventType = "STATUS_CHANGED" ∧ event.data.lookup "to" = some (.str status.value)

/-- The events of a run are numbered from one, and the change to the status of a run
    that has ended is among them. -/
structure Logged (store : InMemoryRuntimeStore) (runId : String) : Prop where
  numbered : (store.log runId).map RuntimeEvent.cursor =
    List.range' 1 (store.log runId).length
  ended : ∀ run ∈ store.runs runId, run.status.terminal = true →
    ∃ event ∈ store.log runId, ChangedTo run.status event
  kept : (store.runs runId).isSome → (store.events runId).isSome

theorem log_appendEvent (runId' eventType : String) (data : List (String × Json)) :
    (store.appendEvent runId' eventType data).1.log runId = store.log runId ++
      if runId' = runId then
        [{ cursor := (store.log runId).length + 1, runId, eventType, data }] else [] := by
  unfold appendEvent log
  split_ifs with h
  · subst h
    simp
  · simp [insertEntry_of_ne (Ne.symm h)]

theorem isSome_events_appendEvent (runId' eventType : String) (data : List (String × Json))
    (h : (store.events runId).isSome) :
    ((store.appendEvent runId' eventType data).1.events runId).isSome := by
  unfold appendEvent
  by_cases hr : runId = runId'
  · subst hr
    simp
  · simpa [insertEntry_of_ne hr] using h

theorem Logged.appendEvent (logged : store.Logged runId) (runId' eventType : String)
    (data : List (String × Json)) : (store.appendEvent runId' eventType data).1.Logged runId := by
  refine ⟨?_, fun run hr terminal => ?_, fun kept => ?_⟩
  · rw [log_appendEvent]
    split_ifs
    · rw [List.map_append, List.length_append, List.length_singleton, List.range'_1_concat,
        logged.numbered, Nat.add_comm 1]
      rfl
    · simpa using logged.numbered
  · obtain ⟨event, hm, changed⟩ := logged.ended run hr terminal
    rw [log_appendEvent]
    exact ⟨event, List.mem_append_left _ hm, changed⟩
  · exact isSome_events_appendEvent runId' eventType data (logged.kept kept)

/-- An operation that changes neither runs nor events. -/
theorem Logged.congr {store' : InMemoryRuntimeStore} (logged : store.Logged runId)
    (runs : store'.runs = store.runs) (events : store'.events = store.events) :
    store'.Logged runId := by
  obtain ⟨numbered, ended, kept⟩ := logged
  unfold log at numbered ended
  constructor <;> simpa only [log, runs, events]

@[simp] theorem entry_eq_ok {α : Type} {value : Option α} {a : α} :
    entry value = .ok a ↔ value = some a := by
  cases value with
  | none => simp [entry]
  | some b => simp [entry, Checked.pure_eq_ok]

/-- What holds of a store and of all that an operation returns holds after it. -/
theorem orSame_of {α : Type} {result : Except StoreError (InMemoryRuntimeStore × α)}
    {P : InMemoryRuntimeStore → Prop} (same : P store)
    (ok : ∀ store' a, result = .ok (store', a) → P store') : P (store.orSame result) := by
  match result with
  | .ok (store', a) => exact ok store' a rfl
  | .error _ => exact same

/-- A known job key gives back its run, and a new one makes a run with a log of its own. -/
theorem createRun_cases {uuid : String} {request : RunRequest} {store' : InMemoryRuntimeStore}
    {item : AttackRun} (h : store.createRun uuid request = .ok (store', item)) :
    (∃ runId, store.jobs request.jobKey = some runId ∧ store.runs runId = some item ∧
      store' = store) ∨
    store.jobs request.jobKey = none ∧ item.status = .ready ∧ item.runId = uuid ∧
      item.ruleVersionId = request.ruleVersionId ∧
      store'.jobs = insertEntry store.jobs request.jobKey uuid ∧
      store'.runs = insertEntry store.runs uuid item ∧
      ∃ data, store'.events = (InMemoryRuntimeStore.appendEvent
        { store with events := insertEntry store.events uuid [] } uuid "RUN_CREATED"
          data).1.events := by
  unfold createRun at h
  split at h
  · next runId known =>
    simp only [Checked.bind_eq_ok, Checked.pure_eq_ok, Prod.mk.injEq, entry_eq_ok] at h
    obtain ⟨_, found, rfl, rfl⟩ := h
    exact .inl ⟨runId, known, found, rfl⟩
  · next unknown =>
    obtain ⟨rfl, rfl⟩ := Prod.mk.inj (Checked.pure_eq_ok.1 h)
    exact .inr ⟨unknown, rfl, rfl, rfl, rfl, rfl, _, rfl⟩

/-- A change of the status, from the expected one, is logged. -/
theorem compareAndSetStatus_cases {expected target : AttackStatus}
    {outcome : Option AttackOutcome} {store' : InMemoryRuntimeStore} {changed : Bool}
    (h : store.compareAndSetStatus runId expected target outcome = .ok (store', changed)) :
    ∃ run, store.runs runId = some run ∧ (store' = store ∧ run.status ≠ expected ∨
      run.status = expected ∧ target ∈ expected.allowedTransitions ∧
      ∃ data, data.lookup "to" = some (.str target.value) ∧
        store' = (InMemoryRuntimeStore.appendEvent { store with
          runs := insertEntry store.runs runId { run with status := target, outcome } }
          runId "STATUS_CHANGED" data).1) := by
  unfold compareAndSetStatus at h
  simp only [Checked.bind_eq_ok, Checked.ensure_eq_ok, entry_eq_ok] at h
  obtain ⟨-, allowed, -, -, run, found, h⟩ := h
  refine ⟨run, found, ?_⟩
  split_ifs at h with expects
  · obtain ⟨rfl, -⟩ := Prod.mk.inj (Checked.pure_eq_ok.1 h)
    exact .inr ⟨expects, allowed, _, rfl, rfl⟩
  · obtain ⟨rfl, -⟩ := Prod.mk.inj (Checked.pure_eq_ok.1 h)
    exact .inl ⟨rfl, expects⟩

/-- What an operation does with the runs and their logs: it keeps them, or appends an
    event, or makes a run, or changes the status of one. The last two are logged. -/
inductive Change (store store' : InMemoryRuntimeStore) : Prop
  | kept (runs : store'.runs = store.runs) (events : store'.events = store.events)
  | appended (runId eventType : String) (data : List (String × Json))
    (runs : store'.runs = store.runs)
    (events : store'.events = (store.appendEvent runId eventType data).1.events)
  | created (uuid : String) (item : AttackRun) (data : List (String × Json))
    (fresh : store.runs uuid = none ∧ store.events uuid = none) (ready : item.status = .ready)
    (runs : store'.runs = insertEntry store.runs uuid item)
    (events : store'.events = (InMemoryRuntimeStore.appendEvent
      { store with events := insertEntry store.events uuid [] } uuid "RUN_CREATED" data).1.events)
  | changed (runId : String) (run : AttackRun) (target : AttackStatus)
    (outcome : Option AttackOutcome) (data : List (String × Json))
    (found : store.runs runId = some run) (allowed : target ∈ run.status.allowedTransitions)
    (runs : store'.runs = insertEntry store.runs runId { run with status := target, outcome })
    (named : data.lookup "to" = some (.str target.value))
    (events : store'.events = (store.appendEvent runId "STATUS_CHANGED" data).1.events)

/-- An operation of which only the strategies and their records change. -/
theorem Change.same : Change store store := .kept rfl rfl

theorem change_apply {op : StoreOp} (fresh : op.Fresh store) : Change store (store.apply op) := by
  cases op with
  | createRun uuid request =>
    refine orSame_of (P := Change store) .same fun store' item h => ?_
    rcases createRun_cases h with ⟨-, -, -, rfl⟩ | ⟨-, ready, -, -, -, runs, data, events⟩
    · exact .same
    · exact .created uuid item data fresh ready runs events
  | compareAndSetStatus runId expected target outcome =>
    refine orSame_of (P := Change store) .same fun store' changed h => ?_
    obtain ⟨run, found, ⟨rfl, -⟩ | ⟨rfl, allowed, data, named, rfl⟩⟩ :=
      compareAndSetStatus_cases h
    · exact .same
    · exact .changed runId run target outcome data found allowed rfl named rfl
  | ensureStrategy uuid attackRunId strategyType budget =>
    refine orSame_of (P := Change store) .same fun store' strategy h => ?_
    unfold ensureStrategy at h
    split at h
    · simp only [Checked.bind_eq_ok, Checked.pure_eq_ok, Prod.mk.injEq] at h
      obtain ⟨-, -, rfl, -⟩ := h
      exact .same
    · obtain ⟨rfl, -⟩ := Prod.mk.inj (Checked.pure_eq_ok.1 h)
      exact .kept rfl rfl
  | updateStrategy strategy =>
    refine orSame_of (P := Change store) .same fun store' _ h => ?_
    simp only [updateStrategy, Checked.bind_eq_ok, Checked.pure_eq_ok, Prod.mk.injEq] at h
    obtain ⟨-, -, rfl, -⟩ := h
    exact .kept rfl rfl
  | saveCheckpoint strategyRunId state expectedVersion =>
    refine orSame_of (P := Change store) .same fun store' _ h => ?_
    simp only [saveCheckpoint, Checked.bind_eq_ok, Checked.pure_eq_ok, Prod.mk.injEq] at h
    obtain ⟨-, -, rfl, -⟩ := h
    exact .kept rfl rfl
  | appendEvent runId eventType data => exact .appended runId eventType data rfl rfl
  | saveCounterexample record =>
    unfold apply saveCounterexample
    dsimp only
    split
    · exact .same
    · exact .kept rfl rfl

theorem log_congr {store' : InMemoryRuntimeStore} (events : store'.events = store.events) :
    store'.log runId = store.log runId := by
  rw [log, log, events]

/-- The log of a run only grows. -/
theorem Change.log_prefix {store' : InMemoryRuntimeStore} (change : Change store store') :
    store.log runId <+: store'.log runId := by
  cases change with
  | kept _ events => exact (log_congr events).symm ▸ List.prefix_rfl
  | appended runId' eventType data _ events =>
    rw [log_congr events, log_appendEvent]
    exact List.prefix_append ..
  | created uuid item data fresh _ _ events =>
    rw [log_congr events, log_appendEvent]
    refine List.IsPrefix.trans ?_ (List.prefix_append ..)
    -- The log that is replaced by the empty one is empty: the identifier is new.
    by_cases hr : runId = uuid
    · subst hr
      simp [log, fresh.2]
    · simp [log, insertEntry_of_ne hr]
  | changed _ _ _ _ data _ _ _ _ events =>
    rw [log_congr events, log_appendEvent]
    exact List.prefix_append ..

theorem Change.isSome_runs {store' : InMemoryRuntimeStore} (change : Change store store')
    (known : (store.runs runId).isSome) : (store'.runs runId).isSome := by
  have insert (runId' : String) (run : AttackRun) :
      (insertEntry store.runs runId' run runId).isSome := by
    by_cases hr : runId = runId'
    · rw [hr, insertEntry_self]
      rfl
    · rwa [insertEntry_of_ne hr]
  cases change with
  | kept runs | appended _ _ _ runs => rwa [runs]
  | created _ _ _ _ _ runs | changed _ _ _ _ _ _ _ runs =>
    rw [runs]
    exact insert ..

/-- Operations keep the numbers of the events, and the log of the statuses. -/
theorem Logged.change {store' : InMemoryRuntimeStore} (logged : store.Logged runId)
    (change : Change store store') : store'.Logged runId := by
  cases change with
  | kept runs events => exact logged.congr runs events
  | appended runId' eventType data runs events =>
    exact (logged.appendEvent runId' eventType data).congr runs events
  | created uuid item data fresh ready runs events =>
    suffices new : Logged { store with
        runs := insertEntry store.runs uuid item
        events := insertEntry store.events uuid [] } runId from
      (new.appendEvent uuid "RUN_CREATED" data).congr runs events
    by_cases hr : runId = uuid
    · subst hr
      refine ⟨by simp [log], fun run hrun terminal => ?_, by simp⟩
      simp only [insertEntry_self, Option.mem_def, Option.some.injEq] at hrun
      rw [← hrun, ready] at terminal
      cases terminal
    · obtain ⟨numbered, ended, kept⟩ := logged
      constructor <;> simpa only [log, insertEntry_of_ne hr]
  | changed runId' run target outcome data found allowed runs named events =>
    have appended := logged.appendEvent runId' "STATUS_CHANGED" data
    refine ⟨?_, fun run' hrun terminal => ?_, fun _ => ?_⟩
    · rw [log_congr events]
      exact appended.numbered
    · rw [log_congr events]
      by_cases hr : runId = runId'
      · -- The event that is appended tells of this change.
        subst hr
        rw [runs, insertEntry_self, Option.mem_def, Option.some.injEq] at hrun
        subst hrun
        rw [log_appendEvent, if_pos rfl]
        exact ⟨_, List.mem_append_right _ (List.mem_singleton_self _), rfl, named⟩
      · rw [runs, insertEntry_of_ne hr] at hrun
        exact appended.ended run' hrun terminal
    · rw [events]
      by_cases hr : runId = runId'
      · subst hr
        exact isSome_events_appendEvent _ _ _ (logged.kept (by rw [found]; rfl))
      · exact isSome_events_appendEvent _ _ _
          (logged.kept (by rwa [runs, insertEntry_of_ne hr] at *))

/-- Every log is numbered, and tells of the end of its run. -/
theorem Reachable.logged (reachable : Reachable store) (runId : String) : store.Logged runId := by
  induction reachable with
  | empty => exact ⟨rfl, nofun, nofun⟩
  | apply op fresh _ ih => exact ih.change (change_apply fresh)

/-! ## Cursors of a log -/

/-- In a numbered list the events above a cursor are those after the first ones. -/
theorem filter_cursor_eq_drop {events : List RuntimeEvent} {n : Nat} (cursor : Nat)
    (numbered : events.map RuntimeEvent.cursor = List.range' (n + 1) events.length) :
    events.filter (fun event => cursor < event.cursor) = events.drop (cursor - n) := by
  induction events generalizing n with
  | nil => simp
  | cons event events ih =>
    rw [List.map_cons, List.length_cons, List.range'_succ, List.cons.injEq] at numbered
    obtain ⟨head, tail⟩ := numbered
    rw [List.filter_cons, ih tail, head]
    by_cases h : cursor ≤ n
    · -- The head is above the cursor, and so are the others.
      rw [if_pos (by simpa using by omega), Nat.sub_eq_zero_of_le h,
        Nat.sub_eq_zero_of_le (by omega)]
      rfl
    · rw [if_neg (by simpa using by omega), show cursor - n = cursor - (n + 1) + 1 by omega]
      rfl

/-- The cursor after a list of events has been sent. -/
def cursorAfter (cursor : Nat) (events : List RuntimeEvent) : Nat :=
  events.foldl (fun _ event => event.cursor) cursor

theorem cursorAfter_of_numbered {events : List RuntimeEvent} {n : Nat}
    (numbered : events.map RuntimeEvent.cursor = List.range' (n + 1) events.length) :
    cursorAfter n events = n + events.length := by
  induction events generalizing n with
  | nil => rfl
  | cons event events ih =>
    rw [List.map_cons, List.length_cons, List.range'_succ, List.cons.injEq] at numbered
    obtain ⟨head, tail⟩ := numbered
    calc cursorAfter n (event :: events)
      _ = cursorAfter (n + 1) events := by rw [← head]; rfl
      _ = n + (event :: events).length := by rw [ih tail, List.length_cons]; omega

theorem Logged.filter_cursor (logged : store.Logged runId) (cursor : Nat) :
    (store.log runId).filter (fun event => cursor < event.cursor) =
      (store.log runId).drop cursor :=
  filter_cursor_eq_drop (n := 0) cursor (by simpa using logged.numbered)

theorem Logged.cursorAfter_drop (logged : store.Logged runId) (cursor : Nat) :
    cursorAfter cursor ((store.log runId).drop cursor) = max cursor (store.log runId).length := by
  rw [cursorAfter_of_numbered, List.length_drop]
  · omega
  · rw [List.map_drop, logged.numbered, List.drop_range', List.length_drop, Nat.mul_one,
      Nat.add_comm 1]

theorem eventsAfter_eq (logged : store.Logged runId) (known : (store.runs runId).isSome)
    (cursor : Nat) : store.eventsAfter runId cursor = .ok ((store.log runId).drop cursor) := by
  obtain ⟨values, hv⟩ := Option.isSome_iff_exists.1 (logged.kept known)
  rw [← logged.filter_cursor, eventsAfter, log, hv]
  rfl

end InMemoryRuntimeStore

end RuleArena
