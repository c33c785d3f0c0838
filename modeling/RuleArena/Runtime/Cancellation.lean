import RuleArena.Runtime.Postgres
import RuleArena.Runtime.Dispatch
import RuleArena.Runtime.Search

/-!
# Requests to cancel

To request the cancellation of a run is to read its status, and then to change it
from the one that was read. Both stores do so, and in both the worker may change
the status in between: from `SEARCHING` to `REPLAYING` when it replays a
candidate, and back. A request for a run that can be cancelled all the time
succeeds exactly if the status is the one that was read when it is compared. In
the database that is when the update looks for the row among the committed ones,
and again when it has waited for the lock of the row (`requestCancel_iff`).
-/

namespace RuleArena

/-- The statuses from which a run can be cancelled. -/
def AttackStatus.cancellable : List AttackStatus := [.ready, .searching, .replaying]

theorem AttackStatus.cancelRequested_mem {status : AttackStatus} (h : status ∈ cancellable) :
    .cancelRequested ∈ status.allowedTransitions := by
  revert status
  decide

/-- A request to cancel comes without an outcome. -/
theorem AttackStatus.terminal_cancelRequested :
    cancelRequested.terminal = (none : Option AttackOutcome).isSome := rfl

namespace InMemoryRuntimeStore

variable {store : InMemoryRuntimeStore} {runId : String}

/-- `request_cancel`, with the operations of others between its read and its comparison. -/
def requestCancelDuring (store : InMemoryRuntimeStore) (ops : List StoreOp) (runId : String) :
    Except StoreError (InMemoryRuntimeStore × Bool) := do
  let run ← store.getRun runId
  if run.status ∈ AttackStatus.cancellable then
    (store.after ops).compareAndSetStatus runId run.status .cancelRequested none
  else return (store.after ops, false)

/-- Without others it is the request of the model. -/
theorem requestCancelDuring_nil (store : InMemoryRuntimeStore) (runId : String) :
    store.requestCancelDuring [] runId = store.requestCancel runId := rfl

/-- The run has a status from which it can be cancelled. -/
def Cancellable (store : InMemoryRuntimeStore) (runId : String) : Prop :=
  ∃ run, store.runs runId = some run ∧ run.status ∈ AttackStatus.cancellable

/-- The request has been granted, and the run is to be cancelled. -/
def Granted (runId : String) (result : Except StoreError (InMemoryRuntimeStore × Bool)) : Prop :=
  ∃ store run, result = .ok (store, true) ∧ store.runs runId = some run ∧
    run.status = .cancelRequested

/-- A status is changed if it is the expected one. -/
theorem granted_compareAndSetStatus {run : AttackRun} (known : store.runs runId = some run)
    {expected : AttackStatus} (allowed : .cancelRequested ∈ expected.allowedTransitions) :
    Granted runId (store.compareAndSetStatus runId expected .cancelRequested none) ↔
      run.status = expected := by
  have entry : entry (store.runs runId) = (.ok run : Except StoreError AttackRun) := by
    rw [known]
    rfl
  unfold compareAndSetStatus
  rw [Checked.ensure_of_pos allowed, Checked.ensure_of_pos AttackStatus.terminal_cancelRequested,
    entry]
  simp only [Checked.ok_bind]
  constructor
  · rintro ⟨store', run', h, -⟩
    by_contra other
    rw [if_neg other] at h
    cases h
  · intro same
    rw [if_pos same]
    exact ⟨_, { run with status := .cancelRequested, outcome := none }, rfl,
      Function.update_self .., rfl⟩

/-- The request in the in-memory store. -/
theorem requestCancel_iff_same {ops : List StoreOp}
    (stays : ∀ k ≤ ops.length, (store.after (ops.take k)).Cancellable runId) :
    Granted runId (store.requestCancelDuring ops runId) ↔
      ((store.after ops).runs runId).map AttackRun.status =
        (store.runs runId).map AttackRun.status := by
  obtain ⟨run, known, status⟩ := stays 0 (Nat.zero_le _)
  obtain ⟨last, found, -⟩ := stays ops.length le_rfl
  rw [List.take_length] at found
  have read : store.getRun runId = .ok run := by
    change entry (store.runs runId) = _
    rw [show store.runs runId = some run from known]
    rfl
  rw [requestCancelDuring, read, Checked.ok_bind, if_pos status,
    granted_compareAndSetStatus found (AttackStatus.cancelRequested_mem status), found,
    show store.runs runId = some run from known, Option.map_some, Option.map_some,
    Option.some_inj]

end InMemoryRuntimeStore

/-! ## In the database -/

/-- A move that is not one of the transaction. -/
def WorldMove.Other (transaction : Nat) : WorldMove → Prop
  | .start other _ | .advance other | .rollback other => other ≠ transaction
  | .allocate | .read => True

namespace PostgresRuntimeStore

variable {store : PostgresRuntimeStore} {transaction : Nat}

theorem transactions_rollback {other : Nat} (h : other ≠ transaction) :
    (store.rollback other).transactions transaction = store.transactions transaction :=
  Function.update_of_ne h.symm _ _

theorem transactions_start {other : Nat} (h : other ≠ transaction) (begun : Transaction) :
    (store.start other begun).transactions transaction = store.transactions transaction := by
  cases begun with
  | appending => exact Function.update_of_ne h.symm _ _
  | updating =>
    unfold start
    dsimp only
    split_ifs
    · exact Function.update_of_ne h.symm _ _
    · rfl
  | waiting | updated | inserted => rfl

theorem transactions_update {other : Nat} (h : other ≠ transaction)
    (expected target : AttackStatus) (outcome : Option AttackOutcome) :
    (store.update other expected target outcome).transactions transaction =
      store.transactions transaction := by
  unfold update
  split_ifs
  · exact Function.update_of_ne h.symm _ _
  · exact transactions_rollback h

theorem transactions_advance {other : Nat} (h : other ≠ transaction) :
    (store.advance other).transactions transaction = store.transactions transaction := by
  unfold advance
  cases store.transactions other with
  | none => rfl
  | some current =>
    cases current with
    | appending | updated => exact Function.update_of_ne h.symm _ _
    | updating =>
      dsimp only
      split_ifs
      · exact Function.update_of_ne h.symm _ _
      · exact transactions_update h ..
    | waiting =>
      dsimp only
      split_ifs
      · rfl
      · exact transactions_update h ..
    | inserted event changed =>
      cases changed <;> exact transactions_rollback h

end PostgresRuntimeStore

namespace World

variable {world : World} {transaction : Nat}

/-- Others leave a transaction where it is. -/
theorem transactions_step {move : WorldMove} (other : move.Other transaction) :
    (world.step move).store.transactions transaction = world.store.transactions transaction := by
  cases move with
  | start other' begun =>
    unfold step
    dsimp only
    split_ifs
    · rfl
    · exact PostgresRuntimeStore.transactions_start other begun
  | advance other' => exact PostgresRuntimeStore.transactions_advance other
  | rollback other' => exact PostgresRuntimeStore.transactions_rollback other
  | allocate | read => rfl

theorem transactions_after {moves : List WorldMove}
    (others : ∀ move ∈ moves, move.Other transaction) :
    (world.after moves).store.transactions transaction = world.store.transactions transaction := by
  induction moves generalizing world with
  | nil => rfl
  | cons move moves ih =>
    exact (ih fun move h => others move (List.mem_cons_of_mem _ h)).trans
      (transactions_step (others move List.mem_cons_self))

/-- `request_cancel` has read the status, and its update looks for the row. -/
def beginUpdate (world : World) (transaction : Nat) (read : AttackStatus) : World :=
  (world.step (.start transaction (.updating read .cancelRequested none))).step
    (.advance transaction)

/-- The row has been updated: the event is inserted, and the transaction commits. -/
def finishUpdate (world : World) (inserting committing : List WorldMove) (transaction : Nat) :
    World :=
  (((world.after inserting).step (.advance transaction)).after committing).step
    (.advance transaction)

/-- What the others do while a cancellation is requested: between the read and the update,
    while the update waits, and then before the insert and before the commit. -/
structure Meanwhile where
  before : List WorldMove
  waiting : List WorldMove := []
  inserting : List WorldMove := []
  committing : List WorldMove := []

/-- The transaction of the request is its own. -/
structure Meanwhile.Others (meanwhile : Meanwhile) (transaction : Nat) : Prop where
  waiting : ∀ move ∈ meanwhile.waiting, move.Other transaction
  inserting : ∀ move ∈ meanwhile.inserting, move.Other transaction
  committing : ∀ move ∈ meanwhile.committing, move.Other transaction

/-- The update, when it has got the row or has not found it: it waits if another transaction
    holds the lock. -/
def updated (world : World) (meanwhile : Meanwhile) (transaction : Nat) (read : AttackStatus) :
    World :=
  if world.store.status = read ∧ world.store.lock.isSome then
    ((world.beginUpdate transaction read).after meanwhile.waiting).step (.advance transaction)
  else world.beginUpdate transaction read

/-- `request_cancel` among the moves of others. There is no reply as long as the update waits. -/
def requestCancelDuring (world : World) (meanwhile : Meanwhile) (transaction : Nat) :
    World × Option Bool :=
  if world.store.status ∈ AttackStatus.cancellable then
    let updated := (world.after meanwhile.before).updated meanwhile transaction world.store.status
    match updated.store.transactions transaction with
    | none => (updated, some false)
    | some (.updated ..) =>
      (updated.finishUpdate meanwhile.inserting meanwhile.committing transaction, some true)
    | some _ => (updated, none)
  else (world.after meanwhile.before, some false)

/-- The request has been granted, and the run is to be cancelled. -/
def Granted (result : World × Option Bool) : Prop :=
  result.2 = some true ∧ result.1.store.status = .cancelRequested

/-- The update finds the row with the status that was read, and, if it has to wait for the row,
    finds it with this status again. -/
def Finds (world : World) (meanwhile : Meanwhile) (transaction : Nat) (read : AttackStatus) :
    Prop :=
  world.store.status = read ∧ (world.store.lock.isSome →
    ((world.beginUpdate transaction read).after meanwhile.waiting).store.status = read)

/-- A transaction that nobody has begun begins the update. -/
theorem step_updating {read : AttackStatus} (allowed : read ∈ AttackStatus.cancellable)
    (fresh : world.store.transactions transaction = none) :
    world.step (.start transaction (.updating read .cancelRequested none)) =
      { world with store := { world.store with
          transactions := insertEntry world.store.transactions transaction
            (.updating read .cancelRequested none) } } := by
  unfold step
  dsimp only
  rw [fresh, if_neg (by simp), PostgresRuntimeStore.start,
    if_pos ⟨AttackStatus.cancelRequested_mem allowed, AttackStatus.terminal_cancelRequested⟩]

/-- A row that is there and locked has to be waited for. -/
theorem beginUpdate_waits {read : AttackStatus} (allowed : read ∈ AttackStatus.cancellable)
    (fresh : world.store.transactions transaction = none) (found : world.store.status = read)
    (locked : world.store.lock.isSome) :
    (world.beginUpdate transaction read).store.transactions transaction =
      some (.waiting read .cancelRequested none) := by
  rw [beginUpdate, step_updating allowed fresh]
  simp only [step, PostgresRuntimeStore.advance, insertEntry, Function.update_self]
  rw [if_pos ⟨found, locked⟩]
  exact Function.update_self ..

/-- Otherwise the update changes the row, or finds none. -/
theorem beginUpdate_now {read : AttackStatus} (allowed : read ∈ AttackStatus.cancellable)
    (fresh : world.store.transactions transaction = none)
    (now : ¬ (world.store.status = read ∧ world.store.lock.isSome)) :
    (world.beginUpdate transaction read).store.transactions transaction =
      if world.store.status = read then some (.updated read .cancelRequested none) else none := by
  rw [beginUpdate, step_updating allowed fresh]
  simp only [step, PostgresRuntimeStore.advance, insertEntry, Function.update_self]
  rw [if_neg now, PostgresRuntimeStore.update]
  dsimp only
  split_ifs
  · exact Function.update_self ..
  · exact Function.update_self ..

/-- An update that waits goes on when the lock has been given back. -/
theorem advance_waiting {read : AttackStatus}
    (waits : world.store.transactions transaction = some (.waiting read .cancelRequested none)) :
    (world.step (.advance transaction)).store.transactions transaction =
      if world.store.lock.isSome then some (.waiting read .cancelRequested none)
      else if world.store.status = read then some (.updated read .cancelRequested none)
      else none := by
  simp only [step, PostgresRuntimeStore.advance, waits]
  split_ifs with locked same
  · exact waits
  · rw [PostgresRuntimeStore.update, if_pos same]
    exact Function.update_self ..
  · rw [PostgresRuntimeStore.update, if_neg same]
    exact Function.update_self ..

/-- Where the update has got to: it still waits, or it has changed the row exactly if it has
    found it. -/
theorem transactions_updated {meanwhile : Meanwhile} (others : meanwhile.Others transaction)
    {read : AttackStatus} (allowed : read ∈ AttackStatus.cancellable)
    (fresh : world.store.transactions transaction = none) :
    (world.updated meanwhile transaction read).store.transactions transaction =
        some (.waiting read .cancelRequested none) ∨
      (world.Finds meanwhile transaction read ∧
        (world.updated meanwhile transaction read).store.transactions transaction =
          some (.updated read .cancelRequested none)) ∨
      (¬ world.Finds meanwhile transaction read ∧
        (world.updated meanwhile transaction read).store.transactions transaction = none) := by
  unfold updated Finds
  by_cases waits : world.store.status = read ∧ world.store.lock.isSome
  · obtain ⟨found, locked⟩ := waits
    rw [if_pos ⟨found, locked⟩, advance_waiting ((transactions_after others.waiting).trans
      (beginUpdate_waits allowed fresh found locked))]
    split_ifs with held same
    · exact .inl rfl
    · exact .inr (.inl ⟨⟨found, fun _ => same⟩, rfl⟩)
    · exact .inr (.inr ⟨fun finds => same (finds.2 locked), rfl⟩)
  · rw [if_neg waits, beginUpdate_now allowed fresh waits]
    by_cases found : world.store.status = read
    · rw [if_pos found]
      exact .inr (.inl ⟨⟨found, fun locked => absurd ⟨found, locked⟩ waits⟩, rfl⟩)
    · rw [if_neg found]
      exact .inr (.inr ⟨fun finds => found finds.1, rfl⟩)

/-- A transaction that has updated the row commits the new status. -/
theorem status_finishUpdate {inserting committing : List WorldMove} {read : AttackStatus}
    (inserts : ∀ move ∈ inserting, move.Other transaction)
    (commits : ∀ move ∈ committing, move.Other transaction)
    (changed : world.store.transactions transaction =
      some (.updated read .cancelRequested none)) :
    (world.finishUpdate inserting committing transaction).store.status = .cancelRequested := by
  have inserted : ∃ event, (((world.after inserting).step (.advance transaction)).after
      committing).store.transactions transaction =
        some (.inserted event (some (.cancelRequested, none))) := by
    rw [transactions_after commits]
    simp only [step, PostgresRuntimeStore.advance, transactions_after inserts, changed]
    exact ⟨_, Function.update_self ..⟩
  obtain ⟨event, inserted⟩ := inserted
  rw [finishUpdate, step]
  simp only [PostgresRuntimeStore.advance, inserted, PostgresRuntimeStore.commit]

/-- The request in the database. -/
theorem requestCancel_iff_same {meanwhile : Meanwhile} (others : meanwhile.Others transaction)
    (status : world.store.status ∈ AttackStatus.cancellable)
    (fresh : (world.after meanwhile.before).store.transactions transaction = none)
    (replies : (world.requestCancelDuring meanwhile transaction).2 ≠ none) :
    Granted (world.requestCancelDuring meanwhile transaction) ↔
      (world.after meanwhile.before).Finds meanwhile transaction world.store.status := by
  rw [requestCancelDuring, if_pos status] at replies ⊢
  rcases transactions_updated others status fresh with waits | ⟨finds, changed⟩ | ⟨misses, none⟩
  · simp only [waits] at replies
    exact absurd rfl replies
  · simp only [changed]
    exact iff_of_true ⟨rfl, status_finishUpdate others.inserting others.committing changed⟩ finds
  · simp only [none]
    exact iff_of_false (fun granted => Bool.noConfusion (Option.some.inj granted.1)) misses

end World

/-! ## In both stores -/

/-- A request to cancel a run that can be cancelled is granted, in either store, exactly if the
    run has the status again when it is compared that it had when it was read: in memory at the
    comparison, in the database when the update looks for the row, and once more when it has
    waited for it. -/
theorem requestCancel_iff (store : InMemoryRuntimeStore) (ops : List StoreOp) (runId : String)
    (world : World) (meanwhile : World.Meanwhile) (transaction : Nat)
    (others : meanwhile.Others transaction) :
    ((∀ k ≤ ops.length, (store.after (ops.take k)).Cancellable runId) →
      (InMemoryRuntimeStore.Granted runId (store.requestCancelDuring ops runId) ↔
        ((store.after ops).runs runId).map AttackRun.status =
          (store.runs runId).map AttackRun.status)) ∧
    (world.store.status ∈ AttackStatus.cancellable →
      (world.after meanwhile.before).store.transactions transaction = none →
      (world.requestCancelDuring meanwhile transaction).2 ≠ none →
      (World.Granted (world.requestCancelDuring meanwhile transaction) ↔
        (world.after meanwhile.before).Finds meanwhile transaction world.store.status)) :=
  ⟨InMemoryRuntimeStore.requestCancel_iff_same,
    fun status fresh replies => World.requestCancel_iff_same others status fresh replies⟩

/-! ## A request that is lost -/

/-- A run that is searching. -/
def searchingStore : InMemoryRuntimeStore :=
  ({} : InMemoryRuntimeStore).after
    [.createRun "run-1" {
        jobKey := "job-1", ruleVersionId := "rules-1", scenarioVersionId := "refund-points"
        sandboxVersion := "fixed", oracleVersion := "1.0", budget := publicRunBudgetCap
        randomSeed := 0 },
      .compareAndSetStatus "run-1" .ready .searching none]

/-- The worker begins to replay a candidate, and goes back to the search. -/
def beginReplay : List StoreOp := [.compareAndSetStatus "run-1" .searching .replaying none]

def endReplay : List StoreOp := [.compareAndSetStatus "run-1" .replaying .searching none]

/-- The same run in the database. -/
def searchingWorld : World :=
  (World.created "run-1" 0).after
    [.start 0 (.updating .ready .searching none), .advance 0, .advance 0, .advance 0]

/-- The worker begins to replay, and goes back, each in a transaction: it updates the row,
    inserts its event and commits. -/
def beginReplayMoves : List WorldMove :=
  [.start 0 (.updating .searching .replaying none), .advance 0, .advance 0, .advance 0]

def endReplayMoves : List WorldMove :=
  [.start 0 (.updating .replaying .searching none), .advance 0, .advance 0, .advance 0]

/-- The worker has replayed a candidate when the update of the request begins, and holds the
    row for the next replay, in a transaction that fails. -/
def replayedMeanwhile : World.Meanwhile where
  before := beginReplayMoves ++ endReplayMoves ++ beginReplayMoves.take 2
  waiting := [.rollback 0]

/-- The worker replays when the update of the request begins, and holds the row to go back to
    the search. -/
def replayingMeanwhile : World.Meanwhile where
  before := beginReplayMoves ++ endReplayMoves.take 2

theorem replayedMeanwhile_others : replayedMeanwhile.Others 1 where
  waiting move h := by
    rw [List.mem_singleton.1 h]
    exact Nat.zero_ne_one
  inserting _ h := absurd h List.not_mem_nil
  committing _ h := absurd h List.not_mem_nil

theorem replayingMeanwhile_others : replayingMeanwhile.Others 1 where
  waiting _ h := absurd h List.not_mem_nil
  inserting _ h := absurd h List.not_mem_nil
  committing _ h := absurd h List.not_mem_nil

theorem cancellable_replay (k : Nat) (h : k ≤ (beginReplay ++ endReplay).length) :
    (searchingStore.after ((beginReplay ++ endReplay).take k)).Cancellable "run-1" := by
  obtain rfl | rfl | rfl : k = 0 ∨ k = 1 ∨ k = 2 := by
    have : k ≤ 2 := h
    omega
  all_goals exact ⟨_, rfl, by decide⟩

/-- The worker replays a candidate and goes back to the search between the read and the
    comparison: the request is granted, in both stores. While the row is held to go back, the
    update finds no row that is searching and does not wait for it. -/
theorem requestCancel_iff_replaying :
    InMemoryRuntimeStore.Granted "run-1"
        (searchingStore.requestCancelDuring (beginReplay ++ endReplay) "run-1") ∧
      World.Granted (searchingWorld.requestCancelDuring replayedMeanwhile 1) ∧
      ¬ World.Granted (searchingWorld.requestCancelDuring replayingMeanwhile 1) := by
  obtain ⟨memory, granted⟩ := requestCancel_iff searchingStore (beginReplay ++ endReplay) "run-1"
    searchingWorld replayedMeanwhile 1 replayedMeanwhile_others
  obtain ⟨-, refused⟩ := requestCancel_iff searchingStore [] "run-1"
    searchingWorld replayingMeanwhile 1 replayingMeanwhile_others
  refine ⟨(memory cancellable_replay).2 (by decide +kernel),
    (granted (by decide +kernel) (by decide +kernel) (by decide +kernel)).2
      ⟨by decide +kernel, fun _ => by decide +kernel⟩, fun h => ?_⟩
  have finds := (refused (by decide +kernel) (by decide +kernel) (by decide +kernel)).1 h
  exact absurd finds.1 (by decide +kernel)

/-- The request is refused, in both stores, though the run can be cancelled all the time. -/
theorem requestCancel_refused :
    (∀ k ≤ beginReplay.length,
      (searchingStore.after (beginReplay.take k)).Cancellable "run-1") ∧
    (searchingStore.requestCancelDuring beginReplay "run-1").toOption.map Prod.snd = some false ∧
    (∀ k ≤ beginReplayMoves.length, (searchingWorld.after (beginReplayMoves.take k)).store.status ∈
      AttackStatus.cancellable) ∧
    (searchingWorld.requestCancelDuring { before := beginReplayMoves } 1).2 = some false :=
  ⟨fun k h => List.take_append_of_le_length h ▸ cancellable_replay k (h.trans (by decide)),
    by decide +kernel, by decide +kernel, by decide +kernel⟩

end RuleArena
