import RuleArena.Runtime.Log
import Mathlib.Data.List.Sort

/-!
# Events in the database

The store in the database appends an event in a transaction. Its cursor is taken
from the sequence of the identity column when the row is inserted, and the row
becomes visible when the transaction commits; a value of the sequence that a
transaction has taken is not given back. A change of the status updates the row
of the run first, and so it holds the lock of that row until it has committed; an
update that has found the row waits for the lock and then compares again.

The transactions of one run and a reader that asks for the events after the
last one it has received are interleaved (`World`). A row that commits after the
reader has received a larger cursor is never received
(`World.receives_all_iff`).
-/

namespace RuleArena

/-- A transaction that appends an event of the run: in `append_event` it only inserts a row,
    in `compare_and_set_status` it first updates the row of the run, for which it may have to
    wait. -/
inductive Transaction
  | appending (eventType : String) (data : List (String × Json))
  | updating (expected target : AttackStatus) (outcome : Option AttackOutcome)
  | waiting (expected target : AttackStatus) (outcome : Option AttackOutcome)
  | updated (expected target : AttackStatus) (outcome : Option AttackOutcome)
  | inserted (event : RuntimeEvent) (update : Option (AttackStatus × Option AttackOutcome))

/-- The row that a transaction has inserted and not committed. -/
def Transaction.row? : Transaction → Option RuntimeEvent
  | inserted event _ => some event
  | _ => none

/-- What the database has of one run: its committed rows, the last value of the sequence,
    which the events of all runs share, the open transactions, and which of them holds the
    lock of the row of the run. -/
structure PostgresRuntimeStore where
  runId : String
  status : AttackStatus := .ready
  outcome : Option AttackOutcome := none
  events : List RuntimeEvent
  sequence : Nat
  transactions : Nat → Option Transaction := fun _ => none
  lock : Option Nat := none

namespace PostgresRuntimeStore

variable (store : PostgresRuntimeStore)

/-- `create_run`: the row of the run and its first event are committed together, when the
    sequence has got to `sequence`. -/
def createRun (runId : String) (sequence : Nat) : PostgresRuntimeStore where
  runId
  events := [{ cursor := sequence + 1, runId, eventType := "RUN_CREATED"
               data := [("status", .str AttackStatus.ready.value)] }]
  sequence := sequence + 1

/-- `events_after`: the committed rows, ordered by their cursors. -/
def eventsAfter (cursor : Nat) : List RuntimeEvent :=
  (store.events.filter fun event => cursor < event.cursor).insertionSort
    fun event event' => event.cursor ≤ event'.cursor

/-- `_append_event`, in a transaction: it inserts a row. -/
def appendEvent (transaction : Nat) (eventType : String) (data : List (String × Json))
    (update : Option (AttackStatus × Option AttackOutcome)) : PostgresRuntimeStore :=
  let event : RuntimeEvent :=
    { cursor := store.sequence + 1, runId := store.runId, eventType, data }
  { store with
    sequence := store.sequence + 1
    transactions := insertEntry store.transactions transaction (.inserted event update) }

/-- A transaction ends without an effect, and gives its lock back. -/
def rollback (transaction : Nat) : PostgresRuntimeStore :=
  { store with
    transactions := Function.update store.transactions transaction none
    lock := if store.lock = some transaction then none else store.lock }

/-- The rows that a transaction has written become visible. -/
def commit (transaction : Nat) (event : RuntimeEvent)
    (update : Option (AttackStatus × Option AttackOutcome)) : PostgresRuntimeStore :=
  let store := { store.rollback transaction with events := store.events ++ [event] }
  match update with
  | some (status, outcome) => { store with status, outcome }
  | none => store

/-- A transaction begins: `compare_and_set_status` refuses what is not allowed before. -/
def start (transaction : Nat) (begun : Transaction) : PostgresRuntimeStore :=
  match begun with
  | .appending .. =>
    { store with transactions := insertEntry store.transactions transaction begun }
  | .updating expected target outcome =>
    if target ∈ expected.allowedTransitions ∧ target.terminal = outcome.isSome then
      { store with transactions := insertEntry store.transactions transaction begun }
    else store
  | _ => store

/-- The row of the run, if nobody else has locked it: it is updated, and locked, if it has the
    expected status. -/
def update (transaction : Nat) (expected target : AttackStatus)
    (outcome : Option AttackOutcome) : PostgresRuntimeStore :=
  if store.status = expected then { store with
    transactions := insertEntry store.transactions transaction (.updated expected target outcome)
    lock := some transaction }
  else store.rollback transaction

/-- The next statement of a transaction. An update looks for the row among the committed ones:
    if its status is not the expected one then no row is found, whoever has locked it. Where
    the row is found and another transaction holds its lock, the update waits, and looks at the
    row once more when it has been given back. -/
def advance (transaction : Nat) : PostgresRuntimeStore :=
  match store.transactions transaction with
  | none => store
  | some (.appending eventType data) => store.appendEvent transaction eventType data none
  | some (.updating expected target outcome) =>
    if store.status = expected ∧ store.lock.isSome then { store with
      transactions := insertEntry store.transactions transaction
        (.waiting expected target outcome) }
    else store.update transaction expected target outcome
  | some (.waiting expected target outcome) =>
    if store.lock.isSome then store else store.update transaction expected target outcome
  | some (.updated expected target outcome) =>
    store.appendEvent transaction "STATUS_CHANGED" [("from", .str expected.value),
      ("to", .str target.value), ("outcome", InMemoryRuntimeStore.outcomeJson outcome)]
      (some (target, outcome))
  | some (.inserted event update) => store.commit transaction event update

end PostgresRuntimeStore

/-! ## Rows -/

namespace PostgresRuntimeStore

variable {store store' : PostgresRuntimeStore}

/-- The row that a transaction has inserted and not committed. -/
def row (store : PostgresRuntimeStore) (transaction : Nat) : Option RuntimeEvent :=
  store.transactions transaction >>= Transaction.row?

/-- What a step of a transaction does with the rows: none is written, or one is inserted with
    the next value of the sequence, or an inserted one is committed. -/
inductive Change (store store' : PostgresRuntimeStore) : Prop
  | none (events : store'.events = store.events) (sequence : store.sequence ≤ store'.sequence)
    (rows : ∀ t event, store'.row t = some event → store.row t = some event)
  | inserted (transaction : Nat) (event : RuntimeEvent)
    (cursor : event.cursor = store.sequence + 1)
    (events : store'.events = store.events) (sequence : store'.sequence = store.sequence + 1)
    (rows : store'.row = Function.update store.row transaction (some event))
  | committed (transaction : Nat) (event : RuntimeEvent)
    (written : store.row transaction = some event)
    (events : store'.events = store.events ++ [event])
    (sequence : store'.sequence = store.sequence)
    (rows : store'.row = Function.update store.row transaction Option.none)

/-- The row of a transaction changes with the transaction. -/
theorem row_update (store : PostgresRuntimeStore) (transaction : Nat) (next : Option Transaction) :
    row { store with transactions := Function.update store.transactions transaction next } =
      Function.update store.row transaction (next >>= Transaction.row?) := by
  funext t
  by_cases ht : t = transaction
  · subst ht
    simp [row]
  · simp [row, ht]

/-- A transaction without a row takes the place of another one. -/
theorem Change.of_no_row {transaction : Nat} {next : Option Transaction}
    (no_row : next >>= Transaction.row? = Option.none) (events : store'.events = store.events)
    (sequence : store'.sequence = store.sequence)
    (transactions : store'.transactions = Function.update store.transactions transaction next) :
    Change store store' := by
  refine .none events sequence.ge fun t event h => ?_
  have rows : store'.row = Function.update store.row transaction Option.none := by
    rw [← no_row, ← row_update]
    funext t
    rw [row, transactions, row]
  rw [rows] at h
  by_cases ht : t = transaction
  · rw [ht, Function.update_self] at h
    cases h
  · rwa [Function.update_of_ne ht] at h

theorem Change.same : Change store store := .none rfl le_rfl fun _ _ h => h

theorem change_start (transaction : Nat) (begun : Transaction) :
    Change store (store.start transaction begun) := by
  cases begun with
  | appending => exact .of_no_row rfl rfl rfl rfl
  | updating =>
    unfold start
    dsimp only
    split_ifs
    · exact .of_no_row rfl rfl rfl rfl
    · exact .same
  | waiting => exact .same
  | updated => exact .same
  | inserted => exact .same

theorem change_rollback (transaction : Nat) : Change store (store.rollback transaction) :=
  .of_no_row rfl rfl rfl rfl

theorem change_update (transaction : Nat) (expected target : AttackStatus)
    (outcome : Option AttackOutcome) :
    Change store (store.update transaction expected target outcome) := by
  unfold update
  split_ifs
  · exact .of_no_row rfl rfl rfl rfl
  · exact change_rollback transaction

theorem change_appendEvent (transaction : Nat) (eventType : String) (data : List (String × Json))
    (update : Option (AttackStatus × Option AttackOutcome)) :
    Change store (store.appendEvent transaction eventType data update) :=
  .inserted transaction _ rfl rfl rfl
    (row_update store transaction (some (.inserted _ update)))

theorem change_commit {transaction : Nat} {event : RuntimeEvent}
    {update : Option (AttackStatus × Option AttackOutcome)}
    (written : store.transactions transaction = some (.inserted event update)) :
    Change store (store.commit transaction event update) := by
  have hw : store.row transaction = some event := by rw [row, written]; rfl
  have rows := row_update store transaction Option.none
  cases update with
  | none => exact .committed transaction event hw rfl rfl rows
  | some changed => exact .committed transaction event hw rfl rfl rows

theorem change_advance (transaction : Nat) : Change store (store.advance transaction) := by
  unfold advance
  cases h : store.transactions transaction with
  | none => exact .same
  | some current =>
    cases current with
    | appending eventType data => exact change_appendEvent ..
    | updating expected target outcome =>
      dsimp only
      split_ifs
      · exact .of_no_row rfl rfl rfl rfl
      · exact change_update ..
    | waiting expected target outcome =>
      dsimp only
      split_ifs
      · exact .same
      · exact change_update ..
    | updated expected target outcome => exact change_appendEvent ..
    | inserted event update => exact change_commit h

/-- Every row has a cursor of its own, which the sequence has given. -/
structure Numbered (store : PostgresRuntimeStore) : Prop where
  distinct : (store.events.map RuntimeEvent.cursor).Nodup
  given : ∀ event ∈ store.events, event.cursor ≤ store.sequence
  inserted : ∀ t event, store.row t = some event →
    event.cursor ≤ store.sequence ∧ event.cursor ∉ store.events.map RuntimeEvent.cursor
  apart : ∀ t t' event event', store.row t = some event → store.row t' = some event' →
    event.cursor = event'.cursor → t = t'

theorem Numbered.change (numbered : store.Numbered) (change : Change store store') :
    store'.Numbered := by
  obtain ⟨distinct, given, inserted, apart⟩ := numbered
  cases change with
  | none events sequence rows =>
    rw [← events] at distinct given inserted
    refine ⟨distinct, fun event h => (given event h).trans sequence, fun t event h => ?_,
      fun t t' event event' h h' => apart t t' event event' (rows t event h) (rows t' event' h')⟩
    obtain ⟨le, out⟩ := inserted t event (rows t event h)
    exact ⟨le.trans sequence, out⟩
  | inserted transaction event cursor events sequence rows =>
    -- The value that is taken is above all that were taken before.
    rw [← events] at distinct given inserted
    have old (t : Nat) (ht : t ≠ transaction) (other : RuntimeEvent)
        (h : store'.row t = some other) : store.row t = some other := by
      rwa [rows, Function.update_of_ne ht] at h
    have new (other : RuntimeEvent) (h : store'.row transaction = some other) : other = event := by
      rw [rows, Function.update_self] at h
      exact (Option.some.inj h).symm
    refine ⟨distinct, fun other h => (given other h).trans (by omega), fun t other h => ?_,
      fun t t' other other' h h' same => ?_⟩
    · by_cases ht : t = transaction
      · subst ht
        rw [new other h, cursor, sequence]
        refine ⟨le_rfl, fun taken => ?_⟩
        obtain ⟨other', hm, hc⟩ := List.mem_map.1 taken
        have := given other' hm
        omega
      · obtain ⟨le, out⟩ := inserted t other (old t ht other h)
        exact ⟨by omega, out⟩
    · by_cases ht : t = transaction <;> by_cases ht' : t' = transaction
      · rw [ht, ht']
      · have := (inserted t' other' (old t' ht' other' h')).1
        rw [ht] at h
        rw [new other h] at same
        omega
      · have := (inserted t other (old t ht other h)).1
        rw [ht'] at h'
        rw [new other' h'] at same
        omega
      · exact apart t t' other other' (old t ht other h) (old t' ht' other' h') same
  | committed transaction event written events sequence rows =>
    have old (t : Nat) (other : RuntimeEvent) (h : store'.row t = some other) :
        t ≠ transaction ∧ store.row t = some other := by
      by_cases ht : t = transaction
      · rw [rows, ht, Function.update_self] at h
        cases h
      · exact ⟨ht, by rwa [rows, Function.update_of_ne ht] at h⟩
    obtain ⟨le, out⟩ := inserted transaction event written
    refine ⟨?_, fun other h => ?_, fun t other h => ?_, fun t t' other other' h h' =>
      apart t t' other other' (old t other h).2 (old t' other' h').2⟩
    · rw [events, List.map_append]
      exact distinct.append (List.nodup_singleton _) (by simpa using out)
    · rw [events, List.mem_append, List.mem_singleton] at h
      rw [sequence]
      rcases h with h | rfl
      · exact given other h
      · exact le
    · obtain ⟨ht, h⟩ := old t other h
      obtain ⟨le', out'⟩ := inserted t other h
      refine ⟨sequence ▸ le', ?_⟩
      rw [events, List.map_append, List.mem_append, List.map_singleton, List.mem_singleton]
      exact fun taken => taken.elim out' fun same =>
        ht (apart t transaction other event h written same)

theorem numbered_createRun (runId : String) (sequence : Nat) :
    (createRun runId sequence).Numbered where
  distinct := List.nodup_singleton _
  given event h := by
    rw [List.mem_singleton.1 h]
    exact le_rfl
  inserted _ _ h := by cases h
  apart _ _ _ _ h := by cases h

end PostgresRuntimeStore

/-! ## The reader -/

/-- The database, and a reader with what it has received. -/
structure World where
  store : PostgresRuntimeStore
  received : List RuntimeEvent := []
  cursor : Nat := 0

/-- What happens next: a transaction begins (under a number that no open one has), goes on or
    fails, an insert for another run takes a value of the sequence, or the reader reads. -/
inductive WorldMove
  | start (transaction : Nat) (begun : Transaction)
  | advance (transaction : Nat)
  | rollback (transaction : Nat)
  | allocate
  | read

namespace World

def step (world : World) : WorldMove → World
  | .start transaction begun =>
    if (world.store.transactions transaction).isSome then world
    else { world with store := world.store.start transaction begun }
  | .advance transaction => { world with store := world.store.advance transaction }
  | .rollback transaction => { world with store := world.store.rollback transaction }
  | .allocate =>
    { world with store := { world.store with sequence := world.store.sequence + 1 } }
  | .read =>
    let values := world.store.eventsAfter world.cursor
    { world with
      received := world.received ++ values
      cursor := InMemoryRuntimeStore.cursorAfter world.cursor values }

/-- The world after a sequence of moves. -/
def after (world : World) (moves : List WorldMove) : World := moves.foldl step world

/-- The row that a move commits. -/
def committed? (world : World) : WorldMove → Option RuntimeEvent
  | .advance transaction => world.store.transactions transaction >>= Transaction.row?
  | _ => none

/-- No transaction commits a row when the reader has received a larger cursor. -/
def NoneLate (world : World) : List WorldMove → Prop
  | [] => True
  | move :: moves => (∀ event ∈ world.committed? move, world.cursor < event.cursor) ∧
    NoneLate (world.step move) moves

/-- Every committed event is received exactly once, at the latest when the reader reads again,
    whatever else happens. -/
def ReceivesAll (world : World) : Prop :=
  ∀ event ∈ world.store.events, ∀ moves, .read ∈ moves →
    (world.after moves).received.count event = 1

/-! ## What the reader receives -/

/-- What has been received are committed rows, each once, in the order of the cursors. -/
structure Reading (world : World) : Prop where
  numbered : world.store.Numbered
  ordered : (world.received.map RuntimeEvent.cursor).Pairwise (· < ·)
  upTo : ∀ event ∈ world.received, event.cursor ≤ world.cursor
  committed : world.received ⊆ world.store.events

/-- A committed row that has been received, or will be by the next read. -/
def Caught (world : World) (event : RuntimeEvent) : Prop :=
  event ∈ world.store.events ∧ (event ∈ world.received ∨ world.cursor < event.cursor)

/-- A committed row that has not been received, with a cursor that has been passed. -/
def Lost (world : World) (event : RuntimeEvent) : Prop :=
  event ∈ world.store.events ∧ event ∉ world.received ∧ event.cursor ≤ world.cursor

/-- The cursor moves up to the last of the rows that are read, in their order. -/
theorem cursorAfter_sorted {values : List RuntimeEvent} {cursor : Nat}
    (above : ∀ event ∈ values, cursor < event.cursor)
    (sorted : (values.map RuntimeEvent.cursor).Pairwise (· < ·)) :
    cursor ≤ InMemoryRuntimeStore.cursorAfter cursor values ∧
      ∀ event ∈ values, event.cursor ≤ InMemoryRuntimeStore.cursorAfter cursor values := by
  induction values generalizing cursor with
  | nil => exact ⟨le_rfl, nofun⟩
  | cons value values ih =>
    rw [List.map_cons, List.pairwise_cons] at sorted
    obtain ⟨up, all⟩ := ih
      (fun event h => sorted.1 _ (List.mem_map_of_mem h)) sorted.2
    refine ⟨(above value List.mem_cons_self).le.trans up, fun event h => ?_⟩
    rcases List.mem_cons.1 h with rfl | h
    · exact up
    · exact all event h

end World

namespace PostgresRuntimeStore

variable {store : PostgresRuntimeStore}

theorem mem_eventsAfter {cursor : Nat} {event : RuntimeEvent} :
    event ∈ store.eventsAfter cursor ↔ event ∈ store.events ∧ cursor < event.cursor := by
  rw [eventsAfter, List.mem_insertionSort, List.mem_filter, decide_eq_true_eq]

theorem Numbered.pairwise_eventsAfter (numbered : store.Numbered) (cursor : Nat) :
    ((store.eventsAfter cursor).map RuntimeEvent.cursor).Pairwise (· < ·) := by
  let ordered : RuntimeEvent → RuntimeEvent → Prop := fun event event' =>
    event.cursor ≤ event'.cursor
  have : Std.Total ordered := ⟨fun _ _ => Nat.le_total ..⟩
  have : IsTrans RuntimeEvent ordered := ⟨fun _ _ _ => Nat.le_trans⟩
  have sorted : ((store.eventsAfter cursor).map RuntimeEvent.cursor).Pairwise (· ≤ ·) :=
    List.pairwise_map.2 (List.pairwise_insertionSort ordered _)
  -- The cursors that are read are among those of the table, which are distinct.
  have nodup : ((store.eventsAfter cursor).map RuntimeEvent.cursor).Nodup :=
    ((List.perm_insertionSort ordered _).map _).nodup_iff.2
      (numbered.distinct.sublist (List.filter_sublist.map _))
  exact (sorted.and nodup).imp fun h => lt_of_le_of_ne h.1 h.2

theorem Numbered.sequence (numbered : store.Numbered) {sequence : Nat}
    (grown : store.sequence ≤ sequence) : Numbered { store with sequence } :=
  numbered.change (.none rfl grown fun _ _ h => h)

theorem events_start (transaction : Nat) (begun : Transaction) :
    (store.start transaction begun).events = store.events := by
  unfold start
  cases begun <;> dsimp only
  split_ifs <;> rfl

theorem events_update (transaction : Nat) (expected target : AttackStatus)
    (outcome : Option AttackOutcome) :
    (store.update transaction expected target outcome).events = store.events := by
  unfold update
  split_ifs <;> rfl

theorem events_advance (transaction : Nat) :
    (store.advance transaction).events = store.events ++ (store.row transaction).toList := by
  unfold advance
  rcases h : store.transactions transaction with _ |
    ⟨eventType, data⟩ | ⟨expected, target, outcome⟩ | ⟨expected, target, outcome⟩ |
    ⟨expected, target, outcome⟩ | ⟨event, _ | update⟩
  all_goals simp only [row, h, Option.bind_eq_bind, Option.bind_none, Option.bind_some,
    Transaction.row?, Option.toList_none, Option.toList_some, List.append_nil, appendEvent]
  · split_ifs
    · rfl
    · exact events_update ..
  · split_ifs
    · rfl
    · exact events_update ..
  · rfl
  · rfl

end PostgresRuntimeStore

namespace World

variable {world : World}

/-- A move commits one row at most. -/
theorem events_step (world : World) (move : WorldMove) : (world.step move).store.events =
    world.store.events ++ (world.committed? move).toList := by
  cases move with
  | start transaction begun =>
    unfold step
    dsimp only
    split_ifs
    · exact (List.append_nil _).symm
    · exact (PostgresRuntimeStore.events_start ..).trans (List.append_nil _).symm
  | advance transaction => exact PostgresRuntimeStore.events_advance transaction
  | rollback | allocate | read => exact (List.append_nil _).symm

/-- All but the reader leave what it has received as it is. -/
theorem step_of_ne_read (world : World) {move : WorldMove} (h : move ≠ .read) :
    (world.step move).received = world.received ∧ (world.step move).cursor = world.cursor := by
  cases move with
  | read => exact absurd rfl h
  | start =>
    unfold step
    dsimp only
    split_ifs <;> exact ⟨rfl, rfl⟩
  | advance | rollback | allocate => exact ⟨rfl, rfl⟩

theorem numbered_step (numbered : world.store.Numbered) (move : WorldMove) :
    (world.step move).store.Numbered := by
  cases move with
  | start transaction begun =>
    unfold step
    dsimp only
    split_ifs
    · exact numbered
    · exact numbered.change (PostgresRuntimeStore.change_start ..)
  | advance transaction => exact numbered.change (PostgresRuntimeStore.change_advance ..)
  | rollback transaction => exact numbered.change (PostgresRuntimeStore.change_rollback ..)
  | allocate => exact numbered.sequence (Nat.le_succ _)
  | read => exact numbered

/-- A read moves the cursor past all rows that it finds. -/
theorem Reading.cursor_read (reading : world.Reading) :
    world.cursor ≤ (world.step .read).cursor ∧
      ∀ event ∈ world.store.eventsAfter world.cursor,
        event.cursor ≤ (world.step .read).cursor :=
  cursorAfter_sorted (fun _ h => (PostgresRuntimeStore.mem_eventsAfter.1 h).2)
    (reading.numbered.pairwise_eventsAfter _)

theorem Reading.step (reading : world.Reading) (move : WorldMove) :
    (world.step move).Reading := by
  have numbered := numbered_step reading.numbered move
  by_cases h : move = .read
  · subst h
    obtain ⟨up, all⟩ := reading.cursor_read
    refine ⟨numbered, ?_, fun event he => ?_, fun event he => ?_⟩
    · -- What is read now is above the cursor, and what was received before is not.
      change ((world.received ++ world.store.eventsAfter world.cursor).map _).Pairwise _
      rw [List.map_append, List.pairwise_append]
      refine ⟨reading.ordered, reading.numbered.pairwise_eventsAfter _, fun c hc c' hc' => ?_⟩
      obtain ⟨event, he, rfl⟩ := List.mem_map.1 hc
      obtain ⟨event', he', rfl⟩ := List.mem_map.1 hc'
      exact (reading.upTo event he).trans_lt (PostgresRuntimeStore.mem_eventsAfter.1 he').2
    · rcases List.mem_append.1 he with he | he
      · exact (reading.upTo event he).trans up
      · exact all event he
    · rcases List.mem_append.1 he with he | he
      · exact reading.committed he
      · exact (PostgresRuntimeStore.mem_eventsAfter.1 he).1
  · obtain ⟨received, cursor⟩ := step_of_ne_read world h
    refine ⟨numbered, received ▸ reading.ordered, fun event he => ?_, fun event he => ?_⟩
    · rw [received] at he
      exact cursor ▸ reading.upTo event he
    · rw [received] at he
      rw [events_step]
      exact List.mem_append_left _ (reading.committed he)

/-- What has been committed stays. -/
theorem mem_events_step {event : RuntimeEvent} (h : event ∈ world.store.events)
    (move : WorldMove) : event ∈ (world.step move).store.events := by
  rw [events_step]
  exact List.mem_append_left _ h

theorem Caught.read {event : RuntimeEvent} (caught : world.Caught event) :
    event ∈ (world.step .read).received := by
  obtain ⟨committed, received | above⟩ := caught
  · exact List.mem_append_left _ received
  · exact List.mem_append_right _ (PostgresRuntimeStore.mem_eventsAfter.2 ⟨committed, above⟩)

theorem Caught.step {event : RuntimeEvent} (caught : world.Caught event) (move : WorldMove) :
    (world.step move).Caught event := by
  refine ⟨mem_events_step caught.1 move, ?_⟩
  by_cases h : move = .read
  · subst h
    exact .inl caught.read
  · obtain ⟨received, cursor⟩ := step_of_ne_read world h
    rw [received, cursor]
    exact caught.2

theorem Lost.step (reading : world.Reading) {event : RuntimeEvent} (lost : world.Lost event)
    (move : WorldMove) : (world.step move).Lost event := by
  obtain ⟨committed, unreceived, passed⟩ := lost
  by_cases h : move = .read
  · subst h
    refine ⟨committed, fun received => ?_, passed.trans reading.cursor_read.1⟩
    rcases List.mem_append.1 received with received | read
    · exact unreceived received
    · exact (PostgresRuntimeStore.mem_eventsAfter.1 read).2.not_ge passed
  · obtain ⟨received, cursor⟩ := step_of_ne_read world h
    exact ⟨mem_events_step committed move, received ▸ unreceived, cursor ▸ passed⟩

/-! ## Runs -/

theorem Reading.after (reading : world.Reading) (moves : List WorldMove) :
    (world.after moves).Reading := by
  induction moves generalizing world with
  | nil => exact reading
  | cons move moves ih => exact ih (reading.step move)

/-- A read receives what is caught, and that stays received. -/
theorem Caught.after_read {event : RuntimeEvent} (caught : world.Caught event)
    {moves : List WorldMove} (reads : .read ∈ moves) : event ∈ (world.after moves).received := by
  have kept (world : World) (h : event ∈ world.received) (moves : List WorldMove) :
      event ∈ (world.after moves).received := by
    induction moves generalizing world with
    | nil => exact h
    | cons move moves ih =>
      refine ih _ ?_
      by_cases hm : move = .read
      · subst hm
        exact List.mem_append_left _ h
      · rwa [(step_of_ne_read _ hm).1]
  induction moves generalizing world with
  | nil => cases reads
  | cons move moves ih =>
    rcases List.mem_cons.1 reads with rfl | reads
    · exact kept _ caught.read moves
    · exact ih (caught.step move) reads

theorem Lost.after (reading : world.Reading) {event : RuntimeEvent} (lost : world.Lost event)
    (moves : List WorldMove) : (world.after moves).Lost event := by
  induction moves generalizing world with
  | nil => exact lost
  | cons move moves ih => exact ih (reading.step move) (lost.step reading move)

/-- While no commit is late, every committed row is caught. -/
theorem NoneLate.caught {moves : List WorldMove} (none_late : world.NoneLate moves)
    (caught : ∀ event ∈ world.store.events, world.Caught event) :
    ∀ event ∈ (world.after moves).store.events, (world.after moves).Caught event := by
  induction moves generalizing world with
  | nil => exact caught
  | cons move moves ih =>
    obtain ⟨in_time, none_late⟩ := none_late
    refine ih none_late fun event h => ?_
    rw [events_step, List.mem_append, Option.mem_toList] at h
    rcases h with h | h
    · exact (caught event h).step move
    · -- The move commits this row, and so it is not a read.
      have hm : move ≠ .read := by
        rintro rfl
        cases h
      refine ⟨?_, .inr ?_⟩
      · rw [events_step]
        exact List.mem_append_right _ (Option.mem_toList.2 h)
      · rw [(step_of_ne_read _ hm).2]
        exact in_time event h

/-- A row that commits late is lost. -/
theorem Reading.lost_of_late (reading : world.Reading) {move : WorldMove} {event : RuntimeEvent}
    (commits : event ∈ world.committed? move) (late : event.cursor ≤ world.cursor) :
    (world.step move).Lost event := by
  cases move with
  | advance transaction =>
    refine ⟨?_, fun received => ?_, late⟩
    · rw [events_step]
      exact List.mem_append_right _ (Option.mem_toList.2 commits)
    · exact (reading.numbered.inserted transaction event commits).2
        (List.mem_map_of_mem (reading.committed received))
  | start | rollback | allocate | read => cases commits

theorem Reading.exists_lost (reading : world.Reading) {moves : List WorldMove}
    (late : ¬ world.NoneLate moves) : ∃ event, (world.after moves).Lost event := by
  induction moves generalizing world with
  | nil => exact absurd trivial late
  | cons move moves ih =>
    by_cases in_time : ∀ event ∈ world.committed? move, world.cursor < event.cursor
    · exact ih (reading.step move) fun none_late => late ⟨in_time, none_late⟩
    · push Not at in_time
      obtain ⟨event, commits, passed⟩ := in_time
      exact ⟨event, (reading.lost_of_late commits passed).after (reading.step move) moves⟩

/-- A run that has just been created, and a reader that has received nothing. -/
def created (runId : String) (sequence : Nat) : World :=
  { store := PostgresRuntimeStore.createRun runId sequence }

theorem reading_created (runId : String) (sequence : Nat) : (created runId sequence).Reading where
  numbered := PostgresRuntimeStore.numbered_createRun runId sequence
  ordered := List.Pairwise.nil
  upTo := nofun
  committed := nofun

end World

/-- Every committed event of a run is received exactly once, in every interleaving of its
    transactions with the reads, exactly if no row is committed after the reader has received
    a larger cursor. -/
theorem receives_all_iff (runId : String) (sequence : Nat) (moves : List WorldMove) :
    ((World.created runId sequence).after moves).ReceivesAll ↔
      (World.created runId sequence).NoneLate moves := by
  have reading := (World.reading_created runId sequence).after moves
  constructor
  · intro all
    by_contra late
    obtain ⟨event, lost⟩ := (World.reading_created runId sequence).exists_lost late
    have read := lost.step reading .read
    have once := all event lost.1 [.read] (List.mem_singleton_self _)
    have never : (((World.created runId sequence).after moves).after [.read]).received.count
      event = 0 := List.count_eq_zero.2 read.2.1
    omega
  · intro none_late event h later reads
    have caught := none_late.caught (fun event h => ⟨h, .inr ?_⟩) event h
    · have once : ((World.created runId sequence).after moves |>.after later).received.Nodup :=
        List.Nodup.of_map _ ((reading.after later).ordered.imp ne_of_lt)
      exact List.count_eq_one_of_mem once (caught.after_read reads)
    · rw [List.mem_singleton.1 h]
      exact Nat.succ_pos _

/-- The worker inserts its event first and commits it last: in between a request to cancel
    the run has committed an event, and it is received. -/
theorem receives_not_all : ∃ moves : List WorldMove,
    ¬ ((World.created "run" 0).after moves).ReceivesAll := by
  refine ⟨[.start 0 (.appending "STRATEGY_TERMINATED" []), .advance 0,
    .start 1 (.updating .ready .cancelRequested none), .advance 1, .advance 1, .advance 1,
    .read, .advance 0], fun all => ?_⟩
  have lost := all { cursor := 2, runId := "run", eventType := "STRATEGY_TERMINATED", data := [] }
    (by decide +kernel) [.read] (by exact List.mem_singleton_self _)
  exact absurd lost (by decide +kernel)

end RuleArena
