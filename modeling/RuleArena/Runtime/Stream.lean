import RuleArena.Runtime.Log

/-!
# The stream of events

A client follows the events of a run: the stream reads the events after its
cursor and sends them, then reads the status of the run, and ends if the run
has. Between its reads the worker and others may change the store. In a
`Session` the steps of the stream and the operations of the others are
interleaved; it remembers the log as the stream has read it last (`seen`).

A stream that ends with its run has sent every event above the cursor it
started from exactly if none was appended since it has read the log last
(`stream_complete`).
-/

namespace RuleArena

/-- What the stream sends. -/
inductive StreamItem
  | event (id : Nat) (eventType : String) (data : List (String × Json))
  | leakageBlocked (id : Nat)
  | heartbeat
  deriving DecidableEq

namespace StreamItem

/-- The cursor in an item, if it has one. -/
def id? : StreamItem → Option Nat
  | event id _ _ => some id
  | leakageBlocked id => some id
  | heartbeat => none

/-- The item for an event, without its data if these are forbidden. -/
def ofEvent (forbidden : List (String × Json) → Bool) (event : RuntimeEvent) : StreamItem :=
  if forbidden event.data then leakageBlocked event.cursor
  else .event event.cursor event.eventType event.data

end StreamItem

/-- Where the stream is: about to read the events, sending the rest of those it has
    read (and whether it had read any), or back, with the status it has read. -/
inductive StreamPhase
  | reading
  | sending (rest : List RuntimeEvent) (any : Bool)
  | returned (status : Option AttackStatus)
  | raised (error : StoreError)
  deriving DecidableEq

/-- A stream among the other users of the store. -/
structure Session where
  store : InMemoryRuntimeStore
  runId : String
  start : Nat
  forbidden : List (String × Json) → Bool
  currentCursor : Nat
  phase : StreamPhase
  sent : List StreamItem
  seen : List RuntimeEvent

/-- What happens next: another party uses the store, the client leaves, or the stream
    takes a step. -/
inductive SessionMove
  | operation (op : StoreOp)
  | disconnect
  | stream

/-- The identifiers of new records are new. -/
def SessionMove.Fresh (store : InMemoryRuntimeStore) : SessionMove → Prop
  | .operation op => op.Fresh store
  | _ => True

instance (store : InMemoryRuntimeStore) (move : SessionMove) : Decidable (move.Fresh store) := by
  cases move <;> unfold SessionMove.Fresh <;> infer_instance

namespace Session

/-- A stream that has been asked for. -/
def opened (store : InMemoryRuntimeStore) (runId : String) (start : Nat)
    (forbidden : List (String × Json) → Bool) : Session :=
  { store, runId, start, forbidden, currentCursor := start, phase := .reading, sent := []
    seen := [] }

/-- A step of `stream`, when the events are followed. -/
def stream (session : Session) : Session :=
  match session.phase with
  | .reading =>
    match session.store.eventsAfter session.runId session.currentCursor with
    | .ok values => { session with
        phase := .sending values (!values.isEmpty), seen := session.store.log session.runId }
    | .error e => { session with phase := .raised e }
  | .sending (event :: rest) any => { session with
      phase := .sending rest any
      sent := session.sent ++ [StreamItem.ofEvent session.forbidden event]
      currentCursor := event.cursor }
  | .sending [] any =>
    match session.store.getRun session.runId with
    | .ok run =>
      if run.status.terminal then { session with phase := .returned run.status }
      else { session with
        phase := .reading
        sent := if any then session.sent else session.sent ++ [.heartbeat] }
    | .error e => { session with phase := .raised e }
  | .returned _ | .raised _ => session

def step (session : Session) : SessionMove → Session
  | .operation op => { session with store := session.store.apply op }
  | .disconnect => { session with phase := .returned none }
  | .stream => session.stream

/-- The sessions of a run, from a store in use. -/
inductive Reachable : Session → Prop
  | opened {store : InMemoryRuntimeStore} (before : store.Reachable) (runId : String)
    (known : (store.runs runId).isSome) (start : Nat) (forbidden : List (String × Json) → Bool) :
    Reachable (opened store runId start forbidden)
  | step {session : Session} (before : Reachable session) (move : SessionMove)
    (fresh : move.Fresh session.store) : Reachable (session.step move)

/-- The events that have been read and not been sent. -/
def pending (session : Session) : List RuntimeEvent :=
  match session.phase with
  | .sending rest _ => rest
  | _ => []

/-- What a stream has sent of the events, without the heartbeats. -/
def sentEvents (session : Session) : List StreamItem :=
  session.sent.filter fun item => item.id?.isSome

/-- What the stream has read, it has sent or is about to send; and after that its cursor
    is past the log that it has read. -/
structure UpToDate (session : Session) : Prop where
  sent : session.sentEvents ++
    session.pending.map (StreamItem.ofEvent session.forbidden) =
      (session.seen.drop session.start).map (StreamItem.ofEvent session.forbidden)
  cursor : InMemoryRuntimeStore.cursorAfter session.currentCursor session.pending =
    max session.start session.seen.length

/-- The invariant of a stream and its store. -/
structure Streaming (session : Session) : Prop where
  logged : session.store.Logged session.runId
  known : (session.store.runs session.runId).isSome
  seen : session.seen <+: session.store.log session.runId
  upToDate : session.phase ≠ .returned none → session.UpToDate

theorem id?_ofEvent (forbidden : List (String × Json) → Bool) (event : RuntimeEvent) :
    (StreamItem.ofEvent forbidden event).id? = some event.cursor := by
  unfold StreamItem.ofEvent
  split_ifs <;> rfl

/-- After the log has grown, a read gives what is missing. -/
theorem drop_append_drop {α : Type} {seen log : List α} (start : Nat) (grown : seen <+: log) :
    seen.drop start ++ log.drop (max start seen.length) = log.drop start := by
  obtain ⟨new, rfl⟩ := grown
  rcases le_total start seen.length with h | h
  · rw [max_eq_right h, List.drop_append_of_le_length h, List.drop_left]
  · rw [max_eq_left h, List.drop_eq_nil_of_le h, List.nil_append]

/-- The events that are read now come after those that have been sent. -/
theorem UpToDate.read {session : Session} {any : Bool} (upToDate : session.UpToDate)
    (hp : session.phase = .reading) (logged : session.store.Logged session.runId)
    (seen : session.seen <+: session.store.log session.runId) :
    UpToDate { session with
      phase := .sending ((session.store.log session.runId).drop session.currentCursor) any
      seen := session.store.log session.runId } := by
  have none_pending : session.pending = [] := by rw [pending, hp]
  obtain ⟨sent, cursor⟩ := upToDate
  rw [none_pending] at sent cursor
  have hc : session.currentCursor = max session.start session.seen.length := cursor
  constructor
  · calc session.sentEvents ++
          ((session.store.log session.runId).drop session.currentCursor).map _
      _ = (session.seen.drop session.start ++
          (session.store.log session.runId).drop session.currentCursor).map _ := by
        rw [List.map_append, ← sent, List.map_nil, List.append_nil]
      _ = _ := by rw [hc, drop_append_drop _ seen]
  · calc InMemoryRuntimeStore.cursorAfter session.currentCursor
          ((session.store.log session.runId).drop session.currentCursor)
      _ = max session.currentCursor (session.store.log session.runId).length :=
        logged.cursorAfter_drop _
      _ = max session.start (session.store.log session.runId).length := by
        have := seen.length_le
        omega

/-- An event goes from those that are pending to those that are sent. -/
theorem UpToDate.send {session : Session} {event : RuntimeEvent} {rest : List RuntimeEvent}
    {any : Bool} (upToDate : session.UpToDate) (hp : session.phase = .sending (event :: rest) any) :
    UpToDate { session with
      phase := .sending rest any
      sent := session.sent ++ [StreamItem.ofEvent session.forbidden event]
      currentCursor := event.cursor } := by
  obtain ⟨sent, cursor⟩ := upToDate
  rw [show session.pending = event :: rest by rw [pending, hp]] at sent cursor
  refine ⟨?_, cursor⟩
  simp only [sentEvents, pending, List.filter_append, List.append_assoc] at sent ⊢
  rw [List.filter_cons_of_pos (by simp [id?_ofEvent]), List.filter_nil]
  exact sent

/-- With nothing pending, the stream may return, or send a heartbeat and go on. -/
theorem UpToDate.idle {session : Session} (upToDate : session.UpToDate)
    (idle : session.pending = []) {session' : Session} (idle' : session'.pending = [])
    (same : session' = { session with phase := session'.phase, sent := session'.sent })
    (sent : session'.sentEvents = session.sentEvents) : session'.UpToDate := by
  obtain ⟨upSent, upCursor⟩ := upToDate
  rw [idle] at upSent upCursor
  rw [same]
  constructor
  · rw [← same, sent, idle', same]
    exact upSent
  · rw [← same, idle', same]
    exact upCursor

theorem Streaming.stream {session : Session} (streaming : session.Streaming) :
    session.stream.Streaming := by
  obtain ⟨logged, known, seen, upToDate⟩ := streaming
  unfold Session.stream
  rcases hp : session.phase with _ | ⟨_ | ⟨event, rest⟩, any⟩ | status | e
  · rw [InMemoryRuntimeStore.eventsAfter_eq logged known]
    exact ⟨logged, known, List.prefix_rfl, fun _ =>
      (upToDate (by rw [hp]; nofun)).read hp logged seen⟩
  · -- All is sent: the stream returns, or waits for more.
    have up := upToDate (by rw [hp]; nofun)
    have idle : session.pending = [] := by rw [pending, hp]
    obtain ⟨run, hr⟩ := Option.isSome_iff_exists.1 known
    rw [InMemoryRuntimeStore.getRun, InMemoryRuntimeStore.entry_eq_ok.2 hr]
    dsimp only
    split_ifs with terminal any
    · exact ⟨logged, known, seen, fun _ => up.idle idle rfl rfl rfl⟩
    · exact ⟨logged, known, seen, fun _ => up.idle idle rfl rfl rfl⟩
    · refine ⟨logged, known, seen, fun _ => up.idle idle rfl rfl ?_⟩
      simp [sentEvents, StreamItem.id?]
  · exact ⟨logged, known, seen, fun _ => (upToDate (by rw [hp]; nofun)).send hp⟩
  · exact ⟨logged, known, seen, upToDate⟩
  · exact ⟨logged, known, seen, upToDate⟩

theorem Reachable.streaming {session : Session} (reachable : session.Reachable) :
    session.Streaming := by
  induction reachable with
  | opened before runId known start forbidden =>
    refine ⟨before.logged runId, known, List.nil_prefix, fun _ => ⟨?_, ?_⟩⟩
    · simp [Session.opened, sentEvents, pending]
    · simp [Session.opened, pending, InMemoryRuntimeStore.cursorAfter]
  | step _ move fresh ih =>
    obtain ⟨logged, known, seen, upToDate⟩ := ih
    cases move with
    | operation op =>
      have change := InMemoryRuntimeStore.change_apply fresh
      exact ⟨logged.change change, change.isSome_runs known, seen.trans change.log_prefix,
        fun live => ⟨(upToDate live).sent, (upToDate live).cursor⟩⟩
    | disconnect => exact ⟨logged, known, seen, fun live => absurd rfl live⟩
    | stream => exact Streaming.stream ⟨logged, known, seen, upToDate⟩

/-- All events of the run above the cursor have been sent, once and in order, and the change
    to the status with which the stream returns is in the log. -/
structure Complete (session : Session) (status : AttackStatus) : Prop where
  sent : session.sentEvents = ((session.store.log session.runId).filter
    fun event => session.start < event.cursor).map (StreamItem.ofEvent session.forbidden)
  increasing : (session.sent.filterMap StreamItem.id?).Pairwise (· < ·)
  told : ∃ event ∈ session.store.log session.runId, InMemoryRuntimeStore.ChangedTo status event

/-- The events that were appended after the last read are not above the cursor that the
    stream was opened with. -/
def NoneSince (session : Session) : Prop :=
  ∀ event ∈ (session.store.log session.runId).drop session.seen.length,
    event.cursor ≤ session.start

instance (session : Session) : Decidable session.NoneSince :=
  inferInstanceAs (Decidable (∀ _ ∈ _, _))

theorem noneSince_iff {session : Session} (logged : session.store.Logged session.runId) :
    session.NoneSince ↔
      (session.store.log session.runId).drop (max session.start session.seen.length) = [] := by
  have numbered : ((session.store.log session.runId).drop session.seen.length).map
      RuntimeEvent.cursor = List.range' (session.seen.length + 1)
        ((session.store.log session.runId).drop session.seen.length).length := by
    rw [List.map_drop, logged.numbered, List.drop_range', List.length_drop, Nat.mul_one,
      Nat.add_comm 1]
  have above := InMemoryRuntimeStore.filter_cursor_eq_drop session.start numbered
  rw [List.drop_drop, show session.seen.length + (session.start - session.seen.length) =
    max session.start session.seen.length by omega] at above
  rw [← above, List.filter_eq_nil_iff, NoneSince]
  exact forall₂_congr fun _ _ => by simp

/-- The cursors that have been sent are those of the events that have been read. -/
theorem UpToDate.ids {session : Session} (upToDate : session.UpToDate)
    (idle : session.pending = []) : session.sent.filterMap StreamItem.id? =
      (session.seen.drop session.start).map RuntimeEvent.cursor := by
  have sent := upToDate.sent
  rw [idle, List.map_nil, List.append_nil] at sent
  calc session.sent.filterMap StreamItem.id?
    _ = session.sentEvents.filterMap StreamItem.id? := by
      rw [sentEvents, List.filterMap_filter]
      refine List.filterMap_congr fun item _ => ?_
      cases item <;> rfl
    _ = _ := by
      rw [sent, List.filterMap_map, ← List.filterMap_eq_map]
      exact List.filterMap_congr fun event _ => id?_ofEvent ..

theorem Streaming.increasing {session : Session} (streaming : session.Streaming)
    (live : session.phase ≠ .returned none) (idle : session.pending = []) :
    (session.sent.filterMap StreamItem.id?).Pairwise (· < ·) := by
  rw [(streaming.upToDate live).ids idle]
  have read : ((session.seen.drop session.start).map RuntimeEvent.cursor).Sublist
      ((session.store.log session.runId).map RuntimeEvent.cursor) :=
    ((List.drop_sublist ..).trans streaming.seen.sublist).map _
  rw [streaming.logged.numbered] at read
  exact List.Pairwise.sublist read (List.pairwise_lt_range' ..)

end Session

/-- When the stream returns with the status of a completed or cancelled run, it is complete
    exactly if no event above its first cursor was appended since it has read the log. -/
theorem stream_complete {session : Session} (reachable : session.Reachable) {any : Bool}
    (sent : session.phase = .sending [] any) {status : AttackStatus}
    (returns : (session.step .stream).phase = .returned (some status))
    (ended : status = .completed ∨ status = .cancelled) :
    (session.step .stream).Complete status ↔ session.NoneSince := by
  have streaming := reachable.streaming
  have live : session.phase ≠ .returned none := by rw [sent]; nofun
  have idle : session.pending = [] := by rw [Session.pending, sent]
  obtain ⟨run, hr⟩ := Option.isSome_iff_exists.1 streaming.known
  -- The stream has read the status of a run that has ended.
  have step : session.step .stream = { session with phase := .returned (some status) } ∧
      run.status = status := by
    rw [Session.step, Session.stream, sent, InMemoryRuntimeStore.getRun,
      InMemoryRuntimeStore.entry_eq_ok.2 hr] at returns ⊢
    dsimp only at returns ⊢
    split_ifs at returns ⊢ with terminal
    · cases returns
      exact ⟨rfl, rfl⟩
  have read := (streaming.upToDate live).sent
  rw [idle, List.map_nil, List.append_nil] at read
  have missing := Session.drop_append_drop session.start streaming.seen
  rw [step.1, Session.noneSince_iff streaming.logged]
  constructor
  · intro complete
    have all : session.sentEvents = _ := complete.sent
    rw [streaming.logged.filter_cursor, read, ← missing, List.map_append] at all
    exact List.map_eq_nil_iff.1 (List.append_right_eq_self.1 all.symm)
  · intro none
    rw [none, List.append_nil] at missing
    refine ⟨?_, streaming.increasing live idle, ?_⟩
    · change session.sentEvents = _
      rw [streaming.logged.filter_cursor, read, missing]
    · have told := streaming.logged.ended run hr
      rw [step.2] at told
      exact told (by rcases ended with rfl | rfl <;> rfl)

/-! ## Two schedules -/

namespace Session

/-- A session after a sequence of moves. -/
def after (session : Session) (moves : List SessionMove) : Session := moves.foldl step session

/-- All identifiers of new records are new. -/
def AllFresh (session : Session) : List SessionMove → Prop
  | [] => True
  | move :: moves => move.Fresh session.store ∧ AllFresh (session.step move) moves

instance decidableAllFresh : ∀ (session : Session) (moves : List SessionMove),
    Decidable (session.AllFresh moves)
  | _, [] => isTrue trivial
  | session, move :: moves =>
    have := decidableAllFresh (session.step move) moves
    inferInstanceAs (Decidable (_ ∧ _))

theorem Reachable.after {session : Session} (reachable : session.Reachable)
    {moves : List SessionMove} (fresh : session.AllFresh moves) :
    (session.after moves).Reachable := by
  induction moves generalizing session with
  | nil => exact reachable
  | cons move moves ih => exact ih (reachable.step move fresh.1) fresh.2

/-- A stream of a new run, from its first event on. -/
def ofNewRun : Session :=
  opened (InMemoryRuntimeStore.apply {} (.createRun "run" {
    jobKey := "job", ruleVersionId := "rules", scenarioVersionId := "refund-points"
    sandboxVersion := "fixed", oracleVersion := "1.0", randomSeed := 0
    budget := { maxSteps := 6, maxTokens := 1000, maxCost := 1, maxTimeSeconds := 60
                steps_pos := by decide, time_pos := by norm_num } })) "run" 0 fun _ => false

theorem reachable_ofNewRun : ofNewRun.Reachable :=
  .opened (.apply _ (by decide +kernel) .empty) _ (by decide +kernel) _ _

end Session

/-- The run is cancelled before the last read of the events. -/
theorem stream_complete_cancelled :
    (Session.step (Session.ofNewRun.after [
      .operation (.compareAndSetStatus "run" .ready .cancelRequested none),
      .operation (.compareAndSetStatus "run" .cancelRequested .cancelled (some .cancelled)),
      .stream, .stream, .stream, .stream]) .stream).Complete .cancelled :=
  have sent : Session.phase (Session.ofNewRun.after [
      .operation (.compareAndSetStatus "run" .ready .cancelRequested none),
      .operation (.compareAndSetStatus "run" .cancelRequested .cancelled (some .cancelled)),
      .stream, .stream, .stream, .stream]) = .sending [] true := by
    decide +kernel
  (stream_complete (Session.reachable_ofNewRun.after (by decide +kernel)) sent
    (by decide +kernel) (.inr rfl)).2 (by decide +kernel)

/-- The run is cancelled between the last read of the events and the read of the status. -/
theorem stream_incomplete : ∃ session : Session, session.Reachable ∧
    (session.step .stream).phase = .returned (some .cancelled) ∧
    ¬ (session.step .stream).Complete .cancelled := by
  refine ⟨Session.ofNewRun.after [
      .operation (.compareAndSetStatus "run" .ready .cancelRequested none),
      .stream, .stream, .stream,
      .operation (.compareAndSetStatus "run" .cancelRequested .cancelled (some .cancelled))],
    Session.reachable_ofNewRun.after (by decide +kernel), by decide +kernel, fun complete => ?_⟩
  exact absurd complete.sent (by decide +kernel)

end RuleArena
