import RuleArena.Sandbox.Runs

/-!
# Rejections and counters

A command that is rejected leaves nothing behind but its receipt. The events of
an epoch are numbered from one without a gap, and the version of the snapshot
is the number of writes that succeeded.
-/

namespace RuleArena

namespace RunSpace

variable {run run' : RunSpace} {command : ActionCommand} {key : String} {now : Nat}
  {outcome : Outcome}

/-! ## Sequence numbers -/

/-- The events of the epoch are numbered one, two, and so on. -/
def Contiguous (run : RunSpace) : Prop :=
  run.epochEvents.map (·.sequence) = List.range' 1 run.epochEvents.length

theorem foldl_max_range' (n : Nat) : (List.range' 1 n).foldl max 0 = n := by
  induction n with
  | zero => rfl
  | succ n ih =>
    rw [List.range'_concat, List.foldl_append, ih]
    simp
    omega

/-- The number of the last event is the number of events. -/
theorem Contiguous.lastSequence (h : run.Contiguous) :
    run.lastSequence = run.epochEvents.length := by
  rw [RunSpace.lastSequence, h, foldl_max_range']

theorem Contiguous.addEvent (h : run.Contiguous) (aggregateType : AggregateType)
    (aggregateId : String) (eventType : BusinessEventType) (payload : List (String × Json))
    (key : String) (now : Nat) :
    (run.addEvent aggregateType aggregateId eventType payload key now).Contiguous := by
  unfold Contiguous
  rw [epochEvents_addEvent, List.map_append, h, List.length_append, List.range'_append_1.symm]
  simp [h.lastSequence, Nat.add_comm]

/-- Numbered events stay so, whatever rows are written. -/
theorem Writes.contiguous (h : Writes run run') (numbered : run.Contiguous) :
    run'.Contiguous := by
  induction h with
  | refl => exact numbered
  | rows _ _ _ _ _ h₅ _ _ h₈ ih =>
    unfold Contiguous epochEvents at ih ⊢
    rwa [h₅, h₈]
  | event _ aggregateType aggregateId eventType payload key now ih => exact ih.addEvent ..

theorem Reachable.contiguous [Python] (h : Reachable run) : run.Contiguous := by
  refine h.induction (fun _ _ => rfl) (fun run hr _ => ?_)
    (fun _ _ _ _ _ _ _ _ h ih => (handler_writes h).contiguous ih) fun _ _ _ ih => ih
  rw [Contiguous, hr.ordered.epochEvents_reset]
  rfl

/-! ## Versions -/

/-- The receipts of the epoch for writes that succeeded. -/
def writeReceipts (run : RunSpace) : List ActionReceiptRecord :=
  run.epochReceipts.filter fun record =>
    record.status = .succeeded ∧ record.actionType ≠ .inspectState

theorem writeReceipts_withReceipt {record : ActionReceiptRecord} (h : record.epoch = run.epoch) :
    (run.withReceipt record).writeReceipts.length = run.writeReceipts.length +
      if record.status = .succeeded ∧ record.actionType ≠ .inspectState then 1 else 0 := by
  rw [writeReceipts, epochReceipts_withReceipt h, List.filter_append, List.length_append]
  split <;> simp_all [writeReceipts]

/-- The version of the snapshot counts the writes that succeeded. -/
theorem Reachable.snapshotVersion_eq [Python] (h : Reachable run) :
    run.snapshotVersion = run.writeReceipts.length := by
  refine h.induct (P := fun run => run.snapshotVersion = run.writeReceipts.length)
    (fun _ _ => rfl) fun run op hr ih => ?_
  cases op with
  | reset =>
    rw [RunSpace.apply, writeReceipts, hr.epochReceipts_reset]
    rfl
  | execute command uuid now =>
    rw [RunSpace.apply]
    rcases execute_cases run command now uuid with e | ⟨record, -, hp, -⟩
    · rw [e]; exact ih
    · rcases perform_ok hp with ⟨-, ⟨r, outcome, hd, rfl, -, e⟩ | ⟨error, -, rfl, e⟩⟩ <;> rw [e]
      · have frame := handler_frame (dispatch_ok hd).1
        rw [writeReceipts_withReceipt frame.epoch.symm]
        have same : (r.versioned command.action).writeReceipts = run.writeReceipts := by
          simp only [writeReceipts, epochReceipts, versioned, frame.receipts, frame.epoch]
        rw [same, ← ih, ← frame.snapshotVersion]
        by_cases hi : command.action = .inspectState <;>
          simp [recordOf, withReceipt, versioned, hi]
      · rw [writeReceipts_withReceipt rfl, ← ih]
        simp [recordOf, withReceipt]

/-! ## Flushes -/

/-- The second run was flushed after an event that the first one does not have. -/
def Logged (run run' : RunSpace) : Prop :=
  run'.Storable ∧ run.epochEvents.length < run'.epochEvents.length

theorem Writes.epochEvents_le (h : Writes run run') :
    run.epochEvents.length ≤ run'.epochEvents.length := by
  unfold epochEvents
  rw [h.frame.epoch]
  exact (h.frame.events.sublist.filter _).length_le

section Logged

open Checked

variable {aggregateType : AggregateType} {aggregateId : String} {eventType : BusinessEventType}
  {payload : List (String × Json)}

/-- An event after updates of rows is logged. -/
theorem Writes.event_logged (h : Writes run run') :
    Yields (Logged run) (run'.event aggregateType aggregateId eventType payload key now) := by
  intro r hr
  obtain ⟨rfl, storable⟩ := event_eq_ok hr
  refine ⟨storable, ?_⟩
  rw [epochEvents_addEvent, List.length_append]
  exact Nat.lt_succ_of_le h.epochEvents_le

/-- An event after another one is logged. -/
theorem Logged.event_logged {r : RunSpace} (h : Logged run r) (w : Writes r run') :
    Yields (Logged run) (run'.event aggregateType aggregateId eventType payload key now) :=
  fun r' hr' => ⟨(w.event_logged r' hr').1, h.2.trans (w.event_logged r' hr').2⟩

theorem Logged.grantPoints {r : RunSpace} (h : Logged run r) (w : Writes r run') {user : TestUser}
    {order : Order} {points : Int} {ledgerKey : String} :
    Yields (Logged run) (run'.grantPoints key now user order points ledgerKey) :=
  h.event_logged (w.trans (.rows .refl))

theorem Logged.refundPoints {r : RunSpace} (h : Logged run r) {user : TestUser} {order : Order}
    {amount : Int} : Yields (Logged run) (r.refundPoints key now user order amount) := by
  unfold RunSpace.refundPoints revokePoints
  refine .ite (.ite (h.grantPoints .refl) (.ite (.pure h) ?_)) (.pure h)
  exact .bind fun _ _ => h.event_logged (.rows .refl)

theorem Logged.restoreCoupon {r : RunSpace} (h : Logged run r) {order : Order} :
    Yields (Logged run) (r.restoreCoupon key now order) := by
  unfold RunSpace.restoreCoupon
  split
  · exact .pure h
  · exact .ite (.bind fun _ _ => h.event_logged (.rows .refl)) (.pure h)

/-- A write that goes through is logged. -/
theorem handler_logged [Python] (write : command.action ≠ .inspectState) :
    Yields (fun p => Logged run p.1) (run.handler command key now) := by
  have own : Writes run run := .refl
  unfold handler
  split
  · unfold createUser
    exact .bind fun _ _ => .bind fun _ _ => .bind fun _ _ => .bind fun _ _ =>
      .next own.rows.event_logged fun _ h => .pure h
  · unfold issueCoupon
    exact .bind fun _ _ => .bind fun _ _ => .bind fun _ _ => .bind fun _ _ => .bind fun _ _ =>
      .bind fun _ _ => .next own.rows.event_logged fun _ h => .pure h
  · unfold createOrder
    exact .bind fun _ _ => .bind fun _ _ => .bind fun _ _ => .bind fun _ _ => .bind fun _ _ =>
      .next own.rows.event_logged fun _ h => .pure h
  · unfold applyCoupon
    exact .bind fun _ _ => .bind fun _ _ => .bind fun _ _ => .bind fun _ _ => .bind fun _ _ =>
      .bind fun _ _ => .bind fun _ _ => .bind fun _ _ => .bind fun _ _ => .bind fun _ _ =>
      .next own.rows.event_logged fun _ h => .pure h
  · unfold payOrder
    refine .bind fun _ _ => .bind fun _ _ => .bind fun _ _ => .bind fun _ _ => .bind fun _ _ =>
      .bind fun _ _ => .bind fun _ _ => .bind fun _ _ => .bind fun r hr => ?_
    refine .next (own.rows.trans (useCoupon_writes hr)).event_logged fun _ h => ?_
    exact .ite (.next (h.grantPoints (.rows .refl)) fun _ h => .pure h) (.pure h)
  · unfold cancelOrder
    refine .bind fun _ _ => .bind fun _ _ => .bind fun _ _ => .bind fun _ _ => .bind fun r hr => ?_
    exact .next (releaseCoupon_writes hr).rows.event_logged fun _ h => .pure h
  · unfold refundOrder
    refine .bind fun _ _ => .bind fun _ _ => .bind fun _ _ => .bind fun _ _ => .bind fun _ _ =>
      .bind fun _ _ => .bind fun _ _ => .bind fun _ _ => ?_
    exact .next own.rows.event_logged fun _ h => .next h.refundPoints fun _ h =>
      .next h.restoreCoupon fun _ h => .pure h
  · unfold redeemPoints
    exact .bind fun _ _ => .bind fun _ _ => .bind fun _ _ => .bind fun _ _ =>
      .next own.rows.event_logged fun _ h => .pure h
  · unfold activateMembership
    refine .bind fun _ _ => .bind fun _ _ => .bind fun _ _ => .bind fun _ _ => .bind fun _ _ =>
      .bind fun _ _ => .bind fun _ _ => ?_
    exact .next own.rows.event_logged fun _ h =>
      .next (h.event_logged .refl) fun _ h => .pure h
  · unfold consumeEntitlement
    exact .bind fun _ _ => .bind fun _ _ => .bind fun _ _ => .bind fun _ _ => .bind fun _ _ =>
      .bind fun _ _ => .next own.rows.event_logged fun _ h => .pure h
  · unfold cancelMembership
    refine .bind fun _ _ => .bind fun _ _ => .bind fun _ _ => .bind fun _ _ => .bind fun _ _ =>
      .bind fun _ _ => .bind fun _ _ => .ite (.bind fun _ _ => .bind fun r hr => ?_)
      (.bind fun r hr => ?_)
    all_goals exact .next (own.rows.trans
      (revokeEntitlement_writes hr)).event_logged fun _ h => .pure h
  · rename_i inspect
    exact absurd inspect write

end Logged

/-- There are at least as many events as writes that succeeded. -/
theorem Reachable.snapshotVersion_le [Python] (h : Reachable run) :
    run.snapshotVersion ≤ run.epochEvents.length := by
  refine h.induct (P := fun run => run.snapshotVersion ≤ run.epochEvents.length)
    (fun _ _ => le_rfl) fun run op hr ih => ?_
  cases op with
  | reset => exact Nat.zero_le _
  | execute command uuid now =>
    rw [RunSpace.apply]
    rcases execute_cases run command now uuid with e | ⟨record, -, hp, -⟩
    · rw [e]; exact ih
    · rcases perform_ok hp with ⟨-, ⟨r, outcome, hd, rfl, -, e⟩ | ⟨error, -, rfl, e⟩⟩ <;> rw [e]
      · have handled := (dispatch_ok hd).1
        have same := (handler_frame handled).snapshotVersion
        change (r.versioned command.action).snapshotVersion ≤ r.epochEvents.length
        unfold versioned
        split_ifs with inspect
        · exact (same.le.trans ih).trans (handler_writes handled).epochEvents_le
        · exact Nat.succ_le_of_lt ((same.le.trans ih).trans_lt (handler_logged inspect _ handled).2)
      · exact ih

/-! ## Rejections -/

/-- A command that is rejected leaves the run as it is, but for its receipt. -/
theorem execute_rejected [Python] (run : RunSpace) (command : ActionCommand) (now : Nat)
    (uuid : String) {record : ActionReceiptRecord}
    (added : record ∈ (run.execute command now uuid).1.receipts) (new : record ∉ run.receipts)
    (rejected : record.status = .rejected) :
    (run.execute command now uuid).1 = run.withReceipt record := by
  rcases execute_cases run command now uuid with e | ⟨committed, -, hp, -⟩
  · exact absurd (e ▸ added) new
  · rcases perform_ok hp with ⟨-, ⟨r, outcome, hd, rfl, -, e⟩ | ⟨error, -, rfl, e⟩⟩ <;>
      rw [e] at added ⊢ <;> rcases List.mem_append.1 added with hm | hm
    · exact absurd ((handler_frame (dispatch_ok hd).1).receipts ▸ hm) new
    · -- The receipt of a handler that went through says so.
      rw [List.mem_singleton.1 hm] at rejected
      cases rejected
    · exact absurd hm new
    · rw [List.mem_singleton.1 hm]

/-- Whatever has happened to a run: a command of which a rejection is recorded has
    changed nothing else; the events of the epoch are numbered from one without a
    gap, and the version of the snapshot is the number of the writes of the epoch
    that succeeded. -/
theorem rejections_and_counters [Python] (request : CreateRunRequest) (id : String)
    (history : List Op) :
    let run := (createRun request id).after history
    (∀ (command : ActionCommand) (now : Nat) (uuid : String) (record : ActionReceiptRecord),
      record ∈ (run.execute command now uuid).1.receipts → record ∉ run.receipts →
      record.status = .rejected →
        (run.execute command now uuid).1 = { run with receipts := run.receipts ++ [record] }) ∧
    run.epochEvents.map (·.sequence) = List.range' 1 run.epochEvents.length ∧
    run.snapshotVersion = run.writeReceipts.length := by
  intro run
  have reachable : Reachable run := ⟨request, id, history, rfl⟩
  exact ⟨fun command now uuid record added new rejected =>
    execute_rejected run command now uuid added new rejected, reachable.contiguous,
    reachable.snapshotVersion_eq⟩

end RunSpace

end RuleArena
