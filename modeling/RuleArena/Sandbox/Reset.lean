import RuleArena.Sandbox.Alike

/-!
# Resets

A run that is reset is as good as new: whatever happened to it before, the
commands after the reset are answered as on a fresh run, and lead to the same
snapshots, events and receipts (`reset_fresh`).

The runs differ in their identifier, their epoch and the times of their steps,
which are all that the replies of the two runs can be told apart by. An
identifier that is drawn at random for an inspection is drawn alike in both.
-/

namespace RuleArena

def ActionReceiptRecord.unlabelled (record : ActionReceiptRecord) : ActionReceiptRecord :=
  { record with epoch := 0, result := unlabelledResult record.result, occurredAt := 0 }

def ActionReceipt.unlabelled (receipt : ActionReceipt) : ActionReceipt :=
  { receipt with runId := "", result := unlabelledResult receipt.result, occurredAt := 0 }

def Reply.unlabelled : Reply → Reply
  | .receipt r => .receipt r.unlabelled
  | .ackLost r => .ackLost r.unlabelled
  | .error e => .error e
  | .crash c => .crash c

/-- The same operation, at a time of its own. -/
inductive Op.Retimed : Op → Op → Prop
  | execute (command : ActionCommand) (uuid : String) (now now' : Nat) :
      Retimed (.execute command uuid now) (.execute command uuid now')
  | reset : Retimed .reset .reset

namespace RunSpace

/-- Two runs that differ in labels only. -/
structure Alike (a b : RunSpace) : Prop where
  bare : a.bare = b.bare
  receipts : a.epochReceipts.map ActionReceiptRecord.unlabelled =
    b.epochReceipts.map ActionReceiptRecord.unlabelled

variable {a b run : RunSpace} {command : ActionCommand} {key : String} {now now' : Nat}

theorem Alike.profile (h : Alike a b) : a.profile = b.profile := by
  have same : a.bare.profile = b.bare.profile := by rw [h.bare]
  exact same

/-- A receipt is found in both runs or in neither. -/
theorem Alike.existing (h : Alike a b) (action : ActionName) (key : String) :
    (a.existing action key).map ActionReceiptRecord.unlabelled =
      (b.existing action key).map ActionReceiptRecord.unlabelled := by
  have found (run : RunSpace) : (run.existing action key).map ActionReceiptRecord.unlabelled =
      (run.epochReceipts.map ActionReceiptRecord.unlabelled).find? fun record =>
        record.actionType = action ∧ record.idempotencyKey = key := by
    rw [List.find?_map]
    rfl
  rw [found, found, h.receipts]

theorem unlabelled_recordOf {outcome outcome' : Outcome}
    (h : outcome.unlabelled = outcome'.unlabelled) :
    (a.recordOf command key now (.ok outcome)).unlabelled =
      (b.recordOf command key now' (.ok outcome')).unlabelled := by
  simp only [Outcome.unlabelled, Outcome.mk.injEq] at h
  simp [recordOf, ActionReceiptRecord.unlabelled, h.1, h.2]

theorem Alike.acknowledge (h : Alike a b) {record record' : ActionReceiptRecord}
    (same : record.unlabelled = record'.unlabelled) :
    (a.acknowledge command record).unlabelled = (b.acknowledge command record').unlabelled := by
  have receipt : (record.toReceipt a.id).unlabelled = (record'.toReceipt b.id).unlabelled := by
    simp only [ActionReceiptRecord.unlabelled, ActionReceiptRecord.mk.injEq] at same
    simp [ActionReceiptRecord.toReceipt, ActionReceipt.unlabelled, same]
  unfold RunSpace.acknowledge
  rw [h.profile]
  split <;> simp [Reply.unlabelled, receipt]

theorem Alike.withReceipt (h : Alike a b) {record record' : ActionReceiptRecord}
    (epoch : record.epoch = a.epoch) (epoch' : record'.epoch = b.epoch)
    (same : record.unlabelled = record'.unlabelled) :
    Alike (a.withReceipt record) (b.withReceipt record') where
  bare := h.bare
  receipts := by
    rw [epochReceipts_withReceipt epoch, epochReceipts_withReceipt epoch', List.map_append,
      List.map_append, h.receipts, List.map_singleton, List.map_singleton, same]

/-- A receipt comes back under the keys of the receipts of the epoch. -/
theorem getReceipt_hit (key : String) : (∃ receipt, run.getReceipt key = .ok receipt) ↔
    Char.ofNat 0 ∉ key.toList ∧ ∃ record ∈ run.epochReceipts, record.idempotencyKey = key := by
  have sorted := List.perm_insertionSort
    (fun a b : ActionReceiptRecord => a.occurredAt ≤ b.occurredAt)
    (run.epochReceipts.filter (·.idempotencyKey = key))
  simp only [getReceipt, queryText, Checked.bind_eq_ok, Checked.ensure_eq_ok, exists_const]
  split
  · rename_i record rest e
    have hm := sorted.mem_iff.1 (e ▸ List.mem_cons_self)
    simp only [List.mem_filter, decide_eq_true_eq] at hm
    simp
    exact fun _ => ⟨record, hm⟩
  · rename_i e
    rw [e] at sorted
    have empty := List.nil_perm.1 sorted
    rw [List.filter_eq_nil_iff] at empty
    simp at empty ⊢
    exact fun _ => empty

theorem EventsOrdered.bare_reset (h : run.EventsOrdered) :
    run.reset.bare =
      { id := "", scenarioType := run.scenarioType, sandboxVersion := run.sandboxVersion,
        defectAxes := run.defectAxes, epoch := 0, snapshotVersion := 0, user := none, coupons := [],
        orders := [], refunds := [], ledger := [], memberships := [], entitlements := [],
        events := [], receipts := [] } := by
  unfold RunSpace.bare
  rw [h.epochEvents_reset]
  rfl

variable [Python]

/-- The savepoints of two runs that are the same when bare come out the same. -/
theorem savepoint_alike (past : a.Past) (past' : b.Past) (bare : a.bare = b.bare) :
    Checked.Related (fun p q => p.1.bare = q.1.bare ∧ p.2.unlabelled = q.2.unlabelled)
      (a.savepoint command key now) (b.savepoint command key now') := by
  refine ((savepoint_bare past).join (bare ▸ savepoint_bare past')).mono ?_
  rintro p q ⟨c, ⟨⟨hp, -⟩, op⟩, ⟨hq, -⟩, oq⟩
  exact ⟨hp.symm.trans hq, op.symm.trans oq⟩

theorem epochReceipts_savepoint {r : RunSpace} {outcome : Outcome}
    (h : run.savepoint command key now = .ok (r, outcome)) :
    r.epoch = run.epoch ∧ r.epochReceipts = run.epochReceipts := by
  obtain ⟨-, r₀, hd, rfl⟩ := savepoint_ok h
  have frame := handler_frame (dispatch_ok hd).1
  exact ⟨frame.epoch, by rw [epochReceipts, epochReceipts, versioned, frame.receipts, frame.epoch]⟩

/-- A command is answered alike, and leaves the runs alike. -/
theorem execute_alike (storable : a.Storable) (storable' : b.Storable) (h : Alike a b)
    (command : ActionCommand) (now now' : Nat) (uuid : String) :
    Alike (a.execute command now uuid).1 (b.execute command now' uuid).1 ∧
      (a.execute command now uuid).2.unlabelled = (b.execute command now' uuid).2.unlabelled := by
  have existing := h.existing command.action (effectiveKey command uuid)
  unfold execute
  split
  · exact ⟨h, rfl⟩
  simp only
  split
  · exact ⟨h, rfl⟩
  cases ha : a.existing command.action (effectiveKey command uuid) with
  | some record =>
    obtain ⟨record', hb, same⟩ : ∃ record', b.existing command.action (effectiveKey command uuid) =
        some record' ∧ record.unlabelled = record'.unlabelled := by
      rw [ha] at existing
      obtain ⟨record', hb, e⟩ := Option.map_eq_some_iff.1 existing.symm
      exact ⟨record', hb, e.symm⟩
    rw [hb]
    exact ⟨h, h.acknowledge same⟩
  | none =>
    have hb : b.existing command.action (effectiveKey command uuid) = none := by
      rw [ha] at existing
      exact Option.map_eq_none_iff.1 existing.symm
    rw [hb]
    simp only [perform_eq storable ha, perform_eq storable' hb]
    generalize hx : a.savepoint command (effectiveKey command uuid) now = x
    generalize hy : b.savepoint command (effectiveKey command uuid) now' = y
    cases hx ▸ hy ▸ savepoint_alike storable.past storable'.past h.bare with
    | ok same =>
      rename_i p q
      obtain ⟨epoch, receipts⟩ := epochReceipts_savepoint hx
      obtain ⟨epoch', receipts'⟩ := epochReceipts_savepoint hy
      have left : Alike p.1 q.1 := ⟨same.1, by rw [receipts, receipts', h.receipts]⟩
      exact ⟨left.withReceipt epoch.symm epoch'.symm (unlabelled_recordOf same.2),
        h.acknowledge (unlabelled_recordOf same.2)⟩
    | error fault =>
      cases fault with
      | domain error => exact ⟨h.withReceipt rfl rfl rfl, h.acknowledge rfl⟩
      | crash crash => exact ⟨h, rfl⟩

/-! ## What runs show -/

/-- What can be read of two runs is the same up to labels. -/
structure Indistinct (a b : RunSpace) : Prop where
  state : a.stateJson = b.stateJson
  stateHash : a.stateHash = b.stateHash
  snapshotVersion : a.snapshotVersion = b.snapshotVersion
  events : a.getEvents.map Json.unlabelled = b.getEvents.map Json.unlabelled
  receipts : a.epochReceipts.map ActionReceiptRecord.unlabelled =
    b.epochReceipts.map ActionReceiptRecord.unlabelled
  getReceipt : ∀ key, (∃ receipt, a.getReceipt key = .ok receipt) ↔
    ∃ receipt, b.getReceipt key = .ok receipt

/-- The events of a run show what those of the bare run do. -/
theorem getEvents_bare (run : RunSpace) :
    run.getEvents.map Json.unlabelled = run.bare.getEvents.map Json.unlabelled := by
  rw [getEvents, getEvents, epochEvents_bare, bare_events,
    ← List.map_insertionSort (fun a b => a.sequence ≤ b.sequence)
      (fun a b : BusinessEvent => a.sequence ≤ b.sequence) BusinessEvent.unlabelled _
      fun _ _ _ _ => Iff.rfl, List.map_map, List.map_map, List.map_map]
  rfl

theorem Alike.indistinct (h : Alike a b) : Indistinct a b where
  state := congrArg (fun run => run.stateJson) h.bare
  stateHash := congrArg (fun run => run.stateHash) h.bare
  snapshotVersion := congrArg (fun run => run.snapshotVersion) h.bare
  events := by rw [getEvents_bare a, getEvents_bare b, h.bare]
  receipts := h.receipts
  getReceipt key := by
    have keys (run : RunSpace) : (∃ record ∈ run.epochReceipts, record.idempotencyKey = key) ↔
        ∃ record ∈ run.epochReceipts.map ActionReceiptRecord.unlabelled,
          record.idempotencyKey = key := by
      simp [ActionReceiptRecord.unlabelled]
    rw [getReceipt_hit, getReceipt_hit, keys, keys, h.receipts]

/-! ## A reset run and a fresh one -/

/-- What an operation does to a run is gone after a reset. -/
theorem bare_reset_apply (h : Reachable run) (op : Op) :
    (run.apply op).reset.bare = run.reset.bare := by
  rw [(h.apply op).ordered.bare_reset, h.ordered.bare_reset]
  cases op with
  | reset => rfl
  | execute command uuid now =>
    rw [RunSpace.apply]
    rcases execute_cases run command now uuid with e | ⟨record, -, hp, -⟩
    · rw [e]
    · rcases perform_ok hp with ⟨-, ⟨r, outcome, hd, -, -, e⟩ | ⟨error, -, -, e⟩⟩ <;> rw [e]
      · have frame := handler_frame (dispatch_ok hd).1
        simp [RunSpace.withReceipt, versioned, frame.scenarioType, frame.sandboxVersion,
          frame.defectAxes]
      · rfl

theorem bare_reset_after (h : Reachable run) (history : List Op) :
    (run.after history).reset.bare = run.reset.bare := by
  induction history using List.reverseRecOn with
  | nil => rfl
  | append_singleton history op ih => rw [after_concat, bare_reset_apply (h.after history), ih]

/-- A reset run is alike a fresh one. -/
theorem reset_alike (request : CreateRunRequest) (id id' : String) (history : List Op) :
    Alike ((createRun request id).after history).reset (createRun request id') := by
  have fresh : Reachable (createRun request id) := ⟨request, id, [], rfl⟩
  constructor
  · rw [bare_reset_after fresh]
    rfl
  · rw [(fresh.after history).epochReceipts_reset]
    rfl

theorem Alike.reset (ha : Reachable a) (hb : Reachable b) (h : Alike a b) :
    Alike a.reset b.reset := by
  constructor
  · have declared (run : RunSpace) : run.bare.scenarioType = run.scenarioType ∧
        run.bare.sandboxVersion = run.sandboxVersion ∧ run.bare.defectAxes = run.defectAxes :=
      ⟨rfl, rfl, rfl⟩
    have ha' := declared a
    rw [h.bare] at ha'
    rw [ha.ordered.bare_reset, hb.ordered.bare_reset, ← ha'.1, ← ha'.2.1, ← ha'.2.2]
    rfl
  · rw [ha.epochReceipts_reset, hb.epochReceipts_reset]

/-! ## Sequences of commands -/

/-- What an operation is answered, for a command. -/
def replyTo (run : RunSpace) : Op → Option Reply
  | .execute command uuid now => some (run.execute command now uuid).2
  | .reset => none

/-- The replies to a sequence of operations, one after the other. -/
def replies (run : RunSpace) : List Op → List (Option Reply)
  | [] => []
  | op :: ops => run.replyTo op :: (run.apply op).replies ops

/-- One operation on two runs that are alike. -/
theorem Alike.apply (ha : Reachable a) (hb : Reachable b) (h : Alike a b) {op op' : Op}
    (same : op.Retimed op') :
    Alike (a.apply op) (b.apply op') ∧
      (a.replyTo op).map Reply.unlabelled = (b.replyTo op').map Reply.unlabelled := by
  cases same with
  | execute command uuid now now' =>
    have step := execute_alike ha.storable hb.storable h command now now' uuid
    exact ⟨step.1, congrArg some step.2⟩
  | reset => exact ⟨h.reset ha hb, rfl⟩

/-- A sequence of operations on two runs that are alike. -/
theorem Alike.after (ha : Reachable a) (hb : Reachable b) (h : Alike a b) {ops ops' : List Op}
    (same : List.Forall₂ Op.Retimed ops ops') :
    Alike (a.after ops) (b.after ops') ∧
      (a.replies ops).map (Option.map Reply.unlabelled) =
        (b.replies ops').map (Option.map Reply.unlabelled) := by
  induction same generalizing a b with
  | nil => exact ⟨h, rfl⟩
  | cons first rest ih =>
    obtain ⟨alike, reply⟩ := h.apply ha hb first
    obtain ⟨alike', rest⟩ := ih (ha.apply _) (hb.apply _) alike
    refine ⟨alike', ?_⟩
    rw [replies, replies, List.map_cons, List.map_cons, reply, rest]

/-- Whatever has happened to a run: after a reset, a sequence of commands is
    answered step by step as on a fresh run of the same scenario and profile, and
    then the runs show the same snapshot, events and receipts, up to the
    identifier of the run and the times of the steps. -/
theorem reset_fresh (request : CreateRunRequest) (id id' : String) (history : List Op)
    {commands commands' : List Op} (same : List.Forall₂ Op.Retimed commands commands') :
    let reused := ((createRun request id).after history).reset
    let fresh := createRun request id'
    (reused.replies commands).map (Option.map Reply.unlabelled) =
        (fresh.replies commands').map (Option.map Reply.unlabelled) ∧
      Indistinct (reused.after commands) (fresh.after commands') := by
  intro reused fresh
  have hf : Reachable fresh := ⟨request, id', [], rfl⟩
  have hr : Reachable reused :=
    ⟨request, id, history ++ [.reset], by rw [after_append]; rfl⟩
  obtain ⟨alike, replies⟩ := (reset_alike request id id' history).after hr hf same
  exact ⟨replies, alike.indistinct⟩

end RunSpace

/-! ## The same keys once more -/

/-- The rule at work: after a reset the keys of the first history serve again. -/
theorem reset_fresh_paid :
    let _ := Python.transparent
    let request : CreateRunRequest := { scenarioType := .promotion }
    let reused := ((createRun request "first").after paidHistory).reset
    RunSpace.Indistinct (reused.after paidHistory)
      ((createRun request "second").after
        [.execute createUserCommand "" 11, .execute createOrderCommand "" 12,
          .execute payOrderCommand "" 13]) := by
  intro _
  have same : List.Forall₂ Op.Retimed paidHistory
      [.execute createUserCommand "" 11, .execute createOrderCommand "" 12,
        .execute payOrderCommand "" 13] :=
    .cons (.execute ..) (.cons (.execute ..) (.cons (.execute ..) .nil))
  generalize paidHistory = history at same ⊢
  exact (RunSpace.reset_fresh { scenarioType := .promotion } "first" "second" history same).2

end RuleArena
